import Mathlib
import LiteRTLM.Core.SessionBasic.Delivery

/-!
Contract: a cancellation of a `SessionBasic` stops the decode jobs until the next call begins,
if the worker does not stand between the two accesses of the stream's callback to the flag.

Owns: the decode steps that are left to the worker, the steps of a cancelled session, and what
a run of them may still decode and stream.

Does not own: the responses that cancelled jobs end with; the jobs of `RunTextScoring`, which
never look at the flag; and cancellations that fall into the begin of a call, which reads and
resets the flag in one step here: in the source they are lost between its read and its last
reset, of which `GenerateContentStream` has two. `GenerateContent` begins two calls, so the
second one resets the flag.
-/

namespace LiteRTLM.Core.SessionBasic

open LiteRTLM.Components LiteRTLM.Engine LiteRTLM.Executor LiteRTLM.Library LiteRTLM.Framework
open LiteRTLM.Util LiteRTLM.Core.Tasks

variable {Input Executor Environment Scalar ConstraintState Score : Type}

/-! ## What a cancelled session may still do -/

/-- The decode steps that the worker is in. -/
def Worker.stepsLeft :
    Worker Input Executor Environment Scalar ConstraintState Score → Nat
  | .inStep _ _ => 1
  | _ => 0

/-- Whether the callback of a stream has found that the flag is not set, and has not reset it. -/
def Worker.isClearing :
    Worker Input Executor Environment Scalar ConstraintState Score → Bool
  | .clearingCancelled _ _ _ => true
  | _ => false

def SessionAction.isBegin : SessionAction Input Environment ConstraintState Score → Bool
  | .begin _ => true
  | _ => false

/-- Whether a decode job decodes a token. The decodes of a `RunTextScoring` do not count. -/
def SessionAction.isStep : SessionAction Input Environment ConstraintState Score → Bool
  | .runOneStep => true
  | _ => false

/-- The responses of decodes that went on. -/
def JobEffects.streamed (effects : JobEffects Executor Score) : List (CallResponse Score) :=
  effects.callbacks.filter fun invocation => !isLast invocation.2

/-- A cancelled session whose flag the worker is not about to reset. -/
structure Session.Cancelled
    (session : Session Input Executor Environment Scalar ConstraintState Score) : Prop where
  flag : session.cancelled = true
  notClearing : session.worker.isClearing = false

/-- What a step of a cancelled session keeps, if it runs so many decode steps. -/
structure Session.StaysCancelled
    (session next : Session Input Executor Environment Scalar ConstraintState Score)
    (steps : Nat) : Prop where
  cancelled : next.Cancelled
  stepsLeft : next.worker.stepsLeft + steps ≤ session.worker.stepsLeft
  streamed : next.effects.streamed.length ≤ session.effects.streamed.length + steps

/-- The end of a job streams nothing. -/
theorem JobEffects.Settles.streamed {call : CallId} {awaited : Bool}
    {effects after : JobEffects Executor Score} (settles : effects.Settles call awaited after) :
    after.streamed = effects.streamed := by
  cases settles with
  | result response isAwaited results callbacks dropped =>
    rw [JobEffects.streamed, callbacks, JobEffects.streamed]
  | last response isStream ends callbacks results dropped =>
    rw [JobEffects.streamed, callbacks, List.filter_append, JobEffects.streamed,
      List.filter_cons_of_neg (by simp [ends]), List.filter_nil, List.append_nil]
  | dropped isStream dropped callbacks results =>
    rw [JobEffects.streamed, callbacks, JobEffects.streamed]

section Steps

variable [Bot Scalar]
  {parameters : SessionParameters Input Executor Environment Scalar ConstraintState Score}
  {session next : Session Input Executor Environment Scalar ConstraintState Score}

/-- A decode step streams at most one response. -/
theorem decodeStep_streamed_length
    {parameters : DecodeParameters Executor Environment Scalar ConstraintState Score}
    {maxNumTokens : Nat} {environment : StepEnvironment Environment Score} {stops : Bool}
    {before after : DecodeState Executor Scalar ConstraintState Score}
    (stepped : decodeStep parameters maxNumTokens environment before = .ok stops after) :
    (after.callbackResponses.drop before.callbackResponses.length).length ≤ 1 := by
  obtain ⟨-, allDone, between, runs, rfl, -⟩ := succeeds_decodeStep.mp stepped
  have kept := run_callbackResponses parameters environment before
  rw [Keeps, finalState, show run parameters environment before = _ from runs] at kept
  rw [← show between.callbackResponses = before.callbackResponses from kept]
  simp only [report]
  split
  · rw [List.drop_left]
    exact le_refl _
  · rw [List.drop_length]
    exact Nat.zero_le _

omit [Bot Scalar] in
/-- The end of a job in a cancelled session. -/
theorem Session.Cancelled.ends (held : session.Cancelled) {call : CallId} {awaited : Bool}
    {effects : JobEffects Executor Score}
    (settles : session.effects.Settles call awaited effects) {steps : Nat}
    (steps_le : steps ≤ session.worker.stepsLeft) :
    session.StaysCancelled (session.returnJob effects) steps where
  cancelled := ⟨held.flag, rfl⟩
  stepsLeft := (Nat.zero_add steps).symm ▸ steps_le
  streamed := by
    change effects.streamed.length ≤ _
    rw [settles.streamed]
    exact Nat.le_add_right _ _

omit [Bot Scalar] in
theorem Session.Cancelled.endDecode (held : session.Cancelled)
    (run : DecodeRun Executor Environment Scalar ConstraintState Score) (executor : Executor)
    {response : StatusOr (Responses Score)} (last : isLast response = true) {steps : Nat}
    (steps_le : steps ≤ session.worker.stepsLeft) :
    session.StaysCancelled (session.endDecode run executor response) steps := by
  have settles : session.effects.Settles run.call
      (Job.decode run.call run.constraint run.after : Job Input ConstraintState).isAwaited
      (session.effects.endDecode run.call run.after executor response) :=
    session.effects.endDecode_settles run.call run.constraint run.after executor last
  exact held.ends settles steps_le

omit [Bot Scalar] in
/-- A step that leaves the flag and the callbacks alone. -/
theorem Session.Cancelled.keeps (held : session.Cancelled)
    (flag : next.cancelled = session.cancelled) (notClearing : next.worker.isClearing = false)
    (stepsLeft : next.worker.stepsLeft ≤ session.worker.stepsLeft)
    (callbacks : next.effects.callbacks = session.effects.callbacks) :
    session.StaysCancelled next 0 where
  cancelled := ⟨flag.trans held.flag, notClearing⟩
  stepsLeft := stepsLeft
  streamed := by rw [JobEffects.streamed, callbacks, JobEffects.streamed, Nat.add_zero]

omit [Bot Scalar] in
/-- The callback of a stream whose prefill was OK finds the flag. -/
theorem Session.Cancelled.prefill (held : session.Cancelled) {environment : Environment}
    (ran : session.prefill parameters environment = some next) :
    session.StaysCancelled next 0 := by
  unfold Session.prefill at ran
  split at ran
  next call contents after starting =>
    cases prefilled : session.effects.prefill parameters call contents after environment with
    | mk effects goesOn =>
      simp only [prefilled] at ran
      rcases JobEffects.prefill_cases parameters session.effects call contents after environment
          prefilled with
        ⟨rfl, ⟨constraint, rfl⟩, executor, lastPrefillTokenId, rfl⟩ | ⟨rfl, -, settles⟩
      · cases ran
        exact held.keeps rfl rfl (Nat.zero_le _) rfl
      · cases after <;> cases ran <;> exact held.ends settles (Nat.zero_le _)
  · cases ran

omit [Bot Scalar] in
theorem Session.Cancelled.loadCancelled (held : session.Cancelled)
    (ran : session.loadCancelled = some next) : session.StaysCancelled next 0 := by
  unfold Session.loadCancelled at ran
  split at ran
  next call contents constraint loading =>
    rw [if_pos held.flag] at ran
    cases ran
    exact held.ends (session.effects.cancelStream_settles call) (Nat.zero_le _)
  · cases ran

omit [Bot Scalar] in
theorem Session.Cancelled.scheduleDecode (held : session.Cancelled)
    {workerThread : StatusOr Unit} (ran : session.scheduleDecode workerThread = some next) :
    session.StaysCancelled next 0 := by
  unfold Session.scheduleDecode at ran
  split at ran
  next call contents constraint scheduling =>
    simp only at ran
    split at ran
    · cases ran
      exact held.ends (session.effects.dropCallback_settles call) (Nat.zero_le _)
    · cases ran
      exact held.keeps rfl rfl (Nat.zero_le _) rfl
  · cases ran

omit [Bot Scalar] in
theorem Session.Cancelled.startDecode (held : session.Cancelled) {idsBuffer : StatusOr Unit}
    (ran : session.startDecode parameters idsBuffer = some next) :
    session.StaysCancelled next 0 := by
  unfold Session.startDecode at ran
  split at ran
  next call constraint after starting =>
    split at ran
    next status refused =>
      cases ran
      have settles : session.effects.Settles call
          (Job.decode call constraint after : Job Input ConstraintState).isAwaited
          (session.effects.refuseDecode call after status) :=
        session.effects.refuseDecode_settles call constraint after status
      exact held.ends settles (Nat.zero_le _)
    · cases ran
      exact held.keeps rfl rfl (Nat.zero_le _) rfl
  · cases ran

omit [Bot Scalar] in
/-- A decode that polls finds the flag. -/
theorem Session.Cancelled.poll (held : session.Cancelled)
    {environment : StepEnvironment Environment Score}
    (ran : session.poll environment = some next) : session.StaysCancelled next 0 := by
  unfold Session.poll at ran
  split at ran
  next run polling =>
    rw [if_pos held.flag] at ran
    cases ran
    exact held.endDecode run run.state.executor rfl (Nat.zero_le _)
  · cases ran

theorem Session.Cancelled.runOneStep (held : session.Cancelled)
    (ran : session.runOneStep parameters = some next) : session.StaysCancelled next 1 := by
  unfold Session.runOneStep at ran
  split at ran
  next run environment stepping =>
    have oneLeft : session.worker.stepsLeft = 1 := by
      rw [stepping]
      rfl
    simp only at ran
    split at ran
    next status state failed =>
      cases ran
      exact held.endDecode run state.executor rfl oneLeft.ge
    next stops state stepped =>
      cases ran
      refine ⟨⟨held.flag, ?_⟩, ?_, ?_⟩
      · cases stops <;> rfl
      · rw [oneLeft]
        cases stops <;> exact le_refl _
      · simp only [JobEffects.streamed, JobEffects.stream, List.filter_append,
          List.length_append]
        refine Nat.add_le_add_left ((List.length_filter_le _ _).trans ?_) _
        rw [List.length_map]
        exact decodeStep_streamed_length stepped
  · cases ran

omit [Bot Scalar] in
theorem Session.Cancelled.finishDecode (held : session.Cancelled) {finalEnvironment : Environment}
    (ran : session.finishDecode parameters finalEnvironment = some next) :
    session.StaysCancelled next 0 := by
  unfold Session.finishDecode at ran
  split at ran
  next run leaving =>
    split at ran
    next status state failed =>
      cases ran
      exact held.endDecode run state.executor rfl (Nat.zero_le _)
    next value state prefilled =>
      cases ran
      refine held.endDecode run state.executor ?_ (Nat.zero_le _)
      exact finalResponses_isTaskEndState _ _ _
  · cases ran

/-- Every step but the begin of a call leaves a cancelled session cancelled. -/
theorem Session.Cancelled.step (held : session.Cancelled)
    {action : SessionAction Input Environment ConstraintState Score}
    (noCall : action.isBegin = false) (stepped : session.step parameters action = some next) :
    session.StaysCancelled next (if action.isStep then 1 else 0) := by
  cases action with
  | begin request => cases noCall
  | schedule call workerThread =>
    obtain ⟨job, -, -, ⟨status, -, rfl⟩ | ⟨pool, -, rfl⟩⟩ := Session.schedule_cases stepped
    · exact held.keeps rfl held.notClearing (le_refl _) rfl
    · exact held.keeps rfl held.notClearing (le_refl _) rfl
  | endWait call =>
    obtain ⟨initialResult, -, rfl⟩ := Session.endWait_some stepped
    exact held.keeps rfl held.notClearing (le_refl _) rfl
  | cancelProcess =>
    cases stepped
    exact held.keeps held.flag.symm held.notClearing (le_refl _) rfl
  | stopPool =>
    cases stepped
    exact held.keeps rfl held.notClearing (le_refl _) rfl
  | takeTask =>
    simp only [Session.step, Session.takeTask] at stepped
    split at stepped
    · obtain ⟨taken, -, rfl⟩ := Option.map_eq_some_iff.mp stepped
      exact held.keeps rfl rfl (Nat.zero_le _) rfl
    · cases stepped
  | prefill environment => exact held.prefill stepped
  | loadCancelled => exact held.loadCancelled stepped
  | clearCancelled =>
    simp only [Session.step, Session.clearCancelled] at stepped
    split at stepped
    next call contents constraint clearing =>
      have notClearing := held.notClearing
      rw [clearing] at notClearing
      cases notClearing
    · cases stepped
  | scheduleDecode workerThread => exact held.scheduleDecode stepped
  | startDecode idsBuffer => exact held.startDecode stepped
  | poll environment => exact held.poll stepped
  | runOneStep => exact held.runOneStep stepped
  | finishDecode finalEnvironment => exact held.finishDecode stepped
  | score environment idsBuffer =>
    simp only [Session.step, Session.score] at stepped
    split at stepped
    next call targetText storeTokenLengths starting =>
      cases stepped
      exact held.ends (session.effects.score_settles parameters call targetText
        storeTokenLengths environment idsBuffer) (Nat.zero_le _)
    · cases stepped
  | completeTask =>
    simp only [Session.step, Session.completeTask] at stepped
    split at stepped
    · cases stepped
      exact held.keeps rfl rfl (Nat.zero_le _) rfl
    · cases stepped

/-- The steps of a run of a cancelled session add up. -/
theorem Session.Cancelled.execute (held : session.Cancelled)
    {actions : List (SessionAction Input Environment ConstraintState Score)}
    (noCalls : ∀ action ∈ actions, action.isBegin = false)
    (ran : (Session.machine parameters).execute session actions = some next) :
    session.StaysCancelled next (actions.countP SessionAction.isStep) := by
  induction actions generalizing session with
  | nil =>
    cases ran
    exact ⟨held, le_refl _, le_refl _⟩
  | cons action rest inductionHypothesis =>
    rw [Machine.execute] at ran
    cases stepped : (Session.machine parameters).step session action with
    | none =>
      rw [stepped] at ran
      cases ran
    | some between =>
      rw [stepped] at ran
      have first := held.step (noCalls action List.mem_cons_self) stepped
      have others := inductionHypothesis first.cancelled
        (fun other member => noCalls other (List.mem_cons_of_mem _ member)) ran
      have counted : (action :: rest).countP SessionAction.isStep =
          rest.countP SessionAction.isStep + if action.isStep then 1 else 0 :=
        List.countP_cons
      refine ⟨others.cancelled, ?_, ?_⟩
      · have firstSteps := first.stepsLeft
        have otherSteps := others.stepsLeft
        omega
      · have firstStreamed := first.streamed
        have otherStreamed := others.streamed
        omega

end Steps

/-! ## Cancelled turns -/

/-- **Cancellations hold.** Behind `CancelProcess`, and until a call begins, the decode jobs at
most end the decode step that the worker is in, at most that step is streamed, and the flag stays
set: only a worker between the two accesses of the stream's callback to the flag would reset
it. -/
theorem cancelProcess_stopsDecoding [Bot Scalar]
    (parameters : SessionParameters Input Executor Environment Scalar ConstraintState Score)
    {session next : Session Input Executor Environment Scalar ConstraintState Score}
    {actions : List (SessionAction Input Environment ConstraintState Score)}
    (notClearing : session.worker.isClearing = false)
    (noCalls : ∀ action ∈ actions, action.isBegin = false)
    (ran : (Session.machine parameters).execute session (.cancelProcess :: actions) =
      some next) :
    next.cancelled = true ∧
      actions.countP SessionAction.isStep ≤ session.worker.stepsLeft ∧
      next.effects.streamed.length ≤
        session.effects.streamed.length + session.worker.stepsLeft := by
  have held : Session.Cancelled { session with cancelled := true } := ⟨rfl, notClearing⟩
  have stays := held.execute noCalls ran
  have steps : next.worker.stepsLeft + actions.countP SessionAction.isStep ≤
      session.worker.stepsLeft := stays.stepsLeft
  have streamed : next.effects.streamed.length ≤ session.effects.streamed.length +
      actions.countP SessionAction.isStep := stays.streamed
  exact ⟨stays.cancelled.flag, by omega, by omega⟩

/-- A stream up to the first step of its decode. -/
def turnInStep : List (SessionAction Int (List Int) Unit Nat) :=
  [.begin (.generateContentStream [1, 2] none), .schedule 0 (.ok ())] ++ prefillStream ++
    [.takeTask, .startDecode (.ok ()), .poll ⟨[4], .ok ([], []), false⟩]

def cancelledRest : List (SessionAction Int (List Int) Unit Nat) :=
  [.runOneStep, .poll ⟨[5], .ok ([], []), false⟩, .completeTask]

/-- The first step is streamed, and then the error. -/
theorem cancelProcess_stopsDecoding_inStep : ∃ session next,
    (Session.machine echoSession).execute { effects := ⟨0, 0, [], [], []⟩ } turnInStep =
      some session ∧
    (Session.machine echoSession).execute session (.cancelProcess :: cancelledRest) =
      some next ∧
    next.effects.ended = [0] ∧ next.cancelled = true ∧
    cancelledRest.countP SessionAction.isStep ≤ session.worker.stepsLeft ∧
    next.effects.streamed.length ≤
      session.effects.streamed.length + session.worker.stepsLeft := by
  have course : ((Session.machine echoSession).execute { effects := ⟨0, 0, [], [], []⟩ }
      turnInStep).bind (fun session =>
        ((Session.machine echoSession).execute session (.cancelProcess :: cancelledRest)).map
          fun next => (session.worker.isClearing, next.effects.ended)) =
      some (false, [0]) := by
    rfl
  obtain ⟨session, started, rest⟩ := Option.bind_eq_some_iff.mp course
  obtain ⟨next, ended, outcome⟩ := Option.map_eq_some_iff.mp rest
  rw [Prod.mk.injEq] at outcome
  exact ⟨session, next, started, ended, outcome.2,
    cancelProcess_stopsDecoding echoSession outcome.1 (by decide) ended⟩

end LiteRTLM.Core.SessionBasic
