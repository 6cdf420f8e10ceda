import Mathlib
import LiteRTLM.Core.SessionBasic.Session
import LiteRTLM.Core.Tasks.CandidateTexts
import LiteRTLM.Core.Tasks.SuccessfulSteps
import LiteRTLM.Library.Frames

/-!
Contract: a `SessionBasic` under any interleaving does what its jobs do one after the other,
in the order in which the pool accepted them.

Owns: the sequential session, whose one action is a whole job, the runs of `Tasks::Decode`
that the steps of the worker add up to, and the simulation.

Does not own: which calls are delivered, and what a cancellation reaches.
-/

namespace LiteRTLM.Core.SessionBasic

open LiteRTLM.Components LiteRTLM.Engine LiteRTLM.Executor LiteRTLM.Library LiteRTLM.Framework
open LiteRTLM.Util LiteRTLM.Core.Tasks

variable {Input Executor Environment Scalar ConstraintState Score : Type}

/-! ## The sequential session -/

/-- What the callback of `GenerateContentStream` does after a prefill that was OK. -/
inductive StreamContinuation where
  | findsCancelled
  | schedulesDecode
  | cannotSchedule

/-- A whole run of a job, with what it meets. -/
inductive JobRun (Input Environment ConstraintState Score : Type) where
  | prefill (call : CallId) (contents : List Input) (after : AfterPrefill ConstraintState)
      (environment : Environment) (continuation : StreamContinuation)
  | decode (call : CallId) (constraint : Option (Constraint ConstraintState))
      (after : AfterDecode) (environments : List (StepEnvironment Environment Score))
      (finalEnvironment : Environment)
  /-- The buffer for the ids cannot be created. -/
  | refusedDecode (call : CallId) (constraint : Option (Constraint ConstraintState))
      (after : AfterDecode) (status : Status)
  | textScoring (call : CallId) (targetText : Text) (storeTokenLengths : Bool)
      (environment : Environment) (idsBuffer : StatusOr Unit)

def JobRun.job : JobRun Input Environment ConstraintState Score → Job Input ConstraintState
  | .prefill call contents after _ _ => .prefill call contents after
  | .decode call constraint after _ _ => .decode call constraint after
  | .refusedDecode call constraint after _ => .decode call constraint after
  | .textScoring call targetText storeTokenLengths _ _ =>
    .textScoring call targetText storeTokenLengths

section Sequential

variable [Bot Scalar]
  (parameters : SessionParameters Input Executor Environment Scalar ConstraintState Score)

/-- A whole decode: `Tasks::Decode` on the environments that its loop meets. There is no
result while the loop goes on. -/
def JobEffects.runDecode (effects : JobEffects Executor Score) (call : CallId)
    (constraint : Option (Constraint ConstraintState)) (after : AfterDecode)
    (environments : List (StepEnvironment Environment Score)) (finalEnvironment : Environment) :
    Option (JobEffects Executor Score) :=
  match Tasks.decode (parameters.decodeParameters after) parameters.stopTokenDetector
      parameters.numOutputCandidates constraint
      (parameters.decodedIds effects.lastPrefillTokenId) environments finalEnvironment
      effects.executor with
  | .error status state =>
    some ((effects.stream call state.callbackResponses).endDecode call after state.executor
      (.error status))
  | .ok (some responses) state =>
    some ((effects.stream call state.callbackResponses).endDecode call after state.executor
      (.ok responses))
  | .ok none _ => none

/-- A whole job. -/
def JobEffects.run (effects : JobEffects Executor Score) :
    JobRun Input Environment ConstraintState Score → Option (JobEffects Executor Score)
  | .prefill call contents after environment continuation =>
    let (effects, goesOn) := effects.prefill parameters call contents after environment
    match goesOn, continuation with
    | true, .findsCancelled => some (effects.cancelStream call)
    | true, .cannotSchedule => some (effects.dropCallback call)
    | _, _ => some effects
  | .decode call constraint after environments finalEnvironment =>
    effects.runDecode parameters call constraint after environments finalEnvironment
  | .refusedDecode call _ after status =>
    if parameters.hasSampler then some (effects.refuseDecode call after status) else none
  | .textScoring call targetText storeTokenLengths environment idsBuffer =>
    some (effects.score parameters call targetText storeTokenLengths environment idsBuffer)

/-- A session that runs whole jobs, one after the other. -/
def sequentialMachine : Machine (JobEffects Executor Score)
    (JobRun Input Environment ConstraintState Score) where
  Initial effects := ∃ lastPrefillTokenId executor, effects = { lastPrefillTokenId, executor }
  step := JobEffects.run parameters

end Sequential

/-! ## The loop of a decode -/

section Loop

variable [Bot Scalar]
  {parameters : DecodeParameters Executor Environment Scalar ConstraintState Score}

/-- One more environment continues a loop that has not ended. -/
theorem decodeLoop_concat (maxNumTokens : Nat)
    (environments : List (StepEnvironment Environment Score))
    (environment : StepEnvironment Environment Score)
    {start state : DecodeState Executor Scalar ConstraintState Score}
    (goesOn : decodeLoop parameters maxNumTokens environments start = .ok false state) :
    decodeLoop parameters maxNumTokens (environments ++ [environment]) start =
      decodeStep parameters maxNumTokens environment state := by
  induction environments generalizing start with
  | nil =>
    cases goesOn
    simp only [List.nil_append, decodeLoop, bind, EStateM.bind]
    cases stepped : decodeStep parameters maxNumTokens environment state with
    | error status after => rfl
    | ok stops after => cases stops <;> rfl
  | cons first rest inductionHypothesis =>
    simp only [List.cons_append, decodeLoop, bind, EStateM.bind] at goesOn ⊢
    cases stepped : decodeStep parameters maxNumTokens first start with
    | error status after =>
      rw [stepped] at goesOn
      cases goesOn
    | ok stops after =>
      rw [stepped] at goesOn
      cases stops with
      | true => cases goesOn
      | false => exact inductionHypothesis goesOn

omit [Bot Scalar] in
theorem keeps_returnIfError {Kept α : Type}
    {read : DecodeState Executor Scalar ConstraintState Score → Kept} (result : StatusOr α)
    (state : DecodeState Executor Scalar ConstraintState Score) :
    Keeps read (returnIfError result) state := by
  cases result with
  | ok value => exact keeps_pure value
  | error status => exact keeps_throw status

omit [Bot Scalar] in
theorem keeps_callExecutor {α : Type} (program : EStateM Status Executor α)
    (state : DecodeState Executor Scalar ConstraintState Score) :
    Keeps DecodeState.callbackResponses (callExecutor program) state := by
  unfold Keeps finalState callExecutor
  cases program state.executor <;> rfl

/-- Sampling does not invoke the callback. -/
theorem run_callbackResponses
    (parameters : DecodeParameters Executor Environment Scalar ConstraintState Score)
    (environment : StepEnvironment Environment Score)
    (state : DecodeState Executor Scalar ConstraintState Score) :
    Keeps DecodeState.callbackResponses (run parameters environment) state := by
  have samples : Keeps DecodeState.callbackResponses
      (decodeAndSample parameters environment) state := by
    refine Keeps.ite (fun _ => Keeps.get_bind ?_) (fun _ => Keeps.get_bind ?_)
    · cases state.decodedIds with
      | none => exact keeps_throw _
      | some decodedIds =>
        refine Keeps.get_bind ((keeps_returnIfError _ _).bind fun _ _ =>
          (keeps_callExecutor _ _).bind fun _ _ => (keeps_returnIfError _ _).bind fun _ _ =>
            (keeps_returnIfError _ _).bind fun _ _ => ?_)
        rfl
    · exact (keeps_callExecutor _ _).bind fun _ _ => rfl
  refine samples.bind fun nextTokens between => Keeps.get_bind ?_
  exact (keeps_returnIfError _ _).bind fun _ _ => rfl

/-- A step that returns has invoked the callback at most once more. -/
theorem decodeStep_streams {maxNumTokens : Nat}
    {environment : StepEnvironment Environment Score} {stops : Bool}
    {before after : DecodeState Executor Scalar ConstraintState Score}
    (stepped : decodeStep parameters maxNumTokens environment before = .ok stops after) :
    before.callbackResponses <+: after.callbackResponses := by
  obtain ⟨-, allDone, between, runs, rfl, -⟩ := succeeds_decodeStep.mp stepped
  have kept := run_callbackResponses parameters environment before
  rw [Keeps, finalState, show run parameters environment before = _ from runs] at kept
  rw [← show between.callbackResponses = before.callbackResponses from kept]
  simp only [report]
  split
  · exact List.prefix_append _ _
  · exact List.prefix_rfl

/-- A step that fails has not invoked the callback. -/
theorem decodeStep_failed {maxNumTokens : Nat}
    {environment : StepEnvironment Environment Score} {status : Status}
    {before after : DecodeState Executor Scalar ConstraintState Score}
    (failed : decodeStep parameters maxNumTokens environment before = .error status after) :
    after.callbackResponses = before.callbackResponses := by
  have kept := run_callbackResponses parameters environment before
  unfold decodeStep at failed
  by_cases cancelled : environment.cancelled = true
  · rw [if_pos cancelled] at failed
    cases failed
    rfl
  · rw [if_neg cancelled] at failed
    simp only [bind, EStateM.bind] at failed
    cases ran : run parameters environment before with
    | ok allDone between =>
      rw [ran] at failed
      cases failed
    | error raised between =>
      rw [ran] at failed
      cases failed
      rw [Keeps, finalState, ran] at kept
      exact kept

omit [Bot Scalar] in
/-- The prefill behind the loop does not invoke the callback. -/
theorem finalPrefill_callbackResponses
    (parameters : DecodeParameters Executor Environment Scalar ConstraintState Score)
    (environment : Environment)
    (state : DecodeState Executor Scalar ConstraintState Score) :
    Keeps DecodeState.callbackResponses (finalPrefill parameters environment) state := by
  refine Keeps.ite (fun _ => Keeps.get_bind ?_) (fun _ => keeps_pure _)
  exact (keeps_callExecutor _ _).bind fun _ _ => keeps_pure _

/-- A decode whose loop fails ends as the loop does. -/
theorem decode_of_failedLoop
    (parameters : DecodeParameters Executor Environment Scalar ConstraintState Score)
    {stopTokenDetector : StopTokenDetector} {numOutputCandidates : Nat}
    {constraint : Option (Constraint ConstraintState)} {decodedIds : Option (List Int)}
    {environments : List (StepEnvironment Environment Score)} (finalEnvironment : Environment)
    {executor : Executor} {status : Status}
    {state : DecodeState Executor Scalar ConstraintState Score}
    (failed : decodeLoop parameters (tryGetMaxNumTokens parameters.taskExecutor executor)
      environments (.initial parameters.arithmetic executor stopTokenDetector
        numOutputCandidates constraint decodedIds) = .error status state) :
    decode parameters stopTokenDetector numOutputCandidates constraint decodedIds environments
      finalEnvironment executor = .error status state := by
  rw [decode, decodeFrom]
  exact bind_of_error failed _

/-- A decode whose loop stops goes on with the prefill of the last ids. -/
theorem decode_of_stoppedLoop
    (parameters : DecodeParameters Executor Environment Scalar ConstraintState Score)
    {stopTokenDetector : StopTokenDetector} {numOutputCandidates : Nat}
    {constraint : Option (Constraint ConstraintState)} {decodedIds : Option (List Int)}
    {environments : List (StepEnvironment Environment Score)} (finalEnvironment : Environment)
    {executor : Executor} {state : DecodeState Executor Scalar ConstraintState Score}
    (stopped : decodeLoop parameters (tryGetMaxNumTokens parameters.taskExecutor executor)
      environments (.initial parameters.arithmetic executor stopTokenDetector
        numOutputCandidates constraint decodedIds) = .ok true state) :
    decode parameters stopTokenDetector numOutputCandidates constraint decodedIds environments
        finalEnvironment executor =
      match finalPrefill parameters finalEnvironment state with
      | .error status final => .error status final
      | .ok _ final => .ok (some (finalResponses parameters
          (tryGetMaxNumTokens parameters.taskExecutor executor) final)) final := by
  rw [decode, decodeFrom]
  refine (bind_of_ok stopped _).trans ?_
  simp only [if_true, bind, EStateM.bind]
  cases finalPrefill parameters finalEnvironment state <;> rfl

end Loop

/-! ## Streams -/

theorem JobEffects.stream_nil (effects : JobEffects Executor Score) {call : CallId} :
    effects.stream call [] = effects := by
  rw [JobEffects.stream, List.map_nil, List.append_nil]

theorem JobEffects.stream_stream (effects : JobEffects Executor Score) (call : CallId)
    (first second : List (Responses Score)) :
    (effects.stream call first).stream call second = effects.stream call (first ++ second) := by
  simp only [JobEffects.stream, List.map_append, List.append_assoc]

/-! ## Where the worker stands in a sequential run -/

/-- The job that the worker is in the middle of. -/
def Worker.current : Worker Input Executor Environment Scalar ConstraintState Score →
    List (Job Input ConstraintState)
  | .idle => []
  | .starting job => [job]
  | .loadingCancelled call contents constraint =>
    [.prefill call contents (.decodeStreaming constraint)]
  | .clearingCancelled call contents constraint =>
    [.prefill call contents (.decodeStreaming constraint)]
  | .schedulingDecode call contents constraint =>
    [.prefill call contents (.decodeStreaming constraint)]
  | .polling run => [.decode run.call run.constraint run.after]
  | .inStep run _ => [.decode run.call run.constraint run.after]
  | .leavingLoop run => [.decode run.call run.constraint run.after]
  | .returned => []

section Follows

variable [Bot Scalar]
  (parameters : SessionParameters Input Executor Environment Scalar ConstraintState Score)
  (sequential effects : JobEffects Executor Score)

omit [Bot Scalar] in
theorem SessionParameters.idsStatus_error {idsBuffer : StatusOr Unit} {status : Status}
    (refused : parameters.idsStatus idsBuffer = .error status) :
    parameters.hasSampler = true ∧ idsBuffer = .error status := by
  unfold SessionParameters.idsStatus at refused
  split at refused
  next hasSampler => exact ⟨hasSampler, refused⟩
  · cases refused

/-- The prefill of a stream has run, and its callback goes on. -/
def JobEffects.Prefilled (call : CallId) (contents : List Input)
    (constraint : Option (Constraint ConstraintState)) : Prop :=
  ∃ environment, sequential.prefill parameters call contents (.decodeStreaming constraint)
    environment = (effects, true)

/-- A decode has come so far. -/
structure DecodeRun.Follows (run : DecodeRun Executor Environment Scalar ConstraintState Score)
    (stopped : Bool) : Prop where
  streamed : effects = sequential.stream run.call run.state.callbackResponses
  maxNumTokens : run.maxNumTokens =
    tryGetMaxNumTokens parameters.taskExecutor sequential.executor
  loop : decodeLoop (parameters.decodeParameters run.after) run.maxNumTokens run.environments
    (parameters.initialDecode sequential.executor sequential.lastPrefillTokenId
      run.constraint) = .ok stopped run.state

/-- What a session has come to on its worker's job, since all jobs before it came to the
effects `sequential`. -/
def Worker.Follows : Worker Input Executor Environment Scalar ConstraintState Score → Prop
  | .loadingCancelled call contents constraint =>
    sequential.Prefilled parameters effects call contents constraint
  | .clearingCancelled call contents constraint =>
    sequential.Prefilled parameters effects call contents constraint
  | .schedulingDecode call contents constraint =>
    sequential.Prefilled parameters effects call contents constraint
  | .polling run => run.Follows parameters sequential effects false
  | .inStep run _ => run.Follows parameters sequential effects false
  | .leavingLoop run => run.Follows parameters sequential effects true
  | _ => effects = sequential

/-- A session has done what these whole jobs do, and a part of its next job. -/
structure Linearized
    (session : Session Input Executor Environment Scalar ConstraintState Score)
    (runs : List (JobRun Input Environment ConstraintState Score)) : Prop where
  accepted : session.accepted =
    runs.map JobRun.job ++ session.worker.current ++ session.pool.tasks
  follows : session.worker.Follows parameters sequential session.effects

end Follows

/-! ## Steps outside of the worker -/

namespace Session

variable {parameters : SessionParameters Input Executor Environment Scalar ConstraintState Score}
  {session next : Session Input Executor Environment Scalar ConstraintState Score}

theorem beginPrefill_cases
    (parameters : SessionParameters Input Executor Environment Scalar ConstraintState Score)
    (session : Session Input Executor Environment Scalar ConstraintState Score) (call : CallId)
    (contents : List Input) (after : AfterPrefill ConstraintState) :
    ∃ cancelled isFirstTurn,
      (∃ status, session.beginPrefill parameters call contents after =
        { session with cancelled, isFirstTurn }.rejectCall call status) ∨
      ∃ inputs, session.beginPrefill parameters call contents after =
        { session with cancelled, isFirstTurn }.prepare (.prefill call inputs after) := by
  unfold beginPrefill
  split
  · exact ⟨_, _, Or.inl ⟨_, rfl⟩⟩
  · split
    · exact ⟨_, _, Or.inl ⟨_, rfl⟩⟩
    · exact ⟨_, _, Or.inr ⟨_, rfl⟩⟩

/-- A call that begins takes a number, may change the two flags, and is rejected or gets
ready to schedule its job. -/
theorem begin_cases
    (parameters : SessionParameters Input Executor Environment Scalar ConstraintState Score)
    (session : Session Input Executor Environment Scalar ConstraintState Score)
    (request : Request Input ConstraintState) :
    ∃ cancelled isFirstTurn,
      (∃ status, session.begin parameters request =
        { session with nextCall := session.nextCall + 1, cancelled, isFirstTurn }.rejectCall
          session.nextCall status) ∨
      ∃ job, job.call = session.nextCall ∧ session.begin parameters request =
        { session with nextCall := session.nextCall + 1, cancelled, isFirstTurn }.prepare
          job := by
  have prefills : ∀ (flag : Bool) (contents : List Input) (after : AfterPrefill ConstraintState),
      ∃ cancelled isFirstTurn,
        (∃ status, { session with nextCall := session.nextCall + 1, cancelled := flag }.beginPrefill
            parameters session.nextCall contents after =
          { session with nextCall := session.nextCall + 1, cancelled, isFirstTurn }.rejectCall
            session.nextCall status) ∨
        ∃ job, job.call = session.nextCall ∧
          { session with nextCall := session.nextCall + 1, cancelled := flag }.beginPrefill
            parameters session.nextCall contents after =
          { session with nextCall := session.nextCall + 1, cancelled, isFirstTurn }.prepare
            job := by
    intro flag contents after
    rcases beginPrefill_cases parameters
        { session with nextCall := session.nextCall + 1, cancelled := flag } session.nextCall
        contents after with
      ⟨cancelled, isFirstTurn, ⟨status, rejected⟩ | ⟨inputs, ready⟩⟩
    · exact ⟨cancelled, isFirstTurn, Or.inl ⟨status, rejected⟩⟩
    · exact ⟨cancelled, isFirstTurn, Or.inr ⟨_, rfl, ready⟩⟩
  cases request with
  | runPrefill contents => exact prefills session.cancelled contents .returnStatus
  | runPrefillAsync contents => exact prefills session.cancelled contents .invokeCallback
  | generateContentStream contents constraint =>
    exact prefills false contents (.decodeStreaming constraint)
  | runDecode constraint => exact ⟨false, session.isFirstTurn, Or.inr ⟨_, rfl, rfl⟩⟩
  | runDecodeAsync constraint => exact ⟨false, session.isFirstTurn, Or.inr ⟨_, rfl, rfl⟩⟩
  | runTextScoring targetTexts storeTokenLengths =>
    simp only [begin]
    split
    · exact ⟨session.cancelled, session.isFirstTurn, Or.inr ⟨_, rfl, rfl⟩⟩
    · exact ⟨session.cancelled, session.isFirstTurn, Or.inl ⟨_, rfl⟩⟩

/-- A call that schedules its job is rejected, or the pool has the job in its queue. -/
theorem schedule_cases {call : CallId} {workerThread : StatusOr Unit}
    (scheduled : session.schedule parameters call workerThread = some next) :
    ∃ job ∈ session.prepared, job.call = call ∧
      ((∃ status, session.pool.schedule workerThread job = .error status ∧
        next = { session with
          prepared := session.prepared.filter fun other => decide (other.call ≠ call)
          }.rejectCall call status) ∨
      ∃ pool, session.pool.schedule workerThread job = .ok pool ∧
        next = { session with
          prepared := session.prepared.filter fun other => decide (other.call ≠ call)
          pool
          accepted := session.accepted ++ [job]
          waiting :=
            if job.isAwaited then session.waiting ++ [(call, parameters.initialResult job)]
            else session.waiting
          scheduled := session.scheduled ++ [job] }) := by
  unfold schedule at scheduled
  cases found : session.prepared.find? fun job => decide (job.call = call) with
  | none =>
    rw [found] at scheduled
    cases scheduled
  | some job =>
    rw [found] at scheduled
    have isCall := List.find?_some found
    refine ⟨job, List.mem_of_find?_eq_some found, of_decide_eq_true isCall, ?_⟩
    simp only at scheduled
    cases accepted : session.pool.schedule workerThread job with
    | error status =>
      rw [accepted] at scheduled
      cases scheduled
      exact Or.inl ⟨status, rfl, rfl⟩
    | ok pool =>
      rw [accepted] at scheduled
      cases scheduled
      exact Or.inr ⟨pool, rfl, rfl⟩

theorem endWait_some {call : CallId} (ended : session.endWait call = some next) :
    ∃ initialResult, session.waiting.lookup call = some initialResult ∧
      next = { session with
        waiting := session.waiting.filter fun other => decide (other.1 ≠ call)
        returns := session.returns ++ [(call, session.awaited call initialResult)] } := by
  unfold endWait at ended
  cases found : session.waiting.lookup call with
  | none =>
    rw [found] at ended
    cases ended
  | some initialResult =>
    rw [found] at ended
    cases ended
    exact ⟨initialResult, rfl, rfl⟩

end Session

/-! ## The simulation -/

section Simulation

variable [Bot Scalar]
  {parameters : SessionParameters Input Executor Environment Scalar ConstraintState Score}
  {sequential after : JobEffects Executor Score}
  {session next : Session Input Executor Environment Scalar ConstraintState Score}
  {runs : List (JobRun Input Environment ConstraintState Score)}

/-- Jobs are accepted behind those that wait. -/
def Session.Queues
    (session next : Session Input Executor Environment Scalar ConstraintState Score) : Prop :=
  ∃ more, next.accepted = session.accepted ++ more ∧
    next.pool.tasks = session.pool.tasks ++ more

omit [Bot Scalar] in
theorem Session.queues_nothing (accepted : next.accepted = session.accepted)
    (tasks : next.pool.tasks = session.pool.tasks) : session.Queues next :=
  ⟨[], by rw [accepted, List.append_nil], by rw [tasks, List.append_nil]⟩

/-- A calling thread leaves the worker alone. -/
theorem Linearized.ofCaller (linear : Linearized parameters sequential session runs)
    (queues : session.Queues next) (worker : next.worker = session.worker)
    (effects : next.effects = session.effects) :
    Linearized parameters sequential next runs where
  accepted := by
    obtain ⟨more, accepted, tasks⟩ := queues
    rw [accepted, tasks, worker, linear.accepted, List.append_assoc]
  follows := by
    rw [worker, effects]
    exact linear.follows

/-- A step within a job goes on with it. -/
theorem Linearized.continues (linear : Linearized parameters sequential session runs)
    (queues : session.Queues next)
    (current : next.worker.current = session.worker.current)
    (follows : next.worker.Follows parameters sequential next.effects) :
    Linearized parameters sequential next runs where
  accepted := by
    obtain ⟨more, accepted, tasks⟩ := queues
    rw [accepted, tasks, current, linear.accepted, List.append_assoc]
  follows := follows

/-- A step that ends a job adds it to the whole jobs. -/
theorem Linearized.endJob (linear : Linearized parameters sequential session runs)
    (queues : session.Queues next) (jobRun : JobRun Input Environment ConstraintState Score)
    (current : session.worker.current = [jobRun.job]) (worker : next.worker = .returned) :
    Linearized parameters next.effects next (runs ++ [jobRun]) where
  accepted := by
    obtain ⟨more, accepted, tasks⟩ := queues
    rw [accepted, tasks, worker, linear.accepted, current]
    simp [Worker.current]
  follows := by
    rw [worker]
    exact rfl

variable (parameters sequential runs) in
/-- The whole jobs are the same or one more, and the session has done a part of the next. -/
def Session.Simulates
    (next : Session Input Executor Environment Scalar ConstraintState Score) : Prop :=
  Linearized parameters sequential next runs ∨
    ∃ jobRun, sequential.run parameters jobRun = some next.effects ∧
      Linearized parameters next.effects next (runs ++ [jobRun])

theorem Linearized.endsJob (linear : Linearized parameters sequential session runs)
    (queues : session.Queues next) (jobRun : JobRun Input Environment ConstraintState Score)
    (current : session.worker.current = [jobRun.job]) (worker : next.worker = .returned)
    (ran : sequential.run parameters jobRun = some next.effects) :
    next.Simulates parameters sequential runs :=
  Or.inr ⟨jobRun, ran, linear.endJob queues jobRun current worker⟩

theorem Linearized.begin (linear : Linearized parameters sequential session runs)
    (request : Request Input ConstraintState) :
    Linearized parameters sequential (session.begin parameters request) runs := by
  obtain ⟨cancelled, isFirstTurn, ⟨status, rejected⟩ | ⟨job, -, ready⟩⟩ :=
    Session.begin_cases parameters session request
  · rw [rejected]
    exact linear.ofCaller (Session.queues_nothing rfl rfl) rfl rfl
  · rw [ready]
    exact linear.ofCaller (Session.queues_nothing rfl rfl) rfl rfl

theorem Linearized.schedule (linear : Linearized parameters sequential session runs)
    {call : CallId} {workerThread : StatusOr Unit}
    (scheduled : session.schedule parameters call workerThread = some next) :
    Linearized parameters sequential next runs := by
  obtain ⟨job, -, -, ⟨status, -, rfl⟩ | ⟨pool, accepted, rfl⟩⟩ :=
    Session.schedule_cases scheduled
  · exact linear.ofCaller (Session.queues_nothing rfl rfl) rfl rfl
  · exact linear.ofCaller ⟨[job], rfl, (ThreadPool.schedule_ok accepted).1⟩ rfl rfl

theorem Linearized.takeTask (linear : Linearized parameters sequential session runs)
    (took : session.takeTask = some next) : Linearized parameters sequential next runs := by
  unfold Session.takeTask at took
  split at took
  next idle =>
    obtain ⟨⟨job, pool⟩, taken, rfl⟩ := Option.map_eq_some_iff.mp took
    obtain ⟨rest, queue, rfl⟩ := ThreadPool.takeTask_some taken
    have accepted := linear.accepted
    have follows := linear.follows
    rw [idle] at accepted follows
    rw [queue] at accepted
    refine ⟨?_, follows⟩
    rw [accepted]
    simp [Worker.current]
  · cases took

theorem Linearized.completeTask (linear : Linearized parameters sequential session runs)
    (completed : session.completeTask = some next) :
    Linearized parameters sequential next runs := by
  unfold Session.completeTask at completed
  split at completed
  next returned =>
    cases completed
    have accepted := linear.accepted
    have follows := linear.follows
    rw [returned] at accepted follows
    exact ⟨accepted, follows⟩
  · cases completed

/-- A prefill is a whole job, except that a stream goes on with the flag. -/
theorem Linearized.prefill (linear : Linearized parameters sequential session runs)
    {environment : Environment} (ran : session.prefill parameters environment = some next) :
    next.Simulates parameters sequential runs := by
  unfold Session.prefill at ran
  split at ran
  next call contents after starting =>
    have follows := linear.follows
    rw [starting] at follows
    have current : session.worker.current = [.prefill call contents after] := by
      rw [starting]
      rfl
    rw [show session.effects = sequential from follows] at ran
    cases prefilled : sequential.prefill parameters call contents after environment with
    | mk effects goesOn =>
      simp only [prefilled] at ran
      split at ran
      next constraint goes =>
        cases ran
        exact Or.inl (linear.continues (Session.queues_nothing rfl rfl) current.symm
          ⟨environment, prefilled⟩)
      next ends =>
        cases ran
        refine linear.endsJob (Session.queues_nothing rfl rfl)
          (.prefill call contents after environment .schedulesDecode) current rfl ?_
        simp only [JobEffects.run, prefilled]
        cases goesOn <;> rfl
  · cases ran

theorem Linearized.loadCancelled (linear : Linearized parameters sequential session runs)
    (ran : session.loadCancelled = some next) : next.Simulates parameters sequential runs := by
  unfold Session.loadCancelled at ran
  split at ran
  next call contents constraint loading =>
    have follows := linear.follows
    rw [loading] at follows
    have current : session.worker.current =
        [.prefill call contents (.decodeStreaming constraint)] := by
      rw [loading]
      rfl
    split at ran
    next cancelled =>
      cases ran
      obtain ⟨environment, prefilled⟩ := follows
      refine linear.endsJob (Session.queues_nothing rfl rfl)
        (.prefill call contents _ environment .findsCancelled) current rfl ?_
      simp only [JobEffects.run, prefilled]
      rfl
    next goesOn =>
      cases ran
      exact Or.inl (linear.continues (Session.queues_nothing rfl rfl) current.symm follows)
  · cases ran

theorem Linearized.clearCancelled (linear : Linearized parameters sequential session runs)
    (ran : session.clearCancelled = some next) :
    Linearized parameters sequential next runs := by
  unfold Session.clearCancelled at ran
  split at ran
  next call contents constraint clearing =>
    cases ran
    have follows := linear.follows
    rw [clearing] at follows
    refine linear.continues (Session.queues_nothing rfl rfl) ?_ follows
    rw [clearing]
    rfl
  · cases ran

theorem Linearized.scheduleDecode (linear : Linearized parameters sequential session runs)
    {workerThread : StatusOr Unit} (ran : session.scheduleDecode workerThread = some next) :
    next.Simulates parameters sequential runs := by
  unfold Session.scheduleDecode at ran
  split at ran
  next call contents constraint scheduling =>
    have follows := linear.follows
    rw [scheduling] at follows
    obtain ⟨environment, prefilled⟩ := follows
    have current : session.worker.current =
        [.prefill call contents (.decodeStreaming constraint)] := by
      rw [scheduling]
      rfl
    simp only at ran
    split at ran
    next status refused =>
      cases ran
      refine linear.endsJob (Session.queues_nothing rfl rfl)
        (.prefill call contents _ environment .cannotSchedule) current rfl ?_
      simp only [JobEffects.run, prefilled]
      rfl
    next pool accepted =>
      cases ran
      refine linear.endsJob ⟨_, rfl, (ThreadPool.schedule_ok accepted).1⟩
        (.prefill call contents _ environment .schedulesDecode) current rfl ?_
      simp only [JobEffects.run, prefilled]
      rfl
  · cases ran

/-- A decode stands at the head of its loop, or has failed for want of ids. -/
theorem Linearized.startDecode (linear : Linearized parameters sequential session runs)
    {idsBuffer : StatusOr Unit}
    (ran : session.startDecode parameters idsBuffer = some next) :
    next.Simulates parameters sequential runs := by
  unfold Session.startDecode at ran
  split at ran
  next call constraint after starting =>
    have follows := linear.follows
    rw [starting] at follows
    have same : session.effects = sequential := follows
    have current : session.worker.current = [.decode call constraint after] := by
      rw [starting]
      rfl
    split at ran
    next status refused =>
      cases ran
      refine linear.endsJob (Session.queues_nothing rfl rfl)
        (.refusedDecode call constraint after status) current rfl ?_
      rw [JobEffects.run, if_pos (parameters.idsStatus_error refused).1, same]
      rfl
    next ready =>
      cases ran
      refine Or.inl (linear.continues (Session.queues_nothing rfl rfl) current.symm ⟨?_, ?_, ?_⟩)
      · rw [same]
        exact sequential.stream_nil.symm
      · rw [same]
      · rw [same]
        rfl
  · cases ran

/-- A decode that ends as `Tasks::Decode` does is a whole job. -/
theorem Linearized.endDecode (linear : Linearized parameters sequential session runs)
    {run : DecodeRun Executor Environment Scalar ConstraintState Score}
    (current : session.worker.current = [.decode run.call run.constraint run.after])
    (streamed : session.effects = sequential.stream run.call run.state.callbackResponses)
    (environments : List (StepEnvironment Environment Score)) (finalEnvironment : Environment)
    {response : StatusOr (Responses Score)}
    {state : DecodeState Executor Scalar ConstraintState Score}
    (same : state.callbackResponses = run.state.callbackResponses)
    (decoded : sequential.runDecode parameters run.call run.constraint run.after environments
      finalEnvironment = some ((sequential.stream run.call state.callbackResponses).endDecode
        run.call run.after state.executor response)) :
    (session.endDecode run state.executor response).Simulates parameters sequential runs := by
  refine linear.endsJob (Session.queues_nothing rfl rfl)
    (.decode run.call run.constraint run.after environments finalEnvironment) current rfl ?_
  rw [JobEffects.run, decoded, same, ← streamed]
  rfl

theorem Linearized.poll (linear : Linearized parameters sequential session runs)
    {environment : StepEnvironment Environment Score}
    (ran : session.poll environment = some next) : next.Simulates parameters sequential runs := by
  unfold Session.poll at ran
  split at ran
  next run polling =>
    have follows := linear.follows
    rw [polling] at follows
    obtain ⟨streamed, maxNumTokens, loop⟩ := follows
    have current : session.worker.current = [.decode run.call run.constraint run.after] := by
      rw [polling]
      rfl
    split at ran
    next cancelled =>
      cases ran
      have ends := decodeLoop_concat run.maxNumTokens run.environments
        { environment with cancelled := true } loop
      rw [decodeStep, if_pos rfl] at ends
      refine linear.endDecode current streamed (run.environments ++
        [{ environment with cancelled := true }]) environment.executor rfl ?_
      rw [maxNumTokens] at ends
      rw [JobEffects.runDecode, decode_of_failedLoop _ environment.executor ends]
    next goesOn =>
      cases ran
      exact Or.inl (linear.continues (Session.queues_nothing rfl rfl) current.symm
        ⟨streamed, maxNumTokens, loop⟩)
  · cases ran

theorem Linearized.runOneStep (linear : Linearized parameters sequential session runs)
    (ran : session.runOneStep parameters = some next) :
    next.Simulates parameters sequential runs := by
  unfold Session.runOneStep at ran
  split at ran
  next run environment stepping =>
    have follows := linear.follows
    rw [stepping] at follows
    obtain ⟨streamed, maxNumTokens, loop⟩ := follows
    have current : session.worker.current = [.decode run.call run.constraint run.after] := by
      rw [stepping]
      rfl
    have grown := decodeLoop_concat run.maxNumTokens run.environments
      { environment with cancelled := false } loop
    simp only at ran
    split at ran
    next status state failed =>
      cases ran
      rw [failed, maxNumTokens] at grown
      refine linear.endDecode current streamed (run.environments ++
        [{ environment with cancelled := false }]) environment.executor
        (decodeStep_failed failed) ?_
      rw [JobEffects.runDecode, decode_of_failedLoop _ environment.executor grown]
    next stops state stepped =>
      cases ran
      rw [stepped] at grown
      have all : run.state.callbackResponses ++
          state.callbackResponses.drop run.state.callbackResponses.length =
            state.callbackResponses :=
        (List.prefix_append_drop (decodeStep_streams stepped)).symm
      refine Or.inl (linear.continues (Session.queues_nothing rfl rfl) ?_ ?_)
      · rw [current]
        cases stops <;> rfl
      · have further : sequential.stream run.call state.callbackResponses =
            session.effects.stream run.call
              (state.callbackResponses.drop run.state.callbackResponses.length) := by
          rw [streamed, JobEffects.stream_stream, all]
        cases stops with
        | true => exact ⟨further.symm, maxNumTokens, grown⟩
        | false => exact ⟨further.symm, maxNumTokens, grown⟩
  · cases ran

theorem Linearized.finishDecode (linear : Linearized parameters sequential session runs)
    {finalEnvironment : Environment}
    (ran : session.finishDecode parameters finalEnvironment = some next) :
    next.Simulates parameters sequential runs := by
  unfold Session.finishDecode at ran
  split at ran
  next run leaving =>
    have follows := linear.follows
    rw [leaving] at follows
    obtain ⟨streamed, maxNumTokens, loop⟩ := follows
    have current : session.worker.current = [.decode run.call run.constraint run.after] := by
      rw [leaving]
      rfl
    have kept := finalPrefill_callbackResponses (parameters.decodeParameters run.after)
      finalEnvironment run.state
    rw [maxNumTokens] at loop
    have decoded := decode_of_stoppedLoop (parameters.decodeParameters run.after)
      finalEnvironment loop
    split at ran
    next status state failed =>
      cases ran
      rw [Keeps, finalState, failed] at kept
      rw [failed] at decoded
      refine linear.endDecode current streamed run.environments finalEnvironment kept ?_
      rw [JobEffects.runDecode, decoded]
    next value state prefilled =>
      cases ran
      rw [Keeps, finalState, prefilled] at kept
      rw [prefilled] at decoded
      refine linear.endDecode current streamed run.environments finalEnvironment kept ?_
      rw [JobEffects.runDecode, decoded, maxNumTokens]
      rfl
  · cases ran

theorem Linearized.score (linear : Linearized parameters sequential session runs)
    {environment : Environment} {idsBuffer : StatusOr Unit}
    (ran : session.score parameters environment idsBuffer = some next) :
    next.Simulates parameters sequential runs := by
  unfold Session.score at ran
  split at ran
  next call targetText storeTokenLengths starting =>
    cases ran
    have follows := linear.follows
    rw [starting] at follows
    have current : session.worker.current = [.textScoring call targetText storeTokenLengths] := by
      rw [starting]
      rfl
    refine linear.endsJob (Session.queues_nothing rfl rfl)
      (.textScoring call targetText storeTokenLengths environment idsBuffer) current rfl ?_
    rw [JobEffects.run, show session.effects = sequential from follows]
    rfl
  · cases ran

/-- Every step of the session is a part of a whole job, or ends one. -/
theorem Linearized.step (linear : Linearized parameters sequential session runs)
    {action : SessionAction Input Environment ConstraintState Score}
    (stepped : session.step parameters action = some next) :
    next.Simulates parameters sequential runs := by
  cases action with
  | begin request =>
    cases stepped
    exact Or.inl (linear.begin request)
  | schedule call workerThread => exact Or.inl (linear.schedule stepped)
  | endWait call =>
    obtain ⟨initialResult, -, rfl⟩ := Session.endWait_some stepped
    exact Or.inl (linear.ofCaller (Session.queues_nothing rfl rfl) rfl rfl)
  | cancelProcess =>
    cases stepped
    exact Or.inl (linear.ofCaller (Session.queues_nothing rfl rfl) rfl rfl)
  | stopPool =>
    cases stepped
    exact Or.inl (linear.ofCaller (Session.queues_nothing rfl rfl) rfl rfl)
  | takeTask => exact Or.inl (linear.takeTask stepped)
  | prefill environment => exact linear.prefill stepped
  | loadCancelled => exact linear.loadCancelled stepped
  | clearCancelled => exact Or.inl (linear.clearCancelled stepped)
  | scheduleDecode workerThread => exact linear.scheduleDecode stepped
  | startDecode idsBuffer => exact linear.startDecode stepped
  | poll environment => exact linear.poll stepped
  | runOneStep => exact linear.runOneStep stepped
  | finishDecode finalEnvironment => exact linear.finishDecode stepped
  | score environment idsBuffer => exact linear.score stepped
  | completeTask => exact Or.inl (linear.completeTask stepped)

end Simulation

/-- A session that has done what some whole jobs do from the start, one after the other, and a
part of the next. -/
def Session.IsSequential [Bot Scalar]
    (parameters : SessionParameters Input Executor Environment Scalar ConstraintState Score)
    (start : JobEffects Executor Score)
    (session : Session Input Executor Environment Scalar ConstraintState Score) : Prop :=
  (sequentialMachine parameters).Initial start ∧
    ∃ runs sequential, (sequentialMachine parameters).execute start runs = some sequential ∧
      Linearized parameters sequential session runs

/-- **Sessions are sequential.** However the steps of the calls, of cancellations and of the
worker interleave, a session has done what whole jobs do one after the other, from the executor
and the last token of a prefill that the session began with, namely the jobs that the pool has
accepted, in that order, and a part of the next one. The steps of a decode add up to
`Tasks::Decode`. -/
theorem session_isSequential [Bot Scalar]
    (parameters : SessionParameters Input Executor Environment Scalar ConstraintState Score)
    {start session : Session Input Executor Environment Scalar ConstraintState Score}
    {actions : List (SessionAction Input Environment ConstraintState Score)}
    (starts : (Session.machine parameters).Initial start)
    (executed : (Session.machine parameters).execute start actions = some session) :
    session.IsSequential parameters start.effects := by
  refine Machine.execute_invariant (Session.IsSequential parameters start.effects) ?_ ?_
    (Machine.guardedAlong_true actions start) executed
  · intro session action next inductionHypothesis _ stepped
    obtain ⟨startsSequential, runs, sequential, ran, linear⟩ := inductionHypothesis
    rcases linear.step stepped with same | ⟨jobRun, jobRan, further⟩
    · exact ⟨startsSequential, runs, sequential, ran, same⟩
    · exact ⟨startsSequential, runs ++ [jobRun], next.effects,
        Machine.execute_concat ran jobRan, further⟩
  · obtain ⟨lastPrefillTokenId, executor, rfl⟩ := starts
    exact ⟨⟨lastPrefillTokenId, executor, rfl⟩, [], _, rfl, rfl, rfl⟩

/-! ## Two turns that overlap -/

/-- A session without a sampler whose inputs are token ids and whose stop token is 9. -/
def echoSession : SessionParameters Int Nat (List Int) Nat Unit Nat where
  taskExecutor := echoExecutor 16
  tokenizer := letterTokenizer
  arithmetic := ⟨0, (· + ·), (· / ·), 0⟩
  stopTokenDetector := (StopTokenDetector.ofStopToken 9).resetBatch 1
  numOutputCandidates := 1
  hasSampler := false
  preprocess := fun _ contents => (.ok contents, false)
  processAndCombineContents := fun _ contents => .ok ⟨1, contents⟩
  scoreCustomSampling := fun _ _ _ _ => pure (.ofState .done)
  unwritten := .error (.internalError "")

/-- The worker runs a prefill of a stream and schedules the decode. -/
def prefillStream : List (SessionAction Int (List Int) Unit Nat) :=
  [.takeTask, .prefill [], .loadCancelled, .clearCancelled, .scheduleDecode (.ok ()),
    .completeTask]

/-- The worker runs a decode that emits the given tokens. -/
def decodeTokens (tokens : List Int) : List (SessionAction Int (List Int) Unit Nat) :=
  [.takeTask, .startDecode (.ok ())] ++
    (tokens.flatMap fun token => [.poll ⟨[token], .ok ([], []), false⟩, .runOneStep]) ++
    [.finishDecode [], .completeTask]

/-- A second stream begins before the prefill of the first one has run. -/
def overlappingTurns : List (SessionAction Int (List Int) Unit Nat) :=
  [.begin (.generateContentStream [1, 2] none), .schedule 0 (.ok ()),
    .begin (.generateContentStream [3] none), .schedule 1 (.ok ())] ++
    prefillStream ++ prefillStream ++ decodeTokens [4, 9] ++ decodeTokens [5, 9]

/-- Both prefills come before both decodes. -/
theorem session_isSequential_overlapping : ∃ session,
    (Session.machine echoSession).execute { effects := ⟨0, 0, [], [], []⟩ } overlappingTurns =
      some session ∧
    session.accepted.map Job.call = [0, 1, 0, 1] ∧
    session.effects.callbacks.map Prod.fst = [0, 0, 1, 1] ∧
    session.IsSequential echoSession ⟨0, 0, [], [], []⟩ := by
  have order : ((Session.machine echoSession).execute { effects := ⟨0, 0, [], [], []⟩ }
      overlappingTurns).map (fun session =>
        (session.accepted.map Job.call, session.effects.callbacks.map Prod.fst)) =
      some ([0, 1, 0, 1], [0, 0, 1, 1]) := by
    rfl
  cases executed : (Session.machine echoSession).execute { effects := ⟨0, 0, [], [], []⟩ }
      overlappingTurns with
  | none =>
    rw [executed] at order
    cases order
  | some session =>
    rw [executed] at order
    simp only [Option.map_some, Option.some.injEq, Prod.mk.injEq] at order
    exact ⟨session, rfl, order.1, order.2,
      session_isSequential echoSession ⟨0, 0, rfl⟩ executed⟩

end LiteRTLM.Core.SessionBasic
