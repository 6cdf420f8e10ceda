import Mathlib
import LiteRTLM.Core.SessionBasic.Sequential
import LiteRTLM.Core.Tasks.Streaming

/-!
Contract: every call of a `SessionBasic` that schedules its job gets one last response.

Owns: what is a last response, the calls whose jobs are not done, the accounts of the calls,
the response that a waiting call returns, the steps at which callbacks are lost, and the steps
that are left to the worker.

Does not own: the contents of the responses, and what comes behind a wait that times out.
-/

namespace LiteRTLM.Core.SessionBasic

open LiteRTLM.Components LiteRTLM.Engine LiteRTLM.Executor LiteRTLM.Library LiteRTLM.Framework
open LiteRTLM.Util LiteRTLM.Core.Tasks

variable {Input Executor Environment Scalar ConstraintState Score : Type}

/-! ## Last responses -/

/-- A response that ends a stream. -/
def isLast : StatusOr (Responses Score) → Bool
  | .error _ => true
  | .ok responses => isTaskEndState responses.taskState

/-- The calls whose callbacks have got their last responses. -/
def JobEffects.ended (effects : JobEffects Executor Score) : List CallId :=
  (effects.callbacks.filter fun invocation => isLast invocation.2).map Prod.fst

/-- The calls that are done, of those that wait for their results and of the others, which have
got their last responses or lost their callbacks. -/
def JobEffects.settled (effects : JobEffects Executor Score) : Bool → List CallId
  | true => effects.results.map Prod.fst
  | false => effects.ended ++ effects.dropped

/-- What the end of a job of a call adds. -/
inductive JobEffects.Settles (call : CallId) (awaited : Bool)
    (effects after : JobEffects Executor Score) : Prop where
  | result (response : StatusOr (Responses Score)) (isAwaited : awaited = true)
      (results : after.results = effects.results ++ [(call, response)])
      (callbacks : after.callbacks = effects.callbacks) (dropped : after.dropped = effects.dropped)
  | last (response : StatusOr (Responses Score)) (isStream : awaited = false)
      (ends : isLast response = true)
      (callbacks : after.callbacks = effects.callbacks ++ [(call, response)])
      (results : after.results = effects.results) (dropped : after.dropped = effects.dropped)
  | dropped (isStream : awaited = false) (dropped : after.dropped = effects.dropped ++ [call])
      (callbacks : after.callbacks = effects.callbacks) (results : after.results = effects.results)

/-- The end of a job settles its call, and no other. -/
theorem JobEffects.Settles.count_settled {call : CallId} {awaited : Bool}
    {effects after : JobEffects Executor Score} (settles : effects.Settles call awaited after)
    (kind : Bool) (other : CallId) :
    (after.settled kind).count other =
      (effects.settled kind).count other +
        (if awaited = kind then [call] else []).count other := by
  cases settles with
  | result response isAwaited results callbacks dropped =>
    subst isAwaited
    cases kind with
    | true =>
      simp only [JobEffects.settled, results, List.map_append, List.count_append, List.map_cons,
        List.map_nil, if_true]
    | false =>
      simp only [JobEffects.settled, JobEffects.ended, callbacks, dropped, Bool.true_eq_false,
        if_false, List.count_nil, Nat.add_zero]
  | last response isStream ends callbacks results dropped =>
    subst isStream
    cases kind with
    | true =>
      simp only [JobEffects.settled, results, Bool.false_eq_true, if_false, List.count_nil,
        Nat.add_zero]
    | false =>
      simp only [JobEffects.settled, JobEffects.ended, callbacks, dropped, List.filter_append,
        List.map_append, List.count_append, List.filter_cons, ends, if_true, List.filter_nil,
        List.map_cons, List.map_nil]
      omega
  | dropped isStream dropped callbacks results =>
    subst isStream
    cases kind with
    | true =>
      simp only [JobEffects.settled, results, Bool.false_eq_true, if_false, List.count_nil,
        Nat.add_zero]
    | false =>
      simp only [JobEffects.settled, JobEffects.ended, dropped, callbacks, List.count_append,
        if_true]
      omega

/-- Responses that are not last settle nothing. -/
theorem JobEffects.settled_stream {responses : List (Responses Score)}
    (notLast : ∀ item ∈ responses, isLast (.ok item : StatusOr (Responses Score)) = false)
    (effects : JobEffects Executor Score) (call : CallId) :
    (effects.stream call responses).settled = effects.settled := by
  have nothing : (responses.map fun item => (call, (.ok item : StatusOr (Responses Score)))).filter
      (fun invocation => isLast invocation.2) = [] := by
    rw [List.filter_eq_nil_iff]
    intro invocation member
    obtain ⟨item, isItem, rfl⟩ := List.mem_map.mp member
    simp [notLast item isItem]
  funext kind
  cases kind with
  | true => rfl
  | false =>
    simp only [JobEffects.settled, JobEffects.ended, JobEffects.stream, List.filter_append,
      nothing, List.append_nil]

/-! ## The ends of jobs -/

section Jobs

variable (parameters : SessionParameters Input Executor Environment Scalar ConstraintState Score)
  (effects : JobEffects Executor Score)

/-- A prefill goes on with the stream, or settles its call. -/
theorem JobEffects.prefill_cases (call : CallId) (contents : List Input)
    (after : AfterPrefill ConstraintState) (environment : Environment)
    {written : JobEffects Executor Score} {goesOn : Bool}
    (ran : effects.prefill parameters call contents after environment = (written, goesOn)) :
    (goesOn = true ∧ (∃ constraint, after = .decodeStreaming constraint) ∧
      ∃ executor lastPrefillTokenId,
        written = { effects with executor, lastPrefillTokenId }) ∨
    goesOn = false ∧ written.dropped = effects.dropped ∧
      effects.Settles call (Job.prefill call contents after).isAwaited written := by
  unfold JobEffects.prefill at ran
  cases prefilled : parameters.prefillInternal environment contents effects.executor with
  | error status executor =>
    rw [prefilled] at ran
    cases after <;> cases ran
    · exact Or.inr ⟨rfl, rfl, .result _ rfl rfl rfl rfl⟩
    · exact Or.inr ⟨rfl, rfl, .last _ rfl rfl rfl rfl rfl⟩
    · exact Or.inr ⟨rfl, rfl, .last _ rfl rfl rfl rfl rfl⟩
  | ok textData executor =>
    rw [prefilled] at ran
    cases after <;> cases ran
    · exact Or.inr ⟨rfl, rfl, .result _ rfl rfl rfl rfl⟩
    · exact Or.inr ⟨rfl, rfl, .last _ rfl rfl rfl rfl rfl⟩
    · exact Or.inl ⟨rfl, ⟨_, rfl⟩, _, _, rfl⟩

theorem JobEffects.cancelStream_settles (call : CallId) :
    effects.Settles call false (effects.cancelStream call) :=
  .last _ rfl rfl rfl rfl rfl

theorem JobEffects.dropCallback_settles (call : CallId) :
    effects.Settles call false (effects.dropCallback call) :=
  .dropped rfl rfl rfl rfl

theorem JobEffects.refuseDecode_settles (call : CallId)
    (constraint : Option (Constraint ConstraintState)) (after : AfterDecode) (status : Status) :
    effects.Settles call (Job.decode call constraint after : Job Input ConstraintState).isAwaited
      (effects.refuseDecode call after status) := by
  cases after with
  | returnResponses => exact .result _ rfl rfl rfl rfl
  | invokeCallback => exact .dropped rfl rfl rfl rfl

theorem JobEffects.endDecode_settles (call : CallId)
    (constraint : Option (Constraint ConstraintState)) (after : AfterDecode)
    (executor : Executor) {response : StatusOr (Responses Score)} (ends : isLast response = true) :
    effects.Settles call (Job.decode call constraint after : Job Input ConstraintState).isAwaited
      (effects.endDecode call after executor response) := by
  cases after with
  | returnResponses => exact .result _ rfl rfl rfl rfl
  | invokeCallback => exact .last _ rfl ends rfl rfl rfl

theorem JobEffects.score_settles (call : CallId) (targetText : Text) (storeTokenLengths : Bool)
    (environment : Environment) (idsBuffer : StatusOr Unit) :
    effects.Settles call true
      (effects.score parameters call targetText storeTokenLengths environment idsBuffer) := by
  unfold JobEffects.score
  split
  · exact .result _ rfl rfl rfl rfl
  · split
    · exact .result _ rfl rfl rfl rfl
    · exact .result _ rfl rfl rfl rfl

theorem JobEffects.score_dropped (call : CallId) (targetText : Text) (storeTokenLengths : Bool)
    (environment : Environment) (idsBuffer : StatusOr Unit) :
    (effects.score parameters call targetText storeTokenLengths environment idsBuffer).dropped =
      effects.dropped := by
  unfold JobEffects.score
  split
  · rfl
  · split <;> rfl

end Jobs

/-! ## The steps of the worker within a job -/

section Decode

variable [Bot Scalar]
  {parameters : DecodeParameters Executor Environment Scalar ConstraintState Score}

omit [Bot Scalar] in
theorem stepResponses_notLast (arithmetic : ScoreArithmetic Score) (isCustomSampling : Bool)
    (runOneStep : DecodeOneStep Scalar ConstraintState Score) :
    isLast (.ok (stepResponses arithmetic isCustomSampling runOneStep)) = false :=
  rfl

/-- What a step streams goes to a callback and is not last. -/
theorem decodeStep_streamed {maxNumTokens : Nat}
    {environment : StepEnvironment Environment Score} {stops : Bool}
    {before after : DecodeState Executor Scalar ConstraintState Score}
    (stepped : decodeStep parameters maxNumTokens environment before = .ok stops after) :
    ∀ item ∈ after.callbackResponses.drop before.callbackResponses.length,
      parameters.isStreaming = true ∧
        isLast (.ok item : StatusOr (Responses Score)) = false := by
  obtain ⟨-, allDone, between, runs, rfl, -⟩ := succeeds_decodeStep.mp stepped
  have kept := run_callbackResponses parameters environment before
  rw [Keeps, finalState, show run parameters environment before = _ from runs] at kept
  rw [← show between.callbackResponses = before.callbackResponses from kept]
  intro item member
  simp only [report] at member
  split at member
  next streams =>
    rw [List.drop_left] at member
    rw [List.mem_singleton.mp member]
    exact ⟨streams.1, stepResponses_notLast _ _ _⟩
  · rw [List.drop_length] at member
    cases member

end Decode

/-! ## The worker and its pool -/

/-- Whether the worker is outside of its loop body. -/
def Worker.isIdle :
    Worker Input Executor Environment Scalar ConstraintState Score → Bool
  | .idle => true
  | _ => false

theorem Worker.isIdle_of_current
    {worker : Worker Input Executor Environment Scalar ConstraintState Score}
    {job : Job Input ConstraintState} (inJob : worker.current = [job]) :
    worker.isIdle = false := by
  cases worker with
  | idle => cases inJob
  | _ => rfl

theorem Worker.current_of_isIdle
    {worker : Worker Input Executor Environment Scalar ConstraintState Score}
    (idle : worker.isIdle = true) : worker.current = [] := by
  cases worker with
  | idle => rfl
  | _ => cases idle

/-- The pool counts its worker, and has one for every job. -/
structure Session.Staffed
    (session : Session Input Executor Environment Scalar ConstraintState Score) : Prop where
  active : session.pool.numActiveTasks = if session.worker.isIdle then 0 else 1
  limit : 0 < session.pool.maxNumThreads
  threads : session.worker.isIdle = false ∨ session.pool.tasks ≠ [] →
    0 < session.pool.numThreads

section Advances

variable [Bot Scalar]
  (parameters : SessionParameters Input Executor Environment Scalar ConstraintState Score)
  {session next : Session Input Executor Environment Scalar ConstraintState Score}

/-- The steps at which a call loses its callback. -/
inductive Session.Loses
    (session : Session Input Executor Environment Scalar ConstraintState Score) :
    SessionAction Input Environment ConstraintState Score → CallId → Prop where
  /-- The callback of a stream schedules the decode in a stopped pool. -/
  | stopped {call : CallId} {contents : List Input}
      {constraint : Option (Constraint ConstraintState)} (workerThread : StatusOr Unit)
      (scheduling : session.worker = .schedulingDecode call contents constraint)
      (stopped : session.pool.stopped = true) :
      session.Loses (.scheduleDecode workerThread) call
  /-- There is no buffer for the ids of a streaming decode with a sampler. -/
  | noIds {call : CallId} {constraint : Option (Constraint ConstraintState)} (status : Status)
      (starting : session.worker = .starting (.decode call constraint .invokeCallback))
      (hasSampler : parameters.hasSampler = true) :
      session.Loses (.startDecode (.error status)) call

/-- All that a step of the worker within its job can do. -/
inductive Session.Advances
    (session next : Session Input Executor Environment Scalar ConstraintState Score)
    (action : SessionAction Input Environment ConstraintState Score) : Prop where
  /-- It goes on with the job, and may stream responses of a decode. -/
  | continues (job : Job Input ConstraintState) (responses : List (Responses Score))
      (cancelled : Bool) (executor : Executor) (lastPrefillTokenId : Int)
      (worker : Worker Input Executor Environment Scalar ConstraintState Score)
      (inJob : session.worker.current = [job]) (staysInJob : worker.current = [job])
      (streams : ∀ item ∈ responses, job.isAwaited = false ∧
        isLast (.ok item : StatusOr (Responses Score)) = false)
      (result : next = { session with
        cancelled, worker
        effects := { session.effects with executor, lastPrefillTokenId }.stream
          job.call responses })
  /-- It ends the job, which settles its call. -/
  | ends (job : Job Input ConstraintState) (effects : JobEffects Executor Score)
      (inJob : session.worker.current = [job])
      (settles : session.effects.Settles job.call job.isAwaited effects)
      (lost : effects.dropped = session.effects.dropped ∨
        session.Loses parameters action job.call)
      (result : next = session.returnJob effects)
  /-- It ends the prefill of a stream, whose decode is in the queue. -/
  | handsOver (job : Job Input ConstraintState) (decode : Job Input ConstraintState)
      (workerThread : StatusOr Unit) (pool : ThreadPool (Job Input ConstraintState))
      (inJob : session.worker.current = [job]) (sameCall : decode.call = job.call)
      (sameKind : decode.isAwaited = job.isAwaited)
      (scheduled : session.pool.schedule workerThread decode = .ok pool)
      (result : next = { session with
        pool, accepted := session.accepted ++ [decode], worker := .returned })

variable {parameters}

omit [Bot Scalar] in
/-- A step that only moves the worker on. -/
theorem Session.Advances.moves {job : Job Input ConstraintState} (cancelled : Bool)
    {worker : Worker Input Executor Environment Scalar ConstraintState Score}
    (inJob : session.worker.current = [job]) (staysInJob : worker.current = [job])
    (action : SessionAction Input Environment ConstraintState Score) :
    session.Advances parameters { session with cancelled, worker } action := by
  refine .continues job [] cancelled session.effects.executor session.effects.lastPrefillTokenId
    worker inJob staysInJob (by intro item member; cases member) ?_
  rw [JobEffects.stream_nil]

omit [Bot Scalar] in
theorem Session.prefill_advances {environment : Environment}
    (ran : session.prefill parameters environment = some next) :
    session.Advances parameters next (.prefill environment) := by
  unfold Session.prefill at ran
  split at ran
  next call contents after starting =>
    have inJob : session.worker.current = [.prefill call contents after] := by
      rw [starting]
      rfl
    cases prefilled : session.effects.prefill parameters call contents after environment with
    | mk effects goesOn =>
      simp only [prefilled] at ran
      rcases JobEffects.prefill_cases parameters session.effects call contents after environment
          prefilled with
        ⟨rfl, ⟨constraint, rfl⟩, executor, lastPrefillTokenId, rfl⟩ | ⟨rfl, kept, settles⟩
      · cases ran
        refine .continues _ [] session.cancelled executor lastPrefillTokenId
          (.loadingCancelled call contents constraint) inJob rfl
          (by intro item member; cases member) ?_
        rw [JobEffects.stream_nil]
      · cases after <;> cases ran <;> exact .ends _ effects inJob settles (Or.inl kept) rfl
  · cases ran

omit [Bot Scalar] in
theorem Session.loadCancelled_advances (ran : session.loadCancelled = some next) :
    session.Advances parameters next .loadCancelled := by
  unfold Session.loadCancelled at ran
  split at ran
  next call contents constraint loading =>
    have inJob : session.worker.current =
        [.prefill call contents (.decodeStreaming constraint)] := by
      rw [loading]
      rfl
    split at ran
    · cases ran
      exact .ends _ _ inJob (session.effects.cancelStream_settles call) (Or.inl rfl) rfl
    · cases ran
      exact .moves session.cancelled inJob rfl _
  · cases ran

omit [Bot Scalar] in
theorem Session.clearCancelled_advances (ran : session.clearCancelled = some next) :
    session.Advances parameters next .clearCancelled := by
  unfold Session.clearCancelled at ran
  split at ran
  next call contents constraint clearing =>
    cases ran
    have inJob : session.worker.current =
        [.prefill call contents (.decodeStreaming constraint)] := by
      rw [clearing]
      rfl
    exact .moves false inJob rfl _
  · cases ran

omit [Bot Scalar] in
/-- The worker is a thread of the pool, so only a stopped pool refuses its job. -/
theorem Session.Staffed.stopped_of_schedule (staffed : session.Staffed)
    (busy : session.worker.isIdle = false) {workerThread : StatusOr Unit}
    {job : Job Input ConstraintState} {status : Status}
    (refused : session.pool.schedule workerThread job = .error status) :
    session.pool.stopped = true := by
  by_contra running
  obtain ⟨pool, accepted⟩ : ∃ pool, session.pool.schedule workerThread job = .ok pool :=
    ThreadPool.schedule_succeeds job (Bool.eq_false_iff.mpr running)
      (Or.inl (staffed.threads (Or.inl busy)))
  rw [accepted] at refused
  cases refused

omit [Bot Scalar] in
theorem Session.Staffed.scheduleDecode_advances (staffed : session.Staffed)
    {workerThread : StatusOr Unit} (ran : session.scheduleDecode workerThread = some next) :
    session.Advances parameters next (.scheduleDecode workerThread) := by
  unfold Session.scheduleDecode at ran
  split at ran
  next call contents constraint scheduling =>
    have inJob : session.worker.current =
        [.prefill call contents (.decodeStreaming constraint)] := by
      rw [scheduling]
      rfl
    simp only at ran
    split at ran
    next status refused =>
      cases ran
      have stopped := staffed.stopped_of_schedule (Worker.isIdle_of_current inJob) refused
      exact .ends _ _ inJob (session.effects.dropCallback_settles call)
        (Or.inr (.stopped workerThread scheduling stopped)) rfl
    next pool scheduled =>
      cases ran
      exact .handsOver _ (.decode call constraint .invokeCallback) workerThread pool inJob rfl rfl
        scheduled rfl
  · cases ran

omit [Bot Scalar] in
theorem Session.startDecode_advances {idsBuffer : StatusOr Unit}
    (ran : session.startDecode parameters idsBuffer = some next) :
    session.Advances parameters next (.startDecode idsBuffer) := by
  unfold Session.startDecode at ran
  split at ran
  next call constraint after starting =>
    have inJob : session.worker.current = [.decode call constraint after] := by
      rw [starting]
      rfl
    split at ran
    next status refused =>
      cases ran
      obtain ⟨hasSampler, rfl⟩ := parameters.idsStatus_error refused
      refine .ends _ _ inJob (session.effects.refuseDecode_settles call constraint after status)
        ?_ rfl
      cases after with
      | returnResponses => exact Or.inl rfl
      | invokeCallback => exact Or.inr (.noIds status starting hasSampler)
    · cases ran
      exact .moves session.cancelled inJob rfl _
  · cases ran

omit [Bot Scalar] in
/-- The end of `Tasks::Decode` ends the job. -/
theorem Session.endDecode_advances
    {run : DecodeRun Executor Environment Scalar ConstraintState Score}
    (inJob : session.worker.current = [.decode run.call run.constraint run.after])
    (executor : Executor) {response : StatusOr (Responses Score)}
    (last : isLast response = true)
    (action : SessionAction Input Environment ConstraintState Score) :
    session.Advances parameters (session.endDecode run executor response) action := by
  refine .ends _ _ inJob
    (session.effects.endDecode_settles run.call run.constraint run.after executor last) ?_ rfl
  cases run.after <;> exact Or.inl rfl

omit [Bot Scalar] in
theorem Session.poll_advances {environment : StepEnvironment Environment Score}
    (ran : session.poll environment = some next) :
    session.Advances parameters next (.poll environment) := by
  unfold Session.poll at ran
  split at ran
  next run polling =>
    have inJob : session.worker.current = [.decode run.call run.constraint run.after] := by
      rw [polling]
      rfl
    split at ran
    · cases ran
      exact Session.endDecode_advances inJob _ rfl _
    · cases ran
      exact .moves session.cancelled inJob rfl _
  · cases ran

theorem Session.runOneStep_advances (ran : session.runOneStep parameters = some next) :
    session.Advances parameters next .runOneStep := by
  unfold Session.runOneStep at ran
  split at ran
  next run environment stepping =>
    have inJob : session.worker.current = [.decode run.call run.constraint run.after] := by
      rw [stepping]
      rfl
    simp only at ran
    split at ran
    · cases ran
      exact Session.endDecode_advances inJob _ rfl _
    next stops state stepped =>
      cases ran
      refine .continues _ (state.callbackResponses.drop run.state.callbackResponses.length)
        session.cancelled session.effects.executor session.effects.lastPrefillTokenId _ inJob ?_
        ?_ rfl
      · cases stops <;> rfl
      · intro item member
        obtain ⟨isStreaming, notLast⟩ := decodeStep_streamed stepped item member
        have streams : run.after = .invokeCallback := of_decide_eq_true isStreaming
        exact ⟨by rw [streams]; rfl, notLast⟩
  · cases ran

omit [Bot Scalar] in
theorem Session.finishDecode_advances {finalEnvironment : Environment}
    (ran : session.finishDecode parameters finalEnvironment = some next) :
    session.Advances parameters next (.finishDecode finalEnvironment) := by
  unfold Session.finishDecode at ran
  split at ran
  next run leaving =>
    have inJob : session.worker.current = [.decode run.call run.constraint run.after] := by
      rw [leaving]
      rfl
    split at ran
    · cases ran
      exact Session.endDecode_advances inJob _ rfl _
    · cases ran
      refine Session.endDecode_advances inJob _ ?_ _
      exact finalResponses_isTaskEndState _ _ _
  · cases ran

omit [Bot Scalar] in
theorem Session.score_advances {environment : Environment} {idsBuffer : StatusOr Unit}
    (ran : session.score parameters environment idsBuffer = some next) :
    session.Advances parameters next (.score environment idsBuffer) := by
  unfold Session.score at ran
  split at ran
  next call targetText storeTokenLengths starting =>
    cases ran
    refine .ends (.textScoring call targetText storeTokenLengths) _ ?_
      (session.effects.score_settles parameters call targetText storeTokenLengths environment
        idsBuffer) (Or.inl ?_) rfl
    · rw [starting]
      rfl
    · exact session.effects.score_dropped parameters call targetText storeTokenLengths
        environment idsBuffer
  · cases ran

/-- The steps of the worker within its job. -/
def SessionAction.isInJob : SessionAction Input Environment ConstraintState Score → Bool
  | .begin _ => false
  | .schedule _ _ => false
  | .endWait _ => false
  | .cancelProcess => false
  | .stopPool => false
  | .takeTask => false
  | .completeTask => false
  | _ => true

theorem Session.Staffed.advances_of_isInJob (staffed : session.Staffed)
    {action : SessionAction Input Environment ConstraintState Score}
    (inJob : action.isInJob = true) (stepped : session.step parameters action = some next) :
    session.Advances parameters next action := by
  cases action with
  | begin => cases inJob
  | schedule => cases inJob
  | endWait => cases inJob
  | cancelProcess => cases inJob
  | stopPool => cases inJob
  | takeTask => cases inJob
  | completeTask => cases inJob
  | prefill => exact Session.prefill_advances stepped
  | loadCancelled => exact Session.loadCancelled_advances stepped
  | clearCancelled => exact Session.clearCancelled_advances stepped
  | scheduleDecode => exact staffed.scheduleDecode_advances stepped
  | startDecode => exact Session.startDecode_advances stepped
  | poll => exact Session.poll_advances stepped
  | runOneStep => exact Session.runOneStep_advances stepped
  | finishDecode => exact Session.finishDecode_advances stepped
  | score => exact Session.score_advances stepped

end Advances

/-! ## What the worker keeps of its pool -/

section Staffed

variable [Bot Scalar]
  {parameters : SessionParameters Input Executor Environment Scalar ConstraintState Score}
  {session next : Session Input Executor Environment Scalar ConstraintState Score}

omit [Bot Scalar] in
/-- The pool and whether the worker is idle are all that matters. -/
theorem Session.Staffed.congr (staffed : session.Staffed) (pool : next.pool = session.pool)
    (worker : next.worker.isIdle = session.worker.isIdle) : next.Staffed := by
  obtain ⟨active, limit, threads⟩ := staffed
  rw [← pool] at active limit threads
  rw [← worker] at active threads
  exact ⟨active, limit, threads⟩

omit [Bot Scalar] in
theorem Session.Staffed.queues (staffed : session.Staffed)
    {workerThread : StatusOr Unit} {job : Job Input ConstraintState}
    (scheduled : session.pool.schedule workerThread job = .ok next.pool)
    (worker : next.worker.isIdle = session.worker.isIdle) : next.Staffed where
  active := by
    rw [(ThreadPool.schedule_ok scheduled).2.numActiveTasks, worker]
    exact staffed.active
  limit := by
    rw [(ThreadPool.schedule_ok scheduled).2.maxNumThreads]
    exact staffed.limit
  threads := fun _ => ThreadPool.schedule_worker scheduled staffed.limit

omit [Bot Scalar] in
theorem Session.Staffed.advances (staffed : session.Staffed)
    {action : SessionAction Input Environment ConstraintState Score}
    (advances : session.Advances parameters next action) : next.Staffed := by
  cases advances with
  | continues job responses cancelled executor lastPrefillTokenId worker inJob staysInJob streams
      result =>
    subst result
    refine staffed.congr rfl ?_
    rw [Worker.isIdle_of_current inJob]
    exact Worker.isIdle_of_current staysInJob
  | ends job effects inJob settles lost result =>
    subst result
    refine staffed.congr rfl ?_
    rw [Worker.isIdle_of_current inJob]
    rfl
  | handsOver job decode workerThread pool inJob sameCall sameKind scheduled result =>
    subst result
    refine staffed.queues scheduled ?_
    rw [Worker.isIdle_of_current inJob]
    rfl

omit [Bot Scalar] in
theorem Session.Staffed.takeTask (staffed : session.Staffed)
    (took : session.takeTask = some next) : next.Staffed := by
  unfold Session.takeTask at took
  split at took
  next idle =>
    obtain ⟨⟨job, pool⟩, taken, rfl⟩ := Option.map_eq_some_iff.mp took
    obtain ⟨rest, queue, rfl⟩ := ThreadPool.takeTask_some taken
    refine ⟨?_, staffed.limit, fun _ => staffed.threads (Or.inr ?_)⟩
    · have active := staffed.active
      rw [idle] at active
      simp [Worker.isIdle] at active
      simp [Worker.isIdle, active]
    · rw [queue]
      exact List.cons_ne_nil _ _
  · cases took

omit [Bot Scalar] in
theorem Session.Staffed.completeTask (staffed : session.Staffed)
    (completed : session.completeTask = some next) : next.Staffed := by
  unfold Session.completeTask at completed
  split at completed
  next returned =>
    cases completed
    refine ⟨?_, staffed.limit, fun _ => staffed.threads (Or.inl ?_)⟩
    · have active := staffed.active
      rw [returned] at active
      simp only [ThreadPool.completeTask, active]
      rfl
    · rw [returned]
      rfl
  · cases completed

end Staffed

/-! ## The accounts of the calls -/

/-- The calls of the jobs of one kind: those whose callers wait, or the others. -/
def callsOf (awaited : Bool) (jobs : List (Job Input ConstraintState)) : List CallId :=
  (jobs.filter fun job => job.isAwaited == awaited).map Job.call

theorem callsOf_append (awaited : Bool) (first second : List (Job Input ConstraintState)) :
    callsOf awaited (first ++ second) = callsOf awaited first ++ callsOf awaited second := by
  rw [callsOf, List.filter_append, List.map_append]
  rfl

theorem callsOf_singleton (awaited : Bool) (job : Job Input ConstraintState) :
    callsOf awaited [job] = if job.isAwaited = awaited then [job.call] else [] := by
  by_cases same : job.isAwaited = awaited
  · simp [callsOf, same]
  · simp [callsOf, same]

theorem callsOf_sublist (awaited : Bool) (jobs : List (Job Input ConstraintState)) :
    (callsOf awaited jobs).Sublist (jobs.map Job.call) :=
  List.filter_sublist.map _

theorem mem_callsOf {job : Job Input ConstraintState} {jobs : List (Job Input ConstraintState)}
    (member : job ∈ jobs) : job.call ∈ callsOf job.isAwaited jobs :=
  List.mem_map_of_mem (List.mem_filter.mpr ⟨member, by simp⟩)

theorem mem_of_lookup_eq_some {responses : List (CallResponse Score)} {call : CallId}
    {response : StatusOr (Responses Score)} (found : responses.lookup call = some response) :
    (call, response) ∈ responses := by
  obtain ⟨before, after, rfl, -⟩ := List.lookup_eq_some_iff.mp found
  exact List.mem_append_right _ List.mem_cons_self

/-- Removing the one item with a key takes this key away. -/
theorem keys_perm_of_filter {Item Key : Type} [DecidableEq Key] {key : Item → Key}
    {items : List Item} (distinct : (items.map key).Nodup) {removed : Key}
    (present : removed ∈ items.map key) :
    (removed :: (items.filter fun item => decide (key item ≠ removed)).map key).Perm
      (items.map key) := by
  have filtered : (items.filter fun item => decide (key item ≠ removed)).map key =
      (items.map key).erase removed := by
    rw [distinct.erase_eq_filter, List.filter_map]
    congr 1
    refine List.filter_congr fun item _ => ?_
    simp only [Function.comp_apply, bne, ne_eq, decide_not]
    rfl
  rw [filtered]
  exact (List.perm_cons_erase present).symm

/-- The jobs that the pool has accepted and the worker has not done. -/
def Session.outstanding
    (session : Session Input Executor Environment Scalar ConstraintState Score) :
    List (Job Input ConstraintState) :=
  session.worker.current ++ session.pool.tasks

/-- Behind the last response of a call, there is no other one of it. -/
def SilentAfter (earlier later : CallResponse Score) : Prop :=
  isLast earlier.2 = true → later.1 ≠ earlier.1

/-- Where the calls of a session are. -/
structure Session.Accounted
    (session : Session Input Executor Environment Scalar ConstraintState Score) : Prop where
  /-- Each call that has begun is about to schedule its job, has been rejected, or has
  scheduled it. -/
  begun : (session.prepared.map Job.call ++ session.rejected.map Prod.fst ++
    session.scheduled.map Job.call).Perm (List.range session.nextCall)
  /-- Each call that waits for its job returns once, or has not returned. -/
  waited : (session.waiting.map Prod.fst ++ session.returns.map Prod.fst).Perm
    (callsOf true session.scheduled)
  /-- Each call with a job gets one last response, or its job is not done. -/
  settled (awaited : Bool) :
    (session.effects.settled awaited ++ callsOf awaited session.outstanding).Perm
      (callsOf awaited session.scheduled)
  silent : session.effects.callbacks.Pairwise SilentAfter
  /-- A call returns what its own job has come to. -/
  returned : ∀ outcome ∈ session.returns, outcome ∈ session.effects.results

section Accounted

variable [Bot Scalar]
  {parameters : SessionParameters Input Executor Environment Scalar ConstraintState Score}
  {session next : Session Input Executor Environment Scalar ConstraintState Score}

omit [Bot Scalar] in
theorem Session.Accounted.scheduled_nodup (accounted : session.Accounted) :
    (session.scheduled.map Job.call).Nodup :=
  (List.nodup_append.mp (accounted.begun.nodup_iff.mpr List.nodup_range)).2.1

omit [Bot Scalar] in
theorem Session.Accounted.callsOf_nodup (accounted : session.Accounted)
    (awaited : Bool) : (callsOf awaited session.scheduled).Nodup :=
  accounted.scheduled_nodup.sublist (callsOf_sublist awaited _)

omit [Bot Scalar] in
/-- A job that is not done has not settled its call. -/
theorem Session.Accounted.unsettled (accounted : session.Accounted)
    {job : Job Input ConstraintState} (isOutstanding : job ∈ session.outstanding) :
    job.call ∉ session.effects.settled job.isAwaited := by
  have nodup := (accounted.settled job.isAwaited).nodup_iff.mpr
    (accounted.callsOf_nodup job.isAwaited)
  exact fun isSettled =>
    List.disjoint_of_nodup_append nodup isSettled (mem_callsOf isOutstanding)

omit [Bot Scalar] in
/-- What a job that is not done gives to a callback comes behind no last response of it. -/
theorem Session.Accounted.silent_append (accounted : session.Accounted)
    {job : Job Input ConstraintState} (inJob : session.worker.current = [job])
    (isStream : job.isAwaited = false) {more : List (CallResponse Score)}
    (ofCall : ∀ invocation ∈ more, invocation.1 = job.call)
    (silent : more.Pairwise SilentAfter) :
    (session.effects.callbacks ++ more).Pairwise SilentAfter := by
  refine List.pairwise_append.mpr ⟨accounted.silent, silent, ?_⟩
  intro earlier isEarlier later isLater ends same
  have isOutstanding : job ∈ session.outstanding := by
    rw [Session.outstanding, inJob]
    exact List.mem_cons_self
  have unsettled := accounted.unsettled isOutstanding
  rw [isStream] at unsettled
  refine unsettled (List.mem_append_left _ (List.mem_map.mpr ⟨earlier, ?_, ?_⟩))
  · exact List.mem_filter.mpr ⟨isEarlier, ends⟩
  · rw [← same, ofCall later isLater]

omit [Bot Scalar] in
/-- The accounts of the jobs when one of them ends. -/
theorem Session.Accounted.ends (accounted : session.Accounted)
    {job : Job Input ConstraintState} {effects : JobEffects Executor Score}
    (inJob : session.worker.current = [job])
    (settles : session.effects.Settles job.call job.isAwaited effects) :
    (session.returnJob effects).Accounted where
  begun := accounted.begun
  waited := accounted.waited
  settled := by
    intro awaited
    have before := List.perm_iff_count.mp (accounted.settled awaited)
    rw [Session.outstanding, inJob, callsOf_append, callsOf_singleton] at before
    refine List.perm_iff_count.mpr fun call => ?_
    rw [← show _ = (callsOf awaited (session.returnJob effects).scheduled).count call from
      before call]
    simp only [List.count_append, Session.outstanding, Session.returnJob, Worker.current,
      List.nil_append, settles.count_settled]
    omega
  silent := by
    change effects.callbacks.Pairwise SilentAfter
    cases settles with
    | result response isAwaited results callbacks dropped =>
      rw [callbacks]
      exact accounted.silent
    | last response isStream ends callbacks results dropped =>
      rw [callbacks]
      refine accounted.silent_append inJob isStream ?_ (List.pairwise_singleton _ _)
      intro invocation member
      rw [List.mem_singleton.mp member]
    | dropped isStream dropped callbacks results =>
      rw [callbacks]
      exact accounted.silent
  returned := by
    intro outcome isReturn
    have isResult := accounted.returned outcome isReturn
    change outcome ∈ effects.results
    cases settles with
    | result response isAwaited results callbacks dropped =>
      rw [results]
      exact List.mem_append_left _ isResult
    | last response isStream ends callbacks results dropped =>
      rw [results]
      exact isResult
    | dropped isStream dropped callbacks results =>
      rw [results]
      exact isResult

omit [Bot Scalar] in
/-- The accounts when a job goes on, and may stream. -/
theorem Session.Accounted.continues (accounted : session.Accounted)
    {job : Job Input ConstraintState} {responses : List (Responses Score)}
    (cancelled : Bool) (executor : Executor) (lastPrefillTokenId : Int)
    {worker : Worker Input Executor Environment Scalar ConstraintState Score}
    (inJob : session.worker.current = [job]) (staysInJob : worker.current = [job])
    (streams : ∀ item ∈ responses, job.isAwaited = false ∧
      isLast (.ok item : StatusOr (Responses Score)) = false) :
    Session.Accounted { session with
      cancelled, worker
      effects := { session.effects with executor, lastPrefillTokenId }.stream
        job.call responses } where
  begun := accounted.begun
  waited := accounted.waited
  settled := by
    intro awaited
    have same := JobEffects.settled_stream (fun item member => (streams item member).2)
      { session.effects with executor, lastPrefillTokenId } job.call
    simp only [Session.outstanding, staysInJob, same]
    have before := accounted.settled awaited
    rw [Session.outstanding, inJob] at before
    exact before
  silent := by
    cases responses with
    | nil =>
      rw [JobEffects.stream_nil]
      exact accounted.silent
    | cons first rest =>
      refine accounted.silent_append inJob (streams first List.mem_cons_self).1 ?_ ?_
      · intro invocation member
        obtain ⟨item, -, rfl⟩ := List.mem_map.mp member
        rfl
      · refine List.pairwise_of_forall_mem_list ?_
        intro earlier isEarlier later _ ends
        obtain ⟨item, isItem, rfl⟩ := List.mem_map.mp isEarlier
        rw [(streams item isItem).2] at ends
        cases ends
  returned := accounted.returned

omit [Bot Scalar] in
/-- The accounts when a stream goes over from its prefill to its decode. -/
theorem Session.Accounted.handsOver (accounted : session.Accounted)
    {job decode : Job Input ConstraintState} {workerThread : StatusOr Unit}
    {pool : ThreadPool (Job Input ConstraintState)}
    (inJob : session.worker.current = [job]) (sameCall : decode.call = job.call)
    (sameKind : decode.isAwaited = job.isAwaited)
    (scheduled : session.pool.schedule workerThread decode = .ok pool) :
    Session.Accounted ({ session with
      pool, accepted := session.accepted ++ [decode], worker := .returned } :
        Session Input Executor Environment Scalar ConstraintState Score) where
  begun := accounted.begun
  waited := accounted.waited
  settled := by
    intro awaited
    have before := List.perm_iff_count.mp (accounted.settled awaited)
    rw [Session.outstanding, inJob, callsOf_append, callsOf_singleton] at before
    refine List.perm_iff_count.mpr fun call => ?_
    rw [← before call]
    simp only [Session.outstanding, (ThreadPool.schedule_ok scheduled).1, Worker.current,
      List.nil_append, callsOf_append, callsOf_singleton, sameKind, sameCall, List.count_append]
    omega
  silent := accounted.silent
  returned := accounted.returned

omit [Bot Scalar] in
theorem Session.Accounted.advances (accounted : session.Accounted)
    {action : SessionAction Input Environment ConstraintState Score}
    (advances : session.Advances parameters next action) : next.Accounted := by
  cases advances with
  | continues job responses cancelled executor lastPrefillTokenId worker inJob staysInJob streams
      result =>
    rw [result]
    exact accounted.continues cancelled executor lastPrefillTokenId inJob staysInJob streams
  | ends job effects inJob settles lost result =>
    rw [result]
    exact accounted.ends inJob settles
  | handsOver job decode workerThread pool inJob sameCall sameKind scheduled result =>
    rw [result]
    exact accounted.handsOver inJob sameCall sameKind scheduled

omit [Bot Scalar] in
/-- A call that begins takes the next number. -/
theorem Session.Accounted.begin (accounted : session.Accounted)
    (request : Request Input ConstraintState) :
    (session.begin parameters request).Accounted := by
  have begun := List.perm_iff_count.mp accounted.begun
  obtain ⟨cancelled, isFirstTurn, ⟨status, rejected⟩ | ⟨job, isNext, ready⟩⟩ :=
    Session.begin_cases parameters session request
  · rw [rejected]
    refine ⟨List.perm_iff_count.mpr fun call => ?_, accounted.waited, accounted.settled,
      accounted.silent, accounted.returned⟩
    have before := begun call
    simp only [Session.rejectCall, List.map_append, List.map_cons, List.map_nil,
      List.count_append, List.range_succ] at before ⊢
    omega
  · rw [ready]
    refine ⟨List.perm_iff_count.mpr fun call => ?_, accounted.waited, accounted.settled,
      accounted.silent, accounted.returned⟩
    have before := begun call
    simp only [Session.prepare, List.map_append, List.map_cons, List.map_nil, isNext,
      List.count_append, List.range_succ] at before ⊢
    omega

omit [Bot Scalar] in
/-- A call that schedules its job waits for it, or its stream begins. -/
theorem Session.Accounted.schedule (accounted : session.Accounted)
    {call : CallId} {workerThread : StatusOr Unit}
    (scheduled : session.schedule parameters call workerThread = some next) :
    next.Accounted := by
  obtain ⟨job, isPrepared, rfl, cases⟩ := Session.schedule_cases scheduled
  have distinct : (session.prepared.map Job.call).Nodup := by
    have all := accounted.begun.nodup_iff.mpr List.nodup_range
    rw [List.append_assoc] at all
    exact (List.nodup_append.mp all).1
  have prepared := List.perm_iff_count.mp
    (keys_perm_of_filter distinct (List.mem_map_of_mem isPrepared))
  have begun := List.perm_iff_count.mp accounted.begun
  rcases cases with ⟨status, -, rfl⟩ | ⟨pool, accepted, rfl⟩
  · refine ⟨List.perm_iff_count.mpr fun call => ?_, accounted.waited, accounted.settled,
      accounted.silent, accounted.returned⟩
    have before := begun call
    have removed := prepared call
    simp only [Session.rejectCall, List.map_append, List.map_cons, List.map_nil,
      List.count_append, List.count_cons, List.count_nil] at before removed ⊢
    omega
  · refine ⟨List.perm_iff_count.mpr fun call => ?_, List.perm_iff_count.mpr fun call => ?_,
      fun awaited => List.perm_iff_count.mpr fun call => ?_, accounted.silent,
      accounted.returned⟩
    · have before := begun call
      have removed := prepared call
      simp only [List.map_append, List.map_cons, List.map_nil, List.count_append,
        List.count_cons, List.count_nil] at before removed ⊢
      omega
    · have before := List.perm_iff_count.mp accounted.waited call
      rw [callsOf_append, callsOf_singleton]
      cases job.isAwaited with
      | true =>
        simp only [if_true, List.map_append, List.map_cons, List.map_nil, List.count_append]
          at before ⊢
        omega
      | false =>
        simp only [Bool.false_eq_true, if_false, List.append_nil]
        exact before
    · have before := List.perm_iff_count.mp (accounted.settled awaited) call
      simp only [Session.outstanding, (ThreadPool.schedule_ok accepted).1, callsOf_append,
        List.count_append] at before ⊢
      omega

omit [Bot Scalar] in
/-- A pool that is done has no job that is not. -/
theorem Session.Staffed.outstanding_of_isDone (staffed : session.Staffed)
    (isDone : session.pool.isDone = true) : session.outstanding = [] := by
  obtain ⟨tasks, inactive⟩ := session.pool.isDone_iff.mp isDone
  have active := staffed.active
  have idle : session.worker.isIdle = true := by
    by_contra busy
    rw [if_neg busy] at active
    omega
  rw [Session.outstanding, tasks, Worker.current_of_isIdle idle]
  rfl

omit [Bot Scalar] in
/-- A call whose wait does not time out finds its result. -/
theorem Session.Accounted.awaited_mem (accounted : session.Accounted)
    (staffed : session.Staffed) {call : CallId} {initialResult : StatusOr (Responses Score)}
    (waits : session.waiting.lookup call = some initialResult)
    (isDone : session.pool.isDone = true) :
    (call, session.awaited call initialResult) ∈ session.effects.results := by
  unfold Session.awaited ThreadPool.waitUntilDone
  rw [if_pos isDone]
  have isWaiting : call ∈ session.waiting.map Prod.fst :=
    List.mem_map.mpr ⟨(call, initialResult), mem_of_lookup_eq_some waits, rfl⟩
  have settled := accounted.settled true
  rw [staffed.outstanding_of_isDone isDone] at settled
  have hasResult : call ∈ session.effects.results.map Prod.fst := by
    have member := settled.mem_iff.mpr
      (accounted.waited.mem_iff.mp (List.mem_append_left _ isWaiting))
    rcases List.mem_append.mp member with isResult | none
    · exact isResult
    · cases none
  cases found : session.effects.results.lookup call with
  | none =>
    obtain ⟨result, isResult, same⟩ := List.mem_map.mp hasResult
    have differs := List.lookup_eq_none_iff.mp found result isResult
    simp [same] at differs
  | some response => exact mem_of_lookup_eq_some found

omit [Bot Scalar] in
theorem Session.Accounted.endWait (accounted : session.Accounted)
    (staffed : session.Staffed) {call : CallId} (isDone : session.pool.isDone = true)
    (ended : session.endWait call = some next) : next.Accounted := by
  obtain ⟨initialResult, waits, rfl⟩ := Session.endWait_some ended
  have distinct : (session.waiting.map Prod.fst).Nodup :=
    (List.nodup_append.mp (accounted.waited.nodup_iff.mpr (accounted.callsOf_nodup true))).1
  have removed : (call :: (session.waiting.filter fun other => decide (other.1 ≠ call)).map
      Prod.fst).Perm (session.waiting.map Prod.fst) :=
    keys_perm_of_filter distinct
      (List.mem_map.mpr ⟨(call, initialResult), mem_of_lookup_eq_some waits, rfl⟩)
  refine ⟨accounted.begun, List.perm_iff_count.mpr fun other => ?_, accounted.settled,
    accounted.silent, ?_⟩
  · have before := List.perm_iff_count.mp accounted.waited other
    have one := List.perm_iff_count.mp removed other
    simp only [List.map_append, List.map_cons, List.map_nil, List.count_append, List.count_cons,
      List.count_nil] at before one ⊢
    omega
  · intro outcome isReturn
    rcases List.mem_append.mp isReturn with earlier | isNew
    · exact accounted.returned outcome earlier
    · rw [List.mem_singleton.mp isNew]
      exact accounted.awaited_mem staffed waits isDone

omit [Bot Scalar] in
/-- Only what is in the queue and with the worker matters to the accounts of the jobs. -/
theorem Session.Accounted.ofWorker (accounted : session.Accounted)
    (pool : ThreadPool (Job Input ConstraintState))
    (worker : Worker Input Executor Environment Scalar ConstraintState Score)
    (outstanding : worker.current ++ pool.tasks = session.outstanding) :
    Session.Accounted { session with pool, worker } where
  begun := accounted.begun
  waited := accounted.waited
  settled := by
    intro awaited
    rw [Session.outstanding, outstanding]
    exact accounted.settled awaited
  silent := accounted.silent
  returned := accounted.returned

omit [Bot Scalar] in
theorem Session.Accounted.takeTask (accounted : session.Accounted)
    (took : session.takeTask = some next) : next.Accounted := by
  unfold Session.takeTask at took
  split at took
  next idle =>
    obtain ⟨⟨job, pool⟩, taken, rfl⟩ := Option.map_eq_some_iff.mp took
    obtain ⟨rest, queue, rfl⟩ := ThreadPool.takeTask_some taken
    refine accounted.ofWorker _ _ ?_
    rw [Session.outstanding, idle, queue]
    rfl
  · cases took

omit [Bot Scalar] in
theorem Session.Accounted.completeTask (accounted : session.Accounted)
    (completed : session.completeTask = some next) : next.Accounted := by
  unfold Session.completeTask at completed
  split at completed
  next returned =>
    cases completed
    refine accounted.ofWorker _ _ ?_
    rw [Session.outstanding, returned]
    rfl
  · cases completed

end Accounted

/-! ## Every run -/

section Run

variable [Bot Scalar]
  {parameters : SessionParameters Input Executor Environment Scalar ConstraintState Score}
  {session next : Session Input Executor Environment Scalar ConstraintState Score}

def SessionAction.isWorker : SessionAction Input Environment ConstraintState Score → Bool
  | .begin _ => false
  | .schedule _ _ => false
  | .endWait _ => false
  | .cancelProcess => false
  | .stopPool => false
  | _ => true

/-- Waits of calls end because the pool is done. A wait that times out leaves a job that has
references to the variables of a call that has returned, and what this job does is undefined. -/
def Session.waitsInTime
    (session : Session Input Executor Environment Scalar ConstraintState Score) :
    SessionAction Input Environment ConstraintState Score → Bool
  | .endWait _ => session.pool.isDone
  | _ => true

/-- The accounts and the pool, which every step keeps. -/
def Session.InOrder
    (session : Session Input Executor Environment Scalar ConstraintState Score) : Prop :=
  session.Accounted ∧ session.Staffed

theorem Session.InOrder.step (inOrder : session.InOrder)
    {action : SessionAction Input Environment ConstraintState Score}
    (inTime : session.waitsInTime action = true)
    (stepped : session.step parameters action = some next) : next.InOrder := by
  obtain ⟨accounted, staffed⟩ := inOrder
  cases action with
  | begin request =>
    cases stepped
    refine ⟨accounted.begin request, ?_⟩
    obtain ⟨cancelled, isFirstTurn, ⟨status, rejected⟩ | ⟨job, -, ready⟩⟩ :=
      Session.begin_cases parameters session request
    · rw [rejected]
      exact staffed.congr rfl rfl
    · rw [ready]
      exact staffed.congr rfl rfl
  | schedule call workerThread =>
    refine ⟨accounted.schedule stepped, ?_⟩
    obtain ⟨job, -, -, ⟨status, -, rfl⟩ | ⟨pool, scheduled, rfl⟩⟩ :=
      Session.schedule_cases stepped
    · exact staffed.congr rfl rfl
    · exact staffed.queues scheduled rfl
  | endWait call =>
    refine ⟨accounted.endWait staffed inTime stepped, ?_⟩
    obtain ⟨initialResult, -, rfl⟩ := Session.endWait_some stepped
    exact staffed.congr rfl rfl
  | cancelProcess =>
    cases stepped
    exact ⟨⟨accounted.begun, accounted.waited, accounted.settled, accounted.silent,
      accounted.returned⟩, staffed.congr rfl rfl⟩
  | stopPool =>
    cases stepped
    exact ⟨accounted.ofWorker { session.pool with stopped := true } session.worker rfl,
      staffed.active, staffed.limit, staffed.threads⟩
  | takeTask => exact ⟨accounted.takeTask stepped, staffed.takeTask stepped⟩
  | completeTask => exact ⟨accounted.completeTask stepped, staffed.completeTask stepped⟩
  | _ =>
    have advances := staffed.advances_of_isInJob rfl stepped
    exact ⟨accounted.advances advances, staffed.advances advances⟩

theorem Session.inOrder_of_execute
    {start : Session Input Executor Environment Scalar ConstraintState Score}
    {actions : List (SessionAction Input Environment ConstraintState Score)}
    (starts : (Session.machine parameters).Initial start)
    (inTime : (Session.machine parameters).GuardedAlong
      (fun session action => session.waitsInTime action = true) start actions)
    (executed : (Session.machine parameters).execute start actions = some session) :
    session.InOrder := by
  refine Machine.execute_invariant Session.InOrder ?_ ?_ inTime executed
  · intro session action next inductionHypothesis inTime stepped
    exact inductionHypothesis.step inTime stepped
  · obtain ⟨lastPrefillTokenId, executor, rfl⟩ := starts
    refine ⟨⟨List.Perm.refl _, List.Perm.refl _, fun awaited => ?_, List.Pairwise.nil, ?_⟩,
      rfl, Nat.one_pos, ?_⟩
    · cases awaited <;> exact List.Perm.refl _
    · intro outcome isReturn
      cases isReturn
    · rintro (busy | queued)
      · cases busy
      · exact absurd rfl queued

omit [Bot Scalar] in
/-- Only a step at which a call loses its callback adds the call to the lost ones. -/
theorem Session.Advances.loses
    {action : SessionAction Input Environment ConstraintState Score} {call : CallId}
    (advances : session.Advances parameters next action)
    (kept : call ∉ session.effects.dropped) (isLost : call ∈ next.effects.dropped) :
    session.Loses parameters action call := by
  cases advances with
  | continues job responses cancelled executor lastPrefillTokenId worker inJob staysInJob streams
      result =>
    rw [result] at isLost
    exact absurd isLost kept
  | ends job effects inJob settles lost result =>
    rw [result] at isLost
    rcases lost with same | loses
    · exact absurd (same ▸ isLost) kept
    · have mine : call = job.call := by
        cases settles with
        | result response isAwaited results callbacks dropped =>
          exact absurd (dropped ▸ isLost) kept
        | last response isStream ends callbacks results dropped =>
          exact absurd (dropped ▸ isLost) kept
        | dropped isStream dropped callbacks results =>
          rcases List.mem_append.mp (dropped ▸ isLost) with earlier | new
          · exact absurd earlier kept
          · exact List.mem_singleton.mp new
      rw [mine]
      exact loses
  | handsOver job decode workerThread pool inJob sameCall sameKind scheduled result =>
    rw [result] at isLost
    exact absurd isLost kept

theorem Session.Staffed.loses (staffed : session.Staffed)
    {action : SessionAction Input Environment ConstraintState Score} {call : CallId}
    (stepped : session.step parameters action = some next)
    (kept : call ∉ session.effects.dropped) (isLost : call ∈ next.effects.dropped) :
    session.Loses parameters action call := by
  cases action with
  | begin request =>
    cases stepped
    refine absurd ?_ kept
    obtain ⟨cancelled, isFirstTurn, ⟨status, rejected⟩ | ⟨job, -, ready⟩⟩ :=
      Session.begin_cases parameters session request
    · rw [rejected] at isLost
      exact isLost
    · rw [ready] at isLost
      exact isLost
  | schedule call workerThread =>
    obtain ⟨job, -, -, ⟨status, -, rfl⟩ | ⟨pool, -, rfl⟩⟩ := Session.schedule_cases stepped
    · exact absurd isLost kept
    · exact absurd isLost kept
  | endWait call =>
    obtain ⟨initialResult, -, rfl⟩ := Session.endWait_some stepped
    exact absurd isLost kept
  | cancelProcess =>
    cases stepped
    exact absurd isLost kept
  | stopPool =>
    cases stepped
    exact absurd isLost kept
  | takeTask =>
    simp only [Session.step, Session.takeTask] at stepped
    split at stepped
    · obtain ⟨taken, -, rfl⟩ := Option.map_eq_some_iff.mp stepped
      exact absurd isLost kept
    · cases stepped
  | completeTask =>
    simp only [Session.step, Session.completeTask] at stepped
    split at stepped
    · cases stepped
      exact absurd isLost kept
    · cases stepped
  | _ => exact (staffed.advances_of_isInJob rfl stepped).loses kept isLost

/-- A step of the run at which the call loses its callback. -/
def Session.LosesAlong
    (parameters : SessionParameters Input Executor Environment Scalar ConstraintState Score)
    (start : Session Input Executor Environment Scalar ConstraintState Score)
    (actions : List (SessionAction Input Environment ConstraintState Score))
    (call : CallId) : Prop :=
  ∃ earlier action later before, actions = earlier ++ action :: later ∧
    (Session.machine parameters).execute start earlier = some before ∧
    before.Loses parameters action call

/-- Each lost callback was lost at a step of the run. -/
theorem Session.losesAlong_of_mem
    {start : Session Input Executor Environment Scalar ConstraintState Score}
    {actions : List (SessionAction Input Environment ConstraintState Score)}
    (starts : (Session.machine parameters).Initial start)
    (inTime : (Session.machine parameters).GuardedAlong
      (fun session action => session.waitsInTime action = true) start actions)
    (executed : (Session.machine parameters).execute start actions = some session)
    {call : CallId} (isLost : call ∈ session.effects.dropped) :
    Session.LosesAlong parameters start actions call := by
  have noneLost : call ∉ start.effects.dropped := by
    obtain ⟨lastPrefillTokenId, executor, rfl⟩ := starts
    exact List.not_mem_nil
  obtain ⟨earlier, action, later, before, next, rfl, reached, stepped, kept, lost⟩ :=
    Machine.exists_step_of_execute (fun session => call ∈ session.effects.dropped) executed
      noneLost isLost
  have staffed := (Session.inOrder_of_execute starts inTime.left reached).2
  exact ⟨earlier, action, later, before, rfl, reached, staffed.loses stepped kept lost⟩

/-- A worker with jobs left has a step to take. -/
theorem Session.Staffed.worker_steps (staffed : session.Staffed)
    (someLeft : session.outstanding ≠ []) (environment : Environment) :
    ∃ action, action.isWorker = true ∧ (session.step parameters action).isSome = true := by
  cases standing : session.worker with
  | idle =>
    cases queue : session.pool.tasks with
    | nil =>
      rw [Session.outstanding, standing, queue] at someLeft
      exact absurd rfl someLeft
    | cons job rest =>
      have thread : 0 < session.pool.numThreads :=
        staffed.threads (Or.inr (by rw [queue]; exact List.cons_ne_nil _ _))
      have inactive : session.pool.numActiveTasks = 0 := by
        rw [staffed.active, standing]
        rfl
      refine ⟨.takeTask, rfl, ?_⟩
      rw [Session.step, Session.takeTask, standing]
      simp only [ThreadPool.takeTask, queue]
      rw [if_pos (inactive ▸ thread)]
      rfl
  | starting job =>
    cases job with
    | prefill call contents after =>
      refine ⟨.prefill environment, rfl, ?_⟩
      rw [Session.step, Session.prefill, standing]
      cases ran : session.effects.prefill parameters call contents after environment with
      | mk effects goesOn =>
        simp only [ran]
        cases after <;> cases goesOn <;> rfl
    | decode call constraint after =>
      refine ⟨.startDecode (.ok ()), rfl, ?_⟩
      rw [Session.step, Session.startDecode, standing]
      cases parameters.idsStatus (.ok ()) <;> rfl
    | textScoring call targetText storeTokenLengths =>
      refine ⟨.score environment (.ok ()), rfl, ?_⟩
      rw [Session.step, Session.score, standing]
      rfl
  | loadingCancelled call contents constraint =>
    refine ⟨.loadCancelled, rfl, ?_⟩
    rw [Session.step, Session.loadCancelled, standing]
    cases session.cancelled <;> rfl
  | clearingCancelled call contents constraint =>
    refine ⟨.clearCancelled, rfl, ?_⟩
    rw [Session.step, Session.clearCancelled, standing]
    rfl
  | schedulingDecode call contents constraint =>
    refine ⟨.scheduleDecode (.ok ()), rfl, ?_⟩
    rw [Session.step, Session.scheduleDecode, standing]
    simp only
    cases session.pool.schedule (.ok ()) (.decode call constraint .invokeCallback) <;> rfl
  | polling run =>
    refine ⟨.poll ⟨environment, .ok ([], []), false⟩, rfl, ?_⟩
    rw [Session.step, Session.poll, standing]
    cases session.cancelled <;> rfl
  | inStep run stepEnvironment =>
    refine ⟨.runOneStep, rfl, ?_⟩
    rw [Session.step, Session.runOneStep, standing]
    simp only
    cases decodeStep (parameters.decodeParameters run.after) run.maxNumTokens
      { stepEnvironment with cancelled := false } run.state <;> rfl
  | leavingLoop run =>
    refine ⟨.finishDecode environment, rfl, ?_⟩
    rw [Session.step, Session.finishDecode, standing]
    simp only
    cases finalPrefill (parameters.decodeParameters run.after) environment run.state <;> rfl
  | returned =>
    refine ⟨.completeTask, rfl, ?_⟩
    rw [Session.step, Session.completeTask, standing]
    rfl

end Run

/-- **Sessions deliver.** However the steps of the calls, of cancellations and of the worker
interleave, as long as no wait times out: every call that schedules its job gets exactly one last
response, unless its job is not done, or its callback is lost; a callback is lost only where its
stream schedules the decode in a stopped pool, or its decode has no buffer of ids; nothing comes
behind a last response; a call that waits returns once, with what its own job has come to; and
while there are jobs that are not done the worker has a step to take. -/
theorem session_delivers [Bot Scalar]
    (parameters : SessionParameters Input Executor Environment Scalar ConstraintState Score)
    {start session : Session Input Executor Environment Scalar ConstraintState Score}
    {actions : List (SessionAction Input Environment ConstraintState Score)}
    (starts : (Session.machine parameters).Initial start)
    (inTime : (Session.machine parameters).GuardedAlong
      (fun session action => session.waitsInTime action = true) start actions)
    (executed : (Session.machine parameters).execute start actions = some session)
    (environment : Environment) :
    session.Accounted ∧
      (∀ call ∈ session.effects.dropped,
        Session.LosesAlong parameters start actions call) ∧
      (session.outstanding ≠ [] → ∃ action, action.isWorker = true ∧
        (session.step parameters action).isSome = true) := by
  obtain ⟨accounted, staffed⟩ := Session.inOrder_of_execute starts inTime executed
  refine ⟨accounted, fun call isLost => ?_, fun someLeft => ?_⟩
  · exact Session.losesAlong_of_mem starts inTime executed isLost
  · exact staffed.worker_steps someLeft environment

/-- Two streams that overlap, then a prefill that is waited for, then a stream whose decode
finds the pool stopped. -/
def deliveredTurns : List (SessionAction Int (List Int) Unit Nat) :=
  overlappingTurns ++
    [.begin (.runPrefill [6]), .schedule 2 (.ok ()), .takeTask, .prefill [], .completeTask,
      .endWait 2] ++
    [.begin (.generateContentStream [7] none), .schedule 3 (.ok ()), .takeTask, .prefill [],
      .loadCancelled, .clearCancelled, .stopPool, .scheduleDecode (.ok ()), .completeTask]

/-- Both overlapping streams have got their last responses, the prefill has returned, and the
last stream has lost its callback. -/
theorem session_delivers_overlapping : ∃ session,
    (Session.machine echoSession).execute { effects := ⟨0, 0, [], [], []⟩ } deliveredTurns =
      some session ∧
    session.effects.ended = [0, 1] ∧ session.returns.map Prod.fst = [2] ∧
    session.effects.dropped = [3] ∧ session.outstanding = [] ∧ session.Accounted ∧
    Session.LosesAlong echoSession { effects := ⟨0, 0, [], [], []⟩ } deliveredTurns 3 := by
  have order : ((Session.machine echoSession).execute { effects := ⟨0, 0, [], [], []⟩ }
      deliveredTurns).map (fun session =>
        ((session.effects.ended, session.returns.map Prod.fst), session.effects.dropped,
          session.outstanding.map Job.call)) = some (([0, 1], [2]), [3], []) := by
    rfl
  have inTime : (Session.machine echoSession).GuardedAlong
      (fun session action => session.waitsInTime action = true)
      { effects := ⟨0, 0, [], [], []⟩ } deliveredTurns := by
    decide
  cases executed : (Session.machine echoSession).execute { effects := ⟨0, 0, [], [], []⟩ }
      deliveredTurns with
  | none =>
    rw [executed] at order
    cases order
  | some session =>
    rw [executed] at order
    simp only [Option.map_some, Option.some.injEq, Prod.mk.injEq, List.map_eq_nil_iff] at order
    obtain ⟨⟨ended, returned⟩, dropped, done⟩ := order
    obtain ⟨accounted, lost, -⟩ := session_delivers echoSession ⟨0, 0, rfl⟩ inTime executed []
    refine ⟨session, rfl, ended, returned, dropped, done, accounted, lost 3 ?_⟩
    rw [dropped]
    exact List.mem_singleton_self 3

end LiteRTLM.Core.SessionBasic
