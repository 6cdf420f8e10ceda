import LiteRTLM.Core.Tasks.Tasks
import LiteRTLM.Framework.ThreadPool
import LiteRTLM.Library.Machine

/-!
Contract: one `SessionBasic` on the engine's pool of one worker thread, as a state machine.

A call of the session is two steps, between which other threads may do anything: up to the
preprocessed contents, with the reset of `cancelled_`, and `Schedule`. `RunPrefill`,
`RunDecode` and `RunTextScoring` then wait for the pool, and `GenerateContent` is `RunPrefill`
followed by `RunDecode`. On the worker, a decode polls `cancelled_` before each of its steps,
and the callback of `GenerateContentStream` reads the flag, resets it and schedules the decode
in three steps.

Owns: the session's state, its calls from any number of threads, the jobs it schedules, the
worker, and the log of the callbacks it invokes.

Does not own: prompt templates, preprocessing, the encoders and the executor, which are
parameters, the benchmark, other sessions on the same executor, and what comes behind a wait
that times out: its job keeps references to the variables of a call that has returned.
-/

namespace LiteRTLM.Core.SessionBasic

open LiteRTLM.Components LiteRTLM.Engine LiteRTLM.Executor LiteRTLM.Library LiteRTLM.Framework
open LiteRTLM.Util LiteRTLM.Core.Tasks

/-- The calls of a session, numbered as they begin. -/
abbrev CallId := Nat

/-- What is done with the outcome of a prefill. -/
inductive AfterPrefill (ConstraintState : Type) where
  /-- `RunPrefill` returns it. -/
  | returnStatus
  /-- `RunPrefillAsync` passes it to its callback. -/
  | invokeCallback
  /-- `GenerateContentStream` goes on with a decode if it is OK. -/
  | decodeStreaming (constraint : Option (Constraint ConstraintState))

/-- What is done with the responses of a decode. -/
inductive AfterDecode where
  /-- `RunDecode` returns them. -/
  | returnResponses
  /-- They are streamed to a callback. -/
  | invokeCallback
deriving DecidableEq

/-- A closure that is scheduled on the pool. -/
inductive Job (Input ConstraintState : Type) where
  | prefill (call : CallId) (contents : List Input) (after : AfterPrefill ConstraintState)
  | decode (call : CallId) (constraint : Option (Constraint ConstraintState))
      (after : AfterDecode)
  | textScoring (call : CallId) (targetText : Text) (storeTokenLengths : Bool)

def Job.call {Input ConstraintState : Type} : Job Input ConstraintState → CallId
  | .prefill call _ _ => call
  | .decode call _ _ => call
  | .textScoring call _ _ => call

/-- Whether the call that schedules a job waits for it. -/
def Job.isAwaited {Input ConstraintState : Type} : Job Input ConstraintState → Bool
  | .prefill _ _ .returnStatus => true
  | .decode _ _ .returnResponses => true
  | .textScoring _ _ _ => true
  | _ => false

/-- A call of the session. Callbacks are not null. -/
inductive Request (Input ConstraintState : Type) where
  | runPrefill (contents : List Input)
  | runPrefillAsync (contents : List Input)
  | runDecode (constraint : Option (Constraint ConstraintState))
  | runDecodeAsync (constraint : Option (Constraint ConstraintState))
  | generateContentStream (contents : List Input)
      (constraint : Option (Constraint ConstraintState))
  | runTextScoring (targetTexts : List Text) (storeTokenLengths : Bool)

/-- The components of a session, and the functions that it calls. -/
structure SessionParameters (Input Executor Environment Scalar ConstraintState Score : Type) where
  taskExecutor : TaskExecutor Executor Environment Scalar ConstraintState
  tokenizer : Tokenizer
  arithmetic : ScoreArithmetic Score
  stopTokenDetector : StopTokenDetector
  numOutputCandidates : Nat
  /-- Whether `sampler_` is not null. -/
  hasSampler : Bool
  /-- `ApplyPromptTemplates` and `PreprocessContents`, which read and write
  `is_first_turn_`. -/
  preprocess : Bool → List Input → StatusOr (List Input) × Bool
  /-- `ProcessAndCombineContents`. -/
  processAndCombineContents : Environment → List Input → StatusOr ExecutorTextData
  /-- `ScoreCustomSampling` of one target text, from the given ids. -/
  scoreCustomSampling : Environment → Text → Bool → List Int →
    EStateM Status Executor (Responses Score)
  /-- What `StatusOr<Responses>` holds before it is written. -/
  unwritten : StatusOr (Responses Score)

/-- A decode on the worker, with the token limit that it has read and the environments that
its loop has met. -/
structure DecodeRun (Executor Environment Scalar ConstraintState Score : Type) where
  call : CallId
  constraint : Option (Constraint ConstraintState)
  after : AfterDecode
  maxNumTokens : Nat
  environments : List (StepEnvironment Environment Score)
  state : DecodeState Executor Scalar ConstraintState Score

/-- Where the worker stands. -/
inductive Worker (Input Executor Environment Scalar ConstraintState Score : Type) where
  | idle
  /-- It has taken a job out of the queue. -/
  | starting (job : Job Input ConstraintState)
  /-- In the callback of `GenerateContentStream`, after a prefill that was OK. -/
  | loadingCancelled (call : CallId) (contents : List Input)
      (constraint : Option (Constraint ConstraintState))
  /-- In its `RunDecodeAsync`, which begins with the flag. -/
  | clearingCancelled (call : CallId) (contents : List Input)
      (constraint : Option (Constraint ConstraintState))
  | schedulingDecode (call : CallId) (contents : List Input)
      (constraint : Option (Constraint ConstraintState))
  /-- At the poll of the decode loop. -/
  | polling (run : DecodeRun Executor Environment Scalar ConstraintState Score)
  /-- In a step of the loop that meets the given environment. -/
  | inStep (run : DecodeRun Executor Environment Scalar ConstraintState Score)
      (environment : StepEnvironment Environment Score)
  /-- Behind the loop. -/
  | leavingLoop (run : DecodeRun Executor Environment Scalar ConstraintState Score)
  /-- The closure has returned. -/
  | returned

/-- A response that a callback is invoked with, or that a call returns. -/
abbrev CallResponse (Score : Type) := CallId × StatusOr (Responses Score)

/-- What the jobs of a session work on, and what they have written. The status of a prefill is
kept as the responses that a callback would get. -/
structure JobEffects (Executor Score : Type) where
  executor : Executor
  lastPrefillTokenId : Int
  /-- The variables of the calls that wait. -/
  results : List (CallResponse Score) := []
  /-- The invocations of callbacks, oldest first. -/
  callbacks : List (CallResponse Score) := []
  /-- The calls whose callbacks were destroyed before their last responses. -/
  dropped : List CallId := []

/-- A session, with the calls that have begun and what they have come to. -/
structure Session (Input Executor Environment Scalar ConstraintState Score : Type) where
  cancelled : Bool := false
  isFirstTurn : Bool := true
  effects : JobEffects Executor Score
  pool : ThreadPool (Job Input ConstraintState) := .create "engine" 1
  worker : Worker Input Executor Environment Scalar ConstraintState Score := .idle
  nextCall : CallId := 0
  /-- The calls that are about to schedule their jobs. -/
  prepared : List (Job Input ConstraintState) := []
  /-- The calls that wait for the pool, with what their variables hold at first. -/
  waiting : List (CallResponse Score) := []
  /-- The errors of calls that have scheduled nothing. -/
  rejected : List (CallResponse Score) := []
  /-- What calls have returned after they had waited. -/
  returns : List (CallResponse Score) := []
  /-- The jobs that the pool has accepted, oldest first. -/
  accepted : List (Job Input ConstraintState) := []
  /-- Those of them that calls have scheduled, not streams. -/
  scheduled : List (Job Input ConstraintState) := []

inductive SessionAction (Input Environment ConstraintState Score : Type) where
  /-- A call begins, up to its `Schedule`. -/
  | begin (request : Request Input ConstraintState)
  /-- The call schedules its job. -/
  | schedule (call : CallId) (workerThread : StatusOr Unit)
  /-- `WaitUntilDone` returns to a call. -/
  | endWait (call : CallId)
  | cancelProcess
  /-- The engine stops the pool; the worker goes on until the queue is empty. -/
  | stopPool
  | takeTask
  /-- The job of the worker is a prefill, and runs. -/
  | prefill (environment : Environment)
  | loadCancelled
  | clearCancelled
  | scheduleDecode (workerThread : StatusOr Unit)
  /-- The job of the worker is a decode, which comes to its loop, given what becomes of the
  buffer for its ids. -/
  | startDecode (idsBuffer : StatusOr Unit)
  /-- The decode polls the flag. Its next step will meet the environment. -/
  | poll (environment : StepEnvironment Environment Score)
  | runOneStep
  | finishDecode (finalEnvironment : Environment)
  /-- The job of the worker scores a text. -/
  | score (environment : Environment) (idsBuffer : StatusOr Unit)
  | completeTask

/-! ## Decodes -/

section Decode

variable {Input Executor Environment Scalar ConstraintState Score : Type}
  (parameters : SessionParameters Input Executor Environment Scalar ConstraintState Score)

/-- The parameters of `Tasks::Decode`. -/
def SessionParameters.decodeParameters (after : AfterDecode) :
    DecodeParameters Executor Environment Scalar ConstraintState Score where
  taskExecutor := parameters.taskExecutor
  tokenizer := parameters.tokenizer
  arithmetic := parameters.arithmetic
  isStreaming := decide (after = .invokeCallback)
  isCustomSampling := parameters.hasSampler
  benchmarkDecodeTokenCount := 0

/-- `decoded_ids`: all candidates go on from the last token of the prefill. -/
def SessionParameters.decodedIds (lastPrefillTokenId : Int) : Option (List Int) :=
  if parameters.hasSampler then
    some (List.replicate parameters.numOutputCandidates lastPrefillTokenId)
  else
    none

/-- Whether the ids of a decode can be copied into a buffer; only a sampler needs one. -/
def SessionParameters.idsStatus (idsBuffer : StatusOr Unit) : StatusOr Unit :=
  if parameters.hasSampler then idsBuffer else .ok ()

/-- The variables of `Tasks::Decode` before its loop. -/
def SessionParameters.initialDecode (executor : Executor) (lastPrefillTokenId : Int)
    (constraint : Option (Constraint ConstraintState)) :
    DecodeState Executor Scalar ConstraintState Score :=
  .initial parameters.arithmetic executor parameters.stopTokenDetector
    parameters.numOutputCandidates constraint (parameters.decodedIds lastPrefillTokenId)

/-- What the variable holds at first that an awaited job is to write: a status is OK. -/
def SessionParameters.initialResult :
    Job Input ConstraintState → StatusOr (Responses Score)
  | .prefill _ _ _ => .ok (.ofState .done)
  | _ => parameters.unwritten

/-- `PrefillInternal`: the ids whose last one is kept. -/
def SessionParameters.prefillInternal (environment : Environment) (contents : List Input) :
    EStateM Status Executor ExecutorTextData := do
  match parameters.processAndCombineContents environment contents with
  | .error status => throw status
  | .ok textData => do
    let _ ← (Tasks.prefill parameters.taskExecutor environment (some textData) :
      EStateM Status Executor (Responses Score))
    return textData

end Decode

/-! ## What jobs write -/

namespace JobEffects

variable {Input Executor Environment Scalar ConstraintState Score : Type}
  (parameters : SessionParameters Input Executor Environment Scalar ConstraintState Score)
  (effects : JobEffects Executor Score)

def writeResult (call : CallId) (response : StatusOr (Responses Score)) :
    JobEffects Executor Score :=
  { effects with results := effects.results ++ [(call, response)] }

def invokeCallback (call : CallId) (response : StatusOr (Responses Score)) :
    JobEffects Executor Score :=
  { effects with callbacks := effects.callbacks ++ [(call, response)] }

def dropCallback (call : CallId) : JobEffects Executor Score :=
  { effects with dropped := effects.dropped ++ [call] }

/-- A callback is invoked with the responses of a decode that goes on. -/
def stream (call : CallId) (responses : List (Responses Score)) : JobEffects Executor Score :=
  { effects with callbacks := effects.callbacks ++ responses.map fun item => (call, .ok item) }

/-- A closure with a prefill up to the end of its callback, if that is not the one of
`GenerateContentStream` after an OK prefill: then the callback goes on. -/
def prefill (call : CallId) (contents : List Input) (after : AfterPrefill ConstraintState)
    (environment : Environment) : JobEffects Executor Score × Bool :=
  match parameters.prefillInternal environment contents effects.executor, after with
  | .error status executor, .returnStatus =>
    ({ effects with executor }.writeResult call (.error status), false)
  | .error status executor, _ =>
    ({ effects with executor }.invokeCallback call (.error status), false)
  | .ok textData executor, after =>
    let effects := { effects with
      executor
      lastPrefillTokenId := textData.tokenIds.getLast?.getD effects.lastPrefillTokenId }
    match after with
    | .returnStatus => (effects.writeResult call (.ok (.ofState .done)), false)
    | .invokeCallback => (effects.invokeCallback call (.ok (.ofState .done)), false)
    | .decodeStreaming _ => (effects, true)

/-- The callback of a stream finds that the session is cancelled. -/
def cancelStream (call : CallId) : JobEffects Executor Score :=
  effects.invokeCallback call
    (.error (.cancelledError "Session is cancelled during prefill."))

/-- A decode without ids; the error of a streaming one is ignored. -/
def refuseDecode (call : CallId) (after : AfterDecode) (status : Status) :
    JobEffects Executor Score :=
  match after with
  | .returnResponses => effects.writeResult call (.error status)
  | .invokeCallback => effects.dropCallback call

/-- `Tasks::Decode` has returned. -/
def endDecode (call : CallId) (after : AfterDecode) (executor : Executor)
    (response : StatusOr (Responses Score)) : JobEffects Executor Score :=
  match after with
  | .returnResponses => { effects with executor }.writeResult call response
  | .invokeCallback => { effects with executor }.invokeCallback call response

/-- The closure of `RunTextScoring`. -/
def score (call : CallId) (targetText : Text) (storeTokenLengths : Bool)
    (environment : Environment) (idsBuffer : StatusOr Unit) : JobEffects Executor Score :=
  match idsBuffer with
  | .error status => effects.writeResult call (.error (.internalError status.message))
  | .ok () =>
    match parameters.scoreCustomSampling environment targetText storeTokenLengths
        (List.replicate parameters.numOutputCandidates effects.lastPrefillTokenId)
        effects.executor with
    | .error status executor => { effects with executor }.writeResult call (.error status)
    | .ok responses executor => { effects with executor }.writeResult call (.ok responses)

end JobEffects

namespace Session

variable {Input Executor Environment Scalar ConstraintState Score : Type}
  (parameters : SessionParameters Input Executor Environment Scalar ConstraintState Score)
  (session : Session Input Executor Environment Scalar ConstraintState Score)

/-! ## Calls -/

/-- A call returns an error before its job is scheduled. -/
def rejectCall (call : CallId) (status : Status) :
    Session Input Executor Environment Scalar ConstraintState Score :=
  { session with rejected := session.rejected ++ [(call, .error status)] }

/-- A call is ready to schedule its job. -/
def prepare (job : Job Input ConstraintState) :
    Session Input Executor Environment Scalar ConstraintState Score :=
  { session with prepared := session.prepared ++ [job] }

/-- The part that the calls with a prefill share: `RunPrefill` and `RunPrefillAsync` up to
their `Schedule`. -/
def beginPrefill (call : CallId) (contents : List Input)
    (after : AfterPrefill ConstraintState) :
    Session Input Executor Environment Scalar ConstraintState Score :=
  if contents.isEmpty then
    session.rejectCall call (.invalidArgumentError "Input is empty.")
  else
    match parameters.preprocess session.isFirstTurn contents with
    | (.error status, isFirstTurn) =>
      { session with cancelled := false, isFirstTurn }.rejectCall call status
    | (.ok inputs, isFirstTurn) =>
      { session with cancelled := false, isFirstTurn }.prepare (.prefill call inputs after)

/-- A call up to its `Schedule`. -/
def begin (request : Request Input ConstraintState) :
    Session Input Executor Environment Scalar ConstraintState Score :=
  let call := session.nextCall
  let session := { session with nextCall := call + 1 }
  match request with
  | .runPrefill contents => session.beginPrefill parameters call contents .returnStatus
  | .runPrefillAsync contents => session.beginPrefill parameters call contents .invokeCallback
  | .generateContentStream contents constraint =>
    -- The flag is reset before the contents are looked at.
    { session with cancelled := false }.beginPrefill parameters call contents
      (.decodeStreaming constraint)
  | .runDecode constraint =>
    { session with cancelled := false }.prepare (.decode call constraint .returnResponses)
  | .runDecodeAsync constraint =>
    { session with cancelled := false }.prepare (.decode call constraint .invokeCallback)
  | .runTextScoring targetTexts storeTokenLengths =>
    match targetTexts with
    | [targetText] => session.prepare (.textScoring call targetText storeTokenLengths)
    | _ =>
      session.rejectCall call (.invalidArgumentError "Target text size should be 1.")

/-- A call schedules its job, and waits for it or returns. -/
def schedule (call : CallId) (workerThread : StatusOr Unit) :
    Option (Session Input Executor Environment Scalar ConstraintState Score) :=
  match session.prepared.find? fun job => decide (job.call = call) with
  | none => none
  | some job =>
    let session := { session with
      prepared := session.prepared.filter fun other => decide (other.call ≠ call) }
    match session.pool.schedule workerThread job with
    | .error status => some (session.rejectCall call status)
    | .ok pool =>
      some { session with
        pool
        accepted := session.accepted ++ [job]
        waiting :=
          if job.isAwaited then session.waiting ++ [(call, parameters.initialResult job)]
          else session.waiting
        scheduled := session.scheduled ++ [job] }

/-- What a call returns after its wait: the error of the wait, or its own variable. -/
def awaited (call : CallId) (initialResult : StatusOr (Responses Score)) :
    StatusOr (Responses Score) :=
  match session.pool.waitUntilDone with
  | .error status => .error status
  | .ok () => (session.effects.results.lookup call).getD initialResult

/-- `WaitUntilDone` returns to a call. Behind a wait that has timed out the machine no longer
follows the source, whose job writes to a variable that is gone. -/
def endWait (call : CallId) :
    Option (Session Input Executor Environment Scalar ConstraintState Score) :=
  match session.waiting.lookup call with
  | none => none
  | some initialResult =>
    some { session with
      waiting := session.waiting.filter fun other => decide (other.1 ≠ call)
      returns := session.returns ++ [(call, session.awaited call initialResult)] }

/-! ## The worker -/

def returnJob (effects : JobEffects Executor Score) :
    Session Input Executor Environment Scalar ConstraintState Score :=
  { session with effects, worker := .returned }

/-- The worker runs a prefill. -/
def prefill (environment : Environment) :
    Option (Session Input Executor Environment Scalar ConstraintState Score) :=
  match session.worker with
  | .starting (.prefill call contents after) =>
    let (effects, goesOn) :=
      session.effects.prefill parameters call contents after environment
    match after, goesOn with
    | .decodeStreaming constraint, true =>
      some { session with effects, worker := .loadingCancelled call contents constraint }
    | _, _ => some (session.returnJob effects)
  | _ => none

def loadCancelled :
    Option (Session Input Executor Environment Scalar ConstraintState Score) :=
  match session.worker with
  | .loadingCancelled call contents constraint =>
    if session.cancelled then some (session.returnJob (session.effects.cancelStream call))
    else some { session with worker := .clearingCancelled call contents constraint }
  | _ => none

def clearCancelled :
    Option (Session Input Executor Environment Scalar ConstraintState Score) :=
  match session.worker with
  | .clearingCancelled call contents constraint =>
    some { session with
      cancelled := false, worker := .schedulingDecode call contents constraint }
  | _ => none

/-- The status of `RunDecodeAsync` is not looked at. -/
def scheduleDecode (workerThread : StatusOr Unit) :
    Option (Session Input Executor Environment Scalar ConstraintState Score) :=
  match session.worker with
  | .schedulingDecode call _ constraint =>
    let job := .decode call constraint .invokeCallback
    match session.pool.schedule workerThread job with
    | .error _ => some (session.returnJob (session.effects.dropCallback call))
    | .ok pool =>
      some ({ session with pool, accepted := session.accepted ++ [job] }.returnJob
        session.effects)
  | _ => none

/-- `DecodeInternal` and `DecodeInternalStreaming` up to the loop. -/
def startDecode (idsBuffer : StatusOr Unit) :
    Option (Session Input Executor Environment Scalar ConstraintState Score) :=
  match session.worker with
  | .starting (.decode call constraint after) =>
    match parameters.idsStatus idsBuffer with
    | .error status =>
      some (session.returnJob (session.effects.refuseDecode call after status))
    | .ok () =>
      some { session with
        worker := .polling {
          call, constraint, after
          maxNumTokens := tryGetMaxNumTokens parameters.taskExecutor session.effects.executor
          environments := []
          state := parameters.initialDecode session.effects.executor
            session.effects.lastPrefillTokenId constraint } }
  | _ => none

/-- `Tasks::Decode` has returned. -/
def endDecode (run : DecodeRun Executor Environment Scalar ConstraintState Score)
    (executor : Executor) (response : StatusOr (Responses Score)) :
    Session Input Executor Environment Scalar ConstraintState Score :=
  session.returnJob (session.effects.endDecode run.call run.after executor response)

def poll (environment : StepEnvironment Environment Score) :
    Option (Session Input Executor Environment Scalar ConstraintState Score) :=
  match session.worker with
  | .polling run =>
    if session.cancelled then
      some (session.endDecode run run.state.executor
        (.error (.cancelledError "Process cancelled.")))
    else
      some { session with worker := .inStep run environment }
  | _ => none

def runOneStep [Bot Scalar] :
    Option (Session Input Executor Environment Scalar ConstraintState Score) :=
  match session.worker with
  | .inStep run environment =>
    let environment := { environment with cancelled := false }
    match decodeStep (parameters.decodeParameters run.after) run.maxNumTokens environment
        run.state with
    | .error status state => some (session.endDecode run state.executor (.error status))
    | .ok stops state =>
      let next := { run with environments := run.environments ++ [environment], state }
      some { session with
        effects := session.effects.stream run.call
          (state.callbackResponses.drop run.state.callbackResponses.length)
        worker := if stops then .leavingLoop next else .polling next }
  | _ => none

def finishDecode (finalEnvironment : Environment) :
    Option (Session Input Executor Environment Scalar ConstraintState Score) :=
  match session.worker with
  | .leavingLoop run =>
    match finalPrefill (parameters.decodeParameters run.after) finalEnvironment run.state with
    | .error status state => some (session.endDecode run state.executor (.error status))
    | .ok _ state =>
      some (session.endDecode run state.executor (.ok (finalResponses
        (parameters.decodeParameters run.after) run.maxNumTokens state)))
  | _ => none

def score (environment : Environment) (idsBuffer : StatusOr Unit) :
    Option (Session Input Executor Environment Scalar ConstraintState Score) :=
  match session.worker with
  | .starting (.textScoring call targetText storeTokenLengths) =>
    some (session.returnJob (session.effects.score parameters call targetText
      storeTokenLengths environment idsBuffer))
  | _ => none

def takeTask :
    Option (Session Input Executor Environment Scalar ConstraintState Score) :=
  match session.worker with
  | .idle => session.pool.takeTask.map fun taken =>
    { session with pool := taken.2, worker := .starting taken.1 }
  | _ => none

def completeTask :
    Option (Session Input Executor Environment Scalar ConstraintState Score) :=
  match session.worker with
  | .returned => some { session with pool := session.pool.completeTask, worker := .idle }
  | _ => none

/-! ## The machine -/

/-- One step of a calling thread, of the thread that cancels, of the engine or of the
worker. -/
def step [Bot Scalar]
    (session : Session Input Executor Environment Scalar ConstraintState Score) :
    SessionAction Input Environment ConstraintState Score →
      Option (Session Input Executor Environment Scalar ConstraintState Score)
  | .begin request => some (session.begin parameters request)
  | .schedule call workerThread => session.schedule parameters call workerThread
  | .endWait call => session.endWait call
  | .cancelProcess => some { session with cancelled := true }
  | .stopPool => some { session with pool := { session.pool with stopped := true } }
  | .takeTask => session.takeTask
  | .prefill environment => session.prefill parameters environment
  | .loadCancelled => session.loadCancelled
  | .clearCancelled => session.clearCancelled
  | .scheduleDecode workerThread => session.scheduleDecode workerThread
  | .startDecode idsBuffer => session.startDecode parameters idsBuffer
  | .poll environment => session.poll environment
  | .runOneStep => session.runOneStep parameters
  | .finishDecode finalEnvironment => session.finishDecode parameters finalEnvironment
  | .score environment idsBuffer => session.score parameters environment idsBuffer
  | .completeTask => session.completeTask

/-- Every interleaving of calls, cancellations and the worker. `last_prefill_token_id_` is not
initialized. -/
def machine [Bot Scalar] :
    Machine (Session Input Executor Environment Scalar ConstraintState Score)
      (SessionAction Input Environment ConstraintState Score) where
  Initial session := ∃ lastPrefillTokenId executor,
    session = { effects := { lastPrefillTokenId, executor } }
  step := step parameters

end Session

end LiteRTLM.Core.SessionBasic
