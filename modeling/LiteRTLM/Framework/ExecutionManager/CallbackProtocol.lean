import Mathlib
import LiteRTLM.Framework.ExecutionManager.Notifications

/-!
Contract: the callback protocol of a task, over whole runs.

In an orderly run the manager tells each callback Created, Queued, Processing
and an end, or Created and DependentTaskFailed, or DependentTaskFailed alone
when a dependency has failed before the task was created.

Owns: the protocol as a statement about lists of notifications, the invariant of
the observed runs, and the theorem about every state they reach.

Does not own: what one operation delivers.
-/

namespace LiteRTLM.Framework.ExecutionManager

open LiteRTLM.Engine LiteRTLM.Library

variable {Body Callback World Score : Type}

/-! ## The protocol -/

/-- The states a body that returns OK leaves its task in. -/
def Completes (taskState : TaskState) : Prop :=
  taskState = .done ∨ taskState = .maxNumTokensReached

instance : DecidablePred Completes :=
  fun _ => inferInstanceAs (Decidable (_ ∨ _))

def isEndNotification : StatusOr (Responses Score) → Bool
  | .ok responses =>
      responses.taskState = .done || responses.taskState = .maxNumTokensReached ||
        responses.taskState = .dependentTaskFailed
  | .error _ => true

/-- The notification names the task state it comes with; an error stands for a
failed task. -/
def AgreesWith (taskState : TaskState) : StatusOr (Responses Score) → Prop
  | .ok responses => taskState = responses.taskState
  | .error _ => taskState = .failed

/-- The notifications are a prefix of Created, Queued, Processing and an end, or
of Created and DependentTaskFailed, or DependentTaskFailed alone. -/
def FollowsProtocol (notes : List (StatusOr (Responses Score))) : Prop :=
  (∃ final, isEndNotification final = true ∧ notes <+:
    [stateUpdate .created, stateUpdate .queued, stateUpdate .processing, final]) ∨
  notes <+: [stateUpdate .created, stateUpdate .dependentTaskFailed] ∨
  notes = [stateUpdate .dependentTaskFailed]

/-- The protocol has one end at most. -/
theorem FollowsProtocol.count_le {notes : List (StatusOr (Responses Score))}
    (follows : FollowsProtocol notes) : notes.countP isEndNotification ≤ 1 := by
  have quiet : ([stateUpdate .created, stateUpdate .queued, stateUpdate .processing] :
      List (StatusOr (Responses Score))).countP isEndNotification = 0 := by
    simp [isEndNotification, stateUpdate, Responses.ofState]
  rcases follows with ⟨final, -, shorter⟩ | shorter | rfl
  · calc notes.countP isEndNotification
        ≤ ([stateUpdate .created, stateUpdate .queued, stateUpdate .processing] ++
            [final]).countP isEndNotification := shorter.sublist.countP_le
      _ = [final].countP isEndNotification := by rw [List.countP_append, quiet, Nat.zero_add]
      _ ≤ 1 := List.countP_le_length
  · refine shorter.sublist.countP_le.trans ?_
    simp [isEndNotification, stateUpdate, Responses.ofState]
  · exact List.countP_le_length

namespace ProtocolAt

variable {taskState : TaskState} {notes : List (StatusOr (Responses Score))}

theorem followsProtocol (told : ProtocolAt taskState notes) : FollowsProtocol notes := by
  have started : ∀ count, FollowsProtocol ([stateUpdate .created, stateUpdate .queued,
      stateUpdate .processing, stateUpdate .done].take count :
        List (StatusOr (Responses Score))) :=
    fun count => Or.inl ⟨stateUpdate .done, rfl, List.take_prefix count _⟩
  cases told with
  | created => exact started 1
  | queued => exact started 2
  | processing => exact started 3
  | completed responses final same =>
      refine Or.inl ⟨.ok responses, ?_, List.prefix_refl _⟩
      rcases final with rfl | rfl <;> simp [isEndNotification, same]
  | failed status => exact Or.inl ⟨.error status, rfl, List.prefix_refl _⟩
  | abandoned => exact Or.inr (Or.inl (List.prefix_refl _))
  | refused => exact Or.inr (Or.inr rfl)

/-- The callback of an ended task has been told one end, and it was the last
notification; the callback of another has been told none. -/
theorem split (told : ProtocolAt taskState notes) :
    (Unfinished taskState ∧ ∀ note ∈ notes, isEndNotification note = false) ∨
    ∃ earlier final, notes = earlier ++ [final] ∧ isEndNotification final = true ∧
      AgreesWith taskState final ∧ ∀ note ∈ earlier, isEndNotification note = false := by
  have running : ∀ note ∈ ([stateUpdate .created, stateUpdate .queued, stateUpdate .processing] :
      List (StatusOr (Responses Score))), isEndNotification note = false := by
    simp [stateUpdate, Responses.ofState, isEndNotification]
  cases told with
  | created => exact Or.inl ⟨Or.inl rfl, fun note member =>
      running note (List.mem_append_left [stateUpdate .queued, stateUpdate .processing] member)⟩
  | queued => exact Or.inl ⟨Or.inr (Or.inl rfl), fun note member =>
      running note (List.mem_append_left [stateUpdate .processing] member)⟩
  | processing => exact Or.inl ⟨Or.inr (Or.inr rfl), running⟩
  | completed responses final same =>
      refine Or.inr ⟨[stateUpdate .created, stateUpdate .queued, stateUpdate .processing],
        .ok responses, rfl, ?_, same.symm, running⟩
      rcases final with rfl | rfl <;> simp [isEndNotification, same]
  | failed status =>
      exact Or.inr ⟨[stateUpdate .created, stateUpdate .queued, stateUpdate .processing],
        .error status, rfl, rfl, rfl, running⟩
  | abandoned =>
      exact Or.inr ⟨[stateUpdate .created], stateUpdate .dependentTaskFailed, rfl, rfl, rfl,
        fun note member => running note
          (List.mem_append_left [stateUpdate .queued, stateUpdate .processing] member)⟩
  | refused => exact Or.inr ⟨[], stateUpdate .dependentTaskFailed, rfl, rfl, rfl, by intros; contradiction⟩

/-- An end is the last notification, and it agrees with the task's state. -/
theorem last_of_isEnd (told : ProtocolAt taskState notes)
    {earlier later : List (StatusOr (Responses Score))} {final : StatusOr (Responses Score)}
    (delivered : notes = earlier ++ final :: later) (ended : isEndNotification final = true) :
    later = [] ∧ AgreesWith taskState final := by
  rcases told.split with ⟨-, none⟩ | ⟨front, last, equal, -, agrees, none⟩
  · have quiet := none final (by simp [delivered])
    rw [ended] at quiet
    cases quiet
  · rw [equal] at delivered
    rcases List.eq_nil_or_concat later with rfl | ⟨between, other, rfl⟩
    · obtain ⟨-, same⟩ := List.append_inj' delivered rfl
      cases same
      exact ⟨rfl, agrees⟩
    · rw [List.concat_eq_append, ← List.cons_append, ← List.append_assoc] at delivered
      obtain ⟨sameFront, -⟩ := List.append_inj' delivered rfl
      have quiet := none final (by simp [sameFront])
      rw [ended] at quiet
      cases quiet

/-- The callback of an ended task has been told exactly one end. -/
theorem count_of_ended (told : ProtocolAt taskState notes) (ended : ¬ Unfinished taskState) :
    notes.countP isEndNotification = 1 := by
  rcases told.split with ⟨unfinished, -⟩ | ⟨front, last, rfl, isEnd, -, none⟩
  · exact absurd unfinished ended
  · have quiet : front.countP isEndNotification = 0 :=
      List.countP_eq_zero.mpr fun note member => by simp [none note member]
    simp [List.countP_append, quiet, isEnd]

theorem ne_nil (told : ProtocolAt taskState notes) : notes ≠ [] := by
  cases told <;> simp

/-- The first notification tells whether it is the only one of a task that could
never run. -/
theorem refused_iff (told : ProtocolAt taskState notes) :
    notes = [stateUpdate .dependentTaskFailed] ↔
      notes.head? = some (stateUpdate .dependentTaskFailed) := by
  cases told <;> simp [stateUpdate, Responses.ofState]

/-- Later notifications do not change that. -/
theorem refused_of_prefix {next : TaskState} {later : List (StatusOr (Responses Score))}
    (told : ProtocolAt taskState notes) (toldLater : ProtocolAt next later)
    (continued : notes <+: later) :
    later = [stateUpdate .dependentTaskFailed] ↔ notes = [stateUpdate .dependentTaskFailed] := by
  obtain ⟨rest, rfl⟩ := continued
  rw [toldLater.refused_iff, told.refused_iff, List.head?_append_of_ne_nil _ told.ne_nil]

end ProtocolAt

/-! ## Observed runs -/

namespace System

/-- An orderly step of the observed machine. -/
def Regular (system : System Body TaskId (Notifications Score))
    (action : Action Body Unit Score) : Prop :=
  system.Orderly Completes action.labelled

structure ObservedInvariant (before : Notifications Score)
    (system : System Body TaskId (Notifications Score)) : Prop where
  orderly : system.OrderlyInvariant Completes
  told : Told before system.manager.find system.manager.world
  holding : ∀ taskId task callback, system.worker = .running taskId task callback →
    callback = some taskId

variable {before : Notifications Score}
variable {system next : System Body TaskId (Notifications Score)}

/-- A clean `FinishTask` tells the end of the running task, and of the tasks it
takes down. -/
theorem finishTask_told {taskId : TaskId} {task : Body} {order failOrder : HashOrder}
    {workerThread : StatusOr Unit} {outcome : TaskOutcome Score}
    (invariant : system.ObservedInvariant before)
    (working : system.worker = .running taskId task (some taskId))
    (clean : system.CleanFinish Completes taskId outcome) :
    Told before
      (system.manager.finishTask record order failOrder workerThread taskId outcome.responses
        (some taskId)).2.find
      (system.manager.finishTask record order failOrder workerThread taskId outcome.responses
        (some taskId)).2.world := by
  cases outcome with
  | error failure =>
      obtain ⟨info, waiting, next, present, processing, finished, rfl, created, -⟩ :=
        orderly_finishTask_error record order failOrder workerThread invariant.orderly working rfl
          clean
      have distinct := failOrder.nodup_order taskId waiting
      have abandonable : ∀ id ∈ failOrder.order taskId waiting, ∃ other,
          system.manager.find id = some other ∧ other.taskState = .created ∧
            other.callback ≠ none := by
        intro id member
        obtain ⟨other, found, state⟩ := created id ((failOrder.mem_order taskId waiting id).mp member)
        exact ⟨other, found, state,
          (invariant.orderly.progress.owned id other found (Or.inl state)).2⟩
      have told := Manager.failDependentTasks_told distinct invariant.told abandonable
      obtain ⟨-, unchanged⟩ := Manager.failDependentTasks_evolves record distinct
        fun id member =>
          let ⟨other, found, state, _⟩ := abandonable id member
          ⟨other, found, state⟩
      have stillPresent := unchanged taskId info present (by simp [processing])
      have current := told.present taskId info stillPresent
      rw [processing] at current
      rw [finished]
      exact Manager.endTask_told told stillPresent (current.fail failure)
  | ok responses =>
      obtain ⟨info, next, released, present, processing, looped, finished, rfl, -⟩ :=
        orderly_finishTask_ok record order failOrder workerThread invariant.orderly working rfl
          clean
      have told := Manager.releaseFollowing_told invariant.told looped
      obtain ⟨-, unchanged⟩ := Manager.releaseFollowing_evolves record looped
      have stillPresent := unchanged taskId info present (by simp [processing])
      have current := told.present taskId info stillPresent
      rw [processing] at current
      rw [finished]
      exact Manager.endTask_told told stillPresent (current.complete responses.1 responses.2)

/-- Every regular step keeps the invariant. -/
theorem observedInvariant_step {action : Action Body Unit Score}
    (invariant : system.ObservedInvariant before) (regular : system.Regular action)
    (stepped : system.observedStep action = some next) : next.ObservedInvariant before := by
  cases action with
  | notify responses =>
      simp only [observedStep, Option.map_eq_some_iff] at stepped
      obtain ⟨-, -, rfl⟩ := stepped
      exact invariant
  | createTask order workerThread taskId task dependentTasks callback =>
      have orderly := orderlyInvariant_step record invariant.orderly regular stepped
      simp only [observedStep, Action.labelled, step] at stepped
      split at stepped
      next manager created =>
        cases stepped
        exact ⟨orderly, Manager.createTask_told invariant.told created, invariant.holding⟩
      next status manager rejected =>
        cases stepped
        have untouched := orderly_createTask_error record invariant.orderly regular rejected
        subst untouched
        exact ⟨orderly, invariant.told, invariant.holding⟩
  | takeTask =>
      have orderly := orderlyInvariant_step record invariant.orderly regular stepped
      simp only [observedStep, Action.labelled, step] at stepped
      split at stepped
      · cases stepped
        exact ⟨orderly, invariant.told, by intros; contradiction⟩
      · cases stepped
  | startTask =>
      have orderly := orderlyInvariant_step record invariant.orderly regular stepped
      simp only [observedStep, Action.labelled, step] at stepped
      split at stepped
      next taskId scheduled =>
        obtain ⟨task, callback, manager, started, -⟩ :=
          progress_startTask record invariant.orderly scheduled
        obtain ⟨told, isOwn⟩ := Manager.startTask_told invariant.told started
        rw [started] at stepped
        cases stepped
        refine ⟨orderly, told, fun id body held running => ?_⟩
        cases running
        exact isOwn
      · cases stepped
  | finishTask order failOrder workerThread outcome =>
      have orderly := orderlyInvariant_step record invariant.orderly regular stepped
      simp only [observedStep, Action.labelled, step] at stepped
      split at stepped
      next taskId task callback working =>
        cases stepped
        have isOwn := invariant.holding taskId task callback working
        subst isOwn
        simp only [Regular, Action.labelled, Orderly, working] at regular
        exact ⟨orderly, finishTask_told invariant working regular, by intros; contradiction⟩
      · cases stepped
  | completeTask =>
      have orderly := orderlyInvariant_step record invariant.orderly regular stepped
      simp only [observedStep, Action.labelled, step] at stepped
      split at stepped
      · cases stepped
        exact ⟨orderly, invariant.told, by intros; contradiction⟩
      · cases stepped

/-- Every state of a regular run satisfies the invariant. -/
theorem observedInvariant_of_reachable
    (reached : observedMachine.ReachableUnder Regular system) :
    system.ObservedInvariant fun _ => [] := by
  refine reached.invariant (ObservedInvariant fun _ => []) ?_
    fun _ _ _ invariant regular stepped => observedInvariant_step invariant regular stepped
  rintro _ rfl
  refine ⟨orderlyInvariant_of_reachable record (.initial ⟨_, rfl⟩), ?_, nofun⟩
  exact { labelled := nofun, absent := fun _ _ => rfl, present := nofun,
          continues := fun _ => List.prefix_refl _ }

/-! ## Where a task comes from -/

/-- A dependency has failed, or has been taken down by a failure. -/
def FailedDependency (system : System Body Callback World) (dependentTasks : Finset TaskId) :
    Prop :=
  ∃ dep ∈ dependentTasks,
    system.taskState dep = some .failed ∨ system.taskState dep = some .dependentTaskFailed

/-- The run to `system` has a step that created `taskId`, and the callback has
been told DependentTaskFailed alone exactly when a dependency had already failed
before that step. -/
def HasOrigin (system : System Body TaskId (Notifications Score)) (taskId : TaskId) : Prop :=
  ∃ (earlier created : System Body TaskId (Notifications Score)) (order : HashOrder)
    (workerThread : StatusOr Unit) (task : Body) (dependentTasks : Finset TaskId)
    (rest : List (Action Body Unit Score)),
    observedMachine.ReachableUnder Regular earlier ∧ earlier.taskState taskId = none ∧
    earlier.observedStep (.createTask order workerThread taskId task dependentTasks ()) =
      some created ∧
    observedMachine.execute created rest = some system ∧
    (system.manager.world taskId = [stateUpdate .dependentTaskFailed] ↔
      earlier.FailedDependency dependentTasks)

/-- What the callback of a fresh task is told when it is created. -/
theorem createTask_refused_iff {order : HashOrder} {workerThread : StatusOr Unit}
    {taskId : TaskId} {task : Body} {dependentTasks : Finset TaskId}
    {manager : Manager Body TaskId (Notifications Score)}
    (told : Told before system.manager.find system.manager.world)
    (created : system.manager.createTask record order workerThread taskId task dependentTasks
      taskId = (.ok (), manager)) :
    manager.world taskId = [stateUpdate .dependentTaskFailed] ↔
      system.FailedDependency dependentTasks := by
  obtain ⟨toldDependent, toldIndependent⟩ := Manager.createTask_delivers record created
  obtain ⟨fresh, ⟨dependent, taskState, registered, checked, -⟩ | ⟨independent, -⟩⟩ :=
    Manager.createTask_ok record created
  · have untold := told.absent taskId fresh
    have delivered : manager.world taskId = [stateUpdate taskState] := by
      rw [toldDependent dependent taskState registered checked, record, Function.update_self,
        untold, List.nil_append]
    obtain ⟨-, -, state⟩ := Manager.checkDependencies_ok checked
    simp only [order.mem_order] at state
    rw [delivered]
    rcases state with ⟨rfl, failing⟩ | ⟨rfl, healthy⟩
    · obtain ⟨dep, member, info, present, failed⟩ := failing.resolve_left (by intro impossible; cases impossible)
      refine iff_of_true rfl ⟨dep, member, ?_⟩
      rcases failed with state | state
      · exact Or.inl (taskState_eq_some.mpr ⟨info, present, state⟩)
      · exact Or.inr (taskState_eq_some.mpr ⟨info, present, state⟩)
    · refine iff_of_false (by simp [stateUpdate, Responses.ofState]) ?_
      rintro ⟨dep, member, failed⟩
      rcases failed with failed | failed <;>
        obtain ⟨info, present, state⟩ := taskState_eq_some.mp failed
      · exact healthy dep member info present (Or.inl state)
      · exact healthy dep member info present (Or.inr state)
  · have untold := told.absent taskId fresh
    have delivered : manager.world taskId = [stateUpdate .created, stateUpdate .queued] := by
      rw [toldIndependent independent]
      simp [record, untold]
    rw [delivered, independent]
    exact iff_of_false (by simp) (by simp [FailedDependency])

/-- A task that exists keeps its origin through a regular step. -/
theorem HasOrigin.step {action : Action Body Unit Score} {taskId : TaskId}
    (origin : system.HasOrigin taskId) (invariant : system.ObservedInvariant before)
    (present : (system.manager.find taskId).isSome) (regular : system.Regular action)
    (stepped : system.observedStep action = some next) : next.HasOrigin taskId := by
  obtain ⟨earlier, created, order, workerThread, task, dependentTasks, rest, reached, fresh,
    creation, executed, alone⟩ := origin
  refine ⟨earlier, created, order, workerThread, task, dependentTasks, rest ++ [action], reached,
    fresh, creation, Machine.execute_concat executed stepped, ?_⟩
  have later : next.ObservedInvariant system.manager.world :=
    observedInvariant_step { invariant with told := invariant.told.restart } regular stepped
  obtain ⟨info, found⟩ := Option.isSome_iff_exists.mp present
  have toldBefore := invariant.told.present taskId info found
  have toldAfter : ∃ taskState, ProtocolAt taskState (next.manager.world taskId) := by
    cases foundAfter : next.manager.find taskId with
    | some new => exact ⟨_, later.told.present taskId new foundAfter⟩
    | none =>
        have continued := later.told.continues taskId
        rw [later.told.absent taskId foundAfter, List.prefix_nil] at continued
        exact absurd continued toldBefore.ne_nil
  obtain ⟨taskState, told⟩ := toldAfter
  rw [toldBefore.refused_of_prefix told (later.told.continues taskId)]
  exact alone

/-- Every created task of a regular run has its origin in it. -/
theorem hasOrigin_of_reachable (reached : observedMachine.ReachableUnder Regular system)
    {taskId : TaskId} (created : system.Created taskId) : system.HasOrigin taskId := by
  induction reached with
  | initial starts =>
      subst starts
      obtain ⟨dependentTasks, event⟩ := created
      cases event
  | @step system next action reached regular stepped inductionHypothesis =>
      have invariant := observedInvariant_of_reachable reached
      by_cases known : system.Created taskId
      · obtain ⟨dependentTasks, event⟩ := known
        obtain ⟨info, found⟩ :=
          invariant.orderly.safe.createdPresent taskId dependentTasks event
        exact (inductionHypothesis ⟨dependentTasks, event⟩).step invariant (by simp [found])
          regular stepped
      · obtain ⟨dependentTasks, event⟩ := created
        have unknown : Event.created taskId dependentTasks ∉ system.history :=
          fun member => known ⟨dependentTasks, member⟩
        cases action with
        | createTask order workerThread id task deps callback =>
            have taken := stepped
            simp only [observedMachine, observedStep, Action.labelled, System.step] at taken
            split at taken
            next manager creation =>
              cases taken
              rcases List.mem_cons.mp event with same | old
              · cases same
                obtain ⟨fresh, -⟩ := Manager.createTask_ok record creation
                exact ⟨system, _, order, workerThread, task, dependentTasks, [], reached,
                  taskState_eq_none.mpr fresh, stepped, rfl,
                  createTask_refused_iff invariant.told creation⟩
              · exact absurd old unknown
            next status manager rejected =>
              cases taken
              exact absurd event unknown
        | notify responses =>
            simp only [observedMachine, observedStep, Option.map_eq_some_iff] at stepped
            obtain ⟨-, -, rfl⟩ := stepped
            exact absurd event unknown
        | takeTask =>
            simp only [observedMachine, observedStep, Action.labelled, System.step] at stepped
            split at stepped
            · cases stepped
              exact absurd event unknown
            · cases stepped
        | startTask =>
            simp only [observedMachine, observedStep, Action.labelled, System.step] at stepped
            split at stepped
            · split at stepped
              · cases stepped
                exact absurd ((List.mem_cons.mp event).resolve_left (by intro impossible; cases impossible)) unknown
              · cases stepped
                exact absurd event unknown
            · cases stepped
        | finishTask orderly failOrder workerThread outcome =>
            simp only [observedMachine, observedStep, Action.labelled, System.step] at stepped
            split at stepped
            · cases stepped
              exact absurd ((List.mem_cons.mp event).resolve_left (by intro impossible; cases impossible)) unknown
            · cases stepped
        | completeTask =>
            simp only [observedMachine, observedStep, Action.labelled, System.step] at stepped
            split at stepped
            · cases stepped
              exact absurd event unknown
            · cases stepped

/-- The callback protocol: in every state of a regular run the notifications of a
created task follow it, nothing comes after an end, the end agrees with the task's
state, and with an idle pool there is exactly one. -/
theorem callback_protocol (reached : observedMachine.ReachableUnder Regular system)
    {taskId : TaskId} (created : system.Created taskId) :
    ∃ taskState, system.taskState taskId = some taskState ∧
      FollowsProtocol (system.manager.world taskId) ∧
      (∀ earlier final later, system.manager.world taskId = earlier ++ final :: later →
        isEndNotification final = true → later = [] ∧ AgreesWith taskState final) ∧
      (system.manager.executionThreadPool.isDone = true →
        (system.manager.world taskId).countP isEndNotification = 1) ∧
      system.HasOrigin taskId := by
  have invariant := observedInvariant_of_reachable reached
  have origin := hasOrigin_of_reachable reached created
  obtain ⟨dependentTasks, event⟩ := created
  obtain ⟨info, found⟩ := invariant.orderly.safe.createdPresent taskId dependentTasks event
  have told := invariant.told.present taskId info found
  refine ⟨info.taskState, taskState_eq_some.mpr ⟨info, found, rfl⟩, told.followsProtocol,
    fun earlier final later delivered ended => told.last_of_isEnd delivered ended,
    fun idle => ?_, origin⟩
  exact told.count_of_ended (ended_of_idle invariant.orderly idle taskId info found)

/-! ### A regular run, and one that is not -/

/-- A regular step in which no body fails. -/
def RegularSuccess (system : System Body TaskId (Notifications Score)) :
    Action Body Unit Score → Prop
  | .finishTask order failOrder workerThread (.ok responses) =>
      system.Regular (.finishTask order failOrder workerThread (.ok responses))
  | .finishTask _ _ _ (.error _) => False
  | action => system.Regular action

instance (system : System Body TaskId (Notifications Score)) :
    ∀ action : Action Body Unit Score, Decidable (system.RegularSuccess action)
  | .createTask .. => by
      unfold RegularSuccess Regular Action.labelled Orderly
      infer_instance
  | .takeTask => isTrue trivial
  | .startTask => isTrue trivial
  | .notify _ => isTrue trivial
  | .finishTask _ _ _ (.ok responses) => by
      unfold RegularSuccess Regular Action.labelled Orderly
      cases system.worker <;> infer_instance
  | .finishTask _ _ _ (.error _) => isFalse id
  | .completeTask => isTrue trivial

theorem RegularSuccess.regular {action : Action Body Unit Score}
    (success : system.RegularSuccess action) : system.Regular action := by
  cases action with
  | finishTask order failOrder workerThread outcome =>
      cases outcome with
      | ok responses => exact success
      | error status => cases success
  | _ => exact success

/-- The state with no tasks and nothing delivered. -/
def quietStart : System Unit TaskId (Notifications Int) :=
  initial fun _ => []

/-- The protocol at the end of `chainRun`. -/
theorem callback_protocol_chainRun :
    ∃ system, observedMachine.execute quietStart chainRun = some system ∧
      ∃ taskState, system.taskState 1 = some taskState ∧
        FollowsProtocol (system.manager.world 1) ∧
        (∀ earlier final later, system.manager.world 1 = earlier ++ final :: later →
          isEndNotification final = true → later = [] ∧ AgreesWith taskState final) ∧
        (system.manager.executionThreadPool.isDone = true →
          (system.manager.world 1).countP isEndNotification = 1) ∧
        system.HasOrigin 1 := by
  have runs : (observedMachine.execute quietStart chainRun).isSome = true := by decide
  obtain ⟨system, executed⟩ := Option.isSome_iff_exists.mp runs
  have created : (observedMachine.execute quietStart chainRun).map
      (fun system => decide (Event.created 1 {0} ∈ system.history)) = some true := by decide
  rw [executed, Option.map_some, Option.some.injEq] at created
  have start : observedMachine.ReachableUnder RegularSuccess quietStart := .initial rfl
  have successful := start.execute (by decide) executed
  exact ⟨system, executed, callback_protocol
    (successful.mono fun _ _ => RegularSuccess.regular) ⟨{0}, of_decide_eq_true created⟩⟩

/-- The third task is created on one that has failed and one that has not run,
which then succeeds. -/
def failedSiblingRun : List (Action Unit Unit Int) :=
  [.createTask .ascending (.ok ()) 0 () ∅ (), .createTask .ascending (.ok ()) 1 () ∅ (),
    .takeTask, .startTask,
    .finishTask .ascending .ascending (.ok ()) (.error (.internalError "The body fails.")),
    .completeTask, .createTask .ascending (.ok ()) 2 () {0, 1} ()] ++ workerRound

/-- In an arbitrary run the end of one task can notify another: after
`failedSiblingRun` the third task's callback has been told two ends, and the
second task's an error although its body succeeded. -/
theorem callback_protocol_fails_failedSiblingRun :
    ∃ system : System Unit TaskId (Notifications Int), observedMachine.Reachable system ∧
      system.manager.executionThreadPool.isDone = true ∧ system.Created 2 ∧
      ¬ FollowsProtocol (system.manager.world 2) ∧
      (system.manager.world 2).countP isEndNotification = 2 ∧
      system.Created 1 ∧ system.taskState 1 = some .processing ∧
      (system.manager.world 1).countP isEndNotification = 1 := by
  have runs : (observedMachine.execute quietStart failedSiblingRun).isSome = true := by decide
  obtain ⟨system, executed⟩ := Option.isSome_iff_exists.mp runs
  have third : (observedMachine.execute quietStart failedSiblingRun).map
      (fun system => (system.manager.executionThreadPool.isDone,
        decide (Event.created 2 {0, 1} ∈ system.history),
        (system.manager.world 2).countP isEndNotification)) = some (true, true, 2) := by
    decide
  have second : (observedMachine.execute quietStart failedSiblingRun).map
      (fun system => (decide (Event.created 1 ∅ ∈ system.history), system.taskState 1,
        (system.manager.world 1).countP isEndNotification)) =
      some (true, some .processing, 1) := by
    decide
  rw [executed, Option.map_some, Option.some.injEq] at third second
  simp only [Prod.mk.injEq, decide_eq_true_eq] at third second
  obtain ⟨idle, created, twoEnds⟩ := third
  obtain ⟨sibling, processing, oneEnd⟩ := second
  refine ⟨system, Machine.reachable_of_execute rfl executed, idle, ⟨_, created⟩, ?_, twoEnds,
    ⟨_, sibling⟩, processing, oneEnd⟩
  intro follows
  have atMostOne := follows.count_le
  omega

end System

end LiteRTLM.Framework.ExecutionManager
