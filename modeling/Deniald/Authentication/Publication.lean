/-
What the shell is told: over every run of the controller whose late snapshots are still true when they are pushed, the
last event agrees with the state once every caller is done.
-/
import Deniald.Authentication.Unlock

namespace Deniald.Authentication

open Deniald.Lib

/-- What of the state the shell shows. -/
structure Face where
  locked : Bool
  busy : Bool
  attemptId : UInt64
  deriving DecidableEq

def AuthenticationSnapshot.face (snapshot : AuthenticationSnapshot) : Face :=
  ⟨snapshot.locked, snapshot.busy, snapshot.attemptId⟩

def Operation.pushes : Operation → Bool
  | .acknowledgeCheck | .acknowledgeStore => false
  | _ => true

def Worker.pushes : Worker → Bool
  | .prompting _ _ _ _ | .finished _ | .publishing => true
  | _ => false

namespace Controller

variable {s s' : Controller} {step : AuthenticationStep}

def face (s : Controller) : Face := ⟨s.locked, s.state.busy, s.state.activeAttemptId⟩

/-- Some push is still to come. -/
def PushDue (s : Controller) : Prop :=
  s.locking = true ∨ (∃ operation ∈ s.operations, operation.pushes = true) ∨ s.worker.pushes = true

/-- No operation is midway. -/
def Settled (s : Controller) : Prop := s.locking = false ∧ s.operations = [] ∧ s.worker.pushes = false

instance : Decidable s.PushDue := inferInstanceAs (Decidable (_ ∨ _))

/-- The last event of a `synchronize`, that the step pushes outside the state, and the operation that does. -/
def late (s : Controller) : AuthenticationStep → Option (Nat × AuthenticationEvent)
  | .operation index =>
    match s.operations[index]? with
    | some (.synchronize event none) | some (.synchronizePrompt event) => some (index, event)
    | _ => none
  | _ => none

/-- A snapshot that `synchronize` pushes late is still true, or another push is due. -/
def Timely (s : Controller) (step : AuthenticationStep) : Prop :=
  ∀ late ∈ s.late step, late.2.state.face = s.face ∨ (s.drop late.1).PushDue

instance : Decidable (s.Timely step) := inferInstanceAs (Decidable (∀ late ∈ s.late step, _))

/-- A state change, or a call of `synchronize`. -/
def Moves (s : Controller) (step : AuthenticationStep) : Prop := step = .synchronize ∨ (s.next step).face ≠ s.face

/-! ## Queue -/

/-- The flag tells whether there are events, and there are not too many. -/
def Queued (s : Controller) : Prop :=
  (s.eventsPending = true ↔ s.events ≠ []) ∧ s.events.length ≤ maxPendingEvents

theorem Queued.pushEvent (h : s.Queued) (ev : AuthenticationEvent) : (s.pushEvent ev).Queued := by
  refine ⟨iff_of_true rfl (List.append_ne_nil_of_right_ne_nil _ nofun), ?_⟩
  have hle := h.2
  simp only [Controller.pushEvent, List.length_append, List.length_singleton]; split
  · rw [List.length_tail]
    have : 0 < maxPendingEvents := by decide
    omega
  · omega

theorem Queued.tryEvent (h : s.Queued) : s.tryEvent.Queued := by
  refine ⟨?_, ?_⟩
  · simp only [Controller.tryEvent]
    cases rest : s.events.tail with
    | nil => simp
    | cons event evs =>
      have some_left : s.events ≠ [] := fun empty => by rw [empty] at rest; cases rest
      simpa using h.1.2 some_left
  · exact (by simp [Controller.tryEvent] : s.tryEvent.events.length ≤ s.events.length).trans h.2

variable {index : Nat} {first : Controller}

theorem Queued.operation (h : s.Queued) (move : s.OperationMove index s') : s'.Queued := by
  cases move with
  | check | checked | store => exact h
  | publish | push | state | stateOf | prompt => exact Queued.pushEvent h _

theorem queued_move (h : s.Queued) (move : s.Move step s') : s'.Queued := by
  cases move with
  | tryEvent => exact h.tryEvent
  | operation index _ move => exact h.operation move
  | converse | inform | publishResult | publishState => exact Queued.pushEvent h _
  | _ => exact h

/-! ## Prompts -/

def PromptTrue (s : Controller) : Prop :=
  ∀ work sequence requiresResponse event, s.worker = .prompting work sequence requiresResponse event →
    event.state.face = s.face

theorem OperationMove.face (move : s.OperationMove index s') : s'.face = s.face := by
  cases move <;> rfl

theorem promptTrue_move (valid : Valid s.locked s.state s.worker) (h : s.PromptTrue) (move : s.Move step s') :
    s'.PromptTrue := by
  have prompting {work sequence requiresResponse event}
      (worker : s.worker = .prompting work sequence requiresResponse event) : s.state.busy = true :=
    valid.busy_iff.2 (.inr (by rw [worker]; rfl))
  cases move with
  | lock =>
    intro work sequence requiresResponse event worker
    rw [h _ _ _ _ worker, face, valid.locked_of_busy (prompting worker)]; rfl
  | lockNext =>
    intro work sequence requiresResponse event worker; rw [h _ _ _ _ worker]
    simp [face, pend, prompting worker, AuthenticationState.revoke]
  | start free locked idle =>
    intro work sequence requiresResponse event worker
    rw [prompting worker] at idle; cases idle
  | operation index _ move =>
    intro work sequence requiresResponse event worker; rw [move.face]
    rw [move.frame.2.2.1] at worker; exact h _ _ _ _ worker
  | ask =>
    intro work sequence requiresResponse event worker
    cases worker; rfl
  | succeed | settle | fail | publishResult | publishState | converse | inform | timeOut | giveUp | answer | take |
    stop =>
    intro work sequence requiresResponse event worker; cases worker
  | _ => exact h

/-! ## Last event -/

/-- The shell has been told the state, or will be, or there was nothing to tell. -/
def Told (first : Controller) (steps : List AuthenticationStep) (s : Controller) : Prop :=
  s.PushDue ∨ s.lastPushed.map (·.face) = some s.face ∨ ¬Since next Moves (fun _ _ => False) first steps

theorem pushDue_pend {operation : Operation} (pushes : operation.pushes = true) : (s.pend operation).PushDue :=
  .inr (.inl ⟨operation, List.mem_cons_self .., pushes⟩)

theorem PushDue.pend (h : s.PushDue) (operation : Operation) : (s.pend operation).PushDue :=
  h.imp id (.imp (fun ⟨other, hmem, pushes⟩ => ⟨other, List.mem_cons_of_mem _ hmem, pushes⟩) id)

theorem PushDue.worker (h : s.PushDue) (quiet : s.worker.pushes = false) (l : s'.locking = s.locking)
    (os : s'.operations = s.operations) : s'.PushDue := by
  rcases h with held | ots | worker
  · exact .inl (l.trans held)
  · exact .inr (.inl (by rw [os]; exact ots))
  · rw [quiet] at worker; cases worker

theorem PushDue.acknowledging {at_ : Operation} (h : s.PushDue) (other : s.operations[index]? = some at_)
    (quiet : at_.pushes = false) (new : Operation) : (s.drop index).PushDue ∧ (s.replace index new).PushDue := by
  rcases h with held | ⟨operation, hmem, pushes⟩ | worker
  · exact ⟨.inl held, .inl held⟩
  · have hne : at_ ≠ operation := by
      rintro rfl
      rw [quiet] at pushes; cases pushes
    exact ⟨.inr (.inl ⟨operation, mem_drop hmem other hne, pushes⟩),
      .inr (.inl ⟨operation, mem_replace hmem other hne, pushes⟩)⟩
  · exact ⟨.inr (.inr worker), .inr (.inr worker)⟩

theorem Told.keep {steps : List AuthenticationStep} (h : Told first steps (exec next first steps))
    (due : (exec next first steps).PushDue → s'.PushDue) (face : s'.face = (exec next first steps).face)
    (last : s'.lastPushed = (exec next first steps).lastPushed) (still : ¬(exec next first steps).Moves step) :
    Told first (steps ++ [step]) s' := by
  rcases h with h | h | h
  · exact .inl (due h)
  · exact .inr (.inl (by rw [last, face]; exact h))
  · exact .inr (.inr fun sn => (since_snoc.1 sn).elim still fun sn => h sn.1)

theorem told_pushed {steps : List AuthenticationStep} {ev : AuthenticationEvent}
    (true_ : ev.state.face = s.face) : Told first steps (s.pushEvent ev) :=
  .inr (.inl (congrArg some true_))

theorem told_operation {steps : List AuthenticationStep} (h : Told first steps (exec next first steps))
    (t : (exec next first steps).Timely (.operation index)) (move : (exec next first steps).OperationMove index s')
    (still : ¬(exec next first steps).Moves (.operation index)) : Told first (steps ++ [.operation index]) s' := by
  cases move with
  | check at_ => exact h.keep (fun due => (due.acknowledging at_ rfl _).2) rfl rfl still
  | checked at_ => exact h.keep (fun due => (due.acknowledging at_ rfl .publishState).1) rfl rfl still
  | store at_ => exact h.keep (fun due => (due.acknowledging at_ rfl .publishState).1) rfl rfl still
  | publish => exact told_pushed rfl
  | push _ at_ => exact .inl (.inr (.inl ⟨_, replaced at_, rfl⟩))
  | stateOf _ _ at_ => exact .inl (.inr (.inl ⟨_, replaced at_, rfl⟩))
  | state event at_ | prompt event at_ =>
    have t := t (index, event) (by simp only [late, at_]; rfl)
    exact t.elim (fun true_ => told_pushed true_) .inl

theorem told_next {steps : List AuthenticationStep} (pt : (exec next first steps).PromptTrue)
    (h : Told first steps (exec next first steps)) (t : (exec next first steps).Timely step) :
    Told first (steps ++ [step]) ((exec next first steps).next step) := by
  by_cases call : step = .synchronize
  · subst call
    simp only [next, Controller.synchronize, enter]; split
    · exact .inl (.inl ‹_›)
    · exact .inl (pushDue_pend rfl)
  have move := next_move (s := exec next first steps) step
  have still : ((exec next first steps).next step).face = (exec next first steps).face →
      ¬(exec next first steps).Moves step := fun same ms => ms.elim call fun m => m same
  generalize (exec next first steps).next step = s' at move still
  cases move with
  | idle | tick | respond | tryEvent => exact h.keep id rfl rfl (still rfl)
  | acknowledge => exact h.keep (fun due => due.pend _) rfl rfl (still rfl)
  | synchronize => exact absurd rfl call
  | lock => exact .inl (.inl rfl)
  | lockNext | refuse | start | cancel => exact .inl (pushDue_pend rfl)
  | shutdown => exact h.keep id rfl rfl (still rfl)
  | operation index _ move => exact told_operation h t move (still move.face)
  | stop _ worker | take _ _ worker =>
    exact h.keep (fun due => due.worker (by rw [worker]; rfl) rfl rfl) rfl rfl (still rfl)
  | timeOut _ _ _ worker | giveUp _ _ _ _ worker | answer _ _ _ _ _ worker =>
    exact h.keep (fun due => due.worker (by rw [worker]; rfl) rfl rfl) rfl rfl (still rfl)
  | ask | succeed | settle | fail | publishResult => exact .inl (.inr (.inr rfl))
  | converse _ _ _ worker => exact told_pushed (pt _ _ _ _ worker)
  | inform _ _ _ worker => exact told_pushed (pt _ _ _ _ worker)
  | publishState => exact told_pushed rfl

/-! ## Runs -/

variable (startLocked available : Bool) (reason : String) (steps : List AuthenticationStep)

theorem queued_after : (after startLocked available reason steps).Queued :=
  exec_invariant (I := Queued) (fun _ step h => queued_move h (next_move step)) steps
    ⟨iff_of_false nofun (fun h => h rfl), Nat.zero_le _⟩

theorem promptTrue_after : (after startLocked available reason steps).PromptTrue := by
  let Reached (s : Controller) : Prop := Valid s.locked s.state s.worker ∧ s.PromptTrue
  have first : Reached (start startLocked available reason) := ⟨valid_start startLocked available reason, nofun⟩
  have step (s : Controller) (step : AuthenticationStep) (h : Reached s) : Reached (s.next step) :=
    ⟨valid_next h.1 step, promptTrue_move h.1 h.2 (next_move step)⟩
  exact (exec_invariant step steps first).2

/-- Every run whose late snapshots are timely tells the state: with no operation midway and after a change or a
synchronization, the last event pushed agrees with it. The flag of the queue and its bound hold all the time. -/
theorem last_event_agrees (timely : Along next Timely (start startLocked available reason) steps) :
    let s := after startLocked available reason steps
    (s.Settled → Since next Moves (fun _ _ => False) (start startLocked available reason) steps →
      s.lastPushed.map (·.face) = some s.face) ∧
    (s.eventsPending = true ↔ s.events ≠ []) ∧ s.events.length ≤ maxPendingEvents := by
  intro s
  refine ⟨fun settled moved => ?_, queued_after startLocked available reason steps⟩
  have told : Told (start startLocked available reason) steps s := by
    refine exec_history (I := Told (start startLocked available reason)) (.inr (.inr since_nil)) ?_ timely
    exact fun steps _ h timely => told_next (promptTrue_after startLocked available reason steps) h timely
  obtain ⟨free, none_left, quiet⟩ := settled
  rcases told with (held | ⟨operation, hmem, -⟩ | worker) | agrees | unmoved
  · rw [free] at held; cases held
  · rw [none_left] at hmem; cases hmem
  · rw [quiet] at worker; cases worker
  · exact agrees
  · exact absurd moved unmoved

/-- A synchronization whose prompt event is pushed before the worker is done, and a success. -/
theorem unlock_is_told :
    let steps : List AuthenticationStep := [.begin, .operation 0, .workerTake, .workerPrompt .echoOff "Password:",
      .workerPush, .synchronize, .operation 0, .operation 0, .respond 1 1 [104, 105], .workerConverse false,
      .workerFinish .success, .workerPublish, .workerPublish]
    (after true true "" steps).lastPushed.map (·.face) = some ⟨false, false, 1⟩ := by
  intro steps
  have timely : Along next Timely (start true true "") steps := by decide
  have moved : Since next Moves (fun _ _ => False) (start true true "") steps :=
    ⟨[.begin, .operation 0, .workerTake, .workerPrompt .echoOff "Password:", .workerPush], .synchronize, _, rfl, .inl rfl,
      along_of_forall fun _ _ h => h⟩
  exact (last_event_agrees true true "" steps timely).1 ⟨rfl, rfl, rfl⟩ moved

/-- A snapshot taken before the worker unlocks is pushed after it has told so: the shell shows a lock screen, with an
attempt under way, over a session that is unlocked. -/
theorem stale_snapshot_is_last :
    let s := after true true "" [.begin, .operation 0, .workerTake, .synchronize, .workerFinish .success, .workerPublish,
      .workerPublish, .operation 0]
    s.locking = false ∧ s.operations = [] ∧ s.worker = .waiting ∧ s.face = ⟨false, false, 1⟩ ∧
      s.lastPushed.map (·.face) = some ⟨true, true, 1⟩ := by
  decide

end Controller

end Deniald.Authentication
