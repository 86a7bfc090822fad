/-
What opens the lock: over every run of the controller, only a current attempt the backend accepts; and what an attempt
waits for before it begins.
-/
import Deniald.Authentication.Moves

namespace Deniald.Authentication

open Deniald.Lib

/-- The operation is between two of its stores to the lock flags. -/
def Operation.acknowledges : Operation → Bool
  | .acknowledgeCheck | .acknowledgeStore => true
  | _ => false

namespace Controller

variable {s s' : Controller} {step : AuthenticationStep}

/-! ## Operations in flight -/

variable {index : Nat} {at_ : Operation} {first : Controller}

theorem mem_drop {operation : Operation} (h : operation ∈ s.operations) (other : s.operations[index]? = some at_)
    (hne : at_ ≠ operation) : operation ∈ (s.drop index).operations := by
  obtain ⟨i, hi⟩ := List.mem_iff_getElem?.1 h
  refine List.mem_eraseIdx_iff_getElem?.2 ⟨i, ?_, hi⟩
  rintro rfl; exact hne (Option.some.inj (other.symm.trans hi))

theorem mem_replace {operation new : Operation} (h : operation ∈ s.operations)
    (other : s.operations[index]? = some at_) (hne : at_ ≠ operation) :
    operation ∈ (s.replace index new).operations := by
  obtain ⟨i, hi⟩ := List.mem_iff_getElem?.1 h
  refine List.mem_iff_getElem?.2 ⟨i, ?_⟩
  have hn : index ≠ i := by
    rintro rfl; exact hne (Option.some.inj (other.symm.trans hi))
  rw [replace, List.getElem?_set_ne hn]; exact hi

theorem replaced {new : Operation} (h : s.operations[index]? = some at_) : new ∈ (s.replace index new).operations :=
  List.mem_set (List.getElem?_eq_some_iff.1 h).1 new

/-! ## Security gate -/

/-- A locked session whose gate is open has a call that will close it. -/
def Guarded (s : Controller) : Prop :=
  s.locked = true → s.securityGateLocked = true ∨ s.locking = true ∨
    ∃ operation ∈ s.operations, operation.acknowledges = true

theorem Guarded.operation (h : s.Guarded) (move : s.OperationMove index s') : s'.Guarded := by
  intro locked
  -- Another operation goes on, and leaves those that acknowledge where they are.
  have keep {at_ : Operation} (other : s.operations[index]? = some at_) (quiet : at_.acknowledges = false)
      (locked : s.locked = true) : s.securityGateLocked = true ∨ s.locking = true ∨
      ∃ operation, operation.acknowledges = true ∧ operation ∈ (s.drop index).operations ∧
        ∀ new, operation ∈ (s.replace index new).operations := by
    rcases h locked with gate | held | ⟨operation, hmem, hk⟩
    · exact .inl gate
    · exact .inr (.inl held)
    have hne : at_ ≠ operation := by
      rintro rfl
      rw [quiet] at hk; cases hk
    exact .inr (.inr ⟨operation, hk, mem_drop hmem other hne, fun _ => mem_replace hmem other hne⟩)
  cases move with
  | check at_ => exact .inr (.inr ⟨_, replaced at_, rfl⟩)
  | checked at_ u => exact absurd (u.symm.trans locked) nofun
  | store => exact .inl rfl
  | publish at_ | state _ at_ | prompt _ at_ =>
    exact (keep at_ rfl locked).imp id (.imp id fun ⟨operation, hk, hmem, _⟩ => ⟨operation, hmem, hk⟩)
  | push _ at_ | stateOf _ _ at_ =>
    exact (keep at_ rfl locked).imp id (.imp id fun ⟨operation, hk, _, hmem⟩ => ⟨operation, hmem _, hk⟩)

theorem Guarded.pend (h : s.Guarded) (operation : Operation) : (s.pend operation).Guarded := fun locked =>
  (h locked).imp id (.imp id fun ⟨other, hmem, hk⟩ => ⟨other, List.mem_cons_of_mem _ hmem, hk⟩)

theorem guarded_move (h : s.Guarded) (move : s.Move step s') : s'.Guarded := by
  cases move with
  | lock => exact fun _ => .inr (.inl rfl)
  | lockNext => exact fun _ => .inl rfl
  | acknowledge => exact fun _ => .inr (.inr ⟨_, List.mem_cons_self .., rfl⟩)
  | synchronize | refuse | start | cancel => exact Guarded.pend h _
  | operation index _ move => exact h.operation move
  | succeed => exact nofun
  | _ => exact h

/-! ## Attempts -/

/-- An attempt that was begun and not finished is the only one. -/
def Single (s : Controller) : Prop := s.starts = s.finishes + if s.state.busy then 1 else 0

/-- The cooldown of the latest failure stands until it has passed, and has passed when an attempt is on. -/
def Rested (s : Controller) : Prop :=
  ∀ deadline, s.latestCooldown = some deadline →
    (deadline ≤ s.now ∨ s.state.cooldownUntil = some deadline) ∧ (s.state.busy = true → deadline ≤ s.now)

theorem OperationMove.attempts (move : s.OperationMove index s') :
    s'.starts = s.starts ∧ s'.finishes = s.finishes ∧ s'.latestCooldown = s.latestCooldown ∧ s'.now = s.now := by
  cases move <;> exact ⟨rfl, rfl, rfl, rfl⟩

theorem busy_of_running {work : WorkItem} (valid : Valid s.locked s.state s.worker)
    (worker : s.worker = .running work) : s.state.busy = true :=
  valid.busy_iff.2 (.inr (by rw [worker]; rfl))

theorem single_finish (valid : Valid s.locked s.state s.worker) (h : s.Single) {work : WorkItem}
    (worker : s.worker = .running work) : s.starts = s.finishes + 1 := by
  have h : s.starts = s.finishes + if s.state.busy then 1 else 0 := h
  rwa [busy_of_running valid worker] at h

theorem single_move (valid : Valid s.locked s.state s.worker) (h : s.Single) (move : s.Move step s') : s'.Single := by
  cases move with
  | lockNext =>
    unfold Single at h ⊢
    by_cases busy : s.state.busy = true
    · simp only [pend, busy, if_true, AuthenticationState.revoke] at h ⊢; exact h
    · simp only [pend, busy, Bool.false_eq_true, if_false] at h ⊢; exact h
  | start free locked idle =>
    simp only [Single, idle] at h; exact congrArg (· + 1) h
  | operation index _ move =>
    obtain ⟨-, hst, -⟩ := move.frame
    obtain ⟨hs, hf, -⟩ := move.attempts
    rw [Single, hs, hf, hst]; exact h
  | succeed _ _ worker | settle _ _ _ worker | fail _ _ _ worker => exact single_finish valid h worker
  | _ => exact h

theorem rested_start (h : s.Rested) (r : s.coolingDown = false) :
    ∀ deadline, s.latestCooldown = some deadline → deadline ≤ s.now := by
  intro deadline l
  rcases (h deadline l).1 with p | st
  · exact p
  · simpa [coolingDown, st] using r

theorem rested_move (valid : Valid s.locked s.state s.worker) (h : s.Rested) (move : s.Move step s') : s'.Rested := by
  cases move with
  | tick e =>
    intro deadline l
    obtain ⟨st, p⟩ := h deadline l
    exact ⟨st.imp_left fun hle => Nat.le_add_right_of_le hle, fun busy => Nat.le_add_right_of_le (p busy)⟩
  | lockNext =>
    unfold Rested
    by_cases busy : s.state.busy = true
    · simp only [pend, busy, if_true]; exact h
    · simp only [pend, busy]; exact h
  | start free locked idle available ready =>
    exact fun deadline l => ⟨.inl (rested_start h ready deadline l), fun _ =>
      rested_start h ready deadline l⟩
  | operation index _ move =>
    obtain ⟨-, hs, -⟩ := move.frame
    obtain ⟨-, -, hla, hn⟩ := move.attempts; unfold Rested
    rw [hla, hn, hs]; exact h
  | succeed _ _ worker =>
    exact fun deadline l => ⟨.inl ((h deadline l).2 (busy_of_running valid worker)), fun busy => by cases busy⟩
  | settle => exact fun deadline l => ⟨(h deadline l).1, fun busy => by cases busy⟩
  | fail => exact fun deadline l => ⟨.inr l, fun busy => by cases busy⟩
  | _ => exact h

/-! ## Current attempts -/

def AtWork (s : Controller) (work : WorkItem) : Prop := s.state.pendingWork = some work ∨ s.worker.work = some work

def Begins (work : WorkItem) (s : Controller) (step : AuthenticationStep) : Prop :=
  s.begins step = true ∧ work = ⟨s.state.nextAttemptId, s.state.generation + 1⟩

/-- The step ends whatever attempt is current, or begins another. -/
def Ends (s : Controller) (step : AuthenticationStep) : Prop := s.revokes step = true ∨ s.begins step = true

/-- The attempt that is on has been revoked, or was begun after everything that revokes one. -/
def Fresh (first : Controller) (steps : List AuthenticationStep) (s : Controller) : Prop :=
  ∀ work, s.AtWork work → s.state.stopping = true ∨ s.state.cancelRequested = true ∨ s.locking = true ∨
    Since next (Begins work) Ends first steps

theorem Fresh.keep {steps : List AuthenticationStep} (h : Fresh first steps (exec next first steps))
    (revokes : (exec next first steps).revokes step = false) (begins : (exec next first steps).begins step = false)
    (work : ∀ work, s'.AtWork work → (exec next first steps).AtWork work)
    (st : s'.state.stopping = (exec next first steps).state.stopping)
    (cancelled : s'.state.cancelRequested = (exec next first steps).state.cancelRequested)
    (l : s'.locking = (exec next first steps).locking) : Fresh first (steps ++ [step]) s' := by
  intro w hw; rw [st, cancelled, l]
  refine (h w (work w hw)).imp id (.imp id (.imp id fun sn => since_snoc.2 (.inr ⟨sn, ?_⟩)))
  rintro (h | h)
  · rw [revokes] at h; cases h
  · rw [begins] at h; cases h

theorem Fresh.revoked {steps : List AuthenticationStep} (cancelled : s'.state.cancelRequested = true) :
    Fresh first steps s' := fun _ _ => .inr (.inl cancelled)

theorem Fresh.done {steps : List AuthenticationStep} (valid : Valid s'.locked s'.state s'.worker)
    (idle : s'.state.busy = false) : Fresh first steps s' := by
  rintro work (pending | running)
  · have busy := valid.busy_iff.2 (.inl (by rw [pending]; rfl))
    rw [idle] at busy; cases busy
  · have busy := valid.busy_iff.2 (.inr (by rw [running]; rfl))
    rw [idle] at busy; cases busy

theorem fresh_move {steps : List AuthenticationStep}
    (valid : Valid (exec next first steps).locked (exec next first steps).state (exec next first steps).worker)
    (h : Fresh first steps (exec next first steps)) (move : (exec next first steps).Move step s') :
    Fresh first (steps ++ [step]) s' := by
  have valid' := valid_move valid move
  cases move with
  | idle quiet => exact h.keep quiet.2.1 quiet.1 (fun _ => id) rfl rfl rfl
  | tick | acknowledge | synchronize | tryEvent | respond =>
    exact h.keep rfl rfl (fun _ => id) rfl rfl rfl
  | refuse _ _ refused => exact h.keep rfl refused (fun _ => id) rfl rfl rfl
  | lock => exact fun _ _ => .inr (.inr (.inl rfl))
  | lockNext =>
    by_cases busy : (exec next first steps).state.busy = true
    · refine Fresh.revoked ?_
      simp only [pend, busy, if_true]; rfl
    · exact Fresh.done valid' (by simp [pend, busy])
  | start free locked idle available ready =>
    rintro work (pending | running)
    · cases pending
      exact .inr (.inr (.inr (since_snoc.2 (.inl ⟨by simp [begins, free, locked, idle, available, ready], rfl⟩))))
    · have running : (exec next first steps).worker.work = some work := running
      have busy := valid.busy_iff.2 (.inr (by rw [running]; rfl))
      rw [idle] at busy; cases busy
  | cancel => exact Fresh.revoked rfl
  | shutdown => exact Fresh.revoked rfl
  | operation index _ move =>
    obtain ⟨-, hs, hr, hlo⟩ := move.frame
    refine h.keep rfl rfl (fun work hw => ?_) (by rw [hs]) (by rw [hs]) hlo; unfold AtWork at hw
    rwa [hs, hr] at hw
  | stop _ worker => exact h.keep rfl rfl (fun _ hw => hw.imp id fun hw => by cases hw) rfl rfl rfl
  | take work _ worker pending =>
    exact h.keep rfl rfl (fun _ hw => hw.elim (fun hw => by cases hw) fun hw => .inl (pending.trans hw)) rfl rfl rfl
  | ask _ _ _ _ worker =>
    exact h.keep rfl rfl (fun _ hw => hw.imp id fun hw => by rw [worker]; exact hw) rfl rfl rfl
  | converse _ _ _ worker | inform _ _ _ worker =>
    exact h.keep rfl rfl (fun _ hw => hw.imp id fun hw => by rw [worker]; exact hw) rfl rfl rfl
  | timeOut => exact Fresh.revoked rfl
  | giveUp _ _ _ _ worker cancelled =>
    refine h.keep ?_ rfl (fun _ hw => hw.imp id fun hw => by rw [worker]; exact hw) rfl rfl rfl
    simp [revokes, worker, AuthenticationState.awaits, cancelled]
  | answer _ _ _ _ _ worker _ answered =>
    refine h.keep ?_ rfl (fun _ hw => hw.imp id fun hw => by rw [worker]; exact hw) rfl rfl rfl
    simp [revokes, worker, AuthenticationState.awaits, answered]
  | succeed | settle | fail => exact Fresh.done valid' rfl
  | publishResult => exact h.keep rfl rfl (fun _ hw => hw.imp id fun hw => by cases hw) rfl rfl rfl
  | publishState => exact h.keep rfl rfl (fun _ hw => hw.imp id fun hw => by cases hw) rfl rfl rfl

/-! ## Runs -/

theorem unlock_move (move : s.Move step s') (locked : s.locked = true) (u : s'.locked = false) :
    step = .workerFinish .success ∧ ∃ work, s.worker = .running work ∧ s.state.current work = true := by
  cases move with
  | succeed work _ worker current => exact ⟨rfl, work, worker, current⟩
  | lock => cases u
  | operation index _ move => exact absurd (move.frame.1.symm.trans u |>.symm.trans locked) nofun
  | _ => exact absurd (u.symm.trans locked) nofun

theorem failureCount_move (move : s.Move step s') (c : s'.state.failureCount < s.state.failureCount) :
    step = .workerFinish .success ∧ (∃ work, s.worker = .running work) ∧ s'.locked = false := by
  cases move with
  | succeed work _ worker => exact ⟨rfl, ⟨work, worker⟩, rfl⟩
  | fail => exact absurd c (UInt32.not_lt.2 (le_countFailure _))
  | operation index _ move =>
    rw [move.frame.2.1] at c; exact absurd c (UInt32.lt_irrefl _)
  | lockNext =>
    by_cases busy : s.state.busy = true
    · simp only [pend, busy, if_true] at c; exact absurd c (UInt32.lt_irrefl _)
    · simp only [pend, busy] at c; exact absurd c (UInt32.lt_irrefl _)
  | _ => exact absurd c (UInt32.lt_irrefl _)

variable (startLocked available : Bool) (reason : String) (steps : List AuthenticationStep)

theorem fresh_after : Fresh (start startLocked available reason) steps (after startLocked available reason steps) := by
  refine exec_history (G := fun _ _ => True) ?_ ?_ (along_of_forall fun _ _ => trivial)
  · exact fun _ hw => hw.elim nofun nofun
  · exact fun steps step h _ => fresh_move (valid_after _ _ _ steps) h (next_move step)

theorem attempts_after : (after startLocked available reason steps).Single ∧
    (after startLocked available reason steps).Rested := by
  let Reached (s : Controller) : Prop := Valid s.locked s.state s.worker ∧ s.Single ∧ s.Rested
  have first : Reached (start startLocked available reason) := ⟨valid_start startLocked available reason, rfl, nofun⟩
  have step (s : Controller) (step : AuthenticationStep) (h : Reached s) : Reached (s.next step) :=
    ⟨valid_next h.1 step, single_move h.1 h.2.1 (next_move step), rested_move h.1 h.2.2 (next_move step)⟩
  exact (exec_invariant step steps first).2

theorem guarded_after : (after startLocked available reason steps).Guarded :=
  exec_invariant (I := Guarded) (fun _ step h => guarded_move h (next_move step)) steps Or.inl

/-- The session unlocks only by a success of the backend for an attempt that was begun after the latest lock, and not
revoked since; attempts run one at a time, and begin once the cooldown of the latest failure has passed; failures are
forgotten by success alone; and the gate of a locked session is closed, once no caller is between its stores. -/
theorem unlocks_only_by_success (step : AuthenticationStep) :
    let s := after startLocked available reason steps
    (s.locked = true → (s.next step).locked = false → step = .workerFinish .success ∧
      ∃ work, s.worker = .running work ∧
        Since next (Begins work) Ends (start startLocked available reason) steps) ∧
    s.starts ≤ s.finishes + 1 ∧
    (s.begins step = true → ∀ deadline, s.latestCooldown = some deadline → deadline ≤ s.now) ∧
    ((s.next step).state.failureCount < s.state.failureCount →
      step = .workerFinish .success ∧ s.locked = true ∧ (s.next step).locked = false) ∧
    (s.locking = false → (∀ operation ∈ s.operations, operation.acknowledges = false) →
      s.locked = true → s.securityGateLocked = true) := by
  intro s
  have valid := valid_after startLocked available reason steps
  obtain ⟨single, rested⟩ := attempts_after startLocked available reason steps
  refine ⟨fun locked unlocked => ?_, ?_, fun begins => ?_, fun cleared => ?_, fun free quiet locked => ?_⟩
  · obtain ⟨rfl, work, worker, current⟩ := unlock_move (next_move step) locked unlocked
    refine ⟨rfl, work, worker, ?_⟩
    simp only [AuthenticationState.current, Bool.and_eq_true, Bool.not_eq_true'] at current
    have fresh := fresh_after startLocked available reason steps work (.inr (by rw [worker]; rfl))
    rcases fresh with stopping | cancelled | locking | since
    · rw [current.1.1.1] at stopping; cases stopping
    · rw [current.2] at cancelled; cases cancelled
    · -- The worker finishes within the state, which `lock` does not hold then.
      have same : s.next (.workerFinish .success) = s := by
        rw [next, workerFinish, enter, if_pos locking]
      rw [same, locked] at unlocked; cases unlocked
    · exact since
  · have single : s.starts = s.finishes + if s.state.busy then 1 else 0 := single
    split at single <;> omega
  · cases step with
    | begin =>
      simp only [Controller.begins, Bool.and_eq_true, Bool.not_eq_true'] at begins
      exact rested_start rested begins.2
    | _ => cases begins
  · obtain ⟨rfl, ⟨work, worker⟩, unlocked⟩ := failureCount_move (next_move step) cleared
    exact ⟨rfl, valid.locked_of_busy (busy_of_running valid worker), unlocked⟩
  · rcases guarded_after startLocked available reason steps locked with gate | held | ⟨operation, hmem, hack⟩
    · exact gate
    · rw [free] at held; cases held
    · rw [quiet operation hmem] at hack; cases hack

end Controller

end Deniald.Authentication
