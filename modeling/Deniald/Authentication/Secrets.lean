/-
Where responses go: over every run of the controller, one that is handed to the backend was accepted for that attempt
and prompt, and nothing has come between.
-/
import Deniald.Authentication.Moves

namespace Deniald.Authentication

open Deniald.Lib

theorem Valid.response_none_of_idle {locked : Bool} {st : AuthenticationState} {worker : Worker}
    (h : Valid locked st worker) (idle : st.busy = false) : st.response = none := by
  by_contra held
  obtain ⟨prompt, set, -⟩ := h.prompted (Option.isSome_iff_ne_none.2 held)
  obtain ⟨work, hw, -⟩ := h.current prompt set
  have busy := h.busy_iff.2 (.inr (by rw [hw]; rfl))
  rw [idle] at busy; cases busy

theorem Valid.response_none {locked : Bool} {st : AuthenticationState} {worker : Worker}
    (h : Valid locked st worker) (silent : worker.asks = none) : st.response = none := by
  by_contra held
  obtain ⟨prompt, set, required⟩ := h.prompted (Option.isSome_iff_ne_none.2 held)
  rw [h.asked prompt set required] at silent; cases silent

namespace Controller

variable {s s' : Controller} {step : AuthenticationStep}

/-- The response that waits for the worker, with the attempt and the prompt the worker is at. A lock that is in the
state is about to take it. -/
def held (s : Controller) : Option Answer :=
  match s.locking, s.worker.work, s.worker.asks, s.state.response with
  | false, some work, some sequence, some response => some ⟨work.attemptId, sequence, response⟩
  | _, _, _, _ => none

/-- The step leaves no response for what comes after it. -/
def Discards (s : Controller) (step : AuthenticationStep) : Prop :=
  s.revokes step = true ∨ s.begins step = true ∨ s.prompts step = true ∨ (s.handed step).isSome = true

theorem held_eq_none (h : s.state.response = none) : s.held = none := by
  unfold held; split
  · rename_i r; rw [h] at r; cases r
  · rfl

theorem held_of_handed {answer : Answer} (h : s.handed step = some answer) : s.held = some answer := by
  cases step with
  | workerConverse timedOut =>
    unfold handed at h
    simp only at h
    split at h
    · rename_i work sequence worker; split at h
      · cases h
      · rename_i free
        simp only [Bool.or_eq_true, not_or, Bool.not_eq_true] at free
        obtain ⟨response, hr, rfl⟩ := Option.map_eq_some_iff.1 h
        simp [held, free.1.1, worker, Worker.work, Worker.asks, hr]
    · cases h
  | _ => cases h

theorem accepts_prompt {att : UInt64} {sequence : UInt32} (accepts : s.state.accepts att sequence = true) :
    att = s.state.activeAttemptId ∧ ∃ prompt, s.state.prompt = some prompt ∧
      prompt.requiresResponse = true ∧ prompt.sequence = sequence := by
  simp only [AuthenticationState.accepts, Bool.and_eq_true, Option.any_eq_true, beq_iff_eq] at accepts
  exact ⟨accepts.1.1.1.2, accepts.1.2⟩

theorem held_of_accepts {att : UInt64} {sequence : UInt32} {response : SecureString}
    (valid : Valid s.locked s.state s.worker) (free : s.locking = false)
    (accepts : s.state.accepts att sequence = true) :
    { s with state := { s.state with response := some response } }.held = some ⟨att, sequence, response⟩ := by
  obtain ⟨a, prompt, set, required, rfl⟩ := accepts_prompt accepts
  obtain ⟨work, hw, -, hac⟩ := valid.current prompt set
  simp [held, free, hw, valid.asked prompt set required, hac, ← a]

/-! ## Steps -/

theorem held_frame (worker : s'.worker = s.worker) (response : s'.state.response = s.state.response)
    (l : s'.locking = s.locking) : s'.held = s.held := by
  unfold held; rw [worker, response, l]

/-- What becomes of the response that waits: it stays, it is a new one, or there is none. -/
theorem held_move (valid : Valid s.locked s.state s.worker) (move : s.Move step s') :
    (s'.held = s.held ∧ s.accepted step = none ∧ ¬s.Discards step) ∨
    (s'.held = s.accepted step ∧ s.held = none ∧ s.handed step = none) ∨ (s'.held = none ∧ s.accepted step = none) := by
  have ss {step : AuthenticationStep} {s' : Controller} (quiet : s.Quiet step) (worker : s'.worker = s.worker)
      (r : s'.state.response = s.state.response)
      (l : s'.locking = s.locking) : s'.held = s.held ∧ s.accepted step = none ∧ ¬s.Discards step := by
    obtain ⟨begins, revokes, accepted, handed, prompts⟩ := quiet
    exact ⟨held_frame worker r l, accepted, by simp [Discards, begins, revokes, handed, prompts]⟩
  have valid' := valid_move valid move
  cases move with
  | idle quiet => exact .inl (ss quiet rfl rfl rfl)
  | tick | acknowledge | synchronize | tryEvent => exact .inl (ss ⟨rfl, rfl, rfl, rfl, rfl⟩ rfl rfl rfl)
  | lockNext =>
    by_cases busy : s.state.busy = true
    · exact .inr (.inr ⟨held_eq_none (by simp only [pend, busy, if_true]; rfl), rfl⟩)
    refine .inr (.inr ⟨held_eq_none ?_, rfl⟩)
    have r := valid.response_none_of_idle (Bool.eq_false_iff.2 busy)
    simp only [pend, busy]; exact r
  | refuse _ _ refused => exact .inl (ss ⟨refused, rfl, rfl, rfl, rfl⟩ rfl rfl rfl)
  | respond att sequence r free accepts =>
    refine .inr (.inl ⟨?_, held_eq_none ?_, rfl⟩)
    · rw [held_of_accepts valid free accepts, accepted, free, accepts]; rfl
    · simp only [AuthenticationState.accepts, Bool.and_eq_true, Option.isNone_iff_eq_none] at accepts
      exact accepts.2
  | lock => exact .inr (.inr ⟨rfl, rfl⟩)
  | start | cancel | shutdown | ask => exact .inr (.inr ⟨held_eq_none rfl, rfl⟩)
  | operation index _ move =>
    obtain ⟨-, hs, hw, hlo⟩ := move.frame
    exact .inl (ss ⟨rfl, rfl, rfl, rfl, rfl⟩ hw (by rw [hs]) hlo)
  | converse work sequence event worker =>
    refine .inl ⟨?_, rfl, by simp [Discards, begins, revokes, handed, prompts]⟩
    simp [held, worker, pushEvent, Worker.work, Worker.asks]
  | _ => exact .inr (.inr ⟨held_eq_none (valid'.response_none rfl), rfl⟩)

theorem handed_held_sublist (valid : Valid s.locked s.state s.worker) (step : AuthenticationStep) :
    ((s.handed step).toList ++ (s.next step).held.toList).Sublist (s.held.toList ++ (s.accepted step).toList) := by
  have handed_le : (s.handed step).toList.Sublist s.held.toList := by
    cases h : s.handed step with
    | none => exact List.nil_sublist _
    | some answer => rw [held_of_handed h]
  rcases held_move valid (next_move step) with ⟨ss, accepted, kept⟩ | ⟨new, empty, handed⟩ | ⟨gone, accepted⟩
  · have handed : s.handed step = none := by
      by_contra h
      exact kept (.inr (.inr (.inr (Option.isSome_iff_ne_none.2 h))))
    rw [ss, accepted, handed]; simp
  · rw [new, empty, handed]
  · rw [gone, accepted]
    simpa using handed_le

variable (startLocked available : Bool) (reason : String) (steps : List AuthenticationStep)

theorem held_since {answer : Answer} (h : (after startLocked available reason steps).held = some answer) :
    Since next (fun s step => s.accepted step = some answer) Discards (start startLocked available reason) steps := by
  revert answer
  refine exec_history (I := fun steps (s : Controller) => ∀ {answer}, s.held = some answer →
    Since next (fun s step => s.accepted step = some answer) Discards (start startLocked available reason) steps)
    (G := fun _ _ => True) ?_ ?_ (along_of_forall fun _ _ => trivial)
  · rintro answer h; cases h
  · intro steps step ih _ answer h; rw [since_snoc]
    rcases held_move (valid_after startLocked available reason steps) (next_move step) with
      ⟨ss, -, kept⟩ | ⟨new, -⟩ | ⟨gone, -⟩
    · rw [ss] at h; exact .inr ⟨ih h, kept⟩
    · rw [new] at h; exact .inl h
    · rw [gone] at h; cases h

theorem handed_sublist_accepted : ((trace next handed (start startLocked available reason) steps) ++
      (after startLocked available reason steps).held.toList).Sublist
      (trace next accepted (start startLocked available reason) steps) := by
  induction steps using List.reverseRecOn with
  | nil => exact List.Sublist.refl _
  | append_singleton steps step ih =>
    rw [trace_snoc, trace_snoc, after, exec_snoc, List.append_assoc]
    have one := handed_held_sublist (valid_after startLocked available reason steps) step
    refine (List.Sublist.append_left one _).trans ?_
    rw [← List.append_assoc]; exact List.Sublist.append_right ih _

/-- A response is handed over for the attempt and the prompt it was accepted for, with no lock, cancel, timeout or drop
since, no other prompt and no other handover; the responses handed over are some of those accepted, in their order; and
a message that needs no response finds none and leaves none. -/
theorem responses_answer_their_prompt (step : AuthenticationStep) :
    let first := start startLocked available reason
    let s := after startLocked available reason steps
    (∀ answer, s.handed step = some answer →
      Since next (fun s step => s.accepted step = some answer) Discards first steps) ∧
    (trace next handed first steps).Sublist (trace next accepted first steps) ∧
    (s.prompts step = true → s.state.response = none) ∧
    (∀ work sequence event, s.worker = .prompting work sequence false event →
      s.state.response = none ∧ s.accepted step = none ∧ s.handed step = none) := by
  intro first s
  have valid := valid_after startLocked available reason steps
  refine ⟨fun answer h => held_since _ _ _ steps (held_of_handed h), ?_, fun prompts => ?_, ?_⟩
  · exact (List.sublist_append_left _ _).trans (handed_sublist_accepted startLocked available reason steps)
  · cases step with
    | workerPrompt style message =>
      unfold Controller.prompts at prompts
      simp only at prompts
      split at prompts
      · rename_i worker; exact valid.response_none (by rw [worker]; rfl)
      · cases prompts
    | _ => cases prompts
  · intro work sequence event worker
    have silent : s.worker.asks = none := by rw [worker]; rfl
    refine ⟨valid.response_none silent, ?_, ?_⟩
    · cases step with
      | respond attemptId sequence response =>
        refine if_neg fun h => ?_
        obtain ⟨-, prompt, set, required, -⟩ := accepts_prompt (Bool.and_eq_true_iff.1 h).2
        rw [valid.asked prompt set required] at silent; cases silent
      | _ => rfl
    · cases step with
      | workerConverse => rw [handed, worker]
      | _ => rfl

end Controller

end Deniald.Authentication
