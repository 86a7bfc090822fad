/-
The vsync batons Flutter waits on (flutter_runtime/output_pipeline.rs, `PendingVsyncBatons`): a bounded queue
without duplicates, its membership mirrored in a set. A baton taken for a frame is given back when the frame
cannot be dispatched. Every registration accepted is pending, taken or delivered, and is delivered once.
-/
import Deniald.Lib.Run
import Mathlib.Algebra.Ring.Nat
import Mathlib.Data.Finset.Basic

namespace Deniald.Flutter

open Deniald.Lib

/-! ## Model -/

/-- `MAX_PENDING_VSYNC_BATONS`. -/
def maxPendingVsyncBatons : Nat := 256

inductive VsyncRegistration where
  | accepted
  | duplicate
  | atCapacity

structure PendingVsyncBatons where
  values : List Int64
  members : Finset Int64

namespace PendingVsyncBatons

/-- `PendingVsyncBatons::default`. -/
def default : PendingVsyncBatons := ⟨[], ∅⟩

def register (p : PendingVsyncBatons) (baton : Int64) : PendingVsyncBatons × VsyncRegistration :=
  if baton ∈ p.members then (p, .duplicate)
  else if maxPendingVsyncBatons ≤ p.values.length then (p, .atCapacity)
  else (⟨p.values ++ [baton], insert baton p.members⟩, .accepted)

/-- Removes the baton at its first position. -/
def complete (p : PendingVsyncBatons) (baton : Int64) : PendingVsyncBatons × Bool :=
  if baton ∈ p.values then (⟨p.values.erase baton, p.members.erase baton⟩, true) else (p, false)

def takeNext (p : PendingVsyncBatons) : PendingVsyncBatons × Option Int64 :=
  match p.values with
  | [] => (p, none)
  | baton :: values => (⟨values, p.members.erase baton⟩, some baton)

def restoreFront (p : PendingVsyncBatons) (baton : Int64) : PendingVsyncBatons :=
  if baton ∈ p.members then p else ⟨baton :: p.values, insert baton p.members⟩

def takeAll (p : PendingVsyncBatons) : PendingVsyncBatons × List Int64 := (⟨[], ∅⟩, p.values)

end PendingVsyncBatons

/-! ## Runs -/

/-- An operation on the queue, or the dispatch of a baton taken from it. -/
inductive BatonEvent where
  | register (baton : Int64)
  | takeNext
  | restoreFront (baton : Int64)
  | deliver (baton : Int64)
  | complete (baton : Int64)
  | takeAll

/-- The queue with the registrations it accepted, the batons taken whose dispatch is undecided and the most of
them there were at a time, the batons delivered, and those given back while the same baton was pending anew. -/
structure BatonSession where
  pending : PendingVsyncBatons
  registered : List Int64
  taken : List Int64
  delivered : List Int64
  merged : List Int64
  mostTaken : Nat

namespace BatonSession

def start : BatonSession := ⟨.default, [], [], [], [], 0⟩

def next (s : BatonSession) : BatonEvent → BatonSession
  | .register baton =>
    match s.pending.register baton with
    | (pending, .accepted) => { s with pending := pending, registered := baton :: s.registered }
    | (pending, _) => { s with pending := pending }
  | .takeNext =>
    match s.pending.takeNext with
    | (pending, some baton) =>
      { s with
        pending := pending
        taken := baton :: s.taken
        mostTaken := max s.mostTaken (s.taken.length + 1) }
    | (pending, none) => { s with pending := pending }
  | .restoreFront baton =>
    { s with
      pending := s.pending.restoreFront baton
      taken := s.taken.erase baton
      merged := if baton ∈ s.pending.members then baton :: s.merged else s.merged }
  | .deliver baton => { s with taken := s.taken.erase baton, delivered := baton :: s.delivered }
  | .complete baton =>
    match s.pending.complete baton with
    | (pending, true) => { s with pending := pending, delivered := baton :: s.delivered }
    | (pending, false) => { s with pending := pending }
  | .takeAll => { s with pending := s.pending.takeAll.1, delivered := s.pending.takeAll.2 ++ s.delivered }

def GivesBack (s : BatonSession) : BatonEvent → Prop
  | .restoreFront baton => baton ∈ s.taken
  | .deliver baton => baton ∈ s.taken
  | _ => True

def RegistersOnce (s : BatonSession) : BatonEvent → Prop
  | .register baton => baton ∉ s.taken
  | _ => True

/-! ## Steps -/

/-- The queue has no duplicates, and its set mirrors it. -/
structure Mirrored (p : PendingVsyncBatons) : Prop where
  nodup : p.values.Nodup
  members : p.members = p.values.toFinset

variable {s : BatonSession}

variable {p : PendingVsyncBatons} {baton : Int64}

theorem Mirrored.mem_iff (h : Mirrored p) (baton : Int64) : baton ∈ p.members ↔ baton ∈ p.values := by
  rw [h.members, List.mem_toFinset]

theorem mirrored_register (h : Mirrored p) (baton : Int64) : Mirrored (p.register baton).1 := by
  unfold PendingVsyncBatons.register; split
  · exact h
  rename_i hs; split
  · exact h
  · rw [h.mem_iff] at hs
    refine ⟨?_, ?_⟩
    · rw [List.nodup_append]
      refine ⟨h.nodup, List.nodup_singleton _, ?_⟩
      rintro a ha b hb rfl; exact hs (List.mem_singleton.1 hb ▸ ha)
    · ext other
      rw [Finset.mem_insert, h.mem_iff, List.mem_toFinset, List.mem_append, List.mem_singleton]; exact or_comm

theorem mirrored_erase (h : Mirrored p) (baton : Int64) : Mirrored ⟨p.values.erase baton, p.members.erase baton⟩ := by
  refine ⟨h.nodup.erase _, ?_⟩
  ext other
  rw [Finset.mem_erase, h.mem_iff, List.mem_toFinset, h.nodup.mem_erase_iff]

theorem mirrored_restoreFront (h : Mirrored p) (baton : Int64) : Mirrored (p.restoreFront baton) := by
  unfold PendingVsyncBatons.restoreFront; split
  · exact h
  rename_i hs; rw [h.mem_iff] at hs
  refine ⟨List.nodup_cons.2 ⟨hs, h.nodup⟩, ?_⟩; rw [List.toFinset_cons, h.members]

theorem next_register (s : BatonSession) (baton : Int64) :
    s.next (.register baton) = s ∨
      baton ∉ s.pending.members ∧ s.pending.values.length < maxPendingVsyncBatons ∧
        s.next (.register baton) =
          { s with
            pending := ⟨s.pending.values ++ [baton], insert baton s.pending.members⟩
            registered := baton :: s.registered } := by
  by_cases hm : baton ∈ s.pending.members
  · have hr : s.pending.register baton = (s.pending, .duplicate) := if_pos hm
    left
    simp [next, hr]
  by_cases hf : maxPendingVsyncBatons ≤ s.pending.values.length
  · have hr : s.pending.register baton = (s.pending, .atCapacity) := (if_neg hm).trans (if_pos hf)
    left
    simp [next, hr]
  have hr : s.pending.register baton =
      (⟨s.pending.values ++ [baton], insert baton s.pending.members⟩, .accepted) :=
    (if_neg hm).trans (if_neg hf)
  refine .inr ⟨hm, Nat.lt_of_not_le hf, ?_⟩
  simp [next, hr]

theorem next_takeNext (s : BatonSession) :
    s.next .takeNext = s ∨
      ∃ baton values, s.pending.values = baton :: values ∧
        s.next .takeNext =
          { s with
            pending := ⟨values, s.pending.members.erase baton⟩
            taken := baton :: s.taken
            mostTaken := max s.mostTaken (s.taken.length + 1) } := by
  cases hv : s.pending.values with
  | nil =>
    have hk : s.pending.takeNext = (s.pending, none) := by
      unfold PendingVsyncBatons.takeNext; rw [hv]
    left
    simp [next, hk]
  | cons baton values =>
    have hk : s.pending.takeNext = (⟨values, s.pending.members.erase baton⟩, some baton) := by
      unfold PendingVsyncBatons.takeNext; rw [hv]
    refine .inr ⟨baton, values, rfl, ?_⟩
    simp [next, hk]

theorem next_restoreFront (s : BatonSession) (baton : Int64) :
    baton ∈ s.pending.members ∧
        s.next (.restoreFront baton) = { s with taken := s.taken.erase baton, merged := baton :: s.merged } ∨
      baton ∉ s.pending.members ∧
        s.next (.restoreFront baton) =
          { s with
            pending := ⟨baton :: s.pending.values, insert baton s.pending.members⟩
            taken := s.taken.erase baton } := by
  by_cases hm : baton ∈ s.pending.members
  · refine .inl ⟨hm, ?_⟩
    simp [next, PendingVsyncBatons.restoreFront, if_pos hm]
  · refine .inr ⟨hm, ?_⟩
    simp [next, PendingVsyncBatons.restoreFront, if_neg hm]

theorem next_complete (s : BatonSession) (baton : Int64) :
    s.next (.complete baton) = s ∨
      baton ∈ s.pending.values ∧
        s.next (.complete baton) =
          { s with
            pending := ⟨s.pending.values.erase baton, s.pending.members.erase baton⟩
            delivered := baton :: s.delivered } := by
  by_cases hn : baton ∈ s.pending.values
  · refine .inr ⟨hn, ?_⟩
    simp [next, PendingVsyncBatons.complete, if_pos hn]
  · left
    simp [next, PendingVsyncBatons.complete, if_neg hn]

theorem mirrored_next (e : BatonEvent) (h : Mirrored s.pending) : Mirrored (s.next e).pending := by
  cases e with
  | register baton =>
    have hr := mirrored_register h baton
    simp only [next]; split
    all_goals
      rename_i heq; rw [heq] at hr; exact hr
  | takeNext =>
    rcases next_takeNext s with heq | ⟨baton, values, hv, heq⟩
    · rw [heq]; exact h
    rw [heq]; have := mirrored_erase h baton
    rwa [hv, List.erase_cons_head] at this
  | restoreFront baton => exact mirrored_restoreFront h baton
  | deliver baton => exact h
  | complete baton =>
    rcases next_complete s baton with heq | ⟨-, heq⟩
    · rw [heq]; exact h
    · rw [heq]; exact mirrored_erase h baton
  | takeAll => exact ⟨List.nodup_nil, rfl⟩

/-! ## Conservation -/

/-- Every accepted registration is pending, taken, delivered or merged, and at most the batons taken at a time
are over the capacity. -/
structure Conserved (s : BatonSession) : Prop where
  counted : ∀ baton, s.registered.count baton = s.pending.values.count baton + s.taken.count baton +
    s.delivered.count baton + s.merged.count baton
  bounded : s.pending.values.length + s.taken.length ≤ maxPendingVsyncBatons + s.mostTaken
  most : s.taken.length ≤ s.mostTaken

theorem count_erase_add {l : List Int64} (h : baton ∈ l) (other : Int64) :
    (l.erase baton).count other + (if baton == other then 1 else 0) = l.count other := by
  rw [(List.perm_cons_erase h).count_eq other, List.count_cons]

theorem conserved_register (h : s.Conserved) (baton : Int64) : (s.next (.register baton)).Conserved := by
  rcases next_register s baton with heq | ⟨-, hlen, heq⟩
  · rw [heq]; exact h
  rw [heq]
  refine ⟨fun other => ?_, ?_, h.most⟩
  · have := h.counted other
    simp only [List.count_append, List.count_cons, List.count_nil]; omega
  · have := h.most
    simp only [List.length_append, List.length_singleton]; omega

theorem conserved_takeNext (h : s.Conserved) : (s.next .takeNext).Conserved := by
  rcases next_takeNext s with heq | ⟨baton, values, hv, heq⟩
  · rw [heq]; exact h
  rw [heq]
  have hn := h.bounded; rw [hv, List.length_cons] at hn
  refine ⟨fun other => ?_, ?_, ?_⟩
  · have := h.counted other
    rw [hv] at this
    simp only [List.count_cons] at this ⊢; omega
  · simp only [List.length_cons]; omega
  · simp only [List.length_cons]; omega

theorem conserved_restoreFront (h : s.Conserved) (hk : baton ∈ s.taken) : (s.next (.restoreFront baton)).Conserved := by
  have hlen := List.length_erase_add_one hk
  have hn := h.bounded
  have hm := h.most
  rcases next_restoreFront s baton with ⟨-, heq⟩ | ⟨-, heq⟩
  · rw [heq]
    refine ⟨fun other => ?_, ?_, ?_⟩
    · have := h.counted other
      have := count_erase_add hk other
      simp only [List.count_cons]; omega
    · show s.pending.values.length + (s.taken.erase baton).length ≤ maxPendingVsyncBatons + s.mostTaken; omega
    · show (s.taken.erase baton).length ≤ s.mostTaken; omega
  · rw [heq]
    refine ⟨fun other => ?_, ?_, ?_⟩
    · have := h.counted other
      have := count_erase_add hk other
      simp only [List.count_cons]; omega
    · simp only [List.length_cons]; omega
    · show (s.taken.erase baton).length ≤ s.mostTaken; omega

theorem conserved_deliver (h : s.Conserved) (hk : baton ∈ s.taken) : (s.next (.deliver baton)).Conserved := by
  have hlen := List.length_erase_add_one hk
  have hn := h.bounded
  have hm := h.most
  refine ⟨fun other => ?_, ?_, ?_⟩
  · have := h.counted other
    have := count_erase_add hk other
    simp only [next, List.count_cons]; omega
  · show s.pending.values.length + (s.taken.erase baton).length ≤ maxPendingVsyncBatons + s.mostTaken; omega
  · show (s.taken.erase baton).length ≤ s.mostTaken; omega

theorem conserved_complete (h : s.Conserved) (baton : Int64) : (s.next (.complete baton)).Conserved := by
  rcases next_complete s baton with heq | ⟨hn, heq⟩
  · rw [heq]; exact h
  rw [heq]
  have hlen := List.length_erase_add_one hn
  have hbo := h.bounded
  refine ⟨fun other => ?_, ?_, h.most⟩
  · have := h.counted other
    have := count_erase_add hn other
    simp only [List.count_cons]; omega
  · show (s.pending.values.erase baton).length + s.taken.length ≤ maxPendingVsyncBatons + s.mostTaken; omega

theorem conserved_takeAll (h : s.Conserved) : (s.next .takeAll).Conserved := by
  refine ⟨fun other => ?_, ?_, h.most⟩
  · have := h.counted other
    simp only [next, PendingVsyncBatons.takeAll, List.count_append, List.count_nil]; omega
  · have := h.bounded
    simp only [next, PendingVsyncBatons.takeAll, List.length_nil]; omega

theorem conserved_next (e : BatonEvent) (h : s.Conserved) (he : s.GivesBack e) : (s.next e).Conserved := by
  cases e with
  | register baton => exact conserved_register h baton
  | takeNext => exact conserved_takeNext h
  | restoreFront baton => exact conserved_restoreFront h he
  | deliver baton => exact conserved_deliver h he
  | complete baton => exact conserved_complete h baton
  | takeAll => exact conserved_takeAll h

theorem conserved_start : start.Conserved := by
  refine ⟨fun _ => rfl, ?_, ?_⟩
  all_goals decide

/-! ## Distinct batons -/

structure Distinct (s : BatonSession) : Prop where
  nodup : (s.pending.values ++ s.taken).Nodup
  merged : s.merged = []

theorem Distinct.of_sublist {s' : BatonSession} (h : s.Distinct) (hv : s'.pending.values.Sublist s.pending.values)
    (hk : s'.taken.Sublist s.taken) (hm : s'.merged = s.merged) : s'.Distinct :=
  ⟨h.nodup.sublist (hv.append hk), hm.trans h.merged⟩

theorem distinct_register (hm : Mirrored s.pending) (h : s.Distinct) (ho : baton ∉ s.taken) :
    (s.next (.register baton)).Distinct := by
  rcases next_register s baton with heq | ⟨hs, -, heq⟩
  · rw [heq]; exact h
  rw [heq]
  refine ⟨?_, h.merged⟩
  have hf : baton ∉ s.pending.values ++ s.taken := by
    rw [List.mem_append, not_or]
    exact ⟨fun hmem => hs ((hm.mem_iff baton).2 hmem), ho⟩
  have hr : ((s.pending.values ++ [baton]) ++ s.taken).Perm (baton :: (s.pending.values ++ s.taken)) := by
    rw [List.append_assoc]; exact List.perm_middle
  exact hr.nodup_iff.2 (List.nodup_cons.2 ⟨hf, h.nodup⟩)

theorem distinct_takeNext (h : s.Distinct) : (s.next .takeNext).Distinct := by
  rcases next_takeNext s with heq | ⟨baton, values, hv, heq⟩
  · rw [heq]; exact h
  rw [heq]
  have hn := h.nodup; rw [hv] at hn
  exact ⟨(List.perm_middle).nodup_iff.2 hn, h.merged⟩

theorem distinct_restoreFront (hmi : Mirrored s.pending) (h : s.Distinct) (hk : baton ∈ s.taken) :
    (s.next (.restoreFront baton)).Distinct := by
  have hr : baton ∉ s.pending.values := fun hmem => List.disjoint_of_nodup_append h.nodup hmem hk
  rcases next_restoreFront s baton with ⟨hm, -⟩ | ⟨-, heq⟩
  · exact absurd ((hmi.mem_iff baton).1 hm) hr
  rw [heq]
  refine ⟨?_, h.merged⟩
  have hpe : (s.pending.values ++ s.taken).Perm (baton :: (s.pending.values ++ s.taken.erase baton)) :=
    ((List.perm_cons_erase hk).append_left _).trans List.perm_middle
  exact hpe.nodup_iff.1 h.nodup

theorem distinct_next (e : BatonEvent) (hm : Mirrored s.pending) (h : s.Distinct) (hv : s.GivesBack e)
    (ho : s.RegistersOnce e) : (s.next e).Distinct := by
  cases e with
  | register baton => exact distinct_register hm h ho
  | takeNext => exact distinct_takeNext h
  | restoreFront baton => exact distinct_restoreFront hm h hv
  | deliver baton => exact h.of_sublist (List.Sublist.refl _) List.erase_sublist rfl
  | complete baton =>
    rcases next_complete s baton with heq | ⟨-, heq⟩
    · rw [heq]; exact h
    · rw [heq]
      exact h.of_sublist List.erase_sublist (List.Sublist.refl _) rfl
  | takeAll => exact h.of_sublist (List.nil_sublist _) (List.Sublist.refl _) rfl

end BatonSession

/-- Whatever batons are registered, taken, given back, completed and drained, the queue has no duplicates and its
set mirrors it. Where only batons that are taken are given back or dispatched, every registration accepted is
pending, taken, delivered or was merged into a later one of the same baton, and the queue exceeds its capacity by
no more than the batons taken at a time; where none is registered while it is taken, none is merged. -/
theorem vsync_batons_conserved (es : List BatonEvent) :
    let s := exec BatonSession.next .start es
    (s.pending.values.Nodup ∧ s.pending.members = s.pending.values.toFinset) ∧
      (Along BatonSession.next BatonSession.GivesBack .start es →
        (∀ baton, s.registered.count baton = s.pending.values.count baton + s.taken.count baton +
          s.delivered.count baton + s.merged.count baton) ∧
        s.pending.values.length + s.taken.length ≤ 256 + s.mostTaken ∧
        (Along BatonSession.next BatonSession.RegistersOnce .start es → s.merged = [])) := by
  have hmir : ∀ es, BatonSession.Mirrored (exec BatonSession.next .start es).pending := fun es =>
    exec_invariant (I := fun s : BatonSession => BatonSession.Mirrored s.pending)
      (fun _ e h => BatonSession.mirrored_next e h) es ⟨List.nodup_nil, rfl⟩
  intro s
  refine ⟨⟨(hmir es).nodup, (hmir es).members⟩, fun hgiv => ?_⟩
  have hcon : s.Conserved := exec_invariant_along (I := BatonSession.Conserved)
    (fun _ e h he => BatonSession.conserved_next e h he) BatonSession.conserved_start hgiv
  refine ⟨hcon.counted, hcon.bounded, fun honc => ?_⟩
  have hstep : ∀ (s : BatonSession) e, BatonSession.Mirrored s.pending ∧ s.Distinct → s.GivesBack e ∧
    s.RegistersOnce e →
      BatonSession.Mirrored (s.next e).pending ∧ (s.next e).Distinct :=
    fun s e h he => ⟨BatonSession.mirrored_next e h.1, BatonSession.distinct_next e h.1 h.2 he.1 he.2⟩
  have hstar : BatonSession.Mirrored BatonSession.start.pending ∧ BatonSession.start.Distinct :=
    ⟨⟨List.nodup_nil, rfl⟩, List.nodup_nil, rfl⟩
  exact (exec_invariant_along hstep hstar (hgiv.and honc)).2.merged

def dispatchedAgain : List BatonEvent := [.register 7, .takeNext, .restoreFront 7, .takeNext, .deliver 7]

theorem vsync_batons_conserved_again :
    (exec BatonSession.next .start dispatchedAgain).delivered = [7] ∧
      (exec BatonSession.next .start dispatchedAgain).registered.count 7 =
        (exec BatonSession.next .start dispatchedAgain).pending.values.count 7 +
          (exec BatonSession.next .start dispatchedAgain).taken.count 7 +
          (exec BatonSession.next .start dispatchedAgain).delivered.count 7 +
          (exec BatonSession.next .start dispatchedAgain).merged.count 7 ∧
      (exec BatonSession.next .start dispatchedAgain).merged = [] := by
  have hgiv : Along BatonSession.next BatonSession.GivesBack .start dispatchedAgain := by
    refine ⟨trivial, trivial, ?_, trivial, ?_, trivial⟩
    all_goals
      show (7 : Int64) ∈ _; decide
  have honc : Along BatonSession.next BatonSession.RegistersOnce .start dispatchedAgain := by
    refine ⟨?_, trivial, trivial, trivial, trivial, trivial⟩
    show (7 : Int64) ∉ _; decide
  have h := (vsync_batons_conserved dispatchedAgain).2 hgiv; exact ⟨by decide, h.1 7, h.2.2 honc⟩

namespace BatonSession

/-- Distinct batons are all registered while there is room. -/
theorem register_all : ∀ (batons : List Int64) {s : BatonSession}, Mirrored s.pending →
    (s.pending.values ++ batons).Nodup → (s.pending.values ++ batons).length ≤ maxPendingVsyncBatons →
      (exec next s (batons.map .register)).pending.values = s.pending.values ++ batons ∧
        (exec next s (batons.map .register)).taken = s.taken
  | [], s, _, _, _ => by simp
  | baton :: batons, s, hm, hd, hlen => by
    have hre : s.pending.register baton =
        (⟨s.pending.values ++ [baton], insert baton s.pending.members⟩, .accepted) := by
      have hs : baton ∉ s.pending.members := by
        rw [hm.mem_iff]
        exact fun hmem => List.disjoint_of_nodup_append hd hmem (List.mem_cons_self ..)
      rw [List.length_append, List.length_cons] at hlen; exact (if_neg hs).trans (if_neg (by omega))
    have hn : s.next (.register baton) =
        { s with
          pending := ⟨s.pending.values ++ [baton], insert baton s.pending.members⟩
          registered := baton :: s.registered } := by
      simp [next, hre]
    have hv : (s.next (.register baton)).pending.values ++ batons = s.pending.values ++ baton :: batons := by
      rw [hn, List.append_assoc]; rfl
    have hr := register_all batons (mirrored_next (.register baton) hm) (by rwa [hv]) (by rwa [hv])
    rw [hv] at hr
    refine ⟨hr.1, hr.2.trans ?_⟩; rw [hn]

theorem restore_full {values : List Int64} {baton other : Int64} (hm : Mirrored s.pending)
    (hv : s.pending.values = baton :: values) (hf : values.length + 1 = maxPendingVsyncBatons)
    (ho : other ∉ baton :: values) :
    (exec next s [.takeNext, .register other, .restoreFront baton]).pending.values = baton :: (values ++ [other]) ∧
      (exec next s [.takeNext, .register other, .restoreFront baton]).taken = s.taken := by
  obtain ⟨hba, -⟩ := List.nodup_cons.1 (hv ▸ hm.nodup)
  obtain ⟨hne, hs⟩ := not_or.1 (mt List.mem_cons.2 ho)
  have hme : ∀ b, b ∈ s.pending.members ↔ b = baton ∨ b ∈ values := by
    intro b
    rw [hm.mem_iff, hv, List.mem_cons]
  simp [next, PendingVsyncBatons.takeNext, PendingVsyncBatons.register, PendingVsyncBatons.restoreFront,
    hv, hme,
    hne, Ne.symm hne, hs, hba, show ¬maxPendingVsyncBatons ≤ values.length by omega]

end BatonSession

/-- A full queue, a baton taken, another registered in its place, and the first given back. -/
def overfull : List BatonEvent :=
  ((List.range 256).map Int64.ofNat).map .register ++ [.takeNext, .register 256, .restoreFront 0]

theorem range_batons_nodup {n : Nat} (hn : n ≤ 2 ^ 63) : ((List.range n).map Int64.ofNat).Nodup := by
  refine List.Nodup.map_on (fun i hi j hj hij => ?_) List.nodup_range
  have hlt : ∀ k ∈ List.range n, (Int64.ofNat k).toInt = k := fun k hk =>
    Int64.toInt_ofNat_of_lt ((List.mem_range.1 hk).trans_le hn)
  have := congrArg Int64.toInt hij
  rw [hlt i hi, hlt j hj] at this; exact Int.ofNat.inj this

/-- One baton over the capacity, with none taken. -/
theorem restored_over_capacity :
    (exec BatonSession.next .start overfull).pending.values.length = 257 ∧
      (exec BatonSession.next .start overfull).taken = [] := by
  have hran : (List.range 256).map Int64.ofNat = 0 :: (List.range' 1 255).map Int64.ofNat := by
    rw [List.range_eq_range', List.range'_succ, List.map_cons]; rfl
  obtain ⟨hval, htak⟩ := BatonSession.register_all ((List.range 256).map Int64.ofNat) (s := .start)
    ⟨List.nodup_nil, rfl⟩ (range_batons_nodup (by decide))
    (by simp [BatonSession.start, PendingVsyncBatons.default, maxPendingVsyncBatons])
  have hmir := exec_invariant (I := fun s : BatonSession => BatonSession.Mirrored s.pending)
    (fun _ e h => BatonSession.mirrored_next e h) (((List.range 256).map Int64.ofNat).map .register) (s := .start)
    ⟨List.nodup_nil, rfl⟩
  have hemp : BatonSession.start.pending.values = [] := rfl
  rw [hemp, List.nil_append] at hval
  have hoth : (256 : Int64) ∉ (0 : Int64) :: (List.range' 1 255).map Int64.ofNat := by
    have hnod := range_batons_nodup (n := 257) (by decide)
    rw [List.range_succ, List.map_append, hran] at hnod
    exact fun hmem => List.disjoint_of_nodup_append hnod hmem (List.mem_singleton_self _)
  unfold overfull; rw [exec_append]
  -- the run so far is not to be evaluated
  generalize exec BatonSession.next BatonSession.start (((List.range 256).map Int64.ofNat).map .register) = s at *
  obtain ⟨hover, hnon⟩ := BatonSession.restore_full hmir (hval.trans hran)
    (by simp [maxPendingVsyncBatons]) hoth
  exact ⟨by rw [hover]; simp, hnon.trans htak⟩

end Deniald.Flutter
