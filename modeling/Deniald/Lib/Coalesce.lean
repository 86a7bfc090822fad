/-
What a bounded queue keeps of the records pushed to it (`pushBounded`): a part of them in their order, without the
samples a later one of their device replaced and those that made room; and which of its records one push takes away.
-/
import Deniald.Lib.Stream
import Mathlib.Data.List.Induction
import Mathlib.Data.List.InsertIdx
import Mathlib.Data.List.TakeWhile
import Mathlib.Data.List.Nodup

namespace Deniald.Lib

open List.Sublist

universe u w

variable {α β : Type u} {δ : Type w} [DecidableEq δ] {device : α → Option δ}

/-! ## Renaming -/

theorem replaceIndex_map (device : β → Option δ) (f : α → β) (events : List α) (d : δ) :
    replaceIndex device (events.map f) d = replaceIndex (device ∘ f) events d := by
  unfold replaceIndex
  rw [List.zipIdx_map, ← List.map_reverse, List.takeWhile_map, List.find?_map, Option.map_map]; rfl

omit [DecidableEq δ] in
theorem pushFull_map (device : β → Option δ) (f : α → β) (events : List α) (event : α) (capacity : Nat) :
    pushFull device (events.map f) (f event) capacity = (pushFull (device ∘ f) events event capacity).map f := by
  unfold pushFull; rw [List.length_map, List.findIdx?_map]
  by_cases hfull : capacity ≤ events.length
  · rw [if_pos hfull, if_pos hfull]
    have hf : events.findIdx? ((fun queued => (device queued).isSome) ∘ f) =
        events.findIdx? fun queued => ((device ∘ f) queued).isSome := rfl
    rw [hf]
    cases events.findIdx? fun queued => ((device ∘ f) queued).isSome with
    | some index => simp [List.eraseIdx_map]
    | none =>
      show (if ((device ∘ f) event).isSome then _ else _) = List.map f (if ((device ∘ f) event).isSome then _ else _)
      cases ((device ∘ f) event).isSome <;> simp
  · rw [if_neg hfull, if_neg hfull]; simp

theorem pushBounded_map (device : β → Option δ) (f : α → β) (events : List α) (event : α) (capacity : Nat) :
    pushBounded device (events.map f) (f event) capacity = (pushBounded (device ∘ f) events event capacity).map f := by
  unfold pushBounded
  have hr : (device (f event)).bind (replaceIndex device (events.map f)) =
      ((device ∘ f) event).bind (replaceIndex (device ∘ f) events) :=
    congrArg ((device (f event)).bind) (funext fun d => replaceIndex_map device f events d)
  rw [hr]
  by_cases hnone : capacity = 0
  · rw [if_pos hnone, if_pos hnone]
  rw [if_neg hnone, if_neg hnone]
  cases ((device ∘ f) event).bind (replaceIndex (device ∘ f) events) with
  | some index => simp [List.eraseIdx_map]
  | none => exact pushFull_map device f events event capacity

/-! ## One push -/

def Full (capacity : Nat) (events : List α) : Prop := capacity ≤ events.length

/-- Nothing in the queue can be replaced. -/
def AllFixed (device : α → Option δ) (events : List α) : Prop := ∀ a ∈ events, device a = none

inductive Pushed (device : α → Option δ) (capacity : Nat) (events : List α) (event : α) : List α → Prop
  | appended (hroom : events.length < capacity) : Pushed device capacity events event (events ++ [event])
  | coalesced {before after : List α} {a : α} {d : δ} (hevents : events = before ++ a :: after)
      (hdevice : device a = some d) (hevent : device event = some d) (hafter : ∀ b ∈ after, (device b).isSome) :
      Pushed device capacity events event (before ++ after ++ [event])
  | evicted {before after : List α} {a : α} {d : δ} (hfull : Full capacity events)
      (hevents : events = before ++ a :: after) (hdevice : device a = some d) (hbefore : AllFixed device before) :
      Pushed device capacity events event (before ++ after ++ [event])
  | dropped (hfull : Full capacity events) (hfixed : AllFixed device events) (hevent : (device event).isSome) :
      Pushed device capacity events event events
  | displaced (hroom : capacity ≠ 0) (hfull : Full capacity events) (hfixed : AllFixed device events)
      (hevent : device event = none) :
      Pushed device capacity events event (events.tail ++ [event])
  | refused (hnone : capacity = 0) : Pushed device capacity events event events

theorem exists_of_replaceIndex {events : List α} {d : δ} {index : Nat} (h : replaceIndex device events d = some index) :
    ∃ before a after, events = before ++ a :: after ∧ events.eraseIdx index = before ++ after ∧ device a = some d ∧
      ∀ b ∈ after, (device b).isSome := by
  obtain ⟨⟨a, i⟩, hf, rfl⟩ := Option.map_eq_some_iff.1 h
  obtain ⟨hdevice, newer, older, hs, -⟩ := List.find?_eq_some_iff_append.1 hf
  have hta : ∀ queued ∈ newer, (device queued.1).isSome := fun queued hd =>
    List.mem_takeWhile_imp (p := fun queued : α × Nat => (device queued.1).isSome)
      (hs ▸ List.mem_append_left _ hd)
  have hk := List.takeWhile_append_dropWhile (p := fun queued : α × Nat => (device queued.1).isSome)
    (l := events.zipIdx.reverse)
  rw [hs, List.append_assoc, List.cons_append] at hk
  generalize older ++ List.dropWhile _ events.zipIdx.reverse = earlier at hk
  have hv : events.zipIdx = earlier.reverse ++ (a, i) :: newer.reverse := by
    rw [List.reverse_eq_iff.1 hk.symm]; simp
  -- the labels of the queue are its positions
  obtain ⟨before, rest, rfl, -, hr⟩ := List.zipIdx_eq_append_iff.1 hv
  cases rest with
  | nil => cases hr
  | cons b after =>
    rw [List.zipIdx_cons] at hr
    obtain ⟨hh, hafter⟩ := List.cons.inj hr
    obtain ⟨rfl, rfl⟩ := Prod.mk.inj hh
    have hn : newer.reverse.map (·.1) = after := by rw [hafter, List.zipIdx_map_fst]
    refine ⟨before, a, after, rfl, ?_, by simpa using hdevice, fun c hc => ?_⟩
    · show (before ++ a :: after).eraseIdx (0 + before.length) = before ++ after
      rw [Nat.zero_add, List.eraseIdx_append_of_length_le (Nat.le_refl _), Nat.sub_self]; rfl
    · rw [← hn] at hc
      obtain ⟨queued, hd, rfl⟩ := List.mem_map.1 hc; exact hta queued (List.mem_reverse.1 hd)

omit [DecidableEq δ] in
theorem exists_of_findIdx {events : List α} {index : Nat}
    (h : (events.findIdx? fun queued => (device queued).isSome) = some index) :
    ∃ before a after, events = before ++ a :: after ∧ events.eraseIdx index = before ++ after ∧ (device a).isSome ∧
      AllFixed device before := by
  obtain ⟨hd, ha, hbefore⟩ := List.findIdx?_eq_some_iff_getElem.1 h
  refine ⟨events.take index, events[index], events.drop (index + 1), ?_, List.eraseIdx_eq_take_drop_succ events index,
    ha, fun b hb => ?_⟩
  · rw [List.getElem_cons_drop, List.take_append_drop]
  · obtain ⟨n, hn, rfl⟩ := List.mem_take_iff_getElem.1 hb
    exact Option.not_isSome_iff_eq_none.1 (hbefore n (by omega))

omit [DecidableEq δ] in
theorem pushFull_pushed {events : List α} (event : α) {capacity : Nat} (hroom : capacity ≠ 0) :
    Pushed device capacity events event (pushFull device events event capacity) := by
  unfold pushFull
  by_cases hfull : capacity ≤ events.length
  · rw [if_pos hfull]; split
    · rename_i index hn
      obtain ⟨before, a, after, hevents, he, ha, hbefore⟩ := exists_of_findIdx hn
      obtain ⟨d, hd⟩ := Option.isSome_iff_exists.1 ha
      rw [he]; exact .evicted hfull hevents hd hbefore
    rename_i hnone
    have hfixed : AllFixed device events := fun a ha =>
      Option.not_isSome_iff_eq_none.1 (by simpa using List.findIdx?_eq_none_iff.1 hnone a ha)
    split
    · rename_i hevent; exact .dropped hfull hfixed hevent
    · rename_i hevent
      exact .displaced hroom hfull hfixed (Option.not_isSome_iff_eq_none.1 hevent)
  · rw [if_neg hfull]; exact .appended (by omega)

theorem pushBounded_pushed (events : List α) (event : α) (capacity : Nat) :
    Pushed device capacity events event (pushBounded device events event capacity) := by
  unfold pushBounded
  by_cases hnone : capacity = 0
  · rw [if_pos hnone]; exact .refused hnone
  rw [if_neg hnone]; split
  · rename_i index hn
    obtain ⟨d, hd, hn⟩ := Option.bind_eq_some_iff.1 hn
    obtain ⟨before, a, after, hevents, he, ha, hafter⟩ := exists_of_replaceIndex hn
    rw [he]; exact .coalesced hevents ha hd hafter
  · exact pushFull_pushed event hnone

section Pushed

omit [DecidableEq δ]

variable {capacity : Nat} {events events' : List α} {event : α}

theorem Pushed.length_le (h : Pushed device capacity events event events') (hlen : events.length ≤ capacity) :
    events'.length ≤ capacity := by
  cases h with
  | appended hroom => simp; omega
  | coalesced hevents => subst hevents; simp at hlen ⊢; omega
  | evicted hfull hevents => subst hevents; simp at hlen ⊢; omega
  | dropped => exact hlen
  | displaced hroom hfull => unfold Full at hfull; simp; omega
  | refused => exact hlen

theorem Pushed.sublist (h : Pushed device capacity events event events') : events'.Sublist (events ++ [event]) := by
  cases h with
  | appended => exact refl _
  | coalesced hevents | evicted _ hevents =>
    subst hevents
    exact ((refl _).append (List.sublist_cons_self _ _)).append (refl _)
  | dropped | refused => exact List.sublist_append_left _ _
  | displaced => exact (List.tail_sublist _).append (refl _)

theorem Pushed.fixed_kept (h : Pushed device capacity events event events') (hlen : events.length ≤ capacity)
    {y : α} (hy : y ∈ events ++ [event]) (hnone : device y = none) :
    y ∈ events' ∨ Full capacity events ∧ AllFixed device events := by
  have hne : ∀ {a : α} {d : δ}, device a = some d → y ≠ a := by
    rintro a d ha rfl
    rw [hnone] at ha; cases ha
  cases h with
  | appended => exact .inl hy
  | coalesced hevents ha =>
    subst hevents
    simp only [List.mem_append, List.mem_cons, hne ha, false_or] at hy ⊢; exact .inl hy
  | evicted _ hevents ha =>
    subst hevents
    simp only [List.mem_append, List.mem_cons, hne ha, false_or] at hy ⊢; exact .inl hy
  | dropped hfull hfixed => exact .inr ⟨hfull, hfixed⟩
  | displaced _ hfull hfixed => exact .inr ⟨hfull, hfixed⟩
  | refused hca =>
    obtain rfl := List.length_eq_zero_iff.1 (by omega : events.length = 0)
    exact .inr ⟨by unfold Full; omega, fun _ h => by cases h⟩

end Pushed

/-! ## A run of pushes -/

def pushAll (device : α → Option δ) (capacity : Nat) (events records : List α) : List α :=
  records.foldl (fun events event => pushBounded device events event capacity) events

@[simp] theorem pushAll_nil (capacity : Nat) (events : List α) : pushAll device capacity events [] = events := rfl

theorem pushAll_snoc (capacity : Nat) (events recs : List α) (r : α) : pushAll device capacity events (recs ++ [r]) =
      pushBounded device (pushAll device capacity events recs) r capacity := by
  unfold pushAll
  rw [List.foldl_append]; rfl

theorem pushAll_pushed (device : α → Option δ) (capacity : Nat) (events recs : List α) (r : α) :
    Pushed device capacity (pushAll device capacity events recs) r (pushAll device capacity events (recs ++ [r])) := by
  rw [pushAll_snoc]; exact pushBounded_pushed ..

theorem pushAll_map (device : β → Option δ) (f : α → β) (capacity : Nat) :
    ∀ (recs events : List α), pushAll device capacity (events.map f) (recs.map f) =
      (pushAll (device ∘ f) capacity events recs).map f
  | [], _ => rfl
  | record :: recs, events => by
    show pushAll device capacity (pushBounded device (events.map f) (f record) capacity) (recs.map f) = _
    rw [pushBounded_map]; exact pushAll_map device f capacity recs _

theorem length_pushAll_le (device : α → Option δ) {capacity : Nat} {initial : List α} (hn : initial.length ≤ capacity)
    (pushes : List α) : (pushAll device capacity initial pushes).length ≤ capacity := by
  induction pushes using List.reverseRecOn with
  | nil => exact hn
  | append_singleton before event ih => exact (pushAll_pushed device capacity initial before event).length_le ih

theorem pushAll_sublist (device : α → Option δ) (capacity : Nat) (initial pushes : List α) :
    (pushAll device capacity initial pushes).Sublist (initial ++ pushes) := by
  induction pushes using List.reverseRecOn with
  | nil => rw [List.append_nil]; exact refl _
  | append_singleton before event ih =>
    rw [← List.append_assoc]
    exact (pushAll_pushed device capacity initial before event).sublist.trans (ih.append (refl _))

/-- While a sample is queued, so is every record pushed after it that cannot be replaced. -/
theorem fixed_since_mem {capacity : Nat} {initial : List α} (hin : initial.length ≤ capacity) {pushes : List α}
    (hno : (initial ++ pushes).Nodup) {x y : α} {e later : List α}
    (hseen : initial ++ pushes = e ++ x :: later) (hx : x ∈ pushAll device capacity initial pushes)
    (hdevice : (device x).isSome) (hy : y ∈ later) (hnone : device y = none) :
    y ∈ pushAll device capacity initial pushes := by
  induction pushes using List.reverseRecOn generalizing later with
  | nil =>
    rw [List.append_nil] at hseen; rw [pushAll_nil, hseen]
    exact List.mem_append_right _ (List.mem_cons_of_mem _ hy)
  | append_singleton before event ih =>
    have hs := pushAll_pushed device capacity initial before event
    have hlen := length_pushAll_le device hin before
    rw [← List.append_assoc] at hno hseen
    -- the sample is not the record just pushed, as another came after it
    obtain ⟨l', last, rfl⟩ := (List.eq_nil_or_concat' later).resolve_left (List.ne_nil_of_mem hy)
    have hsp : initial ++ before = e ++ x :: l' ∧ event = last := by
      have : (initial ++ before) ++ [event] = (e ++ x :: l') ++ [last] := by simpa using hseen
      obtain ⟨hn, hla⟩ := List.append_inj' this rfl; exact ⟨hn, (List.cons.inj hla).1⟩
    obtain ⟨hn, rfl⟩ := hsp
    have hxe : x ≠ event := by
      rintro rfl; rw [hn, List.append_assoc] at hno
      exact (List.nodup_cons.1 (List.nodup_append.1 hno).2.1).1 (List.mem_append_right _ (List.mem_cons_self ..))
    have hd : x ∈ pushAll device capacity initial before := by
      have := hs.sublist.subset hx
      simpa [hxe] using this
    have hyq : y ∈ pushAll device capacity initial before ++ [event] := by
      rcases List.mem_append.1 hy with hy | hy
      · exact List.mem_append_left _ (ih (List.nodup_append.1 hno).1 hn hd hy)
      · exact List.mem_append_right _ hy
    refine (hs.fixed_kept hlen hyq hnone).resolve_right fun hfull => ?_
    rw [hfull.2 x hd] at hdevice; cases hdevice

/-! ## What is lost -/

/-- How a push takes a record from the queue, or does not let it in; `seen` are the records pushed before. -/
inductive Lost (device : α → Option δ) (capacity : Nat) (seen events : List α) (event : α) : α → Prop
  /-- The push is a later sample of the same device, and nothing but samples were pushed in between. -/
  | coalesced {x : α} {d : δ} {earlier between : List α} (hseen : seen = earlier ++ x :: between)
      (hx : device x = some d) (hevent : device event = some d) (hbetween : ∀ y ∈ between, (device y).isSome) :
      Lost device capacity seen events event x
  /-- The oldest sample of a full queue. -/
  | evicted {x : α} {before after : List α} (hfull : Full capacity events) (hevents : events = before ++ x :: after)
      (hx : (device x).isSome) (hbefore : AllFixed device before) : Lost device capacity seen events event x
  /-- A sample that comes to a queue full of records that cannot be replaced. -/
  | dropped (hfull : Full capacity events) (hfixed : AllFixed device events) (hevent : (device event).isSome) :
      Lost device capacity seen events event event
  /-- The oldest record of such a queue. -/
  | displaced {x : α} (hfull : Full capacity events) (hfixed : AllFixed device events)
      (hx : (events ++ [event]).head? = some x) (hnone : device x = none) : Lost device capacity seen events event x

omit [DecidableEq δ] in
theorem sublist_of_sublist_middle {x : α} {back later : List α} : ∀ {er front : List α},
    (er ++ x :: later).Nodup → (front ++ x :: back).Sublist (er ++ x :: later) →
      front.Sublist er ∧ back.Sublist later
  | [], [], _, h => ⟨refl _, List.cons_sublist_cons.1 h⟩
  | [], f :: front, hn, h => by
    have hx : x ∈ front ++ x :: back := List.mem_append_right _ (List.mem_cons_self ..)
    refine absurd ?_ (List.nodup_cons.1 hn).1
    cases h with
    | cons _ h => exact h.subset (List.mem_cons_of_mem _ hx)
    | cons_cons _ h => exact h.subset hx
  | e :: er, front, hn, h => by
    obtain ⟨he, hn⟩ := List.nodup_cons.1 hn
    cases front with
    | nil =>
      cases h with
      | cons _ h =>
        have h : ([] ++ x :: back).Sublist (er ++ x :: later) := h
        exact ⟨List.nil_sublist _, (sublist_of_sublist_middle hn h).2⟩
      | cons_cons _ h => exact absurd (List.mem_append_right _ (List.mem_cons_self ..)) he
    | cons f front =>
      cases h with
      | cons _ h =>
        have h : ((f :: front) ++ x :: back).Sublist (er ++ x :: later) := h
        obtain ⟨hf, hba⟩ := sublist_of_sublist_middle hn h; exact ⟨hf.cons _, hba⟩
      | cons_cons _ h =>
        obtain ⟨hf, hba⟩ := sublist_of_sublist_middle hn h; exact ⟨hf.cons_cons _, hba⟩

theorem lost_of_pushAll {capacity : Nat} {initial before : List α} {event x : α}
    (hin : initial.length ≤ capacity) (hno : (initial ++ before).Nodup)
    (hx : x ∈ pushAll device capacity initial before ++ [event])
    (hn : x ∉ pushAll device capacity initial (before ++ [event])) :
    Lost device capacity (initial ++ before) (pushAll device capacity initial before) event x := by
  have hpu := pushAll_pushed device capacity initial before event
  have hlen := length_pushAll_le device hin before
  have hs := pushAll_sublist device capacity initial before
  have hsi := @fixed_since_mem _ _ _ device capacity initial hin before hno
  generalize pushAll device capacity initial before = events at hpu hlen hx hs hsi ⊢
  generalize pushAll device capacity initial (before ++ [event]) = events' at hpu hn
  cases hpu with
  | appended => exact absurd hx hn
  | @coalesced f back a d hevents ha hevent hba =>
    subst hevents
    have hxa : x = a := by
      simp only [List.mem_append, List.mem_cons] at hx hn
      tauto
    subst hxa
    have hd : x ∈ f ++ x :: back := List.mem_append_right _ (List.mem_cons_self ..)
    obtain ⟨e, between, hseen⟩ := List.append_of_mem (hs.subset hd)
    refine .coalesced hseen ha hevent fun y hy => ?_
    rw [hseen] at hno hs
    by_contra hfixed
    have hsp := sublist_of_sublist_middle hno hs
    have hdi := (List.nodup_append.1 hno).2.2
    have hnone := Option.not_isSome_iff_eq_none.1 hfixed
    rcases List.mem_append.1 (hsi hseen hd (by rw [ha]; rfl) hy hnone) with hf | hla
    · exact hdi y (hsp.1.subset hf) y (List.mem_cons_of_mem _ hy) rfl
    rcases List.mem_cons.1 hla with rfl | hla
    · rw [ha] at hnone; cases hnone
    · exact hfixed (hba y hla)
  | @evicted f back a d hfull hevents ha hf =>
    subst hevents
    have hxa : x = a := by
      simp only [List.mem_append, List.mem_cons] at hx hn
      tauto
    subst hxa; exact .evicted hfull rfl (by rw [ha]; rfl) hf
  | dropped hfull hfixed hevent =>
    obtain rfl : x = event := by simpa [hn] using hx
    exact .dropped hfull hfixed hevent
  | displaced hroom hfull hfixed hevent =>
    cases events with
    | nil => unfold Full at hfull; simp at hfull; omega
    | cons a events =>
      obtain rfl : x = a := by
        simp only [List.mem_append, List.mem_cons, List.tail_cons] at hx hn
        tauto
      exact .displaced hfull hfixed rfl (hfixed x (List.mem_cons_self ..))
  | refused hnone =>
    obtain rfl := List.length_eq_zero_iff.1 (by omega : events.length = 0)
    have hfull : Full capacity ([] : List α) := by unfold Full; omega
    have hfixed : AllFixed device [] := fun _ h => by cases h
    obtain rfl : x = event := by simpa using hx
    cases hdevice : device x with
    | none => exact .displaced hfull hfixed rfl hdevice
    | some d => exact .dropped hfull hfixed (by rw [hdevice]; rfl)

theorem exists_lost (capacity : Nat) {initial pushes : List α} {x : α} (hx : x ∈ initial ++ pushes) :
    x ∈ pushAll device capacity initial pushes ∨ ∃ before event after, pushes = before ++ event :: after ∧
      x ∈ pushAll device capacity initial before ++ [event] ∧
        x ∉ pushAll device capacity initial (before ++ [event]) := by
  induction pushes using List.reverseRecOn with
  | nil => exact .inl (by simpa using hx)
  | append_singleton pushes last ih =>
    by_cases hd : x ∈ pushAll device capacity initial pushes ++ [last]
    · by_cases hk : x ∈ pushAll device capacity initial (pushes ++ [last])
      · exact .inl hk
      · exact .inr ⟨pushes, last, [], rfl, hd, hk⟩
    rw [List.mem_append, not_or, List.mem_singleton] at hd
    have he : x ∈ initial ++ pushes := by
      rw [← List.append_assoc, List.mem_append, List.mem_singleton] at hx; exact hx.resolve_right hd.2
    obtain ⟨before, event, after, rfl, hs⟩ := (ih he).resolve_left hd.1
    exact .inr ⟨before, event, after ++ [last], by simp, hs⟩

structure Coalesced (device : α → Option δ) (capacity : Nat) (initial pushes : List α) : Prop where
  bounded : (pushAll device capacity initial pushes).length ≤ capacity
  /-- No record is queued before one that was pushed earlier. -/
  ordered : (pushAll device capacity initial pushes).Sublist (initial ++ pushes)
  lost : ∀ before event after, pushes = before ++ event :: after →
    ∀ x ∈ pushAll device capacity initial before ++ [event], x ∉ pushAll device capacity initial (before ++ [event]) →
      Lost device capacity (initial ++ before) (pushAll device capacity initial before) event x
  fixed : ∀ x ∈ initial ++ pushes, device x = none → x ∈ pushAll device capacity initial pushes ∨
    ∃ before event after, pushes = before ++ event :: after ∧ Full capacity (pushAll device capacity initial before) ∧
      AllFixed device (pushAll device capacity initial before) ∧
      x ∈ pushAll device capacity initial before ++ [event] ∧ x ∉ pushAll device capacity initial (before ++ [event])
  /-- The newest sample of a device. -/
  newest : ∀ earlier x later d, initial ++ pushes = earlier ++ x :: later → device x = some d →
    (∀ y ∈ later, device y ≠ some d) → x ∈ pushAll device capacity initial pushes ∨
      ∃ before event after, pushes = before ++ event :: after ∧ Full capacity (pushAll device capacity initial before) ∧
        (x = event ∧ AllFixed device (pushAll device capacity initial before) ∨
          ∃ front back, pushAll device capacity initial before = front ++ x :: back ∧ AllFixed device front)

theorem coalesced {capacity : Nat} {initial pushes : List α} (hin : initial.length ≤ capacity)
    (hno : (initial ++ pushes).Nodup) : Coalesced device capacity initial pushes := by
  have hlo : ∀ before event after, pushes = before ++ event :: after →
      ∀ x ∈ pushAll device capacity initial before ++ [event],
        x ∉ pushAll device capacity initial (before ++ [event]) →
          Lost device capacity (initial ++ before) (pushAll device capacity initial before) event x := by
    rintro before event after rfl x hx hn; rw [← List.append_assoc] at hno
    exact lost_of_pushAll hin (List.nodup_append.1 hno).1 hx hn
  refine ⟨length_pushAll_le device hin pushes, pushAll_sublist device capacity initial pushes, hlo, ?_, ?_⟩
  · intro x hx hnone
    refine (exists_lost capacity hx).imp_right ?_
    rintro ⟨before, event, after, hs, hqu, hn⟩
    refine ⟨before, event, after, hs, ?_⟩
    cases hlo before event after hs x hqu hn with
    | coalesced _ hx => rw [hnone] at hx; cases hx
    | evicted _ _ hx => rw [hnone] at hx; cases hx
    | dropped hfull hfixed => exact ⟨hfull, hfixed, hqu, hn⟩
    | displaced hfull hfixed => exact ⟨hfull, hfixed, hqu, hn⟩
  · intro e x later d hr hd hla
    have hx : x ∈ initial ++ pushes := hr ▸ List.mem_append_right _ (List.mem_cons_self ..)
    refine (exists_lost capacity hx).imp_right ?_
    rintro ⟨before, event, after, hs, hqu, hn⟩
    refine ⟨before, event, after, hs, ?_⟩
    cases hlo before event after hs x hqu hn with
    | @coalesced _ d' past b hseen hx' hevent =>
      -- the push would be a later sample of the device
      subst hs
      obtain rfl : d = d' := Option.some.inj (hd.symm.trans hx')
      have hs' : past ++ x :: (b ++ event :: after) = e ++ x :: later := by
        rw [← hr, ← List.append_assoc, hseen, List.append_assoc, List.cons_append]
      rw [hr, ← hs'] at hno
      have hre := List.nodup_append.1 hno
      have hpa : x ∉ past := fun hmem => hre.2.2 x hmem x (List.mem_cons_self ..) rfl
      obtain ⟨-, -, rfl⟩ :=
        (List.append_cons_inj_of_notMem hpa (List.nodup_cons.1 hre.2.1).1).1 hs'
      exact absurd hevent (hla event (List.mem_append_right _ (List.mem_cons_self ..)))
    | evicted hfull hevents hx' hbefore => exact ⟨hfull, .inr ⟨_, _, hevents, hbefore⟩⟩
    | dropped hfull hfixed => exact ⟨hfull, .inl ⟨rfl, hfixed⟩⟩
    | displaced _ _ _ hnone => rw [hd] at hnone; cases hnone

end Deniald.Lib
