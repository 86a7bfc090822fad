/-
What the limits of the clipboard's history make of it: which items an insertion evicts, and what becomes of the
selection and the requests that name one of them.
-/
import Deniald.Clipboard.History
import Deniald.Lib.Eviction
import Mathlib.Algebra.Order.BigOperators.Group.List

namespace Deniald.Clipboard

open Deniald.Lib

def WithinLimits (maximumItems maximumBytes : Nat) (items : List ClipboardItem) : Prop :=
  items.length ≤ maximumItems ∧ (items.map (·.byteLen)).sum ≤ maximumBytes

theorem withinLimits_sublist (mi mb : Nat) (is items' : List ClipboardItem)
    (hs : items'.Sublist is) (h : WithinLimits mi mb is) :
    WithinLimits mi mb items' :=
  ⟨hs.length_le.trans h.1, ((hs.map _).sum_le_sum fun _ _ => Nat.zero_le _).trans h.2⟩

/-! ## The loop -/

theorem evicts_evictIndex {history : List ClipboardItem} (h : history ≠ []) :
    Evicts (·.pinned) history (history.eraseIdx (ClipboardState.evictIndex history)) := by
  unfold ClipboardState.evictIndex
  simp only
  split
  · rename_i hlt
    have hlt' : history.reverse.findIdx (fun item => !item.pinned) < history.reverse.length := by
      rwa [List.length_reverse]
    have hd : history.length - 1 - history.reverse.findIdx (fun item => !item.pinned) < history.length := by omega
    generalize hag : history.reverse.findIdx (fun item => !item.pinned) = age at hlt hlt' hd
    have hs : history[history.length - 1 - age].pinned = false := by
      have := List.findIdx_getElem (p := fun item : ClipboardItem => !item.pinned) (w := hag ▸ hlt')
      simp only [hag, List.getElem_reverse, Bool.not_eq_true'] at this; exact this
    have hn : ∀ y ∈ history.drop (history.length - 1 - age + 1), y.pinned = true := by
      intro y hy
      obtain ⟨i, hi, rfl⟩ := List.mem_iff_getElem.1 hy; rw [List.length_drop] at hi
      have hyo : history.length - 1 - (history.length - 1 - age + 1 + i) < age := by omega
      have := List.not_of_lt_findIdx (p := fun item : ClipboardItem => !item.pinned) (hag ▸ hyo)
      rw [List.getElem_reverse] at this; rw [Bool.not_eq_false'] at this
      rw [List.getElem_drop]
      convert this using 3
      omega
    have hsp : history = history.take (history.length - 1 - age) ++ history[history.length - 1 - age] ::
        history.drop (history.length - 1 - age + 1) := by
      rw [← List.drop_eq_getElem_cons, List.take_append_drop]
    rw [List.eraseIdx_eq_take_drop_succ]
    nth_rewrite 1 [hsp]
    exact .loose _ hs hn
  · rename_i hal
    have hn : ∀ y ∈ history, y.pinned = true := by
      intro y hy
      by_contra hs
      refine hal ?_; rw [← List.length_reverse]
      exact List.findIdx_lt_length_of_exists ⟨y, List.mem_reverse.2 hy, by simpa using hs⟩
    rw [List.eraseIdx_length_sub_one]
    have hsp := List.dropLast_concat_getLast h
    nth_rewrite 1 [← hsp]
    exact .last (fun y hy => hn y (List.mem_of_mem_dropLast hy)) (hn _ (List.getLast_mem h))

namespace ClipboardState

theorem evict_history (s : ClipboardState) : s.evict.history = s.history.eraseIdx (evictIndex s.history) := by
  unfold evict
  simp only
  split
  · rfl
  · rename_i hn
    rw [List.eraseIdx_of_length_le (List.getElem?_eq_none_iff.1 hn)]

theorem enforceLoop_settles (mi mb : Nat) : ∀ (fuel : Nat) {s : ClipboardState},
    s.history.length ≤ fuel → s.Accounted → Settles (WithinLimits mi mb) (·.pinned) s.history
      (enforceLoop mi mb fuel s).history
  | 0, s, hf, _ => by
    have he : s.history = [] := List.length_eq_zero_iff.1 (by omega)
    have hd : (enforceLoop mi mb 0 s).history = [] := he
    rw [hd, he]; exact .done ⟨Nat.zero_le _, Nat.zero_le _⟩
  | fuel + 1, s, hf, hac => by
    unfold enforceLoop
    split_ifs with h
    · have ho : ¬WithinLimits mi mb s.history := by
        intro hfi
        obtain ⟨hm, hy⟩ := hfi
        rw [← hac] at hy; omega
      have hs : s.history ≠ [] := by
        intro he
        refine ho ?_
        rw [he]; exact ⟨Nat.zero_le _, Nat.zero_le _⟩
      obtain ⟨-, ha', hlen⟩ := evict_spec s
      refine .step ho (evicts_evictIndex hs) ?_; rw [← evict_history]
      exact enforceLoop_settles mi mb fuel (by omega) (ha' hac)
    · refine .done ⟨by omega, ?_⟩
      rw [← hac]; omega

theorem enforceLimits_settles (s : ClipboardState) :
    Settles (WithinLimits maxHistoryItems maxHistoryBytes) (·.pinned) s.history s.enforceLimits.history :=
  enforceLoop_settles maxHistoryItems maxHistoryBytes s.history.length (s := s.recalculateHistoryBytes) le_rfl rfl

end ClipboardState

/-! ## What is left -/

/-- What the limits leave of a history: an item that is not pinned stays exactly if it fits with all that are newer and
the pinned that are older. Pinned items go, the oldest first, only where they do not fit without any other. -/
structure Enforced (before after : List ClipboardItem) : Prop where
  within : WithinLimits maxHistoryItems maxHistoryBytes after
  newest : ∀ item rest, before = item :: rest →
    WithinLimits maxHistoryItems maxHistoryBytes (item :: rest.filter (·.pinned)) →
      ∃ kept, kept.Sublist rest ∧ after = item :: kept
  pinned : WithinLimits maxHistoryItems maxHistoryBytes (before.filter (·.pinned)) →
    after.filter (·.pinned) = before.filter (·.pinned)
  oldestPinned : ¬WithinLimits maxHistoryItems maxHistoryBytes (before.filter (·.pinned)) →
    ∃ n, after = (before.filter (·.pinned)).take n ∧
      ¬WithinLimits maxHistoryItems maxHistoryBytes ((before.filter (·.pinned)).take (n + 1))
  loose : ∀ newer item older, before = newer ++ item :: older → item.pinned = false →
    (WithinLimits maxHistoryItems maxHistoryBytes (newer ++ item :: older.filter (·.pinned)) →
      ∃ kept, kept.Sublist older ∧ after = newer ++ item :: kept) ∧
    (¬WithinLimits maxHistoryItems maxHistoryBytes (newer ++ item :: older.filter (·.pinned)) →
      after.Sublist (newer ++ older.filter (·.pinned)))

theorem enforced_of_settles {before after : List ClipboardItem}
    (h : Settles (WithinLimits maxHistoryItems maxHistoryBytes) (·.pinned) before after) : Enforced before after := by
  have hlo := h.loose (withinLimits_sublist maxHistoryItems maxHistoryBytes)
  refine ⟨h.settled, ?_, h.filter_eq, h.take_of_not_fits (withinLimits_sublist _ _), hlo⟩
  rintro item rest rfl hf
  cases hn : item.pinned with
  | false =>
    obtain ⟨kept, hs, heq⟩ := (hlo [] item rest rfl hn).1 hf; exact ⟨kept, hs, heq⟩
  | true =>
    -- all pinned items are left, so that the newest is among them
    have hal := h.filter_eq (by rw [List.filter_cons_of_pos hn]; exact hf)
    rw [List.filter_cons_of_pos hn] at hal
    rcases List.sublist_cons_iff.1 h.sublist with hs | ⟨kept, heq, hs⟩
    · have hlen : (item :: rest.filter (·.pinned)).length ≤ (rest.filter (·.pinned)).length :=
        hal ▸ (hs.filter (·.pinned)).length_le
      rw [List.length_cons] at hlen; omega
    · exact ⟨kept, hs, heq⟩

theorem pushFront_history (s : ClipboardState) (item : ClipboardItem) :
    ∃ rest, (s.pushFront item).2.history = (s.pushFront item).1 :: rest := by
  unfold ClipboardState.pushFront; split
  · split_ifs <;> exact ⟨_, rfl⟩
  · exact ⟨_, rfl⟩

/-- An insertion leaves of the history what its limits allow. An external selection of an evicted item is bound to
nothing any more; a managed one has its own copy, and requests stay and find no evicted item. -/
theorem limits_enforced (s : ClipboardState) (item : ClipboardItem) :
    (∃ rest, (s.pushFront item).2.history = (s.insertHistoryItem item).1 :: rest) ∧
    Enforced (s.pushFront item).2.history (s.insertHistoryItem item).2.history ∧
    (∀ epoch id, s.current = .external epoch (some id) → id ∈ s.ids →
      (s.insertHistoryItem item).2.current = .external epoch (some id) ∧ id ∈ (s.insertHistoryItem item).2.ids ∨
        (s.insertHistoryItem item).2.current = .external epoch none) ∧
    (∀ epoch id, s.current = .managed epoch id →
      (s.insertHistoryItem item).2.current = .managed epoch id ∧ (s.insertHistoryItem item).2.managed = s.managed) ∧
    (s.insertHistoryItem item).2.actions = s.actions ∧
    ∀ id, id ∉ (s.insertHistoryItem item).2.ids → (s.insertHistoryItem item).2.dragPayload id = none := by
  rcases hins : s.insertHistoryItem item with ⟨stored, s'⟩
  obtain ⟨hrev, -⟩ := ClipboardState.insertHistoryItem_spec hins
  obtain rfl : (s.pushFront item).1 = stored := congrArg Prod.fst hins
  obtain rfl : (s.pushFront item).2.enforceLimits = s' := congrArg Prod.snd hins
  refine ⟨pushFront_history s item, enforced_of_settles (ClipboardState.enforceLimits_settles _), ?_, ?_, ?_, ?_⟩
  · intro epoch id hcur hid
    have hboun : s.Bound := by
      intro epoch' id' hcur'; rw [hcur] at hcur'
      cases hcur'; exact hid
    rcases hrev.current with heq | ⟨epoch', id', hold, hnew⟩
    · rw [hcur] at heq
      exact .inl ⟨heq, hrev.bound hboun epoch id heq⟩
    · rw [hcur] at hold
      cases hold; exact .inr hnew
  · intro epoch id hcur
    refine ⟨?_, by rw [hrev.rest]⟩
    rcases hrev.current with heq | ⟨epoch', id', hold, -⟩
    · exact heq.trans hcur
    · rw [hcur] at hold; cases hold
  · rw [hrev.rest]
  · intro id hid; unfold ClipboardState.dragPayload
    split
    · rfl
    · rw [ClipboardState.mem_ids, Bool.not_eq_true, Option.isSome_eq_false_iff, Option.isNone_iff_eq_none] at hid
      rw [hid]; rfl

/-! ## An item evicted for older ones -/

def crowded : ClipboardState where
  history := letterItem 1 97 :: (List.range 99).map fun i => { letterItem (UInt64.ofNat (i + 2)) 98 with pinned := true }

/-- The newest item is evicted for pinned ones that are older, although it fits with the one inserted. -/
theorem crowded_evicts :
    (crowded.insertHistoryItem (letterItem 101 99)).2.ids = 101 :: (List.range 99).map (fun i => UInt64.ofNat (i + 2)) ∧
      WithinLimits maxHistoryItems maxHistoryBytes [letterItem 101 99, letterItem 1 97] := by
  exact ⟨by decide +kernel, by decide +kernel, by decide +kernel⟩

end Deniald.Clipboard
