/-
Least recently used, by a clock: a store of slots each of which says when it was last used, and which slot of a choice
is the oldest. `Ordered` is the store read from its oldest slot to its newest, the order a list that moves what is
used to its end keeps.
-/
import Mathlib.Data.List.MinMax
import Mathlib.Data.List.Nodup

namespace Deniald.Lib

structure Slot (K V : Type) where
  key : K
  value : V
  used : Nat

structure Lru (K V : Type) where
  slots : List (Slot K V)
  clock : Nat

namespace Lru

variable {K V : Type}

def empty : Lru K V := ⟨[], 0⟩

/-- The slot last used the longest ago, of those whose key is asked for. -/
def oldest (p : K → Bool) (s : Lru K V) : Option (Slot K V) := (s.slots.filter fun x => p x.key).argmin (·.used)

/-- The store without the slots of some keys. -/
def forget (p : K → Bool) (s : Lru K V) : Lru K V := { s with slots := s.slots.filter fun x => !p x.key }

def write [DecidableEq K] (key : K) (value : V) (s : Lru K V) : Lru K V :=
  ⟨⟨key, value, s.clock⟩ :: s.slots.filter fun x => x.key ≠ key, s.clock + 1⟩

/-- The slots of a store from the oldest to the newest. -/
structure Ordered (s : Lru K V) (l : List (Slot K V)) : Prop where
  perm : l.Perm s.slots
  sorted : l.Pairwise fun a b => a.used < b.used
  past : ∀ x ∈ l, x.used < s.clock
  nodup : (l.map (·.key)).Nodup

theorem ordered_empty : Ordered (empty : Lru K V) [] :=
  ⟨.refl _, .nil, fun _ h => (by cases h), List.nodup_nil⟩

variable {s : Lru K V} {l : List (Slot K V)}

theorem Ordered.length_eq (h : Ordered s l) : s.slots.length = l.length := h.perm.length_eq.symm

theorem find?_sorted {p : Slot K V → Bool} : ∀ {l : List (Slot K V)} {a : Slot K V},
    l.Pairwise (fun a b => a.used < b.used) → l.find? p = some a → ∀ b ∈ l, p b = true → a.used ≤ b.used
  | [], _, _, h, _, _, _ => by cases h
  | c :: l, a, hs, hf, b, hb, hp => by
    obtain ⟨hc, hl⟩ := List.pairwise_cons.1 hs; rw [List.find?_cons] at hf
    cases hpc : p c with
    | true =>
      rw [hpc] at hf; cases hf
      rcases List.mem_cons.1 hb with rfl | hb
      · exact le_refl _
      · exact le_of_lt (hc b hb)
    | false =>
      rw [hpc] at hf
      rcases List.mem_cons.1 hb with rfl | hb
      · rw [hpc] at hp; cases hp
      · exact find?_sorted hl hf b hb hp

theorem Ordered.oldest_eq (h : Ordered s l) (p : K → Bool) : s.oldest p = l.find? fun x => p x.key := by
  have hmem : ∀ x, x ∈ s.slots.filter (fun x => p x.key) ↔ x ∈ l ∧ p x.key = true := fun x => by
    rw [List.mem_filter, h.perm.mem_iff]
  have hu : (l.map (·.used)).Nodup := (List.pairwise_map.2 h.sorted).imp Nat.ne_of_lt
  unfold oldest
  cases hf : l.find? fun x => p x.key with
  | none =>
    rw [List.argmin_eq_none, List.eq_nil_iff_forall_not_mem]; intro x hx
    obtain ⟨hx, hp⟩ := (hmem x).1 hx; exact List.find?_eq_none.1 hf x hx hp
  | some a =>
    have ha : a ∈ l ∧ p a.key = true := ⟨List.mem_of_find?_eq_some hf, List.find?_some (p := fun x : Slot K V => p x.key) hf⟩
    cases hn : (s.slots.filter fun x => p x.key).argmin (·.used) with
    | none =>
      rw [List.argmin_eq_none] at hn
      exact absurd ((hmem a).2 ha) (hn ▸ List.not_mem_nil)
    | some m =>
      obtain ⟨hm, hpm⟩ := (hmem m).1 (List.argmin_mem hn)
      have hle : m.used ≤ a.used := List.le_of_mem_argmin ((hmem a).2 ha) hn
      have hge : a.used ≤ m.used := find?_sorted h.sorted hf m hm hpm
      rw [List.inj_on_of_nodup_map hu hm ha.1 (le_antisymm hle hge)]

theorem Ordered.forget (h : Ordered s l) (p : K → Bool) : Ordered (s.forget p) (l.filter fun x => !p x.key) where
  perm := h.perm.filter _
  sorted := h.sorted.sublist List.filter_sublist
  past := fun x hx => h.past x (List.mem_filter.1 hx).1
  nodup := h.nodup.sublist (List.filter_sublist.map _)

theorem Ordered.write [DecidableEq K] (h : Ordered s l) (key : K) (value : V) :
    Ordered (s.write key value) ((l.filter fun x => x.key ≠ key) ++ [⟨key, value, s.clock⟩]) where
  perm := (@List.perm_append_comm _ _ [_]).trans ((h.perm.filter _).cons _)
  sorted := by
    refine List.pairwise_append.2 ⟨h.sorted.sublist List.filter_sublist, List.pairwise_singleton .., fun x hx y hy => ?_⟩
    rw [List.mem_singleton.1 hy]; exact h.past x (List.mem_filter.1 hx).1
  past := fun x hx => by
    rcases List.mem_append.1 hx with hx | hx
    · exact Nat.lt_succ_of_lt (h.past x (List.mem_filter.1 hx).1)
    · rw [List.mem_singleton.1 hx]; exact Nat.lt_succ_self _
  nodup := by
    rw [List.map_append, List.nodup_append]
    refine ⟨h.nodup.sublist (List.filter_sublist.map _), List.nodup_singleton _, fun k hk k' hk' heq => ?_⟩
    obtain ⟨x, hx, rfl⟩ := List.mem_map.1 hk
    exact of_decide_eq_true (List.mem_filter.1 hx).2 (heq.trans (List.mem_singleton.1 hk'))

/-! ## Operations -/

variable [DecidableEq K]

def get (p : K → Bool) (s : Lru K V) : Lru K V × Option V :=
  match s.oldest p with
  | none => (s, none)
  | some slot => (s.write slot.key slot.value, some slot.value)

def insert (capacity : Nat) (key : K) (value : V) (s : Lru K V) : Lru K V × Option V :=
  let written := s.write key value
  match s.oldest (· = key) with
  | some slot => (written, some slot.value)
  | none =>
    if written.slots.length ≤ capacity then (written, none)
    else match written.oldest fun _ => true with
      | none => (written, none)
      | some slot => (written.forget (· = slot.key), some slot.value)

def removeWhere (p : K → Bool) (s : Lru K V) : Lru K V × List V :=
  (s.forget p, (s.slots.filter fun x => p x.key).map (·.value))

end Lru

end Deniald.Lib
