/-
Maps that keep their entries in the order in which the keys were first set (Dart's `LinkedHashMap`): a
value set again stays in its place. Everything about them follows from what is found under a key.
-/
import Mathlib.Data.List.Nodup

namespace Deniald.Lib

structure LinkedMap (α β : Type) where
  entries : List (α × β)
  nodup : (entries.map Prod.fst).Nodup
  deriving DecidableEq

namespace LinkedMap

variable {α β γ : Type}

def empty : LinkedMap α β := ⟨[], List.nodup_nil⟩

def keys (m : LinkedMap α β) : List α := m.entries.map Prod.fst

def values (m : LinkedMap α β) : List β := m.entries.map Prod.snd

def isEmpty (m : LinkedMap α β) : Bool := m.entries.isEmpty

/-- The entries with a property of key and value (`removeWhere` of the others). -/
def filter (p : α → β → Bool) (m : LinkedMap α β) : LinkedMap α β where
  entries := m.entries.filter fun e => p e.1 e.2
  nodup := m.nodup.sublist (List.filter_sublist.map _)

/-- Every value replaced, under its key. -/
def mapValues (f : α → β → γ) (m : LinkedMap α β) : LinkedMap α γ where
  entries := m.entries.map fun e => (e.1, f e.1 e.2)
  nodup := by
    rw [List.map_map]; exact m.nodup

variable [DecidableEq α]

def get? (m : LinkedMap α β) (k : α) : Option β := (m.entries.find? fun e => e.1 = k).map Prod.snd

def contains (m : LinkedMap α β) (k : α) : Bool := (m.get? k).isSome

def erase (m : LinkedMap α β) (k : α) : LinkedMap α β := m.filter fun k' _ => k' ≠ k

theorem get?_eq_some_iff {m : LinkedMap α β} {k : α} {v : β} : m.get? k = some v ↔ (k, v) ∈ m.entries := by
  unfold get?
  constructor
  · intro h
    obtain ⟨e, he, rfl⟩ := Option.map_eq_some_iff.1 h
    have hk : e.1 = k := by simpa using List.find?_some he
    rw [← hk]; exact List.mem_of_find?_eq_some he
  · intro h
    have hm : (m.entries.find? fun e => e.1 = k).isSome := by
      rw [List.find?_isSome]; exact ⟨(k, v), h, by simp⟩
    obtain ⟨e, he⟩ := Option.isSome_iff_exists.1 hm
    have hk : e.1 = k := by simpa using List.find?_some he
    have hs := List.inj_on_of_nodup_map m.nodup (List.mem_of_find?_eq_some he) h hk
    rw [he, hs]; rfl

theorem get?_eq_none_iff {m : LinkedMap α β} {k : α} : m.get? k = none ↔ k ∉ m.keys := by
  constructor
  · intro h hmem
    obtain ⟨e, he, rfl⟩ := List.mem_map.1 hmem
    rw [get?_eq_some_iff.2 he] at h; cases h
  · intro h
    cases hge : m.get? k with
    | none => rfl
    | some v => exact absurd (List.mem_map_of_mem (get?_eq_some_iff.1 hge)) h

def set (m : LinkedMap α β) (k : α) (v : β) : LinkedMap α β :=
  if h : m.contains k then m.mapValues fun k' v' => if k' = k then v else v'
  else
    { entries := m.entries ++ [(k, v)]
      nodup := by
        rw [List.map_append, List.map_singleton]
        refine List.nodup_append.2 ⟨m.nodup, List.nodup_singleton k, ?_⟩
        rintro k' hmem _ hsingle rfl
        obtain rfl := List.mem_singleton.1 hsingle
        exact h (Option.isSome_iff_ne_none.2 fun hnone => get?_eq_none_iff.1 hnone hmem) }

/-- The map of a literal's entries, a later one replacing one of the same key. -/
def ofList (l : List (α × β)) : LinkedMap α β := l.foldl (fun m e => m.set e.1 e.2) empty

@[simp] theorem get?_empty (k : α) : (empty : LinkedMap α β).get? k = none := rfl

@[simp] theorem get?_mapValues (f : α → β → γ) (m : LinkedMap α β) (k : α) :
    (m.mapValues f).get? k = (m.get? k).map (f k) := by
  ext v; rw [get?_eq_some_iff, Option.map_eq_some_iff]
  constructor
  · intro h
    obtain ⟨e, he, heq⟩ := List.mem_map.1 h
    obtain ⟨rfl, rfl⟩ := Prod.mk.inj heq; exact ⟨e.2, get?_eq_some_iff.2 he, rfl⟩
  · rintro ⟨v', hv', rfl⟩
    exact List.mem_map.2 ⟨(k, v'), get?_eq_some_iff.1 hv', rfl⟩

@[simp] theorem get?_filter (p : α → β → Bool) (m : LinkedMap α β) (k : α) :
    (m.filter p).get? k = (m.get? k).filter (p k) := by
  ext v
  rw [get?_eq_some_iff, Option.filter_eq_some_iff, get?_eq_some_iff]; exact List.mem_filter

theorem isSome_get?_filter (p : α → Bool) (m : LinkedMap α β) (k : α) :
    ((m.filter fun k _ => p k).get? k).isSome = ((m.get? k).isSome && p k) := by
  rw [get?_filter]
  cases m.get? k with
  | none => rfl
  | some v => cases p k <;> simp

@[simp] theorem get?_erase (m : LinkedMap α β) (k k' : α) :
    (m.erase k).get? k' = if k' = k then none else m.get? k' := by
  unfold erase; rw [get?_filter]
  by_cases h : k' = k
  · subst h
    cases m.get? k' <;> simp
  · cases m.get? k' <;> simp [h]

@[simp] theorem get?_set (m : LinkedMap α β) (k : α) (v : β) (k' : α) :
    (m.set k v).get? k' = if k' = k then some v else m.get? k' := by
  unfold set; split
  · rename_i h; rw [get?_mapValues]
    by_cases hk : k' = k
    · subst hk
      obtain ⟨v', hv'⟩ := Option.isSome_iff_exists.1 h; simp [hv']
    · cases m.get? k' <;> simp [hk]
  · rename_i h
    by_cases hk : k' = k
    · subst hk; rw [if_pos rfl, get?_eq_some_iff]
      exact List.mem_append_right _ (List.mem_singleton.2 rfl)
    rw [if_neg hk]
    ext v'; rw [get?_eq_some_iff, get?_eq_some_iff]
    constructor
    · intro hmem
      refine (List.mem_append.1 hmem).resolve_right fun hsingle => hk ?_
      exact (Prod.mk.inj (List.mem_singleton.1 hsingle)).1
    · exact fun hmem => List.mem_append_left _ hmem

theorem mem_of_foldl_set {k : α} {v : β} : ∀ (l : List (α × β)) {m : LinkedMap α β},
    (l.foldl (fun m e => m.set e.1 e.2) m).get? k = some v → (k, v) ∈ l ∨ m.get? k = some v
  | [], _, h => .inr h
  | e :: l, m, h => by
    rcases mem_of_foldl_set l h with hmem | hge
    · exact .inl (List.mem_cons_of_mem _ hmem)
    rw [get?_set] at hge; split at hge
    · rename_i hk
      refine .inl (List.mem_cons.2 (.inl ?_)); rw [hk, ← Option.some.inj hge]
    · exact .inr hge

theorem mem_of_ofList {l : List (α × β)} {k : α} {v : β} (h : (ofList l).get? k = some v) : (k, v) ∈ l := by
  rcases mem_of_foldl_set l h with hmem | hnone
  · exact hmem
  · cases hnone

theorem isSome_foldl_set {k : α} : ∀ (l : List (α × β)) {m : LinkedMap α β},
    ((l.foldl (fun m e => m.set e.1 e.2) m).get? k).isSome = (l.any (fun e => e.1 = k) || (m.get? k).isSome)
  | [], _ => rfl
  | e :: l, m => by
    rw [List.foldl_cons, isSome_foldl_set l, get?_set, List.any_cons]
    by_cases hk : k = e.1
    · simp [hk]
    · simp [hk, Ne.symm hk]

/-- Every entry of another map set after this one's (`extend`). -/
def extend (m m' : LinkedMap α β) : LinkedMap α β := m'.entries.foldl (fun m e => m.set e.1 e.2) m

theorem get?_foldl_set {k : α} : ∀ {l : List (α × β)} {m : LinkedMap α β}, (l.map Prod.fst).Nodup →
    (l.foldl (fun m e => m.set e.1 e.2) m).get? k = ((l.find? fun e => e.1 = k).map Prod.snd).or (m.get? k)
  | [], _, _ => rfl
  | e :: l, m, h => by
    obtain ⟨hno, hn⟩ := List.nodup_cons.1 h
    rw [List.foldl_cons, get?_foldl_set hn, get?_set, List.find?_cons]
    by_cases hk : e.1 = k
    · have hnone : l.find? (fun e => e.1 = k) = none := by
        rw [List.find?_eq_none]
        rintro e' he' hk'
        have hk' : e'.1 = k := by simpa using hk'
        exact hno (hk ▸ hk' ▸ List.mem_map_of_mem he')
      rw [hnone, if_pos hk.symm]; simp [hk]
    · rw [if_neg (Ne.symm hk)]; simp [hk]

@[simp] theorem get?_extend (m m' : LinkedMap α β) (k : α) : (m.extend m').get? k = (m'.get? k).or (m.get? k) :=
  get?_foldl_set m'.nodup

/-- `mapEquals`: the same values under the same keys, in any order. -/
def sameAs [DecidableEq β] (a b : LinkedMap α β) : Bool :=
  a.entries.length = b.entries.length && a.entries.all fun e => b.get? e.1 = some e.2

end LinkedMap

end Deniald.Lib
