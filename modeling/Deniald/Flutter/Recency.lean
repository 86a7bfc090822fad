/-
The caches of texture bindings (flutter_runtime/renderer/texture.rs): a bounded ring of entries from the oldest to the
newest, which refines a store that evicts the least recently used, and independent such rings for each texture. The
counters, which tests alone read, are left out.
-/
import Deniald.Lib.Keyed
import Deniald.Lib.Lru
import Deniald.Lib.Run

namespace Deniald.Flutter

open Deniald.Lib

structure RecencyEntry (K V : Type) where
  key : K
  value : V

/-! ## The ring -/

namespace Ring

variable {K V : Type}

def getBy (p : K → Bool) (entries : List (RecencyEntry K V)) : List (RecencyEntry K V) × Option V :=
  match entries.findIdx? fun e => p e.key with
  | none => (entries, none)
  | some index =>
    match entries[index]? with
    -- the located entry exists
    | none => (entries, none)
    | some entry => (entries.eraseIdx index ++ [entry], some entry.value)

def push (capacity : Nat) (key : K) (value : V) (entries : List (RecencyEntry K V)) : List (RecencyEntry K V) × Option V :=
  let entries := entries ++ [⟨key, value⟩]
  if entries.length ≤ capacity then (entries, none)
  else match entries with
    | [] => ([], none)
    | oldest :: entries => (entries, some oldest.value)

def insert [DecidableEq K] (capacity : Nat) (key : K) (value : V) (entries : List (RecencyEntry K V)) :
    List (RecencyEntry K V) × Option V :=
  match entries.findIdx? fun e => e.key = key with
  | none => push capacity key value entries
  | some index =>
    match entries[index]? with
    -- the located entry exists
    | none => push capacity key value entries
    | some entry => (entries.eraseIdx index ++ [{ entry with value }], some entry.value)

/-- The loop of `remove_where`; each turn takes an entry out or passes it. -/
def removeFrom (p : K → Bool) : Nat → Nat → List (RecencyEntry K V) → List V → List (RecencyEntry K V) × List V
  | 0, _, entries, removed => (entries, removed)
  | turns + 1, index, entries, removed =>
    match entries[index]? with
    | none => (entries, removed)
    | some entry =>
      if p entry.key then removeFrom p turns index (entries.eraseIdx index) (removed ++ [entry.value])
      else removeFrom p turns (index + 1) entries removed

def removeWhere (p : K → Bool) (entries : List (RecencyEntry K V)) : List (RecencyEntry K V) × List V :=
  removeFrom p entries.length 0 entries []

theorem located {α : Type} {q : α → Bool} : ∀ {l : List α} {index : Nat}, l.findIdx? q = some index →
    ∃ before a after, l = before ++ a :: after ∧ l[index]? = some a ∧ l.eraseIdx index = before ++ after ∧
      l.find? q = some a
  | [], _, h => by cases h
  | b :: l, index, h => by
    rw [List.findIdx?_cons] at h
    cases hb : q b with
    | true =>
      rw [hb] at h; cases h
      exact ⟨[], b, l, rfl, rfl, rfl, List.find?_cons_of_pos hb⟩
    | false =>
      rw [hb] at h
      obtain ⟨i, hi, rfl⟩ := Option.map_eq_some_iff.1 h
      obtain ⟨before, a, after, rfl, hge, he, hf⟩ := located hi
      refine ⟨b :: before, a, after, rfl, hge, congrArg (b :: ·) he, ?_⟩
      rw [List.find?_cons, hb]; exact hf

variable {e : RecencyEntry K V} {capacity : Nat}

theorem filter_key_ne [DecidableEq K] {before after : List (RecencyEntry K V)}
    (h : ((before ++ e :: after).map (·.key)).Nodup) :
    (before ++ e :: after).filter (fun x => x.key ≠ e.key) = before ++ after := by
  rw [List.map_append, List.map_cons, List.nodup_append, List.nodup_cons] at h
  obtain ⟨-, ⟨hf, -⟩, hbe⟩ := h
  rw [List.filter_append, List.filter_cons_of_neg (by simp)]
  congr 1
  · refine List.filter_eq_self.2 fun x hx => decide_eq_true fun heq => ?_
    exact hbe _ (List.mem_map_of_mem hx) _ (List.mem_cons_self ..) heq
  · refine List.filter_eq_self.2 fun x hx => decide_eq_true fun heq => ?_
    exact hf (heq ▸ List.mem_map_of_mem hx)

variable {entries : List (RecencyEntry K V)}

theorem getBy_eq [DecidableEq K] (p : K → Bool) (h : (entries.map (·.key)).Nodup) :
    getBy p entries = match entries.find? fun e => p e.key with
      | none => (entries, none)
      | some e => (entries.filter (fun x => x.key ≠ e.key) ++ [e], some e.value) := by
  unfold getBy
  cases hn : entries.findIdx? fun e => p e.key with
  | none =>
    rw [List.find?_eq_none.2 fun x hx => by simpa using List.findIdx?_eq_none_iff.1 hn x hx]
  | some index =>
    obtain ⟨before, e, after, rfl, hge, he, hf⟩ := located hn
    simp only [hge, hf, he, filter_key_ne h]

theorem insert_eq [DecidableEq K] (capacity : Nat) (key : K) (value : V) (h : (entries.map (·.key)).Nodup) :
    insert capacity key value entries = match entries.find? fun e => e.key = key with
      | none => push capacity key value entries
      | some e => (entries.filter (fun x => x.key ≠ key) ++ [⟨key, value⟩], some e.value) := by
  unfold insert
  cases hn : entries.findIdx? fun e => e.key = key with
  | none =>
    rw [List.find?_eq_none.2 fun x hx => by simpa using List.findIdx?_eq_none_iff.1 hn x hx]
  | some index =>
    obtain ⟨before, e, after, rfl, hge, he, hf⟩ := located hn
    obtain rfl : e.key = key := of_decide_eq_true (List.find?_some (p := fun x : RecencyEntry K V => x.key = key) hf)
    simp only [hge, hf, he, filter_key_ne h]

theorem removeFrom_eq (p : K → Bool) : ∀ (rest kept : List (RecencyEntry K V)) (r : List V),
    removeFrom p rest.length kept.length (kept ++ rest) r =
      (kept ++ rest.filter (fun x => !p x.key), r ++ (rest.filter fun x => p x.key).map (·.value))
  | [], kept, r => by simp [removeFrom]
  | e :: rest, kept, r => by
    have hge : (kept ++ e :: rest)[kept.length]? = some e := by simp
    have hs : kept ++ e :: rest = (kept ++ [e]) ++ rest := by simp
    rw [List.length_cons, removeFrom, hge]; dsimp only
    cases hp : p e.key with
    | true =>
      rw [if_pos rfl, List.eraseIdx_append_of_length_le (le_refl _), Nat.sub_self, List.eraseIdx_cons_zero,
        removeFrom_eq p rest]
      simp [hp]
    | false =>
      rw [if_neg (by simp), hs, show kept.length + 1 = (kept ++ [e]).length by simp, removeFrom_eq p rest]
      simp [hp]

theorem removeWhere_eq (p : K → Bool) (entries : List (RecencyEntry K V)) :
    removeWhere p entries = (entries.filter (fun x => !p x.key), (entries.filter fun x => p x.key).map (·.value)) :=
  removeFrom_eq p entries [] []

/-- A ring: every key once, and no more entries than it holds. -/
structure Valid (capacity : Nat) (entries : List (RecencyEntry K V)) : Prop where
  nodup : (entries.map (·.key)).Nodup
  bounded : entries.length ≤ capacity

theorem valid_filter (h : Valid capacity entries) (p : RecencyEntry K V → Bool) : Valid capacity (entries.filter p) :=
  ⟨h.nodup.sublist (List.filter_sublist.map _), (List.length_filter_le ..).trans h.bounded⟩

theorem length_filter_key_lt [DecidableEq K] (he : e ∈ entries) :
    (entries.filter fun x => x.key ≠ e.key).length < entries.length :=
  List.length_filter_lt_length_iff_exists.2 ⟨e, he, by simp⟩

theorem valid_refresh [DecidableEq K] (h : Valid capacity entries) (he : e ∈ entries) (value : V) :
    Valid capacity (entries.filter (fun x => x.key ≠ e.key) ++ [⟨e.key, value⟩]) where
  nodup := by
    rw [List.map_append, List.nodup_append]
    refine ⟨(valid_filter h _).nodup, List.nodup_singleton _, fun k hk k' hk' heq => ?_⟩
    obtain ⟨x, hx, rfl⟩ := List.mem_map.1 hk
    exact of_decide_eq_true (List.mem_filter.1 hx).2 (heq.trans (List.mem_singleton.1 hk'))
  bounded := by
    rw [List.length_append, List.length_singleton]; exact (length_filter_key_lt he).trans_le h.bounded

theorem valid_push (h : Valid capacity entries) {key : K} (hy : key ∉ entries.map (·.key)) (value : V) :
    Valid capacity (push capacity key value entries).1 := by
  have hn : ((entries ++ [(⟨key, value⟩ : RecencyEntry K V)]).map (·.key)).Nodup := by
    rw [List.map_append, List.nodup_append]
    refine ⟨h.nodup, List.nodup_singleton _, fun k hk k' hk' heq => hy ?_⟩
    rwa [← show k' = key from List.mem_singleton.1 hk', ← heq]
  have hlen : (entries ++ [(⟨key, value⟩ : RecencyEntry K V)]).length ≤ capacity + 1 := by
    rw [List.length_append, List.length_singleton]; exact Nat.succ_le_succ h.bounded
  unfold push; dsimp only
  split
  · exact ⟨hn, ‹_›⟩
  cases he : entries ++ [⟨key, value⟩] with
  | nil => exact ⟨List.nodup_nil, Nat.zero_le _⟩
  | cons oldest rest =>
    rw [he] at hn hlen
    exact ⟨(List.nodup_cons.1 hn).2, Nat.le_of_succ_le_succ hlen⟩

theorem key_not_mem [DecidableEq K] {key : K} (h : (entries.find? fun e => e.key = key) = none) :
    key ∉ entries.map (·.key) := by
  intro hmem
  obtain ⟨e, he, rfl⟩ := List.mem_map.1 hmem
  exact absurd (decide_eq_true rfl) (List.find?_eq_none.1 h e he)

theorem valid_getBy [DecidableEq K] (h : Valid capacity entries) (p : K → Bool) :
    Valid capacity (getBy p entries).1 := by
  rw [getBy_eq p h.nodup]; split
  · exact h
  · rename_i e hf
    exact valid_refresh h (List.mem_of_find?_eq_some hf) e.value

theorem valid_insert [DecidableEq K] (h : Valid capacity entries) (key : K) (value : V) :
    Valid capacity (insert capacity key value entries).1 := by
  rw [insert_eq capacity key value h.nodup]; split
  · exact valid_push h (key_not_mem ‹_›) value
  rename_i e hf
  obtain rfl : e.key = key := of_decide_eq_true (List.find?_some (p := fun x : RecencyEntry K V => x.key = key) hf)
  exact valid_refresh h (List.mem_of_find?_eq_some hf) value

theorem valid_removeWhere (h : Valid capacity entries) (p : K → Bool) : Valid capacity (removeWhere p entries).1 := by
  rw [removeWhere_eq]; exact valid_filter h _

end Ring

/-! ## One cache -/

@[ext] structure RecencyCache (K V : Type) where
  entries : List (RecencyEntry K V)
  capacity : Nat
  positive : 0 < capacity
  valid : Ring.Valid capacity entries

inductive CacheOp (K V : Type) where
  | getBy (p : K → Bool)
  | insert (key : K) (value : V)
  | removeWhere (predicate : K → Bool)
  | drain

/-- What an operation answers: the value it found, and the values the cache no longer holds. -/
structure CacheAnswer (V : Type) where
  found : Option V := none
  returned : List V := []

namespace RecencyCache

variable {K V : Type}

def new (capacity : Nat) (positive : 0 < capacity) : RecencyCache K V :=
  ⟨[], capacity, positive, ⟨List.nodup_nil, Nat.zero_le _⟩⟩

def values (c : RecencyCache K V) : List V := c.entries.map (·.value)

def removeWhere (p : K → Bool) (c : RecencyCache K V) : RecencyCache K V × List V :=
  (⟨(Ring.removeWhere p c.entries).1, c.capacity, c.positive, Ring.valid_removeWhere c.valid p⟩,
    (Ring.removeWhere p c.entries).2)

def drain (c : RecencyCache K V) : RecencyCache K V × List V := (new c.capacity c.positive, c.values)

variable [DecidableEq K]

def getBy (p : K → Bool) (c : RecencyCache K V) : RecencyCache K V × Option V :=
  (⟨(Ring.getBy p c.entries).1, c.capacity, c.positive, Ring.valid_getBy c.valid p⟩, (Ring.getBy p c.entries).2)

def insert (key : K) (value : V) (c : RecencyCache K V) : RecencyCache K V × Option V :=
  (⟨(Ring.insert c.capacity key value c.entries).1, c.capacity, c.positive, Ring.valid_insert c.valid key value⟩,
    (Ring.insert c.capacity key value c.entries).2)

def step (c : RecencyCache K V) : CacheOp K V → RecencyCache K V × CacheAnswer V
  | .getBy p => ((c.getBy p).1, { found := (c.getBy p).2 })
  | .insert key value => ((c.insert key value).1, { returned := (c.insert key value).2.toList })
  | .removeWhere predicate => ((c.removeWhere predicate).1, { returned := (c.removeWhere predicate).2 })
  | .drain => (c.drain.1, { returned := c.drain.2 })

def run (c : RecencyCache K V) (ops : List (CacheOp K V)) : RecencyCache K V := exec (fun c op => (c.step op).1) c ops

def answers (c : RecencyCache K V) (ops : List (CacheOp K V)) : List (CacheAnswer V) :=
  trace (fun c op => (c.step op).1) (fun c op => some (c.step op).2) c ops

end RecencyCache

/-! ## The least recently used -/

section Refinement

variable {K V : Type} [DecidableEq K]

/-- The operations on a store that knows when its slots were used. -/
def referenceStep (capacity : Nat) (s : Lru K V) : CacheOp K V → Lru K V × CacheAnswer V
  | .getBy p => ((s.get p).1, { found := (s.get p).2 })
  | .insert key value => ((s.insert capacity key value).1, { returned := (s.insert capacity key value).2.toList })
  | .removeWhere predicate => ((s.removeWhere predicate).1, { returned := (s.removeWhere predicate).2 })
  | .drain => ((s.removeWhere fun _ => true).1, { returned := (s.removeWhere fun _ => true).2 })

def recencyReference (capacity : Nat) (ops : List (CacheOp K V)) : Lru K V :=
  exec (fun s op => (referenceStep capacity s op).1) Lru.empty ops

def referenceAnswers (capacity : Nat) (ops : List (CacheOp K V)) : List (CacheAnswer V) :=
  trace (fun s op => (referenceStep capacity s op).1) (fun s op => some (referenceStep capacity s op).2) Lru.empty ops

omit [DecidableEq K] in
def untimed (x : Slot K V) : RecencyEntry K V := ⟨x.key, x.value⟩

omit [DecidableEq K] in
/-- The entries are the slots of the store, from the least to the most recently used. -/
def Represents (s : Lru K V) (entries : List (RecencyEntry K V)) : Prop := ∃ l, s.Ordered l ∧ entries = l.map untimed

omit [DecidableEq K] in
/-- The same value is found, and the same values are returned. -/
structure Agree (a b : CacheAnswer V) : Prop where
  found : a.found = b.found
  returned : a.returned.Perm b.returned

omit [DecidableEq K] in
theorem find?_untimed (p : K → Bool) (l : List (Slot K V)) :
    ((l.map untimed).find? fun e => p e.key) = (l.find? fun x => p x.key).map untimed :=
  List.find?_map ..

omit [DecidableEq K] in
theorem filter_untimed (p : K → Bool) (l : List (Slot K V)) :
    (l.map untimed).filter (fun e => p e.key) = (l.filter fun x => p x.key).map untimed :=
  List.filter_map ..

omit [DecidableEq K] in
theorem nodup_untimed {l : List (Slot K V)} (h : (l.map (·.key)).Nodup) : ((l.map untimed).map (·.key)).Nodup := by
  rwa [List.map_map]

variable {s : Lru K V}

variable {entries : List (RecencyEntry K V)}

theorem represents_getBy (h : Represents s entries) (p : K → Bool) :
    Represents (s.get p).1 (Ring.getBy p entries).1 ∧ (Ring.getBy p entries).2 = (s.get p).2 := by
  obtain ⟨l, hl, rfl⟩ := h
  rw [Ring.getBy_eq p (nodup_untimed hl.nodup), find?_untimed, Lru.get, hl.oldest_eq p]
  cases l.find? fun x => p x.key with
  | none => exact ⟨⟨l, hl, rfl⟩, rfl⟩
  | some x =>
    refine ⟨⟨_, hl.write x.key x.value, ?_⟩, rfl⟩
    rw [List.map_append, ← filter_untimed fun k => k ≠ x.key]; rfl

theorem represents_push {l : List (Slot K V)} (hl : s.Ordered l) {key : K} (hn : s.oldest (· = key) = none)
    (capacity : Nat) (value : V) :
    Represents (s.insert capacity key value).1 (Ring.push capacity key value (l.map untimed)).1 ∧
      (Ring.push capacity key value (l.map untimed)).2 = (s.insert capacity key value).2 := by
  have hf := hl.oldest_eq (· = key); rw [hn] at hf
  have hfi : l.filter (fun x => x.key ≠ key) = l :=
    List.filter_eq_self.2 fun x hx => by simpa using List.find?_eq_none.1 hf.symm x hx
  have hw := hl.write key value; rw [hfi] at hw
  have hm : l.map untimed ++ [(⟨key, value⟩ : RecencyEntry K V)] = (l ++ [(⟨key, value, s.clock⟩ : Slot K V)]).map untimed := by
    rw [List.map_append]; rfl
  unfold Ring.push Lru.insert; rw [hn, hm]
  dsimp only; rw [List.length_map, hw.length_eq]
  split
  · exact ⟨⟨_, hw, rfl⟩, rfl⟩
  rw [hw.oldest_eq]
  generalize l ++ [(⟨key, value, s.clock⟩ : Slot K V)] = written at hw ⊢
  cases written with
  | nil => exact ⟨⟨_, hw, rfl⟩, rfl⟩
  | cons x written =>
    have hr : (x :: written).filter (fun y => !decide (y.key = x.key)) = written := by
      rw [List.filter_cons_of_neg (by simp)]
      refine List.filter_eq_self.2 fun y hy => ?_
      have hne : y.key ≠ x.key := fun heq => (List.nodup_cons.1 hw.nodup).1 (List.mem_map.2 ⟨y, hy, heq⟩)
      simpa using hne
    refine ⟨⟨written, ?_, rfl⟩, rfl⟩; have := hw.forget (· = x.key)
    rwa [hr] at this

theorem represents_insert (h : Represents s entries) (capacity : Nat) (key : K) (value : V) :
    Represents (s.insert capacity key value).1 (Ring.insert capacity key value entries).1 ∧
      (Ring.insert capacity key value entries).2 = (s.insert capacity key value).2 := by
  obtain ⟨l, hl, rfl⟩ := h
  rw [Ring.insert_eq capacity key value (nodup_untimed hl.nodup), find?_untimed (fun k => k = key),
    ← hl.oldest_eq (· = key)]
  cases hf : s.oldest (· = key) with
  | none => exact represents_push hl hf capacity value
  | some x =>
    rw [Lru.insert, hf]
    refine ⟨⟨_, hl.write key value, ?_⟩, rfl⟩
    rw [List.map_append, ← filter_untimed fun k => k ≠ key]; rfl

omit [DecidableEq K] in
theorem represents_removeWhere (h : Represents s entries) (p : K → Bool) :
    Represents (s.removeWhere p).1 (Ring.removeWhere p entries).1 ∧
      (Ring.removeWhere p entries).2.Perm (s.removeWhere p).2 := by
  obtain ⟨l, hl, rfl⟩ := h; rw [Ring.removeWhere_eq]
  refine ⟨⟨_, hl.forget p, filter_untimed (fun k => !p k) l⟩, ?_⟩
  rw [filter_untimed, List.map_map]; exact (hl.perm.filter _).map _

theorem represents_step {c : RecencyCache K V} (h : Represents s c.entries) (op : CacheOp K V) :
    Represents (referenceStep c.capacity s op).1 (c.step op).1.entries ∧
      Agree (c.step op).2 (referenceStep c.capacity s op).2 := by
  cases op with
  | getBy p =>
    obtain ⟨hr, hf⟩ := represents_getBy h p; exact ⟨hr, hf, .refl _⟩
  | insert key value =>
    obtain ⟨hr, hre⟩ := represents_insert h c.capacity key value
    exact ⟨hr, rfl, .of_eq (congrArg Option.toList hre)⟩
  | removeWhere pr =>
    obtain ⟨hr, hre⟩ := represents_removeWhere h pr; exact ⟨hr, rfl, hre⟩
  | drain =>
    obtain ⟨hr, hre⟩ := represents_removeWhere h fun _ => true
    rw [Ring.removeWhere_eq] at hr hre
    simp only [Bool.not_true, List.filter_false, List.filter_true] at hr hre
    exact ⟨hr, rfl, hre⟩

theorem capacity_step (c : RecencyCache K V) (op : CacheOp K V) : (c.step op).1.capacity = c.capacity := by
  cases op <;> rfl

theorem represents_run : ∀ (ops : List (CacheOp K V)) {s : Lru K V} {c : RecencyCache K V}, Represents s c.entries →
    Represents (exec (fun s op => (referenceStep c.capacity s op).1) s ops) (c.run ops).entries ∧
      List.Forall₂ Agree (c.answers ops)
        (trace (fun s op => (referenceStep c.capacity s op).1) (fun s op => some (referenceStep c.capacity s op).2) s ops)
  | [], _, _, h => ⟨h, .nil⟩
  | op :: ops, s, c, h => by
    obtain ⟨hre, hag⟩ := represents_step h op
    obtain ⟨hr, hn⟩ := represents_run ops hre
    rw [capacity_step] at hr hn; exact ⟨hr, .cons hag hn⟩

/-! ## Conservation -/

omit [DecidableEq K] in
def CacheOp.inserted : CacheOp K V → List V
  | .insert _ value => [value]
  | .getBy _ | .removeWhere _ | .drain => []

theorem perm_entry (h : (entries.map (·.key)).Nodup) {e : RecencyEntry K V} (he : e ∈ entries) :
    entries.Perm (e :: entries.filter fun x => x.key ≠ e.key) := by
  obtain ⟨before, after, rfl⟩ := List.append_of_mem he
  rw [Ring.filter_key_ne h]; exact List.perm_middle

theorem conserved_getBy (h : (entries.map (·.key)).Nodup) (p : K → Bool) : entries.Perm (Ring.getBy p entries).1 := by
  rw [Ring.getBy_eq p h]; split
  · exact .refl _
  · rename_i e hf
    exact (perm_entry h (List.mem_of_find?_eq_some hf)).trans (@List.perm_append_comm _ [e] _)

theorem conserved_insert (h : (entries.map (·.key)).Nodup) (capacity : Nat) (key : K) (value : V) :
    (entries.map (·.value) ++ [value]).Perm
      ((Ring.insert capacity key value entries).1.map (·.value) ++ (Ring.insert capacity key value entries).2.toList) := by
  rw [Ring.insert_eq capacity key value h]; split
  · unfold Ring.push; dsimp only
    split
    · simp
    cases entries with
    | nil => exact List.perm_append_comm
    | cons e entries =>
      rw [List.map_cons, List.cons_append, List.cons_append, List.map_append]
      exact @List.perm_append_comm _ [e.value] _
  · rename_i e hf
    have hr := (perm_entry h (List.mem_of_find?_eq_some hf)).map (·.value)
    obtain rfl : e.key = key := of_decide_eq_true (List.find?_some (p := fun x : RecencyEntry K V => x.key = key) hf)
    refine (hr.append_right [value]).trans ?_
    rw [List.map_cons, List.map_append]; exact @List.perm_append_comm _ [e.value] _

omit [DecidableEq K] in
theorem conserved_removeWhere (p : K → Bool) (entries : List (RecencyEntry K V)) : (entries.map (·.value)).Perm
      ((Ring.removeWhere p entries).1.map (·.value) ++ (Ring.removeWhere p entries).2) := by
  rw [Ring.removeWhere_eq, ← List.map_append]
  refine List.Perm.map _ (List.perm_append_comm.trans ?_).symm
  exact List.filter_append_perm (fun e => p e.key) entries

theorem conserved_step (c : RecencyCache K V) (op : CacheOp K V) :
    (c.values ++ op.inserted).Perm ((c.step op).1.values ++ (c.step op).2.returned) := by
  cases op with
  | getBy p => exact ((conserved_getBy c.valid.nodup p).map _).append_right []
  | insert key value => exact conserved_insert c.valid.nodup c.capacity key value
  | removeWhere pr =>
    rw [CacheOp.inserted, List.append_nil]; exact conserved_removeWhere pr c.entries
  | drain =>
    rw [CacheOp.inserted, List.append_nil]; exact .refl _

theorem conserved_run {σ ε : Type} {next : σ → ε → σ × CacheAnswer V} {held : σ → List V} {g : ε → List V}
    (step : ∀ s e, (held s ++ g e).Perm (held (next s e).1 ++ (next s e).2.returned)) : ∀ (es : List ε) (s : σ),
    (held s ++ es.flatMap g).Perm (held (exec (fun s e => (next s e).1) s es) ++
      (trace (fun s e => (next s e).1) (fun s e => some (next s e).2) s es).flatMap (·.returned))
  | [], _ => .refl _
  | e :: es, s => by
    have hr := conserved_run step es (next s e).1; rw [List.flatMap_cons, ← List.append_assoc]
    refine ((step s e).append_right _).trans ?_; rw [List.append_assoc]
    refine (List.perm_append_comm_assoc ..).trans ?_
    refine (hr.append_left _).trans ?_; exact List.perm_append_comm_assoc ..

end Refinement

/-! ## Partitions -/

structure PartitionedRecencyCache (O K V : Type) where
  partitions : AList fun _ : O => RecencyCache K V
  capacityPerPartition : Nat
  positive : 0 < capacityPerPartition

inductive PartitionOp (O K V : Type) where
  | getBy (owner : O) (p : K → Bool)
  | insert (owner : O) (key : K) (value : V)
  | remove (owner : O)
  | drain

namespace PartitionedRecencyCache

variable {O K V : Type} [DecidableEq O] [DecidableEq K]

omit [DecidableEq O] [DecidableEq K] in
def new (capacity : Nat) (positive : 0 < capacity) : PartitionedRecencyCache O K V := ⟨∅, capacity, positive⟩

def getBy (owner : O) (p : K → Bool) (c : PartitionedRecencyCache O K V) : PartitionedRecencyCache O K V × Option V :=
  match c.partitions.lookup owner with
  | none => (c, none)
  | some partition =>
    ({ c with partitions := c.partitions.insert owner (partition.getBy p).1 }, (partition.getBy p).2)

def insert (owner : O) (key : K) (value : V) (c : PartitionedRecencyCache O K V) :
    PartitionedRecencyCache O K V × Option V :=
  let partition := (c.partitions.lookup owner).getD (.new c.capacityPerPartition c.positive)
  ({ c with partitions := c.partitions.insert owner (partition.insert key value).1 }, (partition.insert key value).2)

omit [DecidableEq K] in
def remove (owner : O) (c : PartitionedRecencyCache O K V) : PartitionedRecencyCache O K V × List V :=
  match c.partitions.lookup owner with
  | none => (c, [])
  | some partition => ({ c with partitions := c.partitions.erase owner }, partition.drain.2)

omit [DecidableEq O] [DecidableEq K] in
def drain (order : HashOrder (Σ _ : O, RecencyCache K V)) (c : PartitionedRecencyCache O K V) :
    PartitionedRecencyCache O K V × List V :=
  ({ c with partitions := ∅ }, (order.order c.partitions.entries).flatMap fun e => e.2.drain.2)

def step (order : HashOrder (Σ _ : O, RecencyCache K V)) (c : PartitionedRecencyCache O K V) :
    PartitionOp O K V → PartitionedRecencyCache O K V × CacheAnswer V
  | .getBy owner p => ((c.getBy owner p).1, { found := (c.getBy owner p).2 })
  | .insert owner key value => ((c.insert owner key value).1, { returned := (c.insert owner key value).2.toList })
  | .remove owner => ((c.remove owner).1, { returned := (c.remove owner).2 })
  | .drain => ((c.drain order).1, { returned := (c.drain order).2 })

def run (order : HashOrder (Σ _ : O, RecencyCache K V)) (c : PartitionedRecencyCache O K V) (ops : List (PartitionOp O K V)) :
    PartitionedRecencyCache O K V := exec (fun c op => (c.step order op).1) c ops

def answers (order : HashOrder (Σ _ : O, RecencyCache K V)) (c : PartitionedRecencyCache O K V)
    (ops : List (PartitionOp O K V)) : List (CacheAnswer V) :=
  trace (fun c op => (c.step order op).1) (fun c op => some (c.step order op).2) c ops

omit [DecidableEq K] in
def partition (c : PartitionedRecencyCache O K V) (owner : O) : RecencyCache K V :=
  (c.partitions.lookup owner).getD (.new c.capacityPerPartition c.positive)

omit [DecidableEq O] [DecidableEq K] in
def values (c : PartitionedRecencyCache O K V) : List V := c.partitions.entries.flatMap fun e => e.2.values

end PartitionedRecencyCache

namespace PartitionOp

variable {O K V : Type} [DecidableEq O]

def at? (owner : O) : PartitionOp O K V → Option (CacheOp K V)
  | .getBy o p => if o = owner then some (.getBy p) else none
  | .insert o key value => if o = owner then some (.insert key value) else none
  | .remove o => if o = owner then some .drain else none
  | .drain => some .drain

omit [DecidableEq O] in
/-- The owner an operation names. -/
def owner? : PartitionOp O K V → Option O
  | .getBy owner _ | .insert owner _ _ | .remove owner => some owner
  | .drain => none

omit [DecidableEq O] in
def inserted : PartitionOp O K V → List V
  | .insert _ _ value => [value]
  | .getBy _ _ | .remove _ | .drain => []

end PartitionOp

namespace PartitionedRecencyCache

variable {O K V : Type} [DecidableEq O] [DecidableEq K] (order : HashOrder (Σ _ : O, RecencyCache K V))

omit [DecidableEq K] in
/-- Every partition has the same room. -/
def Uniform (c : PartitionedRecencyCache O K V) : Prop :=
  ∀ owner, (c.partition owner).capacity = c.capacityPerPartition

omit [DecidableEq K] in
theorem partition_insert (c : PartitionedRecencyCache O K V) (owner owner' : O) (cache : RecencyCache K V) :
    ({ c with partitions := c.partitions.insert owner cache } : PartitionedRecencyCache O K V).partition owner' =
      if owner' = owner then cache else c.partition owner' := by
  unfold partition; rw [lookup_insert_eq]
  split <;> rfl

variable {c : PartitionedRecencyCache O K V} {owner : O}

omit [DecidableEq K] in
theorem partition_of_none (h : c.partitions.lookup owner = none) :
    c.partition owner = .new c.capacityPerPartition c.positive := by
  rw [partition, h]; rfl

variable {cache : RecencyCache K V}

omit [DecidableEq K] in
theorem partition_of_some (h : c.partitions.lookup owner = some cache) : c.partition owner = cache := by
  rw [partition, h]; rfl

omit [DecidableEq K] in
theorem drain_partition (h : Uniform c) (owner : O) :
    (c.partition owner).drain.1 = .new c.capacityPerPartition c.positive :=
  RecencyCache.ext rfl (h owner)

theorem partition_getBy (c : PartitionedRecencyCache O K V) (o : O) (p : K → Bool) (owner : O) :
    (c.getBy o p).1.partition owner = (if o = owner then ((c.partition owner).getBy p).1 else c.partition owner) ∧
      (c.getBy o p).2 = ((c.partition o).getBy p).2 := by
  unfold getBy
  cases hk : c.partitions.lookup o with
  | none =>
    refine ⟨?_, by rw [partition_of_none hk]; rfl⟩; dsimp only
    split
    · rename_i heq; rw [← heq, partition_of_none hk]; rfl
    · rfl
  | some cache =>
    refine ⟨?_, by rw [partition_of_some hk]⟩; rw [partition_insert]
    by_cases heq : o = owner
    · rw [if_pos heq.symm, if_pos heq, ← heq, partition_of_some hk]
    · rw [if_neg (Ne.symm heq), if_neg heq]

theorem partition_insertInto (c : PartitionedRecencyCache O K V) (o : O) (key : K) (value : V) (owner : O) :
    (c.insert o key value).1.partition owner =
      if o = owner then ((c.partition owner).insert key value).1 else c.partition owner := by
  unfold insert; dsimp only
  rw [partition_insert]
  by_cases heq : o = owner
  · subst heq
    rw [if_pos rfl, if_pos rfl]; rfl
  · rw [if_neg (Ne.symm heq), if_neg heq]

omit [DecidableEq K] in
theorem partition_remove (h : Uniform c) (o owner : O) :
    (c.remove o).1.partition owner = (if o = owner then (c.partition owner).drain.1 else c.partition owner) ∧
      (c.remove o).2 = (c.partition o).drain.2 := by
  rw [drain_partition h]; unfold remove
  cases hk : c.partitions.lookup o with
  | none =>
    refine ⟨?_, by rw [partition_of_none hk]; rfl⟩; dsimp only
    split
    · rename_i heq; rw [← heq, partition_of_none hk]
    · rfl
  | some cache =>
    refine ⟨?_, by rw [partition_of_some hk]⟩; rw [partition, lookup_erase_eq]
    by_cases heq : o = owner
    · rw [if_pos heq.symm, if_pos heq]; rfl
    · rw [if_neg (Ne.symm heq), if_neg heq]; rfl

theorem step_at {c c' : RecencyCache K V} {o : O} {op : CacheOp K V}
    (hr : c' = if o = owner then (c.step op).1 else c) :
    c' = match (if o = owner then some op else none) with
      | none => c
      | some op' => (c.step op').1 := by
  split at hr
  · rwa [if_pos ‹_›]
  · rwa [if_neg ‹_›]

theorem answer_at {answer : CacheAnswer V} {o : O} {op op' : CacheOp K V}
    (hn : answer = ((c.partition o).step op).2) (ho : some o = some owner)
    (hop : (if o = owner then some op else none) = some op') : answer = ((c.partition owner).step op').2 := by
  cases ho; rw [if_pos rfl] at hop
  cases hop; exact hn

theorem partition_step (hu : Uniform c) (op : PartitionOp O K V) (owner : O) :
    ((c.step order op).1.partition owner = match op.at? owner with
      | none => c.partition owner
      | some op' => ((c.partition owner).step op').1) ∧
      (op.owner? = some owner → ∀ op', op.at? owner = some op' →
        (c.step order op).2 = ((c.partition owner).step op').2) := by
  cases op with
  | getBy o p =>
    obtain ⟨hr, hf⟩ := partition_getBy c o p owner
    exact ⟨step_at hr, fun ho _ => answer_at (by rw [step, hf]; rfl) ho⟩
  | insert o key value =>
    exact ⟨step_at (partition_insertInto c o key value owner), fun ho _ => answer_at rfl ho⟩
  | remove o =>
    obtain ⟨hr, hre⟩ := partition_remove hu o owner
    exact ⟨step_at hr, fun ho _ => answer_at (by rw [step, hre]; rfl) ho⟩
  | drain => exact ⟨(drain_partition hu owner).symm, fun ho => by cases ho⟩

theorem capacityPerPartition_step (c : PartitionedRecencyCache O K V) (op : PartitionOp O K V) :
    (c.step order op).1.capacityPerPartition = c.capacityPerPartition := by
  cases op with
  | getBy owner p => rw [step, getBy]; split <;> rfl
  | insert owner key value => rfl
  | remove owner => rw [step, remove]; split <;> rfl
  | drain => rfl

theorem uniform_step (h : Uniform c) (op : PartitionOp O K V) : Uniform (c.step order op).1 := by
  intro owner
  rw [(partition_step order h op owner).1, capacityPerPartition_step]; split
  · exact h owner
  · rw [capacity_step]; exact h owner

def project (owner : O) (ops : List (PartitionOp O K V)) : List (CacheOp K V) := ops.filterMap (·.at? owner)

theorem partition_run (owner : O) : ∀ (ops : List (PartitionOp O K V)) {c : PartitionedRecencyCache O K V}, Uniform c →
    (c.run order ops).partition owner = (c.partition owner).run (project owner ops) ∧ Uniform (c.run order ops)
  | [], _, h => ⟨rfl, h⟩
  | op :: ops, c, h => by
    obtain ⟨hr, hu⟩ := partition_run owner ops (uniform_step order h op)
    refine ⟨?_, hu⟩; rw [(partition_step order h op owner).1] at hr
    refine hr.trans ?_; unfold project
    rw [List.filterMap_cons]
    cases op.at? owner <;> rfl

/-! ## Conservation -/

omit [DecidableEq K] in
theorem values_insert (c : PartitionedRecencyCache O K V) (owner : O) (cache : RecencyCache K V) :
    ({ c with partitions := c.partitions.insert owner cache } : PartitionedRecencyCache O K V).values =
      cache.values ++ (c.partitions.erase owner).entries.flatMap fun e => e.2.values := rfl

omit [DecidableEq K] in
theorem values_split (owner : O) :
    c.values.Perm ((c.partition owner).values ++ (c.partitions.erase owner).entries.flatMap fun e => e.2.values) := by
  cases hk : c.partitions.lookup owner with
  | none =>
    have he : (c.partitions.erase owner).entries = c.partitions.entries :=
      List.kerase_of_notMem_keys fun h => AList.lookup_eq_none.1 hk (AList.mem_keys.2 h)
    rw [partition_of_none hk, he]; exact .refl _
  | some cache =>
    rw [partition_of_some hk]; exact (perm_entries_erase hk).flatMap_right _

omit [DecidableEq K] in
theorem conserved_insertInto (c : PartitionedRecencyCache O K V) (owner : O) {g returned : List V}
    (h : ((c.partition owner).values ++ g).Perm (cache.values ++ returned)) :
    (c.values ++ g).Perm (({ c with partitions := c.partitions.insert owner cache } :
      PartitionedRecencyCache O K V).values ++ returned) := by
  rw [values_insert]
  refine ((values_split owner).append_right g).trans ?_; rw [List.append_assoc, List.append_assoc]
  refine (List.Perm.append_left _ List.perm_append_comm).trans ?_; rw [← List.append_assoc]
  refine (h.append_right _).trans ?_
  rw [List.append_assoc]; exact List.Perm.append_left _ List.perm_append_comm

theorem conserved_partitions (c : PartitionedRecencyCache O K V) (op : PartitionOp O K V) :
    (c.values ++ op.inserted).Perm ((c.step order op).1.values ++ (c.step order op).2.returned) := by
  cases op with
  | getBy owner p =>
    rw [PartitionOp.inserted, step, getBy]; split
    · exact .refl _
    rename_i cache hk
    refine conserved_insertInto c owner ?_
    rw [partition_of_some hk]; exact conserved_step cache (.getBy p)
  | insert owner key value => exact conserved_insertInto c owner (conserved_step _ (.insert key value))
  | remove owner =>
    rw [PartitionOp.inserted, List.append_nil, step, remove]; split
    · rw [List.append_nil]
    rename_i cache hk
    refine (values_split owner).trans (List.perm_append_comm.trans ?_)
    rw [partition_of_some hk]; exact .refl _
  | drain =>
    rw [PartitionOp.inserted, List.append_nil]; exact ((order.perm _).flatMap_right _).symm

end PartitionedRecencyCache

/-- For every run of a cache and of a partitioned one: the entries are the slots of a store of the same room that
evicts the least recently used, with the same answers; an owner's cache is what its own operations make of it, with
their answers; and what was inserted is either cached or was returned once. -/
theorem recency_cache_refines_lru {K V : Type} [DecidableEq K] (capacity : Nat) (positive : 0 < capacity) :
    (∀ ops : List (CacheOp K V),
      Represents (recencyReference capacity ops) ((RecencyCache.new capacity positive).run ops).entries ∧
        List.Forall₂ Agree ((RecencyCache.new capacity positive).answers ops) (referenceAnswers capacity ops) ∧
        (((RecencyCache.new capacity positive).run ops).entries.map (·.key)).Nodup ∧
        ((RecencyCache.new capacity positive).run ops).entries.length ≤ capacity ∧
        (ops.flatMap CacheOp.inserted).Perm (((RecencyCache.new capacity positive).run ops).values ++
          ((RecencyCache.new capacity positive).answers ops).flatMap (·.returned))) ∧
      ∀ (O : Type) [DecidableEq O] (order : HashOrder (Σ _ : O, RecencyCache K V)) (ops : List (PartitionOp O K V)),
        (∀ owner, ((PartitionedRecencyCache.new capacity positive).run order ops).partition owner =
          (RecencyCache.new capacity positive).run (PartitionedRecencyCache.project owner ops)) ∧
        (∀ owner op op', op.owner? = some owner → op.at? owner = some op' →
          (((PartitionedRecencyCache.new capacity positive).run order ops).step order op).2 =
            (((RecencyCache.new capacity positive).run (PartitionedRecencyCache.project owner ops)).step op').2) ∧
        (ops.flatMap PartitionOp.inserted).Perm (((PartitionedRecencyCache.new capacity positive).run order ops).values ++
          ((PartitionedRecencyCache.new capacity positive).answers order ops).flatMap (·.returned)) := by
  constructor
  · intro ops
    obtain ⟨hrep, hans⟩ := represents_run ops (s := Lru.empty)
      (c := (RecencyCache.new capacity positive : RecencyCache K V)) ⟨[], Lru.ordered_empty, rfl⟩
    have hval := ((RecencyCache.new capacity positive).run ops).valid
    have hcap : ((RecencyCache.new capacity positive).run ops).capacity = capacity :=
      exec_invariant (I := fun c : RecencyCache K V => c.capacity = capacity)
        (fun c op h => (capacity_step c op).trans h) ops rfl
    rw [hcap] at hval
    exact ⟨hrep, hans, hval.nodup, hval.bounded, conserved_run conserved_step ops (.new capacity positive)⟩
  · intro O _ order ops
    have hrun := fun owner => PartitionedRecencyCache.partition_run order owner ops
      (c := (PartitionedRecencyCache.new capacity positive : PartitionedRecencyCache O K V)) fun _ => rfl
    refine ⟨fun owner => (hrun owner).1, fun owner op op' howner hop => ?_,
      conserved_run (PartitionedRecencyCache.conserved_partitions order) ops (.new capacity positive)⟩
    rw [(PartitionedRecencyCache.partition_step order (hrun owner).2 op owner).2 howner op' hop, (hrun owner).1]
    rfl

/-- In a cache for two, the third key evicts the one that was not looked up again. -/
def thirdBinding : List (CacheOp Nat String) := [.insert 1 "a", .insert 2 "b", .getBy (· = 1), .insert 3 "c"]

theorem third_binding_evicts_second :
    ((RecencyCache.new 2 (by decide)).run thirdBinding).values = ["a", "c"] ∧
      (["a", "b", "c"] : List String).Perm (((RecencyCache.new 2 (by decide)).run thirdBinding).values ++
        ((RecencyCache.new 2 (by decide)).answers thirdBinding).flatMap (·.returned)) :=
  ⟨rfl, ((recency_cache_refines_lru 2 (by decide)).1 thirdBinding).2.2.2.2⟩

end Deniald.Flutter
