/-
Streams judged by an automaton (`reads`), the records it passes over without moving (`Idle`), and a bounded queue before
the reader of a stream: it keeps the latest of the replaceable records of each device, and a full queue gives up a
replaceable record before any other. What the reader makes of the stream does not change by that (`reads_pushBounded`),
as long as the queue is not full of records that cannot be replaced.
-/

namespace Deniald.Lib

universe u v w

/-! ## Readers -/

section Reader

variable {σ : Type u} {α : Type v} {step : σ → α → Option σ}

variable (step) in
/-- Where a stream leaves its reader, unless one of its records is refused. -/
def reads (s : σ) (l : List α) : Option σ := l.foldlM step s

@[simp] theorem reads_nil (s : σ) : reads step s [] = some s := rfl

@[simp] theorem reads_cons (s : σ) (a : α) (l : List α) : reads step s (a :: l) = (step s a).bind (reads step · l) := by
  unfold reads
  rw [List.foldlM_cons]; rfl

theorem reads_append (s : σ) (l m : List α) : reads step s (l ++ m) = (reads step s l).bind (reads step · m) := by
  unfold reads
  rw [List.foldlM_append]; rfl

theorem reads_append_some {s s' : σ} {l m : List α} :
    reads step s (l ++ m) = some s' ↔ ∃ t, reads step s l = some t ∧ reads step t m = some s' := by
  rw [reads_append, Option.bind_eq_some_iff]

theorem reads_concat {s t : σ} {l : List α} {a : α} (h : reads step s l = some t) :
    reads step s (l ++ [a]) = step t a := by
  rw [reads_append, h]; simp

variable (step) in
/-- A record that leaves its reader where it is. -/
def Idle (a : α) : Prop := ∀ s s', step s a = some s' → s' = s

theorem reads_without {s s' : σ} {l m : List α} {a : α} (ha : Idle step a)
    (h : reads step s (l ++ a :: m) = some s') : reads step s (l ++ m) = some s' := by
  obtain ⟨t, hl, hm⟩ := reads_append_some.1 h; rw [reads_cons, Option.bind_eq_some_iff] at hm
  obtain ⟨t', hstep, hm⟩ := hm
  obtain rfl := ha _ _ hstep; exact reads_append_some.2 ⟨_, hl, hm⟩

end Reader

/-! ## The bounded queue -/

section Queue

variable {σ : Type u} {α : Type v} {δ : Type w} [DecidableEq δ] (device : α → Option δ)

/-- The device's record in the replaceable tail of the queue. -/
def replaceIndex (events : List α) (d : δ) : Option Nat :=
  ((events.zipIdx.reverse.takeWhile fun queued => (device queued.1).isSome).find?
    fun queued => device queued.1 = some d).map (·.2)

def pushFull (events : List α) (event : α) (capacity : Nat) : List α :=
  if capacity ≤ events.length then
    match events.findIdx? fun queued => (device queued).isSome with
    | some index => events.eraseIdx index ++ [event]
    | none =>
      -- nothing queued can be replaced: a record that can is dropped, any other displaces the oldest
      if (device event).isSome then events else events.tail ++ [event]
  else events ++ [event]

def pushBounded (events : List α) (event : α) (capacity : Nat) : List α :=
  if capacity = 0 then events
  else
    match (device event).bind (replaceIndex device events) with
    | some index => events.eraseIdx index ++ [event]
    | none => pushFull device events event capacity

variable {device}

/-- One replaceable record is left out. -/
def Without (device : α → Option δ) (l m : List α) : Prop :=
  ∃ before a after, (device a).isSome ∧ l = before ++ a :: after ∧ m = before ++ after

variable {events l : List α} {capacity : Nat}

omit [DecidableEq δ] in
theorem without_eraseIdx {i : Nat} {a : α} (h : l[i]? = some a) (ha : (device a).isSome) :
    Without device l (l.eraseIdx i) := by
  obtain ⟨hi, rfl⟩ := List.getElem?_eq_some_iff.1 h
  refine ⟨l.take i, l[i], l.drop (i + 1), ha, ?_, List.eraseIdx_eq_take_drop_succ l i⟩
  rw [List.getElem_cons_drop, List.take_append_drop]

theorem without_replaceIndex {d : δ} {i : Nat} (h : replaceIndex device l d = some i) :
    Without device l (l.eraseIdx i) := by
  obtain ⟨queued, hf, rfl⟩ := Option.map_eq_some_iff.1 h
  have hmem := (List.takeWhile_subset _) (List.mem_of_find?_eq_some hf)
  have hd : device queued.1 = some d := by simpa using List.find?_some hf
  refine without_eraseIdx (List.mem_zipIdx_iff_getElem?.1 (List.mem_reverse.1 hmem)) ?_
  rw [hd]; rfl

omit [DecidableEq δ] in
theorem without_findIdx {i : Nat} (h : (l.findIdx? fun queued => (device queued).isSome) = some i) :
    Without device l (l.eraseIdx i) := by
  obtain ⟨hi, ha, -⟩ := List.findIdx?_eq_some_iff_getElem.1 h
  exact without_eraseIdx (List.getElem?_eq_getElem hi) ha

/-- The records that cannot be replaced. -/
def fixed (device : α → Option δ) (l : List α) : Nat := l.countP fun queued => (device queued).isNone

omit [DecidableEq δ] in
theorem fixed_without {m : List α} (h : Without device l m) : fixed device m = fixed device l := by
  obtain ⟨before, a, after, ha, rfl, rfl⟩ := h
  have hf : (device a).isNone = false := by rw [← Option.not_isSome, ha]; rfl
  simp [fixed, hf]

theorem pushBounded_cases (ev : α) (hr : fixed device events < capacity) :
    pushBounded device events ev capacity = events ++ [ev] ∨
      (∃ kept, Without device events kept ∧ pushBounded device events ev capacity = kept ++ [ev]) ∨
      ((device ev).isSome ∧ pushBounded device events ev capacity = events) := by
  unfold pushBounded; rw [if_neg (by omega)]
  split
  · rename_i index hn
    obtain ⟨d, -, hn⟩ := Option.bind_eq_some_iff.1 hn
    exact .inr (.inl ⟨_, without_replaceIndex hn, rfl⟩)
  unfold pushFull; split
  · rename_i hf; split
    · rename_i index hn; exact .inr (.inl ⟨_, without_findIdx hn, rfl⟩)
    · rename_i hno; split
      · rename_i he; exact .inr (.inr ⟨he, rfl⟩)
      · -- a queue without replaceable records holds as many fixed ones as it is long
        have hal : fixed device events = events.length := by
          refine List.countP_eq_length.2 fun queued hd => ?_
          have := List.findIdx?_eq_none_iff.1 hno queued hd
          rw [Option.isNone_iff_eq_none, ← Option.not_isSome_iff_eq_none, this]; simp
        omega
  · exact .inl rfl

theorem fixed_pushBounded_le (ev : α) (hr : fixed device events < capacity) :
    fixed device (pushBounded device events ev capacity) ≤ fixed device events + 1 := by
  have ho : fixed device [ev] ≤ 1 := List.countP_le_length
  have hs : ∀ kept, fixed device (kept ++ [ev]) = fixed device kept + fixed device [ev] := fun kept =>
    List.countP_append
  rcases pushBounded_cases ev hr with h | ⟨kept, hk, h⟩ | ⟨-, h⟩
  · rw [h, hs]; omega
  · rw [h, hs, fixed_without hk]; omega
  · rw [h]; omega

variable {step : σ → α → Option σ}

theorem reads_pushBounded (hd : ∀ a, (device a).isSome → Idle step a) {s s' : σ} {seen : List α} {ev : α}
    (hr : fixed device events < capacity) (h : reads step s (seen ++ events ++ [ev]) = some s') :
    reads step s (seen ++ pushBounded device events ev capacity) = some s' := by
  rcases pushBounded_cases ev hr with hs | ⟨kept, ⟨before, a, after, ha, rfl, rfl⟩, hs⟩ |
    ⟨he, hs⟩
  · rw [hs, ← List.append_assoc]; exact h
  · rw [hs]
    have h' : reads step s ((seen ++ before) ++ a :: (after ++ [ev])) = some s' := by
      simpa [List.append_assoc] using h
    have := reads_without (hd a ha) h'
    simpa [List.append_assoc] using this
  · rw [hs]
    have := reads_without (m := []) (hd ev he) h
    rwa [List.append_nil] at this

theorem reads_pushAll (hd : ∀ a, (device a).isSome → Idle step a) {s : σ} {seen : List α} :
    ∀ {recs events : List α} {s' : σ}, fixed device events + recs.length ≤ capacity →
      reads step s (seen ++ events ++ recs) = some s' →
      reads step s (seen ++ recs.foldl (fun events event => pushBounded device events event capacity) events) = some
      s'
  | [], events, s', _, h => by
    rw [List.append_nil] at h; exact h
  | record :: recs, events, s', hr, h => by
    rw [List.length_cons] at hr
    have h : reads step s ((seen ++ events ++ [record]) ++ recs) = some s' := by
      rw [List.append_assoc, List.singleton_append]; exact h
    obtain ⟨t, hf, hre⟩ := reads_append_some.1 h
    have hlt : fixed device events < capacity := by omega
    have hs := reads_pushBounded hd hlt hf
    have hfi := fixed_pushBounded_le record hlt
    have hn := reads_append_some.2 ⟨t, hs, hre⟩
    rw [List.foldl_cons]; exact reads_pushAll hd (by omega) hn

end Queue

end Deniald.Lib
