/-
Keyed collections. Maps kept as lists of entries with distinct keys (`AList`), whose order is an
iteration order: every value transformed in place, and the first entry found with a property. Lists
of records looked up by a key, with the first match changed in place.
-/
import Mathlib.Data.List.AList

namespace Deniald.Lib

/-! ## Association lists -/

/-- An order to iterate over a map's entries in, which its contents do not determine (`HashMap`). -/
structure HashOrder (α : Type) where
  order : List α → List α
  perm : ∀ l, (order l).Perm l

def HashOrder.asKept (α : Type) : HashOrder α := ⟨id, fun _ => .refl _⟩

section Maps

variable {α β : Type}

/-- Every value transformed in place (`values_mut`). -/
def mapValues (f : β → β) (s : AList fun _ : α => β) : AList fun _ : α => β where
  entries := s.entries.map fun e => ⟨e.1, f e.2⟩
  nodupKeys := by
    unfold List.NodupKeys List.keys
    rw [List.map_map]; exact s.nodupKeys

/-- The entries whose value is kept (`retain`). -/
def retainValues (p : β → Bool) (s : AList fun _ : α => β) : AList fun _ : α => β where
  entries := s.entries.filter fun e => p e.2
  nodupKeys := s.nodupKeys.sublist List.filter_sublist

/-- The entries whose key is kept (`retain`). -/
def retainKeys (p : α → Bool) (s : AList fun _ : α => β) : AList fun _ : α => β where
  entries := s.entries.filter fun e => p e.1
  nodupKeys := s.nodupKeys.sublist List.filter_sublist

variable [DecidableEq α]

variable {k : α} {p : (Σ _ : α, β) → Bool}

theorem lookup_retainKeys {p : α → Bool} {s : AList fun _ : α => β} {v : β} :
    (retainKeys p s).lookup k = some v ↔ s.lookup k = some v ∧ p k = true := by
  constructor
  · intro h
    obtain ⟨hmem, hp⟩ := List.mem_filter.1 (AList.mem_lookup_iff.1 h); exact ⟨AList.mem_lookup_iff.2 hmem, hp⟩
  · rintro ⟨hk, hp⟩
    exact AList.mem_lookup_iff.2 (List.mem_filter.2 ⟨AList.mem_lookup_iff.1 hk, hp⟩)

@[simp] theorem lookup_retainValues (p : β → Bool) (s : AList fun _ : α => β) (k : α) :
    (retainValues p s).lookup k = (s.lookup k).filter p := by
  ext v; rw [Option.filter_eq_some_iff]
  constructor
  · intro h
    obtain ⟨hmem, hp⟩ := List.mem_filter.1 (AList.mem_lookup_iff.1 h); exact ⟨AList.mem_lookup_iff.2 hmem, hp⟩
  · rintro ⟨hk, hp⟩
    exact AList.mem_lookup_iff.2 (List.mem_filter.2 ⟨AList.mem_lookup_iff.1 hk, hp⟩)

theorem dlookup_map_values (f : β → β) (k : α) : ∀ l : List (Σ _ : α, β),
    (l.map fun e => (⟨e.1, f e.2⟩ : Σ _ : α, β)).dlookup k = (l.dlookup k).map f
  | [] => rfl
  | ⟨k', v⟩ :: l => by
    rw [List.map_cons]
    by_cases h : k = k'
    · subst h; rw [List.dlookup_cons_eq, List.dlookup_cons_eq]; rfl
    · rw [List.dlookup_cons_ne _ _ h, List.dlookup_cons_ne _ _ h, dlookup_map_values f k l]

@[simp] theorem lookup_mapValues (f : β → β) (s : AList fun _ : α => β) (k : α) :
    (mapValues f s).lookup k = (s.lookup k).map f :=
  dlookup_map_values f k s.entries

theorem lookup_of_find? {s : AList fun _ : α => β} {e : Σ _ : α, β} (h : s.entries.find? p = some e) :
    s.lookup e.1 = some e.2 ∧ p e = true :=
  ⟨AList.mem_lookup_iff.2 (List.mem_of_find?_eq_some h), List.find?_some h⟩

theorem not_of_find?_none {s : AList fun _ : α => β} (h : s.entries.find? p = none) {v : β} (hk : s.lookup k = some v) :
    p ⟨k, v⟩ = false := by
  have := List.find?_eq_none.1 h ⟨k, v⟩ (AList.mem_lookup_iff.1 hk)
  simpa using this

theorem lookup_insert_eq (s : AList fun _ : α => β) (k k' : α) (v : β) :
    (s.insert k v).lookup k' = if k' = k then some v else s.lookup k' := by
  split
  · rename_i h; subst h; exact AList.lookup_insert s
  · rename_i h; exact AList.lookup_insert_ne h

theorem lookup_erase_eq (s : AList fun _ : α => β) (k k' : α) :
    (s.erase k).lookup k' = if k' = k then none else s.lookup k' := by
  split
  · rename_i h; subst h; exact AList.lookup_erase ..
  · rename_i h; exact AList.lookup_erase_ne h

theorem perm_entries_erase {s : AList fun _ : α => β} {v : β} (h : s.lookup k = some v) :
    s.entries.Perm (⟨k, v⟩ :: (s.erase k).entries) := by
  have hmem : k ∈ s.entries.keys := List.mem_keys_of_mem (AList.mem_lookup_iff.1 h)
  obtain ⟨v', before, after, hf, he, hs⟩ := List.exists_of_kerase hmem
  have hk : s.lookup k = some v' := by
    refine AList.mem_lookup_iff.2 ?_; rw [he]
    exact List.mem_append_right _ (List.mem_cons_self ..)
  obtain rfl : v = v' := Option.some.inj (h.symm.trans hk)
  have hr : (s.erase k).entries = before ++ after := hs
  rw [he, hr]; exact List.perm_middle

theorem keys_insert_of_isSome {s : AList fun _ : α => β} (v : β) (h : (s.lookup k).isSome = true) :
    (s.insert k v).keys.Perm s.keys := by
  rw [AList.keys_insert]
  exact (List.perm_cons_erase (AList.mem_keys.1 (AList.lookup_isSome.1 h))).symm

theorem keys_insert_of_none {s : AList fun _ : α => β} (v : β) (h : s.lookup k = none) :
    (s.insert k v).keys = k :: s.keys := by
  rw [AList.keys_insert, List.erase_of_not_mem fun hmem => AList.lookup_eq_none.1 h (AList.mem_keys.2 hmem)]

theorem mem_keys_iff {s : AList fun _ : α => β} : k ∈ s.keys ↔ (s.lookup k).isSome = true := by
  rw [AList.lookup_isSome, AList.mem_keys]

omit [DecidableEq α] in
theorem length_entries (s : AList fun _ : α => β) : s.entries.length = s.keys.length := (List.length_map _).symm

end Maps

/-! ## First matches -/

/-- The first entry with a property changed in place (`iter_mut().find(..)`). -/
def modifyFirst {α : Type} (p : α → Bool) (f : α → α) : List α → List α
  | [] => []
  | a :: l => if p a then f a :: l else a :: modifyFirst p f l

/-- The first entry with a property and its position (`iter().position(..)`). -/
def findEntry {α : Type} (p : α → Bool) (l : List α) : Option (Nat × α) :=
  (l.zipIdx.find? fun e => p e.1).map fun e => (e.2, e.1)

section FirstMatch

variable {α κ : Type} [DecidableEq κ] {key : α → κ} {f : α → α} {p : α → Bool}

variable {l : List α}

theorem findEntry_some {i : Nat} {a : α} (h : findEntry p l = some (i, a)) : l[i]? = some a ∧ p a = true := by
  obtain ⟨e, he, heq⟩ := Option.map_eq_some_iff.1 h
  obtain ⟨rfl, rfl⟩ := Prod.mk.inj heq
  refine ⟨List.mem_zipIdx_iff_getElem?.1 (List.mem_of_find?_eq_some he), ?_⟩
  have := List.find?_some he
  exact this

theorem findEntry_none (h : findEntry p l = none) {i : Nat} {a : α} (ha : l[i]? = some a) : p a = false := by
  have := List.find?_eq_none.1 (Option.map_eq_none_iff.1 h) (a, i) (List.mem_zipIdx_iff_getElem?.2 ha)
  simpa using this

theorem modifyFirst_of_none : ∀ {l : List α}, l.find? p = none → modifyFirst p f l = l
  | [], _ => rfl
  | a :: l, h => by
    obtain ⟨ha, hl⟩ := List.forall_mem_cons.1 (List.find?_eq_none.1 h); unfold modifyFirst
    rw [if_neg ha, modifyFirst_of_none (List.find?_eq_none.2 hl)]

theorem map_modifyFirst {β : Type} (g : α → β) (hf : ∀ a, g (f a) = g a) : ∀ l : List α,
    (modifyFirst p f l).map g = l.map g
  | [] => rfl
  | a :: l => by
    unfold modifyFirst; split
    · rw [List.map_cons, hf, List.map_cons]
    · rw [List.map_cons, map_modifyFirst g hf l, List.map_cons]

theorem mem_modifyFirst {b : α} : ∀ {l : List α}, b ∈ modifyFirst p f l → b ∈ l ∨ ∃ a ∈ l, p a = true ∧ b = f a
  | a :: l, h => by
    unfold modifyFirst at h; split at h
    · rename_i hp
      rcases List.mem_cons.1 h with rfl | h
      · exact .inr ⟨a, List.mem_cons_self .., hp, rfl⟩
      · exact .inl (List.mem_cons_of_mem _ h)
    rcases List.mem_cons.1 h with rfl | h
    · exact .inl (List.mem_cons_self ..)
    rcases mem_modifyFirst h with h | ⟨c, hc, hp, rfl⟩
    · exact .inl (List.mem_cons_of_mem _ h)
    · exact .inr ⟨c, List.mem_cons_of_mem _ hc, hp, rfl⟩

theorem mem_or_modified {a : α} : ∀ {l : List α}, a ∈ l → a ∈ modifyFirst p f l ∨ p a = true ∧ f a ∈ modifyFirst p f l
  | b :: l, h => by
    unfold modifyFirst; split
    · rename_i hp
      rcases List.mem_cons.1 h with rfl | h
      · exact .inr ⟨hp, List.mem_cons_self ..⟩
      · exact .inl (List.mem_cons_of_mem _ h)
    rcases List.mem_cons.1 h with rfl | h
    · exact .inl (List.mem_cons_self ..)
    rcases mem_or_modified h with h | ⟨ha, h⟩
    · exact .inl (List.mem_cons_of_mem _ h)
    · exact .inr ⟨ha, List.mem_cons_of_mem _ h⟩

@[simp] theorem length_modifyFirst : ∀ l : List α, (modifyFirst p f l).length = l.length
  | [] => rfl
  | a :: l => by
    unfold modifyFirst; split
    · rfl
    · rw [List.length_cons, length_modifyFirst l, List.length_cons]

theorem nodup_modifyFirst {β : Type} {g : α → β} : ∀ {l : List α}, (l.map g).Nodup → (∀ a, g (f a) ∉ l.map g) →
    ((modifyFirst p f l).map g).Nodup
  | [], _, _ => List.nodup_nil
  | a :: l, hn, hf => by
    obtain ⟨ha, hr⟩ := List.nodup_cons.1 hn; unfold modifyFirst
    split
    · refine List.nodup_cons.2 ⟨fun hmem => hf a ?_, hr⟩
      rw [List.map_cons]; exact List.mem_cons_of_mem _ hmem
    refine List.nodup_cons.2 ⟨fun hmem => ?_, nodup_modifyFirst hr fun b hmem => hf b ?_⟩
    · obtain ⟨b, hb, hs⟩ := List.mem_map.1 hmem
      rcases mem_modifyFirst hb with hb | ⟨c, -, -, rfl⟩
      · exact ha (List.mem_map.2 ⟨b, hb, hs⟩)
      · refine hf c ?_
        rw [List.map_cons, hs]; exact List.mem_cons_self ..
    · rw [List.map_cons]; exact List.mem_cons_of_mem _ hmem

theorem modifyFirst_ne {β : Type} {g : α → β} {k : β} (hp : ∀ a, p a = true → g a = k) (hf : ∀ a, g (f a) ≠ k) :
    ∀ {l : List α}, (l.map g).Nodup → (∃ a ∈ l, p a = true) → ∀ b ∈ modifyFirst p f l, g b ≠ k
  | a :: l, hn, ⟨c, hc, hpc⟩, b, hb => by
    obtain ⟨ha, hr⟩ := List.nodup_cons.1 hn; unfold modifyFirst at hb
    split at hb
    · rename_i hpa
      rcases List.mem_cons.1 hb with rfl | hb
      · exact hf a
      · exact fun hk => ha (List.mem_map.2 ⟨b, hb, hk.trans (hp a hpa).symm⟩)
    rename_i hpa
    have hcl : c ∈ l := by
      rcases List.mem_cons.1 hc with rfl | hc
      · exact absurd hpc hpa
      · exact hc
    rcases List.mem_cons.1 hb with rfl | hb
    · exact fun hk => ha (List.mem_map.2 ⟨c, hcl, (hp c hpc).trans hk.symm⟩)
    · exact modifyFirst_ne hp hf hr ⟨c, hcl, hpc⟩ b hb

theorem find?_modifyFirst_key (hf : ∀ a, key (f a) = key a) (k k' : κ) : ∀ l : List α,
    (modifyFirst (fun a => key a = k) f l).find? (fun a => key a = k') =
      if k' = k then (l.find? fun a => key a = k).map f else l.find? fun a => key a = k'
  | [] => by simp [modifyFirst]
  | a :: l => by
    have ih := find?_modifyFirst_key hf k k' l; unfold modifyFirst
    by_cases ha : key a = k
    · subst ha
      simp only [decide_true, if_true, List.find?_cons, hf]
      by_cases hk : k' = key a
      · subst hk; simp
      · simp [hk, Ne.symm hk]
    · simp only [ha, decide_false, Bool.false_eq_true, if_false, List.find?_cons]
      by_cases hk : key a = k'
      · subst hk; simp [ha]
      · simp only [hk, decide_false]; exact ih

theorem modifyFirst_eq_map (k : κ) : ∀ {l : List α}, (l.map key).Nodup →
    modifyFirst (fun a => key a = k) f l = l.map fun a => if key a = k then f a else a
  | [], _ => rfl
  | a :: l, hn => by
    obtain ⟨ha, hn⟩ := List.nodup_cons.1 hn; unfold modifyFirst
    rw [List.map_cons]
    by_cases hk : key a = k
    · have hr : ∀ b ∈ l, key b ≠ k := fun b hb h => ha (by rw [hk, ← h]; exact List.mem_map_of_mem hb)
      rw [if_pos (decide_eq_true hk), if_pos hk, List.map_congr_left fun b hb => if_neg (hr b hb), List.map_id']
    · rw [if_neg (by simpa using hk), if_neg hk, modifyFirst_eq_map k hn]

theorem modifyFirst_eq_map_of {k : κ} (hp : ∀ a, p a = true → key a = k) : ∀ {l : List α}, (l.map key).Nodup →
    modifyFirst p f l = l.map fun a => if p a then f a else a
  | [], _ => rfl
  | a :: l, hn => by
    obtain ⟨ha, hn⟩ := List.nodup_cons.1 hn; unfold modifyFirst
    rw [List.map_cons]; split
    · rename_i hpa
      have hr : ∀ b ∈ l, ¬p b = true := fun b hb h =>
        ha (by rw [hp a hpa, ← hp b h]; exact List.mem_map_of_mem hb)
      rw [List.map_congr_left fun b hb => if_neg (hr b hb), List.map_id']
    · rw [modifyFirst_eq_map_of hp hn]

theorem find?_map_key (hf : ∀ a, key (f a) = key a) (k : κ) : ∀ l : List α,
    (l.map f).find? (fun a => key a = k) = (l.find? fun a => key a = k).map f
  | [] => rfl
  | a :: l => by
    simp only [List.map_cons, List.find?_cons, hf]
    by_cases hk : key a = k
    · simp [hk]
    · simp only [hk, decide_false]; exact find?_map_key hf k l

theorem find?_map_of_map_eq {β γ : Type} {value : α → γ} {key' : β → κ} {value' : β → γ} {m : List β}
    (h : (l.map fun a => (key a, value a)) = m.map fun b => (key' b, value' b)) (k : κ) :
    (l.find? fun a => key a = k).map value = (m.find? fun b => key' b = k).map value' := by
  have hf : ((l.map fun a => (key a, value a)).find? fun e => e.1 = k).map Prod.snd =
      ((m.map fun b => (key' b, value' b)).find? fun e => e.1 = k).map Prod.snd := by rw [h]
  simpa [Function.comp_def] using hf

theorem find?_of_mem {a : α} (hn : (l.map key).Nodup) (ha : a ∈ l) : l.find? (fun b => key b = key a) = some a := by
  cases hf : l.find? fun b => key b = key a with
  | none => have := List.find?_eq_none.1 hf a ha; simp at this
  | some b =>
    have hb : key b = key a := by simpa using List.find?_some hf
    exact congrArg some (List.inj_on_of_nodup_map hn (List.mem_of_find?_eq_some hf) ha hb)

end FirstMatch

end Deniald.Lib
