/-
Updates that are prepared against a store and committed later, with revisions: a commit succeeds as it may, and what
each prepared update was prepared from is remembered. Where every committed update follows the revision it is committed
to, it was prepared from the very state it is committed to.
-/
import Deniald.Lib.Run

namespace Deniald.Lib

/-- A store with a state in memory and a file, prepared updates and errors. Requests are answered by a prepared update;
`I` is what the environment makes of a commit. -/
structure UpdateStore (M F P R I E : Type) where
  prepare : M → R → Except E P
  commit : M → F → I → P → (M × F) × Except E Unit
  revision : M → Nat
  revisionOf : P → Nat
  prepare_revision : ∀ {m r p}, prepare m r = .ok p → revisionOf p = revision m + 1
  commit_ok : ∀ {m f i p}, (commit m f i p).2 = .ok () → revision (commit m f i p).1.1 = revisionOf p
  commit_error : ∀ {m f i p e}, (commit m f i p).2 = .error e → (commit m f i p).1 = (m, f)

inductive UpdateEvent (F R I : Type) where
  | prepare (request : R)
  | commit (index : Nat) (io : I)
  | discard (index : Nat)
  /-- Something else writes the file. -/
  | external (file : F)

structure UpdateSession (M F P : Type) where
  memory : M
  file : F
  prepared : List (P × M) := []

namespace UpdateStore

variable {M F P R I E : Type} (store : UpdateStore M F P R I E)

def start (memory : M) (file : F) : UpdateSession M F P := { memory, file }

def next (s : UpdateSession M F P) : UpdateEvent F R I → UpdateSession M F P
  | .prepare request =>
    match store.prepare s.memory request with
    | .ok update => { s with prepared := s.prepared ++ [(update, s.memory)] }
    | .error _ => s
  | .commit index io =>
    match s.prepared[index]? with
    | none => s
    | some (update, _) =>
      let (memory, file) := (store.commit s.memory s.file io update).1
      { memory, file, prepared := s.prepared.eraseIdx index }
  | .discard index => { s with prepared := s.prepared.eraseIdx index }
  | .external file => { s with file }

def committed (s : UpdateSession M F P) : UpdateEvent F R I → Option (P × M)
  | .commit index io => s.prepared[index]?.filter fun (update, _) =>
      (store.commit s.memory s.file io update).2.isOk
  | _ => none

def Follows (s : UpdateSession M F P) (e : UpdateEvent F R I) : Prop :=
  ∀ update base, store.committed s e = some (update, base) → store.revisionOf update = store.revision s.memory + 1

/-- A committed update was prepared from the state it is committed to, and the revision is raised. -/
def FromCurrent (s : UpdateSession M F P) (e : UpdateEvent F R I) : Prop :=
  ∀ update base, store.committed s e = some (update, base) →
    base = s.memory ∧ store.revision s.memory < store.revision (store.next s e).memory

/-- What commits nothing leaves the memory, and the file unless something else writes it. -/
def Keeps (s : UpdateSession M F P) (e : UpdateEvent F R I) : Prop :=
  store.committed s e = none →
    (store.next s e).memory = s.memory ∧ ((∀ file, e ≠ .external file) → (store.next s e).file = s.file)

variable {s : UpdateSession M F P} {e : UpdateEvent F R I}

theorem committed_iff {update : P} {base : M} :
    store.committed s e = some (update, base) ↔ ∃ index io, e = .commit index io ∧
      s.prepared[index]? = some (update, base) ∧ (store.commit s.memory s.file io update).2 = .ok () := by
  constructor
  · intro h
    cases e with
    | commit index io =>
      obtain ⟨hge, hok⟩ := Option.filter_eq_some_iff.1 h
      refine ⟨index, io, rfl, hge, ?_⟩; dsimp only at hok
      cases hr : (store.commit s.memory s.file io update).2 with
      | ok => rfl
      | error =>
        rw [hr] at hok; cases hok
    | prepare | discard | external => cases h
  · rintro ⟨index, io, rfl, hge, hok⟩
    refine Option.filter_eq_some_iff.2 ⟨hge, ?_⟩; dsimp only
    rw [hok]; rfl

theorem keeps_step (s : UpdateSession M F P) (e : UpdateEvent F R I) : store.Keeps s e := by
  intro hn
  cases e with
  | prepare request =>
    unfold next; dsimp only
    split <;> exact ⟨rfl, fun _ => rfl⟩
  | commit index io =>
    unfold next; dsimp only
    split
    · exact ⟨rfl, fun _ => rfl⟩
    rename_i update base hge
    cases hr : (store.commit s.memory s.file io update).2 with
    | ok =>
      rw [store.committed_iff.2 ⟨index, io, rfl, hge, hr⟩] at hn; cases hn
    | error error =>
      have hs := store.commit_error hr
      exact ⟨congrArg Prod.fst hs, fun _ => congrArg Prod.snd hs⟩
  | discard index => exact ⟨rfl, fun _ => rfl⟩
  | external file => exact ⟨rfl, fun h => absurd rfl (h file)⟩

theorem keeps_run (s : UpdateSession M F P) : ∀ es : List (UpdateEvent F R I), Along store.next store.Keeps s es
  | [] => trivial
  | e :: es => ⟨store.keeps_step s e, keeps_run (store.next s e) es⟩

/-! ## Prepared updates -/

def Numbered (s : UpdateSession M F P) : Prop :=
  ∀ entry ∈ s.prepared, store.revisionOf entry.1 = store.revision entry.2 + 1

/-- The bases are states of the past, told apart from the present by their revisions. -/
def Past (s : UpdateSession M F P) : Prop :=
  ∀ entry ∈ s.prepared, store.revision entry.2 ≤ store.revision s.memory ∧
    (store.revision entry.2 = store.revision s.memory → entry.2 = s.memory)

theorem mem_prepared_next {ent : P × M} (h : ent ∈ (store.next s e).prepared) : ent ∈ s.prepared ∨
      ent.2 = s.memory ∧ (store.next s e).memory = s.memory ∧ ∃ request, store.prepare s.memory request = .ok ent.1 := by
  cases e with
  | prepare request =>
    unfold next at h ⊢
    dsimp only at h ⊢; split at h
    · rename_i update hr
      rcases List.mem_append.1 h with h | h
      · exact .inl h
      · obtain rfl := List.mem_singleton.1 h; exact .inr ⟨rfl, rfl, request, hr⟩
    · exact .inl h
  | commit index io =>
    unfold next at h; dsimp only at h
    split at h
    · exact .inl h
    · exact .inl (List.mem_of_mem_eraseIdx h)
  | discard index => exact .inl (List.mem_of_mem_eraseIdx h)
  | external file => exact .inl h

theorem numbered_next (e : UpdateEvent F R I) (h : store.Numbered s) : store.Numbered (store.next s e) := by
  intro ent he
  rcases store.mem_prepared_next he with ho | ⟨hs, -, request, hr⟩
  · exact h ent ho
  · rw [hs]; exact store.prepare_revision hr

theorem revision_committed {update : P} {base : M} (h : store.committed s e = some (update, base)) :
    store.revision (store.next s e).memory = store.revisionOf update := by
  obtain ⟨index, io, rfl, hge, hok⟩ := store.committed_iff.1 h; unfold next
  dsimp only
  rw [hge]; exact store.commit_ok hok

theorem mem_committed {update : P} {base : M} (h : store.committed s e = some (update, base)) :
    (update, base) ∈ s.prepared := by
  obtain ⟨index, io, rfl, hge, -⟩ := store.committed_iff.1 h; exact List.mem_of_getElem? hge

theorem past_next (h : store.Past s) (hf : store.Follows s e) : store.Past (store.next s e) := by
  intro ent he
  rcases store.mem_prepared_next he with ho | ⟨hs, hme, -⟩
  · obtain ⟨hle, hsa⟩ := h ent ho
    cases hm : store.committed s e with
    | none =>
      rw [(store.keeps_step s e hm).1]; exact ⟨hle, hsa⟩
    | some f =>
      -- the revision is raised above those of all bases
      have hr := store.revision_committed hm; rw [hf f.1 f.2 hm] at hr
      rw [hr]; exact ⟨by omega, fun heq => by omega⟩
  · rw [hs, hme]; exact ⟨Nat.le_refl _, fun _ => rfl⟩

theorem fromCurrent_step (hn : store.Numbered s) (hs : store.Past s) (hf : store.Follows s e) :
    store.FromCurrent s e := by
  intro update base hm
  have hmem := store.mem_committed hm
  have hnu := hn _ hmem
  have hne := hf update base hm
  refine ⟨(hs _ hmem).2 ?_, ?_⟩
  · dsimp only at hnu ⊢; omega
  · rw [store.revision_committed hm, hne]; exact Nat.lt_succ_self _

theorem follows_step (hn : store.Numbered s) (hr : store.FromCurrent s e) : store.Follows s e := by
  intro update base hm
  obtain ⟨rfl, -⟩ := hr update base hm; exact hn _ (store.mem_committed hm)

/-- Every committed update was prepared from the state it is committed to, in the runs where each follows the revision
it is committed to. -/
theorem fromCurrent_iff_follows (m : M) (file : F) (es : List (UpdateEvent F R I)) :
    Along store.next store.FromCurrent (start m file) es ↔ Along store.next store.Follows (start m file) es := by
  have hn : store.Numbered (start m file) := fun _ h => (nomatch h)
  have hs : store.Past (start m file) := fun _ h => (nomatch h)
  constructor
  · exact Along.of_invariant (I := store.Numbered) (fun s e h _ => store.numbered_next e h)
      (fun s e h hr => store.follows_step h hr) hn
  · exact Along.of_invariant (I := fun s => store.Numbered s ∧ store.Past s)
      (fun s e h hf => ⟨store.numbered_next e h.1, store.past_next h.2 hf⟩)
      (fun s e h hf => store.fromCurrent_step h.1 h.2 hf) ⟨hn, hs⟩

end UpdateStore

end Deniald.Lib
