/-
Publishing the scene to the shell (scene_sync.rs): revisions of its metadata and of its buffers, the surfaces that are
dirty and since which revision, and the revisions that the shell has. A revision is read, and acknowledged later; what is
marked in between stays pending, as long as no acknowledgement outlives a wrap of the counters.
-/
import Mathlib.Algebra.Ring.Nat
import Deniald.Lib.Keyed
import Deniald.Lib.Run

namespace Deniald.Flutter

open Deniald.Lib

/-! ## Model -/

structure SceneSyncState where
  metadataRevision : UInt64 := 0
  synchronizedMetadataRevision : Option UInt64 := none
  bufferRevision : UInt64 := 0
  synchronizedBufferRevision : UInt64 := 0
  dirtySurfaces : AList fun _ : UInt64 => UInt64 := ∅

/-- `u64::MAX`. -/
def maxRevision : UInt64 := 0xFFFFFFFFFFFFFFFF

namespace SceneSyncState

def markDirty (s : SceneSyncState) : SceneSyncState :=
  let s := if s.metadataRevision = maxRevision then { s with synchronizedMetadataRevision := none } else s
  { s with metadataRevision := s.metadataRevision + 1 }

def insertAll (revision : UInt64) (dirty : AList fun _ : UInt64 => UInt64) (surfaceIds : List UInt64) :
    AList fun _ : UInt64 => UInt64 :=
  surfaceIds.foldl (fun dirty id => dirty.insert id revision) dirty

def markSurfacesDirty (s : SceneSyncState) (surfaceIds : List UInt64) : SceneSyncState :=
  if surfaceIds.isEmpty then s
  else if s.bufferRevision = maxRevision then
    { s with
      bufferRevision := 1
      synchronizedBufferRevision := 0
      dirtySurfaces := insertAll 1 (mapValues (fun _ => 1) s.dirtySurfaces) surfaceIds }
  else
    let revision := s.bufferRevision + 1
    { s with bufferRevision := revision, dirtySurfaces := insertAll revision s.dirtySurfaces surfaceIds }

def pendingMetadataRevision (s : SceneSyncState) : Option UInt64 :=
  if s.synchronizedMetadataRevision ≠ some s.metadataRevision then some s.metadataRevision else none

def pendingBufferRevision (s : SceneSyncState) : Option UInt64 :=
  if s.synchronizedBufferRevision ≠ s.bufferRevision then some s.bufferRevision else none

/-- `dirty_surface_ids`, in the order of the map. -/
def dirtySurfaceIds (s : SceneSyncState) (revision : UInt64) : List UInt64 :=
  (s.dirtySurfaces.entries.filter fun e => e.2 ≤ revision).map (·.1)

def markBuffersSynchronized (s : SceneSyncState) (revision : UInt64) : SceneSyncState :=
  { s with
    synchronizedBufferRevision := revision
    dirtySurfaces := retainValues (fun dirtyRevision => revision < dirtyRevision) s.dirtySurfaces }

def markMetadataSynchronized (s : SceneSyncState) (metadataRevision bufferRevision : UInt64) : SceneSyncState :=
  { s with synchronizedMetadataRevision := some metadataRevision }.markBuffersSynchronized bufferRevision

def invalidateRuntime (s : SceneSyncState) : SceneSyncState := { s with synchronizedMetadataRevision := none }

end SceneSyncState

/-! ## Runs -/

structure SceneRead where
  metadata : Option UInt64
  buffer : UInt64
  time : Nat
  wraps : Nat

inductive SceneEvent where
  | markDirty
  | markSurfacesDirty (surfaceIds : List UInt64)
  | readBuffers
  | readMetadata
  | acknowledge (index : Nat)
  /-- A revision that was read is not delivered. -/
  | discard (index : Nat)
  | invalidateRuntime

/-- Each event has its time. What was marked when is remembered, and which of the acknowledged reads was the last. -/
structure SceneSession where
  state : SceneSyncState := {}
  reads : List SceneRead := []
  now : Nat := 1
  surfaceMarked : UInt64 → Nat := fun _ => 0
  buffersMarked : Nat := 0
  metadataMarked : Nat := 0
  buffersAcknowledged : Nat := 0
  metadataAcknowledged : Nat := 0
  wraps : Nat := 0

namespace SceneSession

def markSurfaces (s : SceneSession) (surfaceIds : List UInt64) : SceneSession :=
  if surfaceIds.isEmpty then s
  else
    { s with
      state := s.state.markSurfacesDirty surfaceIds
      surfaceMarked := fun id => if id ∈ surfaceIds then s.now else s.surfaceMarked id
      buffersMarked := s.now
      wraps := if s.state.bufferRevision = maxRevision then s.wraps + 1 else s.wraps }

def read (s : SceneSession) (metadata : Option UInt64) (buffer : UInt64) : SceneSession :=
  { s with reads := s.reads ++ [{ metadata, buffer, time := s.now, wraps := s.wraps }] }

def acknowledged (s : SceneSession) (r : SceneRead) : SceneSession :=
  match r.metadata with
  | none =>
    { s with
      state := s.state.markBuffersSynchronized r.buffer
      buffersAcknowledged := max s.buffersAcknowledged r.time }
  | some metadata =>
    { s with
      state := s.state.markMetadataSynchronized metadata r.buffer
      buffersAcknowledged := max s.buffersAcknowledged r.time
      metadataAcknowledged := max s.metadataAcknowledged r.time }

def handle (s : SceneSession) : SceneEvent → SceneSession
  | .markDirty => { s with state := s.state.markDirty, metadataMarked := s.now }
  | .markSurfacesDirty surfaceIds => s.markSurfaces surfaceIds
  | .readBuffers =>
    match s.state.pendingBufferRevision with
    | none => s
    | some buffer => s.read none buffer
  | .readMetadata =>
    match s.state.pendingMetadataRevision with
    | none => s
    | some metadata => s.read (some metadata) s.state.bufferRevision
  | .acknowledge index =>
    match s.reads[index]? with
    | none => s
    | some r => { s.acknowledged r with reads := s.reads.eraseIdx index }
  | .discard index => { s with reads := s.reads.eraseIdx index }
  | .invalidateRuntime => { s with state := s.state.invalidateRuntime }

def next (s : SceneSession) (e : SceneEvent) : SceneSession := { s.handle e with now := s.now + 1 }

/-- Until something read after it is acknowledged, what was marked is reported. -/
structure Reported (s : SceneSession) : Prop where
  surfaces : ∀ id, s.buffersAcknowledged < s.surfaceMarked id →
    ∃ revision, s.state.pendingBufferRevision = some revision ∧ id ∈ s.state.dirtySurfaceIds revision
  buffers : s.buffersAcknowledged < s.buffersMarked → s.state.pendingBufferRevision.isSome = true
  metadata : s.metadataAcknowledged < s.metadataMarked → s.state.pendingMetadataRevision.isSome = true

/-- No buffer revision is acknowledged that was read before the counter wrapped, and the counter of the metadata does not
come round to a revision that was read before. -/
def Fresh (s : SceneSession) : SceneEvent → Prop
  | .acknowledge index => ∀ r, s.reads[index]? = some r → (r.wraps < s.wraps → r.buffer = 0) ∧
      ∀ metadata, r.metadata = some metadata → r.time < s.metadataMarked → metadata ≠ s.state.metadataRevision
  | .markDirty => s.state.metadataRevision = maxRevision ∨
      s.state.synchronizedMetadataRevision ≠ some (s.state.metadataRevision + 1)
  | _ => True

/-! ## The invariant -/

structure Outdated (state : SceneSyncState) (surfaceMarked : UInt64 → Nat) (buffersMarked : Nat) (r : SceneRead) : Prop
    where
  le : r.buffer.toNat ≤ state.bufferRevision.toNat
  surfaces : ∀ id d, r.time < surfaceMarked id → state.dirtySurfaces.lookup id = some d → r.buffer.toNat < d.toNat
  buffers : r.time < buffersMarked → r.buffer.toNat < state.bufferRevision.toNat

/-- `dirty` and `synced` order the revisions of a cycle of the counter; `reads` compares those that were read in the
same cycle, of which `wraps` is the number. -/
structure Sound (s : SceneSession) : Prop where
  marks : ∀ id, s.surfaceMarked id ≤ s.buffersMarked
  dirty : ∀ id d, s.state.dirtySurfaces.lookup id = some d → 0 < d.toNat ∧ d.toNat ≤ s.state.bufferRevision.toNat
  marked : ∀ id, s.buffersAcknowledged < s.surfaceMarked id → ∃ d, s.state.dirtySurfaces.lookup id = some d
  synced : s.state.synchronizedBufferRevision.toNat ≤ s.state.bufferRevision.toNat
  pending : s.buffersAcknowledged < s.buffersMarked →
    s.state.synchronizedBufferRevision.toNat < s.state.bufferRevision.toNat
  wrapped : 0 < s.wraps → 0 < s.state.bufferRevision.toNat
  reads : ∀ r ∈ s.reads, r.wraps ≤ s.wraps ∧
    (r.wraps = s.wraps → Outdated s.state s.surfaceMarked s.buffersMarked r)
  metadata : s.metadataAcknowledged < s.metadataMarked →
    s.state.synchronizedMetadataRevision ≠ some s.state.metadataRevision

structure Past (s : SceneSession) : Prop where
  buffers : s.buffersMarked < s.now
  metadata : s.metadataMarked < s.now

variable {s : SceneSession}

theorem reported_of_sound (h : Sound s) : Reported s := by
  have hn : s.buffersAcknowledged < s.buffersMarked →
      s.state.pendingBufferRevision = some s.state.bufferRevision := by
    intro hm
    have hlt := h.pending hm
    have hne : s.state.synchronizedBufferRevision ≠ s.state.bufferRevision := by
      intro heq
      rw [heq] at hlt; omega
    simp [SceneSyncState.pendingBufferRevision, hne]
  constructor
  · intro id hm
    have hle := h.marks id
    refine ⟨_, hn (by omega), ?_⟩
    obtain ⟨d, hd⟩ := h.marked id hm
    refine List.mem_map.2 ⟨⟨id, d⟩, List.mem_filter.2 ⟨AList.mem_lookup_iff.1 hd, ?_⟩, rfl⟩
    simp [UInt64.le_iff_toNat_le, (h.dirty id d hd).2]
  · intro hm
    rw [hn hm]; rfl
  · intro hm
    simp [SceneSyncState.pendingMetadataRevision, h.metadata hm]

/-! ### Marks -/

theorem toNat_next {rev : UInt64} (h : rev ≠ maxRevision) : (rev + 1).toNat = rev.toNat + 1 := by
  have hne : rev.toNat ≠ maxRevision.toNat := fun heq => h (UInt64.toNat_inj.1 heq)
  have hm : maxRevision.toNat = 2 ^ 64 - 1 := by decide
  have hlt := rev.toNat_lt
  rw [UInt64.toNat_add]; exact Nat.mod_eq_of_lt (by simp at hlt ⊢; omega)

theorem lookup_insertAll (rev : UInt64) (id : UInt64) : ∀ (ss : List UInt64)
    (d : AList fun _ : UInt64 => UInt64), (SceneSyncState.insertAll rev d ss).lookup id =
      if id ∈ ss then some rev else d.lookup id
  | [], d => by simp [SceneSyncState.insertAll]
  | first :: ss, d => by
    have ih := lookup_insertAll rev id ss (d.insert first rev)
    unfold SceneSyncState.insertAll at ih ⊢; rw [List.foldl_cons, ih, lookup_insert_eq]
    by_cases hf : id = first
    · subst hf; simp
    · simp [hf]

structure SameBuffers (s s' : SceneSession) : Prop where
  revision : s'.state.bufferRevision = s.state.bufferRevision
  synchronized : s'.state.synchronizedBufferRevision = s.state.synchronizedBufferRevision
  dirty : s'.state.dirtySurfaces = s.state.dirtySurfaces
  surfaceMarked : s'.surfaceMarked = s.surfaceMarked
  buffersMarked : s'.buffersMarked = s.buffersMarked
  acknowledged : s'.buffersAcknowledged = s.buffersAcknowledged
  wraps : s'.wraps = s.wraps
  reads : ∀ r ∈ s'.reads, r ∈ s.reads

theorem Sound.of_same {s' : SceneSession} (h : Sound s) (hsa : SameBuffers s s')
    (hme : s'.metadataAcknowledged < s'.metadataMarked →
      s'.state.synchronizedMetadataRevision ≠ some s'.state.metadataRevision) : Sound s' := by
  obtain ⟨hv, hy, hd, hs, hm, hk, hw, hre⟩ := hsa
  constructor
  · rw [hs, hm]; exact h.marks
  · rw [hd, hv]; exact h.dirty
  · rw [hk, hs, hd]; exact h.marked
  · rw [hy, hv]; exact h.synced
  · rw [hk, hm, hy, hv]; exact h.pending
  · rw [hw, hv]; exact h.wrapped
  · intro r hr
    obtain ⟨hle, hou⟩ := h.reads r (hre r hr); rw [hw, hs, hm]
    refine ⟨hle, fun heq => ?_⟩
    have ho := hou heq
    constructor
    · rw [hv]; exact ho.le
    · rw [hd]; exact ho.surfaces
    · rw [hv]; exact ho.buffers
  · exact hme

theorem sound_markDirty (h : Sound s) (hf : Fresh s .markDirty) : Sound (s.handle .markDirty) := by
  refine h.of_same ?_ fun _ => ?_
  · constructor <;> first | rfl | exact fun r hr => hr | (simp only [handle, SceneSyncState.markDirty]; split <;> rfl)
  · show s.state.markDirty.synchronizedMetadataRevision ≠ some s.state.markDirty.metadataRevision
    unfold SceneSyncState.markDirty
    rcases hf with hm | hne
    · simp [hm]
    by_cases hm : s.state.metadataRevision = maxRevision
    · simp [hm]
    · simp only [if_neg hm]; exact hne

theorem sound_invalidate (h : Sound s) : Sound (s.handle .invalidateRuntime) :=
  h.of_same ⟨rfl, rfl, rfl, rfl, rfl, rfl, rfl, fun _ hr => hr⟩ fun _ hs => nomatch hs

theorem sound_discard (h : Sound s) (index : Nat) : Sound (s.handle (.discard index)) :=
  h.of_same ⟨rfl, rfl, rfl, rfl, rfl, rfl, rfl, fun _ hr => List.mem_of_mem_eraseIdx hr⟩ h.metadata

/-- Marked surfaces have the new revision; the others have what `old` says of them. -/
theorem sound_markSurfaces (h : Sound s) (hs : Past s) (ss : List UInt64) : Sound (s.markSurfaces ss) := by
  unfold markSurfaces SceneSyncState.markSurfacesDirty; split
  · exact h
  have hf := hs.buffers; split
  · -- the counter wraps: reads are of an earlier cycle, and every surface has the first revision of the new one
    have hk : ∀ id d, (SceneSyncState.insertAll 1 (mapValues (fun _ => 1) s.state.dirtySurfaces) ss).lookup
        id = some d → d = 1 := by
      intro id d hd; rw [lookup_insertAll, lookup_mapValues] at hd
      split at hd
      · exact (Option.some.inj hd).symm
      · obtain ⟨old, -, rfl⟩ := Option.map_eq_some_iff.1 hd; rfl
    constructor
    · intro id; have := h.marks id
      show (if id ∈ ss then s.now else s.surfaceMarked id) ≤ s.now
      split <;> omega
    · intro id d hd
      rw [hk id d hd]; exact ⟨by decide, Nat.le_refl _⟩
    · intro id hm
      show ∃ d, (SceneSyncState.insertAll 1 (mapValues (fun _ => 1) s.state.dirtySurfaces) ss).lookup id = some d
      rw [lookup_insertAll, lookup_mapValues]
      by_cases hid : id ∈ ss
      · exact ⟨1, if_pos hid⟩
      · have hm : s.buffersAcknowledged < s.surfaceMarked id := by simpa [hid] using hm
        obtain ⟨d, hd⟩ := h.marked id hm; exact ⟨1, by rw [if_neg hid, hd]; rfl⟩
    · exact Nat.zero_le _
    · intro _
      show (0 : UInt64).toNat < (1 : UInt64).toNat; decide
    · intro _
      show 0 < (1 : UInt64).toNat; decide
    · intro r hr
      have hle := (h.reads r hr).1
      exact ⟨Nat.le_succ_of_le hle, fun heq => by dsimp only at heq; omega⟩
    · exact h.metadata
  · rename_i hma
    have hn := toNat_next hma
    have hk := fun id => lookup_insertAll (s.state.bufferRevision + 1) id ss s.state.dirtySurfaces
    constructor
    · intro id; have := h.marks id
      show (if id ∈ ss then s.now else s.surfaceMarked id) ≤ s.now
      split <;> omega
    · intro id d hd
      dsimp only at hd ⊢; rw [hk] at hd
      split at hd
      · cases hd; omega
      · have := h.dirty id d hd
        omega
    · intro id hm
      dsimp only at hm ⊢; rw [hk]
      split
      · exact ⟨_, rfl⟩
      · rename_i hid; rw [if_neg hid] at hm; exact h.marked id hm
    · have := h.synced
      dsimp only; omega
    · intro _; have := h.synced
      dsimp only; omega
    · intro _
      dsimp only; omega
    · intro r hr
      obtain ⟨hle, hou⟩ := h.reads r hr
      refine ⟨hle, fun heq => ?_⟩
      have ho := hou heq
      have hre := ho.le
      constructor
      · dsimp only; omega
      · intro id d hm hd
        dsimp only at hm hd; rw [hk] at hd
        split at hd
        · cases hd; omega
        · rename_i hid; rw [if_neg hid] at hm; exact ho.surfaces id d hm hd
      · intro _
        dsimp only; omega
    · exact h.metadata

/-! ### Reads -/

theorem sound_read (h : Sound s) (hs : Past s) (m : Option UInt64) : Sound (s.read m s.state.bufferRevision) := by
  refine ⟨h.marks, h.dirty, h.marked, h.synced, h.pending, h.wrapped, fun r hr => ?_, h.metadata⟩
  rcases List.mem_append.1 hr with hr | hr
  · exact h.reads r hr
  obtain rfl := List.mem_singleton.1 hr
  have hf := hs.buffers
  refine ⟨Nat.le_refl _, fun _ => ⟨Nat.le_refl _, fun id d hm => ?_, fun hm => ?_⟩⟩
  · have := h.marks id
    dsimp only [read] at hm; omega
  · dsimp only [read] at hm; omega

theorem sound_buffers (h : Sound s) {r : SceneRead} (hr : r ∈ s.reads) (hf : r.wraps < s.wraps → r.buffer = 0) :
    Sound { s with
      state := s.state.markBuffersSynchronized r.buffer
      buffersAcknowledged := max s.buffersAcknowledged r.time } := by
  have hre : r.buffer.toNat ≤ s.state.bufferRevision.toNat ∧
      (∀ id d, r.time < s.surfaceMarked id → s.state.dirtySurfaces.lookup id = some d → r.buffer.toNat < d.toNat) ∧
      (r.time < s.buffersMarked → r.buffer.toNat < s.state.bufferRevision.toNat) := by
    obtain ⟨hle, hou⟩ := h.reads r hr
    rcases Nat.lt_or_eq_of_le hle with hlt | heq
    · -- a read of an earlier cycle is of the revision before all
      have hw := h.wrapped (by omega); rw [hf hlt]
      exact ⟨Nat.zero_le _, fun id d _ hd => (h.dirty id d hd).1, fun _ => hw⟩
    · exact ⟨(hou heq).le, (hou heq).surfaces, (hou heq).buffers⟩
  obtain ⟨hle, hs, hbu⟩ := hre
  have hk : ∀ id d, (s.state.markBuffersSynchronized r.buffer).dirtySurfaces.lookup id = some d ↔
      s.state.dirtySurfaces.lookup id = some d ∧ r.buffer.toNat < d.toNat := by
    intro id d; unfold SceneSyncState.markBuffersSynchronized
    simp [Option.filter_eq_some_iff, UInt64.lt_iff_toNat_lt]
  constructor
  · exact h.marks
  · intro id d hd; exact h.dirty id d ((hk id d).1 hd).1
  · intro id hm; dsimp only at hm
    obtain ⟨d, hd⟩ := h.marked id (by omega)
    exact ⟨d, (hk id d).2 ⟨hd, hs id d (by omega) hd⟩⟩
  · exact hle
  · intro hm
    dsimp only at hm; exact hbu (by omega)
  · exact h.wrapped
  · intro r' hr'
    obtain ⟨hle', ho'⟩ := h.reads r' hr'
    refine ⟨hle', fun heq => ?_⟩
    have ho := ho' heq
    exact ⟨ho.le, fun id d hm hd => ho.surfaces id d hm ((hk id d).1 hd).1, ho.buffers⟩
  · exact h.metadata

theorem sound_acknowledged (h : Sound s) {index : Nat} {r : SceneRead} (hr : s.reads[index]? = some r)
    (hs : Fresh s (.acknowledge index)) : Sound (s.acknowledged r) := by
  obtain ⟨hw, hme⟩ := hs r hr
  have hf := sound_buffers h (List.mem_of_getElem? hr) hw; unfold acknowledged
  split
  · exact hf
  rename_i m hd
  refine hf.of_same ⟨rfl, rfl, rfl, rfl, rfl, rfl, rfl, fun _ hr => hr⟩ fun hm => ?_
  dsimp only at hm
  have hne := hme m hd (by omega)
  show some m ≠ some s.state.metadataRevision
  simpa using hne

/-! ### Runs -/

theorem sound_next {e : SceneEvent} (h : Sound s) (hs : Past s) (hf : Fresh s e) : Sound (next s e) := by
  have hh : Sound (s.handle e) := by
    cases e with
    | markDirty => exact sound_markDirty h hf
    | markSurfacesDirty ss => exact sound_markSurfaces h hs ss
    | readBuffers =>
      unfold handle SceneSyncState.pendingBufferRevision; dsimp only
      split
      · exact h
      rename_i buffer hn; split at hn
      · cases hn; exact sound_read h hs none
      · cases hn
    | readMetadata =>
      unfold handle; dsimp only
      split
      · exact h
      · exact sound_read h hs _
    | acknowledge index =>
      unfold handle; dsimp only
      split
      · exact h
      rename_i r hr
      have hk := sound_acknowledged h hr hf
      refine hk.of_same ⟨rfl, rfl, rfl, rfl, rfl, rfl, rfl, fun r' hr' => ?_⟩ hk.metadata
      have hd : (s.acknowledged r).reads = s.reads := by
        unfold acknowledged
        split <;> rfl
      rw [hd]; exact List.mem_of_mem_eraseIdx hr'
    | discard index => exact sound_discard h index
    | invalidateRuntime => exact sound_invalidate h
  exact hh.of_same ⟨rfl, rfl, rfl, rfl, rfl, rfl, rfl, fun _ hr => hr⟩ hh.metadata

theorem past_next (e : SceneEvent) (hs : Past s) : Past (next s e) := by
  have hf := hs.buffers
  have hm := hs.metadata
  have hh : (s.handle e).now = s.now ∧ (s.handle e).buffersMarked ≤ s.now ∧ (s.handle e).metadataMarked ≤ s.now := by
    cases e with
    | markDirty => exact ⟨rfl, Nat.le_of_lt hf, Nat.le_refl _⟩
    | markSurfacesDirty ss =>
      simp only [handle, markSurfaces]; split
      · exact ⟨rfl, Nat.le_of_lt hf, Nat.le_of_lt hm⟩
      · exact ⟨rfl, Nat.le_refl _, Nat.le_of_lt hm⟩
    | readBuffers =>
      simp only [handle]
      split <;> exact ⟨rfl, Nat.le_of_lt hf, Nat.le_of_lt hm⟩
    | readMetadata =>
      simp only [handle]
      split <;> exact ⟨rfl, Nat.le_of_lt hf, Nat.le_of_lt hm⟩
    | acknowledge index =>
      simp only [handle]; split
      · exact ⟨rfl, Nat.le_of_lt hf, Nat.le_of_lt hm⟩
      · simp only [acknowledged]
        split <;> exact ⟨rfl, Nat.le_of_lt hf, Nat.le_of_lt hm⟩
    | discard index => exact ⟨rfl, Nat.le_of_lt hf, Nat.le_of_lt hm⟩
    | invalidateRuntime => exact ⟨rfl, Nat.le_of_lt hf, Nat.le_of_lt hm⟩
  obtain ⟨-, hr, hm⟩ := hh
  exact ⟨Nat.lt_succ_of_le hr, Nat.lt_succ_of_le hm⟩

/-- In every run whose acknowledgements are fresh, no update of the scene is lost. -/
theorem no_lost_update (es : List SceneEvent) (h : Along next Fresh {} es) : Reported (exec next {} es) := by
  have hstar : Sound {} ∧ Past {} := by
    refine ⟨⟨fun _ => Nat.le_refl _, fun _ _ h => (nomatch h), fun _ h => (nomatch h), Nat.le_refl _, fun h => (nomatch h),
      fun h => (nomatch h), fun _ h => (nomatch h), fun h => (nomatch h)⟩, ⟨by decide, by decide⟩⟩
  have hrun := exec_invariant_along (I := fun s => Sound s ∧ Past s)
    (fun s e h hfres => ⟨sound_next h.1 h.2 hfres, past_next e h.2⟩) hstar h
  exact reported_of_sound hrun.1

/-- A surface that is marked between a read and its acknowledgement. -/
theorem no_lost_update_between :
    Along next Fresh {} [.markSurfacesDirty [7], .readBuffers, .markSurfacesDirty [8], .acknowledge 0] ∧
      Reported (exec next {} [.markSurfacesDirty [7], .readBuffers, .markSurfacesDirty [8], .acknowledge 0]) :=
  have h : Along next Fresh {} [.markSurfacesDirty [7], .readBuffers, .markSurfacesDirty [8], .acknowledge 0] := by
    refine ⟨trivial, trivial, trivial, fun r hr => ?_, trivial⟩; cases hr
    exact ⟨fun h => absurd h (by decide), fun _ h => nomatch h⟩
  ⟨h, no_lost_update _ h⟩

/-! ## The wrap -/

/-- The first surface is marked time and again. -/
def marks (n : Nat) : List SceneEvent := List.replicate n (.markSurfacesDirty [7])

theorem exec_marks : ∀ n < 2 ^ 64, (exec next {} (marks n)).state.bufferRevision.toNat = n ∧
    (exec next {} (marks n)).state.synchronizedBufferRevision = 0 ∧ (exec next {} (marks n)).reads = [] ∧
      (exec next {} (marks n)).buffersAcknowledged = 0
  | 0, _ => ⟨rfl, rfl, rfl, rfl⟩
  | n + 1, hn => by
    obtain ⟨hr, hy, hd, hk⟩ := exec_marks n (by omega)
    have hma : (exec next {} (marks n)).state.bufferRevision ≠ maxRevision := by
      intro heq; rw [heq] at hr
      have : maxRevision.toNat = 2 ^ 64 - 1 := by decide
      omega
    have hstep : exec next {} (marks (n + 1)) = next (exec next {} (marks n)) (.markSurfacesDirty [7]) := by
      unfold marks; rw [List.replicate_succ', exec_snoc]
    have hs : (exec next {} (marks (n + 1))).state = (exec next {} (marks n)).state.markSurfacesDirty [7] := by
      rw [hstep]; rfl
    have hm : ((exec next {} (marks n)).state.markSurfacesDirty [7]).bufferRevision =
        (exec next {} (marks n)).state.bufferRevision + 1 ∧
        ((exec next {} (marks n)).state.markSurfacesDirty [7]).synchronizedBufferRevision =
          (exec next {} (marks n)).state.synchronizedBufferRevision := by
      simp [SceneSyncState.markSurfacesDirty, hma]
    rw [hs, hm.1, hm.2, toNat_next hma, hr, hstep]
    exact ⟨rfl, hy, hd, hk⟩

theorem lost_at_wrap (hv : s.state.bufferRevision = maxRevision)
    (hy : s.state.synchronizedBufferRevision = 0) (hr : s.reads = []) (hk : s.buffersAcknowledged = 0) :
    ¬Reported (exec next s [.readBuffers, .markSurfacesDirty [8], .acknowledge 0]) := by
  have hre : next s .readBuffers =
      { s with reads := [⟨none, maxRevision, s.now, s.wraps⟩], now := s.now + 1 } := by
    have hn : s.state.pendingBufferRevision = some maxRevision := by
      unfold SceneSyncState.pendingBufferRevision
      rw [hv, hy]; decide
    simp [next, handle, hn, read, hr]
  rw [exec_cons, hre]
  generalize hs : ({ s with reads := [⟨none, maxRevision, s.now, s.wraps⟩], now := s.now + 1 } : SceneSession) = readState
  intro h
  have hst : (exec next readState [.markSurfacesDirty [8], .acknowledge 0]).state =
      (s.state.markSurfacesDirty [8]).markBuffersSynchronized maxRevision := by
    rw [← hs]; rfl
  have hm : (exec next readState [.markSurfacesDirty [8], .acknowledge 0]).surfaceMarked 8 = s.now + 1 := by
    rw [← hs]; rfl
  have hla : (exec next readState [.markSurfacesDirty [8], .acknowledge 0]).buffersAcknowledged =
      max s.buffersAcknowledged s.now := by
    rw [← hs]; rfl
  obtain ⟨revision, -, hd⟩ := h.surfaces 8 (by rw [hm, hla]; omega); rw [hst] at hd
  obtain ⟨⟨id, d⟩, he, rfl⟩ := List.mem_map.1 hd
  -- no revision is after the last one of the cycle
  have hf := (List.mem_filter.1 (List.mem_filter.1 he).1).2
  have hlt := UInt64.lt_iff_toNat_lt.1 (of_decide_eq_true hf)
  have hle := d.toNat_lt
  have hma : maxRevision.toNat = 2 ^ 64 - 1 := by decide
  dsimp only at hlt; omega

/-- A surface is marked as the counter wraps, and no longer dirty once the revision read before is acknowledged. -/
theorem update_lost_at_wrap : ¬Reported (exec next {}
    (marks (2 ^ 64 - 1) ++ [.readBuffers, .markSurfacesDirty [8], .acknowledge 0])) := by
  obtain ⟨hrev, hsyn, hread, hack⟩ := exec_marks (2 ^ 64 - 1) (by omega)
  rw [exec_append]
  refine lost_at_wrap (UInt64.toNat_inj.1 (hrev.trans ?_)) hsyn hread hack; decide

end SceneSession

end Deniald.Flutter
