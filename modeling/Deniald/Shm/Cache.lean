/-
The cache of shared-memory snapshots (surface_pipeline.rs and the commit handler): which surfaces have a frame, the
bytes of all frames against their budget, and the revisions handed out. A synchronized subsurface is committed with its
parent, so that its buffer changes in the same turn in which its commit is published. What a publication tells the
scene is left out.
-/
import Deniald.Lib.Counter
import Deniald.Lib.LinkedMap
import Deniald.Lib.Lists
import Deniald.Lib.Run
import Deniald.Shm.Layout

namespace Deniald.Shm

open Deniald.Lib
open LinkedMap

abbrev ObjectId := Nat

/-! ## Buffers -/

inductive Format where
  | argb8888
  | xrgb8888
  | other (name : String)

structure BufferData where
  format : Format
  width : Int
  height : Int
  offset : Int
  stride : Int

/-- A client's buffer: a dmabuf, shared memory, or of another kind. -/
inductive Buffer where
  | dmabuf (id : ObjectId)
  | shm (data : BufferData)
  | unmanaged (id : ObjectId)

def Buffer.isDmabuf : Buffer → Bool
  | .dmabuf _ => true
  | .shm _ | .unmanaged _ => false

structure ShmTextureFrame where
  width : Nat
  height : Nat
  revision : UInt64

/-- `new_pooled`, of pixels of a length. -/
def ShmTextureFrame.newPooled (width height : Nat) (revision : UInt64) (pixels : Nat) :
    Except String ShmTextureFrame := do
  let expected ← okOr (rgbaPayloadLen width height) "SHM texture dimensions overflow"
  if width = 0 ∨ height = 0 ∨ pixels ≠ expected then .error "SHM texture has invalid dimensions or payload length"
  else .ok ⟨width, height, revision⟩

/-- What a buffer's pool is found to be when it is read, and whether there is memory for the copy. -/
structure Access where
  poolLen : Except String Nat
  reserved : Except String Unit

def snapshotShmBuffer (buffer : Buffer) (revision : UInt64) (availableCacheBytes : Nat) (access : Access) :
    Except String (Option ShmTextureFrame) :=
  match buffer with
  | .shm data => do
    let poolLen ← access.poolLen
    match data.format with
    | .other name => .error ("unsupported advertised SHM format " ++ name)
    | .argb8888 | .xrgb8888 =>
      let layout ← validateShmLayout data.width data.height data.offset data.stride poolLen availableCacheBytes
      access.reserved.mapError ("could not reserve SHM snapshot memory: " ++ ·)
      let frame ← ShmTextureFrame.newPooled layout.width layout.height revision layout.payloadLen
      .ok (some frame)
  | .dmabuf _ | .unmanaged _ => .ok none

/-! ## The cache -/

structure ShmCache where
  /-- The buffer assigned to a surface by its last commits, or its removal, until it is taken. -/
  assigned : ObjectId → Option (Option Buffer) := fun _ => none
  /-- The current buffer of a surface, for its renderer. -/
  buffers : ObjectId → Option Buffer := fun _ => none
  pendingSurfaceCommits : Finset ObjectId := ∅
  pendingShmSnapshots : Finset ObjectId := ∅
  surfaceShmFrames : LinkedMap ObjectId ShmTextureFrame := .empty
  shmSnapshotBytes : Nat := 0
  nextShmRevision : UInt64 := 1
  /-- The revisions of all frames that were ever cached. -/
  revisions : List UInt64 := []

namespace ShmCache

def removeSurfaceShmFrame (s : ShmCache) (surface : ObjectId) : ShmCache :=
  match s.surfaceShmFrames.get? surface with
  | none => s
  | some frame =>
    let s := { s with surfaceShmFrames := s.surfaceShmFrames.erase surface }
    match rgbaPayloadLen frame.width frame.height with
    | none => s
    | some bytes => { s with shmSnapshotBytes := s.shmSnapshotBytes - bytes }

def updateSurfaceShmFrame (budget : Nat) (s : ShmCache) (surface : ObjectId) (buffer : Buffer) (access : Access) :
    ShmCache :=
  let s := s.removeSurfaceShmFrame surface
  let availableCacheBytes := budget - s.shmSnapshotBytes
  let revision := s.nextShmRevision
  match snapshotShmBuffer buffer revision availableCacheBytes access with
  | .ok (some frame) =>
    match rgbaPayloadLen frame.width frame.height with
    | none => s
    | some frameBytes =>
      match checked (s.shmSnapshotBytes + frameBytes) with
      | none => s
      | some shmSnapshotBytes =>
        { s with
          shmSnapshotBytes := shmSnapshotBytes
          nextShmRevision := bump revision
          surfaceShmFrames := s.surfaceShmFrames.set surface frame
          revisions := s.revisions ++ [revision] }
  | .ok none | .error _ => s

/-- The loop body of `publish_surface_commits_inner`. -/
def publishSurface (budget : Nat) (access : ObjectId → Access) (s : ShmCache) (surface : ObjectId) : ShmCache :=
  if surface ∉ s.pendingSurfaceCommits then s
  else
    let s := { s with pendingSurfaceCommits := s.pendingSurfaceCommits.erase surface }
    let settled := { s with pendingShmSnapshots := s.pendingShmSnapshots.erase surface }
    match s.buffers surface with
    | some (.dmabuf _) | none => settled.removeSurfaceShmFrame surface
    | some buffer =>
      if surface ∈ s.pendingShmSnapshots ∨ (s.surfaceShmFrames.get? surface).isNone then
        settled.updateSurfaceShmFrame budget surface buffer (access surface)
      else s

def queueSurfaceCommit (s : ShmCache) (surface : ObjectId) : ShmCache :=
  { s with pendingSurfaceCommits := insert surface s.pendingSurfaceCommits }

def noteBuffer (s : ShmCache) (surface : ObjectId) : ShmCache :=
  match s.assigned surface with
  | some (some buffer) =>
    if buffer.isDmabuf then { s with pendingShmSnapshots := s.pendingShmSnapshots.erase surface }
    else { s with pendingShmSnapshots := insert surface s.pendingShmSnapshots }
  | some none => { s with pendingShmSnapshots := s.pendingShmSnapshots.erase surface }
  | none => s

/-- Part of `remove_surface_state`. -/
def removeSurfaceState (s : ShmCache) (surface : ObjectId) : ShmCache :=
  let s := s.removeSurfaceShmFrame surface
  { s with
    pendingSurfaceCommits := s.pendingSurfaceCommits.erase surface
    pendingShmSnapshots := s.pendingShmSnapshots.erase surface }

end ShmCache

/-! ## Commits -/

/-- The handler of the compositor library that gives the surfaces of a tree the buffers assigned to them. -/
structure BufferHandler where
  commit : List ObjectId → (ObjectId → Option (Option Buffer)) → (ObjectId → Option Buffer) → ObjectId → Option Buffer
  assigned : ∀ {tree assigned buffers surface buffer}, surface ∈ tree → assigned surface = some buffer →
    commit tree assigned buffers surface = buffer
  unassigned : ∀ {tree assigned buffers surface}, assigned surface = none →
    commit tree assigned buffers surface = buffers surface

/-- One surface's part of a transaction: the buffer it attaches or removes, if any, and whether it is sampled otherwise
than before. -/
structure SurfaceCommit where
  surface : ObjectId
  update : Option (Option Buffer)
  samplingChanged : Bool

/-- What is published: the tree of the committed surface, or that of the cursor's root it is in. -/
structure Publication where
  tree : List ObjectId
  published : List ObjectId
  access : ObjectId → Access
  covers : tree ⊆ published

/-- What the library applies in one turn: the commits of synchronized subsurfaces, then that of the surface whose tree
they are in. -/
structure Transaction where
  subsurfaces : List SurfaceCommit
  root : SurfaceCommit
  publication : Publication
  within : ∀ c ∈ root :: subsurfaces, c.surface ∈ publication.tree

inductive Event where
  | committed (transaction : Transaction)
  | removed (surface : ObjectId)

namespace ShmCache

/-- The library applies a surface's state, and the handler notes what is assigned to it. -/
def assign (c : SurfaceCommit) (s : ShmCache) : ShmCache :=
  { s with assigned := Function.update s.assigned c.surface (c.update.or (s.assigned c.surface)) }.noteBuffer c.surface

section

variable (handler : BufferHandler) (budget : Nat)

def takeBuffers (tree : List ObjectId) (s : ShmCache) : ShmCache :=
  { s with
    assigned := fun surface => if surface ∈ tree then none else s.assigned surface
    buffers := handler.commit tree s.assigned s.buffers }

def commit (publication : Option Publication) (s : ShmCache) (c : SurfaceCommit) : ShmCache :=
  let visualUpdate := (c.update.or (s.assigned c.surface)).isSome || c.samplingChanged
  let s := s.assign c
  let s := publication.elim s fun p => s.takeBuffers handler p.tree
  let s := if visualUpdate then s.queueSurfaceCommit c.surface else s
  publication.elim s fun p => p.published.foldl (publishSurface budget p.access) s

def next (s : ShmCache) : Event → ShmCache
  | .committed t => (t.subsurfaces.foldl (commit handler budget none) s).commit handler budget (some t.publication) t.root
  | .removed surface => s.removeSurfaceState surface

end

end ShmCache

/-! ## Snapshots -/

variable {frame : ShmTextureFrame}

theorem snapshotShmBuffer_spec {buf : Buffer} {rev : UInt64} {available : Nat} {a : Access}
    (h : snapshotShmBuffer buf rev available a = .ok (some frame)) : (∃ data, buf = .shm data) ∧ frame.revision = rev ∧
      (frame.width ≤ maxShmTextureDimension ∧ frame.height ≤ maxShmTextureDimension) ∧
      frame.width * frame.height * 4 ≤ available := by
  cases buf with
  | dmabuf | unmanaged => cases h
  | shm data =>
    unfold snapshotShmBuffer at h
    obtain ⟨pl, -, h⟩ := bind_ok.1 h
    have hr : ∀ {x : Except String (Option ShmTextureFrame)}, (do
        let layout ← validateShmLayout data.width data.height data.offset data.stride pl available
        a.reserved.mapError ("could not reserve SHM snapshot memory: " ++ ·)
        let frame ← ShmTextureFrame.newPooled layout.width layout.height rev layout.payloadLen
        .ok (some frame)) = x → x = .ok (some frame) →
        frame.revision = rev ∧ (frame.width ≤ maxShmTextureDimension ∧ frame.height ≤ maxShmTextureDimension) ∧
          frame.width * frame.height * 4 ≤ available := by
      rintro _ rfl hx
      obtain ⟨layout, hy, hx⟩ := bind_ok.1 hx
      obtain ⟨_, -, hx⟩ := bind_ok.1 hx
      obtain ⟨p, hpo, hx⟩ := bind_ok.1 hx
      obtain rfl := Option.some.inj (Except.ok.inj hx)
      have hv := validateShmLayout_valid hy; unfold ShmTextureFrame.newPooled at hpo
      obtain ⟨_, -, hpo⟩ := bind_ok.1 hpo; split at hpo
      · cases hpo
      · cases hpo
        exact ⟨rfl, ⟨hv.width.2, hv.height.2⟩, hv.payloadLen_eq ▸ hv.budget⟩
    split at h
    · cases h
    · exact ⟨⟨data, rfl⟩, hr rfl h⟩
    · exact ⟨⟨data, rfl⟩, hr rfl h⟩

/-! ## Accounts -/

def ShmTextureFrame.bytes (frame : ShmTextureFrame) : Nat := 4 * frame.width * frame.height

theorem rgbaPayloadLen_frame (hw : frame.width ≤ maxShmTextureDimension) (hh : frame.height ≤ maxShmTextureDimension) :
    rgbaPayloadLen frame.width frame.height = some frame.bytes := by
  rw [rgbaPayloadLen_eq hw hh]; unfold ShmTextureFrame.bytes
  congr 1; ring

theorem sum_values_erase {α β : Type} [DecidableEq α] (f : β → Nat) {k : α} {v : β} : ∀ {l : List (α × β)},
    (l.map Prod.fst).Nodup → (k, v) ∈ l →
      (((l.filter fun e => e.1 ≠ k).map Prod.snd).map f).sum + f v = ((l.map Prod.snd).map f).sum
  | e :: l, hn, hmem => by
    obtain ⟨hf, hn⟩ := List.nodup_cons.1 hn
    rcases List.mem_cons.1 hmem with rfl | hmem
    · have hr : l.filter (fun e => e.1 ≠ k) = l := by
        refine List.filter_eq_self.2 fun e he => ?_
        have hy := List.mem_map_of_mem (f := Prod.fst) he
        have hne : e.1 ≠ k := fun hk => hf (show k ∈ l.map Prod.fst from hk ▸ hy)
        simpa using hne
      simp only [List.filter_cons, ne_eq, not_true_eq_false, decide_false, Bool.false_eq_true, if_false, List.map_cons,
        List.sum_cons]
      rw [hr, Nat.add_comm]
    · have hne : e.1 ≠ k := fun hk => hf (hk ▸ List.mem_map_of_mem hmem)
      have ih := sum_values_erase f hn hmem
      simp only [List.filter_cons, ne_eq, hne, not_false_eq_true, decide_true, if_true, List.map_cons,
        List.sum_cons] at ih ⊢
      omega

namespace ShmCache

structure Counted (budget : Nat) (s : ShmCache) : Prop where
  bytes : s.shmSnapshotBytes = (s.surfaceShmFrames.values.map ShmTextureFrame.bytes).sum
  within : s.shmSnapshotBytes ≤ budget
  sized : ∀ surface frame, s.surfaceShmFrames.get? surface = some frame →
    frame.width ≤ maxShmTextureDimension ∧ frame.height ≤ maxShmTextureDimension
  next : s.nextShmRevision = serialOf (s.revisions.length + 1)
  revisions : s.revisions = (List.range s.revisions.length).map fun k => serialOf (k + 1)
  cached : ∀ surface frame, s.surfaceShmFrames.get? surface = some frame → frame.revision ∈ s.revisions

structure Reframed (budget : Nat) (surface : ObjectId) (s s' : ShmCache) : Prop where
  rest : s' = { s with
    surfaceShmFrames := s'.surfaceShmFrames
    shmSnapshotBytes := s'.shmSnapshotBytes
    nextShmRevision := s'.nextShmRevision
    revisions := s'.revisions }
  others : ∀ other, other ≠ surface → s'.surfaceShmFrames.get? other = s.surfaceShmFrames.get? other
  counted : Counted budget s → Counted budget s'

variable {budget : Nat}

theorem Reframed.refl (surf : ObjectId) (s : ShmCache) : Reframed budget surf s s := ⟨rfl, fun _ _ => rfl, id⟩

theorem removeSurfaceShmFrame_spec (budget : Nat) (s : ShmCache) (surf : ObjectId) :
    Reframed budget surf s (s.removeSurfaceShmFrame surf) ∧
      (s.removeSurfaceShmFrame surf).surfaceShmFrames.get? surf = none := by
  unfold removeSurfaceShmFrame; split
  · rename_i hnone; exact ⟨.refl surf s, hnone⟩
  rename_i frame hf
  have ho : ∀ other, other ≠ surf →
      (s.surfaceShmFrames.erase surf).get? other = s.surfaceShmFrames.get? other := by
    intro other hne; rw [get?_erase, if_neg hne]
  have hk : ∀ {other kept}, (s.surfaceShmFrames.erase surf).get? other = some kept →
      s.surfaceShmFrames.get? other = some kept := by
    intro other kept hk; rw [get?_erase] at hk
    split at hk
    · cases hk
    · exact hk
  have hm := sum_values_erase ShmTextureFrame.bytes s.surfaceShmFrames.nodup (get?_eq_some_iff.1 hf)
  simp only
  split
  · rename_i hlen
    refine ⟨⟨rfl, ho, fun h => ?_⟩, by rw [get?_erase, if_pos rfl]⟩
    have hs := h.sized surf frame hf
    rw [rgbaPayloadLen_frame hs.1 hs.2] at hlen; cases hlen
  rename_i bytes hlen
  refine ⟨⟨rfl, ho, fun h => ?_⟩, by rw [get?_erase, if_pos rfl]⟩
  have hs := h.sized surf frame hf; rw [rgbaPayloadLen_frame hs.1 hs.2] at hlen
  cases hlen
  have hy : s.shmSnapshotBytes - frame.bytes =
      ((s.surfaceShmFrames.erase surf).values.map ShmTextureFrame.bytes).sum := by
    rw [h.bytes]; exact Nat.sub_eq_of_eq_add hm.symm
  exact ⟨hy, (Nat.sub_le _ _).trans h.within, fun other kept hge => h.sized other kept (hk hge), h.next,
    h.revisions, fun other kept hge => h.cached other kept (hk hge)⟩

theorem updateSurfaceShmFrame_spec (budget : Nat) (s : ShmCache) (surf : ObjectId) (buf : Buffer) (a : Access) :
    Reframed budget surf s (s.updateSurfaceShmFrame budget surf buf a) ∧
      ∀ frame, (s.updateSurfaceShmFrame budget surf buf a).surfaceShmFrames.get? surf = some frame →
        ∃ data, buf = .shm data := by
  obtain ⟨hr, hnone⟩ := removeSurfaceShmFrame_spec budget s surf; unfold updateSurfaceShmFrame
  generalize s.removeSurfaceShmFrame surf = t at hr hnone
  have hu : Reframed budget surf s t ∧
      ∀ frame, t.surfaceShmFrames.get? surf = some frame → ∃ data, buf = .shm data := by
    refine ⟨hr, fun frame hf => ?_⟩
    rw [hnone] at hf; cases hf
  simp only
  split
  swap
  · exact hu
  swap
  · exact hu
  rename_i frame hsn
  obtain ⟨hh, hv, hs, hfi⟩ := snapshotShmBuffer_spec hsn; split
  · exact hu
  rename_i fb hlen; rw [rgbaPayloadLen_frame hs.1 hs.2] at hlen; cases hlen
  split
  · exact hu
  rename_i tt hto
  obtain ⟨-, rfl⟩ := checked_eq_some_iff.1 hto
  have hre := hr.rest
  refine ⟨⟨by rw [hre], fun other hne => ?_, fun h => ?_⟩, fun _ _ => hh⟩
  · simp only
    rw [LinkedMap.get?_set, if_neg hne]; exact hr.others other hne
  · obtain ⟨hy, hw, hz, hn, hrv, hca⟩ := hr.counted h
    have hva : (t.surfaceShmFrames.set surf frame).values = t.surfaceShmFrames.values ++ [frame] := by
      unfold LinkedMap.set
      rw [dif_neg (by rw [LinkedMap.contains, hnone]; simp)]; simp [LinkedMap.values]
    have hfb : frame.bytes = frame.width * frame.height * 4 := by
      unfold ShmTextureFrame.bytes; ring
    refine ⟨?_, ?_, ?_, ?_, ?_, ?_⟩
    · simp only
      rw [hva, hy, List.map_append, List.sum_append]; simp
    · simp only
      omega
    · intro other kept hk
      simp only [LinkedMap.get?_set] at hk; split at hk
      · exact Option.some.inj hk ▸ hs
      · exact hz other kept hk
    · simp only [List.length_append, List.length_singleton]
      rw [hn]; rfl
    · simp only [List.length_append, List.length_singleton, List.range_succ, List.map_append, List.map_singleton]
      rw [← hrv, hn]
    · intro other kept hk
      simp only [LinkedMap.get?_set] at hk; split at hk
      · rw [← Option.some.inj hk, hv]
        exact List.mem_append_right _ (List.mem_singleton.2 rfl)
      · exact List.mem_append_left _ (hca other kept hk)

/-! ## Publications -/

/-- A buffer of shared memory. -/
def IsShm (buffer : Option Buffer) : Prop := ∃ data, buffer = some (.shm data)

/-- Every frame is of a surface whose buffer is shared memory, or which is still to be published with a new one. -/
def Explained (rest : List ObjectId) (s : ShmCache) : Prop :=
  ∀ surface frame, s.surfaceShmFrames.get? surface = some frame → IsShm (s.buffers surface) ∨
    surface ∈ rest ∧ surface ∈ s.pendingSurfaceCommits ∧
      (surface ∈ s.pendingShmSnapshots ∨ ∀ buffer, s.buffers surface = some buffer → buffer.isDmabuf = true)

/-- What publishing one surface changes. -/
structure Publishes (budget : Nat) (s s' : ShmCache) : Prop where
  assigned : s'.assigned = s.assigned
  buffers : s'.buffers = s.buffers
  counted : Counted budget s → Counted budget s'

variable {s : ShmCache}

theorem Explained.drop {surf : ObjectId} {rest : List ObjectId} {s' : ShmCache} (h : Explained (surf :: rest) s)
    (hbu : s'.buffers = s.buffers)
    (hco : ∀ other, other ≠ surf → other ∈ s.pendingSurfaceCommits → other ∈ s'.pendingSurfaceCommits)
    (hs : ∀ other, other ≠ surf → other ∈ s.pendingShmSnapshots → other ∈ s'.pendingShmSnapshots)
    (ho : ∀ other, other ≠ surf → s'.surfaceShmFrames.get? other = s.surfaceShmFrames.get? other)
    (hw : ∀ frame, s'.surfaceShmFrames.get? surf = some frame → IsShm (s.buffers surf)) : Explained rest s' := by
  intro other frame hf; rw [hbu]
  by_cases hne : other = surf
  · exact .inl (hne ▸ hw frame (hne ▸ hf))
  rw [ho other hne] at hf
  rcases h other frame hf with hh | ⟨hmem, hm, hbf⟩
  · exact .inl hh
  · refine .inr ⟨(List.mem_cons.1 hmem).resolve_left hne, hco other hne hm, ?_⟩
    exact hbf.imp_left (hs other hne)

theorem publishes_of_reframed {s' : ShmCache} {surface : ObjectId} (rest : List ObjectId) (h : Reframed budget surface
      { s with
        pendingSurfaceCommits := s.pendingSurfaceCommits.erase surface
        pendingShmSnapshots := s.pendingShmSnapshots.erase surface } s')
    (ho : ∀ frame, s'.surfaceShmFrames.get? surface = some frame → IsShm (s.buffers surface)) :
    Publishes budget s s' ∧ (Explained (surface :: rest) s → Explained rest s') := by
  have hass : s'.assigned = s.assigned := by rw [h.rest]
  have hf : s'.buffers = s.buffers := by rw [h.rest]
  have hm : s'.pendingSurfaceCommits = s.pendingSurfaceCommits.erase surface := by rw [h.rest]
  have hn : s'.pendingShmSnapshots = s.pendingShmSnapshots.erase surface := by rw [h.rest]
  refine ⟨⟨hass, hf, fun hs => h.counted ⟨hs.bytes, hs.within, hs.sized, hs.next, hs.revisions, hs.cached⟩⟩,
    fun hs => hs.drop hf ?_ ?_ h.others ho⟩
  · intro other hne hmem
    rw [hm]; exact Finset.mem_erase.2 ⟨hne, hmem⟩
  · intro other hne hmem
    rw [hn]; exact Finset.mem_erase.2 ⟨hne, hmem⟩

theorem publishSurface_spec (budget : Nat) (a : ObjectId → Access) (s : ShmCache) (surf : ObjectId) (rest : List ObjectId) :
    Publishes budget s (publishSurface budget a s surf) ∧
      (Explained (surf :: rest) s → Explained rest (publishSurface budget a s surf)) := by
  have hr := removeSurfaceShmFrame_spec budget
    { s with
      pendingSurfaceCommits := s.pendingSurfaceCommits.erase surf
      pendingShmSnapshots := s.pendingShmSnapshots.erase surf } surf
  unfold publishSurface; split
  · rename_i hil
    refine ⟨⟨rfl, rfl, id⟩, fun h => h.drop rfl (fun _ _ h => h) (fun _ _ h => h) (fun _ _ => rfl) fun frame hf => ?_⟩
    exact (h surf frame hf).resolve_right fun hn => hil hn.2.1
  simp only
  split
  · exact publishes_of_reframed rest hr.1 fun frame hf => (by rw [hr.2] at hf; cases hf)
  · exact publishes_of_reframed rest hr.1 fun frame hf => (by rw [hr.2] at hf; cases hf)
  rename_i buffer hd hbu; split
  · obtain ⟨hre, hh⟩ := updateSurfaceShmFrame_spec budget
      { s with
        pendingSurfaceCommits := s.pendingSurfaceCommits.erase surf
        pendingShmSnapshots := s.pendingShmSnapshots.erase surf } surf buffer (a surf)
    refine publishes_of_reframed rest hre fun frame hf => ?_
    obtain ⟨data, rfl⟩ := hh frame hf; exact ⟨data, hbu⟩
  · -- the frame is of a buffer that was published before
    rename_i hk
    refine ⟨⟨rfl, rfl, fun hs => ⟨hs.bytes, hs.within, hs.sized, hs.next, hs.revisions, hs.cached⟩⟩,
      fun h => h.drop rfl (fun other hne hmem => Finset.mem_erase.2 ⟨hne, hmem⟩) (fun _ _ h => h) (fun _ _ => rfl)
        fun frame hf => ?_⟩
    refine (h surf frame hf).resolve_right fun hn => ?_
    rcases hn.2.2 with hsn | hal
    · exact hk (.inl hsn)
    have his := hal buffer hbu
    cases buffer with
    | dmabuf id => exact hd id rfl
    | shm | unmanaged => cases his

theorem publish_spec (budget : Nat) (a : ObjectId → Access) : ∀ (published : List ObjectId) (s : ShmCache),
    Publishes budget s (published.foldl (publishSurface budget a) s) ∧
      (Explained published s → Explained [] (published.foldl (publishSurface budget a) s))
  | [], s => ⟨⟨rfl, rfl, id⟩, id⟩
  | surface :: rest, s => by
    obtain ⟨hstep, he⟩ := publishSurface_spec budget a s surface rest
    obtain ⟨hr, hal⟩ := publish_spec budget a rest (publishSurface budget a s surface)
    rw [List.foldl_cons]
    exact ⟨⟨hr.assigned.trans hstep.assigned, hr.buffers.trans hstep.buffers,
      fun h => hr.counted (hstep.counted h)⟩, fun h => hal (he h)⟩

/-! ## Transactions -/

/-- Within a transaction: what is assigned is to be published, in a tree, and with a new snapshot of what is no dmabuf. -/
structure Owed (budget : Nat) (tree : List ObjectId) (s : ShmCache) : Prop where
  counted : Counted budget s
  queued : ∀ surface buffer, s.assigned surface = some buffer → surface ∈ tree ∧ surface ∈ s.pendingSurfaceCommits
  noted : ∀ surface buffer, s.assigned surface = some (some buffer) → buffer.isDmabuf = false →
    surface ∈ s.pendingShmSnapshots
  shm : ∀ surface frame, s.surfaceShmFrames.get? surface = some frame → IsShm (s.buffers surface)

/-- Between transactions nothing is assigned. -/
structure Sound (budget : Nat) (s : ShmCache) : Prop where
  counted : Counted budget s
  taken : ∀ surface, s.assigned surface = none
  shm : ∀ surface frame, s.surfaceShmFrames.get? surface = some frame → IsShm (s.buffers surface)

theorem Sound.owed (h : Sound budget s) (tree : List ObjectId) : Owed budget tree s :=
  ⟨h.counted, fun surface _ hsome => (by rw [h.taken] at hsome; cases hsome),
    fun surface _ hsome => (by rw [h.taken] at hsome; cases hsome), h.shm⟩

theorem noteBuffer_spec (s : ShmCache) (surf : ObjectId) :
    s.noteBuffer surf = { s with pendingShmSnapshots := (s.noteBuffer surf).pendingShmSnapshots } ∧
      (∀ other, other ≠ surf → other ∈ s.pendingShmSnapshots → other ∈ (s.noteBuffer surf).pendingShmSnapshots) ∧
      ∀ buffer, s.assigned surf = some (some buffer) → buffer.isDmabuf = false →
        surf ∈ (s.noteBuffer surf).pendingShmSnapshots := by
  unfold noteBuffer; split
  · rename_i buffer hs; split
    · rename_i hd
      refine ⟨rfl, fun other hne hmem => Finset.mem_erase.2 ⟨hne, hmem⟩, fun other ho hno => ?_⟩
      rw [hs] at ho
      rw [← Option.some.inj (Option.some.inj ho), hd] at hno; cases hno
    · exact ⟨rfl, fun other _ hmem => Finset.mem_insert_of_mem hmem, fun _ _ _ => Finset.mem_insert_self _ _⟩
  · rename_i hs
    refine ⟨rfl, fun other hne hmem => Finset.mem_erase.2 ⟨hne, hmem⟩, fun other ho _ => ?_⟩
    rw [hs] at ho; cases ho
  · rename_i hs
    refine ⟨rfl, fun _ _ hmem => hmem, fun other ho _ => ?_⟩
    rw [hs] at ho; cases ho

variable {c : SurfaceCommit}

theorem assign_spec {tree : List ObjectId} (h : Owed budget tree s) (hmem : c.surface ∈ tree) :
    Counted budget (s.assign c) ∧ (∀ surface buffer, (s.assign c).assigned surface = some buffer → surface ∈ tree ∧
        (surface = c.surface ∧ (c.update.or (s.assigned c.surface)).isSome = true ∨
          surface ∈ (s.assign c).pendingSurfaceCommits)) ∧
      (∀ surface buffer, (s.assign c).assigned surface = some (some buffer) → buffer.isDmabuf = false →
        surface ∈ (s.assign c).pendingShmSnapshots) ∧
      ∀ surface frame, (s.assign c).surfaceShmFrames.get? surface = some frame → IsShm ((s.assign c).buffers surface) := by
  obtain ⟨hr, ho, hw⟩ := noteBuffer_spec
    { s with assigned := Function.update s.assigned c.surface (c.update.or (s.assigned c.surface)) } c.surface
  have hass : (s.assign c).assigned =
      Function.update s.assigned c.surface (c.update.or (s.assigned c.surface)) := by
    unfold assign; rw [hr]
  have hm : (s.assign c).pendingSurfaceCommits = s.pendingSurfaceCommits := by
    unfold assign; rw [hr]
  refine ⟨?_, ?_, ?_, ?_⟩
  · unfold assign; rw [hr]
    exact ⟨h.counted.bytes, h.counted.within, h.counted.sized, h.counted.next, h.counted.revisions, h.counted.cached⟩
  · intro surface buffer hsome; rw [hass] at hsome
    rw [hm]
    by_cases hs : surface = c.surface
    · subst hs
      rw [Function.update_self] at hsome; exact ⟨hmem, .inl ⟨rfl, by rw [hsome]; rfl⟩⟩
    · rw [Function.update_of_ne hs] at hsome
      exact (h.queued surface buffer hsome).imp_right .inr
  · intro surface buffer hsome hno
    by_cases hs : surface = c.surface
    · subst hs
      rw [hass] at hsome; exact hw buffer hsome hno
    · rw [hass, Function.update_of_ne hs] at hsome
      exact ho surface hs (h.noted surface buffer hsome hno)
  · unfold assign
    rw [hr]; exact h.shm

theorem commit_synchronized (handler : BufferHandler) {tree : List ObjectId} (h : Owed budget tree s)
    (hmem : c.surface ∈ tree) : Owed budget tree (s.commit handler budget none c) := by
  obtain ⟨hn, hd, hno, hs⟩ := assign_spec h hmem
  have heq : s.commit handler budget none c =
      if (c.update.or (s.assigned c.surface)).isSome || c.samplingChanged then (s.assign c).queueSurfaceCommit c.surface
      else s.assign c := rfl
  rw [heq]; split
  · refine ⟨⟨hn.bytes, hn.within, hn.sized, hn.next, hn.revisions, hn.cached⟩,
      fun surface buffer hsome => ?_, hno, hs⟩
    obtain ⟨hr, ⟨rfl, -⟩ | hpe⟩ := hd surface buffer hsome
    · exact ⟨hr, Finset.mem_insert_self _ _⟩
    · exact ⟨hr, Finset.mem_insert_of_mem hpe⟩
  · rename_i hil
    refine ⟨hn, fun surface buffer hsome => ?_, hno, hs⟩
    obtain ⟨hr, ⟨-, hu⟩ | hpe⟩ := hd surface buffer hsome
    · simp [hu] at hil
    · exact ⟨hr, hpe⟩

theorem commit_root (handler : BufferHandler) (p : Publication) (h : Owed budget p.tree s) (hmem : c.surface ∈ p.tree) :
    Sound budget (s.commit handler budget (some p) c) := by
  obtain ⟨hn, hd, hnt, hh⟩ := assign_spec h hmem
  obtain ⟨t, ht, hco, hw, hr⟩ : ∃ t : ShmCache,
      s.commit handler budget (some p) c = p.published.foldl (publishSurface budget p.access) t ∧
      (∀ surface, surface ∈ (s.assign c).pendingSurfaceCommits → surface ∈ t.pendingSurfaceCommits) ∧
      ((c.update.or (s.assigned c.surface)).isSome = true → c.surface ∈ t.pendingSurfaceCommits) ∧
      t = { (s.assign c).takeBuffers handler p.tree with pendingSurfaceCommits := t.pendingSurfaceCommits } := by
    refine ⟨_, rfl, fun surface hpe => ?_, fun hu => ?_, ?_⟩
    · split
      · exact Finset.mem_insert_of_mem hpe
      · exact hpe
    · rw [if_pos (by rw [hu]; rfl)]; exact Finset.mem_insert_self _ _
    · split <;> rfl
  have hai : t.assigned = fun surface => if surface ∈ p.tree then none else (s.assign c).assigned surface := by
    rw [hr]; rfl
  have hbu : t.buffers = handler.commit p.tree (s.assign c).assigned (s.assign c).buffers := by
    rw [hr]; rfl
  have hm : t.surfaceShmFrames = (s.assign c).surfaceShmFrames := by
    rw [hr]; rfl
  have hsa : t.pendingShmSnapshots = (s.assign c).pendingShmSnapshots := by
    rw [hr]; rfl
  have hn : Counted budget t := by
    rw [hr]
    exact ⟨hn.bytes, hn.within, hn.sized, hn.next, hn.revisions, hn.cached⟩
  have he : Explained p.published t := by
    intro surface frame hf; rw [hm] at hf
    rw [hbu, hsa]
    cases hs : (s.assign c).assigned surface with
    | none =>
      rw [handler.unassigned hs]; exact .inl (hh surface frame hf)
    | some buffer =>
      obtain ⟨htr, hpe⟩ := hd surface buffer hs; rw [handler.assigned htr hs]
      refine .inr ⟨p.covers htr, ?_, ?_⟩
      · rcases hpe with ⟨rfl, hu⟩ | hpe
        · exact hw hu
        · exact hco surface hpe
      · by_cases hsn : ∃ a, buffer = some a ∧ a.isDmabuf = false
        · obtain ⟨a, rfl, hno⟩ := hsn; exact .inl (hnt surface a hs hno)
        refine .inr fun a hat => ?_
        by_contra hno
        exact hsn ⟨a, hat, by simpa using hno⟩
  obtain ⟨hpu, hal⟩ := publish_spec budget p.access p.published t; rw [ht]
  refine ⟨hpu.counted hn, fun surface => ?_, fun surface frame hf => ?_⟩
  · rw [hpu.assigned, hai]
    simp only
    split
    · rfl
    rename_i ho
    cases hs : (s.assign c).assigned surface with
    | none => rfl
    | some buffer => exact absurd (hd surface buffer hs).1 ho
  · exact (hal he surface frame hf).resolve_right fun hpe => List.not_mem_nil hpe.1

theorem next_sound (handler : BufferHandler) (e : Event) (h : Sound budget s) :
    Sound budget (s.next handler budget e) := by
  cases e with
  | committed t =>
    obtain ⟨hro, hsu⟩ := List.forall_mem_cons.1 t.within
    refine commit_root handler t.publication ?_ hro
    have ho : ∀ (cs : List SurfaceCommit) {s : ShmCache}, (∀ c ∈ cs, c.surface ∈ t.publication.tree) →
        Owed budget t.publication.tree s →
          Owed budget t.publication.tree (cs.foldl (commit handler budget none) s) := by
      intro cs
      induction cs with
      | nil => exact fun _ h => h
      | cons c cs ih =>
        intro s hmem hs
        obtain ⟨hc, hm⟩ := List.forall_mem_cons.1 hmem
        exact ih hm (commit_synchronized handler hs hc)
    exact ho t.subsurfaces hsu (h.owed _)
  | removed surface =>
    obtain ⟨hr, -⟩ := removeSurfaceShmFrame_spec budget s surface
    obtain ⟨hy, hw, hz, hn, hv, hca⟩ := hr.counted h.counted
    have hass : (s.removeSurfaceState surface).assigned = s.assigned := by
      unfold removeSurfaceState; rw [hr.rest]
    have hbu : (s.removeSurfaceState surface).buffers = s.buffers := by
      unfold removeSurfaceState; rw [hr.rest]
    refine ⟨⟨hy, hw, hz, hn, hv, hca⟩, fun other => ?_, fun other frame hf => ?_⟩
    · exact (congrFun hass other).trans (h.taken other)
    · have hf : (s.removeSurfaceShmFrame surface).surfaceShmFrames.get? other = some frame := hf
      rw [show (s.next handler budget (.removed surface)).buffers = s.buffers from hbu]
      by_cases hne : other = surface
      · rw [hne, (removeSurfaceShmFrame_spec budget s surface).2] at hf; cases hf
      · rw [hr.others other hne] at hf; exact h.shm other frame hf

theorem sound_start : Sound budget {} :=
  ⟨⟨rfl, Nat.zero_le _, fun _ _ h => (by cases h), rfl, rfl, fun _ _ h => (by cases h)⟩, fun _ => rfl,
    fun _ _ h => (by cases h)⟩

end ShmCache

/-! ## Runs -/

/-- What holds of the cache in every run. -/
structure Cached (budget : Nat) (s : ShmCache) : Prop where
  bytes : s.shmSnapshotBytes = (s.surfaceShmFrames.values.map fun frame => 4 * frame.width * frame.height).sum
  within : s.shmSnapshotBytes ≤ budget
  revision : ∀ surface frame, s.surfaceShmFrames.get? surface = some frame →
    frame.revision ≠ 0 ∧ frame.revision ∈ s.revisions
  fresh : ∀ i j, i < j → j < i + cycle → j < s.revisions.length → s.revisions[i]? ≠ s.revisions[j]?
  shm : ∀ surface frame, s.surfaceShmFrames.get? surface = some frame → ∃ data, s.buffers surface = some (.shm data)

theorem cached_of_sound {budget : Nat} {s : ShmCache} (h : s.Sound budget) : Cached budget s := by
  obtain ⟨⟨hy, hw, -, -, hr, hca⟩, -, hh⟩ := h
  have hs : ∀ k < s.revisions.length, s.revisions[k]? = some (serialOf (k + 1)) := by
    intro k hk
    rw [hr, List.getElem?_map, List.getElem?_range hk]; rfl
  refine ⟨hy, hw, fun surface frame hf => ⟨?_, hca surface frame hf⟩, ?_, hh⟩
  · have hmem := hca surface frame hf; rw [hr] at hmem
    obtain ⟨k, -, hk⟩ := List.mem_map.1 hmem
    rw [← hk]; exact serialOf_ne_zero k
  · intro i j hij hcy hj heq; rw [hs i (hij.trans hj), hs j hj] at heq
    have := serialOf_inj (Nat.succ_pos i) (by omega) (by omega) (Option.some.inj heq)
    omega

/-- In every run the cache counts the bytes of its frames, within the budget; no revision is used twice within a cycle,
and a surface has a frame only while its buffer is shared memory. Of every layout that is accepted, each row is read
within the pool and written within the payload. -/
theorem shm_snapshots (handler : BufferHandler) (budget : Nat) (events : List Event) :
    Cached budget (exec (ShmCache.next handler budget) {} events) ∧
    ∀ width height offset stride poolLen available layout,
      validateShmLayout width height offset stride poolLen available = .ok layout → ∀ copy ∈ layout.rowCopies,
        (copy.source + copy.bytes ≤ poolLen ∧ copy.source + copy.bytes < 2 ^ 64) ∧
          copy.destination + copy.bytes ≤ layout.payloadLen ∧ copy.destination + copy.bytes < 2 ^ 64 := by
  refine ⟨cached_of_sound (exec_invariant (fun _ e => ShmCache.next_sound handler e) events ShmCache.sound_start), ?_⟩
  intro width height offset stride poolLen available layout h copy hcop
  exact rowCopy_in_bounds (validateShmLayout_valid h) hcop

/-! ## A run -/

/-- The handler as the library documents it. -/
def treeHandler : BufferHandler where
  commit tree assigned buffers surface :=
    if surface ∈ tree then (assigned surface).getD (buffers surface) else buffers surface
  assigned hmem hsome := by rw [if_pos hmem, hsome]; rfl
  unassigned hnone := by rw [hnone]; split <;> rfl

def attach (surface : ObjectId) (buffer : Option Buffer) : Event :=
  .committed
    { subsurfaces := []
      root := ⟨surface, some buffer, false⟩
      publication := ⟨[surface], [surface], fun _ => ⟨.ok 4096, .ok ()⟩, List.Subset.refl _⟩
      within := fun _ hc => List.mem_singleton.2 (congrArg SurfaceCommit.surface (List.mem_singleton.1 hc)) }

/-- A surface goes from shared memory to a dmabuf, beside another. -/
theorem shm_snapshots_replaced :
    Cached 1024 (exec (ShmCache.next treeHandler 1024) {} [attach 1 (some (.shm ⟨.argb8888, 10, 10, 0, 40⟩)),
      attach 2 (some (.shm ⟨.xrgb8888, 8, 8, 64, 64⟩)), attach 1 (some (.dmabuf 7))]) ∧
    (exec (ShmCache.next treeHandler 1024) {} [attach 1 (some (.shm ⟨.argb8888, 10, 10, 0, 40⟩)),
      attach 2 (some (.shm ⟨.xrgb8888, 8, 8, 64, 64⟩)), attach 1 (some (.dmabuf 7))]).shmSnapshotBytes = 256 :=
  ⟨(shm_snapshots treeHandler 1024 _).1, by decide +kernel⟩

end Deniald.Shm
