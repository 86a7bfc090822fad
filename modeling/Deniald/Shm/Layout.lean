/-
Snapshots of shared memory (surface_snapshot.rs): the layout of a client's buffer is checked in `usize` before any of
its rows is copied, and each row then lies within its pool and within the payload.
-/
import Deniald.Lib.Fallible
import Mathlib.Tactic.Ring

namespace Deniald.Shm

open Deniald.Lib

/-! ## Sizes -/

def shmBytesPerPixel : Nat := 4

def maxShmTextureDimension : Nat := 16384

def maxShmSnapshotBytes : Nat := 256 * 1024 * 1024

/-- A result of `usize`'s checked operations. -/
def checked (n : Nat) : Option Nat := if n < 2 ^ 64 then some n else none

theorem checked_eq_some_iff {n m : Nat} : checked n = some m ↔ n < 2 ^ 64 ∧ n = m := by
  unfold checked
  split <;> simp_all

def rgbaPayloadLen (width height : Nat) : Option Nat :=
  (checked (width * height)).bind fun pixels => checked (pixels * shmBytesPerPixel)

theorem rgbaPayloadLen_eq {width height : Nat} (hw : width ≤ maxShmTextureDimension)
    (hhe : height ≤ maxShmTextureDimension) : rgbaPayloadLen width height = some (width * height * 4) := by
  have hpi : width * height ≤ 16384 * 16384 := Nat.mul_le_mul hw hhe
  have hh : checked (width * height) = some (width * height) := checked_eq_some_iff.2 ⟨by omega, rfl⟩
  unfold rgbaPayloadLen shmBytesPerPixel
  rw [hh, Option.bind_some]; exact checked_eq_some_iff.2 ⟨by omega, rfl⟩

/-- `usize::try_from` of an `i32`. -/
def toUsize (n : Int) (error : String) : Except String Nat := if 0 ≤ n then .ok n.toNat else .error error

/-- `Option::ok_or`. -/
def okOr {α : Type} (x : Option α) (error : String) : Except String α := x.elim (.error error) .ok

theorem okOr_ok {α : Type} {x : Option α} {error : String} {a : α} : okOr x error = .ok a ↔ x = some a := by
  cases x <;> simp [okOr]

/-! ## Layouts -/

structure ShmLayout where
  width : Nat
  height : Nat
  offset : Nat
  stride : Nat
  rowBytes : Nat
  payloadLen : Nat

def validateShmLayout (width height offset stride : Int) (poolLen availableCacheBytes : Nat) :
    Except String ShmLayout := do
  let width ← toUsize width "SHM buffer has a negative width"
  let height ← toUsize height "SHM buffer has a negative height"
  if width = 0 ∨ height = 0 then .error "SHM buffer has an empty extent"
  else if maxShmTextureDimension < width ∨ maxShmTextureDimension < height then
    .error "SHM buffer exceeds the maximum texture dimension"
  else
    let offset ← toUsize offset "SHM buffer has a negative pool offset"
    let stride ← toUsize stride "SHM buffer has a negative stride"
    let rowBytes ← okOr (checked (width * shmBytesPerPixel)) "SHM row byte count overflows usize"
    if stride < rowBytes then .error "SHM buffer stride is smaller than one pixel row"
    else
      let lastRow ← okOr (checked ((height - 1) * stride)) "SHM buffer row offset overflows usize"
      let required ← okOr ((checked (offset + lastRow)).bind fun last => checked (last + rowBytes))
        "SHM buffer range overflows usize"
      if poolLen < required then .error "SHM buffer range exceeds its pool"
      else
        let payloadLen ← okOr (checked (rowBytes * height)) "SHM texture payload overflows usize"
        if min availableCacheBytes maxShmSnapshotBytes < payloadLen then
          .error "SHM texture payload exceeds the snapshot memory budget"
        else .ok ⟨width, height, offset, stride, rowBytes, payloadLen⟩

structure ShmLayout.Valid (layout : ShmLayout) (poolLen availableCacheBytes : Nat) : Prop where
  width : 0 < layout.width ∧ layout.width ≤ maxShmTextureDimension
  height : 0 < layout.height ∧ layout.height ≤ maxShmTextureDimension
  rowBytes : layout.rowBytes = layout.width * 4
  stride : layout.rowBytes ≤ layout.stride
  pool : layout.offset + (layout.height - 1) * layout.stride + layout.rowBytes ≤ poolLen
  usize : layout.offset + (layout.height - 1) * layout.stride + layout.rowBytes < 2 ^ 64
  payload : layout.payloadLen = layout.rowBytes * layout.height
  payloadUsize : layout.payloadLen < 2 ^ 64
  budget : layout.payloadLen ≤ availableCacheBytes

variable {available poolLen : Nat} {layout : ShmLayout}

theorem validateShmLayout_valid {width height off s : Int}
    (h : validateShmLayout width height off s poolLen available = .ok layout) : layout.Valid poolLen available := by
  obtain ⟨width, -, h⟩ := bind_ok.1 h
  obtain ⟨height, -, h⟩ := bind_ok.1 h; split at h
  · cases h
  rename_i hso; split at h
  · cases h
  rename_i hm
  obtain ⟨off, -, h⟩ := bind_ok.1 h
  obtain ⟨s, -, h⟩ := bind_ok.1 h
  obtain ⟨rb, hw, h⟩ := bind_ok.1 h
  obtain ⟨-, rfl⟩ := checked_eq_some_iff.1 (okOr_ok.1 hw); split at h
  · cases h
  rename_i hst
  obtain ⟨lr, hs, h⟩ := bind_ok.1 h
  obtain ⟨-, rfl⟩ := checked_eq_some_iff.1 (okOr_ok.1 hs)
  obtain ⟨required, hr, h⟩ := bind_ok.1 h
  obtain ⟨last, hs, hr⟩ := Option.bind_eq_some_iff.1 (okOr_ok.1 hr)
  obtain ⟨-, rfl⟩ := checked_eq_some_iff.1 hs
  obtain ⟨hu, rfl⟩ := checked_eq_some_iff.1 hr; split at h
  · cases h
  rename_i hpo
  obtain ⟨pl, hy, h⟩ := bind_ok.1 h
  obtain ⟨hpu, rfl⟩ := checked_eq_some_iff.1 (okOr_ok.1 hy); split at h
  · cases h
  rename_i hd; cases h
  obtain ⟨hwi, hh⟩ := not_or.1 hso
  obtain ⟨hw', hh'⟩ := not_or.1 hm
  exact ⟨⟨Nat.pos_of_ne_zero hwi, not_lt.1 hw'⟩, ⟨Nat.pos_of_ne_zero hh, not_lt.1 hh'⟩, rfl,
    not_lt.1 hst, not_lt.1 hpo, hu, rfl, hpu, (not_lt.1 hd).trans (min_le_left _ _)⟩

theorem ShmLayout.Valid.payloadLen_eq (h : layout.Valid poolLen available) :
    layout.payloadLen = layout.width * layout.height * 4 := by
  rw [h.payload, h.rowBytes]; ring

/-! ## Rows -/

/-- What one round of the copy loop copies: so many bytes, from where in the pool to where in the payload. -/
structure RowCopy where
  source : Nat
  destination : Nat
  bytes : Nat

def ShmLayout.rowCopy (layout : ShmLayout) (row : Nat) : RowCopy :=
  ⟨layout.offset + row * layout.stride, row * layout.rowBytes, layout.rowBytes⟩

/-- The copies of `snapshot_shm_buffer`, row for row. -/
def ShmLayout.rowCopies (layout : ShmLayout) : List RowCopy := (List.range layout.height).map layout.rowCopy

/-- Every row is read within the pool and written within the payload, at places that `usize` holds. -/
theorem rowCopy_in_bounds (h : layout.Valid poolLen available) {copy : RowCopy} (hco : copy ∈ layout.rowCopies) :
    (copy.source + copy.bytes ≤ poolLen ∧ copy.source + copy.bytes < 2 ^ 64) ∧
      copy.destination + copy.bytes ≤ layout.payloadLen ∧ copy.destination + copy.bytes < 2 ^ 64 := by
  obtain ⟨row, hr, rfl⟩ := List.mem_map.1 hco; rw [List.mem_range] at hr
  have hs : row * layout.stride ≤ (layout.height - 1) * layout.stride := Nat.mul_le_mul_right _ (by omega)
  have hd : row * layout.rowBytes + layout.rowBytes ≤ layout.payloadLen := calc
    row * layout.rowBytes + layout.rowBytes = layout.rowBytes * (row + 1) := by ring
    _ ≤ layout.rowBytes * layout.height := Nat.mul_le_mul_left _ hr
    _ = layout.payloadLen := h.payload.symm
  have hpo := h.pool
  have hu := h.usize
  have hy := h.payloadUsize
  simp only [ShmLayout.rowCopy]; omega

end Deniald.Shm
