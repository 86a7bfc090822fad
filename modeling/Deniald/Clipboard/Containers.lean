/-
The containers of clipboard images: the walks over their bytes with every read and sum checked, and what the bytes up to
the frame header of an admitted image are.
-/
import Deniald.Clipboard.Item
import Deniald.Lib.Slice

namespace Deniald.Clipboard

open Deniald.Lib

/-! ## Checked walks -/

inductive WalkFault where
  | outOfBounds
  | overflow
  | outOfFuel

/-- A walk answers, returns `None`, or stops on a fault. -/
abbrev Walk (α : Type) := Except (Option WalkFault) α

/-- A slice has at most `isize::MAX` bytes. -/
abbrev Slice := { data : List UInt8 // data.length < 2 ^ 63 }

/-- `get` returns `None` past the end of a slice; indexing panics there. -/
def get : List UInt8 → Nat → Nat → Walk (List UInt8) := partOr none

def index : List UInt8 → Nat → Nat → Walk (List UInt8) := partOr (some .outOfBounds)

def checkedAdd : Nat → Nat → Walk Nat := sumOr none 64

def addUsize : Nat → Nat → Walk Nat := sumOr (some .overflow) 64

def addU32 : Nat → Nat → Walk Nat := sumOr (some .overflow) 32

def pngHeader (data kind : List UInt8) (length payloadStart : Nat) : Option (Nat × Nat) → Walk (Nat × Nat)
  | some dimensions => .ok dimensions
  | none =>
    if kind ≠ asBytes "IHDR" ∨ length ≠ 13 then .error none
    else do
      let width ← get data payloadStart (← addUsize payloadStart 4)
      let height ← get data (← addUsize payloadStart 4) (← addUsize payloadStart 8)
      return (fromBeBytes width, fromBeBytes height)

def pngLoop (data : List UInt8) : Nat → Nat → Option (Nat × Nat) → Walk (Nat × Nat)
  | 0, _, _ => .error (some .outOfFuel)
  | fuel + 1, cursor, dimensions => do
    if data.length < (← checkedAdd cursor 12) then .error none
    else
      let length := fromBeBytes (← get data cursor (← addUsize cursor 4))
      let kind ← get data (← addUsize cursor 4) (← addUsize cursor 8)
      let payloadStart ← addUsize cursor 8
      let payloadEnd ← checkedAdd payloadStart length
      let chunkEnd ← checkedAdd payloadEnd 4
      if data.length < chunkEnd then .error none
      else
        let dimensions ← pngHeader data kind length payloadStart dimensions
        if kind = asBytes "IEND" then if length ≠ 0 ∨ chunkEnd ≠ data.length then .error none else .ok dimensions
        else pngLoop data fuel chunkEnd (some dimensions)

def pngWalk (data : List UInt8) : Walk (Nat × Nat) :=
  if pngSignature.isPrefixOf data then pngLoop data data.length 8 none else .error none

def jpegLoop (data : List UInt8) : Nat → Nat → Walk (Nat × Nat)
  | 0, _ => .error (some .outOfFuel)
  | fuel + 1, cursor => do
    if data.length ≤ (← addUsize cursor 1) then .error none
    else
      -- Each step of the inner loop has a byte at the cursor.
      let cursor ← addUsize cursor ((data.drop cursor).takeWhile (· = 0xff)).length
      let marker ← data[cursor]?.elim (.error none) .ok
      let cursor ← addUsize cursor 1
      if marker = 0xd9 ∨ marker = 0xda then .error none
      else if marker = 0x01 ∨ (0xd0 ≤ marker ∧ marker ≤ 0xd7) then jpegLoop data fuel cursor
      else
        let segmentLen := fromBeBytes (← get data cursor (← addUsize cursor 2))
        if segmentLen < 2 then .error none
        else
          let segmentEnd ← checkedAdd cursor segmentLen
          if data.length < segmentEnd then .error none
          else if marker ∈ frameMarkers then
            if segmentLen < 7 then .error none
            else
              let height ← get data (← addUsize cursor 3) (← addUsize cursor 5)
              let width ← get data (← addUsize cursor 5) (← addUsize cursor 7)
              return (fromBeBytes width, fromBeBytes height)
          else jpegLoop data fuel segmentEnd

def jpegWalk (data : List UInt8) : Walk (Nat × Nat) :=
  if 4 ≤ data.length ∧ range data 0 2 = [0xff, 0xd8] ∧ data.drop (data.length - 2) = [0xff, 0xd9] then
    jpegLoop data data.length 2
  else .error none

/-- `none` where the chunk gives no dimensions. -/
def webpHeader (kind payload : List UInt8) : Walk (Option (Nat × Nat)) :=
  if kind = asBytes "VP8X" ∧ 10 ≤ payload.length then do
    let width ← addU32 1 (fromLeBytes (← index payload 4 7))
    let height ← addU32 1 (fromLeBytes (← index payload 7 10))
    return some (width, height)
  else if kind = asBytes "VP8L" ∧ 5 ≤ payload.length ∧ payload[0]? = some 0x2f then do
    let bits := fromLeBytes (← index payload 1 5)
    return some (← addU32 1 (bits % 0x4000), ← addU32 1 (bits / 0x4000 % 0x4000))
  else if kind = asBytes "VP8 " ∧ 10 ≤ payload.length ∧ range payload 3 6 = [0x9d, 0x01, 0x2a] then do
    let width ← index payload 6 8
    let height ← index payload 8 10
    return some (fromLeBytes width % 0x4000, fromLeBytes height % 0x4000)
  else return none

def webpLoop (data : List UInt8) : Nat → Nat → Walk (Nat × Nat)
  | 0, _ => .error (some .outOfFuel)
  | fuel + 1, cursor => do
    if data.length < (← checkedAdd cursor 8) then .error none
    else
      let kind ← get data cursor (← addUsize cursor 4)
      let length := fromLeBytes (← get data (← addUsize cursor 4) (← addUsize cursor 8))
      let payloadStart ← addUsize cursor 8
      let payloadEnd ← checkedAdd payloadStart length
      if data.length < payloadEnd then .error none
      else
        match ← webpHeader kind (← index data payloadStart payloadEnd) with
        | some dimensions => return dimensions
        | none => webpLoop data fuel (← checkedAdd payloadEnd (length % 2))

def webpWalk (data : List UInt8) : Walk (Nat × Nat) := do
  if data.length < 20 then .error none
  else if (← index data 0 4) ≠ asBytes "RIFF" then .error none
  else if (← index data 8 12) ≠ asBytes "WEBP" then .error none
  else if (← checkedAdd (fromLeBytes (← get data 4 8)) 8) ≠ data.length then .error none
  else webpLoop data data.length 12

/-! ## No walk faults -/

/-- What a walk that does not fault returns. -/
def returned {α : Type} (answer : Option α) : Walk α := answer.elim (.error none) .ok

variable {data : List UInt8}

theorem fromBeBytes_lt (bytes : List UInt8) : fromBeBytes bytes < 256 ^ bytes.length := by
  have hstep : ∀ (bytes : List UInt8) (n : Nat),
      bytes.foldl (fun n b => 256 * n + b.toNat) n < 256 ^ bytes.length * (n + 1) := by
    intro bytes
    induction bytes with
    | nil => exact fun n => by simp
    | cons b bytes ih =>
      intro n
      have hb := b.toNat_lt
      rw [List.foldl_cons, List.length_cons, pow_succ, mul_assoc]
      refine (ih _).trans_le (Nat.mul_le_mul_left _ ?_); omega
  simpa [fromBeBytes] using hstep bytes 0

theorem range_eq (data : List UInt8) (first last : Nat) : range data first last = part data first last :=
  congrArg (List.take (last - first)) rfl

theorem pngLoop_eq (hd : data.length < 2 ^ 63) : ∀ (fuel cursor : Nat) (dimensions : Option (Nat × Nat)),
    cursor ≤ data.length → data.length < cursor + fuel →
      pngLoop data fuel cursor dimensions = returned (pngChunks fuel (data.drop cursor) dimensions)
  | 0, cursor, dimensions, hcu, hf => absurd hcu (by omega)
  | fuel + 1, cursor, dimensions, hcu, hf => by
    unfold pngLoop pngChunks
    simp only [range_eq, part_drop, List.length_drop, List.drop_drop, get, checkedAdd, addUsize, Nat.add_zero]
    rw [sumOr_of_lt (by omega), ok_bind]
    by_cases hr : data.length < cursor + 12
    · rw [if_pos hr, if_pos (by omega)]; rfl
    rw [if_neg hr, if_neg (by omega)]
    simp (disch := omega) only [sumOr_of_lt, partOr_of_le, ok_bind]
    have hlen := fromBeBytes_lt (part data cursor (cursor + 4))
    rw [length_part (by omega), Nat.add_sub_cancel_left] at hlen
    generalize fromBeBytes (part data cursor (cursor + 4)) = length at hlen ⊢
    generalize part data (cursor + 4) (cursor + 8) = kind
    simp (disch := omega) only [sumOr_of_lt, ok_bind]
    by_cases he : data.length < cursor + 8 + length + 4
    · rw [if_pos he, if_pos (by omega)]; rfl
    rw [if_neg he, if_neg (by omega), show cursor + (12 + length) = cursor + 8 + length + 4 by omega]
    have hs : cursor + 8 + length + 4 ≠ data.length ↔ data.drop (cursor + 8 + length + 4) ≠ [] := by
      rw [Ne, Ne, List.drop_eq_nil_iff]; omega
    have hn := fun dimensions => pngLoop_eq hd fuel (cursor + 8 + length + 4) dimensions (by omega) (by omega)
    cases dimensions with
    | some dimensions =>
      have hh : ¬(some dimensions = none ∧ (kind ≠ asBytes "IHDR" ∨ length ≠ 13)) := fun h => by cases h.1
      rw [pngHeader, ok_bind, hn, if_neg hh]
      simp only [hs, apply_ite returned]; rfl
    | none =>
      unfold pngHeader
      by_cases hh : kind ≠ asBytes "IHDR" ∨ length ≠ 13
      · rw [if_pos hh, if_pos ⟨rfl, hh⟩]; rfl
      rw [if_neg hh, if_neg fun h => hh h.2]
      simp (disch := omega) only [get, addUsize, sumOr_of_lt, partOr_of_le, ok_bind]
      simp only [hs, apply_ite returned, hn]; rfl

theorem pngWalk_eq (hd : data.length < 2 ^ 63) : pngWalk data = returned (pngDimensions data) := by
  unfold pngWalk pngDimensions; split
  · rename_i hs
    have hlen := (List.isPrefixOf_iff_prefix.1 hs).length_le
    exact pngLoop_eq hd _ _ _ hlen (by omega)
  · rfl

theorem jpegLoop_eq (hd : data.length < 2 ^ 63) : ∀ fuel cursor : Nat, cursor ≤ data.length →
    data.length < cursor + fuel → jpegLoop data fuel cursor = returned (jpegSegments fuel (data.drop cursor))
  | 0, cursor, hcu, hfu => absurd hcu (by omega)
  | fuel + 1, cursor, hcu, hfu => by
    unfold jpegLoop jpegSegments
    simp only [addUsize, checkedAdd]
    rw [sumOr_of_lt (by omega), ok_bind, List.length_drop]
    by_cases hr : data.length ≤ cursor + 1
    · rw [if_pos hr, if_pos (by omega)]; rfl
    rw [if_neg hr, if_neg (by omega)]
    have hf := ((data.drop cursor).takeWhile_sublist (p := (· = 0xff))).length_le
    have hs : (data.drop cursor).dropWhile (· = 0xff) =
        data.drop (cursor + ((data.drop cursor).takeWhile (· = 0xff)).length) := by
      rw [← List.drop_drop]
      conv_rhs => arg 2; rw [← List.takeWhile_append_dropWhile (p := (· = 0xff)) (l := data.drop cursor)]
      exact List.drop_left.symm
    rw [List.length_drop] at hf
    rw [sumOr_of_lt (by omega), ok_bind, hs, ← List.head?_drop]
    generalize hfi : cursor + ((data.drop cursor).takeWhile (· = 0xff)).length = start at hs ⊢
    cases hre : data.drop start with
    | nil => rfl
    | cons m rest =>
      have hst : start < data.length := by
        rw [← Nat.not_le, ← List.drop_eq_nil_iff, hre]; exact List.cons_ne_nil _ _
      obtain rfl : data.drop (start + 1) = rest := by rw [← List.tail_drop, hre, List.tail_cons]
      rw [List.head?_cons, Option.elim_some, ok_bind, sumOr_of_lt (by omega), ok_bind]; dsimp only
      split
      · rfl
      split
      · exact jpegLoop_eq hd fuel (start + 1) (by omega) (by omega)
      rw [List.length_drop, sumOr_of_lt (by omega), ok_bind]
      by_cases hz : data.length < start + 1 + 2
      · have hge : get data (start + 1) (start + 1 + 2) = .error none := if_neg (by omega)
        rw [hge, if_pos (show data.length - (start + 1) < 2 by omega)]; rfl
      simp (disch := omega) only [get, range_eq, part_drop, partOr_of_le, ok_bind, List.drop_drop, Nat.add_zero]
      rw [if_neg (show ¬data.length - (start + 1) < 2 by omega)]
      have hlen := fromBeBytes_lt (part data (start + 1) (start + 1 + 2))
      rw [length_part (by omega), Nat.add_sub_cancel_left] at hlen
      generalize fromBeBytes (part data (start + 1) (start + 1 + 2)) = segmentLen at hlen ⊢
      simp (disch := omega) only [sumOr_of_lt, ok_bind]
      by_cases he : segmentLen < 2 ∨ data.length - (start + 1) < segmentLen
      · rw [if_pos he]; split
        · rfl
        · rw [if_pos (by omega)]; rfl
      rw [if_neg he, if_neg (by omega), if_neg (by omega)]; split
      · split
        · rfl
        · simp (disch := omega) only [partOr_of_le, ok_bind]
          rfl
      · exact jpegLoop_eq hd fuel (start + 1 + segmentLen) (by omega) (by omega)

theorem jpegWalk_eq (hd : data.length < 2 ^ 63) : jpegWalk data = returned (jpegDimensions data) := by
  unfold jpegWalk jpegDimensions; split
  · rename_i he; exact jpegLoop_eq hd _ _ (by omega) (by omega)
  · rfl

theorem webpHeader_eq (kind payload : List UInt8) : webpHeader kind payload = .ok (webpChunk kind payload) := by
  have hs : ∀ first, first + 3 ≤ payload.length → 1 + fromLeBytes (part payload first (first + 3)) < 2 ^ 32 := by
    intro first hf
    have h := fromLeBytes_lt (part payload first (first + 3))
    rw [length_part hf, Nat.add_sub_cancel_left] at h; omega
  unfold webpHeader webpChunk
  simp only [index, addU32]; split
  · rename_i h
    rw [partOr_of_le (by omega), ok_bind, sumOr_of_lt (hs 4 (by omega)), ok_bind, partOr_of_le (by omega), ok_bind,
      sumOr_of_lt (hs 7 (by omega))]
    rfl
  split
  · rename_i h
    rw [partOr_of_le (by omega), ok_bind, sumOr_of_lt (by omega), ok_bind, sumOr_of_lt (by omega)]; rfl
  split
  · rename_i h
    rw [partOr_of_le (by omega), ok_bind, partOr_of_le (by omega)]; rfl
  · rfl

theorem webpLoop_eq (hd : data.length < 2 ^ 63) : ∀ fuel cursor : Nat, cursor ≤ data.length + 1 →
    data.length + 1 < cursor + fuel → webpLoop data fuel cursor = returned (webpChunks fuel (data.drop cursor))
  | 0, cursor, hcu, hf => absurd hcu (by omega)
  | fuel + 1, cursor, hcu, hf => by
    unfold webpLoop webpChunks
    simp only [range_eq, part_drop, List.length_drop, List.drop_drop, get, index, checkedAdd, addUsize, Nat.add_zero]
    rw [sumOr_of_lt (by omega), ok_bind]
    by_cases hr : data.length < cursor + 8
    · rw [if_pos hr, if_pos (by omega)]; rfl
    rw [if_neg hr, if_neg (by omega)]
    simp (disch := omega) only [sumOr_of_lt, partOr_of_le, ok_bind]
    have hlen := fromLeBytes_lt (part data (cursor + 4) (cursor + 8))
    rw [length_part (by omega), Nat.add_sub_add_left] at hlen
    generalize fromLeBytes (part data (cursor + 4) (cursor + 8)) = length at hlen ⊢
    rw [sumOr_of_lt (by omega), ok_bind]
    by_cases he : data.length < cursor + 8 + length
    · rw [if_pos he, if_pos (by omega)]; rfl
    rw [if_neg he, if_neg (by omega), partOr_of_le (by omega), ok_bind, webpHeader_eq, ok_bind, Nat.add_assoc cursor 8]
    cases webpChunk (part data cursor (cursor + 4)) (part data (cursor + 8) (cursor + (8 + length))) with
    | some dimensions => rfl
    | none =>
      rw [← Nat.add_assoc cursor (8 + length)]
      exact webpLoop_eq hd fuel (cursor + (8 + length) + length % 2) (by omega) (by omega)

theorem webpWalk_eq (hd : data.length < 2 ^ 63) : webpWalk data = returned (webpDimensions data) := by
  unfold webpWalk webpDimensions
  simp only [range_eq, index, get, checkedAdd]
  by_cases hlen : data.length < 20
  · simp only [hlen, true_or, if_true]; rfl
  have hs := fromLeBytes_lt (part data 4 8); rw [length_part (by omega)] at hs
  simp (disch := omega) only [partOr_of_le, sumOr_of_lt, ok_bind, hlen, false_or, if_false]
  by_cases hr : part data 0 4 = asBytes "RIFF"
  · by_cases hw : part data 8 12 = asBytes "WEBP"
    · simp only [hr, hw, ne_eq, not_true_eq_false, or_self, if_false]; split
      · rfl
      · exact webpLoop_eq hd _ _ (by omega) (by omega)
    · simp only [hr, hw, ne_eq, not_true_eq_false, not_false_eq_true, or_true, if_false, if_true]; rfl
  · simp only [hr, ne_eq, not_false_eq_true, true_or, if_true]; rfl

/-! ## Containers -/

/-- Bytes that begin with a complete chunk. -/
structure PngChunk (data kind payload rest : List UInt8) : Prop where
  fits : 12 + fromBeBytes (part data 0 4) ≤ data.length
  kind : kind = part data 4 8
  payload : payload = part data 8 (8 + fromBeBytes (part data 0 4))
  rest : rest = data.drop (12 + fromBeBytes (part data 0 4))

/-- Chunks up to an empty one at the end of the file. -/
inductive PngChunks : List UInt8 → Prop
  | iend {data : List UInt8} : PngChunk data (asBytes "IEND") [] [] → PngChunks data
  | cons {data kind payload rest : List UInt8} : PngChunk data kind payload rest → PngChunks rest → PngChunks data

def PngFile (data : List UInt8) (dimensions : Nat × Nat) : Prop :=
  pngSignature <+: data ∧ ∃ payload rest, PngChunk (data.drop 8) (asBytes "IHDR") payload rest ∧ payload.length = 13 ∧
    dimensions = (fromBeBytes (part payload 0 4), fromBeBytes (part payload 4 8)) ∧ PngChunks rest

/-- Bytes that begin with a marker, behind fill bytes, and what it has of a segment; a strict file introduces it. -/
structure JpegUnit (strict : Bool) (data : List UInt8) (marker : UInt8) (segment rest : List UInt8) : Prop where
  marked : data.dropWhile (· = 0xff) = marker :: (segment ++ rest)
  introduced : strict = true → data.head? = some 0xff
  complete : if marker = 0x01 ∨ (0xd0 ≤ marker ∧ marker ≤ 0xd7) then segment = []
    else 2 ≤ segment.length ∧ fromBeBytes (part segment 0 2) = segment.length

/-- Segments up to the first frame header. -/
inductive JpegSegments (strict : Bool) : List UInt8 → Nat × Nat → Prop
  | frame {data segment rest : List UInt8} {marker : UInt8} : JpegUnit strict data marker segment rest →
      marker ∈ frameMarkers → 7 ≤ segment.length →
      JpegSegments strict data (fromBeBytes (part segment 5 7), fromBeBytes (part segment 3 5))
  | skip {data segment rest : List UInt8} {marker : UInt8} {dimensions : Nat × Nat} :
      JpegUnit strict data marker segment rest → marker ∉ frameMarkers → ¬(marker = 0xd9 ∨ marker = 0xda) →
      JpegSegments strict rest dimensions → JpegSegments strict data dimensions

def JpegFile (strict : Bool) (data : List UInt8) (dimensions : Nat × Nat) : Prop :=
  4 ≤ data.length ∧ part data 0 2 = [0xff, 0xd8] ∧ data.drop (data.length - 2) = [0xff, 0xd9] ∧
    JpegSegments strict (data.drop 2) dimensions

structure RiffChunk (data kind payload rest : List UInt8) : Prop where
  fits : 8 + fromLeBytes (part data 4 8) ≤ data.length
  kind : kind = part data 0 4
  payload : payload = part data 8 (8 + fromLeBytes (part data 4 8))
  rest : rest = data.drop (8 + fromLeBytes (part data 4 8))

/-- Padded chunks up to the first one that gives dimensions; a strict file pads that one too. -/
inductive WebpChunks (strict : Bool) : List UInt8 → Nat × Nat → Prop
  | frame {data kind payload rest : List UInt8} {dimensions : Nat × Nat} : RiffChunk data kind payload rest →
      webpChunk kind payload = some dimensions → (strict = true → payload.length % 2 ≤ rest.length) →
      WebpChunks strict data dimensions
  | skip {data kind payload rest : List UInt8} {dimensions : Nat × Nat} : RiffChunk data kind payload rest →
      webpChunk kind payload = none → payload.length % 2 ≤ rest.length →
      WebpChunks strict (rest.drop (payload.length % 2)) dimensions → WebpChunks strict data dimensions

def WebpFile (strict : Bool) (data : List UInt8) (dimensions : Nat × Nat) : Prop :=
  20 ≤ data.length ∧ part data 0 4 = asBytes "RIFF" ∧ part data 8 12 = asBytes "WEBP" ∧
    fromLeBytes (part data 4 8) + 8 = data.length ∧ WebpChunks strict (data.drop 12) dimensions

/-! ## What the walks find -/

variable {dimensions : Nat × Nat}

theorem pngChunks_sound : ∀ {fuel : Nat} {data : List UInt8} {header : Nat × Nat},
    pngChunks fuel data (some header) = some dimensions → dimensions = header ∧ PngChunks data
  | fuel + 1, data, header, h => by
    unfold pngChunks at h
    have hd : ∀ p, ¬(some header = none ∧ p) := fun _ h => by cases h.1
    simp only [range_eq, if_neg (hd _)] at h; split at h
    · cases h
    split at h
    · cases h
    rename_i hf; split at h
    · rename_i hk; split at h
      · cases h
      · rename_i he
        obtain ⟨hlen, hr⟩ := not_or.1 he
        exact ⟨(Option.some.inj h).symm, .iend ⟨Nat.not_lt.1 hf, hk.symm, by
          rw [not_not.1 hlen]; exact (List.take_zero ..).symm, (not_not.1 hr).symm⟩⟩
    · obtain ⟨rfl, hh⟩ := pngChunks_sound h
      exact ⟨rfl, .cons ⟨Nat.not_lt.1 hf, rfl, rfl, rfl⟩ hh⟩

theorem pngFile_of_dimensions (h : pngDimensions data = some dimensions) : PngFile data dimensions := by
  unfold pngDimensions at h; split at h
  · rename_i hs
    refine ⟨List.isPrefixOf_iff_prefix.1 hs, ?_⟩
    generalize data.length = fuel at h
    cases fuel with
    | zero => cases h
    | succ fuel =>
      unfold pngChunks at h
      simp only [range_eq, true_and] at h; split at h
      · cases h
      split at h
      · cases h
      rename_i hf; split at h
      · cases h
      rename_i hd
      obtain ⟨hk, hlen⟩ := not_or.1 hd
      have hk := not_not.1 hk
      have hlen := not_not.1 hlen; rw [hk, if_neg (by decide)] at h
      obtain ⟨rfl, hh⟩ := pngChunks_sound h; rw [Nat.not_lt] at hf
      refine ⟨_, _, ⟨hf, hk.symm, rfl, rfl⟩, ?_, ?_, hh⟩
      · rw [length_part (by omega)]; omega
      · rw [hlen] at hf ⊢
        simp only [part, List.drop_take, List.take_take, List.drop_drop]; rfl
  · cases h

theorem standalone_not_frame : ∀ m ∈ frameMarkers, ¬(m = 0x01 ∨ (0xd0 ≤ m ∧ m ≤ 0xd7)) := by
  simp [frameMarkers]

theorem jpegSegments_of_unit {s : Bool} {seg rest : List UInt8} {m : UInt8} (fuel : Nat)
    (h : JpegUnit s data m seg rest) (hs : ¬(m = 0xd9 ∨ m = 0xda)) :
    jpegSegments (fuel + 1) data = if m ∈ frameMarkers then if seg.length < 7 then none
      else some (fromBeBytes (part seg 5 7), fromBeBytes (part seg 3 5)) else jpegSegments fuel rest := by
  have hlen := ((data.dropWhile_sublist (p := (· = 0xff)))).length_le
  have hm := h.complete
  rw [h.marked, List.length_cons, List.length_append] at hlen
  conv_lhs => unfold jpegSegments
  simp only [h.marked, range_eq, if_neg hs]; split at hm
  · rename_i hn; subst hm
    rw [if_pos hn, if_neg fun hf => standalone_not_frame _ hf hn, List.nil_append]; split
    · have hr : rest = [] := List.length_eq_zero_iff.1 (by simp only [List.length_nil] at hlen; omega)
      rw [hr]
      cases fuel <;> rfl
    · rfl
  · rename_i hn
    obtain ⟨hw, hz⟩ := hm
    rw [if_neg (by omega), if_neg hn, List.length_append, if_neg (by omega), part_append_left _ (by omega), hz,
      if_neg (by omega), List.drop_left]
    split
    · split
      · rfl
      · rw [part_append_left _ (by omega), part_append_left _ (by omega)]
    · rfl

theorem exists_unit {fuel : Nat} (h : jpegSegments (fuel + 1) data = some dimensions) :
    ∃ m seg rest, JpegUnit false data m seg rest ∧ ¬(m = 0xd9 ∨ m = 0xda) := by
  unfold jpegSegments at h
  simp only [range_eq] at h; split at h
  · cases h
  split at h
  · cases h
  rename_i m body hm; split at h
  · cases h
  rename_i hst; split at h
  · rename_i hn
    exact ⟨m, [], body, ⟨hm, fun h => (by cases h), (if_pos hn).symm ▸ rfl⟩, hst⟩
  rename_i hn; split at h
  · cases h
  split at h
  · cases h
  rename_i hs; rw [not_or, Nat.not_lt, Nat.not_lt] at hs
  refine ⟨m, body.take (fromBeBytes (part body 0 2)), body.drop (fromBeBytes (part body 0 2)),
    ⟨by rw [List.take_append_drop, hm], fun h => (by cases h), ?_⟩, hst⟩
  rw [if_neg hn, List.length_take, Nat.min_eq_left hs.2]
  refine ⟨hs.1, ?_⟩
  rw [part, List.drop_zero, List.take_take, Nat.min_eq_left hs.1]; rfl

theorem JpegUnit.length_le {s : Bool} {m : UInt8} {seg rest : List UInt8}
    (h : JpegUnit s data m seg rest) : rest.length + 1 ≤ data.length := by
  have hlen := ((data.dropWhile_sublist (p := (· = 0xff)))).length_le
  rw [h.marked, List.length_cons, List.length_append] at hlen; omega

theorem jpegSegments_iff : ∀ {fuel : Nat} {data : List UInt8}, data.length ≤ fuel →
    (jpegSegments fuel data = some dimensions ↔ JpegSegments false data dimensions)
  | 0, data, hfu => by
    obtain rfl := List.length_eq_zero_iff.1 (Nat.le_zero.1 hfu)
    refine ⟨fun h => (by cases h), fun h => ?_⟩
    cases h with
    | frame hu | skip hu => exact absurd hu.length_le (by simp)
  | fuel + 1, data, hfu => by
    constructor
    · intro h
      obtain ⟨m, segment, rest, hu, hs⟩ := exists_unit h
      have hr := hu.length_le; rw [jpegSegments_of_unit fuel hu hs] at h
      split at h
      · rename_i hf; split at h
        · cases h
        · rename_i hn
          exact Option.some.inj h ▸ .frame hu hf (Nat.not_lt.1 hn)
      · rename_i hf
        exact .skip hu hf hs ((jpegSegments_iff (by omega)).1 h)
    · intro h
      cases h with
      | @frame _ segment rest m hu hf hn =>
        have hs : ∀ m ∈ frameMarkers, ¬(m = 0xd9 ∨ m = 0xda) := by simp [frameMarkers]
        rw [jpegSegments_of_unit fuel hu (hs m hf), if_pos hf, if_neg (Nat.not_lt.2 hn)]
      | skip hu hf hs hse =>
        have hr := hu.length_le
        rw [jpegSegments_of_unit fuel hu hs, if_neg hf]
        exact (jpegSegments_iff (by omega)).2 hse

theorem jpegDimensions_iff : jpegDimensions data = some dimensions ↔ JpegFile false data dimensions := by
  unfold jpegDimensions JpegFile; rw [range_eq]
  split
  · rename_i he
    rw [jpegSegments_iff (by rw [List.length_drop]; omega)]
    exact ⟨fun h => ⟨he.1, he.2.1, he.2.2, h⟩, fun h => h.2.2.2⟩
  · rename_i he
    exact ⟨fun h => (by cases h), fun h => absurd ⟨h.1, h.2.1, h.2.2.1⟩ he⟩

theorem webpChunks_iff : ∀ {fuel : Nat} {data : List UInt8}, data.length ≤ fuel →
    (webpChunks fuel data = some dimensions ↔ WebpChunks false data dimensions)
  | 0, data, hfu => by
    refine ⟨fun h => (by cases h), fun h => ?_⟩
    cases h with
    | frame hh | skip hh => exact absurd hh.fits (by omega)
  | fuel + 1, data, hfu => by
    unfold webpChunks
    simp only [range_eq]
    by_cases hfi : 8 + fromLeBytes (part data 4 8) ≤ data.length
    · rw [if_neg (by omega), if_neg (by omega)]
      have hlen : (part data 8 (8 + fromLeBytes (part data 4 8))).length = fromLeBytes (part data 4 8) := by
        rw [length_part hfi, Nat.add_sub_cancel_left]
      have hsh : (data.drop (8 + fromLeBytes (part data 4 8) + fromLeBytes (part data 4 8) % 2)).length ≤ fuel := by
        rw [List.length_drop]; omega
      have hne := webpChunks_iff hsh
      cases hd : webpChunk (part data 0 4) (part data 8 (8 + fromLeBytes (part data 4 8))) with
      | some f =>
        constructor
        · intro h
          exact .frame ⟨hfi, rfl, rfl, rfl⟩ (hd.trans h) fun h => by cases h
        · rintro (⟨hh, hf, -⟩ | ⟨hh, hs, -, -⟩)
          · rw [hh.kind, hh.payload] at hf; exact hd.symm.trans hf
          · rw [hh.kind, hh.payload, hd] at hs; cases hs
      | none =>
        constructor
        · intro h
          have h := hne.1 h
          refine .skip ⟨hfi, rfl, rfl, rfl⟩ hd ?_ ?_
          · rw [hlen, List.length_drop]
            cases h with
            | frame hh | skip hh =>
              have hr := hh.fits
              rw [List.length_drop] at hr; omega
          · rw [hlen, List.drop_drop]; exact h
        · rintro (⟨hh, hf, -⟩ | ⟨hh, -, -, hn⟩)
          · rw [hh.kind, hh.payload, hd] at hf; cases hf
          · rw [hh.rest, hh.payload, hlen, List.drop_drop] at hn; exact hne.2 hn
    · refine ⟨fun h => ?_, fun h => ?_⟩
      · split at h
        · cases h
        · rw [if_pos (by omega)] at h; cases h
      · cases h with
        | frame hh | skip hh => exact absurd hh.fits hfi

theorem webpDimensions_iff : webpDimensions data = some dimensions ↔ WebpFile false data dimensions := by
  unfold webpDimensions WebpFile
  simp only [range_eq]
  have hlen : (data.drop 12).length ≤ data.length := by rw [List.length_drop]; omega
  rw [← webpChunks_iff hlen]; split
  · rename_i hba
    exact ⟨fun h => (by cases h), fun h => absurd hba (by simp [h.1, h.2.1, h.2.2.1])⟩
  rename_i hd
  rw [not_or, not_or, not_not, not_not, Nat.not_lt] at hd; split
  · rename_i hs
    exact ⟨fun h => (by cases h), fun h => absurd h.2.2.2.1 hs⟩
  · rename_i hs
    exact ⟨fun h => ⟨hd.1, hd.2.1, hd.2.2, not_not.1 hs, h⟩, fun h => h.2.2.2.2⟩

/-! ## Admission -/

theorem returned_eq_ok {answer : Option (Nat × Nat)} : returned answer = .ok dimensions ↔ answer = some dimensions := by
  cases answer with
  | none => exact ⟨fun h => (by cases h), fun h => by cases h⟩
  | some f => exact ⟨fun h => congrArg some (Except.ok.inj h), fun h => congrArg Except.ok (Option.some.inj h)⟩

/-- No walk faults, each finds dimensions in a well-formed container alone, and an image is admitted within the limits. -/
structure Admits (data : Slice) : Prop where
  faultless : ∀ fault, pngWalk data ≠ .error (some fault) ∧ jpegWalk data ≠ .error (some fault) ∧
    webpWalk data ≠ .error (some fault)
  png : ∀ dimensions, pngWalk data = .ok dimensions → PngFile data dimensions
  jpeg : ∀ dimensions, jpegWalk data = .ok dimensions → JpegFile true data dimensions
  webp : ∀ dimensions, webpWalk data = .ok dimensions → WebpFile true data dimensions
  limits : ∀ mimeType dimensions, validateImage mimeType data = some dimensions → validImageDimensions dimensions = true ∧
    (pngWalk data = .ok dimensions ∨ jpegWalk data = .ok dimensions ∨ webpWalk data = .ok dimensions)

/-- The walks find the dimensions of exactly the files that may have a JPEG marker without its `0xff` and a WebP frame
without its padding. -/
theorem images_from_containers_iff (data : Slice) :
    (∀ dimensions, (jpegWalk data = .ok dimensions ↔ JpegFile false data dimensions) ∧
      (webpWalk data = .ok dimensions ↔ WebpFile false data dimensions)) ∧
    (Admits data ↔ (∀ dimensions, JpegFile false data dimensions → JpegFile true data dimensions) ∧
      ∀ dimensions, WebpFile false data dimensions → WebpFile true data dimensions) := by
  have hpng : ∀ d, pngWalk data = .ok d ↔ pngDimensions data = some d := fun d => by
    rw [pngWalk_eq data.2, returned_eq_ok]
  have hjpeg : ∀ d, jpegWalk data = .ok d ↔ JpegFile false data d := fun d => by
    rw [jpegWalk_eq data.2, returned_eq_ok, jpegDimensions_iff]
  have hweb : ∀ d, webpWalk data = .ok d ↔ WebpFile false data d := fun d => by
    rw [webpWalk_eq data.2, returned_eq_ok, webpDimensions_iff]
  refine ⟨fun d => ⟨hjpeg d, hweb d⟩, fun h => ⟨fun d hd => h.jpeg d ((hjpeg d).2 hd), fun d hd =>
    h.webp d ((hweb d).2 hd)⟩, fun ⟨hintr, hpad⟩ => ⟨fun fault => ?_, fun d hd => ?_, fun d hd => ?_,
      fun d hd => ?_, fun mimeType d hd => ?_⟩⟩
  · have hret : ∀ answer : Option (Nat × Nat), returned answer ≠ .error (some fault) := by
      rintro (_ | _) h <;> cases h
    rw [pngWalk_eq data.2, jpegWalk_eq data.2, webpWalk_eq data.2]
    exact ⟨hret _, hret _, hret _⟩
  · exact pngFile_of_dimensions ((hpng d).1 hd)
  · exact hintr d ((hjpeg d).1 hd)
  · exact hpad d ((hweb d).1 hd)
  · obtain ⟨hfoun, hval⟩ := Option.filter_eq_some_iff.1 hd
    refine ⟨hval, ?_⟩
    rw [hpng, hjpeg, hweb, ← jpegDimensions_iff, ← webpDimensions_iff]; split at hfoun
    · exact .inl hfoun
    split at hfoun
    · exact .inr (.inl hfoun)
    split at hfoun
    · exact .inr (.inr hfoun)
    · cases hfoun

/-- A frame header right behind the start of the image, without the `0xff` of its marker. -/
def bareFrame : Slice :=
  ⟨[0xff, 0xd8, 0xc0, 0x00, 0x07, 0x08, 0x00, 0x10, 0x00, 0x10, 0xff, 0xd9], by decide⟩

theorem bare_marker_admitted : ¬Admits bareFrame := by
  intro h
  have hfoun : jpegWalk bareFrame = .ok (16, 16) := rfl
  have hseg := (h.jpeg _ hfoun).2.2.2
  generalize (16, 16) = dimensions at hseg
  cases hseg with
  | frame hunit | skip hunit => exact absurd (hunit.introduced rfl) (by decide)

end Deniald.Clipboard
