/-
The text around the selection that an input method is told of (`surrounding_text`): a window of whole characters, in
bytes of UTF-8, that is grown around the selection within a limit.
-/
import Deniald.Flutter.Splice
import Mathlib.Order.Lattice

namespace Deniald.Flutter

open Deniald.Lib

/-- Steps back to a boundary, at most as far as a stop. -/
def retreat (text : List Char) (stop : Nat) : Nat → Nat
  | 0 => 0
  | position + 1 =>
    if stop < position + 1 && !isCharBoundary text (position + 1) then retreat text stop position else position + 1

/-- Steps on to a boundary, over a gap at most. -/
def advance (text : List Char) : Nat → Nat → Nat
  | 0, position => position
  | gap + 1, position => if isCharBoundary text position then position else advance text gap (position + 1)

/-- The window around the bytes from `low` to `high`, in a text that is longer than the limit. -/
def window (text : List Char) (maxBytes low high : Nat) : Nat × Nat :=
  let spare := maxBytes - (high - low)
  let start := retreat text 0 (low - spare / 2)
  let stop := retreat text high (min (start + maxBytes) (utf8Length text))
  if stop < high then (advance text (low - (high - maxBytes)) (high - maxBytes), high) else (start, stop)

/-- `u32::try_from`. -/
def u32TryFrom (n : Nat) : Option UInt32 := if n < 2 ^ 32 then some (.ofNat n) else none

namespace TextInputModel

def surroundingText (m : TextInputModel) (maxBytes : Nat) : Option (List Char × UInt32 × UInt32) := do
  let text ← decodeUtf16 m.text
  let cursor ← utf16OffsetToUtf8 m.text m.selectionExtent
  let anchor ← utf16OffsetToUtf8 m.text m.selectionBase
  let low := min cursor anchor
  let high := max cursor anchor
  if maxBytes < high - low then none
  else if utf8Length text ≤ maxBytes then return (text, ← u32TryFrom cursor, ← u32TryFrom anchor)
  else
    let (start, stop) := window text maxBytes low high
    return (takeBytes (dropBytes text start) (stop - start), ← u32TryFrom (cursor - start), ← u32TryFrom (anchor - start))

end TextInputModel

/-! ## The window -/

variable {text : List Char}

theorem retreat_spec {stop : Nat} (hs : isCharBoundary text stop = true) :
    ∀ {position : Nat}, stop ≤ position → stop ≤ retreat text stop position ∧ retreat text stop position ≤ position ∧
      isCharBoundary text (retreat text stop position) = true
  | 0, h => by
    obtain rfl : stop = 0 := by omega
    exact ⟨Nat.le_refl _, Nat.le_refl _, hs⟩
  | position + 1, h => by
    unfold retreat; split
    · rename_i hstep; rw [Bool.and_eq_true, decide_eq_true_eq] at hstep
      obtain ⟨hw, hh, hn⟩ := retreat_spec hs (by omega : stop ≤ position)
      exact ⟨hw, by omega, hn⟩
    rename_i hy
    refine ⟨h, Nat.le_refl _, ?_⟩
    rw [Bool.and_eq_true, decide_eq_true_eq, Bool.not_eq_true', not_and, Bool.not_eq_false] at hy
    rcases Nat.lt_or_eq_of_le h with hlt | rfl
    · exact hy hlt
    · exact hs

theorem retreat_of_lt {stop position : Nat} (h : position < stop) : retreat text stop position = position := by
  cases position with
  | zero => rfl
  | succ position =>
    unfold retreat; rw [if_neg]
    rw [Bool.and_eq_true, decide_eq_true_eq]; omega

theorem advance_spec : ∀ {gap position : Nat}, isCharBoundary text (position + gap) = true →
    position ≤ advance text gap position ∧ advance text gap position ≤ position + gap ∧
      isCharBoundary text (advance text gap position) = true
  | 0, position, h => ⟨Nat.le_refl _, Nat.le_refl _, h⟩
  | gap + 1, position, h => by
    unfold advance; split
    · rename_i hn
      exact ⟨Nat.le_refl _, Nat.le_add_right .., hn⟩
    have hne : isCharBoundary text (position + 1 + gap) = true := by
      rwa [Nat.add_assoc, Nat.add_comm 1]
    obtain ⟨hw, hh, hn⟩ := advance_spec hne; exact ⟨by omega, by omega, hn⟩

theorem isCharBoundary_zero (text : List Char) : isCharBoundary text 0 = true :=
  isCharBoundary_iff.2 ⟨[], text, rfl, rfl⟩

theorem isCharBoundary_le {index : Nat} (h : isCharBoundary text index = true) : index ≤ utf8Length text := by
  obtain ⟨before, after, rfl, rfl⟩ := isCharBoundary_iff.1 h
  rw [utf8Length_append]; omega

structure WindowAround (text : List Char) (maxBytes low high start stop : Nat) : Prop where
  startBoundary : isCharBoundary text start = true
  stopBoundary : isCharBoundary text stop = true
  start_le : start ≤ low
  le_stop : high ≤ stop
  size : stop - start ≤ maxBytes

theorem window_spec {mb low high : Nat} (hw : isCharBoundary text low = true)
    (hh : isCharBoundary text high = true) (hle : low ≤ high) (hfi : high - low ≤ mb) :
    WindowAround text mb low high (window text mb low high).1 (window text mb low high).2 := by
  have hs := retreat_spec (isCharBoundary_zero text) (Nat.zero_le (low - (mb - (high - low)) / 2))
  have he := isCharBoundary_le hh; unfold window
  dsimp only
  generalize retreat text 0 (low - (mb - (high - low)) / 2) = start at hs ⊢
  by_cases hr : start + mb < high
  · -- rounding the start down cost more than was to spare behind the range
    rw [retreat_of_lt (by omega), if_pos (by omega)]
    have hd : isCharBoundary text (high - mb + (low - (high - mb))) = true := by
      rwa [show high - mb + (low - (high - mb)) = low by omega]
    obtain ⟨hf, hto, hn⟩ := advance_spec hd
    exact ⟨hn, hh, by omega, Nat.le_refl _, by omega⟩
  · obtain ⟨hf, hto, hn⟩ := retreat_spec hh
      (by omega : high ≤ min (start + mb) (utf8Length text))
    rw [if_neg (by omega)]
    exact ⟨hs.2.2, hn, by omega, hf, by omega⟩

/-! ## Lengths -/

theorem utf8Size_le (c : Char) : c.utf8Size ≤ 3 * (utf16 c).length := by
  have hu := length_utf16 c; unfold Char.utf8Size
  dsimp only; split
  · omega
  split
  · omega
  split
  · omega
  -- four bytes are a pair of surrogates
  rename_i hz
  have hr : ¬c.toNat < 0x10000 := fun hs =>
    hz (UInt32.le_iff_toNat_le.2 (Nat.le_of_lt_succ hs))
  unfold utf16
  rw [if_neg hr]; simp

theorem utf8Length_le (text : List Char) : utf8Length text ≤ 3 * (encodeUtf16 text).length := by
  induction text with
  | nil => exact Nat.le_refl _
  | cons c text ih =>
    have hh := utf8Size_le c
    rw [utf8Length_cons, encodeUtf16_cons, List.length_append]; omega

theorem utf8Length_take_add (text : List Char) {i j : Nat} (hij : i ≤ j) :
    utf8Length (text.take j) = utf8Length (text.take i) + utf8Length ((text.take j).drop i) := by
  have hs := List.take_append_drop i (text.take j); rw [List.take_take, Nat.min_eq_left hij] at hs
  rw [← utf8Length_append, hs]

theorem utf8Length_take_mono (text : List Char) : Monotone fun i => utf8Length (text.take i) := fun i j hij => by
  have h := utf8Length_take_add text hij; dsimp only; omega

theorem le_of_utf8Length_take {i j : Nat} (hi : i ≤ text.length)
    (h : utf8Length (text.take i) ≤ utf8Length (text.take j)) : i ≤ j := by
  by_contra hlt
  have hs := utf8Length_take_add text (Nat.le_of_not_le hlt)
  have he := congrArg List.length (eq_nil_of_utf8Length (by omega : utf8Length ((text.take i).drop j) = 0))
  rw [List.length_drop, List.length_take, List.length_nil] at he; omega

theorem boundary_take (text : List Char) (cnt : Nat) : isCharBoundary text (utf8Length (text.take cnt)) = true :=
  isCharBoundary_iff.2 ⟨_, text.drop cnt, (List.take_append_drop cnt text).symm, rfl⟩

theorem u32TryFrom_of_lt {n : Nat} (h : n < 2 ^ 32) : u32TryFrom n = some (.ofNat n) := if_pos h

theorem toNat_u32 {n : Nat} (h : n < 2 ^ 32) : (UInt32.ofNat n).toNat = n := UInt32.toNat_ofNat_of_lt' h

/-! ## Selections -/

/-- A part of the text that holds the whole selection, within the limit, and the offsets of the selection's ends in it. -/
structure Surrounds (a : ScalarEditor) (maxBytes : Nat) (slice : List Char) (cursor anchor : UInt32) : Prop where
  size : utf8Length slice ≤ maxBytes
  boundaries : isCharBoundary slice cursor.toNat = true ∧ isCharBoundary slice anchor.toNat = true
  holds : ∃ before after, a.text = before ++ slice ++ after ∧ before.length ≤ a.start ∧
    a.stop ≤ (before ++ slice).length ∧ cursor.toNat = utf8Length (slice.take (a.extent - before.length)) ∧
    anchor.toNat = utf8Length (slice.take (a.base - before.length))

/-- A part that holds the selection, with offsets counted from its start. -/
theorem surrounds_of_range {a : ScalarEditor} {before slice after : List Char} {mb : Nat}
    (hte : a.text = before ++ slice ++ after) (hex : a.extent ≤ a.text.length) (hba : a.base ≤ a.text.length)
    (hs : utf8Length before ≤ utf8Length (a.text.take a.start))
    (hst : utf8Length (a.text.take a.stop) ≤ utf8Length (before ++ slice)) (hz : utf8Length slice ≤ mb)
    (hy : utf8Length a.text < 2 ^ 32) :
    ∃ cursor anchor, u32TryFrom (utf8Length (a.text.take a.extent) - utf8Length before) = some cursor ∧
      u32TryFrom (utf8Length (a.text.take a.base) - utf8Length before) = some anchor ∧
      Surrounds a mb slice cursor anchor := by
  have hf : before = a.text.take before.length := by rw [hte, List.append_assoc, List.take_left]
  have hsl : before ++ slice = a.text.take (before ++ slice).length := by rw [hte, List.take_left]
  have hr : before.length ≤ a.start := by
    rw [hf] at hs
    exact le_of_utf8Length_take (by rw [hte]; simp) hs
  have hla : a.stop ≤ (before ++ slice).length := by
    rw [hsl] at hst
    exact le_of_utf8Length_take (Nat.max_le.2 ⟨hba, hex⟩) hst
  -- either end of the selection lies in the part
  have he : ∀ position, a.start ≤ position → position ≤ a.stop →
      utf8Length (a.text.take position) - utf8Length before = utf8Length (slice.take (position - before.length)) := by
    intro position hm hto
    rw [hte, List.take_append_of_le_length (by omega), List.take_append,
      List.take_of_length_le (by omega : before.length ≤ position), utf8Length_append, Nat.add_sub_cancel_left]
  have hlt : ∀ count, utf8Length (slice.take count) < 2 ^ 32 := by
    intro count
    have hle := isCharBoundary_le (boundary_take slice count)
    rw [hte, utf8Length_append, utf8Length_append] at hy; omega
  rw [he a.extent (Nat.min_le_right ..) (Nat.le_max_right ..), he a.base (Nat.min_le_left ..) (Nat.le_max_left ..)]
  refine ⟨_, _, u32TryFrom_of_lt (hlt _), u32TryFrom_of_lt (hlt _), hz, ?_, before, after, hte, hr, hla,
    toNat_u32 (hlt _), toNat_u32 (hlt _)⟩
  rw [toNat_u32 (hlt _), toNat_u32 (hlt _)]; exact ⟨boundary_take .., boundary_take ..⟩

namespace TextInputModel

/-- A selection that fits the limit is told of with what surrounds it. -/
theorem surrounding_text_holds_selection {m : TextInputModel} {a : ScalarEditor} (h : m.Represents a)
    (hlength : m.text.length ≤ maxTextUtf16Units) {maxBytes : Nat}
    (hfits : utf8Length ((a.text.take a.stop).drop a.start) ≤ maxBytes) :
    ∃ slice cursor anchor, m.surroundingText maxBytes = some (slice, cursor, anchor) ∧
      Surrounds a maxBytes slice cursor anchor := by
  have hoff : ∀ count, utf16OffsetToUtf8 m.text (utf16Offset a.text count) = some (utf8Length (a.text.take count)) :=
    fun count => by
      rw [h.text]
      exact utf16OffsetToUtf8_iff.2 ⟨_, _, (List.take_append_drop count a.text).symm, rfl, rfl⟩
  have hbyt : utf8Length a.text < 2 ^ 32 := by
    have hunit := utf8Length_le a.text; rw [← h.text] at hunit
    unfold maxTextUtf16Units at hlength; omega
  have hsel := utf8Length_take_add a.text (start_le_stop a); unfold surroundingText
  rw [h.selectionExtent, h.selectionBase, hoff, hoff, h.text, decode_encodeUtf16]
  simp only [Option.bind_eq_bind, Option.bind_some]
  have hlow : min (utf8Length (a.text.take a.extent)) (utf8Length (a.text.take a.base)) =
      utf8Length (a.text.take a.start) := by
    rw [min_comm]; exact ((utf8Length_take_mono a.text).map_inf ..).symm
  have hhig : max (utf8Length (a.text.take a.extent)) (utf8Length (a.text.take a.base)) =
      utf8Length (a.text.take a.stop) := by
    rw [max_comm]; exact ((utf8Length_take_mono a.text).map_sup ..).symm
  rw [hlow, hhig]; rw [if_neg (by omega)]
  by_cases hshor : utf8Length a.text ≤ maxBytes
  · have htex : a.text = [] ++ a.text ++ [] := by simp
    obtain ⟨cursor, anchor, hcur, hanc, hsur⟩ := surrounds_of_range htex h.extent h.base (Nat.zero_le _)
      (isCharBoundary_le (boundary_take a.text a.stop)) hshor hbyt
    rw [utf8Length_nil, Nat.sub_zero] at hcur hanc
    rw [if_pos hshor, hcur, hanc]; exact ⟨a.text, cursor, anchor, rfl, hsur⟩
  · obtain ⟨hstar, hstop, hlow, hhig, hsiz⟩ := window_spec (boundary_take a.text a.start)
      (boundary_take a.text a.stop) (by omega) (by omega : _ ≤ maxBytes)
    rw [if_neg hshor]
    generalize window a.text maxBytes (utf8Length (a.text.take a.start)) (utf8Length (a.text.take a.stop)) = around
      at hstar hstop hlow hhig hsiz ⊢
    obtain ⟨start, stop⟩ := around
    obtain ⟨before, slice, after, htex, rfl, rfl⟩ := exists_range hstar hstop (by omega)
    have hslic : takeBytes (dropBytes a.text (utf8Length before)) (utf8Length (before ++ slice) - utf8Length before) =
        slice := by
      rw [htex, List.append_assoc, dropBytes_append, utf8Length_append, Nat.add_sub_cancel_left, takeBytes_append]
    rw [utf8Length_append, Nat.add_sub_cancel_left] at hsiz
    obtain ⟨cursor, anchor, hcur, hanc, hsur⟩ :=
      surrounds_of_range htex h.extent h.base hlow hhig hsiz hbyt
    rw [hslic, hcur, hanc]; exact ⟨slice, cursor, anchor, rfl, hsur⟩

/-- Three characters, of which the last is selected. -/
def clef : TextInputModel := { text := encodeUtf16 ['a', Char.ofNat 0x1D11E, 'b'], selectionBase := 3, selectionExtent := 4 }

/-- The window starts behind the clef, which does not fit. -/
theorem clef_left_out : clef.surroundingText 3 = some (['b'], 1, 0) ∧
    ∃ slice cursor anchor, clef.surroundingText 3 = some (slice, cursor, anchor) ∧
      Surrounds ⟨['a', Char.ofNat 0x1D11E, 'b'], 2, 3, none⟩ 3 slice cursor anchor :=
  ⟨by decide +kernel, surrounding_text_holds_selection (m := clef)
    ⟨rfl, by decide, by decide, by decide +kernel, by decide +kernel, rfl, fun _ _ h => by cases h⟩ (by decide +kernel)
    (by decide +kernel)⟩

end TextInputModel

end Deniald.Flutter
