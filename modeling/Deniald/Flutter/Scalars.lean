/-
A text edited in Unicode scalars, with a selection and a composing range counted in them, and Flutter's UTF-16 model as
a representation of it.
-/
import Deniald.Flutter.TextModel
import Deniald.Lib.Run

namespace Deniald.Flutter

open Deniald.Lib Deniald.InputMethod

/-! ## Editing scalars -/

inductive KeyEdit where
  | addCodePoint (codePoint : UInt32)
  | backspace
  | delete
  | moveCursorBack
  | moveCursorForward
  | moveCursorToBeginning
  | moveCursorToEnd

structure ScalarEditor where
  text : List Char := []
  base : Nat := 0
  extent : Nat := 0
  composing : Option (Nat × Nat) := none

namespace ScalarEditor

def start (a : ScalarEditor) : Nat := min a.base a.extent

def stop (a : ScalarEditor) : Nat := max a.base a.extent

def caret (a : ScalarEditor) (position : Nat) : ScalarEditor := { a with base := position, extent := position }

/-- The scalars of a range are replaced, and the caret is behind the replacement. -/
def replace (a : ScalarEditor) (start stop : Nat) (scalars : List Char) : ScalarEditor where
  text := a.text.take start ++ scalars ++ a.text.drop stop
  base := start + scalars.length
  extent := start + scalars.length

def key (a : ScalarEditor) : KeyEdit → ScalarEditor × Bool
  | .addCodePoint codePoint => (a.replace a.start a.stop [charOfCodePoint codePoint], true)
  | .backspace =>
    if a.start ≠ a.stop then (a.replace a.start a.stop [], true)
    else if a.extent = 0 then (a, false)
    else (a.replace (a.extent - 1) a.extent [], true)
  | .delete =>
    if a.start ≠ a.stop then (a.replace a.start a.stop [], true)
    else if a.extent = a.text.length then (a, false)
    else (a.replace a.extent (a.extent + 1) [], true)
  | .moveCursorBack =>
    if a.base ≠ a.extent then (a.caret a.start, true)
    else if a.extent = 0 then (a, false)
    else (a.caret (a.extent - 1), true)
  | .moveCursorForward =>
    if a.base ≠ a.extent then (a.caret a.stop, true)
    else if a.extent = a.text.length then (a, false)
    else (a.caret (a.extent + 1), true)
  | .moveCursorToBeginning => if a.base = 0 && a.extent = 0 then (a, false) else (a.caret 0, true)
  | .moveCursorToEnd =>
    if a.base = a.text.length && a.extent = a.text.length then (a, false) else (a.caret a.text.length, true)

/-- The text stays within the limit on its units. -/
def Fits (a : ScalarEditor) : KeyEdit → Prop
  | .addCodePoint codePoint => (encodeUtf16 (a.key (.addCodePoint codePoint)).1.text).length ≤ maxTextUtf16Units
  | _ => True

end ScalarEditor

namespace TextInputModel

def key (m : TextInputModel) : KeyEdit → TextInputModel × Bool
  | .addCodePoint codePoint => m.addCodePoint codePoint
  | .backspace => m.backspace
  | .delete => m.delete
  | .moveCursorBack => m.moveCursorBack
  | .moveCursorForward => m.moveCursorForward
  | .moveCursorToBeginning => m.moveCursorToBeginning
  | .moveCursorToEnd => m.moveCursorToEnd

/-! ## Representation -/

structure Represents (m : TextInputModel) (a : ScalarEditor) : Prop where
  text : m.text = encodeUtf16 a.text
  base : a.base ≤ a.text.length
  extent : a.extent ≤ a.text.length
  selectionBase : m.selectionBase = utf16Offset a.text a.base
  selectionExtent : m.selectionExtent = utf16Offset a.text a.extent
  composing : m.composing = a.composing.map fun (base, extent) => (utf16Offset a.text base, utf16Offset a.text extent)
  inside : ∀ base extent, a.composing = some (base, extent) → base ≤ a.text.length ∧ extent ≤ a.text.length

section Represents

variable {m : TextInputModel} {a : ScalarEditor}

theorem Represents.start (h : m.Represents a) : m.selectionStart = utf16Offset a.text a.start := by
  unfold selectionStart
  rw [h.selectionBase, h.selectionExtent]; exact utf16Offset_min h.base h.extent

theorem Represents.stop (h : m.Represents a) : m.selectionEnd = utf16Offset a.text a.stop := by
  unfold selectionEnd
  rw [h.selectionBase, h.selectionExtent]; exact utf16Offset_max h.base h.extent

theorem Represents.stop_le (h : m.Represents a) : a.stop ≤ a.text.length := Nat.max_le.2 ⟨h.base, h.extent⟩

theorem start_le_stop (a : ScalarEditor) : a.start ≤ a.stop := Nat.le_trans (Nat.min_le_left ..) (Nat.le_max_left ..)

theorem Represents.length (h : m.Represents a) : m.text.length = utf16Offset a.text a.text.length := by
  rw [h.text, utf16Offset_length]

theorem Represents.selected_iff (h : m.Represents a) : m.selectionBase = m.selectionExtent ↔ a.base = a.extent := by
  rw [h.selectionBase, h.selectionExtent]; exact utf16Offset_inj h.base h.extent

variable {k : Nat}

theorem Represents.caret (h : m.Represents a) (hk : k ≤ a.text.length) :
    (m.caret (utf16Offset a.text k)).Represents (a.caret k) :=
  ⟨h.text, hk, hk, rfl, rfl, h.composing, h.inside⟩

theorem represents_replace (h : m.Represents a) {s e : Nat} (hse : s ≤ e) (he : e ≤ a.text.length) (scalars : List Char)
    {m' : TextInputModel}
    (hte : m'.text = m.text.take (utf16Offset a.text s) ++ encodeUtf16 scalars ++ m.text.drop (utf16Offset a.text e))
    (hs : m'.selectionBase = utf16Offset a.text s + (encodeUtf16 scalars).length)
    (hex : m'.selectionExtent = utf16Offset a.text s + (encodeUtf16 scalars).length)
    (hm : m'.composing = none) : m'.Represents (a.replace s e scalars) := by
  have hlen : (a.text.take s).length = s := List.length_take_of_le (Nat.le_trans hse he)
  have hn : s + scalars.length ≤ (a.replace s e scalars).text.length := by
    show _ ≤ (a.text.take s ++ scalars ++ a.text.drop e).length
    rw [List.length_append, List.length_append, hlen]; exact Nat.le_add_right _ _
  have ho : utf16Offset (a.replace s e scalars).text (s + scalars.length) =
      utf16Offset a.text s + (encodeUtf16 scalars).length := by
    have hk : (a.text.take s ++ scalars ++ a.text.drop e).take (s + scalars.length) = a.text.take s ++ scalars :=
      List.take_left' (by rw [List.length_append, hlen])
    unfold utf16Offset
    show (encodeUtf16 ((a.text.take s ++ scalars ++ a.text.drop e).take (s + scalars.length))).length = _
    rw [hk, encodeUtf16_append, List.length_append]
  refine ⟨?_, hn, hn, hs.trans ho.symm, hex.trans ho.symm, hm, fun _ _ h => (nomatch h)⟩
  rw [hte, h.text, take_encodeUtf16, drop_encodeUtf16, ← encodeUtf16_append, ← encodeUtf16_append]; rfl

/-! ## Steps over a character -/

theorem countBefore_eq {text : List Char} (hk : k < text.length) :
    utf16Offset text (k + 1) - countBefore (encodeUtf16 text) (utf16Offset text (k + 1)) = utf16Offset text k := by
  have hc : text[k]? = some text[k] := List.getElem?_eq_getElem hk
  have hu := charUnits text[k]
  have hge := fun i => getElem?_utf16Offset (i := i) hc; rw [utf16Offset_succ hc]
  generalize utf16 text[k] = units at hu hge
  generalize utf16Offset text k = offset at hge; unfold countBefore
  cases hu with
  | single unit leading trailing =>
    have hn := hge 0 Nat.zero_lt_one
    have hs : offset + [unit].length - 1 = offset + 0 := rfl
    rw [hs, hn, List.getElem?_cons_zero, Option.any_some, trailing, Bool.and_false, Bool.false_and,
      if_neg nofun]
    rfl
  | pair first second leading trailing =>
    have hr := hge 0 (Nat.succ_pos _)
    have hse := hge 1 (Nat.lt_succ_self 1)
    have hs : offset + [first, second].length - 1 = offset + 1 := rfl
    have hf : offset + [first, second].length - 2 = offset + 0 := rfl
    have hw : decide (2 ≤ offset + [first, second].length) = true := decide_eq_true (Nat.le_add_left 2 offset)
    rw [hs, hf, hr, hse, List.getElem?_cons_zero, List.getElem?_cons_succ, List.getElem?_cons_zero,
      Option.any_some, Option.any_some, leading, trailing, Bool.and_true, Bool.and_true, if_pos hw]
    exact Nat.add_sub_cancel offset 2

theorem countAfter_eq {text : List Char} (hk : k < text.length) :
    utf16Offset text k + countAfter (encodeUtf16 text) (utf16Offset text k) = utf16Offset text (k + 1) := by
  have hc : text[k]? = some text[k] := List.getElem?_eq_getElem hk
  have hu := charUnits text[k]
  have hge := fun i => getElem?_utf16Offset (i := i) hc; rw [utf16Offset_succ hc]
  generalize utf16 text[k] = units at hu hge
  generalize utf16Offset text k = offset at hge; unfold countAfter
  cases hu with
  | single unit leading trailing =>
    have hn := hge 0 Nat.zero_lt_one; rw [Nat.add_zero] at hn
    rw [hn, List.getElem?_cons_zero, Option.any_some, leading, Bool.and_false, Bool.false_and, if_neg nofun]
    rfl
  | pair first second leading trailing =>
    have hf := hge 0 (Nat.succ_pos _)
    have hs := hge 1 (Nat.lt_succ_self 1)
    have hlt : offset + 1 < (encodeUtf16 text).length := (List.getElem?_eq_some_iff.1 hs).1
    rw [Nat.add_zero] at hf
    rw [hf, hs, List.getElem?_cons_zero, List.getElem?_cons_succ, List.getElem?_cons_zero,
      Option.any_some, Option.any_some, leading, trailing, Bool.and_true, Bool.and_true, if_pos (decide_eq_true hlt)]
    rfl

/-! ## Keys -/

theorem Represents.start_eq_stop_iff (h : m.Represents a) : m.selectionStart = m.selectionEnd ↔ a.start = a.stop := by
  rw [h.start, h.stop]
  exact utf16Offset_inj (Nat.le_trans (start_le_stop a) h.stop_le) h.stop_le

theorem deleteSelected_none (h : m.Represents a) (hs : a.start = a.stop) : m.deleteSelected = (m, false) :=
  if_pos (h.start_eq_stop_iff.2 hs)

theorem represents_deleteSelected (h : m.Represents a) (hs : a.start ≠ a.stop) :
    m.deleteSelected.2 = true ∧ m.deleteSelected.1.Represents (a.replace a.start a.stop []) := by
  unfold deleteSelected; dsimp only
  rw [if_neg fun heq => hs (h.start_eq_stop_iff.1 heq)]
  refine ⟨rfl, represents_replace h (start_le_stop a) h.stop_le [] ?_ h.start h.start rfl⟩
  rw [encodeUtf16_nil, List.append_nil, ← h.start, ← h.stop]; rfl

theorem start_eq_stop_iff (a : ScalarEditor) : a.start = a.stop ↔ a.base = a.extent := by
  unfold ScalarEditor.start ScalarEditor.stop; omega

theorem deleteSelected_eq (h : m.Represents a) : m.deleteSelected.1.selectionExtent = utf16Offset a.text a.start ∧
      m.deleteSelected.1.text = m.text.take (utf16Offset a.text a.start) ++ m.text.drop (utf16Offset a.text a.stop) := by
  by_cases hs : a.start = a.stop
  · have he : a.extent = a.start := by
      unfold ScalarEditor.start ScalarEditor.stop at hs
      unfold ScalarEditor.start; omega
    rw [deleteSelected_none h hs, ← hs, List.take_append_drop, h.selectionExtent, he]
    exact ⟨rfl, rfl⟩
  · unfold deleteSelected; dsimp only
    rw [if_neg fun heq => hs (h.start_eq_stop_iff.1 heq), h.start, h.stop]; exact ⟨rfl, rfl⟩

theorem Represents.before (h : m.Represents a) : (a.extent = 0 ∧ m.selectionExtent = 0) ∨
    ∃ k, k < a.text.length ∧ a.extent = k + 1 ∧ m.selectionExtent = utf16Offset a.text (k + 1) ∧ m.selectionExtent ≠ 0 := by
  rcases he : a.extent with _ | k
  · exact .inl ⟨rfl, by rw [h.selectionExtent, he, utf16Offset_zero]⟩
  have hk : k < a.text.length := by
    have := h.extent
    omega
  have hpos : m.selectionExtent = utf16Offset a.text (k + 1) := by rw [h.selectionExtent, he]
  have hlt : utf16Offset a.text k < utf16Offset a.text (k + 1) := utf16Offset_lt (Nat.lt_succ_self k) hk
  exact .inr ⟨k, hk, rfl, hpos, by omega⟩

theorem Represents.after (h : m.Represents a) :
    (a.extent = a.text.length ∧ utf16Offset a.text a.extent = utf16Offset a.text a.text.length) ∨
      (a.extent < a.text.length ∧ utf16Offset a.text a.extent ≠ utf16Offset a.text a.text.length) := by
  rcases Nat.lt_or_eq_of_le h.extent with hlt | he
  · exact .inr ⟨hlt, fun heq => Nat.ne_of_lt hlt ((utf16Offset_inj h.extent (Nat.le_refl _)).1 heq)⟩
  · exact .inl ⟨he, congrArg _ he⟩

def Follows (m : TextInputModel) (a : ScalarEditor) (edit : KeyEdit) : Prop :=
  (m.key edit).2 = (a.key edit).2 ∧ (m.key edit).1.Represents (a.key edit).1

theorem follows_backspace (h : m.Represents a) : m.Follows a .backspace := by
  show m.backspace.2 = (a.key .backspace).2 ∧ m.backspace.1.Represents (a.key .backspace).1
  unfold backspace ScalarEditor.key; dsimp only
  by_cases hs : a.start = a.stop
  · rw [deleteSelected_none h hs, if_neg (not_not.2 hs)]; dsimp only
    rw [if_neg nofun]
    rcases h.before with ⟨he, hz⟩ | ⟨k, hk, he, hpo, hpos⟩
    · rw [if_pos hz, if_pos he]; exact ⟨rfl, h⟩
    rw [if_neg hpos, he, if_neg (Nat.succ_ne_zero k)]
    refine ⟨rfl, ?_⟩; rw [h.text, hpo, countBefore_eq hk]
    refine represents_replace h (Nat.le_succ k) hk [] ?_ rfl rfl rfl
    rw [encodeUtf16_nil, List.append_nil]; rfl
  · obtain ⟨hd, hr⟩ := represents_deleteSelected h hs
    rw [if_pos hd, if_pos hs]; exact ⟨rfl, hr⟩

theorem follows_delete (h : m.Represents a) : m.Follows a .delete := by
  show m.delete.2 = (a.key .delete).2 ∧ m.delete.1.Represents (a.key .delete).1
  unfold delete ScalarEditor.key; dsimp only
  by_cases hs : a.start = a.stop
  · rw [deleteSelected_none h hs, if_neg (not_not.2 hs)]; dsimp only
    rw [if_neg nofun, h.length, h.selectionExtent]
    rcases h.after with ⟨he, ho⟩ | ⟨hlt, ho⟩
    · rw [if_pos he, if_pos ho]; exact ⟨rfl, h⟩
    rw [if_neg (Nat.ne_of_lt hlt), if_neg ho]
    refine ⟨rfl, ?_⟩; rw [h.text, countAfter_eq hlt]
    refine represents_replace h (Nat.le_succ _) hlt [] ?_ ?_ h.selectionExtent rfl
    · rw [encodeUtf16_nil, List.append_nil]; rfl
    · exact (h.selected_iff.2 ((start_eq_stop_iff a).1 hs)).trans h.selectionExtent
  · obtain ⟨hd, hr⟩ := represents_deleteSelected h hs
    rw [if_pos hd, if_pos hs]; exact ⟨rfl, hr⟩

theorem follows_moveCursorBack (h : m.Represents a) : m.Follows a .moveCursorBack := by
  show m.moveCursorBack.2 = (a.key .moveCursorBack).2 ∧ m.moveCursorBack.1.Represents (a.key .moveCursorBack).1
  unfold moveCursorBack ScalarEditor.key; dsimp only
  by_cases hs : a.base = a.extent
  · rw [if_neg (not_not.2 (h.selected_iff.2 hs)), if_neg (not_not.2 hs)]
    rcases h.before with ⟨he, hz⟩ | ⟨k, hk, he, hpo, hpos⟩
    · rw [if_pos hz, if_pos he]; exact ⟨rfl, h⟩
    rw [if_neg hpos, he, if_neg (Nat.succ_ne_zero k)]
    refine ⟨rfl, ?_⟩; dsimp only
    rw [hpo, h.text, countBefore_eq hk]; exact h.caret (Nat.le_of_lt hk)
  · rw [if_pos (fun heq => hs (h.selected_iff.1 heq)), if_pos hs, h.start]
    exact ⟨rfl, h.caret (Nat.le_trans (start_le_stop a) h.stop_le)⟩

theorem follows_moveCursorForward (h : m.Represents a) : m.Follows a .moveCursorForward := by
  show m.moveCursorForward.2 = (a.key .moveCursorForward).2 ∧
    m.moveCursorForward.1.Represents (a.key .moveCursorForward).1
  unfold moveCursorForward ScalarEditor.key; dsimp only
  by_cases hs : a.base = a.extent
  · rw [if_neg (not_not.2 (h.selected_iff.2 hs)), if_neg (not_not.2 hs), h.length, h.selectionExtent]
    rcases h.after with ⟨he, ho⟩ | ⟨hlt, ho⟩
    · rw [if_pos he, if_pos ho]; exact ⟨rfl, h⟩
    rw [if_neg (Nat.ne_of_lt hlt), if_neg ho]
    refine ⟨rfl, ?_⟩
    rw [h.text, countAfter_eq hlt]; exact h.caret hlt
  · rw [if_pos (fun heq => hs (h.selected_iff.1 heq)), if_pos hs, h.stop]
    exact ⟨rfl, h.caret h.stop_le⟩

theorem follows_move (h : m.Represents a) (hk : k ≤ a.text.length) {position : Nat}
    (hpos : position = utf16Offset a.text k) :
    let mv := if m.selectionBase = position && m.selectionExtent = position then (m, false)
      else (m.caret position, true)
    let moved' := if a.base = k && a.extent = k then (a, false) else (a.caret k, true)
    mv.2 = moved'.2 ∧ mv.1.Represents moved'.1 := by
  intro mv moved'
  have hf : (decide (m.selectionBase = position) && decide (m.selectionExtent = position)) =
      (decide (a.base = k) && decide (a.extent = k)) := by
    rw [h.selectionBase, h.selectionExtent, hpos, decide_eq_decide.2 (utf16Offset_inj h.base hk),
      decide_eq_decide.2 (utf16Offset_inj h.extent hk)]
  unfold mv moved'; rw [hf]
  split
  · exact ⟨rfl, h⟩
  · rw [hpos]; exact ⟨rfl, h.caret hk⟩

/-! ## Insertions -/

theorem length_replace (h : m.Represents a) (pt : UInt32) : (encodeUtf16 (a.key (.addCodePoint pt)).1.text).length =
      m.text.length - (m.selectionEnd - m.selectionStart) + (utf16 (charOfCodePoint pt)).length := by
  have hle := utf16Offset_le (start_le_stop a) h.stop_le
  have he := utf16Offset_le h.stop_le (Nat.le_refl _)
  show (encodeUtf16 (a.text.take a.start ++ [charOfCodePoint pt] ++ a.text.drop a.stop)).length = _
  rw [encodeUtf16_append, encodeUtf16_append, ← take_encodeUtf16, ← drop_encodeUtf16, ← h.text, List.length_append,
    List.length_append, List.length_take, List.length_drop, h.start, h.stop, h.length, encodeUtf16_cons,
    encodeUtf16_nil, List.append_nil]
  omega

theorem addCodePoint_refused (h : m.Represents a) {pt : UInt32} (hf : ¬a.Fits (.addCodePoint pt)) :
    m.addCodePoint pt = (m, false) := by
  have hn : maxTextUtf16Units < (encodeUtf16 (a.key (.addCodePoint pt)).1.text).length := Nat.lt_of_not_le hf
  rw [length_replace h] at hn; unfold addCodePoint
  dsimp only; rw [if_pos hn, ite_self]

theorem follows_addCodePoint (h : m.Represents a) {pt : UInt32} (hf : a.Fits (.addCodePoint pt)) :
    m.Follows a (.addCodePoint pt) := by
  have hs : (encodeUtf16 (a.key (.addCodePoint pt)).1.text).length ≤ maxTextUtf16Units := hf
  rw [length_replace h] at hs
  have hle := utf16Offset_le (start_le_stop a) h.stop_le
  have hn := utf16Offset_le h.stop_le (Nat.le_refl _)
  have hse : ¬m.text.length < m.selectionEnd - m.selectionStart := by
    rw [h.length, h.start, h.stop]; omega
  have he : encodeUtf16 [charOfCodePoint pt] = utf16 (charOfCodePoint pt) := List.append_nil _
  show (m.addCodePoint pt).2 = true ∧
    (m.addCodePoint pt).1.Represents (a.replace a.start a.stop [charOfCodePoint pt])
  unfold addCodePoint; dsimp only
  rw [if_neg hse, if_neg (Nat.not_lt.2 hs)]
  obtain ⟨hpos, hte⟩ := deleteSelected_eq h
  have hlen : (m.text.take (utf16Offset a.text a.start)).length = utf16Offset a.text a.start :=
    List.length_take_of_le (by rw [h.length]; omega)
  rw [hpos, hte, ← he, List.take_left' hlen, List.drop_left' hlen]
  exact ⟨rfl, represents_replace h (start_le_stop a) h.stop_le _ rfl rfl rfl rfl⟩

theorem key_refines (h : m.Represents a) (edit : KeyEdit) :
    (a.Fits edit → m.Follows a edit) ∧ (¬a.Fits edit → m.key edit = (m, false)) := by
  cases edit with
  | addCodePoint pt => exact ⟨follows_addCodePoint h, addCodePoint_refused h⟩
  | backspace => exact ⟨fun _ => follows_backspace h, fun hn => absurd trivial hn⟩
  | delete => exact ⟨fun _ => follows_delete h, fun hn => absurd trivial hn⟩
  | moveCursorBack => exact ⟨fun _ => follows_moveCursorBack h, fun hn => absurd trivial hn⟩
  | moveCursorForward => exact ⟨fun _ => follows_moveCursorForward h, fun hn => absurd trivial hn⟩
  | moveCursorToBeginning =>
    exact ⟨fun _ => follows_move h (Nat.zero_le _) (utf16Offset_zero _).symm, fun hn => absurd trivial hn⟩
  | moveCursorToEnd => exact ⟨fun _ => follows_move h (Nat.le_refl _) h.length, fun hn => absurd trivial hn⟩

end Represents

/-! ## Replacements -/

theorem validSelectionBoundary_iff (text : List UInt16) (position : Nat) :
    validSelectionBoundary text position = true ↔ position ≤ text.length ∧ splitsPair text position = false := by
  unfold validSelectionBoundary splitsPair; rw [Bool.and_eq_true, decide_eq_true_eq]
  refine and_congr_right fun hle => ?_
  rcases Nat.eq_zero_or_pos position with rfl | hpos
  · simp
  have hne : position ≠ 0 := Nat.ne_of_gt hpos
  rw [decide_eq_false hne, Bool.false_or, decide_eq_true hpos, Bool.true_and]
  by_cases he : position = text.length
  · subst he; simp
  · rw [decide_eq_false he, Bool.false_or, Bool.not_eq_true']

variable {text : List Char} {m m' : TextInputModel}

theorem exists_scalar {position : Nat} (h : validSelectionBoundary (encodeUtf16 text) position = true) :
    ∃ count ≤ text.length, position = utf16Offset text count := by
  obtain ⟨hle, hs⟩ := (validSelectionBoundary_iff _ _).1 h; exact (splitsPair_eq_false_iff hle).1 hs

theorem valid_utf16Offset {cnt : Nat} (h : cnt ≤ text.length) :
    validSelectionBoundary (encodeUtf16 text) (utf16Offset text cnt) = true := by
  refine (validSelectionBoundary_iff _ _).2 ⟨?_, splitsPair_utf16Offset h⟩
  rw [← utf16Offset_length]; exact utf16Offset_le h (Nat.le_refl _)

theorem exists_represents (hte : m.text = encodeUtf16 text)
    (hs : ∃ count ≤ text.length, m.selectionBase = utf16Offset text count)
    (he : ∃ count ≤ text.length, m.selectionExtent = utf16Offset text count)
    (hm : ∀ base extent, m.composing = some (base, extent) →
      (∃ count ≤ text.length, base = utf16Offset text count) ∧ ∃ count ≤ text.length, extent = utf16Offset text count) :
    ∃ a, m.Represents a := by
  obtain ⟨base, hs, hsb⟩ := hs
  obtain ⟨extent, he, hse⟩ := he
  rcases h : m.composing with _ | ⟨base', e'⟩
  · exact ⟨⟨text, base, extent, none⟩, hte, hs, he, hsb, hse, h,
      fun _ _ h => (nomatch h)⟩
  obtain ⟨⟨first, hf, rfl⟩, last, hla, rfl⟩ := hm base' e' h
  refine ⟨⟨text, base, extent, some (first, last)⟩, hte, hs, he, hsb, hse, h, ?_⟩
  rintro _ _ heq
  cases heq; exact ⟨hf, hla⟩

theorem represents_replaceEditingState {text : String} {base extent : Nat} {c : Option (Nat × Nat)}
    (h : (m.replaceEditingState text base extent c).2 = true) :
    (∃ a, (m.replaceEditingState text base extent c).1.Represents a) ∧
      (m.replaceEditingState text base extent c).1.text.length ≤ maxTextUtf16Units := by
  unfold replaceEditingState at h ⊢
  dsimp only at h ⊢; split at h
  · cases h
  rename_i hh; rw [if_neg hh]
  simp only [Bool.or_eq_true, not_or, decide_eq_true_eq, Bool.not_eq_true', Bool.not_eq_false, Nat.not_lt] at hh
  obtain ⟨⟨⟨hlen, hs⟩, he⟩, hm⟩ := hh
  refine ⟨exists_represents rfl (exists_scalar hs) (exists_scalar he) fun base extent heq => ?_, hlen⟩
  have heq : c = some (base, extent) := heq
  rw [heq, Option.any_some] at hm
  simp only [Bool.or_eq_true, not_or, Bool.not_eq_true', Bool.not_eq_false] at hm
  exact ⟨exists_scalar hm.1, exists_scalar hm.2⟩

theorem exists_scalar_of_utf8 {off position : Nat} (h : utf8OffsetToUtf16 text off = some position) :
    ∃ count ≤ text.length, position = utf16Offset text count := by
  unfold utf8OffsetToUtf16 at h; split at h
  · cases h
  cases h
  have hn : takeBytes text off <+: text := ⟨dropBytes text off, takeBytes_append_dropBytes text off⟩
  refine ⟨(takeBytes text off).length, hn.length_le, ?_⟩; unfold utf16Offset
  rw [← List.prefix_iff_eq_take.1 hn]

theorem represents_adopt {e : Preedit} (h : m.adopt e = some m') :
    (∃ a, m'.Represents a) ∧ m'.text.length ≤ maxTextUtf16Units := by
  unfold adopt at h; dsimp only at h
  split at h
  · cases h
  rename_i hlen
  obtain ⟨base, hs, h⟩ := Option.bind_eq_some_iff.1 h
  obtain ⟨extent, he, h⟩ := Option.bind_eq_some_iff.1 h; cases h
  refine ⟨exists_represents rfl (exists_scalar_of_utf8 hs) (exists_scalar_of_utf8 he) fun first last heq => ?_,
    Nat.not_lt.1 hlen⟩
  obtain ⟨range, -, heq⟩ := Option.bind_eq_some_iff.1 heq
  obtain ⟨f', hf, heq⟩ := Option.bind_eq_some_iff.1 heq
  obtain ⟨last', hla, heq⟩ := Option.bind_eq_some_iff.1 heq; cases heq
  exact ⟨exists_scalar_of_utf8 hf, exists_scalar_of_utf8 hla⟩

theorem represents_inputMethodEdit {transaction : InputMethodTransaction}
    (h : m.inputMethodEdit transaction = some m') : (∃ a, m'.Represents a) ∧ m'.text.length ≤ maxTextUtf16Units := by
  unfold inputMethodEdit at h; dsimp only at h
  split at h
  · cases h
  obtain ⟨_, -, h⟩ := Option.bind_eq_some_iff.1 h
  obtain ⟨_, -, h⟩ := Option.bind_eq_some_iff.1 h
  obtain ⟨_, -, h⟩ := Option.bind_eq_some_iff.1 h
  obtain ⟨_, -, h⟩ := Option.bind_eq_some_iff.1 h
  obtain ⟨_, -, h⟩ := Option.bind_eq_some_iff.1 h; exact represents_adopt h

/-! ## Runs -/

inductive TextEvent where
  | setEditingState (text : String) (base extent : Nat) (composing : Option (Nat × Nat))
  | key (edit : KeyEdit)
  | inputMethod (transaction : InputMethodTransaction)
  | clear

def handle (m : TextInputModel) : TextEvent → TextInputModel × Bool
  | .setEditingState text base extent composing => m.replaceEditingState text base extent composing
  | .key edit => m.key edit
  | .inputMethod transaction => m.applyInputMethod transaction
  | .clear => (m.clear, true)

def next (m : TextInputModel) (e : TextEvent) : TextInputModel := (m.handle e).1

/-- Well-formed UTF-16 within the limit, with offsets inside of it that split no pair of surrogates. -/
structure Sound (m : TextInputModel) : Prop where
  wellFormed : ∃ text, m.text = encodeUtf16 text
  length : m.text.length ≤ maxTextUtf16Units
  selectionBase : m.selectionBase ≤ m.text.length ∧ splitsPair m.text m.selectionBase = false
  selectionExtent : m.selectionExtent ≤ m.text.length ∧ splitsPair m.text m.selectionExtent = false
  composing : ∀ base extent, m.composing = some (base, extent) →
    (base ≤ m.text.length ∧ splitsPair m.text base = false) ∧ extent ≤ m.text.length ∧ splitsPair m.text extent = false

structure Same (m m' : TextInputModel) : Prop where
  text : m'.text = m.text
  selection : m'.selectionBase = m.selectionBase ∧ m'.selectionExtent = m.selectionExtent
  composing : m'.composing = m.composing

structure Refines (m : TextInputModel) : Prop where
  sound : m.Sound
  represents : ∃ a, m.Represents a
  keys : ∀ a edit, m.Represents a → (a.Fits edit → m.Follows a edit) ∧ (¬a.Fits edit → m.key edit = (m, false))
  refused : ∀ e, (m.handle e).2 = false → Same m (m.handle e).1

theorem Represents.sound {a : ScalarEditor} (h : m.Represents a) (hlen : m.text.length ≤ maxTextUtf16Units) :
    m.Sound := by
  have hv : ∀ {position count}, count ≤ a.text.length → position = utf16Offset a.text count →
      position ≤ m.text.length ∧ splitsPair m.text position = false := fun hn heq => by
    rw [h.text, heq]
    exact (validSelectionBoundary_iff _ _).1 (valid_utf16Offset hn)
  refine ⟨⟨a.text, h.text⟩, hlen, hv h.base h.selectionBase, hv h.extent h.selectionExtent,
    fun base extent heq => ?_⟩
  rw [h.composing] at heq
  obtain ⟨⟨first, last⟩, hr, heq⟩ := Option.map_eq_some_iff.1 heq
  obtain ⟨hf, hs⟩ := h.inside first last hr
  cases heq; exact ⟨hv hf rfl, hv hs rfl⟩

theorem key_of_refused (m : TextInputModel) (edit : KeyEdit) (h : (m.key edit).2 = false) : m.key edit = (m, false) := by
  have hit : ∀ {c : Prop} [Decidable c] {m' : TextInputModel},
      (if c then (m, false) else (m', true)).2 = false → (if c then (m, false) else (m', true)) = (m, false) := by
    intro c _ m' h; split at h
    · rename_i hc; exact if_pos hc
    · cases h
  have he : ∀ {c d : Prop} [Decidable c] [Decidable d] {m' m'' : TextInputModel},
      (if c then (m', true) else if d then (m, false) else (m'', true)).2 = false →
        (if c then (m', true) else if d then (m, false) else (m'', true)) = (m, false) := by
    intro c d _ _ m' m'' h; split at h
    · cases h
    · rename_i hc; rw [if_neg hc]; exact hit h
  cases edit with
  | addCodePoint pt =>
    have h : (m.addCodePoint pt).2 = false := h
    show m.addCodePoint pt = (m, false)
    unfold addCodePoint at h ⊢
    dsimp only at h ⊢; split at h
    · rename_i hc; exact if_pos hc
    · rename_i hc; rw [if_neg hc]; exact hit h
  | backspace =>
    have h : m.backspace.2 = false := h
    show m.backspace = (m, false)
    unfold backspace at h ⊢
    generalize m.deleteSelected = dl at h ⊢
    obtain ⟨dl, _ | _⟩ := dl
    · exact hit h
    · cases h
  | delete =>
    have h : m.delete.2 = false := h
    show m.delete = (m, false)
    unfold delete at h ⊢
    generalize m.deleteSelected = dl at h ⊢
    obtain ⟨dl, _ | _⟩ := dl
    · exact hit h
    · cases h
  | moveCursorBack => exact he h
  | moveCursorForward => exact he h
  | moveCursorToBeginning => exact hit h
  | moveCursorToEnd => exact hit h

theorem same_of_refused (m : TextInputModel) (e : TextEvent) (h : (m.handle e).2 = false) : Same m (m.handle e).1 := by
  cases e with
  | setEditingState text base extent c =>
    unfold handle replaceEditingState at h ⊢
    dsimp only at h ⊢; split at h
    · rename_i hh; rw [if_pos hh]; exact ⟨rfl, ⟨rfl, rfl⟩, rfl⟩
    · cases h
  | key edit =>
    have hs : m.key edit = (m, false) := key_of_refused m edit h
    show Same m (m.key edit).1
    rw [hs]; exact ⟨rfl, ⟨rfl, rfl⟩, rfl⟩
  | inputMethod transaction =>
    unfold handle applyInputMethod at h ⊢
    dsimp only at h ⊢
    cases he : m.inputMethodEdit transaction with
    | none => exact ⟨rfl, ⟨rfl, rfl⟩, rfl⟩
    | some ed =>
      rw [he] at h; cases h
  | clear => cases h

/-- An edited text in the limits. -/
def Inv (m : TextInputModel) : Prop := (∃ a, m.Represents a) ∧ m.text.length ≤ maxTextUtf16Units

theorem inv_clear : Inv {} :=
  ⟨⟨{}, rfl, Nat.le_refl 0, Nat.le_refl 0, rfl, rfl, rfl, fun _ _ h => (nomatch h)⟩, Nat.zero_le _⟩

theorem length_removeRange {start stop : Nat} (h : start ≤ stop) :
    (m.removeRange start stop).text.length ≤ m.text.length := by
  unfold removeRange
  rw [List.length_append, List.length_take, List.length_drop]; omega

theorem length_deleteSelected (m : TextInputModel) : m.deleteSelected.1.text.length ≤ m.text.length := by
  have hle : m.selectionStart ≤ m.selectionEnd := Nat.le_trans (Nat.min_le_left ..) (Nat.le_max_left ..)
  unfold deleteSelected; dsimp only
  split
  · exact Nat.le_refl _
  · exact length_removeRange hle

theorem length_key {edit : KeyEdit} (h : ∀ pt, edit ≠ .addCodePoint pt) :
    (m.key edit).1.text.length ≤ m.text.length := by
  have hd := length_deleteSelected m; unfold key
  cases edit with
  | addCodePoint pt => exact absurd rfl (h pt)
  | backspace =>
    unfold backspace
    generalize m.deleteSelected = d at hd
    obtain ⟨d, _ | _⟩ := d
    · dsimp only; rw [if_neg nofun]
      split
      · exact Nat.le_refl _
      · exact length_removeRange (Nat.sub_le _ _)
    · exact hd
  | delete =>
    unfold delete
    generalize m.deleteSelected = d at hd
    obtain ⟨d, _ | _⟩ := d
    · dsimp only; rw [if_neg nofun]
      split
      · exact Nat.le_refl _
      · exact length_removeRange (Nat.le_add_right _ _)
    · exact hd
  | moveCursorBack =>
    unfold moveCursorBack; dsimp only
    split
    · exact Nat.le_refl _
    · split <;> exact Nat.le_refl _
  | moveCursorForward =>
    unfold moveCursorForward; dsimp only
    split
    · exact Nat.le_refl _
    · split <;> exact Nat.le_refl _
  | moveCursorToBeginning =>
    show m.moveCursorToBeginning.1.text.length ≤ m.text.length; unfold moveCursorToBeginning
    split <;> exact Nat.le_refl _
  | moveCursorToEnd =>
    unfold moveCursorToEnd; dsimp only
    split <;> exact Nat.le_refl _

theorem inv_key (h : m.Inv) (edit : KeyEdit) : (m.key edit).1.Inv := by
  obtain ⟨⟨a, hr⟩, hlen⟩ := h
  obtain ⟨hfo, hre⟩ := key_refines hr edit
  by_cases hf : a.Fits edit
  · have hk := (hfo hf).2
    refine ⟨⟨_, hk⟩, ?_⟩
    by_cases hd : ∃ pt, edit = .addCodePoint pt
    · obtain ⟨pt, rfl⟩ := hd
      rw [hk.text]; exact hf
    · exact Nat.le_trans (length_key fun pt heq => hd ⟨pt, heq⟩) hlen
  · rw [hre hf]; exact ⟨⟨a, hr⟩, hlen⟩

theorem Represents.of_same {a : ScalarEditor} (h : m.Represents a) (hs : Same m m') : m'.Represents a :=
  ⟨hs.text.trans h.text, h.base, h.extent, hs.selection.1.trans h.selectionBase,
    hs.selection.2.trans h.selectionExtent, hs.composing.trans h.composing, h.inside⟩

theorem inv_next (m : TextInputModel) (e : TextEvent) (h : m.Inv) : (m.next e).Inv := by
  have hre : (m.handle e).2 = false → (m.handle e).1.Inv := fun hf => by
    have hs := same_of_refused m e hf
    exact ⟨h.1.imp fun a ha => ha.of_same hs, hs.text ▸ h.2⟩
  unfold next
  by_cases hf : (m.handle e).2 = false
  · exact hre hf
  have hr : (m.handle e).2 = true := (Bool.not_eq_false _).mp hf
  cases e with
  | setEditingState text base extent c => exact represents_replaceEditingState hr
  | key edit => exact inv_key h edit
  | inputMethod transaction =>
    unfold handle applyInputMethod at hr ⊢
    dsimp only at hr ⊢
    cases he : m.inputMethodEdit transaction with
    | none =>
      rw [he] at hr; cases hr
    | some ed => exact represents_inputMethodEdit he
  | clear => exact inv_clear

theorem refines_scalars (es : List TextEvent) : Refines (exec next {} es) := by
  obtain ⟨⟨a, hrep⟩, hlen⟩ := exec_invariant (I := Inv) inv_next es inv_clear
  exact ⟨hrep.sound hlen, ⟨a, hrep⟩, fun _ edit h => key_refines h edit,
    fun e h => same_of_refused _ e h⟩

def Ordered (m : TextInputModel) : Prop := m.selectionBase ≤ m.selectionExtent

/-- The framework selects backwards. -/
theorem reversed_selection : ¬∀ es : List TextEvent, Ordered (exec next {} es) := by
  intro h
  have := h [.setEditingState (String.ofList ['a']) 1 0 none]
  unfold Ordered at this
  revert this
  decide

end TextInputModel

end Deniald.Flutter
