/-
The text of Flutter's text input (flutter_runtime/text_input.rs): UTF-16 units with a selection and a composing range,
edited by keys, replaced by the framework, and edited in bytes of UTF-8 by input methods.
-/
import Deniald.InputMethod.Manager
import Deniald.Lib.Utf16

namespace Deniald.Flutter

open Deniald.Lib Deniald.InputMethod

/-- `MAX_TEXT_UTF16_UNITS`. -/
def maxTextUtf16Units : Nat := 512 * 1024

structure TextInputModel where
  text : List UInt16 := []
  replacementScratch : List UInt16 := []
  selectionBase : Nat := 0
  selectionExtent : Nat := 0
  composing : Option (Nat × Nat) := none

/-! ## Offsets -/

def validSelectionBoundary (text : List UInt16) (position : Nat) : Bool :=
  position ≤ text.length && (position = 0 || position = text.length ||
    !(text[position - 1]?.any isLeadingSurrogate && text[position]?.any isTrailingSurrogate))

def utf16OffsetToUtf8 (text : List UInt16) (offset : Nat) : Option Nat :=
  if !validSelectionBoundary text offset then none else (decodeUtf16 (text.take offset)).map utf8Length

def utf8OffsetToUtf16 (text : List Char) (offset : Nat) : Option Nat :=
  if utf8Length text < offset || !isCharBoundary text offset then none
  else some (encodeUtf16 (takeBytes text offset)).length

/-- `char::from_u32`, or the replacement character. -/
def charOfCodePoint (codePoint : UInt32) : Char :=
  if h : codePoint.isValidChar then ⟨codePoint, h⟩ else Char.ofNat 0xFFFD

/-! ## Replacements -/

namespace TextInputModel

def clear (_ : TextInputModel) : TextInputModel := {}

/-- The replaced text is kept as the next one's buffer. -/
def replaceEditingState (m : TextInputModel) (text : String) (base extent : Nat) (composing : Option (Nat × Nat)) :
    TextInputModel × Bool :=
  let replacement := encodeUtf16 text.toList
  if maxTextUtf16Units < replacement.length || !validSelectionBoundary replacement base ||
      !validSelectionBoundary replacement extent || composing.any fun (base, extent) =>
        !validSelectionBoundary replacement base || !validSelectionBoundary replacement extent then
    ({ m with replacementScratch := replacement }, false)
  else (⟨replacement, m.text, base, extent, composing⟩, true)

def inputMethodTarget (m : TextInputModel) (hasRequest : Bool) (text : List Char) : Option (List Char × Nat) :=
  match m.composing with
  | some (base, extent) => do
    let start ← utf16OffsetToUtf8 m.text (min base extent)
    let stop ← utf16OffsetToUtf8 m.text (max base extent)
    return (replaceRange text start stop [], start)
  | none => do
    let start ← utf16OffsetToUtf8 m.text (min m.selectionBase m.selectionExtent)
    let stop ← utf16OffsetToUtf8 m.text (max m.selectionBase m.selectionExtent)
    return (if hasRequest && start ≠ stop then replaceRange text start stop [] else text, start)

def deleteSurrounding (text : List Char) (cursor : Nat) : Option (UInt32 × UInt32) → Option (List Char × Nat)
  | none => some (text, cursor)
  | some (before, after) =>
    if cursor < before.toNat then none
    else
      let start := cursor - before.toNat
      let stop := cursor + after.toNat
      if utf8Length text < stop || !isCharBoundary text start || !isCharBoundary text stop then none
      else some (replaceRange text start stop [], start)

def commitString (text : List Char) (cursor : Nat) : Option String → Option (List Char × Nat)
  | none => some (text, cursor)
  | some commit =>
    if commit.toList.contains (Char.ofNat 0) then none
    else some (replaceRange text cursor cursor commit.toList, cursor + utf8Length commit.toList)

structure Preedit where
  text : List Char
  selectionBase : Nat
  selectionExtent : Nat
  composing : Option (Nat × Nat)

def preeditString (text : List Char) (cursor : Nat) : Option (String × Int × Int) → Option Preedit
  | none => some ⟨text, cursor, cursor, none⟩
  | some (preedit, cursorBegin, cursorEnd) =>
    let preedit := preedit.toList
    if preedit.contains (Char.ofNat 0) then none
    else
      let stop := cursor + utf8Length preedit
      let text := replaceRange text cursor cursor preedit
      let composing := if preedit.isEmpty then none else some (cursor, stop)
      if 0 ≤ cursorBegin || 0 ≤ cursorEnd then
        if cursorBegin < 0 || cursorEnd < 0 then none
        else if utf8Length preedit < cursorBegin.toNat || utf8Length preedit < cursorEnd.toNat ||
            !isCharBoundary preedit cursorBegin.toNat || !isCharBoundary preedit cursorEnd.toNat then none
        else some ⟨text, cursor + cursorBegin.toNat, cursor + cursorEnd.toNat, composing⟩
      else if cursorBegin = -1 && cursorEnd = -1 then some ⟨text, stop, stop, composing⟩
      else none

def adopt (m : TextInputModel) (edited : Preedit) : Option TextInputModel :=
  let text := encodeUtf16 edited.text
  if maxTextUtf16Units < text.length then none
  else do
    let selectionBase ← utf8OffsetToUtf16 edited.text edited.selectionBase
    let selectionExtent ← utf8OffsetToUtf16 edited.text edited.selectionExtent
    let composing := edited.composing.bind fun (base, extent) => do
      return (← utf8OffsetToUtf16 edited.text base, ← utf8OffsetToUtf16 edited.text extent)
    return { m with text, selectionBase, selectionExtent, composing }

def inputMethodEdit (m : TextInputModel) (transaction : InputMethodTransaction) : Option TextInputModel :=
  let hasRequest := transaction.commitString.isSome || transaction.preeditString.isSome ||
    transaction.deleteSurrounding.isSome
  if !hasRequest && m.composing.isNone then none
  else do
    let text ← decodeUtf16 m.text
    let (text, cursor) ← m.inputMethodTarget hasRequest text
    let (text, cursor) ← deleteSurrounding text cursor transaction.deleteSurrounding
    let (text, cursor) ← commitString text cursor transaction.commitString
    let edited ← preeditString text cursor transaction.preeditString
    m.adopt edited

def applyInputMethod (m : TextInputModel) (transaction : InputMethodTransaction) : TextInputModel × Bool :=
  match m.inputMethodEdit transaction with
  | none => (m, false)
  | some edited => (edited, true)

/-! ## Keys -/

def selectionStart (m : TextInputModel) : Nat := min m.selectionBase m.selectionExtent

def selectionEnd (m : TextInputModel) : Nat := max m.selectionBase m.selectionExtent

def removeRange (m : TextInputModel) (start stop : Nat) : TextInputModel :=
  { m with text := m.text.take start ++ m.text.drop stop }

def deleteSelected (m : TextInputModel) : TextInputModel × Bool :=
  let start := m.selectionStart
  let stop := m.selectionEnd
  if start = stop then (m, false)
  else ({ m.removeRange start stop with selectionBase := start, selectionExtent := start, composing := none }, true)

def addCodePoint (m : TextInputModel) (codePoint : UInt32) : TextInputModel × Bool :=
  let encoded := utf16 (charOfCodePoint codePoint)
  let selected := m.selectionEnd - m.selectionStart
  if m.text.length < selected then (m, false)
  else if maxTextUtf16Units < m.text.length - selected + encoded.length then (m, false)
  else
    let m := m.deleteSelected.1
    let position := m.selectionExtent
    ({ m with
      text := m.text.take position ++ encoded ++ m.text.drop position
      selectionBase := position + encoded.length
      selectionExtent := position + encoded.length
      composing := none }, true)

def countBefore (text : List UInt16) (position : Nat) : Nat :=
  if 2 ≤ position && text[position - 1]?.any isTrailingSurrogate && text[position - 2]?.any isLeadingSurrogate then 2
  else 1

/-- The units of the character behind a position. -/
def countAfter (text : List UInt16) (position : Nat) : Nat :=
  if position + 1 < text.length && text[position]?.any isLeadingSurrogate &&
    text[position + 1]?.any isTrailingSurrogate then 2
  else 1

def backspace (m : TextInputModel) : TextInputModel × Bool :=
  let (deleted, selected) := m.deleteSelected
  if selected then (deleted, true)
  else
    let position := m.selectionExtent
    if position = 0 then (m, false)
    else
      let start := position - countBefore m.text position
      ({ m.removeRange start position with selectionBase := start, selectionExtent := start, composing := none }, true)

def delete (m : TextInputModel) : TextInputModel × Bool :=
  let (deleted, selected) := m.deleteSelected
  if selected then (deleted, true)
  else
    let position := m.selectionExtent
    if position = m.text.length then (m, false)
    else ({ m.removeRange position (position + countAfter m.text position) with composing := none }, true)

def caret (m : TextInputModel) (position : Nat) : TextInputModel :=
  { m with selectionBase := position, selectionExtent := position }

def moveCursorBack (m : TextInputModel) : TextInputModel × Bool :=
  if m.selectionBase ≠ m.selectionExtent then (m.caret m.selectionStart, true)
  else
    let position := m.selectionExtent
    if position = 0 then (m, false) else (m.caret (position - countBefore m.text position), true)

def moveCursorForward (m : TextInputModel) : TextInputModel × Bool :=
  if m.selectionBase ≠ m.selectionExtent then (m.caret m.selectionEnd, true)
  else
    let position := m.selectionExtent
    if position = m.text.length then (m, false) else (m.caret (position + countAfter m.text position), true)

def moveCursorToBeginning (m : TextInputModel) : TextInputModel × Bool :=
  if m.selectionBase = 0 && m.selectionExtent = 0 then (m, false) else (m.caret 0, true)

def moveCursorToEnd (m : TextInputModel) : TextInputModel × Bool :=
  let stop := m.text.length
  if m.selectionBase = stop && m.selectionExtent = stop then (m, false) else (m.caret stop, true)

end TextInputModel

end Deniald.Flutter
