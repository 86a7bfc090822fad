/-
Text as the source's `str`: positions in it are byte offsets of its UTF-8, and only some of them lie between characters.
-/
import Mathlib.Algebra.Ring.Nat

namespace Deniald.Lib

/-- The number of bytes of a text. -/
def utf8Length (text : List Char) : Nat := (text.map Char.utf8Size).sum

/-- `str::is_char_boundary`. -/
def isCharBoundary : List Char → Nat → Bool
  | [], index => index = 0
  | c :: text, index => index = 0 || (c.utf8Size ≤ index && isCharBoundary text (index - c.utf8Size))

@[simp] theorem utf8Length_nil : utf8Length [] = 0 := rfl

@[simp] theorem utf8Length_cons (c : Char) (text : List Char) :
    utf8Length (c :: text) = c.utf8Size + utf8Length text := rfl

theorem isCharBoundary_iff : ∀ {text : List Char} {index : Nat},
    isCharBoundary text index = true ↔ ∃ before after, text = before ++ after ∧ utf8Length before = index
  | [], index => by
    constructor
    · intro h; exact ⟨[], [], rfl, (of_decide_eq_true h).symm⟩
    · rintro ⟨before, after, h, rfl⟩
      rw [(List.append_eq_nil_iff.1 h.symm).1]; rfl
  | c :: text, index => by
    unfold isCharBoundary
    rw [Bool.or_eq_true, Bool.and_eq_true, decide_eq_true_eq, decide_eq_true_eq]
    constructor
    · rintro (rfl | ⟨hle, h⟩)
      · exact ⟨[], c :: text, rfl, rfl⟩
      · obtain ⟨before, after, rfl, hlen⟩ := isCharBoundary_iff.1 h
        refine ⟨c :: before, after, rfl, ?_⟩
        rw [utf8Length_cons, hlen]; omega
    · rintro ⟨_ | ⟨d, before⟩, after, h, rfl⟩
      · exact .inl rfl
      · obtain ⟨rfl, rfl⟩ := List.cons_eq_cons.1 h; rw [utf8Length_cons]
        exact .inr ⟨by omega, isCharBoundary_iff.2 ⟨before, after, rfl, by omega⟩⟩

/-- The characters that begin before a byte offset. -/
def takeBytes : List Char → Nat → List Char
  | [], _ => []
  | c :: text, index => if index = 0 then [] else c :: takeBytes text (index - c.utf8Size)

def dropBytes : List Char → Nat → List Char
  | [], _ => []
  | c :: text, index => if index = 0 then c :: text else dropBytes text (index - c.utf8Size)

theorem takeBytes_append_dropBytes : ∀ (text : List Char) (index : Nat), takeBytes text index ++ dropBytes text index = text
  | [], _ => rfl
  | c :: text, index => by
    unfold takeBytes dropBytes; split
    · rfl
    · rw [List.cons_append, takeBytes_append_dropBytes]

/-- `String::replace_range`, of a range of bytes between boundaries; `insert_str` at its start where it is empty. -/
def replaceRange (text : List Char) (start stop : Nat) (replacement : List Char) : List Char :=
  takeBytes text start ++ replacement ++ dropBytes text stop

end Deniald.Lib
