/-
UTF-16: characters as one unit or a pair of surrogates, texts as lists of units, and the offsets into them that lie
between characters. Decoding undoes encoding, and the offsets between characters are those that split no pair.
-/
import Mathlib.Data.List.Basic

namespace Deniald.Lib

/-! ## Units -/

def isLeadingSurrogate (unit : UInt16) : Bool := 0xD800 ≤ unit && unit ≤ 0xDBFF

def isTrailingSurrogate (unit : UInt16) : Bool := 0xDC00 ≤ unit && unit ≤ 0xDFFF

/-- `char::encode_utf16`. -/
def utf16 (c : Char) : List UInt16 :=
  if c.toNat < 0x10000 then [.ofNat c.toNat]
  else [.ofNat (0xD800 + (c.toNat - 0x10000) / 0x400), .ofNat (0xDC00 + (c.toNat - 0x10000) % 0x400)]

/-- The character of a pair of surrogates. -/
def pairChar (leading trailing : UInt16) : Char :=
  .ofNat (0x10000 + (leading.toNat - 0xD800) * 0x400 + (trailing.toNat - 0xDC00))

theorem isLeadingSurrogate_iff (unit : UInt16) :
    isLeadingSurrogate unit = true ↔ 0xD800 ≤ unit.toNat ∧ unit.toNat ≤ 0xDBFF := by
  unfold isLeadingSurrogate
  rw [Bool.and_eq_true, decide_eq_true_eq, decide_eq_true_eq, UInt16.le_iff_toNat_le, UInt16.le_iff_toNat_le]
  rfl

theorem isTrailingSurrogate_iff (unit : UInt16) :
    isTrailingSurrogate unit = true ↔ 0xDC00 ≤ unit.toNat ∧ unit.toNat ≤ 0xDFFF := by
  unfold isTrailingSurrogate
  rw [Bool.and_eq_true, decide_eq_true_eq, decide_eq_true_eq, UInt16.le_iff_toNat_le, UInt16.le_iff_toNat_le]
  rfl

inductive CharUnits (c : Char) : List UInt16 → Prop where
  | single (unit : UInt16) (leading : isLeadingSurrogate unit = false) (trailing : isTrailingSurrogate unit = false)
      (char : Char.ofNat unit.toNat = c) : CharUnits c [unit]
  | pair (first second : UInt16) (leading : isLeadingSurrogate first = true) (trailing : isTrailingSurrogate second = true)
      (char : pairChar first second = c) : CharUnits c [first, second]

theorem not_trailing_of_leading {unit : UInt16} (h : isLeadingSurrogate unit = true) :
    isTrailingSurrogate unit = false := by
  rw [isLeadingSurrogate_iff] at h; rw [Bool.eq_false_iff]
  intro h'
  rw [isTrailingSurrogate_iff] at h'; omega

theorem charUnits (c : Char) : CharUnits c (utf16 c) := by
  have hv : c.toNat < 0xD800 ∨ 0xDFFF < c.toNat ∧ c.toNat < 0x110000 := c.valid
  unfold utf16; split
  · rename_i hm
    have hu : (UInt16.ofNat c.toNat).toNat = c.toNat := UInt16.toNat_ofNat_of_lt' hm
    refine .single _ ?_ ?_ ?_
    · rw [Bool.eq_false_iff, ne_eq, isLeadingSurrogate_iff, hu]; omega
    · rw [Bool.eq_false_iff, ne_eq, isTrailingSurrogate_iff, hu]; omega
    · rw [hu]; exact c.ofNat_toNat
  · rename_i hr
    have hh : (c.toNat - 0x10000) / 0x400 < 0x400 := by omega
    have hw : (c.toNat - 0x10000) % 0x400 < 0x400 := Nat.mod_lt _ (by decide)
    have hf : (UInt16.ofNat (0xD800 + (c.toNat - 0x10000) / 0x400)).toNat = 0xD800 + (c.toNat - 0x10000) / 0x400 :=
      UInt16.toNat_ofNat_of_lt' (by show _ < 65536; omega)
    have hs : (UInt16.ofNat (0xDC00 + (c.toNat - 0x10000) % 0x400)).toNat = 0xDC00 + (c.toNat - 0x10000) % 0x400 :=
      UInt16.toNat_ofNat_of_lt' (by show _ < 65536; omega)
    refine .pair _ _ ?_ ?_ ?_
    · rw [isLeadingSurrogate_iff, hf]; omega
    · rw [isTrailingSurrogate_iff, hs]; omega
    · unfold pairChar; rw [hf, hs]
      have hsu : 0x10000 + (0xD800 + (c.toNat - 0x10000) / 0x400 - 0xD800) * 0x400 +
          (0xDC00 + (c.toNat - 0x10000) % 0x400 - 0xDC00) = c.toNat := by omega
      rw [hsu]; exact c.ofNat_toNat

theorem length_utf16 (c : Char) : (utf16 c).length = 1 ∨ (utf16 c).length = 2 := by
  have h := charUnits c
  generalize utf16 c = units at h
  cases h with
  | single => exact .inl rfl
  | pair => exact .inr rfl

/-! ## Texts -/

/-- `str::encode_utf16`. -/
def encodeUtf16 (text : List Char) : List UInt16 := text.flatMap utf16

/-- `String::from_utf16`. -/
def decodeUtf16 : List UInt16 → Option (List Char)
  | [] => some []
  | unit :: units =>
    if isLeadingSurrogate unit then
      match units with
      | [] => none
      | trailing :: units =>
        if isTrailingSurrogate trailing then (decodeUtf16 units).map (pairChar unit trailing :: ·) else none
    else if isTrailingSurrogate unit then none
    else (decodeUtf16 units).map (.ofNat unit.toNat :: ·)

@[simp] theorem encodeUtf16_nil : encodeUtf16 [] = [] := rfl

@[simp] theorem encodeUtf16_cons (c : Char) (text : List Char) :
    encodeUtf16 (c :: text) = utf16 c ++ encodeUtf16 text := rfl

@[simp] theorem encodeUtf16_append (text text' : List Char) :
    encodeUtf16 (text ++ text') = encodeUtf16 text ++ encodeUtf16 text' := List.flatMap_append

theorem decode_encodeUtf16 : ∀ text : List Char, decodeUtf16 (encodeUtf16 text) = some text
  | [] => rfl
  | c :: text => by
    have ih := decode_encodeUtf16 text
    have h := charUnits c; rw [encodeUtf16_cons]
    generalize utf16 c = units at h
    cases h with
    | single unit l trailing char =>
      show decodeUtf16 (unit :: encodeUtf16 text) = _; unfold decodeUtf16
      rw [l, trailing, ih, if_neg nofun, if_neg nofun, char]; rfl
    | pair first second l trailing char =>
      show decodeUtf16 (first :: second :: encodeUtf16 text) = _; unfold decodeUtf16
      rw [l, if_pos rfl]; dsimp only
      rw [trailing, if_pos rfl, ih, char]; rfl

/-! ## Offsets -/

/-- The offset, in units, behind so many characters. -/
def utf16Offset (text : List Char) (count : Nat) : Nat := (encodeUtf16 (text.take count)).length

def splitsPair (units : List UInt16) (offset : Nat) : Bool :=
  0 < offset && units[offset - 1]?.any isLeadingSurrogate && units[offset]?.any isTrailingSurrogate

theorem take_encodeUtf16 (text : List Char) (count : Nat) :
    (encodeUtf16 text).take (utf16Offset text count) = encodeUtf16 (text.take count) := by
  conv_lhs => rw [← List.take_append_drop count text, encodeUtf16_append]
  unfold utf16Offset
  rw [List.take_append_drop]; exact List.take_left' rfl

theorem drop_encodeUtf16 (text : List Char) (count : Nat) :
    (encodeUtf16 text).drop (utf16Offset text count) = encodeUtf16 (text.drop count) := by
  conv_lhs => rw [← List.take_append_drop count text, encodeUtf16_append]
  unfold utf16Offset
  rw [List.take_append_drop]; exact List.drop_left' rfl

variable {text : List Char} {count i j : Nat}

@[simp] theorem utf16Offset_zero (text : List Char) : utf16Offset text 0 = 0 := rfl

@[simp] theorem utf16Offset_length (text : List Char) : utf16Offset text text.length = (encodeUtf16 text).length := by
  unfold utf16Offset; rw [List.take_length]

theorem utf16Offset_succ {c : Char} (h : text[count]? = some c) :
    utf16Offset text (count + 1) = utf16Offset text count + (utf16 c).length := by
  unfold utf16Offset
  rw [List.take_add_one, h, encodeUtf16_append, List.length_append]
  exact congrArg _ (congrArg _ (List.append_nil _))

theorem utf16Offset_lt (hij : i < j) (hj : j ≤ text.length) : utf16Offset text i < utf16Offset text j := by
  induction hij with
  | refl =>
    rw [utf16Offset_succ (List.getElem?_eq_getElem (by omega))]
    rcases length_utf16 (text[i]) with h | h <;> omega
  | @step j hij ih =>
    rw [utf16Offset_succ (List.getElem?_eq_getElem (by omega))]; have := ih (by omega)
    omega

theorem utf16Offset_le (hij : i ≤ j) (hj : j ≤ text.length) : utf16Offset text i ≤ utf16Offset text j := by
  rcases Nat.lt_or_eq_of_le hij with h | rfl
  · exact Nat.le_of_lt (utf16Offset_lt h hj)
  · exact Nat.le_refl _

theorem utf16Offset_inj (hi : i ≤ text.length) (hj : j ≤ text.length) :
    utf16Offset text i = utf16Offset text j ↔ i = j := by
  constructor
  · intro h
    rcases Nat.lt_trichotomy i j with hij | hij | hij
    · exact absurd h (Nat.ne_of_lt (utf16Offset_lt hij hj))
    · exact hij
    · exact absurd h (Nat.ne_of_gt (utf16Offset_lt hij hi))
  · exact congrArg _

theorem utf16Offset_min (hi : i ≤ text.length) (hj : j ≤ text.length) :
    min (utf16Offset text i) (utf16Offset text j) = utf16Offset text (min i j) := by
  rcases Nat.le_total i j with h | h
  · rw [Nat.min_eq_left h, Nat.min_eq_left (utf16Offset_le h hj)]
  · rw [Nat.min_eq_right h, Nat.min_eq_right (utf16Offset_le h hi)]

theorem utf16Offset_max (hi : i ≤ text.length) (hj : j ≤ text.length) :
    max (utf16Offset text i) (utf16Offset text j) = utf16Offset text (max i j) := by
  rcases Nat.le_total i j with h | h
  · rw [Nat.max_eq_right h, Nat.max_eq_right (utf16Offset_le h hj)]
  · rw [Nat.max_eq_left h, Nat.max_eq_left (utf16Offset_le h hi)]

theorem exists_utf16Offset : ∀ {text : List Char} {offset : Nat}, offset ≤ (encodeUtf16 text).length →
    ∃ count i, count ≤ text.length ∧ offset = utf16Offset text count + i ∧
      (i = 0 ∨ ∃ c, text[count]? = some c ∧ 0 < i ∧ i < (utf16 c).length)
  | [], offset, h => ⟨0, 0, Nat.le_refl 0, Nat.le_zero.1 h, .inl rfl⟩
  | c :: text, offset, h => by
    rw [encodeUtf16_cons, List.length_append] at h
    by_cases hlt : offset < (utf16 c).length
    · refine ⟨0, offset, Nat.zero_le _, (Nat.zero_add _).symm, ?_⟩
      rcases Nat.eq_zero_or_pos offset with hz | hpos
      · exact .inl hz
      · exact .inr ⟨c, rfl, hpos, hlt⟩
    have hr : offset - (utf16 c).length ≤ (encodeUtf16 text).length := by omega
    obtain ⟨count, i, hn, heq, hi⟩ := exists_utf16Offset hr
    refine ⟨count + 1, i, Nat.succ_le_succ hn, ?_, hi⟩
    have ho : utf16Offset (c :: text) (count + 1) = (utf16 c).length + utf16Offset text count :=
      List.length_append
    clear hi
    omega

theorem getElem?_utf16Offset {c : Char} (h : text[count]? = some c) (hi : i < (utf16 c).length) :
    (encodeUtf16 text)[utf16Offset text count + i]? = (utf16 c)[i]? := by
  obtain ⟨hlt, rfl⟩ := List.getElem?_eq_some_iff.1 h
  rw [← List.getElem?_drop, drop_encodeUtf16, List.drop_eq_getElem_cons hlt, encodeUtf16_cons]
  exact List.getElem?_append_left hi

theorem splitsPair_utf16Offset (h : count ≤ text.length) :
    splitsPair (encodeUtf16 text) (utf16Offset text count) = false := by
  rw [Bool.eq_false_iff]; intro hs
  unfold splitsPair at hs
  rw [Bool.and_eq_true, Bool.and_eq_true, decide_eq_true_eq] at hs
  obtain ⟨⟨hpos, hd⟩, -⟩ := hs
  cases count with
  | zero => exact absurd hpos (Nat.lt_irrefl 0)
  | succ count =>
    have hc : text[count]? = some text[count] := List.getElem?_eq_getElem h
    have hn := charUnits text[count]
    have hge := fun i => getElem?_utf16Offset (i := i) hc; rw [utf16Offset_succ hc] at hd
    generalize utf16 text[count] = units at hn hge hd
    -- the unit before the offset ends a character
    cases hn with
    | single unit l =>
      have hu := hge 0 (Nat.zero_lt_one)
      have heq : utf16Offset text count + [unit].length - 1 = utf16Offset text count + 0 := rfl
      rw [heq, hu, List.getElem?_cons_zero, Option.any_some, l] at hd; cases hd
    | pair first second l t =>
      have hu := hge 1 (Nat.lt_succ_self 1)
      have heq : utf16Offset text count + [first, second].length - 1 = utf16Offset text count + 1 := rfl
      rw [heq, hu, List.getElem?_cons_succ, List.getElem?_cons_zero, Option.any_some] at hd
      rw [not_trailing_of_leading hd] at t; cases t

theorem splitsPair_eq_false_iff {off : Nat} (h : off ≤ (encodeUtf16 text).length) :
    splitsPair (encodeUtf16 text) off = false ↔ ∃ count ≤ text.length, off = utf16Offset text count := by
  constructor
  · intro hs
    obtain ⟨count, i, hn, rfl, rfl | ⟨c, hc, hpos, hlt⟩⟩ := exists_utf16Offset h
    · exact ⟨count, hn, rfl⟩
    · have hu := charUnits c
      have hge := fun i => getElem?_utf16Offset (i := i) hc
      generalize utf16 c = units at hu hge hlt
      cases hu with
      | single unit => exact absurd (Nat.lt_one_iff.1 hlt) (Nat.ne_of_gt hpos)
      | pair first second leading t =>
        obtain rfl : i = 1 := by
          simp only [List.length_cons, List.length_nil] at hlt; omega
        unfold splitsPair at hs
        have hf := hge 0 (Nat.succ_pos _)
        have hse := hge 1 (Nat.lt_succ_self 1)
        rw [Nat.add_sub_cancel, ← Nat.add_zero (utf16Offset text count), hf, Nat.add_zero, hse,
          decide_eq_true (Nat.succ_pos _), List.getElem?_cons_zero, List.getElem?_cons_succ, List.getElem?_cons_zero,
          Option.any_some, Option.any_some, leading, t] at hs
        cases hs
  · rintro ⟨count, hn, rfl⟩; exact splitsPair_utf16Offset hn

end Deniald.Lib
