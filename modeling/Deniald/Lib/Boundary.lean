/-
Boundaries between characters as splits of a text, in bytes of UTF-8 and in units of UTF-16: what is taken, dropped,
replaced and converted at them.
-/
import Deniald.Lib.Text
import Deniald.Lib.Utf16

namespace Deniald.Lib

/-! ## Bytes -/

theorem utf8Length_append (text text' : List Char) : utf8Length (text ++ text') = utf8Length text + utf8Length text' := by
  unfold utf8Length; rw [List.map_append, List.sum_append]

theorem eq_nil_of_utf8Length {text : List Char} (h : utf8Length text = 0) : text = [] := by
  cases text with
  | nil => rfl
  | cons c text =>
    have hpos := c.utf8Size_pos
    rw [utf8Length_cons] at h; omega

theorem isCharBoundary_append (before after : List Char) : isCharBoundary (before ++ after) (utf8Length before) = true :=
  isCharBoundary_iff.2 ⟨before, after, rfl, rfl⟩

theorem takeBytes_append : ∀ before after : List Char, takeBytes (before ++ after) (utf8Length before) = before
  | [], [] => rfl
  | [], c :: after => by simp [takeBytes]
  | c :: before, after => by
    have hpos := c.utf8Size_pos
    rw [List.cons_append, utf8Length_cons, takeBytes, if_neg (by omega), Nat.add_sub_cancel_left, takeBytes_append]

theorem dropBytes_append : ∀ before after : List Char, dropBytes (before ++ after) (utf8Length before) = after
  | [], [] => rfl
  | [], c :: after => by simp [dropBytes]
  | c :: before, after => by
    have hpos := c.utf8Size_pos
    rw [List.cons_append, utf8Length_cons, dropBytes, if_neg (by omega), Nat.add_sub_cancel_left, dropBytes_append]

theorem append_inj_of_utf8Length {before after pre' after' : List Char} (h : before ++ after = pre' ++ after')
    (hlen : utf8Length before = utf8Length pre') : before = pre' ∧ after = after' := by
  have hbe := takeBytes_append before after
  have hf := dropBytes_append before after; rw [h, hlen, takeBytes_append] at hbe
  rw [h, hlen, dropBytes_append] at hf; exact ⟨hbe.symm, hf.symm⟩

theorem replaceRange_append (before replaced after r : List Char) :
    replaceRange (before ++ replaced ++ after) (utf8Length before) (utf8Length (before ++ replaced)) r =
      before ++ r ++ after := by
  unfold replaceRange
  rw [dropBytes_append, List.append_assoc before replaced, takeBytes_append]

theorem replaceRange_insert (before after i : List Char) :
    replaceRange (before ++ after) (utf8Length before) (utf8Length before) i = before ++ i ++ after := by
  have h := replaceRange_append before [] after i
  rwa [List.append_nil] at h

theorem exists_range {text : List Char} {start stop : Nat} (hs : isCharBoundary text start = true)
    (hst : isCharBoundary text stop = true) (hle : start ≤ stop) :
    ∃ before range after, text = before ++ range ++ after ∧ utf8Length before = start ∧
      utf8Length (before ++ range) = stop := by
  obtain ⟨upto, after, rfl, rfl⟩ := isCharBoundary_iff.1 hst
  obtain ⟨before, rest, hsp, rfl⟩ := isCharBoundary_iff.1 hs
  rcases List.append_eq_append_iff.1 hsp with ⟨range, rfl, rfl⟩ | ⟨range, rfl, rfl⟩
  · -- the start lies behind the stop, so there is nothing between them
    rw [utf8Length_append] at hle
    obtain rfl := eq_nil_of_utf8Length (by omega : utf8Length range = 0)
    exact ⟨upto, [], rest, by simp, by simp, by simp⟩
  · exact ⟨before, range, after, rfl, rfl, rfl⟩

/-! ## Units -/

theorem toNat_ofNat_valid {n : Nat} (h : n.isValidChar) : (Char.ofNat n).toNat = n := by
  unfold Char.ofNat
  rw [dif_pos h]; rfl

theorem utf16_ofNat {unit : UInt16} (hd : isLeadingSurrogate unit = false)
    (hr : isTrailingSurrogate unit = false) : utf16 (.ofNat unit.toNat) = [unit] := by
  have hlt : unit.toNat < 65536 := unit.toNat_lt
  rw [Bool.eq_false_iff, ne_eq, isLeadingSurrogate_iff] at hd
  rw [Bool.eq_false_iff, ne_eq, isTrailingSurrogate_iff] at hr
  have hv : unit.toNat.isValidChar := by
    unfold Nat.isValidChar; omega
  unfold utf16
  rw [toNat_ofNat_valid hv, if_pos hlt, UInt16.ofNat_toNat]

theorem utf16_pairChar {l t : UInt16} (hd : isLeadingSurrogate l = true)
    (hr : isTrailingSurrogate t = true) : utf16 (pairChar l t) = [l, t] := by
  rw [isLeadingSurrogate_iff] at hd; rw [isTrailingSurrogate_iff] at hr
  have hv : (0x10000 + (l.toNat - 0xD800) * 0x400 + (t.toNat - 0xDC00)).isValidChar := by
    unfold Nat.isValidChar; omega
  unfold utf16 pairChar
  rw [toNat_ofNat_valid hv, if_neg (by omega)]
  have hh : 0xD800 + (0x10000 + (l.toNat - 0xD800) * 0x400 + (t.toNat - 0xDC00) - 0x10000) / 0x400 =
      l.toNat := by omega
  have hw : 0xDC00 + (0x10000 + (l.toNat - 0xD800) * 0x400 + (t.toNat - 0xDC00) - 0x10000) % 0x400 =
      t.toNat := by omega
  rw [hh, hw, UInt16.ofNat_toNat, UInt16.ofNat_toNat]

theorem encode_of_decode (units : List UInt16) : ∀ {text : List Char}, decodeUtf16 units = some text →
    units = encodeUtf16 text := by
  fun_induction decodeUtf16 units with
  | case1 =>
    intro text h
    cases h; rfl
  | case2 | case4 | case5 => exact fun h => by cases h
  | case3 unit hd t units hr ih =>
    intro text h
    obtain ⟨rest, hs, rfl⟩ := Option.map_eq_some_iff.1 h
    rw [encodeUtf16_cons, utf16_pairChar hd hr, ← ih hs]; rfl
  | case6 unit units hd hr ih =>
    intro text h
    obtain ⟨rest, hs, rfl⟩ := Option.map_eq_some_iff.1 h
    rw [encodeUtf16_cons, utf16_ofNat (Bool.eq_false_iff.2 hd) (Bool.eq_false_iff.2 hr), ← ih hs]
    rfl

end Deniald.Lib
