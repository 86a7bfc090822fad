/-
Packets of fixed layout: unsigned integers of some bytes each, one after the other in little-endian order, are read back
at their places (`uint_layOut`). A double in a packet is its 64 bits.
-/
import Deniald.Lib.Number

namespace Deniald.Lib

/-! ## Integers -/

/-- `u64::from_le_bytes` and its narrower siblings, by the number of bytes. -/
def fromLeBytes : List UInt8 → Nat
  | [] => 0
  | b :: bytes => b.toNat + 256 * fromLeBytes bytes

/-- `to_le_bytes` of an integer that is `width` bytes wide. -/
def toLeBytes : Nat → Nat → List UInt8
  | 0, _ => []
  | width + 1, n => UInt8.ofNat n :: toLeBytes width (n / 256)

@[simp] theorem length_toLeBytes : ∀ width n : Nat, (toLeBytes width n).length = width
  | 0, _ => rfl
  | width + 1, n => congrArg (· + 1) (length_toLeBytes width (n / 256))

theorem fromLeBytes_toLeBytes : ∀ {width n : Nat}, n < 256 ^ width → fromLeBytes (toLeBytes width n) = n
  | 0, n, h => by
    rw [pow_zero, Nat.lt_one_iff] at h; exact h.symm
  | width + 1, n, h => by
    have hr : n / 256 < 256 ^ width := Nat.div_lt_of_lt_mul (by rwa [pow_succ'] at h)
    have hf : (UInt8.ofNat n).toNat = n % 256 := UInt8.toNat_ofNat'
    rw [toLeBytes, fromLeBytes, fromLeBytes_toLeBytes hr, hf]; omega

theorem toLeBytes_fromLeBytes : ∀ bytes : List UInt8, toLeBytes bytes.length (fromLeBytes bytes) = bytes
  | [] => rfl
  | b :: bytes => by
    have hb := b.toNat_lt
    have hr : (b.toNat + 256 * fromLeBytes bytes) / 256 = fromLeBytes bytes := by omega
    have hf : UInt8.ofNat (b.toNat + 256 * fromLeBytes bytes) = b := by
      rw [← UInt8.toNat_inj, UInt8.toNat_ofNat']; omega
    rw [List.length_cons, fromLeBytes, toLeBytes, hf, hr, toLeBytes_fromLeBytes bytes]

theorem fromLeBytes_lt : ∀ bytes : List UInt8, fromLeBytes bytes < 256 ^ bytes.length
  | [] => Nat.one_pos
  | b :: bytes => by
    have hb := b.toNat_lt
    have hr := fromLeBytes_lt bytes
    rw [fromLeBytes, List.length_cons, pow_succ]; omega

/-! ## Fields -/

def layOut (fields : List (Nat × Nat)) : List UInt8 := fields.flatMap fun field => toLeBytes field.1 field.2

def layOutSize (fields : List (Nat × Nat)) : Nat := (fields.map Prod.fst).sum

/-- The unsigned integer of some bytes at a place. -/
def uint (width offset : Nat) (data : List UInt8) : Nat := fromLeBytes ((data.drop offset).take width)

theorem length_layOut (fields : List (Nat × Nat)) : (layOut fields).length = layOutSize fields := by
  induction fields with
  | nil => rfl
  | cons fld fields ih =>
    unfold layOut layOutSize at ih ⊢
    rw [List.flatMap_cons, List.length_append, ih, length_toLeBytes, List.map_cons, List.sum_cons]

theorem uint_layOut {fields : List (Nat × Nat)} {width n : Nat} (i : Nat) (hf : fields[i]? = some (width, n))
    (hn : n < 256 ^ width) : uint width (layOutSize (fields.take i)) (layOut fields) = n := by
  obtain ⟨hi, hge⟩ := List.getElem?_eq_some_iff.1 hf
  have hs : layOut fields = layOut (fields.take i) ++ (toLeBytes width n ++ layOut (fields.drop (i + 1))) := by
    conv_lhs => rw [← List.take_append_drop i fields, List.drop_eq_getElem_cons hi, hge]
    simp [layOut]
  rw [uint, hs, ← length_layOut, List.drop_left, List.take_left' (length_toLeBytes width n), fromLeBytes_toLeBytes hn]

theorem uint_lt (width offset : Nat) (bytes : List UInt8) : uint width offset bytes < 256 ^ width :=
  (fromLeBytes_lt _).trans_le (Nat.pow_le_pow_right (by decide) (List.length_take_le ..))

/-- The fields are what is read from a place on. -/
def Reads (bytes : List UInt8) : Nat → List (Nat × Nat) → Prop
  | _, [] => True
  | offset, (width, n) :: fields => uint width offset bytes = n ∧ Reads bytes (offset + width) fields

theorem Reads.drop_eq {bytes : List UInt8} : ∀ {fields : List (Nat × Nat)} {offset : Nat}, Reads bytes offset fields →
    offset + layOutSize fields ≤ bytes.length →
    bytes.drop offset = layOut fields ++ bytes.drop (offset + layOutSize fields)
  | [], _, _, _ => rfl
  | (width, n) :: fields, offset, h, hl => by
    simp only [layOutSize, List.map_cons, List.sum_cons, ← Nat.add_assoc] at hl ⊢
    have ht : ((bytes.drop offset).take width).length = width := by
      rw [List.length_take, List.length_drop]; omega
    have hf := toLeBytes_fromLeBytes ((bytes.drop offset).take width)
    rw [ht] at hf
    rw [layOut, List.flatMap_cons, List.append_assoc, ← layOut, ← layOutSize, ← drop_eq h.2 hl, ← h.1, uint, hf,
      ← List.drop_drop, List.take_append_drop]

theorem reads_layOut : ∀ {fields : List (Nat × Nat)} (before rest : List UInt8), (∀ f ∈ fields, f.2 < 256 ^ f.1) →
    Reads (before ++ (layOut fields ++ rest)) before.length fields
  | [], _, _, _ => trivial
  | (width, n) :: fields, before, rest, h => by
    obtain ⟨hn, h⟩ := List.forall_mem_cons.1 h
    have hs : before ++ (layOut ((width, n) :: fields) ++ rest) =
        before ++ toLeBytes width n ++ (layOut fields ++ rest) := by simp [layOut]
    refine ⟨?_, ?_⟩
    · rw [hs, List.append_assoc, uint, List.drop_left, List.take_left' (length_toLeBytes width n),
        fromLeBytes_toLeBytes hn]
    · rw [hs]; simpa using reads_layOut (before ++ toLeBytes width n) rest h

/-! ## Doubles -/

structure Double where
  bits : UInt64

namespace Double

def negative (d : Double) : Bool := 2 ^ 63 ≤ d.bits.toNat

def exponent (d : Double) : Nat := d.bits.toNat / 2 ^ 52 % 2 ^ 11

def fraction (d : Double) : Nat := d.bits.toNat % 2 ^ 52

/-- The number that the bits stand for. -/
def value (d : Double) : F64 :=
  let sign : ℚ := if d.negative then -1 else 1
  if d.exponent = 2 ^ 11 - 1 then if d.fraction = 0 then .infinite d.negative else .nan
  else if d.exponent = 0 then .finite (sign * d.fraction / 2 ^ 1074)
  else .finite (sign * (2 ^ 52 + d.fraction) * 2 ^ d.exponent / 2 ^ 1075)

end Double

end Deniald.Lib
