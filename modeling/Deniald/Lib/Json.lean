/-
JSON values, objects as the entries they hold (the order of which nothing looks at), and records read from them: from
the fields of an object that has no others, or from an array in the order of the fields.
-/
import Mathlib.Algebra.Ring.Nat
import Mathlib.Data.Rat.Defs
import Deniald.Lib.Fallible

namespace Deniald.Lib

inductive JsonNumber where
  | unsigned (n : UInt64)
  | negative (n : Int)
  | float (x : ℚ)
  deriving DecidableEq

inductive Json where
  | null
  | bool (b : Bool)
  | number (n : JsonNumber)
  | string (s : String)
  | array (values : List Json)
  | object (entries : List (String × Json))

mutual

def Json.decEq : (a b : Json) → Decidable (a = b)
  | .null, .null => .isTrue rfl
  | .bool b, .bool b' => decidable_of_iff (b = b') ⟨congrArg _, Json.bool.inj⟩
  | .number n, .number n' => decidable_of_iff (n = n') ⟨congrArg _, Json.number.inj⟩
  | .string s, .string s' => decidable_of_iff (s = s') ⟨congrArg _, Json.string.inj⟩
  | .array values, .array values' =>
    have := Json.decEqValues values values'
    decidable_of_iff (values = values') ⟨congrArg _, Json.array.inj⟩
  | .object entries, .object entries' =>
    have := Json.decEqEntries entries entries'
    decidable_of_iff (entries = entries') ⟨congrArg _, Json.object.inj⟩
  | .null, .bool _ | .null, .number _ | .null, .string _ | .null, .array _ | .null, .object _
  | .bool _, .null | .bool _, .number _ | .bool _, .string _ | .bool _, .array _ | .bool _, .object _
  | .number _, .null | .number _, .bool _ | .number _, .string _ | .number _, .array _ | .number _, .object _
  | .string _, .null | .string _, .bool _ | .string _, .number _ | .string _, .array _ | .string _, .object _
  | .array _, .null | .array _, .bool _ | .array _, .number _ | .array _, .string _ | .array _, .object _
  | .object _, .null | .object _, .bool _ | .object _, .number _ | .object _, .string _ | .object _, .array _ =>
    .isFalse nofun

def Json.decEqValues : (a b : List Json) → Decidable (a = b)
  | [], [] => .isTrue rfl
  | a :: as, b :: bs =>
    have := Json.decEq a b
    have := Json.decEqValues as bs
    decidable_of_iff (a = b ∧ as = bs) (by simp)
  | [], _ :: _ | _ :: _, [] => .isFalse nofun

def Json.decEqEntries : (a b : List (String × Json)) → Decidable (a = b)
  | [], [] => .isTrue rfl
  | (key, a) :: as, (key', b) :: bs =>
    have := Json.decEq a b
    have := Json.decEqEntries as bs
    decidable_of_iff ((key = key' ∧ a = b) ∧ as = bs) (by simp)
  | [], _ :: _ | _ :: _, [] => .isFalse nofun

end

instance : DecidableEq Json := Json.decEq

abbrev JsonMap := List (String × Json)

namespace Json

def asObject : Json → Option JsonMap
  | object entries => some entries
  | _ => none

def asString : Json → Option String
  | string s => some s
  | _ => none

def asBool : Json → Option Bool
  | bool b => some b
  | _ => none

def asU64 : Json → Option UInt64
  | number (.unsigned n) => some n
  | _ => none

/-- A number read as a double; whole numbers too large for one are out of every range it is checked against. -/
def asF64 : Json → Option ℚ
  | number (.unsigned n) => some n.toNat
  | number (.negative n) => some n
  | number (.float x) => some x
  | _ => none

def asU32 (value : Json) : Option UInt32 :=
  value.asU64.bind fun n => if n.toNat < 2 ^ 32 then some n.toUInt32 else none

def asU8 (value : Json) : Option UInt8 :=
  value.asU64.bind fun n => if n.toNat < 2 ^ 8 then some n.toUInt8 else none

def asArray : Json → Option (List Json)
  | array values => some values
  | _ => none

def asStringList (value : Json) : Option (List String) := value.asArray.bind fun values => values.mapM asString

def ofU32 (n : UInt32) : Json := number (.unsigned n.toUInt64)

def ofU8 (n : UInt8) : Json := number (.unsigned n.toUInt64)

@[simp] theorem asU32_ofU32 (n : UInt32) : (ofU32 n).asU32 = some n := by
  show (if n.toUInt64.toNat < 2 ^ 32 then some n.toUInt64.toUInt32 else none) = some n
  rw [UInt32.toNat_toUInt64, if_pos n.toNat_lt, UInt32.toUInt32_toUInt64]

@[simp] theorem asU8_ofU8 (n : UInt8) : (ofU8 n).asU8 = some n := by
  show (if n.toUInt64.toNat < 2 ^ 8 then some n.toUInt64.toUInt8 else none) = some n
  rw [UInt8.toNat_toUInt64, if_pos n.toNat_lt, UInt8.toUInt8_toUInt64]

@[simp] theorem asStringList_array (l : List String) : (array (l.map string)).asStringList = some l :=
  mapM_map_pure fun _ _ => rfl

theorem eq_of_asU8 {value : Json} {n : UInt8} (h : value.asU8 = some n) : value = ofU8 n := by
  cases value with
  | number number =>
    cases number with
    | unsigned m =>
      have h : (if m.toNat < 2 ^ 8 then some m.toUInt8 else none) = some n := h
      split at h
      · rename_i hlt; cases h
        have hm : m.toUInt8.toUInt64 = m := by
          rw [← UInt64.toNat_inj, UInt8.toNat_toUInt64, UInt64.toNat_toUInt8]; exact Nat.mod_eq_of_lt hlt
        unfold ofU8; rw [hm]
      · cases h
    | negative | float => cases h
  | null | bool | string | array | object => cases h

theorem eq_of_asBool {value : Json} {b : Bool} (h : value.asBool = some b) : value = bool b := by
  cases value with
  | bool b' => exact congrArg bool (Option.some.inj h)
  | null | number | string | array | object => cases h

theorem eq_of_asString {value : Json} {s : String} (h : value.asString = some s) : value = string s := by
  cases value with
  | string s' => exact congrArg string (Option.some.inj h)
  | null | number | bool | array | object => cases h

theorem eq_of_asObject {value : Json} {entries : JsonMap} (h : value.asObject = some entries) : value = object entries := by
  cases value with
  | object entries' => exact congrArg object (Option.some.inj h)
  | null | number | bool | array | string => cases h

end Json

/-! ## Objects -/

namespace JsonMap

def get (m : JsonMap) (key : String) : Option Json := (m.find? fun entry => entry.1 = key).map (·.2)

def containsKey (m : JsonMap) (key : String) : Bool := (m.get key).isSome

def insert : JsonMap → String → Json → JsonMap
  | [], key, value => [(key, value)]
  | entry :: m, key, value => if entry.1 = key then (key, value) :: m else entry :: insert m key value

def remove (m : JsonMap) (key : String) : JsonMap := m.filter fun entry => entry.1 ≠ key

@[simp] theorem get_insert_self : ∀ (m : JsonMap) (key : String) (value : Json), (m.insert key value).get key = some value
  | [], key, value => by simp [insert, get]
  | entry :: m, key, value => by
    unfold insert; split
    · simp [get]
    rename_i hne
    have ih := get_insert_self m key value
    unfold get at ih ⊢
    rw [List.find?_cons_of_neg (by simpa using hne)]; exact ih

theorem get_insert_of_ne {key key' : String} (hne : key' ≠ key) : ∀ (m : JsonMap) (value : Json),
    (m.insert key value).get key' = m.get key'
  | [], value => by simp [insert, get, Ne.symm hne]
  | entry :: m, value => by
    have ih := get_insert_of_ne hne m value; unfold insert
    split
    · rename_i heq; unfold get
      rw [List.find?_cons_of_neg (by simpa using Ne.symm hne),
        List.find?_cons_of_neg (by rw [heq]; simpa using Ne.symm hne)]
    unfold get at ih ⊢
    by_cases he : entry.1 = key'
    · rw [List.find?_cons_of_pos (by simpa using he), List.find?_cons_of_pos (by simpa using he)]
    · rw [List.find?_cons_of_neg (by simpa using he), List.find?_cons_of_neg (by simpa using he)]
      exact ih

theorem insert_get : ∀ {m : JsonMap} {key : String} {value : Json}, m.get key = some value → m.insert key value = m
  | [], _, _, h => (nomatch h)
  | entry :: m, key, value, h => by
    unfold insert; split
    · rename_i heq; unfold get at h
      rw [List.find?_cons_of_pos (by simpa using heq)] at h; cases h
      rw [← heq]
    rename_i hne; unfold get at h
    rw [List.find?_cons_of_neg (by simpa using hne)] at h; rw [insert_get (m := m) h]

theorem containsKey_of_get {m : JsonMap} {key : String} {value : Json} (h : m.get key = some value) :
    m.containsKey key = true := by
  unfold containsKey
  rw [h]; rfl

end JsonMap

/-! ## Records -/

/-- The fields of a record, by their names: from an object that has no other keys, or from an array of no more values
than there are fields. -/
def Json.fields (names : List String) : Json → Option (List (Option Json))
  | .object entries =>
    if entries.all fun entry => names.contains entry.1 then some (names.map fun name => JsonMap.get entries name) else none
  | .array values =>
    if values.length ≤ names.length then
      some (values.map some ++ List.replicate (names.length - values.length) none)
    else none
  | _ => none

def fieldOr {α : Type} (read : Json → Option α) (default : α) : Option Json → Option α
  | none => some default
  | some value => read value

end Deniald.Lib
