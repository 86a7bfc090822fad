/-
Shortcut expressions (native_shortcut.rs, `parse_shortcut`): modifiers and a key between plus signs, in any order
of the modifiers, any case and under any alias, a gesture, or Super alone. The canonical form names the modifiers in
one order and the key by its canonical name; parsing it gives the same trigger again, so it stands for the
modifiers and the key and nothing else.
-/
import Deniald.Shortcut.Keys
import Mathlib.Data.List.Nodup

namespace Deniald.Shortcut

open Deniald.Topology (trim isWhitespace)

/-! ## Model -/

inductive TriggerKey where
  | evdev (keycode : Nat)
  | modifierTap (modifier : Modifier)
  | gesture (gesture : ShortcutGesture)
  deriving DecidableEq

structure ShortcutTrigger where
  modifiers : UInt8
  key : TriggerKey
  canonical : String
  deriving DecidableEq

/-- `MAX_SHORTCUT_EXPRESSION_BYTES`. -/
def maxShortcutExpressionBytes : Nat := 128

/-- What `ShortcutError::Document` says of an expression. -/
inductive ExpressionError where
  | length
  | invalid (expression : String)
  | modifierOnly (expression : String)
  | empty
  | unrecognizedModifier (name : String)
  | duplicateModifier (modifier : Modifier)
  | missingKey (expression : String)
  | unrecognizedKey (name : String)
  deriving DecidableEq

/-- The loop over the names before the key. -/
def parseModifiers : UInt8 → List (List Char) → Except ExpressionError UInt8
  | modifiers, [] => .ok modifiers
  | modifiers, name :: names =>
    match parseModifier name with
    | none => .error (.unrecognizedModifier (String.ofList name))
    | some modifier =>
      if modifiers &&& modifier.flag ≠ 0 then .error (.duplicateModifier modifier)
      else parseModifiers (modifiers ||| modifier.flag) names

def modifierNames (modifiers : UInt8) : List String :=
  (Modifier.all.filter fun modifier => modifiers &&& modifier.flag ≠ 0).map (·.canonicalName)

/-- A key with modifiers: what is left of `parse_shortcut` when the tokens are no gesture and no lone modifier. -/
def parseChord (expression : String) (tokens : List (List Char)) : Except ExpressionError ShortcutTrigger :=
  match tokens.getLast? with
  | none => .error .empty
  | some keyName =>
    match parseModifiers 0 tokens.dropLast with
    | .error e => .error e
    | .ok modifiers =>
      if (parseModifier keyName).isSome then .error (.missingKey expression)
      else
        match parseKey keyName with
        | none => .error (.unrecognizedKey (String.ofList keyName))
        | some (keycode, canonicalKey) =>
          .ok ⟨modifiers, .evdev keycode, "+".intercalate (modifierNames modifiers ++ [canonicalKey])⟩

def parseTokens (expression : String) (tokens : List (List Char)) : Except ExpressionError ShortcutTrigger :=
  match tokens with
  | [token] =>
    match parseGesture token with
    | some gesture => .ok ⟨0, .gesture gesture, gesture.canonicalName⟩
    | none =>
      match parseModifier token with
      | some modifier =>
        if modifier ≠ .super then .error (.modifierOnly expression)
        else .ok ⟨0, .modifierTap modifier, modifier.canonicalName⟩
      | none => parseChord expression tokens
  | _ => parseChord expression tokens

def expressionTokens (expression : String) : List (List Char) := (expression.toList.splitOn '+').map trim

def parseShortcut (expression : String) : Except ExpressionError ShortcutTrigger :=
  if expression.utf8ByteSize = 0 ∨ maxShortcutExpressionBytes < expression.utf8ByteSize then .error .length
  else if (expressionTokens expression).isEmpty || (expressionTokens expression).any (·.isEmpty) then
    .error (.invalid expression)
  else parseTokens expression (expressionTokens expression)

/-! ## The triggers there are -/

def modifierMasks : List UInt8 := (List.range 16).map UInt8.ofNat

inductive Trigger : ShortcutTrigger → Prop
  | gesture (gesture : ShortcutGesture) : Trigger ⟨0, .gesture gesture, gesture.canonicalName⟩
  | super : Trigger ⟨0, .modifierTap .super, Modifier.super.canonicalName⟩
  | chord {modifiers : UInt8} {key : Nat × String} (hmodifiers : modifiers ∈ modifierMasks)
      (hkey : key ∈ supportedKeys) :
    Trigger ⟨modifiers, .evdev key.1, "+".intercalate (modifierNames modifiers ++ [key.2])⟩

theorem flag_mem_modifierMasks : ∀ modifiers ∈ modifierMasks, ∀ modifier ∈ Modifier.all,
    modifiers ||| modifier.flag ∈ modifierMasks := by decide +kernel

theorem parseModifiers_mem : ∀ {names : List (List Char)} {modifiers result : UInt8}, modifiers ∈ modifierMasks →
    parseModifiers modifiers names = .ok result → result ∈ modifierMasks
  | [], modifiers, result, hmodifiers, h => by
    cases h; exact hmodifiers
  | name :: names, modifiers, result, hmodifiers, h => by
    unfold parseModifiers at h; split at h
    · cases h
    rename_i modifier _
    split_ifs at h
    exact parseModifiers_mem (flag_mem_modifierMasks modifiers hmodifiers modifier modifier.mem_all) h

variable {expression : String} {tokens : List (List Char)} {t : ShortcutTrigger}

theorem parseChord_ok (h : parseChord expression tokens = .ok t) : Trigger t := by
  unfold parseChord at h; split at h
  · cases h
  split at h
  · cases h
  rename_i modifiers hmodifiers
  split_ifs at h
  split at h
  · cases h
  · rename_i code ck hkey; cases h
    exact .chord (parseModifiers_mem (by decide) hmodifiers) (parseKey_mem hkey)

theorem parseTokens_ok (h : parseTokens expression tokens = .ok t) : Trigger t := by
  unfold parseTokens at h; split at h
  · split at h
    · cases h; exact .gesture _
    split at h
    · rename_i modifier _
      split_ifs at h with hm
      obtain rfl := not_not.1 hm
      cases h; exact .super
    · exact parseChord_ok h
  · exact parseChord_ok h

theorem parseShortcut_ok (h : parseShortcut expression = .ok t) : Trigger t := by
  unfold parseShortcut at h
  split_ifs at h
  exact parseTokens_ok h

/-! ## Words between plus signs -/

theorem size_intercalate_le : ∀ {ws : List String}, (∀ word ∈ ws, Plain word) →
    ("+".intercalate ws).utf8ByteSize ≤ 23 * ws.length
  | [], _ => by simp
  | [word], h => by
    have := (h word (List.mem_singleton_self _)).short
    rw [String.intercalate_singleton, List.length_singleton]; omega
  | first :: second :: ws, h => by
    have hf := (h first (List.mem_cons_self ..)).short
    have hr := size_intercalate_le fun word hw => h word (List.mem_cons_of_mem first hw)
    rw [String.intercalate_cons_cons, String.utf8ByteSize_append, String.utf8ByteSize_append,
      show "+".utf8ByteSize = 1 from rfl, show (first :: second :: ws).length = (second :: ws).length + 1 from rfl]
    omega

theorem expressionTokens_intercalate {ws : List String} (hne : ws ≠ []) (h : ∀ word ∈ ws, Plain word) :
    expressionTokens ("+".intercalate ws) = ws.map String.toList := by
  unfold expressionTokens
  have hs : "+".toList = ['+'] := by decide
  rw [String.toList_intercalate, hs, List.splitOn_intercalate]
  · rw [List.map_map]
    exact List.map_congr_left fun word hw => (h word hw).trim
  · intro tk hk
    obtain ⟨word, hw, rfl⟩ := List.mem_map.1 hk; exact (h word hw).plus
  · simpa using hne

theorem parseShortcut_words {ws : List String} (hne : ws ≠ []) (hlen : ws.length ≤ 5) (h : ∀ word ∈ ws, Plain word) :
    parseShortcut ("+".intercalate ws) = parseTokens ("+".intercalate ws) (ws.map String.toList) := by
  have hk := expressionTokens_intercalate hne h
  have hn : ∀ tk ∈ ws.map String.toList, tk ≠ [] := by
    intro tk hto
    obtain ⟨word, hw, rfl⟩ := List.mem_map.1 hto; exact (h word hw).nonempty
  have hs : ("+".intercalate ws).utf8ByteSize ≠ 0 := by
    intro hz; rw [String.utf8ByteSize_eq_zero_iff.1 hz] at hk
    have : expressionTokens "" = [[]] := by decide
    rw [this] at hk
    exact hn [] (by rw [← hk]; exact List.mem_singleton_self _) rfl
  have hbo := size_intercalate_le h; unfold parseShortcut
  rw [if_neg, if_neg, hk]
  · rw [hk]; rw [Bool.or_eq_true, not_or]
    refine ⟨by simpa using hne, fun hy => ?_⟩
    obtain ⟨tk, hto, he⟩ := List.any_eq_true.1 hy
    exact hn tk hto (List.isEmpty_iff.1 he)
  · unfold maxShortcutExpressionBytes; omega

/-! ## The canonical form -/

theorem modifierNames_plain (ms : UInt8) : ∀ word ∈ modifierNames ms, Plain word := by
  intro word hw
  obtain ⟨modifier, -, rfl⟩ := List.mem_map.1 hw; exact (parseModifier_canonical modifier).1

theorem modifierNames_length (ms : UInt8) : (modifierNames ms).length ≤ 4 := by
  unfold modifierNames
  rw [List.length_map]; exact List.length_filter_le _ _

theorem parseModifiers_names : ∀ modifiers ∈ modifierMasks,
    parseModifiers 0 ((modifierNames modifiers).map String.toList) = .ok modifiers := by decide +kernel

theorem parseChord_canonical {ms : UInt8} {key : Nat × String} (hmodifiers : ms ∈ modifierMasks)
    (hkey : key ∈ supportedKeys) (expression : String) :
    parseChord expression ((modifierNames ms ++ [key.2]).map String.toList) =
      .ok ⟨ms, .evdev key.1, "+".intercalate (modifierNames ms ++ [key.2])⟩ := by
  obtain ⟨-, hm, -⟩ := supportedKeys_plain key hkey; unfold parseChord
  rw [List.map_append, List.map_singleton, List.getLast?_concat, List.dropLast_concat]
  simp [parseModifiers_names ms hmodifiers, hm, parseKey_canonical key hkey]

theorem Trigger.parse_canonical (h : Trigger t) : parseShortcut t.canonical = .ok t := by
  cases h with
  | gesture gesture => cases gesture <;> decide +kernel
  | super => decide +kernel
  | @chord modifiers key hmodifiers hkey =>
    obtain ⟨hpl, hm, hs⟩ := supportedKeys_plain key hkey
    have hr : ∀ word ∈ modifierNames modifiers ++ [key.2], Plain word := by
      intro word hw
      rcases List.mem_append.1 hw with hw | hw
      · exact modifierNames_plain modifiers word hw
      · rw [List.mem_singleton.1 hw]; exact hpl
    have hlen := modifierNames_length modifiers
    rw [parseShortcut_words (by simp) (by rw [List.length_append, List.length_singleton]; omega) hr]
    have hh := parseChord_canonical hmodifiers hkey ("+".intercalate (modifierNames modifiers ++ [key.2]))
    cases hn : modifierNames modifiers with
    | nil =>
      -- a lone key is no gesture and no modifier
      rw [hn] at hh
      simp only [List.nil_append, List.map_singleton, parseTokens, hs, hm] at hh ⊢
      exact hh
    | cons name names =>
      rw [hn] at hh; unfold parseTokens
      cases names <;> exact hh

theorem Trigger.canonical_eq_iff {s : ShortcutTrigger} (hs : Trigger s) (ht : Trigger t) :
    s.canonical = t.canonical ↔ s.modifiers = t.modifiers ∧ s.key = t.key := by
  constructor
  · intro heq
    have hr := hs.parse_canonical; rw [heq, ht.parse_canonical] at hr
    cases hr; exact ⟨rfl, rfl⟩
  · rintro ⟨hmodifiers, hkey⟩
    cases hs with
    | gesture gesture =>
      cases ht with
      | gesture ges' => rw [TriggerKey.gesture.inj hkey]
      | super => cases hkey
      | chord => cases hkey
    | super =>
      cases ht with
      | gesture => cases hkey
      | super => rfl
      | chord => cases hkey
    | chord hma hmem =>
      cases ht with
      | gesture => cases hkey
      | super => cases hkey
      | chord hs' hm' =>
        -- a code has one canonical name
        have hd := TriggerKey.evdev.inj hkey
        have hm := List.inj_on_of_nodup_map supportedKeys_codes hmem hm' hd
        simp only at hmodifiers
        rw [hm, hmodifiers]

end Deniald.Shortcut
