/-
The vocabulary of shortcuts (native_shortcut.rs): modifiers, gestures and keys with the names the parser takes for
them and the canonical names the printer gives them. The canonical names are plain words that the parser reads back
as what they name, and no two keys share a name or a code.
-/
import Deniald.Topology.Output

namespace Deniald.Shortcut

open Deniald.Topology (trim isWhitespace)

/-! ## Key codes -/

def keyEscape : Nat := 1
def keyBackspace : Nat := 14
def keyTab : Nat := 15
def keySpace : Nat := 57
def keyUp : Nat := 103
def keyMute : Nat := 113
def keyVolumeDown : Nat := 114
def keyVolumeUp : Nat := 115
def keyBrightnessDown : Nat := 224
def keyBrightnessUp : Nat := 225
def keyLeftCtrl : Nat := 29
def keyLeftAlt : Nat := 56
def keyRightCtrl : Nat := 97
def keyRightAlt : Nat := 100
def keyLeftMeta : Nat := 125
def keyRightMeta : Nat := 126
def keyLeftShift : Nat := 42
def keyRightShift : Nat := 54

/-! ## Modifiers -/

inductive Modifier where
  | super
  | ctrl
  | alt
  | shift
  deriving DecidableEq

namespace Modifier

def flag : Modifier → UInt8
  | .super => 1
  | .ctrl => 2
  | .alt => 4
  | .shift => 8

def canonicalName : Modifier → String
  | .super => "Super"
  | .ctrl => "Ctrl"
  | .alt => "Alt"
  | .shift => "Shift"

/-- The order of the canonical form. -/
def all : List Modifier := [.super, .ctrl, .alt, .shift]

theorem mem_all (m : Modifier) : m ∈ all := by cases m <;> decide

end Modifier

/-- `to_ascii_lowercase`. -/
def asciiLowercase (name : List Char) : List Char := name.map Char.toLower

def parseModifier (name : List Char) : Option Modifier :=
  let lower := asciiLowercase name
  if lower = "super".toList ∨ lower = "meta".toList ∨ lower = "win".toList then some .super
  else if lower = "ctrl".toList ∨ lower = "control".toList then some .ctrl
  else if lower = "alt".toList then some .alt
  else if lower = "shift".toList then some .shift
  else none

/-! ## Gestures -/

inductive ShortcutGesture where
  | threeFingerSwipeUp
  | threeFingerSwipeLeft
  | threeFingerSwipeRight
  | fourFingerSwipeLeft
  | fourFingerSwipeRight
  deriving DecidableEq

def ShortcutGesture.canonicalName : ShortcutGesture → String
  | .threeFingerSwipeUp => "ThreeFingerSwipeUp"
  | .threeFingerSwipeLeft => "ThreeFingerSwipeLeft"
  | .threeFingerSwipeRight => "ThreeFingerSwipeRight"
  | .fourFingerSwipeLeft => "FourFingerSwipeLeft"
  | .fourFingerSwipeRight => "FourFingerSwipeRight"

def parseGesture (name : List Char) : Option ShortcutGesture :=
  let plain := (asciiLowercase name).filter fun c => c ≠ ' ' ∧ c ≠ '-' ∧ c ≠ '_'
  if plain = "threefingerswipeup".toList ∨ plain = "3fingerswipeup".toList then some .threeFingerSwipeUp
  else if plain = "threefingerswipeleft".toList ∨ plain = "3fingerswipeleft".toList then some .threeFingerSwipeLeft
  else if plain = "threefingerswiperight".toList ∨ plain = "3fingerswiperight".toList then some .threeFingerSwipeRight
  else if plain = "fourfingerswipeleft".toList ∨ plain = "4fingerswipeleft".toList then some .fourFingerSwipeLeft
  else if plain = "fourfingerswiperight".toList ∨ plain = "4fingerswiperight".toList then some .fourFingerSwipeRight
  else none

/-! ## Keys -/

/-- An entry of `NAMED_KEYS`. The category is for the settings only. -/
structure NamedKeyDefinition where
  keycode : Nat
  canonical : String
  aliases : List String

/-- `NAMED_KEYS`. -/
def namedKeys : List NamedKeyDefinition :=
  [ ⟨keyEscape, "Escape", ["Esc"]⟩,
    ⟨keyBackspace, "Backspace", []⟩,
    ⟨keyTab, "Tab", []⟩,
    ⟨28, "Enter", ["Return"]⟩,
    ⟨keySpace, "Space", []⟩,
    ⟨12, "Minus", []⟩,
    ⟨13, "Equal", []⟩,
    ⟨26, "BracketLeft", ["LeftBracket"]⟩,
    ⟨27, "BracketRight", ["RightBracket"]⟩,
    ⟨39, "Semicolon", []⟩,
    ⟨40, "Apostrophe", []⟩,
    ⟨41, "Grave", []⟩,
    ⟨43, "Backslash", []⟩,
    ⟨51, "Comma", []⟩,
    ⟨52, "Period", ["Dot"]⟩,
    ⟨53, "Slash", []⟩,
    ⟨58, "CapsLock", []⟩,
    ⟨69, "NumLock", []⟩,
    ⟨70, "ScrollLock", []⟩,
    ⟨102, "Home", []⟩,
    ⟨keyUp, "Up", []⟩,
    ⟨104, "PageUp", ["PgUp"]⟩,
    ⟨105, "Left", []⟩,
    ⟨106, "Right", []⟩,
    ⟨107, "End", []⟩,
    ⟨108, "Down", []⟩,
    ⟨109, "PageDown", ["PgDown"]⟩,
    ⟨110, "Insert", []⟩,
    ⟨111, "Delete", []⟩,
    ⟨keyMute, "VolumeMute", ["AudioMute", "XF86AudioMute"]⟩,
    ⟨keyVolumeDown, "VolumeDown", ["AudioDown", "XF86AudioLowerVolume"]⟩,
    ⟨keyVolumeUp, "VolumeUp", ["AudioUp", "XF86AudioRaiseVolume"]⟩,
    ⟨keyBrightnessDown, "BrightnessDown", ["XF86MonBrightnessDown"]⟩,
    ⟨keyBrightnessUp, "BrightnessUp", ["XF86MonBrightnessUp"]⟩,
    ⟨99, "PrintScreen", ["Print", "SysRq"]⟩,
    ⟨119, "Pause", []⟩,
    ⟨139, "Menu", []⟩,
    ⟨165, "PreviousTrack", ["XF86AudioPrev"]⟩,
    ⟨163, "NextTrack", ["XF86AudioNext"]⟩,
    ⟨164, "PlayPause", ["XF86AudioPlay"]⟩,
    ⟨166, "StopMedia", ["XF86AudioStop"]⟩,
    ⟨229, "KeyboardBrightnessDown", ["XF86KbdBrightnessDown"]⟩,
    ⟨230, "KeyboardBrightnessUp", ["XF86KbdBrightnessUp"]⟩ ]

/-- The key codes of the letters, from `a` on. -/
def letterKeycodes : List Nat :=
  [30, 48, 46, 32, 18, 33, 34, 35, 23, 36, 37, 38, 50, 49, 24, 25, 16, 19, 31, 20, 22, 47, 17, 45, 21, 44]

/-- A key and its canonical name, from a single lowercase letter or digit. -/
def parseCharacterKey (c : Char) : Option (Nat × String) :=
  if c.isLower then some (letterKeycodes.getD (c.toNat - 97) 0, String.ofList [c.toUpper])
  else if c.isDigit then some (if c = '0' then 11 else c.toNat - 48 + 1, String.ofList [c])
  else none

/-- `str::parse::<u32>`: digits after a plus sign or none. -/
def parseU32 (text : List Char) : Option Nat :=
  let digits := match text with
    | '+' :: digits => digits
    | digits => digits
  if digits.isEmpty then none
  else digits.foldlM (fun value c =>
    if c.isDigit ∧ value * 10 + (c.toNat - 48) < 2 ^ 32 then some (value * 10 + (c.toNat - 48)) else none) 0

def parseFunctionKey (function : Nat) : Option (Nat × String) :=
  if 1 ≤ function ∧ function ≤ 10 then some (58 + function, s!"F{function}")
  else if function = 11 then some (87, s!"F{function}")
  else if function = 12 then some (88, s!"F{function}")
  else if 13 ≤ function ∧ function ≤ 24 then some (170 + function, s!"F{function}")
  else none

/-- `eq_ignore_ascii_case`. -/
def eqIgnoreAsciiCase (a b : List Char) : Bool := asciiLowercase a == asciiLowercase b

def parseNamedKey (lower : List Char) : Option (Nat × String) :=
  namedKeys.findSome? fun key =>
    if eqIgnoreAsciiCase key.canonical.toList lower ||
        key.aliases.any fun name => eqIgnoreAsciiCase name.toList lower then
      some (key.keycode, key.canonical)
    else none

def parseKey (name : List Char) : Option (Nat × String) :=
  let lower := asciiLowercase name
  let character := match lower with
    | [c] => parseCharacterKey c
    | _ => none
  if character.isSome then character
  else
    let function := match lower with
      | 'f' :: value => parseU32 value
      | _ => none
    match function with
    | some function => parseFunctionKey function
    | none => parseNamedKey lower

/-! ## Canonical names -/

def supportedKeys : List (Nat × String) :=
  (List.range 26).filterMap (fun i => parseCharacterKey (Char.ofNat (97 + i))) ++
    (List.range 10).filterMap (fun i => parseCharacterKey (Char.ofNat (48 + i))) ++
    (List.range 25).filterMap parseFunctionKey ++ namedKeys.map fun key => (key.keycode, key.canonical)

variable {key : Nat × String}

theorem parseCharacterKey_mem {c : Char} (h : parseCharacterKey c = some key) : key ∈ supportedKeys := by
  unfold supportedKeys
  by_cases hw : c.isLower
  · have hr : 97 ≤ c.toNat ∧ c.toNat ≤ 122 := by
      have hn : (decide (c.val ≥ 'a'.val) && decide (c.val ≤ 'z'.val)) = true := hw
      simpa [UInt32.le_iff_toNat_le, ← Char.toNat_val] using hn
    refine List.mem_append_left _ (List.mem_append_left _ (List.mem_append_left _ ?_))
    refine List.mem_filterMap.2 ⟨c.toNat - 97, List.mem_range.2 (by omega), ?_⟩
    rw [show 97 + (c.toNat - 97) = c.toNat by omega, Char.ofNat_toNat]; exact h
  · by_cases hd : c.isDigit
    · have hr : 48 ≤ c.toNat ∧ c.toNat ≤ 57 := by
        simpa [Char.isDigit, UInt32.le_iff_toNat_le, ← Char.toNat_val] using hd
      refine List.mem_append_left _ (List.mem_append_left _ (List.mem_append_right _ ?_))
      refine List.mem_filterMap.2 ⟨c.toNat - 48, List.mem_range.2 (by omega), ?_⟩
      rw [show 48 + (c.toNat - 48) = c.toNat by omega, Char.ofNat_toNat]; exact h
    · simp [parseCharacterKey, hw, hd] at h

theorem parseFunctionKey_mem {f : Nat} (h : parseFunctionKey f = some key) : key ∈ supportedKeys := by
  have hr : f < 25 := by
    unfold parseFunctionKey at h
    split_ifs at h
    all_goals omega
  unfold supportedKeys
  refine List.mem_append_left _ (List.mem_append_right _ ?_)
  exact List.mem_filterMap.2 ⟨f, List.mem_range.2 hr, h⟩

theorem parseNamedKey_mem {l : List Char} (h : parseNamedKey l = some key) : key ∈ supportedKeys := by
  obtain ⟨d, hmem, hk⟩ := List.exists_of_findSome?_eq_some h; unfold supportedKeys
  refine List.mem_append_right _ (List.mem_map.2 ⟨d, hmem, ?_⟩)
  split_ifs at hk
  exact Option.some.inj hk

theorem parseKey_mem {name : List Char} (h : parseKey name = some key) : key ∈ supportedKeys := by
  unfold parseKey at h
  simp only at h
  split_ifs at h with hh
  · split at h
    · exact parseCharacterKey_mem h
    · cases h
  · split at h
    · exact parseFunctionKey_mem h
    · exact parseNamedKey_mem h

theorem parseKey_canonical : ∀ key ∈ supportedKeys, parseKey key.2.toList = some key := by decide +kernel

theorem supportedKeys_codes : (supportedKeys.map Prod.fst).Nodup := by decide +kernel

structure Plain (word : String) : Prop where
  nonempty : word.toList ≠ []
  plus : '+' ∉ word.toList
  trim : trim word.toList = word.toList
  short : word.utf8ByteSize ≤ 22

instance (word : String) : Decidable (Plain word) :=
  decidable_of_iff (word.toList ≠ [] ∧ '+' ∉ word.toList ∧ Deniald.Topology.trim word.toList = word.toList ∧
    word.utf8ByteSize ≤ 22) ⟨fun ⟨a, b, c, d⟩ => ⟨a, b, c, d⟩, fun ⟨a, b, c, d⟩ => ⟨a, b, c, d⟩⟩

theorem supportedKeys_plain : ∀ key ∈ supportedKeys,
    Plain key.2 ∧ parseModifier key.2.toList = none ∧ parseGesture key.2.toList = none := by decide +kernel

theorem parseModifier_canonical (m : Modifier) : Plain m.canonicalName ∧ parseModifier m.canonicalName.toList = some m ∧
    parseGesture m.canonicalName.toList = none := by
  cases m <;> decide +kernel

end Deniald.Shortcut
