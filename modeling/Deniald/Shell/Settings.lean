/-
The settings that the shell has (`ShellSettings`), as they are read from a document and written into one, the patch by
which two of them differ, and how a patch is put into a document.
-/
import Deniald.Shell.Fields

namespace Deniald.Shell

open Deniald.Lib Deniald.Settings
open SettingValue

/-! ## Reading a value twice -/

theorem dropWhile_rdropWhile {α : Type} {p : α → Bool} {l : List α} :
    ((l.dropWhile p).rdropWhile p).dropWhile p = (l.dropWhile p).rdropWhile p := by
  rw [List.dropWhile_eq_self_iff]; intro hpos
  have hr := List.rdropWhile_prefix p (l.dropWhile p)
  have hp' : 0 < (l.dropWhile p).length := hpos.trans_le hr.length_le
  have hh : ((l.dropWhile p).rdropWhile p)[0] = (l.dropWhile p)[0] := List.IsPrefix.getElem hr hpos
  rw [hh]; exact List.dropWhile_get_zero_not p l hp'

theorem dartTrim_dartTrim (text : String) : dartTrim (dartTrim text) = dartTrim text := by
  unfold dartTrim
  rw [String.toList_ofList, dropWhile_rdropWhile, List.rdropWhile_idempotent]

theorem truncate_intCast (n : Int) : truncate (n : ℚ) = n := by
  unfold truncate; split
  · exact Int.floor_intCast n
  · exact Int.ceil_intCast n

theorem color_color {fallback : Int} (value dflt' : Int) (h : color fallback 0 = fallback) (hpos : 0 < fallback) :
    color (color value fallback) dflt' = color value fallback := by
  unfold color at *
  grind

variable {fallback : String} {document : ShellDocument}

/-- A trimmed name, the fallback where it is refused: what it reads, and the fallback itself, it reads again. -/
theorem trimmed_again {f : String → String → String} {b : String → Bool}
    (hr : ∀ text fallback, f text fallback = if b (dartTrim text) then fallback else dartTrim text)
    (h : f fallback "" = fallback) :
    f fallback fallback = fallback ∧ ∀ text, f (f text fallback) fallback = f text fallback := by
  have hf : f fallback fallback = fallback := by
    rw [hr] at h ⊢; split
    · rfl
    · rename_i hgo; rwa [if_neg hgo] at h
  refine ⟨hf, fun text => ?_⟩
  by_cases hd : b (dartTrim text)
  · rw [hr text, if_pos hd, hf]
  · rw [hr text, if_neg hd, hr, dartTrim_dartTrim, if_neg hd]

theorem parseVariables_parseVariables (overrides : Overrides) :
    parseVariables (parseVariables overrides) = parseVariables overrides := by
  unfold parseVariables; rw [List.filter_filter]
  simp

theorem parseEnvironment_parseEnvironment (environment : ApplicationEnvironment) :
    parseEnvironment (parseEnvironment environment) = parseEnvironment environment := by
  simp [parseEnvironment, parseVariables_parseVariables, List.filter_map, Function.comp_def]

theorem cityName_cityName {text city : String} (h : cityName text = some city) : cityName city = some city := by
  unfold cityName at h ⊢
  simp only at h ⊢
  split at h
  · cases h
  · rename_i hd; cases h; rw [dartTrim_dartTrim, if_neg hd]

theorem FieldKind.read_read {kind : FieldKind} (h : kind.sound) (value : Option SettingValue) :
    kind.read (kind.read value) = kind.read value := by
  cases kind with
  | enumeration names fallback =>
    have hf : fallback ∈ names := List.contains_iff_mem.1 h
    cases hv : (value.bind asString).filter fun name => name ∈ names with
    | none => simp [read, hv, asString, Option.filter_some, hf]
    | some name =>
      have hn : name ∈ names := of_decide_eq_true (Option.filter_eq_some_iff.1 hv).2
      simp [read, hv, asString, Option.filter_some, hn]
  | nullableEnumeration names =>
    cases hv : (value.bind asString).filter fun name => name ∈ names with
    | none => simp [read, hv]
    | some name =>
      have hn : name ∈ names := of_decide_eq_true (Option.filter_eq_some_iff.1 hv).2
      simp [read, hv, asString, Option.filter_some, hn]
  | boolean fallback => simp [read, asBool]
  | number fallback minimum maximum =>
    simp only [sound, Bool.and_eq_true, decide_eq_true_eq] at h
    have hmem : ∀ x : ℚ, clamp (clamp x minimum maximum) minimum maximum = clamp x minimum maximum := fun x =>
      clamp_of_mem (clamp_mem (h.1.trans h.2)).1 (clamp_mem (h.1.trans h.2)).2
    cases hv : value.bind asNumber with
    | none => simp [read, hv, asNumber, clamp_of_mem h.1 h.2]
    | some x => simp [read, hv, asNumber, hmem]
  | integer fallback minimum maximum =>
    simp only [sound, Bool.and_eq_true, decide_eq_true_eq] at h
    have hmem : ∀ n : Int, clamp (clamp n minimum maximum) minimum maximum = clamp n minimum maximum := fun n =>
      clamp_of_mem (clamp_mem (h.1.trans h.2)).1 (clamp_mem (h.1.trans h.2)).2
    cases hv : value.bind asNumber with
    | none => simp [read, hv, asNumber, roundHalfAway_intCast, clamp_of_mem h.1 h.2]
    | some x => simp [read, hv, asNumber, roundHalfAway_intCast, hmem]
  | argb fallback =>
    simp only [sound, Bool.and_eq_true, decide_eq_true_eq] at h
    have hf : color fallback fallback = fallback := by
      have hne : color (-1) fallback = fallback := if_pos (.inl (by omega))
      have hr := color_color (-1) fallback h.1 h.2
      rwa [hne] at hr
    cases hv : value.bind asNumber with
    | none => simp [read, hv, asNumber, truncate_intCast, hf]
    | some x => simp [read, hv, asNumber, truncate_intCast, color_color _ _ h.1 h.2]
  | cursor fallback =>
    simp only [sound, Bool.and_eq_true, decide_eq_true_eq] at h
    have hr := trimmed_again (f := cursorThemeId) (b := fun id => id.isEmpty || badName id) (fun _ _ => rfl) h.1
    cases hv : value.bind asString with
    | none => simp [read, hv, asString, hr.1]
    | some text => simp [read, hv, asString, hr.2]
  | theme fallback =>
    simp only [sound, decide_eq_true_eq] at h
    have hr := trimmed_again (f := themeName) (b := badName) (fun _ _ => rfl) h
    cases hv : value.bind asString with
    | none => simp [read, hv, asString, hr.1]
    | some text => simp [read, hv, asString, hr.2]
  | outputs => simp [read, asStrings, List.filter_map, Function.comp_def, dartTrim_dartTrim]
  | coordinate =>
    cases hv : value.bind asNumber with
    | none => simp [read, hv]
    | some x => simp [read, hv, asNumber]
  | city =>
    cases hv : (value.bind asString).bind cityName with
    | none => simp [read, hv]
    | some city =>
      obtain ⟨text, -, hci⟩ := Option.bind_eq_some_iff.1 hv
      simp [read, hv, asString, cityName_cityName hci]
  | scopes =>
    cases hv : value.bind asEnvironment with
    | none => simp [read, hv, asEnvironment, parseEnvironment, parseVariables]
    | some environment => simp [read, hv, asEnvironment, parseEnvironment_parseEnvironment]

theorem FieldKind.typed_read {kind : FieldKind} (h : kind.sound) (value : Option SettingValue) :
    kind.typed (kind.read value) := by
  cases kind with
  | enumeration names fallback =>
    have hf : fallback ∈ names := List.contains_iff_mem.1 h
    cases hv : (value.bind asString).filter fun name => name ∈ names with
    | none =>
      simp only [read, hv]; exact h
    | some name =>
      simp only [read, hv]
      exact List.contains_iff_mem.2 (of_decide_eq_true (Option.filter_eq_some_iff.1 hv).2)
  | nullableEnumeration names =>
    cases hv : (value.bind asString).filter fun name => name ∈ names with
    | none => simp [read, hv, typed]
    | some name =>
      simp only [read, hv]
      exact List.contains_iff_mem.2 (of_decide_eq_true (Option.filter_eq_some_iff.1 hv).2)
  | coordinate => cases hv : value.bind asNumber <;> simp [read, hv, typed]
  | city => cases hv : (value.bind asString).bind cityName <;> simp [read, hv, typed]
  | boolean | number | integer | argb | cursor | theme | outputs | scopes => rfl

/-! ## Settings -/

/-- `ShellSettings`: what every field has, a manual location in all its parts or in none. -/
structure ShellSettings where
  values : Values ShellField SettingValue
  typed : ∀ field : ShellField, field.kind.typed (values field)
  whole : ∀ part part' : LocationField, (values (.manualLocation part)).isSome = (values (.manualLocation part')).isSome

@[ext] theorem ShellSettings.ext {settings settings' : ShellSettings} (h : settings.values = settings'.values) :
    settings = settings' := by
  cases settings
  cases h; rfl

instance : DecidableEq ShellSettings := fun settings settings' =>
  decidable_of_iff (settings.values = settings'.values) ⟨ShellSettings.ext, congrArg _⟩

def idleMinutes (document : ShellDocument) (field : ShellField) : Int :=
  match field.kind.read (document field) with
  | some (.integer minutes) => minutes
  | _ => 0

def idleSuspendTimeoutMinutes (document : ShellDocument) : Int :=
  clamp (idleMinutes document .idleSuspendTimeoutMinutes) (idleMinutes document .idleDpmsTimeoutMinutes) 120

def idleLockTimeoutMinutes (document : ShellDocument) : Int :=
  clamp (idleMinutes document .idleLockTimeoutMinutes) 1 (idleSuspendTimeoutMinutes document)

def locationPart (document : ShellDocument) (part : LocationField) : Option SettingValue :=
  (ShellField.manualLocation part).kind.read (document (.manualLocation part))

def hasLocation (document : ShellDocument) : Bool := LocationField.all.all fun part =>
    (locationPart document part).isSome

def readField (document : ShellDocument) : ShellField → Option SettingValue
  | .idleSuspendTimeoutMinutes => some (.integer (idleSuspendTimeoutMinutes document))
  | .idleLockTimeoutMinutes => some (.integer (idleLockTimeoutMinutes document))
  | .manualLocation part => if hasLocation document then locationPart document part else none
  | field => field.kind.read (document field)

/-- A field is read by itself, unless it is an idle timeout that another bounds or a part of the location. -/
def ShellField.alone : ShellField → Bool
  | .idleSuspendTimeoutMinutes | .idleLockTimeoutMinutes | .manualLocation _ => false
  | _ => true

theorem readField_alone {field : ShellField} (h : field.alone) :
    readField document field = field.kind.read (document field) := by
  cases field with
  | idleSuspendTimeoutMinutes | idleLockTimeoutMinutes | manualLocation => cases h
  | _ => rfl

theorem isSome_locationPart (h : hasLocation document) (part : LocationField) :
    (locationPart document part).isSome := by
  have hr := List.all_eq_true.1 h part
  cases part <;> exact hr (by simp [LocationField.all])

theorem typed_readField (document : ShellDocument) (fld : ShellField) : fld.kind.typed (readField document fld) := by
  by_cases hn : fld.alone
  · rw [readField_alone hn]
    exact FieldKind.typed_read (ShellField.sound_kind fld) _
  cases fld with
  | idleSuspendTimeoutMinutes | idleLockTimeoutMinutes => rfl
  | manualLocation part =>
    simp only [readField]; split
    · exact FieldKind.typed_read (ShellField.sound_kind _) _
    · cases part <;> rfl
  | _ => exact absurd rfl hn

namespace ShellSettings

def fromJson (document : ShellDocument) : ShellSettings where
  values := readField document
  typed := typed_readField document
  whole part part' := by
    simp only [readField]; split
    · rename_i h
      rw [isSome_locationPart h, isSome_locationPart h]
    · rfl

/-- A field without a value is left out. -/
def toJson (settings : ShellSettings) : ShellDocument := settings.values

def differenceFrom (settings previous : ShellSettings) : Patch ShellField SettingValue := fun field =>
  if field.group.any fun other => settings.values other ≠ previous.values other then some
    (settings.values field) else none

theorem agrees_differenceFrom (settings previous : ShellSettings) :
    (settings.differenceFrom previous).Agrees settings.values := by
  intro fld value h; unfold differenceFrom at h
  split at h
  · exact Option.some.inj h
  · cases h

variable {previous settings : ShellSettings}

theorem differenceFrom_of_ne {fld : ShellField} (h : settings.values fld ≠ previous.values fld) :
    settings.differenceFrom previous fld = some (settings.values fld) := by
  unfold differenceFrom; rw [if_pos]
  rw [List.any_eq_true]; exact ⟨fld, fld.mem_group, decide_eq_true h⟩

theorem eq_of_differenceFrom_none {field : ShellField} (h : settings.differenceFrom previous field = none) :
    settings.values field = previous.values field := by
  by_contra hne
  rw [differenceFrom_of_ne hne] at h; cases h

end ShellSettings

/-- `_applySettingsPatch`, to the document that `toJson` makes: its maps hold no null, and to put one in fails. -/
def applySettingsPatch (document : ShellDocument) (patch : Patch ShellField SettingValue) : Option ShellDocument :=
  if patch.Clears then none else some (patch.overlay document)

/-! ## Putting a patch into a document -/

/-- What a patch makes of a document is read as it is: its values are in their ranges, and together with the document's
the idle timeouts are in order and a location has all its parts. -/
structure Fits (patch : Patch ShellField SettingValue) (settings : ShellSettings) : Prop where
  ranges : ∀ field : ShellField, ∀ value ∈ patch field, field.kind.read value = value
  dpms : idleMinutes (patch.overlay settings.values) .idleDpmsTimeoutMinutes ≤
    idleMinutes (patch.overlay settings.values) .idleSuspendTimeoutMinutes
  lock : idleMinutes (patch.overlay settings.values) .idleLockTimeoutMinutes ≤
    idleMinutes (patch.overlay settings.values) .idleSuspendTimeoutMinutes
  location : ∀ part part', (patch.overlay settings.values (.manualLocation part)).isSome =
    (patch.overlay settings.values (.manualLocation part')).isSome

instance decidableFits (patch : Patch ShellField SettingValue) (settings : ShellSettings) :
    Decidable (Fits patch settings) :=
  decidable_of_iff
    ((∀ field : ShellField, ∀ value ∈ patch field, field.kind.read value = value) ∧
      idleMinutes (patch.overlay settings.values) .idleDpmsTimeoutMinutes ≤
        idleMinutes (patch.overlay settings.values) .idleSuspendTimeoutMinutes ∧
      idleMinutes (patch.overlay settings.values) .idleLockTimeoutMinutes ≤
        idleMinutes (patch.overlay settings.values) .idleSuspendTimeoutMinutes ∧
      ∀ part part', (patch.overlay settings.values (.manualLocation part)).isSome =
        (patch.overlay settings.values (.manualLocation part')).isSome)
    ⟨fun ⟨ranges, dpms, lock, location⟩ => ⟨ranges, dpms, lock, location⟩,
      fun h => ⟨h.ranges, h.dpms, h.lock, h.location⟩⟩

theorem integer_read (document : ShellDocument) (fld : ShellField) {fallback minimum maximum : Int}
    (hk : fld.kind = .integer fallback minimum maximum) :
    fld.kind.read (document fld) = some (.integer (idleMinutes document fld)) ∧
      minimum ≤ idleMinutes document fld ∧ idleMinutes document fld ≤ maximum := by
  have hs := fld.sound_kind; rw [hk] at hs
  simp only [FieldKind.sound, Bool.and_eq_true, decide_eq_true_eq] at hs; unfold idleMinutes
  rw [hk]
  refine ⟨rfl, ?_⟩
  cases hv : (document fld).bind asNumber with
  | none => simpa [FieldKind.read, hv] using hs
  | some x => simpa [FieldKind.read, hv] using clamp_mem (hs.1.trans hs.2)

theorem idleSuspendTimeoutMinutes_mem (document : ShellDocument) :
    idleMinutes document .idleDpmsTimeoutMinutes ≤ idleSuspendTimeoutMinutes document ∧
      idleSuspendTimeoutMinutes document ≤ 120 :=
  clamp_mem (integer_read document .idleDpmsTimeoutMinutes rfl).2.2

theorem idleLockTimeoutMinutes_mem (document : ShellDocument) :
    1 ≤ idleLockTimeoutMinutes document ∧ idleLockTimeoutMinutes document ≤ idleSuspendTimeoutMinutes document := by
  refine clamp_mem (le_trans ?_ (idleSuspendTimeoutMinutes_mem document).1)
  exact (integer_read document .idleDpmsTimeoutMinutes rfl).2.1

theorem read_integer_of_mem {fallback mn m n : Int} (hlo : mn ≤ n) (hhi : n ≤ m) :
    (FieldKind.integer fallback mn m).read (some (.integer n)) = some (.integer n) := by
  simp [FieldKind.read, asNumber, roundHalfAway_intCast, clamp_of_mem hlo hhi]

theorem read_readField (document : ShellDocument) (field : ShellField) :
    field.kind.read (readField document field) = readField document field := by
  by_cases hn : field.alone
  · rw [readField_alone hn]; exact FieldKind.read_read field.sound_kind _
  cases field with
  | idleSuspendTimeoutMinutes =>
    have hd := (integer_read document .idleDpmsTimeoutMinutes rfl).2.1
    have hmem := idleSuspendTimeoutMinutes_mem document
    exact read_integer_of_mem (hd.trans hmem.1) hmem.2
  | idleLockTimeoutMinutes =>
    have hmem := idleLockTimeoutMinutes_mem document
    exact read_integer_of_mem hmem.1 (hmem.2.trans (idleSuspendTimeoutMinutes_mem document).2)
  | manualLocation part =>
    simp only [readField]; split
    · exact FieldKind.read_read (ShellField.sound_kind _) _
    · cases part <;> rfl
  | _ => exact absurd rfl hn

/-- Values in their ranges, of which the idle timeouts are in order and the location has all its parts, are read as
they are. -/
theorem readField_of_fits (hr : ∀ fld : ShellField, fld.kind.read (document fld) = document fld)
    (hd : idleMinutes document .idleDpmsTimeoutMinutes ≤ idleMinutes document .idleSuspendTimeoutMinutes)
    (hk : idleMinutes document .idleLockTimeoutMinutes ≤ idleMinutes document .idleSuspendTimeoutMinutes)
    (hlo : ∀ part part', (document (.manualLocation part)).isSome = (document (.manualLocation part')).isSome) :
    readField document = document := by
  have hs := integer_read document .idleSuspendTimeoutMinutes rfl
  have hm : idleSuspendTimeoutMinutes document = idleMinutes document .idleSuspendTimeoutMinutes :=
    clamp_of_mem hd hs.2.2
  funext fld
  by_cases hn : fld.alone
  · rw [readField_alone hn, hr]
  cases fld with
  | idleSuspendTimeoutMinutes =>
    simp only [readField]; rw [hm, ← hs.1, hr]
  | idleLockTimeoutMinutes =>
    have hlr := integer_read document .idleLockTimeoutMinutes rfl
    have hm' : idleLockTimeoutMinutes document = idleMinutes document .idleLockTimeoutMinutes :=
      clamp_of_mem hlr.2.1 (by rwa [hm])
    simp only [readField]; rw [hm', ← hlr.1, hr]
  | manualLocation part =>
    have hpa : ∀ part, locationPart document part = document (.manualLocation part) := fun part => hr _
    simp only [readField]; split
    · exact hpa part
    rename_i hmi
    -- one part is missing, so all are
    by_contra hne
    refine hmi (List.all_eq_true.2 fun part' _ => ?_)
    rw [hpa, hlo part' part]; exact Option.isSome_iff_ne_none.2 (Ne.symm hne)
  | _ => exact absurd rfl hn

variable {patch : Patch ShellField SettingValue}

theorem Fits.read (h : Fits patch (.fromJson document)) (field : ShellField) :
    field.kind.read (patch.overlay (readField document) field) = patch.overlay (readField document) field := by
  cases hpa : patch field with
  | none =>
    rw [Patch.overlay_none hpa]; exact read_readField document field
  | some value =>
    rw [Patch.overlay_some hpa]; exact h.ranges field value hpa

theorem Fits.fromJson (h : Fits patch (.fromJson document)) :
    (ShellSettings.fromJson (patch.overlay (ShellSettings.fromJson document).values)).values =
      patch.overlay (ShellSettings.fromJson document).values :=
  readField_of_fits h.read h.dpms h.lock h.location

end Deniald.Shell
