/-
What settings keep: a parsed document is normalised once and for all, older versions keep the settings they have, and a
committed document is loaded as it is in memory. One visible slip: the settings of workspaces are kept only as a pair, and
the default document lacks them.
-/
import Deniald.Settings.Store
import Mathlib.Tactic.NormNum

namespace Deniald.Settings

open Deniald.Lib
open SettingsManager

/-! ## Normalisation -/

def Normalised (p : ParsedSettingsDocument) : Prop := parseDocument (.object p.document) = .ok { p with migrated := false }

variable {value : Json} {source : JsonMap} {workspaces : WorkspaceSettings}

variable {p : ParsedSettingsDocument}

theorem normalised_of_parse (h : parseDocument value = .ok p) : Normalised p := by
  obtain ⟨source, v, workspaces, -, hm⟩ := migrates_of_parse h
  have hr := parse_of_current hm.current hm.hasWorkspaces; unfold Normalised
  rw [hr, hm.parsed]; rfl

/-! ## Migration -/

/-- Every setting that the source has, of the type and in the range it needs, has its value in what it is parsed into. -/
structure Preserves (source : JsonMap) (p : ParsedSettingsDocument) : Prop where
  keyboard : ∀ json keyboard, source.get "keyboard" = some json → KeyboardSettings.ofJson json = some keyboard →
    keyboard.validate = .ok () → p.keyboard = keyboard
  mouse : ∀ json mouse, source.get "mouse" = some json → MouseSettings.ofJson json = some mouse →
    mouse.validate = .ok () → p.mouse = mouse
  touchpad : ∀ json touchpad, source.get "touchpad" = some json → TouchpadSettings.ofJson json = some touchpad →
    touchpad.validate = .ok () → p.touchpad = touchpad
  environment : ∀ json environment, source.get "applicationEnvironment" = some json →
    ApplicationEnvironment.ofJson json = .ok environment → p.applicationEnvironment = environment
  colorScheme : ∀ preference, parseColorSchemePreference source = .ok preference → p.colorSchemePreference = preference
  cursorSurfaces : ∀ allowed, parseAllowClientCursorSurfaces source = .ok allowed → p.allowClientCursorSurfaces = allowed
  windowLayout : ∀ kind, parseWindowLayoutKind source = .ok kind → parseWindowLayoutKind p.document = .ok kind
  workspacesEnabled : ∀ enabled, sectionGet source "layout" "workspacesEnabled" = some (.bool enabled) →
    sectionGet p.document "layout" "workspacesEnabled" = some (.bool enabled)
  workspaceCount : ∀ json count, sectionGet source "layout" "workspaceCount" = some json → validCount json = some count →
    sectionGet p.document "layout" "workspaceCount" = some (.ofU8 count)
  revision : ∀ revision, source.get "revision" = some (jsonU64 revision) → 0 < revision → p.revision = revision

/-- One setting of workspaces without the other is the default one. -/
def KeepsWorkspaces (source : JsonMap) : Prop :=
  (∀ enabled, sectionGet source "layout" "workspacesEnabled" = some (.bool enabled) →
    hadField source "layout" "workspaceCount" = false → enabled = true) ∧
  ∀ json count, sectionGet source "layout" "workspaceCount" = some json → validCount json = some count →
    hadField source "layout" "workspacesEnabled" = false → count = 4

variable {document : JsonMap}

theorem hadField_of_get {key fld : String} (h : sectionGet document key fld = some value) :
    hadField document key fld = true := by
  unfold hadField
  rw [h]; rfl

theorem orDefault_of {α : Type} {had : Bool} {pr : Except SettingsError α} {default value value' : α}
    (h : orDefault had pr default = .ok value) (hh : had = true) (hr : pr = .ok value') : value = value' := by
  unfold orDefault at h
  rw [if_pos hh, hr] at h; exact (Except.ok.inj h).symm

theorem had_of_parseColorScheme {preference : DesktopColorSchemePreference}
    (h : parseColorSchemePreference document = .ok preference) :
    hadField document "appearance" "colorSchemePreference" = true := by
  unfold parseColorSchemePreference at h
  cases hge : sectionGet document "appearance" "colorSchemePreference" with
  | none =>
    rw [hge] at h; cases h
  | some value => exact hadField_of_get hge

theorem had_of_parseCursorSurfaces {allowed : Bool} (h : parseAllowClientCursorSurfaces document = .ok allowed) :
    hadField document "appearance" "allowClientCursorSurfaces" = true := by
  unfold parseAllowClientCursorSurfaces at h
  cases hge : sectionGet document "appearance" "allowClientCursorSurfaces" with
  | none =>
    rw [hge] at h; cases h
  | some value => exact hadField_of_get hge

theorem had_of_parseWindowLayout {kind : WindowLayoutKind} (h : parseWindowLayoutKind document = .ok kind) :
    hadField document "layout" "windowLayout" = true := by
  unfold parseWindowLayoutKind at h
  cases hge : sectionGet document "layout" "windowLayout" with
  | none =>
    rw [hge] at h; cases h
  | some value => exact hadField_of_get hge

theorem workspaces_of_both {v : Values} (h : Migrates source p v workspaces)
    (he : hadField source "layout" "workspacesEnabled" = true)
    (hn : hadField source "layout" "workspaceCount" = true) : HasWorkspaces source workspaces := by
  have hw := h.workspaces; unfold orDefault at hw
  rw [he, hn, if_pos (by rfl)] at hw; exact has_of_parseWorkspaceSettings hw

theorem workspaces_of_missing {v : Values} (h : Migrates source p v workspaces)
    (hm : (hadField source "layout" "workspacesEnabled" && hadField source "layout" "workspaceCount") = false) :
    workspaces = {} := by
  have hw := h.workspaces; unfold orDefault at hw
  rw [hm, if_neg nofun] at hw; exact (Except.ok.inj hw).symm

theorem preserves_iff (h : parseDocument (.object source) = .ok p) : Preserves source p ↔ KeepsWorkspaces source := by
  obtain ⟨source', v, workspaces, hso, hm⟩ := migrates_of_parse h
  obtain rfl : source = source' := Json.object.inj hso
  have hs := hm.parsed
  constructor
  · intro hpr
    refine ⟨fun e he hmi => ?_, fun json count hn hv hmi => ?_⟩
    · have hd := workspaces_of_missing hm (by rw [hmi, Bool.and_false])
      have haf := (hpr.workspacesEnabled e he).symm.trans hm.hasWorkspaces.enabled
      rw [hd] at haf
      injection haf with haf
      injection haf
    · have hd := workspaces_of_missing hm (by rw [hmi, Bool.false_and])
      have haf := (hpr.workspaceCount json count hn hv).symm.trans hm.hasWorkspaces.count
      rw [hd] at haf
      injection haf with haf
      have hr := congrArg Json.asU8 haf
      rw [Json.asU8_ofU8, Json.asU8_ofU8] at hr; exact Option.some.inj hr
  · intro hk
    refine ⟨fun json keyboard hge hr hv => ?_, fun json mouse hge hr hv => ?_,
      fun json touchpad hge hr hv => ?_, fun json environment hge hr => ?_, fun preference hpa => ?_,
      fun allowed hpa => ?_, fun kind hpa => ?_, fun e he => ?_, fun json count hn hv => ?_,
      fun revision hge hpos => ?_⟩
    · have hf := hm.keyboard; rw [hge, parseField_toJson hr hv] at hf
      rw [hs]; exact (Except.ok.inj hf).symm
    · have hf := hm.mouse; rw [hge, parseField_toJson hr hv] at hf
      rw [hs]; exact (Except.ok.inj hf).symm
    · have hf := hm.touchpad; rw [hge, parseField_toJson hr hv] at hf
      rw [hs]; exact (Except.ok.inj hf).symm
    · have hf := hm.environment; unfold environmentFromDocument at hf
      rw [hge] at hf
      rw [hs]; exact Except.ok.inj (hf.symm.trans hr)
    · rw [hs]
      exact orDefault_of hm.colorScheme (had_of_parseColorScheme hpa) hpa
    · rw [hs]
      exact orDefault_of hm.cursorSurfaces (had_of_parseCursorSurfaces hpa) hpa
    · rw [parseWindowLayout_current hm.current]
      exact congrArg Except.ok (orDefault_of hm.windowLayout (had_of_parseWindowLayout hpa) hpa)
    · rw [hm.hasWorkspaces.enabled]
      cases ho : hadField source "layout" "workspaceCount" with
      | true =>
        have hbo := workspaces_of_both hm (hadField_of_get he) ho
        exact hbo.enabled.symm.trans he
      | false =>
        rw [workspaces_of_missing hm (by rw [ho, Bool.and_false]), hk.1 e he ho]
    · rw [hm.hasWorkspaces.count]
      cases ho : hadField source "layout" "workspacesEnabled" with
      | true =>
        have hbo := workspaces_of_both hm ho (hadField_of_get hn)
        obtain ⟨hr, -⟩ := Option.filter_eq_some_iff.1 hv
        rw [← hbo.count, hn, Json.eq_of_asU8 hr]
      | false =>
        rw [workspaces_of_missing hm (by rw [ho, Bool.false_and]), hk.2 json count hn hv ho]
    · rw [hs]
      show v.revision = revision; rw [hm.revision]
      unfold parseRevision; rw [hge]
      show ((some revision).filter fun revision => decide (0 < revision)).getD 1 = revision
      rw [Option.filter_some, if_pos (decide_eq_true hpos)]; rfl

/-! ## What a store keeps -/

/-- A current document with its values, and both settings of workspaces in their range where it has both. -/
structure Kept (document : JsonMap) (revision : UInt64) (keyboard : KeyboardSettings) (mouse : MouseSettings)
    (touchpad : TouchpadSettings) (preference : DesktopColorSchemePreference) (allowed : Bool) : Prop where
  current : ∃ environment kind,
    Current document ⟨revision, keyboard, mouse, touchpad, preference, allowed, environment, kind⟩
  workspaces : hadField document "layout" "workspacesEnabled" = true →
    hadField document "layout" "workspaceCount" = true → ∃ workspaces, HasWorkspaces document workspaces

theorem validate_defaultTouchpad : TouchpadSettings.validate {} = .ok () := by
  unfold TouchpadSettings.validate minTouchpadScrollSpeedFactor; norm_num

theorem current_default : Current defaultDocument ⟨1, {}, {}, {}, .preferDark, true, {}, .stacking⟩ where
  version := rfl
  revision := rfl
  revised := by decide
  keyboard := rfl
  keyboardValid := by decide
  mouse := rfl
  mouseValid := by decide
  touchpad := rfl
  touchpadValid := validate_defaultTouchpad
  environment := rfl
  environmentValid := ApplicationEnvironment.valid_empty
  colorScheme := rfl
  cursorSurfaces := rfl
  windowLayout := rfl

theorem kept_default : Kept defaultDocument 1 {} {} {} .preferDark true :=
  ⟨⟨{}, .stacking, current_default⟩, fun h => (nomatch h)⟩

theorem kept_of_parse (h : parseDocument value = .ok p) :
    Kept p.document p.revision p.keyboard p.mouse p.touchpad p.colorSchemePreference p.allowClientCursorSurfaces := by
  obtain ⟨source, v, workspaces, -, hm⟩ := migrates_of_parse h
  refine ⟨⟨v.applicationEnvironment, v.windowLayout, ?_⟩, fun _ _ => ⟨workspaces, hm.hasWorkspaces⟩⟩
  rw [hm.parsed]; exact hm.current

/-! ### Native settings -/

theorem Current.of_native {doc' : JsonMap} {v : Values} (h : Current document v) {revision : UInt64}
    {keyboard : KeyboardSettings} {mouse : MouseSettings} {touchpad : TouchpadSettings}
    (hs : ∀ key, key ≠ "revision" → key ≠ "keyboard" → key ≠ "mouse" → key ≠ "touchpad" →
      doc'.get key = document.get key)
    (hv : doc'.get "revision" = some (jsonU64 revision) ∧ 0 < revision)
    (hk : doc'.get "keyboard" = some keyboard.toJson ∧ keyboard.validate = .ok ())
    (hm : doc'.get "mouse" = some mouse.toJson ∧ mouse.validate = .ok ())
    (hto : doc'.get "touchpad" = some touchpad.toJson ∧ touchpad.validate = .ok ()) :
    Current doc' { v with revision := revision, keyboard := keyboard, mouse := mouse, touchpad := touchpad } := by
  have hr := hs "appearance" (by decide) (by decide) (by decide) (by decide)
  have hy := hs "layout" (by decide) (by decide) (by decide) (by decide)
  exact ⟨(hs _ (by decide) (by decide) (by decide) (by decide)).trans h.version, hv.1, hv.2, hk.1,
    hk.2, hm.1, hm.2, hto.1, hto.2,
    (hs _ (by decide) (by decide) (by decide) (by decide)).trans h.environment, h.environmentValid,
    (sectionGet_congr hr _).trans h.colorScheme, (sectionGet_congr hr _).trans h.cursorSurfaces,
    (sectionGet_congr hy _).trans h.windowLayout⟩

theorem get_revised (document : JsonMap) (revision : UInt64) (key : String) (value : Json) (hne : key ≠ "revision") :
    let document' := (document.insert "revision" (jsonU64 revision)).insert key value
    document'.get "revision" = some (jsonU64 revision) ∧ document'.get key = some value ∧
      ∀ other, other ≠ "revision" → other ≠ key → document'.get other = document.get other := by
  intro document'
  refine ⟨?_, JsonMap.get_insert_self .., fun other hr hk => ?_⟩
  · exact (JsonMap.get_insert_of_ne (Ne.symm hne) _ _).trans (JsonMap.get_insert_self ..)
  · exact (JsonMap.get_insert_of_ne hk _ _).trans (JsonMap.get_insert_of_ne hr _ _)

theorem had_congr {doc' : JsonMap} (h : doc'.get "layout" = document.get "layout") :
    (∀ fld, hadField doc' "layout" fld = hadField document "layout" fld) ∧
      ∀ workspaces, HasWorkspaces document workspaces → HasWorkspaces doc' workspaces :=
  ⟨fun fld => hadField_congr (sectionGet_congr h fld), fun _ hw =>
    hw.congr (sectionGet_congr h _) (sectionGet_congr h _)⟩

/-! ### Prepared updates -/

section Prepared

variable {B : Type} {text : JsonText B} {m : SettingsManager B} {p : PreparedSettingsUpdate B}

def KeptManager (m : SettingsManager B) : Prop :=
  Kept m.document m.revision m.keyboard m.mouse m.touchpad m.colorSchemePreference m.allowClientCursorSurfaces

structure Prepared (text : JsonText B) (m : SettingsManager B) (p : PreparedSettingsUpdate B) : Prop where
  target : p.target = m.path
  revision : p.revision.toNat = m.revision.toNat + 1
  bytes : p.bytes = text.encode p.document
  length : text.length p.bytes ≤ maxSettingsBytes
  kept : KeptManager m → Kept p.document p.revision p.keyboard p.mouse p.touchpad p.colorSchemePreference
    p.allowClientCursorSurfaces

variable {expected revision : UInt64} {document : JsonMap} {written : Bool} {keyboard : KeyboardSettings}
  {touchpad : TouchpadSettings} {preference : DesktopColorSchemePreference}

theorem nextRevision_ok (h : m.nextRevision = .ok revision) : revision.toNat = m.revision.toNat + 1 := by
  unfold nextRevision at h; split at h
  · rename_i hlt; cases h
    rw [UInt64.toNat_add]; exact Nat.mod_eq_of_lt hlt
  · cases h

theorem renderDocument_ok {bytes : B} (h : renderDocument text document = .ok bytes) :
    bytes = text.encode document ∧ text.length bytes ≤ maxSettingsBytes := by
  unfold renderDocument at h; dsimp only at h
  split at h
  · cases h
  · rename_i hlen; cases h; exact ⟨rfl, Nat.not_lt.1 hlen⟩

variable {mouse : MouseSettings} {allowed : Bool} {environment : ApplicationEnvironment}

theorem prepare_ok (h : m.prepare text written document keyboard mouse touchpad preference allowed = .ok p)
    (hr : document.get "revision" = some (jsonU64 revision)) :
    ∃ environment, environmentFromDocument document = .ok environment ∧
      p = ⟨m.path, environment.writeToDocument document, revision, keyboard, mouse, touchpad, preference, allowed,
        text.encode (environment.writeToDocument document)⟩ ∧ text.length p.bytes ≤ maxSettingsBytes := by
  unfold prepare at h
  obtain ⟨environment, hn, h⟩ := bind_ok.1 h
  have hge : (environment.writeToDocument document).get "revision" = some (jsonU64 revision) :=
    (JsonMap.get_insert_of_ne (by decide) _ _).trans hr
  dsimp only at h; rw [hge] at h
  obtain ⟨bytes, hy, h⟩ := bind_ok.1 h
  obtain ⟨he, hlen⟩ := renderDocument_ok hy; split at h
  · cases h
  · cases h
    rw [he] at hlen ⊢; exact ⟨environment, hn, rfl, hlen⟩

theorem write_current {v : Values} (h : Current document v) (hr : environmentFromDocument document = .ok environment) :
    environment.writeToDocument document = document := by
  have he : environmentFromDocument document = .ok v.applicationEnvironment := by
    unfold environmentFromDocument
    rw [h.environment]; exact h.environmentValid.ofJson_toJson
  obtain rfl := Except.ok.inj (hr.symm.trans he); exact JsonMap.insert_get h.environment

theorem prepared_of_prepare (h : m.prepare text written document keyboard mouse touchpad preference allowed = .ok p)
    (hr : document.get "revision" = some (jsonU64 revision)) (hn : m.nextRevision = .ok revision)
    (hk : ∀ environment, environmentFromDocument document = .ok environment → KeptManager m →
      Kept (environment.writeToDocument document) revision keyboard mouse touchpad preference allowed) :
    Prepared text m p := by
  obtain ⟨environment, he, rfl, hlen⟩ := prepare_ok h hr
  exact ⟨rfl, nextRevision_ok hn, rfl, hlen, hk environment he⟩

theorem revised_pos (h : m.nextRevision = .ok revision) : 0 < revision := by
  have := nextRevision_ok h
  rw [UInt64.lt_iff_toNat_lt, this]; exact Nat.succ_pos _

theorem kept_of_current {v : Values} (hr : Current document v) (hy : document.get "layout" = m.document.get "layout")
    (hd : environmentFromDocument document = .ok environment) (hk : KeptManager m) :
    Kept (environment.writeToDocument document) v.revision v.keyboard v.mouse v.touchpad v.colorSchemePreference
      v.allowClientCursorSurfaces := by
  rw [write_current hr hd]
  obtain ⟨hh, hw⟩ := had_congr hy
  refine ⟨⟨v.applicationEnvironment, v.windowLayout, hr⟩, fun he hn => ?_⟩
  rw [hh] at he hn
  exact (hk.workspaces he hn).imp hw

theorem revisedDocument_ok {key : String} {value : Json} (h : m.revisedDocument key value = .ok document) :
    ∃ revision, m.nextRevision = .ok revision ∧
      document = (m.document.insert "revision" (jsonU64 revision)).insert key value := by
  unfold revisedDocument at h
  obtain ⟨revision, hr, h⟩ := bind_ok.1 h; exact ⟨revision, hr, (Except.ok.inj h).symm⟩

theorem prepared_keyboard {c : Option (List String)}
    (h : m.prepareKeyboardUpdate text written expected keyboard c = .ok p) : Prepared text m p := by
  unfold prepareKeyboardUpdate at h
  obtain ⟨_, -, h⟩ := bind_ok.1 h
  obtain ⟨names, hm, h⟩ := bind_ok.1 h
  obtain ⟨_, hva, -⟩ := bind_ok.1 hm
  obtain ⟨document, hdo, h⟩ := bind_ok.1 h
  obtain ⟨revision, hn, rfl⟩ := revisedDocument_ok hdo
  obtain ⟨hv, hy, ho⟩ := get_revised m.document revision "keyboard" keyboard.toJson (by decide)
  refine prepared_of_prepare h hv hn fun environment hd hk => ?_
  obtain ⟨⟨env', kind, hr⟩, -⟩ := id hk
  exact kept_of_current (hr.of_native (fun key h₁ h₂ _ _ => ho key h₁ h₂) ⟨hv, revised_pos hn⟩
    ⟨hy, hva⟩ ⟨(ho _ (by decide) (by decide)).trans hr.mouse, hr.mouseValid⟩
    ⟨(ho _ (by decide) (by decide)).trans hr.touchpad, hr.touchpadValid⟩)
    (ho _ (by decide) (by decide)) hd hk

theorem prepared_mouse (h : m.prepareMouseUpdate text written expected mouse = .ok p) : Prepared text m p := by
  unfold prepareMouseUpdate at h
  obtain ⟨_, -, h⟩ := bind_ok.1 h
  obtain ⟨_, hva, h⟩ := bind_ok.1 h
  obtain ⟨document, hdo, h⟩ := bind_ok.1 h
  obtain ⟨revision, hn, rfl⟩ := revisedDocument_ok hdo
  obtain ⟨hv, hy, ho⟩ := get_revised m.document revision "mouse" mouse.toJson (by decide)
  refine prepared_of_prepare h hv hn fun environment hd hk => ?_
  obtain ⟨⟨env', kind, hr⟩, -⟩ := id hk
  exact kept_of_current (hr.of_native (fun key h₁ _ h₃ _ => ho key h₁ h₃) ⟨hv, revised_pos hn⟩
    ⟨(ho _ (by decide) (by decide)).trans hr.keyboard, hr.keyboardValid⟩ ⟨hy, hva⟩
    ⟨(ho _ (by decide) (by decide)).trans hr.touchpad, hr.touchpadValid⟩)
    (ho _ (by decide) (by decide)) hd hk

theorem prepared_touchpad (h : m.prepareTouchpadUpdate text written expected touchpad = .ok p) : Prepared text m p := by
  unfold prepareTouchpadUpdate at h
  obtain ⟨_, -, h⟩ := bind_ok.1 h
  obtain ⟨_, hva, h⟩ := bind_ok.1 h
  obtain ⟨document, hdo, h⟩ := bind_ok.1 h
  obtain ⟨revision, hn, rfl⟩ := revisedDocument_ok hdo
  obtain ⟨hv, hy, ho⟩ := get_revised m.document revision "touchpad" touchpad.toJson (by decide)
  refine prepared_of_prepare h hv hn fun environment hd hk => ?_
  obtain ⟨⟨env', kind, hr⟩, -⟩ := id hk
  exact kept_of_current (hr.of_native (fun key h₁ _ _ h₄ => ho key h₁ h₄) ⟨hv, revised_pos hn⟩
    ⟨(ho _ (by decide) (by decide)).trans hr.keyboard, hr.keyboardValid⟩
    ⟨(ho _ (by decide) (by decide)).trans hr.mouse, hr.mouseValid⟩ ⟨hy, hva⟩)
    (ho _ (by decide) (by decide)) hd hk

/-! ### Shell documents -/

theorem get_of_parseColorScheme (h : parseColorSchemePreference document = .ok preference) :
    sectionGet document "appearance" "colorSchemePreference" = some (.string preference.settingsName) := by
  unfold parseColorSchemePreference at h; split at h
  · cases h
  rename_i value hv
  obtain ⟨json, hge, hs⟩ := Option.bind_eq_some_iff.1 hv; split at h
  · cases h
  · rename_i p' hn; cases h
    rw [hge, Json.eq_of_asString hs, DesktopColorSchemePreference.settingsName_of_from hn]

theorem get_of_parseCursorSurfaces (h : parseAllowClientCursorSurfaces document = .ok allowed) :
    sectionGet document "appearance" "allowClientCursorSurfaces" = some (.bool allowed) := by
  unfold parseAllowClientCursorSurfaces at h; split at h
  · cases h
  rename_i value hv
  obtain ⟨json, hge, hbo⟩ := Option.bind_eq_some_iff.1 hv; cases h
  rw [hge, Json.eq_of_asBool hbo]

theorem get_of_parseWindowLayout {kind : WindowLayoutKind} (h : parseWindowLayoutKind document = .ok kind) :
    sectionGet document "layout" "windowLayout" = some (.string kind.settingsName) := by
  unfold parseWindowLayoutKind at h; split at h
  · cases h
  rename_i value hv
  obtain ⟨json, hge, hs⟩ := Option.bind_eq_some_iff.1 hv; split at h
  · cases h
  · rename_i kind' hn; cases h
    rw [hge, Json.eq_of_asString hs, WindowLayoutKind.settingsName_of_from hn]

theorem prepared_shell {json : B} (h : m.prepareShellUpdate text written expected json = .ok p) :
    Prepared text m p := by
  unfold prepareShellUpdate at h
  obtain ⟨_, -, h⟩ := bind_ok.1 h; split at h
  · cases h
  split at h
  · cases h
  split at h
  · cases h
  rename_i inc _; split at h
  · cases h
  split at h
  · cases h
  obtain ⟨revision, hn, h⟩ := bind_ok.1 h
  obtain ⟨preference, hf, h⟩ := bind_ok.1 h
  obtain ⟨allowed, hal, h⟩ := bind_ok.1 h
  obtain ⟨kind, hki, h⟩ := bind_ok.1 h
  obtain ⟨workspaces, hw, h⟩ := bind_ok.1 h
  obtain ⟨hve, hv, hk, hm, hto⟩ := get_writeNative_native
    ((((inc.remove "revision").remove "keyboard").remove "mouse").remove "touchpad") revision m.keyboard m.mouse
    m.touchpad
  refine prepared_of_prepare h hv hn fun environment hd hke => ?_
  obtain ⟨⟨env', kind', hcu⟩, -⟩ := hke
  have hge : ∀ key ≠ "applicationEnvironment", (environment.writeToDocument (m.shellDocument inc revision)).get key =
      (m.shellDocument inc revision).get key := fun key hne => JsonMap.get_insert_of_ne hne _ _
  have hr := sectionGet_congr (hge "appearance" (by decide))
  have hy := sectionGet_congr (hge "layout" (by decide))
  refine ⟨⟨environment, kind, ?_⟩, fun _ _ =>
    ⟨workspaces, (has_of_parseWorkspaceSettings hw).congr (hy _) (hy _)⟩⟩
  exact ⟨(hge _ (by decide)).trans hve, (hge _ (by decide)).trans hv, revised_pos hn,
    (hge _ (by decide)).trans hk, hcu.keyboardValid, (hge _ (by decide)).trans hm, hcu.mouseValid,
    (hge _ (by decide)).trans hto, hcu.touchpadValid, JsonMap.get_insert_self .., environmentValid hd,
    (hr _).trans (get_of_parseColorScheme hf), (hr _).trans (get_of_parseCursorSurfaces hal),
    (hy _).trans (get_of_parseWindowLayout hki)⟩

theorem prepared_request {request : SettingsManager.SettingsRequest B × Bool}
    (h : m.prepareRequest text request = .ok p) : Prepared text m p := by
  obtain ⟨request, written⟩ := request
  cases request with
  | shell expected json => exact prepared_shell h
  | keyboard expected keyboard c => exact prepared_keyboard h
  | touchpad expected touchpad => exact prepared_touchpad h
  | mouse expected mouse => exact prepared_mouse h

end Prepared

end Deniald.Settings
