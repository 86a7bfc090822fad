/-
What a shell write does to the settings of others. A write has every field of the shell's: one that its client has not
changed since the last document it accepted goes back to the value in that document. So the field keeps the value that
is committed exactly when nothing has changed it since.
-/
import Deniald.Settings.Reload
import Deniald.Shell.Clients
import Deniald.Shell.Pending

namespace Deniald.Shell

open Deniald.Lib Deniald.Settings
open ShellSettingsController

/-! ## Clients -/

def Follows (received : Option ShellSettings) (changed : ShellField → Bool) (settings : ShellSettings) : Prop :=
  ∀ document ∈ received, ∀ field, changed field = false → settings.values field = document.values field

/-- A write was taken after a document was accepted. -/
def Grounds (write : StoreWrite) : Prop := write.received.isSome ∧ Follows write.received write.changed write.written

structure Grounded (s : SettingsSession) : Prop where
  state : Follows s.authoritative s.changed s.controller.state
  known : s.controller.hasAuthoritativeState = true → s.authoritative.isSome
  timer : s.controller.writeTimer = true → s.controller.hasAuthoritativeState = true
  writes : ∀ write ∈ s.writeQueue, Grounds write

theorem grounded_start (sett : ShellSettings) : Grounded (.start sett) where
  state := nofun
  known := nofun
  timer := nofun
  writes := nofun

section Session

variable {s : SettingsSession} (h : Grounded s)
include h

theorem Grounded.become {c : ShellSettingsController}
    (hk : c.hasAuthoritativeState = s.controller.hasAuthoritativeState)
    (hm : c.writeTimer = true → c.hasAuthoritativeState = true) : Grounded (s.become c) := by
  refine ⟨?_, fun hau => h.known (hk ▸ hau), hm, h.writes⟩
  intro document hd fld hf
  simp only [SettingsSession.become, Bool.or_eq_false_iff, decide_eq_false_iff_not, not_not] at hf
  exact hf.2.trans (h.state document hd fld hf.1)

theorem Grounded.update {c : ShellSettingsController}
    (hk : c.hasAuthoritativeState = s.controller.hasAuthoritativeState)
    (hm : c.writeTimer = s.controller.writeTimer) (next : ShellSettings) : Grounded (s.become (c.update next)) := by
  unfold ShellSettingsController.update; split
  · exact h.become hk fun hr => hk.trans (h.timer (hm ▸ hr))
  refine h.become hk fun hr => ?_
  simp only [Bool.or_eq_true] at hr
  exact hr.elim id fun hr => hk.trans (h.timer (hm ▸ hr))

theorem Grounded.flush (hau : s.controller.hasAuthoritativeState = true) (safe : Option SafeWrite) :
    Grounded (s.flush safe) := by
  refine ⟨h.state, h.known, nofun, ?_⟩
  simp only [SettingsSession.flush, List.mem_append, List.mem_singleton]
  rintro write (hw | rfl)
  · exact h.writes write hw
  · exact ⟨h.known hau, h.state⟩

theorem Grounded.writeSucceeded : Grounded s.writeSucceeded := by
  unfold SettingsSession.writeSucceeded; split
  · exact h
  rename_i write writes hqu
  refine ⟨h.state, h.known, fun hr => ?_, fun later hla => h.writes later ?_⟩
  · simp only [committed, Bool.and_eq_true] at hr; exact h.timer hr.1
  · rw [hqu]; exact List.mem_cons_of_mem write hla

theorem Grounded.writeFailed : Grounded s.writeFailed := by
  unfold SettingsSession.writeFailed; split
  · exact h
  rename_i write writes hqu
  refine ⟨h.state, h.known, h.timer, fun later hla => h.writes later ?_⟩
  rw [hqu]; exact List.mem_cons_of_mem write hla

theorem Grounded.rollbackRead (index : Nat) (r : Option ShellDocument) : Grounded (s.rollbackRead index r) := by
  unfold SettingsSession.rollbackRead; split
  · exact h
  split
  · exact ⟨h.state, h.known, h.timer, h.writes⟩
  dsimp only; split
  · refine ⟨?_, fun _ => rfl, fun _ => rfl, h.writes⟩
    rintro document hd fld -
    cases hd; rfl
  · exact ⟨h.state, h.known, h.timer, h.writes⟩

theorem Grounded.nativeDocument (doc : ShellDocument) : Grounded (s.nativeDocument doc) := by
  unfold SettingsSession.nativeDocument; split
  · rename_i c hac
    have hau : c.hasAuthoritativeState = true := by
      unfold acceptAuthoritativeState at hac; dsimp only at hac
      split at hac
      · cases hac; rfl
      · obtain ⟨doc, -, rfl⟩ := Option.map_eq_some_iff.1 hac; rfl
    refine ⟨?_, fun _ => rfl, fun _ => hau, h.writes⟩
    intro accepted hd fld hf; cases hd
    simp only [Bool.or_eq_false_iff, decide_eq_false_iff_not, not_not] at hf; exact hf.2
  · exact h

omit h in
theorem grounded_next (e : SettingsEvent) (h : Grounded s) : Grounded (settingsNext s e) := by
  cases e with
  | mutate next => exact h.update rfl rfl next
  | debounceExpired =>
    simp only [settingsNext]; split
    · rename_i hr; exact h.flush (h.timer hr) _
    · exact h
  | flush =>
    simp only [settingsNext]; split
    · rename_i hau; exact h.flush hau none
    · exact h
  | writeSucceeded => exact h.writeSucceeded
  | writeFailed => exact h.writeFailed
  | rollbackRead index r => exact h.rollbackRead index r
  | nativeDocument document => exact h.nativeDocument document
  | retryFailedWrite =>
    simp only [settingsNext, retryFailedWrite]; split
    · exact h.update (c := { s.controller with rejectedWrite := none }) rfl rfl _
    · exact h.become rfl h.timer
  | dismissWriteFailure => exact h.become rfl h.timer

end Session

/-! ## What is committed -/

theorem mapM_map_eq {ε α β : Type} {f : α → Except ε β} {g : β → α} (hr : ∀ b b', f (g b) = .ok b' → b' = b)
    {l l' : List β} (h : (l.map g).mapM f = .ok l') : l' = l := by
  have hf := mapM_ok h; rw [List.forall₂_map_left_iff] at hf
  have heq : List.Forall₂ Eq l l' := hf.imp fun b b' hb => (hr b b' hb).symm
  rw [List.forall₂_eq_eq_eq] at heq; exact heq.symm

theorem parseOverride_eq (override read : String × Option String)
    (h : parseOverride (overrideJson override) = .ok read) : read = override := by
  obtain ⟨name, value⟩ := override
  obtain ⟨_, -, h⟩ := bind_ok.1 h
  cases value with
  | none => exact (Except.ok.inj h).symm
  | some value =>
    obtain ⟨_, -, h⟩ := bind_ok.1 h; exact (Except.ok.inj h).symm

theorem parseEnvironmentOverrides_eq {overrides read : Overrides} {sc : String}
    (h : parseEnvironmentOverrides (overridesJson overrides) sc = .ok read) : read = overrides := by
  have h : (if 256 < (overrides.map overrideJson).length then Except.error (.environmentCount sc)
    else (overrides.map overrideJson).mapM parseOverride) = .ok read := h
  split at h
  · cases h
  · exact mapM_map_eq parseOverride_eq h

/-- An environment that is read from what `toJson` wrote is the one that was written. -/
theorem environment_eq_of_ofJson {scopes environment : ApplicationEnvironment}
    (h : ApplicationEnvironment.ofJson scopes.toJson = .ok environment) : environment = scopes := by
  have h : (parseEnvironmentOverrides (overridesJson scopes.defaultOverrides) "default" >>= fun dov =>
    if 256 < (applicationsJson scopes.applicationOverrides).length then Except.error .applicationsCount
    else (applicationsJson scopes.applicationOverrides).mapM parseApplication >>= fun ao =>
      pure (⟨dov, ao⟩ : ApplicationEnvironment)) = .ok environment := h
  obtain ⟨dfs, hd, h⟩ := bind_ok.1 h; split at h
  · cases h
  obtain ⟨applications, hap, h⟩ := bind_ok.1 h; cases h
  rw [parseEnvironmentOverrides_eq hd, mapM_map_eq (fun e read hr => ?_) hap]
  obtain ⟨_, -, hr⟩ := bind_ok.1 hr
  obtain ⟨os, ho, hr⟩ := bind_ok.1 hr; cases hr
  rw [parseEnvironmentOverrides_eq ho]

theorem get_remove_of_ne {key r : String} (h : key ≠ r) (ents : JsonMap) : (ents.remove r).get key = ents.get key := by
  unfold JsonMap.remove JsonMap.get; rw [List.find?_filter]
  congr 2
  funext entry
  grind

theorem sectionKey_ne (fld : ShellField) :
    fld.sectionKey ∉ ["version", "revision", "keyboard", "mouse", "touchpad"] := by
  revert fld
  decide +kernel

theorem get_shellDocument {B : Type} (m : SettingsManager B) (inc : JsonMap) (rev : UInt64)
    (fld : ShellField) : (m.shellDocument inc rev).get fld.sectionKey = inc.get fld.sectionKey := by
  have hne := sectionKey_ne fld
  simp only [List.mem_cons, List.not_mem_nil, or_false, not_or] at hne
  obtain ⟨hv, hr, hk, hm, hto⟩ := hne; unfold SettingsManager.shellDocument
  rw [get_writeNative _ _ _ _ _ hv hr hk hm hto, get_remove_of_ne hto,
    get_remove_of_ne hm, get_remove_of_ne hk, get_remove_of_ne hr]

theorem sectionKey_ne_environment {fld : ShellField} (h : fld ≠ .applicationEnvironment) :
    fld.sectionKey ≠ "applicationEnvironment" := by
  revert h fld
  decide +kernel

theorem get_encode_environment (sett : ShellSettings) (v : UInt64) :
    ∃ scopes, sett.values .applicationEnvironment = some (.environment scopes) ∧
      (sett.encode v).get "applicationEnvironment" = some scopes.toJson := by
  have hy : FieldKind.scopes.typed (sett.values .applicationEnvironment) = true :=
    sett.typed .applicationEnvironment
  cases hv : sett.values .applicationEnvironment with
  | none =>
    rw [hv] at hy; cases hy
  | some value =>
    rw [hv] at hy
    cases value with
    | environment scopes =>
      refine ⟨scopes, rfl, ?_⟩
      have hge : (sett.encode v).get "applicationEnvironment" =
          some (((sett.values .applicationEnvironment).map SettingValue.toJson).getD (.object [])) := rfl
      rw [hge, hv]; rfl
    | bool | integer | number | string | strings => cases hy

theorem prepared_values {B : Type} {text : JsonText B} {m : SettingsManager B} {w : Bool}
    {rev v : UInt64} {sett : ShellSettings} {p : PreparedSettingsUpdate B}
    (h : m.prepareShellUpdate text w rev (text.encode (sett.encode v)) = .ok p) :
    shellValues p.document = sett.values ∧ p.keyboard = m.keyboard ∧ p.mouse = m.mouse ∧ p.touchpad = m.touchpad := by
  unfold SettingsManager.prepareShellUpdate at h
  obtain ⟨_, -, h⟩ := bind_ok.1 h; rw [text.decode_encode] at h
  split at h
  · cases h
  simp only [Json.asObject] at h; split at h
  · cases h
  split at h
  · cases h
  obtain ⟨revision, -, h⟩ := bind_ok.1 h
  obtain ⟨pr, -, h⟩ := bind_ok.1 h
  obtain ⟨a, -, h⟩ := bind_ok.1 h
  obtain ⟨kind, -, h⟩ := bind_ok.1 h
  obtain ⟨ws, -, h⟩ := bind_ok.1 h
  have hre : (m.shellDocument (sett.encode v) revision).get "revision" = some (jsonU64 revision) :=
    (get_writeNative_native _ revision m.keyboard m.mouse m.touchpad).2.1
  obtain ⟨environment, hr, rfl, -⟩ := prepare_ok h hre
  refine ⟨?_, rfl, rfl, rfl⟩
  funext field
  by_cases hf : field = .applicationEnvironment
  · subst hf
    obtain ⟨scopes, hva, hge⟩ := get_encode_environment sett v
    unfold environmentFromDocument at hr
    have hd := get_shellDocument m (sett.encode v) revision .applicationEnvironment
    have hk : ShellField.applicationEnvironment.sectionKey = "applicationEnvironment" := rfl
    rw [hk, hge] at hd; rw [hd] at hr
    have hba : (environment.writeToDocument (m.shellDocument (sett.encode v) revision)).get
        "applicationEnvironment" = some environment.toJson := JsonMap.get_insert_self ..
    have hv := (ApplicationEnvironment.valid_of_ofJson hr).ofJson_toJson; unfold shellValues
    rw [hk, hba, Option.bind_some, hva, ← environment_eq_of_ofJson hr]
    show ((ApplicationEnvironment.ofJson environment.toJson).toOption.map SettingValue.environment) = _
    rw [hv]; rfl
  · rw [← shellValues_encode sett v hf]; unfold shellValues
    have hge : (environment.writeToDocument (m.shellDocument (sett.encode v) revision)).get
        field.sectionKey = _ := JsonMap.get_insert_of_ne (sectionKey_ne_environment hf) _ _
    rw [hge, get_shellDocument]

theorem prepare_native {B : Type} {text : JsonText B} {m : SettingsManager B} {w : Bool}
    {doc : JsonMap} {keyboard : KeyboardSettings} {mouse : MouseSettings} {t : TouchpadSettings}
    {pr : DesktopColorSchemePreference} {a : Bool} {p : PreparedSettingsUpdate B}
    (h : m.prepare text w doc keyboard mouse t pr a = .ok p) :
    (⟨p.keyboard, p.mouse, p.touchpad⟩ : NativeSettings) = ⟨keyboard, mouse, t⟩ := by
  unfold SettingsManager.prepare at h
  obtain ⟨environment, -, h⟩ := bind_ok.1 h; dsimp only at h
  split at h
  · cases h
  obtain ⟨bytes, -, h⟩ := bind_ok.1 h; split at h
  · cases h
  · cases h; rfl

def nativeOf {B : Type} (m : SettingsManager B) : NativeSettings := ⟨m.keyboard, m.mouse, m.touchpad⟩

theorem prepared_native {B : Type} {text : JsonText B} {m : SettingsManager B} {w : Bool}
    {request : SettingsManager.SettingsRequest B} {p : PreparedSettingsUpdate B}
    (h : m.prepareRequest text (request, w) = .ok p) :
    (⟨p.keyboard, p.mouse, p.touchpad⟩ : NativeSettings) = (nativeOf m).apply request := by
  cases request with
  | shell rev json =>
    have h : m.prepareShellUpdate text w rev json = .ok p := h
    unfold SettingsManager.prepareShellUpdate at h
    obtain ⟨_, -, h⟩ := bind_ok.1 h; split at h
    · cases h
    split at h
    · cases h
    split at h
    · cases h
    split at h
    · cases h
    split at h
    · cases h
    obtain ⟨revision, -, h⟩ := bind_ok.1 h
    obtain ⟨pr, -, h⟩ := bind_ok.1 h
    obtain ⟨a, -, h⟩ := bind_ok.1 h
    obtain ⟨kind, -, h⟩ := bind_ok.1 h
    obtain ⟨ws, -, h⟩ := bind_ok.1 h; exact prepare_native h
  | keyboard rev keyboard c =>
    obtain ⟨_, -, h⟩ := bind_ok.1 h
    obtain ⟨_, -, h⟩ := bind_ok.1 h
    obtain ⟨document, -, h⟩ := bind_ok.1 h; exact prepare_native h
  | touchpad rev touchpad =>
    obtain ⟨_, -, h⟩ := bind_ok.1 h
    obtain ⟨_, -, h⟩ := bind_ok.1 h
    obtain ⟨document, -, h⟩ := bind_ok.1 h; exact prepare_native h
  | mouse rev mouse =>
    obtain ⟨_, -, h⟩ := bind_ok.1 h
    obtain ⟨_, -, h⟩ := bind_ok.1 h
    obtain ⟨document, -, h⟩ := bind_ok.1 h; exact prepare_native h

/-! ## Runs -/

section System

variable {B : Type} [DecidableEq B] (text : JsonText B)

def committedWrite (s : SettingsSystem B) : SystemEvent B → Option (WriteRequest B × SettingsManager B)
  | .handle index written io => s.requests[index]?.bind fun request =>
    (s.commitRequest text (.shell request.expectedRevision request.json) written io).map fun store => (request, store.1)
  | _ => none

/-- A field that the client has not changed since the document it accepted last has the value that was committed
before. -/
def WriteKeeps (s : SettingsSystem B) (e : SystemEvent B) : Prop :=
  ∀ committed ∈ committedWrite text s e, ∀ field, committed.1.write.changed field = false →
    shellValues committed.2.document field = (ShellSettings.fromJson (shellValues s.manager.document)).values field

/-- What is committed has in such a field still the value of the document that the client accepted. -/
def UpToDate (s : SettingsSystem B) (e : SystemEvent B) : Prop :=
  ∀ committed ∈ committedWrite text s e, ∀ document ∈ committed.1.write.received, ∀ field,
    committed.1.write.changed field = false →
      (ShellSettings.fromJson (shellValues s.manager.document)).values field = document.values field

instance decidableWriteKeeps (s : SettingsSystem B) (e : SystemEvent B) : Decidable (WriteKeeps text s e) :=
  inferInstanceAs (Decidable (∀ committed ∈ committedWrite text s e, ∀ field,
    committed.1.write.changed field = false → shellValues committed.2.document field =
      (ShellSettings.fromJson (shellValues s.manager.document)).values field))

/-- The native sections are those that were committed last. -/
def NativeSections (s : SettingsSystem B) : Prop :=
  s.manager.document.get "keyboard" = some s.native.keyboard.toJson ∧
    s.manager.document.get "mouse" = some s.native.mouse.toJson ∧
    s.manager.document.get "touchpad" = some s.native.touchpad.toJson

structure Sound (s : SettingsSystem B) : Prop where
  clients : ∀ i, Grounded (s.clients i).session
  requests : ∀ request ∈ s.requests, Grounds request.write ∧
    ∃ version, request.json = text.encode (request.write.written.encode version)
  manager : KeptManager s.manager
  native : nativeOf s.manager = s.native

variable {text}

theorem commitRequest_some {s : SettingsSystem B} {request : SettingsManager.SettingsRequest B} {w : Bool}
    {io : FileIo} {store : SettingsManager B × Option B} (h : s.commitRequest text request w io = some store) :
    ∃ p, s.manager.prepareRequest text (request, w) = .ok p ∧ store.1 = committedManager s.manager.path p := by
  unfold SettingsSystem.commitRequest at h; split at h
  · cases h
  rename_i p hpr; dsimp only at h; split at h
  · rename_i hok; cases h
    refine ⟨p, hpr, ?_⟩
    cases hr : (s.manager.commit text s.file io p).2 with
    | ok => rw [commit_ok hr]
    | error =>
      rw [hr] at hok; cases hok
  · cases h

section Steps

variable {s : SettingsSystem B} (h : Sound text s)
include h

omit [DecidableEq B] in
theorem Sound.setClient (i : Nat) {cl : SettingsClient} (hn : Grounded cl.session) : Sound text (s.setClient i cl) := by
  refine ⟨fun j => ?_, h.requests, h.manager, h.native⟩; unfold SettingsSystem.setClient
  by_cases hj : j = i
  · subst hj
    simpa using hn
  · simpa [Function.update_of_ne hj] using h.clients j

omit [DecidableEq B] in
theorem Sound.send (i : Nat) {cl : SettingsClient} (hn : Grounded cl.session) (r : Bool) :
    Sound text (s.send text i cl r) := by
  unfold SettingsSystem.send; split
  · exact h.setClient i hn
  rename_i write writes hqu
  have hs : Sound text (s.setClient i { cl with phase := .writing r s.nextRequest }) :=
    h.setClient i hn
  refine ⟨hs.clients, ?_, hs.manager, hs.native⟩
  simp only [List.mem_append, List.mem_singleton]
  rintro request (hr | rfl)
  · exact h.requests request hr
  · exact ⟨hn.writes write (by rw [hqu]; exact List.mem_cons_self ..), _, rfl⟩

theorem Sound.publish {request : SettingsManager.SettingsRequest B} {w : Bool} {io : FileIo}
    {store : SettingsManager B × Option B} (hm : s.commitRequest text request w io = some store) :
    KeptManager store.1 ∧ nativeOf store.1 = s.native.apply request := by
  obtain ⟨p, hr, hs⟩ := commitRequest_some hm; rw [hs]
  refine ⟨(prepared_request hr).kept h.manager, ?_⟩
  rw [← h.native]; exact prepared_native hr

omit [DecidableEq B] in
theorem Sound.readDocument (i : Nat) (doc : Option SettingsDocument) : Sound text (s.readDocument text i doc) := by
  unfold SettingsSystem.readDocument; dsimp only
  split
  · rename_i r _
    cases hr : doc.bind (s.clients i).rememberDocument with
    | none => exact h.setClient i (h.clients i).writeFailed
    | some client =>
      refine h.send i ?_ r
      obtain ⟨doc, -, hn⟩ := Option.bind_eq_some_iff.1 hr
      unfold SettingsClient.rememberDocument at hn; split at hn
      · cases hn
      · cases hn; exact h.clients i
  · exact h

theorem Sound.handle (index : Nat) (w : Bool) (io : FileIo) : Sound text (s.handle text index w io) := by
  have hr : ∀ request ∈ s.requests.eraseIdx index, Grounds request.write ∧
      ∃ version, request.json = text.encode (request.write.written.encode version) := fun request hre =>
    h.requests request (List.mem_of_mem_eraseIdx hre)
  unfold SettingsSystem.handle; split
  · exact h
  dsimp only; split
  · rename_i store hm
    obtain ⟨hn, hna⟩ := h.publish hm; exact ⟨h.clients, hr, hn, hna⟩
  · exact ⟨h.clients, hr, h.manager, h.native⟩

omit [DecidableEq B] in
theorem Sound.answer (i : Nat) : Sound text (s.answer i) := by
  unfold SettingsSystem.answer; dsimp only
  split
  · split
    · exact h
    · exact h.setClient i (h.clients i).writeSucceeded
    refine h.setClient i ?_; split
    · exact (h.clients i).writeFailed
    · exact h.clients i
  · exact h

theorem Sound.nativeUpdate (request : SettingsManager.SettingsRequest B) (w : Bool) (io : FileIo) :
    Sound text (s.nativeUpdate text request w io) := by
  unfold SettingsSystem.nativeUpdate; split
  · exact h
  split
  · rename_i store hm
    obtain ⟨hn, hna⟩ := h.publish hm; exact ⟨h.clients, h.requests, hn, hna⟩
  · exact h

omit h in
theorem sound_next (e : SystemEvent B) (h : Sound text s) : Sound text (systemNext text s e) := by
  cases e with
  | user i event =>
    simp only [systemNext]; split
    · exact h.setClient i (grounded_next event (h.clients i))
    · exact h
  | receive i document =>
    simp only [systemNext]; split
    · refine h.setClient i ?_
      unfold SettingsClient.receive SettingsClient.rememberDocument
      split <;> rename_i hn
      · split at hn
        · cases hn
        · cases hn; exact (h.clients i).nativeDocument _
      · exact h.clients i
    · exact h
  | rollbackRead i index document =>
    refine h.setClient i ?_; unfold SettingsClient.rollbackRead
    split
    · rename_i client hn
      obtain ⟨document, -, hn⟩ := Option.bind_eq_some_iff.1 hn
      unfold SettingsClient.rememberDocument at hn; split at hn
      · cases hn
      · cases hn; exact (h.clients i).rollbackRead index _
    · exact (h.clients i).rollbackRead index none
  | startWrite i =>
    simp only [systemNext, SettingsSystem.startWrite]; split
    · split
      · exact h.setClient i (h.clients i)
      · exact h.send i (h.clients i) false
    · exact h
  | readDocument i document => exact h.readDocument i _
  | handle index w io => exact h.handle index w io
  | answer i => exact h.answer i
  | timeout i =>
    simp only [systemNext, SettingsSystem.timeout]; split
    · exact h
    all_goals exact h.setClient i (h.clients i).writeFailed
  | native request w io => exact h.nativeUpdate request w io

/-- What is committed has the values that the client wrote. -/
theorem writeKeeps_iff (e : SystemEvent B) : WriteKeeps text s e ↔ UpToDate text s e := by
  refine forall₂_congr fun committed hm => ?_
  cases e with
  | handle index w io =>
    obtain ⟨request, hre, hm⟩ := Option.bind_eq_some_iff.1 (Option.mem_def.1 hm)
    obtain ⟨store, hco, rfl⟩ := Option.map_eq_some_iff.1 hm
    obtain ⟨⟨hrec, hf⟩, version, hj⟩ := h.requests request (List.mem_of_getElem? hre)
    obtain ⟨p, hr, hs⟩ := commitRequest_some hco
    have hr : s.manager.prepareShellUpdate text w request.expectedRevision request.json = .ok p :=
      hr
    rw [hj] at hr
    have hv : shellValues store.1.document = request.write.written.values := by
      rw [hs]; exact (prepared_values hr).1
    obtain ⟨document, hd⟩ := Option.isSome_iff_exists.1 hrec
    constructor
    · intro hk doc' hd' fld hh
      rw [← hk fld hh, hv]; exact hf doc' hd' fld hh
    · intro hcu fld hh
      rw [hcu document hd fld hh, hv]
      exact hf document hd fld hh
  | user | receive | rollbackRead | startWrite | readDocument | answer | timeout | native => cases hm

end Steps

omit [DecidableEq B] in
theorem Sound.sections {s : SettingsSystem B} (h : Sound text s) : NativeSections s := by
  obtain ⟨⟨environment, kind, hr⟩, -⟩ := h.manager; rw [NativeSections, ← h.native]
  exact ⟨hr.keyboard, hr.mouse, hr.touchpad⟩

/-- In every run of clients with the compositor that was started, a write that is committed keeps the fields its client
has not changed exactly if nothing else was committed of them since the document that the client accepted; and the
native sections are those that were committed last. -/
theorem shell_writes_keep_iff (text : JsonText B) {path : String} {file : Option B} {io : FileIo}
    {compiles : KeyboardSettings → Bool} {store : SettingsManager B × Option B}
    (h : SettingsManager.startup text path file io compiles = .ok store) (initialSettings : Nat → ShellSettings)
    (run : List (SystemEvent B)) :
    Along (systemNext text) (fun s e => WriteKeeps text s e ↔ UpToDate text s e)
        (SettingsSystem.start store initialSettings) run ∧
      NativeSections (exec (systemNext text) (SettingsSystem.start store initialSettings) run) := by
  have hstar : Sound text (SettingsSystem.start store initialSettings) :=
    ⟨fun i => grounded_start (initialSettings i), nofun, kept_startup h, rfl⟩
  have hrun : Along (systemNext text) (fun _ _ => True) (SettingsSystem.start store initialSettings) run :=
    along_of_forall fun _ _ => trivial
  refine ⟨Along.of_invariant (I := Sound text) (fun _ e h _ => sound_next e h)
    (fun _ e h _ => writeKeeps_iff h e) hstar
    hrun, ?_⟩
  exact (exec_invariant (I := Sound text) (fun _ e h => sound_next e h) run hstar).sections

end System

/-! ## Two clients -/

def valueText : JsonText Json := ⟨some, .object, fun _ => 0, fun _ => rfl⟩

def startedStore : SettingsManager Json × Option Json :=
  (SettingsManager.withDefaults "settings.json" none).persistCurrent valueText none {}

theorem startup_startedStore :
    SettingsManager.startup valueText "settings.json" none {} (fun _ => true) = .ok startedStore := rfl

def firstWrite : List (SystemEvent Json) :=
  [.receive 0 0, .receive 1 0, .user 1 (.mutate (.fromJson (fieldDocument .panelTravel (.number 16)))),
    .user 1 .debounceExpired, .startWrite 1, .handle 0 true {}, .answer 1]

def dimmed (panelTravel : ℚ) : ShellDocument := fun field =>
  if field = .panelTravel then some (.number panelTravel) else fieldDocument .dimAmount (.number (1 / 2)) field

/-- The other one changes another field, beside the value that it has of the first, and writes it; a write that is
refused is sent again. -/
def secondWrite (panelTravel : ℚ) : List (SystemEvent Json) :=
  [.user 0 (.mutate (.fromJson (dimmed panelTravel))), .user 0 .debounceExpired, .startWrite 0, .handle 0 true {},
    .answer 0, .readDocument 0 (some 1), .handle 0 true {}, .answer 0]

/-- The other one has got the first one's document before. -/
theorem first_write_keeps :
    Along (systemNext valueText) (fun s e => WriteKeeps valueText s e ↔ UpToDate valueText s e)
        (SettingsSystem.start startedStore fun _ => defaultSettings) (firstWrite ++ [.receive 0 1] ++ secondWrite 16) ∧
      NativeSections (exec (systemNext valueText) (SettingsSystem.start startedStore fun _ => defaultSettings)
        (firstWrite ++ [.receive 0 1] ++ secondWrite 16)) :=
  shell_writes_keep_iff valueText startup_startedStore _ _

/-- What the first client has committed is undone. -/
theorem retried_write_undoes : ¬Along (systemNext valueText) (WriteKeeps valueText)
    (SettingsSystem.start startedStore fun _ => defaultSettings) (firstWrite ++ secondWrite 32) := by
  decide +kernel

end Deniald.Shell
