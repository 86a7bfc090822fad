/-
Runs of the settings store: updates are prepared and committed in any order, other programs write the file, and what a
commit leaves in the file is loaded again.
-/
import Deniald.Settings.Survival

namespace Deniald.Settings

open Deniald.Lib
open SettingsManager

section Store

variable {B : Type} [DecidableEq B] {text : JsonText B}

/-! ## Commits -/

def committedManager (path : String) (p : PreparedSettingsUpdate B) : SettingsManager B where
  path := path
  document := p.document
  revision := p.revision
  keyboard := p.keyboard
  mouse := p.mouse
  touchpad := p.touchpad
  colorSchemePreference := p.colorSchemePreference
  allowClientCursorSurfaces := p.allowClientCursorSurfaces
  persistedBytes := some p.bytes

variable (text) in
theorem commit_cases (m : SettingsManager B) (file : Option B) (io : FileIo) (p : PreparedSettingsUpdate B) :
    m.commit text file io p = ((committedManager m.path p, some p.bytes), .ok ()) ∨
      ∃ error, m.commit text file io p = ((m, file), .error error) := by
  unfold commit; split
  · exact .inr ⟨_, rfl⟩
  split
  · exact .inr ⟨_, rfl⟩
  split
  · exact .inr ⟨_, rfl⟩
  split
  · exact .inr ⟨_, rfl⟩
  · exact .inl rfl

variable {m : SettingsManager B} {file : Option B} {p : PreparedSettingsUpdate B}
  {s : UpdateSession (SettingsManager B) (Option B) (PreparedSettingsUpdate B)}

variable {io : FileIo} {path : String}

theorem commit_ok (h : (m.commit text file io p).2 = .ok ()) :
    (m.commit text file io p).1 = (committedManager m.path p, some p.bytes) := by
  rcases commit_cases text m file io p with hm | ⟨error, hm⟩
  · rw [hm]
  · rw [hm] at h; cases h

theorem commit_error {error : SettingsError} (h : (m.commit text file io p).2 = .error error) :
    (m.commit text file io p).1 = (m, file) := by
  rcases commit_cases text m file io p with hm | ⟨e', hm⟩
  · rw [hm] at h; cases h
  · rw [hm]

variable (text) in
def settingsStore : UpdateStore (SettingsManager B) (Option B) (PreparedSettingsUpdate B)
    (SettingsManager.SettingsRequest B × Bool) FileIo SettingsError where
  prepare m request := m.prepareRequest text request
  commit m file io p := m.commit text file io p
  revision m := m.revision.toNat
  revisionOf p := p.revision.toNat
  prepare_revision h := (prepared_request h).revision
  commit_ok h := by rw [commit_ok h]; rfl
  commit_error h := commit_error h

/-! ## Loading -/

variable (text) in
def Reloads (m : SettingsManager B) (file : Option B) : Prop :=
  ∀ io : FileIo, io.readable = true → SettingsManager.loadPath text m.path file io = .ok (m, file)

def hasBothWorkspaces (document : JsonMap) : Bool :=
  hadField document "layout" "workspacesEnabled" && hadField document "layout" "workspaceCount"

variable (text) in
theorem persistCurrent_memory (m : SettingsManager B) (file : Option B) (io : FileIo) :
    ∃ persistedBytes, (m.persistCurrent text file io).1 = { m with persistedBytes := persistedBytes } := by
  unfold persistCurrent; split
  · exact ⟨_, rfl⟩
  split
  · exact ⟨_, rfl⟩
  split
  · exact ⟨_, rfl⟩
  · split <;> exact ⟨_, rfl⟩

theorem kept_persistCurrent (h : KeptManager m) (file : Option B) (io : FileIo) :
    KeptManager (m.persistCurrent text file io).1 := by
  obtain ⟨pb, hm⟩ := persistCurrent_memory text m file io
  rw [hm]; exact h

theorem kept_loadPath {l : SettingsManager B × Option B}
    (h : loadPath text path file io = .ok l) : KeptManager l.1 := by
  unfold loadPath at h
  obtain ⟨old, -, h⟩ := bind_ok.1 h
  cases old with
  | none =>
    cases h
    have hd : KeptManager (withDefaults (B := B) path none) := kept_default
    exact kept_persistCurrent hd file io
  | some bytes =>
    dsimp only at h; split at h
    · rename_i parsed hr
      have hk : KeptManager (ofParsed path parsed (some bytes)) := by
        unfold parseBytes at hr; split at hr
        · cases hr
        split at hr
        · cases hr
        · exact kept_of_parse hr
      split at h
      · cases h; exact kept_persistCurrent hk file io
      · cases h; exact hk
    · cases h; exact kept_default

omit [DecidableEq B] in
theorem kept_replaceInvalidKeyboard (h : KeptManager m) : KeptManager m.replaceInvalidKeyboardWithDefault := by
  obtain ⟨⟨environment, kind, hr⟩, hw⟩ := h
  have ho : ∀ key ≠ "keyboard", m.replaceInvalidKeyboardWithDefault.document.get key = m.document.get key :=
    fun key hne => JsonMap.get_insert_of_ne hne _ _
  have hv : KeyboardSettings.validate {} = .ok () := by decide
  refine ⟨⟨environment, kind, hr.of_native (fun key _ hne _ _ => ho key hne)
    ⟨(ho _ (by decide)).trans hr.revision, hr.revised⟩ ⟨JsonMap.get_insert_self .., hv⟩
    ⟨(ho _ (by decide)).trans hr.mouse, hr.mouseValid⟩
    ⟨(ho _ (by decide)).trans hr.touchpad, hr.touchpadValid⟩⟩, fun he hn => ?_⟩
  obtain ⟨hh, hs⟩ := had_congr (ho "layout" (by decide))
  rw [hh] at he hn; exact (hw he hn).imp hs

theorem kept_startup {compiles : KeyboardSettings → Bool} {st : SettingsManager B × Option B}
    (h : startup text path file io compiles = .ok st) : KeptManager st.1 := by
  unfold startup at h
  obtain ⟨l, hd, h⟩ := bind_ok.1 h; cases h
  have hk := kept_loadPath hd; dsimp only
  split
  · exact hk
  · exact kept_replaceInvalidKeyboard hk

theorem reloads_committed (hy : p.bytes = text.encode p.document) (hlen : text.length p.bytes ≤ maxSettingsBytes)
    (hk : Kept p.document p.revision p.keyboard p.mouse p.touchpad p.colorSchemePreference
      p.allowClientCursorSurfaces) :
    Reloads text (committedManager path p) (some p.bytes) ↔ hasBothWorkspaces p.document = true := by
  have hpa : parseBytes text p.bytes = parseDocument (.object p.document) := by
    unfold parseBytes
    rw [if_neg (Nat.not_lt.2 hlen), hy, text.decode_encode]
  have hlo : ∀ io : FileIo, io.readable = true → ∀ parsed, parseDocument (.object p.document) = .ok parsed →
      loadPath text path (some p.bytes) io =
        .ok (if parsed.migrated then (ofParsed path parsed (some p.bytes)).persistCurrent text
          (some p.bytes) io else (ofParsed path parsed (some p.bytes), some p.bytes)) := by
    intro io hd parsed hs
    have hre : readSettingsFile text io.readable (some p.bytes) = .ok (some p.bytes) := by
      unfold readSettingsFile
      rw [hd]; exact if_neg (Nat.not_lt.2 hlen)
    unfold loadPath
    refine bind_ok.2 ⟨some p.bytes, hre, ?_⟩; dsimp only
    rw [hpa, hs]; rfl
  obtain ⟨⟨environment, kind, hcu⟩, hw⟩ := hk
  constructor
  · intro hrl
    cases hbo : hasBothWorkspaces p.document with
    | true => rfl
    | false =>
      -- a document without them is loaded with them
      obtain ⟨parsed, hs⟩ := parse_of_current_missing hcu hbo
      obtain ⟨source, v, workspaces, -, hmi⟩ := migrates_of_parse hs
      have hla := (hlo {} rfl parsed hs).symm.trans (hrl {} rfl)
      have hdo : parsed.document = p.document := by
        have hr := congrArg Prod.fst (Except.ok.inj hla); split at hr
        · obtain ⟨pb, hm⟩ := persistCurrent_memory text
            (ofParsed path parsed (some p.bytes)) (some p.bytes) {}
          rw [hm] at hr; exact congrArg document hr
        · exact congrArg document hr
      have hh := hmi.hasWorkspaces; rw [hdo] at hh
      unfold hasBothWorkspaces at hbo
      rw [hadField_of_get hh.enabled, hadField_of_get hh.count] at hbo; cases hbo
  · intro hbo io hd
    obtain ⟨he, hn⟩ := Bool.and_eq_true_iff.1 hbo
    obtain ⟨workspaces, hh⟩ := hw he hn
    exact hlo io hd _ (parse_of_current hcu hh)

/-! ## Runs -/

variable (text) in
structure Storing (s : UpdateSession (SettingsManager B) (Option B) (PreparedSettingsUpdate B)) : Prop where
  memory : KeptManager s.memory
  prepared : ∀ entry ∈ s.prepared, entry.1.bytes = text.encode entry.1.document ∧
    text.length entry.1.bytes ≤ maxSettingsBytes ∧
    Kept entry.1.document entry.1.revision entry.1.keyboard entry.1.mouse entry.1.touchpad
      entry.1.colorSchemePreference entry.1.allowClientCursorSurfaces

theorem next_committed {e : UpdateEvent (Option B) (SettingsManager.SettingsRequest B × Bool) FileIo}
    {update : PreparedSettingsUpdate B} {base : SettingsManager B}
    (h : (settingsStore text).committed s e = some (update, base)) :
    ((settingsStore text).next s e).memory = committedManager s.memory.path update ∧
      ((settingsStore text).next s e).file = some update.bytes := by
  obtain ⟨index, io, rfl, hge, hok⟩ := (settingsStore text).committed_iff.1 h
  have hm := commit_ok hok; unfold UpdateStore.next
  dsimp only; rw [hge]
  exact ⟨congrArg Prod.fst hm, congrArg Prod.snd hm⟩

theorem storing_next (e : UpdateEvent (Option B) (SettingsManager.SettingsRequest B × Bool) FileIo)
    (h : Storing text s) : Storing text ((settingsStore text).next s e) := by
  constructor
  · cases hm : (settingsStore text).committed s e with
    | none =>
      rw [((settingsStore text).keeps_step s e hm).1]; exact h.memory
    | some f =>
      rw [(next_committed hm).1]
      exact (h.prepared _ ((settingsStore text).mem_committed hm)).2.2
  · intro ent he
    rcases (settingsStore text).mem_prepared_next he with ho | ⟨-, -, request, hpr⟩
    · exact h.prepared ent ho
    · have hr := prepared_request hpr
      exact ⟨hr.bytes, hr.length, hr.kept h.memory⟩

variable (text) in
def ReloadsExactly (s : UpdateSession (SettingsManager B) (Option B) (PreparedSettingsUpdate B))
    (e : UpdateEvent (Option B) (SettingsManager.SettingsRequest B × Bool) FileIo) : Prop :=
  ∀ update base, (settingsStore text).committed s e = some (update, base) →
    (Reloads text ((settingsStore text).next s e).memory ((settingsStore text).next s e).file ↔
      hasBothWorkspaces update.document = true)

theorem reloads_step (e : UpdateEvent (Option B) (SettingsManager.SettingsRequest B × Bool) FileIo)
    (h : Storing text s) : ReloadsExactly text s e := by
  intro update base hm
  obtain ⟨hr, hf⟩ := next_committed hm
  obtain ⟨hy, hlen, hk⟩ := h.prepared _ ((settingsStore text).mem_committed hm)
  rw [hr, hf]; exact reloads_committed hy hlen hk

/-- Parsing normalises once and for all, and keeps every setting if and only if those of workspaces are kept; what any
run of a store that was started commits is loaded again if it has both of them. -/
theorem settings_survive (text : JsonText B) :
    (∀ value p, parseDocument value = .ok p → Normalised p) ∧
    (∀ source p, parseDocument (.object source) = .ok p → (Preserves source p ↔ KeepsWorkspaces source)) ∧
    ∀ path file io compiles started es, SettingsManager.startup text path file io compiles = .ok started →
      Along (settingsStore text).next (ReloadsExactly text) (UpdateStore.start started.1 started.2) es := by
  refine ⟨fun _ _ => normalised_of_parse, fun _ _ => preserves_iff, fun path file io compiles started es h => ?_⟩
  have hstor : Storing text (UpdateStore.start started.1 started.2) := ⟨kept_startup h, fun _ h => (nomatch h)⟩
  have hall : Along (settingsStore text).next (fun _ _ => True) (UpdateStore.start started.1 started.2) es :=
    along_of_forall fun _ _ => trivial
  exact Along.of_invariant (I := Storing text) (fun _ e h _ => storing_next e h) (fun _ e h _ => reloads_step e h)
    hstor hall

end Store

def disabledWorkspaces : JsonMap :=
  [("version", .number (.unsigned 20)), ("layout", .object [("workspacesEnabled", .bool false)])]

theorem workspaces_enabled_again :
    ∃ p, parseDocument (.object disabledWorkspaces) = .ok p ∧ ¬Preserves disabledWorkspaces p := by
  have hpar : ∃ p, parseDocument (.object disabledWorkspaces) = .ok p := by
    have htouc : parseField TouchpadSettings.ofJson {} TouchpadSettings.validate
        (JsonMap.get disabledWorkspaces "touchpad") = .ok {} := by
      have hfiel : fieldOr TouchpadSettings.ofJson {} (JsonMap.get disabledWorkspaces "touchpad") = some {} := rfl
      unfold parseField; rw [hfiel]
      exact bind_ok.2 ⟨{}, rfl, bind_ok.2 ⟨(), validate_defaultTouchpad, rfl⟩⟩
    exact ⟨_, bind_ok.2 ⟨{}, rfl, bind_ok.2 ⟨{}, rfl, bind_ok.2 ⟨{}, htouc, rfl⟩⟩⟩⟩
  obtain ⟨p, hpar⟩ := hpar
  refine ⟨p, hpar, fun hpres => ?_⟩
  have henab := ((preserves_iff hpar).1 hpres).1 false rfl rfl; cases henab

end Deniald.Settings
