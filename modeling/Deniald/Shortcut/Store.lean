/-
The shortcut store (native_shortcut.rs, `ShortcutManager`): a file in memory and on disk, with updates that are prepared
against a revision and committed later, as those of the settings are. A commit compares what is on disk with what was
last written, not the revision that its update was prepared from.
-/
import Deniald.Settings.Reload
import Deniald.Shortcut.Engine
import Deniald.Shortcut.Migration

namespace Deniald.Shortcut

open Deniald.Lib

/-! ## Model -/

/-- The definitions of `default_shortcut_file`, but for those that versions added. -/
def defaultDefinitions : List (String × ShortcutAction) :=
  [ ("Ctrl+Alt+Backspace", .shutdown), ("Super", .openApplications), ("Super+A", .openOverview),
    ("ThreeFingerSwipeUp", .openOverview), ("Super+Shift+Up", .toggleVerticalMaximize),
    ("Super+Tab", .windowSwitcher), ("Super+V", .openClipboard), ("Super+Shift+S", .captureRegion),
    ("Super+M", .minimizeWindow), ("Super+Shift+M", .minimizeAllWindows), ("Super+W", .toggleMaximize),
    ("Super+F", .toggleFullscreen), ("Super+Escape", .releasePointer), ("Super+K", .closeWindow),
    ("Super+L", .lockScreen), ("VolumeUp", .volumeUp), ("VolumeDown", .volumeDown), ("VolumeMute", .volumeMute),
    ("BrightnessUp", .brightnessUp), ("BrightnessDown", .brightnessDown), ("Super+VolumeUp", .brightnessUp),
    ("Super+VolumeDown", .brightnessDown), ("Super+Space", .nextKeyboardLayout),
    ("Super+Shift+Space", .previousKeyboardLayout) ]

def defaultShortcutFile : ShortcutFile where
  version := shortcutSchemaVersion
  revision := 1
  shortcuts := (defaultDefinitions ++ shortcutV2Additions ++ shortcutV4Additions ++ shortcutV5Additions ++
    shortcutV6Additions).map fun (shortcut, action) => ⟨shortcut, .denialAction action⟩

/-- `MAX_SHORTCUT_FILE_BYTES`. -/
def maxShortcutFileBytes : Nat := 128 * 1024

structure ShortcutText (B : Type) where
  render : ShortcutFile → B
  length : B → Nat

inductive UpdateError where
  | path
  | io
  | file (error : ShortcutError)
  | tooLarge
  | revisionExhausted
  | revision (expected actual : UInt64)
  | changed
  | missing (canonical : String)

structure ShortcutManager (B : Type) where
  path : String
  file : ShortcutFile
  persistedBytes : B

structure PreparedShortcutUpdate (B : Type) where
  target : String
  file : ShortcutFile
  bytes : B
  engine : ShortcutEngine

def canonicalBinding (binding : ShortcutBinding) : Except ShortcutError ShortcutBinding := do
  binding.target.validate
  let trigger ← parseBinding binding
  return { binding with shortcut := trigger.canonical }

section Files

variable {B : Type} (text : ShortcutText B)

def readShortcutBytes (readable : Bool) (disk : Option B) : Except UpdateError B :=
  match disk with
  | none => .error .io
  | some bytes =>
    if !readable then .error .io
    else if maxShortcutFileBytes < text.length bytes then .error .tooLarge
    else .ok bytes

def renderShortcutFile (file : ShortcutFile) : Except UpdateError B :=
  let bytes := text.render file
  if maxShortcutFileBytes < text.length bytes then .error .tooLarge else .ok bytes

end Files

inductive ShortcutRequest where
  | add (expectedRevision : UInt64) (binding : ShortcutBinding)
  | update (expectedRevision : UInt64) (existingShortcut : String) (binding : ShortcutBinding)
  | remove (expectedRevision : UInt64) (shortcut : String)
  | restore (expectedRevision : UInt64)

namespace ShortcutManager

variable {B : Type} (text : ShortcutText B)

def checkRevision (m : ShortcutManager B) (expected : UInt64) : Except UpdateError Unit :=
  if expected ≠ m.file.revision then .error (.revision expected m.file.revision) else .ok ()

def nextRevision (m : ShortcutManager B) : Except UpdateError UInt64 :=
  if m.file.revision.toNat + 1 < 2 ^ 64 then .ok (m.file.revision + 1) else .error .revisionExhausted

def prepare (m : ShortcutManager B) (written : Bool) (file : ShortcutFile) :
    Except UpdateError (PreparedShortcutUpdate B) := do
  let revision ← m.nextRevision
  let (file, _) ← (normalizeAndCompileShortcuts { file with version := shortcutSchemaVersion, revision }).mapError .file
  let bytes ← renderShortcutFile text file
  if !written then .error .io
  else do
    let compiled ← (compileShortcuts file).mapError .file
    return { target := m.path, file, bytes, engine := .fromBindings compiled }

/-- `position`, of the binding with a canonical expression. -/
def position (m : ShortcutManager B) (canonical : String) : Except UpdateError Nat :=
  match m.file.shortcuts.findIdx? fun configured => configured.shortcut == canonical with
  | none => .error (.missing canonical)
  | some index => .ok index

def canonical (shortcut : String) : Except UpdateError String := do
  let trigger ← (parseShortcut shortcut).mapError fun error => .file (.expression error)
  return trigger.canonical

def prepareAdd (m : ShortcutManager B) (written : Bool) (expectedRevision : UInt64) (binding : ShortcutBinding) :
    Except UpdateError (PreparedShortcutUpdate B) := do
  m.checkRevision expectedRevision
  let binding ← (canonicalBinding binding).mapError .file
  m.prepare text written { m.file with shortcuts := m.file.shortcuts ++ [binding] }

def prepareUpdate (m : ShortcutManager B) (written : Bool) (expectedRevision : UInt64) (existingShortcut : String)
    (binding : ShortcutBinding) : Except UpdateError (PreparedShortcutUpdate B) := do
  m.checkRevision expectedRevision
  let existing ← canonical existingShortcut
  let binding ← (canonicalBinding binding).mapError .file
  let index ← m.position existing
  m.prepare text written { m.file with shortcuts := m.file.shortcuts.set index binding }

def prepareRemove (m : ShortcutManager B) (written : Bool) (expectedRevision : UInt64) (shortcut : String) :
    Except UpdateError (PreparedShortcutUpdate B) := do
  m.checkRevision expectedRevision
  let canonical ← canonical shortcut
  let index ← m.position canonical
  m.prepare text written { m.file with shortcuts := m.file.shortcuts.eraseIdx index }

def prepareRestore (m : ShortcutManager B) (written : Bool) (expectedRevision : UInt64) :
    Except UpdateError (PreparedShortcutUpdate B) := do
  m.checkRevision expectedRevision
  m.prepare text written defaultShortcutFile

/-- Any of the requests, with whether its temporary file can be written. -/
def prepareRequest (m : ShortcutManager B) (request : ShortcutRequest × Bool) :
    Except UpdateError (PreparedShortcutUpdate B) :=
  match request.1 with
  | .add expectedRevision binding => m.prepareAdd text request.2 expectedRevision binding
  | .update expectedRevision existingShortcut binding =>
    m.prepareUpdate text request.2 expectedRevision existingShortcut binding
  | .remove expectedRevision shortcut => m.prepareRemove text request.2 expectedRevision shortcut
  | .restore expectedRevision => m.prepareRestore text request.2 expectedRevision

variable [DecidableEq B]

def commit (m : ShortcutManager B) (disk : Option B) (io : Settings.FileIo) (prepared : PreparedShortcutUpdate B) :
    (ShortcutManager B × Option B) × Except UpdateError Unit :=
  if prepared.target ≠ m.path then ((m, disk), .error .path)
  else match readShortcutBytes text io.readable disk with
    | .error error => ((m, disk), .error error)
    | .ok existing =>
      if existing ≠ m.persistedBytes then ((m, disk), .error .changed)
      else if !io.renamed then ((m, disk), .error .io)
      else (({ m with file := prepared.file, persistedBytes := prepared.bytes }, some prepared.bytes), .ok ())

end ShortcutManager

/-! ## Updates -/

section Updates

variable {B : Type} {text : ShortcutText B} {m : ShortcutManager B} {p : PreparedShortcutUpdate B}

theorem nextRevision_ok {rev : UInt64} (h : m.nextRevision = .ok rev) : rev.toNat = m.file.revision.toNat + 1 := by
  unfold ShortcutManager.nextRevision at h; split at h
  · rename_i hlt; cases h
    rw [UInt64.toNat_add]; exact Nat.mod_eq_of_lt hlt
  · cases h

theorem normalize_revision {file : ShortcutFile} {n : ShortcutFile × List CompiledShortcut}
    (h : normalizeAndCompileShortcuts file = .ok n) : n.1.revision = file.revision := by
  unfold normalizeAndCompileShortcuts at h
  obtain ⟨c, -, h⟩ := bind_ok.1 h
  cases h; rfl

theorem mapError_ok {α E E' : Type} {f : E → E'} {x : Except E α} {a : α} (h : x.mapError f = .ok a) : x = .ok a := by
  cases x with
  | error error => cases h
  | ok a' => exact congrArg Except.ok (Except.ok.inj h)

theorem prepare_revision {w : Bool} {file : ShortcutFile} (h : m.prepare text w file = .ok p) :
    p.file.revision.toNat = m.file.revision.toNat + 1 := by
  unfold ShortcutManager.prepare at h
  obtain ⟨revision, hn, h⟩ := bind_ok.1 h
  obtain ⟨⟨n, _⟩, hno, h⟩ := bind_ok.1 h
  obtain ⟨bytes, -, h⟩ := bind_ok.1 h; split at h
  · cases h
  obtain ⟨c, -, h⟩ := bind_ok.1 h; cases h
  have hr := normalize_revision (mapError_ok hno)
  dsimp only at hr ⊢
  rw [hr]; exact nextRevision_ok hn

theorem prepareRequest_revision {request : ShortcutRequest × Bool} (h : m.prepareRequest text request = .ok p) :
    p.file.revision.toNat = m.file.revision.toNat + 1 := by
  obtain ⟨request, w⟩ := request
  cases request with
  | add e b =>
    obtain ⟨_, -, h⟩ := bind_ok.1 h
    obtain ⟨_, -, h⟩ := bind_ok.1 h; exact prepare_revision h
  | update e old b =>
    obtain ⟨_, -, h⟩ := bind_ok.1 h
    obtain ⟨_, -, h⟩ := bind_ok.1 h
    obtain ⟨_, -, h⟩ := bind_ok.1 h
    obtain ⟨_, -, h⟩ := bind_ok.1 h; exact prepare_revision h
  | remove e shortcut =>
    obtain ⟨_, -, h⟩ := bind_ok.1 h
    obtain ⟨_, -, h⟩ := bind_ok.1 h
    obtain ⟨_, -, h⟩ := bind_ok.1 h; exact prepare_revision h
  | restore e =>
    obtain ⟨_, -, h⟩ := bind_ok.1 h; exact prepare_revision h

variable [DecidableEq B]

variable (text) in
theorem commit_cases (m : ShortcutManager B) (disk : Option B) (io : Settings.FileIo) (p : PreparedShortcutUpdate B) :
    m.commit text disk io p = (({ m with file := p.file, persistedBytes := p.bytes }, some p.bytes), .ok ()) ∨
      ∃ error, m.commit text disk io p = ((m, disk), .error error) := by
  unfold ShortcutManager.commit; split
  · exact .inr ⟨_, rfl⟩
  split
  · exact .inr ⟨_, rfl⟩
  split
  · exact .inr ⟨_, rfl⟩
  split
  · exact .inr ⟨_, rfl⟩
  · exact .inl rfl

variable (text) in
def shortcutStore : UpdateStore (ShortcutManager B) (Option B) (PreparedShortcutUpdate B) (ShortcutRequest × Bool)
    Settings.FileIo UpdateError where
  prepare m request := m.prepareRequest text request
  commit m disk io p := m.commit text disk io p
  revision m := m.file.revision.toNat
  revisionOf p := p.file.revision.toNat
  prepare_revision := prepareRequest_revision
  commit_ok := by
    intro m disk io p h
    rcases commit_cases text m disk io p with hcommit | ⟨error, hcommit⟩
    · rw [hcommit]
    · rw [hcommit] at h; cases h
  commit_error := by
    intro m disk io p error h
    rcases commit_cases text m disk io p with hcommit | ⟨error', hcommit⟩
    · rw [hcommit] at h; cases h
    · rw [hcommit]

end Updates

/-- In every run of either store, each committed update was prepared from the state it is committed to, and raises the
revision, where each has the revision after the one it is committed to and only there; what commits nothing changes
neither the memory nor the file. -/
theorem updates_concurrent {B : Type} [DecidableEq B] (settings : Settings.JsonText B) (shortcuts : ShortcutText B) :
    (∀ m file es, (Along (Settings.settingsStore settings).next (Settings.settingsStore settings).FromCurrent
          (UpdateStore.start m file) es ↔
        Along (Settings.settingsStore settings).next (Settings.settingsStore settings).Follows
          (UpdateStore.start m file) es) ∧
      Along (Settings.settingsStore settings).next (Settings.settingsStore settings).Keeps
        (UpdateStore.start m file) es) ∧
    ∀ m file es, (Along (shortcutStore shortcuts).next (shortcutStore shortcuts).FromCurrent
          (UpdateStore.start m file) es ↔
        Along (shortcutStore shortcuts).next (shortcutStore shortcuts).Follows (UpdateStore.start m file) es) ∧
      Along (shortcutStore shortcuts).next (shortcutStore shortcuts).Keeps (UpdateStore.start m file) es :=
  ⟨fun m file es => ⟨UpdateStore.fromCurrent_iff_follows _ m file es, UpdateStore.keeps_run _ _ es⟩,
    fun m file es => ⟨UpdateStore.fromCurrent_iff_follows _ m file es, UpdateStore.keeps_run _ _ es⟩⟩

/-! ## Two removals -/

def fileText : ShortcutText ShortcutFile := ⟨id, fun _ => 0⟩

def twoShortcuts : ShortcutFile where
  version := shortcutSchemaVersion
  revision := 1
  shortcuts := [⟨"Super+A", .denialAction .openOverview⟩, ⟨"Super+V", .denialAction .openClipboard⟩]

/-- Both are removed, each from the file that has them both. -/
def twoRemovals : List (UpdateEvent (Option ShortcutFile) (ShortcutRequest × Bool) Settings.FileIo) :=
  [.prepare (.remove 1 "Super+A", true), .prepare (.remove 1 "Super+V", true), .commit 0 {}, .commit 0 {}]

def removals : UpdateStore (ShortcutManager ShortcutFile) (Option ShortcutFile) (PreparedShortcutUpdate ShortcutFile)
    (ShortcutRequest × Bool) Settings.FileIo UpdateError := shortcutStore fileText

def secondRemoval : UpdateEvent (Option ShortcutFile) (ShortcutRequest × Bool) Settings.FileIo := .commit 0 {}

def beforeSecond : UpdateSession (ShortcutManager ShortcutFile) (Option ShortcutFile)
    (PreparedShortcutUpdate ShortcutFile) :=
  exec removals.next (UpdateStore.start ⟨"shortcuts.json", twoShortcuts, twoShortcuts⟩ (some twoShortcuts))
    [.prepare (.remove 1 "Super+A", true), .prepare (.remove 1 "Super+V", true), .commit 0 {}]

/-- The second removal is committed over the first, which is lost. -/
theorem removal_lost :
    ¬Along (shortcutStore fileText).next (shortcutStore fileText).FromCurrent
      (UpdateStore.start ⟨"shortcuts.json", twoShortcuts, twoShortcuts⟩ (some twoShortcuts)) twoRemovals := by
  rintro ⟨-, -, -, hsec, -⟩
  have hrev : (removals.committed beforeSecond secondRemoval).any
      (fun entry => removals.revisionOf entry.1 ≤ removals.revision beforeSecond.memory) = true := by
    decide +kernel
  cases hcom : removals.committed beforeSecond secondRemoval with
  | none =>
    rw [hcom] at hrev; cases hrev
  | some entry =>
    have hrais : removals.revision beforeSecond.memory <
        removals.revision (removals.next beforeSecond secondRemoval).memory := (hsec entry.1 entry.2 hcom).2
    rw [removals.revision_committed hcom] at hrais; rw [hcom] at hrev
    exact absurd hrais (Nat.not_lt.2 (of_decide_eq_true hrev))

end Deniald.Shortcut
