/-
Migration of shortcut files (native_shortcut.rs, `migrate_shortcut_file`). A file of an older version gets the
defaults of the versions since where their triggers are free, and Denial's own binding of Super+Up, which a later
version gives to navigation, moves to Super+W. The bindings of the user stay, except that the move also takes a
binding the user made on Super+Up in a file that is too young to have the old default.
-/
import Deniald.Shortcut.File

namespace Deniald.Shortcut

open Deniald.Lib

/-! ## Model -/

def shortcutV2Additions : List (String × ShortcutAction) :=
  [ ("ThreeFingerSwipeLeft", .windowSwitcher), ("ThreeFingerSwipeRight", .windowSwitcher) ]

def shortcutV3Additions : List (String × ShortcutAction) :=
  [ ("Super+Shift+M", .minimizeAllWindows) ]

def shortcutV4Additions : List (String × ShortcutAction) :=
  [ ("Super+Left", .focusLeft), ("Super+Right", .focusRight), ("Super+Up", .focusUp),
    ("Super+Down", .focusDown), ("Super+Ctrl+Left", .swapLeft), ("Super+Ctrl+Right", .swapRight),
    ("Super+Ctrl+Up", .swapUp), ("Super+Ctrl+Down", .swapDown) ]

def shortcutV5Additions : List (String × ShortcutAction) :=
  [ ("Super+Alt+Left", .previousWorkspace), ("Super+Alt+Right", .nextWorkspace),
    ("Super+Alt+Shift+Left", .moveToPreviousWorkspace), ("Super+Alt+Shift+Right", .moveToNextWorkspace),
    ("Super+1", .switchWorkspace1), ("Super+2", .switchWorkspace2), ("Super+3", .switchWorkspace3),
    ("Super+4", .switchWorkspace4), ("Super+5", .switchWorkspace5), ("Super+6", .switchWorkspace6),
    ("Super+7", .switchWorkspace7), ("Super+8", .switchWorkspace8), ("Super+9", .switchWorkspace9),
    ("Super+Shift+1", .moveToWorkspace1), ("Super+Shift+2", .moveToWorkspace2),
    ("Super+Shift+3", .moveToWorkspace3), ("Super+Shift+4", .moveToWorkspace4),
    ("Super+Shift+5", .moveToWorkspace5), ("Super+Shift+6", .moveToWorkspace6),
    ("Super+Shift+7", .moveToWorkspace7), ("Super+Shift+8", .moveToWorkspace8),
    ("Super+Shift+9", .moveToWorkspace9) ]

def shortcutV6Additions : List (String × ShortcutAction) :=
  [ ("FourFingerSwipeRight", .previousWorkspace), ("FourFingerSwipeLeft", .nextWorkspace) ]

/-- The versions before the current one that are supported. -/
def olderVersions : List UInt64 := [oldestShortcutSchemaVersion, 2, 3, 4, 5]

def additionsSince (version : UInt64) : Option (List (List (String × ShortcutAction))) :=
  if version = oldestShortcutSchemaVersion then
    some [shortcutV2Additions, shortcutV3Additions, shortcutV4Additions, shortcutV5Additions, shortcutV6Additions]
  else if version = 2 then some [shortcutV3Additions, shortcutV4Additions, shortcutV5Additions, shortcutV6Additions]
  else if version = 3 then some [shortcutV4Additions, shortcutV5Additions, shortcutV6Additions]
  else if version = 4 then some [shortcutV5Additions, shortcutV6Additions]
  else if version = 5 then some [shortcutV6Additions]
  else none

/-- `parse_shortcut(..).is_ok_and(|trigger| trigger == ..)`. -/
def hasTrigger (trigger : ShortcutTrigger) (binding : ShortcutBinding) : Bool :=
  match parseShortcut binding.shortcut with
  | .ok parsed => parsed == trigger
  | .error _ => false

/-- A binding of an action to a trigger: what `migrate_default_shortcut` relocates. -/
def isDefault (trigger : ShortcutTrigger) (action : ShortcutAction) (binding : ShortcutBinding) : Bool :=
  binding.target == .denialAction action && hasTrigger trigger binding

def migrateDefaultShortcut (file : ShortcutFile) (legacy : String) (action : ShortcutAction) (relocated : String) :
    Except ShortcutError (ShortcutFile × Bool) := do
  let legacy ← (parseShortcut legacy).mapError .expression
  let relocated ← (parseShortcut relocated).mapError .expression
  if file.shortcuts.any (hasTrigger relocated) then pure (file, false)
  else if file.shortcuts.any (isDefault legacy action) then
    let shortcuts := modifyFirst (isDefault legacy action)
      (fun binding => { binding with shortcut := relocated.canonical }) file.shortcuts
    pure ({ file with shortcuts := shortcuts }, true)
  else pure (file, false)

/-- The loop of `migrate_shortcut_file`: the triggers configured, the bindings, and how many were added. -/
structure Additions where
  configured : List ShortcutTrigger
  shortcuts : List ShortcutBinding
  added : Nat

def addDefault (s : Additions) (addition : String × ShortcutAction) : Except ShortcutError Additions := do
  let trigger ← (parseShortcut addition.1).mapError .expression
  if trigger ∈ s.configured ∨ s.shortcuts.length = maxShortcuts then pure s
  else
    pure
      { configured := trigger :: s.configured
        shortcuts := s.shortcuts ++ [⟨trigger.canonical, .denialAction addition.2⟩]
        added := s.added + 1 }

/-- The migrated file and how many bindings were relocated or added; `none` for a current file. -/
def migrateShortcutFile (file : ShortcutFile) : Except ShortcutError (ShortcutFile × Option Nat) :=
  if file.version = shortcutSchemaVersion then .ok (file, none)
  else
    match additionsSince file.version with
    | none => .error (.unsupportedVersion file.version)
    | some additions =>
      if file.revision = 0 then .error .revision
      else if maxShortcuts < file.shortcuts.length then .error .count
      else do
        let (file, relocated) ← migrateDefaultShortcut file "Super+Up" .toggleMaximize "Super+W"
        let configured ← file.shortcuts.mapM parseBinding
        let s ← additions.foldlM (fun s table => table.foldlM addDefault s)
          (⟨configured, file.shortcuts, if relocated then 1 else 0⟩ : Additions)
        -- `saturating_add` at `u64::MAX`
        let revision := if file.revision = 18446744073709551615 then file.revision else file.revision + 1
        pure (⟨shortcutSchemaVersion, revision, s.shortcuts⟩, some s.added)

/-! ## Sound bindings -/

/-- Bindings that compile in a current file: expressions that parse to distinct triggers, and valid targets. -/
structure Sound (bindings : List ShortcutBinding) : Prop where
  parses : ∀ b ∈ bindings, ∃ t, parseShortcut b.shortcut = .ok t
  distinct : (bindings.map fun b => parseShortcut b.shortcut).Nodup
  valid : ∀ b ∈ bindings, b.target.validate = .ok ()
  count : bindings.length ≤ maxShortcuts

theorem Sound.compiles : ∀ {bindings : List ShortcutBinding}, (∀ b ∈ bindings, ∃ t, parseShortcut b.shortcut = .ok t) →
    (∀ b ∈ bindings, b.target.validate = .ok ()) →
      ∃ cm : List CompiledShortcut, List.Forall₂ CompilesTo bindings cm ∧
        (cm.map fun c => (Except.ok c.trigger : Except ExpressionError ShortcutTrigger)) =
          bindings.map fun b => parseShortcut b.shortcut
  | [], _, _ => ⟨[], .nil, rfl⟩
  | b :: bindings, hr, hv => by
    obtain ⟨t, ht⟩ := hr b (List.mem_cons_self ..)
    obtain ⟨cm, hal, hm⟩ := Sound.compiles (fun c hc => hr c (List.mem_cons_of_mem b hc))
      fun c hc => hv c (List.mem_cons_of_mem b hc)
    refine ⟨⟨t, b.target⟩ :: cm, .cons ⟨parseBinding_ok.2 ht, rfl, hv b (List.mem_cons_self ..)⟩ hal, ?_⟩
    rw [List.map_cons, List.map_cons, hm, ht]

variable {file : ShortcutFile} {trigger : ShortcutTrigger} {binding : ShortcutBinding}
  {bindings : List ShortcutBinding}

theorem Sound.normalizes (h : Sound file.shortcuts) (hv : file.version = shortcutSchemaVersion)
    (hr : file.revision ≠ 0) : ∃ result, normalizeAndCompileShortcuts file = .ok result := by
  obtain ⟨c, hal, hm⟩ := Sound.compiles h.parses h.valid
  have hn : (c.map (·.trigger)).Nodup := by
    have hd := h.distinct; rw [← hm] at hd
    exact List.Nodup.of_map Except.ok (by rwa [List.map_map])
  exact ⟨_, bind_ok.2 ⟨c, compileShortcuts_ok_iff.2 ⟨hv, hr, h.count, hal, hn⟩, rfl⟩⟩

theorem hasTrigger_iff : hasTrigger trigger binding = true ↔ parseShortcut binding.shortcut = .ok trigger := by
  unfold hasTrigger
  cases parseShortcut binding.shortcut with
  | error e => exact iff_of_false (by simp) (by simp)
  | ok parsed => simp

/-! ## The move of Super+Up -/

def superUp : ShortcutTrigger := ⟨1, .evdev keyUp, "Super+Up"⟩

def superW : ShortcutTrigger := ⟨1, .evdev 17, "Super+W"⟩

theorem parse_superUp : parseShortcut "Super+Up" = .ok superUp := by decide +kernel

theorem parse_superW : parseShortcut "Super+W" = .ok superW := by decide +kernel

def LegacyDefault (binding : ShortcutBinding) : Prop :=
  parseShortcut binding.shortcut = .ok superUp ∧ binding.target = .denialAction .toggleMaximize

def toSuperW (binding : ShortcutBinding) : ShortcutBinding := { binding with shortcut := "Super+W" }

/-- The bindings after the move. -/
def relocate (bindings : List ShortcutBinding) : List ShortcutBinding :=
  if bindings.any (hasTrigger superW) then bindings
  else modifyFirst (isDefault superUp .toggleMaximize) toSuperW bindings

theorem isDefault_iff : isDefault superUp .toggleMaximize binding = true ↔ LegacyDefault binding := by
  unfold isDefault LegacyDefault
  rw [Bool.and_eq_true, beq_iff_eq, hasTrigger_iff, and_comm]

theorem any_superW_iff :
    bindings.any (hasTrigger superW) = true ↔ ∃ b ∈ bindings, parseShortcut b.shortcut = .ok superW := by
  rw [List.any_eq_true]
  simp [hasTrigger_iff]

theorem migrateDefaultShortcut_eq (file : ShortcutFile) :
    ∃ m, migrateDefaultShortcut file "Super+Up" .toggleMaximize "Super+W" =
      .ok ({ file with shortcuts := relocate file.shortcuts }, m) := by
  have hstep : migrateDefaultShortcut file "Super+Up" .toggleMaximize "Super+W" =
      if file.shortcuts.any (hasTrigger superW) then .ok (file, false)
      else if file.shortcuts.any (isDefault superUp .toggleMaximize) then
        .ok ({ file with shortcuts := modifyFirst (isDefault superUp .toggleMaximize) toSuperW file.shortcuts }, true)
      else .ok (file, false) := by
    unfold migrateDefaultShortcut
    rw [parse_superUp, parse_superW]; rfl
  unfold relocate; rw [hstep]
  split_ifs with ho hle
  · exact ⟨false, rfl⟩
  · exact ⟨true, rfl⟩
  · refine ⟨false, ?_⟩
    have hn : file.shortcuts.find? (isDefault superUp .toggleMaximize) = none := by
      rw [List.find?_eq_none]
      exact fun b hb hd => hle (List.any_eq_true.2 ⟨b, hb, hd⟩)
    rw [modifyFirst_of_none hn]

theorem sound_relocate (h : Sound bindings) : Sound (relocate bindings) := by
  unfold relocate
  split_ifs with ho
  · exact h
  · refine ⟨fun b hb => ?_, nodup_modifyFirst h.distinct fun b hmem => ?_, fun b hb => ?_, ?_⟩
    · rcases mem_modifyFirst hb with hb | ⟨c, -, -, rfl⟩
      · exact h.parses b hb
      · exact ⟨superW, parse_superW⟩
    · obtain ⟨c, hc, hs⟩ := List.mem_map.1 hmem
      exact ho (any_superW_iff.2 ⟨c, hc, hs.trans parse_superW⟩)
    · rcases mem_modifyFirst hb with hb | ⟨c, hc, -, rfl⟩
      · exact h.valid b hb
      · exact h.valid c hc
    · rw [length_modifyFirst]; exact h.count

/-! ## The additions -/

theorem additions_parse : ∀ a ∈ shortcutV2Additions ++ shortcutV3Additions ++ shortcutV4Additions ++
    shortcutV5Additions ++ shortcutV6Additions, (parseShortcut a.1).isOk = true := by decide +kernel

theorem additions_superUp : ∀ a ∈ shortcutV5Additions ++ shortcutV6Additions,
    parseShortcut a.1 ≠ .ok superUp := by decide +kernel

theorem additionsSince_older : ∀ version ∈ olderVersions, ∃ as, additionsSince version = some as ∧
    (∀ t ∈ as, ∀ a ∈ t, a ∈ shortcutV2Additions ++ shortcutV3Additions ++
      shortcutV4Additions ++ shortcutV5Additions ++ shortcutV6Additions) ∧
    (4 ≤ version → ∀ t ∈ as, ∀ a ∈ t, a ∈ shortcutV5Additions ++ shortcutV6Additions) := by
  intro version hv
  simp only [olderVersions, oldestShortcutSchemaVersion, List.mem_cons, List.not_mem_nil, or_false] at hv
  rcases hv with rfl | rfl | rfl | rfl | rfl
  all_goals
    refine ⟨_, rfl, ?_, ?_⟩
    all_goals decide +kernel

/-- The loop so far: sound bindings, whose triggers are the configured ones; the ones it began with, and additions. -/
structure Extends (base : List ShortcutBinding) (tables : List (List (String × ShortcutAction)))
    (s : Additions) : Prop where
  sound : Sound s.shortcuts
  configured : ∀ t, t ∈ s.configured ↔ ∃ b ∈ s.shortcuts, parseShortcut b.shortcut = .ok t
  kept : ∀ b ∈ base, b ∈ s.shortcuts
  added : ∀ b ∈ s.shortcuts, b ∈ base ∨
    ∃ table ∈ tables, ∃ addition ∈ table, parseShortcut b.shortcut = parseShortcut addition.1

variable {base : List ShortcutBinding} {tables : List (List (String × ShortcutAction))} {s : Additions}

theorem sound_append (h : Sound bindings) (htr : Trigger trigger)
    (hf : ∀ b ∈ bindings, parseShortcut b.shortcut ≠ .ok trigger) (hm : bindings.length < maxShortcuts)
    (action : ShortcutAction) : Sound (bindings ++ [⟨trigger.canonical, .denialAction action⟩]) := by
  have hr := htr.parse_canonical
  refine ⟨fun b hb => ?_, ?_, fun b hb => ?_, ?_⟩
  · rcases List.mem_append.1 hb with hb | hb
    · exact h.parses b hb
    · rw [List.mem_singleton.1 hb]; exact ⟨trigger, hr⟩
  · rw [List.map_append, List.map_singleton, List.nodup_append]
    refine ⟨h.distinct, List.nodup_singleton _, ?_⟩
    rintro parsed hs other ho rfl
    obtain ⟨b, hb, hsa⟩ := List.mem_map.1 hs
    refine hf b hb (hsa.trans ?_)
    rw [List.mem_singleton.1 ho]; exact hr
  · rcases List.mem_append.1 hb with hb | hb
    · exact h.valid b hb
    · rw [List.mem_singleton.1 hb]; rfl
  · rw [List.length_append, List.length_singleton]; exact hm

theorem addDefault_extends {tb : List (String × ShortcutAction)} {addition : String × ShortcutAction}
    (hta : tb ∈ tables) (hd : addition ∈ tb) (hpa : (parseShortcut addition.1).isOk = true)
    (h : Extends base tables s) : ∃ s', addDefault s addition = .ok s' ∧ Extends base tables s' := by
  cases hr : parseShortcut addition.1 with
  | error e =>
    rw [hr] at hpa; cases hpa
  | ok trigger =>
    have hstep : addDefault s addition =
        if trigger ∈ s.configured ∨ s.shortcuts.length = maxShortcuts then .ok s
        else
          .ok
            { configured := trigger :: s.configured
              shortcuts := s.shortcuts ++ [⟨trigger.canonical, .denialAction addition.2⟩]
              added := s.added + 1 } := by
      unfold addDefault
      rw [hr]; rfl
    rw [hstep]
    split_ifs with hk
    · exact ⟨s, rfl, h⟩
    · obtain ⟨hf, hm⟩ := not_or.1 hk
      have hfr : ∀ b ∈ s.shortcuts, parseShortcut b.shortcut ≠ .ok trigger :=
        fun b hb hs => hf ((h.configured trigger).2 ⟨b, hb, hs⟩)
      have hn := (parseShortcut_ok hr).parse_canonical
      refine ⟨_, rfl, sound_append h.sound (parseShortcut_ok hr) hfr (lt_of_le_of_ne h.sound.count hm) _,
        fun t => ?_, fun b hb => List.mem_append_left _ (h.kept b hb), fun b hb => ?_⟩
      · rw [List.mem_cons, h.configured t]
        constructor
        · rintro (rfl | ⟨b, hb, hs⟩)
          · exact ⟨_, List.mem_append_right _ (List.mem_singleton_self _), hn⟩
          · exact ⟨b, List.mem_append_left _ hb, hs⟩
        · rintro ⟨b, hb, hs⟩
          rcases List.mem_append.1 hb with hb | hb
          · exact .inr ⟨b, hb, hs⟩
          · rw [List.mem_singleton.1 hb] at hs
            exact .inl (Except.ok.inj (hs.symm.trans hn))
      · rcases List.mem_append.1 hb with hb | hb
        · exact h.added b hb
        · rw [List.mem_singleton.1 hb]
          exact .inr ⟨tb, hta, addition, hd, hn.trans hr.symm⟩

theorem addDefaults_extends (hr : ∀ t ∈ tables, ∀ a ∈ t, (parseShortcut a.1).isOk = true) (h : Extends base tables s) :
    ∃ s', tables.foldlM (fun s t => t.foldlM addDefault s) s = .ok s' ∧ Extends base tables s' := by
  refine foldlM_succeeds (fun t hta s hs => ?_) h
  exact foldlM_succeeds (fun a hd s hs =>
    addDefault_extends hta hd (hr t hta a hd) hs) hs

/-! ## Valid older files -/

structure ValidOlder (file : ShortcutFile) : Prop where
  version : file.version ∈ olderVersions
  revision : file.revision ≠ 0
  sound : Sound file.shortcuts

theorem migrate_ok (h : ValidOlder file) : ∃ file' added,
    migrateShortcutFile file = .ok (file', some added) ∧ file'.version = shortcutSchemaVersion ∧ file'.revision ≠ 0 ∧
      Sound file'.shortcuts ∧ (∀ b ∈ relocate file.shortcuts, b ∈ file'.shortcuts) ∧
      (4 ≤ file.version → ∀ b ∈ file'.shortcuts, b ∈ relocate file.shortcuts ∨
      parseShortcut b.shortcut ≠ .ok superUp) := by
  obtain ⟨tables, htb, hal, hy⟩ := additionsSince_older file.version h.version
  obtain ⟨m, hmo⟩ := migrateDefaultShortcut_eq file
  have hso := sound_relocate h.sound
  obtain ⟨configured, hn⟩ : ∃ configured, (relocate file.shortcuts).mapM parseBinding = .ok configured :=
    mapM_succeeds fun b hb => by
      obtain ⟨t, ht⟩ := hso.parses b hb; exact ⟨t, parseBinding_ok.2 ht⟩
  have hst : Extends (relocate file.shortcuts) tables
    ⟨configured, relocate file.shortcuts, if m then 1 else 0⟩ := by
    refine ⟨hso, fun t => ⟨fun ht => ?_, ?_⟩, fun b hb => hb, fun b hb => .inl hb⟩
    · obtain ⟨b, hb, hr⟩ := forall₂_mem_right (mapM_ok hn) t ht
      exact ⟨b, hb, parseBinding_ok.1 hr⟩
    · rintro ⟨b, hb, hr⟩
      obtain ⟨t', ht', hp'⟩ := forall₂_mem_left (mapM_ok hn) b hb
      rwa [Except.ok.inj (hr.symm.trans (parseBinding_ok.1 hp'))]
  obtain ⟨s, hs, he⟩ := addDefaults_extends
    (fun tb hta addition hd => additions_parse addition (hal tb hta addition hd)) hst
  have hcu : file.version ≠ shortcutSchemaVersion := by
    intro hv; have := h.version
    rw [hv] at this
    revert this
    decide
  refine ⟨⟨shortcutSchemaVersion, if file.revision = 18446744073709551615 then file.revision else file.revision + 1,
    s.shortcuts⟩, s.added, ?_, rfl, ?_, he.sound, he.kept, fun hv b hb => ?_⟩
  · unfold migrateShortcutFile; rw [if_neg hcu, htb]
    simp only [if_neg h.revision, if_neg (Nat.not_lt.2 h.sound.count)]
    refine bind_ok.2 ⟨_, hmo, bind_ok.2 ⟨_, hn, bind_ok.2 ⟨_, hs, rfl⟩⟩⟩
  · simp only
    split_ifs with hm
    · exact h.revision
    · intro hz
      refine hm ?_; have := congrArg UInt64.toNat hz
      rw [UInt64.toNat_add] at this
      apply UInt64.toNat_inj.1
      have hlt := file.revision.toNat_lt
      simp only [UInt64.toNat_one, UInt64.toNat_zero] at this
      show file.revision.toNat = 18446744073709551615; omega
  · rcases he.added b hb with hba | ⟨tb, hta, addition, hd, hsa⟩
    · exact .inl hba
    right
    rw [hsa]
    exact additions_superUp addition (hy hv tb hta addition hd)

/-! ## What a migration promises -/

/-- A current file without duplicate triggers that is normalised; every binding is in it with its trigger and
target, or is the legacy default of a file older than the move, and is on Super+W. -/
structure Migrated (file file' : ShortcutFile) : Prop where
  version : file'.version = shortcutSchemaVersion
  distinct : (file'.shortcuts.map fun b => parseShortcut b.shortcut).Nodup
  count : file'.shortcuts.length ≤ maxShortcuts
  normalizes : ∃ result, normalizeAndCompileShortcuts file' = .ok result
  kept : ∀ b ∈ file.shortcuts,
    (∃ b' ∈ file'.shortcuts, parseShortcut b'.shortcut = parseShortcut b.shortcut ∧ b'.target = b.target) ∨
      LegacyDefault b ∧ file.version < 4 ∧
        ∃ b' ∈ file'.shortcuts, parseShortcut b'.shortcut = .ok superW ∧ b'.target = b.target

/-- The move takes a binding of a file too young to have the old default. -/
def MovesUserBinding (file : ShortcutFile) : Prop :=
  4 ≤ file.version ∧ (∃ b ∈ file.shortcuts, LegacyDefault b) ∧
    ∀ b ∈ file.shortcuts, parseShortcut b.shortcut ≠ .ok superW

theorem migrated_of_not_moves (h : ValidOlder file) (hm : ¬MovesUserBinding file) :
    ∃ file' added, migrateShortcutFile file = .ok (file', some added) ∧ Migrated file file' := by
  obtain ⟨file', added, hmi, hv, hre, hs, hk, -⟩ := migrate_ok h
  refine ⟨file', added, hmi, hv, hs.distinct, hs.count, hs.normalizes hv hre,
    fun b hb => ?_⟩
  by_cases ho : file.shortcuts.any (hasTrigger superW) = true
  · have hsa : relocate file.shortcuts = file.shortcuts := if_pos ho
    exact .inl ⟨b, hk b (by rwa [hsa]), rfl, rfl⟩
  have hmo : relocate file.shortcuts = modifyFirst (isDefault superUp .toggleMaximize) toSuperW file.shortcuts :=
    if_neg ho
  rw [hmo] at hk
  rcases mem_or_modified (p := isDefault superUp .toggleMaximize) (f := toSuperW) hb with hb' | ⟨hd, hb'⟩
  · exact .inl ⟨b, hk b hb', rfl, rfl⟩
  -- the binding is the legacy default, so the file is older than the move
  have hle := isDefault_iff.1 hd
  refine .inr ⟨hle, ?_, toSuperW b, hk _ hb', parse_superW, rfl⟩
  by_contra hy
  exact hm ⟨UInt64.not_lt.1 hy, ⟨b, hb, hle⟩, fun c hc hr =>
    ho (any_superW_iff.2 ⟨c, hc, hr⟩)⟩

theorem not_migrated_of_moves (h : ValidOlder file) (hm : MovesUserBinding file) :
    ¬∃ file' added, migrateShortcutFile file = .ok (file', some added) ∧ Migrated file file' := by
  rintro ⟨file', added, hmg, hmi⟩
  obtain ⟨hy, ⟨b, hb, hle⟩, hf⟩ := hm
  obtain ⟨file'', added', hm', -, -, -, -, haf⟩ := migrate_ok h
  obtain ⟨rfl, -⟩ := Prod.mk.inj (Except.ok.inj (hmg.symm.trans hm'))
  have ho : ¬file.shortcuts.any (hasTrigger superW) = true := fun hn => by
    obtain ⟨c, hc, hr⟩ := any_superW_iff.1 hn; exact hf c hc hr
  have hv : relocate file.shortcuts = modifyFirst (isDefault superUp .toggleMaximize) toSuperW file.shortcuts :=
    if_neg ho
  -- the binding was the only one on Super+Up, and nothing is added there
  have hgo : ∀ c ∈ relocate file.shortcuts, parseShortcut c.shortcut ≠ .ok superUp := by
    rw [hv]
    refine modifyFirst_ne (fun c hc => (isDefault_iff.1 hc).1) (fun c => ?_) h.sound.distinct
      ⟨b, hb, isDefault_iff.2 hle⟩
    show parseShortcut "Super+W" ≠ .ok superUp
    rw [parse_superW]; decide
  rcases hmi.kept b hb with ⟨b', hb', hr, -⟩ | ⟨-, hd, -⟩
  · rw [hle.1] at hr
    rcases haf hy b' hb' with hs | hh
    · exact hgo b' hs hr
    · exact hh hr
  · exact absurd hd (UInt64.not_lt.2 hy)

/-- A valid file of an older version is migrated as promised exactly when it does not have a binding of Super+Up to
the maximize toggle, nothing on Super+W, and a version from the fourth on. -/
theorem migration_preserves_bindings (file : ShortcutFile) (h : ValidOlder file) :
    (∃ file' added, migrateShortcutFile file = .ok (file', some added) ∧ Migrated file file') ↔
      ¬(4 ≤ file.version ∧ (∃ b ∈ file.shortcuts, LegacyDefault b) ∧
        ∀ b ∈ file.shortcuts, parseShortcut b.shortcut ≠ .ok superW) :=
  ⟨fun hmig hmov => not_migrated_of_moves h hmov hmig, migrated_of_not_moves h⟩

def maximizeFile (version : UInt64) : ShortcutFile := ⟨version, 1, [⟨"Super+Up", .denialAction .toggleMaximize⟩]⟩

theorem maximizeFile_valid {v : UInt64} (hv : v ∈ olderVersions) : ValidOlder (maximizeFile v) := by
  refine ⟨hv, ?_, fun b hb => ?_, List.nodup_singleton _, fun b hb => ?_, ?_⟩
  · show (1 : UInt64) ≠ 0; decide
  · rw [List.mem_singleton.1 hb]; exact ⟨superUp, parse_superUp⟩
  · rw [List.mem_singleton.1 hb]; rfl
  · show 1 ≤ 256; decide

/-- In the third version it is the old default, and moves. -/
theorem migration_preserves_bindings_old : ValidOlder (maximizeFile 3) ∧
    ∃ file' added, migrateShortcutFile (maximizeFile 3) = .ok (file', some added) ∧
    Migrated (maximizeFile 3) file' := by
  have hval : ValidOlder (maximizeFile 3) := maximizeFile_valid (by decide)
  exact ⟨hval, (migration_preserves_bindings (maximizeFile 3) hval).2 fun hmov => absurd hmov.1 (by decide)⟩

/-- In the fourth version it is the user's, and moves all the same. -/
theorem user_binding_moved : ValidOlder (maximizeFile 4) ∧
    ¬∃ file' added, migrateShortcutFile (maximizeFile 4) = .ok (file', some added) ∧
    Migrated (maximizeFile 4) file' := by
  have hval : ValidOlder (maximizeFile 4) := maximizeFile_valid (by decide)
  refine ⟨hval, not_migrated_of_moves hval ⟨by decide, ?_, fun b hb => ?_⟩⟩
  · exact ⟨_, List.mem_singleton_self _, parse_superUp, rfl⟩
  · rw [List.mem_singleton.1 hb]
    show parseShortcut "Super+Up" ≠ .ok superW
    rw [parse_superUp]; decide

end Deniald.Shortcut
