/-
What becomes of the user's changes: they stay in the pending patch until they are written, and what is not in it is as
in the newest document or in the last write. This holds in runs in which every document that arrives can take the
pending patch, and no field leaves the patch while a write with another value of it waits in the queue.
-/
import Deniald.Shell.Controller

namespace Deniald.Shell

open Deniald.Lib
open ShellSettings ShellSettingsController

/-! ## What is kept -/

def ChangesField (field : ShellField) (s : SettingsSession) : SettingsEvent → Prop
  | .mutate next => next.values field ≠ s.controller.state.values field
  | .retryFailedWrite =>
    ∃ rejected ∈ s.controller.rejectedWrite, rejected.values field ≠ s.controller.state.values field
  | _ => False

def SettlesField (field : ShellField) (s : SettingsSession) : SettingsEvent → Prop
  | .writeSucceeded => ∃ write ∈ s.writeQueue.head?, write.written.values field = s.controller.state.values field
  | .rollbackRead index _ => ∃ safe ∈ s.rollbacks[index]?, safe.rejected.values field = s.controller.state.values field
  | _ => False

def Synchronized (s : SettingsSession) : Prop :=
  ∀ document ∈ s.authoritative, ∀ field, s.controller.state.values field = document.values field ∨
    ∃ written ∈ s.lastWritten, s.controller.state.values field = written.values field

def TakesDocument (s : SettingsSession) (e : SettingsEvent) : Prop :=
  match e with
  | .nativeDocument document =>
    (settingsNext s e).authoritative = some (.fromJson document) ∧
      (settingsNext s e).controller.state.values =
        s.controller.pendingMutationPatch.overlay (ShellSettings.fromJson document).values
  | _ => True

instance decidableSynchronized (s : SettingsSession) : Decidable (Synchronized s) :=
  inferInstanceAs (Decidable (∀ document ∈ s.authoritative, ∀ field,
    s.controller.state.values field = document.values field ∨
      ∃ written ∈ s.lastWritten, s.controller.state.values field = written.values field))

instance decidableTakesDocument (s : SettingsSession) : ∀ e : SettingsEvent, Decidable (TakesDocument s e)
  | .nativeDocument document => inferInstanceAs (Decidable
      ((settingsNext s (.nativeDocument document)).authoritative = some (.fromJson document) ∧
        (settingsNext s (.nativeDocument document)).controller.state.values =
          s.controller.pendingMutationPatch.overlay (ShellSettings.fromJson document).values))
  | .mutate _ | .debounceExpired | .flush | .writeSucceeded | .writeFailed | .rollbackRead .. | .retryFailedWrite
  | .dismissWriteFailure => .isTrue trivial

structure NoChangeLost (initialSettings : ShellSettings) (run : List SettingsEvent) : Prop where
  synchronized : (exec settingsNext (.start initialSettings) run).controller.pendingMutationPatch.Empty →
    (exec settingsNext (.start initialSettings) run).writeQueue = [] →
      Synchronized (exec settingsNext (.start initialSettings) run)
  kept : ∀ field, Since settingsNext (ChangesField field) (SettlesField field) (.start initialSettings) run →
    (exec settingsNext (.start initialSettings) run).controller.pendingMutationPatch field =
      some ((exec settingsNext (.start initialSettings) run).controller.state.values field)
  taken : Along settingsNext TakesDocument (.start initialSettings) run

/-- A document that arrives finds a patch that takes no value away and fits it, and when a write succeeds, what leaves
the patch has the same value in the writes behind it. -/
def Merges (s : SettingsSession) : SettingsEvent → Prop
  | .nativeDocument document =>
    s.controller.pendingMutationPatch.Empty ∨
      ¬s.controller.pendingMutationPatch.Clears ∧ Fits s.controller.pendingMutationPatch (.fromJson document)
  | .writeSucceeded =>
    ∀ write ∈ s.writeQueue.head?, ∀ field, ∀ value ∈ s.controller.pendingMutationPatch field,
      write.committedPatch field = some value → ∀ later ∈ s.writeQueue.tail, later.written.values field = value
  | _ => True

instance decidableMerges (s : SettingsSession) : ∀ e : SettingsEvent, Decidable (Merges s e)
  | .nativeDocument document => inferInstanceAs (Decidable (s.controller.pendingMutationPatch.Empty ∨
      ¬s.controller.pendingMutationPatch.Clears ∧ Fits s.controller.pendingMutationPatch (.fromJson document)))
  | .writeSucceeded => inferInstanceAs (Decidable
      (∀ write ∈ s.writeQueue.head?, ∀ field, ∀ value ∈ s.controller.pendingMutationPatch field,
        write.committedPatch field = some value → ∀ later ∈ s.writeQueue.tail, later.written.values field = value))
  | .mutate _ | .debounceExpired | .flush | .writeFailed | .rollbackRead .. | .retryFailedWrite
      | .dismissWriteFailure =>
    .isTrue trivial

/-! ## The invariant -/

/-- What a `_writeSafely` would take back is what the state has, as long as that is the one it took. -/
def Current (c : ShellSettingsController) (safe : SafeWrite) : Prop :=
  safe.writeSerial ≤ c.mutationSerial ∧ (safe.writeSerial = c.mutationSerial →
    ∀ field, c.pendingMutationPatch field ≠ none → safe.rejected.values field = c.state.values field)

/-- A field that is not pending is as in the newest document, or as in the last write and in those that wait. -/
def Settled (s : SettingsSession) : Prop :=
  ∀ document ∈ s.authoritative, ∀ field, s.controller.pendingMutationPatch field = none →
    s.controller.state.values field = document.values field ∨
      (∃ written ∈ s.lastWritten, s.controller.state.values field = written.values field) ∧
        ∀ write ∈ s.writeQueue, write.written.values field = s.controller.state.values field

structure Tracks (s : SettingsSession) : Prop where
  pending : s.controller.pendingMutationPatch.Agrees s.controller.state.values
  queued : ∀ write ∈ s.writeQueue, write.committedPatch.Agrees write.written.values
  safe : ∀ write ∈ s.writeQueue, ∀ safe ∈ write.safe, Current s.controller safe
  rollbacks : ∀ safe ∈ s.rollbacks, Current s.controller safe
  settled : Settled s

theorem tracks_start (initialSettings : ShellSettings) : Tracks (.start initialSettings) where
  pending := Patch.agrees_empty
  queued := by simp [SettingsSession.start]
  safe := by simp [SettingsSession.start]
  rollbacks := by simp [SettingsSession.start]
  settled := by
    intro document h; cases h

variable {c c' : ShellSettingsController} {e : SettingsEvent} {field : ShellField} {initialSettings : ShellSettings}
  {run : List SettingsEvent}

theorem Current.later {safe : SafeWrite} (h : Current c safe) (hs : c.mutationSerial < c'.mutationSerial) :
    Current c' safe :=
  ⟨(h.1.trans_lt hs).le, fun heq => absurd (heq ▸ h.1) (by omega)⟩

theorem Current.fewer {safe : SafeWrite} (h : Current c safe) (hs : c'.mutationSerial = c.mutationSerial)
    (hn : ∀ field, c'.pendingMutationPatch field ≠ none →
      c.pendingMutationPatch field ≠ none ∧ c'.state.values field = c.state.values field) : Current c' safe := by
  refine ⟨hs ▸ h.1, fun heq field hf => ?_⟩
  obtain ⟨hbe, hst⟩ := hn field hf
  rw [hst]; exact h.2 (heq.trans hs) field hbe

/-! ## Steps -/

variable {s : SettingsSession}

theorem nativeDocument_taken {doc : ShellDocument} (hm : Merges s (.nativeDocument doc)) :
    (s.nativeDocument doc).controller.state.values = s.controller.pendingMutationPatch.overlay (fromJson doc).values ∧
      (s.nativeDocument doc).authoritative = some (.fromJson doc) ∧
      (s.nativeDocument doc).controller.mutationSerial = s.controller.mutationSerial + 1 ∧
      (s.nativeDocument doc).controller.pendingMutationPatch = s.controller.pendingMutationPatch ∧
      (s.nativeDocument doc).writeQueue = s.writeQueue ∧ (s.nativeDocument doc).rollbacks = s.rollbacks := by
  unfold SettingsSession.nativeDocument acceptAuthoritativeState
  by_cases he : s.controller.pendingMutationPatch.Empty
  · rw [if_pos he]
    exact ⟨(Patch.overlay_of_empty he).symm, rfl, rfl, rfl, rfl, rfl⟩
  obtain ⟨hr, hf⟩ := hm.resolve_left he
  have hpa : applySettingsPatch (fromJson doc).toJson s.controller.pendingMutationPatch =
      some (s.controller.pendingMutationPatch.overlay (fromJson doc).values) := if_neg hr
  rw [if_neg he, hpa]; exact ⟨hf.fromJson, rfl, rfl, rfl, rfl, rfl⟩

theorem Tracks.become {controller : ShellSettingsController} (h : Tracks { s with controller }) :
    Tracks (s.become controller) :=
  ⟨h.pending, h.queued, h.safe, h.rollbacks, h.settled⟩

section Steps

variable {s : SettingsSession} (h : Tracks s)
include h

theorem Tracks.update (next : ShellSettings) : Tracks { s with controller := s.controller.update next } := by
  unfold ShellSettingsController.update; split
  · exact ⟨h.pending, h.queued, h.safe, h.rollbacks, h.settled⟩
  refine ⟨?_, h.queued, fun write hw safe hs => (h.safe write hw safe hs).later (Nat.lt_succ_self _),
    fun safe hs => (h.rollbacks safe hs).later (Nat.lt_succ_self _), ?_⟩
  · exact h.pending.join (ShellSettings.agrees_differenceFrom _ _) fun field =>
      ShellSettings.eq_of_differenceFrom_none
  · intro document hdo field hf
    obtain ⟨hd, hn⟩ := Patch.join_none.1 hf
    have hst : next.values field = s.controller.state.values field :=
      ShellSettings.eq_of_differenceFrom_none hd
    simp only [hst]; exact h.settled document hdo field hn

theorem Tracks.dismissWriteFailure : Tracks { s with controller := s.controller.dismissWriteFailure } :=
  ⟨h.pending, h.queued, h.safe, h.rollbacks, h.settled⟩

omit h in
theorem Tracks.retryFailedWrite (h : Tracks s) : Tracks { s with controller := s.controller.retryFailedWrite } := by
  unfold ShellSettingsController.retryFailedWrite; split
  · exact h.dismissWriteFailure.update _
  · exact h

theorem Tracks.flush (safe : Option SafeWrite) (hs : ∀ safe' ∈ safe, Current s.controller safe') :
    Tracks (s.flush safe) := by
  refine ⟨h.pending, ?_, ?_, h.rollbacks, ?_⟩
  · simp only [SettingsSession.flush, List.mem_append, List.mem_singleton]
    rintro write (hw | rfl)
    · exact h.queued write hw
    · exact h.pending
  · simp only [SettingsSession.flush, List.mem_append, List.mem_singleton]
    rintro write (hw | rfl)
    · exact h.safe write hw
    · exact hs
  · intro document hd field hf
    rcases h.settled document hd field hf with hdo | ⟨hr, hqu⟩
    · exact .inl hdo
    refine .inr ⟨hr, ?_⟩
    simp only [SettingsSession.flush, List.mem_append, List.mem_singleton]
    rintro write (hw | rfl)
    · exact hqu write hw
    · rfl

theorem Tracks.writeSucceeded (hm : Merges s .writeSucceeded) : Tracks s.writeSucceeded := by
  unfold SettingsSession.writeSucceeded
  cases hqu : s.writeQueue with
  | nil => exact h
  | cons write writes =>
    have hr : ∀ later ∈ writes, later ∈ s.writeQueue := fun later hla => hqu ▸ List.mem_cons_of_mem _ hla
    have hh : write ∈ s.writeQueue := hqu ▸ List.mem_cons_self ..
    have hfe : ∀ safe, Current s.controller safe → Current (s.controller.committed write.committedPatch) safe := by
      refine fun safe hs => hs.fewer rfl fun field hf => ⟨?_, rfl⟩
      obtain ⟨value, hv⟩ := Option.ne_none_iff_exists'.1 hf
      rw [Patch.without_some hv]; exact Option.some_ne_none value
    refine ⟨h.pending.without, fun later hla => h.queued later (hr later hla),
      fun later hla safe hs => hfe safe (h.safe later (hr later hla) safe hs),
      fun safe hs => hfe safe (h.rollbacks safe hs), ?_⟩
    intro document hd field hf
    rcases Patch.eq_of_without_none hf with hno | hco
    · rcases h.settled document hd field hno with hdo | ⟨-, hw⟩
      · exact .inl hdo
      · exact .inr ⟨⟨write.written, rfl, (hw write hh).symm⟩, fun later hla =>
          hw later (hr later hla)⟩
    cases hn : s.controller.pendingMutationPatch field with
    | none =>
      rcases h.settled document hd field hn with hdo | ⟨-, hw⟩
      · exact .inl hdo
      · exact .inr ⟨⟨write.written, rfl, (hw write hh).symm⟩,
          fun later hla => hw later (hr later hla)⟩
    | some value =>
      -- the field was written with the value that the state has
      rw [hn] at hco
      have hst : s.controller.state.values field = value := h.pending field value hn
      have hwr : write.written.values field = value := h.queued write hh field value hco.symm
      refine .inr ⟨⟨write.written, rfl, hst.trans hwr.symm⟩, fun later hla => ?_⟩
      have hm := hm write (by rw [hqu]; rfl) field value hn hco.symm later
      rw [hqu] at hm; exact (hm hla).trans hst.symm

theorem Tracks.writeFailed : Tracks s.writeFailed := by
  unfold SettingsSession.writeFailed
  cases hqu : s.writeQueue with
  | nil => exact h
  | cons write writes =>
    have hr : ∀ later ∈ writes, later ∈ s.writeQueue := fun later hla => hqu ▸ List.mem_cons_of_mem _ hla
    refine ⟨h.pending, fun later hla => h.queued later (hr later hla),
      fun later hla => h.safe later (hr later hla), ?_, ?_⟩
    · simp only [List.mem_append, List.mem_filter, Option.mem_toList]
      rintro safe (hs | ⟨hs, -⟩)
      · exact h.rollbacks safe hs
      · exact h.safe write (hqu ▸ List.mem_cons_self ..) safe hs
    · intro document hd field hf
      rcases h.settled document hd field hf with hdo | ⟨hw, hwr⟩
      · exact .inl hdo
      · exact .inr ⟨hw, fun later hla => hwr later (hr later hla)⟩

theorem Tracks.rollbackRead (index : Nat) (r : Option ShellDocument) : Tracks (s.rollbackRead index r) := by
  have hr : ∀ safe ∈ s.rollbacks.eraseIdx index, Current s.controller safe := fun safe hs =>
    h.rollbacks safe (List.mem_of_mem_eraseIdx hs)
  unfold SettingsSession.rollbackRead; split
  · exact h
  split
  · exact ⟨h.pending, h.queued, h.safe, hr, h.settled⟩
  rename_i safe _ _ document; dsimp only; split
  · have he : ∀ safe', Current s.controller safe' →
        Current (s.controller.rollBack safe.rejected (.fromJson document)) safe' := fun safe' hs =>
      hs.fewer rfl fun field hf => absurd rfl hf
    refine ⟨Patch.agrees_empty, h.queued, fun write hw safe' hs =>
      he safe' (h.safe write hw safe' hs),
      fun safe' hs => he safe' (hr safe' hs), ?_⟩
    rintro doc' hd' field -
    cases hd'; exact .inl rfl
  · exact ⟨h.pending, h.queued, h.safe, hr, h.settled⟩

theorem Tracks.nativeDocument {doc : ShellDocument} (hm : Merges s (.nativeDocument doc)) :
    Tracks (s.nativeDocument doc) := by
  obtain ⟨hst, hau, hse, hn, hqu, hr⟩ := nativeDocument_taken hm
  have hla : ∀ safe, Current s.controller safe → Current (s.nativeDocument doc).controller safe :=
    fun safe hs => hs.later (by omega)
  refine ⟨?_, ?_, ?_, ?_, ?_⟩
  · rw [hst, hn]; exact Patch.agrees_overlay
  · rw [hqu]; exact h.queued
  · rw [hqu]
    exact fun write hw safe hs => hla safe (h.safe write hw safe hs)
  · rw [hr]
    exact fun safe hs => hla safe (h.rollbacks safe hs)
  · intro accepted hac field hf; rw [hau] at hac
    cases hac; rw [hn] at hf
    rw [hst, Patch.overlay_none hf]; exact .inl rfl

end Steps

theorem tracks_next (h : Tracks s) (hm : Merges s e) : Tracks (settingsNext s e) := by
  cases e with
  | mutate next => exact (h.update next).become
  | debounceExpired =>
    simp only [settingsNext]; split
    · refine h.flush _ fun safe hs => ?_
      cases hs; exact ⟨le_refl _, fun _ _ _ => rfl⟩
    · exact h
  | flush =>
    simp only [settingsNext]; split
    · exact h.flush none fun safe hs => nomatch hs
    · exact h
  | writeSucceeded => exact h.writeSucceeded hm
  | writeFailed => exact h.writeFailed
  | rollbackRead index restored => exact h.rollbackRead index restored
  | nativeDocument document => exact h.nativeDocument hm
  | retryFailedWrite => exact h.retryFailedWrite.become
  | dismissWriteFailure => exact h.dismissWriteFailure.become

/-! ## What stays pending -/

theorem update_ne_none {next : ShellSettings}
    (h : c.pendingMutationPatch field ≠ none ∨ next.values field ≠ c.state.values field) :
    (c.update next).pendingMutationPatch field ≠ none := by
  unfold update; split
  · rename_i heq
    refine h.resolve_right fun hne => hne ?_; rw [heq]
  intro hn
  obtain ⟨hd, hpe⟩ := Patch.join_none.1 hn
  rcases h with h | h
  · exact h hpe
  · exact h (eq_of_differenceFrom_none hd)

theorem pending_of_changes (h : ChangesField field s e) :
    (settingsNext s e).controller.pendingMutationPatch field ≠ none := by
  cases e with
  | mutate next => exact update_ne_none (.inr h)
  | retryFailedWrite =>
    obtain ⟨r, hr, hne⟩ := h
    simp only [settingsNext, retryFailedWrite]
    rw [Option.mem_def.1 hr]; exact update_ne_none (.inr hne)
  | _ => exact h.elim

theorem pending_next (h : Tracks s) (hme : Merges s e) (hn : s.controller.pendingMutationPatch field ≠ none)
    (hse : ¬SettlesField field s e) : (settingsNext s e).controller.pendingMutationPatch field ≠ none := by
  obtain ⟨value, hv⟩ := Option.ne_none_iff_exists'.1 hn
  have hst : s.controller.state.values field = value := h.pending field value hv
  cases e with
  | mutate next => exact update_ne_none (.inl hn)
  | debounceExpired | flush =>
    simp only [settingsNext]
    split <;> exact hn
  | writeSucceeded =>
    simp only [settingsNext, SettingsSession.writeSucceeded]
    cases hqu : s.writeQueue with
    | nil => exact hn
    | cons write writes =>
      intro hno
      rcases Patch.eq_of_without_none hno with hno | hm
      · exact hn hno
      have hh : write ∈ s.writeQueue := hqu ▸ List.mem_cons_self ..
      have hw := h.queued write hh field value (hm ▸ hv)
      exact hse ⟨write, by rw [hqu]; rfl, hw.trans hst.symm⟩
  | writeFailed =>
    simp only [settingsNext, SettingsSession.writeFailed]
    split <;> exact hn
  | rollbackRead index r =>
    simp only [settingsNext, SettingsSession.rollbackRead]; split
    · exact hn
    rename_i safe hs; split
    · exact hn
    · split
      · rename_i hsr
        have hr := h.rollbacks safe (List.mem_of_getElem? hs)
        exact absurd ⟨safe, hs, hr.2 hsr field hn⟩ hse
      · exact hn
  | nativeDocument document =>
    obtain ⟨-, -, -, hpa, -, -⟩ := nativeDocument_taken hme
    simp only [settingsNext]
    rwa [hpa]
  | retryFailedWrite =>
    simp only [settingsNext, retryFailedWrite]; split
    · exact update_ne_none (.inl hn)
    · exact hn
  | dismissWriteFailure => exact hn

theorem Tracks.eq_state (h : Tracks s) (hn : s.controller.pendingMutationPatch field ≠ none) :
    s.controller.pendingMutationPatch field = some (s.controller.state.values field) := by
  obtain ⟨value, hv⟩ := Option.ne_none_iff_exists'.1 hn; rw [hv, h.pending field value hv]

theorem tracks_exec (h : Along settingsNext Merges (.start initialSettings) run) :
    Tracks (exec settingsNext (.start initialSettings) run) :=
  exec_invariant_along (fun _ _ => tracks_next) (tracks_start initialSettings) h

theorem pending_since (h : Along settingsNext Merges (.start initialSettings) run) :
    Since settingsNext (ChangesField field) (SettlesField field) (.start initialSettings) run →
      (exec settingsNext (.start initialSettings) run).controller.pendingMutationPatch field ≠ none := by
  let I (run : List SettingsEvent) (s : SettingsSession) : Prop := Tracks s ∧
    (Since settingsNext (ChangesField field) (SettlesField field) (.start initialSettings) run →
      s.controller.pendingMutationPatch field ≠ none)
  have hn : I run (exec settingsNext (.start initialSettings) run) := by
    refine exec_history (I := I) (G := Merges) ⟨tracks_start initialSettings, fun hs =>
      (since_nil hs).elim⟩ ?_ h
    rintro run e ⟨hr, hk⟩ hm
    refine ⟨tracks_next hr hm, fun hs => ?_⟩
    rcases since_snoc.1 hs with hh | ⟨hf, hse⟩
    · exact pending_of_changes hh
    · exact pending_next hr hm (hk hf) hse
  exact hn.2

/-- In a run whose documents can take the pending patch, and whose queued writes agree on what leaves it, no change is
lost. -/
theorem no_change_lost (initialSettings : ShellSettings) (run : List SettingsEvent)
    (h : Along settingsNext Merges (.start initialSettings) run) : NoChangeLost initialSettings run where
  synchronized hempty _ document hdocument field := by
    have hset := (tracks_exec h).settled document hdocument field (hempty field)
    exact hset.imp_right And.left
  kept field hsin := (tracks_exec h).eq_state (pending_since h hsin)
  taken := by
    refine Along.of_invariant (I := Tracks) (fun _ _ => tracks_next) (fun s e _ hmer => ?_)
      (tracks_start initialSettings) h
    cases e with
    | nativeDocument document =>
      obtain ⟨hstat, haut, -⟩ := nativeDocument_taken hmer; exact ⟨haut, hstat⟩
    | _ => trivial

def fieldDocument (field : ShellField) (value : SettingValue) : ShellDocument := fun other =>
  if other = field then some value else none

def defaultSettings : ShellSettings := .fromJson fun _ => none

/-- The lock screen is dimmed twice, each time with a write, and a document arrives before they have succeeded. -/
def dimmedTwice : List SettingsEvent :=
  [.nativeDocument (fieldDocument .dimAmount (.number (1 / 8))),
    .mutate (.fromJson (fieldDocument .dimAmount (.number (1 / 2)))), .debounceExpired,
    .mutate (.fromJson (fieldDocument .dimAmount (.number (1 / 4)))), .debounceExpired,
    .nativeDocument (fieldDocument .panelTravel (.number 16)), .writeSucceeded, .writeSucceeded]

theorem dimmedTwice_kept : NoChangeLost defaultSettings dimmedTwice :=
  no_change_lost defaultSettings dimmedTwice (by decide +kernel)

/-- Two writes are queued when the value goes back to that of the first one. -/
def dimmedBack : List SettingsEvent :=
  [.nativeDocument (fieldDocument .dimAmount (.number (1 / 8))),
    .mutate (.fromJson (fieldDocument .dimAmount (.number (1 / 2)))), .debounceExpired,
    .mutate (.fromJson (fieldDocument .dimAmount (.number (1 / 4)))), .debounceExpired,
    .mutate (.fromJson (fieldDocument .dimAmount (.number (1 / 2)))), .writeSucceeded, .writeSucceeded]

/-- The layout is reset, and a document arrives before that is written. -/
def barReset : List SettingsEvent :=
  [.nativeDocument (fieldDocument .systemBarSide (.string "left")), .mutate defaultSettings,
    .nativeDocument (fieldDocument .panelTravel (.number 16))]

/-- The first write takes the value out of the patch, and the second writes the other one; a patch that takes a value
away cannot be put into a document. -/
theorem changes_lost : ¬NoChangeLost defaultSettings dimmedBack ∧ ¬NoChangeLost defaultSettings barReset := by
  constructor
  · intro h
    have hsyn := h.synchronized (by decide +kernel) (List.isEmpty_iff.1 (by decide +kernel))
    exact absurd hsyn (by decide +kernel)
  · intro h; exact absurd h.taken (by decide +kernel)

end Deniald.Shell
