/-
Input-method sessions: editors that change, blocking, and input methods that come, ask for things and go.
-/
import Deniald.InputMethod.Publish
import Deniald.Lib.Run

namespace Deniald.InputMethod

open Deniald.Lib
open InputMethodManager

/-! ## Sessions -/

inductive InputMethodEvent where
  | setBlocked (blocked : Bool)
  /-- The editors have changed, and the input method is synchronized with them. -/
  | synchronize (text : TextInputManager)
  | register (resource : Nat)
  /-- The client of the input method is gone, which no callback has told yet. -/
  | died
  | destroyed (resource : Nat)
  | stage (resource : Nat) (request : StagedRequest)
  | commit (resource : Nat) (serial : UInt32)
  | drainFlutterTransactions

/-- The input method with what it has been sent since it was registered, when an editor was activated for it last, and
when it staged a request of each kind last; both by the number of events so far. -/
structure InputMethodSession where
  manager : InputMethodManager := {}
  text : TextInputManager := {}
  now : Nat := 0
  sent : List InputMethodMessage := []
  activatedAt : Nat := 0
  stagedAt : RequestKind → Nat := fun _ => 0

namespace InputMethodSession

/-- Requests of an object whose client is gone are not dispatched. -/
def dispatched (t : InputMethodSession) (resource : Nat) : Bool :=
  t.manager.inputMethod.any fun i => i.resource = resource && i.alive

def handle (t : InputMethodSession) :
    InputMethodEvent → InputMethodManager × List InputMethodMessage × Option Handover
  | .setBlocked blocked =>
    let (m, messages) := t.manager.setBlocked blocked
    (m, messages, none)
  | .synchronize text =>
    let (m, messages) := t.manager.synchronize text.inputMethodSnapshot
    (m, messages, none)
  | .register resource =>
    if t.manager.canRegister then
      let (m, messages) := t.manager.register resource
      (m, messages, none)
    else (t.manager, [], none)
  | .died => ({ t.manager with inputMethod := t.manager.inputMethod.map fun i => { i with alive := false } }, [], none)
  | .destroyed resource => (t.manager.unregister resource, [], none)
  | .stage resource request =>
    if t.dispatched resource then (t.manager.stage resource request, [], none) else (t.manager, [], none)
  | .commit resource serial =>
    if t.dispatched resource then
      let (m, handover) := commitRequest t.manager t.text resource serial
      (m, [], handover)
    else (t.manager, [], none)
  | .drainFlutterTransactions => ({ t.manager with flutterTransactions := [] }, [], none)

def stagedAfter (t : InputMethodSession) : InputMethodEvent → RequestKind → Nat
  | .stage resource request =>
    if t.dispatched resource && request.valid then Function.update t.stagedAt request.kind (t.now + 1) else t.stagedAt
  | _ => t.stagedAt

def sentBefore (t : InputMethodSession) : InputMethodEvent → List InputMethodMessage
  | .register _ => if t.manager.canRegister then [] else t.sent
  | _ => t.sent

def textAfter (t : InputMethodSession) : InputMethodEvent → TextInputManager
  | .synchronize text => text
  | _ => t.text

def next (t : InputMethodSession) (e : InputMethodEvent) : InputMethodSession :=
  let (manager, messages, _) := t.handle e
  { manager
    text := t.textAfter e
    now := t.now + 1
    sent := t.sentBefore e ++ messages
    activatedAt := if .activate ∈ messages then t.now + 1 else t.activatedAt
    stagedAt := t.stagedAfter e }

/-- The session is locked, or the field in focus is a secret one. -/
def secured (t : InputMethodSession) : Bool := t.manager.blocked || t.text.secured

end InputMethodSession

def InputMethodTransaction.has (transaction : InputMethodTransaction) : RequestKind → Bool
  | .commitString => transaction.commitString.isSome
  | .preedit => transaction.preeditString.isSome
  | .delete => transaction.deleteSurrounding.isSome

namespace InputMethodSession

/-! ## The protocol -/

/-- An editor is handed only requests staged after it was activated last. -/
def HandsFresh (t : InputMethodSession) (e : InputMethodEvent) : Prop :=
  ∀ handover, (t.handle e).2.2 = some handover → ∀ kind, handover.transaction.has kind = true →
    t.activatedAt < t.stagedAt kind

/-- A text input is handed a transaction under its newest serial, which is acknowledged unless the input method has
committed with a serial that is not its newest; Flutter is handed none of those. -/
def HandsNewest (t : InputMethodSession) : InputMethodEvent → Prop
  | .commit resource serial =>
    ∀ handover, (t.handle (.commit resource serial)).2.2 = some handover → match handover with
      | .wayland id editorSerial done _ => t.text.sessions.activeSerial = some (id, editorSerial) ∧
        done = if serial = UInt32.ofNat (t.sent.count .done) then editorSerial else 0
      | .flutter generation clientId _ => serial = UInt32.ofNat (t.sent.count .done) ∧
        ∃ editor lifecycle, t.text.inputMethodSnapshot = some editor ∧
          editor.endpoint = .flutter generation lifecycle clientId
  | _ => True

/-- While the session is secured, the input method is sent nothing but that its editor is gone, has no keys routed to
it, and hands nothing over. -/
structure Guarded (t : InputMethodSession) (e : InputMethodEvent) : Prop where
  closes : (t.next e).secured = true → (t.handle e).2.1 = [] ∨ (t.handle e).2.1 = [.deactivate, .done]
  quiet : t.secured = true → (t.next e).secured = true → (t.handle e).2.1 = []
  keyless : (t.next e).secured = true → (t.next e).manager.keyboardActive = false
  refuses : t.secured = true → (t.handle e).2.2 = none

/-- The serial of the input method counts what it has been told is done, and editors are activated and deactivated in
turn. -/
structure Counted (m : InputMethodManager) (sent : List InputMethodMessage) : Prop where
  serial : ∀ i, m.inputMethod = some i → i.serial = UInt32.ofNat (sent.count .done)
  alternates : ∀ i, m.inputMethod = some i → Alternates sent false i.active

/-- The protocol over a run. -/
structure Protocol (es : List InputMethodEvent) : Prop where
  counted : ∀ before after, es = before ++ after →
    Counted (exec next ({} : InputMethodSession) before).manager (exec next ({} : InputMethodSession) before).sent
  fresh : Along next HandsFresh ({} : InputMethodSession) es
  newest : Along next HandsNewest ({} : InputMethodSession) es
  guarded : Along next Guarded ({} : InputMethodSession) es

def seenAfter (t : InputMethodSession) : InputMethodEvent → Bool
  | .setBlocked blocked => ({ t.manager with blocked := blocked } : InputMethodManager).effective.isSome
  | .synchronize text => ({ t.manager with editor := text.inputMethodSnapshot } : InputMethodManager).effective.isSome
  | _ => t.manager.effective.isSome

def Clear (t : InputMethodSession) (e : InputMethodEvent) : Prop :=
  ∀ i, t.manager.inputMethod = some i → i.alive = true → i.active = false → t.seenAfter e = true → i.pending = {}

/-! ## What every session keeps -/

structure Shown (m : InputMethodManager) : Prop where
  active : ∀ i, m.inputMethod = some i → i.alive = true → i.active = m.effective.isSome
  endpoint : ∀ i editor, m.inputMethod = some i → i.alive = true → m.effective = some editor →
    i.activeEndpoint.any (·.sameEditor editor.endpoint) = true
  keyboard : m.keyboardActive = true → m.effective.isSome = true

structure Linked (t : InputMethodSession) : Prop where
  counted : Counted t.manager t.sent
  shown : Shown t.manager
  editor : t.manager.editor = t.text.inputMethodSnapshot
  activated : t.activatedAt ≤ t.now
  staged : ∀ kind, t.stagedAt kind ≤ t.now

def Fresh (t : InputMethodSession) : Prop :=
  ∀ i, t.manager.inputMethod = some i → i.active = true → ∀ kind, i.pending.has kind = true →
    t.activatedAt < t.stagedAt kind

theorem linked_start : Linked {} :=
  ⟨⟨fun _ h => (nomatch h), fun _ h => (nomatch h)⟩,
    ⟨fun _ h => (nomatch h), fun _ _ h => (nomatch h), fun h => (nomatch h)⟩, rfl, Nat.le_refl 0, fun _ => Nat.le_refl 0⟩

theorem fresh_start : Fresh {} := fun _ h => (nomatch h)

variable {t : InputMethodSession} {m m' : InputMethodManager} {text : TextInputManager} {i : InputMethodInstance}

theorem effective_of_secured (h : t.manager.editor = t.text.inputMethodSnapshot) (hs : t.secured = true) :
    t.manager.effective = none := by
  unfold effective
  cases he : t.manager.editor with
  | none => rfl
  | some ed =>
    refine Option.filter_some_neg ?_; unfold secured at hs
    cases hbl : t.manager.blocked with
    | true => simp
    | false =>
      rw [hbl, Bool.false_or] at hs
      rw [TextInputManager.not_permits_of_secured hs (h.symm.trans he)]; simp

/-! ## Publishing -/

theorem counted_publish {sent : List InputMethodMessage} (h : Counted m sent) :
    Counted m.publishEditorState.1 (sent ++ m.publishEditorState.2) := by
  unfold publishEditorState; split
  · dsimp only
    rw [List.append_nil]; exact ⟨h.serial, h.alternates⟩
  rename_i i hi
  obtain ⟨hs, -⟩ := Option.filter_eq_some_iff.1 hi
  have hpu := publish_spec i m.effective
  generalize i.publish m.effective = r at hpu
  refine ⟨fun j hj => ?_, fun j hj => ?_⟩
  · cases hj; dsimp only
    rw [hpu.serial, h.serial i hs, List.count_append, UInt32.ofNat_add]
  · cases hj
    exact (h.alternates i hs).append hpu.alternates

theorem shown_publish (m : InputMethodManager) : Shown m.publishEditorState.1 := by
  unfold publishEditorState; split
  · rename_i hd
    have hv {i : InputMethodInstance} (hi : m.inputMethod = some i) : i.alive ≠ true := by
      intro hv
      rw [hi, Option.filter_some_pos hv] at hd; cases hd
    exact ⟨fun i hi h => absurd h (hv hi), fun i ed hi h => absurd h (hv hi), nofun⟩
  · rename_i i hi
    have hpu := publish_spec i m.effective
    generalize i.publish m.effective = r at hpu
    have hf : ({ m with inputMethod := some r.1, keyboardActive := r.1.active } : InputMethodManager).effective =
        m.effective := rfl
    refine ⟨fun j hj _ => ?_, fun j ed hj _ he => ?_, fun hk => ?_⟩
    · cases hj; exact hpu.active
    · cases hj; rw [hpu.endpoint ed he]
      exact EditorEndpoint.sameEditor_self ed.endpoint
    · rw [hf, ← hpu.active]; exact hk

theorem publish_closes (h : m.effective = none) :
    (m.publishEditorState.2 = [] ∨ m.publishEditorState.2 = [.deactivate, .done]) ∧
      ((∀ i, m.inputMethod = some i → i.alive = true → i.active = false) → m.publishEditorState.2 = []) := by
  unfold publishEditorState; split
  · exact ⟨.inl rfl, fun _ => rfl⟩
  rename_i i hi
  obtain ⟨hs, hv⟩ := Option.filter_eq_some_iff.1 hi
  have hpu := publish_spec i m.effective
  exact ⟨hpu.closes h, fun hd => hpu.quiet h (hd i hs hv)⟩

/-! ## Events that publish nothing -/

/-- What a death or a request leaves: the input method's counts and activity, if it is still there. -/
structure Calm (m m' : InputMethodManager) : Prop where
  editor : m'.editor = m.editor
  blocked : m'.blocked = m.blocked
  keyboard : m'.keyboardActive = true → m.keyboardActive = true
  kept : ∀ j, m'.inputMethod = some j → ∃ i, m.inputMethod = some i ∧ j.serial = i.serial ∧ j.active = i.active ∧
    (j.alive = true → i.alive = true) ∧ (j.activeEndpoint = i.activeEndpoint ∨
      ∃ editor, m.editor = some editor ∧ j.activeEndpoint = some editor.endpoint)

theorem Calm.refl (m : InputMethodManager) : Calm m m :=
  ⟨rfl, rfl, id, fun j hj => ⟨j, hj, rfl, rfl, id, .inl rfl⟩⟩

theorem Calm.effective (h : Calm m m') : m'.effective = m.effective := by
  unfold InputMethodManager.effective; rw [h.editor, h.blocked]

theorem Calm.counted (h : Calm m m') {sent : List InputMethodMessage} (hn : Counted m sent) :
    Counted m' (sent ++ []) := by
  rw [List.append_nil]
  refine ⟨fun j hj => ?_, fun j hj => ?_⟩
  · obtain ⟨i, hi, hs, -⟩ := h.kept j hj; rw [hs, hn.serial i hi]
  · obtain ⟨i, hi, -, hac, -⟩ := h.kept j hj
    rw [hac]; exact hn.alternates i hi

theorem Calm.shown (h : Calm m m') (hs : Shown m) : Shown m' := by
  refine ⟨fun j hj hja => ?_, fun j ed hj hja he => ?_, fun hk => ?_⟩
  · obtain ⟨i, hi, -, hac, hv, -⟩ := h.kept j hj
    rw [hac, h.effective, hs.active i hi (hv hja)]
  · obtain ⟨i, hi, -, -, hv, hn⟩ := h.kept j hj; rw [h.effective] at he
    rcases hn with hsa | ⟨current, hr, hn⟩
    · rw [hsa]
      exact hs.endpoint i ed hi (hv hja) he
    obtain ⟨hm, -⟩ := Option.filter_eq_some_iff.1 he
    obtain rfl := Option.some.inj (hr.symm.trans hm); rw [hn]
    exact EditorEndpoint.sameEditor_self current.endpoint
  · rw [h.effective]; exact hs.keyboard (h.keyboard hk)

theorem calm_unregister (m : InputMethodManager) (res : Nat) : Calm m (m.unregister res) := by
  unfold unregister; split
  · exact .refl m
  · exact ⟨rfl, rfl, fun h => (nomatch h), fun j hj => (nomatch hj)⟩

theorem calm_stage (m : InputMethodManager) (res : Nat) (request : StagedRequest) : Calm m (m.stage res request) := by
  unfold stage; split
  · exact .refl m
  rename_i i hi; split
  · refine ⟨rfl, rfl, id, fun j hj => ?_⟩; cases hj
    exact ⟨i, (Option.filter_eq_some_iff.1 hi).1, rfl, rfl, id, .inl rfl⟩
  · exact .refl m

theorem calm_commit (m : InputMethodManager) (res : Nat) (ser : UInt32) : Calm m (m.commit res ser).1 := by
  unfold commit; split
  · rename_i ed i he hi
    have hs := (Option.filter_eq_some_iff.1 hi).1; dsimp only
    split
    · refine ⟨rfl, rfl, id, fun j hj => ?_⟩
      cases hj; exact ⟨i, hs, rfl, rfl, id, .inl rfl⟩
    refine ⟨rfl, rfl, id, fun j hj => ?_⟩; cases hj
    exact ⟨i, hs, rfl, rfl, id, .inr ⟨ed, he, rfl⟩⟩
  · exact .refl m

theorem calm_commitRequest (m : InputMethodManager) (text : TextInputManager) (res : Nat) (ser : UInt32) :
    Calm m (commitRequest m text res ser).1 := by
  have hm := calm_commit m res ser; unfold commitRequest
  split
  · rename_i m' heq; rw [heq] at hm; exact hm
  · rename_i m' id es surface transaction sm heq; rw [heq] at hm
    split <;> exact hm
  rename_i m' generation lifecycle cl transaction sm heq; rw [heq] at hm; split
  · exact ⟨hm.editor, hm.blocked, hm.keyboard, hm.kept⟩
  · exact hm

/-- The events that are about requests and deaths. -/
def calmEvent : InputMethodEvent → Bool
  | .setBlocked _ | .synchronize _ | .register _ => false
  | _ => true

variable {e : InputMethodEvent}

theorem calm_handle (he : calmEvent e = true) :
    Calm t.manager (t.handle e).1 ∧ (t.handle e).2.1 = [] ∧ t.sentBefore e = t.sent ∧ t.textAfter e = t.text := by
  cases e with
  | setBlocked | synchronize | register => cases he
  | died =>
    refine ⟨⟨rfl, rfl, id, fun j hj => ?_⟩, rfl, rfl, rfl⟩
    obtain ⟨i, hi, rfl⟩ := Option.map_eq_some_iff.1 hj
    exact ⟨i, hi, rfl, rfl, fun h => (nomatch h), .inl rfl⟩
  | destroyed res => exact ⟨calm_unregister t.manager res, rfl, rfl, rfl⟩
  | stage res request =>
    unfold handle; dsimp only
    split
    · exact ⟨calm_stage t.manager res request, rfl, rfl, rfl⟩
    · exact ⟨.refl t.manager, rfl, rfl, rfl⟩
  | commit res ser =>
    unfold handle; dsimp only
    split
    · exact ⟨calm_commitRequest t.manager t.text res ser, rfl, rfl, rfl⟩
    · exact ⟨.refl t.manager, rfl, rfl, rfl⟩
  | drainFlutterTransactions =>
    exact ⟨⟨rfl, rfl, id, fun j hj => ⟨j, hj, rfl, rfl, id, .inl rfl⟩⟩, rfl, rfl, rfl⟩

/-! ## Events that publish -/

structure Republishes (t : InputMethodSession) (e : InputMethodEvent) (m : InputMethodManager) : Prop where
  handle : t.handle e = (m.publishEditorState.1, m.publishEditorState.2, none)
  editor : t.manager.editor = t.text.inputMethodSnapshot → m.editor = (t.textAfter e).inputMethodSnapshot
  counted : Counted t.manager t.sent → Counted m (t.sentBefore e)
  pending : ∀ i, m.inputMethod = some i → (i.active = false ∧ i.pending = {}) ∨
    (t.manager.inputMethod = some i ∧ m.effective.isSome = t.seenAfter e)

/-- An event that changes nothing. -/
structure Unchanged (t : InputMethodSession) (e : InputMethodEvent) : Prop where
  handle : t.handle e = (t.manager, [], none)
  sent : t.sentBefore e = t.sent
  editor : t.manager.editor = t.text.inputMethodSnapshot → t.manager.editor = (t.textAfter e).inputMethodSnapshot

theorem republishes_setBlocked {blocked : Bool} (h : t.manager.blocked ≠ blocked) :
    t.Republishes (.setBlocked blocked) { t.manager with blocked := blocked } := by
  refine ⟨?_, id, fun h => ⟨h.serial, h.alternates⟩, fun i hi => .inr ⟨hi, rfl⟩⟩
  unfold handle setBlocked; dsimp only
  rw [if_neg h]

theorem republishes_synchronize (h : t.manager.editor ≠ text.inputMethodSnapshot) :
    t.Republishes (.synchronize text) { t.manager with editor := text.inputMethodSnapshot } := by
  refine ⟨?_, fun _ => rfl, fun h => ⟨h.serial, h.alternates⟩, fun i hi => .inr ⟨hi, rfl⟩⟩
  unfold handle synchronize; dsimp only
  rw [if_neg h]

theorem unchanged_or_republishes (he : calmEvent e = false) : t.Unchanged e ∨ ∃ m, t.Republishes e m := by
  cases e with
  | setBlocked blocked =>
    by_cases hs : t.manager.blocked = blocked
    · refine .inl ⟨?_, rfl, id⟩
      unfold handle setBlocked; dsimp only
      rw [if_pos hs]
    · exact .inr ⟨_, republishes_setBlocked hs⟩
  | synchronize text =>
    by_cases hs : t.manager.editor = text.inputMethodSnapshot
    · refine .inl ⟨?_, rfl, fun _ => hs⟩
      unfold handle synchronize; dsimp only
      rw [if_pos hs]
    · exact .inr ⟨_, republishes_synchronize hs⟩
  | register resource =>
    by_cases hf : t.manager.canRegister = true
    · refine .inr ⟨{ t.manager with flutterTransactions := [], inputMethod := some { resource } }, ?_, id, fun _ => ?_,
        fun i hi => ?_⟩
      · unfold handle register; dsimp only
        rw [if_pos hf]
      · unfold sentBefore; dsimp only
        rw [if_pos hf]
        refine ⟨fun i hi => ?_, fun i hi => ?_⟩
        · cases hi; rfl
        · cases hi; exact alternates_nil false
      · cases hi; exact .inl ⟨rfl, rfl⟩
    · refine .inl ⟨?_, ?_, id⟩
      · unfold handle; dsimp only
        rw [if_neg hf]
      · unfold sentBefore; dsimp only
        rw [if_neg hf]
  | died | destroyed | stage | commit | drainFlutterTransactions => cases he

theorem effective_publish (m : InputMethodManager) : m.publishEditorState.1.effective = m.effective := by
  unfold publishEditorState
  split <;> rfl

theorem editor_publish (m : InputMethodManager) : m.publishEditorState.1.editor = m.editor := by
  unfold publishEditorState
  split <;> rfl

/-! ## Every session -/

theorem linked_next (h : t.Linked) (e : InputMethodEvent) : (t.next e).Linked := by
  have hti : (t.next e).activatedAt ≤ (t.next e).now ∧ ∀ kind, (t.next e).stagedAt kind ≤ (t.next e).now := by
    constructor
    · show (if InputMethodMessage.activate ∈ (t.handle e).2.1 then t.now + 1 else t.activatedAt) ≤ t.now + 1
      split
      · exact Nat.le_refl _
      · exact Nat.le_succ_of_le h.activated
    · intro kind
      show t.stagedAfter e kind ≤ t.now + 1; unfold stagedAfter
      split
      · split
        · rw [Function.update_apply]; split
          · exact Nat.le_refl _
          · exact Nat.le_succ_of_le (h.staged kind)
        · exact Nat.le_succ_of_le (h.staged kind)
      · exact Nat.le_succ_of_le (h.staged kind)
  suffices hn : Counted (t.handle e).1 (t.sentBefore e ++ (t.handle e).2.1) ∧ Shown (t.handle e).1 ∧
      (t.handle e).1.editor = (t.textAfter e).inputMethodSnapshot from
    ⟨hn.1, hn.2.1, hn.2.2, hti.1, hti.2⟩
  cases he : calmEvent e with
  | true =>
    obtain ⟨hca, hs, hse, hte⟩ := calm_handle (t := t) he
    rw [hs, hse, hte, hca.editor]
    exact ⟨hca.counted h.counted, hca.shown h.shown, h.editor⟩
  | false =>
    obtain hu | ⟨m, hm⟩ := unchanged_or_republishes (t := t) he
    · rw [hu.handle, hu.sent]
      exact ⟨(Calm.refl _).counted h.counted, h.shown, hu.editor h.editor⟩
    · rw [hm.handle, editor_publish]
      exact ⟨counted_publish (hm.counted h.counted), shown_publish m, hm.editor h.editor⟩

theorem handover_spec {res : Nat} {s : UInt32} {handover : Handover}
    (h : (commitRequest m text res s).2 = some handover) :
    ∃ i editor, m.inputMethod = some i ∧ i.active = true ∧ m.editor = some editor ∧
      handover.transaction = i.pending ∧ match handover with
        | .wayland id ser done _ => text.sessions.activeSerial = some (id, ser) ∧
          done = if s = i.serial then ser else 0
        | .flutter generation clientId _ => s = i.serial ∧
          ∃ lifecycle, editor.endpoint = .flutter generation lifecycle clientId := by
  have hm {m' : InputMethodManager} {en : EditorEndpoint} {transaction : InputMethodTransaction}
      {sm : Bool} (heq : m.commit res s = (m', some (en, transaction, sm))) :
      ∃ i editor, m.inputMethod = some i ∧ i.active = true ∧ m.editor = some editor ∧ transaction = i.pending ∧
        editor.endpoint = en ∧ sm = decide (s = i.serial) := by
    unfold commit at heq; split at heq
    · rename_i editor i he hi; dsimp only at heq; split at heq
      · cases heq
      rename_i hac
      rw [Bool.or_eq_true, not_or, Bool.not_eq_true', Bool.not_eq_false] at hac; cases heq
      exact ⟨i, editor, (Option.filter_eq_some_iff.1 hi).1, hac.1, he, rfl, rfl, rfl⟩
    · cases heq
  unfold commitRequest at h; split at h
  · cases h
  · rename_i m' id ser surface transaction sm heq
    obtain ⟨i, editor, hi, hac, he, rfl, hn, rfl⟩ := hm heq; split at h
    · rename_i hacc; cases h
      refine ⟨i, editor, hi, hac, he, rfl, of_decide_eq_true hacc, ?_⟩
      simp
    · cases h
  · rename_i m' generation lifecycle clientId transaction sm heq
    obtain ⟨i, editor, hi, hac, he, rfl, hn, rfl⟩ := hm heq; split at h
    · rename_i hma; cases h
      exact ⟨i, editor, hi, hac, he, rfl, of_decide_eq_true hma, lifecycle, hn⟩
    · cases h

theorem handover_of_handle {handover : Handover} (h : (t.handle e).2.2 = some handover) :
    ∃ res serial, e = .commit res serial ∧
      t.dispatched res = true ∧ (commitRequest t.manager t.text res serial).2 = some handover := by
  cases he : calmEvent e with
  | false =>
    obtain hu | ⟨m, hm⟩ := unchanged_or_republishes (t := t) he
    · rw [hu.handle] at h; cases h
    · rw [hm.handle] at h; cases h
  | true =>
    cases e with
    | commit res serial =>
      unfold handle at h; dsimp only at h
      split at h
      · rename_i hd; exact ⟨res, serial, rfl, hd, h⟩
      · cases h
    | stage res request =>
      unfold handle at h; dsimp only at h
      split at h <;> cases h
    | setBlocked | synchronize | register => cases he
    | died | destroyed | drainFlutterTransactions => cases h

theorem handsNewest (h : t.Linked) (e : InputMethodEvent) : t.HandsNewest e := by
  cases e with
  | commit res s =>
    intro handover hh
    obtain ⟨_, _, heq, -, hm⟩ := handover_of_handle hh; cases heq
    obtain ⟨i, editor, hi, -, he, -, hs⟩ := handover_spec hm
    have hr := h.counted.serial i hi
    cases handover with
    | wayland id ser done transaction =>
      rw [← hr]; exact hs
    | flutter generation cl transaction =>
      obtain ⟨hsa, lifecycle, hn⟩ := hs
      exact ⟨hsa.trans hr, editor, lifecycle, h.editor.symm.trans he, hn⟩
  | setBlocked | synchronize | register | died | destroyed | stage | drainFlutterTransactions => trivial

theorem handsFresh (h : t.Fresh) (e : InputMethodEvent) : t.HandsFresh e := by
  intro handover hh kind hk
  obtain ⟨res, serial, -, -, hm⟩ := handover_of_handle hh
  obtain ⟨i, -, hi, hac, -, hr, -⟩ := handover_spec hm
  rw [hr] at hk; exact h i hi hac kind hk

/-! ## Secured sessions -/

theorem inactive_of_secured (h : t.Linked) (hs : t.secured = true) (hi : t.manager.inputMethod = some i)
    (hv : i.alive = true) : i.active = false := by
  rw [h.shown.active i hi hv, effective_of_secured h.editor hs]; rfl

theorem guarded_next (h : t.Linked) (e : InputMethodEvent) : t.Guarded e := by
  have hn := linked_next h e
  have hun (hs : (t.next e).secured = true) : (t.handle e).1.effective = none :=
    effective_of_secured hn.editor hs
  refine ⟨fun hs => ?_, fun hf hs => ?_, fun hs => ?_, fun hs => ?_⟩
  · cases he : calmEvent e with
    | true => exact .inl (calm_handle he).2.1
    | false =>
      obtain hu | ⟨m, hm⟩ := unchanged_or_republishes (t := t) he
      · rw [hu.handle]; exact .inl rfl
      · have := hun hs
        rw [hm.handle, effective_publish] at this
        rw [hm.handle]; exact (publish_closes this).1
  · cases he : calmEvent e with
    | true => exact (calm_handle he).2.1
    | false =>
      obtain hu | ⟨m, hm⟩ := unchanged_or_republishes (t := t) he
      · rw [hu.handle]
      · have := hun hs
        rw [hm.handle, effective_publish] at this; rw [hm.handle]
        refine (publish_closes this).2 fun i hi hv => ?_
        obtain ⟨hil, -⟩ | ⟨hi, -⟩ := hm.pending i hi
        · exact hil
        · exact inactive_of_secured h hf hi hv
  · have hef := effective_of_secured hn.editor hs
    cases hk : (t.next e).manager.keyboardActive with
    | false => rfl
    | true =>
      have := hn.shown.keyboard hk
      rw [hef] at this; cases this
  · cases hh : (t.handle e).2.2 with
    | none => rfl
    | some handover =>
      obtain ⟨res, serial, -, hd, hco⟩ := handover_of_handle hh
      obtain ⟨i, -, hi, hac, -⟩ := handover_spec hco
      obtain ⟨j, hj, hv⟩ := (Option.any_eq_true _ _).1 hd
      obtain rfl := Option.some.inj (hi.symm.trans hj)
      rw [inactive_of_secured h hs hi (Bool.and_eq_true_iff.1 hv).2] at hac; cases hac

/-! ## Fresh requests -/

theorem has_apply {request : StagedRequest} {pending : InputMethodTransaction} {kind : RequestKind}
    (h : (request.apply pending).has kind = true) : kind = request.kind ∨ pending.has kind = true := by
  cases request <;> cases kind <;> first | exact .inl rfl | exact .inr h

theorem stage_of_resource (hi : m.inputMethod = some i) (request : StagedRequest) :
    m.stage i.resource request = if request.valid then
      { m with inputMethod := some { i with pending := request.apply i.pending } } else m := by
  have hf : (m.inputMethod.filter fun j => j.resource = i.resource) = some i :=
    Option.filter_eq_some_iff.2 ⟨hi, decide_eq_true rfl⟩
  unfold stage; rw [hf]

theorem fresh_stage (h : t.Linked) (hf : t.Fresh) (res : Nat) (request : StagedRequest) :
    (t.next (.stage res request)).Fresh := by
  cases hd : t.dispatched res with
  | false =>
    have hn : t.next (.stage res request) = { t with now := t.now + 1, sent := t.sent ++ [] } := by
      simp [next, handle, stagedAfter, sentBefore, textAfter, hd]
    rw [hn]; exact hf
  | true =>
    obtain ⟨i, hi, hd'⟩ := (Option.any_eq_true _ _).1 hd
    obtain rfl := of_decide_eq_true (Bool.and_eq_true_iff.1 hd').1
    cases hv : request.valid with
    | false =>
      have hn : t.next (.stage i.resource request) = { t with now := t.now + 1, sent := t.sent ++ [] } := by
        simp [next, handle, stagedAfter, sentBefore, textAfter, hd, stage_of_resource hi, hv]
      rw [hn]; exact hf
    | true =>
      have hn : t.next (.stage i.resource request) = { t with
          manager := { t.manager with inputMethod := some { i with pending := request.apply i.pending } }
          now := t.now + 1
          sent := t.sent ++ []
          stagedAt := Function.update t.stagedAt request.kind (t.now + 1) } := by
        simp [next, handle, stagedAfter, sentBefore, textAfter, hd, stage_of_resource hi, hv]
      rw [hn]; intro j hj hac kind hk
      cases hj
      show t.activatedAt < Function.update t.stagedAt request.kind (t.now + 1) kind
      rw [Function.update_apply]; split
      · exact Nat.lt_succ_of_le h.activated
      · rename_i ho
        exact hf i hi hac kind ((has_apply hk).resolve_left ho)

theorem pending_commitRequest {res : Nat} {ser : UInt32} {j : InputMethodInstance}
    (h : (commitRequest m text res ser).1.inputMethod = some j) : j.pending = {} ∨ m.inputMethod = some j := by
  have hm : ∀ j, (m.commit res ser).1.inputMethod = some j → j.pending = {} ∨ m.inputMethod = some j := by
    intro j hj; unfold commit at hj
    split at hj
    · dsimp only at hj
      split at hj <;> (cases hj; exact .inl rfl)
    · exact .inr hj
  unfold commitRequest at h; split at h
  · rename_i m' heq; rw [heq] at hm; exact hm j h
  · rename_i m' id es surface transaction sm heq; rw [heq] at hm
    split at h <;> exact hm j h
  · rename_i m' generation lifecycle cl transaction sm heq; rw [heq] at hm
    split at h <;> exact hm j h

theorem not_has_empty (kind : RequestKind) : ({} : InputMethodTransaction).has kind = false := by
  cases kind <;> rfl

theorem fresh_calm (hf : t.Fresh) (he : calmEvent e = true)
    (hs : ∀ res request, e ≠ .stage res request) : (t.next e).Fresh := by
  obtain ⟨-, hme, -⟩ := calm_handle (t := t) he
  have hac : (t.next e).activatedAt = t.activatedAt := by
    show (if InputMethodMessage.activate ∈ (t.handle e).2.1 then t.now + 1 else t.activatedAt) = t.activatedAt
    rw [hme, if_neg List.not_mem_nil]
  have hst : (t.next e).stagedAt = t.stagedAt := by
    cases e with
    | stage res request => exact absurd rfl (hs res request)
    | _ => rfl
  intro j hj hv kind hk; rw [hac, hst]
  cases e with
  | setBlocked | synchronize | register => cases he
  | stage res request => exact absurd rfl (hs res request)
  | died =>
    obtain ⟨i, hi, rfl⟩ := Option.map_eq_some_iff.1 hj; exact hf i hi hv kind hk
  | destroyed res =>
    have hj : (t.manager.unregister res).inputMethod = some j := hj
    unfold unregister at hj; split at hj
    · exact hf j hj hv kind hk
    · cases hj
  | commit res ser =>
    have hj : (t.handle (.commit res ser)).1.inputMethod = some j := hj
    unfold handle at hj; dsimp only at hj
    split at hj
    · obtain hm | hsa := pending_commitRequest hj
      · rw [hm, not_has_empty] at hk; cases hk
      · exact hf j hsa hv kind hk
    · exact hf j hj hv kind hk
  | drainFlutterTransactions => exact hf j hj hv kind hk

theorem fresh_republishes (hfr : t.Fresh) (he : calmEvent e = false) (hr : t.Clear e) (hm : t.Republishes e m) :
    (t.next e).Fresh := by
  have hst : (t.next e).stagedAt = t.stagedAt := by
    cases e with
    | setBlocked | synchronize | register => rfl
    | died | destroyed | stage | commit | drainFlutterTransactions => cases he
  have hac : InputMethodMessage.activate ∉ m.publishEditorState.2 → (t.next e).activatedAt = t.activatedAt := by
    intro hn
    show (if InputMethodMessage.activate ∈ (t.handle e).2.1 then t.now + 1 else t.activatedAt) = t.activatedAt
    rw [hm.handle, if_neg hn]
  have hf {i : InputMethodInstance} (hi : m.inputMethod = some i) (hv : i.active = true) :
      ∀ kind, i.pending.has kind = true → t.activatedAt < t.stagedAt kind := by
    obtain ⟨hd, -⟩ | ⟨hi, -⟩ := hm.pending i hi
    · rw [hd] at hv; cases hv
    · exact hfr i hi hv
  intro j hj hv kind hk
  have hj : (t.handle e).1.inputMethod = some j := hj
  rw [hm.handle] at hj; rw [hst]
  unfold publishEditorState at hj hac; split at hj
  · rename_i hde; rw [hde] at hac
    rw [hac List.not_mem_nil]; exact hf hj hv kind hk
  rename_i i hi
  obtain ⟨hs, hal⟩ := Option.filter_eq_some_iff.1 hi; rw [hi] at hac
  obtain rfl := Option.some.inj hj
  have hpu := publish_spec i m.effective
  obtain ⟨hn, hsa, hpe⟩ | ⟨-, hem⟩ | ⟨hd, hse, -, hpe⟩ := hpu.pending
  · rw [hac hn]; rw [hpe] at hk
    exact hf hs (hsa.trans hv) kind hk
  · rw [hem, not_has_empty] at hk; cases hk
  · -- The condition: an editor is activated with nothing pending.
    have hem : i.pending = {} := by
      obtain ⟨-, hem⟩ | ⟨hi, hef⟩ := hm.pending i hs
      · exact hem
      · exact hr i hi hal hd (hef ▸ hse)
    rw [hpe, hem, not_has_empty] at hk; cases hk

theorem fresh_next (h : t.Linked) (hf : t.Fresh) (hr : t.Clear e) : (t.next e).Fresh := by
  cases he : calmEvent e with
  | true =>
    by_cases hs : ∃ res request, e = .stage res request
    · obtain ⟨res, request, rfl⟩ := hs; exact fresh_stage h hf res request
    · exact fresh_calm hf he fun res request heq => hs ⟨res, request, heq⟩
  | false =>
    obtain hu | ⟨m, hm⟩ := unchanged_or_republishes (t := t) he
    · have hn : (t.next e).manager = t.manager := by
        show (t.handle e).1 = t.manager; rw [hu.handle]
      have hac : (t.next e).activatedAt = t.activatedAt := by
        show (if InputMethodMessage.activate ∈ (t.handle e).2.1 then t.now + 1 else t.activatedAt) = t.activatedAt
        rw [hu.handle]; exact if_neg List.not_mem_nil
      have hst : (t.next e).stagedAt = t.stagedAt := by
        cases e with
        | setBlocked | synchronize | register => rfl
        | died | destroyed | stage | commit | drainFlutterTransactions => cases he
      unfold Fresh
      rw [hn, hac, hst]; exact hf
    · exact fresh_republishes hf he hr hm

/-! ## Stale requests -/

theorem exists_has {transaction : InputMethodTransaction} (h : transaction ≠ {}) :
    ∃ kind, transaction.has kind = true := by
  by_contra hn
  have hh (kind : RequestKind) : transaction.has kind = false := by
    rw [← Bool.not_eq_true]; exact fun hk => hn ⟨kind, hk⟩
  refine h ?_
  obtain ⟨commitString, preeditString, deleteSurrounding⟩ := transaction
  have hm := hh .commitString
  have hr := hh .preedit
  have hd := hh .delete
  simp only [InputMethodTransaction.has, Option.isSome_eq_false_iff, Option.isNone_iff_eq_none] at hm hr hd
  rw [hm, hr, hd]

theorem hands_pending (h : t.Linked) (hi : t.manager.inputMethod = some i) (hv : i.alive = true)
    (hac : i.active = true) :
    ∃ handover, (t.handle (.commit i.resource i.serial)).2.2 = some handover ∧ handover.transaction = i.pending := by
  have hf := (h.shown.active i hi hv).symm.trans hac
  obtain ⟨ed, he⟩ := Option.isSome_iff_exists.1 hf
  have hn := h.shown.endpoint i ed hi hv he
  have hr := (Option.filter_eq_some_iff.1 he).1
  have hfi : (t.manager.inputMethod.filter fun j => j.resource = i.resource) = some i :=
    Option.filter_eq_some_iff.2 ⟨hi, decide_eq_true rfl⟩
  have hd : t.dispatched i.resource = true := by
    unfold dispatched
    rw [hi, Option.any_some, hv, decide_eq_true rfl]; rfl
  have hm : (t.manager.commit i.resource i.serial).2 = some (ed.endpoint, i.pending, true) := by
    unfold commit; rw [hr, hfi]
    dsimp only
    rw [hac, hn]; simp
  unfold handle; dsimp only
  rw [if_pos hd]; unfold commitRequest
  generalize t.manager.commit i.resource i.serial = r at hm
  obtain ⟨m, result⟩ := r
  obtain rfl := hm
  cases hk : ed.endpoint with
  | wayland id ser surface =>
    have hacc := TextInputManager.accepts_of_snapshot (h.editor.symm.trans hr) hk
    simp only [hacc, if_true]; exact ⟨_, rfl, rfl⟩
  | flutter generation lifecycle cl => exact ⟨_, rfl, rfl⟩

/-- An event that activates an editor with requests pending can be followed by a commit that hands them over. -/
theorem stale_of_not_clear (h : t.Linked) (hr : ¬t.Clear e) : ∃ res ser, ¬(t.next e).HandsFresh (.commit res ser) := by
  simp only [Clear, not_forall] at hr
  obtain ⟨i, hi, hal, hd, hs, hpe⟩ := hr
  have hu : t.manager.effective.isSome = false := (h.shown.active i hi hal).symm.trans hd
  -- Only an event that publishes shows an editor where none was.
  obtain ⟨m, hm, hmi, he⟩ : ∃ m, t.Republishes e m ∧ m.inputMethod = some i ∧ m.effective.isSome = true := by
    cases e with
    | setBlocked blocked =>
      refine ⟨_, republishes_setBlocked fun hsa => ?_, hi, hs⟩
      subst hsa; exact absurd (hs.symm.trans hu) nofun
    | synchronize text =>
      refine ⟨_, republishes_synchronize fun hsa => ?_, hi, hs⟩
      have hs : ({ t.manager with editor := text.inputMethodSnapshot } : InputMethodManager).effective.isSome = true :=
        hs
      rw [← hsa] at hs; exact absurd (hs.symm.trans hu) nofun
    | register => exact absurd (hs.symm.trans hu) nofun
    | died | destroyed | stage | commit | drainFlutterTransactions => exact absurd (hs.symm.trans hu) nofun
  have hpu := publish_spec i m.effective
  have hfi : m.inputMethod.filter (·.alive) = some i := Option.filter_eq_some_iff.2 ⟨hmi, hal⟩
  have hpb : m.publishEditorState = ({ m with
      inputMethod := some (i.publish m.effective).1, keyboardActive := (i.publish m.effective).1.active },
        (i.publish m.effective).2) := by
    unfold publishEditorState; rw [hfi]
  obtain ⟨-, hsa, -⟩ | ⟨hv, -⟩ | ⟨-, -, hat, hk⟩ := hpu.pending
  · rw [hd, hpu.active, he] at hsa; cases hsa
  · rw [hd] at hv; cases hv
  · have hne : (t.next e).manager.inputMethod = some (i.publish m.effective).1 := by
      show (t.handle e).1.inputMethod = _; rw [hm.handle, hpb]
    have hac : (t.next e).activatedAt = t.now + 1 := by
      show (if InputMethodMessage.activate ∈ (t.handle e).2.1 then t.now + 1 else t.activatedAt) = _
      rw [hm.handle, hpb]; exact if_pos hat
    have hst : (t.next e).stagedAt = t.stagedAt := by
      cases e with
      | stage res request => exact absurd (hs.symm.trans hu) nofun
      | _ => rfl
    obtain ⟨handover, hh, hn⟩ := hands_pending (linked_next h e) hne
      (hpu.alive.trans hal) (hpu.active.trans he)
    obtain ⟨kind, hki⟩ := exists_has hpe
    refine ⟨(i.publish m.effective).1.resource, (i.publish m.effective).1.serial, fun hf => ?_⟩
    have := hf handover hh kind (by rw [hn, hk]; exact hki)
    rw [hac, hst] at this; have := h.staged kind
    omega

/-! ## Runs -/

/-- In a session whose editors are activated with nothing pending, the input method keeps the protocol; and an event that
activates one otherwise can be followed by a commit that hands over a request staged before. -/
theorem input_method_protocol (es : List InputMethodEvent) :
    (Along next Clear ({} : InputMethodSession) es → Protocol es) ∧
      ∀ e, ¬(exec next ({} : InputMethodSession) es).Clear e →
        ∃ resource serial, ¬(exec next ({} : InputMethodSession) (es ++ [e])).HandsFresh (.commit resource serial) := by
  have hlin (es : List InputMethodEvent) : Linked (exec next ({} : InputMethodSession) es) :=
    exec_invariant (I := Linked) (fun _ e h => linked_next h e) es linked_start
  have hall : Along next (fun _ _ => True) ({} : InputMethodSession) es := along_of_forall fun _ _ => trivial
  constructor
  · intro hclear
    refine ⟨fun before _ _ => (hlin before).counted, ?_, ?_, ?_⟩
    · exact hclear.of_invariant (I := fun t => Linked t ∧ Fresh t)
        (fun _ e h hg => ⟨linked_next h.1 e, fresh_next h.1 h.2 hg⟩) (fun _ e h _ => handsFresh h.2 e)
        ⟨linked_start, fresh_start⟩
    · exact hall.of_invariant (I := Linked) (fun _ e h _ => linked_next h e) (fun _ e h _ => handsNewest h e) linked_start
    · exact hall.of_invariant (I := Linked) (fun _ e h _ => linked_next h e) (fun _ e h _ => guarded_next h e) linked_start
  · intro e hclear
    rw [exec_snoc]; exact stale_of_not_clear (hlin es) hclear

def flutterEditor (clientId : Int) : TextInputManager :=
  { flutter := some {
      generation := 1, lifecycle := 1, clientId, active := true, secure := false, surroundingText := none
      contentHint := 0, contentPurpose := 0, cursorRectangle := none } }

theorem input_method_protocol_one_editor :
    Protocol [.register 1, .synchronize (flutterEditor 1), .stage 1 (.delete 1 0), .commit 1 1] := by
  refine (input_method_protocol _).1 ⟨fun i hi => (nomatch hi), fun i hi _ _ _ => ?_, fun i hi _ hidl => ?_,
    fun i hi _ hidl => ?_, trivial⟩
  · cases hi; rfl
  · cases hi; exact absurd hidl (by decide)
  · cases hi; exact absurd hidl (by decide)

/-- A deletion staged after the first editor is gone reaches the second one. -/
theorem stale_deletion : ¬Protocol [.register 1, .synchronize (flutterEditor 1), .synchronize {},
    .stage 1 (.delete 1 0), .synchronize (flutterEditor 2), .commit 1 3] := by
  intro h
  have := h.fresh.2.2.2.2.2.1 (.flutter 1 2 { deleteSurrounding := some (1, 0) }) (by decide) .delete rfl
  exact absurd this (by decide)

end InputMethodSession

end Deniald.InputMethod
