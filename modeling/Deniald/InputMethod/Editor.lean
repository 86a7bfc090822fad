/-
The editors of the compositor, Wayland text inputs and Flutter's, as an input method is shown them (text_input.rs,
input_method.rs).
-/
import Deniald.TextInput.State

namespace Deniald.InputMethod

open Deniald.TextInput

/-! ## Editors -/

inductive EditorEndpoint where
  | wayland (resource : Nat) (serial : UInt32) (surface : Nat)
  | flutter (generation lifecycle : UInt64) (clientId : Int)
  deriving DecidableEq

namespace EditorEndpoint

/-- The serial and the surface of a text input do not make it another editor. -/
def sameEditor : EditorEndpoint → EditorEndpoint → Bool
  | wayland left .., wayland right .. => left = right
  | flutter generation lifecycle clientId, flutter generation' lifecycle' clientId' =>
    generation = generation' && lifecycle = lifecycle' && clientId = clientId'
  | _, _ => false

@[simp] theorem sameEditor_self (e : EditorEndpoint) : e.sameEditor e = true := by
  cases e <;> simp [sameEditor]

end EditorEndpoint

structure EditorSnapshot where
  endpoint : EditorEndpoint
  surroundingText : Option (String × UInt32 × UInt32)
  changeCause : UInt32
  contentHint : UInt32
  contentPurpose : UInt32
  cursorRectangle : Option CursorRectangle
  deriving DecidableEq

def passwordPurpose : UInt32 := 8

def pinPurpose : UInt32 := 9

def EditorSnapshot.permitsExternalInputMethod (editor : EditorSnapshot) : Bool :=
  editor.contentPurpose ≠ passwordPurpose && editor.contentPurpose ≠ pinPurpose

theorem EditorSnapshot.not_permits_iff {editor : EditorSnapshot} : editor.permitsExternalInputMethod = false ↔
    editor.contentPurpose = passwordPurpose ∨ editor.contentPurpose = pinPurpose := by
  unfold permitsExternalInputMethod; rw [Bool.and_eq_false_iff]
  simp

structure FlutterEditor where
  generation : UInt64
  lifecycle : UInt64
  clientId : Int
  active : Bool
  secure : Bool
  surroundingText : Option (String × UInt32 × UInt32)
  contentHint : UInt32
  contentPurpose : UInt32
  cursorRectangle : Option CursorRectangle

inductive SeatFocusKind where
  | none
  | wayland
  | xwayland
  deriving DecidableEq

/-! ## Snapshots -/

structure TextInputManager where
  sessions : SessionState Nat Nat Nat := {}
  focusSurface : Option Nat := none
  seatFocus : SeatFocusKind := .none
  shellCapture : Bool := false
  flutter : Option FlutterEditor := none

namespace TextInputManager

def waylandInputMethodSnapshot (m : TextInputManager) : Option EditorSnapshot := do
  let (id, serial) ← m.sessions.activeSerial
  let a ← m.sessions.instances.find? fun a => a.id = id && a.entered
  let surface ← m.focusSurface
  let (contentHint, contentPurpose) := a.current.contentType.getD (0, 0)
  return {
    endpoint := .wayland id serial surface
    surroundingText := a.current.surrounding.map fun surrounding =>
      (surrounding.text, surrounding.cursor, surrounding.anchor)
    changeCause := a.current.changeCause
    contentHint
    contentPurpose
    cursorRectangle := a.current.cursorRectangle.map fun rectangle =>
      ⟨rectangle.x, rectangle.y, max rectangle.width 0, max rectangle.height 0⟩ }

def flutterInputMethodSnapshot (m : TextInputManager) : Option EditorSnapshot :=
  (m.flutter.filter fun editor => editor.active && !editor.secure).map fun editor =>
    { endpoint := .flutter editor.generation editor.lifecycle editor.clientId
      surroundingText := editor.surroundingText
      changeCause := 1
      contentHint := editor.contentHint
      contentPurpose := editor.contentPurpose
      cursorRectangle := editor.cursorRectangle }

def inputMethodSnapshot (m : TextInputManager) : Option EditorSnapshot :=
  if m.shellCapture then m.flutterInputMethodSnapshot
  else match m.seatFocus with
    | .wayland => m.waylandInputMethodSnapshot
    | .xwayland => none
    | .none => m.flutterInputMethodSnapshot

def secured (m : TextInputManager) : Bool :=
  if m.shellCapture || m.seatFocus = .none then
    m.flutter.any fun editor => editor.secure || editor.contentPurpose = passwordPurpose || editor.contentPurpose = pinPurpose
  else m.sessions.activeInstance.any fun a =>
    (a.current.contentType.getD (0, 0)).2 = passwordPurpose || (a.current.contentType.getD (0, 0)).2 = pinPurpose

/-- A text input is sent what an input method has committed while it still is the active one, with the same serial. -/
def accepts (m : TextInputManager) (resource : Nat) (serial : UInt32) : Bool :=
  m.sessions.activeSerial = some (resource, serial)

variable {m : TextInputManager} {editor : EditorSnapshot}

theorem wayland_of_snapshot (h : m.waylandInputMethodSnapshot = some editor) :
    ∃ a surface, m.sessions.activeInstance = some a ∧ editor.endpoint = .wayland a.id a.serial surface ∧
      editor.contentPurpose = (a.current.contentType.getD (0, 0)).2 := by
  unfold waylandInputMethodSnapshot at h
  simp only [Option.bind_eq_bind, Option.bind_eq_some_iff, pure, Option.some.injEq] at h
  obtain ⟨⟨id, ser⟩, hs, a, hf, surface, -, rfl⟩ := h
  obtain ⟨b, hac, hr⟩ := Option.map_eq_some_iff.1 hs
  obtain ⟨rfl, rfl⟩ := Prod.mk.inj hr
  obtain ⟨active, -, hb⟩ := Option.bind_eq_some_iff.1 hac
  have hid : b.id = active := by
    have := List.find?_some hb
    rw [Bool.and_eq_true, decide_eq_true_eq] at this; exact this.1
  rw [← hid] at hb
  obtain rfl := Option.some.inj (hf.symm.trans hb); exact ⟨a, surface, hac, rfl, rfl⟩

theorem accepts_of_snapshot (h : m.inputMethodSnapshot = some editor) {res surf : Nat} {ser : UInt32}
    (he : editor.endpoint = .wayland res ser surf) : m.accepts res ser = true := by
  have hf (h : m.flutterInputMethodSnapshot = some editor) : False := by
    obtain ⟨_, -, rfl⟩ := Option.map_eq_some_iff.1 h; cases he
  unfold inputMethodSnapshot at h; split at h
  · exact (hf h).elim
  split at h
  · obtain ⟨a, _, hac, hw, -⟩ := wayland_of_snapshot h
    cases he.symm.trans hw
    unfold accepts SessionState.activeSerial
    rw [hac]; exact decide_eq_true rfl
  · cases h
  · exact (hf h).elim

theorem not_permits_of_secured (hse : m.secured = true) (h : m.inputMethodSnapshot = some editor) :
    editor.permitsExternalInputMethod = false := by
  have hfl (hs : (m.flutter.any fun editor => editor.secure || editor.contentPurpose = passwordPurpose ||
      editor.contentPurpose = pinPurpose) = true) (h : m.flutterInputMethodSnapshot = some editor) :
      editor.permitsExternalInputMethod = false := by
    obtain ⟨flutter, hfi, rfl⟩ := Option.map_eq_some_iff.1 h
    obtain ⟨hm, hn⟩ := Option.filter_eq_some_iff.1 hfi; rw [hm, Option.any_some] at hs
    simp only [Bool.and_eq_true, Bool.not_eq_true'] at hn; rw [hn.2, Bool.false_or] at hs
    rw [EditorSnapshot.not_permits_iff]
    simpa using hs
  unfold secured at hse; unfold inputMethodSnapshot at h
  split at h
  · rename_i hca; rw [hca, Bool.true_or, if_pos rfl] at hse; exact hfl hse h
  rename_i hca; rw [Bool.not_eq_true] at hca; split at h
  · rename_i hf
    obtain ⟨a, -, hac, -, hr⟩ := wayland_of_snapshot h
    simp only [hca, hf, hac, Bool.false_or, reduceCtorEq, decide_false, Bool.false_eq_true, if_false,
      Option.any_some] at hse
    rw [EditorSnapshot.not_permits_iff, hr]
    simpa using hse
  · cases h
  · rename_i hf
    simp only [hca, hf, decide_true, Bool.or_true, if_true] at hse; exact hfl hse h

end TextInputManager

end Deniald.InputMethod
