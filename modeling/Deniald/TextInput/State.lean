/-
Text-input-v3 sessions (text_input.rs): the instances of the clients, which of them are entered and active, their pending
and current state, and the authorization a touch gives them to open the software keyboard.
-/
import Deniald.Lib.Keyed
import Deniald.Lib.Time

namespace Deniald.TextInput

open Deniald.Lib

/-! ## Instances -/

structure CursorRectangle where
  x : Int
  y : Int
  width : Int
  height : Int
  deriving DecidableEq

structure SurroundingText where
  text : String
  cursor : UInt32
  anchor : UInt32

structure PendingState where
  enabled : Option Bool := none
  surrounding : Option SurroundingText := none
  changeCause : Option UInt32 := none
  contentType : Option (UInt32 × UInt32) := none
  cursorRectangle : Option CursorRectangle := none
  availableActions : Option (List UInt32) := none

def PendingState.resetForEnablement (enabled : Bool) : PendingState := { enabled := some enabled }

structure EditorState where
  surrounding : Option SurroundingText := none
  changeCause : UInt32 := 0
  contentType : Option (UInt32 × UInt32) := none
  cursorRectangle : Option CursorRectangle := none
  committedCursorRectangle : Option CursorRectangle := none
  availableActions : List UInt32 := []

/-- `I` are the identities of instances, `C` of clients. -/
structure Instance (I C : Type) where
  id : I
  client : C
  version : UInt32
  serial : UInt32 := 0
  entered : Bool
  pending : PendingState := {}
  current : EditorState := {}
  inputPanelVisibleHint : Option Bool := none
  touchDismissed : Bool := true
  touchAuthorizationDeadline : Option Int := none

structure Focus (S C : Type) where
  surface : S
  client : C
  deriving DecidableEq

structure FocusTransition (I : Type) where
  left : List I := []
  entered : List I := []

inductive CommitEffect where
  | ignored
  | activated
  | updated
  | deactivated

structure SessionState (I C S : Type) where
  instances : List (Instance I C) := []
  focus : Option (Focus S C) := none
  active : Option I := none

/-- `TOUCH_AUTHORIZATION_WINDOW`, in nanoseconds. -/
def touchAuthorizationWindow : Int := 250000000

namespace Instance

variable {I C : Type}

/-- What a change of the focus resets. -/
def reset (a : Instance I C) : Instance I C :=
  { a with
    entered := false
    pending := {}
    current := {}
    inputPanelVisibleHint := none
    touchDismissed := true
    touchAuthorizationDeadline := none }

def touchAuthorized (a : Instance I C) (now : Int) : Bool := a.touchAuthorizationDeadline.any fun deadline => now ≤ deadline

/-- `set_input_panel_hint`, of an instance. -/
def showPanel (a : Instance I C) (now : Int) (visible : Bool) : Instance I C :=
  let shown := { a with inputPanelVisibleHint := some visible }
  if visible && a.touchAuthorized now then { shown with touchDismissed := false }
  else if !visible then { shown with touchAuthorizationDeadline := none, touchDismissed := true }
  else shown

def applyPending (a : Instance I C) (pending : PendingState) : Instance I C :=
  let current := a.current
  let current := { current with
    surrounding := pending.surrounding.or current.surrounding
    changeCause := pending.changeCause.getD 0
    contentType := pending.contentType.or current.contentType }
  let current := match pending.cursorRectangle with
    | none => current
    | some rectangle =>
      if 2 ≤ a.version then { current with committedCursorRectangle := some rectangle }
      else { current with cursorRectangle := some rectangle }
  let current := match pending.availableActions with
    | none => current
    | some actions => { current with availableActions := actions }
  { a with current := current }

end Instance

namespace SessionState

variable {I C S : Type} [DecidableEq I] [DecidableEq C] [DecidableEq S]

def find (s : SessionState I C S) (id : I) : Option (Instance I C) := s.instances.find? fun a => a.id = id

def register (s : SessionState I C S) (id : I) (client : C) (version : UInt32) : SessionState I C S × Bool :=
  let entered := s.focus.any fun focus => focus.client = client
  ({ s with instances := s.instances ++ [{ id, client, version, entered }] }, entered)

def remove (s : SessionState I C S) (id : I) : SessionState I C S :=
  { s with
    instances := s.instances.filter fun a => a.id ≠ id
    active := if s.active = some id then none else s.active }

def setFocus (s : SessionState I C S) (focus : Option (Focus S C)) : SessionState I C S × FocusTransition I :=
  if s.focus = focus then (s, {})
  else
    let left := (s.instances.filter (·.entered)).map (·.id)
    let instances := s.instances.map Instance.reset
    match focus with
    | none => (⟨instances, none, none⟩, { left })
    | some focus =>
      (⟨instances.map fun a => if a.client = focus.client then { a with entered := true } else a, some focus, none⟩,
        { left, entered := (instances.filter fun a => a.client = focus.client).map (·.id) })

/-- An instance found by its identity, where it is entered. -/
def edit (s : SessionState I C S) (id : I) (f : Instance I C → Instance I C) : SessionState I C S :=
  { s with instances := modifyFirst (fun a => a.id = id && a.entered) f s.instances }

def stage (s : SessionState I C S) (id : I) (f : PendingState → PendingState) : SessionState I C S :=
  s.edit id fun a => { a with pending := f a.pending }

def requestEnablement (s : SessionState I C S) (id : I) (enabled : Bool) : SessionState I C S :=
  s.stage id fun _ => .resetForEnablement enabled

def setSurrounding (s : SessionState I C S) (id : I) (surrounding : SurroundingText) : SessionState I C S :=
  s.stage id fun pending => { pending with surrounding := some surrounding }

def setChangeCause (s : SessionState I C S) (id : I) (cause : UInt32) : SessionState I C S :=
  s.stage id fun pending => { pending with changeCause := some cause }

def setContentType (s : SessionState I C S) (id : I) (hint purpose : UInt32) : SessionState I C S :=
  s.stage id fun pending => { pending with contentType := some (hint, purpose) }

def setCursorRectangle (s : SessionState I C S) (id : I) (rectangle : CursorRectangle) : SessionState I C S :=
  s.stage id fun pending => { pending with cursorRectangle := some rectangle }

def setAvailableActions (s : SessionState I C S) (id : I) (actions : List UInt32) : SessionState I C S :=
  s.stage id fun pending => { pending with availableActions := some actions }

def setInputPanelHint (s : SessionState I C S) (now : Int) (id : I) (visible : Bool) : SessionState I C S :=
  s.edit id fun a => a.showPanel now visible

def beginTouchAuthorization (s : SessionState I C S) (now : Int) : SessionState I C S × Bool :=
  let deadline := now + touchAuthorizationWindow
  ({ s with
      instances := s.instances.map fun a =>
        if a.entered then
          { a with
            touchAuthorizationDeadline := some deadline
            touchDismissed := if s.active = some a.id then true else a.touchDismissed }
        else a },
    s.instances.any (·.entered))

def commitEntered (s : SessionState I C S) (a : Instance I C) (pending : PendingState) (touchAuthorized : Bool) :
    SessionState I C S × CommitEffect :=
  let put (f : Instance I C → Instance I C) : List (Instance I C) :=
    modifyFirst (fun b => b.id = a.id) (fun _ => f a) s.instances
  let editorEngaged := pending.enabled = some true || pending.surrounding.isSome || pending.contentType.isSome ||
    pending.cursorRectangle.isSome
  match pending.enabled with
  | some true =>
    if s.active.any fun active => active ≠ a.id then ({ s with instances := put id }, .ignored)
    else
      ({ s with
        instances := put fun a => { Instance.applyPending { a with current := {} } pending with
          touchDismissed := !touchAuthorized }
        active := some a.id }, .activated)
  | some false =>
    if s.active = some a.id then
      ({ s with
        instances := put fun a => { a with current := {}, inputPanelVisibleHint := none, touchDismissed := true }
        active := none }, .deactivated)
    else ({ s with instances := put id }, .ignored)
  | none =>
    if s.active ≠ some a.id then ({ s with instances := put id }, .ignored)
    else
      ({ s with
        instances := put fun a => { a.applyPending pending with
          touchDismissed := if editorEngaged && touchAuthorized then false else a.touchDismissed } }, .updated)

def commit (s : SessionState I C S) (now : Int) (id : I) : SessionState I C S × CommitEffect :=
  match s.find id with
  | none => (s, .ignored)
  | some a =>
    let a := { a with serial := a.serial + 1 }
    if !a.entered then ({ s with instances := modifyFirst (fun b => b.id = id) (fun _ => a) s.instances }, .ignored)
    else s.commitEntered { a with pending := {}, touchAuthorizationDeadline := none } a.pending (a.touchAuthorized now)

def surfaceCommitted (s : SessionState I C S) (surface : S) : SessionState I C S :=
  if s.focus.map (·.surface) ≠ some surface then s
  else match s.active with
    | none => s
    | some active =>
      match s.find active with
      | none => { s with active := none }
      | some _ =>
        { s with
          instances := modifyFirst (fun a => a.id = active) (fun a =>
            match a.current.committedCursorRectangle with
            | none => a
            | some rectangle =>
              { a with current := { a.current with
                  cursorRectangle := some rectangle
                  committedCursorRectangle := none } }) s.instances }

def activeInstance (s : SessionState I C S) : Option (Instance I C) :=
  s.active.bind fun active => s.instances.find? fun a => a.id = active && a.entered

def activeSerial (s : SessionState I C S) : Option (I × UInt32) := s.activeInstance.map fun a => (a.id, a.serial)

/-- `wayland_software_keyboard_state`, where it shows the panel. -/
def panelVisible (s : SessionState I C S) : Bool :=
  s.activeInstance.any fun a => a.inputPanelVisibleHint.getD true && !a.touchDismissed

end SessionState

end Deniald.TextInput
