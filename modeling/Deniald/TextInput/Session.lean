/-
Text-input-v3 over any requests of any clients: focus, serials, and when the software keyboard is opened. One visible
slip: an authorized commit under the client's own hide request opens it with a later show request, of any time.
-/
import Deniald.TextInput.Instances
import Deniald.Lib.Run

namespace Deniald.TextInput

open Deniald.Lib

/-! ## Sessions -/

inductive SessionEvent (I C S : Type) where
  | register (id : I) (client : C) (version : UInt32)
  | remove (id : I)
  | setFocus (focus : Option (Focus S C))
  | request (id : I) (request : FieldRequest)
  | setInputPanelHint (now : Int) (id : I) (visible : Bool)
  | beginTouchAuthorization (now : Int)
  | commit (now : Int) (id : I)
  | surfaceCommitted (surface : S)

/-- The instances, with their commits and enter and leave events since they were created, the last touch since the
focus has changed, and how often an instance has opened the keyboard with the authorization of that touch. -/
structure TextInputSession (I C S : Type) where
  state : SessionState I C S := {}
  commits : I → Nat := fun _ => 0
  crossings : I → List Bool := fun _ => []
  touchedAt : Option Int := none
  openings : I → Nat := fun _ => 0

variable {I C S : Type} [DecidableEq I] [DecidableEq C] [DecidableEq S]

def SessionState.handle (s : SessionState I C S) : SessionEvent I C S → SessionState I C S
  | .register id client version => (s.register id client version).1
  | .remove id => s.remove id
  | .setFocus focus => (s.setFocus focus).1
  | .request id request => s.request id request
  | .setInputPanelHint now id visible => s.setInputPanelHint now id visible
  | .beginTouchAuthorization now => (s.beginTouchAuthorization now).1
  | .commit now id => (s.commit now id).1
  | .surfaceCommitted surface => s.surfaceCommitted surface

namespace TextInputSession

/-- The software keyboard becomes visible. -/
def opens (t : TextInputSession I C S) (e : SessionEvent I C S) : Bool :=
  !t.state.panelVisible && (t.state.handle e).panelVisible

/-- The instance whose authorization an event opens the keyboard with. -/
def openedBy (t : TextInputSession I C S) (e : SessionEvent I C S) : Option I :=
  match e with
  | .commit _ id => if t.opens e then some id else none
  | .setInputPanelHint now id _ =>
    if t.opens e && (t.state.find id).any (·.touchAuthorized now) then some id else none
  | _ => none

def countCommit (commits : I → Nat) : SessionEvent I C S → I → Nat
  | .register id _ _ => Function.update commits id 0
  | .commit _ id => Function.update commits id (commits id + 1)
  | _ => commits

/-- An enter event is `true`, a leave event `false`. -/
def cross (t : TextInputSession I C S) (e : SessionEvent I C S) (id : I) : List Bool :=
  match e with
  | .register id' client version =>
    if id = id' then (if (t.state.register id' client version).2 then [true] else []) else t.crossings id
  | .setFocus focus =>
    let transition := (t.state.setFocus focus).2
    t.crossings id ++ List.replicate (transition.left.count id) false ++
      List.replicate (transition.entered.count id) true
  | _ => t.crossings id

def touch (t : TextInputSession I C S) : SessionEvent I C S → Option Int
  | .beginTouchAuthorization now => some now
  | .setFocus focus => if t.state.focus = focus then t.touchedAt else none
  | _ => t.touchedAt

def countOpening (t : TextInputSession I C S) (e : SessionEvent I C S) : I → Nat :=
  match e with
  | .beginTouchAuthorization _ => fun _ => 0
  | .setFocus focus => if t.state.focus = focus then t.openings else fun _ => 0
  | .register id _ _ => Function.update t.openings id 0
  | e =>
    match t.openedBy e with
    | none => t.openings
    | some id => Function.update t.openings id (t.openings id + 1)

def next (t : TextInputSession I C S) (e : SessionEvent I C S) : TextInputSession I C S where
  state := t.state.handle e
  commits := countCommit t.commits e
  crossings := t.cross e
  touchedAt := t.touch e
  openings := t.countOpening e

/-- Instances are created under new identities. -/
def Fresh (t : TextInputSession I C S) : SessionEvent I C S → Prop
  | .register id _ _ => t.state.find id = none
  | _ => True

/-! ## The protocol -/

/-- Enter and leave events of an instance, from outside. -/
def crossing (inside : Bool) (enters : Bool) : Option Bool := if enters = inside then none else some enters

/-- What holds in every state a session reaches. -/
structure Sound (t : TextInputSession I C S) : Prop where
  active : ∀ id, t.state.active = some id → ∃ a ∈ t.state.instances, a.id = id ∧ a.entered = true ∧
    ∃ focus, t.state.focus = some focus ∧ focus.client = a.client
  entered : ∀ a ∈ t.state.instances, a.entered = true ↔ ∃ focus, t.state.focus = some focus ∧ focus.client = a.client
  crossed : ∀ a ∈ t.state.instances, (t.crossings a.id).foldlM crossing false = some a.entered
  serial : ∀ a ∈ t.state.instances, a.serial = UInt32.ofNat (t.commits a.id)
  once : ∀ id, t.openings id ≤ 1

/-- A focus change resets what instances have staged and committed. -/
def Resets (t : TextInputSession I C S) (e : SessionEvent I C S) : Prop :=
  ∀ focus, e = .setFocus focus → t.state.focus ≠ focus →
    ∀ a ∈ (t.next e).state.instances, a.pending = {} ∧ a.current = {}

/-- A commit of another instance changes neither which one is active nor that one. -/
def Keeps (t : TextInputSession I C S) (e : SessionEvent I C S) : Prop :=
  ∀ now id active, e = .commit now id → t.state.active = some active → active ≠ id →
    (t.next e).state.active = some active ∧ (t.next e).state.find active = t.state.find active

/-- A touch since the last change of the focus is not older than the window. -/
def WithinWindow (t : TextInputSession I C S) (now : Int) : Prop :=
  ∃ touched, t.touchedAt = some touched ∧ now ≤ touched + touchAuthorizationWindow

/-- The keyboard is opened only by a commit or a show request of the instance that then is active: within the window of
a touch, unless the show request takes back a hide request of the instance. -/
def Opens (t : TextInputSession I C S) (e : SessionEvent I C S) : Prop :=
  t.opens e = true → ∃ now id, (t.next e).state.active = some id ∧
    (e = .commit now id ∧ t.WithinWindow now ∨
      e = .setInputPanelHint now id true ∧
        (t.WithinWindow now ∨ (t.state.find id).any (fun a => a.inputPanelVisibleHint = some false) = true))

/-- The protocol over a run. -/
structure Protocol (es : List (SessionEvent I C S)) : Prop where
  sound : ∀ before after, es = before ++ after → Sound (exec next ({} : TextInputSession I C S) before)
  resets : Along next Resets ({} : TextInputSession I C S) es
  keeps : Along next Keeps ({} : TextInputSession I C S) es
  opens : Along next Opens ({} : TextInputSession I C S) es

end TextInputSession

end Deniald.TextInput
