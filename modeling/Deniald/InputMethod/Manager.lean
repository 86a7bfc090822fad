/-
The input method of the seat (input_method.rs): when an editor is activated for it, what it is sent, and what becomes of
the requests it stages and commits. One visible slip: requests staged while no editor is active are not forgotten when
one is activated.
-/
import Deniald.InputMethod.Editor
import Deniald.Lib.Text

namespace Deniald.InputMethod

open Deniald.Lib

/-! ## Requests and messages -/

structure InputMethodTransaction where
  commitString : Option String := none
  preeditString : Option (String × Int × Int) := none
  deleteSurrounding : Option (UInt32 × UInt32) := none
  deriving DecidableEq

inductive InputMethodMessage where
  | activate
  | deactivate
  | done
  | surroundingText (text : String) (cursor anchor : UInt32)
  | textChangeCause (cause : UInt32)
  | contentType (hint purpose : UInt32)
  deriving DecidableEq

def maxInputMethodTextBytes : Nat := 4000

def validText (text : String) : Bool :=
  utf8Length text.toList ≤ maxInputMethodTextBytes && !text.toList.contains (Char.ofNat 0)

def cursorValid (text : String) (cursorBegin cursorEnd : Int) : Bool :=
  (cursorBegin = -1 && cursorEnd = -1) ||
    (0 ≤ cursorBegin && 0 ≤ cursorEnd && isCharBoundary text.toList cursorBegin.toNat &&
      isCharBoundary text.toList cursorEnd.toNat)

/-- What an input method asks for until it commits. -/
inductive StagedRequest where
  | commitString (text : String)
  | preedit (text : String) (cursorBegin cursorEnd : Int)
  | delete (before after : UInt32)

inductive RequestKind where
  | commitString
  | preedit
  | delete
  deriving DecidableEq

namespace StagedRequest

def kind : StagedRequest → RequestKind
  | commitString _ => .commitString
  | preedit .. => .preedit
  | delete .. => .delete

/-- Text that is too long or has a NUL is refused, and so is a cursor that is not between characters. -/
def valid : StagedRequest → Bool
  | commitString text => validText text
  | preedit text cursorBegin cursorEnd => validText text && cursorValid text cursorBegin cursorEnd
  | delete .. => true

def apply (request : StagedRequest) (pending : InputMethodTransaction) : InputMethodTransaction :=
  match request with
  | commitString text => { pending with commitString := some text }
  | preedit text cursorBegin cursorEnd => { pending with preeditString := some (text, cursorBegin, cursorEnd) }
  | delete before after => { pending with deleteSurrounding := some (before, after) }

end StagedRequest

/-! ## The manager -/

/-- `alive` is `resource.is_alive()`. -/
structure InputMethodInstance where
  resource : Nat
  alive : Bool := true
  serial : UInt32 := 0
  active : Bool := false
  activeEndpoint : Option EditorEndpoint := none
  pending : InputMethodTransaction := {}

structure InputMethodManager where
  inputMethod : Option InputMethodInstance := none
  editor : Option EditorSnapshot := none
  blocked : Bool := false
  keyboardActive : Bool := false
  flutterTransactions : List (UInt64 × Int × InputMethodTransaction) := []

namespace InputMethodInstance

def deactivate (i : InputMethodInstance) : InputMethodInstance × List InputMethodMessage :=
  ({ i with serial := i.serial + 1, active := false, activeEndpoint := none, pending := {} },
    [.deactivate, .done])

def present (i : InputMethodInstance) (editor : EditorSnapshot) :
    InputMethodInstance × List InputMethodMessage :=
  ({ i with serial := i.serial + 1, active := true, activeEndpoint := some editor.endpoint },
    (if i.active then [] else [.activate]) ++
      (editor.surroundingText.toList.map fun (text, cursor, anchor) => .surroundingText text cursor anchor) ++
      [.textChangeCause editor.changeCause, .contentType editor.contentHint editor.contentPurpose, .done])

/-- The instance has been activated for this editor, in an earlier state of it or not. -/
def sameEditor (i : InputMethodInstance) (effective : Option EditorSnapshot) : Bool :=
  i.active && effective.any fun next => i.activeEndpoint.any fun current =>
    next.endpoint.sameEditor current

/-- What `publish_editor_state` does to a live instance. -/
def publish (i : InputMethodInstance) (effective : Option EditorSnapshot) :
    InputMethodInstance × List InputMethodMessage :=
  let (i, closing) :=
    if i.active && (!i.sameEditor effective || effective.isNone) then i.deactivate
    else (i, [])
  match effective with
  | none => (i, closing)
  | some editor =>
    let (i, opening) := i.present editor
    (i, closing ++ opening)

end InputMethodInstance

namespace InputMethodManager

def effective (m : InputMethodManager) : Option EditorSnapshot :=
  m.editor.filter fun editor => !m.blocked && editor.permitsExternalInputMethod

def publishEditorState (m : InputMethodManager) : InputMethodManager × List InputMethodMessage :=
  match m.inputMethod.filter (·.alive) with
  | none => ({ m with keyboardActive := false }, [])
  | some i =>
    let (i, messages) := i.publish m.effective
    ({ m with inputMethod := some i, keyboardActive := i.active }, messages)

def setBlocked (m : InputMethodManager) (blocked : Bool) : InputMethodManager × List InputMethodMessage :=
  if m.blocked = blocked then (m, []) else { m with blocked := blocked }.publishEditorState

def synchronize (m : InputMethodManager) (editor : Option EditorSnapshot) :
    InputMethodManager × List InputMethodMessage :=
  if m.editor = editor then (m, []) else { m with editor := editor }.publishEditorState

def canRegister (m : InputMethodManager) : Bool := m.inputMethod.all fun i => !i.alive

def register (m : InputMethodManager) (resource : Nat) : InputMethodManager × List InputMethodMessage :=
  { m with flutterTransactions := [], inputMethod := some { resource } }.publishEditorState

def unregister (m : InputMethodManager) (resource : Nat) : InputMethodManager :=
  if m.inputMethod.all fun i => i.resource ≠ resource then m
  else { m with inputMethod := none, flutterTransactions := [], keyboardActive := false }

/-- `stage_commit_string`, `stage_preedit` and `stage_delete`. -/
def stage (m : InputMethodManager) (resource : Nat) (request : StagedRequest) : InputMethodManager :=
  match m.inputMethod.filter fun i => i.resource = resource with
  | none => m
  | some i =>
    if request.valid then
      { m with inputMethod := some { i with pending := request.apply i.pending } }
    else m

def commit (m : InputMethodManager) (resource : Nat) (serial : UInt32) :
    InputMethodManager × Option (EditorEndpoint × InputMethodTransaction × Bool) :=
  match m.editor, m.inputMethod.filter fun i => i.resource = resource with
  | some editor, some i =>
    let taken := { i with pending := {} }
    if !i.active || !i.activeEndpoint.any (·.sameEditor editor.endpoint) then
      ({ m with inputMethod := some taken }, none)
    else
      ({ m with inputMethod := some { taken with activeEndpoint := some editor.endpoint } },
        some (editor.endpoint, i.pending, serial = i.serial))
  | _, _ => (m, none)

/-- The oldest of 64 transactions is dropped for the next one. -/
def queueFlutterTransaction (m : InputMethodManager) (generation : UInt64) (clientId : Int)
    (transaction : InputMethodTransaction) : InputMethodManager :=
  let queue := if 64 ≤ m.flutterTransactions.length then m.flutterTransactions.tail else m.flutterTransactions
  { m with flutterTransactions := queue ++ [(generation, clientId, transaction)] }

end InputMethodManager

/-! ## Transactions handed over -/

/-- A transaction an editor is handed: a text input's with the serial it is addressed to and the one its `done` has. -/
inductive Handover where
  | wayland (resource : Nat) (serial done : UInt32) (transaction : InputMethodTransaction)
  | flutter (generation : UInt64) (clientId : Int) (transaction : InputMethodTransaction)
  deriving DecidableEq

def Handover.transaction : Handover → InputMethodTransaction
  | wayland _ _ _ transaction | flutter _ _ transaction => transaction

/-- The request `commit`: a text input that has changed since is handed nothing, and Flutter no stale transaction. -/
def commitRequest (m : InputMethodManager) (text : TextInputManager) (resource : Nat) (serial : UInt32) :
    InputMethodManager × Option Handover :=
  match m.commit resource serial with
  | (m, none) => (m, none)
  | (m, some (.wayland id editorSerial _, transaction, serialMatches)) =>
    if text.accepts id editorSerial then
      (m, some (.wayland id editorSerial (if serialMatches then editorSerial else 0) transaction))
    else (m, none)
  | (m, some (.flutter generation _ clientId, transaction, serialMatches)) =>
    if serialMatches then
      (m.queueFlutterTransaction generation clientId transaction, some (.flutter generation clientId transaction))
    else (m, none)

end Deniald.InputMethod
