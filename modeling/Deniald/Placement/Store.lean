/-
Remembered window placements (window_placement_store.rs): where the window of an application was last put on an output,
kept for the 256 identities remembered last and written to a file on every change.
-/
import Deniald.Clipboard.Item
import Deniald.Layout.Dwindle
import Deniald.Settings.Store
import Mathlib.Data.List.MinMax
import Mathlib.Data.String.Basic
import Mathlib.Data.Prod.Lex

namespace Deniald.Placement

open Deniald.Lib
open Deniald.Clipboard (isControl)
open Deniald.Layout (Rect)
open Deniald.Settings (JsonText)
open Deniald.Topology (trim isWhitespace)

/-! ## What is remembered -/

inductive WindowBackend where
  | wayland
  | x11
  deriving DecidableEq

def WindowBackend.name : WindowBackend → String
  | .wayland => "wayland"
  | .x11 => "x11"

structure WindowPlacementState where
  maximized : Bool := false
  fullscreen : Bool := false
  deriving DecidableEq

structure WindowIdentity where
  backend : WindowBackend
  appId : String
  deriving DecidableEq

namespace WindowIdentity

def new (backend : WindowBackend) (appId : String) : Option WindowIdentity :=
  let appId := trim appId.toList
  if appId = [] ∨ 512 < (String.ofList appId).utf8ByteSize ∨ appId.any isControl then none
  else some ⟨backend, .ofList appId⟩

def valid (identity : WindowIdentity) : Bool := new identity.backend identity.appId = some identity

/-- The derived order: the backend, then the identifier. -/
def rank (identity : WindowIdentity) : Nat ×ₗ String := toLex (identity.backend.ctorIdx, identity.appId)

end WindowIdentity

abbrev I32 := { n : Int // -2 ^ 31 ≤ n ∧ n < 2 ^ 31 }

abbrev U64 := { n : Nat // n < 2 ^ 64 }

theorem U64.zero_lt : 0 < 2 ^ 64 := by decide

theorem satI32_range (n : Int) : -2 ^ 31 ≤ satI32 n ∧ satI32 n < 2 ^ 31 := by
  have h : -2 ^ 31 ≤ satI32 n ∧ satI32 n ≤ 2 ^ 31 - 1 := clamp_mem (by norm_num)
  exact ⟨h.1, Int.lt_of_le_sub_one h.2⟩

/-- `Rectangle<i32, Logical>`. -/
structure Rectangle where
  x : I32
  y : I32
  w : I32
  h : I32

def Rectangle.rect (g : Rectangle) : Rect := ⟨g.x, g.y, g.w, g.h⟩

/-- What `remember` is told: the output by its connector and its logical geometry, and the window on it. -/
structure Remembrance where
  output : String
  outputGeometry : Rectangle
  geometry : Rectangle
  state : WindowPlacementState

/-- A position relative to an output, with the serial it was remembered under. -/
structure SavedWindowGeometry where
  output : String
  x : I32
  y : I32
  width : I32
  height : I32
  state : WindowPlacementState
  serial : U64
  deriving DecidableEq

def validConnector (connector : String) : Bool :=
  connector ≠ "" && connector.utf8ByteSize ≤ 256 && !connector.toList.any isControl

def validSize (width height : Int) : Bool := 1 ≤ width && width ≤ 16384 && 1 ≤ height && height ≤ 16384

/-- Restoring along one axis: where the output begins and how far it extends, the saved offset and extent. -/
def restoreAxis (origin side offset extent : Int) : Int × Int :=
  let side := max side 1
  let extent := clamp extent 1 side
  (clamp (satAdd origin offset) origin (satAdd origin (satSub side extent)), extent)

namespace SavedWindowGeometry

def fromGlobal (m : Remembrance) (serial : U64) : Option SavedWindowGeometry :=
  if !validConnector m.output || !validSize m.geometry.w m.geometry.h then none
  else
    some
      { output := m.output
        x := ⟨satSub m.geometry.x m.outputGeometry.x, satI32_range _⟩
        y := ⟨satSub m.geometry.y m.outputGeometry.y, satI32_range _⟩
        width := m.geometry.w
        height := m.geometry.h
        state := m.state
        serial := serial }

def valid (saved : SavedWindowGeometry) : Bool :=
  validConnector saved.output && validSize saved.width saved.height && 0 < saved.serial.1

def restore (saved : SavedWindowGeometry) (output : Rectangle) : Rect :=
  let horizontal := restoreAxis output.x output.w saved.x saved.width
  let vertical := restoreAxis output.y output.h saved.y saved.height
  ⟨horizontal.1, vertical.1, horizontal.2, vertical.2⟩

/-- The same place, whatever the serial. -/
def unchanged (current saved : SavedWindowGeometry) : Bool := { current with serial := saved.serial } = saved

end SavedWindowGeometry

/-! ## The file -/

abbrev PersistedPlacement := WindowIdentity × SavedWindowGeometry

def ofI32 (n : I32) : Json := .number (if 0 ≤ n.1 then .unsigned (.ofNat n.1.toNat) else .negative n)

def asI32 : Json → Option I32
  | .number (.unsigned n) => if h : n.toNat < 2 ^ 31 then some ⟨n.toNat, by omega⟩ else none
  | .number (.negative n) => if h : -2 ^ 31 ≤ n ∧ n < 0 then some ⟨n, by omega⟩ else none
  | _ => none

namespace PersistedPlacement

def toJson (record : PersistedPlacement) : Json :=
  .object [("backend", .string record.1.backend.name), ("appId", .string record.1.appId),
    ("output", .string record.2.output), ("x", ofI32 record.2.x), ("y", ofI32 record.2.y),
    ("width", ofI32 record.2.width), ("height", ofI32 record.2.height),
    ("maximized", .bool record.2.state.maximized), ("fullscreen", .bool record.2.state.fullscreen),
    ("serial", .number (.unsigned (.ofNat record.2.serial.1)))]

def ofJson (value : Json) : Option PersistedPlacement := do
  let fields ← value.asObject
  let name ← (fields.get "backend").bind Json.asString
  let backend ← [WindowBackend.wayland, .x11].find? fun backend => backend.name = name
  let appId ← (fields.get "appId").bind Json.asString
  let output ← (fields.get "output").bind Json.asString
  let x ← (fields.get "x").bind asI32
  let y ← (fields.get "y").bind asI32
  let width ← (fields.get "width").bind asI32
  let height ← (fields.get "height").bind asI32
  let maximized ← fieldOr Json.asBool false (fields.get "maximized")
  let fullscreen ← fieldOr Json.asBool false (fields.get "fullscreen")
  let serial ← (fields.get "serial").bind Json.asU64
  return (⟨backend, appId⟩, ⟨output, x, y, width, height, ⟨maximized, fullscreen⟩, serial.toNat, serial.toNat_lt⟩)

end PersistedPlacement

structure PlacementFile where
  version : UInt32
  placements : List PersistedPlacement

namespace PlacementFile

def fields (file : PlacementFile) : JsonMap :=
  [("version", Json.ofU32 file.version), ("placements", .array (file.placements.map PersistedPlacement.toJson))]

def ofJson (value : Json) : Option PlacementFile := do
  let fields ← value.asObject
  let version ← (fields.get "version").bind Json.asU32
  let placements ← (fields.get "placements").bind Json.asArray
  return ⟨version, ← placements.mapM PersistedPlacement.ofJson⟩

end PlacementFile

/-! ## The store -/

def maxPlacements : Nat := 256

/-- `MAX_FILE_BYTES`. -/
def maxFileBytes : Nat := 1024 * 1024

structure WindowPlacementStore where
  path : Option String
  placements : AList fun _ : WindowIdentity => SavedWindowGeometry := ∅
  nextSerial : U64 := ⟨0, U64.zero_lt⟩
  dirty : Bool := false

/-- Adding a record of a file: of two under one identity the later stays, unless its serial is less. -/
def loadRecord (loaded : (AList fun _ : WindowIdentity => SavedWindowGeometry) × U64) (record : PersistedPlacement) :
    (AList fun _ : WindowIdentity => SavedWindowGeometry) × U64 :=
  (if (loaded.1.lookup record.1).any fun current => record.2.serial < current.serial then loaded.1
    else loaded.1.insert record.1 record.2, max loaded.2 record.2.serial)

def outputOf (connector : String) (outputs : List (String × Rectangle)) (fallback : Rectangle) : Rectangle :=
  ((outputs.find? fun output => output.1 = connector).map (·.2)).getD fallback

namespace WindowPlacementStore

/-- The records of a file; a version before the third has no states whose provenance is known. -/
def ofFile (path : String) (file : PlacementFile) : WindowPlacementStore :=
  let records := if file.version < 3 then file.placements.map fun record => (record.1, { record.2 with state := {} })
    else file.placements
  let records := records.filter fun record => record.1.valid && record.2.valid
  let records := records.insertionSort fun a b => a.2.serial ≤ b.2.serial
  let loaded := (records.drop (records.length - maxPlacements)).foldl loadRecord (∅, ⟨0, by decide⟩)
  { path, placements := loaded.1, nextSerial := loaded.2, dirty := file.version ≠ 3 }

variable {B : Type} (text : JsonText B)

def readFile (bytes : B) : Except String PlacementFile :=
  if maxFileBytes < text.length bytes then .error "window placement state exceeds the size limit"
  else
    match (text.decode bytes).bind PlacementFile.ofJson with
    | none => .error "the file is no placement file"
    | some file =>
      if file.version ≠ 3 ∧ file.version ≠ 1 ∧ file.version ≠ 2 then
        .error ("unsupported window placement state version " ++ toString file.version)
      else .ok file

def load (path : Option String) (file : Option B) (readable : Bool) : Except String WindowPlacementStore :=
  match path with
  | none => .ok { path := none }
  | some path =>
    if ¬readable then .error "the file cannot be read"
    else
      match file with
      | none => .ok { path }
      | some bytes => (readFile text bytes).map (ofFile path)

def restoredPlacement (s : WindowPlacementStore) (identity : WindowIdentity) (outputs : List (String × Rectangle))
    (fallback : Rectangle) : Option (Rect × WindowPlacementState) := do
  let saved ← s.placements.lookup identity
  return (saved.restore (outputOf saved.output outputs fallback), saved.state)

/-- What orders placements by age. -/
def age (e : Σ _ : WindowIdentity, SavedWindowGeometry) : Nat ×ₗ Nat ×ₗ String := toLex (e.2.serial.1, e.1.rank)

def evictOldest (placements : AList fun _ : WindowIdentity => SavedWindowGeometry) :
    AList fun _ : WindowIdentity => SavedWindowGeometry :=
  if maxPlacements < placements.entries.length then
    match placements.entries.argmin age with
    | some oldest => placements.erase oldest.1
    | none => placements
  else placements

def insert (s : WindowPlacementStore) (identity : WindowIdentity) (saved : SavedWindowGeometry) :
    WindowPlacementStore :=
  { s with
    nextSerial := saved.serial
    placements := evictOldest (s.placements.insert identity saved)
    dirty := true }

/-- The placements in the order of their identities. -/
def payload (s : WindowPlacementStore) : B :=
  text.encode (PlacementFile.fields
    ⟨3, (s.placements.entries.map fun e => (e.1, e.2)).insertionSort fun a b => a.1.rank ≤ b.1.rank⟩)

/-- What is written where the directory, the temporary file and its renaming cause no error. -/
def persist (s : WindowPlacementStore) (io : Except String Unit) : Except String (Option B) :=
  if s.path = none then .ok none
  else if maxFileBytes < text.length (s.payload text) then
    .error "serialized window placement state exceeds the size limit"
  else io.map fun _ => some (s.payload text)

/-- `saturating_add(1).max(1)`. -/
def freshSerial (s : WindowPlacementStore) : U64 := ⟨max (min (s.nextSerial.1 + 1) (2 ^ 64 - 1)) 1, by omega⟩

/-- What `remember` returns, leaves and writes. -/
def remember (s : WindowPlacementStore) (io : Except String Unit) (identity : WindowIdentity) (m : Remembrance) :
    Except String Bool × WindowPlacementStore × Option B :=
  match SavedWindowGeometry.fromGlobal m s.freshSerial with
  | none => (.ok false, s, none)
  | some saved =>
    let unchanged := (s.placements.lookup identity).any (·.unchanged saved)
    if unchanged && !s.dirty then (.ok false, s, none)
    else
      let s := if unchanged then s else s.insert identity saved
      match s.persist text io with
      | .error error => (.error error, s, none)
      | .ok written => (.ok !unchanged, { s with dirty := false }, written)

end WindowPlacementStore

end Deniald.Placement
