/-
Textures of Wayland clients in the Flutter engine (flutter_runtime/scene_bridge.rs, cursor_bridge.rs, service_bridge.rs,
platform_dispatch.rs): what the window scene, the cursor, the screenshot and closing windows show is registered with the
engine, and is unregistered when none of them shows it any more. Frames stand for their textures; the sources of these, and
the outputs they are drawn on, are left out. Each call of the engine may fail, and so may validation and encoding.
-/
import Deniald.Flutter.Leases
import Deniald.Wire.Windows

namespace Deniald.Flutter

open Deniald.Lib Deniald.Wire

/-! ## The engine -/

inductive EngineOp where
  | register
  | unregister

structure EngineCall where
  op : EngineOp
  textureId : Int64
  wasRegistered : Bool

/-- A texture is registered that was not, or unregistered that was. -/
def EngineCall.proper (call : EngineCall) : Bool :=
  match call.op with
  | .register => !call.wasRegistered
  | .unregister => call.wasRegistered

structure EngineTextures where
  registered : List Int64 := []
  calls : List EngineCall := []

namespace EngineTextures

/-- `register_external_texture`, which succeeds or not. -/
def register (engine : EngineTextures) (textureId : Int64) (succeeds : Bool) : EngineTextures where
  registered := if succeeds then engine.registered.insert textureId else engine.registered
  calls := engine.calls ++ [⟨.register, textureId, engine.registered.contains textureId⟩]

/-- `unregister_external_texture`, which succeeds or not. -/
def unregister (engine : EngineTextures) (textureId : Int64) (succeeds : Bool) : EngineTextures where
  registered := if succeeds then engine.registered.filter (· != textureId) else engine.registered
  calls := engine.calls ++ [⟨.unregister, textureId, engine.registered.contains textureId⟩]

end EngineTextures

/-- How the engine answers during an operation. -/
structure EngineAnswers where
  registers : Int64 → Bool
  unregisters : Int64 → Bool
  sends : Bool

/-! ## State -/

structure TextureState (F : Type) where
  engine : EngineTextures := {}
  registeredExternalTextures : List Int64 := []
  sceneTextureIds : List Int64 := []
  cursorTextureIds : List Int64 := []
  cursorEpoch : UInt64 := 0
  retiredCursorTextureIds : AList fun _ : UInt64 => List Int64 := ∅
  screenshotTextureId : Option Int64 := none
  windowCloseTextureLeases : WindowCloseTextureLeases := .default
  wire : WireBridge F

inductive TextureError where
  /-- "external texture identifiers must be unique and positive" -/
  | externalTextures
  /-- "cursor texture identifiers must be unique, positive, and outside the window scene" -/
  | cursorTextures
  /-- "buffer-only updates must target unique published external textures" -/
  | bufferUpdates
  /-- "cursor buffer updates must target unique active cursor textures" -/
  | cursorBufferUpdates
  /-- "a screenshot texture is already registered" -/
  | screenshotRegistered
  /-- "Flutter external texture identifiers are exhausted" -/
  | exhausted
  /-- "screenshot texture identity does not match the active texture" -/
  | screenshotIdentity
  | engine
  | wire (error : WireError)

abbrev TextureResult (F α : Type) := TextureState F × Except TextureError α

def collectTextureIds (rejects : Int64 → Bool) : List Int64 → List Int64 → Option (List Int64)
  | seen, [] => some seen
  | seen, textureId :: frames =>
    if textureId ≤ 0 || seen.contains textureId || rejects textureId then none
    else collectTextureIds rejects (textureId :: seen) frames

/-- `i64::try_from`, of what is positive. -/
def positiveTextureId (textureId : UInt64) : Option Int64 :=
  if 0 < textureId ∧ textureId.toNat < 2 ^ 63 then some textureId.toInt64 else none

/-- The textures of a window in `window_texture_map`. -/
def windowTextureIds (window : WindowDescription) : List Int64 :=
  if window.surfaces.isEmpty then (positiveTextureId window.textureId).toList
  else window.surfaces.filterMap fun surface => positiveTextureId surface.textureId

def windowTextureMap (windows : List WindowDescription) : WindowTextures :=
  windows.foldl (fun textures window => textures.insert window.windowId (windowTextureIds window)) ∅

namespace TextureState

variable {F : Type}

def retainsCursorTexture (s : TextureState F) (textureId : Int64) : Bool :=
  s.cursorTextureIds.contains textureId || s.retiredCursorTextureIds.entries.any fun epoch => epoch.2.contains textureId

/-- The loops that register what is not registered. A texture is recorded before the engine is called. -/
def registerTextures (answers : EngineAnswers) : TextureState F → List Int64 → TextureResult F Unit
  | s, [] => (s, .ok ())
  | s, textureId :: textureIds =>
    if s.registeredExternalTextures.contains textureId then registerTextures answers s textureIds
    else
      let s := { s with
        registeredExternalTextures := textureId :: s.registeredExternalTextures
        engine := s.engine.register textureId (answers.registers textureId) }
      if answers.registers textureId then registerTextures answers s textureIds else (s, .error .engine)

/-- The loops that unregister what is not kept. The record is changed after the engine is called. -/
def unregisterTextures (answers : EngineAnswers) (keeps : TextureState F → Int64 → Bool) :
    TextureState F → List Int64 → TextureResult F Unit
  | s, [] => (s, .ok ())
  | s, textureId :: textureIds =>
    if keeps s textureId then unregisterTextures answers keeps s textureIds
    else
      let s := { s with engine := s.engine.unregister textureId (answers.unregisters textureId) }
      if answers.unregisters textureId then
        let s := { s with registeredExternalTextures := s.registeredExternalTextures.filter (· != textureId) }
        unregisterTextures answers keeps s textureIds
      else (s, .error .engine)

/-! ## The scene -/

end TextureState

structure SceneCall where
  metadataRevision : UInt64
  windows : List WindowDescription
  frames : List Int64
  restoredWindowIds : List UInt64
  now : Int
  hash : HashOrder Int64
  leaseHash : HashOrder (Σ _ : UInt64, WindowCloseTextureLease)

namespace TextureState

variable {F : Type}

/-- The block of `sync_wayland_scene` that publishes the windows: whether they changed. -/
def publishWindows (builder : Builder F) (answers : EngineAnswers) (s : TextureState F) (call : SceneCall) :
    TextureResult F Bool :=
  match s.wire.updateWindows builder call.metadataRevision call.windows call.restoredWindowIds with
  | (wire, .error error) => ({ s with wire }, .error (.wire error))
  | (wire, .ok (none, _)) => ({ s with wire }, .ok false)
  | (wire, .ok (some _, _)) =>
    if answers.sends then
      let (leases, _) := s.windowCloseTextureLeases.publish call.leaseHash (windowTextureMap wire.windows) call.now
      ({ s with wire, windowCloseTextureLeases := leases }, .ok true)
    else ({ s with wire }, .error .engine)

/-- What is registered but not shown, neither by the scene nor otherwise. -/
def removedTextures (s : TextureState F) (desired : List Int64) : List Int64 :=
  s.registeredExternalTextures.filter fun textureId =>
    !desired.contains textureId && s.screenshotTextureId != some textureId && !s.retainsCursorTexture textureId &&
      !s.windowCloseTextureLeases.retainsTexture textureId

/-- Whether the windows changed. The recorded scene is taken out of the state first, and put back at the end. -/
def syncWaylandScene (builder : Builder F) (answers : EngineAnswers) (s : TextureState F) (call : SceneCall) :
    TextureResult F Bool :=
  let s := { s with sceneTextureIds := [] }
  match collectTextureIds (fun _ => false) [] call.frames with
  | none => (s, .error .externalTextures)
  | some desired =>
    match s.registerTextures answers (call.hash.order desired) with
    | (s, .error error) => (s, .error error)
    | (s, .ok _) =>
      match s.publishWindows builder answers call with
      | (s, .error error) => (s, .error error)
      | (s, .ok changed) =>
        match s.unregisterTextures answers (fun _ _ => false) (call.hash.order (s.removedTextures desired)) with
        | (s, .error error) => (s, .error error)
        | (s, .ok _) => ({ s with sceneTextureIds := desired }, .ok changed)

def syncWaylandBuffers (s : TextureState F) (frames : List Int64) : TextureResult F Unit :=
  match collectTextureIds (fun textureId => !s.sceneTextureIds.contains textureId) [] frames with
  | none => (s, .error .bufferUpdates)
  | some _ => (s, .ok ())

/-! ## The cursor -/

end TextureState

structure CursorCall where
  frames : List Int64
  /-- `validate_cursor_state`. -/
  validates : Except WireError Unit
  /-- The encoder of the cursor's state. -/
  encodes : Except WireError Unit
  hash : HashOrder Int64

namespace TextureState

variable {F : Type}

/-- The textures that the cursor showed and no longer shows, under the epoch it does so from. -/
def retireCursorTextures (s : TextureState F) (desired : List Int64) : TextureState F :=
  let epoch := max (s.cursorEpoch + 1) 1
  let retired := s.cursorTextureIds.filter fun textureId => !desired.contains textureId
  { s with
    cursorEpoch := epoch
    retiredCursorTextureIds :=
      if retired.isEmpty then s.retiredCursorTextureIds
      else s.retiredCursorTextureIds.insert epoch ((s.retiredCursorTextureIds.lookup epoch).getD [] ++ retired) }

def syncCursorState (answers : EngineAnswers) (s : TextureState F) (call : CursorCall) : TextureResult F Unit :=
  match collectTextureIds s.sceneTextureIds.contains [] call.frames with
  | none => (s, .error .cursorTextures)
  | some desired =>
    match s.registerTextures answers (call.hash.order desired) with
    | (s, .error error) => (s, .error error)
    | (s, .ok _) =>
      let s := s.retireCursorTextures desired
      match call.validates with
      | .error error => (s, .error (.wire error))
      | .ok _ =>
        let s := { s with wire := s.wire.takeSequence.2 }
        match call.encodes with
        | .error error => (s, .error (.wire error))
        | .ok _ => if answers.sends then ({ s with cursorTextureIds := desired }, .ok ()) else (s, .error .engine)

def syncCursorBuffers (s : TextureState F) (frames : List Int64) : TextureResult F Unit :=
  match collectTextureIds (fun textureId => !s.cursorTextureIds.contains textureId) [] frames with
  | none => (s, .error .cursorBufferUpdates)
  | some _ => (s, .ok ())

/-- The textures that were retired up to an epoch, and those that were after it. -/
def acknowledgedTextures (s : TextureState F) (epoch : UInt64) : List Int64 × List Int64 :=
  let entries := s.retiredCursorTextureIds.entries
  ((entries.filter fun retired => retired.1 ≤ epoch).flatMap (·.2),
    (entries.filter fun retired => epoch < retired.1).flatMap (·.2))

/-- `retirements.retain`: the epochs that are not acknowledged. -/
def retainEpochs (s : TextureState F) (epoch : UInt64) : TextureState F :=
  { s with retiredCursorTextureIds := retainKeys (fun retiredEpoch => epoch < retiredEpoch) s.retiredCursorTextureIds }

def keepsAcknowledged (laterRetained : List Int64) (s : TextureState F) (textureId : Int64) : Bool :=
  s.cursorTextureIds.contains textureId || laterRetained.contains textureId || s.sceneTextureIds.contains textureId ||
    s.screenshotTextureId == some textureId || s.windowCloseTextureLeases.retainsTexture textureId ||
    !s.registeredExternalTextures.contains textureId

def acknowledgeCursorEpoch (answers : EngineAnswers) (s : TextureState F) (hash : HashOrder Int64) (epoch : UInt64) :
    TextureResult F Bool :=
  if epoch = 0 ∨ s.cursorEpoch < epoch then (s, .ok false)
  else
    let (acknowledged, laterRetained) := s.acknowledgedTextures epoch
    match (s.retainEpochs epoch).unregisterTextures answers (keepsAcknowledged laterRetained)
      (hash.order acknowledged.dedup) with
    | (s, .error error) => (s, .error error)
    | (s, .ok _) => (s, .ok true)

/-! ## The screenshot and closing windows -/

/-- The highest texture from one on down that is not registered, among so many. -/
def freeTextureId (registered : List Int64) : Nat → Int64 → Option Int64
  | 0, _ => none
  | fuel + 1, textureId =>
    if textureId < 1 then none
    else if registered.contains textureId then freeTextureId registered fuel (textureId - 1)
    else some textureId

def registerScreenshotTexture (answers : EngineAnswers) (s : TextureState F) : TextureResult F Int64 :=
  if s.screenshotTextureId.isSome then (s, .error .screenshotRegistered)
  else
    -- one more than are registered are enough to find one that is not
    match freeTextureId s.registeredExternalTextures (s.registeredExternalTextures.length + 1) Int64.maxValue with
    | none => (s, .error .exhausted)
    | some textureId =>
      let s := { s with engine := s.engine.register textureId (answers.registers textureId) }
      if answers.registers textureId then
        ({ s with
            registeredExternalTextures := textureId :: s.registeredExternalTextures
            screenshotTextureId := some textureId }, .ok textureId)
      else (s, .error .engine)

def unregisterScreenshotTexture (answers : EngineAnswers) (s : TextureState F) (textureId : Int64) :
    TextureResult F Unit :=
  if s.screenshotTextureId ≠ some textureId then (s, .error .screenshotIdentity)
  else
    let s := { s with engine := s.engine.unregister textureId (answers.unregisters textureId) }
    if answers.unregisters textureId then
      ({ s with
          registeredExternalTextures := s.registeredExternalTextures.filter (· != textureId)
          screenshotTextureId := none }, .ok ())
    else (s, .error .engine)

def keepsClosed (s : TextureState F) (textureId : Int64) : Bool :=
  s.sceneTextureIds.contains textureId || s.retainsCursorTexture textureId ||
    s.screenshotTextureId == some textureId || s.windowCloseTextureLeases.retainsTexture textureId ||
    !s.registeredExternalTextures.contains textureId

def retireWindowCloseTextures (answers : EngineAnswers) (s : TextureState F) (textureIds : List Int64) :
    TextureResult F Unit :=
  s.unregisterTextures answers keepsClosed textureIds

/-- The dispatch of `WINDOW_CLOSE_COMPLETE_CHANNEL`. -/
def completeWindowClose (answers : EngineAnswers) (s : TextureState F) (windowId : UInt64) : TextureResult F Unit :=
  let (leases, retired) := s.windowCloseTextureLeases.complete windowId
  { s with windowCloseTextureLeases := leases }.retireWindowCloseTextures answers retired.textureIds

def expireWindowCloseTextureLeases (answers : EngineAnswers) (s : TextureState F)
    (hash : HashOrder (Σ _ : UInt64, WindowCloseTextureLease)) (now : Int) : TextureResult F Unit :=
  let (leases, retired) := s.windowCloseTextureLeases.expire hash now
  let s := { s with windowCloseTextureLeases := leases }
  if retired.leaseCount = 0 then (s, .ok ()) else s.retireWindowCloseTextures answers retired.textureIds

end TextureState

/-! ## Runs -/

inductive TextureCall where
  | syncWaylandScene (call : SceneCall)
  | syncWaylandBuffers (frames : List Int64)
  | syncCursorState (call : CursorCall)
  | syncCursorBuffers (frames : List Int64)
  | acknowledgeCursorEpoch (hash : HashOrder Int64) (epoch : UInt64)
  | registerScreenshotTexture
  | unregisterScreenshotTexture (textureId : Int64)
  | completeWindowClose (windowId : UInt64)
  | expireWindowCloseTextureLeases (hash : HashOrder (Σ _ : UInt64, WindowCloseTextureLease)) (now : Int)

structure TextureEvent where
  call : TextureCall
  answers : EngineAnswers

structure RegistrationSession (F : Type) where
  state : TextureState F
  publishedScene : List Int64 := []

namespace TextureState

variable {F : Type} (builder : Builder F)

/-- An operation's outcome, without its value. -/
def outcome {α : Type} (result : TextureResult F α) : TextureResult F Unit := (result.1, result.2.map fun _ => ())

def handle (s : TextureState F) (e : TextureEvent) : TextureResult F Unit :=
  match e.call with
  | .syncWaylandScene call => outcome (s.syncWaylandScene builder e.answers call)
  | .syncWaylandBuffers frames => s.syncWaylandBuffers frames
  | .syncCursorState call => s.syncCursorState e.answers call
  | .syncCursorBuffers frames => s.syncCursorBuffers frames
  | .acknowledgeCursorEpoch hash epoch => outcome (s.acknowledgeCursorEpoch e.answers hash epoch)
  | .registerScreenshotTexture => outcome (s.registerScreenshotTexture e.answers)
  | .unregisterScreenshotTexture textureId => s.unregisterScreenshotTexture e.answers textureId
  | .completeWindowClose windowId => s.completeWindowClose e.answers windowId
  | .expireWindowCloseTextureLeases hash now => s.expireWindowCloseTextureLeases e.answers hash now

end TextureState

namespace RegistrationSession

variable {F : Type} (builder : Builder F)

def next (s : RegistrationSession F) (e : TextureEvent) : RegistrationSession F :=
  let (state, result) := s.state.handle builder e
  match e.call, result with
  | .syncWaylandScene call, .ok _ => { state, publishedScene := call.frames }
  | _, _ => { s with state }

/-- A texture is shown: by the scene that was last published, the cursor, one of its epochs that is not acknowledged, the
screenshot, or a window that is closing. -/
inductive Holds (s : RegistrationSession F) (textureId : Int64) : Prop
  | scene (h : textureId ∈ s.publishedScene)
  | cursor (h : textureId ∈ s.state.cursorTextureIds)
  | epoch {epoch : UInt64} {textureIds : List Int64}
      (h : s.state.retiredCursorTextureIds.lookup epoch = some textureIds) (hmem : textureId ∈ textureIds)
  | screenshot (h : s.state.screenshotTextureId = some textureId)
  | lease (h : textureId ∈ s.state.windowCloseTextureLeases.held)

/-- What a step does: what is shown is registered, after a scene nothing else is, the engine was called as it may be, and
what fails leaves the scene and the cursor. -/
structure Matched (s : RegistrationSession F) (e : TextureEvent) : Prop where
  registered : ∀ textureId, (next builder s e).Holds textureId → textureId ∈ (next builder s e).state.engine.registered
  held : ∀ call, e.call = .syncWaylandScene call → (s.state.handle builder e).2 = .ok () →
    ∀ textureId ∈ (next builder s e).state.engine.registered, (next builder s e).Holds textureId
  calls : ∀ call ∈ (next builder s e).state.engine.calls, call.proper = true
  failed : ∀ error, (s.state.handle builder e).2 = .error error →
    (next builder s e).state.sceneTextureIds = s.state.sceneTextureIds ∧
      (next builder s e).state.cursorTextureIds = s.state.cursorTextureIds

end RegistrationSession

end Deniald.Flutter
