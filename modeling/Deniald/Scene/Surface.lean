/-
Layers of surfaces (surface_pipeline.rs, `append_surface_tree`): a tree of surfaces is traversed from the lowest to the
highest, and each that has something to show is described to the shell, with the frame of its texture.
-/
import Deniald.Layout.Dwindle
import Deniald.Lib.Traversal
import Deniald.Wire.Windows

namespace Deniald.Scene

open Deniald.Lib Deniald.Layout Deniald.Topology Deniald.Wire

/-! ## Surfaces -/

deriving instance DecidableEq for LogicalRect

abbrev ObjectId := Nat

/-- An identity of `register_surface`: it is neither 0 nor beyond the `i64` of a texture. -/
structure SurfaceId where
  value : UInt64
  ne_zero : value ≠ 0
  isTexture : value.toNat < 2 ^ 63
  deriving DecidableEq

structure Size where
  w : Int
  h : Int

/-- The pixels of a buffer, of which there are some (`validate_shm_layout`, and Smithay for a dmabuf). -/
structure PixelExtent where
  width : UInt32
  height : UInt32
  nonempty : width ≠ 0 ∧ height ≠ 0

structure Dmabuf where
  buffer : ObjectId
  extent : PixelExtent

inductive Buffer where
  | dmabuf (dmabuf : Dmabuf)
  | shm (buffer : ObjectId)

structure SurfaceView where
  src : LogicalRect ℚ
  dst : Size
  offset : LogicalPoint

structure RendererSurfaceState where
  view : Option SurfaceView := none
  bufferSize : Option Size := none
  bufferScale : Int := 1
  bufferTransform : OutputTransform := .normal
  opaqueRegions : Option (List Rect) := none
  buffer : Option Buffer := none

structure ShmTextureFrame where
  revision : UInt64
  extent : PixelExtent

abbrev SurfaceFeedback := Nat

/-- What the frontend and Smithay keep for a surface. -/
structure SurfaceState where
  id : Option SurfaceId := none
  renderer : Option RendererSurfaceState := none
  /-- In `surface_shm_frames`. -/
  shmFrame : Option ShmTextureFrame := none
  /-- In `surface_buffer_revisions`. -/
  bufferRevision : Option UInt64 := none
  feedback : Option SurfaceFeedback := none

def SurfaceState.view (s : SurfaceState) : Option SurfaceView := s.renderer.bind (·.view)

abbrev Surfaces := ObjectId → SurfaceState

structure Geometry where
  /-- `Rectangle::to_buffer`, of a source in a buffer with some scale, transform and size. -/
  toBuffer : LogicalRect ℚ → Int → OutputTransform → Size → LogicalRect ℚ
  /-- `Rectangle::subtract_rects`. -/
  subtractRects : Rect → List Rect → List Rect

def saturatingPointAdd (a b : LogicalPoint) : LogicalPoint := ⟨satAdd a.x b.x, satAdd a.y b.y⟩

def transformToWire : OutputTransform → UInt32
  | .normal => 0
  | .rotate90 => 1
  | .rotate180 => 2
  | .rotate270 => 3
  | .flipped => 4
  | .flipped90 => 5
  | .flipped180 => 6
  | .flipped270 => 7

/-! ## Textures -/

inductive ExternalTextureSource where
  | dmabuf (buffer : Dmabuf) (revision : UInt64) (feedback : Option SurfaceFeedback)
  | shm (frame : ShmTextureFrame) (feedback : Option SurfaceFeedback)

structure ExternalTextureFrame where
  textureId : UInt64
  source : ExternalTextureSource
  expectsSample : Bool

def ExternalTextureSource.extent : ExternalTextureSource → PixelExtent
  | .dmabuf buffer _ _ => buffer.extent
  | .shm frame _ => frame.extent

def SurfaceState.texture (s : SurfaceState) (renderer : RendererSurfaceState) : Option ExternalTextureSource :=
  match renderer.buffer with
  | some (.dmabuf dmabuf) => some (.dmabuf dmabuf (s.bufferRevision.getD 0) s.feedback)
  | _ => s.shmFrame.map fun frame => .shm frame s.feedback

/-! ## Layers -/

/-- A surface that gets a layer. -/
structure ShownSurface where
  id : SurfaceId
  view : SurfaceView
  positive : 0 < view.dst.w ∧ 0 < view.dst.h
  bufferSize : Option Size
  bufferScale : Int
  bufferTransform : OutputTransform
  opaqueRegions : Option (List Rect)
  texture : Option ExternalTextureSource

def SurfaceState.shown (s : SurfaceState) : Option ShownSurface := do
  let id ← s.id
  let renderer ← s.renderer
  let view ← renderer.view
  if hempty : view.dst.w ≤ 0 ∨ view.dst.h ≤ 0 then none
  else some { id, view, positive := by omega, texture := s.texture renderer, bufferSize := renderer.bufferSize,
              bufferScale := renderer.bufferScale, bufferTransform := renderer.bufferTransform,
              opaqueRegions := renderer.opaqueRegions }

structure SurfaceTreeContext where
  location : LogicalPoint
  parentSurfaceId : UInt64

structure SurfaceTreeRoot where
  root : ObjectId
  role : SurfaceRoleDescription
  popupRootSurfaceId : UInt64
  expectsSample : Bool

section

variable (geometry : Geometry)

def ShownSurface.source (s : ShownSurface) : LogicalRect ℚ :=
  match s.bufferSize with
  | some size => geometry.toBuffer s.view.src (max s.bufferScale 1) s.bufferTransform size
  | none => ⟨0, 0, 0, 0⟩

def ShownSurface.isOpaque (s : ShownSurface) : Bool :=
  s.opaqueRegions.any fun regions => (geometry.subtractRects ⟨0, 0, s.view.dst.w, s.view.dst.h⟩ regions).isEmpty

/-- `u32::try_from(scale).unwrap_or(1).saturating_mul(120)`, of a scale that is not 0 or less. -/
def scale120 (scale : Int) : UInt32 := UInt32.ofNat (min (scale.toNat * 120) (2 ^ 32 - 1))

def ShownSurface.layer (s : ShownSurface) (tree : SurfaceTreeRoot) (surface : ObjectId) (context : SurfaceTreeContext)
    (order : UInt32) : SurfaceLayerDescription :=
  let location := saturatingPointAdd context.location s.view.offset
  let source := s.source geometry
  { surfaceId := s.id.value
    parentSurfaceId := context.parentSurfaceId
    popupRootSurfaceId := tree.popupRootSurfaceId
    role := if surface = tree.root then tree.role else .subsurface
    textureId := if s.texture.isSome then s.id.value else 0
    width := (s.texture.map (·.extent.width)).getD 0
    height := (s.texture.map (·.extent.height)).getD 0
    surfaceX := .finite location.x
    surfaceY := .finite location.y
    surfaceWidth := .finite s.view.dst.w
    surfaceHeight := .finite s.view.dst.h
    textureSourceX := .finite source.x
    textureSourceY := .finite source.y
    textureSourceWidth := .finite source.width
    textureSourceHeight := .finite source.height
    transform := transformToWire s.bufferTransform
    scale120 := scale120 (max s.bufferScale 1)
    compositionOrder := order
    opacity := .finite 1
    isOpaque := s.isOpaque geometry }

def ShownSurface.frame (s : ShownSurface) (expectsSample : Bool) : Option ExternalTextureFrame :=
  s.texture.map fun source => ⟨s.id.value, source, expectsSample⟩

end

end Deniald.Scene
