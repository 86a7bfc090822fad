/-
Which scenes the bridge accepts (wire.rs, `validate_windows`): the layers of a window are built of surfaces that their
clients arrange as they like, and a layer names as its parent a surface that may have been left out.
-/
import Deniald.Scene.Layers

namespace Deniald.Scene

open Deniald.Lib Deniald.Layout Deniald.Topology Deniald.Wire

/-! ## One layer -/

section

variable {geometry : Geometry} {surfaces : Surfaces} {visits : List LayerVisit}

end

/-! ## One tree -/

def Shows (surfaces : Surfaces) (tree : LayeredTree ObjectId) : Prop :=
  ∃ link ∈ treeLinks surfaces tree, (surfaces link.1).shown.isSome = true

section

variable {geometry : Geometry} {surfaces : Surfaces} {root : LayeredTree ObjectId} {origin : LogicalPoint}
  {rootRole : SurfaceRoleDescription} {rootParentSurfaceId popupRootSurfaceId : UInt64} {expectsSample : Bool}

end

/-! ## The layer of a root -/

structure RootLayer.Sound (root : RootLayer) : Prop where
  transform : root.transform ≤ 7
  scale : root.scale120 ≠ 0
  finite : [root.textureSourceX, root.textureSourceY, root.textureSourceWidth, root.textureSourceHeight].all F64.isFinite
  source : root.textureId = 0 ∨ F64.le root.textureSourceWidth (.finite 0) = false ∧
    F64.le root.textureSourceHeight (.finite 0) = false

section

variable (geometry : Geometry) (r : UnitRounding) (s : WaylandFrontend)

variable {layers : List SurfaceLayerDescription}

end

/-! ## Windows of clients -/

section

variable (geometry : Geometry) (r : UnitRounding) (s : WaylandFrontend)

def ScenePopup.parent (popup : ScenePopup) : Option ObjectId :=
  match popup.kind with
  | .xdg parent => parent
  | .inputMethod => none

variable {popups : List ScenePopup}

variable {tree : LayeredTree ObjectId} {stableId : SurfaceId}

end

end Deniald.Scene
