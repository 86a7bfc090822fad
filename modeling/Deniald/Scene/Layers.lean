/-
The layers of a window: one for each surface with something to show that a traversal of the window's trees meets, in the
order in which they are met. The parent that a layer names is the surface it was met from.
-/
import Deniald.Scene.Build
import Deniald.Wire.Validation

namespace Deniald.Scene

open Deniald.Lib Deniald.Layout Deniald.Topology Deniald.Wire

/-! ## Surfaces that are met -/

/-- A surface whose children are met. -/
def entered (surfaces : Surfaces) (surface : ObjectId) : Bool :=
  (surfaces surface).view.isSome && (surfaces surface).id.isSome

section

variable (geometry : Geometry) (surfaces : Surfaces)

variable {geometry surfaces}

variable {visits : List LayerVisit}

end

/-! ## Visits of a tree -/

section

variable (surfaces : Surfaces) (root : LayeredTree ObjectId) (origin : LogicalPoint) (rootRole : SurfaceRoleDescription)
  (rootParentSurfaceId popupRootSurfaceId : UInt64) (expectsSample : Bool)

def treeLinks : List (ObjectId × Option ObjectId) := root.links (entered surfaces)

variable {surfaces root origin rootRole rootParentSurfaceId popupRootSurfaceId expectsSample}

variable {visit : LayerVisit}

end

/-! ## Visits of a window -/

section

variable (s : WaylandFrontend)

def windowSurfaces (tree : LayeredTree ObjectId) (popups : List ScenePopup) : List ObjectId :=
  tree.layers ++ popups.reverse.flatMap (·.tree.layers)

end

end Deniald.Scene
