/-
Whole scenes (surface_pipeline.rs, `flutter_scene`; wire.rs, `validate_windows`): what clients can do within the limits on
windows and surfaces, and when the bridge accepts the list that is built of it.
-/
import Deniald.Scene.Publishable

namespace Deniald.Scene

open Deniald.Lib Deniald.Layout Deniald.Topology Deniald.Wire

/-! ## Scenes -/

def SceneWindow.surfaces (w : SceneWindow) : List ObjectId :=
  match w.tree with
  | none => []
  | some tree => windowSurfaces tree w.popups

section

variable (geometry : Geometry) (r : UnitRounding) (s : WaylandFrontend)

variable {r s}

end

end Deniald.Scene
