/-
When a list of windows is accepted (wire.rs, `validate_windows`): its windows and their layers are valid one by one, the
layers are in order, and no two of the list have one identity.
-/
import Deniald.Wire.Windows

namespace Deniald.Wire

open Deniald.Lib

/-! ## Layers -/

/-- The identities that layers bring. -/
def layerIds (layers : List SurfaceLayerDescription) : List UInt64 := layers.map (·.surfaceId)

/-- What a window and its layers have in an accepted list, whatever the other windows are. -/
structure WindowDescription.Sound (w : WindowDescription) : Prop where
  valid : w.valid = true
  content : w.contentKind = .localFlutter → w.textureId = 0 ∧ w.surfaces = []
  surfaceIds : ∀ layer ∈ w.surfaces, layer.surfaceId ≠ 0
  orders : (w.surfaces.map (·.compositionOrder)).IsChain (· ≤ ·)
  layers : ∀ layer ∈ w.surfaces, layer.valid (layerIds w.surfaces) = true ∧ layer.validRole w.surfaceId = true

/-- The identities of all layers of a list. -/
def snapshotIds (windows : List WindowDescription) : List UInt64 := windows.flatMap fun w => layerIds w.surfaces

def surfaceCount (windows : List WindowDescription) : Nat := (windows.map (·.surfaces.length)).sum

end Deniald.Wire
