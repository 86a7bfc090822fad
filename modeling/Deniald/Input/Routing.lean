/-
The client under a pointer or a touch (wayland_frontend/input.rs, `input_route`): the regions of the input layout
searched from the front to the back, and the route last found, which later samples reuse while it passes a cheap check.
-/
import Deniald.Lib.Double
import Deniald.Lib.Occlusion
import Deniald.Wire.Sent

/-! ## Regions -/

namespace Deniald.Wire

open Deniald.Lib

def InputRect.contains (r : Rounding) (rect : InputRect) (x y : F64) : Bool :=
  rect.x.le x && rect.y.le y && x.lt (rect.x.add r rect.width) && y.lt (rect.y.add r rect.height)

end Deniald.Wire

namespace Deniald.Input

open Deniald.Lib Deniald.Wire

/-- `Point<f64, Logical>`. -/
structure Position where
  x : F64
  y : F64
  deriving DecidableEq

def Position.sub (r : Rounding) (a b : Position) : Position := ⟨a.x.sub r b.x, a.y.sub r b.y⟩

def regionAcceptsInput (r : Rounding) (region : InputWindowRegion) (position : Position) : Bool :=
  region.rect.contains r position.x position.y && region.visible && region.hitTestEnabled &&
    region.windowId == region.objectId

def shellOwns (r : Rounding) (layout : InputLayoutSnapshot) (position : Position) : Bool :=
  layout.exclusiveShell || layout.shellRegions.any fun region => region.contains r position.x position.y

/-- `input_routing_changed`. -/
def inputRoutingChanged (current : Option InputLayoutSnapshot) (next : InputLayoutSnapshot) : Bool :=
  current.all fun current => current.flags ≠ next.flags || current.shellRegions ≠ next.shellRegions ||
    current.softwareKeyboardRegions ≠ next.softwareKeyboardRegions || current.windows ≠ next.windows

/-! ## Routes -/

structure ClientInputRoute (S W : Type) where
  window : Option W
  surface : S
  region : InputWindowRegion
  layoutIndex : Nat
  sceneOrigin : Position
  deriving DecidableEq

/-- What Smithay and the input method hold of surfaces and windows: the windows of the space in order, their surfaces
and stable ids, the root of a surface's tree and popups, and whether it is a popup of the input method. -/
structure SurfaceTrees (S W : Type) where
  elements : List W
  rootSurface : W → Option S
  surfaceId : S → Option UInt64
  toplevelCandidateSurface : S → S
  ownsPopupSurface : S → Bool

structure InputRouter (S W : Type) where
  inputLayout : Option InputLayoutSnapshot := none
  atlasOrigin : Position
  localWindows : Finset UInt64 := ∅
  surfacesById : AList fun _ : UInt64 => S := ∅
  trees : SurfaceTrees S W
  clientInputRouteCache : Option (ClientInputRoute S W) := none

variable {S W : Type} [DecidableEq S] [DecidableEq W]

namespace SurfaceTrees

def windowForId (trees : SurfaceTrees S W) (windowId : UInt64) : Option W :=
  trees.elements.find? fun window => (trees.rootSurface window).bind trees.surfaceId = some windowId

def owningToplevelSurface (trees : SurfaceTrees S W) (surface : S) : Option S :=
  let candidate := trees.toplevelCandidateSurface surface
  if trees.elements.any fun window => trees.rootSurface window = some candidate then some candidate else none

/-- The window a surface is reached through under a window's id: none for a popup of the input method, else the window
whose toplevel owns the surface. -/
def owner (trees : SurfaceTrees S W) (surface : S) (windowId : UInt64) : Option (Option W) :=
  if trees.ownsPopupSurface surface then some none
  else do
    let window ← trees.windowForId windowId
    let rootSurface ← trees.rootSurface window
    if trees.owningToplevelSurface surface ≠ some rootSurface then none else some (some window)

end SurfaceTrees

namespace InputRouter

variable (r : Rounding) (s : InputRouter S W)

def clientInputRouteIsLive (route : ClientInputRoute S W) : Bool :=
  s.surfacesById.lookup route.region.surfaceId = some route.surface &&
    (route.window.isSome || s.trees.ownsPopupSurface route.surface)

def routeThrough (region : InputWindowRegion × Nat) : Option (ClientInputRoute S W) := do
  let surface ← s.surfacesById.lookup region.1.surfaceId
  let window ← s.trees.owner surface region.1.windowId
  return ⟨window, surface, region.1, region.2, s.atlasOrigin⟩

def isLocal (region : InputWindowRegion) : Bool := region.windowId ∈ s.localWindows

/-- The check a cached route passes before it is used again. -/
def cachedIsValid (layout : InputLayoutSnapshot) (scenePosition : Position) (route : ClientInputRoute S W) : Bool :=
  regionAcceptsInput r route.region scenePosition && route.layoutIndex ≤ layout.windows.length &&
    !(layout.windows.take route.layoutIndex).any (regionAcceptsInput r · scenePosition) &&
    s.clientInputRouteIsLive route

def inputRoute (position : Position) : Option (ClientInputRoute S W) × InputRouter S W :=
  match s.inputLayout with
  | none => (none, s)
  | some layout =>
    let scenePosition := position.sub r s.atlasOrigin
    if shellOwns r layout scenePosition then (none, s)
    -- Only the region in front is looked at for a local window.
    else if (layout.windows.find? (regionAcceptsInput r · scenePosition)).any s.isLocal then
      (none, { s with clientInputRouteCache := none })
    else if s.clientInputRouteCache.any (s.cachedIsValid r layout scenePosition) then (s.clientInputRouteCache, s)
    else
      match layout.windows.zipIdx.findSome? fun region =>
        if regionAcceptsInput r region.1 scenePosition then s.routeThrough region else none with
      | some route => (some route, { s with clientInputRouteCache := some route })
      | none => (none, s)

end InputRouter

/-- What changes what a sample depends on, and the sample itself. -/
inductive RouterEvent (S W : Type) where
  | inputLayout (layout : InputLayoutSnapshot)
  | resetGeneration
  | registerSurface (surfaceId : UInt64) (surface : S)
  | removeSurface (surface : S) (removeIdentity : Bool)
  | unmapWindow (window : W)
  | trees (trees : SurfaceTrees S W)
  | topology (atlasOrigin : Position)
  | localWindows (windows : Finset UInt64)
  | sample (position : Position)

namespace InputRouter

def start (atlasOrigin : Position) (trees : SurfaceTrees S W) : InputRouter S W := { atlasOrigin, trees }

def dropRoute (s : InputRouter S W) (stale : ClientInputRoute S W → Bool) : InputRouter S W :=
  { s with clientInputRouteCache := s.clientInputRouteCache.filter fun route => !stale route }

def next (r : Rounding) (s : InputRouter S W) : RouterEvent S W → InputRouter S W
  | .inputLayout layout =>
    { s with
      inputLayout := some layout
      clientInputRouteCache :=
        if inputRoutingChanged s.inputLayout layout then none else s.clientInputRouteCache }
  | .resetGeneration => { s with inputLayout := none, clientInputRouteCache := none }
  | .registerSurface surfaceId surface => { s with surfacesById := s.surfacesById.insert surfaceId surface }
  | .removeSurface surface removeIdentity =>
    let removesToplevel := s.trees.elements.any fun window => s.trees.rootSurface window = some surface
    let s := s.dropRoute fun route =>
      route.surface = surface || (removesToplevel && s.trees.owningToplevelSurface route.surface = some surface)
    match s.trees.surfaceId surface with
    | some surfaceId => if removeIdentity then { s with surfacesById := s.surfacesById.erase surfaceId } else s
    | none => s
  | .unmapWindow window => s.dropRoute fun route => route.window = some window
  | .trees trees => { s with trees := trees }
  | .topology atlasOrigin => { s with atlasOrigin := atlasOrigin }
  | .localWindows windows => { s with localWindows := windows }
  | .sample position => (s.inputRoute r position).2

/-! ## What the route should be -/

/-- The regions that accept a point, from the front to the back, where the shell does not take it. -/
def candidates (r : Rounding) (s : InputRouter S W) (position : Position) : List (InputWindowRegion × Nat) :=
  match s.inputLayout with
  | none => []
  | some layout =>
    let scenePosition := position.sub r s.atlasOrigin
    if shellOwns r layout scenePosition then []
    else layout.windows.zipIdx.filter fun region => regionAcceptsInput r region.1 scenePosition

/-- The route computed afresh. -/
def freshRoute (r : Rounding) (s : InputRouter S W) (position : Position) : Option (ClientInputRoute S W) :=
  ({ s with clientInputRouteCache := none }.inputRoute r position).1

/-- The cache is transparent, the target is the front-most region of a live surface or a local window, and no region of a
local window lies in front of a client's. -/
structure Exact (r : Rounding) (s : InputRouter S W) (position : Position) : Prop where
  transparent : (s.inputRoute r position).1 = s.freshRoute r position
  frontMost : (s.inputRoute r position).1 =
    frontAnswer (fun region => s.isLocal region.1) s.routeThrough (s.candidates r position)
  unoccluded : ∀ route, (s.inputRoute r position).1 = some route →
    ∃ before after, s.candidates r position = before ++ (route.region, route.layoutIndex) :: after ∧
      s.isLocal route.region = false ∧ ∀ region ∈ before, s.isLocal region.1 = false

def Reuses (r : Rounding) (s : InputRouter S W) (position : Position) (route : ClientInputRoute S W) : Prop :=
  ∃ layout, s.inputLayout = some layout ∧ shellOwns r layout (position.sub r s.atlasOrigin) = false ∧
    (s.candidates r position).head?.any (fun region => s.isLocal region.1) = false ∧
    s.clientInputRouteCache = some route ∧ s.cachedIsValid r layout (position.sub r s.atlasOrigin) route = true

/-- A cached route that is reused was cached under the atlas origin there is, and its window still owns its surface. -/
def Current (r : Rounding) (s : InputRouter S W) (position : Position) : Prop :=
  ∀ route, s.Reuses r position route →
    route.sceneOrigin = s.atlasOrigin ∧ s.trees.owner route.surface route.region.windowId = some route.window

/-- No stale region accepts the point in front of a local window that lies in front of a client. -/
def Unskipped (r : Rounding) (s : InputRouter S W) (position : Position) : Prop :=
  Covering (fun region : InputWindowRegion × Nat => s.isLocal region.1) s.routeThrough (s.candidates r position)

def Listed (s : InputRouter S W) : Prop :=
  ∀ route, s.clientInputRouteCache = some route →
    ∃ layout, s.inputLayout = some layout ∧ layout.windows[route.layoutIndex]? = some route.region

/-! ## The cached route -/

variable {r : Rounding} {s : InputRouter S W} {position : Position} {route : ClientInputRoute S W}

omit [DecidableEq S] [DecidableEq W] in
theorem listed_dropRoute (h : s.Listed) (st : ClientInputRoute S W → Bool) : (s.dropRoute st).Listed :=
  fun route hr => h route (Option.filter_eq_some_iff.1 hr).1

omit [DecidableEq W] in
theorem inputRoute_cases (r : Rounding) (s : InputRouter S W) (position : Position) :
    (s.inputRoute r position).2 = s ∨ (s.inputRoute r position).2 = { s with clientInputRouteCache := none } ∨
      ∃ layout route, s.inputLayout = some layout ∧ layout.windows[route.layoutIndex]? = some route.region ∧
        (s.inputRoute r position).2 = { s with clientInputRouteCache := some route } := by
  unfold inputRoute
  cases hy : s.inputLayout with
  | none => exact .inl rfl
  | some layout =>
    dsimp only; split
    · exact .inl rfl
    split
    · exact .inr (.inl rfl)
    split
    · exact .inl rfl
    split
    · rename_i route hf
      obtain ⟨rgn, hre, hr⟩ := List.exists_of_findSome?_eq_some hf; split at hr
      · obtain ⟨surface, -, hr⟩ := Option.bind_eq_some_iff.1 hr
        obtain ⟨window, -, hr⟩ := Option.bind_eq_some_iff.1 hr; cases hr
        exact .inr (.inr ⟨layout, _, rfl, List.mem_zipIdx_iff_getElem?.1 hre, rfl⟩)
      · cases hr
    · exact .inl rfl

theorem listed_next (h : s.Listed) (e : RouterEvent S W) : (s.next r e).Listed := by
  cases e with
  | inputLayout layout =>
    intro route hr
    simp only [next] at hr; split at hr
    · cases hr
    rename_i hh
    obtain ⟨current, hcu, hre⟩ := h route hr
    -- An unchanged routing has the regions of the layout the route was found in.
    have hw : current.windows = layout.windows := by
      by_contra hne
      exact hh (by simp [inputRoutingChanged, hcu, hne])
    exact ⟨layout, rfl, hw ▸ hre⟩
  | resetGeneration => exact fun route hr => by cases hr
  | removeSurface surface idt =>
    simp only [next]; split
    · split <;> exact listed_dropRoute h _
    · exact listed_dropRoute h _
  | unmapWindow window => exact listed_dropRoute h _
  | registerSurface | trees | topology | localWindows => exact h
  | sample position =>
    show (s.inputRoute r position).2.Listed
    rcases inputRoute_cases r s position with hs | hn | ⟨layout, route, hy, hre, hca⟩
    · rw [hs]; exact h
    · rw [hn]; exact fun route hr => by cases hr
    rw [hca]; intro r' hr
    cases hr; exact ⟨layout, hy, hre⟩

omit [DecidableEq W] in
theorem routeThrough_eq_some_iff {rgn : InputWindowRegion × Nat} : s.routeThrough rgn = some route ↔
      s.surfacesById.lookup rgn.1.surfaceId = some route.surface ∧
        s.trees.owner route.surface rgn.1.windowId = some route.window ∧
        rgn = (route.region, route.layoutIndex) ∧ s.atlasOrigin = route.sceneOrigin := by
  unfold routeThrough
  constructor
  · intro h
    obtain ⟨surface, hs, h⟩ := Option.bind_eq_some_iff.1 h
    obtain ⟨window, hw, h⟩ := Option.bind_eq_some_iff.1 h
    cases h; exact ⟨hs, hw, rfl, rfl⟩
  · rintro ⟨hs, hw, rfl, ho⟩
    rw [hs, Option.bind_eq_bind, Option.bind_some, hw, Option.bind_eq_bind, Option.bind_some, ho]
    rfl

/-! ## A sample -/

omit [DecidableEq S] [DecidableEq W] in
theorem candidates_of_layout {lay : InputLayoutSnapshot} (hy : s.inputLayout = some lay)
    (hs : shellOwns r lay (position.sub r s.atlasOrigin) = false) : s.candidates r position =
      lay.windows.zipIdx.filter fun rgn => regionAcceptsInput r rgn.1 (position.sub r s.atlasOrigin) := by
  unfold candidates
  rw [hy]; exact if_neg (Bool.eq_false_iff.1 hs)

omit [DecidableEq S] [DecidableEq W] in
theorem any_head? {lay : InputLayoutSnapshot} (hy : s.inputLayout = some lay)
    (hs : shellOwns r lay (position.sub r s.atlasOrigin) = false) :
    ((s.candidates r position).head?.any fun rgn => s.isLocal rgn.1) =
      (lay.windows.find? (regionAcceptsInput r · (position.sub r s.atlasOrigin))).any s.isLocal := by
  rw [candidates_of_layout hy hs, List.head?_filter]
  conv_rhs => rw [← List.zipIdx_map_fst 0 lay.windows, List.find?_map, Option.any_map]
  rfl

omit [DecidableEq W] in
theorem inputRoute_of_reuses (h : s.Reuses r position route) : (s.inputRoute r position).1 = some route := by
  obtain ⟨layout, hy, hs, hlo, hca, hv⟩ := h; rw [any_head? hy hs] at hlo
  unfold inputRoute
  simp [hy, hs, hlo, hca, hv]

omit [DecidableEq W] in
theorem inputRoute_of_fresh (h : ∀ route, ¬s.Reuses r position route) : (s.inputRoute r position).1 =
      answerPastFront (fun rgn => s.isLocal rgn.1) s.routeThrough (s.candidates r position) := by
  cases hy : s.inputLayout with
  | none =>
    unfold inputRoute candidates
    rw [hy]; rfl
  | some layout =>
    cases hs : shellOwns r layout (position.sub r s.atlasOrigin) with
    | true =>
      unfold inputRoute candidates
      simp only [hy, hs, if_true]; rfl
    | false =>
      have hr := any_head? hy hs; unfold answerPastFront
      rw [hr, candidates_of_layout hy hs, ← List.head?_filterMap, List.filterMap_filter,
        List.head?_filterMap]
      unfold inputRoute
      simp only [hy, hs, Bool.false_eq_true, if_false]; split
      · rfl
      rename_i hlo
      have hst : s.clientInputRouteCache.any (s.cachedIsValid r layout (position.sub r s.atlasOrigin)) = false := by
        cases hca : s.clientInputRouteCache with
        | none => rfl
        | some route =>
          refine Bool.eq_false_iff.2 fun hv => h route ⟨layout, hy, hs, ?_, hca, hv⟩
          rw [hr]; exact Bool.eq_false_iff.2 hlo
      rw [hst, if_neg Bool.false_ne_true]; split
      · rename_i hf; exact hf.symm
      · rename_i hf; exact hf.symm

omit [DecidableEq W] in
theorem freshRoute_eq (r : Rounding) (s : InputRouter S W) (position : Position) : s.freshRoute r position =
      answerPastFront (fun rgn => s.isLocal rgn.1) s.routeThrough (s.candidates r position) :=
  inputRoute_of_fresh (s := { s with clientInputRouteCache := none }) fun _ h => by
    obtain ⟨_, -, -, -, hca, -⟩ := h; cases hca

omit [DecidableEq W] in
theorem head_of_reuses (hli : s.Listed) (h : s.Reuses r position route) :
    (s.candidates r position).head? = some (route.region, route.layoutIndex) := by
  obtain ⟨layout, hy, hs, -, hca, hv⟩ := h
  obtain ⟨_, hm, hr⟩ := hli route hca
  obtain rfl := Option.some.inj (hy.symm.trans hm)
  simp only [cachedIsValid, Bool.and_eq_true, Bool.not_eq_true', List.any_eq_false] at hv
  obtain ⟨⟨⟨hac, -⟩, hf⟩, -⟩ := hv
  obtain ⟨hlt, hge⟩ := List.getElem?_eq_some_iff.1 hr
  rw [candidates_of_layout hy hs, List.head?_filter, List.find?_eq_some_iff_getElem]
  refine ⟨hac, route.layoutIndex, by rw [List.length_zipIdx]; exact hlt, ?_, fun j hj => ?_⟩
  · rw [List.getElem_zipIdx, hge, Nat.zero_add]
  · rw [List.getElem_zipIdx, Bool.not_eq_true']
    refine Bool.eq_false_iff.2 (hf _ (List.mem_take_iff_getElem.2 ⟨j, ?_, rfl⟩)); omega

omit [DecidableEq W] in
theorem freshRoute_of_reuses (hli : s.Listed) (h : s.Reuses r position route) : s.freshRoute r position = some route ↔
      route.sceneOrigin = s.atlasOrigin ∧ s.trees.owner route.surface route.region.windowId = some route.window := by
  have hh := head_of_reuses hli h
  obtain ⟨layout, -, -, hlo, -, hv⟩ := h
  have hlv : s.surfacesById.lookup route.region.surfaceId = some route.surface := by
    simp only [cachedIsValid, clientInputRouteIsLive, Bool.and_eq_true, decide_eq_true_eq] at hv
    exact hv.2.1
  obtain ⟨b, hs⟩ := List.head?_eq_some_iff.1 hh; rw [freshRoute_eq]
  unfold answerPastFront; rw [hlo, if_neg Bool.false_ne_true]
  constructor
  · intro hf
    obtain ⟨rgn, -, hr⟩ := List.exists_of_findSome?_eq_some hf
    obtain ⟨-, hw, rfl, ho⟩ := routeThrough_eq_some_iff.1 hr; exact ⟨ho.symm, hw⟩
  · rintro ⟨ho, hw⟩
    rw [hs, List.findSome?_cons, routeThrough_eq_some_iff.2 ⟨hlv, hw, rfl, ho.symm⟩]

theorem exact_iff (hs : s.Listed) : s.Exact r position ↔ s.Current r position ∧ s.Unskipped r position := by
  have hn : (s.inputRoute r position).1 = s.freshRoute r position ↔ s.Current r position := by
    constructor
    · intro h route hr; rw [inputRoute_of_reuses hr] at h
      exact (freshRoute_of_reuses hs hr).1 h.symm
    · intro h
      by_cases hr : ∃ route, s.Reuses r position route
      · obtain ⟨route, hr⟩ := hr
        rw [inputRoute_of_reuses hr, (freshRoute_of_reuses hs hr).2 (h route hr)]
      · rw [inputRoute_of_fresh fun route h => hr ⟨route, h⟩, freshRoute_eq]
  constructor
  · intro h
    refine ⟨hn.1 h.transparent, answerPastFront_eq_iff.1 ?_⟩
    rw [← freshRoute_eq, ← h.transparent, h.frontMost]
  · rintro ⟨hcu, hu⟩
    have hn := hn.2 hcu
    have hf := hn.trans ((freshRoute_eq r s position).trans (answerPastFront_eq_iff.2 hu))
    refine ⟨hn, hf, fun route hro => ?_⟩
    obtain ⟨before, region, after, hst, hre, hlo, hbe⟩ := not_stops_of_frontAnswer (hf.symm.trans hro)
    obtain ⟨-, -, rfl, -⟩ := routeThrough_eq_some_iff.1 hre
    exact ⟨before, after, hst, hlo, hbe⟩

end InputRouter

/-- Over every run, a sample is routed exactly where a cached route it reuses is current and no stale region in front of a
local window lets it through. -/
theorem pointer_routes_exact_iff (r : Rounding) (atlasOrigin : Position) (trees : SurfaceTrees S W)
    (events : List (RouterEvent S W)) (position : Position) :
    let s := exec (InputRouter.next r) (.start atlasOrigin trees) events
    s.Exact r position ↔ s.Current r position ∧ s.Unskipped r position :=
  InputRouter.exact_iff (exec_invariant (I := InputRouter.Listed) (fun _ e h => InputRouter.listed_next h e) events
    fun _ h => by cases h)

def squareRegion (id : UInt64) : InputWindowRegion :=
  ⟨id, id, id, ⟨.finite 0, .finite 0, .finite 100, .finite 100⟩, ⟨.finite 0, .finite 0, .finite 100, .finite 100⟩, 0, 1⟩

def closedOverLocal : InputRouter UInt64 UInt64 :=
  exec (InputRouter.next .exact)
    (.start ⟨.finite 0, .finite 0⟩ ⟨[1, 3], some, some, id, fun _ => false⟩)
    [.registerSurface 1 1, .registerSurface 3 3, .localWindows {2},
      .inputLayout { windows := [squareRegion 1, squareRegion 2, squareRegion 3] }, .removeSurface 1 true]

theorem covered_client_receives :
    ¬closedOverLocal.Exact .exact ⟨.finite 10, .finite 10⟩ :=
  fun h => absurd h.frontMost (by decide +kernel)

end Deniald.Input
