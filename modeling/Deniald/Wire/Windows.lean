/-
Window snapshots (wire/encode.rs, `update_windows`; wire.rs, `validate_windows`): a list of windows replaces the one the
bridge keeps and is sent to the shell, once for each revision.
-/
import Deniald.Wire.Bridge

namespace Deniald.Wire

open Deniald.Lib

/-! ## Validation -/

/-- `MAX_WINDOWS`. -/
def maxWindows : Nat := 4096

/-- `valid_opacity`. -/
def validOpacity (opacity : F64) : Bool := opacity.isFinite && F64.le (.finite 0) opacity && F64.le opacity (.finite 1)

def WindowDescription.valid (w : WindowDescription) : Bool :=
  w.objectId != 0 && w.surfaceId != 0 && w.windowId != 0 && w.width != 0 && w.height != 0 &&
    w.title.utf8ByteSize ≤ maxStringBytes && w.appId.utf8ByteSize ≤ maxStringBytes && w.scale120 != 0 &&
    w.transform ≤ 7 && validOpacity w.opacity &&
    [w.surfaceX, w.surfaceY, w.surfaceWidth, w.surfaceHeight, w.textureSourceX, w.textureSourceY,
      w.textureSourceWidth, w.textureSourceHeight, w.geometryX, w.geometryY, w.geometryWidth, w.geometryHeight,
      w.contentX, w.contentY, w.contentWidth, w.contentHeight].all F64.isFinite &&
    !(0 < w.textureId && (F64.le w.textureSourceWidth (.finite 0) || F64.le w.textureSourceHeight (.finite 0))) &&
    !(!w.surfaces.isEmpty && (F64.le w.contentWidth (.finite 0) || F64.le w.contentHeight (.finite 0)))

def insertSurfaceIds : List UInt64 → List UInt64 → List SurfaceLayerDescription →
    Except WireError (List UInt64 × List UInt64)
  | windowIds, snapshotIds, [] => .ok (windowIds, snapshotIds)
  | windowIds, snapshotIds, surface :: surfaces =>
    if surface.surfaceId == 0 || windowIds.contains surface.surfaceId || snapshotIds.contains surface.surfaceId then
      .error .identity
    else insertSurfaceIds (surface.surfaceId :: windowIds) (surface.surfaceId :: snapshotIds) surfaces

def SurfaceLayerDescription.valid (windowIds : List UInt64) (s : SurfaceLayerDescription) : Bool :=
  s.transform ≤ 7 && s.scale120 != 0 && validOpacity s.opacity &&
    [s.surfaceX, s.surfaceY, s.surfaceWidth, s.surfaceHeight, s.textureSourceX, s.textureSourceY, s.textureSourceWidth,
      s.textureSourceHeight].all F64.isFinite &&
    !F64.le s.surfaceWidth (.finite 0) && !F64.le s.surfaceHeight (.finite 0) &&
    !(0 < s.textureId && (s.width == 0 || s.height == 0 || F64.le s.textureSourceWidth (.finite 0) ||
      F64.le s.textureSourceHeight (.finite 0))) &&
    (s.parentSurfaceId == 0 || windowIds.contains s.parentSurfaceId) &&
    (s.popupRootSurfaceId == 0 || windowIds.contains s.popupRootSurfaceId)

def SurfaceLayerDescription.validRole (windowSurfaceId : UInt64) (s : SurfaceLayerDescription) : Bool :=
  match s.role with
  | .root => s.surfaceId == windowSurfaceId && s.parentSurfaceId == 0 && s.popupRootSurfaceId == 0
  | .popup => s.popupRootSurfaceId == s.surfaceId
  | .subsurface => s.parentSurfaceId != 0

def validateSurfaces (windowSurfaceId : UInt64) (windowIds : List UInt64) :
    Option UInt32 → List SurfaceLayerDescription → Except WireError Unit
  | _, [] => .ok ()
  | previous, surface :: surfaces =>
    if previous.any fun order => surface.compositionOrder < order then .error .ordering
    else if !surface.valid windowIds then .error .payload
    else if !surface.validRole windowSurfaceId then .error .identity
    else validateSurfaces windowSurfaceId windowIds (some surface.compositionOrder) surfaces

/-- The loop over the windows, after some surfaces with their identities. -/
def validateFrom : Nat → List UInt64 → List WindowDescription → Except WireError Unit
  | _, _, [] => .ok ()
  | surfaceCount, snapshotIds, window :: windows =>
    if maxSurfaces < surfaceCount + window.surfaces.length then .error .count
    else if !window.valid then .error .payload
    else if window.contentKind = .localFlutter ∧ (window.textureId ≠ 0 ∨ window.surfaces ≠ []) then .error .payload
    else do
      let (windowIds, snapshotIds) ← insertSurfaceIds [] snapshotIds window.surfaces
      validateSurfaces window.surfaceId windowIds none window.surfaces
      validateFrom (surfaceCount + window.surfaces.length) snapshotIds windows

def validateWindows (windows : List WindowDescription) : Except WireError Unit :=
  if maxWindows < windows.length then .error .count else validateFrom 0 [] windows

/-! ## Updates -/

/-- The bridge after a call, the message to send, and the list that was not kept. -/
abbrev UpdateResult (F : Type) := Except WireError (Option (Outbound F) × List WindowDescription)

def WireBridge.updateWindows {F : Type} (builder : Builder F) (b : WireBridge F) (revision : UInt64)
    (windows : List WindowDescription) (restoredWindowIds : List UInt64) : WireBridge F × UpdateResult F :=
  if b.windowsRevision = some revision then (b, .ok (none, windows))
  else
    let nextRestored := (windows.map (·.windowId)).filter fun id => restoredWindowIds.contains id
    match validateWindows windows with
    | .error error => (b, .error error)
    | .ok () =>
      let b' := { b with windows, windowsRevision := some revision, restoredWindowIds := nextRestored }
      let (sequence, b') := b'.takeSequence
      match encode builder (.windowsUpdate sequence windows nextRestored) with
      | .error error => (b', .error error)
      | .ok message => (b', .ok (some message, b.windows))

/-! ## Accepted lists -/

/-- Another of the window's surfaces, or none. -/
def Within (surfaces : List SurfaceLayerDescription) (id : UInt64) : Prop := id = 0 ∨ ∃ s ∈ surfaces, s.surfaceId = id

/-- What validation leaves of a list: identities that are not 0, those of surfaces unique over all windows, and parents
and popup roots in their own window. -/
structure Accepted (windows : List WindowDescription) : Prop where
  count : windows.length ≤ maxWindows
  surfaceIds : ((windows.flatMap (·.surfaces)).map (·.surfaceId)).Nodup
  identities : ∀ w ∈ windows, w.objectId ≠ 0 ∧ w.surfaceId ≠ 0 ∧ w.windowId ≠ 0
  surfaces : ∀ w ∈ windows, ∀ s ∈ w.surfaces, s.surfaceId ≠ 0 ∧ Within w.surfaces s.parentSurfaceId ∧
    Within w.surfaces s.popupRootSurfaceId

theorem insertSurfaceIds_ok : ∀ {surfaces : List SurfaceLayerDescription} {windowIds snapshotIds : List UInt64}
    {inserted : List UInt64 × List UInt64}, insertSurfaceIds windowIds snapshotIds surfaces = .ok inserted →
      inserted.1 = (surfaces.map (·.surfaceId)).reverse ++ windowIds ∧
      inserted.2 = (surfaces.map (·.surfaceId)).reverse ++ snapshotIds ∧
      (∀ s ∈ surfaces, s.surfaceId ≠ 0) ∧ (snapshotIds.Nodup → inserted.2.Nodup)
  | [], windowIds, snapshotIds, inserted, h => by
    cases h; simp
  | surface :: surfaces, windowIds, snapshotIds, inserted, h => by
    unfold insertSurfaceIds at h
    split_ifs at h with hn
    obtain ⟨hw, hsn, hal, hno⟩ := insertSurfaceIds_ok h
    simp only [Bool.or_eq_true, beq_iff_eq, List.contains_iff_mem, not_or] at hn
    obtain ⟨⟨hz, -⟩, hf⟩ := hn
    refine ⟨by simp [hw], by simp [hsn], ?_, fun hd => hno (List.nodup_cons.2 ⟨hf, hd⟩)⟩
    intro s hs
    rcases List.mem_cons.1 hs with rfl | hs
    · exact hz
    · exact hal s hs

theorem within_of_contains {surfaces : List SurfaceLayerDescription} {id : UInt64}
    (h : (id == 0 || ((surfaces.map SurfaceLayerDescription.surfaceId).reverse ++ []).contains id) = true) : Within surfaces id := by
  simp only [Bool.or_eq_true, beq_iff_eq, List.append_nil, List.contains_iff_mem, List.mem_reverse, List.mem_map] at h
  exact h

theorem validateSurfaces_ok {surf : UInt64} {wins : List UInt64} :
    ∀ {surfaces : List SurfaceLayerDescription} {previous : Option UInt32},
      validateSurfaces surf wins previous surfaces = .ok () →
        ∀ s ∈ surfaces, s.valid wins = true
  | [], _, _, s, hs => by cases hs
  | surface :: surfaces, previous, h, s, hs => by
    unfold validateSurfaces at h
    split_ifs at h with _ hvalid _
    rcases List.mem_cons.1 hs with rfl | hs
    · simpa using hvalid
    · exact validateSurfaces_ok h s hs

theorem validateFrom_ok : ∀ {wins : List WindowDescription} {surfaceCount : Nat} {snapshotIds : List UInt64},
    validateFrom surfaceCount snapshotIds wins = .ok () → snapshotIds.Nodup →
      (((wins.flatMap (·.surfaces)).map (·.surfaceId)).reverse ++ snapshotIds).Nodup ∧
      ∀ w ∈ wins, (w.objectId ≠ 0 ∧ w.surfaceId ≠ 0 ∧ w.windowId ≠ 0) ∧
        ∀ s ∈ w.surfaces, s.surfaceId ≠ 0 ∧ Within w.surfaces s.parentSurfaceId ∧ Within w.surfaces s.popupRootSurfaceId
  | [], _, snapshotIds, _, hn => ⟨by simpa using hn, fun w hw => by cases hw⟩
  | window :: wins, surfaceCount, snapshotIds, h, hn => by
    unfold validateFrom at h; split at h
    · cases h
    split at h
    · cases h
    rename_i hvalid; split at h
    · cases h
    obtain ⟨⟨wi, inserted⟩, hin, h⟩ := bind_ok.1 h
    obtain ⟨_, hsu, h⟩ := bind_ok.1 h
    obtain ⟨hwi, hsn, hd, hr⟩ := insertSurfaceIds_ok hin
    obtain ⟨hre, hal⟩ := validateFrom_ok h (hr hn)
    dsimp only at hwi hsn
    refine ⟨?_, fun w hw => ?_⟩
    · rw [hsn] at hre
      simpa using hre
    · rcases List.mem_cons.1 hw with rfl | hw
      · refine ⟨?_, fun s hs => ⟨hd s hs, ?_⟩⟩
        · simp only [WindowDescription.valid, Bool.not_eq_true', Bool.not_eq_false, Bool.and_eq_true, bne_iff_ne] at hvalid
          tauto
        · have hvalid := validateSurfaces_ok hsu s hs; rw [hwi] at hvalid
          unfold SurfaceLayerDescription.valid at hvalid
          obtain ⟨hvalid, hpo⟩ := Bool.and_eq_true_iff.1 hvalid
          obtain ⟨-, hpa⟩ := Bool.and_eq_true_iff.1 hvalid
          exact ⟨within_of_contains hpa, within_of_contains hpo⟩
      · exact hal w hw

theorem accepted_of_validate {windows : List WindowDescription} (h : validateWindows windows = .ok ()) :
    Accepted windows := by
  unfold validateWindows at h
  split_ifs at h with hco
  obtain ⟨hn, hal⟩ := validateFrom_ok h List.nodup_nil
  rw [List.append_nil, List.nodup_reverse] at hn
  exact ⟨Nat.not_lt.1 hco, hn, fun w hw => (hal w hw).1, fun w hw => (hal w hw).2⟩

/-! ## Runs -/

structure UpdateCall where
  revision : UInt64
  windows : List WindowDescription
  restoredWindowIds : List UInt64

/-- The bridge, and the snapshots that were encoded for the shell, each with its revision. -/
structure WindowSession (F : Type) where
  bridge : WireBridge F
  delivered : List UpdateCall := []

namespace WindowSession

variable {F : Type} (builder : Builder F)

def result (s : WindowSession F) (call : UpdateCall) : WireBridge F × UpdateResult F :=
  s.bridge.updateWindows builder call.revision call.windows call.restoredWindowIds

def next (s : WindowSession F) (call : UpdateCall) : WindowSession F :=
  let (bridge, result) := s.result builder call
  match result with
  | .ok (some _, _) =>
    { bridge, delivered := s.delivered ++ [⟨call.revision, bridge.windows, bridge.restoredWindowIds⟩] }
  | .ok (none, _) | .error _ => { s with bridge }

/-- A list that is valid, and new, fits a message. -/
def Fits (s : WindowSession F) (call : UpdateCall) : Prop :=
  s.bridge.windowsRevision ≠ some call.revision → validateWindows call.windows = .ok () →
    (encode builder (.windowsUpdate (max s.bridge.nextSequence 1) call.windows
      ((call.windows.map (·.windowId)).filter fun id => call.restoredWindowIds.contains id))).isOk = true

structure Listed (s : WindowSession F) : Prop where
  accepted : Accepted s.bridge.windows
  restored : ∀ id ∈ s.bridge.restoredWindowIds, id ∈ s.bridge.windows.map (·.windowId)

def Recorded (s : WindowSession F) : Prop :=
  ∀ revision, s.bridge.windowsRevision = some revision →
    s.delivered.getLast? = some ⟨revision, s.bridge.windows, s.bridge.restoredWindowIds⟩

def Unchanged (s : WindowSession F) (call : UpdateCall) : Prop :=
  ∀ error, (s.result builder call).2 = .error error →
    (next builder s call).bridge.windows = s.bridge.windows ∧
      (next builder s call).bridge.windowsRevision = s.bridge.windowsRevision ∧
      (next builder s call).bridge.restoredWindowIds = s.bridge.restoredWindowIds

/-- A call leaves all as it is, or keeps a valid list with its revision and the restored of its windows; then it fails
only as its message does not fit. -/
inductive CallOutcome (s : WindowSession F) (call : UpdateCall) (s' : WindowSession F) : Prop
  | same (hsame : s' = s)
  | kept (hnew : s.bridge.windowsRevision ≠ some call.revision) (hvalid : validateWindows call.windows = .ok ())
      (hwindows : s'.bridge.windows = call.windows) (hrevision : s'.bridge.windowsRevision = some call.revision)
      (hrestored : s'.bridge.restoredWindowIds =
        (call.windows.map (·.windowId)).filter fun id => call.restoredWindowIds.contains id)
      (hfits : Fits builder s call → (∀ error, (s.result builder call).2 ≠ .error error) ∧
        s'.delivered.getLast? = some ⟨call.revision, s'.bridge.windows, s'.bridge.restoredWindowIds⟩)

theorem next_cases (s : WindowSession F) (call : UpdateCall) : CallOutcome builder s call (next builder s call) := by
  by_cases ho : s.bridge.windowsRevision = some call.revision
  · have hr : s.result builder call = (s.bridge, .ok (none, call.windows)) := if_pos ho
    refine .same ?_; unfold next
    rw [hr]
  cases hvalid : validateWindows call.windows with
  | error error =>
    have hr : s.result builder call = (s.bridge, .error error) := by
      unfold result WireBridge.updateWindows; rw [if_neg ho, hvalid]
    refine .same ?_; unfold next
    rw [hr]
  | ok _ =>
    let restored := (call.windows.map (·.windowId)).filter fun id => call.restoredWindowIds.contains id
    let bridge : WireBridge F :=
      { s.bridge with
        windows := call.windows
        windowsRevision := some call.revision
        restoredWindowIds := restored }
    have hr : s.result builder call =
        match encode builder (.windowsUpdate (max s.bridge.nextSequence 1) call.windows restored) with
        | .error error => (bridge.takeSequence.2, .error error)
        | .ok message => (bridge.takeSequence.2, .ok (some message, s.bridge.windows)) := by
      unfold result WireBridge.updateWindows
      rw [if_neg ho, hvalid]; rfl
    cases he : encode builder (.windowsUpdate (max s.bridge.nextSequence 1) call.windows restored) with
    | error error =>
      rw [he] at hr
      have hn : next builder s call = { s with bridge := bridge.takeSequence.2 } := by
        unfold next; rw [hr]
      rw [hn]
      refine .kept ho hvalid rfl rfl rfl fun hfits => ?_
      have hok := hfits ho hvalid
      rw [he] at hok; cases hok
    | ok message =>
      rw [he] at hr
      have hn : next builder s call =
          { bridge := bridge.takeSequence.2, delivered := s.delivered ++ [⟨call.revision, call.windows, restored⟩] } := by
        unfold next
        rw [hr]; rfl
      rw [hn]
      refine .kept ho hvalid rfl rfl rfl fun _ => ⟨fun error her => ?_, List.getLast?_concat⟩
      rw [hr] at her; cases her

theorem listed_next {s : WindowSession F} (h : Listed s) (call : UpdateCall) : Listed (next builder s call) := by
  rcases next_cases builder s call with hsame | ⟨-, hvalid, hwindows, -, hrestored, -⟩
  · rw [hsame]; exact h
  constructor
  · rw [hwindows]; exact accepted_of_validate hvalid
  · rw [hwindows, hrestored]; exact fun id hid => (List.mem_filter.1 hid).1

theorem recorded_next {s : WindowSession F} {call : UpdateCall} (h : Recorded s) (hfits : Fits builder s call) :
    Recorded (next builder s call) ∧ Unchanged builder s call := by
  rcases next_cases builder s call with hsame | ⟨-, -, -, hrevision, -, hd⟩
  · constructor
    · rw [hsame]; exact h
    · intro _ _
      rw [hsame]; exact ⟨rfl, rfl, rfl⟩
  obtain ⟨hn, hs⟩ := hd hfits
  constructor
  · intro revision hrec
    obtain rfl := Option.some.inj (hrevision.symm.trans hrec); exact hs
  · exact fun error he => absurd he (hn error)

/-- In every run the bridge keeps valid lists, and only restored windows of them; in those where each valid list fits a
message, a revision is on record only once its snapshot was encoded, and what fails changes nothing. -/
theorem snapshots_delivered (snapshot : Topology.TopologySnapshot F) (atlas : Topology.AtlasPlan F)
    (workArea : WorkAreaOptions) (calls : List UpdateCall) :
    let start : WindowSession F := { bridge := { snapshot, atlas, workArea } }
    Along (next builder) (fun s call => Listed (next builder s call)) start calls ∧
      (Along (next builder) (Fits builder) start calls →
        Along (next builder) (fun s call => Recorded (next builder s call) ∧ Unchanged builder s call) start calls) := by
  intro start
  have hlis : Listed start := by
    constructor
    · exact ⟨Nat.zero_le _, List.nodup_nil, fun w hw => (nomatch hw), fun w hw => (nomatch hw)⟩
    · exact fun id hid => nomatch hid
  have hrec : Recorded start := fun revision h => nomatch h
  constructor
  · have hall : Along (next builder) (fun _ _ => True) start calls := along_of_forall fun _ _ => trivial
    exact Along.of_invariant (I := Listed) (fun _ call h _ => listed_next builder h call)
      (fun _ call h _ => listed_next builder h call) hlis hall
  · exact Along.of_invariant (I := Recorded) (fun _ _ h hfits => (recorded_next builder h hfits).1)
      (fun _ _ h hfits => recorded_next builder h hfits) hrec

end WindowSession

/-! ## What validation does not ask -/

/-- A surface that is a child of itself. -/
def cyclicSurface : SurfaceLayerDescription :=
  ⟨5, 5, 0, .subsurface, 0, 1, 1, .finite 0, .finite 0, .finite 1, .finite 1, .finite 0, .finite 0, .finite 1, .finite 1,
    0, 120, 0, .finite 1, false⟩

def twiceWindow (surfaces : List SurfaceLayerDescription) : WindowDescription :=
  ⟨3, 4, 1, 0, "", "", 1, 1, .finite 0, .finite 0, .finite 1, .finite 1, .finite 0, .finite 0, .finite 1, .finite 1,
    .finite 0, .finite 0, .finite 1, .finite 1, 7, 1, false, 0, 120, .finite 0, .finite 0, .finite 1, .finite 1, surfaces,
    false, false, .finite 1, .surfaceTree, .contentTranslucent⟩

/-- A list is valid with two windows of one identity, and a surface that is its own parent. -/
theorem cyclic_list_accepted :
    validateWindows [twiceWindow [cyclicSurface], twiceWindow []] = .ok () ∧
      ¬([twiceWindow [cyclicSurface], twiceWindow []].map (·.windowId)).Nodup ∧
      cyclicSurface.parentSurfaceId = cyclicSurface.surfaceId := by
  decide +kernel

end Deniald.Wire
