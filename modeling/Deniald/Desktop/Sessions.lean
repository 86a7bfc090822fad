/-
Interactions of the desktop workspace from their beginning to their end. Which of them are open is kept beside
the controller; a flag may stay set only while an interaction that sets it is open, and this is so in every
state exactly if every end of an interaction reaches the flag it has to clear.
-/
import Deniald.Desktop.Interactions

namespace Deniald.Desktop

open Deniald.Lib

open DesktopWorkspaceController

/-! ## Open interactions -/

/-- The interactions that have begun and not ended, by window: native grabs and layout previews by their events, the
shell's moves and the drags in the overview by its calls. -/
structure OpenInteractions where
  grabs : Int → Bool := fun _ => false
  previews : Int → Bool := fun _ => false
  moves : Int → Bool := fun _ => false
  drags : Int → Bool := fun _ => false

def OpenInteractions.after (o : OpenInteractions) : WorkspaceCall → OpenInteractions
  | .applyNativePlacement objectId event =>
    let begun : Bool := event.phase ≠ .end
    if layoutPreview event then { o with previews := Function.update o.previews objectId begun }
    else { o with grabs := Function.update o.grabs objectId begun }
  | .beginMove objectId => { o with moves := Function.update o.moves objectId true }
  | .endMove objectId => { o with moves := Function.update o.moves objectId false }
  | .beginOverviewDrag objectId => { o with drags := Function.update o.drags objectId true }
  | .endOverviewDrag objectId _ _ | .cancelOverviewDrag objectId =>
    { o with drags := Function.update o.drags objectId false }
  | _ => o

structure InteractionSession where
  workspace : DesktopWorkspaceController := {}
  interactions : OpenInteractions := {}

def InteractionSession.next (arrange : Arrange) (s : InteractionSession) (call : WorkspaceCall) : InteractionSession where
  workspace := s.workspace.call arrange call
  interactions := s.interactions.after call

namespace InteractionSession

/-- No interaction marks the window that is over: it is dragged only while an interaction that drags it is open, and
displaced only while a layout preview is. -/
def UnmarkedAt (s : InteractionSession) (k : Int) : Prop :=
  ∀ p, s.workspace.state.placements.get? k = some p →
    (s.interactions.grabs k = false → s.interactions.moves k = false → s.interactions.drags k = false →
      p.dragging = false) ∧
    (s.interactions.previews k = false → p.layoutPreviewing = false)

def Unmarked (s : InteractionSession) : Prop := ∀ k, s.UnmarkedAt k

/-- The end of the last interaction that marks a window reaches its flag: the end of a grab or layout preview is
accepted, that of a move finds no overview, and that of a drag finds the overview still open, with the window in it. -/
def Ends (s : InteractionSession) : WorkspaceCall → Prop
  | .applyNativePlacement objectId event => event.phase = .end →
    ∀ p, s.workspace.state.placements.get? objectId = some p →
      (if layoutPreview event then p.layoutPreviewing = true
        else p.dragging = true ∧ s.interactions.moves objectId = false ∧ s.interactions.drags objectId = false) →
      Accepts s.workspace objectId p event
  | .endMove objectId => ∀ p, s.workspace.state.placements.get? objectId = some p → p.dragging = true →
    s.interactions.grabs objectId = false → s.interactions.drags objectId = false →
      s.workspace.state.overviewActive = false
  | .endOverviewDrag objectId _ _ => ∀ p, s.workspace.state.placements.get? objectId = some p → p.dragging = true →
    s.interactions.grabs objectId = false → s.interactions.moves objectId = false →
      s.workspace.state.isInOverview objectId = true
  | .cancelOverviewDrag objectId => ∀ p, s.workspace.state.placements.get? objectId = some p → p.dragging = true →
    s.interactions.grabs objectId = false → s.interactions.moves objectId = false →
      s.workspace.state.overviewActive = true
  | _ => True

variable {arrange : Arrange} {s s' : InteractionSession} {k objectId : Int}

/-! ## One call -/

def SameDrags (s s' : InteractionSession) (k : Int) : Prop :=
  s'.interactions.grabs k = s.interactions.grabs k ∧ s'.interactions.moves k = s.interactions.moves k ∧
    s'.interactions.drags k = s.interactions.drags k

theorem UnmarkedAt.of_from (h : s.UnmarkedAt k)
    (hdr : From (·.dragging) s.workspace.state.placements s'.workspace.state.placements k)
    (hv : From (·.layoutPreviewing) s.workspace.state.placements s'.workspace.state.placements k)
    (hr : SameDrags s s' k) (hpr : s'.interactions.previews k = s.interactions.previews k) : s'.UnmarkedAt k := by
  obtain ⟨hg, hm, hd⟩ := hr; intro p' hp'
  rw [hg, hm, hd, hpr]
  constructor
  · intro hgr hmo hr
    exact hdr.unset (fun p hp => (h p hp).1 hgr hmo hr) hp'
  · intro hs
    exact hv.unset (fun p hp => (h p hp).2 hs) hp'

theorem Unmarked.calm (h : s.Unmarked) (hca : Calm s.workspace.state.placements s'.workspace.state.placements)
    (ho : s'.interactions = s.interactions) : s'.Unmarked := by
  intro k
  refine (h k).of_from (hca.dragging k) (hca.previewing k) ⟨?_, ?_, ?_⟩ ?_ <;> rw [ho]

theorem Unmarked.opens (h : s.Unmarked)
    (hr : ∀ k, From (·.layoutPreviewing) s.workspace.state.placements s'.workspace.state.placements k)
    (hdr : ∀ k, k ≠ objectId → From (·.dragging) s.workspace.state.placements s'.workspace.state.placements k)
    (hv : s'.interactions.previews = s.interactions.previews) (ho : ∀ k, k ≠ objectId → SameDrags s s' k)
    (hse : s'.interactions.moves objectId = true ∨ s'.interactions.drags objectId = true) : s'.Unmarked := by
  intro k
  by_cases hk : k = objectId
  · subst hk; intro p' hp'
    constructor
    · intro _ hm hd; rw [hm, hd] at hse
      simp at hse
    · intro hs; rw [hv] at hs
      exact (hr k).unset (fun p hp => (h k p hp).2 hs) hp'
  · exact (h k).of_from (hdr k hk) (hr k) (ho k hk) (by rw [hv])

/-- A call that ends an interaction that drags one window: what it leaves of the flag decides. -/
theorem Unmarked.closes_iff {Clears : Prop} (h : s.Unmarked)
    (hca : Calm s.workspace.state.placements s'.workspace.state.placements)
    (hv : s'.interactions.previews = s.interactions.previews) (ho : ∀ k, k ≠ objectId → SameDrags s s' k)
    (hce : Clears → ∀ p', s'.workspace.state.placements.get? objectId = some p' → p'.dragging = false) (hke : ¬Clears →
      s'.workspace.state.placements.get? objectId = s.workspace.state.placements.get? objectId) :
    s'.Unmarked ↔ ∀ p, s.workspace.state.placements.get? objectId = some p → p.dragging = true →
      s'.interactions.grabs objectId = false → s'.interactions.moves objectId = false →
        s'.interactions.drags objectId = false → Clears := by
  constructor
  · intro h' p hp hr hgr hm hd
    by_contra hn
    have hu := (h' objectId p (by rw [hke hn, hp])).1 hgr hm hd
    rw [hr] at hu; cases hu
  · intro he k
    by_cases hk : k = objectId
    · subst hk; intro p' hp'
      constructor
      · intro hgr hm hd
        by_contra hs
        have hs : p'.dragging = true := by simpa using hs
        obtain ⟨p, hp, hr⟩ := hca.dragging k p' hp' hs
        have hu := hce (he p hp hr hgr hm hd) p' hp'
        rw [hs] at hu; cases hu
      · intro hcl; rw [hv] at hcl
        exact (hca.previewing k).unset (fun p hp => (h k p hp).2 hcl) hp'
    · exact (h k).of_from (hca.dragging k) (hca.previewing k) (ho k hk) (by rw [hv])

theorem unmarkedAt_iff {p : DesktopWindowPlacement} (hp : s.workspace.state.placements.get? k = some p) :
    s.UnmarkedAt k ↔ (s.interactions.grabs k = false → s.interactions.moves k = false → s.interactions.drags k = false →
        p.dragging = false) ∧ (s.interactions.previews k = false → p.layoutPreviewing = false) := by
  constructor
  · intro h; exact h p hp
  · intro h p' hp'; rw [hp] at hp'
    cases hp'; exact h

theorem UnmarkedAt.congr (h : s.UnmarkedAt k)
    (hpl : s'.workspace.state.placements.get? k = s.workspace.state.placements.get? k) (hd : SameDrags s s' k)
    (hr : s'.interactions.previews k = s.interactions.previews k) : s'.UnmarkedAt k := by
  refine h.of_from ?_ ?_ hd hr
  all_goals
    intro p hp hs; exact ⟨p, hpl ▸ hp, hs⟩

theorem Unmarked.iff_at (h : ∀ k, k ≠ objectId → s.UnmarkedAt k) : s.Unmarked ↔ s.UnmarkedAt objectId := by
  constructor
  · intro hal; exact hal objectId
  · intro hs k
    by_cases hk : k = objectId
    · subst hk; exact hs
    · exact h k hk

section

variable {event : DenialWindowPlacementEvent}

theorem after_layoutPreview (o : OpenInteractions) (hr : layoutPreview event = true) :
    o.after (.applyNativePlacement objectId event) =
      { o with previews := Function.update o.previews objectId (event.phase ≠ .end) } :=
  if_pos hr

theorem after_grab (o : OpenInteractions) (hr : layoutPreview event = false) :
    o.after (.applyNativePlacement objectId event) =
      { o with grabs := Function.update o.grabs objectId (event.phase ≠ .end) } :=
  if_neg (by rw [hr]; exact Bool.false_ne_true)

theorem nativePlacement_other (h : s.Unmarked) (hk : k ≠ objectId) :
    (s.next arrange (.applyNativePlacement objectId event)).UnmarkedAt k := by
  refine (h k).congr (applyNativePlacement_other hk) ?_ ?_
  all_goals
    cases hr : layoutPreview event with
    | true => simp [SameDrags, next, after_layoutPreview _ hr, Function.update_of_ne hk]
    | false => simp [SameDrags, next, after_grab _ hr, Function.update_of_ne hk]

/-- An event of a grab or a layout preview: its beginning leaves the interaction open, and its end has to be accepted
if it is the last to mark its window. -/
theorem Unmarked.nativePlacement_iff (h : s.Unmarked) :
    (s.next arrange (.applyNativePlacement objectId event)).Unmarked ↔ s.Ends (.applyNativePlacement objectId event) := by
  rw [Unmarked.iff_at fun k hk => nativePlacement_other h hk]
  cases hp : s.workspace.state.placements.get? objectId with
  | none =>
    refine iff_of_true (fun p hp' => ?_) fun _ p hp' => ?_
    · have hn : (s.next arrange (.applyNativePlacement objectId event)).workspace = s.workspace :=
        applyNativePlacement_none hp
      rw [hn, hp] at hp'; cases hp'
    · rw [hp] at hp'; cases hp'
  | some p =>
    obtain ⟨placed, hpl, hae, hmi⟩ := applyNativePlacement_flags event hp
    obtain ⟨hdr, hw⟩ := h objectId p hp
    rw [unmarkedAt_iff (s := s.next arrange (.applyNativePlacement objectId event)) hpl]
    simp only [Ends, hp, Option.some.injEq, forall_eq']
    cases hv : layoutPreview event with
    | true =>
      simp only [next, after_layoutPreview _ hv, Function.update_self, if_true]
      by_cases hac : Accepts s.workspace objectId p event
      · obtain ⟨hd, hl⟩ := hae hac
        simp only [withFlags, hv, if_true] at hd hl; simp [hd, hl, hac]
        exact hdr
      obtain ⟨hd, hl⟩ := hmi hac; simp [hd, hl, hac]
      exact fun _ => hdr
    | false =>
      simp only [next, after_grab _ hv, Function.update_self]
      by_cases hac : Accepts s.workspace objectId p event
      · obtain ⟨hd, hl⟩ := hae hac
        simp only [withFlags, hv] at hd hl; simp [hd, hl, hac]
        exact ⟨fun h _ _ => h, hw⟩
      obtain ⟨hd, hl⟩ := hmi hac; simp [hd, hl, hac]
      constructor
      · rintro ⟨hu, -⟩ hh hs hm
        by_contra hr
        rw [hu hh hm (by simpa using hr)] at hs; cases hs
      · intro he
        refine ⟨fun hh hm hr => ?_, hw⟩
        by_contra hs
        rw [he hh (by simpa using hs) hm] at hr; cases hr

end

/-! ## Every call -/

theorem Unmarked.endMove_iff (h : s.Unmarked) :
    (s.next arrange (.endMove objectId)).Unmarked ↔ s.Ends (.endMove objectId) := by
  refine (h.closes_iff (endMove_step objectId).calm ?_ (fun k hk => ?_)
    (fun ho _ hp' => endMove_dragging ho hp') fun ho => ?_).trans ?_
  · rfl
  · exact ⟨rfl, Function.update_of_ne hk .., rfl⟩
  · rw [next, call, endMove_overview (by simpa using ho)]
  · simp [Ends, next, OpenInteractions.after]

theorem Unmarked.endOverviewDrag_iff (h : s.Unmarked) (bnds wa : LinkedMap Int Rect) :
    (s.next arrange (.endOverviewDrag objectId bnds wa)).Unmarked ↔ s.Ends (.endOverviewDrag objectId bnds wa) := by
  refine (h.closes_iff (endOverviewDrag_calm objectId bnds wa) ?_ (fun k hk => ?_)
    (fun hm _ hp' => endOverviewDrag_dragging hm hp') fun hm => ?_).trans ?_
  · rfl
  · exact ⟨rfl, rfl, Function.update_of_ne hk ..⟩
  · rw [next, call, endOverviewDrag_state (by simpa using hm)]
  · simp [Ends, next, OpenInteractions.after]

theorem Unmarked.cancelOverviewDrag_iff (h : s.Unmarked) :
    (s.next arrange (.cancelOverviewDrag objectId)).Unmarked ↔ s.Ends (.cancelOverviewDrag objectId) := by
  refine (h.closes_iff (cancelOverviewDrag_calm objectId) ?_ (fun k hk => ?_)
    (fun ho _ hp' => cancelOverviewDrag_dragging ho hp') fun ho => ?_).trans ?_
  · rfl
  · exact ⟨rfl, rfl, Function.update_of_ne hk ..⟩
  · rw [next, call, cancelOverviewDrag_state (by simpa using ho)]
  · simp [Ends, next, OpenInteractions.after]

theorem Unmarked.beginMove (h : s.Unmarked) : (s.next arrange (.beginMove objectId)).Unmarked := by
  obtain ⟨hr, hd⟩ := beginMove_marks (c := s.workspace) objectId
  refine h.opens hr hd rfl (fun k hk => ?_) (.inl (Function.update_self ..))
  exact ⟨rfl, Function.update_of_ne hk .., rfl⟩

theorem Unmarked.beginOverviewDrag (h : s.Unmarked) : (s.next arrange (.beginOverviewDrag objectId)).Unmarked := by
  obtain ⟨hr, hd⟩ := beginOverviewDrag_marks (c := s.workspace) objectId
  refine h.opens hr hd rfl (fun k hk => ?_) (.inr (Function.update_self ..))
  exact ⟨rfl, rfl, Function.update_of_ne hk ..⟩

def interacts : WorkspaceCall → Bool
  | .endMove _ | .endOverviewDrag _ _ _ | .cancelOverviewDrag _ => true
  | call => marks call

theorem Unmarked.other (h : s.Unmarked) {call : WorkspaceCall} (hca : interacts call = false) :
    (s.next arrange call).Unmarked ∧ s.Ends call := by
  have hm : marks call = false := by
    cases call <;> first | rfl | cases hca
  have hf : s.interactions.after call = s.interactions := by
    cases call <;> first | rfl | cases hca
  refine ⟨h.calm (call_calm hm) hf, ?_⟩
  cases call <;> trivial

theorem Unmarked.next_iff (h : s.Unmarked) (call : WorkspaceCall) : (s.next arrange call).Unmarked ↔ s.Ends call := by
  cases hca : interacts call with
  | false =>
    obtain ⟨hu, he⟩ : (s.next arrange call).Unmarked ∧ s.Ends call := h.other hca
    exact iff_of_true hu he
  | true =>
    cases call with
    | applyNativePlacement objectId event => exact h.nativePlacement_iff
    | endMove objectId => exact h.endMove_iff
    | endOverviewDrag objectId bnds wa => exact h.endOverviewDrag_iff bnds wa
    | cancelOverviewDrag objectId => exact h.cancelOverviewDrag_iff
    | beginMove objectId => exact iff_of_true h.beginMove trivial
    | beginOverviewDrag objectId => exact iff_of_true h.beginOverviewDrag trivial
    | _ => cases hca

/-! ## Runs -/

theorem start_unmarked : Unmarked {} := by
  intro k p hp; cases hp

/-- Every interaction that began has ended. -/
def NoneOpen (s : InteractionSession) : Prop :=
  ∀ k, s.interactions.grabs k = false ∧ s.interactions.previews k = false ∧ s.interactions.moves k = false ∧
    s.interactions.drags k = false

theorem initialFrame_isEmpty {window : DenialWindow} {geometry : Rect} (h : window.geometry = some geometry) :
    (initialFrame geometry window.serverSideDecorated).isEmpty = false := by
  unfold DenialWindow.geometry at h; split at h
  · rename_i hs
    obtain ⟨hw, hh⟩ := hs; cases h
    unfold initialFrame Rect.isEmpty Rect.fromLTWH frameBorder; split
    · simp only [Bool.or_eq_false_iff, decide_eq_false_iff_not, not_le]
      constructor <;> linarith
    · simp only [Bool.or_eq_false_iff, decide_eq_false_iff_not, not_le]
      constructor <;> linarith
  · cases h

/-- A newer snapshot sets the frame of a placement of which nothing is pending. -/
def FollowsSnapshots (p : DesktopWindowPlacement) : Prop :=
  ∀ viewSize window geometry, window.geometry = some geometry → p.fullscreen = false →
    (adoptSnapshot viewSize none p window).1.frame = initialFrame geometry window.serverSideDecorated

theorem followsSnapshots_of_unmarked {p : DesktopWindowPlacement} (hd : p.dragging = false)
    (hr : p.layoutPreviewing = false) : FollowsSnapshots p := by
  intro vs window geometry hm hfu
  have hf := initialFrame_isEmpty hm; unfold adoptSnapshot
  simp [hd, hr, hm, hfu, hf]

/-- Over every run, windows are marked by open interactions alone exactly if what each call ends reaches its flag;
after such a run in which all interactions have ended no window is marked, and all follow the snapshots again. -/
theorem interaction_flags (arrange : Arrange) (calls : List WorkspaceCall) :
    (Along (next arrange) Ends {} calls ↔ Along (next arrange) (fun s call => (s.next arrange call).Unmarked) {} calls) ∧
      (Along (next arrange) Ends {} calls → (exec (next arrange) {} calls).NoneOpen →
        ∀ k p, (exec (next arrange) {} calls).workspace.state.placements.get? k = some p →
          p.dragging = false ∧ p.layoutPreviewing = false ∧ FollowsSnapshots p) := by
  refine ⟨along_iff_invariant (fun _ call h => h.next_iff call) start_unmarked, ?_⟩
  intro hends hclos k p hp
  have hunm : (exec (next arrange) {} calls).Unmarked :=
    exec_invariant_along (fun _ call h hcal => (h.next_iff call).2 hcal) start_unmarked hends
  obtain ⟨hgrab, hprev, hmov, hdrags⟩ := hclos k
  obtain ⟨hdrag, hpreview⟩ := hunm k p hp
  have hdrag := hdrag hgrab hmov hdrags
  have hpreview := hpreview hprev
  exact ⟨hdrag, hpreview, followsSnapshots_of_unmarked hdrag hpreview⟩

def previewEvent (sequence : Int) (phase : DenialWindowPlacementPhase) : WorkspaceCall :=
  .applyNativePlacement 1
    { sequence := sequence
      contentRect := .fromLTWH 300 100 640 480
      monitorId := 0
      workspaceId := 1
      phase := phase
      change := .layoutPreview }

def previewOverview : List WorkspaceCall :=
  [.syncWindows ⟨0, [exampleWindow 1]⟩ ⟨1920, 1080⟩ (.finite 1) 1,
    previewEvent 2 .begin,
    .toggleOverview 0 (.fromLTWH 0 0 1920 1080) (.fromLTWH 0 0 1920 1080) none,
    previewEvent 3 .end,
    .closeOverview]

/-- Previews at the frames of the windows. -/
def arrangeInPlace : Arrange := fun items _ => .ofList (items.map fun item => (item.objectId, item.frame))

theorem preview_outlives_overview :
    (exec (next arrangeInPlace) {} previewOverview).NoneOpen ∧
      ((exec (next arrangeInPlace) {} previewOverview).workspace.state.placements.get? 1).any (·.layoutPreviewing) := by
  constructor
  · intro k
    have hprev : (exec (next arrangeInPlace) {} previewOverview).interactions.previews =
        Function.update (Function.update (fun _ => false) 1 true) 1 false := rfl
    refine ⟨rfl, ?_, rfl, rfl⟩
    rw [hprev, Function.update_idem, Function.update_eq_self]
  · decide +kernel

end InteractionSession

end Deniald.Desktop
