/-
The Flutter frame clock: the event loop steps the scheduler, dispatches the tick it asks for and
acknowledges it. Whatever output the tick is taken from, its target is later than that of every tick
dispatched before, so the clock that Flutter sees never goes back.
-/
import Deniald.Frame.Reconfigure

namespace Deniald.Frame

open Deniald.Lib
open Deniald.Topology (OutputId)

/-! ## Sessions -/

/-- The tick `render_authorized_outputs` (output_runtime.rs) delivers to Flutter: that of the Flutter
output's request, when its view is authorized. -/
def flutterTickFor (requests : List OutputFrameRequest) (flutterOutput : Option OutputId) : Option FrameTick :=
  flutterOutput.bind fun output => (requests.find? fun request => request.tick.output = output).map (·.tick)

def FrameAction.flutterOutput : FrameAction → Option OutputId
  | .skip => none
  | .render flutterOutput => flutterOutput

/-- A session with what its caller does: `asked` is the tick of the last step, until it is acknowledged, and
`withdrawn` says that a reconfiguration has left no output powered since. -/
structure ClockSession extends FrameSession where
  asked : Option FrameTick
  withdrawn : Bool
  dispatched : List FrameTick

namespace ClockSession

def start (scanouts : List Scanout) (now : Int) : ClockSession :=
  { FrameSession.start scanouts now with asked := none, withdrawn := false, dispatched := [] }

def next (s : ClockSession) (e : FrameEvent) : ClockSession :=
  let session := s.toFrameSession.next e
  match e with
  | .step now flutterRequested outputAvailable =>
    let action := (s.scheduler.stepWithOutputAvailability now flutterRequested outputAvailable).2
    { session with
      asked := flutterTickFor session.scheduler.renderRequests action.flutterOutput
      withdrawn := false
      dispatched := s.dispatched }
  | .flutterFrameDispatched =>
    { session with asked := none, withdrawn := false, dispatched := s.dispatched ++ s.asked.toList }
  | .reconfigure scanouts _ =>
    { session with
      asked := s.asked
      withdrawn := s.withdrawn || !scanouts.any (·.powered)
      dispatched := s.dispatched }
  | _ => { session with asked := s.asked, withdrawn := s.withdrawn, dispatched := s.dispatched }

/-- The caller acknowledges the tick the last step asked for, once. -/
def Acknowledges (s : ClockSession) (e : FrameEvent) : Prop := e = .flutterFrameDispatched → s.asked.isSome

/-- And not after a reconfiguration that left no output powered. -/
def AcknowledgesStanding (s : ClockSession) (e : FrameEvent) : Prop :=
  e = .flutterFrameDispatched → s.asked.isSome ∧ s.withdrawn = false

/-- The two expectations of `flutter_frame_dispatched`: the tick is there, and its target is later than the last. -/
def Dispatchable (s : FrameScheduler) : Prop :=
  ∃ tick, s.flutterTick = some tick ∧ ∀ target, s.lastFlutterTarget = some target → target < tick.presentationTarget

end ClockSession

/-! ## Steps -/

namespace FrameScheduler

theorem find_dueDirty {out : OutputId} {a : List OutputId} {outs : OutputId → Option DirtyOutput}
    {d : DirtyOutput} (hv : out ∈ a) (hr : outs out = some d) (ts : List FrameTick) : ((ts.filterMap fun tick =>
      if tick.output ∈ a then (outs tick.output).map (tick, ·) else none).find?
      fun due => due.1.output = out) = (ts.find? fun tick => tick.output = out).map (·, d) := by
  induction ts with
  | nil => rfl
  | cons tick ts ih =>
    by_cases h : tick.output = out
    · subst h; simp [hv, hr]
    rw [List.filterMap_cons, List.find?_cons, decide_eq_false h, ← ih]; split
    · rfl
    rename_i due hd
    have hs : due.1 = tick := by
      split at hd
      · obtain ⟨_, -, rfl⟩ := Option.map_eq_some_iff.1 hd; rfl
      · cases hd
    rw [List.find?_cons, hs, decide_eq_false h]

def authorizing (s : FrameScheduler) (now : Int) (flutterRequested : Bool) (outputAvailable : OutputId → Bool) :
    FrameScheduler :=
  let s := s.advance now flutterRequested outputAvailable
  if s.dueFlutterTick.isSome ∧ !s.flutterOutputsDirty then { s.markAllDirty with flutterOutputsDirty := true } else s

theorem authorizing_fields (s : FrameScheduler) (now : Int) (fr : Bool) (a : OutputId → Bool) :
    let s₁ := s.advance now fr a
    let s₂ := s.authorizing now fr a
    s₂.outputs = s₁.outputs ∧ s₂.availableOutputs = s₁.availableOutputs ∧ s₂.renderRequests = [] ∧
    s₂.flutterTick = none ∧
      s₂.lastFlutterTarget = s.lastFlutterTarget := by
  intro s₁ s₂
  have hm := markAllDirty_refreshes s₁
  have ho : s₂ = s₁ ∨ s₂ = { s₁.markAllDirty with flutterOutputsDirty := true } := by
    unfold s₂ authorizing; dsimp only
    split
    · exact .inr rfl
    · exact .inl rfl
  rcases ho with h | h
  · rw [h]; exact ⟨rfl, rfl, rfl, rfl, rfl⟩
  · rw [h, hm]; exact ⟨rfl, rfl, rfl, rfl, rfl⟩

theorem step_eq (s : FrameScheduler) (now : Int) (fr : Bool) (a : OutputId → Bool) :
    s.stepWithOutputAvailability now fr a = let s' := (s.authorizing now fr a).authorizeDue
      if s'.renderRequests = [] then (s', .skip)
      else
        let flutterTick := (s.advance now fr a).dueFlutterTick.filter fun tick =>
          s'.renderRequests.any fun request => request.tick.output = tick.output
        ({ s' with flutterTick := flutterTick }, .render (flutterTick.map (·.output))) := rfl

theorem step_asks (s : FrameScheduler) (now : Int) (fr : Bool) (a : OutputId → Bool) :
    let result := s.stepWithOutputAvailability now fr a
    result.1.lastFlutterTarget = s.lastFlutterTarget ∧
      flutterTickFor result.1.renderRequests result.2.flutterOutput = result.1.flutterTick ∧
      ∀ tick, result.1.flutterTick = some tick →
        ∀ target, s.lastFlutterTarget = some target → target < tick.presentationTarget := by
  obtain ⟨ho, hv, hrq, hn, hla⟩ := s.authorizing_fields now fr a
  rw [step_eq]; dsimp only
  split
  · exact ⟨hla, hn.symm, fun tick hti => absurd (hn.symm.trans hti) (by simp)⟩
  refine ⟨hla, ?_, fun tick hti target hta => ?_⟩
  · cases hfi : (s.advance now fr a).dueFlutterTick.filter _ with
    | none => rfl
    | some tick =>
      obtain ⟨hd, hs⟩ := Option.filter_eq_some_iff.1 hfi
      obtain ⟨hfr, hr⟩ := Option.filter_eq_some_iff.1 hd
      simp only [Bool.and_eq_true, decide_eq_true_eq] at hr
      -- the tick is the first of its output, and its output is dirty
      have hf : (s.authorizing now fr a).outputs.ticks.find?
        (fun due => due.output = tick.output) =
          some tick := by
        obtain ⟨output, -, hf⟩ := Option.bind_eq_some_iff.1 hfr
        have : tick.output = output := by simpa using List.find?_some hf
        rw [this, ho]; exact hf
      obtain ⟨request, hre, hm⟩ := List.any_eq_true.1 hs
      have hm : request.tick.output = tick.output := of_decide_eq_true hm
      unfold authorizeDue at hre ⊢
      dsimp only at hre ⊢
      rw [hrq, List.nil_append] at hre ⊢
      obtain ⟨due, hd, rfl⟩ := List.mem_map.1 hre
      obtain ⟨due', -, hdi⟩ := List.mem_filterMap.1 hd; split at hdi
      · obtain ⟨dirty, hfo, rfl⟩ := Option.map_eq_some_iff.1 hdi
        have hd' : (s.authorizing now fr a).dirtyOutputs tick.output = some dirty := by
          rw [← hm]; exact hfo
        have hk : tick.output ∈ (s.authorizing now fr a).availableOutputs := by
          rw [hv]; exact hr.1.2
        unfold flutterTickFor dueDirty
        simp only [FrameAction.flutterOutput, Option.map_some, Option.bind_some, List.find?_map, Function.comp_def]
        rw [find_dueDirty hk hd', hf]; rfl
      · cases hdi
  · obtain ⟨hd, -⟩ := Option.filter_eq_some_iff.1 hti
    obtain ⟨-, hr⟩ := Option.filter_eq_some_iff.1 hd
    have hlt : (s.advance now fr a).lastFlutterTarget = some target := hta
    simp only [Bool.and_eq_true, Bool.not_eq_true', hlt, Option.any_some, decide_eq_false_iff_not, not_le] at hr
    exact hr.2

theorem reconfigure_clock (s : FrameScheduler) (ss : List Scanout) (now : Int) :
    (s.reconfigure ss now).lastFlutterTarget = s.lastFlutterTarget ∧
      ((s.reconfigure ss now).flutterTick = none ∨ (s.reconfigure ss now).flutterTick = s.flutterTick) ∧
      (ss.any (·.powered) = true → (s.reconfigure ss now).flutterTick = s.flutterTick) := by
  have hf := refreshSignatures_refreshes (s.refreshing ss now) ss
  have hm := markOutputs_refreshes (s.restarting ss now) (s.restartedOutputs (poweredSources ss))
  rw [reconfigure_eq, hf]; unfold refreshing
  rw [reconfigureSources_eq]; dsimp only
  split
  · rename_i hr
    refine ⟨congrArg (·.lastFlutterTarget) hm, .inl rfl, fun hw => ?_⟩
    obtain ⟨scan, hmem, hw⟩ := List.any_eq_true.1 hw
    have hs := mem_poweredSources.2 ⟨scan, hmem, hw, rfl⟩
    exact absurd (List.isEmpty_iff.1 hr) (OutputTimelines.reconfigure_ne_nil s.outputs hs now)
  · exact ⟨congrArg (·.lastFlutterTarget) hm, .inr (congrArg (·.flutterTick) hm),
      fun _ => congrArg (·.flutterTick) hm⟩

theorem flutterFrameDispatched_eq {s : FrameScheduler} {tick : FrameTick} (h : s.flutterTick = some tick) :
    s.flutterFrameDispatched = some { s with
      flutterTick := none
      lastFlutterTarget := some tick.presentationTarget
      flutterRequestLatched := false
      flutterOutputsDirty := false } := by
  unfold flutterFrameDispatched
  rw [h]; rfl

end FrameScheduler

/-! ## The invariant -/

open FrameScheduler

/-- The targets dispatched increase up to the last one, the tick the scheduler holds is later, and it is the
one asked for unless that was withdrawn. -/
structure ClockSession.Clocked (s : ClockSession) : Prop where
  increasing : s.dispatched.Pairwise fun a b => a.presentationTarget < b.presentationTarget
  last : ∀ tick ∈ s.dispatched, ∃ target, s.scheduler.lastFlutterTarget = some target ∧ tick.presentationTarget ≤ target
  later : ∀ tick, s.scheduler.flutterTick = some tick →
    ∀ target, s.scheduler.lastFlutterTarget = some target → target < tick.presentationTarget
  asked : ∀ tick, s.asked = some tick → s.withdrawn = false → s.scheduler.flutterTick = some tick

variable {s : ClockSession}

theorem clocked_of_same {s' : ClockSession} (h : s.Clocked)
    (hs : s'.scheduler.lastFlutterTarget = s.scheduler.lastFlutterTarget)
    (hti : s'.scheduler.flutterTick = s.scheduler.flutterTick) (hk : s'.asked = s.asked)
    (hw : s'.withdrawn = s.withdrawn) (hd : s'.dispatched = s.dispatched) : s'.Clocked := by
  refine ⟨?_, ?_, ?_, ?_⟩
  · rw [hd]; exact h.increasing
  · rw [hd, hs]; exact h.last
  · rw [hs, hti]; exact h.later
  · rw [hk, hw, hti]; exact h.asked

theorem clocked_step (h : s.Clocked) (now : Int) (fr : Bool) (a : OutputId → Bool) :
    (s.next (.step now fr a)).Clocked := by
  obtain ⟨hs, hk, hla⟩ := s.scheduler.step_asks now fr a
  constructor
  · exact h.increasing
  · show ∀ tick ∈ s.dispatched, ∃ target,
      (s.scheduler.stepWithOutputAvailability now fr a).1.lastFlutterTarget = some target ∧
      _
    rw [hs]; exact h.last
  · intro tick hti target hr
    exact hla tick hti target (hs.symm.trans hr)
  · intro tick hti _; exact hk.symm.trans hti

theorem clocked_dispatch (h : s.Clocked) (hs : s.asked.isSome) (hn : s.withdrawn = false) :
    (s.next .flutterFrameDispatched).Clocked := by
  obtain ⟨tick, hs⟩ := Option.isSome_iff_exists.1 hs
  have hti := h.asked tick hs hn
  have hd : (s.next .flutterFrameDispatched).dispatched = s.dispatched ++ [tick] := by
    show s.dispatched ++ s.asked.toList = _
    rw [hs]; rfl
  have hh : (s.next .flutterFrameDispatched).scheduler = _ :=
    congrArg (·.getD s.scheduler) (flutterFrameDispatched_eq hti)
  constructor
  · rw [hd]
    refine List.pairwise_append.2 ⟨h.increasing, List.pairwise_singleton .., fun before hf after haf => ?_⟩
    obtain rfl := List.mem_singleton.1 haf
    obtain ⟨target, hr, hle⟩ := h.last before hf
    exact hle.trans_lt (h.later after hti target hr)
  · intro before hf; rw [hd] at hf
    refine ⟨tick.presentationTarget, by rw [hh]; rfl, ?_⟩
    rcases List.mem_append.1 hf with hf | hf
    · obtain ⟨target, hr, hle⟩ := h.last before hf
      exact hle.trans (h.later tick hti target hr).le
    · obtain rfl := List.mem_singleton.1 hf; exact le_refl _
  · rw [hh]
    rintro _ ⟨⟩
  · rintro _ ⟨⟩

theorem clocked_reconfigure (h : s.Clocked) (ss : List Scanout) (now : Int) :
    (s.next (.reconfigure ss now)).Clocked := by
  obtain ⟨hla, hti, hw⟩ := s.scheduler.reconfigure_clock ss now
  refine ⟨h.increasing, ?_, fun tick hs target hr => ?_, fun tick hk hn => ?_⟩
  · show ∀ tick ∈ s.dispatched, ∃ target, (s.scheduler.reconfigure ss now).lastFlutterTarget = some target ∧ _
    rw [hla]; exact h.last
  · replace hr : (s.scheduler.reconfigure ss now).lastFlutterTarget = some target := hr
    replace hs : (s.scheduler.reconfigure ss now).flutterTick = some tick := hs
    rw [hla] at hr
    rcases hti with hno | hm
    · rw [hno] at hs; cases hs
    · rw [hm] at hs; exact h.later tick hs target hr
  · have hbo : s.withdrawn = false ∧ ss.any (·.powered) = true := by
      have : (s.withdrawn || !ss.any (·.powered)) = false := hn
      simpa using this
    exact (hw hbo.2).trans (h.asked tick hk hbo.1)

theorem clocked_next (h : s.Clocked) (e : FrameEvent) (he : s.AcknowledgesStanding e) : (s.next e).Clocked := by
  cases e with
  | step now fr a => exact clocked_step h now fr a
  | flutterFrameDispatched => exact clocked_dispatch h (he rfl).1 (he rfl).2
  | reconfigure ss now => exact clocked_reconfigure h ss now
  | markAppDirty out texs =>
    have hm := markAppDirty_refreshes s.scheduler out texs
    exact clocked_of_same h (congrArg (·.lastFlutterTarget) hm) (congrArg (·.flutterTick) hm) rfl rfl rfl
  | markOutputDirty out =>
    have hm := markAppDirty_refreshes s.scheduler out ∅
    exact clocked_of_same h (congrArg (·.lastFlutterTarget) hm) (congrArg (·.flutterTick) hm) rfl rfl rfl
  | markAllDirty =>
    have hm := markAllDirty_refreshes s.scheduler
    exact clocked_of_same h (congrArg (·.lastFlutterTarget) hm) (congrArg (·.flutterTick) hm) rfl rfl rfl
  | observePresentation out tgt pa => exact clocked_of_same h rfl rfl rfl rfl rfl
  | completeRender render =>
    have hf :
        (s.toFrameSession.completeRender render).scheduler.lastFlutterTarget = s.scheduler.lastFlutterTarget ∧
        (s.toFrameSession.completeRender render).scheduler.flutterTick = s.scheduler.flutterTick := by
      unfold FrameSession.completeRender
      cases s.issued[render]? with
      | none => exact ⟨rfl, rfl⟩
      | some e =>
        unfold FrameScheduler.completeRender; dsimp only
        split <;> exact ⟨rfl, rfl⟩
    exact clocked_of_same h hf.1 hf.2 rfl rfl rfl

theorem clocked_start (ss : List Scanout) (now : Int) : (ClockSession.start ss now).Clocked := by
  have hm : Refreshes _ (FrameScheduler.new ss now) := markAllDirty_refreshes _
  have hn : (ClockSession.start ss now).scheduler.flutterTick = none := congrArg (·.flutterTick) hm
  constructor
  · exact List.Pairwise.nil
  · rintro _ ⟨⟩
  · intro tick hti
    rw [hn] at hti; cases hti
  · rintro _ ⟨⟩

/-! ## Runs -/

/-- In every session whose caller acknowledges each tick the scheduler asked it to dispatch at most once, and
none after a reconfiguration that left no output powered, the targets of the dispatched ticks strictly
increase, and acknowledging the tick asked for meets both expectations. -/
theorem flutter_clock_increases (scanouts : List Scanout) (now : Int) (es : List FrameEvent)
    (hes : Along ClockSession.next ClockSession.AcknowledgesStanding (.start scanouts now) es) :
    let s := exec ClockSession.next (.start scanouts now) es
    (s.dispatched.Pairwise fun a b => a.presentationTarget < b.presentationTarget) ∧
      (s.asked.isSome → s.withdrawn = false →
        ClockSession.Dispatchable s.scheduler ∧ s.scheduler.flutterFrameDispatched.isSome ∧
        s.scheduler.flutterTick = s.asked) := by
  intro s
  have hs : s.Clocked := exec_invariant_along (I := ClockSession.Clocked) (fun _ e h he => clocked_next h e he)
    (clocked_start scanouts now) hes
  refine ⟨hs.increasing, fun hask hstan => ?_⟩
  obtain ⟨tick, hask⟩ := Option.isSome_iff_exists.1 hask
  have htic := hs.asked tick hask hstan
  refine ⟨⟨tick, htic, hs.later tick htic⟩, ?_, htic.trans hask.symm⟩
  rw [flutterFrameDispatched_eq htic]; rfl

/-- Two scene frames of one output, a period apart. -/
def twoFrames : List FrameEvent :=
  [.step 0 true fun _ => true, .flutterFrameDispatched, .step 16666666 true fun _ => true, .flutterFrameDispatched]

theorem flutter_clock_increases_two_frames :
    ((exec ClockSession.next (.start [lone] 0) twoFrames).dispatched.map (·.presentationTarget)) =
    [16666666, 33333332] ∧
      (exec ClockSession.next (.start [lone] 0) twoFrames).dispatched.Pairwise
        fun a b => a.presentationTarget < b.presentationTarget := by
  constructor
  · decide
  · have hes : Along ClockSession.next ClockSession.AcknowledgesStanding (.start [lone] 0) twoFrames :=
      ⟨nofun, fun _ => ⟨by decide, rfl⟩, nofun, fun _ => ⟨by decide, rfl⟩, trivial⟩
    exact (flutter_clock_increases [lone] 0 twoFrames hes).1

/-- A step asks for a tick, and then all outputs are powered off. -/
def parkedFrame : List FrameEvent := [.step 0 true fun _ => true, .reconfigure [] 1]

/-- The tick is acknowledged once, but is not there any more. -/
theorem parked_tick_is_lost :
    Along ClockSession.next ClockSession.Acknowledges (.start [lone] 0) (parkedFrame ++ [.flutterFrameDispatched]) ∧
      (exec ClockSession.next (.start [lone] 0) parkedFrame).scheduler.flutterFrameDispatched.isNone := by
  constructor
  · exact ⟨nofun, nofun, fun _ => by decide, trivial⟩
  · decide

end Deniald.Frame
