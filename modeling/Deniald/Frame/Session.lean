/-
Sessions of the frame scheduler: marks, steps, completed renders, presentations and reconfigurations in
any order. Serials wrap after `2⁶⁴ − 1` marks, so what holds of a completed render holds as long as it
completes before its serial comes around again; a render completed later may clear a newer mark.
-/
import Deniald.Frame.Accounting

namespace Deniald.Frame

open Deniald.Lib
open Deniald.Topology (OutputId)

/-! ## Sessions -/

/-- A render a step authorized: its request, the number of all marks made until then, and the render
texture ids of the step. -/
structure IssuedRender where
  request : OutputFrameRequest
  authorizedAt : Nat
  textureIds : Finset Int

/-- A scheduler with the renders it authorized so far, in order. -/
structure FrameSession where
  scheduler : FrameScheduler
  issued : List IssuedRender

inductive FrameEvent where
  | markAppDirty (output : OutputId) (textureIds : Finset Int)
  | markOutputDirty (output : OutputId)
  | markAllDirty
  | step (now : Int) (flutterRequested : Bool) (outputAvailable : OutputId → Bool)
  /-- The render issued at an index is complete. -/
  | completeRender (render : Nat)
  | observePresentation (output : OutputId) (presentationTarget presentedAt : Int)
  | flutterFrameDispatched
  | reconfigure (scanouts : List Scanout) (now : Int)

namespace FrameSession

def start (scanouts : List Scanout) (now : Int) : FrameSession := ⟨.new scanouts now, []⟩

/-- The renders authorized by a step that led to a scheduler. -/
def issue (s : FrameScheduler) : List IssuedRender :=
  s.renderRequests.map fun request =>
    { request := request
      authorizedAt := s.markCount
      textureIds := s.renderTextureIds }

def completeRender (s : FrameSession) (render : Nat) : FrameSession :=
  match s.issued[render]? with
  | none => s
  | some e => { s with scheduler := s.scheduler.completeRender e.request.tick.output e.request.dirtySerial }

def next (s : FrameSession) : FrameEvent → FrameSession
  | .markAppDirty output textureIds => { s with scheduler := s.scheduler.markAppDirty output textureIds }
  | .markOutputDirty output => { s with scheduler := s.scheduler.markOutputDirty output }
  | .markAllDirty => { s with scheduler := s.scheduler.markAllDirty }
  | .step now flutterRequested outputAvailable =>
    let scheduler := (s.scheduler.stepWithOutputAvailability now flutterRequested outputAvailable).1
    ⟨scheduler, s.issued ++ issue scheduler⟩
  | .completeRender render => s.completeRender render
  | .observePresentation output presentationTarget presentedAt =>
    { s with scheduler := s.scheduler.observePresentation output presentationTarget presentedAt }
  | .flutterFrameDispatched => { s with scheduler := s.scheduler.flutterFrameDispatched.getD s.scheduler }
  | .reconfigure scanouts now => { s with scheduler := s.scheduler.reconfigure scanouts now }

/-- A render completes before its serial comes around again: fewer than `2⁶⁴ − 1` marks were made since
the one it carries. -/
def InTime (s : FrameSession) : FrameEvent → Prop
  | .completeRender render => ∀ e, s.issued[render]? = some e → s.scheduler.markCount < e.request.mark + cycle
  | _ => True

end FrameSession

/-! ## The invariant -/

/-- The textures a mark named wait for a render, or are among those of a render that covers the mark. -/
def FrameSession.Served (s : FrameSession) (mark : DirtyMark) : Prop :=
  ∀ id ∈ mark.textureIds,
    (∃ dirty, s.scheduler.dirtyOutputs mark.output = some dirty ∧ id ∈ dirty.textureIds) ∨
      ∃ e ∈ s.issued, e.request.tick.output = mark.output ∧ mark.number ≤ e.request.mark ∧ id ∈ e.textureIds

/-- What is known of a render that was authorized: its serial is that of the mark it carries, and while
that mark is its output's newest, the render has all textures the output waits for. -/
structure IssuedRender.OK (s : FrameScheduler) (e : IssuedRender) : Prop where
  serial : e.request.dirtySerial = serialOf e.request.mark
  mark : 0 < e.request.mark ∧ e.request.mark ≤ e.authorizedAt ∧ e.authorizedAt ≤ s.markCount
  newer : ∀ dirty, s.dirtyOutputs e.request.tick.output = some dirty →
    e.request.mark ≤ s.newestMark e.request.tick.output
  carried : ∀ dirty, s.dirtyOutputs e.request.tick.output = some dirty →
    s.newestMark e.request.tick.output = e.request.mark → dirty.textureIds ⊆ e.textureIds

structure FrameSession.Accounted (s : FrameSession) : Prop where
  counted : s.scheduler.Counted
  issued : ∀ e ∈ s.issued, e.OK s.scheduler
  served : ∀ mark ∈ s.scheduler.marks, s.Served mark

open FrameScheduler

variable {s : FrameSession} {scheduler : FrameScheduler}

theorem accounted_of_markStep (h : s.Accounted) (hstep : MarkStep s.scheduler scheduler) :
    FrameSession.Accounted ⟨scheduler, s.issued⟩ where
  counted := hstep.counted h.counted
  issued e he := by
    have hok := h.issued e he
    refine ⟨hok.serial, ⟨hok.mark.1, hok.mark.2.1, hok.mark.2.2.trans hstep.count⟩, fun d hd => ?_,
      fun d hd hn => ?_⟩
    · rcases hstep.unmarked e.request.tick.output with ⟨hs, hn⟩ | ⟨hlt, -⟩
      · rw [hs] at hd; rw [hn]; exact hok.newer d hd
      · exact (hok.mark.2.1.trans hok.mark.2.2).trans hlt.le
    · rcases hstep.unmarked e.request.tick.output with ⟨hs, hn'⟩ | ⟨hlt, -⟩
      · rw [hs] at hd; rw [hn'] at hn; exact hok.carried d hd hn
      · -- a new mark is newer than any render authorized before
        exact absurd hn ((hok.mark.2.1.trans hok.mark.2.2).trans_lt hlt).ne'
  served mark hm id hid := by
    rcases hstep.fresh mark hm with hm | ⟨d, hd, hsu⟩
    · rcases h.served mark hm id hid with ⟨d, hd, hmem⟩ | his
      · obtain ⟨d', hd', hsu⟩ := hstep.pending _ _ hd; exact .inl ⟨d', hd', hsu hmem⟩
      · exact .inr his
    · exact .inl ⟨d, hd, hsu hid⟩

theorem accounted_issue (h : FrameSession.Accounted ⟨scheduler, s.issued⟩)
    (hr : ∀ request ∈ scheduler.renderRequests, ∃ d, scheduler.dirtyOutputs request.tick.output = some d ∧
      request.dirtySerial = d.serial ∧ request.mark = d.mark ∧ d.textureIds ⊆ scheduler.renderTextureIds) :
    FrameSession.Accounted ⟨scheduler, s.issued ++ FrameSession.issue scheduler⟩ where
  counted := h.counted
  issued e he := by
    rcases List.mem_append.1 he with he | he
    · exact h.issued e he
    obtain ⟨request, hre, rfl⟩ := List.mem_map.1 he
    obtain ⟨d, hd, hse, hm, hsu⟩ := hr request hre
    obtain ⟨hpos, hn, hs⟩ := h.counted.dirty _ _ hd
    have hm : request.mark = scheduler.newestMark request.tick.output := hm.trans hs
    refine ⟨?_, ⟨?_, ?_, le_refl _⟩, fun _ _ => hm.le, ?_⟩
    · rw [hm]; exact hse.trans hn
    · rw [hm]; exact hpos
    · rw [hm]; exact newestMark_le h.counted _
    intro d' hd' _
    obtain rfl := Option.some.inj (hd.symm.trans hd'); exact hsu
  served mark hm id hid :=
    (h.served mark hm id hid).imp_right fun ⟨e, he, hv⟩ => ⟨e, List.mem_append_left _ he, hv⟩

variable {e : IssuedRender}

theorem IssuedRender.OK.forget {s s' : FrameScheduler} (hok : e.OK s) (hco : s'.markCount = s.markCount)
    (hk : ∀ d, s'.dirtyOutputs e.request.tick.output = some d → s.dirtyOutputs e.request.tick.output = some d ∧
        s'.newestMark e.request.tick.output = s.newestMark e.request.tick.output) : e.OK s' := by
  refine ⟨hok.serial, by rw [hco]; exact hok.mark, fun d hd => ?_, fun d hd hn => ?_⟩
  · obtain ⟨hd, hs⟩ := hk d hd
    rw [hs]; exact hok.newer d hd
  · obtain ⟨hd, hs⟩ := hk d hd
    rw [hs] at hn; exact hok.carried d hd hn

/-- A render completed in time clears its output's dirtiness only while it carries the newest mark, and
has then shown all that was pending. -/
theorem accounted_completeRender (h : s.Accounted) (he : e ∈ s.issued)
    (hy : s.scheduler.markCount < e.request.mark + cycle) : FrameSession.Accounted
      ⟨s.scheduler.completeRender e.request.tick.output e.request.dirtySerial, s.issued⟩ := by
  have hco := counted_completeRender h.counted e.request.tick.output e.request.dirtySerial
  rcases s.scheduler.completeRender_eq e.request.tick.output e.request.dirtySerial with
    hsa | ⟨d, hd, hs, hr⟩
  · rw [hsa]; exact h
  · have hok := h.issued e he; rw [hok.serial] at hs
    have hn := newestMark_of_serial h.counted hd hok.mark.1 (hok.newer d hd) hy hs
    rw [hr] at hco ⊢
    refine ⟨hco, fun e' he' => ?_, fun mark hm id hid => ?_⟩
    · refine (h.issued e' he').forget rfl fun d' hd' => ⟨?_, rfl⟩; dsimp only at hd'
      by_cases ho : e'.request.tick.output = e.request.tick.output
      · rw [ho, Function.update_self] at hd'; cases hd'
      · rw [Function.update_of_ne ho] at hd'; exact hd'
    · rcases h.served mark hm id hid with ⟨d', hd', hmem⟩ | his
      · by_cases ho : mark.output = e.request.tick.output
        · -- the id was pending on the completed output, so the render had it
          rw [ho] at hd'
          refine .inr ⟨e, he, ho.symm, ?_, hok.carried d' hd' hn hmem⟩
          rw [← hn, ← ho]; exact le_newestMark h.counted hm
        refine .inl ⟨d', ?_, hmem⟩; dsimp only
        rw [Function.update_of_ne ho]; exact hd'
      · exact .inr his

theorem accounted_retainConfigured (h : s.Accounted) (configuredOutputs : List OutputId) :
    FrameSession.Accounted ⟨s.scheduler.retainConfigured configuredOutputs, s.issued⟩ where
  counted := counted_retainConfigured h.counted configuredOutputs
  issued e he := by
    refine (h.issued e he).forget rfl fun d hd => ?_; unfold retainConfigured at hd
    dsimp only at hd; split at hd
    · rename_i hmem
      exact ⟨hd, by rw [newestMark_retainConfigured, if_pos hmem]⟩
    · cases hd
  served mark hm id hid := by
    obtain ⟨hm, hn⟩ := List.mem_filter.1 hm
    rcases h.served mark hm id hid with ⟨d, hd, hmem⟩ | hs
    · refine .inl ⟨d, ?_, hmem⟩; unfold retainConfigured
      dsimp only
      rw [if_pos (of_decide_eq_true hn)]; exact hd
    · exact .inr hs

theorem accounted_next (e : FrameEvent) (h : s.Accounted) (hg : s.InTime e) : (s.next e).Accounted := by
  cases e with
  | markAppDirty out texs => exact accounted_of_markStep h (markAppDirty_step _ out texs)
  | markOutputDirty out => exact accounted_of_markStep h (markOutputDirty_step _ out)
  | markAllDirty => exact accounted_of_markStep h (markAllDirty_step _)
  | step now fr a =>
    obtain ⟨hma, hr⟩ := s.scheduler.step_spec now fr a
    exact accounted_issue (accounted_of_markStep h hma) fun request hre => (hr request hre).2
  | completeRender render =>
    show (s.completeRender render).Accounted; unfold FrameSession.completeRender
    cases hs : s.issued[render]? with
    | none => exact h
    | some e => exact accounted_completeRender h (List.mem_of_getElem? hs) (hg e hs)
  | observePresentation => exact accounted_of_markStep h (markStep_of_accounts rfl)
  | flutterFrameDispatched =>
    refine accounted_of_markStep h (markStep_of_accounts ?_); unfold flutterFrameDispatched
    cases s.scheduler.flutterTick <;> rfl
  | reconfigure ss now =>
    have hrt := accounted_retainConfigured h (ss.map (·.output.id))
    have hm := accounted_of_markStep hrt (s.scheduler.reconfigure_step ss now); exact hm

theorem accounted_start (ss : List Scanout) (now : Int) : (FrameSession.start ss now).Accounted where
  counted := counted_new ss now
  issued e he := by cases he
  served mark hm id hid := by
    have hr := markAllDirty_step
      { outputs := OutputTimelines.new ss now
        configuredOutputs := ss.map (·.output.id)
        outputSignatures := fun out =>
          (ss.reverse.find? fun scan => scan.output.id = out).map OutputSignature.of
        dirtyOutputs := fun _ => none
        renderRequests := []
        renderTextureIds := ∅
        availableOutputs := []
        nextDirtySerial := 0
        flutterRequestLatched := false
        flutterOutputsDirty := false
        flutterTick := none
        lastFlutterTarget := none
        markCount := 0
        marks := [] }
    rcases hr.fresh mark hm with hm | ⟨d, hd, hs⟩
    · cases hm
    · exact .inl ⟨d, hd, hs hid⟩

/-! ## Runs -/

/-- In every session whose renders complete in time: completing a render leaves the dirty outputs as they
are when its output was marked after the render was authorized; and each texture named for an output
that has stayed configured is pending, or was among the render texture ids of a step whose request
serial is that of the mark or of a later one. -/
theorem dirty_accounting (scanouts : List Scanout) (now : Int) (es : List FrameEvent)
    (hes : Along FrameSession.next FrameSession.InTime (.start scanouts now) es) :
    let s := exec FrameSession.next (.start scanouts now) es
    (∀ render e, s.issued[render]? = some e → s.scheduler.markCount < e.request.mark + cycle →
      ∀ mark ∈ s.scheduler.marks, mark.output = e.request.tick.output → e.authorizedAt < mark.number →
        (s.next (.completeRender render)).scheduler.dirtyOutputs = s.scheduler.dirtyOutputs) ∧
    (∀ e ∈ s.issued, e.request.dirtySerial = serialOf e.request.mark ∧ e.request.mark ≤ e.authorizedAt) ∧
    ∀ mark ∈ s.scheduler.marks, s.Served mark := by
  intro s
  have hs : s.Accounted := exec_invariant_along (I := FrameSession.Accounted) (fun _ e h hg => accounted_next e h hg)
    (accounted_start scanouts now) hes
  refine ⟨fun render e hiss hcyc mark hmar hout hlat => ?_, fun e he => ?_, hs.served⟩
  · have hok := hs.issued e (List.mem_of_getElem? hiss)
    show (s.completeRender render).scheduler.dirtyOutputs = _; unfold FrameSession.completeRender
    rw [hiss]; dsimp only
    rcases s.scheduler.completeRender_eq e.request.tick.output e.request.dirtySerial with
      hsam | ⟨dirty, hdir, hser, -⟩
    · rw [hsam]
    · -- the serials agree only when no mark came later
      rw [hok.serial] at hser
      have hnewes := newestMark_of_serial hs.counted hdir hok.mark.1 (hok.newer dirty hdir) hcyc hser
      have hle := le_newestMark hs.counted hmar; rw [hout, hnewes] at hle
      have := hok.mark.2.1
      omega
  · exact ⟨(hs.issued e he).serial, (hs.issued e he).mark.2.1⟩

def lone : Scanout where
  output := { id := 1, connector := 1, crtc := 1, mode := ⟨0, 60000⟩, transform := .normal, vrrEnabled := false }
  plane := 1
  sourceRect := ⟨0, 0, 1920, 1080⟩
  powered := true

/-- A texture marked, rendered by the first step and completed. -/
theorem dirty_accounting_one_texture :
    (exec FrameSession.next (.start [lone] 0) [.markAppDirty 1 {5}, .step 0 false fun _ => true,
    .completeRender 0]).Served
      ⟨2, 1, {5}⟩ := by
  have hes : Along FrameSession.next FrameSession.InTime (.start [lone] 0)
      [.markAppDirty 1 {5}, .step 0 false fun _ => true, .completeRender 0] := by
    refine ⟨trivial, trivial, fun e _ => ?_, trivial⟩
    show 2 < e.request.mark + cycle
    unfold cycle; omega
  exact (dirty_accounting [lone] 0 _ hes).2.2 _ (List.mem_cons_self ..)

theorem exec_replicate_mark (out : OutputId) : ∀ (k : Nat) {s : FrameSession}, out ∈ s.scheduler.configuredOutputs →
    s.scheduler.newestMark out = s.scheduler.markCount → (s.scheduler.dirtyOutputs out).isSome → s.Accounted →
      let s' := exec FrameSession.next s (List.replicate k (.markOutputDirty out))
      s'.issued = s.issued ∧ s'.scheduler.markCount = s.scheduler.markCount + k ∧
        s'.scheduler.newestMark out = s'.scheduler.markCount ∧
        (s'.scheduler.dirtyOutputs out).isSome ∧ s'.Accounted
  | 0, s, _, hw, hd, hs => ⟨rfl, rfl, hw, hd, hs⟩
  | k + 1, s, hn, _, _, hs => by
    have hm : s.scheduler.markOutputDirty out = s.scheduler.setDirty out ∅ := if_pos hn
    obtain ⟨his, hco, hr⟩ := exec_replicate_mark out k (s := s.next (.markOutputDirty out))
      (by show out ∈ (s.scheduler.markOutputDirty out).configuredOutputs; rw [hm]; exact hn)
      (by show (s.scheduler.markOutputDirty out).newestMark out = (s.scheduler.markOutputDirty out).markCount
          rw [hm, newestMark_setDirty, if_pos rfl]; rfl)
      (by show ((s.scheduler.markOutputDirty out).dirtyOutputs out).isSome
          rw [hm, setDirty_dirtyOutputs, Function.update_self]; rfl)
      (accounted_next _ hs trivial)
    refine ⟨his, ?_, hr⟩; rw [List.replicate_succ, exec_cons, hco]
    show (s.scheduler.markOutputDirty out).markCount + k = _; rw [hm]
    show s.scheduler.markCount + 1 + k = _; omega

theorem completeRender_clears {render : Nat} {d : DirtyOutput} (hs : s.issued[render]? = some e)
    (hd : s.scheduler.dirtyOutputs e.request.tick.output = some d) (hr : d.serial = e.request.dirtySerial) :
    (s.next (.completeRender render)).scheduler.dirtyOutputs e.request.tick.output = none := by
  show (s.completeRender render).scheduler.dirtyOutputs e.request.tick.output = none
  unfold FrameSession.completeRender FrameScheduler.completeRender; rw [hs]
  dsimp only
  rw [hd, Option.any_some, if_pos (decide_eq_true hr)]
  exact Function.update_self e.request.tick.output _ s.scheduler.dirtyOutputs

/-- A render that completes `2⁶⁴ − 1` marks later clears the newest of them. -/
theorem completion_clears_later_mark :
    let s := exec FrameSession.next (.start [lone] 0)
      (.step 0 false (fun _ => true) :: List.replicate cycle (.markOutputDirty 1))
    ∃ e, s.issued[0]? = some e ∧ e.request.tick.output = 1 ∧
      (∃ mark ∈ s.scheduler.marks, mark.output = 1 ∧ e.authorizedAt < mark.number) ∧
      (s.scheduler.dirtyOutputs 1).isSome ∧ (s.next (.completeRender 0)).scheduler.dirtyOutputs 1 = none := by
  rw [exec_cons]
  have hrun := exec_replicate_mark 1 cycle
    (s := FrameSession.next (.start [lone] 0) (.step 0 false fun _ => true)) (by decide) rfl rfl
    (accounted_next _ (accounted_start [lone] 0) trivial)
  revert hrun
  generalize exec FrameSession.next _ (List.replicate cycle _) = s
  rintro ⟨hiss, hcoun, hnewes, hdir, hs⟩
  have hcoun : s.scheduler.markCount = 1 + cycle := hcoun
  have hiss : s.issued[0]? = some ⟨⟨⟨1, 1, 16666666, 0, 16666666⟩, 1, 1⟩, 1, ∅⟩ := by rw [hiss]; rfl
  have hpos : 1 < 1 + cycle := by unfold cycle; omega
  refine ⟨_, hiss, rfl, ?_, hdir, ?_⟩
  · rw [hcoun] at hnewes; unfold newestMark at hnewes
    cases hfin : s.scheduler.marks.find? fun mark => mark.output = 1 with
    | none => rw [hfin] at hnewes; cases hnewes
    | some mark =>
      rw [hfin] at hnewes
      have hnum : mark.number = 1 + cycle := hnewes
      exact ⟨mark, List.mem_of_find?_eq_some hfin, by simpa using List.find?_some hfin, by rw [hnum]; exact hpos⟩
  · obtain ⟨dirty, hdir⟩ := Option.isSome_iff_exists.1 hdir
    have hser := (hs.counted.dirty 1 dirty hdir).2.1
    have hsam : serialOf (1 + cycle) = 1 := by
      have := serialOf_add_cycle 0
      rw [Nat.zero_add] at this; exact this
    rw [hnewes, hcoun, hsam] at hser; exact completeRender_clears hiss hdir hser

end Deniald.Frame
