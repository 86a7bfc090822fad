/-
Reconfiguration of the frame scheduler as a difference of source sets: a powered source that was there
before keeps its timeline, any other starts one and leaves its output dirty, outputs that are gone leave
no mark behind, and the Flutter clock is the source with the least interval.
-/
import Deniald.Frame.Session

namespace Deniald.Frame

open Deniald.Lib
open Deniald.Topology (OutputId)
open OutputSignature OutputTimelines

/-! ## Sources -/

namespace OutputTimelines

theorem sourceKeyLt_asymm {a b : TimelineSource} (h : sourceKeyLt a b = true) : sourceKeyLt b a = false := by
  simp only [sourceKeyLt, Bool.or_eq_true, Bool.and_eq_true, decide_eq_true_eq, beq_iff_eq] at h
  simp only [sourceKeyLt, Bool.or_eq_false_iff, Bool.and_eq_false_iff, decide_eq_false_iff_not, beq_eq_false_iff_ne]
  grind

theorem not_sourceKeyLt_trans {a b c : TimelineSource} (h : sourceKeyLt a b = false) (h' : sourceKeyLt b c = false) :
    sourceKeyLt a c = false := by
  simp only [sourceKeyLt, Bool.or_eq_false_iff, Bool.and_eq_false_iff, decide_eq_false_iff_not,
    beq_eq_false_iff_ne] at *
  grind

theorem minSource_least : ∀ {sources : List TimelineSource} {least : TimelineSource}, minSource sources = some least →
    least ∈ sources ∧ ∀ source ∈ sources, sourceKeyLt source least = false
  | [], _, h => by cases h
  | first :: rest, least, h => by
    obtain rfl := Option.some.inj h
    clear h
    induction rest generalizing first with
    | nil => exact ⟨List.mem_singleton.2 rfl, by simp [sourceKeyLt]⟩
    | cons source rest ih =>
      rw [List.foldl_cons]
      cases hlt : sourceKeyLt source first with
      | true =>
        obtain ⟨hmem, hs⟩ := ih source
        simp only [if_true]
        refine ⟨List.mem_cons_of_mem _ hmem, List.forall_mem_cons.2 ⟨?_, hs⟩⟩
        exact not_sourceKeyLt_trans (sourceKeyLt_asymm hlt) (hs source (List.mem_cons_self ..))
      | false =>
        obtain ⟨hmem, hs⟩ := ih first
        obtain ⟨hf, hr⟩ := List.forall_mem_cons.1 hs
        simp only [Bool.false_eq_true, if_false]
        refine ⟨?_, List.forall_mem_cons.2 ⟨hf, List.forall_mem_cons.2 ⟨not_sourceKeyLt_trans hlt hf, hr⟩⟩⟩
        rcases List.mem_cons.1 hmem with hmem | hmem
        · rw [hmem]; exact List.mem_cons_self ..
        · exact List.mem_cons_of_mem _ (List.mem_cons_of_mem _ hmem)

variable {sources : List TimelineSource} {t : OutputTimelines}

theorem minSource_none (h : minSource sources = none) : sources = [] := by
  cases sources with
  | nil => rfl
  | cons first rest => cases h

variable {timeline : OutputTimeline}

theorem mem_startMissing {now : Int} :
    ∀ (sources : List TimelineSource) (sr : List OutputTimeline),
    timeline ∈ sources.foldl (fun tls source =>
      if tls.any fun timeline => timeline.source = source then tls
      else tls ++ [OutputTimeline.new source now]) sr ↔
    timeline ∈ sr ∨
      ∃ source ∈ sources, timeline = .new source now ∧ ∀ other ∈ sr, other.source ≠ source
  | [], sr => by simp
  | first :: sources, sr => by
    rw [List.foldl_cons]; split
    · rename_i hy; rw [mem_startMissing sources sr]
      obtain ⟨th, hh, hs⟩ := List.any_eq_true.1 hy
      have hs : th.source = first := of_decide_eq_true hs
      constructor
      · rintro (hmem | ⟨source, hmem, rfl, hn⟩)
        · exact .inl hmem
        · exact .inr ⟨source, List.mem_cons_of_mem _ hmem, rfl, hn⟩
      · rintro (hmem | ⟨source, hmem, rfl, hn⟩)
        · exact .inl hmem
        · rcases List.mem_cons.1 hmem with rfl | hmem
          · exact absurd hs (hn th hh)
          · exact .inr ⟨source, hmem, rfl, hn⟩
    · rename_i hy
      have hf : ∀ other ∈ sr, other.source ≠ first := fun other ho heq =>
        hy (List.any_eq_true.2 ⟨other, ho, decide_eq_true heq⟩)
      rw [mem_startMissing sources]
      constructor
      · rintro (hmem | ⟨source, hmem, rfl, hn⟩)
        · rcases List.mem_append.1 hmem with hmem | hmem
          · exact .inl hmem
          · obtain rfl := List.mem_singleton.1 hmem
            exact .inr ⟨first, List.mem_cons_self .., rfl, hf⟩
        · exact .inr ⟨source, List.mem_cons_of_mem _ hmem, rfl, fun other ho =>
            hn other (List.mem_append_left _ ho)⟩
      · rintro (hmem | ⟨source, hmem, rfl, hn⟩)
        · exact .inl (List.mem_append_left _ hmem)
        · by_cases heq : source = first
          · subst heq
            exact .inl (List.mem_append_right _ (List.mem_singleton.2 rfl))
          rcases List.mem_cons.1 hmem with rfl | hmem
          · exact absurd rfl heq
          refine .inr ⟨source, hmem, rfl, fun other ho => ?_⟩
          rcases List.mem_append.1 ho with ho | ho
          · exact hn other ho
          · obtain rfl := List.mem_singleton.1 ho; exact fun h => heq h.symm

theorem nodup_startMissing {now : Int} : ∀ (sources : List TimelineSource) {surviving : List OutputTimeline},
    (surviving.map (·.source)).Nodup →
    ((sources.foldl (fun tls source =>
      if tls.any fun timeline => timeline.source = source then tls
      else tls ++ [OutputTimeline.new source now]) surviving).map (·.source)).Nodup
  | [], _, h => h
  | first :: sources, surviving, h => by
    rw [List.foldl_cons]; split
    · exact nodup_startMissing sources h
    rename_i hn
    refine nodup_startMissing sources ?_
    rw [List.map_append, List.map_singleton, List.nodup_append]
    refine ⟨h, List.nodup_singleton _, fun source hs other ho heq => ?_⟩
    obtain ⟨timeline, hm, rfl⟩ := List.mem_map.1 hs
    obtain rfl := List.mem_singleton.1 ho
    exact hn (List.any_eq_true.2 ⟨timeline, hm, decide_eq_true heq⟩)

/-! ## Timelines -/

structure OK (t : OutputTimelines) : Prop where
  nodup : (t.timelines.map (·.source)).Nodup
  elected : t.flutterOutput = electFlutterOutput t.timelines

theorem OK.of_sources {t' : OutputTimelines} (h : t.OK) (hs : t'.timelines.map (·.source) = t.timelines.map (·.source))
    (hf : t'.flutterOutput = t.flutterOutput) : t'.OK := by
  refine ⟨by rw [hs]; exact h.nodup, ?_⟩; rw [hf, h.elected]
  unfold electFlutterOutput; rw [hs]

theorem takeTick_source (timeline : OutputTimeline) (now : Int) :
    (timeline.takeTick now).1.source = timeline.source := by
  unfold OutputTimeline.takeTick
  split <;> rfl

theorem advance_sources (t : OutputTimelines) (now : Int) :
    (t.advance now).timelines.map (·.source) = t.timelines.map (·.source) := by
  unfold advance; rw [List.map_map]
  exact List.map_congr_left fun timeline _ => takeTick_source timeline now

theorem observePresentation_sources (t : OutputTimelines) (output : OutputId) (tgt pa : Int) :
    (t.observePresentation output tgt pa).timelines.map (·.source) = t.timelines.map (·.source) := by
  refine map_modifyFirst (fun timeline : OutputTimeline => timeline.source) (fun timeline => ?_) t.timelines
  unfold OutputTimeline.observePresentation; dsimp only
  split <;> rfl

/-- A timeline is there after a reconfiguration when it was there and its source is kept, or starts with
a source that had none. -/
theorem mem_reconfigure (hr : sources.Nodup) {now : Int} : timeline ∈ (t.reconfigure sources now).timelines ↔
      (timeline ∈ t.timelines ∧ timeline.source ∈ sources) ∨
        ∃ source ∈ sources, timeline = .new source now ∧ ∀ other ∈ t.timelines, other.source ≠ source := by
  unfold reconfigure; dsimp only
  split
  · rename_i hm
    obtain ⟨hlen, hal⟩ := hm
    have hsu : sources ⊆ t.timelines.map (·.source) := fun source hs => by
      obtain ⟨timeline, hti, rfl⟩ := hal source hs; exact List.mem_map_of_mem hti
    have hpe := (List.subperm_of_subset hr hsu).perm_of_length_le (by rw [List.length_map, hlen])
    constructor
    · exact fun h => .inl ⟨h, hpe.mem_iff.2 (List.mem_map_of_mem h)⟩
    · rintro (⟨h, -⟩ | ⟨source, hs, -, hn⟩)
      · exact h
      · obtain ⟨other, ho, heq⟩ := hal source hs; exact absurd heq (hn other ho)
  · rw [mem_startMissing]
    simp only [List.mem_filter, decide_eq_true_eq]
    refine or_congr Iff.rfl (exists_congr fun source => and_congr_right fun hs => and_congr_right fun _ => ?_)
    constructor
    · exact fun h other ho heq => h other ⟨ho, heq ▸ hs⟩ heq
    · exact fun h other ho => h other ho.1

theorem reconfigure_ok (ht : t.OK) (sources : List TimelineSource) (now : Int) : (t.reconfigure sources now).OK := by
  unfold reconfigure; dsimp only
  split
  · exact ht
  · exact ⟨nodup_startMissing sources (ht.nodup.sublist (List.Sublist.map _ List.filter_sublist)), rfl⟩

theorem reconfigure_sources (ht : t.OK) (hs : sources.Nodup) (now : Int) :
    ((t.reconfigure sources now).timelines.map (·.source)).Perm sources := by
  refine (List.perm_ext_iff_of_nodup (reconfigure_ok ht sources now).nodup hs).2 fun source => ?_
  rw [List.mem_map]
  constructor
  · rintro ⟨timeline, hm, rfl⟩
    rcases (mem_reconfigure hs).1 hm with ⟨-, h⟩ | ⟨source, h, rfl, -⟩ <;> exact h
  · intro h
    by_cases ho : ∃ timeline ∈ t.timelines, timeline.source = source
    · obtain ⟨timeline, hm, rfl⟩ := ho
      exact ⟨timeline, (mem_reconfigure hs).2 (.inl ⟨hm, h⟩), rfl⟩
    · refine ⟨.new source now, (mem_reconfigure hs).2 (.inr ⟨source, h, rfl, fun other hh heq => ?_⟩), rfl⟩
      exact ho ⟨other, hh, heq⟩

theorem reconfigure_ne_nil (t : OutputTimelines) {source : TimelineSource} (hs : source ∈ sources) (now : Int) :
    (t.reconfigure sources now).timelines ≠ [] := by
  unfold reconfigure; dsimp only
  split
  · rename_i hma
    obtain ⟨timeline, hm, -⟩ := hma.2 source hs; exact List.ne_nil_of_mem hm
  by_cases ho : ∃ timeline ∈ t.timelines.filter fun timeline => timeline.source ∈ sources, timeline.source = source
  · obtain ⟨timeline, hm, -⟩ := ho
    exact List.ne_nil_of_mem ((mem_startMissing sources _).2 (.inl hm))
  refine List.ne_nil_of_mem ((mem_startMissing sources _).2
    (.inr ⟨source, hs, rfl, fun other hh heq => ?_⟩))
  exact ho ⟨other, hh, heq⟩

end OutputTimelines

/-! ## Schedulers -/

def DistinctOutputs (scanouts : List Scanout) : Prop := (scanouts.map (·.output.id)).Nodup

instance (scanouts : List Scanout) : Decidable (DistinctOutputs scanouts) :=
  inferInstanceAs (Decidable (scanouts.map (·.output.id)).Nodup)

variable {scanouts : List Scanout}

theorem DistinctOutputs.sources (h : DistinctOutputs scanouts) : (poweredSources scanouts).Nodup := by
  refine List.Nodup.of_map TimelineSource.output ?_; unfold poweredSources
  rw [List.map_map]
  exact h.sublist (List.Sublist.map (fun scanout : Scanout => scanout.output.id) List.filter_sublist)

theorem mem_poweredSources {source : TimelineSource} :
    source ∈ poweredSources scanouts ↔ ∃ scanout ∈ scanouts, scanout.powered = true ∧
    timelineSource scanout = source := by
  simp [poweredSources, and_assoc]

namespace FrameScheduler

/-- The timelines are well formed, and each is of a scanout whose signature is kept. -/
structure Configured (s : FrameScheduler) : Prop where
  timelines : s.outputs.OK
  signed : ∀ timeline ∈ s.outputs.timelines, ∃ scanout : Scanout, timelineSource scanout = timeline.source ∧
    s.outputSignatures timeline.source.output = some (OutputSignature.of scanout)

/-- What a reconfiguration reads of the configuration before. -/
def configuration (s : FrameScheduler) : List TimelineSource × Option OutputId × (OutputId → Option OutputSignature) :=
  (s.outputs.timelines.map (·.source), s.outputs.flutterOutput, s.outputSignatures)

variable {s : FrameScheduler} {scanouts : List Scanout}

theorem Configured.of_configuration {s' : FrameScheduler} (h : s.Configured)
    (heq : s'.configuration = s.configuration) : s'.Configured := by
  simp only [configuration, Prod.mk.injEq] at heq
  obtain ⟨hs, hf, hsi⟩ := heq
  refine ⟨h.timelines.of_sources hs hf, fun timeline hm => ?_⟩
  have hmem : timeline.source ∈ s.outputs.timelines.map (·.source) := hs ▸ List.mem_map_of_mem hm
  obtain ⟨old, ho, heq⟩ := List.mem_map.1 hmem
  obtain ⟨scanout, hn, hsg⟩ := h.signed old ho
  exact ⟨scanout, hn.trans heq, by rw [hsi, ← heq]; exact hsg⟩

theorem markAppDirty_configuration (s : FrameScheduler) (output : OutputId) (texs : Finset Int) :
    (s.markAppDirty output texs).configuration = s.configuration := by
  unfold markAppDirty
  split <;> rfl

theorem markAllDirty_configuration (s : FrameScheduler) : s.markAllDirty.configuration = s.configuration := by
  have hstep : ∀ (s' : FrameScheduler) (timeline : OutputTimeline), s'.configuration = s.configuration →
      (s'.setDirty timeline.source.output ∅).configuration = s.configuration := fun _ _ h => h
  exact exec_invariant hstep s.outputs.timelines rfl

theorem step_configuration (s : FrameScheduler) (now : Int) (fr : Bool) (a : OutputId → Bool) :
    (s.stepWithOutputAvailability now fr a).1.configuration = s.configuration := by
  have hd : (s.advance now fr a).configuration = s.configuration := by
    unfold configuration
    rw [← advance_sources s.outputs now]; rfl
  rw [← hd]; unfold stepWithOutputAvailability
  dsimp only; split
  · split <;> exact markAllDirty_configuration _
  · split <;> rfl

def Refreshes (s s' : FrameScheduler) : Prop :=
  s' = { s with
    dirtyOutputs := s'.dirtyOutputs
    nextDirtySerial := s'.nextDirtySerial
    markCount := s'.markCount
    marks := s'.marks
    outputSignatures := s'.outputSignatures }

theorem Refreshes.refl (s : FrameScheduler) : Refreshes s s := rfl

theorem Refreshes.trans {a b c : FrameScheduler} (h : Refreshes a b) (h' : Refreshes b c) : Refreshes a c := by
  unfold Refreshes at *
  rw [h] at h'; exact h'

theorem markAppDirty_refreshes (s : FrameScheduler) (output : OutputId) (texs : Finset Int) :
    Refreshes s (s.markAppDirty output texs) := by
  unfold markAppDirty
  split <;> rfl

theorem markOutputDirty_refreshes (s : FrameScheduler) (output : OutputId) : Refreshes s (s.markOutputDirty output) :=
  s.markAppDirty_refreshes output ∅

theorem markAllDirty_refreshes (s : FrameScheduler) : Refreshes s s.markAllDirty := by
  have hstep : ∀ (s : FrameScheduler) (timeline : OutputTimeline), Refreshes s (s.setDirty timeline.source.output ∅) :=
    fun _ _ => rfl
  exact exec_rel Refreshes.refl (fun _ _ _ => Refreshes.trans) hstep s s.outputs.timelines

theorem refreshSignature_refreshes (s : FrameScheduler) (scanout : Scanout) :
    Refreshes s (s.refreshSignature scanout) := by
  unfold refreshSignature; dsimp only
  split
  · refine Refreshes.trans ?_ (markOutputDirty_refreshes _ _); rfl
  · rfl

theorem markOutputs_refreshes (s : FrameScheduler) (outputs : List OutputId) :
    Refreshes s (outputs.foldl markOutputDirty s) :=
  exec_rel Refreshes.refl (fun _ _ _ => Refreshes.trans) markOutputDirty_refreshes s outputs

theorem refreshSignatures_refreshes (s : FrameScheduler) (scanouts : List Scanout) :
    Refreshes s (scanouts.foldl refreshSignature s) :=
  exec_rel Refreshes.refl (fun _ _ _ => Refreshes.trans) refreshSignature_refreshes s scanouts

variable {output : OutputId} {scanout : Scanout}

theorem MarkStep.stillDirty {s' : FrameScheduler} (h : MarkStep s s') (hd : (s.dirtyOutputs output).isSome) :
    (s'.dirtyOutputs output).isSome := by
  obtain ⟨d, hd⟩ := Option.isSome_iff_exists.1 hd
  obtain ⟨d', hd', -⟩ := h.pending output d hd
  exact Option.isSome_iff_exists.2 ⟨d', hd'⟩

theorem markOutputDirty_dirty (h : output ∈ s.configuredOutputs) :
    ((s.markOutputDirty output).dirtyOutputs output).isSome := by
  unfold markOutputDirty markAppDirty
  rw [if_pos h, setDirty_dirtyOutputs, Function.update_self]; rfl

theorem markOutputs_dirty : ∀ {outputs : List OutputId} {s : FrameScheduler} {output : OutputId}, output ∈ outputs →
    output ∈ s.configuredOutputs → ((outputs.foldl markOutputDirty s).dirtyOutputs output).isSome
  | first :: outputs, s, output, hmem, hn => by
    rw [List.foldl_cons]
    rcases List.mem_cons.1 hmem with rfl | hmem
    · exact (markStep_foldl markOutputDirty_step _ _).stillDirty (markOutputDirty_dirty hn)
    · refine markOutputs_dirty hmem ?_
      rw [(markOutputDirty_step s first).configured]; exact hn

/-! ## Signatures -/

theorem refreshSignature_signatures (s : FrameScheduler) (scanout : Scanout) :
    (s.refreshSignature scanout).outputSignatures =
    Function.update s.outputSignatures scanout.output.id (some (of scanout)) := by
  have hm : ∀ (s : FrameScheduler) output,
      (s.markOutputDirty output).outputSignatures = s.outputSignatures := fun s output =>
    congrArg (·.2.2) (s.markAppDirty_configuration output ∅)
  unfold refreshSignature; dsimp only
  split
  · rw [hm]
  · rfl

theorem refreshSignatures_other : ∀ {scanouts : List Scanout} {s : FrameScheduler} {output : OutputId},
    output ∉ scanouts.map (·.output.id) →
      (scanouts.foldl refreshSignature s).outputSignatures output = s.outputSignatures output
  | [], _, _, _ => rfl
  | scanout :: scanouts, s, output, h => by
    rw [List.map_cons, List.mem_cons, not_or] at h
    rw [List.foldl_cons, refreshSignatures_other h.2, refreshSignature_signatures, Function.update_of_ne h.1]

theorem refreshSignatures_mem : ∀ {scanouts : List Scanout} {s : FrameScheduler} {scanout : Scanout},
    DistinctOutputs scanouts →
    scanout ∈ scanouts →
    (scanouts.foldl refreshSignature s).outputSignatures scanout.output.id = some (of scanout)
  | [], _, _, _, hmem => by cases hmem
  | first :: scanouts, s, scanout, hd, hmem => by
    obtain ⟨hf, hd⟩ := List.nodup_cons.1 hd; rw [List.foldl_cons]
    rcases List.mem_cons.1 hmem with rfl | hmem
    · rw [refreshSignatures_other hf, refreshSignature_signatures, Function.update_self]
    · exact refreshSignatures_mem hd hmem

theorem refreshSignatures_dirty : ∀ {scanouts : List Scanout} {s : FrameScheduler} {scanout : Scanout},
    DistinctOutputs scanouts →
    scanout ∈ scanouts → scanout.powered = true → scanout.output.id ∈ s.configuredOutputs →
    s.outputSignatures scanout.output.id ≠ some (of scanout) →
    ((scanouts.foldl refreshSignature s).dirtyOutputs scanout.output.id).isSome
  | [], _, _, _, hmem, _, _, _ => by cases hmem
  | first :: scanouts, s, scanout, hd, hmem, hw, hn, hh => by
    obtain ⟨hf, hd⟩ := List.nodup_cons.1 hd; rw [List.foldl_cons]
    rcases List.mem_cons.1 hmem with rfl | hmem
    · refine (markStep_foldl refreshSignature_step _ _).stillDirty ?_; unfold refreshSignature
      dsimp only
      rw [if_pos ⟨hh, hw⟩]; exact markOutputDirty_dirty hn
    refine refreshSignatures_dirty hd hmem hw ?_ ?_
    · rw [(refreshSignature_step s first).configured]; exact hn
    · rw [refreshSignature_signatures, Function.update_of_ne]
      · exact hh
      · exact fun h => hf (List.mem_map.2 ⟨scanout, hmem, h⟩)

/-! ## Reconfiguration -/

def restarting (s : FrameScheduler) (scanouts : List Scanout) (now : Int) : FrameScheduler :=
  { s.retainConfigured (scanouts.map (·.output.id)) with
    outputs := s.outputs.reconfigure (poweredSources scanouts) now }

/-- The powered sources without a timeline of their own. -/
def restartedOutputs (s : FrameScheduler) (sources : List TimelineSource) : List OutputId :=
  (sources.filter fun source =>
    match s.outputs.timelines.find? fun timeline => timeline.source.output = source.output with
    | none => true
    | some timeline => timeline.source ≠ source).map (·.output)

theorem reconfigureSources_eq (s : FrameScheduler) (scanouts : List Scanout) (now : Int) :
    s.reconfigureSources (scanouts.map (·.output.id)) (poweredSources scanouts) now =
      let s' := (s.restartedOutputs (poweredSources scanouts)).foldl markOutputDirty (s.restarting scanouts now)
      if (s.outputs.reconfigure (poweredSources scanouts) now).isParked then
        { s' with flutterRequestLatched := false, flutterOutputsDirty := false, flutterTick := none }
      else s' := by
  have ho : ((s.restartedOutputs (poweredSources scanouts)).foldl markOutputDirty
    (s.restarting scanouts now)).outputs = _ :=
    congrArg (·.outputs)
      (markOutputs_refreshes (s.restarting scanouts now) (s.restartedOutputs (poweredSources scanouts)))
  have hu : s.reconfigureSources (scanouts.map (·.output.id)) (poweredSources scanouts) now =
      let s' := (s.restartedOutputs (poweredSources scanouts)).foldl markOutputDirty (s.restarting scanouts now)
      if s'.outputs.isParked then
        { s' with flutterRequestLatched := false, flutterOutputsDirty := false, flutterTick := none }
      else s' := rfl
  rw [hu]; dsimp only
  rw [ho]; rfl

def refreshing (s : FrameScheduler) (scanouts : List Scanout) (now : Int) : FrameScheduler :=
  let s := s.reconfigureSources (scanouts.map (·.output.id)) (poweredSources scanouts) now
  { s with outputSignatures := fun output => if output ∈ s.configuredOutputs then s.outputSignatures output else none }

theorem refreshing_dirtyOutputs (s : FrameScheduler) (scanouts : List Scanout) (now : Int) :
    (s.refreshing scanouts now).dirtyOutputs = ((s.restartedOutputs (poweredSources scanouts)).foldl markOutputDirty
      (s.restarting scanouts now)).dirtyOutputs := by
  unfold refreshing; rw [reconfigureSources_eq]
  dsimp only
  split <;> rfl

theorem refreshing_configuredOutputs (s : FrameScheduler) (scanouts : List Scanout) (now : Int) :
    (s.refreshing scanouts now).configuredOutputs = scanouts.map (·.output.id) := by
  have hm := (markStep_foldl markOutputDirty_step (s.restarting scanouts now)
    (s.restartedOutputs (poweredSources scanouts))).configured
  unfold refreshing; rw [reconfigureSources_eq]
  dsimp only
  split <;> exact hm

theorem refreshing_outputs (s : FrameScheduler) (scanouts : List Scanout) (now : Int) :
    (s.refreshing scanouts now).outputs = s.outputs.reconfigure (poweredSources scanouts) now := by
  have hm : ((s.restartedOutputs (poweredSources scanouts)).foldl markOutputDirty
    (s.restarting scanouts now)).outputs = _ :=
    congrArg (·.outputs)
      (markOutputs_refreshes (s.restarting scanouts now) (s.restartedOutputs (poweredSources scanouts)))
  unfold refreshing; rw [reconfigureSources_eq]
  dsimp only
  split <;> exact hm

theorem refreshing_signatures (s : FrameScheduler) (now : Int) (hmem : scanout ∈ scanouts) :
    (s.refreshing scanouts now).outputSignatures scanout.output.id = s.outputSignatures scanout.output.id := by
  have hm : ((s.restartedOutputs (poweredSources scanouts)).foldl markOutputDirty
      (s.restarting scanouts now)).outputSignatures = s.outputSignatures := by
    show (exec markOutputDirty (s.restarting scanouts now) _).outputSignatures = s.outputSignatures
    exact exec_invariant (I := fun s' : FrameScheduler => s'.outputSignatures = s.outputSignatures)
      (fun s' output h => (congrArg (·.2.2) (s'.markAppDirty_configuration output ∅)).trans h) _ rfl
  have hn := s.refreshing_configuredOutputs scanouts now
  unfold refreshing at hn ⊢
  dsimp only at hn ⊢
  rw [hn, if_pos (List.mem_map_of_mem hmem), reconfigureSources_eq]; dsimp only
  split <;> exact congrFun hm _

theorem reconfigure_eq (s : FrameScheduler) (scanouts : List Scanout) (now : Int) :
    s.reconfigure scanouts now = scanouts.foldl refreshSignature (s.refreshing scanouts now) := rfl

theorem reconfigure_outputs (s : FrameScheduler) (scanouts : List Scanout) (now : Int) :
    (s.reconfigure scanouts now).outputs = s.outputs.reconfigure (poweredSources scanouts) now :=
  (congrArg (·.outputs) (refreshSignatures_refreshes (s.refreshing scanouts now) scanouts)).trans
    (s.refreshing_outputs scanouts now)

theorem configured_reconfigure (hs : s.Configured) (hn : DistinctOutputs scanouts) (now : Int) :
    (s.reconfigure scanouts now).Configured := by
  refine ⟨?_, fun timeline hm => ?_⟩
  · rw [reconfigure_outputs]
    exact reconfigure_ok hs.timelines _ now
  · rw [reconfigure_outputs] at hm
    have hr := (reconfigure_sources hs.timelines hn.sources now).mem_iff.1
      (List.mem_map_of_mem hm)
    obtain ⟨scanout, hmem, -, heq⟩ := mem_poweredSources.1 hr
    refine ⟨scanout, heq, ?_⟩
    rw [← heq, reconfigure_eq]; exact refreshSignatures_mem hn hmem

theorem configured_new (hs : DistinctOutputs scanouts) (now : Int) : (new scanouts now).Configured := by
  unfold new
  refine Configured.of_configuration ?_ (markAllDirty_configuration _)
  have hr : ((poweredSources scanouts).map fun source => OutputTimeline.new source now).map (·.source) =
      poweredSources scanouts := by
    rw [List.map_map]; exact List.map_id _
  refine ⟨⟨?_, rfl⟩, fun timeline hm => ?_⟩
  · show (((poweredSources scanouts).map fun source => OutputTimeline.new source now).map (·.source)).Nodup
    rw [hr]; exact hs.sources
  · obtain ⟨source, hso, rfl⟩ := List.mem_map.1 hm
    obtain ⟨scanout, hmem, -, rfl⟩ := mem_poweredSources.1 hso
    refine ⟨scanout, rfl, ?_⟩
    have hn : (scanouts.reverse.map (·.output.id)).Nodup := by
      rw [List.map_reverse]; exact List.nodup_reverse.2 hs
    have hf := find?_of_mem hn (List.mem_reverse.2 hmem)
    show (scanouts.reverse.find? fun other => other.output.id = scanout.output.id).map of = _
    rw [hf]; rfl

theorem source_of_signature (hs : s.Configured) {timeline : OutputTimeline}
    (hti : timeline ∈ s.outputs.timelines) (ho : timeline.source.output = scanout.output.id)
    (hsi : s.outputSignatures scanout.output.id = some (of scanout)) : timeline.source = timelineSource scanout := by
  obtain ⟨before, hf, hk⟩ := hs.signed timeline hti
  rw [ho, hsi, Option.some.injEq] at hk
  have hm : scanout.output.mode = before.output.mode := congrArg mode hk
  have hv : scanout.output.vrrEnabled = before.output.vrrEnabled := congrArg vrrEnabled hk
  have hid : before.output.id = scanout.output.id := (congrArg TimelineSource.output hf).trans ho
  rw [← hf]
  unfold timelineSource refreshInterval; rw [hid, hm, hv]

/-- A reconfiguration to some scanouts as a difference: what it keeps, what it starts and what it forgets. -/
structure FramePreserving (s s' : FrameScheduler) (scanouts : List Scanout) (now : Int) : Prop where
  /-- There is exactly one timeline for each powered source. -/
  sources : (s'.outputs.timelines.map (·.source)).Perm (poweredSources scanouts)
  /-- A timeline is one from before or starts now. -/
  started : ∀ timeline ∈ s'.outputs.timelines, timeline ∈ s.outputs.timelines ∨ timeline = .new timeline.source now
  /-- A timeline whose source is kept stays as it is. -/
  kept : ∀ timeline ∈ s.outputs.timelines, timeline.source ∈ poweredSources scanouts → timeline ∈ s'.outputs.timelines
  /-- So does that of a powered output whose signature is unchanged. -/
  unchanged : ∀ scanout ∈ scanouts, scanout.powered = true →
    s.outputSignatures scanout.output.id = some (OutputSignature.of scanout) → ∀ timeline ∈ s.outputs.timelines,
      timeline.source.output = scanout.output.id → timeline ∈ s'.outputs.timelines
  /-- A powered output that is restarted, new or changed is dirty. -/
  dirty : ∀ scanout ∈ scanouts, scanout.powered = true →
    ((∀ timeline ∈ s.outputs.timelines, timeline.source ≠ timelineSource scanout) ∨
      s.outputSignatures scanout.output.id ≠ some (OutputSignature.of scanout)) →
    (s'.dirtyOutputs scanout.output.id).isSome
  /-- No mark and no texture of an output that is not configured is left. -/
  gone : ∀ output, output ∉ scanouts.map (·.output.id) → s'.dirtyOutputs output = none
  parked : s'.outputs.flutterOutput = none → poweredSources scanouts = []
  flutter : ∀ output, s'.outputs.flutterOutput = some output →
    ∃ least ∈ poweredSources scanouts, least.output = output ∧
    ∀ source ∈ poweredSources scanouts,
      least.interval < source.interval ∨ least.interval = source.interval ∧ least.output ≤ source.output

theorem reconfigure_gone (s : FrameScheduler) (now : Int) (h : output ∉ scanouts.map (·.output.id)) :
    (s.reconfigure scanouts now).dirtyOutputs output = none := by
  have hr : ∀ (s' : FrameScheduler) m, (output ∉ s'.configuredOutputs ∧ s'.dirtyOutputs output = none) →
      output ∉ (s'.markOutputDirty m).configuredOutputs ∧
      (s'.markOutputDirty m).dirtyOutputs output = none := by
    intro s' m ⟨hco, hn⟩
    rw [(markOutputDirty_step s' m).configured]
    refine ⟨hco, ?_⟩
    unfold markOutputDirty markAppDirty; split
    · rename_i hm
      rw [setDirty_dirtyOutputs, Function.update_of_ne (fun heq => hco (by rw [heq]; exact hm)), hn]
    · exact hn
  have hre : ∀ (s' : FrameScheduler) scanout, (output ∉ s'.configuredOutputs ∧ s'.dirtyOutputs output = none) →
      output ∉ (s'.refreshSignature scanout).configuredOutputs ∧
      (s'.refreshSignature scanout).dirtyOutputs output = none := by
    intro s' scanout hs'; unfold refreshSignature
    dsimp only; split
    · refine hr _ _ ?_; exact hs'
    · exact hs'
  have hs : output ∉ (s.restarting scanouts now).configuredOutputs ∧
      (s.restarting scanouts now).dirtyOutputs output = none := ⟨h, if_neg h⟩
  have hm := exec_invariant hr (s.restartedOutputs (poweredSources scanouts)) hs
  have hf : output ∉ (s.refreshing scanouts now).configuredOutputs ∧
      (s.refreshing scanouts now).dirtyOutputs output = none :=
    ⟨by rw [refreshing_configuredOutputs]; exact h, by rw [refreshing_dirtyOutputs]; exact hm.2⟩
  exact (exec_invariant hre scanouts hf).2

theorem reconfigure_dirty (hs : DistinctOutputs scanouts) (now : Int) (hmem : scanout ∈ scanouts)
    (hw : scanout.powered = true) (h : (∀ timeline ∈ s.outputs.timelines, timeline.source ≠ timelineSource scanout) ∨
      s.outputSignatures scanout.output.id ≠ some (of scanout)) :
    ((s.reconfigure scanouts now).dirtyOutputs scanout.output.id).isSome := by
  have hid : scanout.output.id ∈ scanouts.map (·.output.id) := List.mem_map_of_mem hmem
  rw [reconfigure_eq]
  rcases h with hr | hh
  · refine (markStep_foldl refreshSignature_step _ _).stillDirty ?_; rw [refreshing_dirtyOutputs]
    refine markOutputs_dirty (List.mem_map.2 ⟨timelineSource scanout, List.mem_filter.2 ⟨?_, ?_⟩, rfl⟩) hid
    · exact mem_poweredSources.2 ⟨scanout, hmem, hw, rfl⟩
    · split
      · rfl
      · rename_i timeline hf
        exact decide_eq_true (hr timeline (List.mem_of_find?_eq_some hf))
  · refine refreshSignatures_dirty hs hmem hw ?_ ?_
    · rw [refreshing_configuredOutputs]; exact hid
    · rw [s.refreshing_signatures now hmem]; exact hh

theorem reconfigure_flutter (hs : s.Configured) (hn : DistinctOutputs scanouts) (now : Int) :
    ∃ least, (s.reconfigure scanouts now).outputs.flutterOutput = least.map (·.output) ∧
      minSource ((s.reconfigure scanouts now).outputs.timelines.map (·.source)) = least :=
  ⟨_, (configured_reconfigure hs hn now).timelines.elected, rfl⟩

theorem framePreserving_reconfigure (hs : s.Configured) (hn : DistinctOutputs scanouts) (now : Int) :
    FramePreserving s (s.reconfigure scanouts now) scanouts now := by
  have hr : ((s.reconfigure scanouts now).outputs.timelines.map (·.source)).Perm (poweredSources scanouts) := by
    rw [reconfigure_outputs]
    exact reconfigure_sources hs.timelines hn.sources now
  have hk : ∀ timeline ∈ s.outputs.timelines, timeline.source ∈ poweredSources scanouts →
      timeline ∈ (s.reconfigure scanouts now).outputs.timelines := fun timeline hm hsu => by
    rw [reconfigure_outputs]
    exact (mem_reconfigure hn.sources).2 (.inl ⟨hm, hsu⟩)
  obtain ⟨l, hf, hle⟩ := reconfigure_flutter hs hn now
  refine ⟨hr, fun timeline hm => ?_, hk,
    fun scanout hmem hw hsi timeline hm hou => ?_,
    fun scanout hmem hw h => reconfigure_dirty hn now hmem hw h,
    fun output h => reconfigure_gone s now h,
    fun hno => ?_, fun output hso => ?_⟩
  · rw [reconfigure_outputs] at hm
    rcases (mem_reconfigure hn.sources).1 hm with ⟨h, -⟩ | ⟨source, -, rfl, -⟩
    · exact .inl h
    · exact .inr rfl
  · refine hk timeline hm ?_
    rw [source_of_signature hs hm hou hsi]
    exact mem_poweredSources.2 ⟨scanout, hmem, hw, rfl⟩
  · rw [hf, Option.map_eq_none_iff] at hno; rw [hno] at hle
    rw [minSource_none hle] at hr; exact hr.nil_eq.symm
  · rw [hf] at hso
    obtain ⟨source, rfl, rfl⟩ := Option.map_eq_some_iff.1 hso
    obtain ⟨hmem, hal⟩ := minSource_least hle
    refine ⟨source, hr.mem_iff.1 hmem, rfl, fun other ho => ?_⟩
    have hlt := hal other (hr.mem_iff.2 ho)
    simp only [sourceKeyLt, Bool.or_eq_false_iff, Bool.and_eq_false_iff, decide_eq_false_iff_not,
      beq_eq_false_iff_ne] at hlt
    grind

end FrameScheduler

/-! ## Runs -/

open FrameScheduler

/-- A reconfiguration of a session names each output once. -/
def FrameEvent.Distinct : FrameEvent → Prop
  | .reconfigure scanouts _ => DistinctOutputs scanouts
  | _ => True

theorem configured_next {s : FrameSession} (hs : s.scheduler.Configured) (e : FrameEvent) (he : e.Distinct) :
    (s.next e).scheduler.Configured := by
  cases e with
  | markAppDirty output texs => exact hs.of_configuration (markAppDirty_configuration _ _ _)
  | markOutputDirty output => exact hs.of_configuration (markAppDirty_configuration _ _ _)
  | markAllDirty => exact hs.of_configuration (markAllDirty_configuration _)
  | step now fr a =>
    exact hs.of_configuration (step_configuration _ now fr a)
  | completeRender render =>
    show (s.completeRender render).scheduler.Configured; unfold FrameSession.completeRender
    cases s.issued[render]? with
    | none => exact hs
    | some e =>
      refine hs.of_configuration ?_; unfold FrameScheduler.completeRender
      dsimp only
      split <;> rfl
  | observePresentation output tgt pa =>
    refine hs.of_configuration ?_; unfold configuration
    rw [← observePresentation_sources s.scheduler.outputs output tgt pa]
    rfl
  | flutterFrameDispatched =>
    refine hs.of_configuration ?_
    show (s.scheduler.flutterFrameDispatched.getD s.scheduler).configuration = _
    unfold flutterFrameDispatched
    cases s.scheduler.flutterTick <;> rfl
  | reconfigure scanouts now => exact configured_reconfigure hs he now

/-- In every session, a reconfiguration is a difference of the configured scanouts. -/
theorem reconfigure_preserves_frames (scanouts : List Scanout) (now : Int) (hscanouts : DistinctOutputs scanouts)
    (es : List FrameEvent) (hes : ∀ e ∈ es, e.Distinct) (scanouts' : List Scanout) (now' : Int)
    (hscanouts' : DistinctOutputs scanouts') :
    let s := (exec FrameSession.next (.start scanouts now) es).scheduler
    FramePreserving s (s.reconfigure scanouts' now') scanouts' now' := by
  intro s
  have hs : s.Configured := exec_invariant_along (I := fun s : FrameSession => s.scheduler.Configured)
    (fun _ e h he => configured_next h e he) (configured_new hscanouts now) (along_of_forall hes)
  exact framePreserving_reconfigure hs hscanouts' now'

/-- A second output at 120 Hz. -/
def fast : Scanout where
  output := { id := 2, connector := 2, crtc := 2, mode := ⟨1, 120000⟩, transform := .normal, vrrEnabled := false }
  plane := 2
  sourceRect := ⟨1920, 0, 1920, 1080⟩
  powered := true

/-- A second output joins: it is dirty and becomes the Flutter clock. -/
theorem reconfigure_preserves_frames_join :
    let s := (exec FrameSession.next (.start [lone] 0) [.step 0 false fun _ => true, .completeRender 0]).scheduler
    FramePreserving s (s.reconfigure [lone, fast] 5) [lone, fast] 5 :=
  reconfigure_preserves_frames [lone] 0 (by decide) [.step 0 false fun _ => true, .completeRender 0]
    (fun e he => by
      rcases List.mem_cons.1 he with rfl | he
      · trivial
      · obtain rfl := List.mem_singleton.1 he
        trivial) [lone, fast] 5 (by decide)

end Deniald.Frame
