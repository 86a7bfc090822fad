/-
What the scheduler's operations do to the marks of its outputs. A marking operation only adds marks: an
output it marks is dirty with a newer mark, the others keep theirs, and pending textures stay pending.
Over a session of such operations, steps and completed renders, a render completed in time never
clears a later mark, and no texture leaves the pending set before a render that covers it.
-/
import Deniald.Frame.Scheduler

namespace Deniald.Frame

open Deniald.Lib
open Deniald.Topology (OutputId)

namespace FrameScheduler

def newestMark (s : FrameScheduler) (output : OutputId) : Nat :=
  ((s.marks.find? fun mark => mark.output = output).map (·.number)).getD 0

/-- The fields that account for dirtiness. -/
def accounts (s : FrameScheduler) : List OutputId × (OutputId → Option DirtyOutput) × UInt64 × Nat × List DirtyMark :=
  (s.configuredOutputs, s.dirtyOutputs, s.nextDirtySerial, s.markCount, s.marks)

structure Counted (s : FrameScheduler) : Prop where
  serial : s.nextDirtySerial = serialOf s.markCount
  ordered : s.marks.Pairwise fun newer older => older.number < newer.number
  numbers : ∀ mark ∈ s.marks, 0 < mark.number ∧ mark.number ≤ s.markCount
  dirty : ∀ output dirty, s.dirtyOutputs output = some dirty →
    0 < s.newestMark output ∧ dirty.serial = serialOf (s.newestMark output) ∧ dirty.mark = s.newestMark output

variable {s : FrameScheduler}

theorem le_newestMark (hs : s.Counted) {mark : DirtyMark} (h : mark ∈ s.marks) :
    mark.number ≤ s.newestMark mark.output := by
  unfold newestMark
  have ho := hs.ordered
  revert h ho
  generalize s.marks = marks; intro h ho
  induction marks with
  | nil => cases h
  | cons n o ih =>
    obtain ⟨hn, hd⟩ := List.pairwise_cons.1 ho; rw [List.find?_cons]
    by_cases hou : n.output = mark.output
    · rw [decide_eq_true hou]
      rcases List.mem_cons.1 h with rfl | h
      · exact le_refl _
      · exact (hn mark h).le
    rw [decide_eq_false hou]
    rcases List.mem_cons.1 h with rfl | h
    · exact absurd rfl hou
    · exact ih h hd

theorem newestMark_le (hs : s.Counted) (out : OutputId) : s.newestMark out ≤ s.markCount := by
  unfold newestMark
  cases hf : s.marks.find? fun mark => mark.output = out with
  | none => exact Nat.zero_le _
  | some mark => exact (hs.numbers mark (List.mem_of_find?_eq_some hf)).2

/-! ## Marking -/

/-- Marks are added and nothing else: `unmarked` says of each output that it was not marked, or is
dirty now with a newer mark. -/
structure MarkStep (s s' : FrameScheduler) : Prop where
  counted : s.Counted → s'.Counted
  count : s.markCount ≤ s'.markCount
  kept : ∀ mark ∈ s.marks, mark ∈ s'.marks
  fresh : ∀ mark ∈ s'.marks, mark ∈ s.marks ∨
    ∃ dirty, s'.dirtyOutputs mark.output = some dirty ∧ mark.textureIds ⊆ dirty.textureIds
  pending : ∀ output dirty, s.dirtyOutputs output = some dirty →
    ∃ dirty', s'.dirtyOutputs output = some dirty' ∧ dirty.textureIds ⊆ dirty'.textureIds
  unmarked : ∀ output, (s'.dirtyOutputs output = s.dirtyOutputs output ∧ s'.newestMark output = s.newestMark output) ∨
    (s.markCount < s'.newestMark output ∧ (s'.dirtyOutputs output).isSome)
  configured : s'.configuredOutputs = s.configuredOutputs

theorem markStep_of_accounts {s' : FrameScheduler} (h : s'.accounts = s.accounts) : MarkStep s s' := by
  simp only [accounts, Prod.mk.injEq] at h
  obtain ⟨hco, hd, hr, hn, hm⟩ := h
  have hw : ∀ output, s'.newestMark output = s.newestMark output := by
    intro output; unfold newestMark; rw [hm]
  refine ⟨fun hs => ⟨?_, ?_, ?_, ?_⟩, hn.ge, ?_, ?_, ?_, ?_, hco⟩
  · rw [hr, hn]; exact hs.serial
  · rw [hm]; exact hs.ordered
  · rw [hm, hn]; exact hs.numbers
  · intro output d h; rw [hw]; rw [hd] at h; exact hs.dirty output d h
  · rw [hm]; exact fun mark h => h
  · rw [hm]; exact fun mark h => .inl h
  · rw [hd]; exact fun output d h => ⟨d, h, fun _ h => h⟩
  · exact fun output => .inl ⟨by rw [hd], hw output⟩

theorem MarkStep.refl (s : FrameScheduler) : MarkStep s s := markStep_of_accounts rfl

theorem MarkStep.trans {a b c : FrameScheduler} (h : MarkStep a b) (h' : MarkStep b c) : MarkStep a c where
  counted ha := h'.counted (h.counted ha)
  count := h.count.trans h'.count
  kept mark hm := h'.kept mark (h.kept mark hm)
  fresh mark hm := by
    rcases h'.fresh mark hm with hm | hf
    · rcases h.fresh mark hm with hm | ⟨d, hd, hs⟩
      · exact .inl hm
      · obtain ⟨d', hd', hs'⟩ := h'.pending _ _ hd
        exact .inr ⟨d', hd', hs.trans hs'⟩
    · exact .inr hf
  pending output d hd := by
    obtain ⟨d', hd', hs⟩ := h.pending _ _ hd
    obtain ⟨d'', hd'', hs'⟩ := h'.pending _ _ hd'; exact ⟨d'', hd'', hs.trans hs'⟩
  unmarked output := by
    rcases h'.unmarked output with ⟨hd', hn'⟩ | ⟨hlt, hso⟩
    · rw [hd', hn']; exact h.unmarked output
    · exact .inr ⟨h.count.trans_lt hlt, hso⟩
  configured := h'.configured.trans h.configured

theorem markStep_foldl {α : Type} {f : FrameScheduler → α → FrameScheduler} (h : ∀ s a, MarkStep s (f s a))
    (s : FrameScheduler) (l : List α) : MarkStep s (l.foldl f s) :=
  exec_rel MarkStep.refl (fun _ _ _ => MarkStep.trans) h s l

theorem newestMark_setDirty (s : FrameScheduler) (out output' : OutputId) (texs : Finset Int) :
    (s.setDirty out texs).newestMark output' = if out = output' then s.markCount + 1 else s.newestMark output' := by
  unfold newestMark setDirty allocateDirtySerial; dsimp only
  rw [List.find?_cons]
  by_cases h : out = output' <;> simp [h]

theorem setDirty_dirtyOutputs (s : FrameScheduler) (out : OutputId) (texs : Finset Int) :
    (s.setDirty out texs).dirtyOutputs = Function.update s.dirtyOutputs out
      (some ⟨bump s.nextDirtySerial, ((s.dirtyOutputs out).getD ⟨0, ∅, 0⟩).textureIds ∪ texs, s.markCount + 1⟩) := rfl

theorem setDirty_step (s : FrameScheduler) (out : OutputId) (texs : Finset Int) : MarkStep s (s.setDirty out texs) where
  counted hs := by
    refine ⟨?_, ?_, ?_, ?_⟩
    · show bump s.nextDirtySerial = bump (serialOf s.markCount); rw [hs.serial]
    · refine List.pairwise_cons.2 ⟨fun mark hm => ?_, hs.ordered⟩
      exact Nat.lt_succ_of_le (hs.numbers mark hm).2
    · refine List.forall_mem_cons.2 ⟨⟨Nat.succ_pos _, le_refl _⟩, fun mark hm => ?_⟩
      exact ⟨(hs.numbers mark hm).1, (hs.numbers mark hm).2.trans (Nat.le_succ _)⟩
    · intro output' d hd; rw [newestMark_setDirty]
      rw [setDirty_dirtyOutputs] at hd
      by_cases h : out = output'
      · subst h; rw [Function.update_self] at hd
        cases hd
        rw [if_pos rfl, hs.serial]; exact ⟨Nat.succ_pos _, rfl, rfl⟩
      · rw [Function.update_of_ne (Ne.symm h)] at hd
        rw [if_neg h]; exact hs.dirty output' d hd
  count := Nat.le_succ _
  kept mark hm := List.mem_cons_of_mem _ hm
  fresh mark hm := by
    rcases List.mem_cons.1 hm with rfl | hm
    · rw [setDirty_dirtyOutputs]
      exact .inr ⟨_, Function.update_self .., Finset.subset_union_right⟩
    · exact .inl hm
  pending output' d hd := by
    rw [setDirty_dirtyOutputs]
    by_cases h : out = output'
    · subst h
      refine ⟨_, Function.update_self .., ?_⟩
      rw [hd]; exact Finset.subset_union_left
    · exact ⟨d, by rw [Function.update_of_ne (Ne.symm h)]; exact hd, fun _ h => h⟩
  unmarked output' := by
    rw [newestMark_setDirty, setDirty_dirtyOutputs]
    by_cases h : out = output'
    · subst h
      rw [if_pos rfl, Function.update_self]; exact .inr ⟨Nat.lt_succ_self _, rfl⟩
    · rw [if_neg h, Function.update_of_ne (Ne.symm h)]; exact .inl ⟨rfl, rfl⟩
  configured := rfl

theorem markAppDirty_step (s : FrameScheduler) (out : OutputId) (texs : Finset Int) :
    MarkStep s (s.markAppDirty out texs) := by
  unfold markAppDirty; split
  · exact s.setDirty_step out texs
  · exact .refl s

theorem markOutputDirty_step (s : FrameScheduler) (out : OutputId) : MarkStep s (s.markOutputDirty out) :=
  s.markAppDirty_step out ∅

theorem markAllDirty_step (s : FrameScheduler) : MarkStep s s.markAllDirty := by
  unfold markAllDirty
  exact markStep_foldl (fun s tl => s.setDirty_step _ _) s _

theorem markAllDirty_requests (s : FrameScheduler) :
    s.markAllDirty.renderRequests = s.renderRequests ∧ s.markAllDirty.renderTextureIds = s.renderTextureIds ∧
      s.markAllDirty.availableOutputs = s.availableOutputs := by
  unfold markAllDirty
  generalize s.outputs.timelines = tls
  induction tls generalizing s with
  | nil => exact ⟨rfl, rfl, rfl⟩
  | cons tl tls ih => exact ih (s.setDirty tl.source.output ∅)

/-! ## Steps, completions and configurations -/

theorem subset_foldl_union : ∀ (dues : List (FrameTick × DirtyOutput)) (start : Finset Int),
    start ⊆ dues.foldl (fun texs due => texs ∪ due.2.textureIds) start ∧
      ∀ due ∈ dues, due.2.textureIds ⊆ dues.foldl (fun texs due => texs ∪ due.2.textureIds) start
  | [], start => ⟨fun _ h => h, fun _ h => by cases h⟩
  | due :: dues, start => by
    obtain ⟨hs, hd⟩ := subset_foldl_union dues (start ∪ due.2.textureIds)
    exact ⟨Finset.subset_union_left.trans hs,
      List.forall_mem_cons.2 ⟨Finset.subset_union_right.trans hs, hd⟩⟩

theorem step_spec (s : FrameScheduler) (now : Int) (fr : Bool) (a : OutputId → Bool) :
    MarkStep s (s.stepWithOutputAvailability now fr a).1 ∧
      ∀ request ∈ (s.stepWithOutputAvailability now fr a).1.renderRequests, a request.tick.output = true ∧ ∃ d,
          (s.stepWithOutputAvailability now fr a).1.dirtyOutputs request.tick.output = some d ∧
          request.dirtySerial = d.serial ∧ request.mark = d.mark ∧ d.textureIds ⊆
            (s.stepWithOutputAvailability now fr a).1.renderTextureIds := by
  obtain ⟨s', hs', hcl, hv, hm⟩ : ∃ s', MarkStep s s' ∧ s'.renderRequests = [] ∧
      (∀ out ∈ s'.availableOutputs, a out = true) ∧
      ((s.stepWithOutputAvailability now fr a).1.accounts = s'.accounts ∧
        (s.stepWithOutputAvailability now fr a).1.renderRequests =
          s'.authorizeDue.renderRequests ∧
        (s.stepWithOutputAvailability now fr a).1.renderTextureIds =
          s'.authorizeDue.renderTextureIds) := by
    have hd : MarkStep s (s.advance now fr a) := markStep_of_accounts rfl
    have hv : ∀ out ∈ (s.advance now fr a).availableOutputs,
        a out = true := fun out h => (List.mem_filter.1 h).2
    unfold stepWithOutputAvailability; dsimp only
    split
    · -- a new scene frame dirties every powered output
      refine ⟨{ (s.advance now fr a).markAllDirty with flutterOutputsDirty := true },
        (hd.trans (markAllDirty_step _)).trans (markStep_of_accounts rfl), ?_, ?_, ?_⟩
      · exact (markAllDirty_requests _).1
      · intro out h
        exact hv out ((markAllDirty_requests _).2.2 ▸ h)
      · split <;> exact ⟨rfl, rfl, rfl⟩
    · refine ⟨s.advance now fr a, hd, rfl, hv, ?_⟩
      split <;> exact ⟨rfl, rfl, rfl⟩
  obtain ⟨hac, hs, hte⟩ := hm
  refine ⟨hs'.trans (markStep_of_accounts hac), fun request hr => ?_⟩
  have hdi : (s.stepWithOutputAvailability now fr a).1.dirtyOutputs = s'.dirtyOutputs :=
    congrArg (·.2.1) hac
  rw [hdi, hte]; rw [hs] at hr
  unfold authorizeDue at hr ⊢; rw [hcl] at hr
  obtain ⟨⟨tick, d⟩, hdu, rfl⟩ := List.mem_map.1 hr
  obtain ⟨tick', -, hf⟩ := List.mem_filterMap.1 hdu; split at hf
  · rename_i hmem
    obtain ⟨dirty', hd', heq⟩ := Option.map_eq_some_iff.1 hf
    obtain ⟨rfl, rfl⟩ := Prod.mk.inj heq
    exact ⟨hv _ hmem, dirty', hd', rfl, rfl, (subset_foldl_union s'.dueDirty _).2 _ hdu⟩
  · cases hf

theorem completeRender_eq (s : FrameScheduler) (out : OutputId) (ser : UInt64) :
    s.completeRender out ser = s ∨
      ∃ d, s.dirtyOutputs out = some d ∧ d.serial = ser ∧
        s.completeRender out ser =
          { s with dirtyOutputs := Function.update s.dirtyOutputs out none } := by
  unfold completeRender
  cases hd : s.dirtyOutputs out with
  | none => exact .inl rfl
  | some d =>
    by_cases h : d.serial = ser
    · exact .inr ⟨d, rfl, h, by simp [h]⟩
    · exact .inl (by simp [h])

theorem counted_completeRender (hs : s.Counted) (out : OutputId) (ser : UInt64) :
    (s.completeRender out ser).Counted := by
  rcases s.completeRender_eq out ser with h | ⟨d, -, -, h⟩
  · rw [h]; exact hs
  rw [h]
  refine ⟨hs.serial, hs.ordered, hs.numbers, fun out' d' hd' => ?_⟩; dsimp only at hd'
  by_cases ho : out' = out
  · subst ho; rw [Function.update_self] at hd'; cases hd'
  · rw [Function.update_of_ne ho] at hd'; exact hs.dirty out' d' hd'

theorem newestMark_of_serial (hs : s.Counted) {out : OutputId} {d : DirtyOutput} {mark : Nat}
    (hd : s.dirtyOutputs out = some d) (hpos : 0 < mark) (hle : mark ≤ s.newestMark out)
    (hy : s.markCount < mark + cycle) (hr : d.serial = serialOf mark) : s.newestMark out = mark := by
  have hn := (hs.dirty out d hd).2.1; rw [hr] at hn
  exact (serialOf_inj hpos hle ((newestMark_le hs out).trans_lt hy) hn).symm

theorem newestMark_retainConfigured (s : FrameScheduler) (configuredOutputs : List OutputId) (out : OutputId) :
    (s.retainConfigured configuredOutputs).newestMark out =
      if out ∈ configuredOutputs then s.newestMark out else 0 := by
  unfold newestMark retainConfigured; dsimp only
  rw [List.find?_filter]; split
  · rename_i h
    congr 3
    funext mark
    by_cases hm : mark.output = out
    · simp [hm, h]
    · simp [hm]
  · rename_i h; rw [List.find?_eq_none.2]
    · rfl
    · intro mark _ hm
      simp only [decide_eq_true_eq] at hm
      obtain ⟨hmem, rfl⟩ := hm; exact h hmem

theorem counted_retainConfigured (hs : s.Counted) (configuredOutputs : List OutputId) :
    (s.retainConfigured configuredOutputs).Counted := by
  refine ⟨hs.serial, hs.ordered.filter _, fun mark hm => hs.numbers mark (List.mem_filter.1 hm).1, ?_⟩
  intro out d hd; rw [newestMark_retainConfigured]
  unfold retainConfigured at hd; dsimp only at hd
  split at hd
  · rename_i hmem
    rw [if_pos hmem]; exact hs.dirty out d hd
  · cases hd

theorem refreshSignature_step (s : FrameScheduler) (scan : Scanout) : MarkStep s (s.refreshSignature scan) := by
  unfold refreshSignature; dsimp only
  split
  · refine MarkStep.trans ?_ (markOutputDirty_step _ _); exact markStep_of_accounts rfl
  · exact markStep_of_accounts rfl

theorem reconfigure_step (s : FrameScheduler) (ss : List Scanout) (now : Int) :
    MarkStep (s.retainConfigured (ss.map (·.output.id))) (s.reconfigure ss now) := by
  have hs : MarkStep (s.retainConfigured (ss.map (·.output.id)))
      (s.reconfigureSources (ss.map (·.output.id)) (poweredSources ss) now) := by
    unfold reconfigureSources; dsimp only
    generalize hr : List.foldl markOutputDirty _ _ = s'
    have hm : MarkStep (s.retainConfigured (ss.map (·.output.id))) s' := by
      rw [← hr]
      refine MarkStep.trans ?_ (markStep_foldl markOutputDirty_step _ _); exact markStep_of_accounts rfl
    split
    · exact hm.trans (markStep_of_accounts rfl)
    · exact hm
  unfold reconfigure; dsimp only
  refine MarkStep.trans ?_ (markStep_foldl refreshSignature_step _ _)
  exact hs.trans (markStep_of_accounts rfl)

theorem counted_new (ss : List Scanout) (now : Int) : (new ss now).Counted := by
  unfold new
  refine (markAllDirty_step _).counted ⟨rfl, List.Pairwise.nil, ?_, ?_⟩
  · intro mark hm; cases hm
  · intro out d hd; cases hd

end FrameScheduler

end Deniald.Frame
