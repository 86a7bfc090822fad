/-
The cadence of one output over whole runs: however ticks and presentation feedback interleave, each
taken tick is current, its target follows its deadline and stays within the correction limit of the
unperturbed cadence, and consecutive ticks step forward by a whole number of periods from the last
target, which their sequence numbers count modulo 2⁶⁴.
-/
import Deniald.Frame.Timeline
import Deniald.Lib.Lists
import Mathlib.Data.List.Chain

namespace Deniald.Frame

open Deniald.Lib
open OutputTimeline

inductive TimelineEvent where
  | takeTick (now : Int)
  | observePresentation (presentationTarget presentedAt : Int)

structure TimelineRun where
  timeline : OutputTimeline
  taken : List (Int × FrameTick)

namespace TimelineRun

def start (source : TimelineSource) (now : Int) : TimelineRun := ⟨.new source now, []⟩

def next (r : TimelineRun) : TimelineEvent → TimelineRun
  | .takeTick now =>
    match r.timeline.takeTick now with
    | (t, some tick) => ⟨t, r.taken ++ [(now, tick)]⟩
    | (t, none) => { r with timeline := t }
  | .observePresentation presentationTarget presentedAt =>
    { r with timeline := r.timeline.observePresentation presentationTarget presentedAt }

end TimelineRun

/-! ## One tick -/

/-- What a tick taken at `now` satisfies: it is the latest due one, its target is past its deadline,
off the cadence by at most the correction limit, and consistent with its own interval, which is what
publishing its frame checks. -/
structure TickOK (source : TimelineSource) (now : Int) (tick : FrameTick) : Prop where
  due : tick.renderDeadline ≤ now
  current : now < tick.renderDeadline + source.interval
  target : tick.renderDeadline < tick.presentationTarget
  shift : |tick.presentationTarget - (tick.renderDeadline + source.interval)| ≤ phaseLockMaxAdjustment
  publish : tick.presentationTarget = tick.renderDeadline + tick.interval

/-- A tick follows another: its deadline is some whole number `m` of skipped periods after the other's
target, and its sequence number is ahead by `m + 1`, modulo 2⁶⁴. -/
def TickFollows (source : TimelineSource) (p q : Int × FrameTick) : Prop :=
  ∃ m : Nat, q.2.renderDeadline = p.2.presentationTarget + source.interval * m ∧
    q.2.sequence = p.2.sequence + UInt64.ofNat (m + 1)

variable {t : OutputTimeline} {source : TimelineSource} {startedAt : Int}

theorem takeTick_of_lt {now : Int} (h : now < t.nextTick) : t.takeTick now = (t, none) := by
  unfold takeTick; rw [if_pos h]

/-- A due tick: `m` periods were missed, and the timeline moves past the tick's target. -/
theorem takeTick_of_le {now : Int} (hI : phaseLockMaxAdjustment < t.source.interval)
    (hp : |t.pendingPhaseAdjustmentNanos| ≤ phaseLockMaxAdjustment) (h : t.nextTick ≤ now) :
    ∃ (m : Nat) (tick : FrameTick), t.takeTick now =
        ({ t with nextTick := tick.presentationTarget, nextSequence := tick.sequence + 1,
                  pendingPhaseAdjustmentNanos := 0 }, some tick) ∧
      tick.renderDeadline = t.nextTick + t.source.interval * m ∧
      tick.sequence = t.nextSequence + UInt64.ofNat m ∧ TickOK t.source now tick := by
  have hpos : 0 < t.source.interval := by omega
  have hma : max t.source.interval 1 = t.source.interval := by omega
  have hd : (saturatingDurationSince now t.nextTick : Int) = now - t.nextTick := saturatingDurationSince_of_le h
  generalize hm : saturatingDurationSince now t.nextTick / max t.source.interval 1 = m; rw [hma] at hm
  have hv := Nat.div_add_mod (saturatingDurationSince now t.nextTick) t.source.interval
  have hlt := Nat.mod_lt (saturatingDurationSince now t.nextTick) hpos; rw [hm] at hv
  generalize saturatingDurationSince now t.nextTick % t.source.interval = rest at hv hlt
  have hn : now - t.nextTick = t.source.interval * m + rest := by rw [← hd, ← hv]; push_cast; rfl
  have hs := abs_le.1 hp
  refine ⟨m, ⟨t.source.output, t.nextSequence + UInt64.ofNat m,
    saturatingDurationSince (t.nextTick + t.source.interval * m + t.source.interval + t.pendingPhaseAdjustmentNanos)
      (t.nextTick + t.source.interval * m), t.nextTick + t.source.interval * m,
    t.nextTick + t.source.interval * m + t.source.interval + t.pendingPhaseAdjustmentNanos⟩, ?_, rfl, rfl, ?_⟩
  · unfold takeTick; rw [if_neg (by omega)]
    simp [hma, hm, advanceDeadline_eq]
  · refine ⟨?_, ?_, ?_, ?_, ?_⟩
    · show t.nextTick + t.source.interval * m ≤ now; omega
    · show now < t.nextTick + t.source.interval * m + t.source.interval; omega
    · show t.nextTick + t.source.interval * m < _ + t.source.interval + _; omega
    · show |_ - (_ + _)| ≤ _
      rw [add_sub_cancel_left]; exact hp
    · rw [saturatingDurationSince_of_le (by omega)]; ring

theorem observePresentation_frame (t : OutputTimeline) (tgt pa : Int) :
    (t.observePresentation tgt pa).source = t.source ∧ (t.observePresentation tgt pa).nextTick = t.nextTick ∧
      (t.observePresentation tgt pa).nextSequence = t.nextSequence := by
  unfold observePresentation; simp only; split <;> exact ⟨rfl, rfl, rfl⟩

theorem observePresentation_pending (hp : |t.pendingPhaseAdjustmentNanos| ≤ phaseLockMaxAdjustment)
    (tgt pa : Int) :
    |(t.observePresentation tgt pa).pendingPhaseAdjustmentNanos| ≤ phaseLockMaxAdjustment := by
  unfold observePresentation
  simp only
  split
  · exact hp
  · exact abs_le.2 (clamp_mem (by omega))

/-! ## Whole runs -/

/-- A tick's sequence number is `k` modulo 2⁶⁴, where counting up to `k` took the periods since the
start, each at least the interval less the correction limit. -/
def CountedAs (source : TimelineSource) (startedAt : Int) (p : Int × FrameTick) (k : Nat) : Prop :=
  p.2.sequence = UInt64.ofNat (k + 1) ∧ (k : Int) * (source.interval - phaseLockMaxAdjustment) ≤ p.1 - startedAt

/-- The invariant of a timeline's runs; `n` counts the periods passed since the start. -/
structure TimelineInv (source : TimelineSource) (startedAt : Int) (r : TimelineRun) (n : Nat) : Prop where
  src : r.timeline.source = source
  pending : |r.timeline.pendingPhaseAdjustmentNanos| ≤ phaseLockMaxAdjustment
  sequence : r.timeline.nextSequence = UInt64.ofNat (n + 1)
  slow : (n : Int) * (source.interval - phaseLockMaxAdjustment) ≤ r.timeline.nextTick - startedAt
  ok : ∀ p ∈ r.taken, TickOK source p.1 p.2
  targets : ∀ p ∈ r.taken, p.2.presentationTarget ≤ r.timeline.nextTick
  last : ∀ p ∈ r.taken.getLast?, p.2.presentationTarget = r.timeline.nextTick ∧
    p.2.sequence + 1 = r.timeline.nextSequence
  increasing : r.taken.Pairwise fun p q => p.2.presentationTarget < q.2.presentationTarget
  follows : r.taken.IsChain (TickFollows source)
  counted : ∃ ks : List Nat, List.Forall₂ (CountedAs source startedAt) r.taken ks ∧ ks.Pairwise (· < ·) ∧
    ∀ k ∈ ks, k < n

theorem timelineInv_start (source : TimelineSource) (now : Int) : TimelineInv source now (.start source now) 0 where
  src := rfl
  pending := by simp [TimelineRun.start, new]
  sequence := rfl
  slow := by simp [TimelineRun.start, new]
  ok := by simp [TimelineRun.start]
  targets := by simp [TimelineRun.start]
  last := by simp [TimelineRun.start]
  increasing := .nil
  follows := .nil
  counted := ⟨[], .nil, .nil, by simp⟩

theorem timelineInv_observe {r : TimelineRun} {n : Nat} (h : TimelineInv source startedAt r n) (tgt pa : Int) :
    TimelineInv source startedAt (r.next (.observePresentation tgt pa)) n := by
  obtain ⟨h1, h2, h3⟩ := observePresentation_frame r.timeline tgt pa
  refine ⟨h1.trans h.src, observePresentation_pending h.pending tgt pa, h3.trans h.sequence,
    ?_, h.ok, ?_, ?_,
    h.increasing, h.follows, h.counted⟩
  · show _ ≤ (r.timeline.observePresentation tgt pa).nextTick - _
    rw [h2]; exact h.slow
  · show ∀ p ∈ r.taken, _ ≤ (r.timeline.observePresentation tgt pa).nextTick
    rw [h2]; exact h.targets
  · show ∀ p ∈ r.taken.getLast?, _ = (r.timeline.observePresentation tgt pa).nextTick ∧
      _ = (r.timeline.observePresentation tgt pa).nextSequence
    rw [h2, h3]; exact h.last

theorem timelineInv_tick {r : TimelineRun} {n : Nat} (hI : phaseLockMaxAdjustment < source.interval)
    (h : TimelineInv source startedAt r n) (now : Int) :
    ∃ n', TimelineInv source startedAt (r.next (.takeTick now)) n' := by
  by_cases hlt : now < r.timeline.nextTick
  · refine ⟨n, ?_⟩
    have : r.next (.takeTick now) = r := by simp [TimelineRun.next, takeTick_of_lt hlt]
    rw [this]; exact h
  obtain ⟨m, tick, hta, hd, hse, hok⟩ := takeTick_of_le (by rw [h.src]; exact hI) h.pending (not_lt.1 hlt)
  have hne : r.next (.takeTick now) = ⟨{ r.timeline with
      nextTick := tick.presentationTarget, nextSequence := tick.sequence + 1, pendingPhaseAdjustmentNanos := 0 },
      r.taken ++ [(now, tick)]⟩ := by simp [TimelineRun.next, hta]
  rw [h.src] at hd hok
  have hca := abs_le.1 hok.shift
  have hr := hok.target
  have hdu := hok.due
  have hba : r.timeline.nextTick ≤ tick.renderDeadline := by
    have := Int.natCast_nonneg (source.interval * m)
    push_cast at this
    rw [hd]; omega
  -- counting `m` skipped periods and this one keeps the pace of the invariant
  have hw : ((n + m : Nat) : Int) * (source.interval - phaseLockMaxAdjustment) ≤ tick.renderDeadline -
    startedAt := by
    have hs := h.slow
    have hm : (m : Int) * (source.interval - phaseLockMaxAdjustment) ≤ source.interval * m := by
      rw [mul_comm (source.interval : Int)]
      exact mul_le_mul_of_nonneg_left (by omega) (by positivity)
    rw [hd]; push_cast; linarith
  have hs' : tick.sequence = UInt64.ofNat (n + m + 1) := by
    rw [hse, h.sequence, ← UInt64.ofNat_add]; congr 1; omega
  refine ⟨n + m + 1, ?_⟩; rw [hne]
  obtain ⟨ks, hks, hn, hbe⟩ := h.counted
  refine ⟨h.src, by simp, ?_, ?_, ?_, ?_, ?_, ?_, ?_, ks ++ [n + m], ?_, ?_, ?_⟩
  · show tick.sequence + 1 = _
    rw [hs', show (1 : UInt64) = UInt64.ofNat 1 from rfl, ← UInt64.ofNat_add]
  · show ((n + m + 1 : Nat) : Int) * _ ≤ tick.presentationTarget - startedAt
    push_cast at hw ⊢; linarith
  · simp only [List.mem_append, List.mem_singleton]
    rintro p (hp | rfl)
    · exact h.ok p hp
    · exact hok
  · simp only [List.mem_append, List.mem_singleton]
    rintro p (hp | rfl)
    · exact (h.targets p hp).trans (by omega)
    · exact le_refl _
  · simp
  · refine List.pairwise_append.2 ⟨h.increasing, List.pairwise_singleton .., fun p hp q hq => ?_⟩
    obtain rfl := List.mem_singleton.1 hq
    exact lt_of_le_of_lt ((h.targets p hp).trans hba) hr
  · refine List.isChain_append.2 ⟨h.follows, List.isChain_singleton _, fun p hp q hq => ?_⟩
    obtain rfl : (now, tick) = q := by simpa using hq
    obtain ⟨ht, hs⟩ := h.last p hp
    refine ⟨m, by rw [ht]; exact hd, ?_⟩
    show tick.sequence = _
    rw [hse, ← hs, UInt64.add_assoc, show (1 : UInt64) = UInt64.ofNat 1 from rfl, ← UInt64.ofNat_add, Nat.add_comm m]
  · refine List.rel_append hks (.cons ⟨hs', ?_⟩ .nil)
    exact hw.trans (by show _ ≤ now - startedAt; omega)
  · refine List.pairwise_append.2 ⟨hn, List.pairwise_singleton .., fun a ha b hb => ?_⟩
    obtain rfl := List.mem_singleton.1 hb; exact lt_of_lt_of_le (hbe a ha) (by omega)
  · simp only [List.mem_append, List.mem_singleton]
    rintro k (hk | rfl)
    · exact (hbe k hk).trans (by omega)
    · omega

theorem timelineInv_run (hI : phaseLockMaxAdjustment < source.interval) (startedAt : Int) (es : List TimelineEvent) :
    ∃ n, TimelineInv source startedAt (exec TimelineRun.next (.start source startedAt) es) n :=
  exec_invariant (I := fun r => ∃ n, TimelineInv source startedAt r n)
    (fun _ e ⟨n, h⟩ => match e with
      | .takeTick now => timelineInv_tick hI h now
      | .observePresentation target pa => ⟨n, timelineInv_observe h target pa⟩)
    es ⟨0, timelineInv_start source startedAt⟩

theorem countedAs_lt (hI : phaseLockMaxAdjustment < source.interval) {p q : Int × FrameTick} {j k : Nat}
    (hp : CountedAs source startedAt p j) (hq : CountedAs source startedAt q k) (hjk : j < k)
    (hla : q.1 - startedAt ≤ (2 ^ 64 - 2) * (source.interval - phaseLockMaxAdjustment)) :
    p.2.sequence < q.2.sequence := by
  have hk : (k : Int) ≤ 2 ^ 64 - 2 :=
    le_of_mul_le_mul_right (hq.2.trans hla) (by omega)
  rw [hp.1, hq.1, UInt64.lt_iff_toNat_lt, UInt64.toNat_ofNat_of_lt' (by rw [UInt64.size]; omega),
    UInt64.toNat_ofNat_of_lt' (by rw [UInt64.size]; omega)]
  omega

/-- Over every run of a timeline whose interval exceeds the correction limit: each taken tick is
current, has its target after its deadline and within the correction limit of the cadence; targets
strictly increase; each tick follows the one before, its sequence number ahead by the periods passed,
modulo 2⁶⁴, and so strictly increasing while no tick is taken later than 2⁶⁴ − 2 shortest periods
after the start; and phase errors are nearest representatives of the observed differences. -/
theorem timeline_cadence (source : TimelineSource) (startedAt : Int) (es : List TimelineEvent)
    (hI : phaseLockMaxAdjustment < source.interval) :
    let taken := (exec TimelineRun.next (.start source startedAt) es).taken
    (∀ p ∈ taken, TickOK source p.1 p.2) ∧
    taken.Pairwise (fun p q => p.2.presentationTarget < q.2.presentationTarget) ∧
    taken.IsChain (TickFollows source) ∧
    ((∀ p ∈ taken, p.1 - startedAt ≤ (2 ^ 64 - 2) * (source.interval - phaseLockMaxAdjustment)) →
      taken.Pairwise fun p q => p.2.sequence < q.2.sequence) ∧
    ∀ delta, nearestPhaseError delta source.interval ≡ delta [ZMOD source.interval] ∧
      2 * |nearestPhaseError delta source.interval| ≤ source.interval := by
  intro taken
  obtain ⟨n, h⟩ := timelineInv_run hI startedAt es
  refine ⟨h.ok, h.increasing, h.follows, fun hlat => ?_, fun delta => ?_⟩
  · obtain ⟨ks, hks, hinc, -⟩ := h.counted
    have hks' := (List.forall₂_and_left taken ks).2 ⟨hlat, hks⟩
    exact pairwise_of_forall₂ (fun _ _ _ _ hp hq hlt => countedAs_lt hI hp.2 hq.2 hlt hq.1) hks' hinc
  · have := nearestPhaseError_spec delta source.interval
    rwa [show max source.interval 1 = source.interval by omega] at this

theorem timeline_cadence_60hz :
    phaseLockMaxAdjustment < 16666666 ∧
      let taken := (exec TimelineRun.next (.start ⟨1, 16666666, false⟩ 0)
        [.takeTick 5, .observePresentation 16666666 17000000, .takeTick 40000000, .takeTick 60000000]).taken
      taken.Pairwise (fun p q => p.2.presentationTarget < q.2.presentationTarget) :=
  ⟨by decide, (timeline_cadence ⟨1, 16666666, false⟩ 0
    [.takeTick 5, .observePresentation 16666666 17000000, .takeTick 40000000, .takeTick 60000000] (by decide)).2.1⟩

/-- At a 10 ms refresh, a tick 2⁶⁴ − 2 periods after the start has the largest sequence number and its
successor has number zero: sequence numbers do not increase strictly over every run. -/
theorem timeline_sequence_wraps :
    let source : TimelineSource := ⟨1, 10000000, false⟩
    let taken := (exec TimelineRun.next (.start source 0)
      [.takeTick 0, .takeTick ((2 ^ 64 - 2) * 10000000), .takeTick ((2 ^ 64 - 1) * 10000000)]).taken
    phaseLockMaxAdjustment < source.interval ∧ taken.map (·.2.sequence) = [1, UInt64.ofNat (2 ^ 64 - 1), 0] ∧
      ¬ taken.Pairwise fun p q => p.2.sequence < q.2.sequence := by
  intro source taken
  have h : taken.map (·.2.sequence) = [1, UInt64.ofNat (2 ^ 64 - 1), 0] := by
    simp [taken, source, TimelineRun.start, TimelineRun.next, OutputTimeline.new, OutputTimeline.takeTick,
      advanceDeadline_eq, saturatingDurationSince]
  refine ⟨by decide, h, fun hp => ?_⟩; have := List.pairwise_map.2 hp
  rw [h] at this
  simp at this

end Deniald.Frame
