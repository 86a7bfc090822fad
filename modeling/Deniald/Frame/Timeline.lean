/-
One output's tick timeline (frame_scheduler.rs, `OutputTimeline`): ticks are taken when due, missed
periods are skipped by division, and presentation feedback shifts the next tick by a bounded phase
correction.
-/
import Deniald.Lib.Run
import Deniald.Lib.Number
import Deniald.Lib.Time
import Deniald.Topology.Output
import Mathlib.Data.Int.ModEq

namespace Deniald.Frame

open Deniald.Lib
open Deniald.Topology (OutputId)

/-! ## Model -/

/-- `PHASE_LOCK_DEADBAND`, 50 µs. -/
def phaseLockDeadband : Nat := 50000
/-- `PHASE_LOCK_MAX_ADJUSTMENT`, 250 µs. -/
def phaseLockMaxAdjustment : Nat := 250000
/-- `PHASE_LOCK_GAIN_DIVISOR`. -/
def phaseLockGainDivisor : Int := 8

structure FrameTick where
  output : OutputId
  sequence : UInt64
  interval : Nat
  renderDeadline : Int
  presentationTarget : Int

/-- The last field is a ghost, which no function reads: the number of the mark whose serial it carries. -/
structure OutputFrameRequest where
  tick : FrameTick
  dirtySerial : UInt64
  mark : Nat

structure TimelineSource where
  output : OutputId
  interval : Nat
  vrrEnabled : Bool
  deriving DecidableEq

structure OutputTimeline where
  source : TimelineSource
  nextTick : Int
  nextSequence : UInt64
  pendingPhaseAdjustmentNanos : Int

/-- The nearest representative of `deltaNanos` modulo the period: Rust's `%` truncates. -/
def nearestPhaseError (deltaNanos : Int) (interval : Nat) : Int :=
  let period : Int := (max interval 1 : Nat)
  let error := deltaNanos.tmod period
  let halfPeriod := period / 2
  if error > halfPeriod then error - period
  else if error < -halfPeriod then error + period
  else error

/-- The loop of `advance_deadline`: `Duration * u32` bounds one step, so long gaps take several. -/
def advanceDeadlineLoop : Nat → Int → Nat → Nat → Int
  | 0, deadline, _, _ => deadline
  | fuel + 1, deadline, interval, periods =>
    if 0 < periods then
      let chunk := min periods (2 ^ 32 - 1)
      advanceDeadlineLoop fuel (deadline + (interval * chunk : Nat)) interval (periods - chunk)
    else deadline

/-- Each iteration takes at least one period, so `periods` iterations suffice. -/
def advanceDeadline (deadline : Int) (interval : Nat) (periods : Nat) : Int :=
  advanceDeadlineLoop periods deadline interval periods

namespace OutputTimeline

def new (source : TimelineSource) (now : Int) : OutputTimeline where
  source := source
  nextTick := now
  nextSequence := 1
  pendingPhaseAdjustmentNanos := 0

def observePresentation (t : OutputTimeline) (presentationTarget presentedAt : Int) : OutputTimeline :=
  let phaseError := nearestPhaseError (presentedAt - presentationTarget) t.source.interval
  if phaseError.natAbs ≤ phaseLockDeadband then t
  else
    let limit : Int := phaseLockMaxAdjustment
    let correction := clamp (phaseError.tdiv phaseLockGainDivisor) (-limit) limit
    { t with pendingPhaseAdjustmentNanos := clamp (t.pendingPhaseAdjustmentNanos + correction) (-limit) limit }

def takeTick (t : OutputTimeline) (now : Int) : OutputTimeline × Option FrameTick :=
  if now < t.nextTick then (t, none)
  else
    let intervalNanos := max t.source.interval 1
    let missedPeriods := saturatingDurationSince now t.nextTick / intervalNanos
    let renderDeadline := advanceDeadline t.nextTick t.source.interval missedPeriods
    -- `missed_periods as u64` keeps the low 64 bits
    let sequence := t.nextSequence + UInt64.ofNat missedPeriods
    let nextTick := renderDeadline + t.source.interval + t.pendingPhaseAdjustmentNanos
    ({ t with nextTick := nextTick, nextSequence := sequence + 1, pendingPhaseAdjustmentNanos := 0 },
      some { output := t.source.output
             sequence := sequence
             interval := saturatingDurationSince nextTick renderDeadline
             renderDeadline := renderDeadline
             presentationTarget := nextTick })

end OutputTimeline

/-! ## One step -/

theorem advanceDeadlineLoop_eq : ∀ (fuel : Nat) (deadline : Int) (interval periods : Nat), periods ≤ fuel →
    advanceDeadlineLoop fuel deadline interval periods = deadline + interval * periods
  | 0, deadline, interval, periods, h => by
    obtain rfl : periods = 0 := by omega
    simp [advanceDeadlineLoop]
  | fuel + 1, deadline, interval, periods, h => by
    unfold advanceDeadlineLoop; split
    · rename_i hp
      rw [advanceDeadlineLoop_eq fuel _ _ _ (by omega)]
      generalize hc : min periods (2 ^ 32 - 1) = chunk
      have hle : chunk ≤ periods := by omega
      push_cast [Nat.cast_sub hle]; ring
    · obtain rfl : periods = 0 := by omega
      simp

theorem advanceDeadline_eq (d : Int) (ivl periods : Nat) : advanceDeadline d ivl periods = d + ivl * periods :=
  advanceDeadlineLoop_eq periods d ivl periods (le_refl _)

/-- The nearest phase error is a representative of the observed difference modulo the period, within
half a period of zero. -/
theorem nearestPhaseError_spec (d : Int) (ivl : Nat) : nearestPhaseError d ivl ≡ d [ZMOD (max ivl 1 : Nat)] ∧
      2 * |nearestPhaseError d ivl| ≤ (max ivl 1 : Nat) := by
  have hpos : 0 < ((max ivl 1 : Nat) : Int) := by omega
  generalize hp : ((max ivl 1 : Nat) : Int) = period at hpos
  have hm : d.tmod period ≡ d [ZMOD period] := by
    refine (Int.modEq_iff_dvd).2 ⟨d.tdiv period, ?_⟩; have := Int.mul_tdiv_add_tmod d period
    omega
  have hlt : d.tmod period < period := Int.tmod_lt_of_pos _ hpos
  have hgt : -period < d.tmod period := Int.lt_tmod_of_pos _ hpos
  unfold nearestPhaseError
  simp only [hp]; split
  · exact ⟨(Int.sub_emod_right ..).trans hm, by rw [abs_of_nonpos (by omega)]; omega⟩
  split
  · exact ⟨(Int.add_emod_right ..).trans hm, by rw [abs_of_nonneg (by omega)]; omega⟩
  · refine ⟨hm, ?_⟩
    rcases abs_cases (d.tmod period) with ⟨h, -⟩ | ⟨h, -⟩ <;> omega

end Deniald.Frame
