/-
The guard of the topology while displays sleep (dpms.rs, `DpmsTopologyGuard`), over every order of its events: which
outputs it takes for asleep or waking, which removals it defers, and that none it defers is forgotten.
-/
import Deniald.Outputs.EventLoop

namespace Deniald.Outputs

open Deniald.Lib
open Deniald.Topology (OutputId)

/-- What `defer_missing_outputs` says of a removal it defers. -/
structure DeferredDpmsTopology where
  missingOutputs : Nat
  graceUntil : Option Nat
  firstObservation : Bool

namespace DpmsTopologyGuard

/-! ## Deferring -/

/-- `defer_missing_outputs`, with all it returns. -/
def deferTopology (guard : DpmsTopologyGuard) (now : Nat) (current observed : List OutputId) :
    DpmsTopologyGuard × Option DeferredDpmsTopology :=
  let guard := guard.expireWakeGrace now
  let missing := current.toFinset \ observed.toFinset
  if missing = ∅ then ({ guard with deferredRemoval := false }, none)
  else if ¬observed.toFinset ⊆ current.toFinset ∨ ¬missing ⊆ guard.parkedOutputs ∪ guard.wakingOutputs then (cancel, none)
  else
    ({ guard with deferredRemoval := true },
      some {
        missingOutputs := missing.card
        graceUntil := if missing ∩ guard.wakingOutputs = ∅ then none else guard.wakeGraceUntil
        firstObservation := !guard.deferredRemoval })

/-- `limit_dispatch_timeout`. -/
def limitDispatchTimeout (guard : DpmsTopologyGuard) (now timeout : Nat) : Nat :=
  if !guard.deferredRemoval then timeout
  else match guard.wakeGraceUntil with
    | none => timeout
    | some deadline => min timeout (deadline - now)

/-! ## Runs -/

inductive Event where
  | poweredOff (output : OutputId)
  | wake (output : OutputId) (now : Nat)
  | observed (now : Nat) (current observed : List OutputId)
  | deadline (now : Nat)
  | cancelled

def next (guard : DpmsTopologyGuard) : Event → DpmsTopologyGuard
  | .poweredOff output => guard.notePoweredOff output
  | .wake output now => guard.noteWake output now
  | .observed now current observed => (guard.deferTopology now current observed).1
  | .deadline now => (guard.serviceDeadline now).1
  | .cancelled => cancel

def Expired (guard : DpmsTopologyGuard) (now : Nat) : Prop := ∃ deadline, guard.wakeGraceUntil = some deadline ∧ deadline ≤ now

/-- An observation whose removal is deferred. -/
def Defers (guard : DpmsTopologyGuard) : Event → Prop
  | .observed now current observed => (guard.deferTopology now current observed).2.isSome = true
  | _ => False

/-- What ends a deferral: an observation that defers nothing, the end of the grace, a cancellation. -/
def Resolves (guard : DpmsTopologyGuard) : Event → Prop
  | .observed now current observed => (guard.deferTopology now current observed).2.isSome = false
  | .deadline now => guard.Expired now
  | .cancelled => True
  | .poweredOff _ | .wake _ _ => False

/-- The removal of the last observation is deferred still. -/
def Stands (es : List Event) : Prop := Since next Defers Resolves {} es

structure Coherent (guard : DpmsTopologyGuard) : Prop where
  grace : guard.wakingOutputs ≠ ∅ ↔ guard.wakeGraceUntil ≠ none
  apart : Disjoint guard.parkedOutputs guard.wakingOutputs

theorem coherent_cancel : Coherent cancel := ⟨by simp [cancel], by simp [cancel]⟩

variable {guard : DpmsTopologyGuard} {now : Nat}

theorem any_expired : (guard.wakeGraceUntil.any (· ≤ now)) = true ↔ guard.Expired now := by
  unfold Expired
  cases guard.wakeGraceUntil <;> simp

theorem Coherent.expire (h : Coherent guard) (now : Nat) : Coherent (guard.expireWakeGrace now) := by
  unfold expireWakeGrace; split
  · exact ⟨by simp, by simp⟩
  · exact h

theorem Coherent.deferred (h : Coherent guard) (deferred : Bool) :
    Coherent { guard with deferredRemoval := deferred } := ⟨h.grace, h.apart⟩

theorem coherent_next (guard : DpmsTopologyGuard) (e : Event) (h : Coherent guard) : Coherent (guard.next e) := by
  cases e with
  | poweredOff out =>
    constructor
    · simp only [next, notePoweredOff]; split
      · rename_i he; simp [he]
      rename_i hs
      refine ⟨fun _ => h.grace.1 fun hn => hs ?_, fun _ => hs⟩
      rw [hn]; rfl
    · rw [next, notePoweredOff]
      refine Finset.disjoint_insert_left.2 ⟨Finset.notMem_erase out _, ?_⟩
      exact h.apart.mono_right (Finset.erase_subset ..)
  | wake out now =>
    constructor
    · simp [next, noteWake]
    · rw [next, noteWake]
      refine Finset.disjoint_insert_right.2 ⟨Finset.notMem_erase out _, ?_⟩
      exact h.apart.mono_left (Finset.erase_subset ..)
  | observed now current observed =>
    rw [next, deferTopology]; split
    · exact (h.expire now).deferred false
    split
    · exact coherent_cancel
    · exact (h.expire now).deferred true
  | deadline now =>
    rw [next, serviceDeadline]; split
    · exact ⟨by simp, by simp⟩
    · exact h
  | cancelled => exact coherent_cancel

theorem deferredRemoval_next (guard : DpmsTopologyGuard) (e : Event) :
    (guard.next e).deferredRemoval = true ↔ guard.Defers e ∨ guard.deferredRemoval = true ∧ ¬guard.Resolves e := by
  cases e with
  | poweredOff out => simp [next, notePoweredOff, Defers, Resolves]
  | wake out now => simp [next, noteWake, Defers, Resolves]
  | observed now current observed =>
    unfold next Defers Resolves deferTopology; dsimp only
    split
    · simp
    split
    · simp [cancel]
    · simp
  | deadline now =>
    rw [next, serviceDeadline]; split
    · rename_i he
      simp [Defers, Resolves, any_expired.1 he]
    rename_i he
    have hu : ¬guard.Expired now := fun h => he (any_expired.2 h)
    simp [Defers, Resolves, hu]
  | cancelled => simp [next, cancel, Defers, Resolves]

theorem stands_iff (es : List Event) : (exec next {} es).deferredRemoval = true ↔ Stands es := by
  induction es using List.reverseRecOn with
  | nil => exact ⟨fun h => (by cases h), fun h => absurd h since_nil⟩
  | append_singleton es e ih =>
    unfold Stands at ih ⊢
    rw [exec_snoc, deferredRemoval_next, ih, since_snoc]

/-! ## What is deferred -/

theorem deferTopology_some {current ob : List OutputId} {deferred : DeferredDpmsTopology}
    (h : (guard.deferTopology now current ob).2 = some deferred) :
    (∃ out ∈ current, out ∉ ob) ∧ (∀ out ∈ ob, out ∈ current) ∧
      ∀ out ∈ current, out ∉ ob → out ∈ (guard.expireWakeGrace now).parkedOutputs ∨
        out ∈ (guard.expireWakeGrace now).wakingOutputs := by
  unfold deferTopology at h; dsimp only at h
  split at h
  · cases h
  rename_i hm; split at h
  · cases h
  · rename_i hac; rw [not_or, not_not, not_not] at hac
    obtain ⟨out, hou⟩ := Finset.nonempty_iff_ne_empty.2 hm
    rw [Finset.mem_sdiff, List.mem_toFinset, List.mem_toFinset] at hou
    refine ⟨⟨out, hou⟩, fun o ho => ?_, fun o ho hu => ?_⟩
    · exact List.mem_toFinset.1 (hac.1 (List.mem_toFinset.2 ho))
    · refine Finset.mem_union.1 (hac.2 (Finset.mem_sdiff.2 ⟨List.mem_toFinset.2 ho, ?_⟩))
      rwa [List.mem_toFinset]

theorem expired_waking (h : guard.Expired now) : (guard.expireWakeGrace now).wakingOutputs = ∅ := by
  unfold expireWakeGrace; rw [if_pos (any_expired.2 h)]

theorem serviceDeadline_raises :
    (guard.serviceDeadline now).2 = true ↔ guard.Expired now ∧ guard.deferredRemoval = true := by
  unfold serviceDeadline; split
  · rename_i he
    exact ⟨fun h => ⟨any_expired.1 he, h⟩, fun h => h.2⟩
  · rename_i he
    exact ⟨fun h => (by cases h), fun h => absurd (any_expired.2 h.1) he⟩

/-- For every sequence of events: outputs wake exactly while a grace is set, and none of them is parked too; a removal
is deferred only when outputs are missing, none is new, and each missing one is parked or waking; and a removal whose
deferral still stands when the grace is over is raised by its deadline, which no wait of the loop passes, or decided by
an observation, which defers it again only for parked outputs. -/
theorem dpms_guard_defers_and_raises (es : List Event) :
    let guard := exec next {} es
    (guard.wakingOutputs ≠ ∅ ↔ guard.wakeGraceUntil ≠ none) ∧
      Disjoint guard.parkedOutputs guard.wakingOutputs ∧
      (∀ now current observed deferred, (guard.deferTopology now current observed).2 = some deferred →
        (∃ output ∈ current, output ∉ observed) ∧ (∀ output ∈ observed, output ∈ current) ∧
          ∀ output ∈ current, output ∉ observed → output ∈ (guard.expireWakeGrace now).parkedOutputs ∨
            output ∈ (guard.expireWakeGrace now).wakingOutputs) ∧
      (∀ now, (guard.serviceDeadline now).2 = true ↔ guard.Expired now ∧ Stands es) ∧
      (∀ now deadline timeout, guard.wakeGraceUntil = some deadline → Stands es →
        guard.limitDispatchTimeout now timeout ≤ deadline - now) ∧
      ∀ now current observed deferred, guard.Expired now →
        (guard.deferTopology now current observed).2 = some deferred →
          ∀ output ∈ current, output ∉ observed → output ∈ guard.parkedOutputs := by
  intro guard
  have hcoh : Coherent guard := exec_invariant coherent_next es coherent_cancel
  refine ⟨hcoh.grace, hcoh.apart, fun now current observed deferred => deferTopology_some, fun now => ?_,
    fun now deadline timeout hdead hstan => ?_, fun now current observed deferred hexp hdef output hcur
    hmis => ?_⟩
  · rw [serviceDeadline_raises, ← stands_iff]
  · rw [limitDispatchTimeout, (stands_iff es).2 hstan, hdead]; exact Nat.min_le_right ..
  · have hasl := (deferTopology_some hdef).2.2 output hcur hmis
    rw [expired_waking hexp] at hasl
    have hpar := hasl.resolve_right (Finset.notMem_empty _); unfold expireWakeGrace at hpar
    rwa [if_pos (any_expired.2 hexp)] at hpar

end DpmsTopologyGuard

end Deniald.Outputs
