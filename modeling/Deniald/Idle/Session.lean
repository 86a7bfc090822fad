/-
Sessions of the inactivity policy: configurations, activity, evaluations, inhibitors, topologies and power requests
in any order, and what one evaluation does timeout by timeout. The timeouts of an idle interval run out in order.
-/
import Deniald.Idle.Policy
import Deniald.Lib.Run

namespace Deniald.Idle

open Deniald.Lib
open Deniald.Topology (OutputId)

/-! ## Blanked outputs -/

theorem mem_blank {o : OutputId} : ∀ {outputs : List (OutputId × Bool)} {b : Finset OutputId},
    o ∈ (blank b outputs).1 ↔ o ∈ b ∨ (o, true) ∈ outputs
  | [], _ => by simp [blank]
  | (output, powered) :: outputs, b => by
    unfold blank; split
    · rename_i h
      obtain ⟨rfl, -⟩ := h
      rw [mem_blank, Finset.mem_insert, List.mem_cons, Prod.mk.injEq]
      tauto
    rename_i h; rw [mem_blank, List.mem_cons, Prod.mk.injEq]
    refine ⟨fun hmem => hmem.imp_right .inr, ?_⟩
    rintro (hmem | ⟨rfl, rfl⟩ | hmem)
    · exact .inl hmem
    · exact .inl (by_contra fun hn => h ⟨rfl, hn⟩)
    · exact .inr hmem

theorem mem_blank_requests {r : IdlePowerRequest} : ∀ {outputs : List (OutputId × Bool)} {b : Finset OutputId},
    r ∈ (blank b outputs).2 ↔ r.powered = false ∧ r.output ∉ b ∧ (r.output, true) ∈ outputs
  | [], _ => by simp [blank]
  | (output, powered) :: outputs, b => by
    unfold blank; split
    · rename_i h
      obtain ⟨rfl, hou⟩ := h
      obtain ⟨o, on⟩ := r
      simp only [List.mem_cons, mem_blank_requests, Finset.mem_insert, Prod.mk.injEq, IdlePowerRequest.mk.injEq]
      constructor
      · rintro (⟨rfl, rfl⟩ | ⟨ho, hn, hmem⟩)
        · exact ⟨rfl, hou, .inl ⟨rfl, trivial⟩⟩
        · exact ⟨ho, fun h => hn (.inr h), .inr hmem⟩
      · rintro ⟨ho, hn, ⟨rfl, -⟩ | hmem⟩
        · exact .inl ⟨rfl, ho⟩
        · by_cases heq : o = output
          · exact .inl ⟨heq, ho⟩
          · exact .inr ⟨ho, fun h => h.elim heq hn, hmem⟩
    · rename_i h
      rw [mem_blank_requests, List.mem_cons, Prod.mk.injEq]
      refine and_congr_right fun _ => ⟨fun hmem => ⟨hmem.1, .inr hmem.2⟩, ?_⟩
      rintro ⟨hn, ⟨rfl, rfl⟩ | hmem⟩
      · exact absurd ⟨rfl, hn⟩ h
      · exact ⟨hn, hmem⟩

theorem blank_requests_isEmpty {outputs : List (OutputId × Bool)} {blanked : Finset OutputId} :
    (blank blanked outputs).2.isEmpty = true ↔ ∀ o, (o, true) ∈ outputs → o ∈ blanked := by
  rw [List.isEmpty_iff, List.eq_nil_iff_forall_not_mem]
  constructor
  · exact fun h o hmem => by_contra fun hn => h ⟨o, false⟩ (mem_blank_requests.2 ⟨rfl, hn, hmem⟩)
  · intro h r hr
    obtain ⟨-, hn, hmem⟩ := mem_blank_requests.1 hr; exact hn (h _ hmem)

/-! ## Sessions -/

inductive IdleEvent where
  /-- A configuration packet of Flutter. -/
  | configure (packet : List UInt8) (now : Int)
  | noteActivity (now : Int)
  | evaluate (now : Int) (inhibited : Bool) (outputs : List (OutputId × Bool))
  | noteExternalPowerRequest (output : OutputId) (powered : Bool)
  | notePowerFailure (output : OutputId) (now : Int)
  | blankNow (outputs : List (OutputId × Bool))
  | toggleNow (outputs : List (OutputId × Bool)) (now : Int)

namespace IdlePolicy

def apply (p : IdlePolicy) : IdleEvent → IdlePolicy × IdlePolicyActions
  | .configure packet now =>
    match decodeConfiguration packet with
    | .error _ => (p, {})
    | .ok configuration =>
      let (p, requests) := p.configure configuration now
      (p, { powerRequests := requests })
  | .noteActivity now =>
    let (p, requests) := p.noteActivity now
    (p, { powerRequests := requests })
  | .evaluate now inhibited outputs => p.evaluate now inhibited outputs
  | .noteExternalPowerRequest output powered => (p.noteExternalPowerRequest output powered, {})
  | .notePowerFailure output now => (p.notePowerFailure output now, {})
  | .blankNow outputs =>
    let (p, requests) := p.blankNow outputs
    (p, { powerRequests := requests })
  | .toggleNow outputs now => p.toggleNow outputs now

def next (p : IdlePolicy) (e : IdleEvent) : IdlePolicy := (p.apply e).1

def BeginsInterval (p : IdlePolicy) : IdleEvent → Prop
  | .configure packet _ => ∃ c, decodeConfiguration packet = .ok c ∧ p.configuration ≠ c
  | .noteActivity _ => True
  | .evaluate _ inhibited _ => p.inhibited ≠ inhibited
  | .toggleNow _ _ => True
  | _ => False

def RequestsLock (p : IdlePolicy) (e : IdleEvent) : Prop := (p.apply e).2.lock = true

/-- The display timeout blanks an output. -/
def TimesOut (o : OutputId) (p : IdlePolicy) : IdleEvent → Prop
  | .evaluate now inhibited outputs => ⟨o, false⟩ ∈ (p.evaluate now inhibited outputs).2.powerRequests
  | _ => False

/-- The policy has nothing to do with an output's power any more: the output is woken, another client chose its
power, its transition failed, or it left the topology. -/
def Releases (o : OutputId) (p : IdlePolicy) (e : IdleEvent) : Prop :=
  ⟨o, true⟩ ∈ (p.apply e).2.powerRequests ∨
    match e with
    | .noteExternalPowerRequest output _ => output = o
    | .notePowerFailure output _ => output = o
    | .evaluate _ inhibited outputs => inhibited = false ∧ o ∉ outputs.map (·.1)
    | .toggleNow outputs _ => outputs.any (·.2) = false ∧ o ∉ outputs.map (·.1)
    | _ => False

/-- Outputs blanked by the timeout and outputs blanked by hand are kept apart: the timeout finds no output to blank
while the manual flag is set, and a manual blank none while outputs blanked by the timeout are recorded. -/
def Separate (p : IdlePolicy) : IdleEvent → Prop
  | .evaluate now inhibited outputs =>
    inhibited = false → p.inhibited = false → p.manuallyBlanked = true → p.dpmsTriggered = false →
      Elapsed p.configuration.dpmsTimeout (saturatingDurationSince now p.lastActivity) →
        ∀ o, (o, true) ∈ outputs → o ∈ p.blankedOutputs
  | .blankNow outputs | .toggleNow outputs _ =>
    p.manuallyBlanked = false → p.blankedOutputs.Nonempty → ∀ o, (o, true) ∈ outputs → o ∈ p.blankedOutputs
  | _ => True

/-- After a run, an inhibitor that becomes active wakes every output the timeout blanked. -/
def Restores (now : Int) (es : List IdleEvent) : Prop :=
  let p := exec next (start now) es
  ∀ o, Since next (TimesOut o) (Releases o) (start now) es → p.inhibited = false → ∀ now outputs,
    ⟨o, true⟩ ∈ (p.evaluate now true outputs).2.powerRequests

/-! ## The parts of an evaluation -/

variable {p : IdlePolicy} {now : Int} {outputs : List (OutputId × Bool)} {o : OutputId}

theorem inhibit_eq (p : IdlePolicy) (now : Int) (inhibited : Bool) :
    (p.inhibit now inhibited).blankedOutputs = p.blankedOutputs ∧
      (p.inhibit now inhibited).manuallyBlanked = p.manuallyBlanked ∧
      (p.inhibit now inhibited).configuration = p.configuration ∧ (p.inhibit now inhibited).inhibited = inhibited := by
  unfold inhibit; split
  · rename_i h; exact ⟨rfl, rfl, rfl, h⟩
  · exact ⟨rfl, rfl, rfl, rfl⟩

theorem inhibit_interval (p : IdlePolicy) (now : Int) (i : Bool) : (p.inhibited = i ∧ p.inhibit now i = p) ∨
      (p.inhibited ≠ i ∧ (p.inhibit now i).lastActivity = now ∧ (p.inhibit now i).lockTriggered = false) := by
  unfold inhibit; split
  · rename_i h; exact .inl ⟨h, rfl⟩
  · rename_i h; exact .inr ⟨h, rfl, rfl⟩

theorem evaluate_inhibited (p : IdlePolicy) (now : Int) (outputs : List (OutputId × Bool)) :
    p.evaluate now true outputs = if p.manuallyBlanked = true then (p.inhibit now true, {})
      else ((p.inhibit now true).wakeBlankedOutputs.1,
        { powerRequests := (p.inhibit now true).wakeBlankedOutputs.2 }) := by
  unfold evaluate
  simp [(inhibit_eq p now true).2.1]

theorem mem_wake : (⟨o, true⟩ : IdlePowerRequest) ∈ p.wakeBlankedOutputs.2 ↔ o ∈ p.blankedOutputs := by
  simp [wakeBlankedOutputs]

/-- Whether the display timeout runs out at an evaluation. -/
def DpmsDue (p : IdlePolicy) (now : Int) : Prop :=
  p.dpmsTriggered = false ∧ Elapsed p.configuration.dpmsTimeout (saturatingDurationSince now p.lastActivity)

instance : Decidable (p.DpmsDue now) := inferInstanceAs (Decidable (_ ∧ _))

/-- The policy an evaluation without an inhibitor starts its timeouts from. -/
def settled (p : IdlePolicy) (now : Int) (outputs : List (OutputId × Bool)) : IdlePolicy :=
  (p.inhibit now false).retainLive outputs

theorem evaluateLock_eq (p : IdlePolicy) (e : Nat) :
    (p.evaluateLock e).1 = { p with lockTriggered := p.lockTriggered || (p.evaluateLock e).2 } ∧
      ((p.evaluateLock e).2 = true ↔ p.lockTriggered = false ∧ Elapsed p.configuration.lockTimeout e) := by
  unfold evaluateLock; split
  · rename_i h; exact ⟨by simp, by simp [h]⟩
  · rename_i h; exact ⟨by simp, by simpa using h⟩

theorem evaluateDpms_eq (p : IdlePolicy) (outputs : List (OutputId × Bool)) (e : Nat) :
    (p.evaluateDpms e outputs).1 =
      { p with
        dpmsTriggered := (p.evaluateDpms e outputs).1.dpmsTriggered
        blankedOutputs := (p.evaluateDpms e outputs).1.blankedOutputs } := by
  unfold evaluateDpms
  split <;> rfl

theorem evaluateSuspend_eq (p : IdlePolicy) (e : Nat) (requests : List IdlePowerRequest) :
    (p.evaluateSuspend e requests).1 =
        { p with suspendTriggered := p.suspendTriggered || (p.evaluateSuspend e requests).2 } ∧
      ((p.evaluateSuspend e requests).2 = true ↔
        requests.isEmpty ∧ p.suspendTriggered = false ∧ Elapsed p.configuration.suspendTimeout e) := by
  unfold evaluateSuspend; split
  · rename_i h; exact ⟨by simp, by simpa using h⟩
  · rename_i h; exact ⟨by simp, by simpa using h⟩

/-- What an evaluation without an inhibitor does, timeout by timeout. -/
theorem evaluate_spec (p : IdlePolicy) (now : Int) (outputs : List (OutputId × Bool)) : let q := p.settled now outputs
    let e := saturatingDurationSince now q.lastActivity
    let result := p.evaluate now false outputs
    result.1.configuration = q.configuration ∧ result.1.manuallyBlanked = q.manuallyBlanked ∧
      result.1.inhibited = false ∧
      (result.2.lock = true ↔ q.lockTriggered = false ∧ Elapsed q.configuration.lockTimeout e) ∧
      (result.1.lockTriggered = (q.lockTriggered || result.2.lock)) ∧
      (result.2.suspend = true → result.2.powerRequests = [] ∧ Elapsed q.configuration.suspendTimeout e) ∧
      (result.1.blankedOutputs, result.2.powerRequests) =
        if q.DpmsDue now then blank q.blankedOutputs outputs else (q.blankedOutputs, []) := by
  intro q e result
  obtain ⟨hq₁, hlo⟩ := evaluateLock_eq q e
  have hq₂ := evaluateDpms_eq (q.evaluateLock e).1 outputs e
  obtain ⟨hq₃, hs⟩ := evaluateSuspend_eq ((q.evaluateLock e).1.evaluateDpms e outputs).1 e
    ((q.evaluateLock e).1.evaluateDpms e outputs).2
  have hh : q.inhibited = false := (inhibit_eq p now false).2.2.2
  -- each timeout changes its own flag only, and the display timeout the record of blanked outputs
  have hk : ∀ {β : Type} (f : IdlePolicy → β), (∀ r b, f { r with lockTriggered := b } = f r) →
      (∀ r b bl, f { r with dpmsTriggered := b, blankedOutputs := bl } = f r) →
      (∀ r b, f { r with suspendTriggered := b } = f r) → f result.1 = f q := by
    intro β f h₁ h₂ h₃
    exact (congrArg f hq₃).trans ((h₃ ..).trans ((congrArg f hq₂).trans ((h₂ ..).trans ((congrArg f hq₁).trans (h₁ ..)))))
  refine ⟨hk (·.configuration) (fun _ _ => rfl) (fun _ _ _ => rfl) fun _ _ => rfl,
    hk (·.manuallyBlanked) (fun _ _ => rfl) (fun _ _ _ => rfl) fun _ _ => rfl,
    (hk (·.inhibited) (fun _ _ => rfl) (fun _ _ _ => rfl) fun _ _ => rfl).trans hh, hlo, ?_, ?_, ?_⟩
  · exact (congrArg (·.lockTriggered) hq₃).trans ((congrArg (·.lockTriggered) hq₂).trans
      (congrArg (·.lockTriggered) hq₁))
  · intro h
    obtain ⟨hm, -, he⟩ := hs.1 h
    have hco : ((q.evaluateLock e).1.evaluateDpms e outputs).1.configuration = q.configuration :=
      (congrArg (·.configuration) hq₂).trans (congrArg (·.configuration) hq₁)
    rw [hco] at he; exact ⟨List.isEmpty_iff.1 hm, he⟩
  · have hn : (result.1.blankedOutputs, result.2.powerRequests) =
        (((q.evaluateLock e).1.evaluateDpms e outputs).1.blankedOutputs,
          ((q.evaluateLock e).1.evaluateDpms e outputs).2) :=
      Prod.ext (congrArg (·.blankedOutputs) hq₃) rfl
    rw [hn, hq₁]
    show _ = if q.dpmsTriggered = false ∧ Elapsed q.configuration.dpmsTimeout e then
      blank q.blankedOutputs outputs else (q.blankedOutputs, [])
    unfold evaluateDpms; dsimp only
    split_ifs <;> rfl

/-! ## Timeouts in order -/

structure InOrder (now : Int) (es : List IdleEvent) (p : IdlePolicy) : Prop where
  configured : p.configuration.Ordered
  locked : p.lockTriggered = true → Since next RequestsLock BeginsInterval (start now) es

theorem inOrder_start (now : Int) : InOrder now [] (start now) := ⟨ordered_default, fun h => nomatch h⟩

theorem settled_blanked {outputs : List (OutputId × Bool)} :
    o ∈ (p.settled now outputs).blankedOutputs ↔ o ∈ p.blankedOutputs ∧ o ∈ outputs.map (·.1) := by
  unfold settled retainLive
  rw [Finset.mem_filter, (inhibit_eq p now false).1]

theorem locked_settled {t₀ : Int} {es : List IdleEvent} (h : InOrder t₀ es p)
    (hlo : (p.settled now outputs).lockTriggered = true) :
    Since next RequestsLock BeginsInterval (start t₀) es ∧ ¬BeginsInterval p (.evaluate now false outputs) := by
  rcases inhibit_interval p now false with ⟨hs, heq⟩ | ⟨-, -, hf⟩
  · unfold settled at hlo
    rw [heq] at hlo; exact ⟨h.locked hlo, fun hne => hne hs⟩
  · exact absurd hlo (by rw [show (p.settled now outputs).lockTriggered = false from hf]; decide)

theorem configure_eq (p : IdlePolicy) (now : Int) (c : IdlePolicyConfiguration) :
    (p.configure c now).1.configuration = c ∧ (p.configuration ≠ c → (p.configure c now).1.lockTriggered = false) ∧
      (p.configuration = c → p.configure c now = (p, [])) := by
  unfold configure; split
  · rename_i h; exact ⟨h, fun hne => absurd h hne, fun _ => rfl⟩
  rename_i h
  refine ⟨?_, fun _ => ?_, fun heq => absurd heq h⟩
  · dsimp only
    split <;> rfl
  · dsimp only
    split <;> rfl

theorem apply_configure_error {pc : List UInt8} {error : IdlePolicyPacketError}
    (h : decodeConfiguration pc = .error error) : p.apply (.configure pc now) = (p, {}) := by
  simp [apply, h]

theorem apply_configure_ok {pc : List UInt8} {c : IdlePolicyConfiguration} (h : decodeConfiguration pc = .ok c) :
    p.apply (.configure pc now) = ((p.configure c now).1, { powerRequests := (p.configure c now).2 }) := by
  simp [apply, h]

theorem inOrder_next {t₀ : Int} (es : List IdleEvent) (e : IdleEvent) (h : InOrder t₀ es (exec next (start t₀) es)) :
    InOrder t₀ (es ++ [e]) (next (exec next (start t₀) es) e) := by
  set p := exec next (start t₀) es with hp
  -- a lock kept from before was requested before, unless the step begins an interval
  have hk : (next p e).lockTriggered = true → p.lockTriggered = true → ¬BeginsInterval p e →
      Since next RequestsLock BeginsInterval (start t₀) (es ++ [e]) := fun _ hlo hbe =>
    since_snoc.2 (.inr ⟨h.locked hlo, hbe⟩)
  cases e with
  | configure packet now =>
    cases hd : decodeConfiguration packet with
    | error error =>
      have hnx : next p (.configure packet now) = p := congrArg Prod.fst (apply_configure_error hd)
      have hbe : ¬BeginsInterval p (.configure packet now) := fun ⟨c, hc, _⟩ => by rw [hd] at hc; cases hc
      rw [hnx] at hk ⊢
      exact ⟨h.configured, fun hlo => hk hlo hlo hbe⟩
    | ok c =>
      have hnx : next p (.configure packet now) = (p.configure c now).1 := congrArg Prod.fst (apply_configure_ok hd)
      obtain ⟨hc, hf, hs⟩ := configure_eq p now c
      rw [hnx] at hk ⊢
      refine ⟨by rw [hc]; exact decodeConfiguration_ordered hd, fun hlo => ?_⟩
      by_cases heq : p.configuration = c
      · have hbe : ¬BeginsInterval p (.configure packet now) := by
          rintro ⟨c', hc', hne⟩; rw [hd] at hc'
          cases hc'; exact hne heq
        refine hk hlo ?_ hbe
        rw [hs heq] at hlo; exact hlo
      · rw [hf heq] at hlo; cases hlo
  | noteActivity now => exact ⟨h.configured, fun hlo => nomatch hlo⟩
  | evaluate now i outputs =>
    cases i with
    | true =>
      have hn : (next p (.evaluate now true outputs)).configuration = p.configuration ∧
          (next p (.evaluate now true outputs)).lockTriggered = (p.inhibit now true).lockTriggered := by
        show (p.evaluate now true outputs).1.configuration = _ ∧ (p.evaluate now true outputs).1.lockTriggered = _
        rw [evaluate_inhibited]
        split <;> exact ⟨(inhibit_eq p now true).2.2.1, rfl⟩
      refine ⟨by rw [hn.1]; exact h.configured, fun hlo => ?_⟩
      rcases inhibit_interval p now true with ⟨hs, heq⟩ | ⟨-, -, hf⟩
      · refine hk hlo ?_ fun hne => hne hs
        rw [hn.2, heq] at hlo; exact hlo
      · rw [hn.2, hf] at hlo; cases hlo
    | false =>
      obtain ⟨hn, -, -, -, hlo, -, -⟩ := evaluate_spec p now outputs
      refine ⟨?_, fun haf => ?_⟩
      · show (p.evaluate now false outputs).1.configuration.Ordered; rw [hn]
        show (p.inhibit now false).configuration.Ordered
        rw [(inhibit_eq p now false).2.2.1]; exact h.configured
      · have haf : (p.evaluate now false outputs).1.lockTriggered = true := haf
        rw [hlo, Bool.or_eq_true] at haf
        rcases haf with hbf | hw
        · obtain ⟨hsi, hbe⟩ := locked_settled h hbf; exact since_snoc.2 (.inr ⟨hsi, hbe⟩)
        · exact since_snoc.2 (.inl hw)
  | noteExternalPowerRequest out powered => exact ⟨h.configured, fun hlo => hk hlo hlo id⟩
  | notePowerFailure out now => exact ⟨h.configured, fun hlo => hk hlo hlo id⟩
  | blankNow outputs => exact ⟨h.configured, fun hlo => hk hlo hlo id⟩
  | toggleNow outputs now =>
    have hf : (next p (.toggleNow outputs now)).configuration = p.configuration ∧
        (next p (.toggleNow outputs now)).lockTriggered = false := by
      show (p.toggleNow outputs now).1.configuration = _ ∧ (p.toggleNow outputs now).1.lockTriggered = false
      unfold toggleNow; dsimp only
      split <;> exact ⟨rfl, rfl⟩
    refine ⟨by rw [hf.1]; exact h.configured, fun hlo => ?_⟩
    rw [hf.2] at hlo; cases hlo

end IdlePolicy

end Deniald.Idle
