/-
Which outputs the inactivity policy wakes. The record of blanked outputs holds those the display timeout blanked and
those blanked by hand, and one flag says that an inhibitor wakes none of them: it wakes the former as long as the two
are kept apart, and no longer.
-/
import Deniald.Idle.Session

namespace Deniald.Idle

open Deniald.Lib
open Deniald.Topology (OutputId)

namespace IdlePolicy

variable {p : IdlePolicy} {now : Int} {outputs : List (OutputId × Bool)} {o : OutputId}

/-! ## The record of blanked outputs -/

/-- An output blanked by the power button or by an explicit request. -/
def BlanksByHand (o : OutputId) (p : IdlePolicy) : IdleEvent → Prop
  | .blankNow outputs | .toggleNow outputs _ => o ∉ p.blankedOutputs ∧ (o, true) ∈ outputs
  | _ => False

theorem mem_configure (p : IdlePolicy) (now : Int) (o : OutputId) (c : IdlePolicyConfiguration) :
    (o ∈ (p.configure c now).1.blankedOutputs ↔
        o ∈ p.blankedOutputs ∧ (⟨o, true⟩ : IdlePowerRequest) ∉ (p.configure c now).2) ∧
      ((p.configure c now).1.manuallyBlanked = p.manuallyBlanked ∨
        (p.configure c now).1.manuallyBlanked = false ∧ (p.configure c now).1.blankedOutputs = ∅) ∧
      (p.configure c now).1.inhibited = p.inhibited := by
  unfold configure; split
  · exact ⟨by simp, .inl rfl, rfl⟩
  dsimp only; split
  · rw [mem_wake]
    exact ⟨by simp [wakeBlankedOutputs, resetIdleInterval], .inr ⟨rfl, rfl⟩, rfl⟩
  · exact ⟨by simp [resetIdleInterval], .inl rfl, rfl⟩

theorem evaluate_blanked (p : IdlePolicy) (now : Int) (outputs : List (OutputId × Bool)) :
    let result := p.evaluate now false outputs
    (o ∈ result.1.blankedOutputs ↔ o ∈ p.blankedOutputs ∧ o ∈ outputs.map (·.1) ∨
        (⟨o, false⟩ : IdlePowerRequest) ∈ result.2.powerRequests) ∧
      (∀ r ∈ result.2.powerRequests, r.powered = false) ∧
      ((⟨o, false⟩ : IdlePowerRequest) ∈ result.2.powerRequests ↔
        (p.settled now outputs).DpmsDue now ∧ o ∉ p.blankedOutputs ∧ (o, true) ∈ outputs) := by
  intro result
  obtain ⟨-, -, -, -, -, -, hn⟩ := evaluate_spec p now outputs
  have hv : (o, true) ∈ outputs → o ∈ outputs.map (·.1) := fun h => List.mem_map.2 ⟨_, h, rfl⟩
  split at hn
  · rename_i hd
    obtain ⟨hrec, hs⟩ := Prod.mk.inj (hn.trans (Prod.mk.eta ..).symm)
    have hre : (⟨o, false⟩ : IdlePowerRequest) ∈ result.2.powerRequests ↔
        o ∉ p.blankedOutputs ∧ (o, true) ∈ outputs := by
      rw [hs, mem_blank_requests, settled_blanked]
      exact ⟨fun ⟨_, hno, hmem⟩ => ⟨fun h => hno ⟨h, hv hmem⟩, hmem⟩,
        fun ⟨hno, hmem⟩ => ⟨rfl, fun h => hno h.1, hmem⟩⟩
    refine ⟨?_, fun r hr => ?_, ?_⟩
    · rw [hre, hrec, mem_blank, settled_blanked]
      constructor
      · rintro (h | h)
        · exact .inl h
        · by_cases hmem : o ∈ p.blankedOutputs
          · exact .inl ⟨hmem, hv h⟩
          · exact .inr ⟨hmem, h⟩
      · exact fun h => h.imp_right fun h => h.2
    · rw [hs] at hr; exact (mem_blank_requests.1 hr).1
    · rw [hre]; exact ⟨fun h => ⟨hd, h⟩, fun h => h.2⟩
  · rename_i hd
    obtain ⟨hrec, hs⟩ := Prod.mk.inj hn
    refine ⟨?_, fun r hr => ?_, ?_⟩
    · rw [hs, hrec, settled_blanked]; simp
    · rw [hs] at hr; cases hr
    · rw [hs]
      exact ⟨fun h => (nomatch h), fun h => absurd h.1 hd⟩

theorem evaluate_inhibited_blanked (p : IdlePolicy) (now : Int) (outputs : List (OutputId × Bool)) :
    let result := p.evaluate now true outputs
    (o ∈ result.1.blankedOutputs ↔ o ∈ p.blankedOutputs ∧ (⟨o, true⟩ : IdlePowerRequest) ∉ result.2.powerRequests) ∧
      (∀ r ∈ result.2.powerRequests, r.powered = true) ∧
      (p.manuallyBlanked = false → result.1.blankedOutputs = ∅ ∧
        ∀ o ∈ p.blankedOutputs, (⟨o, true⟩ : IdlePowerRequest) ∈ result.2.powerRequests) ∧
      (p.manuallyBlanked = true → result.2.powerRequests = []) ∧
      result.1.manuallyBlanked = p.manuallyBlanked := by
  intro result
  have hs := evaluate_inhibited p now outputs
  have hrec := (inhibit_eq p now true).1
  have hf := (inhibit_eq p now true).2.1; split at hs
  · rename_i h
    simp only [result, hs, hrec, h, hf]; simp
  rename_i h
  have hre : ∀ o, (⟨o, true⟩ : IdlePowerRequest) ∈ result.2.powerRequests ↔ o ∈ p.blankedOutputs := by
    intro o
    simp [result, hs, mem_wake, hrec]
  have he : result.1.blankedOutputs = ∅ := by
    simp only [result, hs]; rfl
  have hfa : result.1.manuallyBlanked = false := by
    simp only [result, hs]; rfl
  refine ⟨?_, fun r hr => ?_, fun _ => ⟨he, fun o ho => (hre o).2 ho⟩, fun h' => absurd h' h, ?_⟩
  · rw [hre, he]; simp
  · simp only [result, hs, wakeBlankedOutputs, List.mem_map] at hr
    obtain ⟨o, -, rfl⟩ := hr; rfl
  · rw [hfa]; exact (Bool.eq_false_iff.2 h).symm

theorem toggle_eq (p : IdlePolicy) (outputs : List (OutputId × Bool)) (now : Int) :
    (outputs.any (·.2) = true ∧ (p.toggleNow outputs now).1 = ((p.resetIdleInterval now).blankNow outputs).1 ∧
        (p.toggleNow outputs now).2.powerRequests = (blank p.blankedOutputs outputs).2) ∨
      (outputs.any (·.2) = false ∧ (p.toggleNow outputs now).1.blankedOutputs = ∅ ∧
        (p.toggleNow outputs now).1.manuallyBlanked = false ∧ (p.toggleNow outputs now).1.inhibited = p.inhibited ∧
          (p.toggleNow outputs now).2.powerRequests = outputs.map fun out => ⟨out.1, true⟩) := by
  unfold toggleNow
  cases h : outputs.any (·.2) with
  | true => exact .inl ⟨rfl, rfl, rfl⟩
  | false => exact .inr ⟨rfl, rfl, rfl, rfl, rfl⟩

theorem mem_next (e : IdleEvent) : o ∈ (next p e).blankedOutputs ↔
      o ∈ p.blankedOutputs ∧ ¬Releases o p e ∨ TimesOut o p e ∨ BlanksByHand o p e := by
  cases e with
  | configure packet now =>
    simp only [Releases, TimesOut, BlanksByHand, or_false]
    cases hd : decodeConfiguration packet with
    | error error => simp [next, apply_configure_error hd]
    | ok c =>
      simp only [next, apply_configure_ok hd]; exact (mem_configure p now o c).1
  | noteActivity now =>
    have hre : (⟨o, true⟩ : IdlePowerRequest) ∈ (p.noteActivity now).2 ↔ o ∈ p.blankedOutputs := mem_wake
    simp only [Releases, TimesOut, BlanksByHand, or_false, apply, next, hre]
    simp [noteActivity, wakeBlankedOutputs]
  | evaluate now i outputs =>
    cases i with
    | true =>
      obtain ⟨hrec, hw, -, -, -⟩ := evaluate_inhibited_blanked (o := o) p now outputs
      have ho : ¬TimesOut o p (.evaluate now true outputs) := fun h => by cases hw _ h
      simp only [Releases, BlanksByHand, or_false, ho, apply, next, hrec, Bool.true_eq_false, false_and]
    | false =>
      obtain ⟨hrec, ho, -⟩ := evaluate_blanked (o := o) p now outputs
      have hw : (⟨o, true⟩ : IdlePowerRequest) ∉ (p.evaluate now false outputs).2.powerRequests :=
        fun h => by cases ho _ h
      simp only [Releases, TimesOut, BlanksByHand, or_false, apply, next, hw, hrec, false_or, true_and, not_not]
  | noteExternalPowerRequest out powered =>
    simp only [Releases, TimesOut, BlanksByHand, or_false, apply, next, noteExternalPowerRequest, Finset.mem_erase,
      List.not_mem_nil, false_or]
    exact ⟨fun h => ⟨h.2, fun heq => h.1 heq.symm⟩, fun h => ⟨fun heq => h.2 heq.symm, h.1⟩⟩
  | notePowerFailure out now =>
    simp only [Releases, TimesOut, BlanksByHand, or_false, apply, next, notePowerFailure, Finset.mem_erase,
      List.not_mem_nil, false_or]
    exact ⟨fun h => ⟨h.2, fun heq => h.1 heq.symm⟩, fun h => ⟨fun heq => h.2 heq.symm, h.1⟩⟩
  | blankNow outputs =>
    have hw : (⟨o, true⟩ : IdlePowerRequest) ∉ (p.blankNow outputs).2 := fun h => by
      cases (mem_blank_requests.1 h).1
    simp only [Releases, TimesOut, BlanksByHand, or_false, apply, next, hw, false_or, not_false_eq_true, and_true]
    show o ∈ (blank p.blankedOutputs outputs).1 ↔ _; rw [mem_blank]
    tauto
  | toggleNow outputs now =>
    rcases toggle_eq p outputs now with ⟨hn, hne, hr⟩ | ⟨hn, he, -, -, hr⟩
    · have hw : (⟨o, true⟩ : IdlePowerRequest) ∉ (p.toggleNow outputs now).2.powerRequests := fun h => by
        rw [hr] at h
        cases (mem_blank_requests.1 h).1
      simp only [Releases, TimesOut, BlanksByHand, apply, next, hw, false_or, hne, hn, Bool.true_eq_false,
        false_and, not_false_eq_true, and_true]
      show o ∈ (blank p.blankedOutputs outputs).1 ↔ _; rw [mem_blank]
      tauto
    · have ho : (o, true) ∉ outputs := fun h => by
        have := List.any_eq_false.1 hn _ h
        simp at this
      have hw : (⟨o, true⟩ : IdlePowerRequest) ∈ (p.toggleNow outputs now).2.powerRequests ↔
          o ∈ outputs.map (·.1) := by
        rw [hr]; simp
      simp only [Releases, TimesOut, BlanksByHand, apply, next, he, hn, hw, ho, true_and, and_false,
        or_false, Finset.notMem_empty, false_iff]
      tauto

theorem blanked_by_hand (outputs : List (OutputId × Bool)) :
    (p.manuallyBlanked || !(blank p.blankedOutputs outputs).2.isEmpty) = true ↔
      p.manuallyBlanked = true ∨ ∃ o, o ∉ p.blankedOutputs ∧ (o, true) ∈ outputs := by
  rw [Bool.or_eq_true, Bool.not_eq_true', ← Bool.not_eq_true, blank_requests_isEmpty]
  push Not
  simp only [and_comm]

theorem flag_next (e : IdleEvent) : ((next p e).manuallyBlanked = p.manuallyBlanked ∧ ∀ o, ¬BlanksByHand o p e) ∨
      ((next p e).manuallyBlanked = false ∧ (next p e).blankedOutputs = ∅) ∨
      ((next p e).manuallyBlanked = true ↔ p.manuallyBlanked = true ∨ ∃ o, BlanksByHand o p e) ∧
        (next p e).inhibited = p.inhibited := by
  cases e with
  | configure packet now =>
    cases hd : decodeConfiguration packet with
    | error error =>
      simp only [next, apply_configure_error hd]; exact .inl ⟨trivial, fun _ => id⟩
    | ok c =>
      simp only [next, apply_configure_ok hd]
      rcases (mem_configure p now 0 c).2.1 with h | h
      · exact .inl ⟨h, fun _ => id⟩
      · exact .inr (.inl h)
  | noteActivity now => exact .inr (.inl ⟨rfl, rfl⟩)
  | evaluate now i outputs =>
    refine .inl ⟨?_, fun _ => id⟩
    cases i with
    | true => exact (evaluate_inhibited_blanked (o := 0) p now outputs).2.2.2.2
    | false => exact ((evaluate_spec p now outputs).2.1).trans (inhibit_eq p now false).2.1
  | noteExternalPowerRequest out powered => exact .inl ⟨rfl, fun _ => id⟩
  | notePowerFailure out now => exact .inl ⟨rfl, fun _ => id⟩
  | blankNow outputs => exact .inr (.inr ⟨blanked_by_hand outputs, rfl⟩)
  | toggleNow outputs now =>
    rcases toggle_eq p outputs now with ⟨-, hn, -⟩ | ⟨-, he, hf, -, -⟩
    · refine .inr (.inr ⟨?_, ?_⟩)
      · show (p.toggleNow outputs now).1.manuallyBlanked = true ↔ _; rw [hn]
        exact blanked_by_hand (p := p.resetIdleInterval now) outputs
      · show (p.toggleNow outputs now).1.inhibited = _
        rw [hn]; rfl
    · exact .inr (.inl ⟨hf, he⟩)

theorem inhibited_next (e : IdleEvent) : (next p e).inhibited = true → p.inhibited = true ∧ (∀ o, ¬TimesOut o p e) ∨
      ((next p e).manuallyBlanked = false → (next p e).blankedOutputs = ∅) := by
  intro h
  cases e with
  | configure packet now =>
    refine .inl ⟨?_, fun _ => id⟩
    cases hd : decodeConfiguration packet with
    | error error =>
      simp only [next, apply_configure_error hd] at h; exact h
    | ok c =>
      simp only [next, apply_configure_ok hd] at h
      rw [(mem_configure p now 0 c).2.2] at h; exact h
  | evaluate now i outputs =>
    cases i with
    | true =>
      obtain ⟨-, -, hw, -, hf⟩ := evaluate_inhibited_blanked (o := 0) p now outputs
      exact .inr fun hfa => (hw (hf.symm.trans hfa)).1
    | false =>
      have := (evaluate_spec p now outputs).2.2.1
      exact absurd (h.symm.trans this) (by decide)
  | toggleNow outputs now =>
    rcases toggle_eq p outputs now with ⟨-, hne, -⟩ | ⟨-, -, -, hn, -⟩
    · refine .inl ⟨?_, fun _ => id⟩
      have h : (p.toggleNow outputs now).1.inhibited = true := h
      rw [hne] at h; exact h
    · exact .inl ⟨hn.symm.trans h, fun _ => id⟩
  | _ => exact .inl ⟨h, fun _ => id⟩

/-! ## Outputs kept apart -/

variable {e : IdleEvent} {es : List IdleEvent}

theorem separate_timesOut (hp : p.configuration.Ordered) (h : Separate p e) (hf : p.manuallyBlanked = true) :
    ¬TimesOut o p e := by
  intro hm
  cases e with
  | evaluate now inhibited outputs =>
    cases inhibited with
    | true => exact nomatch (evaluate_inhibited_blanked (o := o) p now outputs).2.1 _ hm
    | false =>
      obtain ⟨⟨hu, hd⟩, hno, hmem⟩ := (evaluate_blanked (o := o) p now outputs).2.2.1 hm
      rcases inhibit_interval p now false with ⟨hs, heq⟩ | ⟨-, hr, -⟩
      · unfold settled at hu hd
        rw [heq] at hu hd
        exact hno (h rfl hs hf hu hd o hmem)
      -- a fresh interval has not run for the time of any timeout
      obtain ⟨t, ht, hle⟩ := hd
      have hz : saturatingDurationSince now (p.settled now outputs).lastActivity = 0 := by
        show saturatingDurationSince now (p.inhibit now false).lastActivity = 0; rw [hr]
        unfold saturatingDurationSince; omega
      have hn : p.configuration.dpmsTimeout = some t := by
        rw [← (inhibit_eq p now false).2.2.1]; exact ht
      have := hp.positive.2.1 t hn
      omega
  | _ => exact hm

theorem separate_byHand (h : Separate p e) (hf : p.manuallyBlanked = false) (hne : p.blankedOutputs.Nonempty) :
    ¬BlanksByHand o p e := by
  intro hn
  cases e with
  | blankNow outputs => exact hn.1 (h hf hne o hn.2)
  | toggleNow outputs now => exact hn.1 (h hf hne o hn.2)
  | _ => exact hn

theorem timesOut_not_byHand {o' : OutputId} (h : TimesOut o p e) : ¬BlanksByHand o' p e := by
  intro hn
  cases e with
  | evaluate now i outputs => exact hn
  | _ => exact h

/-- What is known of the record in every run, of the outputs without a manual flag and of an active inhibitor. -/
structure Recorded (now : Int) (es : List IdleEvent) (p : IdlePolicy) : Prop where
  ordered : InOrder now es p
  timedOut : p.manuallyBlanked = false → ∀ o ∈ p.blankedOutputs, Since next (TimesOut o) (Releases o) (start now) es
  inhibited : p.inhibited = true → p.manuallyBlanked = false → p.blankedOutputs = ∅

variable {t₀ : Int}

theorem recorded_next (es : List IdleEvent) (e : IdleEvent) (h : Recorded t₀ es (exec next (start t₀) es)) :
    Recorded t₀ (es ++ [e]) (next (exec next (start t₀) es) e) where
  ordered := inOrder_next es e h.ordered
  timedOut hf o ho := by
    have hk : (exec next (start t₀) es).manuallyBlanked = false ∧ ¬BlanksByHand o (exec next (start t₀) es) e := by
      rcases flag_next (p := exec next (start t₀) es) e with ⟨hs, hno⟩ | ⟨-, he⟩ | ⟨hse, -⟩
      · exact ⟨hs.symm.trans hf, hno o⟩
      · rw [he] at ho; exact absurd ho (Finset.notMem_empty o)
      · rw [Bool.eq_false_iff, ne_eq, hse, not_or, not_exists] at hf
        exact ⟨Bool.eq_false_iff.2 hf.1, hf.2 o⟩
    rcases (mem_next e).1 ho with ⟨hbe, hr⟩ | hm | hn
    · exact since_snoc.2 (.inr ⟨h.timedOut hk.1 o hbe, hr⟩)
    · exact since_snoc.2 (.inl hm)
    · exact absurd hn hk.2
  inhibited hin hf := by
    rcases inhibited_next e hin with ⟨hbe, hno⟩ | he
    · rcases flag_next (p := exec next (start t₀) es) e with ⟨hs, hh⟩ | ⟨-, he⟩ | ⟨hse, -⟩
      · have he := h.inhibited hbe (hs.symm.trans hf)
        refine Finset.eq_empty_of_forall_notMem fun o ho => ?_
        rcases (mem_next e).1 ho with ⟨hmem, -⟩ | hm | hn
        · rw [he] at hmem; exact Finset.notMem_empty o hmem
        · exact hno o hm
        · exact hh o hn
      · exact he
      · rw [Bool.eq_false_iff, ne_eq, hse, not_or, not_exists] at hf
        have he := h.inhibited hbe (Bool.eq_false_iff.2 hf.1)
        refine Finset.eq_empty_of_forall_notMem fun o ho => ?_
        rcases (mem_next e).1 ho with ⟨hmem, -⟩ | hm | hn
        · rw [he] at hmem; exact Finset.notMem_empty o hmem
        · exact hno o hm
        · exact hf.2 o hn
    · exact he hf

theorem recorded_exec (t₀ : Int) (es : List IdleEvent) : Recorded t₀ es (exec next (start t₀) es) :=
  exec_history (G := fun _ _ => True) ⟨inOrder_start t₀, fun _ _ h => (nomatch h), fun _ _ => rfl⟩
    (fun es e h _ => recorded_next es e h) (along_of_forall fun _ _ => trivial)

theorem unflagged_along (h : Along next Separate (start t₀) es) :
    ∀ o, Since next (TimesOut o) (Releases o) (start t₀) es → o ∈ (exec next (start t₀) es).blankedOutputs ∧
      (exec next (start t₀) es).manuallyBlanked = false := by
  refine exec_history (I := fun es p => ∀ o, Since next (TimesOut o) (Releases o) (start t₀) es →
    o ∈ p.blankedOutputs ∧ p.manuallyBlanked = false) (fun o hs => absurd hs since_nil) ?_ h
  intro es e ih hse o hs
  set p := exec next (start t₀) es with hp
  have ho : p.configuration.Ordered := (recorded_exec t₀ es).ordered.configured
  have hy : o ∈ (next p e).blankedOutputs ∧ p.manuallyBlanked = false ∧ ∀ o', ¬BlanksByHand o' p e := by
    rcases since_snoc.1 hs with hm | ⟨hbe, hr⟩
    · refine ⟨(mem_next e).2 (.inr (.inl hm)), ?_, fun o' => timesOut_not_byHand hm⟩
      exact Bool.eq_false_iff.2 fun hf => separate_timesOut ho hse hf hm
    · obtain ⟨hmem, hf⟩ := ih o hbe
      exact ⟨(mem_next e).2 (.inl ⟨hmem, hr⟩), hf, fun o' => separate_byHand hse hf ⟨o, hmem⟩⟩
  obtain ⟨hmem, hf, hn⟩ := hy
  refine ⟨hmem, ?_⟩
  rcases flag_next (p := p) e with ⟨hsa, -⟩ | ⟨hfa, -⟩ | ⟨hst, -⟩
  · exact hsa.trans hf
  · exact hfa
  · rw [Bool.eq_false_iff, ne_eq, hst, not_or, not_exists]; exact ⟨Bool.eq_false_iff.1 hf, hn⟩

theorem byHand_not_releases {o' : OutputId} (h : BlanksByHand o p e) : ¬Releases o' p e := by
  intro hr
  cases e with
  | blankNow outputs =>
    rcases hr with hw | h
    · exact nomatch (mem_blank_requests.1 hw).1
    · exact h
  | toggleNow outputs now =>
    have hn : outputs.any (·.2) = true := List.any_eq_true.2 ⟨_, h.2, rfl⟩
    rcases toggle_eq p outputs now with ⟨-, -, hre⟩ | ⟨ho, -, -, -, -⟩
    · rcases hr with hw | ⟨ho, -⟩
      · have hw : (⟨o', true⟩ : IdlePowerRequest) ∈ (p.toggleNow outputs now).2.powerRequests := hw
        rw [hre] at hw; exact nomatch (mem_blank_requests.1 hw).1
      · exact absurd (hn.symm.trans ho) (by decide)
    · exact absurd (hn.symm.trans ho) (by decide)
  | _ => exact h

theorem byHand_next (h : BlanksByHand o p e) :
    (next p e).manuallyBlanked = true ∧ (next p e).inhibited = p.inhibited := by
  rcases flag_next (p := p) e with ⟨-, hno⟩ | ⟨-, he⟩ | ⟨hs, hn⟩
  · exact absurd h (hno o)
  · have hmem : o ∈ (next p e).blankedOutputs := (mem_next e).2 (.inr (.inr h))
    rw [he] at hmem; exact absurd hmem (Finset.notMem_empty o)
  · exact ⟨hs.2 (.inr ⟨o, h⟩), hn⟩

theorem not_restores (hf : (exec next (start t₀) es).manuallyBlanked = true)
    (hn : (exec next (start t₀) es).inhibited = false)
    (hs : Since next (TimesOut o) (Releases o) (start t₀) es) : ¬Restores t₀ es := by
  intro h
  have hw := h o hs hn t₀ []
  rw [(evaluate_inhibited_blanked (o := o) _ t₀ []).2.2.2.1 hf] at hw; cases hw

theorem not_restores_of_not_separate (h : ¬Separate (exec next (start t₀) es) e) : ¬Restores t₀ (es ++ [e]) := by
  have hrec := recorded_exec t₀ es
  set p := exec next (start t₀) es with hp
  have hha : ∀ {o o'}, p.manuallyBlanked = false → o' ∈ p.blankedOutputs → BlanksByHand o p e →
      ¬Restores t₀ (es ++ [e]) := by
    intro o o' hf ho' hbl
    obtain ⟨hse, hs⟩ := byHand_next hbl
    refine not_restores (o := o') ?_ ?_ (since_snoc.2 (.inr ⟨hrec.timedOut hf o' ho', byHand_not_releases hbl⟩))
    · rw [exec_snoc]; exact hse
    · rw [exec_snoc, hs]
      refine Bool.eq_false_iff.2 fun hh => ?_
      rw [hrec.inhibited hh hf] at ho'; exact Finset.notMem_empty o' ho'
  cases e with
  | evaluate now i outputs =>
    unfold Separate at h
    push Not at h
    obtain ⟨rfl, hs, hf, hu, hd, o, hmem, hn⟩ := h
    obtain ⟨-, hk, hh, -⟩ := evaluate_spec p now outputs
    have hm : TimesOut o p (.evaluate now false outputs) := by
      refine (evaluate_blanked (o := o) p now outputs).2.2.2 ⟨?_, hn, hmem⟩
      rcases inhibit_interval p now false with ⟨-, heq⟩ | ⟨hne, -⟩
      · unfold settled
        rw [heq]; exact ⟨hu, hd⟩
      · exact absurd hs hne
    refine not_restores (o := o) ?_ ?_ (since_snoc.2 (.inl hm))
    · rw [exec_snoc]
      exact hk.trans ((inhibit_eq p now false).2.1.trans hf)
    · rw [exec_snoc]; exact hh
  | blankNow outputs =>
    unfold Separate at h
    push Not at h
    obtain ⟨hf, ⟨o', ho'⟩, o, hmem, hn⟩ := h; exact hha hf ho' (o := o) ⟨hn, hmem⟩
  | toggleNow outputs now =>
    unfold Separate at h
    push Not at h
    obtain ⟨hf, ⟨o', ho'⟩, o, hmem, hn⟩ := h; exact hha hf ho' (o := o) ⟨hn, hmem⟩
  | _ => exact absurd trivial h

theorem suspend_evaluation (h : (p.apply e).2.suspend = true) : ∃ now outputs, e = .evaluate now false outputs := by
  cases e with
  | configure packet now =>
    cases hd : decodeConfiguration packet with
    | error error => rw [apply_configure_error hd] at h; cases h
    | ok c => rw [apply_configure_ok hd] at h; cases h
  | evaluate now i outputs =>
    cases i with
    | true =>
      have h : (p.evaluate now true outputs).2.suspend = true := h
      rw [evaluate_inhibited] at h
      split at h <;> cases h
    | false => exact ⟨now, outputs, rfl⟩
  | toggleNow outputs now =>
    have h : (p.toggleNow outputs now).2.suspend = true := h
    unfold toggleNow at h; dsimp only at h
    split at h <;> cases h
  | _ => cases h

theorem lock_before_suspend (hss : ((exec next (start t₀) es).apply e).2.suspend = true)
    (he : (exec next (start t₀) (es ++ [e])).configuration.lockTimeout.isSome) :
    Since next RequestsLock BeginsInterval (start t₀) (es ++ [e]) := by
  obtain ⟨now, outputs, rfl⟩ := suspend_evaluation hss
  have ho := (recorded_exec t₀ es).ordered; rw [exec_snoc] at he
  set p := exec next (start t₀) es with hp
  obtain ⟨hn, -, -, hk, -, hel, -⟩ := evaluate_spec p now outputs
  have hs : (p.settled now outputs).configuration = p.configuration := (inhibit_eq p now false).2.2.1
  obtain ⟨lock, hlo⟩ := Option.isSome_iff_exists.1 he
  have hlo : p.configuration.lockTimeout = some lock := by
    rw [← hlo, ← hs]; exact congrArg _ hn.symm
  obtain ⟨s, hsu, hle⟩ := (hel hss).2; rw [hs] at hsu
  have hin := ho.configured.lock lock s hlo hsu
  refine since_snoc.2 ?_
  by_cases hr : (p.settled now outputs).lockTriggered = true
  · exact .inr (locked_settled ho hr)
  · refine .inl (hk.2 ⟨Bool.eq_false_iff.2 hr, lock, ?_, hin.trans hle⟩)
    rw [hs]; exact hlo

end IdlePolicy

open IdlePolicy

/-- In every session: a suspend is requested only after the lock in its idle interval, where locking is enabled, and
not together with blanking an output; and an inhibitor that becomes active wakes all the outputs the display timeout
blanked, as long as these are kept apart from the outputs blanked by hand, and no longer. -/
theorem idle_policy_orders_and_restores (t₀ : Int) (es : List IdleEvent) :
    (∀ e, ((exec next (start t₀) es).apply e).2.suspend = true →
        ((exec next (start t₀) (es ++ [e])).configuration.lockTimeout.isSome →
          Since next RequestsLock BeginsInterval (start t₀) (es ++ [e])) ∧
        ∀ r ∈ ((exec next (start t₀) es).apply e).2.powerRequests, r.powered = true) ∧
      (Along next Separate (start t₀) es → Restores t₀ es) ∧
      ∀ e, ¬Separate (exec next (start t₀) es) e → ¬Restores t₀ (es ++ [e]) := by
  refine ⟨fun e hsus => ⟨lock_before_suspend hsus, ?_⟩, fun h o hsin hinh now outputs => ?_,
    fun e => not_restores_of_not_separate⟩
  · obtain ⟨now, outputs, rfl⟩ := suspend_evaluation hsus
    obtain ⟨-, -, -, -, -, hemp, -⟩ := evaluate_spec (exec next (start t₀) es) now outputs; intro r hr
    have hr : r ∈ ((exec next (start t₀) es).evaluate now false outputs).2.powerRequests := hr
    rw [(hemp hsus).1] at hr; cases hr
  · obtain ⟨hmem, hflag⟩ := unflagged_along h o hsin
    exact ((evaluate_inhibited_blanked (o := o) _ now outputs).2.2.1 hflag).2 o hmem

/-- Output 1 is blanked by the display timeout of 2 ms, and woken by an inhibitor. -/
theorem idle_policy_orders_and_restores_video :
    let p := exec next (start 0) [.configure [2, 0, 0, 0, 0, 0, 0, 0] 0, .evaluate 2000000 false [(1, true)]]
    (⟨1, true⟩ : IdlePowerRequest) ∈ (p.evaluate 2000001 true [(1, false)]).2.powerRequests := by
  refine (idle_policy_orders_and_restores 0 [.configure [2, 0, 0, 0, 0, 0, 0, 0] 0,
    .evaluate 2000000 false [(1, true)]]).2.1 ⟨trivial, fun _ _ h => ?_, trivial⟩ 1 ?_ (by decide) 2000001 [(1, false)]
  · exact absurd h (by decide)
  · refine ⟨[.configure [2, 0, 0, 0, 0, 0, 0, 0] 0], .evaluate 2000000 false [(1, true)], [], rfl, ?_, trivial⟩
    show (⟨1, false⟩ : IdlePowerRequest) ∈ (IdlePolicy.evaluate _ 2000000 false [(1, true)]).2.powerRequests
    decide

/-- Output 1 is switched off by hand and on again by another client; the display timeout of 2 ms then blanks it. -/
def switchedOnAgain : List IdleEvent :=
  [.configure [2, 0, 0, 0, 0, 0, 0, 0] 0, .blankNow [(1, true)], .noteExternalPowerRequest 1 true,
    .evaluate 2000000 false [(1, true)]]

/-- The manual flag outlives the manual blank, so an inhibitor leaves the output dark. -/
theorem manual_flag_outlives_blank : ¬Restores 0 switchedOnAgain := by
  intro h
  have htim : TimesOut 1 (exec next (start 0) switchedOnAgain.dropLast) (.evaluate 2000000 false [(1, true)]) := by
    show (⟨1, false⟩ : IdlePowerRequest) ∈ (IdlePolicy.evaluate _ 2000000 false [(1, true)]).2.powerRequests
    decide
  have hsin : Since next (TimesOut 1) (Releases 1) (start 0) switchedOnAgain :=
    ⟨switchedOnAgain.dropLast, .evaluate 2000000 false [(1, true)], [], rfl, htim, trivial⟩
  have hwok := h 1 hsin (by decide) 2000001 [(1, false)]
  revert hwok
  decide

end Deniald.Idle
