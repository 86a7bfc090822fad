/-
When a job is attempted: its retries all come before its expiry, a hundred milliseconds after its first attempt, so
there are finitely many; and the heap hands out the due jobs by the time they are due and then by their arrival.
-/
import Deniald.Volition.Jobs

namespace Deniald.Volition

open Deniald.Lib

/-! ## Attempts of a job -/

/-- The attempts of an entry are spaced by the retry interval, the next one is due an interval after the latest, and
all came before the expiry, which counts from the first. -/
structure ScheduledCommit.Timed (scheduled : ScheduledCommit) : Prop where
  spaced : scheduled.attempts.Pairwise fun later earlier : Int => earlier + lookaheadRetryInterval ≤ later
  ready : ∀ at_ ∈ scheduled.attempts, at_ + lookaheadRetryInterval ≤ scheduled.readyAt
  expiry : scheduled.expiresAt = scheduled.attempts.getLast?.map (· + (lookaheadMaxWait : Int))
  before : ∀ at_ ∈ scheduled.attempts, ∀ expiresAt ∈ scheduled.expiresAt, at_ < expiresAt

/-- An entry in the ioctl was due, and its expiry is set. -/
def Phase.Timed : Phase → Prop
  | .attempt scheduled attemptedAt => ∃ queued : ScheduledCommit, queued.Timed ∧ queued.readyAt ≤ attemptedAt ∧
      scheduled = { queued with expiresAt := some (queued.expiresAt.getD (attemptedAt + lookaheadMaxWait)) }
  | _ => True

theorem Phase.Idle.timed {p : Phase} (h : p.Idle) : p.Timed := by
  cases p with
  | attempt scheduled aa => cases h.1
  | _ => trivial

theorem spaced_length : ∀ {attempts : List Int} {latest first : Int},
    (latest :: attempts).Pairwise (fun later e : Int => e + lookaheadRetryInterval ≤ later) →
      (latest :: attempts).getLast? = some first → first + lookaheadRetryInterval * attempts.length ≤ latest
  | [], latest, first, _, hf => by
    cases hf
    show latest + lookaheadRetryInterval * (0 : Nat) ≤ latest; omega
  | e :: attempts, latest, first, hs, hf => by
    obtain ⟨hla, hr⟩ := List.pairwise_cons.1 hs; rw [List.getLast?_cons_cons] at hf
    have hlen := spaced_length hr hf
    have hga := hla e (List.mem_cons_self ..)
    unfold lookaheadRetryInterval at hlen hga ⊢
    rw [List.length_cons]; omega

theorem ScheduledCommit.Timed.attempts_le {sch : ScheduledCommit} (h : sch.Timed) : sch.attempts.length ≤ 1000 := by
  obtain ⟨hs, -, he, hf⟩ := h
  cases hat : sch.attempts with
  | nil => exact Nat.zero_le _
  | cons l attempts =>
    rw [hat] at hs he hf
    obtain ⟨first, hr⟩ : ∃ first, (l :: attempts).getLast? = some first :=
      Option.isSome_iff_exists.1 (by rw [List.getLast?_isSome]; exact List.cons_ne_nil _ _)
    rw [hr] at he
    have hla := hf l (List.mem_cons_self ..) (first + lookaheadMaxWait) he
    have := spaced_length hs hr
    unfold lookaheadRetryInterval at this; unfold lookaheadMaxWait at hla
    rw [List.length_cons]; omega

theorem retry_timed {queued : ScheduledCommit} (h : queued.Timed) {attemptedAt : Int} (hd : queued.readyAt ≤ attemptedAt)
    (hf : attemptedAt < queued.expiresAt.getD (attemptedAt + lookaheadMaxWait)) :
    ({ queued with
      readyAt := attemptedAt + lookaheadRetryInterval
      expiresAt := some (queued.expiresAt.getD (attemptedAt + lookaheadMaxWait))
      attempts := attemptedAt :: queued.attempts } : ScheduledCommit).Timed := by
  refine ⟨List.pairwise_cons.2 ⟨fun at_ hat => (h.ready at_ hat).trans hd, h.spaced⟩, fun at_ hat => ?_, ?_,
    fun at_ hat expiresAt he => ?_⟩
  · show at_ + _ ≤ attemptedAt + _
    rcases List.mem_cons.1 hat with rfl | hat
    · exact le_rfl
    · have := h.ready at_ hat
      unfold lookaheadRetryInterval at *; omega
  · show some (queued.expiresAt.getD _) = (attemptedAt :: queued.attempts).getLast?.map _; rw [h.expiry]
    cases queued.attempts with
    | nil => rfl
    | cons latest attempts =>
      rw [List.getLast?_cons_cons]
      cases hs : (latest :: attempts).getLast? with
      | none => cases (List.getLast?_eq_none_iff.1 hs)
      | some first => rfl
  · cases he
    rcases List.mem_cons.1 hat with rfl | hat
    · exact hf
    · have hr := h.ready at_ hat
      unfold lookaheadRetryInterval at hr; omega

namespace CommitScheduler

/-- All entries are timed, in the heap and in the ioctl. -/
def Timed (s : CommitScheduler) : Prop := s.phase.Timed ∧ ∀ q ∈ s.queue, q.Timed

theorem Move.timed {s s' : CommitScheduler} (hm : Move s s') (h : s.Timed) : s'.Timed := by
  cases hm with
  | rest p c idle idle' es bs disconnects => exact ⟨idle'.timed, h.2⟩
  | receive job ch p first idle idle' ss =>
    refine ⟨idle'.timed, fun q hq => ?_⟩
    rcases List.mem_append.1 hq with hq | hq
    · exact h.2 q hq
    · obtain rfl := List.mem_singleton.1 hq
      exact ⟨List.Pairwise.nil, fun _ hat => (nomatch hat), rfl, fun _ hat => (nomatch hat)⟩
  | pop now d top scheduled ps located l due =>
    refine ⟨⟨scheduled, h.2 scheduled (List.mem_of_getElem? located), by omega, rfl⟩, fun q hq => ?_⟩
    exact h.2 q (List.mem_of_mem_eraseIdx hq)
  | retry scheduled aa source attempts retries =>
    refine ⟨trivial, fun q hq => ?_⟩
    rcases List.mem_append.1 hq with hq | hq
    · exact h.2 q hq
    obtain rfl := List.mem_singleton.1 hq
    have hh := h.1; rw [attempts] at hh
    obtain ⟨queued, hti, hd, rfl⟩ := hh
    refine retry_timed hti hd ?_; unfold lookaheadFailureDisposition at retries
    split_ifs at retries with hs
    exact hs.2
  | finish scheduled aa event attempts names => exact ⟨trivial, h.2⟩
  | release job event finished => exact ⟨trivial, h.2⟩
  | report job event released => exact ⟨trivial, h.2⟩
  | _ => exact h

theorem timed_exec (cap : Nat) (es : List Step) : (exec next (start cap) es).Timed := by
  have hs : (start cap).Timed := ⟨trivial, fun q hq => nomatch hq⟩
  exact exec_invariant (I := Timed) (fun s e h => (next_move s e).timed h) es hs

/-! ## The order of the attempts -/

/-- The order of an entry is that of its arrival, as far as the counter goes. -/
def Numbered (arrivals : Nat) (scheduled : ScheduledCommit) : Prop :=
  scheduled.order = .ofNat scheduled.arrival ∧ scheduled.arrival < arrivals

structure Arrived (s : CommitScheduler) : Prop where
  order : s.order = .ofNat s.arrivals
  counted : s.arrivals + s.channel.length = s.accepted.length
  entries : ∀ q ∈ s.queue, Numbered s.arrivals q
  hand : ∀ q at_, s.phase = .attempt q at_ → Numbered s.arrivals q

/-- No entry's number changes with what else a step does to it. -/
theorem Move.arrived {s s' : CommitScheduler} (hm : Move s s') (h : s.Arrived) : s'.Arrived := by
  cases hm with
  | queue job reserved =>
    refine ⟨h.order, ?_, h.entries, h.hand⟩
    rw [List.length_append, List.length_append, ← h.counted, Nat.add_assoc]
  | rest p cn idle idle' es bs disconnects =>
    refine ⟨h.order, h.counted, h.entries, fun q at_ hh => ?_⟩
    have hh : p = .attempt q at_ := hh
    rw [hh] at idle'; cases idle'.1
  | receive job c p first idle idle' ss =>
    have hr (q : ScheduledCommit) (hq : Numbered s.arrivals q) : Numbered (s.arrivals + 1) q :=
      ⟨hq.1, Nat.lt_succ_of_lt hq.2⟩
    refine ⟨?_, ?_, fun q hq => ?_, fun q at_ hh => ?_⟩
    · show s.order + 1 = .ofNat (s.arrivals + 1)
      rw [h.order, UInt64.ofNat_add]; rfl
    · have := h.counted
      rw [first, List.length_cons] at this
      show s.arrivals + 1 + c.length = s.accepted.length; omega
    · rcases List.mem_append.1 hq with hq | hq
      · exact hr q (h.entries q hq)
      · obtain rfl := List.mem_singleton.1 hq; exact ⟨h.order, Nat.lt_succ_self _⟩
    · have hh : p = .attempt q at_ := hh
      rw [hh] at idle'; cases idle'.1
  | pop now d top scheduled ps located l due =>
    refine ⟨h.order, h.counted, fun q hq => h.entries q (List.mem_of_mem_eraseIdx hq), fun q at_ hh => ?_⟩
    cases hh
    exact h.entries scheduled (List.mem_of_getElem? located)
  | retry scheduled aa source attempts retries =>
    refine ⟨h.order, h.counted, fun q hq => ?_, fun q at_ hh => nomatch hh⟩
    rcases List.mem_append.1 hq with hq | hq
    · exact h.entries q hq
    · obtain rfl := List.mem_singleton.1 hq; exact h.hand scheduled aa attempts
  | finish scheduled aa event attempts names => exact ⟨h.order, h.counted, h.entries, fun _ _ hh => nomatch hh⟩
  | release job event finished => exact ⟨h.order, h.counted, h.entries, fun _ _ hh => nomatch hh⟩
  | report job event released => exact ⟨h.order, h.counted, h.entries, fun _ _ hh => nomatch hh⟩
  | _ => exact ⟨h.order, h.counted, h.entries, h.hand⟩

theorem arrived_exec (cap : Nat) (es : List Step) : (exec next (start cap) es).Arrived := by
  have hs : (start cap).Arrived := ⟨rfl, rfl, fun q hq => (nomatch hq), fun q at_ hh => nomatch hh⟩
  exact exec_invariant (I := Arrived) (fun s e h => (next_move s e).arrived h) es hs

/-- A greatest entry of the heap is due first, and among those the first to arrive, unless the counter of the orders
has gone around. -/
theorem isTop_first {s : CommitScheduler} (h : s.Arrived) (hf : s.accepted.length ≤ 2 ^ 64) {top : ScheduledCommit}
    (hmem : top ∈ s.queue) (htop : isTop s.queue top = true) {other : ScheduledCommit} (hot : other ∈ s.queue) :
    top.readyAt < other.readyAt ∨ top.readyAt = other.readyAt ∧ top.arrival ≤ other.arrival := by
  have hn := List.all_eq_true.1 htop other hot; unfold ScheduledCommit.precedes at hn
  simp only [Bool.not_or, Bool.and_eq_true, Bool.not_eq_true', decide_eq_false_iff_not, Bool.and_eq_false_iff,
    beq_eq_false_iff_ne] at hn
  obtain ⟨hd, hne | hr⟩ := hn
  · exact .inl (by omega)
  · rcases lt_or_eq_of_le (not_lt.1 hd) with hlt | heq
    · exact .inl hlt
    refine .inr ⟨heq, ?_⟩
    obtain ⟨htp, hto⟩ := h.entries top hmem
    obtain ⟨hh, ho⟩ := h.entries other hot
    have hco := h.counted
    have hto : top.arrival < UInt64.size := by
      show top.arrival < 2 ^ 64; omega
    have ho : other.arrival < UInt64.size := by
      show other.arrival < 2 ^ 64; omega
    rw [htp, hh, UInt64.not_lt, UInt64.le_iff_toNat_le, UInt64.toNat_ofNat_of_lt' ho,
      UInt64.toNat_ofNat_of_lt' hto] at hr
    exact hr

end CommitScheduler

end Deniald.Volition
