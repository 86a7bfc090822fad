/-
The worker gets done: whatever the kernel answers, its steps alone report an event for every queued job, as long as the
scheduler is not shut down. Each round of its loop takes from a finite load.
-/
import Deniald.Lib.Lists
import Deniald.Volition.Retries

namespace Deniald.Volition

open Deniald.Lib
open CommitScheduler ScheduledCommit

def Step.IsWorker : Step → Prop
  | .reserve _ | .send | .cancel | .close => False
  | _ => True

/-- What the kernel answers in a step, if it is asked. -/
def Step.answer : Step → Option (Except OsError Unit)
  | .submit result _ => some result
  | _ => none

/-- The attempts an entry may still have. -/
def ScheduledCommit.credit (scheduled : ScheduledCommit) : Nat := 1001 - scheduled.attempts.length

/-- What is left of a round of the loop, and of the job in the ioctl. -/
def Phase.load : Phase → Nat
  | .check => 3
  | .drain => 2
  | .peek => 1
  | .blocked => 0
  | .sleeping => 4
  | .attempt scheduled _ => 10 * (1000 - scheduled.attempts.length) + 6
  | .finish _ _ => 5
  | .report _ _ => 4
  | .exited => 0

theorem precedes_iff {a b : ScheduledCommit} :
    a.precedes b = true ↔ a.readyAt < b.readyAt ∨ a.readyAt = b.readyAt ∧ a.order < b.order := by
  unfold precedes
  simp

theorem precedes_trans {a b c : ScheduledCommit} (hab : a.precedes b = true) (hbc : b.precedes c = true) :
    a.precedes c = true := by
  rw [precedes_iff] at hab hbc ⊢
  rcases hab with hab | ⟨hab, hab'⟩ <;> rcases hbc with hbc | ⟨hbc, hbc'⟩
  · exact .inl (hab.trans hbc)
  · exact .inl (hbc ▸ hab)
  · exact .inl (hab ▸ hbc)
  · exact .inr ⟨hab.trans hbc, UInt64.lt_trans hab' hbc'⟩

theorem not_precedes_self (a : ScheduledCommit) : a.precedes a = false := by
  refine Bool.eq_false_iff.2 fun h => ?_
  rcases precedes_iff.1 h with h | ⟨-, h⟩
  · exact lt_irrefl _ h
  · exact UInt64.lt_irrefl _ h

theorem exists_top : ∀ {queue : List ScheduledCommit}, queue ≠ [] →
    ∃ (top : Nat) (scheduled : ScheduledCommit), queue[top]? = some scheduled ∧ isTop queue scheduled = true
  | [a], _ => ⟨0, a, rfl, by
    unfold isTop; rw [List.all_cons, not_precedes_self]
    rfl⟩
  | a :: b :: queue, _ => by
    obtain ⟨top, scheduled, hto, hs⟩ := exists_top (List.cons_ne_nil b queue)
    by_cases ha : a.precedes scheduled = true
    · refine ⟨0, a, rfl, List.all_eq_true.2 fun other ho => ?_⟩; rw [Bool.not_eq_true', Bool.eq_false_iff]
      intro hr
      rcases List.mem_cons.1 ho with rfl | ho
      · rw [not_precedes_self] at hr; cases hr
      · have hn := List.all_eq_true.1 hs other ho
        rw [precedes_trans hr ha] at hn; cases hn
    · refine ⟨top + 1, scheduled, hto, List.all_eq_true.2 fun other ho => ?_⟩
      rcases List.mem_cons.1 ho with rfl | ho
      · rw [Bool.eq_false_iff.2 ha]; rfl
      · exact List.all_eq_true.1 hs other ho

namespace CommitScheduler

/-- The work that is left. -/
def load (s : CommitScheduler) : Nat :=
  10 * (1002 * s.channel.length + (s.queue.map ScheduledCommit.credit).sum) + s.phase.load

/-- Nothing is on its way. -/
def Settled (s : CommitScheduler) : Prop := s.waiting = [] ∧ s.phase.reporting = []

variable {s : CommitScheduler}

theorem receive_load {job : CommitJob} {channel : List CommitJob} (hh : s.channel = job :: channel)
    {phase : Phase} (hs : phase.load ≤ s.phase.load + 9) :
    ({ s with channel := channel, phase := phase }.scheduleJob job).load < s.load := by
  show 10 * (1002 * channel.length + ((s.queue ++ [_]).map credit).sum) + phase.load < s.load
  unfold load
  rw [hh, List.map_append, List.sum_append, List.length_cons]
  show 10 * (1002 * channel.length + ((s.queue.map credit).sum + (1001 + 0))) + phase.load < _
  omega

theorem rest_load {phase : Phase} (hh : phase.load < s.phase.load) :
    ({ s with phase := phase }).load < s.load := Nat.add_lt_add_left hh _

theorem drain_load (hs : s.phase = .drain) (ho : s.isOpen = true) : s.receive.load < s.load := by
  cases hh : s.channel with
  | nil =>
    have hstep : s.receive = { s with phase := .peek } := by
      unfold receive
      simp [hs, hh, ho]
    rw [hstep]
    refine rest_load ?_
    rw [hs]; exact Nat.lt_succ_self 1
  | cons job channel =>
    have hstep : s.receive = { s with channel := channel, phase := s.phase }.scheduleJob job := by
      unfold receive
      simp [hs, hh]
    rw [hstep]; exact receive_load hh (Nat.le_add_right ..)

theorem blocked_load (hh : s.phase = .blocked) (hn : s.channel ≠ []) : s.receive.load < s.load := by
  obtain ⟨job, channel, heq⟩ := List.exists_cons_of_ne_nil hn
  have hstep : s.receive = { s with channel := channel, phase := .check }.scheduleJob job := by
    unfold receive
    simp [hh, heq]
  rw [hstep]
  refine receive_load heq ?_
  rw [hh]; decide

variable {scheduled : ScheduledCommit}

theorem pop_load (hh : s.phase = .peek) {top : Nat} (hto : s.queue[top]? = some scheduled)
    (hm : scheduled.Timed) (expiresAt : Option Int) (aa : Int) :
    ({ s with
      queue := s.queue.eraseIdx top
      phase := .attempt { scheduled with expiresAt := expiresAt } aa } : CommitScheduler).load < s.load := by
  have hs := sum_map_eraseIdx credit hto
  have hat := hm.attempts_le; unfold load
  rw [hh]
  show 10 * (1002 * s.channel.length + ((s.queue.eraseIdx top).map credit).sum) +
    (10 * (1000 - scheduled.attempts.length) + 6) < _ + 1
  unfold credit at hs ⊢; omega

theorem submit_load {aa : Int} (hh : s.phase = .attempt scheduled aa) (result : Except OsError Unit) (sa : Int) :
    (s.submit result sa).load < s.load := by
  have hf (ev : Event) : ({ s with phase := .finish scheduled.job ev }).load < s.load := by
    refine rest_load ?_; rw [hh]
    show 5 < 10 * (1000 - scheduled.attempts.length) + 6; omega
  unfold submit; rw [hh]
  dsimp only; split
  · exact hf _
  split
  · unfold load; rw [hh]
    show 10 * (1002 * s.channel.length + ((s.queue ++ [_]).map credit).sum) + 3 <
      _ + (10 * (1000 - scheduled.attempts.length) + 6)
    rw [List.map_append, List.sum_append]
    show 10 * (_ + (_ + (1001 - (scheduled.attempts.length + 1) + 0))) + 3 < _; omega
  · exact hf _
  · exact hf _

theorem exists_step (hv : s.Alive) (hn : s.cancelled = false) (hm : s.Timed) (hw : s.Waits)
    (h : ¬s.Settled) (answer : Except OsError Unit) :
    ∃ e : Step, e.IsWorker ∧ (e.answer = none ∨ e.answer = some answer) ∧ (next s e).load < s.load := by
  have ho : s.isOpen = true := by
    by_contra hs
    have := hv.closed (Bool.eq_false_iff.2 hs)
    rw [hn] at this; cases this
  have hco : s.connected = true := by
    by_contra hd
    have := hv.disconnected (Bool.eq_false_iff.2 hd)
    rw [ho] at this; cases this
  cases hh : s.phase with
  | check =>
    refine ⟨.check, trivial, .inl rfl, ?_⟩
    have hstep : s.check = { s with phase := .drain } := by
      unfold check
      rw [if_neg (not_not.2 hh), if_neg (by rw [hn]; exact Bool.false_ne_true), if_pos hco]
    show s.check.load < s.load; rw [hstep]
    refine rest_load ?_
    rw [hh]; exact Nat.lt_succ_self 2
  | drain => exact ⟨.receive, trivial, .inl rfl, drain_load hh ho⟩
  | peek =>
    by_cases hqu : s.queue = []
    · refine ⟨.peek 0 0 0, trivial, .inl rfl, ?_⟩
      have hstep : s.peek 0 0 0 = { s with phase := .blocked } := by
        unfold peek
        rw [if_neg (not_not.2 hh), if_pos hqu, if_pos hco]
      show (s.peek 0 0 0).load < s.load; rw [hstep]
      refine rest_load ?_
      rw [hh]; exact Nat.lt_succ_self 0
    · obtain ⟨top, scheduled, hto, hle⟩ := exists_top hqu
      refine ⟨.peek scheduled.readyAt 0 top, trivial, .inl rfl, ?_⟩
      show (s.peek scheduled.readyAt 0 top).load < s.load; unfold peek
      rw [if_neg (not_not.2 hh), if_neg hqu, hto]; dsimp only
      rw [if_neg (not_not.2 hle), if_neg (lt_irrefl _)]
      exact pop_load hh hto (hm.2 scheduled (List.mem_of_getElem? hto)) _ _
  | blocked =>
    refine ⟨.receive, trivial, .inl rfl, blocked_load hh fun hch => h ⟨?_, ?_⟩⟩
    · unfold waiting
      rw [hch, hw hh, hh]; rfl
    · rw [hh]; rfl
  | sleeping =>
    refine ⟨.wake, trivial, .inl rfl, ?_⟩
    show s.wake.load < s.load; unfold wake
    rw [if_pos hh]
    refine rest_load ?_
    rw [hh]; exact Nat.lt_succ_self 3
  | attempt scheduled aa =>
    refine ⟨.submit answer 0, trivial, .inr rfl, submit_load hh answer 0⟩
  | finish job event =>
    refine ⟨.finish, trivial, .inl rfl, ?_⟩
    show s.finish.load < s.load; unfold finish
    rw [hh]
    refine Nat.add_lt_add_left ?_ _
    rw [hh]; exact Nat.lt_succ_self 4
  | report job event =>
    refine ⟨.report, trivial, .inl rfl, ?_⟩
    show s.report.load < s.load; unfold report
    rw [hh]
    refine Nat.add_lt_add_left ?_ _
    rw [hh]; exact Nat.lt_succ_self 3
  | exited =>
    rw [hv.exited hh] at hn; cases hn

/-- What the worker's steps leave alone. -/
structure Works (s s' : CommitScheduler) : Prop where
  cancelled : s'.cancelled = s.cancelled
  accepted : s'.accepted = s.accepted

theorem works_step (s : CommitScheduler) {e : Step} (he : e.IsWorker) : Works s (next s e) := by
  cases e with
  | reserve job => exact he.elim
  | send => exact he.elim
  | cancel => exact he.elim
  | close => exact he.elim
  | check =>
    show Works s s.check; unfold check
    repeat' split
    all_goals exact ⟨rfl, rfl⟩
  | receive =>
    show Works s s.receive; unfold receive
    repeat' split
    all_goals exact ⟨rfl, rfl⟩
  | peek now d top =>
    show Works s (s.peek now d top); unfold peek
    repeat' split
    all_goals exact ⟨rfl, rfl⟩
  | wake =>
    show Works s s.wake; unfold wake
    split <;> exact ⟨rfl, rfl⟩
  | submit result sa =>
    show Works s (s.submit result sa); unfold submit
    dsimp only
    repeat' split
    all_goals exact ⟨rfl, rfl⟩
  | finish =>
    show Works s s.finish; unfold finish
    split <;> exact ⟨rfl, rfl⟩
  | report =>
    show Works s s.report; unfold report
    split <;> exact ⟨rfl, rfl⟩

theorem settles (n : Nat) : ∀ {s : CommitScheduler} (answers : Nat → Except OsError Unit), s.load < n → s.Alive →
    s.cancelled = false → s.Timed → s.Waits →
    ∃ es : List Step, (∀ e ∈ es, e.IsWorker) ∧ (∃ k, es.filterMap Step.answer = (List.range k).map answers) ∧
      (exec next s es).Settled ∧ (exec next s es).accepted = s.accepted := by
  induction n with
  | zero => exact fun _ h => absurd h (Nat.not_lt_zero _)
  | succ n ih =>
    intro s answers hd hv hca hti hwa
    by_cases hse : s.Settled
    · exact ⟨[], fun e he => (nomatch he), ⟨0, rfl⟩, hse, rfl⟩
    obtain ⟨e, he, hn, hle⟩ := exists_step hv hca hti hwa hse (answers 0)
    have hm := next_move s e
    have hr := works_step s he
    -- an answer that was given is used up
    have hs (anss' : Nat → Except OsError Unit) := ih (s := next s e) anss' (by omega) (hm.alive hv)
      (hr.cancelled.trans hca) (hm.timed hti) (hm.waits hwa)
    rcases hn with hn | hn
    · obtain ⟨es, hw, ⟨k, hk⟩, hs', hac⟩ := hs answers
      refine ⟨e :: es, List.forall_mem_cons.2 ⟨he, hw⟩, ⟨k, ?_⟩, hs', hac.trans hr.accepted⟩
      rw [List.filterMap_cons_none hn, hk]
    obtain ⟨es, hw, ⟨k, hk⟩, hs', hac⟩ := hs fun i => answers (i + 1)
    refine ⟨e :: es, List.forall_mem_cons.2 ⟨he, hw⟩, ⟨k + 1, ?_⟩, hs', hac.trans hr.accepted⟩
    rw [List.filterMap_cons_some hn, hk, List.range_succ_eq_map, List.map_cons, List.map_map]; rfl

end CommitScheduler

end Deniald.Volition
