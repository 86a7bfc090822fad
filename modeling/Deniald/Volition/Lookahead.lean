/-
The lookahead scheduler as a commit queue: what holds of it in every interleaving of its threads, and what does not
when the counter of its arrivals goes around or a job has not left the channel.
-/
import Deniald.Volition.Progress

namespace Deniald.Volition

open Deniald.Lib

namespace CommitScheduler

/-- The first of the due jobs in the heap is attempted first, and among those the first to arrive. -/
def FirstDue (s : CommitScheduler) : Prop :=
  ∀ now delay top scheduled attempted at_, s.queue[top]? = some scheduled → s.phase = .peek →
    (next s (.peek now delay top)).phase = .attempt attempted at_ →
      scheduled.readyAt ≤ now ∧ ∀ other ∈ s.queue,
        scheduled.readyAt < other.readyAt ∨ scheduled.readyAt = other.readyAt ∧ scheduled.arrival ≤ other.arrival

structure Dispatches (s : CommitScheduler) : Prop where
  /-- There are at most as many jobs as slots. -/
  bounded : s.pending ≤ s.capacity ∧ s.waiting.length ≤ s.pending
  /-- A queued job is reported once or on its way, and what is reported of it is about it. -/
  once : s.accepted.Perm (s.reported.map Prod.fst ++ (s.phase.reporting ++ s.waiting)) ∧ ∀ r ∈ s.reported, r.2.names r.1
  /-- Without a shutdown the worker stays, and its steps alone report every queued job, whatever the kernel answers. -/
  settles : s.cancelled = false → s.phase ≠ .exited ∧ ∀ answers : Nat → Except OsError Unit,
    ∃ es : List Step, (∀ e ∈ es, e.IsWorker) ∧ (∃ k, es.filterMap Step.answer = (List.range k).map answers) ∧
      ((exec next s es).reported.map Prod.fst).Perm s.accepted
  /-- A job is retried within its wait from the first attempt, and so at most a thousand times. -/
  retries : ∀ q ∈ s.queue, ∀ first, q.attempts.getLast? = some first →
    q.expiresAt = some (first + lookaheadMaxWait) ∧ (∀ at_ ∈ q.attempts, at_ < first + lookaheadMaxWait) ∧
      q.attempts.length ≤ 1000
  /-- A busy attempt after that is the last one. -/
  expires : ∀ scheduled attemptedAt expiresAt source submittedAt, s.phase = .attempt scheduled attemptedAt →
    scheduled.expiresAt = some expiresAt → isRetryableLookaheadError source = true → expiresAt ≤ attemptedAt →
      (next s (.submit (.error source) submittedAt)).phase =
        .finish scheduled.job (.stalled scheduled.job.instance_ scheduled.job.commit source)
  /-- A job that is retried goes behind every job that is due. -/
  yields : ∀ scheduled attemptedAt source submittedAt, s.phase = .attempt scheduled attemptedAt →
    lookaheadFailureDisposition source attemptedAt (scheduled.expiresAt.getD attemptedAt) = .retry →
      ∃ retried, (next s (.submit (.error source) submittedAt)).queue = s.queue ++ [retried] ∧
        retried.job = scheduled.job ∧ ∀ other ∈ s.queue, other.readyAt ≤ attemptedAt → other.precedes retried = true

variable {s : CommitScheduler} {scheduled : ScheduledCommit}

theorem Timed.retries (h : s.Timed) : ∀ q ∈ s.queue, ∀ first, q.attempts.getLast? = some first →
    q.expiresAt = some (first + lookaheadMaxWait) ∧ (∀ at_ ∈ q.attempts, at_ < first + lookaheadMaxWait) ∧
      q.attempts.length ≤ 1000 := by
  intro q hq first hf
  have hm := h.2 q hq
  have he := hm.expiry; rw [hf] at he
  exact ⟨he, fun at_ hat => hm.before at_ hat _ he, hm.attempts_le⟩

theorem submit_busy {aa ea : Int} {source : OsError}
    (hh : s.phase = .attempt scheduled aa) (he : scheduled.expiresAt = some ea)
    (hs : isRetryableLookaheadError source = true) (hla : ea ≤ aa) (sa : Int) : (s.submit (.error source) sa).phase =
      .finish scheduled.job (.stalled scheduled.job.instance_ scheduled.job.commit source) := by
  have hrec : lookaheadFailureDisposition source aa ea = .recover := by
    unfold lookaheadFailureDisposition
    rw [if_neg fun h => absurd h.2 (not_lt.2 hla), if_pos (.inl hs)]
  unfold submit
  simp [hh, he, hrec]

theorem submit_retry {aa : Int} {source : OsError} (hh : s.phase = .attempt scheduled aa)
    (hr : lookaheadFailureDisposition source aa (scheduled.expiresAt.getD aa) = .retry)
    (sa : Int) : ∃ r, (s.submit (.error source) sa).queue = s.queue ++ [r] ∧
      r.job = scheduled.job ∧ ∀ other ∈ s.queue, other.readyAt ≤ aa → other.precedes r = true := by
  refine ⟨{ scheduled with
    readyAt := aa + lookaheadRetryInterval
    attempts := aa :: scheduled.attempts }, ?_, rfl, fun other _ hd => precedes_iff.2 (.inl ?_)⟩
  · unfold submit
    simp [hh, hr]
  · show other.readyAt < aa + lookaheadRetryInterval
    unfold lookaheadRetryInterval; omega

theorem peek_attempt {now : Int} {d top : Nat} {a : ScheduledCommit} {at_ : Int}
    (hto : s.queue[top]? = some scheduled) (hh : s.phase = .peek) (hat : (s.peek now d top).phase = .attempt a at_) :
    scheduled.readyAt ≤ now ∧ isTop s.queue scheduled = true := by
  have hqu : s.queue ≠ [] := by
    intro he
    rw [he, List.getElem?_nil] at hto; cases hto
  unfold peek at hat
  rw [if_neg (not_not.2 hh), if_neg hqu, hto] at hat; dsimp only at hat
  split at hat
  · rw [hh] at hat; cases hat
  rename_i hs; split at hat
  · cases hat
  · rename_i hd; exact ⟨not_lt.1 hd, not_not.1 hs⟩

theorem firstDue (h : s.Arrived) (hf : s.accepted.length ≤ 2 ^ 64) : s.FirstDue := by
  intro now d top scheduled a at_ hto hh hat
  obtain ⟨hd, hs⟩ := peek_attempt hto hh hat
  exact ⟨hd, fun other ho => isTop_first h hf (List.mem_of_getElem? hto) hs ho⟩

theorem dispatches_exec (cap : Nat) (es : List Step) : (exec next (start cap) es).Dispatches := by
  have hn := accounted_exec cap es
  have hv := alive_exec cap es
  have hm := timed_exec cap es
  have hw := waits_exec cap es
  refine ⟨⟨hn.bound, hn.pending ▸ Nat.le_add_left ..⟩, ⟨?_, (named_exec cap es).2⟩,
    fun hca => ⟨fun he => ?_, fun answers => ?_⟩, hm.retries,
    fun _ _ _ _ sa hh hex hbu hla => submit_busy hh hex hbu hla sa,
    fun _ _ _ sa hh hre => submit_retry hh hre sa⟩
  · refine List.perm_iff_count.2 fun job => ?_
    rw [hn.conserved job, List.count_append, List.count_append, Nat.add_assoc]
  · rw [hv.exited he] at hca; cases hca
  · obtain ⟨es', hwo, hs, ⟨hwa, hr⟩, hac⟩ :=
      settles _ answers (Nat.lt_succ_self _) hv hca hm hw
    refine ⟨es', hwo, hs, List.perm_iff_count.2 fun job => ?_⟩
    have hco := (accounted_exec cap (es ++ es')).conserved job
    rw [exec_append, hac, hwa, hr] at hco; exact hco.symm

end CommitScheduler

open CommitScheduler

/-- In every interleaving of its threads, the scheduler keeps to its capacity, reports every queued job once, retries a
busy one within its wait only, and attempts the first of the due jobs it has received, in the order of their arrival
as long as at most `2⁶⁴` jobs have been queued. -/
theorem lookahead_dispatches (capacity : Nat) (es : List Step) :
    (exec next (start capacity) es).Dispatches ∧
      ((exec next (start capacity) es).accepted.length ≤ 2 ^ 64 → (exec next (start capacity) es).FirstDue) :=
  ⟨dispatches_exec capacity es, firstDue (arrived_exec capacity es)⟩

def jobAt (stream : Nat) (notBefore : Int) : CommitJob := ⟨1, ⟨stream, 0⟩, notBefore⟩

/-- Jobs of two streams are queued and received, the second one due first. -/
def twoStreams : List Step :=
  [.reserve (jobAt 0 10), .send, .reserve (jobAt 1 5), .send, .check, .receive, .receive, .receive]

theorem lookahead_dispatches_two_streams : (exec next (start 2) twoStreams).FirstDue :=
  (lookahead_dispatches 2 twoStreams).2 (by decide)

/-! ## What is not promised -/

/-- The job of stream 0 is queued and received; that of stream 1, due before it, is queued after the drain. -/
def overtaken : List Step :=
  [.reserve (jobAt 0 10), .send, .check, .receive, .receive, .reserve (jobAt 1 5), .send]

/-- A job is queued, attempted at once and reported. -/
def served : List Step :=
  [.reserve (jobAt 0 0), .send, .check, .receive, .receive, .peek 0 0 0, .submit (.ok ()) 0, .finish, .report]

def atRest (order : UInt64) (arrivals : Nat) (accepted : List CommitJob) (reported : List (CommitJob × Event)) :
    CommitScheduler :=
  { capacity := 2, order := order, arrivals := arrivals, accepted := accepted, reported := reported }

theorem served_atRest (order : UInt64) (arrivals : Nat) (accepted : List CommitJob)
    (r : List (CommitJob × Event)) : ∃ a' reported', exec next (atRest order arrivals accepted r) served =
        atRest (order + 1) (arrivals + 1) a' reported' := by
  refine ⟨accepted ++ [jobAt 0 0], r ++ [(jobAt 0 0, .submitted 1 ⟨0, 0⟩ 0)], ?_⟩
  have hto : isTop [⟨jobAt 0 0, 0, none, order, arrivals, []⟩] ⟨jobAt 0 0, 0, none, order, arrivals, []⟩ = true := by
    unfold isTop
    rw [List.all_cons, not_precedes_self]; rfl
  have hk : exec next (atRest order arrivals accepted r)
      [.reserve (jobAt 0 0), .send, .check, .receive, .receive] =
        { atRest (order + 1) (arrivals + 1) (accepted ++ [jobAt 0 0]) r with
          pending := 1
          queue := [⟨jobAt 0 0, 0, none, order, arrivals, []⟩]
          phase := .peek } := rfl
  have hs : served = [.reserve (jobAt 0 0), .send, .check, .receive, .receive] ++
    [.peek 0 0 0, .submit (.ok ()) 0, .finish, .report] := rfl
  rw [hs, exec_append, hk, exec_cons]
  have hat (s : CommitScheduler) (hh : s.phase = .peek) (hqu : s.queue = [⟨jobAt 0 0, 0, none, order, arrivals, []⟩]) :
      next s (.peek 0 0 0) = { s with
        queue := []
        phase := .attempt ⟨jobAt 0 0, 0, some lookaheadMaxWait, order, arrivals, []⟩ 0 } := by
    show s.peek 0 0 0 = _; unfold peek
    rw [if_neg (not_not.2 hh), if_neg (by rw [hqu]; exact List.cons_ne_nil _ _)]
    simp only [hqu, List.getElem?_cons_zero, hto]; rfl
  rw [hat _ rfl rfl]; rfl

/-- A job less than the counter of the orders can tell apart, and then two jobs that are due at once. -/
def wrapped : List Step :=
  (List.replicate (2 ^ 64 - 1) served).flatten ++
    [.reserve (jobAt 0 0), .send, .reserve (jobAt 1 0), .send, .check, .receive, .receive, .receive]

theorem atRest_two (order : UInt64) (arrivals : Nat) (accepted : List CommitJob) (r : List (CommitJob × Event)) :
    exec next (atRest order arrivals accepted r)
        [.reserve (jobAt 0 0), .send, .reserve (jobAt 1 0), .send, .check, .receive, .receive, .receive] =
      { atRest (order + 1 + 1) (arrivals + 1 + 1) (accepted ++ [jobAt 0 0] ++ [jobAt 1 0]) r with
        pending := 2
        queue := [⟨jobAt 0 0, 0, none, order, arrivals, []⟩, ⟨jobAt 1 0, 0, none, order + 1, arrivals + 1, []⟩]
        phase := .peek } := by
  simp [next, atRest, jobAt, reserve, send, check, CommitScheduler.receive, scheduleJob]

theorem not_firstDue {s : CommitScheduler} {order : UInt64} (hw : order + 1 < order) {arrivals : Nat}
    (hh : s.phase = .peek) (hqu : s.queue =
      [⟨jobAt 0 0, 0, none, order, arrivals, []⟩, ⟨jobAt 1 0, 0, none, order + 1, arrivals + 1, []⟩]) : ¬s.FirstDue := by
  intro hf
  have hn : ScheduledCommit.precedes ⟨jobAt 0 0, 0, none, order, arrivals, []⟩
      ⟨jobAt 1 0, 0, none, order + 1, arrivals + 1, []⟩ = false := by
    refine Bool.eq_false_iff.2 fun h => ?_
    rcases precedes_iff.1 h with h | ⟨-, h⟩
    · exact lt_irrefl _ h
    · exact UInt64.lt_irrefl _ (UInt64.lt_trans h hw)
  have hto : isTop s.queue ⟨jobAt 1 0, 0, none, order + 1, arrivals + 1, []⟩ = true := by
    rw [hqu]; unfold isTop
    rw [List.all_cons, List.all_cons, hn, not_precedes_self]; rfl
  have hat : (next s (.peek 0 0 1)).phase =
      .attempt ⟨jobAt 1 0, 0, some (0 + (0 : Nat) + lookaheadMaxWait), order + 1, arrivals + 1, []⟩ (0 + (0 : Nat)) := by
    show (s.peek 0 0 1).phase = _; unfold peek
    rw [if_neg (not_not.2 hh), if_neg (by rw [hqu]; exact List.cons_ne_nil _ _)]
    rw [show s.queue[1]? = some ⟨jobAt 1 0, 0, none, order + 1, arrivals + 1, []⟩ by rw [hqu]; rfl]
    dsimp only
    rw [if_neg (not_not.2 hto), if_neg (lt_irrefl _)]; rfl
  obtain ⟨-, hs⟩ := hf 0 0 1 _ _ _ (by rw [hqu]; rfl) hh hat
  rcases hs ⟨jobAt 0 0, 0, none, order, arrivals, []⟩ (by rw [hqu]; exact List.mem_cons_self ..) with h | ⟨-, h⟩
  · exact lt_irrefl _ h
  · exact Nat.not_succ_le_self _ h

theorem late_or_wrapped :
    (∃ attempted, (next (exec next (start 2) overtaken) (.peek 20 0 0)).phase = .attempt attempted 20 ∧
      ∃ job ∈ (exec next (start 2) overtaken).channel, job.notBefore < attempted.readyAt) ∧
      ¬(exec next (start 2) wrapped).FirstDue := by
  refine ⟨⟨_, rfl, jobAt 1 5, List.mem_singleton_self _, by decide⟩, ?_⟩
  have hres (n : Nat) : ∃ accepted reported,
      exec next (start 2) (List.replicate n served).flatten = atRest (.ofNat n) n accepted reported := by
    induction n with
    | zero => exact ⟨[], [], rfl⟩
    | succ n ih =>
      obtain ⟨accepted, reported, hn⟩ := ih
      obtain ⟨accepted', reported', hser⟩ := served_atRest (.ofNat n) n accepted reported
      refine ⟨accepted', reported', ?_⟩
      rw [List.replicate_succ', List.flatten_append, exec_append, hn, List.flatten_singleton, hser, UInt64.ofNat_add]
      rfl
  obtain ⟨accepted, reported, hn⟩ := hres (2 ^ 64 - 1); unfold wrapped
  rw [exec_append, hn, atRest_two]; exact not_firstDue (by decide) rfl rfl

end Deniald.Volition
