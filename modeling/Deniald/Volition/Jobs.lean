/-
What becomes of the jobs of the lookahead scheduler, whatever the interleaving of its threads: there are never more of
them than its capacity, and every job that was queued is either still on its way or has been reported once.
-/
import Deniald.Volition.Scheduler

namespace Deniald.Volition

open Deniald.Lib
open CommitScheduler

def Phase.hand : Phase → List CommitJob
  | .attempt scheduled _ => [scheduled.job]
  | .finish job _ => [job]
  | _ => []

/-- The job whose event is about to be reported. -/
def Phase.reporting : Phase → List CommitJob
  | .report job _ => [job]
  | _ => []

/-- The worker has no job in its hands. -/
def Phase.Idle (phase : Phase) : Prop := phase.hand = [] ∧ phase.reporting = []

def Event.names (event : Event) (job : CommitJob) : Prop :=
  match event with
  | .submitted instance_ commit _ | .stalled instance_ commit _ | .failed instance_ commit _ =>
    instance_ = job.instance_ ∧ commit = job.commit

namespace CommitScheduler

/-! ## What a step can do -/

/-- The effects a step can have. -/
inductive Move (s : CommitScheduler) : CommitScheduler → Prop where
  | stay : Move s s
  | reserve (job : CommitJob) (free : s.reserving = none) (alive : s.isOpen = true ∧ s.cancelled = false)
      (room : s.pending < s.capacity) : Move s { s with pending := s.pending + 1, reserving := some job }
  | refuse (job : CommitJob) (reserved : s.reserving = some job)
      (full : s.phase = .exited ∨ s.capacity ≤ s.channel.length) :
      Move s { s with pending := s.pending - 1, reserving := none }
  | queue (job : CommitJob) (reserved : s.reserving = some job) : Move s { s with
      reserving := none
      channel := s.channel ++ [job]
      accepted := s.accepted ++ [job] }
  | cancel (free : s.reserving = none) : Move s { s with cancelled := true }
  | close (cancelled : s.cancelled = true) : Move s { s with isOpen := false }
  | rest (phase : Phase) (connected : Bool) (idle : s.phase.Idle) (idle' : phase.Idle)
      (exits : phase = .exited → s.cancelled = true ∨ s.connected = false ∨ s.isOpen = false)
      (blocks : phase = .blocked → s.queue = [])
      (disconnects : connected = s.connected ∨ s.isOpen = false) :
      Move s { s with phase := phase, connected := connected }
  | receive (job : CommitJob) (channel : List CommitJob) (phase : Phase) (first : s.channel = job :: channel)
      (idle : s.phase.Idle) (idle' : phase.Idle) (stays : phase ≠ .exited ∧ phase ≠ .blocked) :
      Move s ({ s with channel := channel, phase := phase }.scheduleJob job)
  | pop (now : Int) (delay top : Nat) (scheduled : ScheduledCommit) (peeks : s.phase = .peek)
      (located : s.queue[top]? = some scheduled) (least : isTop s.queue scheduled = true)
      (due : scheduled.readyAt ≤ now) : Move s { s with
        queue := s.queue.eraseIdx top
        phase := .attempt { scheduled with
          expiresAt := some (scheduled.expiresAt.getD (now + delay + lookaheadMaxWait)) } (now + delay) }
  | retry (scheduled : ScheduledCommit) (attemptedAt : Int) (source : OsError)
      (attempts : s.phase = .attempt scheduled attemptedAt)
      (retries : lookaheadFailureDisposition source attemptedAt (scheduled.expiresAt.getD attemptedAt) = .retry) :
      Move s { s with
        queue := s.queue ++ [{ scheduled with
          readyAt := attemptedAt + lookaheadRetryInterval
          attempts := attemptedAt :: scheduled.attempts }]
        phase := .check }
  | finish (scheduled : ScheduledCommit) (attemptedAt : Int) (event : Event)
      (attempts : s.phase = .attempt scheduled attemptedAt) (names : event.names scheduled.job) :
      Move s { s with phase := .finish scheduled.job event }
  | release (job : CommitJob) (event : Event) (finished : s.phase = .finish job event) :
      Move s { s with pending := s.pending - 1, phase := .report job event }
  | report (job : CommitJob) (event : Event) (released : s.phase = .report job event) :
      Move s { s with reported := s.reported ++ [(job, event)], phase := .check }

theorem receive_move (s : CommitScheduler) : Move s s.receive := by
  unfold receive; split
  · rename_i job c hh hn
    have hm := Move.receive (s := s) job c s.phase hn (by rw [hh]; exact ⟨rfl, rfl⟩)
      (by rw [hh]; exact ⟨rfl, rfl⟩) (by rw [hh]; exact ⟨fun h => (nomatch h), fun h => nomatch h⟩)
    exact hm
  · rename_i hh hn
    have hd : s.phase.Idle := by rw [hh]; exact ⟨rfl, rfl⟩
    split
    · exact .rest .peek s.connected hd ⟨rfl, rfl⟩ (fun h => nomatch h) (fun h => nomatch h) (.inl rfl)
    · rename_i hs
      exact .rest .peek false hd ⟨rfl, rfl⟩ (fun h => nomatch h) (fun h => nomatch h) (.inr (Bool.eq_false_iff.2 hs))
  · rename_i job c hh hn
    exact .receive job c .check hn (by rw [hh]; exact ⟨rfl, rfl⟩) ⟨rfl, rfl⟩ ⟨fun h => (nomatch h), fun h => nomatch h⟩
  · rename_i hh hn; split
    · exact .stay
    · rename_i hs
      exact .rest .exited s.connected (by rw [hh]; exact ⟨rfl, rfl⟩) ⟨rfl, rfl⟩
        (fun _ => .inr (.inr (Bool.eq_false_iff.2 hs))) (fun h => nomatch h) (.inl rfl)
  · rename_i job c hh hn; split
    · exact .receive job c .check hn (by rw [hh]; exact ⟨rfl, rfl⟩) ⟨rfl, rfl⟩ ⟨fun h => (nomatch h), fun h => nomatch h⟩
    · exact .stay
  · rename_i hh hn; split
    · rename_i hs
      exact .rest .check false (by rw [hh]; exact ⟨rfl, rfl⟩) ⟨rfl, rfl⟩ (fun h => nomatch h) (fun h => nomatch h)
        (.inr (Bool.eq_false_iff.2 hs.2))
    · exact .stay
  · exact .stay

theorem peek_move (s : CommitScheduler) (now : Int) (d top : Nat) : Move s (s.peek now d top) := by
  unfold peek
  by_cases hh : s.phase = .peek
  · have hd : s.phase.Idle := by rw [hh]; exact ⟨rfl, rfl⟩
    rw [if_neg (not_not.2 hh)]; split
    · rename_i he; split
      · exact .rest .blocked s.connected hd ⟨rfl, rfl⟩ (fun h => nomatch h) (fun _ => he) (.inl rfl)
      · rename_i hdi
        exact .rest .exited s.connected hd ⟨rfl, rfl⟩ (fun _ => .inr (.inl (Bool.eq_false_iff.2 hdi)))
          (fun h => nomatch h) (.inl rfl)
    · split
      · exact .stay
      rename_i scheduled hto; split
      · exact .stay
      · rename_i hs; split
        · exact .rest .sleeping s.connected hd ⟨rfl, rfl⟩ (fun h => nomatch h) (fun h => nomatch h) (.inl rfl)
        · rename_i hdu
          exact .pop now d top scheduled hh hto (not_not.1 hs) (not_lt.1 hdu)
  · rw [if_pos hh]; exact .stay

theorem submit_move (s : CommitScheduler) (result : Except OsError Unit) (sa : Int) : Move s (s.submit result sa) := by
  unfold submit; split
  · rename_i scheduled aa hh; dsimp only; split
    · exact .finish scheduled aa _ hh ⟨rfl, rfl⟩
    rename_i source; split
    · rename_i hr
      exact .retry scheduled aa source hh hr
    · exact .finish scheduled aa _ hh ⟨rfl, rfl⟩
    · exact .finish scheduled aa _ hh ⟨rfl, rfl⟩
  · exact .stay

theorem next_move (s : CommitScheduler) (e : Step) : Move s (next s e) := by
  cases e with
  | reserve job =>
    show Move s (s.reserve job); unfold reserve
    split_ifs with h
    · exact .reserve job h.2.2.1 ⟨h.1, Bool.eq_false_iff.2 h.2.1⟩ h.2.2.2
    · exact .stay
  | send =>
    show Move s s.send; unfold send
    split
    · exact .stay
    rename_i job hr
    split_ifs with hf
    · exact .refuse job hr hf
    · exact .queue job hr
  | cancel =>
    show Move s s.cancel; unfold cancel
    split_ifs with h
    · exact .cancel h
    · exact .stay
  | close =>
    show Move s s.close; unfold close
    split_ifs with h
    · exact .close h
    · exact .stay
  | check =>
    show Move s s.check; unfold check
    by_cases hh : s.phase = .check
    · have hd : s.phase.Idle := by rw [hh]; exact ⟨rfl, rfl⟩
      rw [if_neg (not_not.2 hh)]; split
      · rename_i hn
        exact .rest .exited s.connected hd ⟨rfl, rfl⟩ (fun _ => .inl hn) (fun h => nomatch h) (.inl rfl)
      split
      · exact .rest .drain s.connected hd ⟨rfl, rfl⟩ (fun h => nomatch h) (fun h => nomatch h) (.inl rfl)
      · exact .rest .peek s.connected hd ⟨rfl, rfl⟩ (fun h => nomatch h) (fun h => nomatch h) (.inl rfl)
    · rw [if_pos hh]; exact .stay
  | receive => exact receive_move s
  | peek now d top => exact peek_move s now d top
  | wake =>
    show Move s s.wake; unfold wake
    split
    · rename_i hh
      exact .rest .check s.connected (by rw [hh]; exact ⟨rfl, rfl⟩) ⟨rfl, rfl⟩ (fun h => nomatch h) (fun h => nomatch h) (.inl rfl)
    · exact .stay
  | submit result sa => exact submit_move s result sa
  | finish =>
    show Move s s.finish; unfold finish
    split
    · rename_i job event hh; exact .release job event hh
    · exact .stay
  | report =>
    show Move s s.report; unfold report
    split
    · rename_i job event hh; exact .report job event hh
    · exact .stay

/-! ## The account of the jobs -/

/-- The jobs that hold a slot: in the channel, in the heap, or in the worker's hands. -/
def waiting (s : CommitScheduler) : List CommitJob := s.channel ++ s.queue.map ScheduledCommit.job ++ s.phase.hand

/-- Every slot is held by a job, and every queued job holds one until its event. -/
structure Accounted (s : CommitScheduler) : Prop where
  pending : s.pending = s.reserving.toList.length + s.waiting.length
  bound : s.pending ≤ s.capacity
  conserved : ∀ job, s.accepted.count job =
    (s.reported.map Prod.fst).count job + s.phase.reporting.count job + s.waiting.count job

theorem waiting_count (s : CommitScheduler) (job : CommitJob) :
    s.waiting.count job = s.channel.count job + (s.queue.map ScheduledCommit.job).count job + s.phase.hand.count job := by
  unfold waiting; rw [List.count_append, List.count_append]

theorem waiting_length (s : CommitScheduler) :
    s.waiting.length = s.channel.length + s.queue.length + s.phase.hand.length := by
  unfold waiting
  rw [List.length_append, List.length_append, List.length_map]

variable {s : CommitScheduler} {job : CommitJob}

theorem Accounted.of_same {s' : CommitScheduler} (h : s.Accounted) (hca : s'.capacity = s.capacity)
    (hn : s'.pending = s.pending) (hs : s'.reserving = s.reserving)
    (hac : s'.accepted = s.accepted) (hre : s'.reported = s.reported)
    (hr : s'.phase.reporting = s.phase.reporting) (hw : s'.waiting.Perm s.waiting) : s'.Accounted := by
  refine ⟨?_, ?_, fun job => ?_⟩
  · rw [hn, hs, hw.length_eq]; exact h.pending
  · rw [hn, hca]; exact h.bound
  · rw [hac, hre, hr, hw.count_eq]; exact h.conserved job

variable {phase : Phase}

theorem Accounted.rest (h : s.Accounted) (hh : s.phase.Idle) (hp' : phase.Idle) (connected : Bool) :
    ({ s with phase := phase, connected := connected }).Accounted := by
  refine h.of_same rfl rfl rfl rfl rfl (hp'.2.trans hh.2.symm) ?_
  show (s.channel ++ s.queue.map ScheduledCommit.job ++ phase.hand).Perm (s.channel ++ s.queue.map ScheduledCommit.job ++ s.phase.hand)
  rw [hh.1, hp'.1]

theorem Accounted.receive {channel : List CommitJob} (h : s.Accounted) (hn : s.channel = job :: channel)
    (hh : s.phase.Idle) (hp' : phase.Idle) :
    ({ s with channel := channel, phase := phase }.scheduleJob job).Accounted := by
  refine h.of_same rfl rfl rfl rfl rfl (hp'.2.trans hh.2.symm) ?_
  show (channel ++ (s.queue ++ [(_ : ScheduledCommit)]).map ScheduledCommit.job ++ phase.hand).Perm
    (s.channel ++ s.queue.map ScheduledCommit.job ++ s.phase.hand)
  rw [hn, hh.1, hp'.1, List.append_nil, List.append_nil, List.map_append, ← List.append_assoc]
  exact List.perm_append_comm

theorem Accounted.pop (h : s.Accounted) {top : Nat} {sch : ScheduledCommit}
    (hto : s.queue[top]? = some sch) (hh : s.phase.Idle) (hn : phase.hand = [sch.job])
    (hre : phase.reporting = []) :
    ({ s with queue := s.queue.eraseIdx top, phase := phase } : CommitScheduler).Accounted := by
  refine h.of_same rfl rfl rfl rfl rfl (hre.trans hh.2.symm) ?_
  obtain ⟨hlt, heq⟩ := List.getElem?_eq_some_iff.1 hto
  have hr := (List.getElem_cons_eraseIdx_perm hlt).map ScheduledCommit.job
  rw [heq, List.map_cons] at hr; unfold waiting
  rw [hh.1, hn, List.append_nil, List.append_assoc]
  exact (List.perm_append_comm.trans hr).append_left _

theorem Accounted.queue (h : s.Accounted) (hr : s.reserving = some job) :
    ({ s with
      reserving := none
      channel := s.channel ++ [job]
      accepted := s.accepted ++ [job] } : CommitScheduler).Accounted := by
  have hn := h.pending; rw [hr] at hn
  simp only [Option.toList_some, List.length_singleton] at hn
  have hw : (s.channel ++ [job] ++ s.queue.map ScheduledCommit.job ++ s.phase.hand).Perm (job :: s.waiting) := by
    unfold waiting
    rw [List.append_assoc, List.append_assoc, List.append_assoc, List.singleton_append]
    exact List.perm_middle
  refine ⟨?_, h.bound, fun j => ?_⟩
  · show s.pending = 0 + (s.channel ++ [job] ++ s.queue.map ScheduledCommit.job ++ s.phase.hand).length
    rw [hw.length_eq, List.length_cons]; omega
  · have := h.conserved j
    show (s.accepted ++ [job]).count j = (s.reported.map Prod.fst).count j + s.phase.reporting.count j +
      (s.channel ++ [job] ++ s.queue.map ScheduledCommit.job ++ s.phase.hand).count j
    rw [hw.count_eq, List.count_append, List.count_cons, List.count_cons, List.count_nil]; omega

theorem Accounted.release (h : s.Accounted) {ev : Event} (hh : s.phase = .finish job ev) :
    ({ s with pending := s.pending - 1, phase := .report job ev } : CommitScheduler).Accounted := by
  have hn : s.phase.hand = [job] := by rw [hh]; rfl
  have hpe := h.pending
  have hbo := h.bound
  have hlen := s.waiting_length; rw [hn, List.length_singleton] at hlen
  refine ⟨?_, ?_, fun j => ?_⟩
  · show s.pending - 1 = s.reserving.toList.length + (s.channel ++ s.queue.map ScheduledCommit.job ++ []).length
    rw [List.append_nil, List.length_append, List.length_map]; omega
  · show s.pending - 1 ≤ s.capacity; omega
  · have := h.conserved j
    rw [waiting_count, hh] at this
    show s.accepted.count j = (s.reported.map Prod.fst).count j + [job].count j +
      (s.channel ++ s.queue.map ScheduledCommit.job ++ []).count j
    rw [List.append_nil, List.count_append]
    simp only [Phase.reporting, Phase.hand, List.count_nil] at this; omega

theorem Accounted.report (h : s.Accounted) {ev : Event} (hh : s.phase = .report job ev) :
    ({ s with reported := s.reported ++ [(job, ev)], phase := .check } : CommitScheduler).Accounted := by
  have hn : s.phase.hand = [] := by rw [hh]; rfl
  refine ⟨?_, h.bound, fun j => ?_⟩
  · have := h.pending
    unfold waiting at this
    rw [hn] at this; exact this
  · have := h.conserved j
    rw [waiting_count, hh] at this
    show s.accepted.count j = ((s.reported ++ [(job, ev)]).map Prod.fst).count j + [].count j +
      (s.channel ++ s.queue.map ScheduledCommit.job ++ []).count j
    rw [List.append_nil, List.count_append, List.map_append, List.count_append, List.map_singleton]
    simp only [Phase.reporting, Phase.hand, List.count_nil] at this ⊢; omega

theorem Move.accounted {s' : CommitScheduler} (hm : Move s s') (h : s.Accounted) : s'.Accounted := by
  cases hm with
  | stay => exact h
  | reserve job free alive room =>
    refine ⟨?_, room, h.conserved⟩; have := h.pending
    rw [free] at this
    show s.pending + 1 = 1 + s.waiting.length; rw [this]
    exact (Nat.add_comm ..).trans (congrArg _ (Nat.zero_add _))
  | refuse job reserved full =>
    have hn := h.pending
    have hbo := h.bound; rw [reserved] at hn
    simp only [Option.toList_some, List.length_singleton] at hn
    refine ⟨?_, ?_, h.conserved⟩
    · show s.pending - 1 = 0 + s.waiting.length; omega
    · show s.pending - 1 ≤ s.capacity; omega
  | queue job reserved => exact h.queue reserved
  | cancel free => exact ⟨h.pending, h.bound, h.conserved⟩
  | close cancelled => exact ⟨h.pending, h.bound, h.conserved⟩
  | rest phase c idle idle' es bs disconnects => exact h.rest idle idle' c
  | receive job ch phase first idle idle' ss => exact h.receive first idle idle'
  | pop now d top scheduled ps located l due =>
    exact h.pop located (by rw [ps]; exact ⟨rfl, rfl⟩) rfl rfl
  | retry scheduled aa source attempts retries =>
    refine h.of_same rfl rfl rfl rfl rfl (by rw [attempts]; rfl) ?_
    show (s.channel ++ (s.queue ++ [_]).map ScheduledCommit.job ++ []).Perm
      (s.channel ++ s.queue.map ScheduledCommit.job ++ s.phase.hand)
    rw [attempts, List.append_nil, List.map_append, ← List.append_assoc]; exact List.Perm.refl _
  | finish scheduled aa event attempts names =>
    refine h.of_same rfl rfl rfl rfl rfl (by rw [attempts]; rfl) ?_
    show (s.channel ++ s.queue.map ScheduledCommit.job ++ [scheduled.job]).Perm
      (s.channel ++ s.queue.map ScheduledCommit.job ++ s.phase.hand)
    rw [attempts]; exact List.Perm.refl _
  | release job event finished => exact h.release finished
  | report job event released => exact h.report released

theorem accounted_exec (cap : Nat) (es : List Step) : (exec next (start cap) es).Accounted := by
  have hs : (start cap).Accounted := ⟨rfl, Nat.zero_le _, fun _ => rfl⟩
  exact exec_invariant (I := Accounted) (fun s e h => (next_move s e).accounted h) es hs

end CommitScheduler

/-! ## What is reported, and when the worker is gone -/

/-- An event in the worker's hands is about its job. -/
def Phase.Named : Phase → Prop
  | .finish job event | .report job event => event.names job
  | _ => True

theorem Phase.Idle.named {phase : Phase} (h : phase.Idle) : phase.Named := by
  cases phase with
  | finish job event => cases h.1
  | report job event => cases h.2
  | _ => trivial

namespace CommitScheduler

/-- Every event is about its job. -/
def Named (s : CommitScheduler) : Prop := s.phase.Named ∧ ∀ r ∈ s.reported, r.2.names r.1

variable {s s' : CommitScheduler}

theorem Move.named (hm : Move s s') (h : s.Named) : s'.Named := by
  cases hm with
  | rest phase c idle idle' es bs disconnects => exact ⟨idle'.named, h.2⟩
  | receive job ch phase first idle idle' ss => exact ⟨idle'.named, h.2⟩
  | pop now d top scheduled ps located l due => exact ⟨trivial, h.2⟩
  | retry scheduled aa source attempts retries => exact ⟨trivial, h.2⟩
  | finish scheduled aa event attempts names => exact ⟨names, h.2⟩
  | release job event finished =>
    have := h.1
    rw [finished] at this; exact ⟨this, h.2⟩
  | report job event released =>
    refine ⟨trivial, fun r hr => ?_⟩
    rcases List.mem_append.1 hr with hr | hr
    · exact h.2 r hr
    obtain rfl := List.mem_singleton.1 hr; have := h.1
    rw [released] at this; exact this
  | _ => exact h

/-- Only a shutdown ends the worker. -/
structure Alive (s : CommitScheduler) : Prop where
  exited : s.phase = .exited → s.cancelled = true
  closed : s.isOpen = false → s.cancelled = true
  disconnected : s.connected = false → s.isOpen = false

theorem Move.alive (hm : Move s s') (h : s.Alive) : s'.Alive := by
  cases hm with
  | cancel free => exact ⟨fun _ => rfl, fun _ => rfl, h.disconnected⟩
  | close cancelled => exact ⟨h.exited, fun _ => cancelled, fun _ => rfl⟩
  | rest phase c idle idle' es bs disconnects =>
    refine ⟨fun he => ?_, h.closed, fun hd => ?_⟩
    · rcases es he with hn | hd | hs
      · exact hn
      · exact h.closed (h.disconnected hd)
      · exact h.closed hs
    · rcases disconnects with hsa | hs
      · exact h.disconnected (hsa ▸ hd)
      · exact hs
  | receive job ch phase first idle idle' ss => exact ⟨fun he => absurd he ss.1, h.closed, h.disconnected⟩
  | pop now d top scheduled ps located l due => exact ⟨fun he => (nomatch he), h.closed, h.disconnected⟩
  | retry scheduled aa source attempts retries =>
    exact ⟨fun he => (nomatch he), h.closed, h.disconnected⟩
  | finish scheduled aa event attempts names =>
    exact ⟨fun he => (nomatch he), h.closed, h.disconnected⟩
  | release job event finished => exact ⟨fun he => (nomatch he), h.closed, h.disconnected⟩
  | report job event released => exact ⟨fun he => (nomatch he), h.closed, h.disconnected⟩
  | _ => exact ⟨h.exited, h.closed, h.disconnected⟩

/-- The worker only blocks in `recv` with an empty heap. -/
def Waits (s : CommitScheduler) : Prop := s.phase = .blocked → s.queue = []

theorem Move.waits (hm : Move s s') (h : s.Waits) : s'.Waits := by
  cases hm with
  | rest phase c idle idle' es bs disconnects => exact bs
  | receive job ch phase first idle idle' ss => exact fun hh => absurd hh ss.2
  | pop now d top scheduled ps located l due => exact fun hh => nomatch hh
  | retry scheduled aa source attempts retries => exact fun hh => nomatch hh
  | finish scheduled aa event attempts names => exact fun hh => nomatch hh
  | release job event finished => exact fun hh => nomatch hh
  | report job event released => exact fun hh => nomatch hh
  | _ => exact h

theorem alive_exec (cap : Nat) (es : List Step) : (exec next (start cap) es).Alive := by
  have hs : (start cap).Alive := ⟨fun h => (nomatch h), fun h => (nomatch h), fun h => (nomatch h)⟩
  exact exec_invariant (I := Alive) (fun s e h => (next_move s e).alive h) es hs

theorem waits_exec (cap : Nat) (es : List Step) : (exec next (start cap) es).Waits := by
  have hs : (start cap).Waits := fun _ => rfl
  exact exec_invariant (I := Waits) (fun s e h => (next_move s e).waits h) es hs

theorem named_exec (cap : Nat) (es : List Step) : (exec next (start cap) es).Named := by
  have hs : (start cap).Named := ⟨trivial, fun r hr => nomatch hr⟩
  exact exec_invariant (I := Named) (fun s e h => (next_move s e).named h) es hs

end CommitScheduler

end Deniald.Volition
