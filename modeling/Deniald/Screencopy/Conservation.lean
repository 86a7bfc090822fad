/-
Conservation of screen copies: over every run in which no presentation returns with requests in its hands, each queued
request is pending, in flight or finished, a finished one was ended once, and the leases are those of the requests in
flight.
-/
import Deniald.Lib.Run
import Deniald.Screencopy.Manager

namespace Deniald.Screencopy

open Deniald.Lib Topology

namespace ScreencopyManager

variable {s s' : ScreencopyManager} {request : PendingScreencopy}

/-! ## Ending a request -/

/-- What the client of a request was told. -/
def sentTo (s : ScreencopyManager) (id : Nat) : List Signal := (s.signals.filter (·.1 = id)).map (·.2)

def Ended (s : ScreencopyManager) (request : PendingScreencopy) : Prop :=
  ((s.sentTo request.id).countP Signal.verdict = 1 ∨
    (s.sentTo request.id).countP Signal.verdict = 0 ∧ s.frameAlive request.frame = false) ∧
  ((s.sentTo request.id).count .release = 1 ∨
    (s.sentTo request.id).count .release = 0 ∧ s.bufferAlive request.buffer = false)

def Ends (s : ScreencopyManager) (request : PendingScreencopy) (s' : ScreencopyManager) : Prop :=
  ∃ signals : List Signal,
    s' = { s with
      signals := s.signals ++ signals.map (request.id, ·)
      finished := s.finished ++ [request] } ∧
    signals.countP Signal.verdict = (if s.frameAlive request.frame then 1 else 0) ∧
    signals.count .release = if s.bufferAlive request.buffer then 1 else 0

theorem ends_release (ss : List Signal) (quiet : ss.count .release = 0)
    (verdict : ss.countP Signal.verdict = if s.frameAlive request.frame then 1 else 0) :
    s.Ends request (((s.release request).send request ss).finish request) := by
  unfold release; split
  · rename_i alive
    refine ⟨.release :: ss, ?_, ?_, ?_⟩
    · simp [send, finish]
    · rw [List.countP_cons_of_neg (by decide), verdict]
    · rw [List.count_cons_self, quiet, if_pos alive]
  · rename_i gone
    refine ⟨ss, rfl, verdict, ?_⟩; rw [quiet, if_neg gone]

theorem send_nil (s : ScreencopyManager) (request : PendingScreencopy) : s.send request [] = s := by
  simp [send]

theorem ends_fail (alive : s.frameAlive request.frame = true) : s.Ends request (s.fail request) :=
  ends_release [.failed] rfl (by rw [if_pos alive]; rfl)

theorem ends_gone (gone : s.frameAlive request.frame = false) :
    s.Ends request ((s.release request).finish request) := by
  have h : s.Ends request (((s.release request).send request []).finish request) := ends_release [] rfl (by rw [gone]; rfl)
  rwa [send_nil] at h

/-! ## Ledger -/

def flying (s : ScreencopyManager) : List PendingScreencopy := s.inFlight.entries.map (·.2.request)

/-- The tokens of the jobs that are to complete, in the order they will. -/
def fifo (s : ScreencopyManager) : List UInt64 :=
  s.completions.map (·.token) ++
    match s.worker with
    | none => []
    | some worker => worker.running.toList ++ worker.jobs

/-- So many tokens that follow one another. -/
def serials (start count : Nat) : List UInt64 := (List.range count).map fun i => serialOf (start + i + 1)

theorem serials_succ (start count : Nat) :
    serials start (count + 1) = serialOf (start + 1) :: serials (start + 1) count := by
  unfold serials
  rw [List.range_succ_eq_map, List.map_cons, List.map_map]
  refine congrArg _ (List.map_congr_left fun i _ => ?_)
  rw [Function.comp_apply, Nat.succ_eq_add_one, Nat.add_right_comm start 1 i, Nat.add_assoc start i 1]

theorem serials_snoc (start cnt : Nat) :
    serials start (cnt + 1) = serials start cnt ++ [serialOf (start + cnt + 1)] := by
  unfold serials
  rw [List.range_succ, List.map_append, List.map_singleton]

@[simp] theorem length_serials (start count : Nat) : (serials start count).length = count := by
  rw [serials, List.length_map, List.length_range]

theorem serial_fresh {start count : Nat} (few : count < cycle) :
    serialOf (start + count + 1) ∉ serials start count := by
  intro mem
  obtain ⟨i, hi, heq⟩ := List.mem_map.1 mem
  have hi := List.mem_range.1 hi
  have := serialOf_inj (by omega : 0 < start + i + 1) (by omega) (by omega) heq
  omega

theorem one_le_serialOf (k : Nat) : max (serialOf (k + 1)) 1 = serialOf (k + 1) := by
  rw [UInt64.max_def]; split
  · rename_i sm
    refine UInt64.toNat_inj.1 ?_
    rw [UInt64.le_iff_toNat_le, serialOf_toNat, UInt64.toNat_one] at sm
    rw [serialOf_toNat, UInt64.toNat_one]; omega
  · rfl

def Stopped (s : ScreencopyManager) : Prop := ∃ worker, s.worker = some worker ∧ worker.stopped = true

/-- While the worker lives, the jobs that are to complete are those in flight, and their tokens follow one another. -/
def Tokens (s : ScreencopyManager) : Prop :=
  s.Stopped ∨ ∃ start,
    s.nextToken = serialOf (start + s.fifo.length + 1) ∧ s.fifo = serials start s.fifo.length ∧
    s.inFlight.keys.Perm s.fifo ∧ (s.worker = none → s.completions = [])

/-- The accounts of the manager, with some requests in hand. -/
structure Ledger (s : ScreencopyManager) (held : List PendingScreencopy) : Prop where
  conserved : ((held ++ s.flying ++ s.finished).map (·.id)).Perm (List.range s.accepted)
  known : ∀ request ∈ held ++ s.flying ++ s.finished,
    request.frame < s.frames.length ∧ request.buffer < s.buffers.length
  quiet : ∀ sent ∈ s.signals, sent.1 ∈ s.finished.map (·.id)
  ended : ∀ request ∈ s.finished, s.Ended request
  leases : s.leases = s.inFlight.entries.length
  bounded : s.inFlight.entries.length ≤ maxInFlightScreencopies
  tokens : s.Tokens

namespace Ledger

variable {held before after : List PendingScreencopy}

theorem nodup (h : Ledger s held) : ((held ++ s.flying ++ s.finished).map (·.id)).Nodup :=
  h.conserved.nodup_iff.2 List.nodup_range

theorem perm {he' : List PendingScreencopy} (h : Ledger s held) (perm : he'.Perm held) : Ledger s he' where
  conserved := (((perm.append_right _).append_right _).map _).trans h.conserved
  known := fun request mem => h.known request (((perm.append_right _).append_right _).mem_iff.1 mem)
  quiet := h.quiet
  ended := h.ended
  leases := h.leases
  bounded := h.bounded
  tokens := h.tokens

theorem not_finished (h : Ledger s held) (mem : request ∈ held) : request.id ∉ s.finished.map (·.id) := by
  have hn := h.nodup; rw [List.map_append, List.nodup_append] at hn
  intro hf
  refine hn.2.2 _ ?_ _ hf rfl; rw [List.map_append]
  exact List.mem_append_left _ (List.mem_map_of_mem mem)

theorem settle (h : Ledger s (before ++ request :: after)) (ends : s.Ends request s') :
    Ledger s' (before ++ after) := by
  obtain ⟨signals, rfl, verdict, release⟩ := ends
  have fresh : request.id ∉ s.finished.map (·.id) := h.not_finished (by simp)
  have old : s.sentTo request.id = [] := by
    rw [sentTo, List.map_eq_nil_iff, List.filter_eq_nil_iff]; intro sent hmem heq
    exact fresh (of_decide_eq_true heq ▸ h.quiet sent hmem)
  have new (id : Nat) : sentTo { s with
      signals := s.signals ++ signals.map (request.id, ·), finished := s.finished ++ [request] } id =
      s.sentTo id ++ if request.id = id then signals else [] := by
    unfold sentTo; rw [List.filter_append, List.map_append]
    congr 1; split
    · rename_i heq; subst heq
      rw [List.filter_eq_self.2 (by simp), List.map_map]; exact List.map_id _
    · rename_i hne
      rw [List.filter_eq_nil_iff.2 (by simp [hne])]; rfl
  have perm : (before ++ after ++ s.flying ++ (s.finished ++ [request])).Perm
      (before ++ request :: after ++ s.flying ++ s.finished) := by
    rw [← List.append_assoc]
    refine (List.perm_append_singleton _ _).trans ?_
    simp only [List.append_assoc, List.cons_append]; exact List.perm_middle.symm
  refine ⟨(perm.map _).trans h.conserved, fun other mem => h.known other (perm.mem_iff.1 mem), ?_, ?_, h.leases,
    h.bounded, h.tokens⟩
  · intro sent hmem; rw [List.map_append]
    rcases List.mem_append.1 hmem with hmem | hmem
    · exact List.mem_append_left _ (h.quiet sent hmem)
    · obtain ⟨sg, -, rfl⟩ := List.mem_map.1 hmem
      exact List.mem_append_right _ (List.mem_singleton_self _)
  · intro other hmem
    rcases List.mem_append.1 hmem with hmem | hmem
    · have hne : request.id ≠ other.id := fun heq => fresh (heq ▸ List.mem_map_of_mem hmem)
      obtain ⟨hv, hr⟩ := h.ended other hmem
      refine ⟨?_, ?_⟩ <;> rw [new, if_neg hne, List.append_nil] <;> assumption
    obtain rfl := List.mem_singleton.1 hmem
    refine ⟨?_, ?_⟩ <;> rw [new, old, if_pos rfl, List.nil_append]
    · rw [verdict]
      by_cases alive : s.frameAlive other.frame = true
      · exact .inl (if_pos alive)
      · exact .inr ⟨if_neg alive, Bool.eq_false_iff.2 alive⟩
    · rw [release]
      by_cases alive : s.bufferAlive other.buffer = true
      · exact .inl (if_pos alive)
      · exact .inr ⟨if_neg alive, Bool.eq_false_iff.2 alive⟩

end Ledger

/-! ## Tokens -/

theorem Tokens.of_fifo (h : s.Tokens) (fifo : s'.fifo = s.fifo) (keys : s'.inFlight.keys = s.inFlight.keys)
    (nextToken : s'.nextToken = s.nextToken) (st : s.Stopped → s'.Stopped)
    (a : s'.worker = none → s.worker = none ∧ s'.completions = s.completions) : s'.Tokens := by
  refine h.imp st fun ⟨start, hn, hf, hk, hno⟩ => ⟨start, ?_, ?_, ?_, fun h => ?_⟩
  · rw [fifo, nextToken, hn]
  · rw [fifo]; exact hf
  · rw [fifo, keys]; exact hk
  · rw [(a h).2, hno (a h).1]

variable {completions : List CaptureCompletion} {held : List PendingScreencopy} {capture : InFlightScreencopy}

theorem Tokens.pop {comp : CaptureCompletion} (h : s.Tokens) (he : s.completions = comp :: completions) :
    s.Stopped ∨
    (s.inFlight.lookup comp.token).isSome = true ∧
      { s with completions, inFlight := s.inFlight.erase comp.token, leases := s.leases - 1 }.Tokens := by
  refine h.imp id fun ⟨start, hn, hf, hk, hno⟩ => ?_
  have cons : s.fifo = comp.token :: { s with completions }.fifo := by
    simp [fifo, he]
  have rest : { s with completions }.fifo = serials (start + 1) { s with completions }.fifo.length ∧
      comp.token = serialOf (start + 1) := by
    rw [cons, List.length_cons, serials_succ] at hf
    exact ⟨(List.cons.inj hf).2, (List.cons.inj hf).1⟩
  have mem : comp.token ∈ s.inFlight.keys := hk.mem_iff.2 (by rw [cons]; exact List.mem_cons_self ..)
  refine ⟨mem_keys_iff.1 mem, .inr ⟨start + 1, ?_, rest.1, ?_, fun h => ?_⟩⟩
  · rw [cons, List.length_cons] at hn
    have index (cnt : Nat) : start + (cnt + 1) + 1 = start + 1 + cnt + 1 := by omega
    rw [index] at hn; exact hn
  · show (s.inFlight.erase comp.token).keys.Perm { s with completions }.fifo; rw [AList.keys_erase]
    have := hk.erase comp.token
    rwa [cons, List.erase_cons_head] at this
  · have := hno h
    rw [he] at this; cases this

theorem Tokens.push {worker : CaptureWorker} (capture : InFlightScreencopy) (leases : Nat) (h : s.Tokens)
    (present : s.worker = some worker) (live : worker.stopped = false) (few : s.inFlight.entries.length < 4) :
    s.inFlight.lookup (max s.nextToken 1) = none ∧
    { s with
      nextToken := bump (max s.nextToken 1)
      worker := some { worker with jobs := worker.jobs ++ [max s.nextToken 1] }
      inFlight := s.inFlight.insert (max s.nextToken 1) capture
      leases }.Tokens := by
  rcases h with ⟨wk', present', stopped⟩ | ⟨start, hn, hf, hk, hno⟩
  · obtain rfl := Option.some.inj (present.symm.trans present')
    rw [live] at stopped; cases stopped
  have count : s.fifo.length < 4 := by
    rw [← hk.length_eq, ← length_entries]; exact few
  have token : max s.nextToken 1 = serialOf (start + s.fifo.length + 1) := by rw [hn, one_le_serialOf]
  have fresh : max s.nextToken 1 ∉ s.fifo := by
    rw [token, hf, length_serials]; exact serial_fresh (by unfold cycle; omega)
  have absent : s.inFlight.lookup (max s.nextToken 1) = none := by
    refine AList.lookup_eq_none.2 fun mem => fresh (hk.mem_iff.1 (AList.mem_keys.1 mem))
  refine ⟨absent, ?_⟩
  generalize max s.nextToken 1 = next at *
  have longer : fifo { s with
      nextToken := bump next
      worker := some { worker with jobs := worker.jobs ++ [next] }
      inFlight := s.inFlight.insert next capture
      leases } = s.fifo ++ [next] := by
    simp [fifo, present]
  refine .inr ⟨start, ?_, ?_, ?_, nofun⟩
  · rw [longer, List.length_append, List.length_singleton, ← Nat.add_assoc]
    show bump next = _
    rw [token]; rfl
  · rw [longer, List.length_append, List.length_singleton, serials_snoc, ← token, ← hf]
  · rw [longer]
    show (s.inFlight.insert next capture).keys.Perm _; rw [keys_insert_of_none _ absent]
    exact (List.Perm.cons _ hk).trans (List.perm_append_singleton _ _).symm

theorem Tokens.skip (h : s.Tokens) (unused : s.worker = none ∨ s.Stopped) :
    { s with nextToken := bump (max s.nextToken 1) }.Tokens := by
  rcases h with stopped | ⟨start, hn, hf, hk, hno⟩
  · exact .inl stopped
  rcases unused with absent | stopped
  · have empty : s.fifo = [] := by simp [fifo, absent, hno absent]
    have empty' : { s with nextToken := bump (max s.nextToken 1) }.fifo = [] := empty
    refine .inr ⟨start + 1, ?_, by rw [empty']; rfl, by rw [empty']; rw [empty] at hk; exact hk, hno⟩
    rw [empty] at hn
    rw [empty', hn, one_le_serialOf]; rfl
  · exact .inl stopped

/-! ## Presentations -/

/-- The request gets as far as the worker, if there is one. -/
def Reaches (s : ScreencopyManager) (output : OutputId) (retain : Nat → Bool) (request : PendingScreencopy) : Prop :=
  request.target.output = output ∧ s.inFlight.entries.length < maxInFlightScreencopies ∧
    s.frameAlive request.frame = true ∧ s.bufferAlive request.buffer = true ∧ retain request.id = true

/-- The state with one more token taken. -/
abbrev skipToken (s : ScreencopyManager) : ScreencopyManager := { s with nextToken := bump (max s.nextToken 1) }

inductive Turned (s : ScreencopyManager) (output : OutputId) (presented : Nat) (retain : Nat → Bool) (queued : Nat)
    (request : PendingScreencopy) : ScreencopyManager × Turn → Prop
  | waits (reason : request.target.output ≠ output ∨ maxCopiesPerPresentation ≤ queued ∨
      maxInFlightScreencopies ≤ s.inFlight.entries.length) :
    Turned s output presented retain queued request (s, .retained)
  | full (worker : CaptureWorker) (few : s.inFlight.entries.length < maxInFlightScreencopies)
      (present : s.worker = some worker)
      (live : worker.stopped = false) (jobs : maxInFlightScreencopies ≤ worker.jobs.length) :
    Turned s output presented retain queued request (s.skipToken, .retained)
  | settled (s' : ScreencopyManager) (ends : s.Ends request s') :
      Turned s output presented retain queued request (s', .done)
  | disconnected (s' : ScreencopyManager) (stopped : s.Stopped) (ends : s.skipToken.Ends request s') :
    Turned s output presented retain queued request (s', .done)
  | sent (worker : CaptureWorker) (few : s.inFlight.entries.length < maxInFlightScreencopies)
      (present : s.worker = some worker)
      (live : worker.stopped = false) :
    Turned s output presented retain queued request ({ s with
      nextToken := bump (max s.nextToken 1)
      worker := some { worker with jobs := worker.jobs ++ [max s.nextToken 1] }
      inFlight := s.inFlight.insert (max s.nextToken 1) { request, presented }
      leases := s.leases + 1 - if (s.inFlight.lookup (max s.nextToken 1)).isSome then 1 else 0 }, .queued)
  | exit (s' : ScreencopyManager) (absent : s.worker = none) (reaches : s.Reaches output retain request)
      (ends : s.skipToken.Ends request s') :
    Turned s output presented retain queued request (s', .exit)

theorem turned (out : OutputId) (p : Nat) (retain : Nat → Bool) (queued : Nat) (request : PendingScreencopy) :
    Turned s out p retain queued request (s.turn out p retain queued request) := by
  unfold turn; split
  · exact .waits ‹_›
  rename_i r
  simp only [not_or, not_not, Nat.not_le] at r; split
  · rename_i gone; exact .settled _ (ends_gone (by simpa using gone))
  rename_i frame
  have frame : s.frameAlive request.frame = true := by simpa using frame
  split
  · rename_i gone
    refine .settled _ ⟨[.failed], rfl, by rw [if_pos frame]; rfl, ?_⟩
    rw [if_neg (by simpa using gone)]; rfl
  rename_i buffer
  have buffer : s.bufferAlive request.buffer = true := by simpa using buffer
  split
  · exact .settled _ (ends_fail frame)
  rename_i retained
  have reaches : s.Reaches out retain request := ⟨r.1, r.2.2, frame, buffer, by simpa using retained⟩
  unfold submit
  simp only
  split
  · exact .exit _ ‹_› reaches (ends_fail frame)
  rename_i worker present; unfold trySubmit
  by_cases stopped : worker.stopped = true
  · rw [if_pos stopped]
    exact .disconnected _ ⟨worker, present, stopped⟩ (ends_fail frame)
  have live := Bool.eq_false_iff.2 stopped; rw [if_neg stopped]
  by_cases full : maxInFlightScreencopies ≤ worker.jobs.length
  · rw [if_pos full]; exact .full worker r.2.2 present live full
  · rw [if_neg full]; exact .sent worker r.2.2 present live

namespace Ledger

variable {held before after : List PendingScreencopy}

theorem with_tokens (h : Ledger s held) (tokens : s.skipToken.Tokens) : Ledger s.skipToken held where
  conserved := h.conserved
  known := h.known
  quiet := h.quiet
  ended := h.ended
  leases := h.leases
  bounded := h.bounded
  tokens := tokens

theorem not_full {worker : CaptureWorker} (h : Ledger s held)
    (few : s.inFlight.entries.length < maxInFlightScreencopies) (present : s.worker = some worker)
    (live : worker.stopped = false) : worker.jobs.length < maxInFlightScreencopies := by
  rcases h.tokens with ⟨wk', present', stopped⟩ | ⟨start, -, -, hk, -⟩
  · obtain rfl := Option.some.inj (present.symm.trans present')
    rw [live] at stopped; cases stopped
  · rw [length_entries, hk.length_eq] at few
    simp only [fifo, present, List.length_append] at few; omega

theorem launch {worker : CaptureWorker} {presented : Nat} (h : Ledger s (before ++ request :: after))
    (few : s.inFlight.entries.length < maxInFlightScreencopies) (present : s.worker = some worker)
    (live : worker.stopped = false) : Ledger { s with
      nextToken := bump (max s.nextToken 1)
      worker := some { worker with jobs := worker.jobs ++ [max s.nextToken 1] }
      inFlight := s.inFlight.insert (max s.nextToken 1) { request, presented }
      leases := s.leases + 1 - if (s.inFlight.lookup (max s.nextToken 1)).isSome then 1 else 0 }
      (before ++ after) := by
  obtain ⟨absent, ts⟩ := h.tokens.push { request, presented }
    (s.leases + 1 - if (s.inFlight.lookup (max s.nextToken 1)).isSome then 1 else 0) present live few
  have entries : (s.inFlight.insert (max s.nextToken 1) { request, presented }).entries =
      ⟨max s.nextToken 1, { request, presented }⟩ :: s.inFlight.entries := by
    rw [AList.entries_insert_of_notMem (AList.lookup_eq_none.1 absent)]
  have perm : (before ++ after ++ ((s.inFlight.insert (max s.nextToken 1) { request, presented }).entries.map
      (·.2.request)) ++ s.finished).Perm (before ++ request :: after ++ s.flying ++ s.finished) := by
    rw [entries, List.map_cons]
    simp only [List.append_assoc, List.cons_append]
    refine List.Perm.append_left before ?_; exact List.perm_middle
  refine ⟨(perm.map _).trans h.conserved, fun other mem => h.known other (perm.mem_iff.1 mem), h.quiet, h.ended, ?_, ?_,
    ts⟩
  · rw [entries, absent, List.length_cons, ← h.leases]; rfl
  · rw [entries]; exact few

end Ledger

/-- What a presentation must not find: without a worker, a request gets as far as one, and others are in hand. -/
def Safe (s : ScreencopyManager) (output : OutputId) (retain : Nat → Bool)
    (retained requests : List PendingScreencopy) : Prop :=
  ∀ before request after, requests = before ++ request :: after → s.Reaches output retain request →
    after = [] ∧ retained = [] ∧ ∀ other ∈ before, other.target.output = output

theorem Ends.frame (ends : s.Ends request s') : s'.worker = s.worker ∧ s'.inFlight = s.inFlight ∧
    s'.frames = s.frames ∧ s'.buffers = s.buffers := by
  obtain ⟨_, rfl, -⟩ := ends; exact ⟨rfl, rfl, rfl, rfl⟩

theorem Safe.of_frame {o : OutputId} {retain : Nat → Bool} {r requests : List PendingScreencopy}
    (h : s.Safe o retain r (request :: requests)) (ifl : s'.inFlight = s.inFlight)
    (frames : s'.frames = s.frames) (buffers : s'.buffers = s.buffers) : s'.Safe o retain r requests := by
  intro before other after split reaches
  unfold Reaches frameAlive bufferAlive at reaches; rw [ifl, frames, buffers] at reaches
  obtain ⟨last, alone, same⟩ := h (request :: before) other after (by rw [split]; rfl) reaches
  exact ⟨last, alone, fun other mem => same other (List.mem_cons_of_mem _ mem)⟩

theorem processLoop_ledger (o : OutputId) (p : Nat) (retain : Nat → Bool) :
    ∀ (queued : Nat) (retained requests : List PendingScreencopy) (s : ScreencopyManager),
      Ledger s (retained ++ requests) →
      s.worker.isSome = true ∨ queued = 0 ∧ s.Safe o retain retained requests →
      Ledger (processLoop o p retain queued retained s requests).1
        ((processLoop o p retain queued retained s requests).2.getD [])
  | _, retained, [], s, h, _ => by
    rw [List.append_nil] at h; exact h
  | queued, retained, request :: rest, s, h, guard => by
    unfold processLoop
    have turned := turned (s := s) o p retain queued request
    generalize s.turn o p retain queued request = outcome at turned
    cases turned with
    | waits r =>
      refine processLoop_ledger _ _ _ _ _ _ _ (by rw [List.append_assoc]; exact h) (guard.imp id ?_)
      rintro ⟨nq, safe⟩
      refine ⟨nq, fun before other after split reaches => ?_⟩
      -- A request that waits is of another output, unless none can get as far as the worker.
      obtain ⟨-, -, same⟩ := safe (request :: before) other after (by rw [split]; rfl) reaches
      rcases r with apart | many | busy
      · exact absurd (same request (List.mem_cons_self ..)) apart
      · rw [nq] at many; exact absurd many (by decide)
      · exact absurd reaches.2.1 (Nat.not_lt.2 busy)
    | full worker few present live jobs => exact absurd (h.not_full few present live) (Nat.not_lt.2 jobs)
    | settled s' ends =>
      obtain ⟨hw, hif, hf, hbu⟩ := ends.frame
      refine processLoop_ledger _ _ _ _ _ _ _ (h.settle ends) ?_; rw [hw]
      exact guard.imp id fun safe => ⟨safe.1, safe.2.of_frame hif hf hbu⟩
    | disconnected s' stopped ends =>
      obtain ⟨hw, -⟩ := ends.frame
      have h' := h.with_tokens (h.tokens.skip (.inr stopped))
      obtain ⟨worker, present, -⟩ := stopped
      refine processLoop_ledger _ _ _ _ _ _ _ (h'.settle ends) (.inl ?_)
      rw [hw, show s.skipToken.worker = some worker from present]; rfl
    | sent worker few present live =>
      exact processLoop_ledger _ _ _ _ _ _ _ (h.launch few present live) (.inl rfl)
    | exit s' absent reaches ends =>
      rcases guard with present | ⟨-, safe⟩
      · rw [absent] at present; cases present
      · obtain ⟨rfl, rfl, -⟩ := safe [] request rest rfl reaches
        exact (h.with_tokens (h.tokens.skip (.inl absent))).settle ends

/-- The presentation finds the worker, or leaves nobody without it. -/
def Whole (s : ScreencopyManager) : ScreencopyEvent → Prop
  | .presented _ _ output _ retain => s.worker.isSome = true ∨ s.Safe output retain [] s.pending
  | _ => True

theorem Ledger.with_pending (h : Ledger s held) (pending : List PendingScreencopy) :
    Ledger { s with pending } held where
  conserved := h.conserved
  known := h.known
  quiet := h.quiet
  ended := h.ended
  leases := h.leases
  bounded := h.bounded
  tokens := h.tokens

/-- The loop does not touch `pending`. -/
theorem processLoop_pending (out : OutputId) (p : Nat) (retain : Nat → Bool) :
    ∀ (queued : Nat) (retained requests : List PendingScreencopy) (s : ScreencopyManager),
      (processLoop out p retain queued retained s requests).1.pending = s.pending
  | _, _, [], _ => rfl
  | queued, retained, request :: rest, s => by
    have ends {s s' : ScreencopyManager} (h : s.Ends request s') : s'.pending = s.pending := by
      obtain ⟨_, rfl, -⟩ := h; rfl
    unfold processLoop
    have turned := turned (s := s) out p retain queued request
    generalize s.turn out p retain queued request = outcome at turned
    cases turned with
    | waits | full | sent => exact processLoop_pending _ _ _ _ _ _ _
    | settled s' h => exact (processLoop_pending _ _ _ _ _ _ _).trans (ends h)
    | disconnected s' _ h =>
      have kept : s'.pending = s.skipToken.pending := ends h
      exact (processLoop_pending _ _ _ _ _ _ _).trans kept
    | exit s' _ _ h =>
      have kept : s'.pending = s.skipToken.pending := ends h
      exact kept

theorem Ledger.processScreencopies (h : Ledger s s.pending) (width height : Nat) (out : OutputId) (p : Nat)
    (retain : Nat → Bool) (w : s.worker.isSome = true ∨ s.Safe out retain [] s.pending) :
    Ledger (s.processScreencopies width height out p retain)
      (s.processScreencopies width height out p retain).pending := by
  unfold ScreencopyManager.processScreencopies; split
  · exact h
  have done := processLoop_ledger out p retain 0 [] s.pending { s with pending := [] } (h.with_pending [])
    (w.imp id fun safe => ⟨rfl, safe⟩)
  have pending := processLoop_pending out p retain 0 [] s.pending { s with pending := [] }
  generalize processLoop out p retain 0 [] { s with pending := [] } s.pending = outcome at done pending
  obtain ⟨s', retained | retained⟩ := outcome
  · have empty : s'.pending = [] := pending
    rw [← empty] at done; exact done
  · simp only [show s'.pending = [] from pending, List.append_nil]; exact done.with_pending retained

/-! ## Requests that are let go -/

theorem Ends.pending (ends : s.Ends request s') : s'.pending = s.pending := by
  obtain ⟨_, rfl, -⟩ := ends; rfl

theorem Ledger.letGo (letGo : ScreencopyManager → PendingScreencopy → ScreencopyManager)
    {kept : List PendingScreencopy} : ∀ {r : List PendingScreencopy} {s : ScreencopyManager},
      Ledger s (kept ++ r) →
      (∀ request ∈ r, ∀ s' : ScreencopyManager, s'.frames = s.frames → s'.Ends request (letGo s' request)) →
      Ledger (r.foldl letGo s) kept ∧ (r.foldl letGo s).pending = s.pending
  | [], s, h, _ => by
    rw [List.append_nil] at h; exact ⟨h, rfl⟩
  | request :: r, s, h, ends => by
    have one := ends request (List.mem_cons_self ..) s rfl
    obtain ⟨l, pending⟩ := Ledger.letGo letGo (h.settle one) fun other mem s' fs =>
      ends other (List.mem_cons_of_mem _ mem) s' (fs.trans one.frame.2.2.1)
    exact ⟨l, pending.trans one.pending⟩

theorem Ledger.retainPending {keep : PendingScreencopy → Bool}
    {letGo : ScreencopyManager → PendingScreencopy → ScreencopyManager} (h : Ledger s s.pending)
    (ends : ∀ request ∈ s.pending, keep request = false → ∀ s' : ScreencopyManager, s'.frames = s.frames →
      s'.Ends request (letGo s' request)) :
    Ledger (s.retainPending keep letGo) (s.retainPending keep letGo).pending := by
  have split : (s.pending.filter keep ++ s.pending.filter fun request => !keep request).Perm s.pending :=
    List.filter_append_perm ..
  obtain ⟨l, pending⟩ := Ledger.letGo letGo
    ((h.perm split).with_pending (s.pending.filter keep)) fun request mem s' fs => by
      obtain ⟨mem, gone⟩ := List.mem_filter.1 mem
      exact ends request mem (by simpa using gone) s' fs
  rw [ScreencopyManager.retainPending, pending]; exact l

theorem Ledger.frameDestroyed (h : Ledger s s.pending) (frame : Nat) :
    Ledger (s.frameDestroyed frame) (s.frameDestroyed frame).pending := by
  unfold ScreencopyManager.frameDestroyed; split
  · exact h
  rename_i gone
  refine h.retainPending fun request _ same s' fs => ends_gone ?_
  obtain rfl : request.frame = frame := by simpa using same
  rw [frameAlive, fs]
  simpa [frameAlive] using gone

theorem Ledger.cancel (h : Ledger s held) (cancelled : InFlightScreencopy → Bool) :
    Ledger { s with
      inFlight := mapValues (fun capture => if cancelled capture then { capture with cancelled := true } else capture)
        s.inFlight } held := by
  have flying : (mapValues (fun capture => if cancelled capture then { capture with cancelled := true } else capture)
      s.inFlight).entries.map (·.2.request) = s.flying := by
    simp only [mapValues, List.map_map]
    refine List.map_congr_left fun ent _ => ?_
    simp only [Function.comp_apply]
    split <;> rfl
  have keys : (mapValues (fun capture => if cancelled capture then { capture with cancelled := true } else capture)
      s.inFlight).keys = s.inFlight.keys := by
    simp only [AList.keys, List.keys, mapValues, List.map_map]; rfl
  have length : (mapValues (fun capture => if cancelled capture then { capture with cancelled := true } else capture)
      s.inFlight).entries.length = s.inFlight.entries.length := List.length_map ..
  refine ⟨?_, ?_, h.quiet, h.ended, ?_, ?_, h.tokens.of_fifo rfl keys rfl id fun h => ⟨h, rfl⟩⟩
  · rw [ScreencopyManager.flying, flying]; exact h.conserved
  · rw [ScreencopyManager.flying, flying]; exact h.known
  · rw [length]; exact h.leases
  · rw [length]; exact h.bounded

theorem Ledger.failScreencopies (h : Ledger s s.pending) (f : OutputId → Bool) :
    Ledger (s.failScreencopies f) (s.failScreencopies f).pending := by
  refine Ledger.cancel (h.retainPending fun request _ _ s' _ => ends_release _ ?_ ?_) _
  · split <;> rfl
  · split <;> rfl

/-! ## Completions -/

theorem readySignals_release (capture : InFlightScreencopy) : (readySignals capture).count .release = 0 := by
  unfold readySignals
  split <;> simp

theorem readySignals_verdict (capture : InFlightScreencopy) : (readySignals capture).countP Signal.verdict = 1 := by
  unfold readySignals
  split <;> rfl

theorem Ledger.land {t : UInt64} (h : Ledger s held) (f : s.inFlight.lookup t = some capture)
    (ts : { s with completions, inFlight := s.inFlight.erase t, leases := s.leases - 1 }.Tokens) :
    Ledger { s with completions, inFlight := s.inFlight.erase t, leases := s.leases - 1 }
      (capture.request :: held) := by
  have entries := perm_entries_erase f
  have length : s.inFlight.entries.length = (s.inFlight.erase t).entries.length + 1 := entries.length_eq
  have perm : (capture.request :: held ++ (s.inFlight.erase t).entries.map (·.2.request) ++ s.finished).Perm
      (held ++ s.flying ++ s.finished) := by
    refine List.Perm.append_right _ (List.Perm.trans ?_ (List.Perm.append_left held (entries.map _)).symm)
    exact List.perm_middle.symm
  refine ⟨(perm.map _).trans h.conserved, fun request mem => h.known request (perm.mem_iff.1 mem), h.quiet, h.ended, ?_,
    ?_, ts⟩
  · have leases := h.leases
    show s.leases - 1 = (s.inFlight.erase t).entries.length; omega
  · have bounded := h.bounded
    show (s.inFlight.erase t).entries.length ≤ maxInFlightScreencopies; omega

theorem finishScreencopy_ends {t : UInt64} (result : Option CapturePayload) (a : Option Nat)
    (f : s.inFlight.lookup t = some capture) :
    { s with inFlight := s.inFlight.erase t, leases := s.leases - 1 }.Ends capture.request
      (s.finishScreencopy ⟨t, result⟩ a) := by
  unfold finishScreencopy
  simp only [f]
  refine ends_release _ ?_ ?_
  · split
    · rfl
    split
    · exact readySignals_release capture
    · rfl
  · split
    · rename_i gone; rw [if_neg (by simpa using gone)]; rfl
    rename_i alive
    refine Eq.trans ?_ (if_pos (by simpa using alive)).symm; split
    · exact readySignals_verdict capture
    · rfl

theorem Ledger.deliver (h : Ledger s s.pending) (a : Option Nat) : Ledger (s.deliver a) (s.deliver a).pending := by
  unfold ScreencopyManager.deliver; split
  · exact h
  rename_i completion completions he
  obtain ⟨t, result⟩ := completion
  cases found : s.inFlight.lookup t with
  | none =>
    -- A completion nobody waits for; while the worker lives, there is none.
    unfold finishScreencopy
    simp only [found]
    refine ⟨h.conserved, h.known, h.quiet, h.ended, h.leases, h.bounded, .inl ?_⟩
    rcases h.tokens.pop he with stopped | ⟨w, -⟩
    · exact stopped
    · rw [found] at w; cases w
  | some capture =>
    have ends := finishScreencopy_ends (s := { s with completions }) result a found
    have tokens : { s with
        completions, inFlight := s.inFlight.erase t, leases := s.leases - 1 }.Tokens :=
      (h.tokens.pop he).elim .inl (·.2)
    rw [ends.pending]
    have landed : Ledger _ ([] ++ capture.request :: s.pending) := h.land found tokens
    exact landed.settle ends

/-! ## Steps -/

theorem Ledger.objects {frames : List Frame} {buffers : List Buffer} (h : Ledger s held)
    (fl : s.frames.length ≤ frames.length) (bl : s.buffers.length ≤ buffers.length)
    (fg : ∀ frame < s.frames.length, s.frameAlive frame = false →
      { s with frames, buffers }.frameAlive frame = false)
    (bg : ∀ buffer < s.buffers.length, s.bufferAlive buffer = false →
      { s with frames, buffers }.bufferAlive buffer = false) :
    Ledger { s with frames, buffers } held where
  conserved := h.conserved
  known := fun request mem =>
    ⟨(h.known request mem).1.trans_le fl, (h.known request mem).2.trans_le bl⟩
  quiet := h.quiet
  ended := fun request mem => by
    obtain ⟨frame, buffer⟩ := h.known request (List.mem_append_right _ mem)
    obtain ⟨verdict, release⟩ := h.ended request mem
    exact ⟨verdict.imp id fun ⟨silent, gone⟩ => ⟨silent, fg _ frame gone⟩,
      release.imp id fun ⟨silent, gone⟩ => ⟨silent, bg _ buffer gone⟩⟩
  leases := h.leases
  bounded := h.bounded
  tokens := h.tokens

theorem modify_gone {α : Type} (alive : α → Bool) (f : α → α) (dead : ∀ a, alive a = false → alive (f a) = false)
    (l : List α) (i j : Nat) (h : l[j]?.any alive = false) : (l.modify i f)[j]?.any alive = false := by
  rw [List.getElem?_modify]
  cases found : l[j]? with
  | none => simp
  | some a =>
    rw [found] at h
    have gone : alive a = false := by simpa using h
    by_cases same : i = j
    · simpa [same] using dead a gone
    · simpa [same] using gone

theorem Ledger.queueScreencopy (h : Ledger s s.pending) (frame buffer : Nat) (dmg : Bool) :
    Ledger (s.queueScreencopy frame buffer dmg) (s.queueScreencopy frame buffer dmg).pending := by
  have claimed : Ledger (s.claim frame) s.pending :=
    h.objects (List.length_modify ..).ge le_rfl
      (fun _ _ gone => modify_gone Frame.alive (fun f => { f with used := true }) (fun _ h => h) _ _ _ gone)
      fun _ _ gone => gone
  unfold ScreencopyManager.queueScreencopy; split
  · exact claimed
  rename_i target dmabuf checked
  -- The frame and the buffer have passed the checks, so they exist.
  have exist : frame < s.frames.length ∧ buffer < s.buffers.length := by
    unfold checkScreencopy at checked; split at checked
    · rename_i hf hbu
      exact ⟨(List.getElem?_eq_some_iff.1 hf).1, (List.getElem?_eq_some_iff.1 hbu).1⟩
    · cases checked
  refine ⟨?_, ?_, claimed.quiet, claimed.ended, claimed.leases, claimed.bounded, claimed.tokens⟩
  · show (List.map PendingScreencopy.id (s.pending ++ [⟨s.accepted, frame, target, buffer, dmabuf, dmg⟩] ++
      s.flying ++ s.finished)).Perm (List.range (s.accepted + 1))
    rw [List.range_succ]
    refine List.Perm.trans ?_ (h.conserved.append_right _)
    simp only [List.map_append, List.map_cons, List.map_nil, List.append_assoc]
    refine List.Perm.append_left _ (List.perm_append_comm.trans ?_); rw [List.append_assoc]
  · rintro request mem
    change request ∈ s.pending ++ [⟨s.accepted, frame, target, buffer, dmabuf, dmg⟩] ++ s.flying ++
      s.finished at mem
    simp only [List.append_assoc, List.mem_append, List.mem_singleton] at mem
    show request.frame < (s.frames.modify frame _).length ∧ request.buffer < s.buffers.length
    rw [List.length_modify]
    rcases mem with mem | rfl | mem | mem
    · exact h.known request (by simp [mem])
    · exact exist
    · exact h.known request (by simp [mem])
    · exact h.known request (by simp [mem])

theorem Ledger.worker (h : Ledger s s.pending) {worker : CaptureWorker} (present : s.worker = some worker)
    (next : CaptureWorker) (completions : List CaptureCompletion) (live : worker.stopped = false)
    (fifo : completions.map (·.token) ++ (next.running.toList ++ next.jobs) = s.fifo) :
    Ledger { s with worker := some next, completions } s.pending where
  conserved := h.conserved
  known := h.known
  quiet := h.quiet
  ended := h.ended
  leases := h.leases
  bounded := h.bounded
  tokens := by
    refine h.tokens.of_fifo fifo rfl rfl ?_ nofun
    rintro ⟨other, present', stopped⟩
    obtain rfl := Option.some.inj (present.symm.trans present')
    rw [live] at stopped; cases stopped

theorem Ledger.workerTake (h : Ledger s s.pending) : Ledger s.workerTake s.workerTake.pending := by
  unfold ScreencopyManager.workerTake; split
  · rename_i present
    exact h.worker present _ _ rfl (by simp [fifo, present])
  · exact h

theorem Ledger.workerDone (h : Ledger s s.pending) (result : Option CapturePayload) :
    Ledger (s.workerDone result) (s.workerDone result).pending := by
  unfold ScreencopyManager.workerDone; split
  · rename_i present
    exact h.worker present _ _ rfl (by simp [fifo, present])
  · exact h

theorem Ledger.initScreencopyWorker (h : Ledger s s.pending) (fs : List DmabufFormat) :
    Ledger (s.initScreencopyWorker fs) s.pending where
  conserved := h.conserved
  known := h.known
  quiet := h.quiet
  ended := h.ended
  leases := h.leases
  bounded := h.bounded
  tokens := by
    refine h.tokens.of_fifo ?_ rfl rfl ?_ nofun
    · unfold ScreencopyManager.initScreencopyWorker fifo
      cases s.worker <;> simp
    · rintro ⟨worker, present, stopped⟩
      exact ⟨worker, by simp [ScreencopyManager.initScreencopyWorker, present], stopped⟩

theorem Ledger.workerStop (h : Ledger s s.pending) : Ledger s.workerStop s.pending where
  conserved := h.conserved
  known := h.known
  quiet := h.quiet
  ended := h.ended
  leases := h.leases
  bounded := h.bounded
  tokens := by
    cases present : s.worker with
    | none =>
      refine h.tokens.of_fifo (by simp [ScreencopyManager.workerStop, fifo, present]) rfl rfl ?_ fun _ => ⟨present, rfl⟩
      rintro ⟨_, some, -⟩
      rw [present] at some; cases some
    | some worker => exact .inl ⟨{ stopped := true }, by simp [ScreencopyManager.workerStop, present], rfl⟩

theorem ledger_next (h : Ledger s s.pending) (ev : ScreencopyEvent) (whole : s.Whole ev) :
    Ledger (s.next ev) (s.next ev).pending := by
  cases ev with
  | frame target =>
    refine h.objects (by simp) le_rfl (fun frame hlt gone => ?_) fun _ _ gone => gone
    unfold frameAlive at gone ⊢
    rwa [List.getElem?_append_left hlt]
  | buffer contents =>
    refine h.objects le_rfl (by simp) (fun _ _ gone => gone) fun buffer hlt gone => ?_
    unfold bufferAlive at gone ⊢
    rwa [List.getElem?_append_left hlt]
  | copy frame buffer dmg => exact h.queueScreencopy frame buffer dmg
  | killFrame frame =>
    exact h.objects (List.length_modify ..).ge le_rfl
      (fun _ _ gone => modify_gone Frame.alive _ (fun _ _ => rfl) _ _ _ gone)
      fun _ _ gone => gone
  | frameDestroyed frame => exact h.frameDestroyed frame
  | killBuffer buffer =>
    exact h.objects le_rfl (List.length_modify ..).ge (fun _ _ gone => gone)
      fun _ _ gone => modify_gone Buffer.alive _ (fun _ _ => rfl) _ _ _ gone
  | presented width height out presented retain =>
    exact h.processScreencopies width height out presented retain whole
  | completion access => exact h.deliver access
  | outputRemoved out => exact h.failScreencopies (· == out)
  | topologyChanged => exact h.failScreencopies fun _ => true
  | rendererReady formats => exact h.initScreencopyWorker formats
  | workerTake => exact h.workerTake
  | workerDone result => exact h.workerDone result
  | workerStop => exact h.workerStop

/-! ## Runs -/

theorem ledger_start : Ledger ({} : ScreencopyManager) [] where
  conserved := .nil
  known := nofun
  quiet := nofun
  ended := nofun
  leases := rfl
  bounded := Nat.zero_le _
  tokens := .inr ⟨0, rfl, rfl, .nil, fun _ => rfl⟩

variable (events : List ScreencopyEvent)

/-- Over every run in which each presentation finds the worker, or leaves nobody without it: the queued requests are
those pending, in flight and finished, each once; a finished one was told one verdict, unless its frame was destroyed,
and its buffer was released once, unless it was destroyed; the others were told nothing; and the leases are those of the
requests in flight, of which there are not too many. -/
theorem screencopies_conserved (whole : Along next Whole {} events) :
    let s := exec next {} events
    ((s.pending ++ s.flying ++ s.finished).map (·.id)).Perm (List.range s.accepted) ∧
    (∀ request ∈ s.finished, s.Ended request) ∧
    (∀ request ∈ s.pending ++ s.flying, s.sentTo request.id = []) ∧
    s.flying.length ≤ maxInFlightScreencopies ∧ s.leases = s.flying.length := by
  intro s
  have h : Ledger s s.pending :=
    exec_invariant_along (I := fun s : ScreencopyManager => Ledger s s.pending) (fun _ event h => ledger_next h event)
      ledger_start whole
  have length : s.flying.length = s.inFlight.entries.length := List.length_map ..
  refine ⟨h.conserved, h.ended, fun request mem => ?_, length ▸ h.bounded, length ▸ h.leases⟩
  -- What was told was told to requests that are finished.
  rw [sentTo, List.map_eq_nil_iff, List.filter_eq_nil_iff]; intro sent hmem same
  have finished := h.quiet sent hmem; rw [of_decide_eq_true same] at finished
  have nodup := h.nodup; rw [List.map_append, List.nodup_append] at nodup
  exact nodup.2.2 _ (List.mem_map_of_mem mem) _ finished rfl

/-- A request that is copied, while another's frame goes. -/
theorem copied_and_cancelled :
    let target : CaptureTarget := ⟨1, 2, 1⟩
    let buffer : BufferContents := .shm 8 ⟨0, 8, 2, 1, .xrgb8888⟩
    let s := exec next {} [.rendererReady [], .frame (some target), .frame (some target), .buffer buffer,
      .buffer buffer,
      .copy 0 0 true, .copy 1 1 false, .killFrame 1, .presented 2 1 1 1500000000 (fun _ => true), .frameDestroyed 1,
      .workerTake, .workerDone (some (.shm 8)), .completion (some 8)]
    s.leases = 0 ∧ s.Ended ⟨0, 0, target, 0, false, true⟩ ∧
      s.sentTo 0 = [.release, .flags, .damage 2 1, .ready 0 1 500000000] ∧ s.sentTo 1 = [.release] := by
  intro target buffer s
  have conserved := screencopies_conserved [.rendererReady [], .frame (some target), .frame (some target),
    .buffer buffer, .buffer buffer, .copy 0 0 true, .copy 1 1 false, .killFrame 1,
    .presented 2 1 1 1500000000 (fun _ => true), .frameDestroyed 1, .workerTake, .workerDone (some (.shm 8)),
    .completion (some 8)] ⟨trivial, trivial, trivial, trivial, trivial, trivial, trivial, trivial, .inl rfl, trivial,
      trivial, trivial, trivial, trivial⟩
  refine ⟨conserved.2.2.2.2.trans (by decide +kernel), conserved.2.1 _ (by decide +kernel), by decide +kernel,
    by decide +kernel⟩

/-- Without a worker, the first of two requests fails and the presentation returns; the second is in no list any more,
and its client is told nothing. -/
theorem request_lost_without_worker :
    let target : CaptureTarget := ⟨1, 2, 1⟩
    let buffer : BufferContents := .shm 8 ⟨0, 8, 2, 1, .xrgb8888⟩
    let s := exec next {} [.frame (some target), .frame (some target), .buffer buffer, .buffer buffer, .copy 0 0 false,
      .copy 1 1 false, .presented 2 1 1 0 (fun _ => true)]
    s.accepted = 2 ∧ ¬((s.pending ++ s.flying ++ s.finished).map (·.id)).Perm (List.range s.accepted) ∧
      s.sentTo 1 = [] ∧ s.frameAlive 1 = true := by
  decide +kernel

end ScreencopyManager

end Deniald.Screencopy
