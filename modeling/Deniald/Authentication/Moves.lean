/-
What one step of the controller can do: its visible effects, one constructor of `Move` for each outcome, and what every
reachable state has.
-/
import Deniald.Authentication.Controller

namespace Deniald.Authentication

open Deniald.Lib

def Worker.work : Worker → Option WorkItem
  | .running work | .prompting work _ _ _ | .conversing work _ => some work
  | .waiting | .stopped | .finished _ | .publishing => none

def Worker.asks : Worker → Option UInt32
  | .prompting _ sequence true _ | .conversing _ sequence => some sequence
  | _ => none

structure Answer where
  attemptId : UInt64
  sequence : UInt32
  response : SecureString

namespace Controller

variable (s : Controller)

/-! ## Effects -/

def begins : AuthenticationStep → Bool
  | .begin => !s.locking && s.locked && !s.state.busy && s.state.available && !s.coolingDown
  | _ => false

/-- The step takes back whatever attempt is current: a lock, a cancel or a timeout that takes effect, or the drop. -/
def revokes : AuthenticationStep → Bool
  | .lock | .shutdown => !s.locking
  | .cancel attemptId => !s.locking && s.state.cancels attemptId
  | .workerConverse timedOut =>
    match s.worker with
    | .conversing work _ => !s.locking && timedOut && s.state.awaits work.generation
    | _ => false
  | _ => false

def accepted : AuthenticationStep → Option Answer
  | .respond attemptId sequence response =>
    if !s.locking && s.state.accepts attemptId sequence then some ⟨attemptId, sequence, response⟩ else none
  | _ => none

/-- The response the step hands over to the backend, and the attempt and the prompt of the conversation. -/
def handed : AuthenticationStep → Option Answer
  | .workerConverse _ =>
    match s.worker with
    | .conversing work sequence =>
      if s.locking || s.state.awaits work.generation || s.state.cancelled work.generation then none
      else s.state.response.map (⟨work.attemptId, sequence, ·⟩)
    | _ => none
  | _ => none

def prompts : AuthenticationStep → Bool
  | .workerPrompt _ _ =>
    match s.worker with
    | .running work =>
      !s.locking && !s.state.cancelled work.generation && work.attemptId == s.state.activeAttemptId
    | _ => false
  | _ => false

def Quiet (step : AuthenticationStep) : Prop :=
  s.begins step = false ∧ s.revokes step = false ∧ s.accepted step = none ∧ s.handed step = none ∧
    s.prompts step = false

/-! ## Moves -/

/-- Where a caller goes on, and what it does on the way. -/
inductive OperationMove (index : Nat) : Controller → Prop
  | check (at_ : s.operations[index]? = some .acknowledgeCheck) (locked : s.locked = true) :
    OperationMove index (s.replace index .acknowledgeStore)
  | checked (at_ : s.operations[index]? = some .acknowledgeCheck) (unlocked : s.locked = false) :
    OperationMove index (s.drop index)
  | store (at_ : s.operations[index]? = some .acknowledgeStore) :
    OperationMove index ({ s with securityGateLocked := true }.drop index)
  | publish (at_ : s.operations[index]? = some .publishState) (free : s.locking = false) :
    OperationMove index ((s.drop index).pushEvent s.stateEvent)
  | push (event) (at_ : s.operations[index]? = some (.pushThenPublish event)) :
    OperationMove index ((s.replace index .publishState).pushEvent event)
  | state (event) (at_ : s.operations[index]? = some (.synchronize event none)) :
    OperationMove index ((s.drop index).pushEvent event)
  | stateOf (event prompt) (at_ : s.operations[index]? = some (.synchronize event (some prompt))) :
    OperationMove index ((s.replace index (.synchronizePrompt prompt)).pushEvent event)
  | prompt (event) (at_ : s.operations[index]? = some (.synchronizePrompt event)) :
    OperationMove index ((s.drop index).pushEvent event)

inductive Move : AuthenticationStep → Controller → Prop
  | idle {step} (quiet : s.Quiet step) : Move step s
  | tick (elapsed) : Move (.tick elapsed) { s with now := s.now + elapsed }
  | lock (free : s.locking = false) : Move .lock { s with locked := true, locking := true }
  | lockNext (held : s.locking = true) :
    Move .lockNext ({ s with
      securityGateLocked := true
      state := if s.state.busy then s.state.revoke else s.state
      locking := false }.pend .publishState)
  | acknowledge : Move .acknowledge s.acknowledge
  | synchronize (free : s.locking = false) :
    Move .synchronize (s.pend (.synchronize s.stateEvent (s.state.prompt.map s.promptEvent)))
  | refuse (message) (free : s.locking = false) (refused : s.begins .begin = false) :
    Move .begin (s.pend (.pushThenPublish (s.refusal message)))
  | start (free : s.locking = false) (locked : s.locked = true) (idle : s.state.busy = false)
      (available : s.state.available = true) (ready : s.coolingDown = false) :
    Move .begin ({ s with state := s.state.start, starts := s.starts + 1 }.pend .publishState)
  | respond (attemptId sequence response) (free : s.locking = false)
      (accepts : s.state.accepts attemptId sequence = true) :
    Move (.respond attemptId sequence response) { s with state := { s.state with response := some response } }
  | cancel (attemptId) (free : s.locking = false) (cancels : s.state.cancels attemptId = true) :
    Move (.cancel attemptId) ({ s with state := s.state.revoke }.pend .publishState)
  | shutdown (free : s.locking = false) : Move .shutdown { s with state := { s.state.revoke with stopping := true } }
  | operation (index after) (move : s.OperationMove index after) : Move (.operation index) after
  | tryEvent : Move .tryEvent s.tryEvent
  | stop (free : s.locking = false) (worker : s.worker = .waiting) (stopping : s.state.stopping = true) :
    Move .workerTake { s with worker := .stopped }
  | take (work) (free : s.locking = false) (worker : s.worker = .waiting)
      (pending : s.state.pendingWork = some work) :
    Move .workerTake { s with state := { s.state with pendingWork := none }, worker := .running work }
  | ask (style message work) (free : s.locking = false) (worker : s.worker = .running work)
      (wanted : s.state.cancelled work.generation = false) (active : work.attemptId = s.state.activeAttemptId) :
    Move (.workerPrompt style message)
      { s with
        state := s.state.ask style (sanitizeMessage message)
        worker := .prompting work s.state.nextPromptSequence style.requiresResponse
          ⟨.prompt style s.state.nextPromptSequence, s.snapshot, sanitizeMessage message⟩ }
  | converse (work sequence event) (worker : s.worker = .prompting work sequence true event) :
    Move .workerPush ({ s with worker := .conversing work sequence }.pushEvent event)
  | inform (work sequence event) (worker : s.worker = .prompting work sequence false event) :
    Move .workerPush ({ s with worker := .running work }.pushEvent event)
  | timeOut (work sequence) (free : s.locking = false) (worker : s.worker = .conversing work sequence)
      (awaits : s.state.awaits work.generation = true) :
    Move (.workerConverse true) { s with state := s.state.timeOut, worker := .running work }
  | giveUp (timedOut work sequence) (free : s.locking = false) (worker : s.worker = .conversing work sequence)
      (cancelled : s.state.cancelled work.generation = true) :
    Move (.workerConverse timedOut) { s with worker := .running work }
  | answer (timedOut work sequence response) (free : s.locking = false)
      (worker : s.worker = .conversing work sequence) (wanted : s.state.cancelled work.generation = false)
      (answered : s.state.response = some response) :
    Move (.workerConverse timedOut) { s with state := s.state.answer sequence, worker := .running work }
  | succeed (work) (free : s.locking = false) (worker : s.worker = .running work)
      (current : s.state.current work = true) :
    Move (.workerFinish .success) ({ s with locked := false, state := s.state.succeed }.finish
      (·.resultEvent true false "Authentication successful"))
  | settle (result work) (free : s.locking = false) (worker : s.worker = .running work) :
    Move (.workerFinish result) ({ s with state := s.state.settle }.finish
      (·.resultEvent false true "Authentication cancelled"))
  | fail (result work) (free : s.locking = false) (worker : s.worker = .running work) :
    Move (.workerFinish result) ({ s with
      state := s.state.fail s.now
      latestCooldown := (s.state.fail s.now).cooldownUntil }.finish (·.resultEvent false false result.failureMessage))
  | publishResult (event) (worker : s.worker = .finished event) :
    Move .workerPublish ({ s with worker := .publishing }.pushEvent event)
  | publishState (free : s.locking = false) (worker : s.worker = .publishing) :
    Move .workerPublish ({ s with worker := .waiting }.pushEvent s.stateEvent)

variable {s}

theorem quiet_of_locking {step : AuthenticationStep} (held : s.locking = true) : s.Quiet step := by
  cases step <;> simp only [Quiet, begins, revokes, accepted, handed, prompts, held] <;> simp
  all_goals split <;> simp

theorem operation_move (index : Nat) : s.Move (.operation index) (s.operation index) := by
  have idle : s.Move (.operation index) s := .idle ⟨rfl, rfl, rfl, rfl, rfl⟩
  unfold operation; split
  · exact idle
  · rename_i h; split
    · exact .operation _ _ (.check h ‹_›)
    · exact .operation _ _ (.checked h (Bool.eq_false_iff.2 ‹_›))
  · exact .operation _ _ (.store ‹_›)
  · unfold enter; split
    · exact idle
    · exact .operation _ _ (.publish ‹_› (Bool.eq_false_iff.2 ‹_›))
  · exact .operation _ _ (.push _ ‹_›)
  · exact .operation _ _ (.state _ ‹_›)
  · exact .operation _ _ (.stateOf _ _ ‹_›)
  · exact .operation _ _ (.prompt _ ‹_›)

theorem begin_move : s.Move .begin s.begin := by
  unfold begin enter; split
  · exact .idle (quiet_of_locking ‹_›)
  have free := Bool.eq_false_iff.2 ‹¬s.locking = true›; split
  · rename_i h
    have h : s.locked = false ∨ s.state.busy = true := by simpa using h
    exact .idle ⟨by rcases h with h | h <;> simp [begins, h], rfl, rfl, rfl, rfl⟩
  split
  · exact .refuse _ free (by simp_all [begins])
  split
  · exact .refuse _ free (by simp_all [begins])
  · simp only [Bool.or_eq_true, Bool.not_eq_true', not_or, Bool.not_eq_false, Bool.not_eq_true] at *
    exact .start free (by tauto) (by tauto) ‹_› ‹_›

theorem workerTake_move : s.Move .workerTake s.workerTake := by
  have idle : s.Move .workerTake s := .idle ⟨rfl, rfl, rfl, rfl, rfl⟩
  unfold workerTake enter; split
  · exact idle
  have free := Bool.eq_false_iff.2 ‹¬s.locking = true›; split
  · split
    · exact .stop free ‹_› ‹_›
    split
    · exact .take _ free ‹_› ‹_›
    · exact idle
  · exact idle

theorem workerPrompt_move (st : PromptStyle) (message : String) :
    s.Move (.workerPrompt st message) (s.workerPrompt st message) := by
  unfold workerPrompt enter; split
  · exact .idle (quiet_of_locking ‹_›)
  have free := Bool.eq_false_iff.2 ‹¬s.locking = true›; split
  · rename_i work worker; split
    · rename_i h
      refine .idle ⟨rfl, rfl, rfl, rfl, ?_⟩
      simp only [prompts, worker]
      simp only [Bool.or_eq_true, bne_iff_ne] at h
      rcases h with h | h <;> simp [h]
    · rename_i h
      simp only [Bool.or_eq_true, bne_iff_ne, not_or, Bool.not_eq_true, not_not] at h
      exact .ask _ _ _ free worker h.1 h.2
  · refine .idle ⟨rfl, rfl, rfl, rfl, ?_⟩; unfold prompts
    split <;> simp_all

theorem workerPush_move : s.Move .workerPush s.workerPush := by
  unfold workerPush; split
  · rename_i work sequence requiresResponse event worker
    cases requiresResponse with
    | true => exact .converse _ _ _ worker
    | false => exact .inform _ _ _ worker
  · exact .idle ⟨rfl, rfl, rfl, rfl, rfl⟩

theorem workerConverse_move (timedOut : Bool) : s.Move (.workerConverse timedOut) (s.workerConverse timedOut) := by
  unfold workerConverse enter; split
  · exact .idle (quiet_of_locking ‹_›)
  have free := Bool.eq_false_iff.2 ‹¬s.locking = true›; split
  · rename_i work sequence worker; split
    · rename_i awaits
      cases timedOut with
      | true => exact .timeOut _ _ free worker awaits
      | false => exact .idle ⟨rfl, by simp [revokes, worker], rfl, by simp [handed, worker, awaits], rfl⟩
    rename_i settled; split
    · rename_i h
      refine .giveUp _ _ _ free worker ?_
      simp only [AuthenticationState.awaits, Bool.and_eq_true, Bool.not_eq_true', not_and] at settled
      by_contra hc; rw [Bool.or_eq_true] at h
      exact settled (Bool.eq_false_iff.2 hc) (h.resolve_left hc)
    · rename_i h
      simp only [Bool.or_eq_true, not_or, Bool.not_eq_true, Option.isNone_eq_false_iff] at h
      obtain ⟨response, answered⟩ := Option.isSome_iff_exists.1 h.2
      exact .answer _ _ _ response free worker h.1 answered
  · refine .idle ⟨rfl, ?_, rfl, ?_, rfl⟩
    · unfold revokes
      split <;> simp_all
    · unfold handed
      split <;> simp_all

theorem workerFinish_move (result : BackendResult) : s.Move (.workerFinish result) (s.workerFinish result) := by
  have idle : s.Move (.workerFinish result) s := .idle ⟨rfl, rfl, rfl, rfl, rfl⟩
  unfold workerFinish enter; split
  · exact idle
  have free := Bool.eq_false_iff.2 ‹¬s.locking = true›; split
  · rename_i work worker; split
    · rename_i h
      obtain ⟨current, rfl⟩ : _ ∧ result = .success := by simpa using h
      exact .succeed _ free worker current
    split
    · exact .settle _ _ free worker
    · exact .fail _ _ free worker
  · exact idle

theorem workerPublish_move : s.Move .workerPublish s.workerPublish := by
  have idle : s.Move .workerPublish s := .idle ⟨rfl, rfl, rfl, rfl, rfl⟩
  unfold workerPublish; split
  · exact .publishResult _ ‹_›
  · unfold enter; split
    · exact idle
    · exact .publishState (Bool.eq_false_iff.2 ‹_›) ‹_›
  · exact idle

theorem next_move (step : AuthenticationStep) : s.Move step (s.next step) := by
  cases step with
  | tick elapsed => exact .tick elapsed
  | lock =>
    simp only [next, Controller.lock, enter]; split
    · exact .idle (quiet_of_locking ‹_›)
    · exact .lock (Bool.eq_false_iff.2 ‹_›)
  | lockNext =>
    simp only [next, Controller.lockNext]; split
    · exact .lockNext ‹_›
    · exact .idle ⟨rfl, rfl, rfl, rfl, rfl⟩
  | acknowledge => exact .acknowledge
  | synchronize =>
    simp only [next, Controller.synchronize, enter]; split
    · exact .idle (quiet_of_locking ‹_›)
    · exact .synchronize (Bool.eq_false_iff.2 ‹_›)
  | begin => exact begin_move
  | respond attemptId sequence response =>
    simp only [next, Controller.respond, enter]; split
    · exact .idle (quiet_of_locking ‹_›)
    split
    · exact .respond _ _ _ (Bool.eq_false_iff.2 ‹_›) ‹_›
    · exact .idle ⟨rfl, rfl, by simp_all [accepted], rfl, rfl⟩
  | cancel attemptId =>
    simp only [next, Controller.cancel, enter]; split
    · exact .idle (quiet_of_locking ‹_›)
    split
    · exact .cancel _ (Bool.eq_false_iff.2 ‹_›) ‹_›
    · exact .idle ⟨rfl, by simp_all [revokes], rfl, rfl, rfl⟩
  | shutdown =>
    simp only [next, Controller.shutdown, enter]; split
    · exact .idle (quiet_of_locking ‹_›)
    · exact .shutdown (Bool.eq_false_iff.2 ‹_›)
  | operation index => exact operation_move index
  | tryEvent => exact .tryEvent
  | workerTake => exact workerTake_move
  | workerPrompt style message => exact workerPrompt_move style message
  | workerPush => exact workerPush_move
  | workerConverse timedOut => exact workerConverse_move timedOut
  | workerFinish result => exact workerFinish_move result
  | workerPublish => exact workerPublish_move

end Controller

/-! ## Invariant -/

/-- An attempt is pending or with the worker, of a locked session; its prompt is the one the worker asks, and a response
is for the prompt. -/
structure Valid (locked : Bool) (state : AuthenticationState) (worker : Worker) : Prop where
  busy_iff : state.busy = true ↔ state.pendingWork.isSome = true ∨ worker.work.isSome = true
  exclusive : state.pendingWork.isSome = true → worker.work = none
  locked_of_busy : state.busy = true → locked = true
  current : ∀ prompt, state.prompt = some prompt → ∃ work, worker.work = some work ∧
    state.cancelled work.generation = false ∧ work.attemptId = state.activeAttemptId
  asked : ∀ prompt, state.prompt = some prompt → prompt.requiresResponse = true → worker.asks = some prompt.sequence
  prompted : state.response.isSome = true → ∃ prompt, state.prompt = some prompt ∧ prompt.requiresResponse = true

namespace Valid

variable {locked : Bool} {state : AuthenticationState} {worker : Worker}

variable {state' : AuthenticationState} {work : WorkItem} {event : AuthenticationEvent}

theorem unprompted (h : Valid locked state worker) (busy : state'.busy = state.busy)
    (pending : state'.pendingWork = state.pendingWork) (pr : state'.prompt = none)
    (r : state'.response = none) : Valid locked state' worker where
  busy_iff := by rw [busy, pending]; exact h.busy_iff
  exclusive := by rw [pending]; exact h.exclusive
  locked_of_busy := by rw [busy]; exact h.locked_of_busy
  current := fun p hp => by rw [pr] at hp; cases hp
  asked := fun p hp => by rw [pr] at hp; cases hp
  prompted := fun hr => by rw [r] at hr; cases hr

theorem idle {wk' : Worker} (h : Valid locked state worker) (before : worker.work = none)
    (after : wk'.work = none) : Valid locked state wk' where
  busy_iff := by rw [after, ← before]; exact h.busy_iff
  exclusive := fun _ => after
  locked_of_busy := h.locked_of_busy
  current := fun p hp => by
    obtain ⟨work, hw, -⟩ := h.current p hp
    rw [before] at hw; cases hw
  asked := fun p hp => by
    obtain ⟨work, hw, -⟩ := h.current p hp
    rw [before] at hw; cases hw
  prompted := h.prompted

theorem lock (h : Valid locked state worker) : Valid true state worker := { h with locked_of_busy := fun _ => rfl }

theorem start (h : Valid true state worker) (idle : state.busy = false) : Valid true state.start worker where
  busy_iff := iff_of_true rfl (.inl rfl)
  exclusive := fun _ => by
    have h := h.busy_iff.not
    rw [idle, not_or] at h; exact Option.not_isSome_iff_eq_none.1 (h.1 nofun).2
  locked_of_busy := fun _ => rfl
  current := nofun
  asked := nofun
  prompted := nofun

theorem respond {att : UInt64} {seq : UInt32} {response : SecureString} (h : Valid locked state worker)
    (accepts : state.accepts att seq = true) :
    Valid locked { state with response := some response } worker where
  busy_iff := h.busy_iff
  exclusive := h.exclusive
  locked_of_busy := h.locked_of_busy
  current := h.current
  asked := h.asked
  prompted := fun _ => by
    simp only [AuthenticationState.accepts, Bool.and_eq_true, Option.any_eq_true] at accepts
    obtain ⟨⟨-, prompt, hr, required, -⟩, -⟩ := accepts; exact ⟨prompt, hr, required⟩

theorem take (h : Valid locked state .waiting) (pending : state.pendingWork = some work) :
    Valid locked { state with pendingWork := none } (.running work) where
  busy_iff := iff_of_true (h.busy_iff.2 (.inl (by rw [pending]; rfl))) (.inr rfl)
  exclusive := nofun
  locked_of_busy := h.locked_of_busy
  current := fun p hp => by
    obtain ⟨work, hw, -⟩ := h.current p hp; cases hw
  asked := fun p hp => by
    obtain ⟨work, hw, -⟩ := h.current p hp; cases hw
  prompted := h.prompted

theorem attempt {wk' : Worker} (h : Valid locked state worker) (before : worker.work = some work)
    (after : wk'.work = some work) (asked : ∀ prompt, state.prompt = some prompt → prompt.requiresResponse = true →
      wk'.asks = some prompt.sequence) : Valid locked state wk' where
  busy_iff := by rw [after, ← before]; exact h.busy_iff
  exclusive := by rw [after, ← before]; exact h.exclusive
  locked_of_busy := h.locked_of_busy
  current := by rw [after, ← before]; exact h.current
  asked := asked
  prompted := h.prompted

theorem ask {st : PromptStyle} {message : String} (h : Valid locked state (.running work))
    (wanted : state.cancelled work.generation = false) (a : work.attemptId = state.activeAttemptId) :
    Valid locked (state.ask st message) (.prompting work state.nextPromptSequence st.requiresResponse event) where
  busy_iff := h.busy_iff
  exclusive := h.exclusive
  locked_of_busy := h.locked_of_busy
  current := fun _ _ => ⟨work, rfl, wanted, a⟩
  asked := by
    rintro prompt hr required
    obtain rfl : _ = prompt := Option.some.inj hr
    simp only at required
    rw [required]; rfl
  prompted := nofun

theorem finish {locked' : Bool} (h : Valid locked state (.running work)) (busy : state'.busy = false)
    (pending : state'.pendingWork = state.pendingWork) (prompt : state'.prompt = none)
    (response : state'.response = none) : Valid locked' state' (.finished event) where
  busy_iff := by
    rw [busy, pending]
    refine iff_of_false nofun (not_or_intro (fun hp => ?_) nofun); exact nomatch h.exclusive hp
  exclusive := fun _ => rfl
  locked_of_busy := fun hb => by rw [busy] at hb; cases hb
  current := fun p hp => by rw [prompt] at hp; cases hp
  asked := fun p hp => by rw [prompt] at hp; cases hp
  prompted := fun hr => by rw [response] at hr; cases hr

theorem prompt_sequence {sequence : UInt32} {p : PromptState}
    (h : Valid locked state (.conversing work sequence)) (set : state.prompt = some p)
    (required : p.requiresResponse = true) : p.sequence = sequence :=
  (Option.some.inj (h.asked p set required)).symm

end Valid

namespace Controller

variable {s s' : Controller} {step : AuthenticationStep}

theorem OperationMove.frame {index : Nat} (move : s.OperationMove index s') :
    s'.locked = s.locked ∧ s'.state = s.state ∧ s'.worker = s.worker ∧ s'.locking = s.locking := by
  cases move <;> exact ⟨rfl, rfl, rfl, rfl⟩

theorem valid_move (h : Valid s.locked s.state s.worker) (move : s.Move step s') :
    Valid s'.locked s'.state s'.worker := by
  cases move with
  | idle | tick | acknowledge | synchronize | refuse | tryEvent => exact h
  | lock => exact h.lock
  | lockNext =>
    by_cases busy : s.state.busy = true
    · simp only [pend, busy, if_true]; exact h.unprompted rfl rfl rfl rfl
    · simp only [pend, busy]; exact h
  | start free locked idle =>
    rw [locked] at h
    simp only [pend, locked]; exact h.start idle
  | respond attemptId sequence response free accepts => exact h.respond accepts
  | cancel | shutdown => exact h.unprompted rfl rfl rfl rfl
  | operation index _ move =>
    obtain ⟨hlo, hs, hr, -⟩ := move.frame
    rw [hlo, hs, hr]; exact h
  | stop free worker => exact h.idle (by rw [worker]; rfl) rfl
  | take work free worker pending =>
    rw [worker] at h; exact h.take pending
  | ask style message work free worker wanted active =>
    rw [worker] at h; exact h.ask wanted active
  | converse work sequence event worker =>
    rw [worker] at h; exact h.attempt rfl rfl h.asked
  | inform work sequence event worker =>
    rw [worker] at h
    exact h.attempt rfl rfl fun prompt set required => nomatch h.asked prompt set required
  | timeOut work sequence free worker awaits =>
    rw [worker] at h
    simp only [AuthenticationState.awaits, Bool.and_eq_true, Option.isNone_iff_eq_none] at awaits
    have h : Valid s.locked s.state.timeOut _ := h.unprompted rfl rfl rfl awaits.2
    exact h.attempt rfl rfl nofun
  | giveUp timedOut work sequence free worker cancelled =>
    rw [worker] at h
    -- A cancelled attempt has lost its prompt.
    refine h.attempt rfl rfl fun prompt set _ => ?_
    obtain ⟨_, hw, wanted, -⟩ := h.current prompt set; cases hw
    rw [cancelled] at wanted; cases wanted
  | answer timedOut work sequence response free worker wanted answered =>
    rw [worker] at h
    obtain ⟨prompt, set, required⟩ := h.prompted (by rw [answered]; rfl)
    have own : (s.state.answer sequence).prompt = none := by
      simp [AuthenticationState.answer, set, h.prompt_sequence set required]
    have h : Valid s.locked (s.state.answer sequence) _ := h.unprompted rfl rfl own rfl
    exact h.attempt rfl rfl fun p hp => by rw [own] at hp; cases hp
  | succeed work free worker =>
    rw [worker] at h; exact h.finish rfl rfl rfl rfl
  | settle result work free worker =>
    rw [worker] at h; exact h.finish rfl rfl rfl rfl
  | fail result work free worker =>
    rw [worker] at h; exact h.finish rfl rfl rfl rfl
  | publishResult event worker => exact h.idle (by rw [worker]; rfl) rfl
  | publishState free worker => exact h.idle (by rw [worker]; rfl) rfl

theorem valid_next (h : Valid s.locked s.state s.worker) (step : AuthenticationStep) :
    Valid (s.next step).locked (s.next step).state (s.next step).worker :=
  valid_move h (next_move step)

theorem valid_start (sl avail : Bool) (reason : String) :
    Valid sl (start sl avail reason).state (start sl avail reason).worker where
  busy_iff := iff_of_false nofun (not_or_intro nofun nofun)
  exclusive := nofun
  locked_of_busy := nofun
  current := nofun
  asked := nofun
  prompted := nofun

abbrev after (startLocked available : Bool) (reason : String) (steps : List AuthenticationStep) : Controller :=
  exec next (start startLocked available reason) steps

theorem valid_after (sl a : Bool) (r : String) (ss : List AuthenticationStep) :
    Valid (after sl a r ss).locked (after sl a r ss).state (after sl a r ss).worker :=
  exec_invariant (I := fun s : Controller => Valid s.locked s.state s.worker) (fun _ step h => valid_next h step) ss
    (valid_start sl a r)

end Controller

end Deniald.Authentication
