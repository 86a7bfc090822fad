/-
The authentication controller and its worker (authentication.rs), by their atomic steps: the critical sections of the
state and of the event queue, and the stores of the two lock flags. Callers may be anywhere between two of their steps,
and the backend converses and returns as it likes.
-/
import Deniald.Authentication.State
import Deniald.Lib.Run

namespace Deniald.Authentication

open Deniald.Lib

def BackendResult.failureMessage (result : BackendResult) : String :=
  if result = .failure then "Authentication failed. Try again." else "System authentication could not complete."

/-! ## Threads -/

/-- What a caller has still to do, once it is past its critical section. -/
inductive Operation where
  /-- `acknowledge_unlocked_boundary` has opened the gate: it loads `locked`, and closes the gate again. -/
  | acknowledgeCheck
  | acknowledgeStore
  | publishState
  | pushThenPublish (event : AuthenticationEvent)
  | synchronize (state : AuthenticationEvent) (prompt : Option AuthenticationEvent)
  | synchronizePrompt (prompt : AuthenticationEvent)

inductive Worker where
  | waiting
  | stopped
  /-- In the backend. -/
  | running (work : WorkItem)
  /-- In a conversation, with the prompt set and its event not yet pushed. -/
  | prompting (work : WorkItem) (sequence : UInt32) (requiresResponse : Bool) (event : AuthenticationEvent)
  | conversing (work : WorkItem) (sequence : UInt32)
  | finished (event : AuthenticationEvent)
  | publishing
  deriving DecidableEq

structure Controller where
  locked : Bool
  securityGateLocked : Bool
  eventsPending : Bool := false
  state : AuthenticationState
  events : List AuthenticationEvent := []
  /-- A call of `lock` has stored `locked`, and holds the state. -/
  locking : Bool := false
  operations : List Operation := []
  worker : Worker := .waiting
  now : Nat := 0
  /-- The snapshot of the event pushed last. -/
  lastPushed : Option AuthenticationSnapshot := none
  /-- When the cooldown of the latest failure ends. -/
  latestCooldown : Option Nat := none
  starts : Nat := 0
  finishes : Nat := 0

/-- The next atomic step. One that needs the state does nothing while `lock` holds it. -/
inductive AuthenticationStep where
  | tick (elapsed : Nat)
  | lock
  | lockNext
  | acknowledge
  | synchronize
  | begin
  | respond (attemptId : UInt64) (promptSequence : UInt32) (response : SecureString)
  | cancel (attemptId : UInt64)
  | shutdown
  /-- A caller goes on. -/
  | operation (index : Nat)
  | tryEvent
  | workerTake
  | workerPrompt (style : PromptStyle) (message : String)
  | workerPush
  /-- The wait of a conversation ends, or looks at its condition again. -/
  | workerConverse (timedOut : Bool)
  | workerFinish (result : BackendResult)
  | workerPublish
  deriving DecidableEq

namespace Controller

/-- `with_backend`. -/
def start (startLocked available : Bool) (unavailableReason : String) : Controller where
  locked := startLocked
  securityGateLocked := startLocked
  state := { available, unavailableReason }

variable (s : Controller)

/-! ## Events -/

def snapshot : AuthenticationSnapshot := snapshotLocked s.locked s.state s.now

def stateEvent : AuthenticationEvent := ⟨.state, s.snapshot, ""⟩

def pushEvent (event : AuthenticationEvent) : Controller :=
  { s with
    events := (if s.events.length = maxPendingEvents then s.events.tail else s.events) ++ [event]
    eventsPending := true
    lastPushed := some event.state }

def tryEvent : Controller :=
  { s with
    events := s.events.tail
    eventsPending := if s.events.tail.isEmpty then false else s.eventsPending }

/-- A step that takes the state. -/
def enter (f : Controller) : Controller := if s.locking then s else f

/-- The caller goes on outside the state. -/
def pend (operation : Operation) : Controller := { s with operations := operation :: s.operations }

/-! ## Callers -/

def lock : Controller := s.enter { s with locked := true, locking := true }

def lockNext : Controller :=
  if s.locking then
    { s with
      securityGateLocked := true
      state := if s.state.busy then s.state.revoke else s.state
      locking := false }.pend .publishState
  else s

def acknowledge : Controller := { s with securityGateLocked := false }.pend .acknowledgeCheck

def promptEvent (prompt : PromptState) : AuthenticationEvent :=
  ⟨.prompt prompt.style prompt.sequence, s.snapshot, prompt.message⟩

def synchronize : Controller := s.enter (s.pend (.synchronize s.stateEvent (s.state.prompt.map s.promptEvent)))

/-- `begin` refuses the attempt. -/
def refusal (message : String) : AuthenticationEvent := ⟨.result false false, s.snapshot, message⟩

/-- The cooldown of the last failure has not passed. -/
def coolingDown : Bool := s.state.cooldownUntil.any (s.now < ·)

def begin : Controller :=
  s.enter <|
    if !s.locked || s.state.busy then s
    else if !s.state.available then s.pend (.pushThenPublish (s.refusal s.state.unavailableReason))
    else if s.coolingDown then s.pend (.pushThenPublish (s.refusal "Please wait before trying again."))
    else { s with state := s.state.start, starts := s.starts + 1 }.pend .publishState

def respond (attemptId : UInt64) (promptSequence : UInt32) (response : SecureString) : Controller :=
  s.enter <|
    if s.state.accepts attemptId promptSequence then { s with state := { s.state with response := some response } }
    else s

def cancel (attemptId : UInt64) : Controller :=
  s.enter <| if s.state.cancels attemptId then { s with state := s.state.revoke }.pend .publishState else s

def shutdown : Controller := s.enter { s with state := { s.state.revoke with stopping := true } }

/-- The operation is done, or goes on as another. -/
def drop (index : Nat) : Controller := { s with operations := s.operations.eraseIdx index }

def replace (index : Nat) (operation : Operation) : Controller :=
  { s with operations := s.operations.set index operation }

def operation (index : Nat) : Controller :=
  match s.operations[index]? with
  | none => s
  | some .acknowledgeCheck => if s.locked then s.replace index .acknowledgeStore else s.drop index
  | some .acknowledgeStore => { s with securityGateLocked := true }.drop index
  | some .publishState => s.enter ((s.drop index).pushEvent s.stateEvent)
  | some (.pushThenPublish event) => (s.replace index .publishState).pushEvent event
  | some (.synchronize state none) => (s.drop index).pushEvent state
  | some (.synchronize state (some prompt)) => (s.replace index (.synchronizePrompt prompt)).pushEvent state
  | some (.synchronizePrompt prompt) => (s.drop index).pushEvent prompt

/-! ## Worker -/

def workerTake : Controller :=
  s.enter <|
    match s.worker with
    | .waiting =>
      if s.state.stopping then { s with worker := .stopped }
      else
        match s.state.pendingWork with
        | some work => { s with state := { s.state with pendingWork := none }, worker := .running work }
        | none => s
    | _ => s

/-- `converse` sets a prompt, unless the attempt is no longer wanted. -/
def workerPrompt (style : PromptStyle) (message : String) : Controller :=
  s.enter <|
    match s.worker with
    | .running work =>
      if s.state.cancelled work.generation || work.attemptId != s.state.activeAttemptId then s
      else
        let message := sanitizeMessage message
        let sequence := s.state.nextPromptSequence
        { s with
          state := s.state.ask style message
          worker := .prompting work sequence style.requiresResponse ⟨.prompt style sequence, s.snapshot, message⟩ }
    | _ => s

def workerPush : Controller :=
  match s.worker with
  | .prompting work sequence requiresResponse event =>
    { s with worker := if requiresResponse then .conversing work sequence else .running work }.pushEvent event
  | _ => s

def workerConverse (timedOut : Bool) : Controller :=
  s.enter <|
    match s.worker with
    | .conversing work sequence =>
      if s.state.awaits work.generation then
        if timedOut then { s with state := s.state.timeOut, worker := .running work } else s
      else if s.state.cancelled work.generation || s.state.response.isNone then { s with worker := .running work }
      else { s with state := s.state.answer sequence, worker := .running work }
    | _ => s

def resultEvent (success cancelled : Bool) (message : String) : AuthenticationEvent :=
  ⟨.result success cancelled, s.snapshot, message⟩

def finish (event : Controller → AuthenticationEvent) : Controller :=
  { s with worker := .finished (event s), finishes := s.finishes + 1 }

def workerFinish (result : BackendResult) : Controller :=
  s.enter <|
    match s.worker with
    | .running work =>
      if s.state.current work && result == .success then
        { s with locked := false, state := s.state.succeed }.finish (·.resultEvent true false "Authentication successful")
      else if !s.state.current work || result == .cancelled then
        { s with state := s.state.settle }.finish (·.resultEvent false true "Authentication cancelled")
      else
        { s with
          state := s.state.fail s.now
          latestCooldown := (s.state.fail s.now).cooldownUntil }.finish
            (·.resultEvent false false result.failureMessage)
    | _ => s

/-- The worker's own publications: its result, then the state. -/
def workerPublish : Controller :=
  match s.worker with
  | .finished event => { s with worker := .publishing }.pushEvent event
  | .publishing => s.enter ({ s with worker := .waiting }.pushEvent s.stateEvent)
  | _ => s

def next : AuthenticationStep → Controller
  | .tick elapsed => { s with now := s.now + elapsed }
  | .lock => s.lock
  | .lockNext => s.lockNext
  | .acknowledge => s.acknowledge
  | .synchronize => s.synchronize
  | .begin => s.begin
  | .respond attemptId promptSequence response => s.respond attemptId promptSequence response
  | .cancel attemptId => s.cancel attemptId
  | .shutdown => s.shutdown
  | .operation index => s.operation index
  | .tryEvent => s.tryEvent
  | .workerTake => s.workerTake
  | .workerPrompt style message => s.workerPrompt style message
  | .workerPush => s.workerPush
  | .workerConverse timedOut => s.workerConverse timedOut
  | .workerFinish result => s.workerFinish result
  | .workerPublish => s.workerPublish

end Controller

end Deniald.Authentication
