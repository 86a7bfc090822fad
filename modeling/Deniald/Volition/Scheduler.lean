/-
The lookahead scheduler of the KMS commits (volition/mod.rs, `CommitScheduler` and `run_scheduler`), in the atomic steps
of its two threads: the compositor submits jobs through a bounded channel, the worker keeps them in a heap by the time
they are due, and attempts them one at a time. What the kernel answers and what the clock reads comes with the steps.
-/
import Deniald.Lib.Run
import Deniald.Lib.Time
import Mathlib.Data.UInt

namespace Deniald.Volition

open Deniald.Lib

/-- `LOOKAHEAD_RETRY_INTERVAL`: a hundred microseconds. -/
def lookaheadRetryInterval : Nat := 100000

/-- `LOOKAHEAD_MAX_WAIT`: a hundred milliseconds. -/
def lookaheadMaxWait : Nat := 100000000

structure CommitId where
  stream : Nat
  frame : Nat
  deriving DecidableEq

/-- A job, without the plane request that goes to the kernel as it is. -/
structure CommitJob where
  instance_ : UInt64
  commit : CommitId
  notBefore : Int
  deriving DecidableEq

/-! ## Failures -/

/-- `raw_os_error` of a failed commit. -/
abbrev OsError : Type := Option Int

def eperm : Int := 1

def enoent : Int := 2

def eintr : Int := 4

def eio : Int := 5

def eagain : Int := 11

def eacces : Int := 13

def ebusy : Int := 16

def enodev : Int := 19

def einval : Int := 22

def etimedout : Int := 110

def isRetryableLookaheadError (error : OsError) : Bool :=
  error == some ebusy || error == some eagain || error == some eintr

def isRecoverableKmsError (error : OsError) : Bool :=
  error == some eacces || error == some eperm || error == some einval || error == some enoent ||
    error == some enodev || error == some eio || error == some etimedout

inductive LookaheadFailureDisposition where
  | retry
  | recover
  | fail

def lookaheadFailureDisposition (error : OsError) (attemptedAt expiresAt : Int) : LookaheadFailureDisposition :=
  if isRetryableLookaheadError error ∧ attemptedAt < expiresAt then .retry
  else if isRetryableLookaheadError error ∨ isRecoverableKmsError error then .recover
  else .fail

/-- A terminal event of a job. -/
inductive Event where
  | submitted (instance_ : UInt64) (commit : CommitId) (submittedAt : Int)
  | stalled (instance_ : UInt64) (commit : CommitId) (source : OsError)
  | failed (instance_ : UInt64) (commit : CommitId) (source : OsError)
  deriving DecidableEq

/-! ## The heap -/

/-- A job in the heap. Its arrival among all jobs and the times it was attempted at, latest first, are what the run
remembers of it; the scheduler does not know them. -/
structure ScheduledCommit where
  job : CommitJob
  readyAt : Int
  expiresAt : Option Int
  order : UInt64
  arrival : Nat
  attempts : List Int
  deriving DecidableEq

/-- The heap services `a` before `b`: `b < a` in `schedule_order`. -/
def ScheduledCommit.precedes (a b : ScheduledCommit) : Bool :=
  a.readyAt < b.readyAt || (a.readyAt == b.readyAt && a.order < b.order)

/-- An entry the heap may pop: a greatest one. Among entries that compare equal it may be any. -/
def isTop (queue : List ScheduledCommit) (scheduled : ScheduledCommit) : Bool :=
  queue.all fun other => !other.precedes scheduled

/-! ## The threads -/

/-- Where the worker is in its loop. -/
inductive Phase where
  /-- About to look at the cancel flag. -/
  | check
  /-- Draining the channel. -/
  | drain
  /-- About to look at the heap. -/
  | peek
  /-- In `recv`, with nothing in the heap. -/
  | blocked
  /-- In `recv_timeout`, or parked once the channel is closed. -/
  | sleeping
  /-- In the ioctl of a popped entry. -/
  | attempt (scheduled : ScheduledCommit) (attemptedAt : Int)
  /-- About to give up the slot of a finished job. -/
  | finish (job : CommitJob) (event : Event)
  /-- About to report the event. -/
  | report (job : CommitJob) (event : Event)
  | exited
  deriving DecidableEq

/-- The scheduler with both its threads; `accepted` and `reported` are the jobs queued and the events reported so far,
and `arrivals` counts the jobs the worker has received. -/
structure CommitScheduler where
  capacity : Nat
  pending : Nat := 0
  reserving : Option CommitJob := none
  channel : List CommitJob := []
  isOpen : Bool := true
  cancelled : Bool := false
  queue : List ScheduledCommit := []
  order : UInt64 := 0
  connected : Bool := true
  phase : Phase := .check
  accepted : List CommitJob := []
  reported : List (CommitJob × Event) := []
  arrivals : Nat := 0

/-- An atomic step of the compositor or the worker. -/
inductive Step where
  /-- `try_submit` up to the update of the counter. -/
  | reserve (job : CommitJob)
  /-- Its `try_send`. -/
  | send
  /-- `shutdown` raises the flag. -/
  | cancel
  /-- `shutdown` drops the sender. -/
  | close
  | check
  /-- A `try_recv` of the drain, or the receive of a wait that is over. -/
  | receive
  /-- The look at the heap; where the first entry is due, `top` is popped and attempted `delay` later. -/
  | peek (now : Int) (delay : Nat) (top : Nat)
  /-- A wait ends with nothing received. -/
  | wake
  /-- The kernel answers the ioctl. -/
  | submit (result : Except OsError Unit) (submittedAt : Int)
  | finish
  | report

namespace CommitScheduler

/-- `schedule_job`. -/
def scheduleJob (s : CommitScheduler) (job : CommitJob) : CommitScheduler :=
  { s with
    queue := s.queue ++ [⟨job, job.notBefore, none, s.order, s.arrivals, []⟩]
    order := s.order + 1
    arrivals := s.arrivals + 1 }

/-- `try_submit` and `shutdown` borrow the scheduler exclusively, so neither starts while the other runs. -/
def reserve (s : CommitScheduler) (job : CommitJob) : CommitScheduler :=
  if s.isOpen ∧ ¬s.cancelled ∧ s.reserving = none ∧ s.pending < s.capacity then
    { s with pending := s.pending + 1, reserving := some job }
  else s

/-- A full channel or a worker that is gone gives the slot back. -/
def send (s : CommitScheduler) : CommitScheduler :=
  match s.reserving with
  | none => s
  | some job =>
    if s.phase = .exited ∨ s.capacity ≤ s.channel.length then
      { s with pending := s.pending - 1, reserving := none }
    else { s with reserving := none, channel := s.channel ++ [job], accepted := s.accepted ++ [job] }

def cancel (s : CommitScheduler) : CommitScheduler := if s.reserving = none then { s with cancelled := true } else s

def close (s : CommitScheduler) : CommitScheduler := if s.cancelled then { s with isOpen := false } else s

def check (s : CommitScheduler) : CommitScheduler :=
  if s.phase ≠ .check then s
  else if s.cancelled then { s with phase := .exited }
  else { s with phase := if s.connected then .drain else .peek }

def receive (s : CommitScheduler) : CommitScheduler :=
  match s.phase, s.channel with
  | .drain, job :: channel => { s with channel := channel }.scheduleJob job
  | .drain, [] => if s.isOpen then { s with phase := .peek } else { s with connected := false, phase := .peek }
  | .blocked, job :: channel => { s with channel := channel, phase := .check }.scheduleJob job
  | .blocked, [] => if s.isOpen then s else { s with phase := .exited }
  | .sleeping, job :: channel =>
    if s.connected then { s with channel := channel, phase := .check }.scheduleJob job else s
  | .sleeping, [] => if s.connected ∧ ¬s.isOpen then { s with connected := false, phase := .check } else s
  | _, _ => s

def peek (s : CommitScheduler) (now : Int) (delay top : Nat) : CommitScheduler :=
  if s.phase ≠ .peek then s
  else if s.queue = [] then { s with phase := if s.connected then .blocked else .exited }
  else match s.queue[top]? with
    | none => s
    | some scheduled =>
      if ¬isTop s.queue scheduled then s
      else if now < scheduled.readyAt then { s with phase := .sleeping }
      else
        let attemptedAt := now + delay
        let expiresAt := scheduled.expiresAt.getD (attemptedAt + lookaheadMaxWait)
        { s with
          queue := s.queue.eraseIdx top
          phase := .attempt { scheduled with expiresAt := some expiresAt } attemptedAt }

def wake (s : CommitScheduler) : CommitScheduler := if s.phase = .sleeping then { s with phase := .check } else s

def submit (s : CommitScheduler) (result : Except OsError Unit) (submittedAt : Int) : CommitScheduler :=
  match s.phase with
  | .attempt scheduled attemptedAt =>
    let job := scheduled.job
    match result with
    | .ok () => { s with phase := .finish job (.submitted job.instance_ job.commit submittedAt) }
    | .error source =>
      match lookaheadFailureDisposition source attemptedAt (scheduled.expiresAt.getD attemptedAt) with
      | .retry =>
        let scheduled := { scheduled with
          readyAt := attemptedAt + lookaheadRetryInterval
          attempts := attemptedAt :: scheduled.attempts }
        { s with queue := s.queue ++ [scheduled], phase := .check }
      | .recover => { s with phase := .finish job (.stalled job.instance_ job.commit source) }
      | .fail => { s with phase := .finish job (.failed job.instance_ job.commit source) }
  | _ => s

def finish (s : CommitScheduler) : CommitScheduler :=
  match s.phase with
  | .finish job event => { s with pending := s.pending - 1, phase := .report job event }
  | _ => s

def report (s : CommitScheduler) : CommitScheduler :=
  match s.phase with
  | .report job event => { s with reported := s.reported ++ [(job, event)], phase := .check }
  | _ => s

end CommitScheduler

/-- A step that its thread cannot take leaves the scheduler as it is. -/
def next (s : CommitScheduler) : Step → CommitScheduler
  | .reserve job => s.reserve job
  | .send => s.send
  | .cancel => s.cancel
  | .close => s.close
  | .check => s.check
  | .receive => s.receive
  | .peek now delay top => s.peek now delay top
  | .wake => s.wake
  | .submit result submittedAt => s.submit result submittedAt
  | .finish => s.finish
  | .report => s.report

/-- `CommitScheduler::start`. -/
def start (capacity : Nat) : CommitScheduler := { capacity := capacity }

end Deniald.Volition
