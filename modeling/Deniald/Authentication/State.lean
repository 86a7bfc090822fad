/-
The state of the session lock and its authentication attempts (authentication.rs): what the mutex guards, the critical
sections over it, and the events that carry a snapshot of it.
-/
import Mathlib.Algebra.Ring.Nat
import Mathlib.Data.List.DropRight

namespace Deniald.Authentication

/-! ## Data -/

def maxStatusBytes : Nat := 1024

def maxPendingEvents : Nat := 64

/-- Instants and durations are in nanoseconds. -/
def millisecond : Nat := 1000000

def baseCooldown : Nat := 750 * millisecond

def maxCooldown : Nat := 30000 * millisecond

inductive PromptStyle where
  | echoOff | echoOn | info | error
  deriving DecidableEq

def PromptStyle.requiresResponse : PromptStyle → Bool
  | .echoOff | .echoOn => true
  | .info | .error => false

inductive BackendResult where
  | success | failure | cancelled | error
  deriving DecidableEq

structure AuthenticationSnapshot where
  locked : Bool
  available : Bool
  busy : Bool
  attemptId : UInt64
  cooldownMs : Nat
  statusMessage : String
  deriving DecidableEq

inductive AuthenticationEventKind where
  | state
  | prompt (style : PromptStyle) (sequence : UInt32)
  | result (success cancelled : Bool)
  deriving DecidableEq

structure AuthenticationEvent where
  kind : AuthenticationEventKind
  state : AuthenticationSnapshot
  message : String
  deriving DecidableEq

structure PromptState where
  style : PromptStyle
  sequence : UInt32
  message : String
  requiresResponse : Bool

structure WorkItem where
  attemptId : UInt64
  generation : UInt64
  deriving DecidableEq

/-- A response is the bytes that were typed. -/
abbrev SecureString := List UInt8

structure AuthenticationState where
  stopping : Bool := false
  busy : Bool := false
  cancelRequested : Bool := false
  generation : UInt64 := 0
  nextAttemptId : UInt64 := 1
  activeAttemptId : UInt64 := 0
  nextPromptSequence : UInt32 := 1
  failureCount : UInt32 := 0
  cooldownUntil : Option Nat := none
  pendingWork : Option WorkItem := none
  prompt : Option PromptState := none
  response : Option SecureString := none
  available : Bool
  unavailableReason : String

/-- `wrapping_add(1).max(1)`. -/
def bumpId (id : UInt64) : UInt64 := max (id + 1) 1

def bumpSequence (sequence : UInt32) : UInt32 := max (sequence + 1) 1

/-! ## Messages and cooldowns -/

def isControl (c : Char) : Bool := c.toNat < 0x20 || (0x7f ≤ c.toNat && c.toNat < 0xa0)

/-- The loop of `sanitize_message`: it ends at the first character that does not fit. -/
def sanitizeLoop (bytes : Nat) : List Char → List Char
  | [] => []
  | c :: rest =>
    if maxStatusBytes < bytes + c.utf8Size then []
    else if c = '\n' ∨ c = '\t' ∨ !isControl c then c :: sanitizeLoop (bytes + c.utf8Size) rest
    else sanitizeLoop bytes rest

def sanitizeMessage (message : String) : String :=
  let sanitized := (sanitizeLoop 0 message.toList).rdropWhile fun c => c = '\n' ∨ c = '\r' ∨ c = ' '
  if sanitized.isEmpty then "Authenticate to unlock" else String.ofList sanitized

def cooldownFor (failures : UInt32) : Nat := min (baseCooldown * 2 ^ min (failures.toNat - 1) 6) maxCooldown

/-- `saturating_add(1)`. -/
def countFailure (failures : UInt32) : UInt32 := if failures = 0xffffffff then failures else failures + 1

theorem le_countFailure (failures : UInt32) : failures ≤ countFailure failures := by
  unfold countFailure; split
  · exact UInt32.le_refl _
  rename_i h; rw [UInt32.le_iff_toNat_le, UInt32.toNat_add]
  have hlt := failures.toNat_lt
  have hne : failures.toNat ≠ 0xffffffff := fun heq => h (UInt32.toNat_inj.1 heq)
  rw [Nat.mod_eq_of_lt (by simp only [UInt32.reduceToNat]; omega)]; exact Nat.le_add_right _ _

/-- The time of a cooldown that is left, in milliseconds and at least one. -/
def cooldownMs (cooldownUntil : Option Nat) (now : Nat) : Nat :=
  match cooldownUntil with
  | some deadline => if now ≤ deadline then max (min ((deadline - now) / millisecond) (2 ^ 32 - 1)) 1 else 0
  | none => 0

def snapshotLocked (locked : Bool) (state : AuthenticationState) (now : Nat) : AuthenticationSnapshot where
  locked := locked
  available := state.available
  busy := state.busy
  attemptId := state.activeAttemptId
  cooldownMs := cooldownMs state.cooldownUntil now
  statusMessage :=
    if !state.available then state.unavailableReason
    else if state.cancelRequested && state.busy then "Cancelling authentication…" else ""

/-! ## Critical sections -/

namespace AuthenticationState

variable (state : AuthenticationState)

/-- What `lock`, `cancel` and the drop do to an attempt. -/
def revoke : AuthenticationState :=
  { state with generation := state.generation + 1, cancelRequested := true, response := none, prompt := none }

/-- `begin`, where nothing refuses the attempt. -/
def start : AuthenticationState :=
  { state with
    generation := state.generation + 1
    activeAttemptId := state.nextAttemptId
    nextAttemptId := bumpId state.nextAttemptId
    busy := true
    cancelRequested := false
    prompt := none
    response := none
    pendingWork := some ⟨state.nextAttemptId, state.generation + 1⟩ }

/-- The check of `respond`. -/
def accepts (attemptId : UInt64) (promptSequence : UInt32) : Bool :=
  state.busy && !state.cancelRequested && attemptId != 0 && attemptId == state.activeAttemptId && promptSequence != 0 &&
    state.prompt.any (fun prompt => prompt.requiresResponse && prompt.sequence == promptSequence) &&
    state.response.isNone

/-- `cancel` takes the attempt it names, or any for the id zero. -/
def cancels (attemptId : UInt64) : Bool := state.busy && (attemptId == 0 || attemptId == state.activeAttemptId)

/-- `authentication_cancelled`. -/
def cancelled (generation : UInt64) : Bool :=
  state.stopping || generation != state.generation || state.cancelRequested

/-- `converse` sets its prompt. -/
def ask (style : PromptStyle) (message : String) : AuthenticationState :=
  { state with
    nextPromptSequence := bumpSequence state.nextPromptSequence
    prompt := some ⟨style, state.nextPromptSequence, message, style.requiresResponse⟩
    response := none }

/-- The condition `converse` waits on. -/
def awaits (generation : UInt64) : Bool := !state.cancelled generation && state.response.isNone

def timeOut : AuthenticationState :=
  { state with generation := state.generation + 1, cancelRequested := true, prompt := none }

/-- `converse` takes the response, and the prompt if it is still its own. -/
def answer (sequence : UInt32) : AuthenticationState :=
  { state with
    response := none
    prompt := if state.prompt.any (·.sequence == sequence) then none else state.prompt }

/-- Whether the result of a backend still counts. -/
def current (work : WorkItem) : Bool :=
  !state.stopping && work.attemptId == state.activeAttemptId && work.generation == state.generation &&
    !state.cancelRequested

def settle : AuthenticationState :=
  { state with busy := false, cancelRequested := false, prompt := none, response := none }

def succeed : AuthenticationState := { state.settle with failureCount := 0, cooldownUntil := none }

def fail (now : Nat) : AuthenticationState :=
  { state.settle with
    failureCount := countFailure state.failureCount
    cooldownUntil := some (now + cooldownFor (countFailure state.failureCount)) }

end AuthenticationState

end Deniald.Authentication
