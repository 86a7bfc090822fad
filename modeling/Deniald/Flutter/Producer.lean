/-
Who may produce a Flutter frame (renderer/texture.rs, `ProducerArbiter`). The platform thread asks for frames and
gives requests up, the render thread rasters and presents; each call is a few atomic steps, and the steps of the two
threads interleave in any order.

A request is made and a raster opened by compare-exchange, but a request is given up by a plain store, which takes no
notice of a raster that has opened since.
-/
import Deniald.Lib.History

namespace Deniald.Flutter

open Deniald.Lib

/-! ## The arbiter -/

inductive FlutterProducerState where
  | idle
  | requested
  | rasterizing
  | preparing
  deriving DecidableEq

namespace FlutterProducerState

def asU8 : FlutterProducerState → UInt8
  | .idle => 0
  | .requested => 1
  | .rasterizing => 2
  | .preparing => 3

def fromU8 (value : UInt8) : FlutterProducerState :=
  if value = requested.asU8 then .requested
  else if value = rasterizing.asU8 then .rasterizing
  else if value = preparing.asU8 then .preparing
  else .idle

@[simp] theorem fromU8_asU8 (state : FlutterProducerState) : fromU8 state.asU8 = state := by
  cases state <;> rfl

end FlutterProducerState

structure ProducerArbiter where
  state : UInt8 := FlutterProducerState.idle.asU8
  requestedAt : Option Nat := none

namespace ProducerArbiter

variable (a : ProducerArbiter)

def load : FlutterProducerState := .fromU8 a.state

def store (state : FlutterProducerState) : ProducerArbiter := { a with state := state.asU8 }

/-- `lock(&self.requested_at).take()`. -/
def forget : ProducerArbiter := { a with requestedAt := none }

@[simp] theorem store_state (st : FlutterProducerState) : (a.store st).state = st.asU8 := rfl

@[simp] theorem forget_state : a.forget.state = a.state := rfl

end ProducerArbiter

/-! ## Calls -/

/-- What an atomic step decides. -/
inductive ProducerDecision where
  | requested
  | refused
  | cancelled
  | rasterBegan
  | rasterRefused
  | presenting
  | finished (previous : FlutterProducerState)
  deriving DecidableEq

inductive PlatformCall where
  | tryRequest (now : Nat)
  | cancelRequest
  deriving DecidableEq

/-- What the platform thread has left to do of a call, from its next atomic step on. -/
inductive PlatformStep where
  | request (now : Nat)
  | note (now : Nat)
  | cancel
  | forget
  deriving DecidableEq

/-- `try_request` and `cancel_request`. -/
def platformThread : Thread ProducerArbiter PlatformCall PlatformStep ProducerDecision where
  call
    | .tryRequest now => .request now
    | .cancelRequest => .cancel
  step a
    | .request now =>
      if a.state = FlutterProducerState.idle.asU8 then ⟨a.store .requested, some (.note now), [.requested]⟩
      else ⟨a, none, [.refused]⟩
    | .note now => ⟨{ a with requestedAt := some now }, none, []⟩
    | .cancel => ⟨a.store .idle, some .forget, [.cancelled]⟩
    | .forget => ⟨a.forget, none, []⟩

inductive RenderCall where
  | beginRaster
  | beginPresent
  | finish
  deriving DecidableEq

/-- What the render thread has left to do of a call. -/
inductive RenderStep where
  | load
  | claim (state : FlutterProducerState)
  | present
  | finish
  | forget
  deriving DecidableEq

/-- `begin_raster`, `begin_present` and `finish`. -/
def renderThread : Thread ProducerArbiter RenderCall RenderStep ProducerDecision where
  call
    | .beginRaster => .load
    | .beginPresent => .present
    | .finish => .finish
  step a
    -- late work claims an idle arbiter as well
    | .load => if a.load = .idle ∨ a.load = .requested then ⟨a, some (.claim a.load), []⟩ else ⟨a, none, [.rasterRefused]⟩
    | .claim state =>
      if a.state = state.asU8 then ⟨a.store .rasterizing, some .forget, [.rasterBegan]⟩ else ⟨a, some .load, []⟩
    | .present => ⟨a.store .preparing, some .forget, [.presenting]⟩
    | .finish => ⟨a.store .idle, some .forget, [.finished a.load]⟩
    | .forget => ⟨a.forget, none, []⟩

abbrev Producers := Interleaving ProducerArbiter PlatformStep RenderStep ProducerDecision

abbrev ProducerEvent := ThreadEvent PlatformCall RenderCall

namespace Producers

/-- The state after an event. -/
def next : Producers → ProducerEvent → Producers := Interleaving.next platformThread renderThread

/-- The arbiter as it is made. -/
def start : Producers := { state := {} }

end Producers

/-! ## What is open -/

/-- Whether a raster is open, and whether a request is outstanding. -/
structure Engaged where
  raster : Bool := false
  request : Bool := false

namespace Engaged

/-- A raster takes the request over; what finishes it leaves neither. -/
def note (e : Engaged) : ProducerDecision → Engaged
  | .requested => { e with request := true }
  | .cancelled => { e with request := false }
  | .rasterBegan => { raster := true, request := false }
  | .finished _ => { raster := false, request := false }
  | .refused | .rasterRefused | .presenting => e

def after (log : List ProducerDecision) : Engaged := log.foldl note {}

@[simp] theorem after_snoc (log : List ProducerDecision) (d : ProducerDecision) :
    after (log ++ [d]) = (after log).note d := by
  unfold after
  rw [List.foldl_append]; rfl

end Engaged

/-- No request succeeds while a raster is open, and no second raster opens. -/
def Exclusive (log : List ProducerDecision) : Prop :=
  EachAfter (fun earlier decision => (Engaged.after earlier).raster = true →
    decision ≠ .requested ∧ decision ≠ .rasterBegan) log

namespace Producers

variable {s : Producers}

/-- What is open in a state. -/
def engaged (s : Producers) : Engaged := .after s.log

/-! ## The guard -/

/-- Neither is a request given up while a raster is open, nor does a present begin while none is. -/
def Orderly (s : Producers) (e : ProducerEvent) : Prop :=
  (e = .stepFirst → s.first = some .cancel → s.engaged.raster = false) ∧
    (e = .stepSecond → s.second = some .present → s.engaged.raster = true)

instance (s : Producers) (e : ProducerEvent) : Decidable (s.Orderly e) := by
  unfold Orderly
  infer_instance

/-! ## The invariant -/

/-- The states that the arbiter may be in with what is open. -/
def Shows (e : Engaged) (state : UInt8) : Prop :=
  if e.raster then state = FlutterProducerState.rasterizing.asU8 ∨ state = FlutterProducerState.preparing.asU8
  else state = (if e.request then FlutterProducerState.requested else .idle).asU8

/-- The arbiter shows what is open, and the render thread claims a raster from idle or requested. -/
structure Sound (s : Producers) : Prop where
  exclusive : Exclusive s.log
  shows : Shows s.engaged s.state.state
  claims : ∀ state, s.second = some (.claim state) → state = .idle ∨ state = .requested

theorem sound_start : start.Sound := ⟨eachAfter_nil, rfl, fun _ h => by cases h⟩

theorem Shows.closed {e : Engaged} {st : UInt8} (h : Shows e st)
    (hs : st = FlutterProducerState.idle.asU8 ∨ st = FlutterProducerState.requested.asU8) : e.raster = false := by
  cases hr : e.raster with
  | false => rfl
  | true =>
    rw [Shows, if_pos hr] at h
    rcases hs with rfl | rfl <;> exact absurd h (by decide)

theorem Sound.stepFirst (h : s.Sound) {step : PlatformStep} (hr : step = .cancel → s.engaged.raster = false) :
    Sound { s with
      state := (platformThread.step s.state step).state
      first := (platformThread.step s.state step).left
      log := s.log ++ (platformThread.step s.state step).decided } := by
  obtain ⟨he, hh, hm⟩ := h
  cases step with
  | request now =>
    simp only [platformThread]; split
    · rename_i hd
      have hs := hh.closed (.inl hd)
      refine ⟨he.snoc fun ho => ?_, ?_, hm⟩
      · cases hs.symm.trans ho
      · unfold engaged at hs
        simp [engaged, Shows, Engaged.note, hs]
    · refine ⟨he.snoc fun _ => ⟨by decide, by decide⟩, ?_, hm⟩
      simpa [engaged, Engaged.note] using hh
  | note now => exact ⟨by simpa [platformThread] using he, by simpa [platformThread, engaged] using hh, hm⟩
  | cancel =>
    have hs := hr rfl; unfold engaged at hs
    refine ⟨he.snoc fun _ => ⟨by decide, by decide⟩, ?_, hm⟩
    simp [platformThread, engaged, Shows, Engaged.note, hs]
  | forget => exact ⟨by simpa [platformThread] using he, by simpa [platformThread, engaged] using hh, hm⟩

theorem Sound.stepSecond (h : s.Sound) {step : RenderStep} (hstep : s.second = some step)
    (hr : step = .present → s.engaged.raster = true) :
    Sound { s with
      state := (renderThread.step s.state step).state
      second := (renderThread.step s.state step).left
      log := s.log ++ (renderThread.step s.state step).decided } := by
  obtain ⟨he, hh, hm⟩ := h
  cases step with
  | load =>
    simp only [renderThread]; split
    · rename_i hf
      refine ⟨by simpa using he, by simpa [engaged] using hh, fun state hs => ?_⟩
      obtain rfl := RenderStep.claim.inj (Option.some.inj hs); exact hf
    · refine ⟨he.snoc fun _ => ⟨by decide, by decide⟩, ?_, fun _ hs => by cases hs⟩
      simpa [engaged, Engaged.note] using hh
  | claim state =>
    simp only [renderThread]; split
    · rename_i hcl
      have hco : s.engaged.raster = false := by
        refine hh.closed ?_; rw [hcl]
        exact (hm state hstep).imp (congrArg _) (congrArg _)
      refine ⟨he.snoc fun ho => ?_, ?_, fun _ hs => by cases hs⟩
      · cases hco.symm.trans ho
      · simp [engaged, Shows, Engaged.note]
    · exact ⟨by simpa using he, by simpa [engaged] using hh, fun _ hs => by cases hs⟩
  | present =>
    have ho := hr rfl; unfold engaged at ho
    refine ⟨he.snoc fun _ => ⟨by decide, by decide⟩, ?_, fun _ hs => by cases hs⟩
    simp [renderThread, engaged, Shows, Engaged.note, ho]
  | finish =>
    refine ⟨he.snoc fun _ => ⟨by simp, by simp⟩, ?_, fun _ hs => by cases hs⟩
    simp [renderThread, engaged, Shows, Engaged.note]
  | forget =>
    exact ⟨by simpa [renderThread] using he, by simpa [renderThread, engaged] using hh, fun _ hs => by
      cases hs⟩

theorem sound_run {evs : List ProducerEvent} (hru : Along next Orderly start evs) : (exec next start evs).Sound := by
  refine Interleaving.invariant (fun s _ h => ⟨h.exclusive, h.shows, h.claims⟩) ?_ ?_ ?_ sound_start hru
  · intro s call h
    refine ⟨h.exclusive, h.shows, fun state hs => ?_⟩
    cases call <;> cases hs
  · intro s step h ho hstep
    exact h.stepFirst fun hn => ho.1 rfl (hn ▸ hstep)
  · intro s step h ho hstep
    exact h.stepSecond hstep fun hr => ho.2 rfl (hr ▸ hstep)

/-- In every interleaving in which no request is given up while a raster is open, and no present begins while none is,
there is one producer at most, and the arbiter is idle where nothing is open. -/
theorem one_producer {events : List ProducerEvent} (hruns : Along next Orderly start events) :
    Exclusive (exec next start events).log ∧
      ((exec next start events).engaged = {} → (exec next start events).state.load = .idle) := by
  obtain ⟨hexc, hshow, -⟩ := sound_run hruns
  refine ⟨hexc, fun hnot => ?_⟩; rw [hnot] at hshow
  unfold ProducerArbiter.load
  rw [show _ = FlutterProducerState.idle.asU8 from hshow, FlutterProducerState.fromU8_asU8]

def oneFrame : List ProducerEvent :=
  [.callFirst (.tryRequest 1), .stepFirst, .stepFirst, .callSecond .beginRaster, .stepSecond, .stepSecond,
    .callFirst (.tryRequest 2), .stepFirst, .stepSecond, .callSecond .beginPresent, .stepSecond, .stepSecond,
    .callSecond .finish, .stepSecond, .stepSecond]

theorem one_frame_one_producer : Exclusive (exec next start oneFrame).log ∧
    ((exec next start oneFrame).engaged = {} → (exec next start oneFrame).state.load = .idle) :=
  one_producer (by decide)

def crossing : List ProducerEvent :=
  [.callFirst (.tryRequest 1), .stepFirst, .stepFirst, .callSecond .beginRaster, .stepSecond, .stepSecond, .stepSecond,
    .callFirst .cancelRequest, .stepFirst, .stepFirst, .callFirst (.tryRequest 2), .stepFirst]

/-- The next request succeeds while the raster is still open. -/
theorem crossing_not_exclusive : ¬Exclusive (exec next start crossing).log := by
  intro h
  have hlog : (exec next start crossing).log = [.requested, .rasterBegan, .cancelled] ++ .requested :: [] := by decide
  exact (h _ _ _ hlog (by decide)).1 rfl

end Producers

end Deniald.Flutter
