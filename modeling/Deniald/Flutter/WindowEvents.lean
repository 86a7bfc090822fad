/-
The window events waiting for the shell (window_events.rs): a bounded queue in which an activation replaces those before
it, and an action or a placement is merged with an equal one, or an update it supersedes, at the end of the queue. The
buffer that is reused between drains is left out.
-/
import Deniald.Lib.Number
import Deniald.Lib.Run
import Deniald.Touch.Gesture

namespace Deniald.Flutter

open Deniald.Lib
open Deniald.Touch (WindowGeometry WindowPlacementChange WindowPlacementPhase)

/-! ## Events -/

inductive WindowAction where
  | minimize | maximize | restore | toggleMaximize | toggleFullscreen | unminimize
  deriving DecidableEq

structure WindowPlacement where
  windowId : UInt64
  monitorId : Int64
  workspaceId : Int64
  phase : WindowPlacementPhase
  change : WindowPlacementChange
  geometry : WindowGeometry F64

inductive PendingWindowEvent where
  | activated (windowId : UInt64)
  | action (windowId : UInt64) (action : WindowAction)
  | placement (placement : WindowPlacement)

/-- `==` on doubles, of which no NaN is either side. -/
def sameNumber : F64 → F64 → Bool
  | .finite a, .finite b => a = b
  | .infinite a, .infinite b => a = b
  | _, _ => false

/-- `PartialEq` of placements. -/
def WindowPlacement.same (p q : WindowPlacement) : Bool :=
  p.windowId = q.windowId && p.monitorId = q.monitorId && p.workspaceId = q.workspaceId && p.phase = q.phase &&
    p.change = q.change && sameNumber p.geometry.x q.geometry.x && sameNumber p.geometry.y q.geometry.y &&
    sameNumber p.geometry.width q.geometry.width && sameNumber p.geometry.height q.geometry.height

namespace PendingWindowEvent

def windowId : PendingWindowEvent → UInt64
  | .activated windowId | .action windowId _ => windowId
  | .placement p => p.windowId

def isActivation : PendingWindowEvent → Bool
  | .activated _ => true
  | .action .. | .placement _ => false

end PendingWindowEvent

def WindowAction.isToggle : WindowAction → Bool
  | .toggleMaximize | .toggleFullscreen => true
  | .minimize | .maximize | .restore | .unminimize => false

/-! ## The queue -/

def maxPendingWindowEvents : Nat := 4096

structure PendingWindowEventQueue where
  events : List PendingWindowEvent := []
  overflowReported : Bool := false

namespace PendingWindowEventQueue

open PendingWindowEvent

def merge (events : List PendingWindowEvent) (event : PendingWindowEvent) : Option (List PendingWindowEvent) :=
  match event, events.getLast? with
  | .action w a, some (.action previousId previousAction) =>
    if previousId = w ∧ previousAction = a then some (if a.isToggle then events.dropLast else events) else none
  | .placement p, some (.placement previous) =>
    if previous.same p then some events
    else if previous.windowId = p.windowId ∧ previous.phase = .updates ∧ p.phase = .updates ∧ previous.change = p.change then
      some (events.dropLast ++ [.placement p])
    else none
  | _, _ => none

/-- `remove_activations`. -/
def withoutActivations (events : List PendingWindowEvent) : List PendingWindowEvent :=
  events.filter fun event => !event.isActivation

def before (events : List PendingWindowEvent) (event : PendingWindowEvent) : List PendingWindowEvent :=
  if event.isActivation then withoutActivations events else events

def push (q : PendingWindowEventQueue) (event : PendingWindowEvent) : PendingWindowEventQueue :=
  match merge q.events event with
  | some events => { q with events }
  | none =>
    let events := before q.events event
    if maxPendingWindowEvents ≤ events.length then ⟨events, true⟩ else { q with events := events ++ [event] }

def pushActivation (q : PendingWindowEventQueue) (windowId : UInt64) (restoreMinimized : Bool) :
    PendingWindowEventQueue :=
  let q := if restoreMinimized then q.push (.action windowId .unminimize) else q
  q.push (.activated windowId)

def extend (q : PendingWindowEventQueue) (events : List PendingWindowEvent) : PendingWindowEventQueue :=
  events.foldl push q

/-- `drain_events`, and the queue it leaves. -/
def drainEvents (q : PendingWindowEventQueue) : List PendingWindowEvent × PendingWindowEventQueue := (q.events, {})

end PendingWindowEventQueue

/-! ## Runs -/

inductive WindowEventStep where
  | push (event : PendingWindowEvent)
  | pushActivation (windowId : UInt64) (restoreMinimized : Bool)
  | extend (events : List PendingWindowEvent)
  | drain

namespace WindowEventStep

def pushed : WindowEventStep → List PendingWindowEvent
  | .push event => [event]
  | .pushActivation windowId restoreMinimized =>
    (if restoreMinimized then [.action windowId .unminimize] else []) ++ [.activated windowId]
  | .extend events => events
  | .drain => []

end WindowEventStep

structure WindowEventRun where
  queue : PendingWindowEventQueue := {}
  drained : List PendingWindowEvent := []

namespace WindowEventRun

def next (s : WindowEventRun) : WindowEventStep → WindowEventRun
  | .push event => { s with queue := s.queue.push event }
  | .pushActivation windowId restoreMinimized => { s with queue := s.queue.pushActivation windowId restoreMinimized }
  | .extend events => { s with queue := s.queue.extend events }
  | .drain => ⟨s.queue.drainEvents.2, s.drained ++ s.queue.drainEvents.1⟩

end WindowEventRun

/-! ## One push -/

theorem sameNumber_eq {a b : F64} (h : sameNumber a b = true) : a = b := by
  unfold sameNumber at h; split at h
  · exact congrArg _ (of_decide_eq_true h)
  · exact congrArg _ (of_decide_eq_true h)
  · cases h

theorem WindowPlacement.same_eq {p q : WindowPlacement} (h : p.same q = true) : p = q := by
  obtain ⟨windowId, monitorId, workspaceId, phase, change, x, y, width, height⟩ := p
  obtain ⟨win', monitorId', workspaceId', phase', change', x', y', width', he'⟩ := q
  unfold same at h
  simp only [Bool.and_eq_true, decide_eq_true_eq] at h
  obtain ⟨⟨⟨⟨⟨⟨⟨⟨rfl, rfl⟩, rfl⟩, rfl⟩, rfl⟩, hx⟩, hy⟩, hw⟩, hh⟩ := h
  rw [sameNumber_eq hx, sameNumber_eq hy, sameNumber_eq hw, sameNumber_eq hh]

inductive Merges : PendingWindowEvent → PendingWindowEvent → List PendingWindowEvent → Prop
  | repeated {w : UInt64} {a : WindowAction} (hrepeats : a.isToggle = false) :
      Merges (.action w a) (.action w a) [.action w a]
  | cancelled {w : UInt64} {a : WindowAction} (htoggle : a.isToggle = true) : Merges (.action w a) (.action w a) []
  | same {p : WindowPlacement} : Merges (.placement p) (.placement p) [.placement p]
  | superseded {p q : WindowPlacement} (hwindow : p.windowId = q.windowId) (hp : p.phase = .updates)
      (hq : q.phase = .updates) (hchange : p.change = q.change) :
      Merges (.placement p) (.placement q) [.placement q]

namespace PendingWindowEventQueue

variable {event : PendingWindowEvent}

theorem merge_some {events merged : List PendingWindowEvent} (h : merge events event = some merged) :
    ∃ f last rest, events = f ++ [last] ∧ Merges last event rest ∧ merged = f ++ rest := by
  unfold merge at h; split at h
  · rename_i w a prev pa hs
    obtain ⟨f, rfl⟩ := List.getLast?_eq_some_iff.1 hs; split at h
    · rename_i hm
      obtain ⟨rfl, rfl⟩ := hm; cases h
      cases htoggle : pa.isToggle with
      | true => exact ⟨f, _, [], rfl, .cancelled htoggle, by simp⟩
      | false => exact ⟨f, _, _, rfl, .repeated htoggle, by simp⟩
    · cases h
  · rename_i p ps hs
    obtain ⟨f, rfl⟩ := List.getLast?_eq_some_iff.1 hs; split at h
    · rename_i hm; cases h
      obtain rfl := WindowPlacement.same_eq hm; exact ⟨f, _, _, rfl, .same, rfl⟩
    split at h
    · rename_i hu
      obtain ⟨hwindow, hr, hp, hchange⟩ := hu; cases h
      exact ⟨f, _, _, rfl, .superseded hwindow hr hp hchange, by simp⟩
    · cases h
  · cases h

def HasRoom (q : PendingWindowEventQueue) (event : PendingWindowEvent) : Prop :=
  merge q.events event = none → (before q.events event).length < maxPendingWindowEvents

/-- What a push makes of the queue. -/
inductive Queued (events : List PendingWindowEvent) (event : PendingWindowEvent) : List PendingWindowEvent → Prop
  | merged {front rest : List PendingWindowEvent} {last : PendingWindowEvent} (hevents : events = front ++ [last])
      (hmerges : Merges last event rest) : Queued events event (front ++ rest)
  | activated {w : UInt64} (hevent : event = .activated w) :
      Queued events event (withoutActivations events ++ [event])
  | appended (hevent : event.isActivation = false) : Queued events event (events ++ [event])

theorem push_queued {q : PendingWindowEventQueue} (h : q.HasRoom event) :
    Queued q.events event (q.push event).events := by
  unfold push
  cases hm : merge q.events event with
  | some merged =>
    obtain ⟨f, last, rest, hevents, hmerges, rfl⟩ := merge_some hm; exact .merged hevents hmerges
  | none =>
    have hr := h hm; dsimp only
    rw [if_neg (Nat.not_le.2 hr)]; unfold before
    cases event with
    | activated w => exact .activated rfl
    | action w a => exact .appended rfl
    | placement p => exact .appended rfl

end PendingWindowEventQueue

/-! ## The shell -/

/-- What the shell makes of the events: the window activated last, each window's actions, and its last placement of each
phase. -/
structure ShellState where
  lastActivated : Option UInt64 := none
  actions : UInt64 → List WindowAction := fun _ => []
  placements : UInt64 → WindowPlacementPhase → Option WindowPlacement := fun _ _ => none

namespace ShellState

def apply (s : ShellState) : PendingWindowEvent → ShellState
  | .activated w => { s with lastActivated := some w }
  | .action w a => { s with actions := fun v => if v = w then s.actions v ++ [a] else s.actions v }
  | .placement p =>
    { s with placements := fun v phase => if v = p.windowId ∧ phase = p.phase then some p else s.placements v phase }

def fold (events : List PendingWindowEvent) : ShellState := events.foldl apply {}

theorem fold_snoc (events : List PendingWindowEvent) (event : PendingWindowEvent) :
    fold (events ++ [event]) = (fold events).apply event := by
  unfold fold
  rw [List.foldl_append]; rfl

end ShellState

def concerns (w : UInt64) (event : PendingWindowEvent) : Bool := !event.isActivation && event.windowId = w

/-- A window's state, of which merged events make what they would make one after the other. -/
structure Lawful {σ : Type} (step : σ → PendingWindowEvent → σ) : Prop where
  repeated : ∀ s w a, a.isToggle = false → step (step s (.action w a)) (.action w a) = step s (.action w a)
  cancelled : ∀ s w a, a.isToggle = true → step (step s (.action w a)) (.action w a) = s
  same : ∀ s p, step (step s (.placement p)) (.placement p) = step s (.placement p)
  superseded : ∀ s p q, p.windowId = q.windowId → p.phase = .updates → q.phase = .updates → p.change = q.change →
    step (step s (.placement p)) (.placement q) = step s (.placement q)

structure Unobservable (pushed drained : List PendingWindowEvent) : Prop where
  lastActivated : (ShellState.fold drained).lastActivated = (ShellState.fold pushed).lastActivated
  windows : ∀ (σ : Type) (step : σ → PendingWindowEvent → σ), Lawful step → ∀ w s,
    (drained.filter (concerns w)).foldl step s = (pushed.filter (concerns w)).foldl step s
  ordered : ∀ w, (drained.filter (concerns w)).Sublist (pushed.filter (concerns w))

variable {event last : PendingWindowEvent} {events rest : List PendingWindowEvent}

theorem Lawful.merges {σ : Type} {step : σ → PendingWindowEvent → σ} (h : Lawful step)
    (hmerges : Merges last event rest) (s : σ) : rest.foldl step s = step (step s last) event := by
  cases hmerges with
  | repeated hrepeats => exact (h.repeated _ _ _ hrepeats).symm
  | cancelled htoggle => exact (h.cancelled _ _ _ htoggle).symm
  | same => exact (h.same _ _).symm
  | superseded hwindow hp hq hchange => exact (h.superseded _ _ _ hwindow hp hq hchange).symm

theorem Merges.concerns (h : Merges last event rest) :
    last.isActivation = false ∧ event.isActivation = false ∧ last.windowId = event.windowId ∧
      (∀ e ∈ rest, e.isActivation = false ∧ e.windowId = event.windowId) ∧ rest.Sublist [last, event] := by
  cases h with
  | repeated => exact ⟨rfl, rfl, rfl, by simp [PendingWindowEvent.isActivation], by simp⟩
  | cancelled => exact ⟨rfl, rfl, rfl, by simp, by simp⟩
  | same => exact ⟨rfl, rfl, rfl, by simp [PendingWindowEvent.isActivation], by simp⟩
  | superseded hwindow => exact ⟨rfl, rfl, hwindow, by simp [PendingWindowEvent.isActivation], by simp⟩

theorem lastActivated_append (h : ∀ e ∈ rest, e.isActivation = false) :
    (ShellState.fold (events ++ rest)).lastActivated = (ShellState.fold events).lastActivated := by
  induction rest using List.reverseRecOn with
  | nil => rw [List.append_nil]
  | append_singleton rest e ih =>
    rw [← List.append_assoc, ShellState.fold_snoc]
    have hr := ih fun e he => h e (List.mem_append_left _ he)
    have he := h e (List.mem_append_right _ (List.mem_singleton_self e))
    cases e with
    | activated w => cases he
    | action w a => exact hr
    | placement p => exact hr

theorem filter_withoutActivations (w : UInt64) (events : List PendingWindowEvent) :
    (PendingWindowEventQueue.withoutActivations events).filter (concerns w) = events.filter (concerns w) := by
  unfold PendingWindowEventQueue.withoutActivations; rw [List.filter_filter]
  congr 1
  funext event; unfold concerns
  cases event.isActivation <;> simp

theorem Unobservable.queued {pushed d evs' : List PendingWindowEvent}
    (h : Unobservable pushed (d ++ events)) (hd : PendingWindowEventQueue.Queued events event evs') :
    Unobservable (pushed ++ [event]) (d ++ evs') := by
  cases hd with
  | @merged f rest last hevents hmerges =>
    subst hevents
    obtain ⟨hs, hevent, hwindow, hr, hsu⟩ := hmerges.concerns
    rw [← List.append_assoc] at h ⊢
    generalize d ++ f = kept at h ⊢
    have ho : ∀ v, event.windowId ≠ v → (kept ++ rest).filter (concerns v) = (kept ++ [last]).filter (concerns v) ∧
        (pushed ++ [event]).filter (concerns v) = pushed.filter (concerns v) := by
      intro v hv
      have hn : rest.filter (concerns v) = [] :=
        List.filter_eq_nil_iff.2 fun e he => by simp [concerns, (hr e he).2, hv]
      rw [List.filter_append, hn, List.filter_append, List.filter_append]; simp [concerns, hwindow, hv]
    have hw' : (kept ++ rest).filter (concerns event.windowId) = kept.filter (concerns event.windowId) ++ rest ∧
        (kept ++ [last]).filter (concerns event.windowId) = kept.filter (concerns event.windowId) ++ [last] ∧
        (pushed ++ [event]).filter (concerns event.windowId) = pushed.filter (concerns event.windowId) ++ [event] := by
      have hal : rest.filter (concerns event.windowId) = rest :=
        List.filter_eq_self.2 fun e he => by simp [concerns, hr e he]
      rw [List.filter_append, hal, List.filter_append, List.filter_append]
      simp [concerns, hs, hevent, hwindow]
    refine ⟨?_, fun σ step hw v s => ?_, fun v => ?_⟩
    · have hln : ∀ e ∈ [last], e.isActivation = false := by simpa using hs
      have hen : ∀ e ∈ [event], e.isActivation = false := by simpa using hevent
      rw [lastActivated_append fun e he => (hr e he).1, lastActivated_append hen, ← h.lastActivated,
        lastActivated_append hln]
    · by_cases hv : event.windowId = v
      · subst hv
        have hwi := h.windows σ step hw event.windowId s
        rw [hw'.2.1, List.foldl_append] at hwi
        rw [hw'.1, hw'.2.2, List.foldl_append, List.foldl_append, hw.merges hmerges, ← hwi]
        rfl
      · rw [(ho v hv).1, (ho v hv).2]; exact h.windows σ step hw v s
    · by_cases hv : event.windowId = v
      · subst hv
        have hor := h.ordered event.windowId; rw [hw'.2.1] at hor
        rw [hw'.1, hw'.2.2]
        have hbo : (kept.filter (concerns event.windowId) ++ [last] ++ [event]).Sublist
            (pushed.filter (concerns event.windowId) ++ [event]) := hor.append (List.Sublist.refl _)
        rw [List.append_assoc] at hbo
        exact ((List.Sublist.refl _).append hsu).trans hbo
      · rw [(ho v hv).1, (ho v hv).2]; exact h.ordered v
  | @activated w hevent =>
    subst hevent
    refine ⟨?_, fun σ step hw v s => ?_, fun v => ?_⟩
    · rw [← List.append_assoc, ShellState.fold_snoc, ShellState.fold_snoc]; rfl
    · rw [← List.append_assoc, List.filter_append, List.filter_append, filter_withoutActivations, ← List.filter_append,
        List.filter_append pushed, List.foldl_append, List.foldl_append, h.windows σ step hw v s]
    · rw [← List.append_assoc, List.filter_append, List.filter_append, filter_withoutActivations, ← List.filter_append,
        List.filter_append pushed]
      exact (h.ordered v).append (List.Sublist.refl _)
  | appended hevent =>
    refine ⟨?_, fun σ step hw v s => ?_, fun v => ?_⟩
    · have hn : ∀ e ∈ [event], e.isActivation = false := by simpa using hevent
      rw [← List.append_assoc, lastActivated_append hn, lastActivated_append hn, h.lastActivated]
    · rw [← List.append_assoc, List.filter_append (d ++ events), List.filter_append pushed, List.foldl_append,
        List.foldl_append, h.windows σ step hw v s]
    · rw [← List.append_assoc, List.filter_append (d ++ events), List.filter_append pushed]
      exact (h.ordered v).append (List.Sublist.refl _)

/-! ## Whole runs -/

open PendingWindowEventQueue (HasRoom)

namespace WindowEventRun

def RoomFor (s : WindowEventRun) (step : WindowEventStep) : Prop :=
  Along PendingWindowEventQueue.push HasRoom s.queue step.pushed

theorem unobservable_pushes {pushed d : List PendingWindowEvent} :
    ∀ {events : List PendingWindowEvent} {q : PendingWindowEventQueue}, Along PendingWindowEventQueue.push HasRoom q events →
      Unobservable pushed (d ++ q.events) →
        Unobservable (pushed ++ events) (d ++ (exec PendingWindowEventQueue.push q events).events) := by
  intro events
  induction events generalizing pushed with
  | nil =>
    intro q _ h
    rwa [List.append_nil]
  | cons event events ih =>
    rintro q ⟨hr, hs⟩ h
    have hn := ih hs (h.queued (PendingWindowEventQueue.push_queued hr))
    rwa [List.append_assoc] at hn

theorem next_eq (s : WindowEventRun) (step : WindowEventStep) : s.next step =
    match step with
    | .drain => ⟨{}, s.drained ++ s.queue.events⟩
    | _ => { s with queue := exec PendingWindowEventQueue.push s.queue step.pushed } := by
  cases step with
  | push | extend | drain => rfl
  | pushActivation w rm => cases rm <;> rfl

theorem unobservable_next {s : WindowEventRun} {step : WindowEventStep} (hr : s.RoomFor step)
    {pushed : List PendingWindowEvent} (h : Unobservable pushed (s.drained ++ s.queue.events)) :
    Unobservable (pushed ++ step.pushed) ((s.next step).drained ++ (s.next step).queue.events) := by
  rw [next_eq]
  cases step with
  | push | pushActivation | extend => exact unobservable_pushes hr h
  | drain =>
    show Unobservable (pushed ++ []) (s.drained ++ s.queue.events ++ [])
    rwa [List.append_nil, List.append_nil]

theorem unobservable_exec {pushed : List PendingWindowEvent} : ∀ {ss : List WindowEventStep} {s : WindowEventRun},
    Along next RoomFor s ss → Unobservable pushed (s.drained ++ s.queue.events) →
      Unobservable (pushed ++ ss.flatMap WindowEventStep.pushed)
        ((exec next s ss).drained ++ (exec next s ss).queue.events) := by
  intro ss
  induction ss generalizing pushed with
  | nil =>
    intro s _ h
    rwa [List.flatMap_nil, List.append_nil]
  | cons step ss ih =>
    rintro s ⟨hr, hs⟩ h
    have hn := ih hs (unobservable_next hr h)
    rwa [List.append_assoc, ← List.flatMap_cons] at hn

theorem unobservable_nil : Unobservable [] [] := ⟨rfl, fun _ _ _ _ _ => rfl, fun _ => List.Sublist.refl _⟩

theorem unobservable_drained {ss : List WindowEventStep} (h : Along next RoomFor {} ss) :
    Unobservable (ss.flatMap WindowEventStep.pushed) (exec next {} (ss ++ [.drain])).drained := by
  rw [exec_append]; exact unobservable_exec h unobservable_nil

end WindowEventRun

/-! ## The shell's state -/

/-- Actions on a window's state: to repeat one, other than a toggle, changes nothing, and a toggle undoes itself. -/
structure LawfulActions {σ : Type} (act : σ → WindowAction → σ) : Prop where
  repeated : ∀ s a, a.isToggle = false → act (act s a) a = act s a
  cancelled : ∀ s a, a.isToggle = true → act (act s a) a = s

def actionStep {σ : Type} (act : σ → WindowAction → σ) (s : σ) : PendingWindowEvent → σ
  | .action _ a => act s a
  | .activated _ | .placement _ => s

def placementStep (placements : WindowPlacementPhase → Option WindowPlacement) :
    PendingWindowEvent → WindowPlacementPhase → Option WindowPlacement
  | .placement p => fun phase => if phase = p.phase then some p else placements phase
  | .activated _ | .action .. => placements

theorem lawful_actionStep {σ : Type} {act : σ → WindowAction → σ} (h : LawfulActions act) : Lawful (actionStep act) where
  repeated s _ a := h.repeated s a
  cancelled s _ a := h.cancelled s a
  same _ _ := rfl
  superseded _ _ _ _ _ _ _ := rfl

theorem lawful_placementStep : Lawful placementStep where
  repeated _ _ _ _ := rfl
  cancelled _ _ _ _ := rfl
  same placements p := by
    funext phase
    simp only [placementStep]
    split <;> rfl
  superseded placements p q _ hp hq _ := by
    funext phase
    simp only [placementStep, hp, hq]
    split <;> rfl

theorem actions_fold {σ : Type} (act : σ → WindowAction → σ) (w : UInt64) (s : σ) (events : List PendingWindowEvent) :
    ((ShellState.fold events).actions w).foldl act s = (events.filter (concerns w)).foldl (actionStep act) s := by
  induction events using List.reverseRecOn with
  | nil => rfl
  | append_singleton events e ih =>
    rw [ShellState.fold_snoc, List.filter_append, List.foldl_append, ← ih]
    cases e with
    | activated v => rfl
    | placement p =>
      show _ = List.foldl _ _ (List.filter (concerns w) [.placement p])
      cases hp : concerns w (.placement p) <;> simp [hp, actionStep, ShellState.apply]
    | action v a =>
      by_cases hv : w = v
      · subst hv
        simp [concerns, PendingWindowEvent.isActivation, PendingWindowEvent.windowId, actionStep, ShellState.apply]
      · simp [concerns, PendingWindowEvent.isActivation, PendingWindowEvent.windowId, ShellState.apply, hv, Ne.symm hv]

theorem placements_fold (w : UInt64) (events : List PendingWindowEvent) :
    (ShellState.fold events).placements w = (events.filter (concerns w)).foldl placementStep fun _ => none := by
  induction events using List.reverseRecOn with
  | nil => rfl
  | append_singleton events e ih =>
    rw [ShellState.fold_snoc, List.filter_append, List.foldl_append, ← ih]
    cases e with
    | activated v => rfl
    | action v a =>
      cases ha : concerns w (.action v a) <;> simp [ha, placementStep, ShellState.apply]
    | placement p =>
      by_cases hp : w = p.windowId
      · simp [concerns, PendingWindowEvent.isActivation, PendingWindowEvent.windowId, placementStep, ShellState.apply, hp]
      · simp [concerns, PendingWindowEvent.isActivation, PendingWindowEvent.windowId, ShellState.apply, hp, Ne.symm hp]

/-- The drained events leave the shell with the window activated last, with each window's last placements, and with
actions to the same effect; and each window's events are drained in the order they were pushed in. -/
theorem window_events_coalesce {steps : List WindowEventStep} (h : Along WindowEventRun.next WindowEventRun.RoomFor {} steps) :
    let pushed := steps.flatMap WindowEventStep.pushed
    let drained := (exec WindowEventRun.next {} (steps ++ [.drain])).drained
    (ShellState.fold drained).lastActivated = (ShellState.fold pushed).lastActivated ∧
      (ShellState.fold drained).placements = (ShellState.fold pushed).placements ∧
      (∀ (σ : Type) (act : σ → WindowAction → σ), LawfulActions act → ∀ w s,
        ((ShellState.fold drained).actions w).foldl act s = ((ShellState.fold pushed).actions w).foldl act s) ∧
      ∀ w, (drained.filter (concerns w)).Sublist (pushed.filter (concerns w)) := by
  obtain ⟨hlas, hwin, hord⟩ := WindowEventRun.unobservable_drained h
  refine ⟨hlas, ?_, fun σ act hact w s => ?_, hord⟩
  · funext w
    rw [placements_fold, placements_fold]; exact hwin _ _ lawful_placementStep w _
  · rw [actions_fold, actions_fold]; exact hwin σ _ (lawful_actionStep hact) w s

def toggledTwice : List WindowEventStep :=
  [.push (.action 1 .toggleMaximize), .push (.action 1 .toggleMaximize), .pushActivation 2 false]

theorem room_toggledTwice : Along WindowEventRun.next WindowEventRun.RoomFor {} toggledTwice :=
  ⟨⟨fun _ => by decide, trivial⟩, ⟨fun _ => by decide, trivial⟩, ⟨fun _ => by decide, trivial⟩, trivial⟩

/-- Only the activation is drained, and the shell does not notice. -/
theorem toggles_cancel : (exec WindowEventRun.next {} (toggledTwice ++ [.drain])).drained.length = 1 ∧
    (ShellState.fold (exec WindowEventRun.next {} (toggledTwice ++ [.drain])).drained).lastActivated =
      (ShellState.fold (toggledTwice.flatMap WindowEventStep.pushed)).lastActivated :=
  ⟨by decide, (window_events_coalesce room_toggledTwice).1⟩

/-- Of an action that is repeated the shell is told once. -/
theorem repeated_action : ¬∀ steps, Along WindowEventRun.next WindowEventRun.RoomFor {} steps →
    ShellState.fold (exec WindowEventRun.next {} (steps ++ [.drain])).drained =
      ShellState.fold (steps.flatMap WindowEventStep.pushed) := by
  intro h
  have hsam := h [.push (.action 1 .maximize), .push (.action 1 .maximize)]
    ⟨⟨fun _ => by decide, trivial⟩, ⟨fun _ => by decide, trivial⟩, trivial⟩
  have hlen := congrArg (fun s => (s.actions 1).length) hsam
  revert hlen
  decide

end Deniald.Flutter
