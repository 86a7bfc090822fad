/-
Queues whose channel carries an edge only (flutter_runtime/event_pipeline.rs, `CoalescedInbox` and
`CoalescedWakeup`). Producers append, and the one that finds the flag down raises it and sends the edge; the
consumer lowers the flag when it takes the queue. Every raised flag stands for one edge that is still to be sent,
received or answered, so a queue with items in it is never without one.
-/
import Deniald.Lib.Run
import Mathlib.Data.List.Perm.Basic

namespace Deniald.Flutter

open Deniald.Lib

variable {ι T : Type}

/-! ## The inbox -/

structure CoalescedInbox (T : Type) where
  items : List T
  armed : Bool

namespace CoalescedInbox

/-- `with_capacity`. The capacity is room reserved, not a bound. -/
def new : CoalescedInbox T := ⟨[], false⟩

/-- Whether the producer has to send the edge. -/
def push (i : CoalescedInbox T) (item : T) : CoalescedInbox T × Bool :=
  if i.armed then ({ i with items := i.items ++ [item] }, false) else (⟨i.items ++ [item], true⟩, true)

/-- The items are swapped with the buffer they go to. -/
def takeInto (i : CoalescedInbox T) (output : List T) : CoalescedInbox T × List T := (⟨output, false⟩, i.items)

def discardAfterFailedWakeup (_ : CoalescedInbox T) : CoalescedInbox T := ⟨[], false⟩

variable (i : CoalescedInbox T) (item : T)

theorem push_items : (i.push item).1.items = i.items ++ [item] := by
  unfold push
  split <;> rfl

theorem push_armed : (i.push item).1.armed = true := by
  unfold push; split
  · assumption
  · rfl

theorem push_owes : (i.push item).2 = !i.armed := by
  unfold push
  cases i.armed <;> rfl

end CoalescedInbox

/-- An atomic step of a producer or the consumer. -/
inductive InboxEvent (ι T : Type) where
  | push (producer : ι) (item : T)
  | notify (producer : ι)
  /-- The channel is closed: the edge cannot be sent. -/
  | discard (producer : ι)
  | wake
  | take

/-- The inbox with the producers that have an edge to send, the edges in the channel, and whether the consumer has
received one and is yet to take the items; and the items pushed, taken and discarded, in order. -/
structure InboxSystem (ι T : Type) where
  inbox : CoalescedInbox T
  notifying : List ι
  wakeups : Nat
  running : Bool
  pushed : List T
  taken : List T
  discarded : List T

namespace InboxSystem

def start : InboxSystem ι T := ⟨.new, [], 0, false, [], [], []⟩

variable [DecidableEq ι]

/-- A step that its party cannot take leaves the system as it is. -/
def next (s : InboxSystem ι T) : InboxEvent ι T → InboxSystem ι T
  | .push producer item =>
    if producer ∈ s.notifying then s
    else
      { s with
        inbox := (s.inbox.push item).1
        notifying := if (s.inbox.push item).2 then producer :: s.notifying else s.notifying
        pushed := s.pushed ++ [item] }
  | .notify producer =>
    if producer ∈ s.notifying then { s with notifying := s.notifying.erase producer, wakeups := s.wakeups + 1 } else s
  | .discard producer =>
    if producer ∈ s.notifying then
      { s with
        inbox := s.inbox.discardAfterFailedWakeup
        notifying := s.notifying.erase producer
        discarded := s.discarded ++ s.inbox.items }
    else s
  | .wake => if 0 < s.wakeups ∧ s.running = false then { s with wakeups := s.wakeups - 1, running := true } else s
  | .take =>
    if s.running then
      -- the consumer's buffer is drained after every batch
      { s with
        inbox := (s.inbox.takeInto []).1
        running := false
        taken := s.taken ++ (s.inbox.takeInto []).2 }
    else s

/-! ### One edge for a raised flag -/

/-- The edges to be sent, in the channel and being answered. -/
def edges (s : InboxSystem ι T) : Nat := s.notifying.length + s.wakeups + s.running.toNat

/-- There is one edge when the inbox is armed and none otherwise, and it is armed when items wait; every item
pushed is discarded, taken or waits, the last two in the order they were pushed in. -/
structure Coalesced (s : InboxSystem ι T) : Prop where
  edges : s.edges = s.inbox.armed.toNat
  armed : s.inbox.items ≠ [] → s.inbox.armed = true
  kept : s.pushed.Perm (s.discarded ++ (s.taken ++ s.inbox.items))
  order : (s.taken ++ s.inbox.items).Sublist s.pushed
  complete : s.discarded = [] → s.pushed = s.taken ++ s.inbox.items

variable {s : InboxSystem ι T}

theorem coalesced_push (h : s.Coalesced) (prod : ι) (item : T) : (s.next (.push prod item)).Coalesced := by
  by_cases hn : prod ∈ s.notifying
  · simp only [next, if_pos hn]; exact h
  simp only [next, if_neg hn]
  have he := h.edges; unfold edges at he
  refine ⟨?_, fun _ => CoalescedInbox.push_armed _ _, ?_, ?_, ?_⟩
  · simp only [edges, CoalescedInbox.push_armed, CoalescedInbox.push_owes]
    cases hf : s.inbox.armed
    · -- this producer raises the flag
      rw [hf, Bool.toNat_false] at he
      show (prod :: s.notifying).length + s.wakeups + s.running.toNat = 1
      rw [List.length_cons]; omega
    · rw [hf] at he; exact he
  · rw [CoalescedInbox.push_items, ← List.append_assoc, ← List.append_assoc, List.append_assoc s.discarded]
    exact h.kept.append_right _
  · rw [CoalescedInbox.push_items, ← List.append_assoc]; exact h.order.append (List.Sublist.refl _)
  · intro hno
    rw [CoalescedInbox.push_items, ← List.append_assoc, ← h.complete hno]

theorem coalesced_notify (h : s.Coalesced) (prod : ι) : (s.next (.notify prod)).Coalesced := by
  simp only [next]
  split_ifs with hn
  · refine ⟨?_, h.armed, h.kept, h.order, h.complete⟩
    have hlen := List.length_erase_add_one hn; rw [← h.edges]
    unfold edges
    simp only
    omega
  · exact h

theorem coalesced_discard (h : s.Coalesced) (prod : ι) : (s.next (.discard prod)).Coalesced := by
  simp only [next]
  split_ifs with hno
  · refine ⟨?_, fun hm => absurd rfl hm, ?_, ?_, ?_⟩
    · -- its edge was the only one
      have hlen := List.length_erase_add_one hno
      have he := h.edges
      have ho := Bool.toNat_le s.inbox.armed
      unfold edges at he ⊢
      show (s.notifying.erase prod).length + s.wakeups + s.running.toNat = 0; omega
    · simp only [CoalescedInbox.discardAfterFailedWakeup, List.append_nil, List.append_assoc]
      exact h.kept.trans (List.perm_append_comm.append_left _)
    · simp only [CoalescedInbox.discardAfterFailedWakeup, List.append_nil]
      exact (List.sublist_append_left _ _).trans h.order
    · intro hn
      obtain ⟨hf, hm⟩ := List.append_eq_nil_iff.1 hn
      rw [h.complete hf, hm]; rfl
  · exact h

theorem coalesced_wake (h : s.Coalesced) : (s.next .wake).Coalesced := by
  simp only [next]
  split_ifs with hw
  · refine ⟨?_, h.armed, h.kept, h.order, h.complete⟩; rw [← h.edges]
    unfold edges
    simp only [hw.2, Bool.toNat_true, Bool.toNat_false]; omega
  · exact h

theorem coalesced_take (h : s.Coalesced) : (s.next .take).Coalesced := by
  simp only [next]
  split_ifs with hr
  · refine ⟨?_, fun hm => absurd rfl hm, ?_, ?_, ?_⟩
    · -- the edge it answers was the only one
      have he := h.edges
      have ho := Bool.toNat_le s.inbox.armed
      unfold edges at he ⊢; rw [hr, Bool.toNat_true] at he
      show s.notifying.length + s.wakeups + 0 = 0; omega
    · simpa [CoalescedInbox.takeInto] using h.kept
    · simpa [CoalescedInbox.takeInto] using h.order
    · simpa [CoalescedInbox.takeInto] using h.complete
  · exact h

theorem coalesced_next (h : s.Coalesced) (e : InboxEvent ι T) : (s.next e).Coalesced := by
  cases e with
  | push prod item => exact coalesced_push h prod item
  | notify prod => exact coalesced_notify h prod
  | discard prod => exact coalesced_discard h prod
  | wake => exact coalesced_wake h
  | take => exact coalesced_take h

omit [DecidableEq ι] in
theorem coalesced_start : (start : InboxSystem ι T).Coalesced :=
  ⟨rfl, fun h => absurd rfl h, .refl _, .refl _, fun _ => rfl⟩

theorem discarded_next (e : InboxEvent ι T) (he : ∀ prod, e ≠ .discard prod) : (s.next e).discarded = s.discarded := by
  cases e with
  | discard prod => exact absurd rfl (he prod)
  | _ =>
    simp only [next]
    split_ifs <;> rfl

end InboxSystem

/-- Whatever order any number of producers and the consumer take their steps in: where items wait and no producer
has an edge to send, an edge is in the channel or the consumer has one to answer; the items taken and those that
wait are the ones pushed, in order and each once, less what failed edges discarded. -/
theorem no_lost_wakeup [DecidableEq ι] (es : List (InboxEvent ι T)) :
    let s := exec InboxSystem.next .start es
    (s.inbox.items ≠ [] → s.notifying = [] → 0 < s.wakeups ∨ s.running = true) ∧
      (s.taken ++ s.inbox.items).Sublist s.pushed ∧
      s.pushed.Perm (s.discarded ++ (s.taken ++ s.inbox.items)) ∧
      ((∀ e ∈ es, ∀ producer, e ≠ .discard producer) → s.pushed = s.taken ++ s.inbox.items) := by
  intro s
  have h : s.Coalesced := exec_invariant (I := InboxSystem.Coalesced)
    (fun _ e h => InboxSystem.coalesced_next h e) es InboxSystem.coalesced_start
  refine ⟨fun hitem hnot => ?_, h.order, h.kept, fun hsen => h.complete ?_⟩
  · have hedg := h.edges
    rw [h.armed hitem, InboxSystem.edges, hnot, List.length_nil, Bool.toNat_true] at hedg
    cases hrun : s.running with
    | true => exact .inr rfl
    | false =>
      rw [hrun, Bool.toNat_false] at hedg; exact .inl (by omega)
  · have hstep : ∀ (s : InboxSystem ι T) e, s.discarded = [] → (∀ producer, e ≠ InboxEvent.discard producer) →
        (s.next e).discarded = [] := fun s e hnon he => (InboxSystem.discarded_next e he).trans hnon
    exact exec_invariant_along hstep rfl (along_of_forall hsen)

/-! ## Ready frames -/

structure CoalescedWakeup where
  pending : Bool

namespace CoalescedWakeup

/-- `CoalescedWakeup::default`. -/
def default : CoalescedWakeup := ⟨false⟩

/-- Whether the caller has to send the edge. -/
def begin (w : CoalescedWakeup) : CoalescedWakeup × Bool := (⟨true⟩, !w.pending)

def acknowledge (_ : CoalescedWakeup) : CoalescedWakeup := ⟨false⟩

end CoalescedWakeup

/-- An atomic step of `publish_ready_frames`, or of the consumer that observes the edge and takes the frames. -/
inductive ReadyEvent (ι T : Type) where
  | extend (producer : ι) (frames : List T)
  | begin (producer : ι)
  | send (producer : ι)
  /-- The channel is closed: the edge cannot be sent. -/
  | fail (producer : ι)
  | receive
  | acknowledge
  | takeFrame (index : Nat)
  /-- What `take_ready_frame` observes after it has taken a frame. -/
  | observe

/-- The ready frames and their wakeup, with the producers between extending them and raising the flag, those
with an edge to send, the edges in the channel, whether the consumer has received one and is yet to
acknowledge it, and whether it has frames to take (`frame_ready_observed`). -/
structure ReadySystem (ι T : Type) where
  frames : List T
  wakeup : CoalescedWakeup
  extended : List ι
  sending : List ι
  wakeups : Nat
  received : Bool
  observed : Bool

namespace ReadySystem

def start : ReadySystem ι T := ⟨[], .default, [], [], 0, false, false⟩

variable [DecidableEq ι]

def next (s : ReadySystem ι T) : ReadyEvent ι T → ReadySystem ι T
  | .extend producer frames =>
    if producer ∈ s.extended ∨ producer ∈ s.sending ∨ frames = [] then s
    else { s with frames := s.frames ++ frames, extended := producer :: s.extended }
  | .begin producer =>
    if producer ∈ s.extended then
      { s with
        wakeup := s.wakeup.begin.1
        extended := s.extended.erase producer
        sending := if s.wakeup.begin.2 then producer :: s.sending else s.sending }
    else s
  | .send producer =>
    if producer ∈ s.sending then { s with sending := s.sending.erase producer, wakeups := s.wakeups + 1 } else s
  | .fail producer =>
    if producer ∈ s.sending then { s with wakeup := s.wakeup.acknowledge, sending := s.sending.erase producer } else s
  | .receive => if 0 < s.wakeups ∧ s.received = false then { s with wakeups := s.wakeups - 1, received := true } else s
  | .acknowledge =>
    if s.received then { s with wakeup := s.wakeup.acknowledge, received := false, observed := true } else s
  | .takeFrame index => if s.observed then { s with frames := s.frames.eraseIdx index } else s
  | .observe => if s.observed then { s with observed := !s.frames.isEmpty } else s

/-- One edge for the raised flag, and frames are observed, or about to be announced by an edge or by the producer
that added them. -/
structure Announced (s : ReadySystem ι T) : Prop where
  edges : s.sending.length + s.wakeups + s.received.toNat = s.wakeup.pending.toNat
  frames : s.frames ≠ [] → s.extended ≠ [] ∨ s.wakeup.pending = true ∨ s.observed = true

variable {s : ReadySystem ι T}

theorem announced_extend (h : s.Announced) (prod : ι) (fs : List T) : (s.next (.extend prod fs)).Announced := by
  simp only [next]
  split_ifs
  · exact h
  · exact ⟨h.edges, fun _ => .inl (List.cons_ne_nil _ _)⟩

theorem announced_begin (h : s.Announced) (prod : ι) : (s.next (.begin prod)).Announced := by
  by_cases hex : prod ∈ s.extended
  · simp only [next, if_pos hex]
    refine ⟨?_, fun _ => .inr (.inl rfl)⟩
    have he := h.edges; unfold CoalescedWakeup.begin
    cases hn : s.wakeup.pending with
    | true =>
      rw [hn] at he; exact he
    | false =>
      rw [hn, Bool.toNat_false] at he
      show (prod :: s.sending).length + s.wakeups + s.received.toNat = 1
      rw [List.length_cons]; omega
  · simp only [next, if_neg hex]; exact h

theorem announced_next (h : s.Announced) (e : ReadyEvent ι T) (he : ∀ prod, e ≠ .fail prod) : (s.next e).Announced := by
  cases e with
  | fail prod => exact absurd rfl (he prod)
  | extend prod fs => exact announced_extend h prod fs
  | begin prod => exact announced_begin h prod
  | send prod =>
    simp only [next]
    split_ifs with hs
    · refine ⟨?_, h.frames⟩
      have hlen := List.length_erase_add_one hs
      have he := h.edges
      show (s.sending.erase prod).length + (s.wakeups + 1) + s.received.toNat = s.wakeup.pending.toNat
      omega
    · exact h
  | receive =>
    simp only [next]
    split_ifs with hrec
    · refine ⟨?_, h.frames⟩
      have he := h.edges; rw [hrec.2, Bool.toNat_false] at he
      show s.sending.length + (s.wakeups - 1) + 1 = s.wakeup.pending.toNat; omega
    · exact h
  | acknowledge =>
    simp only [next]
    split_ifs with hr
    · refine ⟨?_, fun _ => .inr (.inr rfl)⟩
      have he := h.edges
      have hn := Bool.toNat_le s.wakeup.pending; rw [hr, Bool.toNat_true] at he
      show s.sending.length + s.wakeups + 0 = 0; omega
    · exact h
  | takeFrame index =>
    simp only [next]
    split_ifs with ho
    · exact ⟨h.edges, fun _ => .inr (.inr ho)⟩
    · exact h
  | observe =>
    simp only [next]
    split_ifs
    · refine ⟨h.edges, fun hf => .inr (.inr ?_)⟩
      have hm : s.frames.isEmpty = false := by
        rw [List.isEmpty_eq_false_iff]; exact hf
      show (!s.frames.isEmpty) = true
      rw [hm]; rfl
    · exact h

end ReadySystem

/-- Where frames are ready and no producer is publishing any, the consumer has observed them, or an edge is in the
channel or waits to be acknowledged, unless the channel was closed to some producer. -/
theorem ready_frames_announced [DecidableEq ι] (es : List (ReadyEvent ι T)) : let s := exec ReadySystem.next .start es
    s.frames ≠ [] → s.extended = [] → s.sending = [] →
      s.observed = true ∨ 0 < s.wakeups ∨ s.received = true ∨ ∃ producer, .fail producer ∈ es := by
  intro s hf hex hs
  by_cases hc : ∃ producer, .fail producer ∈ es
  · exact .inr (.inr (.inr hc))
  have h : s.Announced := exec_invariant_along (I := ReadySystem.Announced) (fun _ e h he => ReadySystem.announced_next h e he)
    ⟨rfl, fun h => absurd rfl h⟩ (along_of_forall fun e he prod hp => hc ⟨prod, hp ▸ he⟩)
  have he := h.edges
  rcases h.frames hf with hr | hn | ho
  · exact absurd hex hr
  · rw [hn, hs, List.length_nil, Bool.toNat_true] at he
    cases hrec : s.received with
    | true => exact .inr (.inr (.inl rfl))
    | false =>
      rw [hrec, Bool.toNat_false] at he; exact .inr (.inl (by omega))
  · exact .inl ho

end Deniald.Flutter
