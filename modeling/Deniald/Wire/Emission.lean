/-
Runs of the compositor's messages to the shell (wire/encode.rs, denial_wire.dart): each message takes a number, and what
the shell makes of it is compared with what was sent.
-/
import Deniald.Wire.Received

namespace Deniald.Wire.Decoder

open Deniald.Lib Deniald.Notification

/-! ## Sending -/

inductive Emission where
  | windows (revision : UInt64) (windows : List WindowDescription) (restoredWindowIds : List UInt64)
  | placement (placement : WindowPlacement)
  | notification (event : NotificationEvent)
  | other

inductive Transfer where
  | message (message : NativeMessage)
  | packet (packet : List UInt8)

section Send

variable {F : Type} (buffers : NativeBuffers)

def windowsBuilder : Builder F
  | .windowsUpdate sequence windows restoredWindowIds =>
    (encodeWindowsUpdate buffers sequence windows restoredWindowIds).map (·.bytes)
  | .windowsResponse .. | .displayLayout .. => .error .payload

/-- `update_windows`, `encode_window_placement`, `encode_notification_event`; any other message takes a number. -/
def send (b : WireBridge F) : Emission → WireBridge F × Option Transfer
  | .windows revision windows restoredWindowIds =>
    match b.updateWindows (windowsBuilder buffers) revision windows restoredWindowIds with
    | (b', .ok (some (.windowsUpdate sequence windows restoredWindowIds), _)) =>
      (b', (encodeWindowsUpdate buffers sequence windows restoredWindowIds).toOption.map .message)
    | (b', _) => (b', none)
  | .placement p =>
    match p.check with
    | .error _ => (b, none)
    | .ok () => (b.takeSequence.2, some (.packet (placementPacket b.takeSequence.1 p)))
  | .notification event =>
    match validateNotificationEvent event with
    | .error _ => (b, none)
    | .ok () => (b.takeSequence.2, (encodeNotification buffers b.takeSequence.1 event).toOption.map .message)
  | .other => (b.takeSequence.2, none)

end Send

/-! ## Receiving -/

/-- What the shell has of a transfer. -/
inductive Delivery where
  | windows (windows : List DenialWindow)
  | placement (event : DenialWindowPlacementEvent)
  | notification (event : DesktopNotificationEvent)

def receivePayload : NativePayload → Option Delivery
  | .windowSnapshot snapshot => (decodeWindows snapshot).map .windows
  | .desktopNotificationEvent event => (decodeNotificationEvent event).map .notification

def receive (rounding : Rounding) (lastPlacementSequence : Int) : Transfer → Option Delivery
  | .message message => (decodeStructured message).bind fun (_, _, payload) => receivePayload payload
  | .packet packet => (decodePlacement rounding lastPlacementSequence packet).map .placement

/-- What was sent, as the shell is to have it. -/
def sent {F : Type} (rounding : Rounding) (b : WireBridge F) : Emission → Option Delivery
  | .windows _ windows restoredWindowIds =>
    some (.windows (windows.map (sentWindow (restoredOf windows restoredWindowIds))))
  | .placement p => some (.placement (sentPlacement rounding b.takeSequence.1 p))
  | .notification event => some (.notification (sentEvent event))
  | .other => none

/-- Windows have identities of their own, and identities fit 63 bits. -/
def Emission.Readable : Emission → Prop
  | .windows _ ws _ => Receivable ws
  | .placement p => Signed p.windowId
  | .notification _ | .other => True

/-! ## Runs -/

/-- The bridge with the number of the last placement that was encoded, and the shell's `_lastPlacementSequence`. -/
structure Link (F : Type) where
  bridge : WireBridge F
  lastEncoded : UInt64 := 0
  lastPlacementSequence : Int := 0

namespace Link

variable {F : Type} (buffers : NativeBuffers) (rounding : Rounding)

/-- What the shell makes of a message, where there is one. -/
def delivered (s : Link F) (e : Emission) : Option Delivery :=
  (send buffers s.bridge e).2.bind (receive rounding s.lastPlacementSequence)

def next (s : Link F) (e : Emission) : Link F where
  bridge := (send buffers s.bridge e).1
  lastEncoded := match (send buffers s.bridge e).2 with
    | some (.packet _) => s.bridge.takeSequence.1
    | some (.message _) | none => s.lastEncoded
  lastPlacementSequence := match s.delivered buffers rounding e with
    | some (.placement event) => event.sequence
    | some (.windows _) | some (.notification _) | none => s.lastPlacementSequence

/-- A placement's number is above that of the last one. -/
def Increasing (s : Link F) (e : Emission) : Prop :=
  ∀ packet, (send buffers s.bridge e).2 = some (.packet packet) → s.lastEncoded < s.bridge.takeSequence.1

def Delivered (s : Link F) (e : Emission) : Prop :=
  (send buffers s.bridge e).2.isSome → (s.delivered buffers rounding e = sent rounding s.bridge e ↔ e.Readable)

/-- Numbers fit 63 bits, and the shell has seen no number above that of the last placement. -/
structure Numbered (s : Link F) : Prop where
  nextSequence : Signed s.bridge.nextSequence
  seen : s.lastPlacementSequence ≤ s.lastEncoded.toNat

end Link

theorem takeSequence_signed {F : Type} {b : WireBridge F} (h : Signed b.nextSequence) :
    Signed b.takeSequence.1 ∧ b.takeSequence.1 ≠ 0 ∧ Signed b.takeSequence.2.nextSequence := by
  have hm : b.takeSequence.1 = if b.nextSequence ≤ 1 then 1 else b.nextSequence := UInt64.max_def ..
  have hn : b.takeSequence.2.nextSequence =
      if 2 ^ 63 - 1 ≤ b.takeSequence.1.toNat then 1 else b.takeSequence.1 + 1 := rfl
  have hsi : Signed b.takeSequence.1 := by
    rw [hm]
    split_ifs
    · exact (by decide : Signed 1)
    · exact h
  refine ⟨hsi, fun hz => ?_, ?_⟩
  · rw [hz] at hm
    split_ifs at hm with hs
    · cases hm
    · exact hs (hm ▸ (by decide : (0 : UInt64) ≤ 1))
  · rw [hn]
    split_ifs with hla
    · exact (by decide : Signed 1)
    · unfold Signed
      rw [UInt64.toNat_add, UInt64.toNat_one]; omega

variable {envelope : NativeEnvelope} {message : NativeMessage}

theorem decodeStructured_finish {buffers : NativeBuffers} (h : finish buffers envelope = .ok message)
    (hv : envelope.protocolVersion = protocolVersion) (hs : 0 < int64 envelope.sequence) :
    decodeStructured message = some (int64 envelope.sequence, int64 envelope.requestId, envelope.payload) := by
  unfold finish at h
  split_ifs at h with hz
  cases h
  have hh := buffers.header envelope; unfold minEnvelopeBytes at hh
  unfold decodeStructured; rw [if_neg, if_neg, if_neg]
  · simp only [Bool.or_eq_true, bne_iff_ne, decide_eq_true_eq, not_or, not_not]
    exact ⟨hv, Int.not_le.2 hs⟩
  · exact Bool.false_ne_true
  · simp only [Bool.or_eq_true, decide_eq_true_eq, not_or]; exact ⟨Nat.not_lt.2 hh, hz⟩

theorem receive_finish {buffers : NativeBuffers} {rounding : Rounding} {last : Int}
    (h : finish buffers envelope = .ok message) (hv : envelope.protocolVersion = protocolVersion)
    (hs : 0 < int64 envelope.sequence) :
    receive rounding last (.message message) = receivePayload envelope.payload := by
  unfold receive; dsimp only
  rw [decodeStructured_finish h hv hs, Option.bind_some]

/-! ## What is sent -/

section Sent

variable {F : Type} (buffers : NativeBuffers)

theorem ok_of_toOption {ε α : Type} {x : Except ε α} {a : α} (h : x.toOption = some a) : x = .ok a := by
  cases x with
  | error _ => cases h
  | ok _ => exact congrArg Except.ok (Option.some.inj h)

/-- An update that is not sent takes no number, or one that is lost with it; one that is sent has the list, where that is
valid, with the windows that were there before. -/
theorem updateWindows_cases (bl : Builder F) (b : WireBridge F) (rev : UInt64)
    (ws : List WindowDescription) (wins : List UInt64) : let result := b.updateWindows bl rev ws wins
    (result.1.nextSequence = b.nextSequence ∨ result.1.nextSequence = b.takeSequence.2.nextSequence) ∧
      ∀ o old, result.2 = .ok (some o, old) → validateWindows ws = .ok () ∧
        o = .windowsUpdate b.takeSequence.1 ws (restoredOf ws wins) := by
  intro result
  by_cases ho : b.windowsRevision = some rev
  · have hr : result = (b, .ok (none, ws)) := if_pos ho
    rw [hr]; exact ⟨.inl rfl, fun _ _ h => by cases h⟩
  cases hv : validateWindows ws with
  | error error =>
    have hr : result = (b, .error error) := by
      show WireBridge.updateWindows .. = _; unfold WireBridge.updateWindows
      rw [if_neg ho, hv]
    rw [hr]; exact ⟨.inl rfl, fun _ _ h => by cases h⟩
  | ok _ =>
    show ((WireBridge.updateWindows ..).1.nextSequence = _ ∨ (WireBridge.updateWindows ..).1.nextSequence = _) ∧
      ∀ _ _, (WireBridge.updateWindows ..).2 = _ → _
    unfold WireBridge.updateWindows; rw [if_neg ho, hv]
    dsimp only; split
    · exact ⟨.inr rfl, fun _ _ h => by cases h⟩
    rename_i message he
    refine ⟨.inr rfl, fun so old h => ⟨rfl, ?_⟩⟩
    obtain ⟨bytes, -, hm⟩ := bind_ok.1 he
    split_ifs at hm
    cases hm
    cases h; rfl

variable {b : WireBridge F} {transfer : Transfer}

theorem send_windows {rev : UInt64} {ws : List WindowDescription} {wins : List UInt64}
    (h : (send buffers b (.windows rev ws wins)).2 = some transfer) :
    validateWindows ws = .ok () ∧ ∃ message, transfer = .message message ∧
      encodeWindowsUpdate buffers b.takeSequence.1 ws (restoredOf ws wins) = .ok message := by
  have hs := (updateWindows_cases (windowsBuilder buffers) b rev ws wins).2
  unfold send at h; dsimp only at h
  split at h
  · rename_i b' sequence sw sr old hu
    obtain ⟨hv, ho⟩ := hs _ old (by rw [hu]); cases ho
    obtain ⟨message, hm, rfl⟩ := Option.map_eq_some_iff.1 h
    exact ⟨hv, message, rfl, ok_of_toOption hm⟩
  · cases h

theorem send_placement {p : WindowPlacement} (h : (send buffers b (.placement p)).2 = some transfer) :
    p.check = .ok () ∧ transfer = .packet (placementPacket b.takeSequence.1 p) := by
  cases hh : p.check with
  | error error =>
    rw [send, hh] at h; cases h
  | ok _ =>
    rw [send, hh] at h; exact ⟨rfl, (Option.some.inj h).symm⟩

theorem send_notification {event : NotificationEvent} (h : (send buffers b (.notification event)).2 = some transfer) :
    validateNotificationEvent event = .ok () ∧ ∃ message, transfer = .message message ∧
      encodeNotification buffers b.takeSequence.1 event = .ok message := by
  cases hv : validateNotificationEvent event with
  | error error =>
    rw [send, hv] at h; cases h
  | ok _ =>
    rw [send, hv] at h
    obtain ⟨message, hm, rfl⟩ := Option.map_eq_some_iff.1 h
    exact ⟨rfl, message, rfl, ok_of_toOption hm⟩

theorem send_numbers (b : WireBridge F) (e : Emission) : (send buffers b e).1.nextSequence = b.nextSequence ∨
      (send buffers b e).1.nextSequence = b.takeSequence.2.nextSequence := by
  cases e with
  | windows revision windows wins =>
    have hn := (updateWindows_cases (windowsBuilder buffers) b revision windows wins).1
    have hr : (send buffers b (.windows revision windows wins)).1 =
        (b.updateWindows (windowsBuilder buffers) revision windows wins).1 := by
      unfold send; dsimp only
      split <;> rename_i hu <;> rw [hu]
    rw [hr]; exact hn
  | placement p =>
    unfold send; dsimp only
    split
    · exact .inl rfl
    · exact .inr rfl
  | notification event =>
    unfold send; dsimp only
    split
    · exact .inl rfl
    · exact .inr rfl
  | other => exact .inr rfl

end Sent

/-! ## What is received -/

namespace Link

variable {F : Type} {buffers : NativeBuffers} {rounding : Rounding}

theorem some_map_eq_iff {α β : Type} {f : α → β} (hf : f.Injective) {x : Option α} {a : α} :
    x.map f = some (f a) ↔ x = some a := by
  rw [← Option.map_some]; exact (Option.map_injective hf).eq_iff

variable {e : Emission} {event : DenialWindowPlacementEvent}

theorem delivered_step {s : Link F} (h : s.Numbered) (hin : s.Increasing buffers e) :
    s.Delivered buffers rounding e := by
  obtain ⟨hn, hz, -⟩ := takeSequence_signed h.nextSequence
  have hpos := int64_pos hn hz; intro hso
  obtain ⟨transfer, hs⟩ := Option.isSome_iff_exists.1 hso; unfold delivered
  rw [hs, Option.bind_some]
  cases e with
  | windows revision windows wins =>
    obtain ⟨hv, message, rfl, hm⟩ := send_windows buffers hs
    rw [receive_finish hm rfl hpos]
    exact (some_map_eq_iff fun _ _ heq => Delivery.windows.inj heq).trans (windows_received_iff hv wins)
  | placement p =>
    obtain ⟨hh, rfl⟩ := send_placement buffers hs
    have hla : s.lastPlacementSequence < s.bridge.takeSequence.1.toNat :=
      h.seen.trans_lt (Int.ofNat_lt.2 (UInt64.lt_iff_toNat_lt.1 (hin _ hs)))
    exact (some_map_eq_iff fun _ _ heq => Delivery.placement.inj heq).trans
      (placement_received_iff rounding hh hn hla)
  | notification event =>
    obtain ⟨hv, message, rfl, hm⟩ := send_notification buffers hs
    rw [receive_finish hm rfl hpos, receivePayload, notification_received hv]
    exact ⟨fun _ => trivial, fun _ => rfl⟩
  | other => cases hs

theorem receive_message {last : Int} {message : NativeMessage} :
    receive rounding last (.message message) ≠ some (.placement event) := by
  intro h
  obtain ⟨⟨_, _, payload⟩, -, h⟩ := Option.bind_eq_some_iff.1 h
  cases payload with
  | windowSnapshot snapshot | desktopNotificationEvent =>
    obtain ⟨_, -, h⟩ := Option.map_eq_some_iff.1 h; cases h

theorem number_of_placement {s : Link F} (h : s.Numbered)
    (hde : s.delivered buffers rounding e = some (.placement event)) :
    event.sequence = s.bridge.takeSequence.1.toNat ∧ ∃ packet, (send buffers s.bridge e).2 = some (.packet packet) := by
  obtain ⟨hn, -⟩ := takeSequence_signed h.nextSequence
  obtain ⟨transfer, hs, hrec⟩ := Option.bind_eq_some_iff.1 hde
  cases e with
  | windows revision windows wins =>
    obtain ⟨-, message, rfl, -⟩ := send_windows buffers hs; exact absurd hrec receive_message
  | placement p =>
    obtain ⟨hh, rfl⟩ := send_placement buffers hs
    obtain ⟨dec, hd, heq⟩ := Option.map_eq_some_iff.1 hrec
    rw [decodePlacement_packet _ p rounding _ hh] at hd
    split_ifs at hd
    cases hd
    obtain rfl := Delivery.placement.inj heq; exact ⟨int64_eq_iff.2 hn, _, hs⟩
  | notification event =>
    obtain ⟨-, message, rfl, -⟩ := send_notification buffers hs; exact absurd hrec receive_message
  | other => cases hs

theorem numbered_next {s : Link F} (h : s.Numbered) (hin : s.Increasing buffers e) :
    (s.next buffers rounding e).Numbered := by
  obtain ⟨hm, hz, hne⟩ := takeSequence_signed h.nextSequence
  have hla : s.lastPlacementSequence ≤ (s.next buffers rounding e).lastEncoded.toNat := by
    unfold next; dsimp only
    split
    · rename_i packet hn
      exact h.seen.trans (Int.ofNat_le.2 (UInt64.lt_iff_toNat_lt.1 (hin packet hn)).le)
    · exact h.seen
    · exact h.seen
  constructor
  · show Signed (send buffers s.bridge e).1.nextSequence
    rcases send_numbers buffers s.bridge e with heq | heq <;> rw [heq]
    · exact h.nextSequence
    · exact hne
  · cases hd : s.delivered buffers rounding e with
    | none =>
      have hs : (s.next buffers rounding e).lastPlacementSequence = s.lastPlacementSequence := by
        unfold next; rw [hd]
      rw [hs]; exact hla
    | some d =>
      cases d with
      | placement event =>
        obtain ⟨he, packet, hn⟩ := number_of_placement h hd
        have hs : (s.next buffers rounding e).lastPlacementSequence = event.sequence := by
          unfold next; rw [hd]
        have hen : (s.next buffers rounding e).lastEncoded = s.bridge.takeSequence.1 := by
          unfold next; rw [hn]
        rw [hs, hen, he]
      | windows _ | notification _ =>
        have hs : (s.next buffers rounding e).lastPlacementSequence = s.lastPlacementSequence := by
          unfold next; rw [hd]
        rw [hs]; exact hla

/-- In every run of a new bridge in which the placements have increasing numbers, each message is received as it was sent
if and only if its windows have identities of their own, and identities fit 63 bits. -/
theorem emissions_received (buffers : NativeBuffers) (rounding : Rounding) (snapshot : Topology.TopologySnapshot F)
    (atlas : Topology.AtlasPlan F) (workArea : WorkAreaOptions) (emissions : List Emission) :
    let start : Link F := { bridge := { snapshot, atlas, workArea } }
    Along (next buffers rounding) (Increasing buffers) start emissions →
      Along (next buffers rounding) (Delivered buffers rounding) start emissions := by
  intro start hinc
  have hstar : start.Numbered := ⟨(by decide : Signed 1), Int.le_refl 0⟩
  exact Along.of_invariant (I := Numbered) (fun _ _ h => numbered_next h) (fun _ _ h => delivered_step h) hstar hinc

/-! ## One run -/

def shortMessages : NativeBuffers := ⟨fun _ => 128, fun _ => by decide⟩

def freshLink : Link ℚ := { bridge := freshBridge }

def placedWindow : WindowPlacement :=
  ⟨1, 7, 1, .updates, .move, ⟨⟨0⟩, ⟨0⟩, ⟨0x3ff0000000000000⟩, ⟨0x3ff0000000000000⟩⟩⟩

theorem placed_window :
    freshLink.delivered shortMessages .exact (.placement placedWindow) =
      sent .exact freshLink.bridge (.placement placedWindow) := by
  have hrun := emissions_received shortMessages .exact freshBridge.snapshot freshBridge.atlas freshBridge.workArea
    [.placement placedWindow] ⟨fun _ _ => by decide, trivial⟩
  exact (hrun.1 (by decide +kernel)).2 (by decide : Signed 1)

/-- Two windows of one identity are sent, and kept for their revision, but the shell refuses the list. -/
theorem twice_window_refused :
    validateWindows [twiceWindow [], twiceWindow []] = .ok () ∧
      (send shortMessages freshBridge (.windows 1 [twiceWindow [], twiceWindow []] [])).1.windowsRevision = some 1 ∧
      (send shortMessages freshBridge (.windows 1 [twiceWindow [], twiceWindow []] [])).2.isSome = true ∧
      freshLink.delivered shortMessages .exact (.windows 1 [twiceWindow [], twiceWindow []] []) = none := by
  decide +kernel

end Link

end Deniald.Wire.Decoder
