/-
The records between deniald and its portal (portal_protocol.rs): the bytes of each message, what is read back from any
bytes, and which bytes are accepted.
-/
import Deniald.Lib.Fallible
import Deniald.Lib.LittleEndian

namespace Deniald.Portal

open Deniald.Lib

/-! ## Snapshots -/

inductive DesktopColorSchemePreference where
  | noPreference
  | preferDark
  | preferLight
  deriving DecidableEq

inductive DesktopThemeBrightness where
  | dark
  | light
  deriving DecidableEq

inductive ProtocolError where
  | truncated (length : Nat)
  | invalidMagic
  | unsupportedVersion (version : Nat)
  | unexpectedKind (kind : Nat)
  | invalidPayloadLength (length : Nat)
  | invalidRevision
  | invalidPreference (value : Nat)
  | invalidBrightness (value : Nat)
  | inconsistentSnapshot

namespace DesktopColorSchemePreference

def effectiveBrightness : DesktopColorSchemePreference → DesktopThemeBrightness
  | preferLight => .light
  | noPreference | preferDark => .dark

def portalValue : DesktopColorSchemePreference → UInt32
  | noPreference => 0
  | preferDark => 1
  | preferLight => 2

def discriminant : DesktopColorSchemePreference → Nat
  | noPreference => 0
  | preferDark => 1
  | preferLight => 2

def tryFrom : Nat → Except ProtocolError DesktopColorSchemePreference
  | 0 => .ok noPreference
  | 1 => .ok preferDark
  | 2 => .ok preferLight
  | value => .error (.invalidPreference value)

theorem tryFrom_ok {n : Nat} {p : DesktopColorSchemePreference} : tryFrom n = .ok p ↔ n = p.discriminant := by
  constructor
  · intro h
    unfold tryFrom at h; split at h <;> cases h <;> rfl
  · rintro rfl
    cases p <;> rfl

end DesktopColorSchemePreference

namespace DesktopThemeBrightness

def discriminant : DesktopThemeBrightness → Nat
  | dark => 0
  | light => 1

def tryFrom : Nat → Except ProtocolError DesktopThemeBrightness
  | 0 => .ok dark
  | 1 => .ok light
  | value => .error (.invalidBrightness value)

theorem tryFrom_ok {n : Nat} {b : DesktopThemeBrightness} : tryFrom n = .ok b ↔ n = b.discriminant := by
  constructor
  · intro h
    unfold tryFrom at h; split at h <;> cases h <;> rfl
  · rintro rfl
    cases b <;> rfl

end DesktopThemeBrightness

structure DesktopAccentColor where
  red : UInt8
  green : UInt8
  blue : UInt8

structure DesktopThemeSnapshot where
  revision : UInt64
  configuredPreference : DesktopColorSchemePreference
  effectiveBrightness : DesktopThemeBrightness
  portalColorScheme : UInt32
  accentColor : DesktopAccentColor

/-- `new` and `with_accent`. -/
def DesktopThemeSnapshot.new (revision : UInt64) (preference : DesktopColorSchemePreference)
    (accentColor : DesktopAccentColor := ⟨0xd0, 0xbc, 0xff⟩) : DesktopThemeSnapshot :=
  ⟨revision, preference, preference.effectiveBrightness, preference.portalValue, accentColor⟩

/-! ## Records -/

/-- `b"DENIALP\0"`. -/
def magic : List UInt8 := [0x44, 0x45, 0x4e, 0x49, 0x41, 0x4c, 0x50, 0]

def protocolVersion : Nat := 2

def headerBytes : Nat := 16

def snapshotPayloadBytes : Nat := 20

def kindHello : Nat := 1

def kindThemeSnapshot : Nat := 2

def headerFields (kind payloadBytes : Nat) : List (Nat × Nat) := [(2, protocolVersion), (2, kind), (4, payloadBytes)]

def encodeHeader (kind payloadBytes : Nat) : List UInt8 := magic ++ layOut (headerFields kind payloadBytes)

/-- `encode_client_message` of the one message there is. -/
def encodeHello : List UInt8 := encodeHeader kindHello 0

def payloadFields (s : DesktopThemeSnapshot) : List (Nat × Nat) :=
  [(8, s.revision.toNat), (1, s.configuredPreference.discriminant), (1, s.effectiveBrightness.discriminant),
    (4, s.portalColorScheme.toNat), (1, s.accentColor.red.toNat), (1, s.accentColor.green.toNat),
    (1, s.accentColor.blue.toNat)]

/-- The bytes of a snapshot, with those that no field takes. -/
def record (s : DesktopThemeSnapshot) (reserved : List UInt8) : List UInt8 :=
  encodeHeader kindThemeSnapshot snapshotPayloadBytes ++ (layOut (payloadFields s) ++ reserved)

def encodeServerMessage (s : DesktopThemeSnapshot) : List UInt8 := record s [0, 0, 0]

def decodeHeader (bytes : List UInt8) : Except ProtocolError (Nat × List UInt8) :=
  if bytes.length < headerBytes then .error (.truncated bytes.length)
  else if bytes.take 8 ≠ magic then .error .invalidMagic
  else if uint 2 8 bytes ≠ protocolVersion then .error (.unsupportedVersion (uint 2 8 bytes))
  else
    let payloadBytes := uint 4 12 bytes
    if snapshotPayloadBytes < payloadBytes ∨ bytes.length ≠ headerBytes + payloadBytes then
      .error (.invalidPayloadLength payloadBytes)
    else .ok (uint 2 10 bytes, bytes.drop headerBytes)

def decodeClientMessage (bytes : List UInt8) : Except ProtocolError Unit := do
  let (kind, payload) ← decodeHeader bytes
  if kind ≠ kindHello then .error (.unexpectedKind kind)
  else if payload.length ≠ 0 then .error (.invalidPayloadLength payload.length)
  else .ok ()

def decodeServerMessage (bytes : List UInt8) : Except ProtocolError DesktopThemeSnapshot := do
  let (kind, payload) ← decodeHeader bytes
  if kind ≠ kindThemeSnapshot then .error (.unexpectedKind kind)
  else if payload.length ≠ snapshotPayloadBytes then .error (.invalidPayloadLength payload.length)
  else if uint 8 0 payload = 0 then .error .invalidRevision
  else
    let preference ← DesktopColorSchemePreference.tryFrom (uint 1 8 payload)
    let brightness ← DesktopThemeBrightness.tryFrom (uint 1 9 payload)
    let expected := DesktopThemeSnapshot.new (.ofNat (uint 8 0 payload)) preference
      ⟨.ofNat (uint 1 14 payload), .ofNat (uint 1 15 payload), .ofNat (uint 1 16 payload)⟩
    if brightness ≠ expected.effectiveBrightness ∨ uint 4 10 payload ≠ expected.portalColorScheme.toNat then
      .error .inconsistentSnapshot
    else .ok expected

/-! ## What is accepted -/

variable {bytes payload : List UInt8} {kind : Nat} {s : DesktopThemeSnapshot}

theorem length_payload (s : DesktopThemeSnapshot) (reserved : List UInt8) :
    (layOut (payloadFields s) ++ reserved).length = 17 + reserved.length := by
  rw [List.length_append, length_layOut]; rfl

theorem decodeHeader_ok : decodeHeader bytes = .ok (kind, payload) ↔
    kind < 256 ^ 2 ∧ payload.length ≤ snapshotPayloadBytes ∧ bytes = encodeHeader kind payload.length ++ payload := by
  unfold decodeHeader
  constructor
  · intro h; dsimp only at h; split_ifs at h with hl hm hv hp
    have hl : 16 ≤ bytes.length := not_lt.1 hl
    cases h
    rw [not_or, not_lt, not_not] at hp
    have hlen : (bytes.drop headerBytes).length = uint 4 12 bytes := by
      rw [List.length_drop, hp.2, Nat.add_sub_cancel_left]
    have hr : Reads bytes 8 (headerFields (uint 2 10 bytes) (uint 4 12 bytes)) := ⟨not_not.1 hv, rfl, rfl, trivial⟩
    refine ⟨uint_lt 2 10 bytes, hlen ▸ hp.1, ?_⟩
    rw [hlen, encodeHeader, List.append_assoc, ← not_not.1 hm]
    exact (List.take_append_drop 8 bytes).symm.trans (congrArg _ (hr.drop_eq hl))
  · rintro ⟨hk, hl, rfl⟩
    have hf : ∀ f ∈ headerFields kind payload.length, f.2 < 256 ^ f.1 := by
      unfold snapshotPayloadBytes at hl
      simpa [headerFields, protocolVersion] using ⟨hk, by omega⟩
    have hb := (List.append_assoc magic (layOut (headerFields kind payload.length)) payload).symm
    obtain ⟨hv, hk, hn, -⟩ := reads_layOut magic payload hf
    rw [hb, ← encodeHeader] at hv hk hn
    have hlen : (encodeHeader kind payload.length ++ payload).length = headerBytes + payload.length := by
      simp [encodeHeader, length_layOut, layOutSize, headerFields, magic, headerBytes]; omega
    generalize he : encodeHeader kind payload.length ++ payload = bytes at hv hk hn hlen
    have hv : uint 2 8 bytes = protocolVersion := hv
    have hk : uint 2 10 bytes = kind := hk
    have hn : uint 4 12 bytes = payload.length := hn
    rw [if_neg (by omega), if_neg (by rw [← he]; simp [encodeHeader, magic]), if_neg (by simp [hv])]
    simp only [hn, hk]
    rw [if_neg (by omega), ← he]; rfl

theorem decodeServerMessage_ok : decodeServerMessage bytes = .ok s ↔
    (∃ revision preference accent, revision ≠ 0 ∧ s = .new revision preference accent) ∧
      ∃ reserved, reserved.length = 3 ∧ bytes = record s reserved := by
  constructor
  · intro hd
    obtain ⟨⟨kind, payload⟩, hh, h⟩ := bind_ok.1 hd
    obtain ⟨-, -, rfl⟩ := decodeHeader_ok.1 hh
    dsimp only at h; split_ifs at h with hk hl hr
    obtain ⟨pref, hp, h⟩ := bind_ok.1 h
    obtain ⟨bright, hb, h⟩ := bind_ok.1 h
    split_ifs at h with hc
    rw [DesktopColorSchemePreference.tryFrom_ok] at hp
    rw [DesktopThemeBrightness.tryFrom_ok] at hb
    rw [not_or, not_not, not_not] at hc
    rw [not_not] at hk hl
    have hl : payload.length = 20 := hl
    cases h
    have hz : (UInt64.ofNat (uint 8 0 payload)).toNat = uint 8 0 payload :=
      UInt64.toNat_ofNat_of_lt' (uint_lt 8 0 payload)
    have hu : ∀ o, uint 1 o payload = (UInt8.ofNat (uint 1 o payload)).toNat := fun o =>
      (UInt8.toNat_ofNat_of_lt' (uint_lt 1 o payload)).symm
    refine ⟨⟨_, _, _, fun h => hr (by rw [← hz, h]; rfl), rfl⟩, payload.drop 17, by simp [hl], ?_⟩
    rw [record, hk, hl]
    have hr : Reads payload 0 (payloadFields _) := ⟨hz.symm, hp, hc.1 ▸ hb, hc.2, hu 14, hu 15, hu 16, trivial⟩
    exact congrArg _ (hr.drop_eq (hl ▸ by decide : 0 + 17 ≤ payload.length))
  · rintro ⟨⟨revision, pref, accent, hr, rfl⟩, reserved, hl, rfl⟩
    have hh : decodeHeader (record (.new revision pref accent) reserved) =
        .ok (kindThemeSnapshot, layOut (payloadFields (.new revision pref accent)) ++ reserved) :=
      decodeHeader_ok.2 ⟨by decide, by rw [length_payload, hl]; decide, by rw [length_payload, hl]; rfl⟩
    have hf : ∀ f ∈ payloadFields (.new revision pref accent), f.2 < 256 ^ f.1 := by
      simp only [payloadFields, DesktopThemeSnapshot.new, List.forall_mem_cons]
      exact ⟨revision.toNat_lt, by cases pref <;> decide, by cases pref <;> decide, by cases pref <;> decide,
        accent.red.toNat_lt, accent.green.toNat_lt, accent.blue.toNat_lt, by simp⟩
    have hlen := length_payload (.new revision pref accent) reserved
    have h : Reads (layOut (payloadFields (.new revision pref accent)) ++ reserved) 0 _ := reads_layOut [] reserved hf
    generalize layOut (payloadFields (.new revision pref accent)) ++ reserved = payload at hh hlen h
    simp only [payloadFields, DesktopThemeSnapshot.new, Reads, Nat.reduceAdd] at h
    have hz : revision.toNat ≠ 0 := fun h => hr (UInt64.toNat_inj.1 h)
    have hp := DesktopColorSchemePreference.tryFrom_ok.2 (rfl : pref.discriminant = _)
    have hb := DesktopThemeBrightness.tryFrom_ok.2 (rfl : pref.effectiveBrightness.discriminant = _)
    rw [hl] at hlen
    rw [decodeServerMessage, hh]
    simp [bind, Except.bind, snapshotPayloadBytes, hlen, h, hz, hp, hb, DesktopThemeSnapshot.new]

theorem decodeClientMessage_ok : decodeClientMessage bytes = .ok () ↔ bytes = encodeHello := by
  constructor
  · intro hd
    obtain ⟨⟨kind, payload⟩, hh, h⟩ := bind_ok.1 hd
    obtain ⟨-, -, rfl⟩ := decodeHeader_ok.1 hh
    dsimp only at h; split_ifs at h with hk hl
    rw [not_not] at hk hl
    rw [List.eq_nil_of_length_eq_zero hl, hk, List.append_nil]; rfl
  · rintro rfl; rfl

/-- A snapshot is read from its record, whatever the reserved bytes are, and from nothing else; it is a snapshot of some
preference and accent, and its revision is not zero. A greeting is read from its own bytes only, which are no record. -/
theorem portal_records (bytes : List UInt8) : (∀ s, decodeServerMessage bytes = .ok s ↔
      (∃ revision preference accent, revision ≠ 0 ∧ s = .new revision preference accent) ∧
        ∃ reserved, reserved.length = 3 ∧ bytes = record s reserved) ∧ (∀ revision preference accent, revision = 0 ∨
      decodeServerMessage (encodeServerMessage (.new revision preference accent)) = .ok (.new revision preference accent)) ∧
    (decodeClientMessage bytes = .ok () ↔ bytes = encodeHello) ∧
    ¬((∃ s, decodeServerMessage bytes = .ok s) ∧ decodeClientMessage bytes = .ok ()) := by
  refine ⟨fun s => decodeServerMessage_ok, fun revision pref accent => or_iff_not_imp_left.2 fun hr => ?_,
    decodeClientMessage_ok, ?_⟩
  · exact decodeServerMessage_ok.2 ⟨⟨_, _, _, hr, rfl⟩, _, rfl, rfl⟩
  · rintro ⟨⟨s, hs⟩, hc⟩
    obtain ⟨-, reserved, -, rfl⟩ := decodeServerMessage_ok.1 hs
    have hl := congrArg List.length (decodeClientMessage_ok.1 hc)
    rw [record, List.length_append, length_payload] at hl
    simp [encodeHello, encodeHeader, length_layOut, layOutSize, headerFields] at hl

end Deniald.Portal
