/-
A locked clipboard reveals nothing: whatever its history holds, its answers depend on its revision and on whether it is
paused only, and no request changes it.
-/
import Deniald.Clipboard.Packet

namespace Deniald.Clipboard

open Deniald.Lib

namespace ClipboardState

section

variable (toLowercase : String → String) {s t : ClipboardState}

theorem encodeSnapshot_locked (hs : s.locked = true) (fq : String) : encodeSnapshot toLowercase s fq =
      encodeHeader responseSnapshot statusOk ++ toLeBytes 8 s.revision.toNat ++ toLeBytes 8 0 ++ toLeBytes 8 0 ++
        [flag s.paused snapshotPaused ||| snapshotLocked] ++ toLeBytes 2 0 := by
  unfold encodeSnapshot
  simp only [hs, if_true]
  rw [List.flatMap_nil, List.append_nil]; rfl

def lockedResponse (s : ClipboardState) : ClipboardRequest → List UInt8
  | .snapshot query => encodeSnapshot toLowercase s (toLowercase query)
  | _ => encodeError .locked

theorem respond_locked (hs : s.locked = true) (request : ClipboardRequest) :
    s.respond toLowercase request = (s, s.lockedResponse toLowercase request) := by
  cases request with
  | snapshot q => rfl
  | read ii mt => exact congrArg (Prod.mk s) (if_pos hs)
  | activate ii => exact congrArg (Prod.map id encodeResult) (if_pos hs)
  | setPinned ii pn => exact congrArg (Prod.map id encodeResult) (if_pos hs)
  | delete ii => exact congrArg (Prod.map id encodeResult) (if_pos hs)
  | clear => exact congrArg (Prod.map id encodeResult) (if_pos hs)
  | setPaused p => exact congrArg (Prod.map id encodeResult) (if_pos hs)
  | startDrag ii => exact congrArg (Prod.map id encodeResult) (if_pos hs)

theorem handleControlPacket_locked (hs : s.locked = true) (p : List UInt8) :
    (s.handleControlPacket toLowercase p).1 = s := by
  unfold handleControlPacket; split
  · rw [respond_locked toLowercase hs]
  · rfl

theorem encodeSnapshot_eq (hs : s.locked = true) (ht : t.locked = true) (hr : s.revision = t.revision)
    (hpa : s.paused = t.paused) (foldedQuery : String) :
    encodeSnapshot toLowercase s foldedQuery = encodeSnapshot toLowercase t foldedQuery := by
  rw [encodeSnapshot_locked toLowercase hs, encodeSnapshot_locked toLowercase ht, hr, hpa]

theorem handleControlPacket_eq (hs : s.locked = true) (ht : t.locked = true) (hr : s.revision = t.revision)
    (hpa : s.paused = t.paused) (p : List UInt8) :
    (s.handleControlPacket toLowercase p).2 = (t.handleControlPacket toLowercase p).2 := by
  unfold handleControlPacket; split
  · rename_i request hre
    rw [respond_locked toLowercase hs, respond_locked toLowercase ht]
    cases request with
    | snapshot q => exact encodeSnapshot_eq toLowercase hs ht hr hpa _
    | _ => rfl
  · rfl

theorem retained_locked (hs : s.locked = true) : s.currentText = none ∧ (∀ ii mt, s.retainedData ii mt = none) ∧
    (∀ epoch ii, s.retainedMimeTypes epoch ii = none) ∧ ∀ ii, s.dragPayload ii = none :=
  ⟨if_pos hs, fun _ _ => if_pos hs, fun _ _ => if_pos (.inl hs), fun _ => if_pos hs⟩

end

end ClipboardState

open ClipboardState

/-- Two locked clipboards of the same revision and pause cannot be told apart: every control packet gets the same
response from both, and their state packets are the same. Neither gives away any data, and no control packet changes
its history, its selection or its queued actions. -/
theorem locked_reveals_nothing (toLowercase : String → String) {s t : ClipboardState} (hs : s.locked = true)
    (ht : t.locked = true) (hrevision : s.revision = t.revision) (hpaused : s.paused = t.paused) :
    (∀ packet, (s.handleControlPacket toLowercase packet).2 = (t.handleControlPacket toLowercase packet).2) ∧
      s.statePacket toLowercase = t.statePacket toLowercase ∧
      (s.currentText = none ∧ (∀ itemId mimeType, s.retainedData itemId mimeType = none) ∧
        (∀ epoch itemId, s.retainedMimeTypes epoch itemId = none) ∧ ∀ itemId, s.dragPayload itemId = none) ∧
      ∀ packet,
        (s.handleControlPacket toLowercase packet).1.history = s.history ∧
          (s.handleControlPacket toLowercase packet).1.current = s.current ∧
          (s.handleControlPacket toLowercase packet).1.managed = s.managed ∧
          (s.handleControlPacket toLowercase packet).1.actions = s.actions := by
  refine ⟨handleControlPacket_eq toLowercase hs ht hrevision hpaused,
    encodeSnapshot_eq toLowercase hs ht hrevision hpaused "", retained_locked hs, fun packet => ?_⟩
  rw [handleControlPacket_locked toLowercase hs packet]; exact ⟨rfl, rfl, rfl, rfl⟩

/-- Locked with one text and locked with another. -/
theorem locked_reveals_nothing_texts :
    (exec (next String.toLower) {} [.setText 0 "a", .setLocked true]).statePacket String.toLower =
      (exec (next String.toLower) {} [.setText 0 "b", .setLocked true]).statePacket String.toLower :=
  (locked_reveals_nothing String.toLower (by decide +kernel) (by decide +kernel) (by decide +kernel)
    (by decide +kernel)).2.1

end Deniald.Clipboard
