/-
What the bounded queue of input keeps of a run of pushes (`push_bounded_input`). Equal records are told apart by their
number in the stream: first those the queue began with, then the pushes.
-/
import Deniald.Input.Queue
import Deniald.Lib.Coalesce

namespace Deniald.Input

open Deniald.Lib

variable {F : Type}

def motionDevice (record : InputRecord F × Nat) : Option Int := record.1.replaceableMotionDevice

theorem pushAll_numbered (cap : Nat) (initial : List (InputRecord F)) (recs : List (InputRecord F × Nat)) :
    (pushAll motionDevice cap initial.zipIdx recs).map Prod.fst =
      pushAll InputRecord.replaceableMotionDevice cap initial (recs.map Prod.fst) := by
  have h := pushAll_map InputRecord.replaceableMotionDevice Prod.fst cap recs initial.zipIdx
  rw [List.zipIdx_map_fst] at h; exact h.symm

theorem nodup_numbered (initial pushes : List (InputRecord F)) :
    (initial.zipIdx ++ pushes.zipIdx initial.length).Nodup := by
  have hn : (initial ++ pushes).zipIdx = initial.zipIdx ++ pushes.zipIdx initial.length := by
    rw [List.zipIdx_append, Nat.zero_add]
  rw [← hn]
  refine List.Nodup.of_map Prod.snd ?_
  rw [List.zipIdx_map_snd]; exact List.nodup_range'

/-- The queue is bounded and in the order of the pushes. A record that is not a sample is lost only to a queue full of
such. A sample is lost to a later one of its device with no other record than samples pushed in between, as the oldest
sample of a full queue, or on arrival at a queue full of other records. -/
theorem push_bounded_input_coalesces {capacity : Nat} {initial : List (InputRecord F)}
    (hinitial : initial.length ≤ capacity) (pushes : List (InputRecord F)) :
    (∀ records : List (InputRecord F × Nat), (pushAll motionDevice capacity initial.zipIdx records).map Prod.fst =
      pushAll InputRecord.replaceableMotionDevice capacity initial (records.map Prod.fst)) ∧
    (pushes.zipIdx initial.length).map Prod.fst = pushes ∧
    Coalesced motionDevice capacity initial.zipIdx (pushes.zipIdx initial.length) := by
  refine ⟨pushAll_numbered capacity initial, List.zipIdx_map_fst _ _, ?_⟩
  have hlen : initial.zipIdx.length ≤ capacity := by
    rw [List.length_zipIdx]; exact hinitial
  exact coalesced hlen (nodup_numbered initial pushes)

def motionSample (device : Int) : InputRecord Nat :=
  .pointer ⟨.move, 0, 0, device, .none, 0, 0, 0, 0, 0, 0, .touch, 0, true⟩

def keyPress (keycode : Nat) : InputRecord Nat := .keyboard ⟨keycode, 0, 0, true⟩

/-- A queue of three: the samples of the second device meet, the first one's makes room for a key. -/
theorem second_sample_coalesces :
    ((pushAll motionDevice 3 [] ([motionSample 1, keyPress 30, motionSample 2, motionSample 2, keyPress 31].zipIdx 0)).map (·.2) = [1, 3, 4]) ∧
    Coalesced motionDevice 3 ([] : List (InputRecord Nat)).zipIdx
      ([motionSample 1, keyPress 30, motionSample 2, motionSample 2, keyPress 31].zipIdx 0) :=
  ⟨by decide, (push_bounded_input_coalesces (Nat.zero_le 3) _).2.2⟩

end Deniald.Input
