/-
What an input method is sent when the editor or the blocking changes: how its serial counts what it is sent, and when an
editor is active for it.
-/
import Deniald.InputMethod.Manager

namespace Deniald.InputMethod

/-! ## Messages -/

def activation (active : Bool) : InputMethodMessage → Option Bool
  | .activate => if active then none else some true
  | .deactivate => if active then some false else none
  | _ => some active

def Alternates (messages : List InputMethodMessage) (active active' : Bool) : Prop :=
  messages.foldlM activation active = some active'

theorem alternates_nil (active : Bool) : Alternates [] active active := rfl

theorem Alternates.append {msgs msgs' : List InputMethodMessage} {a b c : Bool} (h : Alternates msgs a b)
    (h' : Alternates msgs' b c) : Alternates (msgs ++ msgs') a c := by
  unfold Alternates at *
  rw [List.foldlM_append, h]; exact h'

theorem alternates_surrounding (active : Bool) (surrounding : Option (String × UInt32 × UInt32)) :
    Alternates (surrounding.toList.map fun (text, cursor, anchor) => .surroundingText text cursor anchor) active active := by
  cases surrounding <;> rfl

theorem count_surrounding (surrounding : Option (String × UInt32 × UInt32)) :
    (surrounding.toList.map fun (text, cursor, anchor) =>
      InputMethodMessage.surroundingText text cursor anchor).count .done = 0 := by
  cases surrounding <;> rfl

/-! ## Publishing -/

structure Published (i : InputMethodInstance) (effective : Option EditorSnapshot)
    (r : InputMethodInstance × List InputMethodMessage) : Prop where
  resource : r.1.resource = i.resource
  alive : r.1.alive = i.alive
  active : r.1.active = effective.isSome
  serial : r.1.serial = i.serial + UInt32.ofNat (r.2.count .done)
  alternates : Alternates r.2 i.active r.1.active
  endpoint : ∀ editor, effective = some editor → r.1.activeEndpoint = some editor.endpoint
  closes : effective = none → r.2 = [] ∨ r.2 = [.deactivate, .done]
  quiet : effective = none → i.active = false → r.2 = []
  /-- The pending requests stay while the editor does, are cleared with the one before, and stay if there was none. -/
  pending : (.activate ∉ r.2 ∧ i.active = r.1.active ∧ r.1.pending = i.pending) ∨
    (i.active = true ∧ r.1.pending = {}) ∨
    (i.active = false ∧ effective.isSome = true ∧ .activate ∈ r.2 ∧ r.1.pending = i.pending)

theorem present_alternates (i : InputMethodInstance) (ed : EditorSnapshot) :
    Alternates (i.present ed).2 i.active true := by
  have hr : Alternates ((ed.surroundingText.toList.map fun (text, cursor, anchor) =>
      InputMethodMessage.surroundingText text cursor anchor) ++ [.textChangeCause ed.changeCause,
        .contentType ed.contentHint ed.contentPurpose, .done]) true true :=
    (alternates_surrounding true ed.surroundingText).append rfl
  unfold InputMethodInstance.present; dsimp only
  cases i.active with
  | true => exact (alternates_nil true).append hr
  | false =>
    have hac : Alternates [.activate] false true := rfl
    exact hac.append hr

theorem present_count (i : InputMethodInstance) (ed : EditorSnapshot) : (i.present ed).2.count .done = 1 := by
  unfold InputMethodInstance.present; dsimp only
  rw [List.count_append, List.count_append, count_surrounding]
  cases i.active <;> rfl

theorem activate_mem_present (i : InputMethodInstance) (ed : EditorSnapshot) :
    .activate ∈ (i.present ed).2 ↔ i.active = false := by
  have hs : .activate ∉ (ed.surroundingText.toList.map fun (text, cursor, anchor) =>
      InputMethodMessage.surroundingText text cursor anchor) := by
    cases ed.surroundingText <;> simp
  unfold InputMethodInstance.present; dsimp only
  cases i.active <;> simp [hs]

variable {i : InputMethodInstance}

theorem published_closing (hac : i.active = true) (effective : Option EditorSnapshot) :
    Published i effective (match effective with
      | none => i.deactivate
      | some ed => ((i.deactivate.1.present ed).1, i.deactivate.2 ++ (i.deactivate.1.present ed).2)) := by
  have hs : Alternates i.deactivate.2 i.active false := by
    rw [hac]; rfl
  cases effective with
  | none =>
    exact ⟨rfl, rfl, rfl, rfl, hs, nofun, fun _ => .inr rfl, fun _ hd => absurd (hac.symm.trans hd) nofun,
      .inr (.inl ⟨hac, rfl⟩)⟩
  | some ed =>
    refine ⟨rfl, rfl, rfl, ?_, hs.append (present_alternates i.deactivate.1 ed), fun e he => ?_, nofun, nofun,
      .inr (.inl ⟨hac, rfl⟩)⟩
    · dsimp only; rw [List.count_append, present_count]
      show i.serial + 1 + 1 = i.serial + UInt32.ofNat 2
      rw [UInt32.add_assoc]; rfl
    · cases he; rfl

theorem published_present (ed : EditorSnapshot) : Published i (some ed) (i.present ed) := by
  refine ⟨rfl, rfl, rfl, ?_, present_alternates i ed, fun e he => ?_, nofun, nofun, ?_⟩
  · rw [present_count]; rfl
  · cases he; rfl
  · cases hac : i.active with
    | true =>
      refine .inl ⟨fun hmem => ?_, rfl, rfl⟩
      rw [activate_mem_present, hac] at hmem; cases hmem
    | false => exact .inr (.inr ⟨rfl, rfl, (activate_mem_present i ed).2 hac, rfl⟩)

theorem published_idle (hac : i.active = false) : Published i none (i, []) :=
  ⟨rfl, rfl, hac, (UInt32.add_zero _).symm, alternates_nil _, nofun, fun _ => .inl rfl, fun _ _ => rfl,
    .inl ⟨List.not_mem_nil, rfl, rfl⟩⟩

theorem publish_spec (i : InputMethodInstance) (effective : Option EditorSnapshot) :
    Published i effective (i.publish effective) := by
  unfold InputMethodInstance.publish; split
  rename_i j c hcl; split at hcl
  · rename_i hs
    have hac := (Bool.and_eq_true_iff.1 hs).1
    have hpu := published_closing hac effective; cases hcl
    cases effective with
    | none => exact hpu
    | some ed => exact hpu
  · rename_i hs; cases hcl
    cases effective with
    | none =>
      refine published_idle ?_
      rw [Option.isNone_none, Bool.or_true, Bool.and_true, Bool.not_eq_true] at hs; exact hs
    | some ed => exact published_present ed

end Deniald.InputMethod
