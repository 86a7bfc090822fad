/-
When the software keyboard is opened, and with what authorization.
-/
import Deniald.TextInput.Session

namespace Deniald.TextInput

open Deniald.Lib

variable {I C S : Type} [DecidableEq I]

/-! ## Visibility -/

/-- An instance that shows the keyboard while it is active. -/
def Instance.Shown (a : Instance I C) : Prop := a.inputPanelVisibleHint ≠ some false ∧ a.touchDismissed = false

omit [DecidableEq I] in
theorem Instance.shown_iff (a : Instance I C) :
    (a.inputPanelVisibleHint.getD true && !a.touchDismissed) = true ↔ a.Shown := by
  unfold Shown; rw [Bool.and_eq_true, Bool.not_eq_true']
  cases a.inputPanelVisibleHint with
  | none => simp
  | some visible => simp

namespace SessionState

variable {s : SessionState I C S}

theorem visible_iff (hv : s.Valid) : s.panelVisible = true ↔ ∃ a ∈ s.instances, s.active = some a.id ∧ a.Shown := by
  unfold panelVisible
  rw [hv.activeInstance_eq, Option.any_eq_true]
  constructor
  · rintro ⟨a, hf, hs⟩
    obtain ⟨id, hac, hn⟩ := Option.bind_eq_some_iff.1 hf
    obtain ⟨ha, rfl⟩ := mem_of_find hn; exact ⟨a, ha, hac, a.shown_iff.1 hs⟩
  · rintro ⟨a, ha, hac, hs⟩
    refine ⟨a, ?_, a.shown_iff.2 hs⟩
    rw [hac]; exact hv.find_of_mem ha

def Quiet (s s' : SessionState I C S) : Prop :=
  ∀ b ∈ s'.instances, s'.active = some b.id → b.Shown → ∃ a ∈ s.instances, s.active = some a.id ∧ a.Shown

theorem Quiet.visible {s' : SessionState I C S} (h : Quiet s s') (hv : s.Valid) (hv' : s'.Valid)
    (hvi : s'.panelVisible = true) : s.panelVisible = true := by
  obtain ⟨b, hb, hac, hs⟩ := (visible_iff hv').1 hvi
  exact (visible_iff hv).2 (h b hb hac hs)

/-! ## Steps -/

omit [DecidableEq I] in
theorem showPanel_same (a : Instance I C) (now : Int) (visible : Bool) :
    (a.showPanel now visible).id = a.id ∧ (a.showPanel now visible).client = a.client ∧
      (a.showPanel now visible).entered = a.entered ∧ (a.showPanel now visible).serial = a.serial := by
  unfold Instance.showPanel; dsimp only
  split
  · exact ⟨rfl, rfl, rfl, rfl⟩
  · split <;> exact ⟨rfl, rfl, rfl, rfl⟩

theorem edits_setInputPanelHint (hv : s.Valid) (now : Int) (id : I) (visible : Bool) :
    Edits s (s.setInputPanelHint now id visible) fun a =>
      if a.id = id && a.entered then a.showPanel now visible else a :=
  edits_edit hv id fun a =>
    ⟨(showPanel_same a now visible).1, (showPanel_same a now visible).2.1, (showPanel_same a now visible).2.2.1⟩

theorem edits_request (hv : s.Valid) (id : I) (request : FieldRequest) :
    Edits s (s.request id request) fun a =>
      if a.id = id && a.entered then { a with pending := request.apply a.pending } else a := by
  rw [request_eq_stage]; exact edits_edit hv id fun a => ⟨rfl, rfl, rfl⟩

theorem valid_commit (hv : s.Valid) (now : Int) (id : I) : (s.commit now id).1.Valid := by
  cases hf : s.find id with
  | none =>
    unfold commit
    rw [hf]; exact hv
  | some a =>
    obtain ⟨a', he, -, ho⟩ := commit_outcome hv now hf
    refine he.valid hv fun k hk => ?_
    generalize (s.commit now id).1.active = ac at ho hk
    cases ho with
    | outside | ignored | updated => exact hv.active k hk
    | activated entered =>
      cases hk; exact ⟨a, (mem_of_find hf).1, rfl, entered⟩
    | deactivated => cases hk

theorem valid_handle [DecidableEq C] [DecidableEq S] (hv : s.Valid) {e : SessionEvent I C S}
    (hf : ∀ id client version, e = .register id client version → s.find id = none) : (s.handle e).Valid := by
  cases e with
  | register id client version => exact valid_register hv (hf id client version rfl)
  | remove id => exact valid_remove hv id
  | setFocus focus => exact valid_setFocus hv focus
  | request id request => exact (edits_request hv id request).valid hv (by
      show ∀ k, (s.request id request).active = some k → _; rw [request_eq_stage]
      exact hv.active)
  | setInputPanelHint now id visible => exact (edits_setInputPanelHint hv now id visible).valid hv hv.active
  | beginTouchAuthorization now => exact (edits_beginTouchAuthorization s now).valid hv hv.active
  | commit now id => exact valid_commit hv now id
  | surfaceCommitted surface =>
    obtain ⟨h, he, hac, -⟩ := surfaceCommitted_edits hv surface
    refine he.valid hv fun k hk => hv.active k ?_
    rw [← hac]; exact hk

/-! ## Openings -/

/-- A show request opens the keyboard for its instance: with an authorization, or from under the instance's own hide
request. -/
theorem opens_show (hv : s.Valid) {now : Int} {id : I} {visible : Bool} (hh : s.panelVisible = false)
    (hvi : (s.setInputPanelHint now id visible).panelVisible = true) :
    ∃ a, s.find id = some a ∧ s.active = some id ∧ visible = true ∧
      (a.touchAuthorized now = true ∨ a.inputPanelVisibleHint = some false) := by
  have he := edits_setInputPanelHint hv now id visible
  obtain ⟨b, hb, hac, hs⟩ := (visible_iff (he.valid hv hv.active)).1 hvi
  rw [he.instances] at hb
  obtain ⟨a, ha, rfl⟩ := List.mem_map.1 hb
  have hid : (if a.id = id && a.entered then a.showPanel now visible else a).id = a.id := (he.same a ha).1
  have hf : s.active = some a.id := hac.trans (congrArg some hid)
  have hn : ¬a.Shown := fun h => by
    rw [(visible_iff hv).2 ⟨a, ha, hf, h⟩] at hh; cases hh
  split at hs
  · rename_i hm
    obtain rfl := of_decide_eq_true (Bool.and_eq_true_iff.1 hm).1
    refine ⟨a, hv.find_of_mem ha, hf, ?_⟩; unfold Instance.showPanel at hs
    cases visible with
    | false => exact absurd hs.2 nofun
    | true =>
      refine ⟨rfl, ?_⟩; rw [Bool.true_and] at hs
      by_cases hau : a.touchAuthorized now = true
      · exact .inl hau
      rw [if_neg hau] at hs
      have hd : a.touchDismissed = false := hs.2
      by_contra hne
      exact hn ⟨fun hhi => hne (.inr hhi), hd⟩
  · exact absurd hs hn

theorem opens_commit (hv : s.Valid) {now : Int} {id : I} (hh : s.panelVisible = false)
    (hvi : (s.commit now id).1.panelVisible = true) :
    ∃ a, s.find id = some a ∧ (s.commit now id).1.active = some id ∧ a.touchAuthorized now = true := by
  cases hf : s.find id with
  | none =>
    unfold commit at hvi
    rw [hf, hh] at hvi; cases hvi
  | some a =>
    obtain ⟨a', he, -, ho⟩ := commit_outcome hv now hf
    obtain ⟨b, hb, hac, hs⟩ := (visible_iff (valid_commit hv now id)).1 hvi
    rw [he.instances] at hb
    obtain ⟨c, hc, rfl⟩ := List.mem_map.1 hb
    obtain ⟨ha, rfl⟩ := mem_of_find hf
    have hid : (if c.id = a.id then a' else c).id = c.id := (he.same c hc).1
    rw [hid] at hac
    have hno : ∀ d ∈ s.instances, s.active = some d.id → ¬d.Shown := fun d hd hac h => by
      rw [(visible_iff hv).2 ⟨d, hd, hac, h⟩] at hh; cases hh
    refine ⟨a, rfl, ?_⟩
    generalize (s.commit now a.id).1.active = ac at ho hac
    by_cases hm : c.id = a.id
    · rw [hm] at hac
      obtain rfl := hv.eq_of_id hc ha hm; rw [if_pos rfl] at hs
      cases ho with
      | outside entered hn dm deadline =>
        refine absurd ⟨?_, ?_⟩ (hno c hc hac)
        · rw [← hn]; exact hs.1
        · rw [← dm]; exact hs.2
      | ignored entered i => exact absurd hac i
      | activated entered free deadline dm =>
        rw [hs.2] at dm; exact ⟨rfl, by simpa using dm.symm⟩
      | deactivated => cases hac
      | updated entered ac deadline hn dm =>
        refine ⟨ac, dm.resolve_left fun hsa => hno c hc hac ⟨?_, ?_⟩⟩
        · rw [← hn]; exact hs.1
        · rw [← hsa]; exact hs.2
    · rw [if_neg hm] at hs
      cases ho with
      | outside | ignored | updated => exact absurd hs (hno c hc hac)
      | activated => exact absurd (Option.some.inj hac).symm hm
      | deactivated => cases hac

end SessionState

end Deniald.TextInput
