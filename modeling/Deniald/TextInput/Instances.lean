/-
What each request does to the instances of text-input-v3: which it changes and what of them stays.
-/
import Deniald.TextInput.State

namespace Deniald.TextInput

open Deniald.Lib

variable {I C S : Type} [DecidableEq I]

/-! ## Requests about fields -/

inductive FieldRequest where
  | enablement (enabled : Bool)
  | surrounding (surrounding : SurroundingText)
  | changeCause (cause : UInt32)
  | contentType (hint purpose : UInt32)
  | cursorRectangle (rectangle : CursorRectangle)
  | availableActions (actions : List UInt32)

def FieldRequest.apply (pending : PendingState) : FieldRequest → PendingState
  | .enablement enabled => .resetForEnablement enabled
  | .surrounding text => { pending with surrounding := some text }
  | .changeCause cause => { pending with changeCause := some cause }
  | .contentType hint purpose => { pending with contentType := some (hint, purpose) }
  | .cursorRectangle rectangle => { pending with cursorRectangle := some rectangle }
  | .availableActions actions => { pending with availableActions := some actions }

namespace SessionState

def request (s : SessionState I C S) (id : I) : FieldRequest → SessionState I C S
  | .enablement enabled => s.requestEnablement id enabled
  | .surrounding surrounding => s.setSurrounding id surrounding
  | .changeCause cause => s.setChangeCause id cause
  | .contentType hint purpose => s.setContentType id hint purpose
  | .cursorRectangle rectangle => s.setCursorRectangle id rectangle
  | .availableActions actions => s.setAvailableActions id actions

theorem request_eq_stage (s : SessionState I C S) (id : I) (request : FieldRequest) :
    s.request id request = s.stage id fun pending => request.apply pending := by
  cases request <;> rfl

/-! ## Valid sessions -/

/-- Instances have identities of their own, the focused client's are entered, and the active one is one of them. -/
structure Valid (s : SessionState I C S) : Prop where
  nodup : (s.instances.map (·.id)).Nodup
  entered : ∀ a ∈ s.instances, a.entered = true ↔ ∃ focus, s.focus = some focus ∧ focus.client = a.client
  active : ∀ id, s.active = some id → ∃ a ∈ s.instances, a.id = id ∧ a.entered = true

omit [DecidableEq I] in
theorem valid_start : Valid ({} : SessionState I C S) :=
  ⟨List.nodup_nil, fun _ h => (nomatch h), fun _ h => (nomatch h)⟩

variable {s s' : SessionState I C S} {a : Instance I C} {h : Instance I C → Instance I C}

theorem Valid.find_of_mem (h : s.Valid) (ha : a ∈ s.instances) : s.find a.id = some a := find?_of_mem h.nodup ha

theorem mem_of_find {id : I} (h : s.find id = some a) : a ∈ s.instances ∧ a.id = id := by
  have hid := List.find?_some h
  exact ⟨List.mem_of_find?_eq_some h, of_decide_eq_true hid⟩

theorem Valid.eq_of_id (h : s.Valid) {b : Instance I C} (ha : a ∈ s.instances) (hb : b ∈ s.instances)
    (hid : a.id = b.id) : a = b := by
  have hf := h.find_of_mem ha
  rw [hid, h.find_of_mem hb] at hf; exact (Option.some.inj hf).symm

theorem Valid.activeInstance_eq (h : s.Valid) : s.activeInstance = s.active.bind s.find := by
  unfold activeInstance
  cases hac : s.active with
  | none => rfl
  | some id =>
    obtain ⟨a, ha, rfl, he⟩ := h.active id hac
    show (s.instances.find? fun b => b.id = a.id && b.entered) = s.find a.id; rw [h.find_of_mem ha]
    cases hf : s.instances.find? fun b => b.id = a.id && b.entered with
    | none =>
      have := List.find?_eq_none.1 hf a ha
      rw [he] at this
      simp at this
    | some b =>
      have hb := List.find?_some hf; rw [Bool.and_eq_true, decide_eq_true_eq] at hb
      rw [h.eq_of_id (List.mem_of_find?_eq_some hf) ha hb.1]

/-! ## Edits -/

/-- The instances are changed in place, and stay those of their clients. -/
structure Edits (s s' : SessionState I C S) (h : Instance I C → Instance I C) : Prop where
  instances : s'.instances = s.instances.map h
  focus : s'.focus = s.focus
  same : ∀ a ∈ s.instances, (h a).id = a.id ∧ (h a).client = a.client ∧ (h a).entered = a.entered

omit [DecidableEq I] in
theorem Edits.ids (he : Edits s s' h) : s'.instances.map (·.id) = s.instances.map (·.id) := by
  rw [he.instances, List.map_map]
  exact List.map_congr_left fun a ha => (he.same a ha).1

theorem Edits.find (he : Edits s s' h) (hv : s.Valid) (id : I) : s'.find id = (s.find id).map h := by
  have hd := he.ids; rw [he.instances] at hd
  unfold SessionState.find; rw [he.instances]
  cases hf : s.instances.find? fun a => a.id = id with
  | none =>
    refine List.find?_eq_none.2 fun b hb => ?_
    obtain ⟨a, ha, rfl⟩ := List.mem_map.1 hb
    rw [(he.same a ha).1]; exact List.find?_eq_none.1 hf a ha
  | some a =>
    obtain ⟨ha, rfl⟩ := mem_of_find hf
    have hn : ((s.instances.map h).map (·.id)).Nodup := by
      rw [hd]; exact hv.nodup
    have := find?_of_mem hn (List.mem_map_of_mem (f := h) ha)
    rw [(he.same a ha).1] at this; exact this

omit [DecidableEq I] in
theorem Edits.valid (he : Edits s s' h) (hv : s.Valid)
    (hac : ∀ id, s'.active = some id → ∃ a ∈ s.instances, a.id = id ∧ a.entered = true) : s'.Valid := by
  refine ⟨?_, fun b hb => ?_, fun id hid => ?_⟩
  · rw [he.ids]; exact hv.nodup
  · rw [he.instances] at hb
    obtain ⟨a, ha, rfl⟩ := List.mem_map.1 hb
    obtain ⟨-, hcl, hn⟩ := he.same a ha
    rw [hcl, hn, he.focus]; exact hv.entered a ha
  · obtain ⟨a, ha, rfl, hn⟩ := hac id hid
    obtain ⟨hs, -, hs'⟩ := he.same a ha; rw [he.instances]
    exact ⟨h a, List.mem_map_of_mem ha, hs, hs'.trans hn⟩

theorem edits_edit (hv : s.Valid) (id : I) {f : Instance I C → Instance I C}
    (hf : ∀ a, (f a).id = a.id ∧ (f a).client = a.client ∧ (f a).entered = a.entered) :
    Edits s (s.edit id f) fun a => if a.id = id && a.entered then f a else a := by
  refine ⟨modifyFirst_eq_map_of (k := id) (fun a ha => ?_) hv.nodup, rfl, fun a _ => ?_⟩
  · rw [Bool.and_eq_true, decide_eq_true_eq] at ha; exact ha.1
  · split
    · exact hf a
    · exact ⟨rfl, rfl, rfl⟩

omit [DecidableEq I] in
theorem edits_refl (s : SessionState I C S) : Edits s s id :=
  ⟨(List.map_id _).symm, rfl, fun _ _ => ⟨rfl, rfl, rfl⟩⟩

theorem edits_replace (hv : s.Valid) {a' : Instance I C} (ha : a ∈ s.instances)
    (hn : s'.instances = modifyFirst (fun b => b.id = a.id) (fun _ => a') s.instances)
    (hf : s'.focus = s.focus) (hs : a'.id = a.id ∧ a'.client = a.client ∧ a'.entered = a.entered) :
    Edits s s' fun b => if b.id = a.id then a' else b := by
  refine ⟨?_, hf, fun b hb => ?_⟩
  · rw [hn]; exact modifyFirst_eq_map a.id hv.nodup
  · split
    · rename_i hid; rw [hv.eq_of_id hb ha hid]; exact hs
    · exact ⟨rfl, rfl, rfl⟩

theorem edits_beginTouchAuthorization (s : SessionState I C S) (now : Int) :
    Edits s (s.beginTouchAuthorization now).1 fun a =>
      if a.entered then
        { a with
          touchAuthorizationDeadline := some (now + touchAuthorizationWindow)
          touchDismissed := if s.active = some a.id then true else a.touchDismissed }
      else a := by
  refine ⟨rfl, rfl, fun a _ => ?_⟩
  split <;> exact ⟨rfl, rfl, rfl⟩

/-- What a commit makes of the instance `a`, whose serial is counted. -/
inductive CommitOutcome (s : SessionState I C S) (now : Int) (a a' : Instance I C) : Option I → Prop where
  /-- An instance that is not entered keeps what it has staged. -/
  | outside (entered : a.entered = false) (hint : a'.inputPanelVisibleHint = a.inputPanelVisibleHint)
      (dismissed : a'.touchDismissed = a.touchDismissed)
      (deadline : a'.touchAuthorizationDeadline = a.touchAuthorizationDeadline) : CommitOutcome s now a a' s.active
  | ignored (entered : a.entered = true) (inactive : s.active ≠ some a.id)
      (deadline : a'.touchAuthorizationDeadline = none) : CommitOutcome s now a a' s.active
  | activated (entered : a.entered = true) (free : s.active = none ∨ s.active = some a.id)
      (deadline : a'.touchAuthorizationDeadline = none) (dismissed : a'.touchDismissed = !a.touchAuthorized now) :
      CommitOutcome s now a a' (some a.id)
  | deactivated (entered : a.entered = true) (active : s.active = some a.id)
      (deadline : a'.touchAuthorizationDeadline = none) : CommitOutcome s now a a' none
  | updated (entered : a.entered = true) (active : s.active = some a.id)
      (deadline : a'.touchAuthorizationDeadline = none) (hint : a'.inputPanelVisibleHint = a.inputPanelVisibleHint)
      (dismissed : a'.touchDismissed = a.touchDismissed ∨ a.touchAuthorized now = true) :
      CommitOutcome s now a a' s.active

theorem commit_outcome (hv : s.Valid) (now : Int) {id : I} (hn : s.find id = some a) :
    ∃ a', Edits s (s.commit now id).1 (fun b => if b.id = id then a' else b) ∧
      a'.serial = a.serial + 1 ∧ CommitOutcome s now a a' (s.commit now id).1.active := by
  obtain ⟨ha, rfl⟩ := mem_of_find hn; unfold commit
  rw [hn]; dsimp only
  split
  · rename_i hou; rw [Bool.not_eq_true'] at hou
    exact ⟨_, edits_replace hv ha rfl rfl ⟨rfl, rfl, rfl⟩, rfl, .outside hou rfl rfl rfl⟩
  rename_i hin; rw [Bool.not_eq_true', Bool.not_eq_false] at hin; unfold commitEntered
  dsimp only; split
  · split
    · rename_i ho
      refine ⟨_, edits_replace hv ha rfl rfl ⟨rfl, rfl, rfl⟩, rfl, .ignored hin (fun hac => ?_) rfl⟩
      rw [hac, Option.any_some, decide_eq_true_eq] at ho; exact ho rfl
    rename_i hf
    refine ⟨_, edits_replace hv ha rfl rfl ⟨rfl, rfl, rfl⟩, rfl, .activated hin ?_ rfl rfl⟩
    cases hac : s.active with
    | none => exact .inl rfl
    | some ac =>
      rw [hac, Option.any_some, decide_eq_true_eq, not_not] at hf; exact .inr (congrArg some hf)
  · split
    · rename_i hac
      exact ⟨_, edits_replace hv ha rfl rfl ⟨rfl, rfl, rfl⟩, rfl, .deactivated hin hac rfl⟩
    · rename_i hac
      exact ⟨_, edits_replace hv ha rfl rfl ⟨rfl, rfl, rfl⟩, rfl, .ignored hin hac rfl⟩
  · split
    · rename_i hac
      exact ⟨_, edits_replace hv ha rfl rfl ⟨rfl, rfl, rfl⟩, rfl, .ignored hin hac rfl⟩
    rename_i hac; rw [not_not] at hac
    refine ⟨_, edits_replace hv ha rfl rfl ⟨rfl, rfl, rfl⟩, rfl, .updated hin hac rfl rfl ?_⟩
    dsimp only; split
    · rename_i hau; exact .inr (Bool.and_eq_true_iff.1 hau).2
    · exact .inl rfl

theorem surfaceCommitted_edits [DecidableEq S] (hv : s.Valid) (surf : S) :
    ∃ h, Edits s (s.surfaceCommitted surf) h ∧ (s.surfaceCommitted surf).active = s.active ∧
      ∀ a, ∃ current, h a = { a with current := current } := by
  unfold surfaceCommitted; split
  · exact ⟨id, edits_refl s, rfl, fun a => ⟨a.current, rfl⟩⟩
  split
  · rename_i hac
    exact ⟨id, edits_refl s, rfl, fun a => ⟨a.current, rfl⟩⟩
  rename_i ac hac; split
  · rename_i hf
    obtain ⟨a, ha, rfl, -⟩ := hv.active ac hac
    rw [hv.find_of_mem ha] at hf; cases hf
  · refine ⟨_, ⟨modifyFirst_eq_map ac hv.nodup, rfl, fun a _ => ?_⟩, rfl, fun a => ?_⟩
    · split
      · split <;> exact ⟨rfl, rfl, rfl⟩
      · exact ⟨rfl, rfl, rfl⟩
    · split
      · split
        · exact ⟨a.current, rfl⟩
        · exact ⟨_, rfl⟩
      · exact ⟨a.current, rfl⟩

/-! ## Instances that come and go -/

omit [DecidableEq I] in
theorem mem_register [DecidableEq C] {id : I} {client : C} {version : UInt32} :
    a ∈ (s.register id client version).1.instances ↔
      a ∈ s.instances ∨ a = { id, client, version, entered := s.focus.any fun focus => focus.client = client } := by
  unfold register; rw [List.mem_append, List.mem_singleton]

theorem valid_register [DecidableEq C] (hv : s.Valid) {id : I} {cl : C} {v : UInt32}
    (hf : s.find id = none) : (s.register id cl v).1.Valid := by
  refine ⟨?_, fun a ha => ?_, fun k hk => ?_⟩
  · unfold register; dsimp only
    rw [List.map_append, List.nodup_append]
    refine ⟨hv.nodup, List.nodup_singleton _, fun k hk k' hk' heq => ?_⟩
    obtain ⟨a, ha, rfl⟩ := List.mem_map.1 hk; rw [List.map_singleton, List.mem_singleton] at hk'
    have hid : a.id = id := heq.trans hk'
    rw [← hid, hv.find_of_mem ha] at hf; cases hf
  · rcases mem_register.1 ha with ha | rfl
    · exact hv.entered a ha
    show (s.focus.any fun focus => focus.client = cl) = true ↔ ∃ focus, s.focus = some focus ∧ focus.client = cl
    rw [Option.any_eq_true]
    simp
  · obtain ⟨a, ha, hid, he⟩ := hv.active k hk; exact ⟨a, mem_register.2 (.inl ha), hid, he⟩

theorem mem_remove {id : I} : a ∈ (s.remove id).instances ↔ a ∈ s.instances ∧ a.id ≠ id := by
  unfold remove; rw [List.mem_filter, decide_eq_true_eq]

theorem active_remove {id k : I} : (s.remove id).active = some k ↔ s.active = some k ∧ k ≠ id := by
  show (if s.active = some id then none else s.active) = some k ↔ _; split
  · rename_i hac; rw [hac]
    constructor
    · exact fun h => (nomatch h)
    · rintro ⟨h, hne⟩; exact absurd (Option.some.inj h).symm hne
  rename_i hac
  constructor
  · intro h; exact ⟨h, fun heq => hac (heq ▸ h)⟩
  · exact And.left

theorem valid_remove (hv : s.Valid) (id : I) : (s.remove id).Valid := by
  refine ⟨hv.nodup.sublist (List.filter_sublist.map _), fun a ha => hv.entered a (mem_remove.1 ha).1,
    fun k hk => ?_⟩
  obtain ⟨hac, hne⟩ := active_remove.1 hk
  obtain ⟨a, ha, rfl, he⟩ := hv.active k hac; exact ⟨a, mem_remove.2 ⟨ha, hne⟩, rfl, he⟩

/-! ## Focus -/

section Focus

variable [DecidableEq C] [DecidableEq S]

def refocused (focus : Option (Focus S C)) (a : Instance I C) : Instance I C :=
  { a.reset with entered := focus.any fun focus => focus.client = a.client }

omit [DecidableEq I] in
theorem setFocus_of_eq {s : SessionState I C S} {fs : Option (Focus S C)} (h : s.focus = fs) :
    s.setFocus fs = (s, {}) := if_pos h

omit [DecidableEq I] in
theorem setFocus_of_ne {s : SessionState I C S} {focus : Option (Focus S C)} (h : s.focus ≠ focus) :
    (s.setFocus focus).1 = ⟨s.instances.map (refocused focus), focus, none⟩ ∧
      (s.setFocus focus).2.left = (s.instances.filter (·.entered)).map (·.id) ∧ (s.setFocus focus).2.entered =
        (s.instances.filter fun a => focus.any fun focus => focus.client = a.client).map (·.id) := by
  unfold setFocus; rw [if_neg h]
  cases focus with
  | none =>
    refine ⟨rfl, rfl, ?_⟩; simp
  | some focus =>
    refine ⟨?_, rfl, ?_⟩
    · dsimp only; rw [List.map_map]
      congr 1
      refine List.map_congr_left fun a _ => ?_
      show (if a.client = focus.client then _ else _) = _; unfold refocused
      rw [Option.any_some]; split
      · rename_i hn; rw [hn, decide_eq_true rfl]
      · rename_i hn; rw [decide_eq_false (Ne.symm hn)]; rfl
    · dsimp only; rw [List.filter_map, List.map_map]
      congr 1
      refine List.filter_congr fun a _ => ?_; rw [Option.any_some]
      show decide (a.client = focus.client) = _
      rw [decide_eq_decide]; exact eq_comm

omit [DecidableEq I] in
theorem valid_setFocus {s : SessionState I C S} (hv : s.Valid) (fs : Option (Focus S C)) : (s.setFocus fs).1.Valid := by
  by_cases hs : s.focus = fs
  · rw [setFocus_of_eq hs]; exact hv
  rw [(setFocus_of_ne hs).1]
  refine ⟨?_, fun b hb => ?_, fun id hid => (nomatch hid)⟩
  · dsimp only
    rw [List.map_map]; exact hv.nodup
  · obtain ⟨a, -, rfl⟩ := List.mem_map.1 hb
    show (fs.any fun fs => fs.client = a.client) = true ↔ ∃ fs', fs = some fs' ∧ fs'.client = a.client
    rw [Option.any_eq_true]
    simp

end Focus

end SessionState

end Deniald.TextInput
