/-
The text-input protocol over every session: what one event makes of each instance, the invariant a session keeps, and
from it the serials, the enter and leave events, and the touches that open the software keyboard.
-/
import Deniald.TextInput.Panel

namespace Deniald.TextInput

open Deniald.Lib
open SessionState

variable {I C S : Type} [DecidableEq I] [DecidableEq C] [DecidableEq S]

/-! ## What becomes of an instance -/

inductive Descent (s : SessionState I C S) (e : SessionEvent I C S) (b : Instance I C) : Prop where
  | created (id : I) (client : C) (version : UInt32) (event : e = .register id client version)
      (eq : b = { id, client, version, entered := (s.register id client version).2 })
  | refocused (focus : Option (Focus S C)) (a : Instance I C) (event : e = .setFocus focus) (moved : s.focus ≠ focus)
      (mem : a ∈ s.instances) (eq : b = SessionState.refocused focus a)
  | touched (now : Int) (a : Instance I C) (event : e = .beginTouchAuthorization now) (mem : a ∈ s.instances)
      (entered : a.entered = true) (same : b.id = a.id ∧ b.entered = a.entered ∧ b.serial = a.serial)
      (deadline : b.touchAuthorizationDeadline = some (now + touchAuthorizationWindow))
  | committed (now : Int) (a : Instance I C) (event : e = .commit now a.id) (mem : a ∈ s.instances)
      (same : b.id = a.id ∧ b.entered = a.entered) (serial : b.serial = a.serial + 1)
      (deadline : a.entered = true → b.touchAuthorizationDeadline = none)
      (outside : a.entered = false → b.touchAuthorizationDeadline = a.touchAuthorizationDeadline)
  /-- The event is about another instance, or about other fields. -/
  | kept (a : Instance I C) (mem : a ∈ s.instances) (commit : ∀ now, e ≠ .commit now a.id)
      (focus : ∀ focus, e = .setFocus focus → s.focus = focus)
      (touch : ∀ now, e = .beginTouchAuthorization now → a.entered = false)
      (same : b.id = a.id ∧ b.entered = a.entered ∧ b.serial = a.serial)
      (deadline : b.touchAuthorizationDeadline = none ∨ b.touchAuthorizationDeadline = a.touchAuthorizationDeadline ∧
        (s.active = some a.id → a.Shown → (s.handle e).active = some b.id ∧ b.Shown))

namespace SessionState

omit [DecidableEq I] [DecidableEq C] [DecidableEq S] in
theorem showPanel_deadline (a : Instance I C) (now : Int) (visible : Bool) :
    (a.showPanel now visible).touchAuthorizationDeadline = none ∨
      (a.showPanel now visible).touchAuthorizationDeadline = a.touchAuthorizationDeadline ∧
        (a.Shown → (a.showPanel now visible).Shown) := by
  unfold Instance.showPanel
  cases visible with
  | false => exact .inl rfl
  | true =>
    dsimp only; split
    · exact .inr ⟨rfl, fun _ => ⟨nofun, rfl⟩⟩
    · exact .inr ⟨rfl, fun h => ⟨nofun, h.2⟩⟩

omit [DecidableEq C] [DecidableEq S] in
theorem active_request (s : SessionState I C S) (id : I) (request : FieldRequest) :
    (s.request id request).active = s.active := by
  rw [request_eq_stage]; rfl

theorem descent_commit {s : SessionState I C S} (hv : s.Valid) {now : Int} {id : I} {b : Instance I C}
    (hb : b ∈ (s.commit now id).1.instances) : Descent s (.commit now id) b := by
  cases hf : s.find id with
  | none =>
    have hs : (s.commit now id).1 = s := by
      unfold commit; rw [hf]
    rw [hs] at hb
    refine .kept b hb (fun now' heq => ?_) (fun _ h => (nomatch h)) (fun _ h => (nomatch h)) ⟨rfl, rfl, rfl⟩
      (.inr ⟨rfl, fun hac hh => ?_⟩)
    · cases heq
      rw [hv.find_of_mem hb] at hf; cases hf
    · show (s.commit now id).1.active = _ ∧ _
      rw [hs]; exact ⟨hac, hh⟩
  | some a =>
    obtain ⟨ha, rfl⟩ := mem_of_find hf
    obtain ⟨a', hd, hr, ho⟩ := commit_outcome hv now hf; rw [hd.instances] at hb
    obtain ⟨c, hc, rfl⟩ := List.mem_map.1 hb
    have hs := hd.same c hc; split
    · rename_i hid
      obtain rfl := hv.eq_of_id hc ha hid; rw [if_pos rfl] at hs
      generalize (s.commit now c.id).1.active = ac at ho
      refine .committed now c rfl hc ⟨hs.1, hs.2.2⟩ hr (fun he => ?_) fun he => ?_
      · cases ho with
        | outside entered =>
          rw [he] at entered; cases entered
        | ignored _ _ deadline | activated _ _ deadline | deactivated _ _ deadline | updated _ _ deadline =>
          exact deadline
      · cases ho with
        | outside _ _ _ deadline => exact deadline
        | ignored entered | activated entered | deactivated entered | updated entered =>
          rw [he] at entered; cases entered
    · rename_i hid
      refine .kept c hc (fun now' heq => hid ?_) (fun _ h => (nomatch h)) (fun _ h => (nomatch h)) ⟨rfl, rfl, rfl⟩
        (.inr ⟨rfl, fun hac hh => ⟨?_, hh⟩⟩)
      · injection heq with _ hid
        exact hid.symm
      · show (s.commit now a.id).1.active = some c.id
        generalize (s.commit now a.id).1.active = ac at ho
        cases ho with
        | outside | ignored | updated => exact hac
        | activated _ free =>
          rcases free with free | free
          · rw [hac] at free; cases free
          · rw [hac] at free; exact free.symm ▸ rfl
        | deactivated _ ac =>
          rw [hac] at ac; exact absurd (Option.some.inj ac) hid

theorem descent {s : SessionState I C S} (hv : s.Valid) {e : SessionEvent I C S} {b : Instance I C}
    (hb : b ∈ (s.handle e).instances) : Descent s e b := by
  cases e with
  | register id client version =>
    rcases mem_register.1 hb with hb | rfl
    · exact .kept b hb (fun _ h => (nomatch h)) (fun _ h => (nomatch h)) (fun _ h => (nomatch h)) ⟨rfl, rfl, rfl⟩
        (.inr ⟨rfl, fun hac hs => ⟨hac, hs⟩⟩)
    · exact .created id client version rfl rfl
  | remove id =>
    obtain ⟨hb, hne⟩ := mem_remove.1 hb
    exact .kept b hb (fun _ h => (nomatch h)) (fun _ h => (nomatch h)) (fun _ h => (nomatch h)) ⟨rfl, rfl, rfl⟩
      (.inr ⟨rfl, fun hac hs => ⟨active_remove.2 ⟨hac, hne⟩, hs⟩⟩)
  | setFocus focus =>
    by_cases hm : s.focus = focus
    · have heq : (s.setFocus focus).1 = s := by rw [setFocus_of_eq hm]
      have hb : b ∈ (s.setFocus focus).1.instances := hb
      rw [heq] at hb
      refine .kept b hb (fun _ h => (nomatch h)) (fun fs' h => ?_) (fun _ h => (nomatch h)) ⟨rfl, rfl, rfl⟩
        (.inr ⟨rfl, fun hac hs => ?_⟩)
      · injection h with h
        exact hm.trans h
      · show (s.setFocus focus).1.active = _ ∧ _
        rw [heq]; exact ⟨hac, hs⟩
    · have hb : b ∈ (s.setFocus focus).1.instances := hb
      rw [(setFocus_of_ne hm).1] at hb
      obtain ⟨a, ha, rfl⟩ := List.mem_map.1 hb; exact .refocused focus a rfl hm ha rfl
  | request id request =>
    have hb : b ∈ (s.request id request).instances := hb
    have hac : (s.request id request).active = s.active := active_request s id request
    rw [(edits_request hv id request).instances] at hb
    obtain ⟨a, ha, rfl⟩ := List.mem_map.1 hb
    refine .kept a ha (fun _ h => (nomatch h)) (fun _ h => (nomatch h)) (fun _ h => (nomatch h)) ?_ (.inr ⟨?_, ?_⟩)
    · split <;> exact ⟨rfl, rfl, rfl⟩
    · split <;> rfl
    · intro h hs
      refine ⟨?_, ?_⟩
      · show (s.request id request).active = _; rw [hac, h]
        split <;> rfl
      · split <;> exact hs
  | setInputPanelHint now id visible =>
    have hb : b ∈ (s.setInputPanelHint now id visible).instances := hb
    rw [(edits_setInputPanelHint hv now id visible).instances] at hb
    obtain ⟨a, ha, rfl⟩ := List.mem_map.1 hb
    have hm := showPanel_same a now visible
    refine .kept a ha (fun _ h => (nomatch h)) (fun _ h => (nomatch h)) (fun _ h => (nomatch h)) ?_ ?_
    · split
      · exact ⟨hm.1, hm.2.2.1, hm.2.2.2⟩
      · exact ⟨rfl, rfl, rfl⟩
    · split
      · refine (showPanel_deadline a now visible).imp_right fun ⟨hd, hh⟩ =>
          ⟨hd, fun hac hs => ⟨?_, hh hs⟩⟩
        rw [hm.1]; exact hac
      · exact .inr ⟨rfl, fun hac hs => ⟨hac, hs⟩⟩
  | beginTouchAuthorization now =>
    obtain ⟨a, ha, rfl⟩ := List.mem_map.1 hb; split
    · rename_i he
      exact .touched now a rfl ha he ⟨rfl, rfl, rfl⟩ rfl
    rename_i he
    exact .kept a ha (fun _ h => (nomatch h)) (fun _ h => (nomatch h))
      (fun _ _ => (Bool.not_eq_true _).mp he) ⟨rfl, rfl, rfl⟩
      (.inr ⟨rfl, fun hac hs => ⟨hac, hs⟩⟩)
  | commit now id => exact descent_commit hv hb
  | surfaceCommitted surface =>
    obtain ⟨h, hed, hac, hr⟩ := surfaceCommitted_edits hv surface
    have hb : b ∈ (s.surfaceCommitted surface).instances := hb
    rw [hed.instances] at hb
    obtain ⟨a, ha, rfl⟩ := List.mem_map.1 hb
    obtain ⟨current, hr⟩ := hr a; rw [hr]
    refine .kept a ha (fun _ h => (nomatch h)) (fun _ h => (nomatch h)) (fun _ h => (nomatch h)) ⟨rfl, rfl, rfl⟩
      (.inr ⟨rfl, fun h hs => ⟨?_, hs⟩⟩)
    show (s.surfaceCommitted surface).active = _
    rw [hac]; exact h

end SessionState

namespace TextInputSession

/-! ## The invariant -/

/-- Authorizations are those of the last touch, and one that has opened the keyboard is taken or still shows it. -/
structure Inv (t : TextInputSession I C S) : Prop where
  valid : t.state.Valid
  serial : ∀ a ∈ t.state.instances, a.serial = UInt32.ofNat (t.commits a.id)
  crossed : ∀ a ∈ t.state.instances, (t.crossings a.id).foldlM crossing false = some a.entered
  deadline : ∀ a ∈ t.state.instances, ∀ d, a.touchAuthorizationDeadline = some d →
    a.entered = true ∧ ∃ touched, t.touchedAt = some touched ∧ d = touched + touchAuthorizationWindow
  once : ∀ id, t.openings id ≤ 1
  spent : ∀ a ∈ t.state.instances, 0 < t.openings a.id →
    a.touchAuthorizationDeadline = none ∨ t.state.active = some a.id ∧ a.Shown

omit [DecidableEq I] [DecidableEq C] [DecidableEq S] in
theorem inv_start : Inv ({} : TextInputSession I C S) :=
  ⟨valid_start, fun _ h => (nomatch h), fun _ h => (nomatch h), fun _ h => (nomatch h),
    fun _ => Nat.zero_le _, fun _ h => (nomatch h)⟩

variable {t : TextInputSession I C S} {a : Instance I C} {e : SessionEvent I C S}

omit [DecidableEq I] [DecidableEq C] [DecidableEq S] in
theorem Inv.sound (h : t.Inv) : t.Sound := by
  refine ⟨fun id hid => ?_, h.valid.entered, h.crossed, h.serial, h.once⟩
  obtain ⟨a, ha, hs, he⟩ := h.valid.active id hid
  exact ⟨a, ha, hs, he, (h.valid.entered a ha).1 he⟩

theorem valid_next (hv : t.state.Valid) (hf : t.Fresh e) : (t.next e).state.Valid :=
  valid_handle hv fun id client version heq => by
    subst heq; exact hf

omit [DecidableEq C] [DecidableEq S] in
theorem Fresh.ne (h : t.Inv) {id : I} {cl : C} {v : UInt32} (hf : t.Fresh (.register id cl v))
    (ha : a ∈ t.state.instances) : a.id ≠ id := by
  rintro rfl
  have hn : t.state.find a.id = none := hf
  rw [h.valid.find_of_mem ha] at hn; cases hn

/-! ## Serials -/

omit [DecidableEq C] [DecidableEq S] in
theorem countCommit_kept (h : t.Inv) (hf : t.Fresh e) (ha : a ∈ t.state.instances) (hm : ∀ now, e ≠ .commit now a.id) :
    countCommit t.commits e a.id = t.commits a.id := by
  cases e with
  | register id client version => exact Function.update_of_ne (hf.ne h ha) ..
  | commit now id => exact Function.update_of_ne (fun heq => hm now (congrArg _ heq.symm)) ..
  | remove | setFocus | request | setInputPanelHint | beginTouchAuthorization | surfaceCommitted => rfl

theorem serial_next (h : t.Inv) (hf : t.Fresh e) :
    ∀ b ∈ (t.next e).state.instances, b.serial = UInt32.ofNat ((t.next e).commits b.id) := by
  intro b hb
  show b.serial = UInt32.ofNat (countCommit t.commits e b.id)
  cases descent h.valid hb with
  | created id client version event eq =>
    subst event eq
    show 0 = UInt32.ofNat (Function.update t.commits id 0 id)
    rw [Function.update_self]; rfl
  | refocused focus a event m mem eq =>
    subst event eq; exact h.serial a mem
  | touched now a event mem entered same deadline =>
    subst event
    rw [same.2.2, same.1]; exact h.serial a mem
  | committed now a event mem same ser =>
    subst event
    show b.serial = UInt32.ofNat (Function.update t.commits a.id (t.commits a.id + 1) b.id)
    rw [ser, same.1, Function.update_self, h.serial a mem, UInt32.ofNat_add]; rfl
  | kept a mem commit focus touch same =>
    rw [same.2.2, same.1, h.serial a mem, countCommit_kept h hf mem commit]

/-! ## Enter and leave events -/

omit [DecidableEq C] in
theorem count_ids {l : List (Instance I C)} (hn : (l.map (·.id)).Nodup) (ha : a ∈ l) (p : Instance I C → Bool) :
    ((l.filter p).map (·.id)).count a.id = if p a then 1 else 0 := by
  rw [(hn.sublist (List.filter_sublist.map _)).count]
  refine if_congr ?_ rfl rfl
  constructor
  · intro h
    obtain ⟨b, hb, hid⟩ := List.mem_map.1 h
    obtain ⟨hb, hp⟩ := List.mem_filter.1 hb
    rwa [List.inj_on_of_nodup_map hn hb ha hid] at hp
  · intro h
    exact List.mem_map_of_mem (List.mem_filter.2 ⟨ha, h⟩)

theorem foldlM_crossing {evs : List Bool} {entered : Bool} (h : evs.foldlM crossing false = some entered)
    (enters : Bool) : (evs ++ List.replicate (if entered then 1 else 0) false ++
      List.replicate (if enters then 1 else 0) true).foldlM crossing false = some enters := by
  rw [List.foldlM_append, List.foldlM_append, h]
  cases entered <;> cases enters <;> rfl

theorem crossed_next (h : t.Inv) (hf : t.Fresh e) :
    ∀ b ∈ (t.next e).state.instances, ((t.next e).crossings b.id).foldlM crossing false = some b.entered := by
  intro b hb
  show (t.cross e b.id).foldlM crossing false = some b.entered
  cases descent h.valid hb with
  | created id client version event eq =>
    subst event eq; unfold cross
    dsimp only; rw [if_pos rfl]
    cases (t.state.register id client version).2 <;> rfl
  | refocused focus a event moved mem eq =>
    subst event eq
    obtain ⟨-, hle, he⟩ := setFocus_of_ne moved; unfold cross
    dsimp only; rw [hle, he]
    show (t.crossings a.id ++ List.replicate (List.count a.id _) false ++
      List.replicate (List.count a.id _) true).foldlM crossing false = _
    rw [count_ids h.valid.nodup mem, count_ids h.valid.nodup mem]; exact foldlM_crossing (h.crossed a mem) _
  | touched now a event mem entered same deadline =>
    subst event
    rw [same.1, same.2.1]; exact h.crossed a mem
  | committed now a event mem same ser =>
    subst event
    rw [same.1, same.2]; exact h.crossed a mem
  | kept a mem commit focus touch same =>
    rw [same.1, same.2.1, ← h.crossed a mem]
    congr 1
    cases e with
    | register id client version => exact if_neg (hf.ne h mem)
    | setFocus focus' =>
      unfold cross; dsimp only
      rw [setFocus_of_eq (focus focus' rfl)]; exact (List.append_nil _).trans (List.append_nil _)
    | remove | request | setInputPanelHint | beginTouchAuthorization | commit | surfaceCommitted => rfl

/-! ## Authorizations -/

theorem deadline_next (h : t.Inv) (e : SessionEvent I C S) :
    ∀ b ∈ (t.next e).state.instances, ∀ d, b.touchAuthorizationDeadline = some d →
      b.entered = true ∧ ∃ touched, (t.next e).touchedAt = some touched ∧ d = touched + touchAuthorizationWindow := by
  intro b hb d hd
  show b.entered = true ∧ ∃ touched, t.touch e = some touched ∧ _
  cases descent h.valid hb with
  | created id client version event eq =>
    subst eq; cases hd
  | refocused focus a event moved mem eq =>
    subst eq; cases hd
  | touched now a event mem entered same deadline =>
    subst event; rw [deadline] at hd
    exact ⟨same.2.1.trans entered, now, rfl, (Option.some.inj hd).symm⟩
  | committed now a event mem same serial deadline outside =>
    subst event
    cases he : a.entered with
    | true =>
      rw [deadline he] at hd; cases hd
    | false =>
      rw [outside he] at hd
      obtain ⟨hin, -⟩ := h.deadline a mem d hd
      rw [he] at hin; cases hin
  | kept a mem commit focus touch same deadline =>
    rcases deadline with deadline | ⟨deadline, -⟩
    · rw [deadline] at hd; cases hd
    rw [deadline] at hd
    obtain ⟨hin, hto⟩ := h.deadline a mem d hd
    refine ⟨same.2.1.trans hin, ?_⟩
    have hs : t.touch e = t.touchedAt := by
      cases e with
      | setFocus focus' => exact if_pos (focus focus' rfl)
      | beginTouchAuthorization now =>
        rw [touch now rfl] at hin; cases hin
      | register | remove | request | setInputPanelHint | commit | surfaceCommitted => rfl
    rw [hs]; exact hto

/-! ## Openings -/

theorem opens_iff : t.opens e = true ↔ t.state.panelVisible = false ∧ (t.state.handle e).panelVisible = true := by
  unfold opens; rw [Bool.and_eq_true, Bool.not_eq_true']

theorem shown_of_opens (hv : (t.state.handle e).Valid) (ho : t.opens e = true) {b : Instance I C}
    (hb : b ∈ (t.state.handle e).instances) (hac : (t.state.handle e).active = some b.id) : b.Shown := by
  obtain ⟨c, hc, ha', hs⟩ := (visible_iff hv).1 (opens_iff.1 ho).2
  rw [hac] at ha'
  rwa [hv.eq_of_id hb hc (Option.some.inj ha')]

theorem openedBy_spec (hva : t.state.Valid) {id : I} (h : t.openedBy e = some id) :
    t.opens e = true ∧ (t.state.handle e).active = some id ∧
      ∃ a ∈ t.state.instances, a.id = id ∧ a.touchAuthorizationDeadline ≠ none := by
  have hd : ∀ {a : Instance I C} {now : Int}, a.touchAuthorized now = true →
      a.touchAuthorizationDeadline ≠ none := fun hau hn => by
    unfold Instance.touchAuthorized at hau
    rw [hn] at hau; cases hau
  cases e with
  | commit now id' =>
    obtain ⟨ho, heq⟩ := Option.ite_none_right_eq_some.1 h; cases heq
    obtain ⟨hh, hv⟩ := opens_iff.1 ho
    obtain ⟨a, hf, hac, hau⟩ := opens_commit hva hh hv
    obtain ⟨ha, hid⟩ := mem_of_find hf
    exact ⟨ho, hac, a, ha, hid, hd hau⟩
  | setInputPanelHint now id' visible =>
    obtain ⟨hbo, heq⟩ := Option.ite_none_right_eq_some.1 h; cases heq
    obtain ⟨ho, hau⟩ := Bool.and_eq_true_iff.1 hbo
    obtain ⟨hh, hv⟩ := opens_iff.1 ho
    obtain ⟨a, hf, hac, -⟩ := opens_show hva hh hv
    obtain ⟨ha, hid⟩ := mem_of_find hf; rw [hf] at hau
    exact ⟨ho, hac, a, ha, hid, hd hau⟩
  | register | remove | setFocus | request | beginTouchAuthorization | surfaceCommitted => cases h

theorem countOpening_cases (t : TextInputSession I C S) (e : SessionEvent I C S) (k : I) :
    t.countOpening e k = 0 ∨ t.countOpening e k = t.openings k ∧ (∀ now, e ≠ .beginTouchAuthorization now) ∧
      (∀ focus, e = .setFocus focus → t.state.focus = focus) ∨
      t.openedBy e = some k ∧ t.countOpening e k = t.openings k + 1 := by
  cases e with
  | beginTouchAuthorization now => exact .inl rfl
  | setFocus focus =>
    by_cases hs : t.state.focus = focus
    · refine .inr (.inl ⟨congrFun (if_pos hs) k, (fun _ h => by cases h), fun fs' h => ?_⟩)
      injection h with h
      exact hs.trans h
    · exact .inl (congrFun (if_neg hs) k)
  | register id client version =>
    by_cases hk : k = id
    · subst hk; exact .inl (Function.update_self ..)
    · exact .inr (.inl ⟨Function.update_of_ne hk .., (fun _ h => by cases h), (fun _ h => by cases h)⟩)
  | remove | request | setInputPanelHint | commit | surfaceCommitted =>
    refine .inr (Or.imp_left (fun h => ⟨h, (fun _ h => by cases h), (fun _ h => by cases h)⟩) ?_)
    unfold countOpening; dsimp only
    generalize ho : t.openedBy _ = opened
    cases opened with
    | none => exact .inl rfl
    | some id =>
      by_cases hk : k = id
      · subst hk; exact .inr ⟨rfl, Function.update_self ..⟩
      · exact .inl (Function.update_of_ne hk ..)

theorem openings_of_openedBy (h : t.Inv) {id : I} (hn : t.openedBy e = some id) : t.openings id = 0 := by
  obtain ⟨ho, -, a, ha, rfl, hd⟩ := openedBy_spec h.valid hn
  by_contra hpos
  rcases h.spent a ha (Nat.pos_of_ne_zero hpos) with hno | ⟨hac, hs⟩
  · exact hd hno
  · have hv := (visible_iff h.valid).2 ⟨a, ha, hac, hs⟩
    rw [(opens_iff.1 ho).1] at hv; cases hv

theorem once_next (h : t.Inv) (e : SessionEvent I C S) (k : I) : (t.next e).openings k ≤ 1 := by
  show t.countOpening e k ≤ 1
  rcases countOpening_cases t e k with hz | ⟨hs, -⟩ | ⟨ho, hm⟩
  · rw [hz]; exact Nat.zero_le 1
  · rw [hs]; exact h.once k
  · rw [hm, openings_of_openedBy h ho]

theorem spent_next (h : t.Inv) (hf : t.Fresh e) : ∀ b ∈ (t.next e).state.instances, 0 < (t.next e).openings b.id →
      b.touchAuthorizationDeadline = none ∨ (t.next e).state.active = some b.id ∧ b.Shown := by
  intro b hb hpos
  rcases countOpening_cases t e b.id with hz | ⟨hm, hto, hfo⟩ | ⟨hop, -⟩
  · exact absurd (hz ▸ hpos) (Nat.lt_irrefl 0)
  · have hpos : 0 < t.openings b.id := hm ▸ hpos
    cases descent h.valid hb with
    | created id client version event eq => exact .inl (eq ▸ rfl)
    | refocused focus a event m mem eq => exact .inl (eq ▸ rfl)
    | touched now a event => exact absurd event (hto now)
    | committed now a event mem same ser deadline outside =>
      rw [same.1] at hpos
      cases he : a.entered with
      | true => exact .inl (deadline he)
      | false =>
        refine .inl ((outside he).trans ?_)
        cases hd : a.touchAuthorizationDeadline with
        | none => rfl
        | some d =>
          obtain ⟨hin, -⟩ := h.deadline a mem d hd
          rw [he] at hin; cases hin
    | kept a mem commit focus touch same deadline =>
      rw [same.1] at hpos
      rcases deadline with hn | ⟨hd, hs⟩
      · exact .inl hn
      rcases h.spent a mem hpos with hn | ⟨hac, hh⟩
      · exact .inl (hd.trans hn)
      · exact .inr (hs hac hh)
  · obtain ⟨ho, hac, -⟩ := openedBy_spec h.valid hop
    exact .inr ⟨hac, shown_of_opens (valid_next h.valid hf) ho hb hac⟩

theorem inv_next (t : TextInputSession I C S) (e : SessionEvent I C S) (h : t.Inv) (hf : t.Fresh e) :
    (t.next e).Inv where
  valid := valid_next h.valid hf
  serial := serial_next h hf
  crossed := crossed_next h hf
  deadline := deadline_next h e
  once := once_next h e
  spent := spent_next h hf

/-! ## Steps -/

theorem keeps_step (h : t.Inv) (e : SessionEvent I C S) : t.Keeps e := by
  rintro now id ac rfl hac hne
  show (t.state.commit now id).1.active = some ac ∧ (t.state.commit now id).1.find ac = t.state.find ac
  cases hf : t.state.find id with
  | none =>
    unfold commit
    rw [hf]; exact ⟨hac, rfl⟩
  | some a =>
    obtain ⟨ha, rfl⟩ := mem_of_find hf
    obtain ⟨a', he, -, ho⟩ := commit_outcome h.valid now hf
    refine ⟨?_, ?_⟩
    · generalize (t.state.commit now a.id).1.active = active' at ho
      cases ho with
      | outside | ignored | updated => exact hac
      | activated _ free =>
        rw [hac] at free
        rcases free with free | free
        · cases free
        · exact free.symm
      | deactivated _ ac =>
        rw [hac] at ac; exact absurd (Option.some.inj ac) hne
    · rw [he.find h.valid]
      cases hh : t.state.find ac with
      | none => rfl
      | some b =>
        obtain ⟨-, rfl⟩ := mem_of_find hh; exact congrArg some (if_neg hne)

instance decidableFresh (t : TextInputSession Nat Nat Nat) : ∀ e, Decidable (t.Fresh e)
  | .register id _ _ => inferInstanceAs (Decidable (t.state.find id = none))
  | .remove _ | .setFocus _ | .request _ _ | .setInputPanelHint _ _ _ | .beginTouchAuthorization _ | .commit _ _
  | .surfaceCommitted _ => isTrue trivial

end TextInputSession

end Deniald.TextInput
