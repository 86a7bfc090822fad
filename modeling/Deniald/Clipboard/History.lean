/-
The invariant of the clipboard: its bytes are accounted for, its limits hold, and the selection, the capture in
progress and the queued actions agree with its history and its lock. The ids of its items are unique until the counter
they come from has gone around.
-/
import Deniald.Clipboard.Packet
import Deniald.Lib.Lists

namespace Deniald.Clipboard

open Deniald.Lib

namespace ClipboardState

def ids (s : ClipboardState) : List UInt64 := s.history.map (·.id)

/-- The byte count is that of the items. -/
def Accounted (s : ClipboardState) : Prop := s.historyBytes = (s.history.map (·.byteLen)).sum

def Limited (s : ClipboardState) : Prop :=
  s.Accounted ∧ s.history.length ≤ maxHistoryItems ∧ s.historyBytes ≤ maxHistoryBytes

/-- An external selection bound to an id names an item of the history. -/
def Bound (s : ClipboardState) : Prop := ∀ epoch id, s.current = .external epoch (some id) → id ∈ s.ids

structure Sound (s : ClipboardState) : Prop where
  limited : s.Limited
  managed : ∀ epoch id, s.current = .managed epoch id → ∃ item, s.managed = some item ∧ item.id = id
  bound : s.Bound
  pending : ∀ p, s.pendingCapture = some p → s.locked = false ∧ s.paused = false ∧ s.current.isExternal p.epoch = true
  quiet : s.locked = true → s.actions = []

/-- A step hands out at most one id, and the history has no id but those it had and that one. -/
def Numbered (s s' : ClipboardState) : Prop :=
  s'.nextItemId = s.nextItemId ∧ s'.ids.Sublist s.ids ∨
    s'.nextItemId = bump s.nextItemId ∧ s'.ids.Sublist (s.nextItemId :: s.ids)

/-- What every operation keeps. -/
structure Keeps (s s' : ClipboardState) : Prop where
  sound : Sound s → Sound s'
  numbered : Numbered s s'

variable {s s' : ClipboardState} {item : ClipboardItem}

theorem Numbered.of_same (hn : s'.nextItemId = s.nextItemId) (hd : s'.ids = s.ids) :
    Numbered s s' := .inl ⟨hn, hd ▸ List.Sublist.refl _⟩

theorem Keeps.refl (s : ClipboardState) : Keeps s s := ⟨id, .of_same rfl rfl⟩

theorem Keeps.bumpRevision (h : Keeps s s') : Keeps s s'.bumpRevision := by
  refine ⟨fun hs => ?_, h.numbered⟩
  obtain ⟨hm, hma, hn, hpe, hqu⟩ := h.sound hs
  exact ⟨hm, hma, hn, hpe, hqu⟩

variable {itemId : UInt64} {fresh : List UInt64} {history : List ClipboardItem}

theorem mem_ids : itemId ∈ s.ids ↔ (s.historyItem itemId).isSome := by
  unfold ids historyItem; rw [List.find?_isSome, List.mem_map]
  simp

theorem historyItem_some (h : s.historyItem itemId = some item) : item ∈ s.history ∧ item.id = itemId :=
  ⟨List.mem_of_find?_eq_some h, of_decide_eq_true (List.find?_some h :)⟩

/-! ## Evictions -/

/-- The history, its bytes and the item an external selection is bound to are revised; the only new ids are `fresh`. -/
structure Revised (fresh : List UInt64) (s s' : ClipboardState) : Prop where
  rest : s' = { s with history := s'.history, historyBytes := s'.historyBytes, current := s'.current }
  ids : s'.ids.Sublist (fresh ++ s.ids)
  current : s'.current = s.current ∨ ∃ epoch id, s.current = .external epoch (some id) ∧ s'.current = .external epoch none
  bound : s.Bound → s'.Bound

theorem Revised.refl (s : ClipboardState) : Revised [] s s := ⟨rfl, List.Sublist.refl _, .inl rfl, id⟩

theorem Revised.trans {t u : ClipboardState} (h : Revised fresh s t) (h' : Revised [] t u) : Revised fresh s u := by
  refine ⟨?_, h'.ids.trans h.ids, ?_, fun hs => h'.bound (h.bound hs)⟩
  · rw [h'.rest, h.rest]
  · rcases h'.current with heq | ⟨epoch, id, ht, hu⟩
    · rw [heq]; exact h.current
    rcases h.current with heq | ⟨e', id', -, ht'⟩
    · exact .inr ⟨epoch, id, heq ▸ ht, hu⟩
    · rw [ht] at ht'; cases ht'

theorem Revised.isExternal (h : Revised fresh s s') (epoch : UInt64) :
    s'.current.isExternal epoch = s.current.isExternal epoch := by
  rcases h.current with heq | ⟨e, id, hs, hs'⟩
  · rw [heq]
  · rw [hs, hs']; rfl

theorem Revised.managed (h : Revised fresh s s') {ep id : UInt64} (hs' : s'.current = .managed ep id) :
    s.current = .managed ep id := by
  rcases h.current with heq | ⟨e, i, -, hn⟩
  · exact heq ▸ hs'
  · rw [hn] at hs'; cases hs'

theorem Revised.keeps (h : Revised [] s s') (hm : s.Limited → s'.Limited) : Keeps s s' := by
  refine ⟨fun hs => ⟨hm hs.limited, fun epoch id hid => ?_, h.bound hs.bound, fun p hp => ?_, fun hl => ?_⟩,
    .inl ⟨?_, h.ids⟩⟩
  · rw [h.rest]; exact hs.managed epoch id (h.managed hid)
  · rw [h.isExternal]
    rw [h.rest] at hp ⊢; exact hs.pending p hp
  · rw [h.rest] at hl ⊢; exact hs.quiet hl
  · rw [h.rest]

theorem evictIndex_lt (h : history ≠ []) : evictIndex history < history.length := by
  have := List.length_pos_iff.2 h
  unfold evictIndex; dsimp only
  split <;> omega

theorem forget_cases (current : CurrentSelection) (itemId : UInt64) :
    current.forget itemId = current ∧ (∀ epoch, current ≠ .external epoch (some itemId)) ∨
      ∃ epoch, current = .external epoch (some itemId) ∧ current.forget itemId = .external epoch none := by
  match current with
  | .none => exact .inl ⟨rfl, fun _ h => nomatch h⟩
  | .managed _ _ => exact .inl ⟨rfl, fun _ h => nomatch h⟩
  | .external _ none => exact .inl ⟨rfl, fun _ h => nomatch h⟩
  | .external epoch (some id) =>
    simp only [CurrentSelection.forget]
    split_ifs with hid
    · exact .inr ⟨epoch, by rw [hid], rfl⟩
    · refine .inl ⟨rfl, fun _ h => ?_⟩
      cases h; exact hid rfl

theorem remove_revised {index : Nat} {r : ClipboardItem} (h : s.history[index]? = some r) :
    let s' := { s with
      history := s.history.eraseIdx index
      historyBytes := s.historyBytes - r.byteLen
      current := s.current.forget r.id }
    Revised [] s s' ∧ (s.Accounted → s'.Accounted) := by
  intro s'
  have hd : s'.ids = s.ids.eraseIdx index := (List.eraseIdx_map ..).symm
  refine ⟨⟨rfl, ?_, ?_, ?_⟩, ?_⟩
  · rw [hd]; exact List.eraseIdx_sublist ..
  · rcases forget_cases s.current r.id with ⟨heq, -⟩ | ⟨epoch, hs, heq⟩
    · exact .inl heq
    · exact .inr ⟨epoch, r.id, hs, heq⟩
  · intro hn epoch id hr
    rcases forget_cases s.current r.id with ⟨heq, hne⟩ | ⟨e, -, heq⟩
    · have hs : s.current = .external epoch (some id) := heq ▸ hr
      have hid : r.id ≠ id := fun hid => hne epoch (hid ▸ hs)
      have hmem := hn epoch id hs; rw [hd, List.mem_eraseIdx_iff_getElem?]
      obtain ⟨i, hi⟩ := List.mem_iff_getElem?.1 hmem
      refine ⟨i, ?_, hi⟩
      rintro rfl
      have hm : s.ids[i]? = some r.id := by
        unfold ids
        rw [List.getElem?_map, h]; rfl
      exact hid (Option.some.inj (hm.symm.trans hi))
    · have hno : s'.current = .external e none := heq
      rw [hno] at hr; cases hr
  · intro hac; have := sum_map_eraseIdx (·.byteLen) h
    show s.historyBytes - r.byteLen = ((s.history.eraseIdx index).map (·.byteLen)).sum
    rw [hac]; omega

theorem evict_spec (s : ClipboardState) : Revised [] s s.evict ∧ (s.Accounted → s.evict.Accounted) ∧
    s.evict.history.length = s.history.length - 1 := by
  unfold evict
  by_cases he : s.history = []
  · simp only [he, List.getElem?_nil]; exact ⟨.refl s, id, rfl⟩
  have hlt := evictIndex_lt he
  have hr : s.history[evictIndex s.history]? = some s.history[evictIndex s.history] :=
    List.getElem?_eq_getElem hlt
  simp only [hr]
  refine ⟨(remove_revised hr).1, (remove_revised hr).2, ?_⟩; exact List.length_eraseIdx_of_lt hlt

theorem enforceLoop_spec (mi mb : Nat) : ∀ (fuel : Nat) {s : ClipboardState}, s.history.length ≤ fuel → s.Accounted →
      let s' := enforceLoop mi mb fuel s
      Revised [] s s' ∧ s'.Accounted ∧ s'.history.length ≤ mi ∧ s'.historyBytes ≤ mb
  | 0, s, hf, hac => by
    have he : s.history = [] := List.length_eq_zero_iff.1 (by omega)
    refine ⟨.refl s, hac, ?_, ?_⟩
    · show s.history.length ≤ mi
      rw [he]; exact Nat.zero_le _
    · show s.historyBytes ≤ mb
      rw [hac, he]; exact Nat.zero_le _
  | fuel + 1, s, hf, hac => by
    dsimp only; unfold enforceLoop
    split_ifs with h
    · obtain ⟨hv, ha', hlen⟩ := evict_spec s
      obtain ⟨hlo, hr⟩ := enforceLoop_spec mi mb fuel (by omega) (ha' hac)
      exact ⟨hv.trans hlo, hr⟩
    · exact ⟨.refl s, hac, by omega, by omega⟩

theorem enforceLimits_spec (s : ClipboardState) : Revised [] s s.enforceLimits ∧ s.enforceLimits.Limited := by
  have hrec : Revised [] s s.recalculateHistoryBytes := ⟨rfl, List.Sublist.refl _, .inl rfl, id⟩
  obtain ⟨hlo, hm⟩ := enforceLoop_spec maxHistoryItems maxHistoryBytes s.history.length
    (s := s.recalculateHistoryBytes) le_rfl rfl
  exact ⟨hrec.trans hlo, hm⟩

/-! ## Insertions -/

theorem pushFront_spec (s : ClipboardState) (item : ClipboardItem) : Revised [item.id] s (s.pushFront item).2 := by
  unfold pushFront; split
  · rename_i prev rest hh
    have hd : s.ids = prev.id :: rest.map (·.id) := by
      unfold ids
      rw [hh]; rfl
    split_ifs
    · refine ⟨rfl, ?_, .inl rfl, fun hn => ?_⟩
      · rw [hd]; exact List.sublist_cons_self ..
      · intro epoch id hr; have := hn epoch id hr
        rw [hd] at this; exact this
    · exact ⟨rfl, List.Sublist.refl _, .inl rfl, fun hn epoch id h => List.mem_cons_of_mem _ (hn epoch id h)⟩
  · rename_i hh
    have hd : s.ids = [] := by
      unfold ids
      rw [hh]; rfl
    refine ⟨rfl, ?_, .inl rfl, fun hn epoch id h => ?_⟩
    · rw [hd]; exact List.Sublist.refl _
    · have := hn epoch id h
      rw [hd] at this; cases this

theorem insertHistoryItem_spec {stored : ClipboardItem} (h : s.insertHistoryItem item = (stored, s')) :
    Revised [item.id] s s' ∧ s'.Limited := by
  obtain ⟨he, hm⟩ := enforceLimits_spec (s.pushFront item).2
  obtain rfl : (s.pushFront item).2.enforceLimits = s' := congrArg Prod.snd h
  exact ⟨(pushFront_spec s item).trans he, hm⟩

/-! ## Operations -/

theorem setLocked_keeps (s : ClipboardState) (locked : Bool) : Keeps s (s.setLocked locked) := by
  unfold setLocked
  by_cases h : s.locked = locked
  · rw [if_pos h]; exact .refl s
  rw [if_neg h]
  refine ⟨fun hs => ⟨hs.limited, hs.managed, hs.bound, (fun _ hp => by cases hp), ?_⟩, .of_same rfl rfl⟩
  rintro (rfl : locked = true); dsimp only
  cases s.current <;> rfl

theorem Keeps.of_free (hne : s'.nextItemId = s.nextItemId) (hh : s'.history = s.history)
    (hy : s'.historyBytes = s.historyBytes) (hac : s'.actions = []) (hm : ∀ epoch id, s'.current ≠ .managed epoch id)
    (hn : ∀ epoch id, s'.current ≠ .external epoch (some id)) (hpe : ∀ p, s'.pendingCapture = some p →
      s'.locked = false ∧ s'.paused = false ∧ s'.current.isExternal p.epoch = true) : Keeps s s' := by
  refine ⟨fun hs => ⟨?_, fun _ _ h => absurd h (hm _ _), fun _ _ h => absurd h (hn _ _), hpe,
    fun _ => hac⟩, .of_same hne (congrArg (List.map _) hh)⟩
  unfold Limited Accounted
  rw [hh, hy]; exact hs.limited

theorem observeExternalSelection_keeps (s : ClipboardState) (org : ClipboardOrigin) (omt : List String)
    (source : Option ClipboardSourceIdentity) : Keeps s (s.observeExternalSelection org omt source).1 := by
  unfold observeExternalSelection
  dsimp only [newEpoch]; split
  · exact .of_free rfl rfl rfl rfl (fun _ _ h => nomatch h) (fun _ _ h => nomatch h) fun _ hp => nomatch hp
  unfold startCapture; split
  · exact .of_free rfl rfl rfl rfl (fun _ _ h => nomatch h) (fun _ _ h => nomatch h) fun _ hp => nomatch hp
  rename_i hbl
  obtain ⟨hlo, hs⟩ := not_or.1 hbl; dsimp only
  split
  · exact .of_free rfl rfl rfl rfl (fun _ _ h => nomatch h) (fun _ _ h => nomatch h) fun _ hp => nomatch hp
  refine .of_free rfl rfl rfl rfl (fun _ _ h => nomatch h) (fun _ _ h => nomatch h) fun p hp => ?_; cases hp
  exact ⟨Bool.eq_false_iff.2 hlo, Bool.eq_false_iff.2 hs, beq_self_eq_true _⟩

theorem bindSelection_spec {ep : UInt64} (h : s.current.isExternal ep = true) (itemId : UInt64) :
    s.bindSelection ep itemId = { s with current := (s.bindSelection ep itemId).current } ∧
      (s.bindSelection ep itemId).current.isExternal ep = true ∧ (s.bindSelection ep itemId).Bound := by
  unfold CurrentSelection.isExternal at h; split at h
  · rename_i e b hr
    obtain rfl := eq_of_beq h; unfold bindSelection
    simp only [hr, if_true]
    refine ⟨trivial, beq_self_eq_true e, fun ep id hid => ?_⟩
    have hid : CurrentSelection.external e (if (s.historyItem itemId).isSome then some itemId else none) =
      .external ep (some id) := hid
    split_ifs at hid with hre
    · cases hid; exact mem_ids.2 hre
    · cases hid
  · cases h

theorem finalizeCapture_keeps (hpe : s.pendingCapture = none) (now : Nat) (capture : PendingCapture) :
    Keeps s (s.finalizeCapture now capture) := by
  unfold finalizeCapture; split
  · exact .refl s
  rename_i hk
  push Not at hk
  obtain ⟨hlo, -, hex, -⟩ := hk; dsimp only
  split
  · exact .refl s
  rename_i he
  generalize hm : itemFromRepresentations _ now capture.origin capture.source _ false he = item
  have hid : item.id = s.nextItemId := by
    rw [← hm]; rfl
  rcases hin : s.newItemId.2.insertHistoryItem item with ⟨stored, s'⟩
  obtain ⟨hv, hli⟩ := insertHistoryItem_spec hin
  obtain ⟨hr, hcu, hn⟩ := bindSelection_spec ((hv.isExternal capture.epoch).trans hex) stored.id
  dsimp only
  generalize s'.bindSelection capture.epoch stored.id = t at *
  have hd : t.ids = s'.ids := by rw [hr]; rfl
  have hne : t.nextItemId = bump s.nextItemId := by
    rw [hr, hv.rest]; rfl
  have hf : t.pendingCapture = none := by
    rw [hr, hv.rest]; exact hpe
  have hu : t.locked = s.locked := by
    rw [hr, hv.rest]; rfl
  refine ⟨fun hs => ⟨?_, fun epoch id h => ?_, hn, fun p hp => ?_, fun h => ?_⟩, .inr ⟨hne, ?_⟩⟩
  · rw [hr]; exact hli
  · have h : t.current = .managed epoch id := h
    rw [h] at hcu; cases hcu
  · have hp : t.pendingCapture = some p := hp
    rw [hf] at hp; cases hp
  · have h : t.locked = true := h
    rw [hu] at h; exact absurd h hlo
  · show t.ids.Sublist _
    rw [hd, ← hid]; exact hv.ids

theorem finishCapture_keeps (s : ClipboardState) (now : Nat) (e : UInt64) (mt : String)
    (data : Option (List UInt8)) : Keeps s (s.finishCapture now e mt data) := by
  unfold finishCapture; split
  · exact .refl s
  rename_i capture hca; split
  · exact .refl s
  dsimp only; split
  · refine ⟨fun hs => ⟨hs.limited, hs.managed, hs.bound, fun p hp => ?_, hs.quiet⟩, .of_same rfl rfl⟩
    cases hp; exact hs.pending capture hca
  have hf := finalizeCapture_keeps (s := { s with pendingCapture := none }) rfl now
    (capture.received mt data)
  refine ⟨fun hs => hf.sound ?_, hf.numbered⟩
  exact ⟨hs.limited, hs.managed, hs.bound, fun _ hp => (nomatch hp), hs.quiet⟩

theorem storeItem_spec {stored : ClipboardItem}
    (h : (if s.paused then (item, s) else s.insertHistoryItem item) = (stored, s')) :
    Revised [item.id] s s' ∧ (s.Limited → s'.Limited) := by
  split_ifs at h with hs
  · cases h
    exact ⟨⟨rfl, List.sublist_cons_self .., .inl rfl, id⟩, id⟩
  · obtain ⟨hr, hm⟩ := insertHistoryItem_spec h; exact ⟨hr, fun _ => hm⟩

theorem setManagedRepresentation_keeps (s : ClipboardState) (now : Nat) (r : ClipboardRepresentation)
    (st : String) : Keeps s (s.setManagedRepresentation now r st).1 := by
  unfold setManagedRepresentation; split
  · exact .refl s
  rename_i hlo; dsimp only
  generalize hm : itemFromRepresentations _ now .flutter _ [r] false _ = item
  have hid : item.id = s.nextItemId := by
    rw [← hm]; rfl
  rcases hst : (if s.newItemId.2.paused then (item, s.newItemId.2) else s.newItemId.2.insertHistoryItem item)
    with ⟨stored, s'⟩
  obtain ⟨hr, hli⟩ := storeItem_spec hst; dsimp only
  refine ⟨fun hs => ⟨hli hs.limited, fun epoch id h => ?_, fun _ _ h => (nomatch h), fun _ hp => (nomatch hp),
    fun h => ?_⟩, .inr ⟨?_, ?_⟩⟩
  · cases h; exact ⟨stored, rfl, rfl⟩
  · have h : s'.locked = true := h
    rw [hr.rest] at h; exact absurd h hlo
  · show s'.nextItemId = _
    rw [hr.rest]; rfl
  · rw [← hid]; exact hr.ids

theorem setText_keeps (s : ClipboardState) (now : Nat) (text : String) : Keeps s (s.setText now text).1 := by
  unfold setText; dsimp only
  split_ifs
  · exact .refl s
  · exact .refl s
  · split
    · exact .refl s
    · exact setManagedRepresentation_keeps ..

theorem setImagePng_keeps (s : ClipboardState) (now : Nat) (data : List UInt8) : Keeps s (s.setImagePng now data).1 := by
  unfold setImagePng
  split_ifs
  · exact .refl s
  · split
    · exact .refl s
    · exact setManagedRepresentation_keeps ..

theorem takeActions_keeps (s : ClipboardState) : Keeps s s.takeActions.2 :=
  ⟨fun hs => ⟨hs.limited, hs.managed, hs.bound, hs.pending, fun _ => rfl⟩, .of_same rfl rfl⟩

theorem enforceLimits_keeps (s : ClipboardState) : Keeps s s.enforceLimits := by
  obtain ⟨hr, hm⟩ := enforceLimits_spec s; exact hr.keeps fun _ => hm

/-! ## Control -/

theorem located (h : history[history.findIdx (·.id = itemId)]? = some item) : item.id = itemId := by
  obtain ⟨hlt, heq⟩ := List.getElem?_eq_some_iff.1 h; rw [← heq]
  exact of_decide_eq_true (List.findIdx_getElem (p := fun item : ClipboardItem => decide (item.id = itemId)) :)

theorem activate_keeps (s : ClipboardState) (itemId : UInt64) : Keeps s (s.activate itemId).1 := by
  unfold activate; split
  · exact .refl s
  rename_i hlo; split
  · exact .refl s
  rename_i item hm
  refine ⟨fun hs => ⟨hs.limited, fun epoch id h => ?_, fun _ _ h => (nomatch h), fun _ hp => (nomatch hp),
    fun h => absurd h hlo⟩, .of_same rfl rfl⟩
  cases h; exact ⟨item, rfl, (historyItem_some hm).2⟩

theorem setPinned_keeps (s : ClipboardState) (itemId : UInt64) (pinned : Bool) :
    Keeps s (s.setPinned itemId pinned).1 := by
  unfold setPinned; split
  · exact .refl s
  rename_i hlo; dsimp only; split
  · exact .refl s
  rename_i item hm; split
  · exact .refl s
  have hd : ((s.history.set (s.history.findIdx (·.id = itemId)) { item with pinned := pinned }).map (·.id)) = s.ids :=
    map_set_of_eq hm rfl
  have hlen : ((s.history.set (s.history.findIdx (·.id = itemId)) { item with pinned := pinned }).map (·.byteLen)) =
    s.history.map (·.byteLen) := map_set_of_eq hm rfl
  refine ⟨fun hs => ⟨⟨?_, ?_, hs.limited.2.2⟩, fun epoch id h => ?_, fun epoch id h => ?_, hs.pending, hs.quiet⟩,
    .of_same rfl hd⟩
  · have hy := hs.limited.1
    show s.historyBytes = ((s.history.set _ _).map (·.byteLen)).sum
    rw [hlen]; exact hy
  · show (s.history.set _ _).length ≤ _
    rw [List.length_set]; exact hs.limited.2.1
  · obtain ⟨managed, hn, hid⟩ := hs.managed epoch id h
    show ∃ item', (if s.managed.any (·.id = itemId) then some { item with pinned := pinned } else s.managed) =
      some item' ∧ item'.id = id
    rw [hn]; split
    · rename_i heq
      have heq : managed.id = itemId := of_decide_eq_true heq
      exact ⟨_, rfl, (located hm).trans (heq.symm.trans hid)⟩
    · exact ⟨managed, rfl, hid⟩
  · show id ∈ (s.history.set _ _).map (·.id)
    rw [hd]; exact hs.bound epoch id h

theorem delete_keeps (s : ClipboardState) (itemId : UInt64) : Keeps s (s.delete itemId).1 := by
  unfold delete; split
  · exact .refl s
  rename_i hlo; dsimp only; split
  · exact .refl s
  rename_i item hit
  obtain ⟨hr, hac⟩ := remove_revised hit
  have hm (hs : s.Limited) : Limited { s with
      history := s.history.eraseIdx (s.history.findIdx (·.id = itemId))
      historyBytes := s.historyBytes - item.byteLen } :=
    ⟨hac hs.1, (List.eraseIdx_sublist ..).length_le.trans hs.2.1, (Nat.sub_le ..).trans hs.2.2⟩
  rw [located hit] at hr
  refine Keeps.bumpRevision ?_; unfold deselect
  split
  · rename_i epoch activeId hcu
    have hcu : s.current = .managed epoch activeId := hcu
    split
    · refine ⟨fun hs => ⟨hm hs.limited, fun _ _ h => (nomatch h), fun _ _ h => (nomatch h), fun p hp => ?_,
        fun h => absurd h hlo⟩, .inl ⟨rfl, hr.ids⟩⟩
      have := (hs.pending p hp).2.2
      rw [hcu] at this; cases this
    have hsa : s.current.forget itemId = s.current := by
      rw [hcu]; rfl
    rw [hsa] at hr; exact hr.keeps hm
  · exact hr.keeps hm

theorem clear_keeps (s : ClipboardState) : Keeps s s.clear.1 := by
  unfold clear; split
  · exact .refl s
  rename_i hlo; dsimp only
  have hd : ((s.history.filter (·.pinned)).map (·.id)).Sublist s.ids := List.filter_sublist.map _
  have hm (hs : s.Limited) : Limited { s with history := s.history.filter (·.pinned) }.recalculateHistoryBytes := by
    have := sum_map_filter_add (·.byteLen) (·.pinned) s.history
    obtain ⟨hy, hit, hli⟩ := hs
    refine ⟨rfl, (List.length_filter_le ..).trans hit, ?_⟩
    show ((s.history.filter (·.pinned)).map (·.byteLen)).sum ≤ _
    unfold Accounted at hy; omega
  refine Keeps.bumpRevision ?_; unfold reselect
  split
  · rename_i epoch itemId hr; split
    · rename_i item hie
      refine ⟨fun hs => ⟨hm hs.limited, fun e' id h => ?_, fun _ _ h => ?_, fun _ hp => (nomatch hp),
        fun h => absurd h hlo⟩, .inl ⟨rfl, hd⟩⟩
      · rw [hr] at h
        cases h; exact ⟨item, rfl, (historyItem_some hie).2⟩
      · rw [hr] at h; cases h
    · exact ⟨fun hs => ⟨hm hs.limited, fun _ _ h => (nomatch h), fun _ _ h => (nomatch h),
        fun _ hp => (nomatch hp), fun h => absurd h hlo⟩, .inl ⟨rfl, hd⟩⟩
  · rename_i epoch hiii hr
    refine ⟨fun hs => ⟨hm hs.limited, fun _ _ h => (nomatch h), fun e' id h => ?_, fun _ hp => (nomatch hp),
      fun h => absurd h hlo⟩, .inl ⟨rfl, hd⟩⟩
    cases hiii with
    | none => cases h
    | some b =>
      have hk := (CurrentSelection.external.inj h).2; rw [Option.filter_eq_some_iff] at hk
      obtain ⟨heq, hre⟩ := hk
      cases heq; exact mem_ids.2 hre
  · rename_i hr
    refine ⟨fun hs => ⟨hm hs.limited, fun _ _ h => ?_, fun _ _ h => ?_, fun _ hp => (nomatch hp),
      fun h => absurd h hlo⟩, .inl ⟨rfl, hd⟩⟩
    · rw [hr] at h; cases h
    · rw [hr] at h; cases h

theorem setPaused_keeps (s : ClipboardState) (ps : Bool) : Keeps s (s.setPaused ps).1 := by
  unfold setPaused; split
  · exact .refl s
  rename_i hlo; split
  · exact .refl s
  refine ⟨fun hs => ⟨hs.limited, hs.managed, hs.bound, fun p hp => ?_, hs.quiet⟩, .of_same rfl rfl⟩
  have hp : (if ps then none else s.pendingCapture) = some p := hp
  split_ifs at hp with hpa
  obtain ⟨hu, -, hr⟩ := hs.pending p hp
  exact ⟨hu, Bool.eq_false_iff.2 hpa, hr⟩

theorem startDrag_keeps (s : ClipboardState) (itemId : UInt64) : Keeps s (s.startDrag itemId).1 := by
  unfold startDrag; split
  · exact .refl s
  rename_i hlo; split
  · exact .refl s
  · exact ⟨fun hs => ⟨hs.limited, hs.managed, hs.bound, hs.pending, fun h => absurd h hlo⟩, .of_same rfl rfl⟩

theorem handleControlPacket_keeps (toLowercase : String → String) (s : ClipboardState) (p : List UInt8) :
    Keeps s (s.handleControlPacket toLowercase p).1 := by
  unfold handleControlPacket; split
  · rename_i request hr
    cases request with
    | snapshot q => exact .refl s
    | read itemId mt => exact .refl s
    | activate itemId => exact activate_keeps s itemId
    | setPinned itemId pn => exact setPinned_keeps s itemId pn
    | delete itemId => exact delete_keeps s itemId
    | clear => exact clear_keeps s
    | setPaused ps => exact setPaused_keeps s ps
    | startDrag itemId => exact startDrag_keeps s itemId
  · exact .refl s

end ClipboardState

open ClipboardState

theorem next_keeps (toLowercase : String → String) (s : ClipboardState) (e : ClipboardEvent) :
    Keeps s (next toLowercase s e) := by
  cases e with
  | setLocked locked => exact setLocked_keeps s locked
  | observeExternalSelection org omt source => exact observeExternalSelection_keeps s ..
  | finishCapture now epoch mt data => exact finishCapture_keeps s ..
  | setText now text => exact setText_keeps s now text
  | setImagePng now data => exact setImagePng_keeps s now data
  | takeActions => exact takeActions_keeps s
  | enforceLimits => exact enforceLimits_keeps s
  | handleControlPacket packet => exact handleControlPacket_keeps toLowercase s packet

/-! ## Runs -/

section

variable (toLowercase : String → String)

/-- The number of item ids a run hands out. -/
def allocated : ClipboardState → List ClipboardEvent → Nat
  | _, [] => 0
  | s, e :: es =>
    (if (next toLowercase s e).nextItemId = s.nextItemId then 0 else 1) + allocated (next toLowercase s e) es

/-- After `k` ids, the history has items of different ones of them. -/
def Numbering (k : Nat) (s : ClipboardState) : Prop :=
  s.nextItemId = serialOf (k + 1) ∧ ∃ js : List Nat, s.ids = js.map serialOf ∧ js.Nodup ∧ ∀ j ∈ js, 0 < j ∧ j ≤ k

theorem Numbering.step {k : Nat} {s s' : ClipboardState} (h : Numbering k s) (hstep : Numbered s s') :
    Numbering (k + if s'.nextItemId = s.nextItemId then 0 else 1) s' := by
  obtain ⟨hn, js, hd, hno, hr⟩ := h
  rcases hstep with ⟨hsa, hs⟩ | ⟨hm, hs⟩
  · rw [if_pos hsa]; rw [hd] at hs
    obtain ⟨js', hs', hi'⟩ := List.sublist_map_iff.1 hs
    exact ⟨hsa.trans hn, js', hi', hno.sublist hs', fun j hj => hr j (hs'.subset hj)⟩
  have hne : s'.nextItemId ≠ s.nextItemId := by
    rw [hm]; exact bump_ne_self _
  rw [if_neg hne]; rw [hd, hn] at hs
  have hf : ((k + 1) :: js).Nodup := List.nodup_cons.2 ⟨fun hmem => by have := (hr _ hmem).2; omega, hno⟩
  have hs : s'.ids.Sublist (((k + 1) :: js).map serialOf) := hs
  obtain ⟨js', hs', hi'⟩ := List.sublist_map_iff.1 hs
  refine ⟨by rw [hm, hn]; rfl, js', hi', hf.sublist hs', fun j hj => ?_⟩
  rcases List.mem_cons.1 (hs'.subset hj) with rfl | hj
  · omega
  · have := hr j hj
    omega

theorem numbering_exec : ∀ {k : Nat} {s : ClipboardState} (es : List ClipboardEvent), Numbering k s →
    Numbering (k + allocated toLowercase s es) (exec (next toLowercase) s es)
  | _, _, [], h => h
  | k, s, e :: es, h => by
    have := numbering_exec es (h.step (next_keeps toLowercase s e).numbered)
    rw [Nat.add_assoc] at this; exact this

theorem Numbering.nodup {k : Nat} {s : ClipboardState} (h : Numbering k s) (hk : k ≤ cycle) : s.ids.Nodup := by
  obtain ⟨-, js, hd, hn, hr⟩ := h; rw [hd]
  refine List.Nodup.map_on (fun i hi j hj heq => ?_) hn
  obtain ⟨hi₀, hik⟩ := hr i hi
  obtain ⟨hj₀, hjk⟩ := hr j hj
  rcases Nat.le_total i j with hij | hji
  · exact serialOf_inj hi₀ hij (by omega) heq
  · exact (serialOf_inj hj₀ hji (by omega) heq.symm).symm

theorem sound_start : Sound {} :=
  ⟨⟨rfl, Nat.zero_le _, Nat.zero_le _⟩, fun _ _ h => (nomatch h), fun _ _ h => (nomatch h), fun _ hp => (nomatch hp),
    fun _ => rfl⟩

/-- In every run of the clipboard its invariant holds, and the ids of its items are unique as long as at most
`2⁶⁴ − 1` ids have been handed out. -/
theorem clipboard_sound (es : List ClipboardEvent) :
    Sound (exec (next toLowercase) {} es) ∧
      (allocated toLowercase {} es ≤ 2 ^ 64 - 1 → (exec (next toLowercase) {} es).ids.Nodup) := by
  refine ⟨exec_invariant (fun s e h => (next_keeps toLowercase s e).sound h) es sound_start, fun h => ?_⟩
  have hnum := numbering_exec toLowercase es (k := 0) (s := {})
    ⟨rfl, [], rfl, List.nodup_nil, fun j hj => (nomatch hj)⟩
  rw [Nat.zero_add] at hnum; exact hnum.nodup h

end

/-- A text and another one, each numbered. -/
theorem clipboard_sound_two_texts :
    (exec (next String.toLower) {} [.setText 0 "a", .setText 1 "b"]).ids.Nodup :=
  (clipboard_sound String.toLower [.setText 0 "a", .setText 1 "b"]).2 (by decide +kernel)

/-! ## The counter of ids goes around -/

def letter (byte : UInt8) : ClipboardRepresentation := ⟨"text/plain;charset=utf-8", [byte], .text, none⟩

theorem validate_letter : validateRepresentation "text/plain;charset=utf-8" (asBytes "a") = some (letter 97) ∧
    validateRepresentation "text/plain;charset=utf-8" (asBytes "c") = some (letter 99) := by decide +kernel

variable {s : ClipboardState}

theorem enforceLimits_history (hm : s.history.length ≤ maxHistoryItems)
    (hy : (s.history.map (·.byteLen)).sum ≤ maxHistoryBytes) : s.enforceLimits.history = s.history := by
  unfold enforceLimits enforceLimitsTo
  cases hlen : s.history.length with
  | zero => rfl
  | succ n =>
    unfold enforceLoop; rw [if_neg]
    · rfl
    · show ¬(maxHistoryItems < s.history.length ∨ maxHistoryBytes < (s.history.map (·.byteLen)).sum); omega

def letterItem (id : UInt64) (byte : UInt8) : ClipboardItem :=
  itemFromRepresentations id 0 .flutter (ClipboardSourceIdentity.bounded "denial" "Denial shell") [letter byte] false
    (List.cons_ne_nil _ _)

theorem setText_letter (hlo : s.locked = false) (hs : s.paused = false) (text : String) {byte : UInt8}
    (hlen : (asBytes text).length ≤ maxTextBytes) (hz : 0 ∉ asBytes text)
    (hv : validateRepresentation "text/plain;charset=utf-8" (asBytes text) = some (letter byte)) :
    (s.setText 0 text).1.locked = false ∧ (s.setText 0 text).1.paused = false ∧
      (s.setText 0 text).1.nextItemId = bump s.nextItemId ∧
      (s.setText 0 text).1.history = (s.newItemId.2.pushFront (letterItem s.nextItemId byte)).2.enforceLimits.history := by
  rcases hn : s.newItemId.2.insertHistoryItem (letterItem s.nextItemId byte) with ⟨stored, t⟩
  obtain ⟨hr, -⟩ := insertHistoryItem_spec hn
  have hst : (s.setText 0 text).1 = ({ t.newEpoch.2 with
      current := .managed t.nextEpoch stored.id
      managed := some stored
      pendingCapture := none
      actions := [.publish t.nextEpoch stored.id false] } : ClipboardState).bumpRevision := by
    have hs : s.newItemId.2.paused = false := hs
    have hn : s.newItemId.2.insertHistoryItem (itemFromRepresentations s.newItemId.1 0 .flutter
        (ClipboardSourceIdentity.bounded "denial" "Denial shell") [letter byte] false (List.cons_ne_nil _ _)) =
      (stored, t) := hn
    unfold setText setManagedRepresentation; dsimp only
    rw [if_neg (by omega), if_neg hz, hv]; dsimp only
    rw [hlo, if_neg Bool.false_ne_true, hs, if_neg Bool.false_ne_true, hn]; rfl
  rw [hst]
  refine ⟨?_, ?_, ?_, (congrArg (·.2.history) hn).symm⟩
  · show t.locked = false
    rw [hr.rest]; exact hlo
  · show t.paused = false
    rw [hr.rest]; exact hs
  · show t.nextItemId = _
    rw [hr.rest]; rfl

/-- The history is one letter `a` under the first id, and `n` ids have been handed out. -/
def OneLetter (n : Nat) (s : ClipboardState) : Prop :=
  s.locked = false ∧ s.paused = false ∧ s.nextItemId = serialOf (n + 1) ∧
    ∃ item, s.history = [item] ∧ item.id = serialOf 1 ∧ item.primary = letter 97 ∧ item.byteLen = 1

theorem OneLetter.again {n : Nat} (h : OneLetter n s) : OneLetter (n + 1) (s.setText 0 "a").1 := by
  obtain ⟨hlo, hpa, hn, item, hh, hid, hr, hlen⟩ := h
  obtain ⟨hl', hp', hn', hh'⟩ :=
    setText_letter hlo hpa "a" (by decide +kernel) (by decide +kernel) validate_letter.1
  refine ⟨hl', hp', hn'.trans (by rw [hn]; rfl), ?_⟩
  have hm : item.sameContent (letterItem s.nextItemId 97) = true := by
    unfold ClipboardItem.sameContent
    rw [hr]; rfl
  have hs : (s.newItemId.2.pushFront (letterItem s.nextItemId 97)).2.history =
      [{ letterItem s.nextItemId 97 with id := item.id, pinned := item.pinned }] := by
    have hh : s.newItemId.2.history = [item] := hh
    unfold pushFront; rw [hh]
    dsimp only; rw [if_pos hm]
  refine ⟨{ letterItem s.nextItemId 97 with id := item.id, pinned := item.pinned }, ?_, hid, rfl, rfl⟩
  rw [hh', enforceLimits_history, hs]
  · rw [hs]
    show 1 ≤ maxHistoryItems; decide
  · rw [hs]
    show 1 + 0 ≤ maxHistoryBytes; decide

/-- A text set over and over keeps its first id, but takes an id each time: after a whole cycle of the counter the
next text gets the same id. -/
def wrapAround : List ClipboardEvent :=
  .setText 0 "a" :: List.replicate (cycle - 1) (.setText 0 "a") ++ [.setText 0 "c"]

theorem oneLetter_exec {n : Nat} (h : OneLetter n s) (m : Nat) :
    OneLetter (n + m) (exec (next String.toLower) s (List.replicate m (.setText 0 "a"))) := by
  induction m generalizing n s with
  | zero => exact h
  | succ m ih =>
    have := ih h.again
    rw [Nat.add_right_comm, Nat.add_assoc] at this; exact this

theorem ids_wrap_around : ¬(exec (next String.toLower) {} wrapAround).ids.Nodup := by
  have hfir : OneLetter 1 (exec (next String.toLower) {} [.setText 0 "a"]) := by
    obtain ⟨hloc, hpaus, hnex, hhis⟩ := setText_letter (s := {}) rfl rfl "a" (by decide +kernel)
      (by decide +kernel) validate_letter.1
    refine ⟨hloc, hpaus, hnex, letterItem 1 97, ?_, rfl, rfl, rfl⟩
    exact hhis.trans (enforceLimits_history (by decide) (by decide))
  -- the number of repetitions stays a variable, so that nothing evaluates them
  obtain ⟨m, hm⟩ : ∃ m, cycle - 1 = m := ⟨_, rfl⟩
  obtain ⟨hloc, hpaus, hnex, item, hhis, hid, hprim, hlen⟩ := oneLetter_exec hfir m
  unfold wrapAround; rw [hm, exec_snoc, exec_cons]
  rw [exec_cons, exec_nil] at hloc hpaus hnex hhis
  generalize exec (next String.toLower) (next String.toLower {} (.setText 0 "a")) (List.replicate m (.setText 0 "a")) = s
    at *
  obtain ⟨-, -, -, hhis'⟩ := setText_letter hloc hpaus "c" (by decide +kernel) (by decide +kernel)
    validate_letter.2
  have hnew : item.sameContent (letterItem s.nextItemId 99) = false := by
    unfold ClipboardItem.sameContent
    rw [hprim]; rfl
  have hpus : (s.newItemId.2.pushFront (letterItem s.nextItemId 99)).2.history = [letterItem s.nextItemId 99, item] := by
    have hhis : s.newItemId.2.history = [item] := hhis
    unfold pushFront; rw [hhis]
    dsimp only
    rw [if_neg (by rw [hnew]; exact Bool.false_ne_true)]
  rw [enforceLimits_history, hpus] at hhis'
  · show ¬((s.setText 0 "c").1.history.map (·.id)).Nodup; rw [hhis']
    show ¬[s.nextItemId, item.id].Nodup; rw [hnex, hid]
    have hwrap : 1 + m + 1 = 0 + 1 + cycle := by
      unfold cycle at hm ⊢; omega
    rw [hwrap, serialOf_add_cycle]; decide
  · rw [hpus]
    show 2 ≤ maxHistoryItems; decide
  · rw [hpus]
    show 1 + (item.byteLen + 0) ≤ maxHistoryBytes
    rw [hlen]; decide

end Deniald.Clipboard
