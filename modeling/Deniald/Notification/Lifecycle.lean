/-
What every run of the store keeps: the order holds the identities that are there, what comes out for one of them is one
life after another, and an action is reported once for each publication.
-/
import Deniald.Lib.Lists
import Deniald.Notification.Store

namespace Deniald.Notification

open Deniald.Lib
open NotificationEvent

/-! ## Lives -/

/-- The events of one identity: added, replaced any number of times, closed, and again; with whether it is there. -/
inductive Life : List NotificationEventKind → Bool → Prop
  | start : Life [] false
  | added {kinds : List NotificationEventKind} (h : Life kinds false) : Life (kinds ++ [.added]) true
  | replaced {kinds : List NotificationEventKind} (h : Life kinds true) : Life (kinds ++ [.replaced]) true
  | closed {kinds : List NotificationEventKind} (h : Life kinds true) : Life (kinds ++ [.closed]) false

def kindOf (id : UInt32) : Output → Option NotificationEventKind
  | .event event => if event.notificationId = id then some event.kind else none
  | .reported .. | .rolledBack .. => none

def kinds (id : UInt32) (outputs : List Output) : List NotificationEventKind := outputs.filterMap (kindOf id)

/-- The notification is published, or the action taken back: it may be reported again. -/
def Renews (id : UInt32) (key : String) : Output → Prop
  | .event event => event.notificationId = id ∧ event.kind ≠ .closed
  | .reported .. => False
  | .rolledBack id' key' => id' = id ∧ key' = key

/-- An action has been reported since it last could be. -/
def Reported (id : UInt32) (key : String) : List Output → Prop := Lasting (· = .reported id key) (Renews id key)

def ReportedOnce : List Output → Prop := Guarded fun output before =>
  ∀ id key, output = .reported id key → ¬Reported id key before

theorem kinds_snoc (id : UInt32) (outputs : List Output) (out : Output) :
    kinds id (outputs ++ [out]) = kinds id outputs ++ (kindOf id out).toList := by
  unfold kinds; rw [List.filterMap_append]
  cases h : kindOf id out <;> simp [h]

theorem beginAction_cases (s : NotificationStore) (id : UInt32) (key : String) :
    (∃ d, s.beginAction id key = (s, d) ∧ ∀ r, d ≠ .invoke r) ∨
    ∃ stored, s.notifications.lookup id = some stored ∧ key ∉ stored.invokedActions ∧
      s.beginAction id key = ({ s with
        notifications := s.notifications.insert id
          { stored with invokedActions := insert key stored.invokedActions } },
        .invoke stored.notification.resident) := by
  unfold NotificationStore.beginAction
  cases hs : s.notifications.lookup id with
  | none => exact .inl ⟨_, rfl, by simp⟩
  | some stored =>
    dsimp only; split
    · exact .inl ⟨_, rfl, by simp⟩
    split
    · exact .inl ⟨_, rfl, by simp⟩
    · rename_i hf; exact .inr ⟨stored, rfl, hf, rfl⟩

/-! ## The invariant -/

structure Inv (outputs : List Output) (s : NotificationStore) : Prop where
  order : s.order.Perm s.notifications.keys
  bounded : s.order.length ≤ maxNotifications
  nonzero : s.notifications.lookup 0 = none
  ids : ∀ id stored, s.notifications.lookup id = some stored → stored.notification.id = id
  life : ∀ id, Life (kinds id outputs) (s.notifications.lookup id).isSome
  reported : ∀ id stored key, s.notifications.lookup id = some stored → Reported id key outputs →
    key ∈ stored.invokedActions
  once : ReportedOnce outputs

theorem inv_start : Inv [] {} where
  order := .refl _
  bounded := Nat.zero_le _
  nonzero := rfl
  ids := by rintro id stored ⟨⟩
  life _ := .start
  reported := by rintro id stored key ⟨⟩
  once before output after h := by cases before <;> cases h

variable {outputs : List Output} {s : NotificationStore}

namespace Inv

theorem length_entries (h : Inv outputs s) : s.notifications.entries.length = s.order.length := by
  rw [Lib.length_entries, h.order.length_eq]

theorem nodup (h : Inv outputs s) : s.order.Nodup := h.order.nodup_iff.2 s.notifications.keys_nodup

variable {id : UInt32} {notification : Notification}

theorem mem_order (h : Inv outputs s) : id ∈ s.order ↔ (s.notifications.lookup id).isSome = true := by
  rw [h.order.mem_iff, mem_keys_iff]

theorem reported_event {ev : NotificationEvent} {key : String} (h : Reported id key (outputs ++ [.event ev])) :
    Reported id key outputs ∧ ¬Renews id key (.event ev) := by
  rcases lasting_snoc.1 h with heq | h
  · cases heq
  · exact h

theorem once_event (h : Inv outputs s) (ev : NotificationEvent) : ReportedOnce (outputs ++ [.event ev]) := by
  refine guarded_snoc.2 ⟨h.once, ?_⟩
  rintro id key ⟨⟩

/-! ### Closing -/

theorem close (h : Inv outputs s) (id reason : UInt32) :
    Inv (outputs ++ (s.close id reason).2.toList.map .event) (s.close id reason).1 := by
  unfold NotificationStore.close
  cases hk : s.notifications.lookup id with
  | none => simpa using h
  | some stored =>
    have hmem : id ∈ s.notifications.keys := mem_keys_iff.2 (by rw [hk]; rfl)
    refine ⟨?_, ?_, ?_, ?_, ?_, ?_, h.once_event _⟩
    · show (s.order.filter (· != id)).Perm (s.notifications.erase id).keys
      rw [AList.keys_erase, ← h.nodup.erase_eq_filter]; exact h.order.erase id
    · exact le_trans (List.length_filter_le _ _) h.bounded
    · show (s.notifications.erase id).lookup 0 = none; rw [lookup_erase_eq, h.nonzero, ite_self]
    · intro id' stored' hid
      have hid : (s.notifications.erase id).lookup id' = some stored' := hid
      rw [lookup_erase_eq] at hid; split at hid
      · cases hid
      · exact h.ids id' stored' hid
    · intro id'
      show Life (kinds id' (outputs ++ [_])) ((s.notifications.erase id).lookup id').isSome
      rw [kinds_snoc, lookup_erase_eq]
      have hf := h.life id'
      by_cases heq : id' = id
      · subst heq; rw [hk] at hf
        simpa [kindOf, closed] using hf.closed
      · simpa [kindOf, closed, heq, Ne.symm heq] using hf
    · intro id' stored' key hid hr
      have hid : (s.notifications.erase id).lookup id' = some stored' := hid
      rw [lookup_erase_eq] at hid; split at hid
      · cases hid
      · exact h.reported id' stored' key hid (reported_event hr).1

theorem closeAll (r : UInt32) : ∀ (ids : List UInt32) {outputs : List Output} {s : NotificationStore},
    Inv outputs s →
    Inv (outputs ++ (NotificationStore.closeAll r s ids).2.map .event) (NotificationStore.closeAll r s ids).1
  | [], outputs, s, h => by simpa [NotificationStore.closeAll] using h
  | id :: ids, outputs, s, h => by
    have hr := closeAll r ids (h.close id r)
    simp only [NotificationStore.closeAll, List.map_append, ← List.append_assoc]; exact hr

/-! ### Publishing -/

/-- What a publication does to what is known of the identities. -/
theorem store_trace (h : Inv outputs s) (now : Int) {kind : NotificationEventKind} (hk : kind ≠ .closed)
    (hli : Life (kinds notification.id outputs ++ [kind]) true) :
    (∀ id, Life (kinds id (outputs ++ [.event (.published kind notification)]))
      ((s.store notification now).notifications.lookup id).isSome) ∧
    (∀ id stored key, (s.store notification now).notifications.lookup id = some stored →
      Reported id key (outputs ++ [.event (.published kind notification)]) → key ∈ stored.invokedActions) ∧
    (∀ id stored, (s.store notification now).notifications.lookup id = some stored → stored.notification.id = id) := by
  unfold NotificationStore.store
  refine ⟨fun id => ?_, fun id stored key hid hre => ?_, fun id stored hid => ?_⟩
  · rw [kinds_snoc, lookup_insert_eq]
    by_cases heq : id = notification.id
    · subst heq
      simpa [kindOf, published] using hli
    · simpa [kindOf, published, heq, Ne.symm heq] using h.life id
  · obtain ⟨hf, hr⟩ := reported_event hre
    simp only [lookup_insert_eq] at hid; split at hid
    · rename_i heq; exact absurd ⟨heq.symm, hk⟩ hr
    · exact h.reported id stored key hid hf
  · simp only [lookup_insert_eq] at hid; split at hid
    · rename_i heq; cases hid; exact heq.symm
    · exact h.ids id stored hid

theorem replace (h : Inv outputs s) (hs : (s.notifications.lookup notification.id).isSome = true) (now : Int) :
    Inv (outputs ++ [.event (.published .replaced notification)]) (s.store notification now) := by
  have hf : Life (kinds notification.id outputs ++ [.replaced]) true := by
    have := h.life notification.id
    rw [hs] at this; exact this.replaced
  obtain ⟨hv, hr, hd⟩ := h.store_trace now (by decide) hf
  refine ⟨h.order.trans (keys_insert_of_isSome _ hs).symm, h.bounded, ?_, hd, hv, hr, h.once_event _⟩
  show (s.notifications.insert _ _).lookup 0 = none; rw [lookup_insert_eq, if_neg, h.nonzero]
  intro hz
  rw [← hz, h.nonzero] at hs; cases hs

theorem add (h : Inv outputs s) (notification : Notification) (hr : s.order.length < maxNotifications)
    (hf : s.notifications.lookup notification.id = none) (hz : notification.id ≠ 0) (now : Int)
    (nextId : UInt32) :
    Inv (outputs ++ [.event (.published .added notification)])
      { s.store notification now with nextId, order := s.order ++ [notification.id] } := by
  have hli : Life (kinds notification.id outputs ++ [.added]) true := by
    have := h.life notification.id
    rw [hf] at this; exact this.added
  obtain ⟨hv, hre, hd⟩ := h.store_trace now (by decide) hli
  refine ⟨?_, ?_, ?_, hd, hv, hre, h.once_event _⟩
  · show (s.order ++ [notification.id]).Perm (s.notifications.insert _ _).keys
    rw [keys_insert_of_none _ hf]
    exact (List.perm_append_singleton ..).trans (h.order.cons _)
  · rw [List.length_append, List.length_singleton]; exact hr
  · show (s.notifications.insert _ _).lookup 0 = none
    rw [lookup_insert_eq, if_neg (Ne.symm hz), h.nonzero]

theorem makeRoom (h : Inv outputs s) :
    Inv (outputs ++ s.makeRoom.2.toList.map .event) s.makeRoom.1 ∧ s.makeRoom.1.order.length < maxNotifications := by
  unfold NotificationStore.makeRoom; split
  · rename_i hf; rw [h.length_entries] at hf
    cases hh : s.order.head? with
    | none =>
      rw [List.head?_eq_none_iff.1 hh] at hf; exact absurd hf (by decide)
    | some oldest =>
      refine ⟨h.close oldest 4, ?_⟩
      have hmem : oldest ∈ s.order := List.mem_of_head? hh
      obtain ⟨stored, hst⟩ := Option.isSome_iff_exists.1 (h.mem_order.1 hmem)
      show (s.close oldest 4).1.order.length < _; unfold NotificationStore.close
      rw [hst]
      have hs : (s.order.filter (· != oldest)).length < s.order.length := by
        rw [← h.nodup.erase_eq_filter, List.length_erase_of_mem hmem]; have := List.length_pos_of_mem hmem
        omega
      exact lt_of_lt_of_le hs h.bounded
  · rename_i hr; rw [h.length_entries] at hr; exact ⟨by simpa using h, not_le.1 hr⟩

theorem nextNotificationId (h : Inv outputs s) : ∃ id, s.nextNotificationId = some id ∧
    s.notifications.lookup id = none ∧ id ≠ 0 := by
  have hf : s.notifications.entries.length + 1 ≤ cycle32 := by
    rw [h.length_entries]
    exact le_trans (Nat.succ_le_succ h.bounded) (by decide)
  obtain ⟨id, hid⟩ : ∃ id, s.nextNotificationId = some id := by
    refine findFree_succeeds s.notifications.keys (fun id hs => mem_keys_iff.2 hs) ?_ ?_
    · exact fun j hj k hk => iterate_bump32_inj (lt_of_lt_of_le hj hf) (lt_of_lt_of_le hk hf)
    · rw [← Lib.length_entries]; omega
  obtain ⟨hu, k, hk⟩ := findFree_some hid
  refine ⟨id, hid, by simpa using hu, ?_⟩
  rw [hk]; exact bump32_ne_zero _

theorem notify (h : Inv outputs s) (replacesId : UInt32) (notification : Notification) (now : Int) :
    ∃ notified, s.notify replacesId notification now = some notified ∧
      Inv (outputs ++ notified.2.2.map .event) notified.1 := by
  unfold NotificationStore.notify; split
  · rename_i hre; exact ⟨_, rfl, h.replace hre.2 now⟩
  obtain ⟨hr, hlen⟩ := h.makeRoom
  obtain ⟨id, hid, hf, hz⟩ := hr.nextNotificationId
  have hd := hr.add { notification with id } hlen hf hz now id
  simp only [NotificationStore.add, hid, Option.bind_eq_bind, Option.bind_some]
  refine ⟨_, rfl, ?_⟩
  rw [List.map_append, ← List.append_assoc]; exact hd

/-! ### Actions -/

theorem update (h : Inv outputs s) {stored : StoredNotification} (hs : s.notifications.lookup id = some stored)
    (as : Finset String) {out : Output} (he : ∀ id, kindOf id out = none)
    (hac : ∀ key, Reported id key (outputs ++ [out]) → key ∈ as)
    (hh : ∀ id' key, id' ≠ id → Reported id' key (outputs ++ [out]) → Reported id' key outputs)
    (ho : ReportedOnce (outputs ++ [out])) :
    Inv (outputs ++ [out])
      { s with notifications := s.notifications.insert id { stored with invokedActions := as } } := by
  have hm : (s.notifications.lookup id).isSome = true := by rw [hs]; rfl
  have hk : ∀ id', ((s.notifications.insert id { stored with invokedActions := as }).lookup id').isSome =
      (s.notifications.lookup id').isSome := by
    intro id'; rw [lookup_insert_eq]
    split
    · rename_i heq; rw [heq, hm]; rfl
    · rfl
  refine ⟨h.order.trans (keys_insert_of_isSome _ hm).symm, h.bounded, ?_, ?_, ?_, ?_, ho⟩
  · have := hk 0
    rw [h.nonzero] at this
    simpa using this
  · intro id' s' hid
    simp only [lookup_insert_eq] at hid; split at hid
    · rename_i heq; cases hid
      rw [heq]; exact h.ids id stored hs
    · exact h.ids id' s' hid
  · intro id'; rw [kinds_snoc, he, hk]
    simpa using h.life id'
  · intro id' s' key hid hr
    simp only [lookup_insert_eq] at hid; split at hid
    · rename_i heq; subst heq
      cases hid; exact hac key hr
    · rename_i hne
      exact h.reported id' s' key hid (hh id' key hne hr)

theorem action (h : Inv outputs s) (id : UInt32) (key : String) :
    ∃ after, step s (.action id key) = some after ∧ Inv (outputs ++ after.2) after.1 := by
  refine ⟨_, rfl, ?_⟩
  rcases beginAction_cases s id key with ⟨d, hd, hno⟩ | ⟨stored, hs, hfr, hd⟩
  · rw [hd]
    cases d with
    | invoke r => exact absurd rfl (hno r)
    | alreadyInvoked | unknownNotification | unknownAction => simpa using h
  rw [hd]
  refine h.update hs _ (fun _ => rfl) (fun key' hr => ?_) (fun id' key' hne hr => ?_) ?_
  · rcases lasting_snoc.1 hr with heq | ⟨hf, -⟩
    · obtain ⟨-, rfl⟩ := Output.reported.inj heq; exact Finset.mem_insert_self ..
    · exact Finset.mem_insert_of_mem (h.reported id stored key' hs hf)
  · rcases lasting_snoc.1 hr with heq | ⟨hf, -⟩
    · exact absurd (Output.reported.inj heq).1.symm hne
    · exact hf
  · refine guarded_snoc.2 ⟨h.once, ?_⟩
    rintro id' key' heq hr
    obtain ⟨rfl, rfl⟩ := Output.reported.inj heq
    exact hfr (h.reported id stored key hs hr)

theorem rollback (h : Inv outputs s) (id : UInt32) (key : String) :
    Inv (outputs ++ [.rolledBack id key]) (s.rollbackAction id key) := by
  have ho : ReportedOnce (outputs ++ [.rolledBack id key]) := by
    refine guarded_snoc.2 ⟨h.once, ?_⟩
    rintro id' key' ⟨⟩
  have hf : ∀ {id' key'}, Reported id' key' (outputs ++ [.rolledBack id key]) →
      Reported id' key' outputs ∧ ¬(id = id' ∧ key = key') := by
    intro id' key' hr
    rcases lasting_snoc.1 hr with heq | hr
    · cases heq
    · exact hr
  unfold NotificationStore.rollbackAction; split
  · refine ⟨h.order, h.bounded, h.nonzero, h.ids, fun id' => ?_, fun id' stored key' hid hr => ?_, ho⟩
    · rw [kinds_snoc]
      simpa [kindOf] using h.life id'
    · exact h.reported id' stored key' hid (hf hr).1
  rename_i stored hs
  refine h.update hs _ (fun _ => rfl) (fun key' hr => ?_) (fun id' key' _ hr => ?_) ho
  · obtain ⟨hr, hh⟩ := hf hr
    exact Finset.mem_erase.2 ⟨fun heq => hh ⟨rfl, heq.symm⟩, h.reported id stored key' hs hr⟩
  · exact (hf hr).1

/-! ### Steps and runs -/

theorem step (h : Inv outputs s) (e : Step) :
    ∃ after, Notification.step s e = some after ∧ Inv (outputs ++ after.2) after.1 := by
  cases e with
  | notify ri notification now =>
    obtain ⟨n, hno, hn⟩ := h.notify ri notification now
    refine ⟨(n.1, n.2.2.map .event), ?_, hn⟩
    simp only [Notification.step, hno]; rfl
  | close id => exact ⟨_, rfl, h.close id 3⟩
  | dismiss id => exact ⟨_, rfl, h.close id 2⟩
  | action id key => exact h.action id key
  | rollback id key => exact ⟨_, rfl, h.rollback id key⟩
  | expire now => exact ⟨_, rfl, h.closeAll 1 _⟩

theorem run : ∀ (es : List Step) {outputs : List Output} {s : NotificationStore}, Inv outputs s →
    ∃ after, Notification.run s es = some after ∧ Inv (outputs ++ after.2) after.1
  | [], outputs, s, h => ⟨(s, []), rfl, by simpa using h⟩
  | e :: es, outputs, s, h => by
    obtain ⟨first, hf, hn⟩ := h.step e
    obtain ⟨rest, hr, hn⟩ := run es hn
    refine ⟨(rest.1, first.2 ++ rest.2), ?_, by rwa [← List.append_assoc]⟩
    simp only [Notification.run, hf, Option.bind_eq_bind, Option.bind_some, hr]; rfl

end Inv

/-! ## Expiry -/

structure Expires (s : NotificationStore) (now : Int) (after : NotificationStore × List Output) : Prop where
  events : after.2 = (s.order.filter (s.due now)).map fun id => .event (.closed id 1)
  remaining : ∀ id, after.1.notifications.lookup id = if s.due now id then none else s.notifications.lookup id

theorem closeAll_spec (r : UInt32) : ∀ (ids : List UInt32) (s : NotificationStore), ids.Nodup →
    (∀ id ∈ ids, (s.notifications.lookup id).isSome = true) →
    (NotificationStore.closeAll r s ids).2 = ids.map (closed · r) ∧
      ∀ id, (NotificationStore.closeAll r s ids).1.notifications.lookup id =
        if id ∈ ids then none else s.notifications.lookup id
  | [], s, _, _ => ⟨rfl, fun id => by simp [NotificationStore.closeAll]⟩
  | id :: ids, s, hn, hr => by
    obtain ⟨hid, hn⟩ := List.nodup_cons.1 hn
    obtain ⟨stored, hk⟩ := Option.isSome_iff_exists.1 (hr id (List.mem_cons_self ..))
    have hs : s.close id r = ({ s with
        notifications := s.notifications.erase id
        order := s.order.filter (· != id) }, some (.closed id r)) := by
      unfold NotificationStore.close; rw [hk]
    obtain ⟨he, hm⟩ := closeAll_spec r ids (s.close id r).1 hn fun id' hid' => by
      rw [hs]
      show ((s.notifications.erase id).lookup id').isSome = true
      rw [lookup_erase_eq, if_neg (ne_of_mem_of_not_mem hid' hid)]
      exact hr id' (List.mem_cons_of_mem _ hid')
    constructor
    · simp only [NotificationStore.closeAll, he]
      rw [hs]; rfl
    · intro id'
      simp only [NotificationStore.closeAll, hm]; rw [hs]
      show (if id' ∈ ids then none else (s.notifications.erase id).lookup id') = _; rw [lookup_erase_eq]
      by_cases heq : id' = id <;> simp [heq]

theorem Inv.expires (h : Inv outputs s) (now : Int) : ∃ after, Notification.step s (.expire now) = some after ∧
    Expires s now after := by
  obtain ⟨he, hr⟩ := closeAll_spec 1 (s.order.filter (s.due now)) s (h.nodup.filter _) fun id hid =>
    h.mem_order.1 (List.mem_of_mem_filter hid)
  refine ⟨_, rfl, ⟨?_, fun id => ?_⟩⟩
  · show (s.expireDue now).2.map Output.event = _; unfold NotificationStore.expireDue
    rw [he, List.map_map]; rfl
  · show (s.expireDue now).1.notifications.lookup id = _; unfold NotificationStore.expireDue
    rw [hr]
    by_cases hd : s.due now id = true
    · have hmem : id ∈ s.order := by
        rw [h.mem_order]
        cases hk : s.notifications.lookup id with
        | none => simp [NotificationStore.due, hk] at hd
        | some stored => rfl
      rw [if_pos (List.mem_filter.2 ⟨hmem, hd⟩), if_pos hd]
    · rw [if_neg fun hmem => hd (List.mem_filter.1 hmem).2, if_neg hd]

/-! ## The lifecycle -/

/-- What is known of a store and of all that came out on the way to it. -/
structure Lifecycle (s : NotificationStore) (outputs : List Output) : Prop where
  order : s.order.Perm s.notifications.keys
  bounded : s.order.length ≤ maxNotifications
  nonzero : 0 ∉ s.order
  unique : s.order.Nodup
  ids : ∀ id stored, s.notifications.lookup id = some stored → stored.notification.id = id
  /-- However long it may go on, the search for an identity ends with the same one. -/
  search : ∃ id, id ≠ 0 ∧ id ∉ s.order ∧ ∀ tries, s.order.length < tries →
    findFree bump32 (fun id => (s.notifications.lookup id).isSome) tries s.nextId = some id
  lives : ∀ id, Life (kinds id outputs) (id ∈ s.order)
  expiry : ∀ now, ∃ after, step s (.expire now) = some after ∧ Expires s now after
  reported : ReportedOnce outputs

theorem Inv.lifecycle (h : Inv outputs s) : Lifecycle s outputs := by
  refine ⟨h.order, h.bounded, fun hz => ?_, h.nodup, h.ids, ?_, fun id => ?_, h.expires, h.once⟩
  · have := h.mem_order.1 hz
    rw [h.nonzero] at this; cases this
  · obtain ⟨id, hid, hfr, hz⟩ := h.nextNotificationId
    refine ⟨id, hz, fun hmem => ?_, fun ts hr => ?_⟩
    · rw [h.mem_order, hfr] at hmem; cases hmem
    · exact findFree_mono (by rw [h.length_entries]; exact hr) hid
  · have hf := h.life id
    by_cases hmem : id ∈ s.order
    · rw [h.mem_order.1 hmem] at hf
      simpa [hmem] using hf
    have hn : (s.notifications.lookup id).isSome = false := by
      rw [← Bool.not_eq_true, ← h.mem_order]; exact hmem
    rw [hn] at hf
    simpa [hmem] using hf

theorem notifications_live (steps : List Step) :
    ∃ s outputs, run {} steps = some (s, outputs) ∧ Lifecycle s outputs := by
  obtain ⟨⟨s, outputs⟩, hrun, hinv⟩ := inv_start.run steps; exact ⟨s, outputs, hrun, hinv.lifecycle⟩

/-! ## The worker's runs -/

theorem run_append (s : NotificationStore) (es fs : List Step) : run s (es ++ fs) = do
    let first ← run s es
    let rest ← run first.1 fs
    return (rest.1, first.2 ++ rest.2) := by
  induction es generalizing s with
  | nil => cases h : run s fs <;> simp [run, h]
  | cons e es ih =>
    rw [List.cons_append]
    simp only [run, ih]
    cases hstep : step s e with
    | none => rfl
    | some first =>
      cases hes : run first.1 es with
      | none => simp [hes]
      | some rest => cases hfs : run rest.1 fs <;> simp [hes, hfs, List.append_assoc]

/-- A command is one step, an action also what follows from its report. -/
theorem handle_run (s : NotificationStore) (now : Int) (e : Bool) (cmd : Option Command) :
    ∃ es, handle s now e cmd = run s es := by
  cases cmd with
  | none => exact ⟨[], rfl⟩
  | some cmd =>
    cases cmd with
    | notify ri notification =>
      refine ⟨[.notify ri notification now], ?_⟩
      simp only [handle, run, step]
      cases s.notify ri notification now <;> simp
    | close id => exact ⟨[.close id], by simp [handle, run, step]⟩
    | dismiss id => exact ⟨[.dismiss id], by simp [handle, run, step]⟩
    | invokeAction id key =>
      rcases beginAction_cases s id key with ⟨d, hd, hno⟩ | ⟨stored, -, -, hd⟩
      · refine ⟨[.action id key], ?_⟩
        cases d with
        | invoke r => exact absurd rfl (hno r)
        | alreadyInvoked | unknownNotification | unknownAction => simp [handle, invokeAction, run, step, hd]
      cases e with
      | false => exact ⟨[.action id key, .rollback id key], by simp [handle, invokeAction, run, step, hd]⟩
      | true =>
        cases hr : stored.notification.resident with
        | true => exact ⟨[.action id key], by simp [handle, invokeAction, run, step, hd, hr]⟩
        | false =>
          exact ⟨[.action id key, .dismiss id], by simp [handle, invokeAction, run, step, hd, hr]⟩

structure Turn where
  command : Option Command
  now : Int
  emitted : Bool
  later : Int

def serve : NotificationStore → List Turn → Option (NotificationStore × List Output)
  | s, [] => some (s, [])
  | s, t :: ts => do
    let first ← turn s t.command t.now t.emitted t.later
    let rest ← serve first.1 ts
    return (rest.1, first.2 ++ rest.2)

theorem turn_run (s : NotificationStore) (t : Turn) : ∃ es, turn s t.command t.now t.emitted t.later = run s es := by
  obtain ⟨es, hes⟩ := handle_run s t.now t.emitted t.command
  refine ⟨es ++ [.expire t.later], ?_⟩; rw [run_append]
  unfold turn; rw [hes]
  cases run s es <;> simp [run, step]

theorem serve_run (s : NotificationStore) (ts : List Turn) : ∃ es, serve s ts = run s es := by
  induction ts generalizing s with
  | nil => exact ⟨[], rfl⟩
  | cons t ts ih =>
    obtain ⟨es, hes⟩ := turn_run s t; unfold serve
    rw [hes]
    cases hr : run s es with
    | none => exact ⟨es, by rw [hr]; rfl⟩
    | some first =>
      obtain ⟨fs, hfs⟩ := ih first.1
      refine ⟨es ++ fs, ?_⟩
      rw [run_append, hr]; simp [hfs]

theorem serve_lives (ts : List Turn) : ∃ s outputs, serve {} ts = some (s, outputs) ∧ Lifecycle s outputs := by
  obtain ⟨es, hes⟩ := serve_run {} ts
  obtain ⟨⟨s, outputs⟩, hr, hn⟩ := inv_start.run es; exact ⟨s, outputs, hes.trans hr, hn.lifecycle⟩

end Deniald.Notification
