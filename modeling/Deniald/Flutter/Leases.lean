/-
Leases of the textures of closing windows (flutter_runtime.rs, `WindowCloseTextureLeases`). A window that
leaves the published ones keeps its textures under a lease until Flutter acknowledges the close, the lease
expires, or a younger one takes its place at the safety limit. Textures are counted over the live leases,
and each operation hands back the textures of the leases it removed.
-/
import Deniald.Lib.Keyed
import Deniald.Lib.Run
import Deniald.Lib.Time
import Mathlib.Data.List.MinMax

namespace Deniald.Flutter

open Deniald.Lib

/-! ## Model -/

/-- `MAX_RETAINED_WINDOW_CLOSE_LEASES`. -/
def maxRetainedWindowCloseLeases : Nat := 4096

/-- `WINDOW_CLOSE_LEASE_TIMEOUT`: five seconds. -/
def windowCloseLeaseTimeout : Nat := 5000000000

structure WindowCloseTextureLease where
  textureIds : List Int64
  expiresAt : Int

/-- The windows with their textures, as a snapshot publishes them. -/
abbrev WindowTextures := AList fun _ : UInt64 => List Int64

structure RetiredWindowCloseLeases where
  leaseCount : Nat
  textureIds : List Int64

/-- `RetiredWindowCloseLeases::default`. -/
def RetiredWindowCloseLeases.default : RetiredWindowCloseLeases := ⟨0, []⟩

structure WindowCloseTextureLeases where
  publishedWindows : WindowTextures
  closingWindows : AList fun _ : UInt64 => WindowCloseTextureLease
  retainedTextureReferences : AList fun _ : Int64 => Nat

/-- One more reference to a texture. The counts are far from saturating: each is held in memory by an entry of a lease. -/
def reference (references : AList fun _ : Int64 => Nat) (textureId : Int64) : AList fun _ : Int64 => Nat :=
  references.insert textureId ((references.lookup textureId).getD 0 + 1)

def dereference (references : AList fun _ : Int64 => Nat) (textureId : Int64) : AList fun _ : Int64 => Nat :=
  match references.lookup textureId with
  | none => references
  | some count => if count - 1 = 0 then references.erase textureId else references.insert textureId (count - 1)

namespace WindowCloseTextureLeases

/-- `WindowCloseTextureLeases::default`. -/
def default : WindowCloseTextureLeases := ⟨∅, ∅, ∅⟩

def remove (s : WindowCloseTextureLeases) (windowId : UInt64) (textureIds : List Int64) :
    WindowCloseTextureLeases × List Int64 × Bool :=
  match s.closingWindows.lookup windowId with
  | none => (s, textureIds, false)
  | some lease =>
    ({ s with
        closingWindows := s.closingWindows.erase windowId
        retainedTextureReferences := lease.textureIds.foldl dereference s.retainedTextureReferences },
      textureIds ++ lease.textureIds, true)

/-- `min_by_key` over the expiry times: the first of the earliest. -/
def oldestLease (entries : List (Σ _ : UInt64, WindowCloseTextureLease)) :
    Option (Σ _ : UInt64, WindowCloseTextureLease) :=
  @List.argmin _ Int Int.instLinearOrder.toPreorder Int.decLt (fun entry => entry.2.expiresAt) entries

/-- The loop of `publish` that makes room for a lease, `fuel` times at most. -/
def makeRoom (hash : HashOrder (Σ _ : UInt64, WindowCloseTextureLease)) :
    Nat → WindowCloseTextureLeases × RetiredWindowCloseLeases → WindowCloseTextureLeases × RetiredWindowCloseLeases
  | 0, st => st
  | fuel + 1, (s, retired) =>
    if s.closingWindows.entries.length < maxRetainedWindowCloseLeases then (s, retired)
    else
      match oldestLease (hash.order s.closingWindows.entries) with
      | none => (s, retired)
      | some oldest =>
        let (s, textureIds, _) := s.remove oldest.1 retired.textureIds
        makeRoom hash fuel (s, ⟨retired.leaseCount + 1, textureIds⟩)

def removeClosing (st : WindowCloseTextureLeases × RetiredWindowCloseLeases) (windowId : UInt64) :
    WindowCloseTextureLeases × RetiredWindowCloseLeases :=
  if (st.1.closingWindows.lookup windowId).isSome then
    let (s, textureIds, _) := st.1.remove windowId st.2.textureIds
    (s, ⟨st.2.leaseCount + 1, textureIds⟩)
  else st

def insertLease (s : WindowCloseTextureLeases) (windowId : UInt64) (lease : WindowCloseTextureLease) :
    WindowCloseTextureLeases :=
  { s with
    retainedTextureReferences := lease.textureIds.foldl reference s.retainedTextureReferences
    closingWindows := s.closingWindows.insert windowId lease }

/-- One round of the loop of `publish`. -/
def leaseWindow (hash : HashOrder (Σ _ : UInt64, WindowCloseTextureLease)) (now : Int)
    (st : WindowCloseTextureLeases × RetiredWindowCloseLeases) (window : Σ _ : UInt64, List Int64) :
    WindowCloseTextureLeases × RetiredWindowCloseLeases :=
  if window.2.isEmpty then st
  else
    let st := removeClosing st window.1
    -- every round but the last removes a lease, so there are rounds enough
    let (s, retired) := makeRoom hash st.1.closingWindows.entries.length st
    (s.insertLease window.1 ⟨window.2, (checkedAdd now windowCloseLeaseTimeout).getD now⟩, retired)

def publish (s : WindowCloseTextureLeases) (hash : HashOrder (Σ _ : UInt64, WindowCloseTextureLease))
    (nextWindows : WindowTextures) (now : Int) : WindowCloseTextureLeases × RetiredWindowCloseLeases :=
  let removedWindows := s.publishedWindows.entries.filter fun window => (nextWindows.lookup window.1).isNone
  removedWindows.foldl (leaseWindow hash now) ({ s with publishedWindows := nextWindows }, .default)

def complete (s : WindowCloseTextureLeases) (windowId : UInt64) : WindowCloseTextureLeases × RetiredWindowCloseLeases :=
  let (s, textureIds, removed) := s.remove windowId []
  (s, ⟨if removed then 1 else 0, textureIds⟩)

/-- One round of the loop of `expire`. -/
def expireWindow (st : WindowCloseTextureLeases × RetiredWindowCloseLeases) (windowId : UInt64) :
    WindowCloseTextureLeases × RetiredWindowCloseLeases :=
  let (s, textureIds, removed) := st.1.remove windowId st.2.textureIds
  (s, ⟨if removed then st.2.leaseCount + 1 else st.2.leaseCount, textureIds⟩)

def expire (s : WindowCloseTextureLeases) (hash : HashOrder (Σ _ : UInt64, WindowCloseTextureLease)) (now : Int) :
    WindowCloseTextureLeases × RetiredWindowCloseLeases :=
  let expiredWindowIds := (hash.order s.closingWindows.entries).filterMap fun entry =>
    if entry.2.expiresAt ≤ now then some entry.1 else none
  expiredWindowIds.foldl expireWindow (s, .default)

def retainsTexture (s : WindowCloseTextureLeases) (textureId : Int64) : Bool :=
  (s.retainedTextureReferences.lookup textureId).isSome

/-! ## Runs -/

def leases (s : WindowCloseTextureLeases) : List WindowCloseTextureLease :=
  s.closingWindows.entries.map fun entry => entry.2

/-- The textures they hold, with repeats. -/
def held (s : WindowCloseTextureLeases) : List Int64 := s.leases.flatMap (·.textureIds)

end WindowCloseTextureLeases

/-- An operation, with the order in which it meets the entries of the leases' map. -/
inductive LeaseEvent where
  | publish (hash : HashOrder (Σ _ : UInt64, WindowCloseTextureLease)) (nextWindows : WindowTextures) (now : Int)
  | complete (windowId : UInt64)
  | expire (hash : HashOrder (Σ _ : UInt64, WindowCloseTextureLease)) (now : Int)

namespace WindowCloseTextureLeases

def apply (s : WindowCloseTextureLeases) : LeaseEvent → WindowCloseTextureLeases × RetiredWindowCloseLeases
  | .publish hash nextWindows now => s.publish hash nextWindows now
  | .complete windowId => s.complete windowId
  | .expire hash now => s.expire hash now

def next (s : WindowCloseTextureLeases) (e : LeaseEvent) : WindowCloseTextureLeases := (s.apply e).1

end WindowCloseTextureLeases

/-! ## Counting textures -/

/-- References to textures are counted when each texture has its number of occurrences, and none an entry of zero. -/
def Counts (references : AList fun _ : Int64 => Nat) (textures : List Int64) : Prop :=
  ∀ textureId, references.lookup textureId =
    if textures.count textureId = 0 then none else some (textures.count textureId)

variable {references : AList fun _ : Int64 => Nat} {textures : List Int64}

theorem Counts.perm {textures' : List Int64} (h : Counts references textures) (hr : textures.Perm textures') :
    Counts references textures' := by
  intro tex; rw [h tex, hr.count_eq]

theorem counts_reference (h : Counts references textures) (tex : Int64) :
    Counts (reference references tex) (tex :: textures) := by
  intro other; unfold reference
  rw [lookup_insert_eq, List.count_cons]
  by_cases ho : other = tex
  · subst ho; rw [if_pos rfl, h other]
    split <;> simp_all
  · have hne : (tex == other) = false := by simpa using Ne.symm ho
    rw [if_neg ho, h other, hne]; rfl

theorem counts_dereference {tex : Int64} (h : Counts references (tex :: textures)) :
    Counts (dereference references tex) textures := by
  have hs : references.lookup tex = some (textures.count tex + 1) := by
    rw [h tex, List.count_cons_self]; exact if_neg (Nat.succ_ne_zero _)
  intro other
  have ho := h other; rw [List.count_cons] at ho
  unfold dereference; rw [hs]
  by_cases heq : other = tex
  · subst heq
    by_cases hz : textures.count other = 0 <;> simp [hz]
  have hne : (tex == other) = false := by simpa using Ne.symm heq
  rw [hne] at ho
  by_cases hz : textures.count tex = 0
  · simp only [hz, Nat.zero_add, Nat.sub_self, if_true]; rw [lookup_erase_eq, if_neg heq]
    simpa using ho
  simp only [Nat.add_sub_cancel, hz, if_false]; rw [lookup_insert_eq, if_neg heq]
  simpa using ho

theorem counts_foldl_reference : ∀ {references : AList fun _ : Int64 => Nat} {textures : List Int64}
    (a : List Int64),
    Counts references textures → Counts (a.foldl reference references) (a ++ textures)
  | _, _, [], h => h
  | references, textures, textureId :: a, h => by
    have := counts_foldl_reference a (counts_reference h textureId)
    exact this.perm List.perm_middle

theorem counts_foldl_dereference : ∀ {references : AList fun _ : Int64 => Nat} {textures : List Int64}
    (r : List Int64),
    Counts references (r ++ textures) → Counts (r.foldl dereference references) textures
  | _, _, [], h => h
  | _, _, _ :: r, h => counts_foldl_dereference r (counts_dereference h)

/-! ## What an operation removes and adds -/

namespace WindowCloseTextureLeases

/-- From one state and its retired list to a later one: the leases there were and those added are those removed
and those there are; the removed ones are counted and their textures listed; and the references stay counted. -/
structure Retires (st st' : WindowCloseTextureLeases × RetiredWindowCloseLeases) : Prop where
  counts : Counts st.1.retainedTextureReferences st.1.held → Counts st'.1.retainedTextureReferences st'.1.held
  moved : ∃ removed added : List WindowCloseTextureLease,
    (st.1.leases ++ added).Perm (removed ++ st'.1.leases) ∧
      st'.2.leaseCount = st.2.leaseCount + removed.length ∧
      st'.2.textureIds = st.2.textureIds ++ removed.flatMap (·.textureIds)

variable {s : WindowCloseTextureLeases} {retired : RetiredWindowCloseLeases}

theorem Retires.refl (st : WindowCloseTextureLeases × RetiredWindowCloseLeases) : Retires st st :=
  ⟨id, [], [], by simp, rfl, by simp⟩

variable {st : WindowCloseTextureLeases × RetiredWindowCloseLeases} {windowId : UInt64}

theorem Retires.trans {st' st'' : WindowCloseTextureLeases × RetiredWindowCloseLeases} (h : Retires st st')
    (h' : Retires st' st'') : Retires st st'' := by
  obtain ⟨removed, added, hr, hn, hte⟩ := h.moved
  obtain ⟨r', added', hp', hc', ht'⟩ := h'.moved
  refine ⟨h'.counts ∘ h.counts, removed ++ r', added ++ added', ?_, ?_, ?_⟩
  · calc st.1.leases ++ (added ++ added')
      _ = (st.1.leases ++ added) ++ added' := (List.append_assoc ..).symm
      _ |>.Perm ((removed ++ st'.1.leases) ++ added') := hr.append_right _
      _ |>.Perm (removed ++ (r' ++ st''.1.leases)) := by
        rw [List.append_assoc]; exact hp'.append_left _
      _ = (removed ++ r') ++ st''.1.leases := (List.append_assoc ..).symm
  · rw [hc', hn, List.length_append, Nat.add_assoc]
  · rw [ht', hte, List.flatMap_append, List.append_assoc]

theorem remove_none (h : s.closingWindows.lookup windowId = none) (textureIds : List Int64) :
    s.remove windowId textureIds = (s, textureIds, false) := by
  unfold remove; rw [h]

variable {lease : WindowCloseTextureLease}

theorem remove_some (h : s.closingWindows.lookup windowId = some lease) (texs : List Int64) :
    s.remove windowId texs =
      ({ s with
          closingWindows := s.closingWindows.erase windowId
          retainedTextureReferences := lease.textureIds.foldl dereference s.retainedTextureReferences },
        texs ++ lease.textureIds, true) := by
  unfold remove; rw [h]

theorem leases_erase (h : s.closingWindows.lookup windowId = some lease) :
    s.leases.Perm (lease :: (s.closingWindows.erase windowId).entries.map fun ent => ent.2) :=
  (perm_entries_erase h).map _

theorem retires_remove (h : s.closingWindows.lookup windowId = some lease) : Retires (s, retired)
      ((s.remove windowId retired.textureIds).1,
        ⟨retired.leaseCount + 1, (s.remove windowId retired.textureIds).2.1⟩) := by
  have hr := leases_erase h; rw [remove_some h]
  refine ⟨fun hn => ?_, [lease], [], ?_, rfl, ?_⟩
  · exact counts_foldl_dereference _ (hn.perm (hr.flatMap_right _))
  · rw [List.append_nil]; exact hr
  · simp

/-! ## Making room -/

variable {hash : HashOrder (Σ _ : UInt64, WindowCloseTextureLease)}

theorem lookup_oldest {oldest : Σ _ : UInt64, WindowCloseTextureLease}
    (h : oldestLease (hash.order s.closingWindows.entries) = some oldest) :
    s.closingWindows.lookup oldest.1 = some oldest.2 := by
  refine AList.mem_lookup_iff.2 ?_; exact (hash.perm _).subset (List.argmin_mem h)

theorem length_remove (h : s.closingWindows.lookup windowId = some lease) (texs : List Int64) :
    (s.remove windowId texs).1.closingWindows.entries.length + 1 = s.closingWindows.entries.length := by
  rw [remove_some h, (perm_entries_erase h).length_eq, List.length_cons]

theorem lookup_remove_none {other : UInt64} (h : s.closingWindows.lookup other = none) (texs : List Int64) :
    (s.remove windowId texs).1.closingWindows.lookup other = none := by
  unfold remove; split
  · exact h
  · show (s.closingWindows.erase windowId).lookup other = none; rw [lookup_erase_eq, h, ite_self]

theorem retires_makeRoom : ∀ (fuel : Nat) (s : WindowCloseTextureLeases) (retired : RetiredWindowCloseLeases),
    Retires (s, retired) (makeRoom hash fuel (s, retired))
  | 0, _, _ => .refl _
  | fuel + 1, s, retired => by
    unfold makeRoom; split
    · exact .refl _
    split
    · exact .refl _
    · rename_i oldest ho
      exact (retires_remove (lookup_oldest ho)).trans (retires_makeRoom fuel _ _)

theorem makeRoom_absent :
    ∀ (fuel : Nat) {s : WindowCloseTextureLeases} {retired : RetiredWindowCloseLeases},
    s.closingWindows.lookup windowId = none → (makeRoom hash fuel (s, retired)).1.closingWindows.lookup windowId = none
  | 0, _, _, h => h
  | fuel + 1, s, retired, h => by
    unfold makeRoom; split
    · exact h
    split
    · exact h
    · exact makeRoom_absent fuel (lookup_remove_none h _)

theorem makeRoom_length : ∀ (fuel : Nat) {s : WindowCloseTextureLeases} {retired : RetiredWindowCloseLeases},
    s.closingWindows.entries.length ≤ fuel →
      (makeRoom hash fuel (s, retired)).1.closingWindows.entries.length < maxRetainedWindowCloseLeases
  | 0, s, retired, h => by
    show s.closingWindows.entries.length < 4096; omega
  | fuel + 1, s, retired, h => by
    unfold makeRoom; split
    · assumption
    rename_i hf; split
    · rename_i hn
      have he : s.closingWindows.entries = [] := by
        have := (hash.perm s.closingWindows.entries).symm
        rw [List.argmin_eq_none.1 hn] at this; exact this.eq_nil
      rw [he] at hf; exact absurd (by decide) hf
    · rename_i oldest ho
      refine makeRoom_length fuel ?_
      show (s.remove oldest.1 retired.textureIds).1.closingWindows.entries.length ≤ fuel
      have := length_remove (lookup_oldest ho) retired.textureIds
      omega

/-! ## Operations -/

theorem retires_insertLease (h : s.closingWindows.lookup windowId = none) (lease : WindowCloseTextureLease) :
    Retires (s, retired) (s.insertLease windowId lease, retired) := by
  have he : (s.closingWindows.insert windowId lease).entries = ⟨windowId, lease⟩ :: s.closingWindows.entries :=
    AList.entries_insert_of_notMem (AList.lookup_eq_none.1 h)
  have hs : (s.insertLease windowId lease).leases = lease :: s.leases := by
    unfold insertLease leases
    rw [he]; rfl
  refine ⟨fun hn => ?_, [], [lease], ?_, rfl, by simp⟩
  · have := counts_foldl_reference lease.textureIds hn
    rw [held, hs]; exact this
  · rw [hs]; exact List.perm_append_comm

theorem length_insertLease (h : s.closingWindows.lookup windowId = none) (lease : WindowCloseTextureLease) :
    (s.insertLease windowId lease).closingWindows.entries.length = s.closingWindows.entries.length + 1 := by
  have he : (s.closingWindows.insert windowId lease).entries = ⟨windowId, lease⟩ :: s.closingWindows.entries :=
    AList.entries_insert_of_notMem (AList.lookup_eq_none.1 h)
  unfold insertLease
  rw [he]; rfl

theorem retires_removeClosing (st : WindowCloseTextureLeases × RetiredWindowCloseLeases) (windowId : UInt64) :
    Retires st (removeClosing st windowId) := by
  unfold removeClosing
  cases h : st.1.closingWindows.lookup windowId with
  | none => exact .refl _
  | some lease => exact retires_remove h

theorem removeClosing_absent (st : WindowCloseTextureLeases × RetiredWindowCloseLeases) (windowId : UInt64) :
    (removeClosing st windowId).1.closingWindows.lookup windowId = none := by
  unfold removeClosing
  cases h : st.1.closingWindows.lookup windowId with
  | none => exact h
  | some lease =>
    show (st.1.remove windowId st.2.textureIds).1.closingWindows.lookup windowId = none
    rw [remove_some h]; exact AList.lookup_erase ..

theorem retires_leaseWindow (now : Int) (st : WindowCloseTextureLeases × RetiredWindowCloseLeases)
    (window : Σ _ : UInt64, List Int64) : Retires st (leaseWindow hash now st window) := by
  unfold leaseWindow; split
  · exact .refl _
  have hm := retires_removeClosing st window.1
  have hr : Retires (removeClosing st window.1)
      (makeRoom hash (removeClosing st window.1).1.closingWindows.entries.length (removeClosing st window.1)) :=
    retires_makeRoom ..
  exact (hm.trans hr).trans (retires_insertLease (makeRoom_absent _ (removeClosing_absent st window.1)) _)

theorem length_leaseWindow (now : Int) (window : Σ _ : UInt64, List Int64)
    (h : st.1.closingWindows.entries.length ≤ maxRetainedWindowCloseLeases) :
    (leaseWindow hash now st window).1.closingWindows.entries.length ≤ maxRetainedWindowCloseLeases := by
  unfold leaseWindow; split
  · exact h
  have hlen : (makeRoom hash _ (removeClosing st window.1)).1.closingWindows.entries.length <
      maxRetainedWindowCloseLeases :=
    makeRoom_length _ (le_refl (removeClosing st window.1).1.closingWindows.entries.length)
  have hs : (makeRoom hash (removeClosing st window.1).1.closingWindows.entries.length
      (removeClosing st window.1)).1.closingWindows.lookup window.1 = none :=
    makeRoom_absent _ (removeClosing_absent st window.1)
  have hn := length_insertLease hs ⟨window.2, (checkedAdd now windowCloseLeaseTimeout).getD now⟩
  exact hn.trans_le hlen

theorem retires_expireWindow (st : WindowCloseTextureLeases × RetiredWindowCloseLeases) (windowId : UInt64) :
    Retires st (expireWindow st windowId) := by
  unfold expireWindow
  cases h : st.1.closingWindows.lookup windowId with
  | none =>
    rw [remove_none h]; exact .refl _
  | some lease =>
    have hr : Retires st (_, ⟨st.2.leaseCount + 1, _⟩) := retires_remove h
    rw [remove_some h] at hr ⊢; exact hr

theorem Retires.of_published {wins : WindowTextures}
    (h : Retires ({ s with publishedWindows := wins }, retired) st) : Retires (s, retired) st :=
  ⟨h.counts, h.moved⟩

theorem retires_apply (s : WindowCloseTextureLeases) (e : LeaseEvent) : Retires (s, .default) (s.apply e) := by
  cases e with
  | publish hash wins now =>
    exact .of_published (exec_rel Retires.refl (fun _ _ _ => Retires.trans) (retires_leaseWindow now) _ _)
  | complete windowId =>
    have := retires_expireWindow (s, .default) windowId
    exact this
  | expire hash now => exact exec_rel Retires.refl (fun _ _ _ => Retires.trans) retires_expireWindow _ _

theorem length_remove_le (s : WindowCloseTextureLeases) (windowId : UInt64) (texs : List Int64) :
    (s.remove windowId texs).1.closingWindows.entries.length ≤ s.closingWindows.entries.length := by
  cases h : s.closingWindows.lookup windowId with
  | none => rw [remove_none h]
  | some lease =>
    have := length_remove h texs
    omega

/-- A state of an operation's loops within the limit. -/
def Bounded (st : WindowCloseTextureLeases × RetiredWindowCloseLeases) : Prop :=
  st.1.closingWindows.entries.length ≤ maxRetainedWindowCloseLeases

theorem length_next {s : WindowCloseTextureLeases} (e : LeaseEvent)
    (h : s.closingWindows.entries.length ≤ maxRetainedWindowCloseLeases) :
    (s.next e).closingWindows.entries.length ≤ maxRetainedWindowCloseLeases := by
  cases e with
  | publish hash wins now =>
    exact exec_invariant (I := Bounded) (fun _ window h => length_leaseWindow now window h) _ h
  | complete windowId => exact (length_remove_le s windowId []).trans h
  | expire hash now =>
    have hr : ∀ st windowId, Bounded st → Bounded (expireWindow st windowId) :=
      fun st windowId h => (length_remove_le st.1 windowId st.2.textureIds).trans h
    exact exec_invariant hr _ h

/-! ## What comes to be held -/

def shownTextures (s : WindowCloseTextureLeases) : List Int64 := s.publishedWindows.entries.flatMap (·.2)

/-- From one state to a later one, of the textures only those of `added` have come to be held, and the published windows
are the same. -/
def HeldWithin (added : List Int64) (s s' : WindowCloseTextureLeases) : Prop :=
  s'.publishedWindows = s.publishedWindows ∧ ∀ textureId ∈ s'.held, textureId ∈ added ∨ textureId ∈ s.held

theorem HeldWithin.refl (a : List Int64) (s : WindowCloseTextureLeases) : HeldWithin a s s :=
  ⟨rfl, fun _ h => .inr h⟩

theorem HeldWithin.trans {a : List Int64} {s s' s'' : WindowCloseTextureLeases} (h : HeldWithin a s s')
    (h' : HeldWithin a s' s'') : HeldWithin a s s'' := by
  refine ⟨h'.1.trans h.1, fun tex hh => ?_⟩
  rcases h'.2 tex hh with hd | hh
  · exact .inl hd
  · exact h.2 tex hh

theorem heldWithin_remove (a : List Int64) (s : WindowCloseTextureLeases) (windowId : UInt64)
    (texs : List Int64) : HeldWithin a s (s.remove windowId texs).1 := by
  cases h : s.closingWindows.lookup windowId with
  | none =>
    rw [remove_none h]; exact .refl a s
  | some lease =>
    rw [remove_some h]
    refine ⟨rfl, fun tex hh => .inr ?_⟩
    obtain ⟨other, ho, hmem⟩ := List.mem_flatMap.1 hh
    exact List.mem_flatMap.2 ⟨other, (leases_erase h).symm.subset (List.mem_cons_of_mem _ ho), hmem⟩

theorem heldWithin_makeRoom (a : List Int64) : ∀ (fuel : Nat) (s : WindowCloseTextureLeases)
    (retired : RetiredWindowCloseLeases), HeldWithin a s (makeRoom hash fuel (s, retired)).1
  | 0, s, _ => .refl a s
  | fuel + 1, s, retired => by
    unfold makeRoom; split
    · exact .refl a s
    split
    · exact .refl a s
    · rename_i oldest _
      exact (heldWithin_remove a s oldest.1 _).trans (heldWithin_makeRoom a fuel _ _)

theorem heldWithin_insertLease {a : List Int64} (s : WindowCloseTextureLeases) (lease : WindowCloseTextureLease)
    (h : s.closingWindows.lookup windowId = none) (hd : ∀ tex ∈ lease.textureIds, tex ∈ a) :
    HeldWithin a s (s.insertLease windowId lease) := by
  have he : (s.closingWindows.insert windowId lease).entries = ⟨windowId, lease⟩ :: s.closingWindows.entries :=
    AList.entries_insert_of_notMem (AList.lookup_eq_none.1 h)
  refine ⟨rfl, fun tex hh => ?_⟩
  unfold held leases insertLease at hh; rw [he] at hh
  rcases List.mem_append.1 hh with hmem | hmem
  · exact .inl (hd tex hmem)
  · exact .inr hmem

theorem heldWithin_leaseWindow (now : Int) {a : List Int64} (st : WindowCloseTextureLeases × RetiredWindowCloseLeases)
    {window : Σ _ : UInt64, List Int64} (hw : ∀ tex ∈ window.2, tex ∈ a) :
    HeldWithin a st.1 (leaseWindow hash now st window).1 := by
  unfold leaseWindow; split
  · exact .refl a _
  have hm : HeldWithin a st.1 (removeClosing st window.1).1 := by
    unfold removeClosing; split
    · exact heldWithin_remove a ..
    · exact .refl a _
  have hr : HeldWithin a st.1 (makeRoom hash (removeClosing st window.1).1.closingWindows.entries.length
      (removeClosing st window.1)).1 := hm.trans (heldWithin_makeRoom a ..)
  exact hr.trans (heldWithin_insertLease _ _ (makeRoom_absent _ (removeClosing_absent st window.1)) hw)

theorem heldWithin_publish (s : WindowCloseTextureLeases) (wins : WindowTextures) (now : Int) :
    (s.publish hash wins now).1.publishedWindows = wins ∧
      ∀ tex ∈ (s.publish hash wins now).1.held, tex ∈ s.shownTextures ∨ tex ∈ s.held := by
  let start : WindowCloseTextureLeases := { s with publishedWindows := wins }
  have hf : HeldWithin s.shownTextures start (s.publish hash wins now).1 := by
    unfold publish
    refine List.foldlRecOn (motive := fun st : WindowCloseTextureLeases × RetiredWindowCloseLeases => HeldWithin s.shownTextures start st.1) _ _ (.refl _ _) ?_
    intro st hst window hw
    refine hst.trans (heldWithin_leaseWindow now st fun tex hmem => ?_)
    exact List.mem_flatMap.2 ⟨window, (List.mem_filter.1 hw).1, hmem⟩
  exact hf

theorem heldWithin_complete (s : WindowCloseTextureLeases) (windowId : UInt64) :
    HeldWithin [] s (s.complete windowId).1 :=
  heldWithin_remove [] s windowId []

theorem heldWithin_expire (s : WindowCloseTextureLeases) (now : Int) : HeldWithin [] s (s.expire hash now).1 := by
  unfold expire
  refine List.foldlRecOn (motive := fun st : WindowCloseTextureLeases × RetiredWindowCloseLeases => HeldWithin [] s st.1) _ _ (.refl _ _) ?_
  exact fun st hst windowId _ => hst.trans (heldWithin_remove [] st.1 windowId _)

/-! ## The account of a run -/

/-- References are counted over the live leases, of which there are not too many. -/
structure Accounted (s : WindowCloseTextureLeases) : Prop where
  counts : Counts s.retainedTextureReferences s.held
  bounded : s.leases.length ≤ maxRetainedWindowCloseLeases

theorem accounted_next {s : WindowCloseTextureLeases} (e : LeaseEvent) (h : s.Accounted) : (s.next e).Accounted := by
  have hlen : ∀ s' : WindowCloseTextureLeases, s'.leases.length = s'.closingWindows.entries.length :=
    fun s' => List.length_map _
  refine ⟨(retires_apply s e).counts h.counts, ?_⟩; rw [hlen]
  exact length_next e (by rw [← hlen]; exact h.bounded)

theorem accounted_default : default.Accounted := by
  refine ⟨fun _ => rfl, ?_⟩; decide

theorem Accounted.retains (h : s.Accounted) (tex : Int64) :
    s.retainsTexture tex = true ↔ ∃ lease ∈ s.leases, tex ∈ lease.textureIds := by
  unfold retainsTexture
  rw [h.counts tex, ← List.mem_flatMap, ← List.count_pos_iff]
  by_cases hz : s.held.count tex = 0
  · rw [if_pos hz]
    exact iff_of_false (by decide) (by rw [show s.leases.flatMap (·.textureIds) = s.held from rfl, hz]; decide)
  · rw [if_neg hz]; exact iff_of_true rfl (Nat.pos_of_ne_zero hz)

end WindowCloseTextureLeases

end Deniald.Flutter
