/-
Sessions over one placement file: the store is loaded at each start, remembers placements, evicts the oldest, and writes
its file, which loads to what it holds unless it is dirty. A placement restored lies on its output, and where the window
was if the output is as it was.
-/
import Deniald.Placement.Store
import Deniald.Shell.Commits

namespace Deniald.Placement

open Deniald.Lib
open Deniald.Layout (Rect)
open Deniald.Settings (JsonText)
open Deniald.Shell (valueText)
open Deniald.Topology (trim isWhitespace)
open PersistedPlacement SavedWindowGeometry WindowPlacementStore

/-! ## Identities and places -/

theorem trim_trim (s : List Char) : trim (trim s) = trim s := by
  show (((trim s).dropWhile isWhitespace).rdropWhile isWhitespace) = trim s
  have hr : trim s <+: s.dropWhile isWhitespace := List.rdropWhile_prefix _ _
  have hf : (trim s).dropWhile isWhitespace = trim s := by
    rw [List.dropWhile_eq_self_iff]; intro hl
    have hlt := Nat.lt_of_lt_of_le hl hr.length_le
    rw [List.IsPrefix.getElem hr hl]; exact List.dropWhile_get_zero_not _ s hlt
  rw [hf]; exact List.rdropWhile_idempotent isWhitespace _

theorem WindowIdentity.valid_of_new {b : WindowBackend} {appId : String} {identity : WindowIdentity}
    (h : new b appId = some identity) : identity.valid = true := by
  unfold new at h; dsimp only at h
  split at h
  · cases h
  rename_i hs; cases h
  unfold valid new
  simp only [String.toList_ofList, trim_trim, if_neg hs, decide_true]

theorem fromGlobal_valid {m : Remembrance} {serial : U64} {saved : SavedWindowGeometry}
    (h : fromGlobal m serial = some saved) (hpos : 0 < serial.1) : saved.valid = true ∧ saved.serial = serial := by
  unfold fromGlobal at h; split at h
  · cases h
  rename_i hv; cases h
  rw [Bool.or_eq_true, not_or, Bool.not_eq_true', Bool.not_eq_true', Bool.not_eq_false, Bool.not_eq_false] at hv
  refine ⟨?_, rfl⟩; unfold valid
  rw [hv.1, hv.2, decide_eq_true hpos]; rfl

/-! ## Restoring -/

/-- Within an output, which has at least one pixel. -/
structure Inside (g : Rect) (output : Rectangle) : Prop where
  x : output.x ≤ g.x ∧ g.x + g.w ≤ output.x + max (output.w : Int) 1
  y : output.y ≤ g.y ∧ g.y + g.h ≤ output.y + max (output.h : Int) 1
  w : 1 ≤ g.w
  h : 1 ≤ g.h

theorem restoreAxis_inside (org side : I32) (off extent : Int) : org ≤ (restoreAxis org side off extent).1 ∧
      (restoreAxis org side off extent).1 + (restoreAxis org side off extent).2 ≤ org + max (side : Int) 1 ∧
      1 ≤ (restoreAxis org side off extent).2 := by
  obtain ⟨org, ho⟩ := org
  obtain ⟨side, hs⟩ := side; unfold restoreAxis
  obtain ⟨hpos, hle⟩ := clamp_mem (x := extent) (le_max_right side 1)
  have hr : satSub (max side 1) (clamp extent 1 (max side 1)) = max side 1 - clamp extent 1 (max side 1) :=
    satI32_of_mem (by omega) (by omega)
  have hm : org ≤ satAdd org (max side 1 - clamp extent 1 (max side 1)) ∧
      satAdd org (max side 1 - clamp extent 1 (max side 1)) ≤ org + (max side 1 - clamp extent 1 (max side 1)) := by
    unfold satAdd satI32 clamp
    split_ifs <;> omega
  obtain ⟨hlo, hhi⟩ := clamp_mem (x := satAdd org off) hm.1
  simp only [hr]; omega

theorem restoreAxis_exact {origin side start extent : I32} (he : 1 ≤ extent.1) (hlo : origin.1 ≤ start)
    (hhi : start + extent.1 ≤ origin + side) :
    restoreAxis origin side (satSub start origin) extent = (start.1, extent.1) := by
  have hd := side.2
  have hst := start.2
  have hs : clamp extent.1 1 side = extent := by
    unfold clamp; rw [if_neg (by omega), if_neg (by omega)]
  have ho : satSub start origin = start - origin := satI32_of_mem (by omega) (by omega)
  have hn : satAdd origin (start - origin) = start :=
    (satI32_of_mem (by omega) (by omega)).trans (by omega)
  have hr : satSub side extent = side - extent := satI32_of_mem (by omega) (by omega)
  have hm : start ≤ satAdd origin (side - extent) := by
    unfold satAdd satI32 clamp
    split_ifs <;> omega
  unfold restoreAxis; rw [max_eq_left (by omega)]
  simp only [hs, ho, hn, hr]; unfold clamp
  rw [if_neg (by omega), if_neg (by omega)]

namespace SavedWindowGeometry

theorem restore_inside (saved : SavedWindowGeometry) (output : Rectangle) : Inside (saved.restore output) output := by
  obtain ⟨hx, hr, hw⟩ := restoreAxis_inside output.x output.w saved.x saved.width
  obtain ⟨hy, hbo, hh⟩ := restoreAxis_inside output.y output.h saved.y saved.height
  exact ⟨⟨hx, hr⟩, ⟨hy, hbo⟩, hw, hh⟩

theorem restore_exact {m : Remembrance} {ser : U64} {saved : SavedWindowGeometry}
    (h : fromGlobal m ser = some saved) (hf : Inside m.geometry.rect m.outputGeometry)
    (hs : 1 ≤ m.outputGeometry.w.1 ∧ 1 ≤ m.outputGeometry.h.1) :
    saved.output = m.output ∧ saved.restore m.outputGeometry = m.geometry.rect ∧ saved.state = m.state := by
  unfold fromGlobal at h; split at h
  · cases h
  cases h
  have hx := hf.x
  have hy := hf.y; rw [max_eq_left hs.1] at hx
  rw [max_eq_left hs.2] at hy
  refine ⟨rfl, ?_, rfl⟩; unfold restore
  simp only [restoreAxis_exact hf.w hx.1 hx.2, restoreAxis_exact hf.h hy.1 hy.2]; rfl

end SavedWindowGeometry

/-! ## The store -/

namespace WindowPlacementStore

theorem evictOldest_cases (placements : AList fun _ : WindowIdentity => SavedWindowGeometry) :
    placements.entries.length ≤ maxPlacements ∧ evictOldest placements = placements ∨
      maxPlacements < placements.entries.length ∧ ∃ oldest ∈ placements.entries,
        evictOldest placements = placements.erase oldest.1 ∧ ∀ e ∈ placements.entries, age oldest ≤ age e := by
  unfold evictOldest; split
  · rename_i hf
    refine .inr ⟨hf, ?_⟩
    cases ho : placements.entries.argmin age with
    | none =>
      rw [List.argmin_eq_none.1 ho] at hf; exact absurd hf (Nat.not_lt_zero _)
    | some oldest =>
      exact ⟨oldest, List.argmin_mem ho, rfl, fun e he => List.le_of_mem_argmin he ho⟩
  · rename_i hr; exact .inl ⟨Nat.le_of_not_lt hr, rfl⟩

theorem lookup_of_evictOldest {placements : AList fun _ : WindowIdentity => SavedWindowGeometry} {k : WindowIdentity}
    {v : SavedWindowGeometry} (h : (evictOldest placements).lookup k = some v) : placements.lookup k = some v := by
  rcases evictOldest_cases placements with ⟨-, hk⟩ | ⟨-, oldest, -, he, -⟩
  · exact hk ▸ h
  rw [he, lookup_erase_eq] at h; split at h
  · cases h
  · exact h

theorem serial_le_of_age {a b : Σ _ : WindowIdentity, SavedWindowGeometry} (h : age a ≤ age b) :
    a.2.serial ≤ b.2.serial := by
  rcases Prod.Lex.le_iff.1 h with hlt | ⟨heq, -⟩
  · exact Nat.le_of_lt hlt
  · exact Nat.le_of_eq heq

structure Topped (placements : AList fun _ : WindowIdentity => SavedWindowGeometry) (nextSerial : U64) : Prop where
  valid : ∀ identity saved, placements.lookup identity = some saved → identity.valid = true ∧ saved.valid = true
  serial : ∀ identity saved, placements.lookup identity = some saved → saved.serial ≤ nextSerial
  last : nextSerial.1 = 0 ∨ ∃ identity saved, placements.lookup identity = some saved ∧ saved.serial = nextSerial

theorem topped_empty : Topped ∅ ⟨0, by decide⟩ := ⟨fun _ _ h => (by cases h), fun _ _ h => (by cases h), .inl rfl⟩

/-- What a store holds, however it came to it. -/
structure Sound (s : WindowPlacementStore) : Prop extends Topped s.placements s.nextSerial where
  bounded : s.placements.entries.length ≤ maxPlacements

theorem fresh (s : WindowPlacementStore) : 0 < s.freshSerial.1 ∧ s.nextSerial ≤ s.freshSerial := by
  have := s.nextSerial.2
  show 0 < max (min (s.nextSerial.1 + 1) (2 ^ 64 - 1)) 1 ∧ s.nextSerial.1 ≤ max (min (s.nextSerial.1 + 1) (2 ^ 64 - 1)) 1
  omega

variable {identity : WindowIdentity} {saved : SavedWindowGeometry}

theorem insert_evicts {s : WindowPlacementStore} (h : s.Sound) (hr : saved.serial = s.freshSerial)
    {oldest : Σ _ : WindowIdentity, SavedWindowGeometry}
    (ho : ∀ e ∈ (s.placements.insert identity saved).entries, age oldest ≤ age e) (hs : oldest.1 = identity)
    (hmem : oldest ∈ (s.placements.insert identity saved).entries) {e : Σ _ : WindowIdentity, SavedWindowGeometry}
    (he : e ∈ (s.placements.insert identity saved).entries) (hne : e.1 ≠ identity) :
    e.2.serial = s.freshSerial ∧ s.freshSerial.1 = 2 ^ 64 - 1 := by
  have hk := AList.mem_lookup_iff.2 hmem; rw [hs, AList.lookup_insert] at hk
  have hle := serial_le_of_age (ho e he); rw [← Option.some.inj hk, hr] at hle
  have hk := AList.mem_lookup_iff.2 he; rw [AList.lookup_insert_ne hne] at hk
  have hn := h.serial e.1 e.2 hk
  refine ⟨le_antisymm (hn.trans s.fresh.2) hle, ?_⟩
  have hla : s.freshSerial.1 ≤ s.nextSerial.1 := hle.trans hn
  have hf : s.freshSerial.1 = max (min (s.nextSerial.1 + 1) (2 ^ 64 - 1)) 1 := rfl
  omega

theorem Sound.insert {s : WindowPlacementStore} (h : s.Sound) (hd : identity.valid = true)
    (hv : saved.valid = true) (hr : saved.serial = s.freshSerial) : (s.insert identity saved).Sound := by
  have hlo : ∀ k v, (s.insert identity saved).placements.lookup k = some v →
      (k.valid = true ∧ v.valid = true) ∧ v.serial ≤ saved.serial := by
    intro k v hk
    have hk := lookup_of_evictOldest hk; rw [lookup_insert_eq] at hk
    split at hk
    · rename_i heq; cases hk; exact ⟨⟨heq ▸ hd, hv⟩, le_rfl⟩
    · exact ⟨h.valid k v hk, hr ▸ (h.serial k v hk).trans s.fresh.2⟩
  have hto (hla) (hn) : (s.insert identity saved).Sound :=
    ⟨⟨fun k v hk => (hlo k v hk).1, fun k v hk => (hlo k v hk).2, .inr hla⟩, hn⟩
  rcases evictOldest_cases (s.placements.insert identity saved) with ⟨hm, hke⟩ | ⟨hf, oldest, hmem, her, ho⟩
  · have hpl : (s.insert identity saved).placements = s.placements.insert identity saved := hke
    rw [hpl] at hto
    exact hto ⟨identity, saved, AList.lookup_insert _, rfl⟩ hm
  have hpl : (s.insert identity saved).placements = (s.placements.insert identity saved).erase oldest.1 := her
  have hlength := (perm_entries_erase (AList.mem_lookup_iff.2 hmem)).length_eq
  have hw : (s.placements.insert identity saved).entries.length ≤ maxPlacements + 1 := by
    rw [AList.entries_insert, List.length_cons]
    exact Nat.succ_le_succ ((List.kerase_sublist _ _).length_le.trans h.bounded)
  rw [List.length_cons] at hlength; rw [hpl] at hto
  refine hto ?_ (by omega)
  by_cases hs : oldest.1 = identity
  · -- The new placement is evicted, and another has its serial.
    obtain ⟨e, he⟩ := List.exists_mem_of_length_pos
      (l := ((s.placements.insert identity saved).erase oldest.1).entries) (by unfold maxPlacements at hf; omega)
    have hk := AList.mem_lookup_iff.2 he
    have hne : e.1 ≠ oldest.1 := fun heq => by rw [lookup_erase_eq, if_pos heq] at hk; cases hk
    have he := AList.mem_lookup_iff.1 (lookup_of_evictOldest (her.symm ▸ hk))
    exact ⟨e.1, e.2, hk, (insert_evicts h hr ho hs hmem he (hs ▸ hne)).1.trans hr.symm⟩
  · exact ⟨identity, saved, by rw [lookup_erase_eq, if_neg (Ne.symm hs), AList.lookup_insert], rfl⟩

/-! ## The file -/

theorem loadRecord_topped {loaded : (AList fun _ : WindowIdentity => SavedWindowGeometry) × U64}
    {record : PersistedPlacement} (h : Topped loaded.1 loaded.2) (hva : record.1.valid = true ∧ record.2.valid = true) :
    Topped (loadRecord loaded record).1 (loadRecord loaded record).2 := by
  unfold loadRecord; split
  · rename_i hs
    obtain ⟨current, hr, hs⟩ := (Option.any_eq_true _ _).1 hs
    rw [max_eq_left ((of_decide_eq_true hs).le.trans (h.serial _ _ hr))]; exact h
  rename_i hs
  refine ⟨fun k v hk => ?_, fun k v hk => ?_, .inr ?_⟩
  · rw [lookup_insert_eq] at hk; split at hk
    · rename_i heq; cases hk; exact ⟨heq ▸ hva.1, hva.2⟩
    · exact h.valid k v hk
  · rw [lookup_insert_eq] at hk; split at hk
    · cases hk; exact le_max_right ..
    · exact (h.serial k v hk).trans (le_max_left ..)
  · rcases le_or_gt loaded.2 record.2.serial with hla | hla
    · exact ⟨record.1, record.2, AList.lookup_insert _, (max_eq_right hla).symm⟩
    rcases h.last with hz | ⟨identity, saved, hv, heq⟩
    · exact absurd (show record.2.serial.1 < loaded.2.1 from hla) (by omega)
    refine ⟨identity, saved, ?_, heq.trans (max_eq_left hla.le).symm⟩; rw [lookup_insert_eq, if_neg, hv]
    rintro rfl
    rw [hv] at hs; exact hs (decide_eq_true (heq ▸ hla))

theorem loadRecords_topped : ∀ {records : List PersistedPlacement}
    (loaded : (AList fun _ : WindowIdentity => SavedWindowGeometry) × U64), Topped loaded.1 loaded.2 →
    (∀ record ∈ records, record.1.valid = true ∧ record.2.valid = true) →
    Topped (records.foldl loadRecord loaded).1 (records.foldl loadRecord loaded).2 ∧
      (records.foldl loadRecord loaded).1.entries.length ≤ loaded.1.entries.length + records.length
  | [], _, h, _ => ⟨h, Nat.le_refl _⟩
  | record :: records, loaded, h, hrec => by
    obtain ⟨hto, hlength⟩ := loadRecords_topped _ (loadRecord_topped h (hrec record List.mem_cons_self))
      fun r hr => hrec r (List.mem_cons_of_mem _ hr)
    refine ⟨hto, hlength.trans ?_⟩
    have hw : (loadRecord loaded record).1.entries.length ≤ loaded.1.entries.length + 1 := by
      unfold loadRecord; split
      · exact Nat.le_succ _
      · rw [AList.entries_insert, List.length_cons]
        exact Nat.succ_le_succ (List.kerase_sublist _ _).length_le
    rw [List.length_cons]; omega

theorem lookup_loadRecords : ∀ {records : List PersistedPlacement}
    {loaded : (AList fun _ : WindowIdentity => SavedWindowGeometry) × U64}, (records.map (·.1)).Nodup →
    (∀ record ∈ records, loaded.1.lookup record.1 = none) → ∀ k v,
    (records.foldl loadRecord loaded).1.lookup k = some v ↔ (k, v) ∈ records ∨ loaded.1.lookup k = some v
  | [], _, _, _, k, v => by simp
  | record :: records, loaded, hn, hf, k, v => by
    rw [List.map_cons, List.nodup_cons] at hn
    have hw := hf record List.mem_cons_self
    have hs : (loadRecord loaded record).1 = loaded.1.insert record.1 record.2 := by
      unfold loadRecord
      rw [hw]; rfl
    rw [List.foldl_cons, lookup_loadRecords hn.2, hs, lookup_insert_eq, List.mem_cons]
    · split
      · rename_i heq; subst heq; rw [hw, Option.some.injEq]
        have hab : (record.1, v) ∉ records := fun hmem => hn.1 (List.mem_map_of_mem (f := (·.1)) hmem)
        simp only [hab, or_false, false_or, Prod.ext_iff, true_and, reduceCtorEq]; exact eq_comm
      · rename_i hne
        simp only [Prod.ext_iff, hne, false_and, false_or]
    · intro r hr
      rw [hs, lookup_insert_eq, if_neg, hf r (List.mem_cons_of_mem _ hr)]
      exact fun heq => hn.1 (heq ▸ List.mem_map_of_mem (f := (·.1)) hr)

theorem nextSerial_le {s s' : WindowPlacementStore} (h : s.Sound) (h' : s'.Sound)
    (hs : ∀ k, s'.placements.lookup k = s.placements.lookup k) : s'.nextSerial ≤ s.nextSerial := by
  rcases h'.last with hz | ⟨identity, saved, hv, heq⟩
  · exact hz.le.trans (Nat.zero_le _)
  · exact heq ▸ h.serial identity saved (hs identity ▸ hv)

theorem asI32_ofI32 (n : I32) : asI32 (ofI32 n) = some n := by
  obtain ⟨n, hn⟩ := n
  simp only [ofI32]; split
  · have hna : (UInt64.ofNat n.toNat).toNat = n.toNat := UInt64.toNat_ofNat_of_lt' (by unfold UInt64.size; omega)
    simp only [asI32, hna, show n.toNat < 2 ^ 31 by omega, dif_pos]
    exact congrArg some (Subtype.ext (Int.toNat_of_nonneg ‹_›))
  · have hne : -2 ^ 31 ≤ n ∧ n < 0 := by omega
    exact dif_pos hne

theorem ofJson_toJson (record : PersistedPlacement) : ofJson record.toJson = some record := by
  obtain ⟨⟨backend, appId⟩, ⟨out, x, y, width, height, ⟨maximized, fullscreen⟩, ser⟩⟩ := record
  have hs : (UInt64.ofNat ser.1).toNat = ser.1 := UInt64.toNat_ofNat_of_lt' ser.2
  have hba : ([WindowBackend.wayland, .x11].find? fun b => b.name = backend.name) = some backend := by
    cases backend <;> decide
  simp only [ofJson, toJson, Json.asObject, JsonMap.get, Option.bind_eq_bind,
    Option.bind_some]
  simp [Json.asString, Json.asBool,
    Json.asU64, fieldOr, hs, asI32_ofI32, hba]

theorem ofFile_sound (path : String) (file : PlacementFile) : (ofFile path file).Sound := by
  unfold ofFile; dsimp only
  generalize (if file.version < 3 then file.placements.map fun record => (record.1, { record.2 with state := {} })
    else file.placements) = records
  generalize hk : ((records.filter fun record => record.1.valid && record.2.valid).insertionSort fun a b =>
    a.2.serial ≤ b.2.serial) = kept
  have hlength : (kept.drop (kept.length - maxPlacements)).length ≤ maxPlacements := by
    rw [List.length_drop]; omega
  have hv : ∀ record ∈ kept.drop (kept.length - maxPlacements), record.1.valid = true ∧ record.2.valid = true := by
    intro record hrec
    have hmem := List.mem_of_mem_drop hrec; rw [← hk] at hmem
    exact Bool.and_eq_true_iff.1 (List.mem_filter.1 ((List.perm_insertionSort _ _).mem_iff.1 hmem)).2
  generalize kept.drop (kept.length - maxPlacements) = newest at hlength hv ⊢
  obtain ⟨hto, hr⟩ := loadRecords_topped (∅, ⟨0, by decide⟩) topped_empty hv
  exact ⟨hto, hr.trans ((Nat.zero_add _).le.trans hlength)⟩

variable {B : Type} {text : JsonText B} {s : WindowPlacementStore}

def Loads (text : JsonText B) (file : Option B) (s : WindowPlacementStore) : Prop :=
  ∃ loaded, load text s.path file true = .ok loaded ∧ loaded.dirty = false ∧ loaded.nextSerial = s.nextSerial ∧
    ∀ identity, loaded.placements.lookup identity = s.placements.lookup identity

theorem load_spec {path : Option String} {file : Option B} {r : Bool} (h : load text path file r = .ok s) :
    s.Sound ∧ (s.dirty = false → Loads text file s) := by
  have hd : s.path = path ∧ s.Sound ∧ load text path file true = .ok s := by
    unfold load at h ⊢; split at h
    · cases h; exact ⟨rfl, ⟨topped_empty, Nat.zero_le _⟩, rfl⟩
    split at h
    · cases h
    rw [if_neg (not_not.2 rfl)]
    refine ⟨?_, ?_, h⟩ <;> split at h
    · cases h; rfl
    · obtain ⟨file, -, rfl⟩ := map_ok.1 h; rfl
    · cases h; exact ⟨topped_empty, Nat.zero_le _⟩
    · obtain ⟨file, -, rfl⟩ := map_ok.1 h; exact ofFile_sound _ file
  exact ⟨hd.2.1, fun hn => ⟨s, hd.1.symm ▸ hd.2.2, hn, rfl, fun _ => rfl⟩⟩

theorem Sound.loads_persisted (h : s.Sound) {io : Except String Unit} {payload : B}
    (hr : s.persist text io = .ok (some payload)) : Loads text (some payload) s := by
  unfold persist at hr; split at hr
  · cases hr
  rename_i hpa; split at hr
  · cases hr
  rename_i hlength
  obtain ⟨-, -, heq⟩ := map_ok.1 hr; cases heq
  obtain ⟨path, hpa⟩ := Option.ne_none_iff_exists'.1 hpa
  generalize hre : ((s.placements.entries.map fun e => (e.1, e.2)).insertionSort fun a b =>
    a.1.rank ≤ b.1.rank : List PersistedPlacement) = records
  have hy : s.payload text = text.encode (PlacementFile.fields ⟨3, records⟩) := by rw [← hre]; rfl
  have hm : records.Perm (s.placements.entries.map fun e => (e.1, e.2)) := hre ▸ List.perm_insertionSort _ _
  have hmem : ∀ k v, (k, v) ∈ records ↔ s.placements.lookup k = some v := by
    intro k v; rw [hm.mem_iff, List.mem_map]
    constructor
    · rintro ⟨e, he, heq⟩
      obtain ⟨rfl, rfl⟩ := Prod.mk.inj heq; exact AList.mem_lookup_iff.2 he
    · exact fun hk => ⟨⟨k, v⟩, AList.mem_lookup_iff.1 hk, rfl⟩
  have hra : PlacementFile.ofJson (.object (PlacementFile.fields ⟨3, records⟩)) = some ⟨3, records⟩ := by
    have hpl : (records.map toJson).mapM ofJson = some records :=
      mapM_map_pure fun record _ => ofJson_toJson record
    simp [PlacementFile.ofJson, PlacementFile.fields, Json.asObject, JsonMap.get, Json.asArray, hpl]
  generalize hso : records.insertionSort (fun a b => a.2.serial ≤ b.2.serial) = sorted
  have hs : sorted.Perm records := hso ▸ List.perm_insertionSort _ _
  have hf : ofFile path ⟨3, records⟩ = ⟨some path, (sorted.foldl loadRecord (∅, ⟨0, by decide⟩)).1,
      (sorted.foldl loadRecord (∅, ⟨0, by decide⟩)).2, false⟩ := by
    have hw : sorted.length ≤ maxPlacements := by
      rw [hs.length_eq, hm.length_eq, List.length_map]; exact h.bounded
    have hke : (records.filter fun record => record.1.valid && record.2.valid) = records :=
      List.filter_eq_self.2 fun record hrec => Bool.and_eq_true_iff.2 (h.valid _ _ ((hmem _ _).1 hrec))
    unfold ofFile
    simp only [show ¬(3 : UInt32) < 3 by decide, if_false, hke, hso, Nat.sub_eq_zero_of_le hw, List.drop_zero]
    rfl
  have hlo : ∀ identity, (ofFile path ⟨3, records⟩).placements.lookup identity = s.placements.lookup identity := by
    intro k
    have hno : (sorted.map (·.1)).Nodup := by
      rw [(hs.trans hm).map _ |>.nodup_iff, List.map_map]; exact s.placements.nodupKeys
    ext v; rw [hf]
    show (sorted.foldl loadRecord (∅, _)).1.lookup k = some v ↔ _
    rw [lookup_loadRecords hno fun _ _ => rfl, hs.mem_iff, hmem]; exact or_iff_left fun h => by cases h
  have hn := ofFile_sound path ⟨3, records⟩
  refine ⟨ofFile path ⟨3, records⟩, ?_, by rw [hf], le_antisymm (nextSerial_le h hn hlo)
    (nextSerial_le hn h fun k => (hlo k).symm), hlo⟩
  have hd : readFile text (s.payload text) = .ok ⟨3, records⟩ := by
    unfold readFile
    rw [if_neg hlength, hy, text.decode_encode, Option.bind_some, hra]; rfl
  rw [hpa]; unfold load
  simp only [not_true, if_false, hd]; rfl

theorem unchanged_fromGlobal {m : Remembrance} {ser : U64} {current : SavedWindowGeometry}
    (h : SavedWindowGeometry.fromGlobal m ser = some saved) (hs : current.unchanged saved = true) :
    SavedWindowGeometry.fromGlobal m current.serial = some current := by
  have hs := of_decide_eq_true hs
  unfold SavedWindowGeometry.fromGlobal at h ⊢; split at h
  · cases h
  rename_i hv; rw [if_neg hv]; cases h
  obtain ⟨out, x, y, width, height, state, ser⟩ := current
  simp only [SavedWindowGeometry.mk.injEq] at hs ⊢
  simp only [hs]

/-- Remembering keeps the store, where the place is refused or the one held; else it is stored, or still to be written,
and the store is clean if writing it succeeds. -/
theorem remember_cases (text : JsonText B) (s : WindowPlacementStore) (io : Except String Unit) (identity : WindowIdentity)
    (m : Remembrance) :
    (∃ result, s.remember text io identity m = (result, s, none) ∧
      ∀ saved, fromGlobal m s.freshSerial = some saved →
        ∃ current, s.placements.lookup identity = some current ∧ current.unchanged saved = true) ∨
    ∃ saved stored, fromGlobal m s.freshSerial = some saved ∧
      (stored = s.insert identity saved ∨
        stored = s ∧ ∃ current, s.placements.lookup identity = some current ∧ current.unchanged saved = true) ∧
      ((∃ error, s.remember text io identity m = (.error error, stored, none) ∧ stored.dirty = true) ∨
        ∃ result written, s.remember text io identity m = (result, { stored with dirty := false }, written) ∧
          stored.persist text io = .ok written) := by
  unfold remember
  cases hv : fromGlobal m s.freshSerial with
  | none => exact .inl ⟨_, rfl, fun _ h => by cases h⟩
  | some saved =>
    dsimp only; split
    · rename_i hn
      refine .inl ⟨_, rfl, fun s' h => ?_⟩; cases h
      exact (Option.any_eq_true _ _).1 (Bool.and_eq_true_iff.1 hn).1
    rename_i hn
    refine .inr ⟨saved, if (s.placements.lookup identity).any (·.unchanged saved) then s else s.insert identity saved, rfl,
      ?_, ?_⟩
    · split
      · exact .inr ⟨rfl, (Option.any_eq_true _ _).1 ‹_›⟩
      · exact .inl rfl
    · cases hr : persist text (if (s.placements.lookup identity).any (·.unchanged saved) then s
        else s.insert identity saved) io with
      | ok written => exact .inr ⟨_, written, rfl, rfl⟩
      | error error =>
        refine .inl ⟨error, rfl, ?_⟩; split
        · rename_i hs
          rw [hs, Bool.true_and, Bool.not_eq_true', Bool.not_eq_false] at hn; exact hn
        · rfl

end WindowPlacementStore

/-! ## Sessions -/

structure PlacementSession (B : Type) where
  file : Option B
  store : WindowPlacementStore
  /-- The store started empty, as its file would not load, and has not written it since. -/
  unloaded : Bool
  /-- What was last remembered since the start. -/
  last : WindowIdentity → Option Remembrance

inductive PlacementEvent where
  | remember (backend : WindowBackend) (appId : String) (m : Remembrance) (io : Except String Unit)
  | restart (readable : Bool)

namespace PlacementSession

variable {B : Type} (text : JsonText B)

def next (s : PlacementSession B) : PlacementEvent → PlacementSession B
  | .remember backend appId m io =>
    match WindowIdentity.new backend appId with
    | none => s
    | some identity =>
      let r := s.store.remember text io identity m
      { file := r.2.2.or s.file
        store := r.2.1
        unloaded := s.unloaded && r.2.2.isNone
        last := if (SavedWindowGeometry.fromGlobal m s.store.freshSerial).isSome then
          Function.update s.last identity (some m) else s.last }
  | .restart readable =>
    match WindowPlacementStore.load text s.store.path s.file readable with
    | .ok store => { s with store, unloaded := false, last := fun _ => none }
    -- `startup` goes on with an empty store.
    | .error _ => { s with store := { path := s.store.path }, unloaded := true, last := fun _ => none }

def start (path : Option String) (file : Option B) (readable : Bool) : PlacementSession B :=
  next text ⟨file, { path }, false, fun _ => none⟩ (.restart readable)

structure Inv (s : PlacementSession B) : Prop where
  sound : s.store.Sound
  synced : s.store.dirty = false → s.store.path ≠ none → s.unloaded = false → WindowPlacementStore.Loads text s.file s.store
  last : ∀ identity saved m, s.store.placements.lookup identity = some saved → s.last identity = some m →
    ∃ serial, SavedWindowGeometry.fromGlobal m serial = some saved

variable {text} {s : PlacementSession B}

theorem inv_restart (s : PlacementSession B) (r : Bool) : (s.next text (.restart r)).Inv text := by
  cases hd : load text s.store.path s.file r with
  | ok store =>
    simp only [next, hd]
    obtain ⟨hso, hs⟩ := load_spec hd
    exact ⟨hso, fun hn _ _ => hs hn, fun _ _ _ _ h => by cases h⟩
  | error =>
    simp only [next, hd]
    exact ⟨⟨topped_empty, Nat.zero_le _⟩, fun _ _ h => (by cases h), fun _ _ _ h => by cases h⟩

theorem Inv.last_remembered (h : s.Inv text) (identity : WindowIdentity) (m : Remembrance) (ser : U64)
    (stored : WindowPlacementStore)
    (ho : ∀ k v, k ≠ identity → stored.placements.lookup k = some v → s.store.placements.lookup k = some v)
    (hw : ∀ saved v, fromGlobal m ser = some saved →
      stored.placements.lookup identity = some v → ∃ ser, fromGlobal m ser = some v)
    (hr : fromGlobal m ser = none → stored = s.store) (k : WindowIdentity)
    (v : SavedWindowGeometry) (m' : Remembrance) (hk : stored.placements.lookup k = some v)
    (hm : (if (fromGlobal m ser).isSome then Function.update s.last identity (some m)
      else s.last) k = some m') : ∃ ser, fromGlobal m' ser = some v := by
  cases hs : fromGlobal m ser with
  | none =>
    rw [hs] at hm; exact h.last k v m' (hr hs ▸ hk) hm
  | some saved =>
    rw [hs, Option.isSome_some, if_pos rfl] at hm
    by_cases heq : k = identity
    · subst heq
      rw [Function.update_self] at hm; exact Option.some.inj hm ▸ hw saved v hs hk
    · rw [Function.update_of_ne heq] at hm; exact h.last k v m' (ho k v heq hk) hm

theorem inv_next (h : s.Inv text) (e : PlacementEvent) : (s.next text e).Inv text := by
  cases e with
  | restart r => exact inv_restart s r
  | remember b appId m io =>
    cases hd : WindowIdentity.new b appId with
    | none =>
      simp only [next, hd]; exact h
    | some identity =>
      simp only [next, hd]
      have hh : ∀ saved v current, fromGlobal m s.store.freshSerial = some saved →
          s.store.placements.lookup identity = some v → s.store.placements.lookup identity = some current →
          current.unchanged saved = true → ∃ ser, fromGlobal m ser = some v := by
        intro saved v current hs hv hcu hu
        obtain rfl := Option.some.inj (hv.symm.trans hcu)
        exact ⟨_, unchanged_fromGlobal hs hu⟩
      rcases remember_cases text s.store io identity m with
        ⟨result, hr, hm⟩ | ⟨saved, stored, hs, hst, hr⟩
      · rw [hr]
        refine ⟨h.sound, fun hcl hpa hun => ?_, ?_⟩
        · exact h.synced hcl hpa ((Bool.and_true _).symm.trans hun)
        · refine h.last_remembered _ _ _ _ (fun _ _ _ hk => hk) (fun saved v hs hv => ?_) fun _ => rfl
          obtain ⟨current, hcu, hu⟩ := hm saved hs
          exact hh saved v current hs hv hcu hu
      · obtain ⟨hva, hse⟩ := fromGlobal_valid hs s.store.fresh.1
        have hn : stored.Sound := by
          rcases hst with rfl | ⟨rfl, -⟩
          · exact h.sound.insert (WindowIdentity.valid_of_new hd) hva hse
          · exact h.sound
        have hla := h.last_remembered identity m s.store.freshSerial stored
          (fun k v hne hk => by
            rcases hst with rfl | ⟨rfl, -⟩
            · exact AList.lookup_insert_ne hne ▸ lookup_of_evictOldest hk
            · exact hk)
          (fun s' v hs' hv => by
            obtain rfl := Option.some.inj (hs.symm.trans hs')
            rcases hst with rfl | ⟨rfl, current, hcu, hu⟩
            · have hv := lookup_of_evictOldest hv
              rw [AList.lookup_insert] at hv; exact ⟨_, Option.some.inj hv ▸ hs⟩
            · exact hh saved v current hs hv hcu hu)
          fun hno => by rw [hs] at hno; cases hno
        rcases hr with ⟨error, hr, hdi⟩ | ⟨result, written, hr, hpe⟩ <;> rw [hr]
        · exact ⟨hn, fun hcl => absurd (hdi.symm.trans hcl) (by decide), hla⟩
        · refine ⟨⟨hn.toTopped, hn.bounded⟩, fun _ hpa _ => ?_, hla⟩
          cases written with
          | none =>
            unfold persist at hpe; rw [if_neg hpa] at hpe
            split at hpe
            · cases hpe
            · obtain ⟨-, -, heq⟩ := map_ok.1 hpe; cases heq
          | some payload => exact hn.loads_persisted hpe

/-- What a session keeps: no more than 256 placements; an eviction takes one of the least serial, and what was just
remembered only where all serials are the greatest there is; what is written loads to what the store holds, and so does
the file of a clean store that did not start over a file that would not load; a placement is restored within its output,
and where the window was if that output is as it was and had the window within it. -/
structure Keeps (text : JsonText B) (s : PlacementSession B) : Prop where
  bounded : s.store.placements.entries.length ≤ maxPlacements
  evicts : ∀ io identity m saved, SavedWindowGeometry.fromGlobal m s.store.freshSerial = some saved →
    (s.store.placements.lookup identity).any (·.unchanged saved) = false →
    ∃ grown left, grown = s.store.placements.insert identity saved ∧
      left = (s.store.remember text io identity m).2.1.placements ∧
      (grown.entries.length ≤ maxPlacements ∧ left = grown ∨
        maxPlacements < grown.entries.length ∧ ∃ oldest ∈ grown.entries, left = grown.erase oldest.1 ∧
          (∀ e ∈ grown.entries, oldest.2.serial ≤ e.2.serial) ∧
          (oldest.1 = identity → ∀ e ∈ grown.entries, e.1 ≠ identity → e.2.serial.1 = 2 ^ 64 - 1))
  reloads : ∀ io payload, s.store.persist text io = .ok (some payload) →
    WindowPlacementStore.Loads text (some payload) s.store
  synced : s.store.dirty = false → s.store.path ≠ none → s.unloaded = false →
    WindowPlacementStore.Loads text s.file s.store
  inside : ∀ identity outputs fallback restored, s.store.restoredPlacement identity outputs fallback = some restored →
    ∃ saved, s.store.placements.lookup identity = some saved ∧
      Inside restored.1 (outputOf saved.output outputs fallback)
  exact : ∀ identity m, s.last identity = some m → Inside m.geometry.rect m.outputGeometry →
    1 ≤ m.outputGeometry.w.1 ∧ 1 ≤ m.outputGeometry.h.1 → ∀ outputs fallback restored,
    s.store.restoredPlacement identity outputs fallback = some restored →
      outputOf m.output outputs fallback = m.outputGeometry → restored = (m.geometry.rect, m.state)

theorem Inv.keeps (h : s.Inv text) : s.Keeps text where
  bounded := h.sound.bounded
  evicts io identity m saved hs hh := by
    refine ⟨_, _, rfl, rfl, ?_⟩
    have hse := (fromGlobal_valid hs s.store.fresh.1).2
    have hle : (s.store.remember text io identity m).2.1.placements = (s.store.insert identity saved).placements := by
      unfold remember
      simp only [hs, hh, Bool.false_and, Bool.false_eq_true, if_false]
      split <;> rfl
    rw [hle]
    rcases evictOldest_cases (s.store.placements.insert identity saved) with
      hro | ⟨hfu, oldest, hmem, her, ho⟩
    · exact .inl hro
    · refine .inr ⟨hfu, oldest, hmem, her, fun e he => serial_le_of_age (ho e he), ?_⟩
      intro hsa e he hne
      obtain ⟨heq, hgr⟩ := insert_evicts h.sound hse ho hsa hmem he hne
      exact (congrArg _ heq).trans hgr
  reloads _ _ hpe := h.sound.loads_persisted hpe
  synced := h.synced
  inside identity outputs fallback restored hr := by
    obtain ⟨saved, hs, heq⟩ := Option.bind_eq_some_iff.1 hr
    cases heq; exact ⟨saved, hs, saved.restore_inside _⟩
  exact identity m hm hfi hd outputs fallback restored hr hsa := by
    obtain ⟨saved, hs, heq⟩ := Option.bind_eq_some_iff.1 hr; cases heq
    obtain ⟨ser, hf⟩ := h.last identity saved m hs hm
    obtain ⟨hou, hex, hst⟩ := restore_exact hf hfi hd
    rw [hou, hsa, hex, hst]

end PlacementSession

def rectangle (x y w h : Fin 4096) : Rectangle :=
  ⟨⟨x, by omega⟩, ⟨y, by omega⟩, ⟨w, by omega⟩, ⟨h, by omega⟩⟩

/-- A window in the corner of an output. -/
def corner : Remembrance := ⟨"HDMI-A-1", rectangle 0 0 1920 1080, rectangle 1820 980 100 100, {}⟩

end Deniald.Placement
