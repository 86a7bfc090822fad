/-
What the compositor sends is what the shell has (wire.rs, denial_wire.dart): the shell's checks are made again on what the
compositor has checked, with identities read as signed numbers. A list of windows is received as it was sent if and only
if its windows have identities of their own and all identities fit 63 bits; a notification always is.
-/
import Deniald.Wire.Decoder

namespace Deniald.Wire.Decoder

open Deniald.Lib Deniald.Notification
open Deniald.Touch (WindowPlacementChange WindowPlacementPhase)

/-! ## Identities -/

theorem int64_eq (v : UInt64) : int64 v = if v.toNat < 2 ^ 63 then (v.toNat : Int) else v.toNat - 2 ^ 64 := by
  show v.toBitVec.toInt = _; rw [BitVec.toInt_eq_toNat_cond]
  have hv : v.toBitVec.toNat = v.toNat := rfl
  rw [hv]
  split_ifs <;> omega

/-- An identity that is the same number for the shell. -/
def Signed (v : UInt64) : Prop := v.toNat < 2 ^ 63

instance : DecidablePred Signed := fun v => inferInstanceAs (Decidable (v.toNat < 2 ^ 63))

theorem signed_zero : Signed 0 := by decide

variable {v : UInt64} {s : SurfaceLayerDescription} {restoredWindowIds windowIds : List UInt64}
  {w : WindowDescription} {windows : List WindowDescription}

theorem int64_eq_iff : int64 v = v.toNat ↔ Signed v := by
  rw [int64_eq]; unfold Signed
  split_ifs <;> omega

theorem int64_pos (hs : Signed v) (h : v ≠ 0) : 0 < int64 v := by
  rw [int64_eq_iff.2 hs]
  have hz : v.toNat ≠ 0 := fun heq => h (UInt64.toNat_inj.1 heq)
  omega

theorem int64_inj {w : UInt64} (h : int64 v = int64 w) : v = w := by
  have heq : v.toInt64 = w.toInt64 := Int64.toInt_inj.1 h
  exact UInt64.toBitVec_inj.1 (congrArg (·.toBitVec) heq)

theorem int64_mem {ids : List UInt64} : int64 v ∈ ids.map int64 ↔ v ∈ ids := by
  rw [List.mem_map]
  constructor
  · rintro ⟨w, hw, heq⟩; exact int64_inj heq ▸ hw
  · exact fun hv => ⟨v, hv, rfl⟩

theorem nodup_int64 {ids : List UInt64} : (ids.map int64).Nodup ↔ ids.Nodup :=
  List.nodup_map_iff fun _ _ => int64_inj

theorem lt_of_not_le_zero {x : F64} (hf : x.isFinite = true) (h : F64.le x (.finite 0) = false) :
    F64.lt (.finite 0) x = true := by
  obtain ⟨q, rfl⟩ := F64.finite_of_isFinite hf
  simpa using h

/-! ## Texts -/

theorem length_utf16_le (c : Char) : (utf16 c).length ≤ c.utf8Size := by
  unfold utf16
  split_ifs with hs
  · exact Char.utf8Size_pos c
  · have hf : c.utf8Size = 4 := by
      rw [Char.utf8Size_eq_four_iff, UInt32.lt_iff_toNat_lt]; exact Nat.lt_of_succ_le (Nat.not_lt.1 hs)
    rw [hf]; exact (by decide : (2 : Nat) ≤ 4)

theorem units_le (text : String) : units text ≤ text.utf8ByteSize := by
  have hs : ∀ text : List Char, (encodeUtf16 text).length ≤ (String.ofList text).utf8ByteSize := by
    intro text
    induction text with
    | nil => exact Nat.zero_le _
    | cons c text ih =>
      have hn : String.ofList (c :: text) = String.ofList [c] ++ String.ofList text := by
        rw [← String.ofList_append, List.singleton_append]
      have hz : (String.ofList [c]).utf8ByteSize = c.utf8Size := String.utf8ByteSize_singleton
      rw [encodeUtf16_cons, List.length_append, hn, String.utf8ByteSize_append, hz]
      exact Nat.add_le_add (length_utf16_le c) ih
  have hte := hs text.toList
  rwa [String.ofList_toList] at hte

/-! ## What was sent -/

def sentLayer (s : SurfaceLayerDescription) : DenialSurfaceLayer :=
  { s with
    surfaceId := s.surfaceId.toNat
    parentSurfaceId := s.parentSurfaceId.toNat
    popupRootSurfaceId := s.popupRootSurfaceId.toNat
    textureId := s.textureId.toNat
    width := s.width.toNat
    height := s.height.toNat
    transform := s.transform.toNat
    scale120 := s.scale120.toNat
    compositionOrder := s.compositionOrder.toNat }

def sentWindow (restoredWindowIds : List UInt64) (w : WindowDescription) : DenialWindow :=
  { w with
    objectId := w.objectId.toNat
    objectKind := "root_surface"
    surfaceId := w.surfaceId.toNat
    windowId := w.windowId.toNat
    textureId := w.textureId.toNat
    width := w.width.toNat
    height := w.height.toNat
    monitorId := w.monitorId.toInt
    workspaceId := w.workspaceId.toInt
    transform := w.transform.toNat
    scale120 := w.scale120.toNat
    pinned := false
    restoredAcrossFlutterRestart := restoredWindowIds.contains w.windowId
    statusColorArgb := none
    surfaceLayers := w.surfaces.map sentLayer }

/-- The identities of a window fit 63 bits. -/
structure Readable (w : WindowDescription) : Prop where
  objectId : Signed w.objectId
  surfaceId : Signed w.surfaceId
  windowId : Signed w.windowId
  textureId : Signed w.textureId
  layers : ∀ s ∈ w.surfaces, Signed s.surfaceId ∧ Signed s.textureId

theorem denialSurfaceLayer_eq : denialSurfaceLayer s = sentLayer s ↔
      Signed s.surfaceId ∧ Signed s.parentSurfaceId ∧ Signed s.popupRootSurfaceId ∧ Signed s.textureId := by
  simp [denialSurfaceLayer, sentLayer, int64_eq_iff]

def readWindow (restoredWindowIds : List UInt64) (w : WindowDescription) : DenialWindow :=
  denialWindow (restoredWindowIds.map int64) { w with } (w.surfaces.map denialSurfaceLayer)

theorem readWindow_eq : readWindow restoredWindowIds w = sentWindow restoredWindowIds w ↔
      Signed w.objectId ∧ Signed w.surfaceId ∧ Signed w.windowId ∧ Signed w.textureId ∧
        w.surfaces.map denialSurfaceLayer = w.surfaces.map sentLayer := by
  have hr : (∃ id ∈ restoredWindowIds, int64 id = int64 w.windowId) ↔ w.windowId ∈ restoredWindowIds := by
    rw [← List.mem_map]; exact int64_mem
  simp [readWindow, denialWindow, sentWindow, int64_eq_iff, hr]

theorem signed_of_within {surfaces : List SurfaceLayerDescription} {id : UInt64}
    (hr : ∀ s ∈ surfaces, Signed s.surfaceId) (h : Within surfaces id) : Signed id := by
  obtain rfl | ⟨s, hs, rfl⟩ := h
  · exact signed_zero
  · exact hr s hs

theorem map_readWindow_eq (restoredWindowIds : List UInt64)
    (hwi : ∀ w ∈ windows, ∀ s ∈ w.surfaces, Within w.surfaces s.parentSurfaceId ∧
      Within w.surfaces s.popupRootSurfaceId) :
    windows.map (readWindow restoredWindowIds) = windows.map (sentWindow restoredWindowIds) ↔
      ∀ w ∈ windows, Readable w := by
  rw [List.map_inj_left]
  refine forall₂_congr fun w hw => ?_; rw [readWindow_eq, List.map_inj_left]
  constructor
  · rintro ⟨ho, hr, hn, hte, hy⟩
    refine ⟨ho, hr, hn, hte, fun s hs => ?_⟩
    obtain ⟨hid, -, -, hla⟩ := denialSurfaceLayer_eq.1 (hy s hs); exact ⟨hid, hla⟩
  · rintro ⟨ho, hr, hn, hte, hy⟩
    refine ⟨ho, hr, hn, hte, fun s hs => ?_⟩
    obtain ⟨hpa, hpo⟩ := hwi w hw s hs
    have hd : ∀ s ∈ w.surfaces, Signed s.surfaceId := fun s hs => (hy s hs).1
    exact denialSurfaceLayer_eq.2
      ⟨hd s hs, signed_of_within hd hpa, signed_of_within hd hpo, (hy s hs).2⟩

/-! ## Layers -/

theorem validSurfaceLayer_of_valid (hid : s.surfaceId ≠ 0) (hsi : Signed s.surfaceId)
    (h : s.valid windowIds = true) : validSurfaceLayer s = true := by
  simp only [SurfaceLayerDescription.valid, validOpacity, List.all_cons, List.all_nil, Bool.and_eq_true, Bool.and_true,
    Bool.not_eq_true'] at h
  obtain ⟨⟨⟨⟨⟨⟨⟨-, ⟨ho, hz⟩, hon⟩, hf⟩, hwi⟩, hhe⟩, hte⟩, -⟩, -⟩ := h
  obtain ⟨hx, hy, hw, hh, htx, hty, htw, hth⟩ := hf
  have hpos := lt_of_not_le_zero hw hwi
  have hp' := lt_of_not_le_zero hh hhe
  have htt : (!decide (0 < int64 s.textureId) || decide (0 < s.width) && decide (0 < s.height) &&
      F64.lt (.finite 0) s.textureSourceWidth && F64.lt (.finite 0) s.textureSourceHeight) = true := by
    by_cases hn : s.textureId = 0
    · rw [hn]; rfl
    rw [decide_eq_true (UInt64.pos_iff_ne_zero.2 hn), Bool.true_and] at hte
    simp only [Bool.or_eq_false_iff, beq_eq_false_iff_ne] at hte
    obtain ⟨⟨⟨hd, hhi⟩, hs⟩, hs'⟩ := hte
    simp [UInt32.pos_iff_ne_zero.2 hd, UInt32.pos_iff_ne_zero.2 hhi, lt_of_not_le_zero htw hs,
      lt_of_not_le_zero hth hs']
  unfold validSurfaceLayer
  simp only [Bool.and_eq_true]
  exact ⟨⟨⟨⟨⟨⟨⟨⟨⟨⟨⟨⟨⟨⟨decide_eq_true (int64_pos hsi hid), hx⟩, hy⟩, hw⟩, hh⟩, htx⟩, hty⟩, htw⟩, hth⟩, ho⟩, hz⟩, hon⟩,
    hpos⟩, hp'⟩, htt⟩

theorem decodeLayers_some : ∀ {ss : List Int} {last : Int} {layers : List SurfaceLayerTable}
    {decoded : List DenialSurfaceLayer}, decodeLayers ss last layers = some decoded →
      decoded = layers.map denialSurfaceLayer
  | _, _, [], _, h => (Option.some.inj h).symm
  | ss, last, layer :: layers, decoded, h => by
    unfold decodeLayers at h
    split_ifs at h
    obtain ⟨rest, hr, hd⟩ := Option.bind_eq_some_iff.1 h
    rw [List.map_cons, ← decodeLayers_some hr]; exact (Option.some.inj hd).symm

/-- The order of the last layer, as the shell compares it. -/
def lastOrder (previous : Option UInt32) : Int := previous.elim (-1) fun order => order.toNat

theorem decodeLayers_checked {surf : UInt64} :
    ∀ (seen : List UInt64) {surfaces : List SurfaceLayerDescription} {previous : Option UInt32},
      validateSurfaces surf windowIds previous surfaces = .ok () →
      (∀ s ∈ surfaces, s.surfaceId ≠ 0) → (∀ s ∈ surfaces, Signed s.surfaceId) →
      (surfaces.map (·.surfaceId)).Nodup → (∀ s ∈ surfaces, s.surfaceId ∉ seen) →
      decodeLayers (seen.map int64) (lastOrder previous) surfaces = some (surfaces.map denialSurfaceLayer)
  | _, [], _, _, _, _, _, _ => rfl
  | seen, s :: surfaces, previous, h, hd, hsi, hn, hf => by
    unfold validateSurfaces at h
    split_ifs at h with hr hv
    obtain ⟨hid, hd⟩ := List.forall_mem_cons.1 hd
    obtain ⟨hs, hsi⟩ := List.forall_mem_cons.1 hsi
    obtain ⟨hh, hn⟩ := List.nodup_cons.1 hn
    obtain ⟨hw, hf⟩ := List.forall_mem_cons.1 hf
    have hre : decodeLayers ((s.surfaceId :: seen).map int64) (lastOrder (some s.compositionOrder)) surfaces =
        some (surfaces.map denialSurfaceLayer) := by
      refine decodeLayers_checked (s.surfaceId :: seen) h hd hsi hn fun other hmem => ?_
      rw [List.mem_cons, not_or]
      exact ⟨fun heq => hh (List.mem_map.2 ⟨other, hmem, heq⟩), hf other hmem⟩
    have hy : validSurfaceLayer s = true := validSurfaceLayer_of_valid hid hs (by simpa using hv)
    have hu : (seen.map int64).contains (int64 s.surfaceId) = false := by
      rw [Bool.eq_false_iff, Ne, List.contains_iff_mem, int64_mem]; exact hw
    have ho : ¬(s.compositionOrder.toNat : Int) < lastOrder previous := by
      cases previous with
      | none =>
        unfold lastOrder
        rw [Option.elim_none]; omega
      | some o =>
        have hle : ¬s.compositionOrder.toNat < o.toNat := fun hlt => hr (by simpa using UInt32.lt_iff_toNat_lt.2 hlt)
        unfold lastOrder
        rw [Option.elim_some]; omega
    unfold decodeLayers
    rw [if_neg (by rw [hy, hu, decide_eq_false ho]; exact Bool.false_ne_true)]
    exact Option.bind_eq_some_iff.2 ⟨_, hre, rfl⟩

/-! ## Windows -/

theorem finiteWindow_of_valid (h : w.valid = true) : finiteWindow { w with } = true := by
  simp only [WindowDescription.valid, validOpacity, List.all_cons, List.all_nil, Bool.and_eq_true, Bool.and_true,
    Bool.not_eq_true'] at h
  obtain ⟨⟨⟨⟨-, ⟨ho, hz⟩, hon⟩, hf⟩, -⟩, hn⟩ := h
  obtain ⟨hx, hy, hw, hh, htx, hty, htw, hth, hgx, hgy, hgw, hgh, hcx, hcy, hcw, hch⟩ := hf
  have hpos : (w.surfaces.isEmpty || F64.lt (.finite 0) w.contentWidth && F64.lt (.finite 0) w.contentHeight) =
      true := by
    cases he : w.surfaces.isEmpty with
    | true => rfl
    | false =>
      rw [he, Bool.not_false, Bool.true_and, Bool.or_eq_false_iff] at hn
      simp [lt_of_not_le_zero hcw hn.1, lt_of_not_le_zero hch hn.2]
  unfold finiteWindow
  simp only [Bool.and_eq_true]
  exact ⟨⟨⟨⟨⟨⟨⟨⟨⟨⟨⟨⟨⟨⟨⟨⟨⟨⟨⟨hx, hy⟩, hw⟩, hh⟩, htx⟩, hty⟩, htw⟩, hth⟩, hgx⟩, hgy⟩, hgw⟩, hgh⟩, hcx⟩, hcy⟩, hcw⟩, hch⟩, ho⟩,
    hz⟩, hon⟩, hpos⟩

theorem texts_of_valid (h : w.valid = true) :
    units w.title ≤ denialWireMaxStringLength ∧ units w.appId ≤ denialWireMaxStringLength := by
  simp only [WindowDescription.valid, Bool.and_eq_true, decide_eq_true_eq] at h
  obtain ⟨⟨⟨⟨⟨⟨⟨⟨-, hti⟩, hap⟩, -⟩, -⟩, -⟩, -⟩, -⟩, -⟩ := h
  exact ⟨(units_le w.title).trans hti, (units_le w.appId).trans hap⟩

/-- Windows with identities of their own, that fit 63 bits. -/
structure Receivable (windows : List WindowDescription) : Prop where
  windowIds : (windows.map (·.windowId)).Nodup
  readable : ∀ w ∈ windows, Readable w

theorem decodeFrom_some : ∀ {windows : List WindowDescription} {windowIds : List Int}
    {surfaceCount : Nat} {decoded : List DenialWindow},
    decodeFrom (restoredWindowIds.map int64) windowIds surfaceCount (windows.map fun w => { w with }) = some decoded →
      decoded = windows.map (readWindow restoredWindowIds) ∧ (windows.map (·.windowId)).Nodup ∧
        ∀ w ∈ windows, int64 w.windowId ∉ windowIds
  | [], _, _, _, h => ⟨(Option.some.inj h).symm, List.nodup_nil, List.forall_mem_nil _⟩
  | w :: windows, windowIds, surfaceCount, decoded, h => by
    rw [List.map_cons, decodeFrom] at h
    split_ifs at h with hn
    obtain ⟨layers, hy, h⟩ := Option.bind_eq_some_iff.1 h
    obtain ⟨rest, hr, hd⟩ := Option.bind_eq_some_iff.1 h
    obtain ⟨hwi, hno, hf⟩ := decodeFrom_some hr
    have hw : int64 w.windowId ∉ windowIds := by
      intro hmem
      refine hn ?_; simp [hmem]
    refine ⟨?_, ?_, ?_⟩
    · rw [List.map_cons, ← hwi, readWindow, ← decodeLayers_some hy]
      exact (Option.some.inj hd).symm
    · rw [List.map_cons, List.nodup_cons]
      refine ⟨fun hmem => ?_, hno⟩
      obtain ⟨other, ho, heq⟩ := List.mem_map.1 hmem
      exact hf other ho (heq ▸ List.mem_cons_self ..)
    · rw [List.forall_mem_cons]
      exact ⟨hw, fun other ho hmem => hf other ho (List.mem_cons_of_mem _ hmem)⟩

theorem accepted_window {seen : List UInt64} (hr : Readable w) (h : w.valid = true) (hn : w.windowId ∉ seen) :
    ¬(int64 w.objectId ≤ 0 || int64 w.surfaceId ≤ 0 || int64 w.windowId ≤ 0 ||
      (seen.map int64).contains (int64 w.windowId) || w.width == 0 || w.height == 0 ||
      denialWireMaxStringLength < units w.title || denialWireMaxStringLength < units w.appId ||
      !finiteWindow { w with }) = true := by
  obtain ⟨hti, hap⟩ := texts_of_valid h
  have hf := finiteWindow_of_valid h
  have hu : int64 w.windowId ∉ seen.map int64 := fun hmem => hn (int64_mem.1 hmem)
  simp only [WindowDescription.valid, Bool.and_eq_true, bne_iff_ne] at h
  obtain ⟨⟨⟨⟨⟨⟨⟨⟨⟨⟨⟨⟨ho, hs⟩, hw⟩, hd⟩, hh⟩, -⟩, -⟩, -⟩, -⟩, -⟩, -⟩, -⟩, -⟩ := h
  have ho := int64_pos hr.objectId ho
  have hs := int64_pos hr.surfaceId hs
  have hw := int64_pos hr.windowId hw
  simp only [Bool.or_eq_true, decide_eq_true_eq, List.contains_iff_mem, beq_iff_eq, Bool.not_eq_true', hf, not_or,
    Int.not_le, Nat.not_lt, Bool.true_eq_false, not_false_eq_true, and_true]
  exact ⟨⟨⟨⟨⟨⟨⟨ho, hs⟩, hw⟩, hu⟩, hd⟩, hh⟩, hti⟩, hap⟩

theorem decodeFrom_checked (restoredWindowIds : List UInt64) : ∀ (seen : List UInt64) {windows : List WindowDescription}
    {surfaceCount : Nat} {snapshotIds : List UInt64}, validateFrom surfaceCount snapshotIds windows = .ok () →
      snapshotIds.Nodup → Receivable windows → (∀ w ∈ windows, w.windowId ∉ seen) →
      decodeFrom (restoredWindowIds.map int64) (seen.map int64) surfaceCount (windows.map fun w => { w with }) =
        some (windows.map (readWindow restoredWindowIds))
  | _, [], _, _, _, _, _, _ => rfl
  | seen, w :: windows, surfaceCount, snapshotIds, h, hd, hrec, hf => by
    unfold validateFrom at h
    split_ifs at h with hco hv hlo
    obtain ⟨⟨windowIds, inserted⟩, hin, h⟩ := bind_ok.1 h
    obtain ⟨_, hsu, h⟩ := bind_ok.1 h
    obtain ⟨-, hsn, hsi, hn⟩ := insertSurfaceIds_ok hin
    obtain ⟨hw, hr⟩ := List.forall_mem_cons.1 hrec.readable
    obtain ⟨ho, hno⟩ := List.nodup_cons.1 hrec.windowIds
    obtain ⟨hne, hf⟩ := List.forall_mem_cons.1 hf
    have hli : (w.surfaces.map (·.surfaceId)).Nodup := by
      have hal := hn hd; rw [hsn] at hal
      exact List.nodup_reverse.1 (List.nodup_append.1 hal).1
    have hy : decodeLayers [] (-1) w.surfaces = some (w.surfaces.map denialSurfaceLayer) :=
      decodeLayers_checked [] hsu hsi (fun s hs => (hw.layers s hs).1) hli
        (fun _ _ => List.not_mem_nil)
    have hre := decodeFrom_checked restoredWindowIds (w.windowId :: seen) h (hn hd)
      ⟨hno, hr⟩ fun other hmem => by
        rw [List.mem_cons, not_or]
        exact ⟨fun heq => ho (List.mem_map.2 ⟨other, hmem, heq⟩), hf other hmem⟩
    have hv : w.valid = true := by simpa using hv
    rw [List.map_cons, decodeFrom, if_neg (accepted_window hw hv hne), if_neg, if_neg hco]
    · exact Option.bind_eq_some_iff.2 ⟨_, hy, Option.bind_eq_some_iff.2 ⟨_, hre, rfl⟩⟩
    · rintro ⟨hk, he⟩
      refine hlo ⟨hk, he.imp_left fun hte hz => hte ?_⟩
      show int64 w.textureId = 0
      rw [hz]; rfl

/-- The identities of windows that were there before, as the compositor sends them. -/
def restoredOf (windows : List WindowDescription) (restoredWindowIds : List UInt64) : List UInt64 :=
  (windows.map (·.windowId)).filter fun id => restoredWindowIds.contains id

theorem restored_accepted (hac : Accepted windows) (hrec : Receivable windows) (restoredWindowIds : List UInt64) :
    let ids := (restoredOf windows restoredWindowIds).map int64
    ids.length ≤ windows.length ∧ (∀ id ∈ ids, 0 < id) ∧ ids.Nodup ∧
      ∀ id ∈ ids, id ∈ windows.map fun w => int64 w.windowId := by
  intro ids
  have hs : (restoredOf windows restoredWindowIds).Sublist (windows.map (·.windowId)) := List.filter_sublist
  have hn : ∀ id ∈ ids, ∃ w ∈ windows, int64 w.windowId = id := by
    intro id hid
    obtain ⟨v, hv, rfl⟩ := List.mem_map.1 hid
    obtain ⟨w, hw, rfl⟩ := List.mem_map.1 (hs.subset hv); exact ⟨w, hw, rfl⟩
  refine ⟨?_, ?_, nodup_int64.2 (hrec.windowIds.sublist hs), ?_⟩
  · rw [List.length_map]
    simpa using hs.length_le
  · intro id hid
    obtain ⟨w, hw, rfl⟩ := hn id hid
    exact int64_pos (hrec.readable w hw).windowId (hac.identities w hw).2.2
  · intro id hid
    obtain ⟨w, hw, rfl⟩ := hn id hid; exact List.mem_map.2 ⟨w, hw, rfl⟩

/-- A list that the compositor accepts is received as it was sent if and only if the windows have identities of their own
and all identities fit 63 bits. -/
theorem windows_received_iff (h : validateWindows windows = .ok ()) (restoredWindowIds : List UInt64) :
    decodeWindows (createWindowSnapshot windows (restoredOf windows restoredWindowIds)) =
      some (windows.map (sentWindow (restoredOf windows restoredWindowIds))) ↔ Receivable windows := by
  have hac := accepted_of_validate h
  have hm := map_readWindow_eq (restoredOf windows restoredWindowIds) fun w hw s hs =>
    (hac.surfaces w hw s hs).2
  unfold decodeWindows createWindowSnapshot
  simp only [Option.getD_some, List.length_map]
  constructor
  · intro hd
    split_ifs at hd
    · obtain ⟨dec, hf, hd⟩ := Option.bind_eq_some_iff.1 hd
      obtain ⟨heq, hn, -⟩ := decodeFrom_some hf
      rw [← Option.some.inj hd] at hm; exact ⟨hn, hm.1 heq.symm⟩
    · obtain ⟨_, -, hno⟩ := Option.bind_eq_some_iff.1 hd; cases hno
  · intro hrec
    obtain ⟨hlen, hpos, hn, hwi⟩ := restored_accepted hac hrec restoredWindowIds
    unfold validateWindows at h
    split_ifs at h with hco
    have hf := decodeFrom_checked (restoredOf windows restoredWindowIds) [] h
      List.nodup_nil hrec fun _ _ => List.not_mem_nil
    rw [if_neg]
    · refine Option.bind_eq_some_iff.2 ⟨_, hf, ?_⟩; rw [if_pos, hm.2 hrec.readable]
      rw [List.all_eq_true]; intro id hid
      rw [List.contains_iff_mem, List.map_map]; exact hwi id hid
    · rw [List.length_map] at hlen
      simp only [Bool.or_eq_true, decide_eq_true_eq, Bool.not_eq_true', decide_eq_false_iff_not, not_or, not_not,
        List.any_eq_true, not_exists, not_and, Int.not_le, Nat.not_lt]
      exact ⟨⟨⟨Nat.not_lt.1 hco, hlen⟩, hpos⟩, hn⟩

/-! ## Notifications -/

def sentImage (image : NotificationImageData) : DesktopNotificationImageData :=
  { image with
    width := image.width.toNat
    height := image.height.toNat
    rowStride := image.rowStride.toNat
    bitsPerSample := image.bitsPerSample.toNat
    channels := image.channels.toNat }

def sentNotification (n : Notification) : DesktopNotification :=
  { n with
    id := n.id.toNat
    imageData := n.imageData.map sentImage
    x := n.x.toInt
    y := n.y.toInt
    progress := n.progress.toInt
    expireTimeoutMs := n.expireTimeoutMs.toInt }

def sentEvent (event : NotificationEvent) : DesktopNotificationEvent where
  kind := event.kind
  notificationId := event.notificationId.toNat
  closeReason := event.closeReason.toNat
  notification := event.notification.map sentNotification

theorem mul64_eq {a b : Nat} (h : a * b < 2 ^ 63) : mul64 a b = (a * b : Nat) := by
  unfold mul64
  rw [← Int.natCast_mul]; exact Int.bmod_eq_of_le (by omega) (by omega)

theorem decodeImage_of_valid {i : NotificationImageData} (h : validImage i = true) :
    decodeImage i = some (sentImage i) := by
  simp only [validImage, Bool.not_eq_true', Bool.or_eq_false_iff, decide_eq_false_iff_not, beq_eq_false_iff_ne,
    bne_eq_false_iff_eq, Nat.not_lt] at h
  obtain ⟨⟨⟨⟨⟨⟨⟨⟨hd, hh⟩, hw⟩, hhi⟩, hbi⟩, hch⟩, hs⟩, hlen⟩, hy⟩ := h
  have hw : i.width.toNat ≤ 4096 := UInt32.le_iff_toNat_le.1 (UInt32.not_lt.1 hw)
  have hhi : i.height.toNat ≤ 4096 := UInt32.le_iff_toNat_le.1 (UInt32.not_lt.1 hhi)
  have hd : 0 < i.width.toNat := UInt32.lt_iff_toNat_lt.1 (UInt32.pos_iff_ne_zero.2 hd)
  have hh : 0 < i.height.toNat := UInt32.lt_iff_toNat_lt.1 (UInt32.pos_iff_ne_zero.2 hh)
  have hn : (i.channels.toNat : Int) = if i.hasAlpha then 4 else 3 := by
    rw [hch]
    cases i.hasAlpha <;> rfl
  have hf : 3 ≤ i.channels.toNat ∧ i.channels.toNat ≤ 4 := by
    cases hal : i.hasAlpha <;> rw [hal] at hn <;> simp at hn <;> omega
  have hro : i.width.toNat * i.channels.toNat ≤ 4096 * 4 := Nat.mul_le_mul hw hf.2
  have hce : 0 < i.width.toNat * i.channels.toNat := Nat.mul_pos hd (by omega)
  have hwh : saturatingMul32 i.width.toNat i.channels.toNat = i.width.toNat * i.channels.toNat :=
    Nat.min_eq_left (by omega)
  rw [hwh] at hs
  have hpos : 0 < i.rowStride.toNat * i.height.toNat := Nat.mul_pos (by omega) hh
  have hr : mul64 i.rowStride.toNat i.height.toNat = (i.rowStride.toNat * i.height.toNat : Nat) :=
    mul64_eq (hy.trans_lt (by decide))
  have hm : mul64 i.width.toNat i.channels.toNat = (i.width.toNat * i.channels.toNat : Nat) :=
    mul64_eq (by omega)
  have hbi : (i.bitsPerSample.toNat : Int) = 8 := by rw [hbi]; rfl
  unfold decodeImage; dsimp only
  rw [hr, hm, if_neg]
  · rfl
  · simp only [Bool.or_eq_true, decide_eq_true_eq, bne_iff_ne, not_or, not_not, Int.not_le, Int.not_lt]
    exact ⟨⟨⟨⟨⟨⟨⟨⟨⟨Int.natCast_pos.2 hd, Int.natCast_pos.2 hh⟩, Int.ofNat_le.2 hw⟩, Int.ofNat_le.2 hhi⟩, hbi⟩,
      hn⟩, Int.ofNat_le.2 hs⟩, Int.natCast_pos.2 hpos⟩, Int.ofNat_le.2 hy⟩, Int.natCast_inj.2 hlen.symm⟩

theorem decodeNotification_of_valid {n : Notification} (hte : validTexts n = true)
    (hm : ∀ image ∈ n.imageData, validImage image = true) : decodeNotification n = some (sentNotification n) := by
  simp only [validTexts, validText, Bool.and_eq_true, decide_eq_true_eq, List.all_eq_true] at hte
  obtain ⟨⟨hco, hn⟩, hte⟩ := hte
  have hu : ¬((texts n).any (fun text => denialWireMaxStringLength < units text) ||
      denialWireMaxNotificationActions < n.actions.length) = true := by
    simp only [Bool.or_eq_true, List.any_eq_true, decide_eq_true_eq, not_or, not_exists, not_and, Nat.not_lt]
    exact ⟨fun text htx => (units_le text).trans (hte text htx), hco⟩
  have hau : ¬(n.actions.any fun action =>
      denialWireMaxStringLength < units action.key || denialWireMaxStringLength < units action.label) = true := by
    simp only [List.any_eq_true, Bool.or_eq_true, decide_eq_true_eq, not_exists, not_and, not_or, Nat.not_lt]
    intro action hac
    obtain ⟨⟨-, hk⟩, hla⟩ := hn action hac
    exact ⟨(units_le action.key).trans hk, (units_le action.label).trans hla⟩
  unfold decodeNotification; rw [if_neg hu, if_neg hau]
  cases hd : n.imageData with
  | none => simp [desktopNotification, sentNotification, hd]
  | some image =>
    refine Option.bind_eq_some_iff.2 ⟨_, decodeImage_of_valid (hm image hd), ?_⟩
    simp [desktopNotification, sentNotification, hd]

theorem notification_received {ev : NotificationEvent} (h : validateNotificationEvent ev = .ok ()) :
    decodeNotificationEvent ev = some (sentEvent ev) := by
  unfold validateNotificationEvent at h
  unfold decodeNotificationEvent sentEvent; dsimp only
  split at h
  · cases h
  rename_i hz; rw [if_neg]
  · cases hk : ev.kind with
    | closed =>
      rw [hk] at h
      dsimp only at h ⊢
      split_ifs at h with hs
      simp only [not_or, UInt32.not_lt] at hs
      obtain ⟨hno, hw, hh⟩ := hs
      have hw : 1 ≤ ev.closeReason.toNat := UInt32.le_iff_toNat_le.1 hw
      have hh : ev.closeReason.toNat ≤ 4 := UInt32.le_iff_toNat_le.1 hh
      rw [if_neg, Option.not_isSome_iff_eq_none.1 hno, Option.map_none]
      simp only [Bool.or_eq_true, decide_eq_true_eq]; omega
    | added | replaced =>
      rw [hk] at h
      dsimp only at h ⊢
      cases hn : ev.notification with
      | none =>
        rw [hn] at h; cases h
      | some n =>
        rw [hn] at h
        dsimp only at h ⊢
        split_ifs at h with hd hte hm
        obtain ⟨hid, hr⟩ := not_or.1 hd
        rw [not_not] at hid hr; rw [hid, hr, if_neg (not_not.2 rfl)]
        have hv : ∀ image ∈ n.imageData, validImage image = true := by
          intro image hmem
          rw [Option.mem_def.1 hmem, Option.any_some, Bool.not_eq_true', Bool.not_eq_false] at hm
          exact hm
        exact Option.bind_eq_some_iff.2 ⟨_, decodeNotification_of_valid (by simpa using hte) hv, rfl⟩
  · have hpos := UInt32.lt_iff_toNat_lt.1 (UInt32.pos_iff_ne_zero.2 hz)
    rw [UInt32.toNat_zero] at hpos; omega

/-! ## Placements -/

def sentPlacement (rounding : Rounding) (sequence : UInt64) (p : WindowPlacement) : DenialWindowPlacementEvent where
  sequence := sequence.toNat
  windowId := p.windowId.toNat
  contentRect := fromLTWH rounding p.geometry.x.value p.geometry.y.value p.geometry.width.value p.geometry.height.value
  monitorId := p.monitorId.toInt
  workspaceId := p.workspaceId.toInt
  phase := p.phase
  change := p.change

def placementPacket (sequence : UInt64) (p : WindowPlacement) : List UInt8 := layOut (placementFields sequence p)

theorem placementPhases_phaseByte (phase : WindowPlacementPhase) : placementPhases[phaseByte phase]? = some phase := by
  cases phase <;> rfl

theorem placementChanges_changeByte (change : WindowPlacementChange) : placementChanges[changeByte change]? = some change := by
  cases change <;> rfl

section Packet

variable (sequence : UInt64) (p : WindowPlacement)

theorem length_placementPacket : (placementPacket sequence p).length = 80 := by
  rw [placementPacket, length_layOut]; simp [layOutSize, placementFields]

/-- The bytes of the fields. -/
def placementWidths : List Nat := [1, 1, 1, 1, 2, 2, 4, 8, 8, 8, 8, 1, 1, 2, 8, 8, 8, 8]

theorem uint_packet {width n : Nat} (i off : Nat) (hf : (placementFields sequence p)[i]? = some (width, n))
    (ho : (placementWidths.take i).sum = off) (hn : n < 256 ^ width) :
    uint width off (placementPacket sequence p) = n := by
  have hw : (placementFields sequence p).map Prod.fst = placementWidths := rfl
  rw [← ho, ← hw, ← List.map_take]; exact uint_layOut i hf hn

theorem packet_header : ¬(uint 1 0 (placementPacket sequence p) ≠ 0x44 ∨ uint 1 1 (placementPacket sequence p) ≠ 0x45 ∨
      uint 1 2 (placementPacket sequence p) ≠ 0x4e ∨ uint 1 3 (placementPacket sequence p) ≠ 0x50 ∨
      uint 2 4 (placementPacket sequence p) ≠ protocolVersion.toNat ∨ uint 2 6 (placementPacket sequence p) ≠ 2 ∨
      uint 4 8 (placementPacket sequence p) ≠ 80 ∨ uint 2 46 (placementPacket sequence p) ≠ 0) := by
  rw [uint_packet sequence p 0 0 rfl (by decide) (by decide)]
  rw [uint_packet sequence p 1 1 rfl (by decide) (by decide)]
  rw [uint_packet sequence p 2 2 rfl (by decide) (by decide)]
  rw [uint_packet sequence p 3 3 rfl (by decide) (by decide)]
  rw [uint_packet sequence p 4 4 rfl (by decide) (by decide)]
  rw [uint_packet sequence p 5 6 rfl (by decide) (by decide)]
  rw [uint_packet sequence p 6 8 rfl (by decide) (by decide)]
  rw [uint_packet sequence p 13 46 rfl (by decide) (by decide)]; decide

theorem getInt64_packet {v : UInt64} (i off : Nat) (hf : (placementFields sequence p)[i]? = some (8, v.toNat))
    (ho : (placementWidths.take i).sum = off) : getInt64 off (placementPacket sequence p) = int64 v := by
  rw [getInt64, uint_packet sequence p i off hf ho v.toNat_lt, UInt64.ofNat_toNat]

theorem getFloat64_packet {d : Double} (i off : Nat) (hf : (placementFields sequence p)[i]? = some (8, d.bits.toNat))
    (ho : (placementWidths.take i).sum = off) : getFloat64 off (placementPacket sequence p) = d.value := by
  rw [getFloat64, uint_packet sequence p i off hf ho d.bits.toNat_lt, UInt64.ofNat_toNat]

/-- What is read of a packet, apart from the two numbers that the shell may refuse. -/
theorem decodePlacement_packet (r : Rounding) (last : Int) (hh : p.check = .ok ()) :
    decodePlacement r last (placementPacket sequence p) =
      if int64 sequence ≤ last ∨ int64 p.windowId ≤ 0 then none
      else some { sentPlacement r sequence p with sequence := int64 sequence, windowId := int64 p.windowId } := by
  have hs : uint 1 44 (placementPacket sequence p) = phaseByte p.phase :=
    uint_packet sequence p 11 44 rfl (by decide) (by cases p.phase <;> decide)
  have hn : uint 1 45 (placementPacket sequence p) = changeByte p.change :=
    uint_packet sequence p 12 45 rfl (by decide) (by cases p.change <;> decide)
  unfold WindowPlacement.check at hh
  split_ifs at hh with hz ho hm
  have hw : ¬(int64 p.monitorId.toUInt64 < 0 ∨ int64 p.workspaceId.toUInt64 = -1) := by
    rintro (hmo | hr)
    · exact ho (.inl (Int64.lt_iff_toInt_lt.2 hmo))
    · exact ho (.inr (Int64.toInt_inj.1 hr))
  unfold decodePlacement
  rw [if_neg (not_not.2 (length_placementPacket sequence p)), if_neg (packet_header sequence p)]; dsimp only
  rw [getInt64_packet sequence p 7 12 rfl (by decide), getInt64_packet sequence p 8 20 rfl (by decide),
    getInt64_packet sequence p 9 28 rfl (by decide), getInt64_packet sequence p 10 36 rfl (by decide),
    getFloat64_packet sequence p 14 48 rfl (by decide), getFloat64_packet sequence p 15 56 rfl (by decide),
    getFloat64_packet sequence p 16 64 rfl (by decide), getFloat64_packet sequence p 17 72 rfl (by decide), if_neg hm, hs,
    hn, placementPhases_phaseByte, placementChanges_changeByte]
  simp only [eq_false hw, or_false]; rfl

end Packet

/-- A placement that the compositor accepts is received as it was sent, if its number is above the last one, if and only
if its window's identity fits 63 bits. -/
theorem placement_received_iff {sequence : UInt64} {p : WindowPlacement} (r : Rounding) {last : Int}
    (hh : p.check = .ok ()) (hse : Signed sequence) (hla : last < sequence.toNat) :
    decodePlacement r last (placementPacket sequence p) = some (sentPlacement r sequence p) ↔ Signed p.windowId := by
  rw [decodePlacement_packet sequence p r last hh, int64_eq_iff.2 hse]
  constructor
  · intro h
    split_ifs at h
    have hid : int64 p.windowId = p.windowId.toNat := congrArg (·.windowId) (Option.some.inj h)
    exact int64_eq_iff.1 hid
  · intro hs
    have hz : p.windowId ≠ 0 := by
      unfold WindowPlacement.check at hh
      split_ifs at hh with hz
      exact hz
    have hpos := int64_pos hs hz
    rw [if_neg (not_or.2 ⟨Int.not_le.2 hla, Int.not_le.2 hpos⟩), int64_eq_iff.2 hs]; rfl

end Deniald.Wire.Decoder
