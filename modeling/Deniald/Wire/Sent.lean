/-
The shell's input layouts, received (denial_wire.dart, wire/decode.rs): numbers, texts and rectangles as the wire has
them, the windows from front to back in the order of both sides, and the layout the compositor makes of what was sent.
-/
import Deniald.Wire.Codec

namespace Deniald.Wire

open Deniald.Lib Deniald.Topology

namespace Codec

/-! ## Numbers -/

variable {n : Int64}

theorem toNat_toUInt64 (h : 0 ≤ n) : (n.toUInt64.toNat : Int) = n.toInt := by
  rw [Int64.toNat_toUInt64_of_le h, Int64.toNatClampNeg]
  exact Int.toNat_of_nonneg (Int64.le_iff_toInt_le.1 h)

theorem toUInt64_inj {m : Int64} (h : m.toUInt64 = n.toUInt64) : m = n := by
  rw [← m.toInt64_toUInt64, h, n.toInt64_toUInt64]

theorem nodup_toUInt64 {ids : List Int64} (h : ids.Nodup) : (ids.map (·.toUInt64)).Nodup :=
  h.map fun _ _ => toUInt64_inj

theorem toUInt64_ne_zero (h : 0 < n) : n.toUInt64 ≠ 0 := by
  intro hz
  have hs := toNat_toUInt64 (Int64.le_of_lt h); rw [hz] at hs
  rw [Int64.lt_iff_toInt_lt, ← hs] at h; exact absurd h (by decide)

theorem toUInt64_lt_iff {m : Int64} (hm : 0 ≤ m) (hn : 0 ≤ n) : m.toUInt64 < n.toUInt64 ↔ m < n := by
  rw [UInt64.lt_iff_toNat_lt, Int64.lt_iff_toInt_lt, ← toNat_toUInt64 hm, ← toNat_toUInt64 hn]
  exact Int.ofNat_lt.symm

/-- A number that the wire's 32 bits hold. -/
def Narrow (n : Int64) : Prop := -2 ^ 31 ≤ n.toInt ∧ n.toInt < 2 ^ 31

theorem toInt_toInt32 (h : Narrow n) : n.toInt32.toInt = n.toInt := by
  rw [Int64.toInt_toInt32]
  exact Int.bmod_eq_of_le (by have := h.1; omega) (by have := h.2; omega)

theorem toInt32_lt_iff {m : Int64} (hm : Narrow m) (hn : Narrow n) : m.toInt32 < n.toInt32 ↔ m < n := by
  rw [Int32.lt_iff_toInt_lt, Int64.lt_iff_toInt_lt, toInt_toInt32 hm, toInt_toInt32 hn]

theorem le_finite_of_not_lt {x : F64} {q : ℚ} (hf : x.isFinite = true) : F64.le x (.finite q) = !F64.lt (.finite q) x := by
  obtain ⟨p, rfl⟩ := F64.finite_of_isFinite hf
  rw [F64.le_finite, F64.lt_finite, ← decide_not, decide_eq_decide, not_lt]

/-! ## Texts -/

theorem replaceUnpaired_of_decode : ∀ {units : List UInt16} {text : List Char}, decodeUtf16 units = some text →
    replaceUnpaired units = text := by
  intro units
  fun_induction replaceUnpaired units with
  | case1 => exact fun h => Option.some.inj h
  | case2 unit hd =>
    intro text h
    rw [decodeUtf16, if_pos hd] at h; cases h
  | case3 unit hd t rest hr ih =>
    intro text h; unfold decodeUtf16 at h
    rw [if_pos hd] at h
    simp only at h
    rw [if_pos hr] at h
    obtain ⟨rest', hs, rfl⟩ := Option.map_eq_some_iff.1 h; rw [ih hs]
  | case4 unit hd t rest hr ih =>
    intro text h; unfold decodeUtf16 at h
    rw [if_pos hd] at h
    simp only at h
    rw [if_neg hr] at h; cases h
  | case5 unit units hd hr ih =>
    intro text h; unfold decodeUtf16 at h
    rw [if_neg hd, if_pos hr] at h; cases h
  | case6 unit units hd hr ih =>
    intro text h; unfold decodeUtf16 at h
    rw [if_neg hd, if_neg hr] at h
    obtain ⟨rest', hs, rfl⟩ := Option.map_eq_some_iff.1 h; rw [ih hs]

theorem utf8Text_encodeUtf16 (text : String) : utf8Text (encodeUtf16 text.toList) = text := by
  unfold utf8Text
  rw [replaceUnpaired_of_decode (decode_encodeUtf16 text.toList), String.ofList_toList]

theorem encodeUtf16_inj {text text' : String} (h : encodeUtf16 text.toList = encodeUtf16 text'.toList) : text = text' := by
  have hd := decode_encodeUtf16 text.toList; rw [h, decode_encodeUtf16] at hd
  exact (String.toList_injective (Option.some.inj hd)).symm

theorem zero_of_containsNul {text : String} (h : Shortcut.containsNul text = true) : 0 ∈ encodeUtf16 text.toList :=
  List.mem_flatMap.2 ⟨_, List.contains_iff_mem.1 h, by decide⟩

/-! ## Rectangles -/

theorem decodeInputRect_of_valid {rounding : Rounding} {r : Rect} (h : validRect rounding r = true) :
    decodeInputRect (rectBuilder rounding r) = .ok (rectBuilder rounding r) := by
  simp only [validRect, Bool.and_eq_true] at h
  obtain ⟨⟨⟨⟨⟨hf, hto⟩, hw⟩, hh⟩, hw₀⟩, hh₀⟩ := h
  unfold decodeInputRect rectBuilder; rw [if_neg]
  simp [hf, hto, hw, hh, le_finite_of_not_lt, hw₀, hh₀]

/-! ## The order of the windows -/

/-- In front of a window, or where it is. -/
def Above (left right : InputWindowRegion) : Prop :=
  right.z < left.z ∨ right.z = left.z ∧ right.targetSurfaceId ≤ left.targetSurfaceId

variable {left right : InputWindowRegion}

theorem compareInputWindows_ne_gt : (compareInputWindows left right != .gt) = true ↔ Above left right := by
  unfold compareInputWindows compareOfLessAndEq Above; rw [bne_iff_ne]
  by_cases hlt : right.z < left.z
  · rw [if_pos hlt]; exact ⟨fun _ => .inl hlt, fun _ h => by cases h⟩
  rw [if_neg hlt]
  by_cases hz : right.z = left.z
  · rw [if_pos hz, Ordering.eq_then]
    simp only [hz, Int64.lt_irrefl, true_and, false_or]
    by_cases hbe : right.targetSurfaceId < left.targetSurfaceId
    · rw [if_pos hbe]
      exact ⟨fun _ => Int64.le_of_lt hbe, fun _ h => by cases h⟩
    rw [if_neg hbe]; split
    · rename_i hs
      exact ⟨fun _ => Int64.le_of_eq hs, fun _ h => by cases h⟩
    · rename_i ho
      exact ⟨fun h => absurd rfl h, fun hle => absurd (Int64.lt_of_le_of_ne hle ho) hbe⟩
  · rw [if_neg hz]
    exact ⟨fun h => absurd rfl h, fun h => absurd h (by simp [hlt, hz])⟩

theorem Above.trans {a b c : InputWindowRegion} (hab : Above a b) (hbc : Above b c) : Above a c := by
  rcases hab with hab | ⟨hab, hle⟩
  · rcases hbc with hbc | ⟨hbc, -⟩
    · exact .inl (Int64.lt_trans hbc hab)
    · exact .inl (hbc ▸ hab)
  rcases hbc with hbc | ⟨hbc, hle'⟩
  · exact .inl (hab ▸ hbc)
  · exact .inr ⟨hbc.trans hab, Int64.le_trans hle' hle⟩

theorem above_total (a b : InputWindowRegion) : Above a b ∨ Above b a := by
  by_cases hz : a.z = b.z
  · exact (Int64.le_total b.targetSurfaceId a.targetSurfaceId).imp (fun hle => .inr ⟨hz.symm, hle⟩) fun hle => .inr ⟨hz, hle⟩
  rcases Int64.le_total a.z b.z with hle | hle
  · exact .inr (.inl (Int64.lt_of_le_of_ne hle hz))
  · exact .inl (.inl (Int64.lt_of_le_of_ne hle (Ne.symm hz)))

theorem pairwise_of_ordered : ∀ {wins : List InputWindowRegion}, inputWindowsAreOrdered wins = true →
    wins.Pairwise Above
  | [], _ => .nil
  | [_], _ => List.pairwise_singleton ..
  | left :: right :: wins, h => by
    obtain ⟨hf, hs⟩ := Bool.and_eq_true_iff.1 h
    have hv := compareInputWindows_ne_gt.1 hf
    have hr := pairwise_of_ordered hs
    refine List.pairwise_cons.2 ⟨fun w hw => ?_, hr⟩
    rcases List.mem_cons.1 hw with rfl | hw
    · exact hv
    · exact hv.trans ((List.pairwise_cons.1 hr).1 w hw)

theorem orderedWindows_perm (windows : List InputWindowRegion) : (orderedWindows windows).Perm windows := by
  unfold orderedWindows; split
  · exact .refl _
  · exact List.mergeSort_perm ..

theorem orderedWindows_pairwise (wins : List InputWindowRegion) : (orderedWindows wins).Pairwise Above := by
  unfold orderedWindows; split
  · exact pairwise_of_ordered ‹_›
  refine (List.pairwise_mergeSort (fun a b c hab hbc => ?_) (fun a b => ?_) wins).imp compareInputWindows_ne_gt.1
  · exact compareInputWindows_ne_gt.2 ((compareInputWindows_ne_gt.1 hab).trans (compareInputWindows_ne_gt.1 hbc))
  · exact Bool.or_eq_true_iff.2 ((above_total a b).imp compareInputWindows_ne_gt.2 compareInputWindows_ne_gt.2)

/-! ## The windows of a layout -/

variable {rounding : Rounding}

/-- A window that the wire has numbers for. -/
structure Sendable (rounding : Rounding) (w : InputWindowRegion) : Prop where
  valid : validWindow rounding w = true
  narrow : Narrow w.z

theorem Sendable.identities {w : InputWindowRegion} (h : Sendable rounding w) :
    0 < w.window.objectId ∧ 0 < w.targetSurfaceId ∧ 0 < w.window.windowId := by
  have hv := h.valid
  simp only [validWindow, Bool.and_eq_true, decide_eq_true_eq] at hv
  exact ⟨hv.1.1.1.1, hv.1.1.1.2, hv.1.1.2⟩

theorem Sendable.rects {w : InputWindowRegion} (h : Sendable rounding w) :
    validRect rounding w.rect = true ∧ validRect rounding w.sourceRect = true := by
  have hv := h.valid
  simp only [validWindow, Bool.and_eq_true] at hv; exact ⟨hv.1.2, hv.2⟩

/-- What the decoder compares windows by. -/
def wireOrder (w : InputWindowRegion) : Int32 × UInt64 := (w.z.toInt32, w.targetSurfaceId.toUInt64)

def received (rounding : Rounding) (w : InputWindowRegion) : Wire.InputWindowRegion :=
  ⟨w.window.objectId.toUInt64, w.targetSurfaceId.toUInt64, w.window.windowId.toUInt64, rectBuilder rounding w.rect,
    rectBuilder rounding w.sourceRect, w.z.toInt32, w.flags⟩

theorem not_below (hf : Sendable rounding left) (hr : Sendable rounding right) (h : Above left right) :
    ((wireOrder left).1 < right.z.toInt32 || ((wireOrder left).1 == right.z.toInt32 &&
      (wireOrder left).2 < right.targetSurfaceId.toUInt64)) = false := by
  have hz := toInt32_lt_iff hf.narrow hr.narrow
  have hid := toUInt64_lt_iff (Int64.le_of_lt hf.identities.2.1) (Int64.le_of_lt hr.identities.2.1)
  simp only [wireOrder, Bool.or_eq_false_iff, Bool.and_eq_false_iff, decide_eq_false_iff_not, hz, hid, beq_eq_false_iff_ne]
  rcases h with h | ⟨hs, hle⟩
  · refine ⟨Int64.lt_asymm h, .inl fun heq => ?_⟩
    have hlt := (toInt32_lt_iff hr.narrow hf.narrow).2 h
    rw [heq] at hlt; exact Int32.lt_irrefl hlt
  · exact ⟨fun hlt => Int64.lt_irrefl (hs ▸ hlt), .inr (Int64.not_lt.2 hle)⟩

theorem decodeInputWindows_sent : ∀ (wins : List InputWindowRegion) (identities : List UInt64)
    (previous : Option InputWindowRegion), (∀ w ∈ wins, Sendable rounding w) →
    (wins.map fun w => w.targetSurfaceId.toUInt64).Nodup →
    (∀ w ∈ wins, w.targetSurfaceId.toUInt64 ∉ identities) → wins.Pairwise Above →
    (∀ left ∈ previous, Sendable rounding left ∧ ∀ w ∈ wins, Above left w) →
    decodeInputWindows identities (previous.map wireOrder) (wins.map (windowTable rounding)) =
      .ok (wins.map (received rounding))
  | [], _, _, _, _, _, _, _ => rfl
  | w :: wins, identities, previous, hs, hn, hf, hr, hpr => by
    obtain ⟨hw, hs⟩ := List.forall_mem_cons.1 hs
    obtain ⟨hne, hf⟩ := List.forall_mem_cons.1 hf
    obtain ⟨hh, hn⟩ := List.nodup_cons.1 hn
    obtain ⟨hv, hr⟩ := List.pairwise_cons.1 hr
    obtain ⟨ho, hsu, hwi⟩ := hw.identities
    obtain ⟨hrec, hso⟩ := hw.rects
    have hre := decodeInputWindows_sent wins (w.targetSurfaceId.toUInt64 :: identities) (some w) hs hn
      (fun other hmem => ?_) hr (fun left hle => ?_)
    · have hz : ¬((windowTable rounding w).objectId == 0 || (windowTable rounding w).surfaceId == 0 ||
          (windowTable rounding w).windowId == 0) = true := by
        simp [windowTable, toUInt64_ne_zero ho, toUInt64_ne_zero hsu, toUInt64_ne_zero hwi]
      have hu : ¬identities.contains (windowTable rounding w).surfaceId = true :=
        fun hmem => hne (List.contains_iff_mem.1 hmem)
      rw [List.map_cons, decodeInputWindows, if_neg hz, if_neg hu, if_neg]
      · refine bind_ok.2 ⟨_, decodeInputRect_of_valid hrec, bind_ok.2 ⟨_, decodeInputRect_of_valid hso, ?_⟩⟩
        exact bind_ok.2 ⟨_, hre, rfl⟩
      -- nothing before the window stands below it
      · cases previous with
        | none => exact Bool.false_ne_true
        | some left =>
          obtain ⟨hle, hfr⟩ := hpr left rfl; rw [Option.map_some, Option.any_some]
          exact Bool.eq_false_iff.1 (not_below hle hw (hfr w (List.mem_cons_self ..)))
    · rw [List.mem_cons, not_or]
      exact ⟨fun heq => hh (List.mem_map.2 ⟨other, hmem, heq⟩), hf other hmem⟩
    · obtain rfl := Option.mem_some.1 hle; exact ⟨hw, hv⟩

theorem decodeVisible_sent : ∀ {ids identities : List UInt64}, (∀ id ∈ ids, id ≠ 0 ∧ id ∉ identities) → ids.Nodup →
    decodeVisible identities ids = .ok ids
  | [], _, _, _ => rfl
  | id :: ids, identities, hd, hn => by
    obtain ⟨⟨hz, hw⟩, hd⟩ := List.forall_mem_cons.1 hd
    obtain ⟨ho, hn⟩ := List.nodup_cons.1 hn
    have hr : decodeVisible (id :: identities) ids = .ok ids := by
      refine decodeVisible_sent (fun other hmem => ⟨(hd other hmem).1, ?_⟩) hn
      rw [List.mem_cons, not_or]
      exact ⟨fun heq => ho (heq ▸ hmem), (hd other hmem).2⟩
    rw [decodeVisible, if_neg (by simp [hz, hw]), hr]; rfl

theorem decodeInputRects_sent : ∀ {rects : List Rect}, rects.all (validRect rounding) = true →
    (rects.map (rectBuilder rounding)).mapM decodeInputRect = .ok (rects.map (rectBuilder rounding))
  | [], _ => rfl
  | r :: rects, h => by
    obtain ⟨hr, hrec⟩ := Bool.and_eq_true_iff.1 h
    rw [List.map_cons, List.mapM_cons, decodeInputRect_of_valid hr]
    exact bind_ok.2 ⟨_, rfl, bind_ok.2 ⟨_, decodeInputRects_sent hrec, rfl⟩⟩

/-! ## Layouts -/

end Codec

/-! Flags as the compositor reads them (wire.rs). -/

def InputWindowRegion.visible (w : InputWindowRegion) : Bool := w.flags &&& 1 ≠ 0

def InputWindowRegion.hitTestEnabled (w : InputWindowRegion) : Bool := w.flags &&& 2 = 0

def InputWindowRegion.geometryLocked (w : InputWindowRegion) : Bool := w.flags &&& 4 ≠ 0

def InputLayoutSnapshot.keyboardCapture (l : InputLayoutSnapshot) : Bool := l.flags &&& 1 ≠ 0

def InputLayoutSnapshot.exclusiveShell (l : InputLayoutSnapshot) : Bool := l.flags &&& 2 ≠ 0

def InputLayoutSnapshot.observesClientPointerPresses (l : InputLayoutSnapshot) : Bool := l.flags &&& 4 ≠ 0

namespace Codec

variable {rounding : Rounding}

/-- A window as the compositor has it, and as the shell does. -/
structure SameWindow (rounding : Rounding) (w : InputWindowRegion) (decoded : Wire.InputWindowRegion) : Prop where
  objectId : (decoded.objectId.toNat : Int) = w.window.objectId.toInt
  surfaceId : (decoded.surfaceId.toNat : Int) = w.targetSurfaceId.toInt
  windowId : (decoded.windowId.toNat : Int) = w.window.windowId.toInt
  rect : decoded.rect = rectBuilder rounding w.rect
  sourceRect : decoded.sourceRect = rectBuilder rounding w.sourceRect
  z : decoded.z.toInt = w.z.toInt
  visible : decoded.visible = w.visible
  hitTest : decoded.hitTestEnabled = w.hitTest
  geometryLocked : decoded.geometryLocked = w.geometryLocked

/-- A layout as the compositor has it, and as the shell does: the windows from front to back. -/
structure SameLayout (rounding : Rounding) (l : InputLayoutSnapshot) (decoded : Wire.InputLayoutSnapshot) : Prop where
  epoch : (decoded.epoch.toNat : Int) = l.epoch.toInt
  keyboardCapture : decoded.keyboardCapture = l.keyboardCapture
  exclusiveShell : decoded.exclusiveShell = l.exclusiveShellMode
  observesPresses : decoded.observesClientPointerPresses = l.observeClientPointerPresses
  shellRegions : decoded.shellRegions = l.shellRegions.map (rectBuilder rounding)
  softwareKeyboardRegions : decoded.softwareKeyboardRegions = l.softwareKeyboardRegions.map (rectBuilder rounding)
  windows : ∃ ordered : List InputWindowRegion, ordered.Perm l.windows ∧ ordered.Pairwise Above ∧
    List.Forall₂ (SameWindow rounding) ordered decoded.windows
  visibleSurfaceIds : decoded.visibleSurfaceIds.map (fun id => (id.toNat : Int)) = l.visibleSurfaceIds.map Int64.toInt

theorem read_bits : ∀ first second third : Bool,
    decide ((bit 1 first ||| bit 2 second ||| bit 4 third) &&& 1 ≠ 0) = first ∧
      decide ((bit 1 first ||| bit 2 second ||| bit 4 third) &&& 2 ≠ 0) = second ∧
      decide ((bit 1 first ||| bit 2 second ||| bit 4 third) &&& 4 ≠ 0) = third := by
  decide

theorem sameWindow_received {w : InputWindowRegion} (h : Sendable rounding w) : SameWindow rounding w (received rounding w) := by
  obtain ⟨ho, hs, hw⟩ := h.identities
  obtain ⟨hv, hd, hlo⟩ := read_bits w.visible (!w.hitTest) w.geometryLocked
  refine ⟨toNat_toUInt64 (Int64.le_of_lt ho), toNat_toUInt64 (Int64.le_of_lt hs),
    toNat_toUInt64 (Int64.le_of_lt hw), rfl, rfl, toInt_toInt32 h.narrow, hv, ?_, hlo⟩
  rw [decide_not] at hd; exact Bool.not_inj hd

def receivedLayout (rounding : Rounding) (l : InputLayoutSnapshot) : Wire.InputLayoutSnapshot where
  epoch := l.epoch.toUInt64
  flags := l.flags
  shellRegions := l.shellRegions.map (rectBuilder rounding)
  softwareKeyboardRegions := l.softwareKeyboardRegions.map (rectBuilder rounding)
  windows := (orderedWindows l.windows).map (received rounding)
  visibleSurfaceIds := l.visibleSurfaceIds.map (·.toUInt64)

/-- A layout whose numbers the wire has, and that names no surface twice. -/
structure Distinct (l : InputLayoutSnapshot) : Prop where
  epoch : 0 ≤ l.epoch
  narrow : ∀ w ∈ l.windows, Narrow w.z
  windows : (l.windows.map (·.targetSurfaceId)).Nodup
  visible : l.visibleSurfaceIds.Nodup

variable {l : InputLayoutSnapshot}

theorem sameLayout_received (hd : Distinct l) (hn : ∀ w ∈ orderedWindows l.windows, Sendable rounding w)
    (hv : ∀ id ∈ l.visibleSurfaceIds, 0 < id) : SameLayout rounding l (receivedLayout rounding l) := by
  obtain ⟨hca, he, ho⟩ :=
    read_bits l.keyboardCapture l.exclusiveShellMode l.observeClientPointerPresses
  refine ⟨toNat_toUInt64 hd.epoch, hca, he, ho, rfl, rfl, ?_, ?_⟩
  · refine ⟨orderedWindows l.windows, orderedWindows_perm _, orderedWindows_pairwise _, ?_⟩
    exact List.forall₂_map_right_iff.2 (List.forall₂_same.2 fun w hw => sameWindow_received (hn w hw))
  · unfold receivedLayout; rw [List.map_map]
    exact List.map_congr_left fun id hid => toNat_toUInt64 (Int64.le_of_lt (hv id hid))

/-! ## Messages -/

variable {F : Type} {builder : Builder F} {buffers : FlatBuffers} {b : WireBridge F} {c c' : DenialWireCodec}
  {message : Message}

theorem handle_encoded {req : Int64} {payload : Payload}
    (h : encodeEnvelope buffers c req payload = (some message, c')) :
    handle builder rounding b message = handlePayload builder rounding b req.toUInt64 payload := by
  unfold encodeEnvelope at h
  obtain ⟨hm, -⟩ := Prod.mk.inj h; split at hm
  · cases hm
  rename_i hs; cases hm; unfold handle
  rw [if_neg (not_or.2 ⟨Nat.not_lt.2 (buffers.header _), hs⟩), if_neg (by simp)]; dsimp only
  rw [if_neg (fun h => h rfl), if_neg (toUInt64_ne_zero c.positive)]

theorem settle_ok {result : Except WireError (WireBridge F)} {b' : WireBridge F} (h : result = .ok b') :
    settle b result = (b', .ok none) := by
  rw [h, settle]

theorem inputLayout_accepted (hd : Distinct l)
    (h : encodeInputLayout buffers rounding c l = (some message, c')) : ∃ decoded,
      handle builder rounding b message = ({ b with pendingInputLayout := some decoded }, .ok none) ∧
        SameLayout rounding l decoded := by
  unfold encodeInputLayout at h; dsimp only at h
  split at h
  · cases h
  rename_i hbo; split at h
  · cases h
  rename_i hs; split at h
  · cases h
  rename_i hy; split at h
  · cases h
  rename_i hv
  simp only [Bool.or_eq_true, not_or, Bool.not_eq_true, Bool.not_eq_true', Bool.not_eq_false] at hbo hs hy hv
  simp only [decide_eq_false_iff_not, List.any_eq_false, decide_eq_true_eq, Int64.not_le] at hbo
  obtain ⟨⟨⟨⟨hh, hk⟩, hwi⟩, hr⟩, hvi⟩ := hbo
  have hse : ∀ w ∈ orderedWindows l.windows, Sendable rounding w := fun w hw =>
    ⟨List.all_eq_true.1 hv w hw, hd.narrow w ((orderedWindows_perm _).mem_iff.1 hw)⟩
  refine ⟨receivedLayout rounding l, ?_, sameLayout_received hd hse hvi⟩
  have hde : decodeInputLayout {
      epoch := l.epoch.toUInt64
      flags := l.flags
      shellRegions := some (l.shellRegions.map (rectBuilder rounding))
      softwareKeyboardRegions := some (l.softwareKeyboardRegions.map (rectBuilder rounding))
      windows := some ((orderedWindows l.windows).map (windowTable rounding))
      visibleSurfaceIds := some (l.visibleSurfaceIds.map (·.toUInt64)) } = .ok (receivedLayout rounding l) := by
    unfold decodeInputLayout; rw [if_neg]
    · refine bind_ok.2 ⟨_, decodeInputRects_sent hs, bind_ok.2 ⟨_, decodeInputRects_sent hy, ?_⟩⟩
      refine bind_ok.2 ⟨_, decodeInputWindows_sent _ [] none hse ?_ (by simp) (orderedWindows_pairwise _) (by simp), ?_⟩
      · have his := nodup_toUInt64 (((orderedWindows_perm l.windows).map (·.targetSurfaceId)).nodup_iff.2 hd.windows)
        rwa [List.map_map] at his
      · refine bind_ok.2 ⟨_, decodeVisible_sent (fun id hid => ⟨?_, List.not_mem_nil⟩) (nodup_toUInt64 hd.visible), rfl⟩
        obtain ⟨n, hn, rfl⟩ := List.mem_map.1 hid; exact toUInt64_ne_zero (hvi n hn)
    · simp [(orderedWindows_perm l.windows).length_eq, hh, hk, hwi, hr]
  rw [handle_encoded h]
  exact settle_ok (bind_ok.2 ⟨_, rfl, bind_ok.2 ⟨_, hde, rfl⟩⟩)

end Codec

end Deniald.Wire
