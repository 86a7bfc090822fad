/-
What the compositor makes of the shell's messages (denial_wire.dart, wire/decode.rs): a layout, a request and a text
that the codec writes are accepted with the fields that were written, where they are of the kind the compositor takes.
-/
import Deniald.Wire.Sent

namespace Deniald.Wire

open Deniald.Lib Deniald.Topology
open F64

namespace Codec

variable {rounding : Rounding} {F : Type} {builder : Builder F} {buffers : FlatBuffers} {b : WireBridge F}
  {c c' : DenialWireCodec} {message : Message}

/-! ## Texts -/

theorem enqueue_ok {α : Type} {limit : Nat} {pending : List α} {dec : Except WireError α} {cmd : α}
    (hr : pending.length < limit) (h : dec = .ok cmd) : enqueue limit pending dec = .ok (pending ++ [cmd]) := by
  unfold enqueue
  rw [if_neg (Nat.not_le.2 hr), h]; rfl

theorem keyboardText_accepted {text : String} (hte : Text text)
    (hr : b.pendingKeyboardCommands.length < maxPendingKeyboardCommands)
    (h : encodeKeyboardText buffers c (encodeUtf16 text.toList) = (some message, c')) :
    handle builder rounding b message =
      ({ b with pendingKeyboardCommands := b.pendingKeyboardCommands ++ [.text text] }, .ok none) := by
  have hd : decodeKeyboardCommand { kind := .text, text := some text } = .ok (.text text) := by
    have hv : validateRequiredString (some text) = .ok text := by
      unfold validateRequiredString; exact if_pos (by simp [hte.1, hte.2])
    have hflags : ¬((0 : UInt32) &&& ~~~keyboardFlagsMask ≠ 0) := by decide
    unfold decodeKeyboardCommand
    rw [if_neg (by simp), if_neg hflags]; exact bind_ok.2 ⟨_, hv, rfl⟩
  unfold encodeKeyboardText at h; rw [utf8Text_encodeUtf16] at h
  rw [handle_encoded h]
  exact settle_ok (bind_ok.2 ⟨_, rfl, bind_ok.2 ⟨_, enqueue_ok hr hd, rfl⟩⟩)

/-! ## Requests -/

/-- A rounding that keeps the whole numbers that doubles have. -/
structure WholeRounding extends Rounding where
  whole : ∀ n : Int, |n| ≤ 2 ^ 53 → fl n = n

theorem add_bounded (r : WholeRounding) {x width : ℚ} (hx₀ : 0 ≤ x) (hx : x ≤ 16384) (hw₀ : 64 ≤ width)
    (hd : width ≤ 16384) : ∃ sum : ℚ, add r.toRounding (.finite x) (.finite width) = .finite sum ∧ sum ≤ 32768 := by
  have hlo : (0 : ℚ) ≤ r.fl (x + width) := by
    have hz : r.fl 0 = 0 := by exact_mod_cast r.whole 0 (by norm_num)
    calc (0 : ℚ) = r.fl 0 := hz.symm
      _ ≤ r.fl (x + width) := r.mono (by linarith)
  have hh : r.fl (x + width) ≤ 32768 := by
    have hw : r.fl 32768 = 32768 := by exact_mod_cast r.whole 32768 (by norm_num)
    calc r.fl (x + width) ≤ r.fl 32768 := r.mono (by linarith)
      _ = 32768 := hw
  refine ⟨_, ?_, hh⟩; unfold add
  have hr : (32768 : ℚ) < 2 ^ 1024 := by
    calc (32768 : ℚ) = 2 ^ 15 := by norm_num
      _ < 2 ^ 1024 := pow_lt_pow_right₀ (by norm_num) (by norm_num)
  have hs : -2 ^ 1024 < (0 : ℚ) := neg_neg_of_pos (by positivity)
  dsimp only
  rw [if_neg (not_le.2 (hh.trans_lt hr)), if_neg (not_le.2 (hs.trans_le hlo))]

variable {r : WholeRounding} {request : WindowArguments} {outputs : List OutputSpec}

variable {rect : Rect} {ids : List Int64}

theorem decodeWindowGeometry_sent (h : validWindowGeometry r.toRounding rect = true) :
    decodeWindowGeometry r.toRounding (rectBuilder r.toRounding rect) =
      .ok ⟨rect.left, rect.top, rect.width r.toRounding, rect.height r.toRounding⟩ := by
  simp only [validWindowGeometry, validRect, Bool.and_eq_true] at h
  obtain ⟨⟨⟨⟨⟨⟨⟨⟨⟨⟨⟨⟨⟨⟨⟨⟨⟨hx, hy⟩, hw⟩, hh⟩, -⟩, -⟩, hx₀⟩, hy₀⟩, hx₁⟩, hy₁⟩, hw₀⟩, hh₀⟩, hw₁⟩, hh₁⟩,
    -⟩, -⟩, -⟩, -⟩ := h
  unfold decodeWindowGeometry rectBuilder
  generalize rect.width r.toRounding = width at *
  generalize rect.height r.toRounding = height at *
  obtain ⟨x, hx⟩ := finite_of_isFinite hx
  obtain ⟨y, hy⟩ := finite_of_isFinite hy
  obtain ⟨width, rfl⟩ := finite_of_isFinite hw
  obtain ⟨height, rfl⟩ := finite_of_isFinite hh; rw [hx, hy]
  rw [hx] at hx₀ hx₁
  rw [hy] at hy₀ hy₁
  simp only [le_finite, decide_eq_true_eq] at hx₀ hx₁ hy₀ hy₁ hw₀ hw₁ hh₀ hh₁
  obtain ⟨right, hr, hr₁⟩ := add_bounded r hx₀ hx₁ hw₀ hw₁
  obtain ⟨bottom, hbo, hb₁⟩ := add_bounded r hy₀ hy₁ hh₀ hh₁; dsimp only
  rw [hr, hbo, if_neg]
  have hr₂ : ¬(2147483647 : ℚ) < right := not_lt.2 (by linarith)
  have hb₂ : ¬(2147483647 : ℚ) < bottom := not_lt.2 (by linarith)
  simp [isFinite, lt_finite, not_lt.2 hx₀, not_lt.2 hx₁, not_lt.2 hy₀, not_lt.2 hy₁, not_lt.2 hw₀, not_lt.2 hw₁, not_lt.2 hh₀, not_lt.2 hh₁, hr₂, hb₂]

structure LocalText (limit : Nat) (text : String) : Prop where
  nonempty : text.isEmpty = false
  bounded : text.utf8ByteSize ≤ limit
  noNul : Shortcut.containsNul text = false

/-- Whether the compositor takes a request for one command. -/
def Proper (rounding : Rounding) (r : WindowArguments) : WindowRequestKind → Prop
  | .closeWindow | .focusWindow | .minimizeWindow => 0 < r.windowId
  | .configureWindow => 0 < r.windowId ∧ (r.flags = 0 ∨ r.flags = 1 ∨ r.flags = 2) ∧
      ∃ rect, r.geometry = some rect ∧ validWindowGeometry rounding rect = true
  | .createLocalWindow => r.requestId = 0 ∧
      (∃ appId : String, r.appId = some (encodeUtf16 appId.toList) ∧ LocalText maxLocalAppIdBytes appId) ∧
      (∃ title : String, r.title = some (encodeUtf16 title.toList) ∧ LocalText maxLocalWindowTitleBytes title) ∧
      ∃ rect, r.geometry = some rect ∧ validWindowGeometry rounding rect = true
  | .switchWorkspace => r.requestId = 0 ∧ (∃ monitorId, r.monitorId = some monitorId ∧ 0 ≤ monitorId) ∧
      1 ≤ r.workspaceId.getD 1 ∧ r.workspaceId.getD 1 ≤ 9
  | .moveWindowToWorkspace => r.requestId = 0 ∧ 0 < r.windowId ∧ (r.flags = 0 ∨ r.flags = 1) ∧
      (∀ monitorId ∈ r.monitorId, 0 ≤ monitorId) ∧ 1 ≤ r.workspaceId.getD 1 ∧ r.workspaceId.getD 1 ≤ 9
  | .listWindows | .getDisplayLayout | .configureSystemBar | .unknown => False

inductive Says (rounding : Rounding) (r : WindowArguments) : WindowRequestKind → WindowCommand → Prop
  | close {id : UInt64} (hid : (id.toNat : Int) = r.windowId.toInt) : Says rounding r .closeWindow (.close id)
  | focus {id : UInt64} (hid : (id.toNat : Int) = r.windowId.toInt) : Says rounding r .focusWindow (.focus id)
  | minimize {id : UInt64} (hid : (id.toNat : Int) = r.windowId.toInt) : Says rounding r .minimizeWindow (.minimize id)
  | configure {id : UInt64} {rect : Rect} {exact layoutDrop : Bool} (hid : (id.toNat : Int) = r.windowId.toInt)
    (hgeometry : r.geometry = some rect) (hflags : r.flags.toInt = exact.toNat + 2 * layoutDrop.toNat) :
    Says rounding r .configureWindow
      (.configure id ⟨rect.left, rect.top, rect.width rounding, rect.height rounding⟩ exact layoutDrop)
  | createLocal {appId title : String} {rect : Rect} (happ : r.appId = some (encodeUtf16 appId.toList))
    (htitle : r.title = some (encodeUtf16 title.toList)) (hgeometry : r.geometry = some rect) :
    Says rounding r .createLocalWindow
      (.createLocal appId title ⟨rect.left, rect.top, rect.width rounding, rect.height rounding⟩)
  | switchWorkspace {monitorId : Int64} {workspaceId : UInt8} (hmonitor : r.monitorId = some monitorId)
    (hworkspace : (workspaceId.toNat : Int) = (r.workspaceId.getD 1).toInt) :
    Says rounding r .switchWorkspace (.switchWorkspace monitorId workspaceId)
  | moveToWorkspace {id : UInt64} {workspaceId : UInt8} {follow : Bool} (hid : (id.toNat : Int) = r.windowId.toInt)
    (hworkspace : (workspaceId.toNat : Int) = (r.workspaceId.getD 1).toInt) (hflags : r.flags.toInt = follow.toNat) :
    Says rounding r .moveWindowToWorkspace (.moveToWorkspace id r.monitorId workspaceId follow)

theorem decodeWorkspace_sent {wsp : Int64} (hw : 1 ≤ wsp) (hh : wsp ≤ 9) : ∃ dec : UInt8,
    decodeWorkspace wsp.toUInt64.toUInt32 = .ok dec ∧ (dec.toNat : Int) = wsp.toInt := by
  have hs := toNat_toUInt64 (Int64.le_trans (by decide) hw)
  rw [Int64.le_iff_toInt_le] at hw hh
  have ho : (1 : Int64).toInt = 1 := by decide
  have hni : (9 : Int64).toInt = 9 := by decide
  rw [ho] at hw; rw [hni] at hh
  have hn : wsp.toUInt64.toUInt32.toNat = wsp.toUInt64.toNat := by
    rw [UInt64.toNat_toUInt32]; omega
  refine ⟨wsp.toUInt64.toUInt32.toUInt8, ?_, ?_⟩
  · unfold decodeWorkspace; rw [if_pos]
    simp only [Bool.and_eq_true, decide_eq_true_eq, UInt32.le_iff_toNat_le, hn]; simp
    omega
  · rw [UInt32.toNat_toUInt8, hn]; omega

theorem pushWindowCommand_ok {dec : Except WireError WindowCommand} {cmd : WindowCommand}
    (hr : b.pendingWindowCommands.length < maxPendingWindowCommands) (h : dec = .ok cmd) :
    pushWindowCommand b dec =
      ({ b with pendingWindowCommands := b.pendingWindowCommands ++ [cmd] }, .ok none) :=
  settle_ok (bind_ok.2 ⟨_, enqueue_ok hr h, rfl⟩)

theorem decodeConfigure_sent (h : Proper r.toRounding request .configureWindow) : ∃ command,
      decodeConfigure r.toRounding (requestTable r.toRounding .configureWindow request) = .ok command ∧
        Says r.toRounding request .configureWindow command := by
  obtain ⟨hw, hflags, rect, hrec, hv⟩ := h
  have hbi : ∃ exact layoutDrop : Bool, request.flags.toInt = exact.toNat + 2 * layoutDrop.toNat ∧
      ¬(request.flags.toUInt64.toUInt32 &&& ~~~configureFlagsMask ≠ 0 ∨
        request.flags.toUInt64.toUInt32 &&& configureFlagsMask = configureFlagsMask) ∧
      decide (request.flags.toUInt64.toUInt32 &&& 1 ≠ 0) = exact ∧
      decide (request.flags.toUInt64.toUInt32 &&& 2 ≠ 0) = layoutDrop := by
    rcases hflags with hflags | hflags | hflags <;> rw [hflags]
    · exact ⟨false, false, by decide⟩
    · exact ⟨true, false, by decide⟩
    · exact ⟨false, true, by decide⟩
  obtain ⟨exact, layoutDrop, hs, hm, he, hd⟩ := hbi
  refine ⟨_, ?_, .configure (toNat_toUInt64 (Int64.le_of_lt hw)) hrec hs⟩
  unfold decodeConfigure requestTable; dsimp only
  rw [if_neg hm, hrec, he, hd]
  exact bind_ok.2 ⟨_, rfl, bind_ok.2 ⟨_, decodeWindowGeometry_sent hv, rfl⟩⟩

theorem decodeCreateLocal_sent (h : Proper r.toRounding request .createLocalWindow) : ∃ command,
      decodeCreateLocal r.toRounding (requestTable r.toRounding .createLocalWindow request) = .ok command ∧
        Says r.toRounding request .createLocalWindow command := by
  obtain ⟨-, ⟨appId, happ, hlo⟩, ⟨title, htitle, hl'⟩, rect, hrec, hv⟩ := h
  refine ⟨_, ?_, .createLocal happ htitle hrec⟩
  unfold decodeCreateLocal requestTable; dsimp only
  rw [happ, htitle, hrec, Option.map_some, Option.map_some, Option.map_some, utf8Text_encodeUtf16, utf8Text_encodeUtf16]
  refine bind_ok.2 ⟨_, rfl, bind_ok.2 ⟨_, rfl, ?_⟩⟩
  rw [if_neg (by simp [hlo.nonempty, hlo.bounded, hlo.noNul, hl'.nonempty, hl'.bounded, hl'.noNul])]
  exact bind_ok.2 ⟨_, rfl, bind_ok.2 ⟨_, decodeWindowGeometry_sent hv, rfl⟩⟩

theorem decodeMoveToWorkspace_sent (h : Proper rounding request .moveWindowToWorkspace) :
    ∃ command, decodeMoveToWorkspace (requestTable rounding .moveWindowToWorkspace request) = .ok command ∧
      Says rounding request .moveWindowToWorkspace command := by
  obtain ⟨-, hw, hflags, hmonitor, hlo, hh⟩ := h
  obtain ⟨wsp, hd, hworkspace⟩ := decodeWorkspace_sent hlo hh
  have hbi : ∃ follow : Bool, request.flags.toInt = follow.toNat ∧ ¬(request.flags.toUInt64.toUInt32 &&& ~~~1 ≠ 0) ∧
      decide (request.flags.toUInt64.toUInt32 &&& 1 ≠ 0) = follow := by
    rcases hflags with hflags | hflags <;> rw [hflags]
    · exact ⟨false, by decide⟩
    · exact ⟨true, by decide⟩
  obtain ⟨follow, hsu, hm, hf⟩ := hbi
  refine ⟨_, ?_, .moveToWorkspace (toNat_toUInt64 (Int64.le_of_lt hw)) hworkspace hsu⟩
  have hs : (if 0 ≤ request.monitorId.getD (-1) then some (request.monitorId.getD (-1)) else none) = request.monitorId := by
    cases hid : request.monitorId with
    | none => rfl
    | some id => exact if_pos (hmonitor id hid)
  unfold decodeMoveToWorkspace requestTable
  refine bind_ok.2 ⟨_, hd, ?_⟩; dsimp only
  rw [if_neg (not_or.2 ⟨toUInt64_ne_zero hw, hm⟩), hs, hf]; rfl

theorem command_accepted {kind : WindowRequestKind} (hr : Proper r.toRounding request kind)
    (hm : b.pendingWindowCommands.length < maxPendingWindowCommands)
    (h : encodeWindowRequest buffers r.toRounding c kind request = (some message, c')) : ∃ command,
      handle builder r.toRounding b message =
        ({ b with pendingWindowCommands := b.pendingWindowCommands ++ [command] }, .ok none) ∧
      Says r.toRounding request kind command := by
  have hh := @handle_encoded r.toRounding _ builder buffers b c c' message _ _ h; rw [hh]
  have hid : request.requestId = 0 → ¬request.requestId.toUInt64 ≠ 0 := fun hz hne => hne (by rw [hz]; rfl)
  cases kind with
  | listWindows | getDisplayLayout | configureSystemBar | unknown => cases hr
  | closeWindow =>
    refine ⟨.close request.windowId.toUInt64, pushWindowCommand_ok hm ?_, .close (toNat_toUInt64 (Int64.le_of_lt hr))⟩
    exact if_neg (toUInt64_ne_zero hr)
  | focusWindow =>
    refine ⟨.focus request.windowId.toUInt64, pushWindowCommand_ok hm ?_, .focus (toNat_toUInt64 (Int64.le_of_lt hr))⟩
    exact if_neg (toUInt64_ne_zero hr)
  | minimizeWindow =>
    refine ⟨.minimize request.windowId.toUInt64, pushWindowCommand_ok hm ?_,
      .minimize (toNat_toUInt64 (Int64.le_of_lt hr))⟩
    exact if_neg (toUInt64_ne_zero hr)
  | configureWindow =>
    obtain ⟨command, hd, hs⟩ := decodeConfigure_sent hr
    refine ⟨command, pushWindowCommand_ok hm ?_, hs⟩
    exact (if_neg (toUInt64_ne_zero hr.1)).trans hd
  | createLocalWindow =>
    obtain ⟨command, hd, hs⟩ := decodeCreateLocal_sent hr
    exact ⟨command, (if_neg (hid hr.1)).trans (pushWindowCommand_ok hm hd), hs⟩
  | switchWorkspace =>
    obtain ⟨hre, ⟨monitorId, hmonitor, hn⟩, hw, hhi⟩ := hr
    obtain ⟨wsp, hd, hworkspace⟩ := decodeWorkspace_sent hw hhi
    refine ⟨_, (if_neg (hid hre)).trans (pushWindowCommand_ok hm ?_), .switchWorkspace hmonitor hworkspace⟩
    refine bind_ok.2 ⟨_, hd, ?_⟩; unfold requestTable
    rw [hmonitor, Option.getD_some, if_neg (Int64.not_lt.2 hn)]; rfl
  | moveWindowToWorkspace =>
    obtain ⟨command, hd, hs⟩ := decodeMoveToWorkspace_sent hr
    exact ⟨command, (if_neg (hid hr.1)).trans (pushWindowCommand_ok hm hd), hs⟩

theorem proper_of_createLocal {rounding : Rounding} {appId title : String}
    (h : encodeCreateLocalWindow buffers rounding c (encodeUtf16 appId.toList) (encodeUtf16 title.toList) rect =
      (some message, c')) : ∃ request : WindowArguments,
      request.appId = some (encodeUtf16 appId.toList) ∧ request.title = some (encodeUtf16 title.toList) ∧
        request.geometry = some rect ∧ Proper rounding request .createLocalWindow ∧
        encodeWindowRequest buffers rounding c .createLocalWindow request = (some message, c') := by
  unfold encodeCreateLocalWindow at h
  rw [utf8Text_encodeUtf16, utf8Text_encodeUtf16] at h; dsimp only at h
  split at h
  · cases h
  rename_i hv
  simp only [Bool.or_eq_true, decide_eq_true_eq, not_or, Bool.not_eq_true, Bool.not_eq_true', Bool.not_eq_false,
    not_lt] at hv
  obtain ⟨⟨⟨⟨⟨⟨happ, hab⟩, htitle⟩, htb⟩, han⟩, htn⟩, hgeometry⟩ := hv
  have hlo : ∀ {text : String} {limit : Nat}, text.utf8ByteSize ≠ 0 → text.utf8ByteSize ≤ limit →
      (encodeUtf16 text.toList).contains 0 = false → LocalText limit text := by
    intro text limit hs hn hnu
    refine ⟨?_, hn, ?_⟩
    · rw [Bool.eq_false_iff]; intro he
      exact hs (by rw [String.isEmpty_iff.1 he]; rfl)
    · rw [Bool.eq_false_iff]
      exact fun hco => Bool.eq_false_iff.1 hnu (List.contains_iff_mem.2 (zero_of_containsNul hco))
  exact ⟨_, rfl, rfl, rfl, ⟨rfl, ⟨appId, rfl, hlo happ hab han⟩, ⟨title, rfl, hlo htitle htb htn⟩,
    rect, rfl, hgeometry⟩, h⟩

theorem localWindow_accepted {appId title : String}
    (hm : b.pendingWindowCommands.length < maxPendingWindowCommands)
    (h : encodeCreateLocalWindow buffers r.toRounding c (encodeUtf16 appId.toList) (encodeUtf16 title.toList) rect =
      (some message, c')) :
    handle builder r.toRounding b message = ({ b with pendingWindowCommands := b.pendingWindowCommands ++
      [.createLocal appId title ⟨rect.left, rect.top, rect.width r.toRounding, rect.height r.toRounding⟩] }, .ok none) := by
  obtain ⟨request, happ, htitle, hrec, hr, h⟩ := proper_of_createLocal h
  have hac : ∃ command, handle builder r.toRounding b message =
      ({ b with pendingWindowCommands := b.pendingWindowCommands ++ [command] }, .ok none) ∧
      Says r.toRounding request .createLocalWindow command := command_accepted hr hm h
  obtain ⟨command, hh, hs⟩ := hac
  cases hs with
  | createLocal ha' ht' hr' =>
    obtain rfl := encodeUtf16_inj (Option.some.inj (happ.symm.trans ha'))
    obtain rfl := encodeUtf16_inj (Option.some.inj (htitle.symm.trans ht'))
    obtain rfl := Option.some.inj (hrec.symm.trans hr'); exact hh

/-! ## Snapshots -/

def Answers (builder : Builder F) (b : WireBridge F) (answer : UInt64 → Outbound F) : Prop :=
  encode builder (answer (max b.nextSequence 1)) = .ok (answer (max b.nextSequence 1))

theorem respond_ok {answer : UInt64 → Outbound F} (h : Answers builder b answer) :
    respond builder b answer = (b.takeSequence.2, .ok (some (answer (max b.nextSequence 1)))) := by
  show (b.takeSequence.2, (encode builder (answer (max b.nextSequence 1))).map some) = _
  rw [h]; rfl

theorem listWindows_accepted (hr : 0 < request.requestId) (hn : Answers builder b fun sequence =>
      .windowsResponse sequence request.requestId.toUInt64 b.windows b.restoredWindowIds)
    (h : encodeWindowRequest buffers rounding c .listWindows request = (some message, c')) : ∃ sequence requestId,
      handle builder rounding b message =
        (b.takeSequence.2, .ok (some (.windowsResponse sequence requestId b.windows b.restoredWindowIds))) ∧
      (requestId.toNat : Int) = request.requestId.toInt := by
  refine ⟨max b.nextSequence 1, request.requestId.toUInt64, ?_, toNat_toUInt64 (Int64.le_of_lt hr)⟩
  rw [handle_encoded h]
  exact (if_neg (toUInt64_ne_zero hr)).trans (respond_ok hn)

theorem getDisplayLayout_accepted (hr : 0 < request.requestId) (hn : Answers builder b fun sequence =>
      .displayLayout sequence request.requestId.toUInt64 b.snapshot b.atlas b.workArea)
    (h : encodeWindowRequest buffers rounding c .getDisplayLayout request = (some message, c')) : ∃ sequence requestId,
      handle builder rounding b message =
        (b.takeSequence.2, .ok (some (.displayLayout sequence requestId b.snapshot b.atlas b.workArea))) ∧
      (requestId.toNat : Int) = request.requestId.toInt := by
  refine ⟨max b.nextSequence 1, request.requestId.toUInt64, ?_, toNat_toUInt64 (Int64.le_of_lt hr)⟩
  rw [handle_encoded h]
  exact (if_neg (toUInt64_ne_zero hr)).trans (respond_ok hn)

/-! ## The system bar -/

def liveNames (outputs : List OutputSpec) (ids : List Int64) : List String :=
  ids.filterMap fun id => (outputs.find? fun output => monitorId output.id == some id).map (·.name)

def Live (outputs : List OutputSpec) (id : Int64) : Prop := ∃ output ∈ outputs, monitorId output.id = some id

theorem decodeMonitors_sent : ∀ {ids unique : List Int64}, (∀ id ∈ ids, 0 ≤ id) → ids.Nodup →
    (∀ id ∈ ids, id ∉ unique) → (∀ id ∈ ids, Live outputs id) →
    decodeMonitors outputs unique ids = .ok (liveNames outputs ids)
  | [], _, _, _, _, _ => rfl
  | id :: ids, unique, hno, hn, hf, hv => by
    obtain ⟨hid, hno⟩ := List.forall_mem_cons.1 hno
    obtain ⟨ho, hn⟩ := List.nodup_cons.1 hn
    obtain ⟨hw, hf⟩ := List.forall_mem_cons.1 hf
    obtain ⟨⟨out, hou, hm⟩, hv⟩ := List.forall_mem_cons.1 hv
    have hfo : ∃ found, (outputs.find? fun out => monitorId out.id == some id) = some found :=
      Option.isSome_iff_exists.1 (List.find?_isSome.2 ⟨out, hou, beq_iff_eq.2 hm⟩)
    obtain ⟨found, hfi⟩ := hfo
    have hr : decodeMonitors outputs (id :: unique) ids = .ok (liveNames outputs ids) := by
      refine decodeMonitors_sent hno hn (fun other hmem => ?_) hv; rw [List.mem_cons, not_or]
      exact ⟨fun heq => ho (heq ▸ hmem), hf other hmem⟩
    have hna : liveNames outputs (id :: ids) = found.name :: liveNames outputs ids := by
      rw [liveNames, List.filterMap_cons, hfi]; rfl
    rw [decodeMonitors, if_neg (not_or.2 ⟨Int64.not_lt.2 hid, hw⟩), hfi, hna]; dsimp only
    rw [hr]; rfl

theorem liveNames_live : ∀ {ids : List Int64}, (∀ id ∈ ids, Live outputs id) →
    List.Forall₂ (fun id name => ∃ out ∈ outputs, monitorId out.id = some id ∧ out.name = name) ids
      (liveNames outputs ids)
  | [], _ => .nil
  | id :: ids, hv => by
    obtain ⟨⟨out, ho, hn⟩, hv⟩ := List.forall_mem_cons.1 hv
    obtain ⟨f, hf⟩ := Option.isSome_iff_exists.1 (List.find?_isSome (p := fun o : OutputSpec => monitorId o.id == some id).2
      ⟨out, ho, beq_iff_eq.2 hn⟩)
    rw [liveNames, List.filterMap_cons, hf]
    exact .cons ⟨f, List.mem_of_find?_eq_some hf, beq_iff_eq.1 (List.find?_some
      (p := fun o : OutputSpec => monitorId o.id == some id) hf), rfl⟩ (liveNames_live hv)

theorem length_le_of_live (hd : ids.Nodup) (hv : ∀ id ∈ ids, Live outputs id) : ids.length ≤ outputs.length := by
  have hs : ids.map some ⊆ outputs.map fun out => monitorId out.id := by
    intro f hf
    obtain ⟨id, hid, rfl⟩ := List.mem_map.1 hf
    obtain ⟨out, ho, hn⟩ := hv id hid; exact List.mem_map.2 ⟨out, ho, hn⟩
  have hle := (List.subperm_of_subset (hd.map (Option.some_injective _)) hs).length_le
  rwa [List.length_map, List.length_map] at hle

def barOptions (old : WorkAreaOptions) (outputs : List String) (side : SystemBarSide) (thickness padding : F64) :
    WorkAreaOptions where
  systemBar := {
    outputs
    side
    thickness := if thickness = .finite 0 then old.systemBar.thickness else thickness }
  maximizePadding := if padding = .finite 0 then old.maximizePadding else padding

/-- A number of the bar, from 0 to a bound. -/
def UpTo (bound : ℚ) (value : F64) : Prop := ∃ q : ℚ, value = .finite q ∧ 0 ≤ q ∧ q ≤ bound

/-- A bar on live monitors that the shell and the compositor have the same bounds for. -/
structure Bar (outputs : List OutputSpec) (side : SystemBarSide) (ids : List Int64) (thickness padding : F64) : Prop where
  side : side ≠ .hidden
  nonempty : ids ≠ []
  nonneg : ∀ id ∈ ids, 0 ≤ id
  nodup : ids.Nodup
  live : ∀ id ∈ ids, Live outputs id
  thickness : UpTo maxSystemBarThickness thickness
  padding : UpTo maxMaximizePadding padding

theorem positive_finite {q : ℚ} (h : 0 ≤ q) : positive (.finite q) = !decide (finite q = .finite 0) := by
  rcases h.eq_or_lt with rfl | hpos
  · simp [positive]
  · simp [positive, isFinite, hpos, hpos.ne']

theorem configureSystemBar_sent {req : UInt64} {request : WindowRequest} {side : SystemBarSide}
    (hsi : request.systemBarSide = some side) (his : request.systemBarMonitorIds = some ids)
    (hr : Bar b.snapshot.outputs side ids request.systemBarThickness request.maximizePadding)
    (han : Answers builder b fun sequence => .displayLayout sequence req b.snapshot b.atlas
      (barOptions b.workArea (liveNames b.snapshot.outputs ids) side request.systemBarThickness request.maximizePadding)) :
    ∃ sequence b', configureSystemBar builder b req request =
        (b', .ok (some (.displayLayout sequence req b.snapshot b.atlas b'.workArea))) ∧
      b'.workArea = barOptions b.workArea (liveNames b.snapshot.outputs ids) side request.systemBarThickness
        request.maximizePadding ∧ b'.pendingWorkArea = some b'.workArea := by
  have hd : decodeSystemBar b.snapshot.outputs request = .ok (side, liveNames b.snapshot.outputs ids) := by
    unfold decodeSystemBar; rw [hsi, his]
    have hs : required ((some side).filter fun side => side != .hidden) WireError.enumeration = .ok side := by
      rw [Option.filter_some, if_pos (bne_iff_ne.2 hr.side)]; rfl
    have hn : ¬(ids.isEmpty || decide (b.snapshot.outputs.length < ids.length)) = true := by
      simp [hr.nonempty, length_le_of_live hr.nodup hr.live]
    refine bind_ok.2 ⟨_, hs, bind_ok.2 ⟨_, rfl, ?_⟩⟩; rw [if_neg hn]
    exact bind_ok.2 ⟨_, decodeMonitors_sent hr.nonneg hr.nodup (fun _ _ => List.not_mem_nil) hr.live, rfl⟩
  obtain ⟨t, ht, ht₀, ht₁⟩ := hr.thickness
  obtain ⟨p, hp, hp₀, hp₁⟩ := hr.padding
  let bridge : WireBridge F := { b with
    workArea := barOptions b.workArea (liveNames b.snapshot.outputs ids) side request.systemBarThickness request.maximizePadding
    pendingWorkArea := some (barOptions b.workArea (liveNames b.snapshot.outputs ids) side request.systemBarThickness
      request.maximizePadding) }
  refine ⟨max b.nextSequence 1, bridge.takeSequence.2, ?_, rfl, rfl⟩
  have hh : ¬(positive request.systemBarThickness &&
      lt (.finite maxSystemBarThickness) request.systemBarThickness) = true := by
    rw [ht, lt_finite]; simp [not_lt.2 ht₁]
  have ho : withPadding (if positive request.systemBarThickness then
        { systemBar := {
            outputs := liveNames b.snapshot.outputs ids
            side
            thickness := request.systemBarThickness }
          maximizePadding := b.workArea.maximizePadding }
      else
        { systemBar := {
            outputs := liveNames b.snapshot.outputs ids
            side
            thickness := b.workArea.systemBar.thickness }
          maximizePadding := b.workArea.maximizePadding }) request.maximizePadding =
      barOptions b.workArea (liveNames b.snapshot.outputs ids) side request.systemBarThickness request.maximizePadding := by
    rw [ht, hp, withPadding, positive_finite ht₀, positive_finite hp₀, barOptions, le_finite, decide_eq_true hp₁]
    by_cases ht₀ : finite t = .finite 0 <;> by_cases hp₀ : finite p = .finite 0 <;> simp [ht₀, hp₀]
  unfold configureSystemBar; rw [hd]
  dsimp only
  rw [if_neg hh, ho]; exact respond_ok han

structure SameBar (outputs : List OutputSpec) (old : WorkAreaOptions) (side : SystemBarSide) (ids : List Int64)
    (thickness padding : F64) (workArea : WorkAreaOptions) : Prop where
  side : workArea.systemBar.side = side
  outputs : List.Forall₂ (fun id name => ∃ output ∈ outputs, monitorId output.id = some id ∧ output.name = name) ids
    workArea.systemBar.outputs
  thickness : workArea.systemBar.thickness = if thickness = .finite 0 then old.systemBar.thickness else thickness
  padding : workArea.maximizePadding = if padding = .finite 0 then old.maximizePadding else padding

/-- A bar taken over: its options are pending, and the layout with them is answered under the request's number. -/
def BarTaken (b : WireBridge F) (requestId : Int64) (side : SystemBarSide) (ids : List Int64) (thickness padding : F64)
    (handled : Handled F) : Prop :=
  ∃ sequence answered b', handled = (b', .ok (some (.displayLayout sequence answered b.snapshot b.atlas b'.workArea))) ∧
    (answered.toNat : Int) = requestId.toInt ∧ b'.pendingWorkArea = some b'.workArea ∧
    SameBar b.snapshot.outputs b.workArea side ids thickness padding b'.workArea

def BarAnswers (builder : Builder F) (b : WireBridge F) (requestId : Int64) (side : SystemBarSide) (ids : List Int64)
    (thickness padding : F64) : Prop :=
  Answers builder b fun sequence => .displayLayout sequence requestId.toUInt64 b.snapshot b.atlas
    (barOptions b.workArea (liveNames b.snapshot.outputs ids) side thickness padding)

theorem barTaken_of_sent {req : Int64} {request : WindowRequest} {side : SystemBarSide}
    (hk : request.kind = .configureSystemBar) (hre : 0 < req)
    (hs : request.systemBarSide = some side) (hd : request.systemBarMonitorIds = some ids)
    (hr : Bar b.snapshot.outputs side ids request.systemBarThickness request.maximizePadding)
    (hn : BarAnswers builder b req side ids request.systemBarThickness request.maximizePadding)
    (h : encodeEnvelope buffers c req (.windowRequest (some request)) = (some message, c')) :
    BarTaken b req side ids request.systemBarThickness request.maximizePadding (handle builder rounding b message) := by
  obtain ⟨sequence, b', hco, hwa, hpe⟩ := configureSystemBar_sent hs hd hr hn
  refine ⟨sequence, req.toUInt64, b', ?_, toNat_toUInt64 (Int64.le_of_lt hre), hpe, ?_⟩
  · rw [handle_encoded h, ← hco]
    show handleWindowRequest builder rounding b req.toUInt64 request = _; unfold handleWindowRequest
    rw [hk]; exact if_neg (toUInt64_ne_zero hre)
  · rw [hwa]; exact ⟨rfl, liveNames_live hr.live, rfl, rfl⟩

theorem systemBar_accepted {request : SystemBarArguments} (hli : ∀ id ∈ request.monitorIds, Live b.snapshot.outputs id)
    (hh : le request.thickness (.finite maxSystemBarThickness) = true)
    (hd : le request.maximizePadding (.finite maxMaximizePadding) = true)
    (hs : BarAnswers builder b request.requestId request.side request.monitorIds request.thickness
      request.maximizePadding) (h : encodeSystemBarConfiguration buffers c request = (some message, c')) :
    BarTaken b request.requestId request.side request.monitorIds request.thickness request.maximizePadding
      (handle builder rounding b message) := by
  unfold encodeSystemBarConfiguration at h; split at h
  · cases h
  rename_i hv
  simp only [Bool.or_eq_true, decide_eq_true_eq, not_or, Bool.not_eq_true, Bool.not_eq_true', Bool.not_eq_false,
    beq_eq_false_iff_ne, List.any_eq_false, decide_eq_false_iff_not, not_not, Int64.not_le, Int64.not_lt] at hv
  obtain ⟨⟨⟨⟨⟨⟨⟨⟨⟨hre, hsi⟩, hn⟩, -⟩, hnn⟩, hno⟩, hf⟩, hpos⟩, hf'⟩, hp₀⟩ := hv
  obtain ⟨t, ht⟩ := finite_of_isFinite hf
  obtain ⟨p, hp⟩ := finite_of_isFinite hf'
  rw [ht, le_finite] at hh hpos; rw [hp, le_finite] at hd
  rw [hp, lt_finite] at hp₀
  have hr : Bar b.snapshot.outputs request.side request.monitorIds request.thickness request.maximizePadding := by
    refine ⟨hsi, fun hnil => ?_, hnn, hno, hli, ⟨t, ht, ?_, of_decide_eq_true hh⟩,
      ⟨p, hp, not_lt.1 (of_decide_eq_false hp₀), of_decide_eq_true hd⟩⟩
    · rw [hnil] at hn; cases hn
    · exact (not_le.1 (of_decide_eq_false hpos)).le
  exact barTaken_of_sent rfl hre rfl rfl hr hs h

/-- What the compositor makes of the messages that the codec writes. -/
structure TakesMessages (builder : Builder F) (buffers : FlatBuffers) (r : WholeRounding) (b : WireBridge F) : Prop where
  /-- A layout that names no surface twice, with numbers that the wire has. -/
  layout : ∀ c c' message l, Distinct l → encodeInputLayout buffers r.toRounding c l = (some message, c') → ∃ decoded,
    handle builder r.toRounding b message = ({ b with pendingInputLayout := some decoded }, .ok none) ∧
      SameLayout r.toRounding l decoded
  /-- A request for a command, where there is room for one. -/
  command : ∀ c c' message kind request, b.pendingWindowCommands.length < maxPendingWindowCommands →
    Proper r.toRounding request kind → encodeWindowRequest buffers r.toRounding c kind request = (some message, c') →
    ∃ command, handle builder r.toRounding b message =
        ({ b with pendingWindowCommands := b.pendingWindowCommands ++ [command] }, .ok none) ∧
      Says r.toRounding request kind command
  /-- A local window, with texts of characters. -/
  localWindow : ∀ c c' message (appId title : String) rect,
    b.pendingWindowCommands.length < maxPendingWindowCommands →
    encodeCreateLocalWindow buffers r.toRounding c (encodeUtf16 appId.toList) (encodeUtf16 title.toList) rect =
      (some message, c') →
    handle builder r.toRounding b message = ({ b with pendingWindowCommands := b.pendingWindowCommands ++
      [.createLocal appId title ⟨rect.left, rect.top, rect.width r.toRounding, rect.height r.toRounding⟩] }, .ok none)
  /-- A request for the windows, which fit a message. -/
  windows : ∀ c c' message (request : WindowArguments), 0 < request.requestId →
    Answers builder b (fun sequence =>
      .windowsResponse sequence request.requestId.toUInt64 b.windows b.restoredWindowIds) →
    encodeWindowRequest buffers r.toRounding c .listWindows request = (some message, c') → ∃ sequence requestId,
      handle builder r.toRounding b message =
        (b.takeSequence.2, .ok (some (.windowsResponse sequence requestId b.windows b.restoredWindowIds))) ∧
      (requestId.toNat : Int) = request.requestId.toInt
  /-- A request for the layout of the display, which fits a message. -/
  display : ∀ c c' message (request : WindowArguments), 0 < request.requestId →
    Answers builder b (fun sequence =>
      .displayLayout sequence request.requestId.toUInt64 b.snapshot b.atlas b.workArea) →
    encodeWindowRequest buffers r.toRounding c .getDisplayLayout request = (some message, c') → ∃ sequence requestId,
      handle builder r.toRounding b message =
        (b.takeSequence.2, .ok (some (.displayLayout sequence requestId b.snapshot b.atlas b.workArea))) ∧
      (requestId.toNat : Int) = request.requestId.toInt
  /-- A plain request for a bar, which leaves its numbers. -/
  bar : ∀ c c' message (request : WindowArguments) ids, 0 < request.requestId →
    request.systemBarMonitorIds = some ids →
    Bar b.snapshot.outputs (request.systemBarSide.getD .top) ids (.finite 0) (.finite 0) →
    BarAnswers builder b request.requestId (request.systemBarSide.getD .top) ids (.finite 0) (.finite 0) →
    encodeWindowRequest buffers r.toRounding c .configureSystemBar request = (some message, c') →
      BarTaken b request.requestId (request.systemBarSide.getD .top) ids (.finite 0) (.finite 0)
        (handle builder r.toRounding b message)
  /-- A bar on live monitors, with numbers in the compositor's bounds. -/
  systemBar : ∀ c c' message (request : SystemBarArguments), (∀ id ∈ request.monitorIds, Live b.snapshot.outputs id) →
    F64.le request.thickness (.finite maxSystemBarThickness) = true →
    F64.le request.maximizePadding (.finite maxMaximizePadding) = true →
    BarAnswers builder b request.requestId request.side request.monitorIds request.thickness request.maximizePadding →
    encodeSystemBarConfiguration buffers c request = (some message, c') →
      BarTaken b request.requestId request.side request.monitorIds request.thickness request.maximizePadding
        (handle builder r.toRounding b message)
  /-- A text of characters that is neither empty nor too long, where there is room for one. -/
  text : ∀ c c' message (text : String), b.pendingKeyboardCommands.length < maxPendingKeyboardCommands → Text text →
    encodeKeyboardText buffers c (encodeUtf16 text.toList) = (some message, c') →
    handle builder r.toRounding b message =
      ({ b with pendingKeyboardCommands := b.pendingKeyboardCommands ++ [.text text] }, .ok none)

/-- In every state of the bridge, what the codec encodes within the compositor's bounds is accepted with the fields that
were encoded. -/
theorem shell_messages_accepted (F : Type) (builder : Builder F) (buffers : FlatBuffers) (r : WholeRounding)
    (b : WireBridge F) : TakesMessages builder buffers r b where
  layout _ _ _ _ hdistinct h := inputLayout_accepted hdistinct h
  command _ _ _ _ _ hroom hproper h := command_accepted hproper hroom h
  localWindow _ _ _ _ _ _ hroom h := localWindow_accepted hroom h
  windows _ _ _ _ hrequest hanswers h := listWindows_accepted hrequest hanswers h
  display _ _ _ _ hrequest hanswers h := getDisplayLayout_accepted hrequest hanswers h
  bar _ _ _ _ _ hrequest hids hbar hanswers h := barTaken_of_sent rfl hrequest rfl hids hbar hanswers h
  systemBar _ _ _ _ hlive hthickness hpadding hanswers h := systemBar_accepted hlive hthickness hpadding hanswers h
  text _ _ _ _ hroom htext h := keyboardText_accepted htext hroom h

/-! ## What is refused -/

/-- A builder of messages of one size. -/
def smallBuffers : FlatBuffers := ⟨fun _ => 128, fun _ => by decide⟩

def wholeExact : WholeRounding := { Rounding.exact with whole := fun _ _ => rfl }

def refused (encoded : Encoded) : Bool :=
  encoded.1.any fun message => !(handle (fun _ => .ok 128) .exact freshBridge message).2.isOk

/-- A region of the surface 5, which takes the whole of it. -/
def regionOfFive : InputWindowRegion :=
  ⟨⟨1, 5, 1⟩, ⟨.finite 0, .finite 0, .finite 1, .finite 1⟩, ⟨.finite 0, .finite 0, .finite 1, .finite 1⟩, 0, none, true, true,
    false⟩

/-- Of each kind the codec encodes a message that is refused: a layout with a surface twice, a request to close no window,
a bar on a monitor that is not there, and an empty text. -/
theorem encoded_and_refused :
    refused (encodeInputLayout smallBuffers .exact {}
      { epoch := 1, shellRegions := [], windows := [regionOfFive, regionOfFive] }) = true ∧
      refused (encodeWindowRequest smallBuffers .exact {} .closeWindow {}) = true ∧
      refused (encodeSystemBarConfiguration smallBuffers {} ⟨1, .top, [7], .finite 32, .finite 0⟩) = true ∧
      refused (encodeKeyboardText smallBuffers {} []) = true := by
  decide +kernel

/-- A text, typed. -/
theorem typed_text : handle (fun _ => .ok 128) .exact freshBridge
      ⟨128, true, some ⟨protocolVersion, 1, 0, .keyboardCommand (some { kind := .text, text := some "a" })⟩⟩ =
    ({ freshBridge with pendingKeyboardCommands := [.text "a"] }, .ok none) :=
  (shell_messages_accepted ℚ (fun _ => .ok 128) smallBuffers wholeExact freshBridge).text {} _ _ "a" (by decide)
    ⟨by decide, by decide⟩ rfl

end Codec

end Deniald.Wire
