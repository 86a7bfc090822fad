/-
System-command packets (flutter_runtime/system_command.rs): what the shell may ask to be launched, captured or ended, as
length-prefixed arguments behind a header. Decoding takes exactly the packets of the format, each request of a launch, a
logout or an answer about a screenshot from one packet alone.
-/
import Deniald.Clipboard.Item
import Deniald.Lib.Slice
import Deniald.Settings.Values

namespace Deniald.Flutter.SystemCommand

open Deniald.Clipboard (asBytes fromUtf8)
open Deniald.Lib
open Deniald.Settings (validateDesktopFileId)

def headerSize : Nat := 1 + 8 + 4

def maxPacketSize : Nat := 64 * 1024

def maxArguments : Nat := 64

def maxArgumentSize : Nat := 4096

inductive DecodeError where
  | invalidPacketSize (size : Nat)
  | tooManyArguments (count : Nat)
  | truncatedArgumentLength (index : Nat)
  | invalidArgumentSize (index size : Nat)
  | truncatedArgument (index : Nat)
  | argumentContainsNul (index : Nat)
  | argumentIsNotUtf8 (index : Nat)
  | trailingBytes
  | launchHasNoArguments
  | desktopLaunchHasNoIdentity
  | invalidDesktopFileId
  | screenshotArgumentCount (count : Nat)
  | invalidScreenshotRegion
  | invalidScreenshotRequestId
  | unexpectedLaunchMetadata
  | unsupportedCommand (command : UInt8)

abbrev NonZeroU64 := { n : UInt64 // n ≠ 0 }

def nonZero (n : UInt64) : Option NonZeroU64 := if h : n ≠ 0 then some ⟨n, h⟩ else none

structure ScreenshotRegion where
  x : F64
  y : F64
  width : F64
  height : F64

inductive Request where
  | launchApplication (arguments : List String) (desktopFileId : Option String) (launchRequestId : Option NonZeroU64)
  | screenshot (requestId : Option NonZeroU64) (region : Option ScreenshotRegion)
  | screenshotPrepared (requestId : NonZeroU64)
  | cancelScreenshot (requestId : NonZeroU64)
  | logout

/-- `none` is a read outside the packet, which panics. -/
abbrev Decoded (α : Type) := Except (Option DecodeError) α

/-- An argument and the offset past it. -/
def decodeArgument (packet : List UInt8) (index offset : Nat) : Decoded (String × Nat) :=
  if packet.length < offset + 4 then .error (some (.truncatedArgumentLength index))
  else do
    let length := fromLeBytes (← partOr none packet offset (offset + 4))
    if length = 0 ∨ maxArgumentSize < length then .error (some (.invalidArgumentSize index length))
    else if packet.length < offset + 4 + length then .error (some (.truncatedArgument index))
    else
      let bytes ← partOr none packet (offset + 4) (offset + 4 + length)
      if 0 ∈ bytes then .error (some (.argumentContainsNul index))
      else
        match fromUtf8 bytes with
        | none => .error (some (.argumentIsNotUtf8 index))
        | some argument => .ok (argument, offset + 4 + length)

def decodeArguments (packet : List UInt8) : Nat → Nat → Nat → Decoded (List String × Nat)
  | 0, _, offset => .ok ([], offset)
  | count + 1, index, offset => do
    let first ← decodeArgument packet index offset
    let rest ← decodeArguments packet count (index + 1) first.2
    return (first.1 :: rest.1, rest.2)

variable (parseF64 : String → Option F64)

def decodeRegion (arguments : List String) : Decoded (Option ScreenshotRegion) :=
  match arguments with
  | [] => .ok none
  | [x, y, width, height] =>
    match [x, y, width, height].map fun value => (parseF64 value).filter (·.isFinite) with
    | [some x, some y, some width, some height] =>
      if x.lt (.finite 0) ∨ y.lt (.finite 0) ∨ width.le (.finite 0) ∨ height.le (.finite 0) then
        .error (some .invalidScreenshotRegion)
      else .ok (some ⟨x, y, width, height⟩)
    | _ => .error (some .invalidScreenshotRegion)
  | arguments => .error (some (.screenshotArgumentCount arguments.length))

def decodeCommand (command : UInt8) (requestId : UInt64) (arguments : List String) : Decoded Request :=
  if command = 0 then
    if arguments = [] then .error (some .launchHasNoArguments)
    else .ok (.launchApplication arguments none (nonZero requestId))
  else if command = 1 then
    match arguments with
    | [] => .error (some .desktopLaunchHasNoIdentity)
    | desktopFileId :: arguments =>
      if validateDesktopFileId desktopFileId ≠ .ok () then .error (some .invalidDesktopFileId)
      else if arguments = [] then .error (some .launchHasNoArguments)
      else .ok (.launchApplication arguments (some desktopFileId) (nonZero requestId))
  else if command = 2 then do
    let region ← decodeRegion parseF64 arguments
    if (nonZero requestId).isSome ≠ region.isSome then .error (some .invalidScreenshotRequestId)
    else .ok (.screenshot (nonZero requestId) region)
  else if command = 3 then
    if requestId ≠ 0 ∨ arguments ≠ [] then .error (some .unexpectedLaunchMetadata) else .ok .logout
  else if command = 4 ∨ command = 5 then
    if arguments ≠ [] then .error (some (.screenshotArgumentCount arguments.length))
    else
      match nonZero requestId with
      | none => .error (some .invalidScreenshotRequestId)
      | some requestId => .ok (if command = 4 then .screenshotPrepared requestId else .cancelScreenshot requestId)
  else .error (some (.unsupportedCommand command))

def decode (packet : List UInt8) : Decoded Request :=
  if ¬(headerSize ≤ packet.length ∧ packet.length ≤ maxPacketSize) then
    .error (some (.invalidPacketSize packet.length))
  else do
    let command ← packet[0]?.elim (.error none) .ok
    let requestId := UInt64.ofNat (fromLeBytes (← partOr none packet 1 9))
    let argumentCount := fromLeBytes (← partOr none packet 9 headerSize)
    if maxArguments < argumentCount then .error (some (.tooManyArguments argumentCount))
    else
      let arguments ← decodeArguments packet argumentCount 0 headerSize
      if arguments.2 ≠ packet.length then .error (some .trailingBytes)
      else decodeCommand parseF64 command requestId arguments.1

/-! ## The format -/

def encodeArgument (argument : String) : List UInt8 := toLeBytes 4 (asBytes argument).length ++ asBytes argument

def encode (command : UInt8) (requestId : UInt64) (arguments : List String) : List UInt8 :=
  command :: (toLeBytes 8 requestId.toNat ++ toLeBytes 4 arguments.length ++ arguments.flatMap encodeArgument)

def IsArgument (argument : String) : Prop :=
  0 < (asBytes argument).length ∧ (asBytes argument).length ≤ maxArgumentSize ∧ 0 ∉ asBytes argument

structure IsPacket (packet : List UInt8) (command : UInt8) (requestId : UInt64) (arguments : List String) : Prop where
  bytes : packet = encode command requestId arguments
  size : packet.length ≤ maxPacketSize
  count : arguments.length ≤ maxArguments
  argument : ∀ argument ∈ arguments, IsArgument argument

/-- A region of finite numbers, of some extent right of and below the origin. -/
def IsRegion (values : List String) (region : ScreenshotRegion) : Prop :=
  ∃ x y width height : ℚ, values.map parseF64 = [x, y, width, height].map (some ∘ .finite) ∧
    region = ⟨.finite x, .finite y, .finite width, .finite height⟩ ∧ 0 ≤ x ∧ 0 ≤ y ∧ 0 < width ∧ 0 < height

/-- The rules of each command on its request identifier and its arguments. -/
inductive Means : UInt8 → UInt64 → List String → Request → Prop
  | launchApplication {requestId arguments} : arguments ≠ [] →
      Means 0 requestId arguments (.launchApplication arguments none (nonZero requestId))
  | launchDesktopApplication {requestId desktopFileId arguments} : validateDesktopFileId desktopFileId = .ok () →
      arguments ≠ [] → Means 1 requestId (desktopFileId :: arguments)
        (.launchApplication arguments (some desktopFileId) (nonZero requestId))
  | takeScreenshot : Means 2 0 [] (.screenshot none none)
  | takeRegion {requestId : NonZeroU64} {values region} : IsRegion parseF64 values region →
      Means 2 requestId.1 values (.screenshot (some requestId) (some region))
  | logout : Means 3 0 [] .logout
  | screenshotPrepared (requestId : NonZeroU64) : Means 4 requestId.1 [] (.screenshotPrepared requestId)
  | cancelScreenshot (requestId : NonZeroU64) : Means 5 requestId.1 [] (.cancelScreenshot requestId)

/-! ## Arguments -/

theorem fromUtf8_eq_some_iff {bytes : List UInt8} {text : String} : fromUtf8 bytes = some text ↔ bytes = asBytes text := by
  unfold fromUtf8 String.fromUTF8? asBytes
  constructor
  · intro h; split at h
    · cases h; rfl
    · cases h
  · rintro rfl
    have hy : (⟨text.toByteArray.data.toList.toArray⟩ : ByteArray) = text.toByteArray := by
      rw [Array.toArray_toList]
    rw [dif_pos (hy ▸ text.isValidUTF8)]
    exact congrArg some (String.toByteArray_inj.1 hy)

variable {packet : List UInt8}

theorem part_eq_iff {first last : Nat} {bytes : List UInt8} (h : first ≤ last) :
    part packet first last = bytes ↔ packet.drop first = bytes ++ packet.drop last := by
  rw [← part_append_drop h]
  constructor
  · rintro rfl; rfl
  · exact List.append_cancel_right

theorem length_encodeArgument (arg : String) : (encodeArgument arg).length = 4 + (asBytes arg).length := by
  rw [encodeArgument, List.length_append, length_toLeBytes]

theorem fromLeBytes_part_eq_iff (first width : Nat) {n : Nat} (hn : n < 256 ^ width) (hf : first + width ≤ packet.length) :
    fromLeBytes (part packet first (first + width)) = n ↔
      packet.drop first = toLeBytes width n ++ packet.drop (first + width) := by
  rw [← part_eq_iff (Nat.le_add_right _ _)]
  constructor
  · rintro rfl
    conv_lhs => rw [← toLeBytes_fromLeBytes (part packet first (first + width))]
    rw [length_part hf, Nat.add_sub_cancel_left]
  · intro h; rw [h, fromLeBytes_toLeBytes hn]

theorem decodeArgument_ok_iff {index off last : Nat} {arg : String} :
    decodeArgument packet index off = .ok (arg, last) ↔
      IsArgument arg ∧ last = off + (encodeArgument arg).length ∧ last ≤ packet.length ∧
        packet.drop off = encodeArgument arg ++ packet.drop last := by
  have hm : maxArgumentSize = 4096 := rfl
  unfold decodeArgument
  rw [length_encodeArgument, encodeArgument, List.append_assoc]
  by_cases hlen : packet.length < off + 4
  · rw [if_pos hlen]
    exact ⟨fun h => (by cases h), fun h => absurd h.2.2.1 (by omega)⟩
  rw [if_neg hlen, partOr_of_le (by omega), ok_bind]; dsimp only
  constructor
  · intro h; split at h
    · cases h
    rename_i hz; split at h
    · cases h
    rename_i hf; rw [partOr_of_le (by omega), ok_bind] at h; split at h
    · cases h
    rename_i hnu; split at h
    · cases h
    rename_i text hte
    obtain ⟨rfl, rfl⟩ := Prod.mk.inj (Except.ok.inj h)
    have hy := fromUtf8_eq_some_iff.1 hte
    have hn : (asBytes text).length = fromLeBytes (part packet off (off + 4)) := by
      rw [← hy, length_part (by omega), Nat.add_sub_cancel_left]
    rw [hy] at hnu
    refine ⟨⟨by omega, by omega, hnu⟩, by omega, by omega, ?_⟩; rw [← (part_eq_iff (by omega)).1 hy]
    exact (fromLeBytes_part_eq_iff off 4 (by omega) (by omega)).1 hn.symm
  · rintro ⟨⟨hpos, hz, hnu⟩, rfl, hs, hd⟩
    rw [← Nat.add_assoc] at hs hd ⊢
    have hr : packet.drop (off + 4) = asBytes arg ++ packet.drop (off + 4 + (asBytes arg).length) := by
      rw [← List.drop_drop, hd, List.drop_left' (length_toLeBytes 4 _)]
    rw [← hr] at hd
    rw [(fromLeBytes_part_eq_iff off 4 (by omega) (by omega)).2 hd, if_neg (by omega), if_neg (by omega),
      partOr_of_le (by omega), ok_bind, (part_eq_iff (by omega)).2 hr, if_neg hnu, fromUtf8_eq_some_iff.2 rfl]

theorem decodeArguments_ok_iff : ∀ {cnt index offset last : Nat} {arguments : List String}, offset ≤ packet.length →
    (decodeArguments packet cnt index offset = .ok (arguments, last) ↔
      arguments.length = cnt ∧ (∀ arg ∈ arguments, IsArgument arg) ∧
        last = offset + (arguments.flatMap encodeArgument).length ∧ last ≤ packet.length ∧
          packet.drop offset = arguments.flatMap encodeArgument ++ packet.drop last)
  | 0, index, offset, last, arguments, ho => by
    constructor
    · intro h
      obtain ⟨rfl, rfl⟩ := Prod.mk.inj (Except.ok.inj h)
      exact ⟨rfl, fun _ h => (by cases h), rfl, ho, rfl⟩
    · rintro ⟨hn, -, rfl, -, -⟩
      obtain rfl := List.length_eq_zero_iff.1 hn; rfl
  | cnt + 1, index, offset, last, arguments, ho => by
    unfold decodeArguments
    constructor
    · intro h
      obtain ⟨⟨arg, m⟩, hf, h⟩ := bind_ok.1 h
      obtain ⟨⟨rest, last'⟩, hs, h⟩ := bind_ok.1 h
      obtain ⟨rfl, rfl⟩ := Prod.mk.inj (Except.ok.inj h)
      obtain ⟨har, rfl, hm, hd⟩ := decodeArgument_ok_iff.1 hf
      obtain ⟨hn, hr, hla, he, hd'⟩ := (decodeArguments_ok_iff hm).1 hs
      refine ⟨congrArg (· + 1) hn, List.forall_mem_cons.2 ⟨har, hr⟩, ?_, he, ?_⟩
      · simp only [List.flatMap_cons, List.length_append]; omega
      · rw [hd, hd', List.flatMap_cons, List.append_assoc]
    · rintro ⟨hn, hr, rfl, he, hd⟩
      cases arguments with
      | nil => cases hn
      | cons arg rest =>
        obtain ⟨har, hs⟩ := List.forall_mem_cons.1 hr
        rw [List.flatMap_cons, List.length_append, ← Nat.add_assoc] at he hd ⊢
        have hd' : packet.drop (offset + (encodeArgument arg).length) = rest.flatMap encodeArgument ++
            packet.drop (offset + (encodeArgument arg).length + (rest.flatMap encodeArgument).length) := by
          rw [← List.drop_drop, hd, List.append_assoc, List.drop_left]
        rw [List.append_assoc, ← hd'] at hd
        rw [decodeArgument_ok_iff.2 ⟨har, rfl, by omega, hd⟩, ok_bind,
          (decodeArguments_ok_iff (by omega)).2 ⟨Nat.succ.inj hn, hs, rfl, he, hd'⟩]
        rfl

/-! ## Commands -/

theorem nonZero_val (n : NonZeroU64) : nonZero n.1 = some n := dif_pos n.2

theorem nonZero_eq_some_iff {n : UInt64} {m : NonZeroU64} : nonZero n = some m ↔ n = m.1 := by
  constructor
  · intro h; unfold nonZero at h
    split at h
    · exact congrArg Subtype.val (Option.some.inj h)
    · cases h
  · rintro rfl; exact nonZero_val m

theorem nonZero_inj {m n : UInt64} (h : nonZero m = nonZero n) : m = n := by
  by_cases hm : m = 0
  · by_contra hne
    rw [hm, nonZero, dif_neg (not_not.2 rfl), nonZero, dif_pos (hm ▸ Ne.symm hne)] at h; cases h
  · rw [nonZero, dif_pos hm, eq_comm, nonZero_eq_some_iff] at h; exact h.symm

variable {parseF64 : String → Option F64} {command : UInt8} {requestId : UInt64} {arguments : List String}
  {request : Request}

theorem filter_isFinite_eq_some_iff {value : Option F64} {x : F64} :
    value.filter (·.isFinite) = some x ↔ ∃ q : ℚ, value = some (.finite q) ∧ x = .finite q := by
  rw [Option.filter_eq_some_iff]
  constructor
  · rintro ⟨rfl, hf⟩
    cases x with
    | finite q => exact ⟨q, rfl, rfl⟩
    | infinite | nan => cases hf
  · rintro ⟨q, rfl, rfl⟩; exact ⟨rfl, rfl⟩

theorem decodeRegion_some_iff {region : ScreenshotRegion} :
    decodeRegion parseF64 arguments = .ok (some region) ↔ IsRegion parseF64 arguments region := by
  constructor
  · intro h; unfold decodeRegion at h
    split at h
    · cases h
    · rename_i a b c d; split at h
      · rename_i x y width height hv
        simp only [List.map_cons, List.map_nil, List.cons.injEq, and_true, filter_isFinite_eq_some_iff] at hv
        obtain ⟨⟨x, hx, rfl⟩, ⟨y, hy, rfl⟩, ⟨width, hw, rfl⟩, ⟨height, hh, rfl⟩⟩ := hv
        split at h
        · cases h
        rename_i hn
        obtain rfl := Option.some.inj (Except.ok.inj h)
        simp only [F64.lt, F64.le, decide_eq_true_eq, not_or, not_lt, not_le] at hn
        exact ⟨x, y, width, height, by simp [hx, hy, hw, hh], rfl, hn⟩
      · cases h
    · cases h
  · rintro ⟨x, y, width, height, hv, rfl, hn⟩
    rcases arguments with _ | ⟨a, _ | ⟨b, _ | ⟨c, _ | ⟨d, _ | _⟩⟩⟩⟩ <;>
      simp only [List.map_cons, List.map_nil, List.cons.injEq, and_true, and_false, reduceCtorEq,
        Function.comp_apply] at hv
    obtain ⟨hx, hy, hw, hh⟩ := hv
    have hno : ¬(x < 0 ∨ y < 0 ∨ width ≤ 0 ∨ height ≤ 0) := by
      simpa using hn
    simp [decodeRegion, hx, hy, hw, hh, Option.filter_some, F64.isFinite, F64.lt, F64.le, if_neg hno]

theorem decodeRegion_none_iff : decodeRegion parseF64 arguments = .ok none ↔ arguments = [] := by
  constructor
  · intro h; unfold decodeRegion at h
    split at h
    · rfl
    · split at h
      · split at h <;> cases h
      · cases h
    · cases h
  · rintro rfl; rfl

theorem decodeCommand_ok_iff :
    decodeCommand parseF64 command requestId arguments = .ok request ↔ Means parseF64 command requestId arguments request := by
  constructor
  · intro h; unfold decodeCommand at h
    split at h
    · rename_i hm; subst hm; split at h
      · cases h
      · rename_i hr; cases h; exact .launchApplication hr
    split at h
    · rename_i hm; subst hm; split at h
      · cases h
      split at h
      · cases h
      rename_i hd; split at h
      · cases h
      · rename_i hr; cases h
        exact .launchDesktopApplication (not_not.1 hd) hr
    split at h
    · rename_i hm; subst hm
      obtain ⟨region, hre, h⟩ := bind_ok.1 h; split at h
      · cases h
      rename_i hs; cases h; rw [not_not, Bool.eq_iff_iff] at hs
      cases hid : nonZero requestId with
      | none =>
        rw [hid] at hs
        cases region with
        | some region => simp at hs
        | none =>
          obtain rfl := decodeRegion_none_iff.1 hre
          obtain rfl : requestId = 0 := nonZero_inj (hid.trans rfl)
          exact .takeScreenshot
      | some id =>
        rw [hid] at hs
        cases region with
        | none => simp at hs
        | some region =>
          obtain rfl := nonZero_eq_some_iff.1 hid; exact .takeRegion (decodeRegion_some_iff.1 hre)
    split at h
    · rename_i hm; subst hm; split at h
      · cases h
      rename_i hba; rw [not_or, not_not, not_not] at hba
      obtain ⟨rfl, rfl⟩ := hba
      cases h; exact .logout
    split at h
    · rename_i hm; split at h
      · cases h
      rename_i hr
      obtain rfl := not_not.1 hr; split at h
      · cases h
      rename_i id hid
      obtain rfl := nonZero_eq_some_iff.1 hid
      rcases hm with rfl | rfl
      · cases h; exact .screenshotPrepared id
      · cases h; exact .cancelScreenshot id
    · cases h
  · intro h
    cases h with
    | launchApplication hr => exact if_neg hr
    | launchDesktopApplication hd hr =>
      simp [decodeCommand, hd, hr]
    | takeScreenshot => rfl
    | takeRegion hre => simp [decodeCommand, decodeRegion_some_iff.2 hre, nonZero_val, ok_bind]
    | logout => rfl
    | screenshotPrepared | cancelScreenshot => simp [decodeCommand, nonZero_val]

theorem Means.inj {cmd' : UInt8} {req' : UInt64} {args' : List String}
    (ho : ∀ id rgn, request ≠ .screenshot id rgn) (h : Means parseF64 command requestId arguments request)
    (h' : Means parseF64 cmd' req' args' request) : cmd' = command ∧ req' = requestId ∧ args' = arguments := by
  cases h with
  | launchApplication =>
    generalize hid : nonZero requestId = id at h'
    cases h' with
    | launchApplication => exact ⟨rfl, nonZero_inj hid.symm, rfl⟩
  | launchDesktopApplication =>
    generalize hid : nonZero requestId = id at h'
    cases h' with
    | launchDesktopApplication => exact ⟨rfl, nonZero_inj hid.symm, rfl⟩
  | takeScreenshot | takeRegion => exact absurd rfl (ho _ _)
  | logout | screenshotPrepared | cancelScreenshot =>
    cases h'; exact ⟨rfl, rfl, rfl⟩

/-! ## Packets -/

theorem bind_ne_panic {ε α β : Type} {x : Except (Option ε) α} {f : α → Except (Option ε) β} (hx : x ≠ .error none)
    (hf : ∀ a, f a ≠ .error none) : (x >>= f) ≠ .error none := by
  cases x with
  | ok a => exact hf a
  | error e =>
    intro h
    cases h; exact hx rfl

theorem decodeArguments_total : ∀ count index off : Nat, decodeArguments packet count index off ≠ .error none
  | 0, index, off => fun h => by cases h
  | count + 1, index, off => by
    refine bind_ne_panic ?_ fun first => bind_ne_panic (decodeArguments_total count _ _) fun rest h => by cases h
    unfold decodeArgument; split
    · exact fun h => by cases h
    rw [partOr_of_le (by omega), ok_bind]; dsimp only
    split
    · exact fun h => by cases h
    split
    · exact fun h => by cases h
    rw [partOr_of_le (by omega), ok_bind]; split
    · exact fun h => by cases h
    split <;> exact fun h => by cases h

theorem decodeRegion_total : decodeRegion parseF64 arguments ≠ .error none := by
  unfold decodeRegion
  repeat' split
  all_goals exact fun h => by cases h

theorem decodeCommand_total : decodeCommand parseF64 command requestId arguments ≠ .error none := by
  unfold decodeCommand
  repeat' split
  all_goals first
    | exact fun h => by cases h
    | refine bind_ne_panic decodeRegion_total fun rgn => ?_
      split <;> exact fun h => by cases h

theorem decode_ok_iff : decode parseF64 packet = .ok request ↔
    ∃ command requestId arguments, IsPacket packet command requestId arguments ∧
      Means parseF64 command requestId arguments request := by
  have hh : headerSize = 13 := rfl
  have hma : maxPacketSize = 65536 := rfl
  have hcu : maxArguments = 64 := rfl
  unfold decode
  constructor
  · intro h; split at h
    · cases h
    rename_i hs; rw [not_not] at hs
    cases packet with
    | nil => exact absurd hs.1 (by decide)
    | cons command bytes =>
      rw [List.getElem?_cons_zero, Option.elim_some, ok_bind, partOr_of_le (by omega), ok_bind, partOr_of_le (by omega),
        ok_bind] at h
      dsimp only at h; split at h
      · cases h
      obtain ⟨⟨arguments, last⟩, har, h⟩ := bind_ok.1 h; split at h
      · cases h
      rename_i hla
      obtain rfl := not_not.1 hla
      have hid := fromLeBytes_lt (part (command :: bytes) 1 9); rw [length_part (by omega)] at hid
      obtain ⟨hlen, hal, -, -, hd⟩ := (decodeArguments_ok_iff hs.1).1 har
      refine ⟨command, _, arguments, ⟨?_, hs.2, by omega, hal⟩, decodeCommand_ok_iff.1 h⟩
      have hid' := (fromLeBytes_part_eq_iff 1 8 hid (by omega)).1 rfl
      have hc' := (fromLeBytes_part_eq_iff 9 4 (by omega) (by omega)).1 hlen.symm
      rw [hh] at hd; rw [List.drop_length, List.append_nil] at hd
      rw [encode, UInt64.toNat_ofNat_of_lt' hid, List.append_assoc, ← hd]
      refine congrArg (List.cons command) ?_; exact hid'.trans (congrArg _ hc')
  · rintro ⟨command, requestId, arguments, ⟨hy, hs, hag, hal⟩, hm⟩
    have hco : packet[0]? = some command := by rw [hy, encode, List.getElem?_cons_zero]
    have hn : packet.drop 9 = toLeBytes 4 arguments.length ++ arguments.flatMap encodeArgument := by
      rw [hy, encode, List.drop_succ_cons, List.append_assoc, List.drop_left' (length_toLeBytes 8 _)]
    have hid : packet.drop 1 = toLeBytes 8 requestId.toNat ++ packet.drop 9 := by
      rw [hn, hy, encode, List.drop_succ_cons, List.drop_zero, List.append_assoc]
    have hr : packet.drop 13 = arguments.flatMap encodeArgument := by
      rw [← List.drop_drop (i := 4) (j := 9), hn, List.drop_left' (length_toLeBytes 4 _)]
    have hlen : packet.length = 13 + (arguments.flatMap encodeArgument).length := by
      rw [hy, encode, List.length_cons, List.length_append, List.length_append, length_toLeBytes, length_toLeBytes]
      omega
    have hde : decodeArguments packet arguments.length 0 headerSize = .ok (arguments, packet.length) := by
      refine (decodeArguments_ok_iff (by omega)).2 ⟨rfl, hal, hlen, Nat.le_refl _, ?_⟩
      rw [hh, hr, List.drop_length, List.append_nil]
    rw [← hr] at hn
    rw [if_neg (not_not.2 ⟨by omega, hs⟩), hco, Option.elim_some, ok_bind, partOr_of_le (by omega), ok_bind,
      partOr_of_le (by omega), ok_bind, hh]
    dsimp only
    rw [(fromLeBytes_part_eq_iff 9 4 (by omega) (by omega)).2 hn, if_neg (by omega), ← hh,
      hde, ok_bind, if_neg (not_not.2 rfl),
      (fromLeBytes_part_eq_iff 1 8 requestId.toNat_lt (by omega)).2 hid, UInt64.ofNat_toNat]
    exact decodeCommand_ok_iff.2 hm

/-- A packet is decoded without a read outside it, to a request if and only if it has the format, and no other packet is
decoded to the request of a launch, a logout or an answer about a screenshot. -/
structure DecodesExactly (parseF64 : String → Option F64) (packet : List UInt8) : Prop where
  total : decode parseF64 packet ≠ .error none
  exact : ∀ request, decode parseF64 packet = .ok request ↔
    ∃ command requestId arguments, IsPacket packet command requestId arguments ∧
      Means parseF64 command requestId arguments request
  injective : ∀ request packet', (∀ id region, request ≠ .screenshot id region) → decode parseF64 packet = .ok request →
    decode parseF64 packet' = .ok request → packet' = packet

theorem system_commands_decoded (parseF64 : String → Option F64) (packet : List UInt8) : DecodesExactly parseF64 packet where
  total := by
    unfold decode; split
    · exact fun h => by cases h
    rename_i hsiz; rw [not_not] at hsiz
    cases packet with
    | nil => exact absurd hsiz.1 (by decide)
    | cons command bytes =>
      have hhead : headerSize = 13 := rfl
      rw [List.getElem?_cons_zero, Option.elim_some, ok_bind, partOr_of_le (by omega), ok_bind, partOr_of_le (by omega),
        ok_bind]
      dsimp only; split
      · exact fun h => by cases h
      refine bind_ne_panic (decodeArguments_total _ _ _) fun arguments => ?_; split
      · exact fun h => by cases h
      · exact decodeCommand_total
  exact request := decode_ok_iff
  injective request packet' hoth h h' := by
    obtain ⟨command, requestId, arguments, hpac, hmean⟩ := decode_ok_iff.1 h
    obtain ⟨command', requestId', arguments', hpac', hmean'⟩ := decode_ok_iff.1 h'
    obtain ⟨rfl, rfl, rfl⟩ := hmean.inj hoth hmean'; exact hpac'.bytes.trans hpac.bytes.symm

end Deniald.Flutter.SystemCommand
