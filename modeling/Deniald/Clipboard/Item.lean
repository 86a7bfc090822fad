/-
Clipboard items: the representations an offer is captured in, how their bytes are validated, and what an item keeps
of them.
-/
import Deniald.Lib.LittleEndian
import Deniald.Topology.Output
import Mathlib.Data.List.Infix
import Mathlib.Data.List.Sort

namespace Deniald.Clipboard

open Deniald.Lib
open Deniald.Topology (trim isWhitespace)

/-! ## Limits -/

def maxMimeBytes : Nat := 256

def maxTextBytes : Nat := 1024 * 1024

def maxImageBytes : Nat := 16 * 1024 * 1024

def maxItemBytes : Nat := 24 * 1024 * 1024

def maxHistoryBytes : Nat := 64 * 1024 * 1024

def maxHistoryItems : Nat := 100

def maxCaptureRepresentations : Nat := 4

def maxOfferedMimeTypes : Nat := 256

def maxSourceAppIdBytes : Nat := 512

def maxSourceTitleBytes : Nat := 1024

def maxPreviewBytes : Nat := 1024

def maxImageDimension : Nat := 16384

def maxImagePixels : Nat := 64 * 1024 * 1024

/-! ## Text -/

/-- `str::as_bytes`. -/
def asBytes (s : String) : List UInt8 := s.toByteArray.data.toList

/-- `str::from_utf8`. -/
def fromUtf8 (bytes : List UInt8) : Option String := String.fromUTF8? ⟨bytes.toArray⟩

/-- `char::is_control`. -/
def isControl (c : Char) : Bool := c.toNat < 0x20 || (0x7f ≤ c.toNat && c.toNat < 0xa0)

/-- `str::len` of the characters. -/
def utf8Len (s : List Char) : Nat := (s.map Char.utf8Size).sum

/-- The longest start of a text that ends on a character and has at most `maximum` bytes. -/
def takeUtf8 : Nat → List Char → List Char
  | _, [] => []
  | maximum, c :: s => if c.utf8Size ≤ maximum then c :: takeUtf8 (maximum - c.utf8Size) s else []

def sanitizeMetadata (value : String) (maxBytes : Nat) : String :=
  let value := trim (value.toList.filter fun c => !isControl c)
  if utf8Len value ≤ maxBytes then .ofList value else .ofList (trim (takeUtf8 maxBytes value))

/-- The loop of `text_preview`, with the output so far in reverse and whether a space is due. -/
def previewLoop : List Char → List Char → Bool → List Char
  | [], output, _ => output
  | c :: s, output, separating =>
    if isWhitespace c then previewLoop s output (!output.isEmpty)
    else if separating && decide (maxPreviewBytes < utf8Len output + 1) then output
    else
      let output := if separating then ' ' :: output else output
      if maxPreviewBytes < utf8Len output + c.utf8Size then output else previewLoop s (c :: output) false

def textPreview (text : String) : String := .ofList (previewLoop (trim text.toList) [] false).reverse

/-- `starts_with`. -/
def startsWith (s start : String) : Bool := start.toList.isPrefixOf s.toList

/-! ## MIME types -/

inductive ClipboardOrigin where
  | wayland
  | x11
  | flutter

/-- `origin as u8`. -/
def ClipboardOrigin.toByte : ClipboardOrigin → UInt8
  | .wayland => 0
  | .x11 => 1
  | .flutter => 2

inductive ClipboardContentKind where
  | text
  | image
  deriving DecidableEq

/-- `kind as u8`. -/
def ClipboardContentKind.toByte : ClipboardContentKind → UInt8
  | .text => 0
  | .image => 1

/-- The most bytes a representation may have. -/
def ClipboardContentKind.limit : ClipboardContentKind → Nat
  | .text => maxTextBytes
  | .image => maxImageBytes

def representationPriority (mimeType : String) : Nat :=
  let mimeType := mimeType.toLower
  if mimeType = "image/png" then 0
  else if mimeType = "image/webp" then 1
  else if mimeType = "image/jpeg" ∨ mimeType = "image/jpg" then 2
  else if mimeType = "text/plain;charset=utf-8" ∨ mimeType = "text/plain;charset=utf8" then 3
  else if mimeType = "text/plain" then 4
  else if mimeType = "text/uri-list" then 5
  else if startsWith mimeType "text/plain;" then 6
  else 255

def mimeKind (mimeType : String) : Option ClipboardContentKind :=
  let mimeType := (String.ofList (trim mimeType.toList)).toLower
  if mimeType = "text/plain" ∨ startsWith mimeType "text/plain;" ∨ mimeType = "text/uri-list" then some .text
  else if mimeType = "image/png" ∨ mimeType = "image/webp" ∨ mimeType = "image/jpeg" ∨ mimeType = "image/jpg" then
    some .image
  else none

/-! ## Images -/

/-- `from_be_bytes`. -/
def fromBeBytes (bytes : List UInt8) : Nat := bytes.foldl (fun n b => 256 * n + b.toNat) 0

/-- The bytes of `data` from one position up to another. -/
def range (data : List UInt8) (first last : Nat) : List UInt8 := (data.drop first).take (last - first)

/-- The chunks of a PNG: `dimensions` are read from the first one, which has to be the header. -/
def pngChunks : Nat → List UInt8 → Option (Nat × Nat) → Option (Nat × Nat)
  | 0, _, _ => none
  | fuel + 1, data, dimensions =>
    if data.length < 12 then none
    else
      let length := fromBeBytes (range data 0 4)
      let kind := range data 4 8
      let rest := data.drop (12 + length)
      if data.length < 12 + length then none
      else if dimensions = none ∧ (kind ≠ asBytes "IHDR" ∨ length ≠ 13) then none
      else
        let dimensions := dimensions <|> some (fromBeBytes (range data 8 12), fromBeBytes (range data 12 16))
        if kind = asBytes "IEND" then if length ≠ 0 ∨ rest ≠ [] then none else dimensions
        else pngChunks fuel rest dimensions

def pngSignature : List UInt8 := [0x89, 0x50, 0x4e, 0x47, 0x0d, 0x0a, 0x1a, 0x0a]

def pngDimensions (data : List UInt8) : Option (Nat × Nat) :=
  if pngSignature.isPrefixOf data then pngChunks data.length (data.drop 8) none else none

/-- The markers that start a frame and carry its size. -/
def frameMarkers : List UInt8 := [0xc0, 0xc1, 0xc2, 0xc3, 0xc5, 0xc6, 0xc7, 0xc9, 0xca, 0xcb, 0xcd, 0xce, 0xcf]

def jpegSegments : Nat → List UInt8 → Option (Nat × Nat)
  | 0, _ => none
  | fuel + 1, data =>
    if data.length < 2 then none
    else match data.dropWhile (· = 0xff) with
      | [] => none
      | marker :: rest =>
        if marker = 0xd9 ∨ marker = 0xda then none
        else if marker = 0x01 ∨ (0xd0 ≤ marker ∧ marker ≤ 0xd7) then jpegSegments fuel rest
        else if rest.length < 2 then none
        else
          let segmentLen := fromBeBytes (range rest 0 2)
          if segmentLen < 2 ∨ rest.length < segmentLen then none
          else if marker ∈ frameMarkers then
            if segmentLen < 7 then none else some (fromBeBytes (range rest 5 7), fromBeBytes (range rest 3 5))
          else jpegSegments fuel (rest.drop segmentLen)

def jpegDimensions (data : List UInt8) : Option (Nat × Nat) :=
  if 4 ≤ data.length ∧ range data 0 2 = [0xff, 0xd8] ∧ data.drop (data.length - 2) = [0xff, 0xd9] then
    jpegSegments data.length (data.drop 2)
  else none

/-- The dimensions a chunk of a WebP gives, if it is one that has them. -/
def webpChunk (kind payload : List UInt8) : Option (Nat × Nat) :=
  if kind = asBytes "VP8X" ∧ 10 ≤ payload.length then
    some (1 + fromLeBytes (range payload 4 7), 1 + fromLeBytes (range payload 7 10))
  else if kind = asBytes "VP8L" ∧ 5 ≤ payload.length ∧ payload[0]? = some 0x2f then
    let bits := fromLeBytes (range payload 1 5)
    some (1 + bits % 0x4000, 1 + bits / 0x4000 % 0x4000)
  else if kind = asBytes "VP8 " ∧ 10 ≤ payload.length ∧ range payload 3 6 = [0x9d, 0x01, 0x2a] then
    some (fromLeBytes (range payload 6 8) % 0x4000, fromLeBytes (range payload 8 10) % 0x4000)
  else none

/-- The chunks of a WebP from the cursor on, each padded to an even length. -/
def webpChunks : Nat → List UInt8 → Option (Nat × Nat)
  | 0, _ => none
  | fuel + 1, data =>
    if data.length < 8 then none
    else
      let length := fromLeBytes (range data 4 8)
      if data.length < 8 + length then none
      else webpChunk (range data 0 4) (range data 8 (8 + length)) <|>
        webpChunks fuel (data.drop (8 + length + length % 2))

def webpDimensions (data : List UInt8) : Option (Nat × Nat) :=
  if data.length < 20 ∨ range data 0 4 ≠ asBytes "RIFF" ∨ range data 8 12 ≠ asBytes "WEBP" then none
  else if fromLeBytes (range data 4 8) + 8 ≠ data.length then none
  else webpChunks data.length (data.drop 12)

def validImageDimensions (dimensions : Nat × Nat) : Bool :=
  let (width, height) := dimensions
  0 < width && 0 < height && width ≤ maxImageDimension && height ≤ maxImageDimension &&
    width * height ≤ maxImagePixels

def validateImage (mimeType : String) (data : List UInt8) : Option (Nat × Nat) :=
  let mimeType := mimeType.toLower
  let dimensions :=
    if mimeType = "image/png" then pngDimensions data
    else if mimeType = "image/jpeg" ∨ mimeType = "image/jpg" then jpegDimensions data
    else if mimeType = "image/webp" then webpDimensions data
    else none
  dimensions.filter validImageDimensions

/-! ## Representations -/

structure ClipboardRepresentation where
  mimeType : String
  data : List UInt8
  kind : ClipboardContentKind
  dimensions : Option (Nat × Nat)
  deriving DecidableEq

def validateRepresentation (mimeType : String) (data : List UInt8) : Option ClipboardRepresentation :=
  match mimeKind mimeType with
  | none => none
  | some kind =>
    if kind.limit < data.length then none
    else match kind with
      | .text => if fromUtf8 data = none ∨ 0 ∈ data then none else some ⟨mimeType, data, kind, none⟩
      | .image =>
        match validateImage mimeType data with
        | none => none
        | some dimensions => some ⟨mimeType, data, kind, some dimensions⟩

structure CaptureRepresentation where
  mimeType : String
  maxBytes : Nat

def safeMimeType (mimeType : String) : Bool :=
  !(asBytes mimeType).isEmpty && (asBytes mimeType).length ≤ maxMimeBytes &&
    (asBytes mimeType).all fun b => b < 128 && !(b < 32 || b == 127)

/-- The loop that picks the representations, with the keys seen, whether an image is among them, and the number to go. -/
def selectLoop : List (String × ClipboardContentKind) → List String → Bool → Nat → List CaptureRepresentation
  | [], _, _, _ => []
  | (mimeType, kind) :: safe, keys, imageSelected, room =>
    let key := mimeType.toLower
    if key ∈ keys then selectLoop safe keys imageSelected room
    else if kind = .image ∧ imageSelected then selectLoop safe (key :: keys) imageSelected room
    else
      let selected : CaptureRepresentation := ⟨mimeType, kind.limit⟩
      if room ≤ 1 then [selected]
      else selected :: selectLoop safe (key :: keys) (imageSelected || kind == .image) (room - 1)

def sortByPriority {α : Type} (mimeType : α → String) (l : List α) : List α :=
  l.insertionSort fun a b => representationPriority (mimeType a) ≤ representationPriority (mimeType b)

def selectCaptureRepresentations (offered : List String) : List CaptureRepresentation :=
  let safe := ((offered.take maxOfferedMimeTypes).filter safeMimeType).filterMap fun mimeType =>
    (mimeKind mimeType).map fun kind => (mimeType, kind)
  selectLoop (sortByPriority Prod.fst safe) [] false maxCaptureRepresentations

/-! ## Items -/

structure ClipboardSourceIdentity where
  appId : String
  title : String

def ClipboardSourceIdentity.bounded (appId title : String) : Option ClipboardSourceIdentity :=
  let appId := sanitizeMetadata appId maxSourceAppIdBytes
  let title := sanitizeMetadata title maxSourceTitleBytes
  if appId = "" ∧ title = "" then none else some ⟨appId, title⟩

structure ClipboardItem where
  id : UInt64
  capturedUnixMs : Nat
  origin : ClipboardOrigin
  source : Option ClipboardSourceIdentity
  representations : List ClipboardRepresentation
  kind : ClipboardContentKind
  byteLen : Nat
  preview : String
  width : Nat
  height : Nat
  pinned : Bool
  nonempty : representations ≠ []
  bytes : byteLen = (representations.map (·.data.length)).sum

namespace ClipboardItem

def primary (item : ClipboardItem) : ClipboardRepresentation := item.representations.head item.nonempty

def sameContent (item other : ClipboardItem) : Bool :=
  item.primary.kind == other.primary.kind && item.primary.data == other.primary.data

def data (item : ClipboardItem) (mimeType : String) : Option (List UInt8) :=
  (item.representations.find? fun r => r.mimeType.toLower == mimeType.toLower).map (·.data)

/-- The first of the smallest elements, `min_by_key`. -/
def minByKey {α : Type} (key : α → Nat) : List α → Option α
  | [] => none
  | a :: l => match minByKey key l with
    | none => some a
    | some b => if key b < key a then some b else some a

def text (item : ClipboardItem) : Option String :=
  (minByKey (fun r => representationPriority r.mimeType) (item.representations.filter (·.kind = .text))).bind
    fun r => fromUtf8 r.data

/-- Whether the item is found by a folded query; `toLowercase` is `str::to_lowercase`. -/
def matchesQuery (toLowercase : String → String) (item : ClipboardItem) (foldedQuery : String) : Bool :=
  let found (s : String) : Bool := foldedQuery.toList <:+: (toLowercase s).toList
  foldedQuery = "" || found item.preview || item.source.any (fun source => found source.appId || found source.title) ||
    item.representations.any fun r => found r.mimeType

end ClipboardItem

def itemFromRepresentations (id : UInt64) (now : Nat) (origin : ClipboardOrigin) (source : Option ClipboardSourceIdentity)
    (representations : List ClipboardRepresentation) (pinned : Bool) (h : representations ≠ []) : ClipboardItem :=
  let primary := representations.head h
  let (width, height) := primary.dimensions.getD (0, 0)
  { id := id
    capturedUnixMs := now
    origin := origin
    source := source
    representations := representations
    kind := primary.kind
    byteLen := (representations.map (·.data.length)).sum
    preview := ((representations.find? (·.kind = .text)).bind fun r => fromUtf8 r.data).elim "" textPreview
    width := width
    height := height
    pinned := pinned
    nonempty := h
    bytes := rfl }

end Deniald.Clipboard
