/-
The overview (desktop_overview_layout.dart): the windows of useful size, in spatial order, are cut into rows of about
equal aspect; one scale fits the rows into the height and keeps every cell from outgrowing its window; and the number
of rows of the best score is taken. Coordinates are rationals, and so is the height of a band of the spatial order.
-/
import Deniald.Desktop.Workspace
import Mathlib.Algebra.BigOperators.Ring.List
import Mathlib.Tactic.Positivity

namespace Deniald.Desktop.OverviewLayout

open Deniald.Lib

/-! ## Model -/

structure DesktopOverviewItem where
  objectId : Int
  frame : Rect
  z : Int

def DesktopOverviewItem.aspectRatio (item : DesktopOverviewItem) : ℚ :=
  if item.frame.width ≤ 0 ∨ item.frame.height ≤ 0 then 16 / 10
  else clamp (item.frame.width / item.frame.height) (32 / 100) (36 / 10)

def gap : ℚ := 18

def outerPadding : ℚ := 30

def minimumCellWidth : ℚ := 504

def minimumCellHeight : ℚ := 324

def isUsefulPreview (frame : Rect) : Bool := 160 ≤ frame.width && 90 ≤ frame.height

abbrev Row := List DesktopOverviewItem

/-- `List.sort`, of which only that it permutes is used. -/
structure ListSort where
  sort : (DesktopOverviewItem → DesktopOverviewItem → Ordering) → Row → Row
  perm : ∀ compare items, (sort compare items).Perm items

def compareSpatially (rowBand : ℚ) (available : Rect) (left right : DesktopOverviewItem) : Ordering :=
  let band (item : DesktopOverviewItem) : Int := ⌊(item.frame.center.dy - available.top) / rowBand⌋
  (compare (band left) (band right)).then <| (compare left.frame.center.dx right.frame.center.dx).then <|
    (compare left.frame.center.dy right.frame.center.dy).then <| compare left.z right.z

/-- The loop that extends a row by at most `room` items, while that brings its aspect nearer to the target: what it
takes, what it leaves and the aspect it ends with. -/
def extendRow (target : ℚ) : Nat → ℚ → Row →
    Row × Row × ℚ
  | room + 1, aspect, item :: items =>
    if |aspect - target| < |aspect + item.aspectRatio - target| then ([], item :: items, aspect)
    else
      let extended := extendRow target room (aspect + item.aspectRatio) items
      (item :: extended.1, extended.2)
  | _, aspect, items => ([], items, aspect)

def aspectSum (row : Row) : ℚ := (row.map (·.aspectRatio)).sum

/-- The loop over the rows that remain. Each leaves an item to every later one, so that `items[start]` is there. -/
def partitionRemaining : Nat → Row → ℚ → List (Row)
  | 0, _, _ | _ + 2, [], _ => []
  | 1, items, _ => [items]
  | rows + 2, item :: items, remainingAspect =>
    let extended := extendRow (remainingAspect / (rows + 2 : Nat)) (items.length - (rows + 1)) item.aspectRatio items
    (item :: extended.1) :: partitionRemaining (rows + 1) extended.2.1 (remainingAspect - extended.2.2)

def partitionRows (items : Row) (rowCount : Nat) : List (Row) :=
  partitionRemaining rowCount items (aspectSum items)

/-- Sizes laid side by side, with the gaps between them. -/
def extent (sizes : List ℚ) : ℚ := sizes.sum + gap * (sizes.length - 1 : Nat)

/-- `none` is infinite. -/
def sourcePreviewHeight (item : DesktopOverviewItem) : Option ℚ :=
  if item.frame.width ≤ 0 ∨ item.frame.height ≤ 0 then none
  else some (min item.frame.height (item.frame.width / item.aspectRatio))

def widthForWindows (available : Rect) (row : Row) : ℚ :=
  available.width - gap * (row.length - 1 : Nat)

def heightForWindows (available : Rect) (rows : List (Row)) : ℚ :=
  available.height - gap * (rows.length - 1 : Nat)

/-- The rows with the heights at which they fill the width. -/
def naturalHeights (available : Rect) (rows : List (Row)) : List (Row × ℚ) :=
  rows.map fun row => (row, widthForWindows available row / aspectSum row)

/-- The scales at which the cells of a row are as high as their windows, or as the least cells. -/
def cellScales (row : Row × ℚ) : List ℚ :=
  row.1.filterMap fun item => (sourcePreviewHeight item).map fun source =>
    max source (max minimumCellHeight (minimumCellWidth / item.aspectRatio)) / row.2

def commonScale (height : ℚ) (rows : List (Row × ℚ)) : ℚ :=
  (rows.flatMap cellScales).foldl min (min 1 (height / (rows.map (·.2)).sum))

def preview (top height left : ℚ) (item : DesktopOverviewItem) : Rect :=
  let cell := Rect.fromLTWH left top (item.aspectRatio * height) height
  let previewHeight := (sourcePreviewHeight item).elim cell.height (min cell.height)
  .fromCenter cell.center (item.aspectRatio * previewHeight) previewHeight

def placeRow (top height : ℚ) : ℚ → Row → List (DesktopOverviewItem × Rect)
  | _, [] => []
  | left, item :: items =>
    (item, preview top height left item) :: placeRow top height (left + item.aspectRatio * height + gap) items

def rowWidth (row : Row × ℚ) : ℚ := extent (row.1.map (·.aspectRatio * row.2))

def placeRows (available : Rect) : ℚ → List (Row × ℚ) → List (DesktopOverviewItem × Rect)
  | _, [] => []
  | top, row :: rows =>
    placeRow top row.2 (available.left + (available.width - rowWidth row) / 2) row.1 ++
      placeRows available (top + row.2 + gap) rows

structure OverviewCandidate where
  frames : LinkedMap Int Rect
  score : ℚ

def score (available : Rect) (rowHeights : List ℚ) (placed : List (DesktopOverviewItem × Rect)) : ℚ :=
  let occupiedArea := (placed.map fun p => p.2.width * p.2.height).sum
  let movement := (placed.map fun p =>
    (p.2.center.dx - p.1.frame.center.dx) ^ 2 + (p.2.center.dy - p.1.frame.center.dy) ^ 2).sum
  let maximumHeight := rowHeights.foldl max 0
  let balance := if maximumHeight ≤ 0 then 0 else clamp (rowHeights.min?.getD 0 / maximumHeight) 0 1
  let movementScale := max 1 (available.width * available.width + available.height * available.height)
  occupiedArea * (88 / 100 + 12 / 100 * balance) - occupiedArea * (movement / movementScale) * (2 / 1000)

def framesOf (placed : List (DesktopOverviewItem × Rect)) : LinkedMap Int Rect :=
  .ofList (placed.map fun p => (p.1.objectId, p.2))

def layoutRows (rows : List (Row)) (available : Rect) : Option OverviewCandidate :=
  if heightForWindows available rows ≤ 0 ∨ ∃ row ∈ rows, widthForWindows available row ≤ 0 then none
  else
    let natural := naturalHeights available rows
    if (natural.map (·.2)).sum ≤ 0 then none
    else
      let scale := commonScale (heightForWindows available rows) natural
      let scaled := natural.map fun row => (row.1, row.2 * scale)
      let rowHeights := scaled.map (·.2)
      let placed := placeRows available (available.top + (available.height - extent rowHeights) / 2) scaled
      some ⟨framesOf placed, score available rowHeights placed⟩

def better (best : Option OverviewCandidate) (candidate : OverviewCandidate) : Option OverviewCandidate :=
  if best.all (·.score < candidate.score) then some candidate else best

def availableBounds (bounds : Rect) : Rect := bounds.deflate (min outerPadding (min bounds.width bounds.height * (8 / 100)))

def usefulItems (items : Row) : Row := items.filter (isUsefulPreview ·.frame)

def orderedItems (sort : ListSort) (rowBand : ℚ) (items : Row) (bounds : Rect) :
    Row :=
  sort.sort (compareSpatially rowBand (availableBounds bounds)) (usefulItems items)

def arrange (sort : ListSort) (rowBand : ℚ) (items : Row) (bounds : Rect) : LinkedMap Int Rect :=
  let available := availableBounds bounds
  if usefulItems items = [] ∨ bounds.width ≤ 0 ∨ bounds.height ≤ 0 then .empty
  else if available.width ≤ 0 ∨ available.height ≤ 0 then .empty
  else
    let ordered := orderedItems sort rowBand items bounds
    let candidates := (List.range ordered.length).filterMap fun i => layoutRows (partitionRows ordered (i + 1)) available
    (candidates.foldl better none).elim .empty (·.frames)

/-! ## Rows -/

variable {item : DesktopOverviewItem} {items row : Row} {rows : List (Row)}
  {available bounds : Rect}

theorem aspectRatio_pos (item : DesktopOverviewItem) : 0 < item.aspectRatio := by
  unfold DesktopOverviewItem.aspectRatio; split_ifs
  · norm_num
  · exact lt_of_lt_of_le (by norm_num) (clamp_mem (by norm_num)).1

theorem aspectSum_pos (h : row ≠ []) : 0 < aspectSum row :=
  List.sum_pos _ (by simpa using fun a _ => aspectRatio_pos a) (by simpa using h)

theorem extendRow_append (tgt : ℚ) : ∀ (room : Nat) (aspect : ℚ) (items : Row),
    (extendRow tgt room aspect items).1 ++ (extendRow tgt room aspect items).2.1 = items ∧
      (extendRow tgt room aspect items).1.length ≤ room
  | 0, _, _ | _ + 1, _, [] => by simp [extendRow]
  | room + 1, aspect, item :: items => by
    obtain ⟨hap, hlen⟩ := extendRow_append tgt room (aspect + item.aspectRatio) items
    unfold extendRow; split_ifs
    · exact ⟨rfl, Nat.zero_le _⟩
    · exact ⟨congrArg (item :: ·) hap, Nat.succ_le_succ hlen⟩

/-- Every item is in one row, in order, and no row is empty. -/
structure Partitions (items : Row) (rows : List Row) : Prop where
  flatten : rows.flatten = items
  nonempty : ∀ row ∈ rows, row ≠ []

theorem partitionRemaining_partitions : ∀ (cnt : Nat) (items : Row) (remainingAspect : ℚ),
    0 < cnt → cnt ≤ items.length → Partitions items (partitionRemaining cnt items remainingAspect)
  | 0, _, _, h, _ => absurd h (Nat.lt_irrefl 0)
  | 1, items, _, _, h => ⟨by simp [partitionRemaining], by simpa [partitionRemaining] using List.length_pos_iff.1 h⟩
  | rows + 2, item :: items, remainingAspect, _, h => by
    rw [List.length_cons] at h
    obtain ⟨hap, hlen⟩ := extendRow_append (remainingAspect / (rows + 2 : Nat)) (items.length - (rows + 1))
      item.aspectRatio items
    unfold partitionRemaining
    generalize extendRow _ _ _ items = extended at hap hlen
    have hf : rows + 1 ≤ extended.2.1.length := by
      have := congrArg List.length hap; rw [List.length_append] at this; omega
    have ih := partitionRemaining_partitions (rows + 1) _ (remainingAspect - extended.2.2) (Nat.succ_pos _) hf
    refine ⟨by rw [List.flatten_cons, ih.flatten, List.cons_append, hap], fun row hmem => ?_⟩
    rcases List.mem_cons.1 hmem with rfl | hmem
    · exact List.cons_ne_nil _ _
    · exact ih.nonempty row hmem

/-! ## Frames -/

structure Within (r frame : Rect) : Prop where
  left : r.left ≤ frame.left
  top : r.top ≤ frame.top
  right : frame.right ≤ r.right
  bottom : frame.bottom ≤ r.bottom

def Apart (a b : Rect) : Prop := a.right ≤ b.left ∨ b.right ≤ a.left ∨ a.bottom ≤ b.top ∨ b.bottom ≤ a.top

/-- A preview has the window's clamped aspect and is nowhere larger than the window. -/
structure Undistorted (item : DesktopOverviewItem) (frame : Rect) : Prop where
  height_pos : 0 < frame.height
  aspect : frame.width = item.aspectRatio * frame.height
  width_le : frame.width ≤ item.frame.width
  height_le : frame.height ≤ item.frame.height

theorem sourcePreviewHeight_useful (h : isUsefulPreview item.frame) : ∃ source,
    sourcePreviewHeight item = some source ∧ 0 < source ∧ source ≤ item.frame.height ∧
      item.aspectRatio * source ≤ item.frame.width := by
  simp only [isUsefulPreview, Bool.and_eq_true, decide_eq_true_eq] at h
  have ha := aspectRatio_pos item
  have hw : 0 < item.frame.width := by linarith
  refine ⟨_, if_neg (by rintro (h | h) <;> linarith), lt_min (by linarith) (by positivity), min_le_left .., ?_⟩
  calc item.aspectRatio * min item.frame.height (item.frame.width / item.aspectRatio)
      ≤ item.aspectRatio * (item.frame.width / item.aspectRatio) := mul_le_mul_of_nonneg_left (min_le_right ..) ha.le
    _ = item.frame.width := mul_div_cancel₀ _ ha.ne'

theorem preview_spec (top left : ℚ) {height : ℚ} (hh : 0 < height) (h : isUsefulPreview item.frame) :
    Within ⟨left, top, left + item.aspectRatio * height, top + height⟩ (preview top height left item) ∧
      Undistorted item (preview top height left item) := by
  obtain ⟨source, hs, hpos, hle, hw⟩ := sourcePreviewHeight_useful h
  have ha := aspectRatio_pos item
  have hp : 0 < min height source := lt_min hh hpos
  have hph : min height source ≤ height := min_le_left ..
  have hap := mul_le_mul_of_nonneg_left hph ha.le
  have haps := mul_le_mul_of_nonneg_left (min_le_right height source) ha.le
  have heq : preview top height left item = .fromCenter ⟨left + item.aspectRatio * height / 2, top + height / 2⟩
      (item.aspectRatio * min height source) (min height source) := by
    simp [preview, hs, Rect.fromLTWH, Rect.center, Rect.width, Rect.height]
  have hps := min_le_right height source
  rw [heq]; unfold Rect.width at hw; unfold Rect.height at hle
  refine ⟨⟨?_, ?_, ?_, ?_⟩, ⟨?_, ?_, ?_, ?_⟩⟩ <;> simp only [Rect.fromCenter, Rect.width, Rect.height] <;> linarith

theorem extent_cons (size : ℚ) {sizes : List ℚ} (h : sizes ≠ []) : extent (size :: sizes) = size + gap + extent sizes := by
  obtain ⟨next, sizes, rfl⟩ := List.exists_cons_of_ne_nil h
  simp only [extent, List.sum_cons, List.length_cons, Nat.add_sub_cancel]; push_cast; ring

theorem le_extent_cons (size : ℚ) {ss : List ℚ} (h : ∀ x ∈ ss, 0 ≤ x) : size ≤ extent (size :: ss) := by
  have hga : 0 ≤ gap := by norm_num [gap]
  have hs := List.sum_nonneg h
  have : 0 ≤ gap * ((size :: ss).length - 1 : Nat) := by positivity
  rw [extent, List.sum_cons]; linarith

/-- Placed items, each in its own place within a rectangle. -/
structure Placed (r : Rect) (items : Row) (placed : List (DesktopOverviewItem × Rect)) : Prop where
  items : placed.map Prod.fst = items
  inside : ∀ p ∈ placed, Within r p.2
  undistorted : ∀ p ∈ placed, Undistorted p.1 p.2
  apart : placed.Pairwise fun a b => Apart a.2 b.2

theorem Within.trans {a b c : Rect} (h : Within a b) (h' : Within b c) : Within a c :=
  ⟨h.left.trans h'.left, h.top.trans h'.top, h'.right.trans h.right, h'.bottom.trans h.bottom⟩

/-- What is placed beside or below something else. -/
theorem Placed.append {r r₁ r₂ : Rect} {first second : Row} {p₁ p₂ : List (DesktopOverviewItem × Rect)}
    (h₁ : Placed r₁ first p₁) (h₂ : Placed r₂ second p₂) (hr₁ : Within r r₁) (hr₂ : p₂ ≠ [] → Within r r₂)
    (hap : r₁.right ≤ r₂.left ∨ r₁.bottom ≤ r₂.top) : Placed r (first ++ second) (p₁ ++ p₂) := by
  refine ⟨by rw [List.map_append, h₁.items, h₂.items], fun p hp => ?_, fun p hp => ?_,
    List.pairwise_append.2 ⟨h₁.apart, h₂.apart, fun a ha b hb => ?_⟩⟩
  · rcases List.mem_append.1 hp with hp | hp
    · exact hr₁.trans (h₁.inside p hp)
    · exact (hr₂ (List.ne_nil_of_mem hp)).trans (h₂.inside p hp)
  · exact (List.mem_append.1 hp).elim (h₁.undistorted p) (h₂.undistorted p)
  · have ha' := h₁.inside a ha
    have hb' := h₂.inside b hb
    rcases hap with hap | hap
    · exact .inl (ha'.right.trans (hap.trans hb'.left))
    · exact .inr (.inr (.inl (ha'.bottom.trans (hap.trans hb'.top))))

theorem placeRow_placed (top : ℚ) {height : ℚ} (hh : 0 < height) : ∀ (row : Row) (left : ℚ),
    (∀ item ∈ row, isUsefulPreview item.frame) →
      Placed ⟨left, top, left + rowWidth (row, height), top + height⟩ row (placeRow top height left row)
  | [], _, _ => ⟨rfl, by simp [placeRow], by simp [placeRow], .nil⟩
  | item :: row, left, h => by
    have hga : 0 < gap := by norm_num [gap]
    have hm := mul_pos (aspectRatio_pos item) hh
    obtain ⟨hin, hu⟩ := preview_spec top left hh (h item (List.mem_cons_self ..))
    have ih := placeRow_placed top hh row (left + item.aspectRatio * height + gap) fun i hi => h i (List.mem_cons_of_mem _ hi)
    have hf : item.aspectRatio * height ≤ rowWidth (item :: row, height) := le_extent_cons _ <| by
      simpa using fun item _ => (mul_pos (aspectRatio_pos item) hh).le
    have ho : Placed _ [item] [(item, preview top height left item)] :=
      ⟨rfl, by simpa using hin, by simpa using hu, List.pairwise_singleton ..⟩
    refine ho.append ih ⟨le_rfl, le_rfl, by simpa using hf, le_rfl⟩ (fun hne => ?_) (.inl (by dsimp only; linarith))
    have hr : rowWidth (item :: row, height) = item.aspectRatio * height + gap + rowWidth (row, height) :=
      extent_cons _ fun hnil => hne (by rw [List.map_eq_nil_iff.1 hnil]; rfl)
    exact ⟨by dsimp only; linarith, le_rfl, by rw [hr]; dsimp only; linarith, le_rfl⟩

theorem placeRows_placed (available : Rect) : ∀ (rows : List (Row × ℚ)) (top : ℚ),
    (∀ row ∈ rows, 0 < row.2 ∧ rowWidth row ≤ available.width ∧ ∀ item ∈ row.1, isUsefulPreview item.frame) →
      Placed ⟨available.left, top, available.right, top + extent (rows.map (·.2))⟩ (rows.flatMap (·.1))
        (placeRows available top rows)
  | [], _, _ => ⟨rfl, by simp [placeRows], by simp [placeRows], .nil⟩
  | row :: rows, top, h => by
    have hga : 0 < gap := by norm_num [gap]
    obtain ⟨hh, hw, hu⟩ := h row (List.mem_cons_self ..)
    have hf := placeRow_placed top hh row.1 (available.left + (available.width - rowWidth row) / 2) hu
    have ih := placeRows_placed available rows (top + row.2 + gap) fun r hr => h r (List.mem_cons_of_mem _ hr)
    have hle : row.2 ≤ extent ((row :: rows).map (·.2)) := le_extent_cons _ <| by
      simpa using fun x r hr => (h (r, x) (List.mem_cons_of_mem _ hr)).1.le
    unfold Rect.width at *
    refine hf.append ih ⟨by dsimp only; linarith, le_rfl, by dsimp only; linarith, by dsimp only; linarith⟩
      (fun hne => ?_) (.inr (by dsimp only; linarith))
    have hs : extent ((row :: rows).map (·.2)) = row.2 + gap + extent (rows.map (·.2)) :=
      extent_cons _ fun hnil => hne (by rw [List.map_eq_nil_iff.1 hnil]; rfl)
    exact ⟨le_rfl, by dsimp only; linarith, le_rfl, by rw [hs]; dsimp only; linarith⟩

/-- What the overview shows of a list of windows: one frame within the bounds for each of the ids, no two of them
meeting, each with its window's aspect. -/
structure Shows (available : Rect) (items : Row) (frames : LinkedMap Int Rect) : Prop where
  complete : ∀ id, (frames.get? id).isSome ↔ ∃ item ∈ items, item.objectId = id
  frame : ∀ id frame, frames.get? id = some frame →
    Within available frame ∧ ∃ item ∈ items, item.objectId = id ∧ Undistorted item frame
  apart : ∀ id id' a b, frames.get? id = some a → frames.get? id' = some b → id ≠ id' → Apart a b

theorem shows_of_placed {placed : List (DesktopOverviewItem × Rect)} (h : Placed available items placed) :
    Shows available items (framesOf placed) := by
  have hmem {id frame} (hge : (framesOf placed).get? id = some frame) :
      ∃ p ∈ placed, p.1.objectId = id ∧ p.2 = frame := by
    obtain ⟨p, hp, heq⟩ := List.mem_map.1 (LinkedMap.mem_of_ofList hge)
    exact ⟨p, hp, congrArg Prod.fst heq, congrArg Prod.snd heq⟩
  refine ⟨fun id => ?_, fun id frame hge => ?_, fun id id' a b ha hb hne => ?_⟩
  · rw [← h.items]; unfold framesOf LinkedMap.ofList; rw [LinkedMap.isSome_foldl_set]; simp
  · obtain ⟨p, hp, rfl, rfl⟩ := hmem hge
    exact ⟨h.inside p hp, p.1, h.items ▸ List.mem_map_of_mem hp, rfl, h.undistorted p hp⟩
  · obtain ⟨p, hp, rfl, rfl⟩ := hmem ha
    obtain ⟨q, hq, rfl, rfl⟩ := hmem hb
    have : Std.Symm fun a b : DesktopOverviewItem × Rect => Apart a.2 b.2 := ⟨fun a b hab => by unfold Apart at *; tauto⟩
    exact h.apart.forall hp hq fun heq => hne (by rw [heq])

theorem Shows.perm {is' : Row} {frames : LinkedMap Int Rect} (h : Shows available items frames)
    (hp : items.Perm is') : Shows available is' frames := by
  refine ⟨fun id => (h.complete id).trans ?_, fun id frame hge => ?_, h.apart⟩
  · simp only [hp.mem_iff]
  · obtain ⟨hin, item, hmem, hm⟩ := h.frame id frame hge
    exact ⟨hin, item, hp.mem_iff.1 hmem, hm⟩

/-! ## Candidates -/

theorem foldl_min_spec : ∀ (l : List ℚ) (x : ℚ),
    l.foldl min x ≤ x ∧ (0 < x → (∀ y ∈ l, 0 < y) → 0 < l.foldl min x)
  | [], x => ⟨le_rfl, fun h _ => h⟩
  | y :: l, x => by
    obtain ⟨hle, hpos⟩ := foldl_min_spec l (min x y)
    exact ⟨hle.trans (min_le_left ..), fun hx hl => hpos (lt_min hx (hl y (List.mem_cons_self ..)))
      fun z hz => hl z (List.mem_cons_of_mem _ hz)⟩

/-- The rows leave room for windows between the gaps. -/
def LeavesRoom (available : Rect) (rows : List (Row)) : Prop :=
  0 < heightForWindows available rows ∧ ∀ row ∈ rows, 0 < widthForWindows available row

theorem commonScale_spec {height : ℚ} {n : List (Row × ℚ)} (hh : 0 < height) (hne : n ≠ [])
    (h : ∀ row ∈ n, 0 < row.2) : 0 < commonScale height n ∧ commonScale height n ≤ 1 ∧
      commonScale height n * (n.map (·.2)).sum ≤ height := by
  have hs : 0 < (n.map (·.2)).sum := List.sum_pos _ (by simpa using fun x r hr => h (r, x) hr) (by simpa using hne)
  obtain ⟨hle, hpos⟩ := foldl_min_spec (n.flatMap cellScales) (min 1 (height / (n.map (·.2)).sum))
  refine ⟨hpos (lt_min one_pos (div_pos hh hs)) fun s hmem => ?_, hle.trans (min_le_left ..),
    (le_div_iff₀ hs).1 (hle.trans (min_le_right ..))⟩
  obtain ⟨row, hw, hsc⟩ := List.mem_flatMap.1 hmem
  obtain ⟨item, -, hm⟩ := List.mem_filterMap.1 hsc
  obtain ⟨source, -, rfl⟩ := Option.map_eq_some_iff.1 hm
  exact div_pos (lt_max_of_lt_right (lt_max_of_lt_left (by norm_num [minimumCellHeight]))) (h row hw)

theorem layoutRows_none (h : ¬LeavesRoom available rows) : layoutRows rows available = none :=
  if_pos (by by_contra hc; push Not at hc; exact h hc)

theorem layoutRows_some (hne : rows ≠ []) (hp : Partitions items rows) (h : LeavesRoom available rows)
    (hu : ∀ item ∈ items, isUsefulPreview item.frame) :
    ∃ c, layoutRows rows available = some c ∧ Shows available items c.frames := by
  obtain ⟨hh, hd⟩ := h
  have hn : ∀ row ∈ naturalHeights available rows,
      row.1 ∈ rows ∧ 0 < row.2 ∧ row.2 * aspectSum row.1 = widthForWindows available row.1 := by
    simpa [naturalHeights] using fun row hmem => ⟨hmem, div_pos (hd row hmem) (aspectSum_pos (hp.nonempty row hmem)),
      div_mul_cancel₀ _ (aspectSum_pos (hp.nonempty row hmem)).ne'⟩
  have hf : (naturalHeights available rows).map (·.1) = rows := by
    rw [naturalHeights, List.map_map]; exact List.map_id' rows
  have hne' : naturalHeights available rows ≠ [] := by simpa [naturalHeights] using hne
  obtain ⟨hpos, ho, hft⟩ := commonScale_spec hh hne' fun row hmem => (hn row hmem).2.1
  have hsu : 0 < ((naturalHeights available rows).map (·.2)).sum :=
    List.sum_pos _ (by simpa using fun x r hr => (hn (r, x) hr).2.1) (by simpa using hne')
  unfold layoutRows
  rw [if_neg (by push Not; exact ⟨hh, hd⟩)]; dsimp only
  rw [if_neg hsu.not_ge]
  generalize naturalHeights available rows = natural at *
  generalize commonScale (heightForWindows available rows) natural = scale at *
  have hlen : natural.length = rows.length := by rw [← hf, List.length_map]
  have he : extent ((natural.map fun row => (row.1, row.2 * scale)).map (·.2)) ≤ available.height := by
    have hs' := List.sum_map_mul_right natural (·.2) scale
    unfold extent; unfold heightForWindows at hft
    rw [List.length_map, List.length_map, hlen, List.map_map]
    simp only [Function.comp_def, hs']; linarith
  refine ⟨_, rfl, shows_of_placed ?_⟩
  have hpl := placeRows_placed available (natural.map fun row => (row.1, row.2 * scale))
    (available.top + (available.height - extent ((natural.map fun row => (row.1, row.2 * scale)).map (·.2))) / 2) ?_
  · refine ⟨hpl.items.trans ?_, fun p hp => ?_, hpl.undistorted, hpl.apart⟩
    · rw [List.flatMap_map, List.flatMap_def, hf, hp.flatten]
    · obtain ⟨hl, ht, hr, hb⟩ := hpl.inside p hp
      unfold Rect.height at *; dsimp only at ht hb
      exact ⟨hl, by linarith, hr, by linarith⟩
  · intro scaled hmem
    obtain ⟨row, hsc, rfl⟩ := List.mem_map.1 hmem
    obtain ⟨hin, hs, hfi⟩ := hn row hsc
    refine ⟨mul_pos hs hpos, ?_, fun item hm => hu item (hp.flatten ▸ List.mem_flatten.2 ⟨row.1, hin, hm⟩)⟩
    have hs' : (row.1.map fun item => item.aspectRatio * (row.2 * scale)).sum = aspectSum row.1 * (row.2 * scale) :=
      List.sum_map_mul_right ..
    have hw := mul_le_of_le_one_right (hd row.1 hin).le ho
    unfold rowWidth extent; unfold widthForWindows at hw hfi
    rw [List.length_map]; simp only [hs']
    nlinarith

theorem foldl_better : ∀ (candidates : List OverviewCandidate) (best : Option OverviewCandidate),
    (∃ c, (c ∈ candidates ∨ best = some c) ∧ candidates.foldl better best = some c) ∨
      best = none ∧ candidates = [] ∧ candidates.foldl better best = none
  | [], none => .inr ⟨rfl, rfl, rfl⟩
  | [], some c => .inl ⟨c, .inr rfl, rfl⟩
  | candidate :: candidates, best => by
    rcases foldl_better candidates (better best candidate) with ⟨c, hc, heq⟩ | ⟨hb, -, -⟩
    · refine .inl ⟨c, ?_, heq⟩
      rcases hc with hmem | hb
      · exact .inl (List.mem_cons_of_mem _ hmem)
      · unfold better at hb; split at hb
        · cases hb; exact .inl (List.mem_cons_self ..)
        · exact .inr hb
    · unfold better at hb; split at hb
      · cases hb
      · rename_i hal; subst hb; exact absurd rfl hal

/-! ## The overview -/

theorem available_empty (h : bounds.width ≤ 0 ∨ bounds.height ≤ 0) :
    (availableBounds bounds).width ≤ 0 ∨ (availableBounds bounds).height ≤ 0 := by
  have hn : min bounds.width bounds.height ≤ 0 := min_le_iff.2 h
  have heq : availableBounds bounds = bounds.deflate (min bounds.width bounds.height * (8 / 100)) :=
    congrArg _ (min_eq_right (by unfold outerPadding; linarith))
  rw [heq]; unfold Rect.width Rect.height Rect.deflate at *; dsimp only
  rcases min_choice (bounds.right - bounds.left) (bounds.bottom - bounds.top) with hm | hm <;> rw [hm] at hn ⊢
  · left; linarith
  · right; linarith

theorem not_leavesRoom (hne : rows ≠ []) (h : available.width ≤ 0 ∨ available.height ≤ 0) : ¬LeavesRoom available rows := by
  rintro ⟨hh, hw⟩
  have hga (n : Nat) : 0 ≤ gap * n := mul_nonneg (by norm_num [gap]) n.cast_nonneg
  rcases h with h | h
  · obtain ⟨row, hr⟩ := List.exists_mem_of_ne_nil _ hne
    have := hw row hr; have := hga (row.length - 1); unfold widthForWindows at *; linarith
  · have := hga (rows.length - 1); unfold heightForWindows at *; linarith

/-- The overview shows every window of useful size, undistorted and apart from the others within the padded bounds, or
nothing, and that only where no window is useful or no number of rows leaves room for windows. -/
theorem overview_complete_disjoint_undistorted (sort : ListSort) (rowBand : ℚ) (items : Row) (bounds : Rect) :
    let available := availableBounds bounds
    let ordered := orderedItems sort rowBand items bounds
    let frames := arrange sort rowBand items bounds
    ordered.Perm (usefulItems items) ∧
    (∀ rowCount, 0 < rowCount → rowCount ≤ ordered.length → Partitions ordered (partitionRows ordered rowCount)) ∧
    (frames = .empty ∨ Shows available (usefulItems items) frames) ∧
    (frames = .empty → usefulItems items = [] ∨
      ∀ rowCount, 0 < rowCount → rowCount ≤ ordered.length → ¬LeavesRoom available (partitionRows ordered rowCount)) := by
  intro available ordered frames
  have hper : ordered.Perm (usefulItems items) := sort.perm ..
  have hpar (rowCount : Nat) (h : 0 < rowCount) (h' : rowCount ≤ ordered.length) :
      Partitions ordered (partitionRows ordered rowCount) := partitionRemaining_partitions rowCount ordered _ h h'
  have hne {rowCount : Nat} (h : 0 < rowCount) (h' : rowCount ≤ ordered.length) : partitionRows ordered rowCount ≠ [] := by
    intro hnil
    have hflat := (hpar rowCount h h').flatten
    rw [hnil] at hflat; rw [← hflat] at h'; exact absurd h' (by simpa using h.ne')
  have hnor (h : available.width ≤ 0 ∨ available.height ≤ 0) (rowCount : Nat) (hpos : 0 < rowCount)
      (hle : rowCount ≤ ordered.length) : ¬LeavesRoom available (partitionRows ordered rowCount) :=
    not_leavesRoom (hne hpos hle) h
  refine ⟨hper, hpar, ?_⟩
  by_cases huse : usefulItems items = [] ∨ bounds.width ≤ 0 ∨ bounds.height ≤ 0
  · exact ⟨.inl (if_pos huse), fun _ => huse.imp id fun h => hnor (available_empty h)⟩
  by_cases hroom : available.width ≤ 0 ∨ available.height ≤ 0
  · exact ⟨.inl ((if_neg huse).trans (if_pos hroom)), fun _ => .inr (hnor hroom)⟩
  let candidates := (List.range ordered.length).filterMap fun i => layoutRows (partitionRows ordered (i + 1)) available
  have hfram : frames = (candidates.foldl better none).elim .empty (·.frames) := (if_neg huse).trans (if_neg hroom)
  have hlay {rowCount : Nat} (h : 0 < rowCount) (h' : rowCount ≤ ordered.length)
      (hroom : LeavesRoom available (partitionRows ordered rowCount)) :=
    layoutRows_some (hne h h') (hpar rowCount h h') hroom fun item hitem =>
      (List.mem_filter.1 (hper.mem_iff.1 hitem)).2
  rcases foldl_better candidates none with ⟨c, hc, heq⟩ | ⟨-, hnon, heq⟩ <;> rw [hfram, heq]
  · obtain ⟨i, hi, hc⟩ := List.mem_filterMap.1 (hc.resolve_right (by simp))
    have hshow : Shows available (usefulItems items) c.frames := by
      by_cases hroom : LeavesRoom available (partitionRows ordered (i + 1))
      · obtain ⟨c', heq', hshow⟩ := hlay (Nat.succ_pos i) (List.mem_range.1 hi) hroom
        cases heq'.symm.trans hc; exact hshow.perm hper
      · cases (layoutRows_none hroom).symm.trans hc
    refine ⟨.inr hshow, fun hemp => ?_⟩
    obtain ⟨item, hitem⟩ := List.exists_mem_of_ne_nil _ (not_or.1 huse).1
    have hin := (hshow.complete item.objectId).2 ⟨item, hitem, rfl⟩
    rw [show c.frames = .empty from hemp] at hin; cases hin
  · refine ⟨.inl rfl, fun _ => .inr fun rowCount h h' hroom => ?_⟩
    obtain ⟨c, heq', -⟩ := hlay h h' hroom
    have hnil := List.filterMap_eq_nil_iff.1 hnon (rowCount - 1) (List.mem_range.2 (by omega))
    rw [Nat.sub_add_cancel h] at hnil; cases hnil.symm.trans heq'

end Deniald.Desktop.OverviewLayout
