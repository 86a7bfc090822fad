/-
Damage regions (damage.rs): a bounded list of rectangles within the bounds of a buffer. Merging and
compaction may repaint more than was asked for, but the region covers every point it was given. The
coordinates are finite doubles, of which only order is used; areas, which are rounded, only choose
between pairs to merge.
-/
import Deniald.Lib.Number

namespace Deniald.Damage

open Deniald.Lib

/-! ## Rectangles -/

/-- `MAX_DAMAGE_RECTS`. -/
def maxDamageRects : Nat := 32

structure DamageRect where
  left : ℚ
  top : ℚ
  right : ℚ
  bottom : ℚ
  deriving DecidableEq

/-- `FlutterRect` of the engine's interface. -/
structure FlutterRect where
  left : F64
  top : F64
  right : F64
  bottom : F64

/-- The rectangle, when all its coordinates are finite. -/
def FlutterRect.finite? (a : FlutterRect) : Option DamageRect :=
  match a with
  | ⟨.finite left, .finite top, .finite right, .finite bottom⟩ => some ⟨left, top, right, bottom⟩
  | _ => none

namespace DamageRect

def bounding (a b : DamageRect) : DamageRect where
  left := min a.left b.left
  top := min a.top b.top
  right := max a.right b.right
  bottom := max a.bottom b.bottom

def contains (a b : DamageRect) : Bool :=
  a.left ≤ b.left && a.top ≤ b.top && b.right ≤ a.right && b.bottom ≤ a.bottom

def mergeWithoutOverdraw (a b : DamageRect) : Option DamageRect :=
  if a.contains b then some a
  else if b.contains a then some b
  else
    let sameVerticalSpan := a.top = b.top ∧ a.bottom = b.bottom
    let horizontalIntervalsTouch := a.left ≤ b.right ∧ b.left ≤ a.right
    if sameVerticalSpan ∧ horizontalIntervalsTouch then some (a.bounding b)
    else
      let sameHorizontalSpan := a.left = b.left ∧ a.right = b.right
      let verticalIntervalsTouch := a.top ≤ b.bottom ∧ b.top ≤ a.bottom
      if sameHorizontalSpan ∧ verticalIntervalsTouch then some (a.bounding b) else none

variable (r : Rounding)

def area (a : DamageRect) : ℚ := r.fl (r.fl (a.right - a.left) * r.fl (a.bottom - a.top))

def intersectionArea (a b : DamageRect) : ℚ :=
  let width := r.fl (min a.right b.right - max a.left b.left)
  let height := r.fl (min a.bottom b.bottom - max a.top b.top)
  r.fl (max width 0 * max height 0)

def mergeOverdraw (a b : DamageRect) : ℚ :=
  r.fl ((a.bounding b).area r - r.fl (r.fl (a.area r + b.area r) - a.intersectionArea r b))

def asFlutter (a : DamageRect) : FlutterRect := ⟨.finite a.left, .finite a.top, .finite a.right, .finite a.bottom⟩

end DamageRect

/-! ## Regions -/

/-- `DamageRegion`; `rects` is `as_slice`, the used part of the fixed array. -/
structure DamageRegion where
  bounds : DamageRect
  rects : List DamageRect

inductive ClippedRect where
  | empty
  | invalid
  | rect (rect : DamageRect)

/-- `remove`: the last entry takes the place of the removed one. -/
def swapRemove {α : Type} (l : List α) (index : Nat) : List α :=
  match l.getLast? with
  | none => l
  | some last => (l.set index last).dropLast

/-- The first rectangle that merges with `incoming` exactly. -/
def findMerge (incoming : DamageRect) (rects : List DamageRect) : Option (Nat × DamageRect) :=
  rects.zipIdx.findSome? fun (rect, index) => (incoming.mergeWithoutOverdraw rect).map fun merged => (index, merged)

/-- The merging loop of `insert`; each turn takes one rectangle away, so as many turns suffice. -/
def coalesce : Nat → DamageRect → List DamageRect → DamageRect × List DamageRect
  | 0, incoming, rects => (incoming, rects)
  | fuel + 1, incoming, rects =>
    match findMerge incoming rects with
    | some (index, merged) => coalesce fuel merged (swapRemove rects index)
    | none => (incoming, rects)

/-- The order on `(f64, f64, usize, usize)`. -/
def choiceLt (a b : ℚ × ℚ × Nat × Nat) : Bool :=
  a.1 < b.1 || (a.1 = b.1 && (a.2.1 < b.2.1 || (a.2.1 = b.2.1 &&
    (a.2.2.1 < b.2.2.1 || (a.2.2.1 = b.2.2.1 && a.2.2.2 < b.2.2.2)))))

/-- The candidates for compaction: the stored rectangles, and `incoming` after them. -/
def candidate (incoming : DamageRect) (rects : List DamageRect) (index : Nat) : DamageRect :=
  rects.getD index incoming

/-- The pair of candidates whose bounding rectangle adds the fewest undamaged pixels; before any pair
is looked at, the best is infinitely bad and names the first and the incoming one. -/
def bestPair (r : Rounding) (incoming : DamageRect) (rects : List DamageRect) : Nat × Nat :=
  let len := rects.length
  let pairs := (List.range len).flatMap fun first => (List.range' (first + 1) (len - first)).map fun second =>
    (first, second)
  let best := pairs.foldl (fun best (first, second) =>
    let a := candidate incoming rects first
    let b := candidate incoming rects second
    let choice := (a.mergeOverdraw r b, (a.bounding b).area r, first, second)
    if best.all fun best => choiceLt choice best then some choice else best) (none : Option (ℚ × ℚ × Nat × Nat))
  (best.map fun best => (best.2.2.1, best.2.2.2)).getD (0, len)

namespace DamageRegion

def empty (width height : Nat) : DamageRegion := ⟨⟨0, 0, width, height⟩, []⟩

def setFull (d : DamageRegion) : DamageRegion :=
  { d with rects := if d.bounds.left < d.bounds.right ∧ d.bounds.top < d.bounds.bottom then [d.bounds] else [] }

def full (width height : Nat) : DamageRegion := (empty width height).setFull

def clear (d : DamageRegion) : DamageRegion := { d with rects := [] }

def invalidate (d : DamageRegion) : DamageRegion := d.setFull

def isFull (d : DamageRegion) : Bool := d.rects = [d.bounds]

def isEmpty (d : DamageRegion) : Bool := d.rects.isEmpty

def clip (d : DamageRegion) (rect : FlutterRect) : ClippedRect :=
  match rect.finite? with
  | none => .invalid
  | some rect =>
    if rect.right < rect.left ∨ rect.bottom < rect.top then .invalid
    else
      let rect : DamageRect :=
        ⟨max rect.left d.bounds.left, max rect.top d.bounds.top, min rect.right d.bounds.right,
          min rect.bottom d.bounds.bottom⟩
      if rect.right ≤ rect.left ∨ rect.bottom ≤ rect.top then .empty else .rect rect

/-- The end of `insert`, at capacity: the cheapest pair to merge makes room. -/
def compact (r : Rounding) (d : DamageRegion) (incoming : DamageRect) : DamageRegion :=
  let pair := bestPair r incoming d.rects
  let merged := (candidate incoming d.rects pair.1).bounding (candidate incoming d.rects pair.2)
  if merged = d.bounds then d.setFull
  else if pair.2 = d.rects.length then { d with rects := d.rects.set pair.1 merged }
  else { d with rects := swapRemove (d.rects.set pair.1 merged) pair.2 ++ [incoming] }

def insert (r : Rounding) (d : DamageRegion) (incoming : DamageRect) : DamageRegion :=
  if d.isFull then d
  else if incoming = d.bounds then d.setFull
  else
    let coalesced := coalesce d.rects.length incoming d.rects
    let d := { d with rects := coalesced.2 }
    if coalesced.1 = d.bounds then d.setFull
    else if d.rects.length < maxDamageRects then { d with rects := d.rects ++ [coalesced.1] }
    else d.compact r coalesced.1

def union (r : Rounding) (d other : DamageRegion) : DamageRegion :=
  if d.bounds ≠ other.bounds then d.setFull
  else if d.isFull || other.isEmpty then d
  else if other.isFull then d.setFull
  else other.rects.foldl (insert r) d

/-- The loop of `replace_from_flutter`, left at the first invalid rectangle. -/
def insertFlutter (r : Rounding) : DamageRegion → List FlutterRect → DamageRegion
  | d, [] => d
  | d, rect :: rects =>
    match d.clip rect with
    | .empty => d.insertFlutter r rects
    | .invalid => d.setFull
    | .rect rect => (d.insert r rect).insertFlutter r rects

def replaceFromFlutter (r : Rounding) (d : DamageRegion) (rects : List FlutterRect) : DamageRegion :=
  d.clear.insertFlutter r rects

def writeFlutter (d : DamageRegion) : List FlutterRect := d.rects.map DamageRect.asFlutter

end DamageRegion

/-! ## Points -/

/-- A point of a rectangle, left and top edges included. -/
def DamageRect.Mem (a : DamageRect) (p : ℚ × ℚ) : Prop :=
  (a.left ≤ p.1 ∧ p.1 < a.right) ∧ a.top ≤ p.2 ∧ p.2 < a.bottom

/-- The comparison of a double with a finite one; NaN compares with nothing. -/
def F64Le : F64 → ℚ → Prop
  | .finite a, q => a ≤ q
  | .infinite negative, _ => negative = true
  | .nan, _ => False

def F64Gt : F64 → ℚ → Prop
  | .finite a, q => q < a
  | .infinite negative, _ => negative = false
  | .nan, _ => False

/-- A point of a rectangle of the engine's. -/
def FlutterRect.Mem (a : FlutterRect) (p : ℚ × ℚ) : Prop :=
  (F64Le a.left p.1 ∧ F64Gt a.right p.1) ∧ F64Le a.top p.2 ∧ F64Gt a.bottom p.2

def DamageRegion.Covers (d : DamageRegion) (p : ℚ × ℚ) : Prop := ∃ a ∈ d.rects, a.Mem p

namespace DamageRect

variable {a b merged : DamageRect} {p : ℚ × ℚ}

theorem mem_bounding_left (h : a.Mem p) : (a.bounding b).Mem p := by
  obtain ⟨⟨h1, h2⟩, h3, h4⟩ := h
  exact ⟨⟨(min_le_left ..).trans h1, h2.trans_le (le_max_left ..)⟩,
    (min_le_left ..).trans h3, h4.trans_le (le_max_left ..)⟩

theorem mem_bounding_right (h : b.Mem p) : (a.bounding b).Mem p := by
  obtain ⟨⟨h1, h2⟩, h3, h4⟩ := h
  exact ⟨⟨(min_le_right ..).trans h1, h2.trans_le (le_max_right ..)⟩,
    (min_le_right ..).trans h3, h4.trans_le (le_max_right ..)⟩

theorem mem_of_contains (hc : a.contains b = true) (h : b.Mem p) : a.Mem p := by
  obtain ⟨⟨h1, h2⟩, h3, h4⟩ := h
  simp only [contains, Bool.and_eq_true, decide_eq_true_eq] at hc
  obtain ⟨⟨⟨c1, c2⟩, c3⟩, c4⟩ := hc
  exact ⟨⟨c1.trans h1, h2.trans_le c3⟩, c2.trans h3, h4.trans_le c4⟩

theorem mem_of_merge (hm : a.mergeWithoutOverdraw b = some merged) (h : a.Mem p ∨ b.Mem p) : merged.Mem p := by
  unfold mergeWithoutOverdraw at hm; split at hm
  · rename_i hc; cases hm; exact h.elim id (mem_of_contains hc)
  split at hm
  · rename_i hc; cases hm; exact h.elim (mem_of_contains hc) id
  simp only at hm
  split at hm
  · cases hm; exact h.elim mem_bounding_left mem_bounding_right
  split at hm
  · cases hm; exact h.elim mem_bounding_left mem_bounding_right
  · cases hm

end DamageRect

/-! ## Storage -/

theorem getElem_mem_swapRemove {α : Type} {l : List α} {i j : Nat} {x : α} (hi : i < l.length) (hij : j ≠ i)
    (hj : l[j]? = some x) : x ∈ swapRemove l i := by
  have hne : l ≠ [] := fun h => by rw [h] at hj; cases hj
  unfold swapRemove; rw [List.getLast?_eq_some_getLast hne]
  simp only
  obtain ⟨hjl, rfl⟩ := List.getElem?_eq_some_iff.1 hj
  rw [List.dropLast_eq_take, List.mem_take_iff_getElem]
  -- the last entry moved to `i`, all others are where they were
  by_cases hs : j = l.length - 1
  · refine ⟨i, by simp only [List.length_set]; omega, ?_⟩
    rw [List.getElem_set_self, List.getLast_eq_getElem]
    simp [hs]
  · exact ⟨j, by simp only [List.length_set]; omega, List.getElem_set_ne (Ne.symm hij) _⟩

theorem length_swapRemove {α : Type} (l : List α) (i : Nat) : (swapRemove l i).length = l.length - 1 := by
  unfold swapRemove
  cases l with
  | nil => rfl
  | cons a l => rw [List.getLast?_eq_some_getLast (List.cons_ne_nil _ _)]; simp

variable {rects : List DamageRect}

theorem findMerge_some {inc merged : DamageRect} {index : Nat} (h : findMerge inc rects = some (index, merged)) :
    ∃ rect, rects[index]? = some rect ∧ inc.mergeWithoutOverdraw rect = some merged := by
  obtain ⟨⟨rect, i⟩, hmem, hr⟩ := List.exists_of_findSome?_eq_some h
  obtain ⟨m, hm, heq⟩ := Option.map_eq_some_iff.1 hr
  obtain ⟨rfl, rfl⟩ := Prod.mk.inj heq
  exact ⟨rect, by simpa using List.mem_zipIdx_iff_getElem?.1 hmem, hm⟩

/-! ## Coverage -/

theorem coalesce_covers {p : ℚ × ℚ} : ∀ (fuel : Nat) {incoming : DamageRect} {rects : List DamageRect},
    (incoming.Mem p ∨ ∃ a ∈ rects, a.Mem p) →
      (coalesce fuel incoming rects).1.Mem p ∨ ∃ a ∈ (coalesce fuel incoming rects).2, a.Mem p
  | 0, _, _, h => h
  | fuel + 1, incoming, rects, h => by
    unfold coalesce
    cases hf : findMerge incoming rects with
    | none => exact h
    | some f =>
      obtain ⟨index, merged⟩ := f
      obtain ⟨rect, hrec, hm⟩ := findMerge_some hf
      refine coalesce_covers fuel ?_
      rcases h with h | ⟨a, ha, hp⟩
      · exact .inl (DamageRect.mem_of_merge hm (.inl h))
      obtain ⟨j, hj⟩ := List.mem_iff_getElem?.1 ha
      by_cases hji : j = index
      · subst hji; rw [hrec] at hj
        cases hj
        exact .inl (DamageRect.mem_of_merge hm (.inr hp))
      · obtain ⟨hlt, -⟩ := List.getElem?_eq_some_iff.1 hrec
        exact .inr ⟨a, getElem_mem_swapRemove hlt hji hj, hp⟩

theorem bestPair_lt (r : Rounding) (incoming : DamageRect) (h : 0 < rects.length) :
    (bestPair r incoming rects).1 < (bestPair r incoming rects).2 ∧ (bestPair r incoming rects).2 ≤ rects.length := by
  unfold bestPair
  simp only
  -- whichever pair is the best so far, it is one of the pairs looked at
  suffices hf : ∀ (pairs : List (Nat × Nat)) (best : Option (ℚ × ℚ × Nat × Nat)),
      (∀ q ∈ pairs, q.1 < q.2 ∧ q.2 ≤ rects.length) → (∀ b ∈ best, b.2.2.1 < b.2.2.2 ∧ b.2.2.2 ≤ rects.length) →
      ∀ b ∈ pairs.foldl (fun best (first, second) =>
        let a := candidate incoming rects first
        let b := candidate incoming rects second
        let choice := (a.mergeOverdraw r b, (a.bounding b).area r, first, second)
        if best.all fun best => choiceLt choice best then some choice else best) best,
        b.2.2.1 < b.2.2.2 ∧ b.2.2.2 ≤ rects.length by
    specialize hf ((List.range rects.length).flatMap fun first =>
      (List.range' (first + 1) (rects.length - first)).map fun second => (first, second)) none ?_ (by simp)
    · intro q hq
      obtain ⟨first, hfi, hq⟩ := List.mem_flatMap.1 hq
      obtain ⟨second, hse, rfl⟩ := List.mem_map.1 hq
      obtain ⟨k, hk, rfl⟩ := List.mem_range'.1 hse; have := List.mem_range.1 hfi
      simp only; omega
    · revert hf
      generalize List.foldl _ none _ = best; intro hf
      cases best with
      | none => exact ⟨h, le_refl _⟩
      | some b => exact hf b rfl
  intro pairs
  induction pairs with
  | nil => intro best _ hs; exact hs
  | cons q pairs ih =>
    intro best hr hs
    obtain ⟨hq, hr⟩ := List.forall_mem_cons.1 hr
    refine ih _ hr ?_
    simp only
    split
    · intro b hb; obtain rfl := Option.some.inj hb; exact hq
    · exact hs

namespace DamageRegion

variable {r : Rounding} {d : DamageRegion} {p : ℚ × ℚ}

theorem covers_of_isFull (hf : d.isFull = true) (hp : d.bounds.Mem p) : d.Covers p := by
  unfold isFull at hf
  refine ⟨d.bounds, ?_, hp⟩
  rw [of_decide_eq_true hf]; exact List.mem_singleton.2 rfl

theorem setFull_covers (hp : d.bounds.Mem p) : d.setFull.Covers p := by
  obtain ⟨⟨h1, h2⟩, h3, h4⟩ := hp
  refine ⟨d.bounds, ?_, ⟨h1, h2⟩, h3, h4⟩; unfold setFull
  rw [if_pos ⟨h1.trans_lt h2, h3.trans_lt h4⟩]; exact List.mem_singleton.2 rfl

@[simp] theorem compact_bounds (r : Rounding) (d : DamageRegion) (inc : DamageRect) :
    (d.compact r inc).bounds = d.bounds := by
  unfold compact
  simp only
  split_ifs <;> rfl

@[simp] theorem insert_bounds (r : Rounding) (d : DamageRegion) (inc : DamageRect) :
    (d.insert r inc).bounds = d.bounds := by
  unfold insert
  simp only
  split_ifs
  · rfl
  · rfl
  · rfl
  · rfl
  · exact compact_bounds r _ _

@[simp] theorem foldl_insert_bounds (r : Rounding) : ∀ (rects : List DamageRect) (d : DamageRegion),
    (rects.foldl (insert r) d).bounds = d.bounds
  | [], _ => rfl
  | a :: rects, d => by rw [List.foldl_cons, foldl_insert_bounds r rects, insert_bounds]

@[simp] theorem union_bounds (r : Rounding) (d other : DamageRegion) : (d.union r other).bounds = d.bounds := by
  unfold union
  split_ifs
  · rfl
  · rfl
  · rfl
  · exact foldl_insert_bounds r other.rects d

@[simp] theorem insertFlutter_bounds (r : Rounding) : ∀ (d : DamageRegion) (rects : List FlutterRect),
    (d.insertFlutter r rects).bounds = d.bounds
  | _, [] => rfl
  | d, rect :: rects => by
    unfold insertFlutter; split
    · exact insertFlutter_bounds r d rects
    · rfl
    · rw [insertFlutter_bounds r _ rects, insert_bounds]

/-- The merged pair replaces its first member, and `incoming` is the second or takes its place. -/
theorem compact_covers {inc : DamageRect} (hlen : 0 < d.rects.length) (hp : d.bounds.Mem p)
    (h : inc.Mem p ∨ d.Covers p) : (d.compact r inc).Covers p := by
  obtain ⟨hlt, hle⟩ := bestPair_lt r inc hlen; unfold compact
  generalize bestPair r inc d.rects = pair at hlt hle ⊢
  simp only
  generalize hm : (candidate inc d.rects pair.1).bounding (candidate inc d.rects pair.2) = merged
  have hf : pair.1 < d.rects.length := by omega
  -- what each candidate covers: the members of the pair go into the merged rectangle
  have hn : ∀ j a, d.rects[j]? = some a → a.Mem p → j = pair.1 ∨ j = pair.2 → merged.Mem p := by
    rintro j a hj ha (rfl | rfl)
    · rw [← hm]; refine DamageRect.mem_bounding_left ?_
      unfold candidate; rwa [List.getD_eq_getElem?_getD, hj]
    · rw [← hm]; refine DamageRect.mem_bounding_right ?_
      unfold candidate; rwa [List.getD_eq_getElem?_getD, hj]
  have hst : ∀ j a, d.rects[j]? = some a → j ≠ pair.1 → (d.rects.set pair.1 merged)[j]? = some a := by
    intro j a hj hne; rw [List.getElem?_set_ne (Ne.symm hne), hj]
  have hs : (d.rects.set pair.1 merged)[pair.1]? = some merged := List.getElem?_set_self hf
  split
  · exact setFull_covers hp
  split
  · rename_i hse
    rcases h with h | ⟨a, ha, h⟩
    · refine ⟨merged, List.mem_iff_getElem?.2 ⟨_, hs⟩, ?_⟩
      rw [← hm]; refine DamageRect.mem_bounding_right ?_
      unfold candidate
      rw [List.getD_eq_getElem?_getD, hse, List.getElem?_eq_none (le_refl _)]; exact h
    obtain ⟨j, hj⟩ := List.mem_iff_getElem?.1 ha
    by_cases hjf : j = pair.1
    · exact ⟨merged, List.mem_iff_getElem?.2 ⟨_, hs⟩, hn j a hj h (.inl hjf)⟩
    · exact ⟨a, List.mem_iff_getElem?.2 ⟨j, hst j a hj hjf⟩, h⟩
  · rename_i hse
    have hs' : pair.2 < (d.rects.set pair.1 merged).length := by rw [List.length_set]; omega
    have hk : ∀ j a, (d.rects.set pair.1 merged)[j]? = some a → j ≠ pair.2 →
        a ∈ swapRemove (d.rects.set pair.1 merged) pair.2 ++ [inc] := fun j a hj hne =>
      List.mem_append_left _ (getElem_mem_swapRemove hs' hne hj)
    rcases h with h | ⟨a, ha, h⟩
    · exact ⟨inc, List.mem_append_right _ (List.mem_singleton.2 rfl), h⟩
    obtain ⟨j, hj⟩ := List.mem_iff_getElem?.1 ha
    by_cases hr : j = pair.1 ∨ j = pair.2
    · exact ⟨merged, hk pair.1 merged hs (Nat.ne_of_lt hlt), hn j a hj h hr⟩
    · obtain ⟨hjf, hjs⟩ := not_or.1 hr; exact ⟨a, hk j a (hst j a hj hjf) hjs, h⟩

theorem insert_covers {inc : DamageRect} (hp : d.bounds.Mem p) (h : inc.Mem p ∨ d.Covers p) :
    (d.insert r inc).Covers p := by
  have hco := coalesce_covers d.rects.length h; unfold insert
  generalize coalesce d.rects.length inc d.rects = coalesced at hco
  simp only
  split
  · rename_i hf; exact covers_of_isFull hf hp
  split
  · exact setFull_covers hp
  split
  · exact setFull_covers hp
  split
  · rcases hco with h | ⟨a, ha, h⟩
    · exact ⟨coalesced.1, List.mem_append_right _ (List.mem_singleton.2 rfl), h⟩
    · exact ⟨a, List.mem_append_left _ ha, h⟩
  · rename_i hlen
    exact compact_covers (by simp only [maxDamageRects] at hlen ⊢; omega) hp hco

theorem foldl_insert_covers : ∀ (rects : List DamageRect) {d : DamageRegion}, d.bounds.Mem p →
    (d.Covers p ∨ ∃ a ∈ rects, a.Mem p) → (rects.foldl (insert r) d).Covers p
  | [], _, _, h => h.resolve_right fun ⟨_, ha, _⟩ => by cases ha
  | a :: rects, d, hp, h => by
    refine foldl_insert_covers rects (by rw [insert_bounds]; exact hp) ?_
    rcases h with h | ⟨b, hb, h⟩
    · exact .inl (insert_covers hp (.inr h))
    rcases List.mem_cons.1 hb with rfl | hb
    · exact .inl (insert_covers hp (.inl h))
    · exact .inr ⟨b, hb, h⟩

theorem union_covers {other : DamageRegion} (hp : d.bounds.Mem p) (h : d.Covers p ∨ other.Covers p) :
    (d.union r other).Covers p := by
  unfold union; split
  · exact setFull_covers hp
  split
  · rename_i hr
    rcases Bool.or_eq_true_iff.1 hr with hf | he
    · exact covers_of_isFull hf hp
    · refine h.resolve_right fun ⟨a, ha, _⟩ => ?_
      rw [List.isEmpty_iff.1 he] at ha; cases ha
  · split
    · exact setFull_covers hp
    · exact foldl_insert_covers other.rects hp h

variable {rect : FlutterRect}

theorem mem_of_finite? {a : DamageRect} (h : rect.finite? = some a) : rect.Mem p ↔ a.Mem p := by
  unfold FlutterRect.finite? at h; split at h
  · obtain rfl := Option.some.inj h; exact Iff.rfl
  · cases h

theorem clip_rect {c : DamageRect} (h : d.clip rect = .rect c) (hp : d.bounds.Mem p) (hrec : rect.Mem p) : c.Mem p := by
  unfold clip at h
  cases hf : rect.finite? with
  | none => rw [hf] at h; cases h
  | some a =>
    simp only [hf] at h; split at h
    · cases h
    split at h
    · cases h
    obtain rfl := ClippedRect.rect.inj h
    obtain ⟨⟨h1, h2⟩, h3, h4⟩ := (mem_of_finite? hf).1 hrec
    obtain ⟨⟨b1, b2⟩, b3, b4⟩ := hp
    exact ⟨⟨max_le h1 b1, lt_min h2 b2⟩, max_le h3 b3, lt_min h4 b4⟩

theorem clip_empty (h : d.clip rect = .empty) (hp : d.bounds.Mem p) : ¬ rect.Mem p := by
  intro hrec; unfold clip at h
  cases hf : rect.finite? with
  | none => rw [hf] at h; cases h
  | some a =>
    simp only [hf] at h; split at h
    · cases h
    split at h
    · rename_i he
      obtain ⟨⟨h1, h2⟩, h3, h4⟩ := (mem_of_finite? hf).1 hrec
      obtain ⟨⟨b1, b2⟩, b3, b4⟩ := hp
      rcases he with he | he
      · exact absurd ((max_le h1 b1).trans_lt (lt_min h2 b2)) (not_lt.2 he)
      · exact absurd ((max_le h3 b3).trans_lt (lt_min h4 b4)) (not_lt.2 he)
    · cases h

theorem insertFlutter_covers : ∀ {rects : List FlutterRect} {d : DamageRegion}, d.bounds.Mem p →
    (d.Covers p ∨ ∃ a ∈ rects, a.Mem p) → (d.insertFlutter r rects).Covers p
  | [], _, _, h => h.resolve_right fun ⟨_, ha, _⟩ => by cases ha
  | rect :: rects, d, hp, h => by
    unfold insertFlutter
    cases hcl : d.clip rect with
    | invalid => exact setFull_covers hp
    | empty =>
      refine insertFlutter_covers hp (h.imp_right ?_)
      rintro ⟨a, ha, hmem⟩
      rcases List.mem_cons.1 ha with rfl | ha
      · exact absurd hmem (clip_empty hcl hp)
      · exact ⟨a, ha, hmem⟩
    | rect c =>
      refine insertFlutter_covers (by rw [insert_bounds]; exact hp) ?_
      rcases h with h | ⟨a, ha, h⟩
      · exact .inl (insert_covers hp (.inr h))
      rcases List.mem_cons.1 ha with rfl | ha
      · exact .inl (insert_covers hp (.inl (clip_rect hcl hp h)))
      · exact .inr ⟨a, ha, h⟩

/-- The region read from the engine's rectangles covers them, within the bounds; where one is invalid
it covers everything. -/
theorem replaceFromFlutter_covers {rects : List FlutterRect} (hp : d.bounds.Mem p) (h : ∃ a ∈ rects, a.Mem p) :
    (d.replaceFromFlutter r rects).Covers p :=
  insertFlutter_covers hp (.inr h)

theorem writeFlutter_covers : d.Covers p ↔ ∃ a ∈ d.writeFlutter, a.Mem p := by
  unfold writeFlutter Covers
  constructor
  · rintro ⟨a, ha, h⟩; exact ⟨a.asFlutter, List.mem_map_of_mem ha, h⟩
  · rintro ⟨a, ha, h⟩
    obtain ⟨b, hb, rfl⟩ := List.mem_map.1 ha; exact ⟨b, hb, h⟩

end DamageRegion

end Deniald.Damage
