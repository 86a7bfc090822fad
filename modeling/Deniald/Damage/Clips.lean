/-
What a damage region stores and what KMS is told of it (damage.rs, `kms_clips`; volition/mod.rs,
`PlaneDamage`). Every stored rectangle lies inside the bounds and there are never more than the array
holds, so the clips of a region fit in a plane's damage as they are: rounded outwards, they name the
pixels the region touches.
-/
import Deniald.Damage.Region

namespace Deniald.Damage

open Deniald.Lib

/-! ## Clips -/

/-- `drm_mode_rect`, the lower right corner exclusive. -/
structure ModeRect where
  x1 : Int
  y1 : Int
  x2 : Int
  y2 : Int

def boundingClip (a b : ModeRect) : ModeRect := ⟨min a.x1 b.x1, min a.y1 b.y1, max a.x2 b.x2, max a.y2 b.y2⟩

/-- The region's rectangles in framebuffer coordinates; `as i32` saturates. -/
def DamageRegion.kmsClips (d : DamageRegion) : List ModeRect :=
  d.rects.map fun rect => ⟨satI32 ⌊rect.left⌋, satI32 ⌊rect.top⌋, satI32 ⌈rect.right⌉, satI32 ⌈rect.bottom⌉⟩

/-- `MAX_PLANE_DAMAGE_CLIPS`. -/
def maxPlaneDamageClips : Nat := 32

structure PlaneDamage where
  clips : List ModeRect
  bounded : clips.length ≤ maxPlaneDamageClips

/-- Degenerate entries are dropped, and a longer list collapses to its bounding rectangle. -/
def PlaneDamage.new (clips : List ModeRect) : PlaneDamage :=
  let clips := clips.filter fun clip => clip.x1 < clip.x2 && clip.y1 < clip.y2
  let kept := clips.take maxPlaneDamageClips
  match clips.drop maxPlaneDamageClips with
  | [] => ⟨kept, List.length_take_le ..⟩
  | clip :: rest => ⟨[rest.foldl boundingClip (kept.foldl boundingClip clip)], Nat.one_le_ofNat⟩

/-! ## Rectangles inside the bounds -/

/-- What `clip` refuses: a coordinate is not finite, or the sides are the wrong way round. -/
def FlutterRect.Invalid (rect : FlutterRect) : Prop :=
  ∀ a, rect.finite? = some a → a.right < a.left ∨ a.bottom < a.top

/-- A rectangle with points, all of them inside the bounds. -/
structure DamageRect.Inside (a bounds : DamageRect) : Prop where
  width : a.left < a.right
  height : a.top < a.bottom
  left : bounds.left ≤ a.left
  top : bounds.top ≤ a.top
  right : a.right ≤ bounds.right
  bottom : a.bottom ≤ bounds.bottom

namespace DamageRect

variable {a b bounds merged : DamageRect}

theorem Inside.bounding (ha : a.Inside bounds) (hb : b.Inside bounds) : (a.bounding b).Inside bounds where
  width := (min_le_left ..).trans_lt (ha.width.trans_le (le_max_left ..))
  height := (min_le_left ..).trans_lt (ha.height.trans_le (le_max_left ..))
  left := le_min ha.left hb.left
  top := le_min ha.top hb.top
  right := max_le ha.right hb.right
  bottom := max_le ha.bottom hb.bottom

theorem Inside.merge (ha : a.Inside bounds) (hb : b.Inside bounds) (h : a.mergeWithoutOverdraw b = some merged) :
    merged.Inside bounds := by
  have hn := ha.bounding hb; unfold mergeWithoutOverdraw at h
  split at h
  · cases h; exact ha
  split at h
  · cases h; exact hb
  simp only at h
  split at h
  · cases h; exact hn
  split at h
  · cases h; exact hn
  · cases h

end DamageRect

/-! ## Storage -/

theorem mem_of_mem_swapRemove {α : Type} {l : List α} {i : Nat} {x : α} (h : x ∈ swapRemove l i) : x ∈ l := by
  unfold swapRemove at h
  cases hs : l.getLast? with
  | none => rwa [hs] at h
  | some last =>
    rw [hs] at h
    have hmem : x ∈ l.set i last := (List.dropLast_sublist _).subset h
    rcases List.mem_or_eq_of_mem_set hmem with hmem | rfl
    · exact hmem
    · exact List.mem_of_getLast? hs

theorem coalesce_inside {bounds : DamageRect} : ∀ (fuel : Nat) {incoming : DamageRect} {rects : List DamageRect},
    incoming.Inside bounds → (∀ a ∈ rects, a.Inside bounds) →
      (coalesce fuel incoming rects).1.Inside bounds ∧ (∀ a ∈ (coalesce fuel incoming rects).2, a.Inside bounds) ∧
        (coalesce fuel incoming rects).2.length ≤ rects.length
  | 0, _, _, hn, hrec => ⟨hn, hrec, le_refl _⟩
  | fuel + 1, incoming, rects, hn, hrec => by
    unfold coalesce
    cases hf : findMerge incoming rects with
    | none => exact ⟨hn, hrec, le_refl _⟩
    | some found =>
      obtain ⟨index, merged⟩ := found
      obtain ⟨rect, hr, hme⟩ := findMerge_some hf
      have hm := hn.merge (hrec rect (List.mem_of_getElem? hr)) hme
      have ih := @coalesce_inside bounds fuel _ (swapRemove rects index) hm fun a ha =>
      hrec a (mem_of_mem_swapRemove ha)
      refine ⟨ih.1, ih.2.1, ih.2.2.trans ?_⟩
      rw [length_swapRemove]; omega

namespace DamageRegion

/-- What the region's array holds. -/
structure Stored (d : DamageRegion) : Prop where
  inside : ∀ a ∈ d.rects, a.Inside d.bounds
  room : d.rects.length ≤ maxDamageRects

variable {r : Rounding} {d : DamageRegion}

theorem clear_stored (d : DamageRegion) : d.clear.Stored := ⟨(fun _ h => by cases h), Nat.zero_le _⟩

theorem setFull_stored (d : DamageRegion) : d.setFull.Stored := by
  unfold setFull; split
  · rename_i h
    refine ⟨fun a ha => ?_, Nat.one_le_ofNat⟩
    obtain rfl := List.mem_singleton.1 ha
    exact ⟨h.1, h.2, le_refl _, le_refl _, le_refl _, le_refl _⟩
  · exact ⟨(fun _ h => by cases h), Nat.zero_le _⟩

theorem compact_stored {inc : DamageRect} (hin : inc.Inside d.bounds) (hd : d.Stored)
    (hlen : 0 < d.rects.length) : (d.compact r inc).Stored := by
  obtain ⟨hlt, hle⟩ := bestPair_lt r inc hlen
  have hn : ∀ index, (candidate inc d.rects index).Inside d.bounds := by
    intro index; unfold candidate
    rw [List.getD_eq_getElem?_getD]
    cases hind : d.rects[index]? with
    | none => exact hin
    | some a => exact hd.inside a (List.mem_of_getElem? hind)
  unfold compact
  generalize bestPair r inc d.rects = pair at hlt hle ⊢
  simp only
  have hm := (hn pair.1).bounding (hn pair.2)
  generalize (candidate inc d.rects pair.1).bounding (candidate inc d.rects pair.2) = merged at hm ⊢
  have hs : ∀ a ∈ d.rects.set pair.1 merged, a.Inside d.bounds := by
    intro a ha
    rcases List.mem_or_eq_of_mem_set ha with ha | rfl
    · exact hd.inside a ha
    · exact hm
  split
  · exact setFull_stored d
  split
  · exact ⟨hs, by rw [List.length_set]; exact hd.room⟩
  refine ⟨fun a ha => ?_, ?_⟩
  · rcases List.mem_append.1 ha with ha | ha
    · exact hs a (mem_of_mem_swapRemove ha)
    · obtain rfl := List.mem_singleton.1 ha; exact hin
  · have hr := hd.room
    simp only [List.length_append, length_swapRemove, List.length_set, List.length_singleton]; omega

theorem insert_stored {inc : DamageRect} (hn : inc.Inside d.bounds) (hd : d.Stored) : (d.insert r inc).Stored := by
  obtain ⟨hr, hrec, hlen⟩ := coalesce_inside d.rects.length hn hd.inside
  have hm := hd.room; unfold insert
  generalize coalesce d.rects.length inc d.rects = coalesced at hr hrec hlen
  simp only
  have hk : Stored { d with rects := coalesced.2 } := ⟨hrec, hlen.trans hm⟩
  split
  · exact hd
  split
  · exact setFull_stored d
  split
  · exact setFull_stored _
  split
  · rename_i hs
    refine ⟨fun a ha => ?_, ?_⟩
    · rcases List.mem_append.1 ha with ha | ha
      · exact hrec a ha
      · obtain rfl := List.mem_singleton.1 ha; exact hr
    · simp only [List.length_append, List.length_singleton]; omega
  · rename_i hf
    exact compact_stored hr hk (by simp only [maxDamageRects] at hf ⊢; omega)

theorem foldl_insert_stored : ∀ {rects : List DamageRect} {d : DamageRegion}, (∀ a ∈ rects, a.Inside d.bounds) →
    d.Stored → (rects.foldl (insert r) d).Stored
  | [], _, _, hd => hd
  | a :: rects, d, hrec, hd => by
    obtain ⟨ha, hrec⟩ := List.forall_mem_cons.1 hrec
    refine foldl_insert_stored (d := d.insert r a) (fun b hb => ?_) (insert_stored ha hd)
    rw [insert_bounds]; exact hrec b hb

theorem union_stored {other : DamageRegion} (ho : other.Stored) (hd : d.Stored) : (d.union r other).Stored := by
  unfold union; split
  · exact setFull_stored d
  rename_i hn; split
  · exact hd
  · split
    · exact setFull_stored d
    · refine foldl_insert_stored (fun a ha => ?_) hd
      rw [not_not.1 hn]; exact ho.inside a ha

theorem clip_inside {rect : FlutterRect} {c : DamageRect} (h : d.clip rect = .rect c) : c.Inside d.bounds := by
  unfold clip at h
  cases hf : rect.finite? with
  | none => rw [hf] at h; cases h
  | some a =>
    simp only [hf] at h; split at h
    · cases h
    split at h
    · cases h
    rename_i he
    obtain ⟨hw, hh⟩ := not_or.1 he
    obtain rfl := ClippedRect.rect.inj h
    exact ⟨not_le.1 hw, not_le.1 hh, le_max_right .., le_max_right .., min_le_right .., min_le_right ..⟩

theorem insertFlutter_stored : ∀ {rects : List FlutterRect} {d : DamageRegion}, d.Stored →
    (d.insertFlutter r rects).Stored
  | [], _, hd => hd
  | rect :: rects, d, hd => by
    unfold insertFlutter
    cases hcl : d.clip rect with
    | invalid => exact setFull_stored d
    | empty => exact insertFlutter_stored hd
    | rect c => exact insertFlutter_stored (insert_stored (clip_inside hcl) hd)

/-! ## Invalid rectangles -/

theorem setFull_congr {d d' : DamageRegion} (h : d.bounds = d'.bounds) : d.setFull = d'.setFull := by
  unfold setFull; rw [h]

theorem clip_invalid_iff {rect : FlutterRect} : d.clip rect = .invalid ↔ rect.Invalid := by
  unfold clip FlutterRect.Invalid
  cases hf : rect.finite? with
  | none => simp
  | some a =>
    simp only [Option.some.injEq, forall_eq']; split
    · rename_i h; exact iff_of_true rfl h
    rename_i h
    refine iff_of_false (fun hcl => ?_) h
    split at hcl <;> cases hcl

theorem insertFlutter_invalid : ∀ {rects : List FlutterRect} {d : DamageRegion}, (∃ rect ∈ rects, rect.Invalid) →
    d.insertFlutter r rects = d.setFull
  | [], _, h => by
    obtain ⟨_, hmem, -⟩ := h; cases hmem
  | rect :: rects, d, h => by
    unfold insertFlutter
    cases hcl : d.clip rect with
    | invalid => rfl
    | empty =>
      refine insertFlutter_invalid ?_
      obtain ⟨bad, hmem, hd⟩ := h
      rcases List.mem_cons.1 hmem with rfl | hmem
      · rw [clip_invalid_iff.2 hd] at hcl; cases hcl
      · exact ⟨bad, hmem, hd⟩
    | rect c =>
      have hr : ∃ rect ∈ rects, rect.Invalid := by
        obtain ⟨bad, hmem, hd⟩ := h
        rcases List.mem_cons.1 hmem with rfl | hmem
        · rw [clip_invalid_iff.2 hd] at hcl; cases hcl
        · exact ⟨bad, hmem, hd⟩
      have hf : (d.insert r c).insertFlutter r rects = _ := insertFlutter_invalid hr
      exact hf.trans (setFull_congr (insert_bounds ..))

end DamageRegion

/-! ## Pixels -/

/-- The pixel a point lies in. -/
def pixelOf (p : ℚ × ℚ) : Int × Int := (⌊p.1⌋, ⌊p.2⌋)

def DamageRegion.Touches (d : DamageRegion) (pixel : Int × Int) : Prop := ∃ p, d.Covers p ∧ pixelOf p = pixel

def ModeRect.Mem (clip : ModeRect) (pixel : Int × Int) : Prop :=
  (clip.x1 ≤ pixel.1 ∧ pixel.1 < clip.x2) ∧ clip.y1 ≤ pixel.2 ∧ pixel.2 < clip.y2

def PlaneDamage.Covers (damage : PlaneDamage) (pixel : Int × Int) : Prop := ∃ clip ∈ damage.clips, clip.Mem pixel

/-- `i32::MAX`, the first coordinate that no clip covers. -/
def maxCoordinate : Int := 2 ^ 31 - 1

theorem satI32_le_iff {x i : Int} (hi : i < maxCoordinate) (hx : 0 ≤ x) : satI32 x ≤ i ↔ x ≤ i := by
  unfold maxCoordinate at hi
  unfold satI32 clamp
  split_ifs <;> omega

theorem lt_satI32_iff {x i : Int} (hi : i < maxCoordinate) (hx : 0 ≤ x) : i < satI32 x ↔ i < x := by
  unfold maxCoordinate at hi
  unfold satI32 clamp
  split_ifs <;> omega

theorem side_iff {left right : ℚ} {i : Int} (h : left < right) :
    (∃ x, (left ≤ x ∧ x < right) ∧ ⌊x⌋ = i) ↔ ⌊left⌋ ≤ i ∧ i < ⌈right⌉ := by
  constructor
  · rintro ⟨x, ⟨hf, hr⟩, rfl⟩
    exact ⟨Int.floor_le_floor hf, Int.lt_ceil.2 ((Int.floor_le x).trans_lt hr)⟩
  · rintro ⟨hf, hr⟩
    have hn : left < i + 1 := by
      have : ⌊left⌋ < i + 1 := Int.lt_add_one_of_le hf
      exact_mod_cast Int.floor_lt.1 this
    refine ⟨max left i, ⟨le_max_left .., max_lt h (Int.lt_ceil.1 hr)⟩, ?_⟩
    exact Int.floor_eq_iff.2 ⟨le_max_right .., max_lt hn (lt_add_one _)⟩

theorem bounding_mem {a b : ModeRect} {pixel : Int × Int} (h : a.Mem pixel ∨ b.Mem pixel) :
    (boundingClip a b).Mem pixel := by
  unfold ModeRect.Mem boundingClip at *
  simp only
  omega

theorem foldl_bounding_mem {pixel : Int × Int} : ∀ (clips : List ModeRect) {clip : ModeRect},
    (clip.Mem pixel ∨ ∃ a ∈ clips, a.Mem pixel) → (clips.foldl boundingClip clip).Mem pixel
  | [], _, h => h.resolve_right fun ⟨_, ha, _⟩ => by cases ha
  | a :: clips, clip, h => by
    refine foldl_bounding_mem clips ?_
    rcases h with h | ⟨b, hb, h⟩
    · exact .inl (bounding_mem (.inl h))
    rcases List.mem_cons.1 hb with rfl | hb
    · exact .inl (bounding_mem (.inr h))
    · exact .inr ⟨b, hb, h⟩

namespace PlaneDamage

variable {clips : List ModeRect} {pixel : Int × Int}

theorem new_clips (h : clips.length ≤ maxPlaneDamageClips) :
    (PlaneDamage.new clips).clips = clips.filter fun clip => clip.x1 < clip.x2 && clip.y1 < clip.y2 := by
  have hlen := (List.length_filter_le (fun clip : ModeRect => clip.x1 < clip.x2 && clip.y1 < clip.y2) clips).trans h
  unfold PlaneDamage.new
  simp only
  rw [List.drop_eq_nil_of_le hlen]; exact List.take_of_length_le hlen

theorem new_covers {clip : ModeRect} (hcl : clip ∈ clips) (h : clip.Mem pixel) :
    (PlaneDamage.new clips).Covers pixel := by
  have hmem : clip ∈ clips.filter fun clip => clip.x1 < clip.x2 && clip.y1 < clip.y2 := by
    obtain ⟨⟨h1, h2⟩, h3, h4⟩ := h
    refine List.mem_filter.2 ⟨hcl, ?_⟩
    rw [Bool.and_eq_true, decide_eq_true_eq, decide_eq_true_eq]; exact ⟨h1.trans_lt h2, h3.trans_lt h4⟩
  unfold PlaneDamage.new PlaneDamage.Covers
  generalize clips.filter (fun clip => clip.x1 < clip.x2 && clip.y1 < clip.y2) = clips at hmem
  simp only
  rw [← List.take_append_drop maxPlaneDamageClips clips, List.mem_append] at hmem; split
  · rename_i hd; rw [hd] at hmem
    exact ⟨clip, hmem.resolve_right (List.not_mem_nil), h⟩
  rename_i next rest hd; rw [hd] at hmem
  refine ⟨_, List.mem_singleton.2 rfl, foldl_bounding_mem _ ?_⟩
  rcases hmem with hmem | hmem
  · exact .inl (foldl_bounding_mem _ (.inr ⟨clip, hmem, h⟩))
  rcases List.mem_cons.1 hmem with rfl | hmem
  · exact .inl (foldl_bounding_mem _ (.inl h))
  · exact .inr ⟨clip, hmem, h⟩

end PlaneDamage

theorem kmsClips_covers {d : DamageRegion} (hd : d.Stored) (hf : d.bounds.left = 0) (hto : d.bounds.top = 0)
    {pixel : Int × Int} (hx : pixel.1 < maxCoordinate) (hy : pixel.2 < maxCoordinate) :
    (PlaneDamage.new d.kmsClips).Covers pixel ↔ d.Touches pixel := by
  have hcl : ∀ a ∈ d.rects, (ModeRect.mk (satI32 ⌊a.left⌋) (satI32 ⌊a.top⌋) (satI32 ⌈a.right⌉)
      (satI32 ⌈a.bottom⌉)).Mem pixel ↔ ∃ p, a.Mem p ∧ pixelOf p = pixel := by
    intro a ha
    obtain ⟨hw, hh, hl, ht, -, -⟩ := hd.inside a ha; rw [hf] at hl
    rw [hto] at ht; unfold ModeRect.Mem
    rw [satI32_le_iff hx (Int.floor_nonneg.2 hl), satI32_le_iff hy (Int.floor_nonneg.2 ht),
      lt_satI32_iff hx (Int.ceil_nonneg (hl.trans hw.le)), lt_satI32_iff hy (Int.ceil_nonneg (ht.trans hh.le)),
      ← side_iff hw, ← side_iff hh]
    constructor
    · rintro ⟨⟨x, hix, hpx⟩, y, hiy, hpy⟩; exact ⟨(x, y), ⟨hix, hiy⟩, Prod.ext hpx hpy⟩
    · rintro ⟨⟨x, y⟩, ⟨hix, hiy⟩, rfl⟩; exact ⟨⟨x, hix, rfl⟩, y, hiy, rfl⟩
  have hr : d.kmsClips.length ≤ maxPlaneDamageClips := by
    unfold DamageRegion.kmsClips
    rw [List.length_map]; exact hd.room
  constructor
  · rintro ⟨clip, hmem, h⟩; rw [PlaneDamage.new_clips hr] at hmem
    obtain ⟨a, ha, rfl⟩ := List.mem_map.1 (List.mem_of_mem_filter hmem)
    obtain ⟨p, hp, hpi⟩ := (hcl a ha).1 h; exact ⟨p, ⟨a, ha, hp⟩, hpi⟩
  · rintro ⟨p, ⟨a, ha, hp⟩, hpi⟩
    exact PlaneDamage.new_covers (List.mem_map_of_mem ha) ((hcl a ha).2 ⟨p, hp, hpi⟩)

/-! ## Regions as they are built -/

/-- A region made by the operations, with the points it was asked to cover: those given since it was last
cleared, or all when it was made full. Rectangles reach `insert` clipped, or from a region of the same bounds. -/
inductive Built (r : Rounding) : DamageRegion → Set (ℚ × ℚ) → Prop
  | empty (width height : Nat) : Built r (.empty width height) ∅
  | full (width height : Nat) : Built r (.full width height) Set.univ
  | clear {d asked} : Built r d asked → Built r d.clear ∅
  | invalidate {d asked} : Built r d asked → Built r d.invalidate Set.univ
  | replaceFromFlutter {d asked} (rects : List FlutterRect) : Built r d asked →
      Built r (d.replaceFromFlutter r rects) {p | (∃ rect ∈ rects, rect.Invalid) ∨ ∃ rect ∈ rects, rect.Mem p}
  | insert {d asked} {rect : FlutterRect} {clipped : DamageRect} : Built r d asked → d.clip rect = .rect clipped →
      Built r (d.insert r clipped) (asked ∪ {p | rect.Mem p})
  | union {d other asked asked'} : Built r d asked → Built r other asked' → Built r (d.union r other) (asked ∪ asked')

variable {r : Rounding} {d : DamageRegion} {asked : Set (ℚ × ℚ)}

theorem Built.bounds_eq (h : Built r d asked) : ∃ width height : Nat, d.bounds = ⟨0, 0, width, height⟩ := by
  induction h with
  | empty width height => exact ⟨width, height, rfl⟩
  | full width height => exact ⟨width, height, rfl⟩
  | clear _ ih => exact ih
  | invalidate _ ih => exact ih
  | replaceFromFlutter rects _ ih =>
    unfold DamageRegion.replaceFromFlutter
    rw [DamageRegion.insertFlutter_bounds]; exact ih
  | insert _ _ ih => rwa [DamageRegion.insert_bounds]
  | union _ _ ih _ => rwa [DamageRegion.union_bounds]

theorem Built.stored (h : Built r d asked) : d.Stored := by
  induction h with
  | empty width height => exact ⟨(fun _ h => by cases h), Nat.zero_le _⟩
  | full width height => exact DamageRegion.setFull_stored _
  | clear _ _ => exact DamageRegion.clear_stored _
  | invalidate _ _ => exact DamageRegion.setFull_stored _
  | replaceFromFlutter rects _ _ => exact DamageRegion.insertFlutter_stored (DamageRegion.clear_stored _)
  | insert _ hcl ih => exact DamageRegion.insert_stored (DamageRegion.clip_inside hcl) ih
  | union _ _ ih ih' => exact DamageRegion.union_stored ih' ih

theorem Built.covers (h : Built r d asked) : ∀ p ∈ asked, d.bounds.Mem p → d.Covers p := by
  induction h with
  | empty width height => exact fun p hp => hp.elim
  | full width height => exact fun p _ hp => DamageRegion.setFull_covers hp
  | clear _ _ => exact fun p hp => hp.elim
  | invalidate _ _ => exact fun p _ hp => DamageRegion.setFull_covers hp
  | replaceFromFlutter rects _ _ =>
    intro p hs hp
    unfold DamageRegion.replaceFromFlutter at hp ⊢; rw [DamageRegion.insertFlutter_bounds] at hp
    rcases hs with hv | hrec
    · rw [DamageRegion.insertFlutter_invalid hv]; exact DamageRegion.setFull_covers hp
    · exact DamageRegion.insertFlutter_covers hp (.inr hrec)
  | insert _ hcl ih =>
    intro p hs hp; rw [DamageRegion.insert_bounds] at hp
    refine DamageRegion.insert_covers hp ?_
    rcases hs with hs | hrec
    · exact .inr (ih p hs hp)
    · exact .inl (DamageRegion.clip_rect hcl hp hrec)
  | @union d other _ _ _ _ ih ih' =>
    intro p hs hp; rw [DamageRegion.union_bounds] at hp
    by_cases hn : d.bounds = other.bounds
    · refine DamageRegion.union_covers hp (hs.imp (fun h => ih p h hp) fun h => ih' p h ?_)
      rwa [← hn]
    · unfold DamageRegion.union
      rw [if_pos hn]; exact DamageRegion.setFull_covers hp

/-- In every region that the operations build: each point asked for within the bounds is covered, each rectangle
stored has its points inside the bounds, there are at most 32, invalid input makes the region all of its bounds,
and of the pixels a clip can name, the plane's clips, at most 32, cover those that the region touches. -/
theorem damage_region {r : Rounding} {d : DamageRegion} {asked : Set (ℚ × ℚ)} (h : Built r d asked) :
    (∀ p ∈ asked, d.bounds.Mem p → d.Covers p) ∧
    (∀ a ∈ d.rects, a.Inside d.bounds) ∧ d.rects.length ≤ 32 ∧
    (∀ rects, (∃ rect ∈ rects, rect.Invalid) → d.replaceFromFlutter r rects = d.setFull) ∧
    (∀ other : DamageRegion, d.bounds ≠ other.bounds → d.union r other = d.setFull) ∧
    (∀ p, d.bounds.Mem p → d.setFull.Covers p) ∧
    (PlaneDamage.new d.kmsClips).clips.length ≤ 32 ∧
    ∀ pixel : Int × Int, pixel.1 < maxCoordinate → pixel.2 < maxCoordinate →
      ((PlaneDamage.new d.kmsClips).Covers pixel ↔ d.Touches pixel) := by
  obtain ⟨width, height, hboun⟩ := h.bounds_eq
  refine ⟨h.covers, h.stored.inside, h.stored.room, fun rects hinv => ?_, fun other hoth => if_pos hoth,
    fun p hp => DamageRegion.setFull_covers hp, (PlaneDamage.new d.kmsClips).bounded, fun pixel hx hy => ?_⟩
  · exact DamageRegion.insertFlutter_invalid hinv
  · exact kmsClips_covers h.stored (by rw [hboun]) (by rw [hboun]) hx hy

/-- Two rectangles that share an edge, the second reaching beyond the buffer. -/
def edgeRects : List FlutterRect :=
  [⟨.finite 0, .finite 0, .finite 10, .finite 10⟩, ⟨.finite 10, .finite 0, .finite 200, .finite 10⟩]

theorem damage_region_edge : ((DamageRegion.empty 100 50).replaceFromFlutter .exact edgeRects).Covers (10, 5) := by
  refine (damage_region (.replaceFromFlutter edgeRects (.empty 100 50))).1 (10, 5) ?_ ?_
  · refine .inr ⟨_, List.mem_cons_of_mem _ (List.mem_singleton.2 rfl), ?_⟩
    norm_num [FlutterRect.Mem, F64Le, F64Gt]
  · rw [DamageRegion.replaceFromFlutter, DamageRegion.insertFlutter_bounds]
    norm_num [DamageRegion.clear, DamageRegion.empty, DamageRect.Mem]

end Deniald.Damage
