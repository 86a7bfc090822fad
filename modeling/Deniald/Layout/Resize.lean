/-
What a resize of the dwindle layout changes: the ratio of at most one split of each axis above the window. Splits and
windows are named by their positions in the tree, the turns taken from the root.
-/
import Deniald.Layout.Leaves

namespace Deniald.Layout

open Deniald.Lib
open Deniald.Topology (OutputId)

/-! ## Positions -/

inductive Side where
  | first
  | second

namespace DwindleNode

variable {W : Type}

/-- Where the windows are, in the order of their placements. -/
def paths : DwindleNode W → List (List Side)
  | .window _ => [[]]
  | .split _ first second => first.paths.map (.first :: ·) ++ second.paths.map (.second :: ·)

def ratioAt : DwindleNode W → List Side → Option ℚ
  | .window _, _ => none
  | .split ratio _ _, [] => some ratio
  | .split _ first _, .first :: path => first.ratioAt path
  | .split _ _ second, .second :: path => second.ratioAt path

/-- The axis of the split at a position: whether its area is at least as wide as high. -/
def horizontalAt (r : Rounding) : DwindleNode W → Rect → Int → List Side → Bool
  | .window _, _, _, _ => false
  | .split _ _ _, geometry, _, [] => geometry.w ≥ geometry.h
  | .split ratio first _, geometry, gap, .first :: path =>
    first.horizontalAt r (splitGeometry r geometry gap (.finite ratio)).1 gap path
  | .split ratio _ second, geometry, gap, .second :: path =>
    second.horizontalAt r (splitGeometry r geometry gap (.finite ratio)).2 gap path

/-- Where `resize_window` descends to. -/
def pathTo [DecidableEq W] : DwindleNode W → W → List Side
  | .window _, _ => []
  | .split _ first second, w =>
    if first.contains w then .first :: first.pathTo w
    else if second.contains w then .second :: second.pathTo w
    else []

/-- The split at a position has another ratio. -/
def Moved (t t' : DwindleNode W) (path : List Side) : Prop := t'.ratioAt path ≠ t.ratioAt path

theorem length_arrange (r : Rounding) : ∀ (t : DwindleNode W) (geometry : Rect) (gap : Int),
    (t.arrange r geometry gap).length = t.paths.length
  | .window _, _, _ => rfl
  | .split ratio first second, geometry, gap => by
    unfold paths arrange
    simp only [List.length_append, List.length_map]
    rw [length_arrange r first, length_arrange r second]

theorem ResizedAlong.paths_eq {w : W} {t t' : DwindleNode W} (h : ResizedAlong w t t') : t'.paths = t.paths := by
  induction h with
  | refl => rfl
  | first _ _ ih => unfold paths; rw [ih]
  | second _ _ ih => unfold paths; rw [ih]

/-! ## Placements -/

/-- A placement depends on the splits above it alone. -/
theorem ResizedAlong.placement_eq {r : Rounding} {w : W} {t t' : DwindleNode W} (h : ResizedAlong w t t') :
    ∀ (area : Rect) (gap : Int) (n : Nat) (path : List Side), t.paths[n]? = some path →
      (∀ p, Moved t t' p → ¬p <+: path) → (t'.arrange r area gap)[n]? = (t.arrange r area gap)[n]? := by
  induction h with
  | refl => exact fun _ _ _ _ _ _ => rfl
  | @first rt ratio' a a' b _ hn ih =>
    intro area gap n path hpa hm
    obtain rfl : rt = ratio' := by
      by_contra hne
      exact hm [] (fun h => hne (Option.some.inj h).symm) List.nil_prefix
    unfold paths at hpa; unfold arrange
    dsimp only
    by_cases hlt : n < a.paths.length
    · rw [List.getElem?_append_left (by rwa [List.length_map]), List.getElem?_map] at hpa
      obtain ⟨q, hq, rfl⟩ := Option.map_eq_some_iff.1 hpa
      rw [List.getElem?_append_left (by rwa [length_arrange, hn.paths_eq]),
        List.getElem?_append_left (by rwa [length_arrange])]
      exact ih _ gap n q hq fun p hp hbe => hm (.first :: p) hp ((List.prefix_cons_inj _).2 hbe)
    · rw [List.getElem?_append_right (by rw [length_arrange, hn.paths_eq]; omega),
        List.getElem?_append_right (by rw [length_arrange]; omega), length_arrange, length_arrange, hn.paths_eq]
  | @second rt ratio' a b b' _ hn ih =>
    intro area gap n path hpa hm
    obtain rfl : rt = ratio' := by
      by_contra hne
      exact hm [] (fun h => hne (Option.some.inj h).symm) List.nil_prefix
    unfold paths at hpa; unfold arrange
    dsimp only
    by_cases hlt : n < a.paths.length
    · rw [List.getElem?_append_left (by rwa [length_arrange]), List.getElem?_append_left (by rwa [length_arrange])]
    rw [List.getElem?_append_right (by rw [List.length_map]; omega), List.length_map, List.getElem?_map] at hpa
    obtain ⟨q, hq, rfl⟩ := Option.map_eq_some_iff.1 hpa
    rw [List.getElem?_append_right (by rw [length_arrange]; omega),
      List.getElem?_append_right (by rw [length_arrange]; omega), length_arrange]
    exact ih _ gap _ q hq fun p hp hbe => hm (.second :: p) hp ((List.prefix_cons_inj _).2 hbe)

/-! ## Resizing -/

end DwindleNode

/-- Whether a resize has handled an axis. -/
def ResizedAxes.along (resized : ResizedAxes) (horizontal : Bool) : Bool :=
  if horizontal then resized.horizontal else resized.vertical

/-- What handling an axis records, and whether its boundary moved. -/
def ResizedAxes.handle (resized : ResizedAxes) (horizontal moved : Bool) : ResizedAxes :=
  let resized := if moved then { resized with changed := true } else resized
  if horizontal then { resized with horizontal := true } else { resized with vertical := true }

namespace DwindleNode

variable {W : Type} [DecidableEq W] (r : Rounding)

structure BoundaryStep (horizontal : Bool) (ratio ratio' : ℚ) (resized resized' : ResizedAxes) : Prop where
  handled : ∀ axis, resized.along axis = true → resized'.along axis = true
  moved : ratio' ≠ ratio → resized.along horizontal = false ∧ resized'.along horizontal = true
  changed : resized'.changed = false → ratio' = ratio ∧ resized.changed = false

variable {resized resized' : ResizedAxes}

theorem BoundaryStep.apart {horizontal axis : Bool} {rt r' : ℚ}
    (h : BoundaryStep horizontal rt r' resized resized') (hr : r' ≠ rt)
    (hs : resized.along axis = true) : axis ≠ horizontal := by
  rintro rfl
  rw [(h.moved hr).1] at hs; cases hs

theorem resizeBoundary_cases (rt : ℚ) (wif : Bool) (geometry : Rect) (gap : Int) (edges : LayoutResizeEdges)
    (dx dy : F64) (resized : ResizedAxes) : resizeBoundary r rt wif geometry gap edges dx dy resized = (rt, resized) ∨
      ∃ next : Option ℚ, resized.along (geometry.w ≥ geometry.h) = false ∧
        resizeBoundary r rt wif geometry gap edges dx dy resized =
          (next.getD rt, resized.handle (geometry.w ≥ geometry.h) next.isSome) := by
  unfold resizeBoundary ResizedAxes.handle ResizedAxes.along
  by_cases hh : geometry.w ≥ geometry.h
  · simp only [hh, decide_true, if_true]; split
    · exact .inl rfl
    · rename_i hn; exact .inr ⟨_, by simp_all, rfl⟩
  simp only [hh, decide_false, Bool.false_eq_true, if_false]; split
  · exact .inl rfl
  · rename_i hn; exact .inr ⟨_, by simp_all, rfl⟩

theorem boundaryStep_handle (horizontal : Bool) (rt : ℚ) (next : Option ℚ) (h : resized.along horizontal = false) :
    BoundaryStep horizontal rt (next.getD rt) resized (resized.handle horizontal next.isSome) := by
  obtain ⟨x, y, changed⟩ := resized
  constructor
  · intro axis hs
    cases next <;> cases horizontal <;> cases axis <;> simp_all [ResizedAxes.along, ResizedAxes.handle]
  · intro _
    refine ⟨h, ?_⟩
    cases next <;> cases horizontal <;> rfl
  · intro hh
    cases next with
    | none => cases horizontal <;> exact ⟨rfl, hh⟩
    | some next => cases horizontal <;> cases hh

theorem resizeBoundary_step (rt : ℚ) (wif : Bool) (geometry : Rect) (gap : Int) (edges : LayoutResizeEdges)
    (dx dy : F64) (resized : ResizedAxes) : BoundaryStep (geometry.w ≥ geometry.h) rt
      (resizeBoundary r rt wif geometry gap edges dx dy resized).1 resized
      (resizeBoundary r rt wif geometry gap edges dx dy resized).2 := by
  rcases resizeBoundary_cases r rt wif geometry gap edges dx dy resized with h | ⟨next, hs, h⟩
  · rw [h]
    exact ⟨fun _ h => h, fun h => absurd rfl h, fun h => ⟨rfl, h⟩⟩
  · rw [h]; exact boundaryStep_handle _ rt next hs

/-- What a tree is after a resize around a window: its splits moved at most once along each axis, all above the window. -/
structure ResizedOnce (w : W) (geometry : Rect) (gap : Int) (t t' : DwindleNode W) (resized : ResizedAxes) : Prop where
  above : ∀ path, Moved t t' path → path <+: t.pathTo w ∧ path ≠ t.pathTo w
  handled : ∀ path, Moved t t' path → resized.along (t.horizontalAt r geometry gap path) = true
  once : ∀ path path', Moved t t' path → Moved t t' path' →
    t.horizontalAt r geometry gap path = t.horizontalAt r geometry gap path' → path = path'
  unchanged : resized.changed = false → t' = t

theorem ResizedOnce.refl (w : W) (geometry : Rect) (gap : Int) (t : DwindleNode W) (resized : ResizedAxes) :
    ResizedOnce r w geometry gap t t resized :=
  ⟨fun _ h => absurd rfl h, fun _ h => absurd rfl h, fun _ _ h => absurd rfl h, fun _ => rfl⟩

variable {r}

theorem ResizedOnce.first {w : W} {geometry : Rect} {gap : Int} {ratio r' : ℚ} {a a' b : DwindleNode W}
    (hw : a.contains w = true) (h : ResizedOnce r w (splitGeometry r geometry gap (.finite ratio)).1 gap a a' resized)
    (hstep : BoundaryStep (geometry.w ≥ geometry.h) ratio r' resized resized') :
    ResizedOnce r w geometry gap (.split ratio a b) (.split r' a' b) resized' := by
  have hpa : (split ratio a b).pathTo w = .first :: a.pathTo w := by rw [pathTo, if_pos hw]
  have hr : Moved (.split ratio a b) (.split r' a' b) [] → r' ≠ ratio :=
    fun hm heq => hm (congrArg some heq)
  constructor
  · rintro (_ | ⟨_ | _, path⟩) hm
    · rw [hpa]; exact ⟨List.nil_prefix, fun h => by cases h⟩
    · obtain ⟨hbe, hne⟩ := h.above path hm; rw [hpa]
      exact ⟨(List.prefix_cons_inj _).2 hbe, fun h => hne (List.cons.inj h).2⟩
    · exact absurd rfl hm
  · rintro (_ | ⟨_ | _, path⟩) hm
    · exact (hstep.moved (hr hm)).2
    · exact hstep.handled _ (h.handled path hm)
    · exact absurd rfl hm
  · rintro (_ | ⟨_ | _, path⟩) (_ | ⟨_ | _, path'⟩) hm hm' hs
    · rfl
    · exact absurd hs.symm (hstep.apart (hr hm) (h.handled path' hm'))
    · exact absurd rfl hm'
    · exact absurd hs (hstep.apart (hr hm') (h.handled path hm))
    · exact congrArg _ (h.once path path' hm hm' hs)
    · exact absurd rfl hm'
    · exact absurd rfl hm
    · exact absurd rfl hm
    · exact absurd rfl hm
  · intro hh
    obtain ⟨hra, hh⟩ := hstep.changed hh; rw [hra, h.unchanged hh]

theorem ResizedOnce.second {w : W} {geometry : Rect} {gap : Int} {ratio r' : ℚ} {a b b' : DwindleNode W}
    (ha : a.contains w ≠ true) (hw : b.contains w = true)
    (h : ResizedOnce r w (splitGeometry r geometry gap (.finite ratio)).2 gap b b' resized)
    (hstep : BoundaryStep (geometry.w ≥ geometry.h) ratio r' resized resized') :
    ResizedOnce r w geometry gap (.split ratio a b) (.split r' a b') resized' := by
  have hpa : (split ratio a b).pathTo w = .second :: b.pathTo w := by rw [pathTo, if_neg ha, if_pos hw]
  have hr : Moved (.split ratio a b) (.split r' a b') [] → r' ≠ ratio :=
    fun hm heq => hm (congrArg some heq)
  constructor
  · rintro (_ | ⟨_ | _, path⟩) hm
    · rw [hpa]; exact ⟨List.nil_prefix, fun h => by cases h⟩
    · exact absurd rfl hm
    · obtain ⟨hbe, hne⟩ := h.above path hm; rw [hpa]
      exact ⟨(List.prefix_cons_inj _).2 hbe, fun h => hne (List.cons.inj h).2⟩
  · rintro (_ | ⟨_ | _, path⟩) hm
    · exact (hstep.moved (hr hm)).2
    · exact absurd rfl hm
    · exact hstep.handled _ (h.handled path hm)
  · rintro (_ | ⟨_ | _, path⟩) (_ | ⟨_ | _, path'⟩) hm hm' hs
    · rfl
    · exact absurd rfl hm'
    · exact absurd hs.symm (hstep.apart (hr hm) (h.handled path' hm'))
    · exact absurd rfl hm
    · exact absurd rfl hm
    · exact absurd rfl hm
    · exact absurd hs (hstep.apart (hr hm') (h.handled path hm))
    · exact absurd rfl hm'
    · exact congrArg _ (h.once path path' hm hm' hs)
  · intro hh
    obtain ⟨hra, hh⟩ := hstep.changed hh; rw [hra, h.unchanged hh]

variable (r)

theorem resizeWindow_once : ∀ (t : DwindleNode W) (w : W) (geometry : Rect) (gap : Int) (edges : LayoutResizeEdges)
    (deltaX dy : F64), ResizedOnce r w geometry gap t (t.resizeWindow r w geometry gap edges deltaX dy).1
      (t.resizeWindow r w geometry gap edges deltaX dy).2
  | .window _, w, geometry, gap, _, _, _ => .refl r w geometry gap _ _
  | .split ratio first second, w, geometry, gap, edges, deltaX, dy => by
    unfold resizeWindow; dsimp only
    split
    · rename_i hf
      exact (resizeWindow_once first w _ gap edges deltaX dy).first hf (resizeBoundary_step ..)
    rename_i hf; split
    · rename_i hs
      exact (resizeWindow_once second w _ gap edges deltaX dy).second hf hs (resizeBoundary_step ..)
    · exact .refl r w geometry gap _ _

/-- A tree after a resize of a window: only splits above the window have another ratio, at most one of each axis, and
a window keeps its place, in any area, unless such a split is above it too. -/
structure ResizedLocally (request : LayoutResizeRequest W) (t t' : DwindleNode W) : Prop where
  leaves : t'.leaves = t.leaves
  paths : t'.paths = t.paths
  above : ∀ path, Moved t t' path → path <+: t.pathTo request.window ∧ path ≠ t.pathTo request.window
  once : ∀ path path', Moved t t' path → Moved t t' path' →
    t.horizontalAt r request.workArea (max request.gap 0) path =
      t.horizontalAt r request.workArea (max request.gap 0) path' → path = path'
  placement : ∀ (area : Rect) (gap : Int) (n : Nat) (path : List Side), t.paths[n]? = some path →
    (∀ p, Moved t t' p → ¬p <+: path) → (t'.arrange r area gap)[n]? = (t.arrange r area gap)[n]?

theorem ResizedLocally.refl (request : LayoutResizeRequest W) (t : DwindleNode W) : ResizedLocally r request t t :=
  ⟨rfl, rfl, fun _ h => absurd rfl h, fun _ _ h => absurd rfl h, fun _ _ _ _ _ _ => rfl⟩

theorem resizeWindow_locally (request : LayoutResizeRequest W) (t : DwindleNode W) :
    ResizedLocally r request t (t.resizeWindow r request.window request.workArea (max request.gap 0) request.edges
      request.deltaX request.deltaY).1 := by
  have hn := (resizeWindow_along r t request.window request.workArea (max request.gap 0) request.edges
    request.deltaX request.deltaY).1
  have ho := resizeWindow_once r t request.window request.workArea (max request.gap 0) request.edges
    request.deltaX request.deltaY
  exact ⟨hn.leaves_eq, hn.paths_eq, ho.above, ho.once, hn.placement_eq⟩

end DwindleNode

/-! ## The layout -/

namespace DwindleLayout

variable {W : Type} [DecidableEq W]

/-- A resize changes the tree of at most one output, there at most one split of each axis above the window, with the
placements below it; and nothing at all where it reports no change. -/
theorem resize_is_local (r : Rounding) (layout : DwindleLayout W) (request : LayoutResizeRequest W) :
    (∃ output, (∀ other, other ≠ output → (layout.resize r request).1.roots.lookup other = layout.roots.lookup other) ∧
      Option.Rel (DwindleNode.ResizedLocally r request) (layout.roots.lookup output)
        ((layout.resize r request).1.roots.lookup output)) ∧
      ((layout.resize r request).2 = false →
        ∀ output, (layout.resize r request).1.roots.lookup output = layout.roots.lookup output) := by
  have hsam : ∀ layout' : DwindleLayout W × Bool, layout' = (layout, false) →
      (∃ output, (∀ other, other ≠ output → layout'.1.roots.lookup other = layout.roots.lookup other) ∧
        Option.Rel (DwindleNode.ResizedLocally r request) (layout.roots.lookup output) (layout'.1.roots.lookup output)) ∧
        (layout'.2 = false → ∀ output, layout'.1.roots.lookup output = layout.roots.lookup output) := by
    rintro _ rfl
    refine ⟨⟨0, fun _ _ => rfl, ?_⟩, fun _ _ => rfl⟩
    cases layout.roots.lookup 0 with
    | none => exact .none
    | some t => exact .some (.refl r request t)
  generalize hres : layout.resize r request = result; unfold resize at hres
  split at hres
  · split at hres
    · exact hsam result hres.symm
    rename_i output root hfin; subst hres
    have hroot : layout.roots.lookup output = some root := (lookup_of_find? hfin).1
    refine ⟨⟨output, fun other hne => ?_, ?_⟩, fun hchan other => ?_⟩
    · rw [lookup_insert_eq, if_neg hne]
    · rw [hroot, lookup_insert_eq, if_pos rfl]
      exact .some (DwindleNode.resizeWindow_locally r request root)
    · have hunc := (DwindleNode.resizeWindow_once r root request.window request.workArea (max request.gap 0)
        request.edges request.deltaX request.deltaY).unchanged hchan
      rw [lookup_insert_eq]; split
      · rename_i heq; rw [heq, hroot]; exact congrArg some hunc
      · rfl
  · exact hsam result hres.symm

end DwindleLayout

end Deniald.Layout
