/-
Capture regions (wayland_frontend/screencopy.rs): a region of an output, in logical coordinates, is projected onto the
pixels it is read from and onto the size of the client's buffer, each edge scaled and rounded by itself. A projection
that comes out empty is raised to one pixel where it starts, which for a region at the far edge is one pixel too far.
-/
import Deniald.Layout.Dwindle

namespace Deniald.Screencopy.Regions

open Deniald.Lib
open Deniald.Layout (Rect)
open Deniald.Topology (OutputId OutputTransform)

/-! ## Model -/

structure Size where
  w : Int
  h : Int
  deriving DecidableEq

def toI32 (n : Int) : Option Int := if -2 ^ 31 ≤ n ∧ n < 2 ^ 31 then some n else none

def toI64 (n : Int) : Option Int := if -2 ^ 63 ≤ n ∧ n < 2 ^ 63 then some n else none

def scaledEdge (edge logicalExtent pixelExtent : Int) : Option Int :=
  if edge < 0 ∨ logicalExtent ≤ 0 ∨ pixelExtent ≤ 0 then none
  else do
    let product ← toI64 (edge * pixelExtent)
    let numerator ← toI64 (product + logicalExtent / 2)
    toI32 (numerator / logicalExtent)

/-- The edges of a region, in logical coordinates of its output. -/
structure Edges where
  left : Int
  top : Int
  right : Int
  bottom : Int

def clampRegion (logicalSize : Size) (requested : Option Rect) : Option Edges :=
  let requested := requested.getD ⟨0, 0, logicalSize.w, logicalSize.h⟩
  if requested.w ≤ 0 ∨ requested.h ≤ 0 then none
  else
    let left := clamp requested.x 0 logicalSize.w
    let top := clamp requested.y 0 logicalSize.h
    let right := clamp (satAdd requested.x requested.w) 0 logicalSize.w
    let bottom := clamp (satAdd requested.y requested.h) 0 logicalSize.h
    if right ≤ left ∨ bottom ≤ top then none else some ⟨left, top, right, bottom⟩

/-- What an output has of its frames: the pixels they are read from, their size and their logical size. -/
structure CaptureOutput where
  id : OutputId
  source : Rect
  scanoutSize : Size
  logicalSize : Size
  transform : OutputTransform

structure CaptureTarget where
  output : OutputId
  source : Rect
  size : Size
  outputSize : Size
  transform : OutputTransform
  overlayCursor : Bool
  deriving DecidableEq

/-- One axis of a target: where its source starts, and its extents in the source and in the client's buffer. -/
structure AxisTarget where
  loc : Int
  extent : Int
  bufferExtent : Int

/-- One axis of `project_capture_region`; extents that come out empty are raised to one pixel. -/
def projectAxis (low high logicalExtent origin sourceExtent scanoutExtent : Int) : Option AxisTarget := do
  let sourceLow ← scaledEdge low logicalExtent sourceExtent
  let sourceHigh ← scaledEdge high logicalExtent sourceExtent
  let bufferLow ← scaledEdge low logicalExtent scanoutExtent
  let bufferHigh ← scaledEdge high logicalExtent scanoutExtent
  let loc ← toI32 (origin + sourceLow)
  let extent ← toI32 (sourceHigh - sourceLow)
  let bufferExtent ← toI32 (bufferHigh - bufferLow)
  some ⟨loc, max extent 1, max bufferExtent 1⟩

def projectCaptureRegion (output : CaptureOutput) (requested : Option Rect) (overlayCursor : Bool) :
    Option CaptureTarget := do
  let edges ← clampRegion output.logicalSize requested
  let x ← projectAxis edges.left edges.right output.logicalSize.w output.source.x output.source.w output.scanoutSize.w
  let y ← projectAxis edges.top edges.bottom output.logicalSize.h output.source.y output.source.h output.scanoutSize.h
  some
    { output := output.id
      source := ⟨x.loc, y.loc, x.extent, y.extent⟩
      size := ⟨x.bufferExtent, y.bufferExtent⟩
      outputSize := output.scanoutSize
      transform := output.transform
      overlayCursor }

def framebufferSourceRect (source : Rect) (atlasSize : Size) : Option Rect := do
  let right ← toI32 (source.x + source.w)
  let bottom ← toI32 (source.y + source.h)
  if 0 ≤ source.x ∧ 0 ≤ source.y ∧ 0 < source.w ∧ 0 < source.h ∧ right ≤ atlasSize.w ∧ bottom ≤ atlasSize.h then
    some source
  else none

/-- `Transform::transform_rect_in`: a rectangle within an area, seen through a transform. -/
structure RectTransform where
  rectIn : OutputTransform → Rect → Size → Rect
  normal : ∀ rect area, rectIn .normal rect area = rect

def captureSourceRect (transforms : RectTransform) (target : CaptureTarget) (scanoutSize : Size) : Option Rect :=
  framebufferSourceRect (transforms.rectIn target.transform target.source target.outputSize) scanoutSize

/-! ## Scaled edges -/

def pixelOf (edge logicalExtent pixelExtent : Int) : Int := (edge * pixelExtent + logicalExtent / 2) / logicalExtent

section

variable {edge edge' logicalExtent pixelExtent : Int}

theorem pixelOf_mono (hlo : 0 < logicalExtent) (hpi : 0 < pixelExtent) (h : edge ≤ edge') :
    pixelOf edge logicalExtent pixelExtent ≤ pixelOf edge' logicalExtent pixelExtent := by
  unfold pixelOf
  have hs : edge * pixelExtent ≤ edge' * pixelExtent := Int.mul_le_mul_of_nonneg_right h hpi.le
  exact Int.ediv_le_ediv hlo (by omega)

theorem pixelOf_zero (hlo : 0 < logicalExtent) : pixelOf 0 logicalExtent pixelExtent = 0 := by
  unfold pixelOf
  rw [Int.zero_mul, Int.zero_add]; exact Int.ediv_eq_zero_of_lt (by omega) (by omega)

theorem pixelOf_extent (hlo : 0 < logicalExtent) : pixelOf logicalExtent logicalExtent pixelExtent = pixelExtent := by
  unfold pixelOf
  rw [Int.add_comm, Int.add_mul_ediv_left _ _ hlo.ne', Int.ediv_eq_zero_of_lt (by omega) (by omega), Int.zero_add]

theorem pixelOf_mem (hlg : 0 < logicalExtent) (hpi : 0 < pixelExtent) (hlo : 0 ≤ edge) (hhi : edge ≤ logicalExtent) :
    0 ≤ pixelOf edge logicalExtent pixelExtent ∧ pixelOf edge logicalExtent pixelExtent ≤ pixelExtent := by
  have hz := pixelOf_mono hlg hpi hlo
  have he := pixelOf_mono hlg hpi hhi; rw [pixelOf_zero hlg] at hz
  rw [pixelOf_extent hlg] at he; exact ⟨hz, he⟩

theorem toI32_of_mem {n : Int} (hlo : -2 ^ 31 ≤ n) (hhi : n < 2 ^ 31) : toI32 n = some n := if_pos ⟨hlo, hhi⟩

theorem scaledEdge_eq (hlg : 0 < logicalExtent) (hl32 : logicalExtent < 2 ^ 31) (hpi : 0 < pixelExtent)
    (hp32 : pixelExtent < 2 ^ 31) (hlo : 0 ≤ edge) (hhi : edge ≤ logicalExtent) :
    scaledEdge edge logicalExtent pixelExtent = some (pixelOf edge logicalExtent pixelExtent) := by
  have hr : 0 ≤ edge * pixelExtent := Int.mul_nonneg hlo hpi.le
  have hp64 : edge * pixelExtent ≤ 2 ^ 31 * 2 ^ 31 :=
    Int.mul_le_mul (by omega) hp32.le hpi.le (by norm_num)
  have hmem := pixelOf_mem hlg hpi hlo hhi; unfold scaledEdge
  rw [if_neg (by omega)]; unfold toI64
  rw [if_pos ⟨by omega, by omega⟩]
  simp only [Option.bind_eq_bind, Option.bind_some]; rw [if_pos ⟨by omega, by omega⟩]
  simp only [Option.bind_some]
  exact toI32_of_mem (by unfold pixelOf at hmem; omega) (by unfold pixelOf at hmem; omega)

theorem toI32_iff {n m : Int} : toI32 n = some m ↔ m = n ∧ -2 ^ 31 ≤ n ∧ n < 2 ^ 31 := by
  unfold toI32
  split_ifs with h
  · exact ⟨fun heq => ⟨(Option.some.inj heq).symm, h⟩, fun heq => congrArg some heq.1.symm⟩
  · exact ⟨fun heq => (by cases heq), fun heq => absurd heq.2 h⟩

/-- What an axis of a region is projected to. -/
def axisOf (low high logicalExtent origin sourceExtent scanoutExtent : Int) : AxisTarget :=
  ⟨origin + pixelOf low logicalExtent sourceExtent,
    max (pixelOf high logicalExtent sourceExtent - pixelOf low logicalExtent sourceExtent) 1,
    max (pixelOf high logicalExtent scanoutExtent - pixelOf low logicalExtent scanoutExtent) 1⟩

theorem projectAxis_eq {low high org se : Int} (hlo : 0 < logicalExtent)
    (hl32 : logicalExtent < 2 ^ 31) (hpi : 0 < pixelExtent) (hs : 0 < se)
    (hs32 : se < 2 ^ 31) (ho : 0 ≤ org) (hf : org + pixelExtent < 2 ^ 31) (hw : 0 ≤ low)
    (hle : low ≤ high) (hh : high ≤ logicalExtent) : projectAxis low high logicalExtent org pixelExtent se =
      some (axisOf low high logicalExtent org pixelExtent se) := by
  have hp32 : pixelExtent < 2 ^ 31 := by omega
  have hsl := pixelOf_mem hlo hpi hw (hle.trans hh)
  have hsh := pixelOf_mem hlo hpi (hw.trans hle) hh
  have hbl := pixelOf_mem hlo hs hw (hle.trans hh)
  have hbh := pixelOf_mem hlo hs (hw.trans hle) hh; unfold projectAxis
  rw [scaledEdge_eq hlo hl32 hpi hp32 hw (hle.trans hh),
    scaledEdge_eq hlo hl32 hpi hp32 (hw.trans hle) hh,
    scaledEdge_eq hlo hl32 hs hs32 hw (hle.trans hh),
    scaledEdge_eq hlo hl32 hs hs32 (hw.trans hle) hh]
  simp only [Option.bind_eq_bind, Option.bind_some]
  rw [toI32_of_mem (by omega) (by omega), toI32_of_mem (by omega) (by omega), toI32_of_mem (by omega) (by omega)]
  rfl

end

/-! ## Regions -/

/-- An output whose extents are positive and within 32 bits, and whose pixels lie in the frame they are read from. -/
structure CaptureOutput.Valid (o : CaptureOutput) (atlasSize : Size) : Prop where
  inAtlas : framebufferSourceRect o.source atlasSize = some o.source
  scanoutW : 0 < o.scanoutSize.w ∧ o.scanoutSize.w < 2 ^ 31
  scanoutH : 0 < o.scanoutSize.h ∧ o.scanoutSize.h < 2 ^ 31
  logicalW : 0 < o.logicalSize.w ∧ o.logicalSize.w < 2 ^ 31
  logicalH : 0 < o.logicalSize.h ∧ o.logicalSize.h < 2 ^ 31

theorem framebufferSourceRect_iff {source rect : Rect} {atlasSize : Size} :
    framebufferSourceRect source atlasSize = some rect ↔ rect = source ∧ 0 ≤ source.x ∧ 0 ≤ source.y ∧ 0 < source.w ∧
      0 < source.h ∧ source.x + source.w ≤ atlasSize.w ∧ source.y + source.h ≤ atlasSize.h ∧
        source.x + source.w < 2 ^ 31 ∧ source.y + source.h < 2 ^ 31 := by
  unfold framebufferSourceRect
  constructor
  · intro h
    obtain ⟨right, hri, h⟩ := Option.bind_eq_some_iff.1 h
    obtain ⟨bottom, hbo, h⟩ := Option.bind_eq_some_iff.1 h
    obtain ⟨rfl, -, hr32⟩ := toI32_iff.1 hri
    obtain ⟨rfl, -, hb32⟩ := toI32_iff.1 hbo
    split_ifs at h with hn
    cases h
    obtain ⟨hx, hy, hw, hh, hr, hb⟩ := hn
    exact ⟨rfl, hx, hy, hw, hh, hr, hb, hr32, hb32⟩
  · rintro ⟨rfl, hx, hy, hw, hh, hr, hb, hr32, hb32⟩
    rw [toI32_of_mem (by omega) hr32, toI32_of_mem (by omega) hb32]
    simp only [Option.bind_eq_bind, Option.bind_some]; exact if_pos ⟨hx, hy, hw, hh, hr, hb⟩

theorem clampRegion_spec {ls : Size} {requested : Option Rect} {e : Edges} (hw : 0 < ls.w)
    (hh : 0 < ls.h) (h : clampRegion ls requested = some e) : (0 ≤ e.left ∧ e.left < e.right ∧ e.right ≤ ls.w) ∧
      0 ≤ e.top ∧ e.top < e.bottom ∧ e.bottom ≤ ls.h := by
  unfold clampRegion at h
  simp only at h
  split at h
  · cases h
  split at h
  · cases h
  rename_i hs; cases h
  obtain ⟨hx, hy⟩ := not_or.1 hs
  refine ⟨⟨(clamp_mem hw.le).1, not_le.1 hx, (clamp_mem hw.le).2⟩, (clamp_mem hh.le).1, not_le.1 hy, (clamp_mem hh.le).2⟩

section

variable {o : CaptureOutput} {atlasSize : Size} {requested : Option Rect} {overlayCursor : Bool}

/-- The axes of a region of an output. -/
def axisX (o : CaptureOutput) (e : Edges) : AxisTarget :=
  axisOf e.left e.right o.logicalSize.w o.source.x o.source.w o.scanoutSize.w

def axisY (o : CaptureOutput) (e : Edges) : AxisTarget :=
  axisOf e.top e.bottom o.logicalSize.h o.source.y o.source.h o.scanoutSize.h

def sourceOf (o : CaptureOutput) (e : Edges) : Rect := ⟨(axisX o e).loc, (axisY o e).loc, (axisX o e).extent, (axisY o e).extent⟩

theorem project_eq (ho : o.Valid atlasSize) :
    projectCaptureRegion o requested overlayCursor = (clampRegion o.logicalSize requested).map fun e =>
      { output := o.id, source := sourceOf o e, size := ⟨(axisX o e).bufferExtent, (axisY o e).bufferExtent⟩
        outputSize := o.scanoutSize, transform := o.transform, overlayCursor } := by
  unfold projectCaptureRegion
  cases he : clampRegion o.logicalSize requested with
  | none => rfl
  | some e =>
    obtain ⟨⟨hf, hx, hr⟩, hto, hy, hbo⟩ := clampRegion_spec ho.logicalW.1 ho.logicalH.1 he
    obtain ⟨-, hax, hay, hsw, hsh, -, -, hfx, hfy⟩ := framebufferSourceRect_iff.1 ho.inAtlas
    simp only [Option.bind_eq_bind, Option.bind_some, Option.map_some]
    rw [projectAxis_eq ho.logicalW.1 ho.logicalW.2 hsw ho.scanoutW.1 ho.scanoutW.2 hax hfx hf hx.le hr,
      projectAxis_eq ho.logicalH.1 ho.logicalH.2 hsh ho.scanoutH.1 ho.scanoutH.2 hay hfy hto hy.le hbo]
    rfl

end

/-! ## What is announced -/

/-- A target whose source is not empty and lies in its output, which is no larger than the output, and which passes the
check of its bounds when the frame is there. -/
structure Announced (transforms : RectTransform) (o : CaptureOutput) (atlasSize : Size) (t : CaptureTarget) : Prop where
  nonempty : 0 < t.source.w ∧ 0 < t.source.h
  insideX : o.source.x ≤ t.source.x ∧ t.source.x + t.source.w ≤ o.source.x + o.source.w
  insideY : o.source.y ≤ t.source.y ∧ t.source.y + t.source.h ≤ o.source.y + o.source.h
  width : 0 < t.size.w ∧ t.size.w ≤ o.scanoutSize.w
  height : 0 < t.size.h ∧ t.size.h ≤ o.scanoutSize.h
  capturable : (captureSourceRect transforms t atlasSize).isSome = true

/-- The region starts where its output's pixels end. -/
def FarEdge (o : CaptureOutput) (requested : Option Rect) : Prop :=
  ∃ e, clampRegion o.logicalSize requested = some e ∧
    (scaledEdge e.left o.logicalSize.w o.source.w = some o.source.w ∨
      scaledEdge e.top o.logicalSize.h o.source.h = some o.source.h)

/-- A side of the region is rounded to nothing. -/
def Degenerate (o : CaptureOutput) (requested : Option Rect) : Prop :=
  ∃ e, clampRegion o.logicalSize requested = some e ∧
    (scaledEdge e.left o.logicalSize.w o.source.w = scaledEdge e.right o.logicalSize.w o.source.w ∨
      scaledEdge e.top o.logicalSize.h o.source.h = scaledEdge e.bottom o.logicalSize.h o.source.h)

/-- Two rectangles that share no pixel. -/
def Apart (a b : Rect) : Prop := a.x + a.w ≤ b.x ∨ b.x + b.w ≤ a.x ∨ a.y + a.h ≤ b.y ∨ b.y + b.h ≤ a.y

theorem axisOf_inside {low high logicalExtent se : Int} (org scan : Int)
    (hlo : 0 < logicalExtent) (hs : 0 < se) (hw : 0 ≤ low) (hle : low ≤ high) (hh : high ≤ logicalExtent) :
    let a := axisOf low high logicalExtent org se scan
    0 < a.extent ∧ org ≤ a.loc ∧ (a.loc + a.extent ≤ org + se ↔
      pixelOf low logicalExtent se ≠ se) := by
  have hsl := pixelOf_mem hlo hs hw (hle.trans hh)
  have hsh := pixelOf_mem hlo hs (hw.trans hle) hh
  simp only [axisOf]; omega

theorem axisOf_size {low high logicalExtent scanoutExtent : Int} (org se : Int)
    (hlo : 0 < logicalExtent) (hs : 0 < scanoutExtent) (hw : 0 ≤ low) (hle : low ≤ high) (hh : high ≤ logicalExtent) :
    let a := axisOf low high logicalExtent org se scanoutExtent
    0 < a.bufferExtent ∧ a.bufferExtent ≤ scanoutExtent := by
  have hbl := pixelOf_mem hlo hs hw (hle.trans hh)
  have hbh := pixelOf_mem hlo hs (hw.trans hle) hh
  simp only [axisOf]; omega

theorem axisOf_before {low high low' logicalExtent sourceExtent : Int} (org se : Int)
    (hlo : 0 < logicalExtent) (hs : 0 < sourceExtent) (h : high ≤ low')
    (hso : pixelOf low logicalExtent sourceExtent < pixelOf high logicalExtent sourceExtent) :
    let a := axisOf low high logicalExtent org sourceExtent se
    a.loc + a.extent ≤ org + pixelOf low' logicalExtent sourceExtent := by
  have hm := pixelOf_mono hlo hs h
  simp only [axisOf]; omega

theorem clamp_satAdd_le {loc extent start logicalExtent : Int} (hlo : 0 < logicalExtent)
    (hl32 : logicalExtent < 2 ^ 31) (h : loc + extent ≤ start) :
    clamp (satAdd loc extent) 0 logicalExtent ≤ clamp start 0 logicalExtent := by
  unfold satAdd satI32 clamp
  split_ifs <;> omega

section

variable {transforms : RectTransform} {o : CaptureOutput} {atlasSize : Size} {requested : Option Rect}

theorem announced_iff (ho : o.Valid atlasSize) (hno : o.transform = .normal) (overlayCursor : Bool) :
    (∀ t, projectCaptureRegion o requested overlayCursor = some t → Announced transforms o atlasSize t) ↔
      ¬FarEdge o requested := by
  rw [project_eq ho]
  obtain ⟨-, hax, hay, hsw, hsh, hiw, hih, hfarX, hfarY⟩ := framebufferSourceRect_iff.1 ho.inAtlas
  constructor
  · rintro h ⟨e, he, hf⟩
    obtain ⟨⟨hle, hx, hr⟩, hto, hy, hbo⟩ := clampRegion_spec ho.logicalW.1 ho.logicalH.1 he
    have han := h _ (by rw [he]; rfl)
    rw [scaledEdge_eq ho.logicalW.1 ho.logicalW.2 hsw (by omega) hle (by omega),
      scaledEdge_eq ho.logicalH.1 ho.logicalH.2 hsh (by omega) hto (by omega)] at hf
    rcases hf with hf | hf
    · exact (axisOf_inside _ o.scanoutSize.w ho.logicalW.1 hsw hle hx.le hr).2.2.1 han.insideX.2
        (Option.some.inj hf)
    · exact (axisOf_inside _ o.scanoutSize.h ho.logicalH.1 hsh hto hy.le hbo).2.2.1 han.insideY.2
        (Option.some.inj hf)
  · intro hn t ht
    obtain ⟨e, he, rfl⟩ := Option.map_eq_some_iff.1 ht
    obtain ⟨⟨hle, hx, hr⟩, hto, hy, hbo⟩ := clampRegion_spec ho.logicalW.1 ho.logicalH.1 he
    have hnx : pixelOf e.left o.logicalSize.w o.source.w ≠ o.source.w := by
      refine fun hf => hn ⟨e, he, .inl ?_⟩
      rw [scaledEdge_eq ho.logicalW.1 ho.logicalW.2 hsw (by omega) hle (by omega), hf]
    have hny : pixelOf e.top o.logicalSize.h o.source.h ≠ o.source.h := by
      refine fun hf => hn ⟨e, he, .inr ?_⟩
      rw [scaledEdge_eq ho.logicalH.1 ho.logicalH.2 hsh (by omega) hto (by omega), hf]
    obtain ⟨hsx, hfx, hix⟩ := axisOf_inside o.source.x o.scanoutSize.w ho.logicalW.1 hsw hle hx.le hr
    obtain ⟨hsy, hfy, hiy⟩ := axisOf_inside o.source.y o.scanoutSize.h ho.logicalH.1 hsh hto hy.le hbo
    have hix := hix.2 hnx
    have hiy := hiy.2 hny
    refine ⟨⟨hsx, hsy⟩, ⟨hfx, hix⟩, ⟨hfy, hiy⟩,
      axisOf_size o.source.x o.source.w ho.logicalW.1 ho.scanoutW.1 hle hx.le hr,
      axisOf_size o.source.y o.source.h ho.logicalH.1 ho.scanoutH.1 hto hy.le hbo, ?_⟩
    unfold captureSourceRect
    rw [hno, transforms.normal, Option.isSome_iff_exists]
    refine ⟨_, framebufferSourceRect_iff.2 ⟨rfl, hax.trans hfx, hay.trans hfy, hsx, hsy, ?_, ?_, ?_, ?_⟩⟩
    · exact hix.trans hiw
    · exact hiy.trans hih
    · exact hix.trans_lt hfarX
    · exact hiy.trans_lt hfarY

theorem solid_of_not_degenerate (ho : o.Valid atlasSize) {e : Edges}
    (he : clampRegion o.logicalSize requested = some e) (h : ¬Degenerate o requested) :
    pixelOf e.left o.logicalSize.w o.source.w < pixelOf e.right o.logicalSize.w o.source.w ∧
      pixelOf e.top o.logicalSize.h o.source.h < pixelOf e.bottom o.logicalSize.h o.source.h := by
  obtain ⟨-, hax, hay, hsw, hsh, -, -, hfx, hfy⟩ := framebufferSourceRect_iff.1 ho.inAtlas
  obtain ⟨⟨hf, hx, hr⟩, hto, hy, hbo⟩ := clampRegion_spec ho.logicalW.1 ho.logicalH.1 he
  constructor
  · refine lt_of_le_of_ne (pixelOf_mono ho.logicalW.1 hsw hx.le) fun heq => h ⟨e, he, .inl ?_⟩
    rw [scaledEdge_eq ho.logicalW.1 ho.logicalW.2 hsw (by omega) hf (by omega),
      scaledEdge_eq ho.logicalW.1 ho.logicalW.2 hsw (by omega) (by omega) hr, heq]
  · refine lt_of_le_of_ne (pixelOf_mono ho.logicalH.1 hsh hy.le) fun heq => h ⟨e, he, .inr ?_⟩
    rw [scaledEdge_eq ho.logicalH.1 ho.logicalH.2 hsh (by omega) hto (by omega),
      scaledEdge_eq ho.logicalH.1 ho.logicalH.2 hsh (by omega) (by omega) hbo, heq]

theorem clampRegion_edges {ls : Size} {rgn : Rect} {e : Edges} (h : clampRegion ls (some rgn) = some e) :
    e.left = clamp rgn.x 0 ls.w ∧ e.right = clamp (satAdd rgn.x rgn.w) 0 ls.w ∧
      e.top = clamp rgn.y 0 ls.h ∧ e.bottom = clamp (satAdd rgn.y rgn.h) 0 ls.h := by
  unfold clampRegion at h
  simp only [Option.getD_some] at h; split at h
  · cases h
  split at h
  · cases h
  · cases h; exact ⟨rfl, rfl, rfl, rfl⟩

/-- Regions apart are read from pixels apart, where no side of them is rounded to nothing. -/
theorem sources_apart (ho : o.Valid atlasSize) {a b : Rect} {ea eb : Edges} (hr : Apart a b)
    (ha : clampRegion o.logicalSize (some a) = some ea) (hb : clampRegion o.logicalSize (some b) = some eb)
    (hsa : ¬Degenerate o (some a)) (hsb : ¬Degenerate o (some b)) : Apart (sourceOf o ea) (sourceOf o eb) := by
  obtain ⟨-, -, -, hsw, hsh, -⟩ := framebufferSourceRect_iff.1 ho.inAtlas
  obtain ⟨hla, hra, hta, hba⟩ := clampRegion_edges ha
  obtain ⟨hlb, hrb, htb, hbb⟩ := clampRegion_edges hb
  obtain ⟨hsxa, hsya⟩ := solid_of_not_degenerate ho ha hsa
  obtain ⟨hsxb, hsyb⟩ := solid_of_not_degenerate ho hb hsb
  have hx := fun {loc extent start : Int} => @clamp_satAdd_le loc extent start _ ho.logicalW.1 ho.logicalW.2
  have hy := fun {loc extent start : Int} => @clamp_satAdd_le loc extent start _ ho.logicalH.1 ho.logicalH.2
  rcases hr with h | h | h | h
  · exact .inl (axisOf_before _ o.scanoutSize.w ho.logicalW.1 hsw (hra ▸ hlb ▸ hx h) hsxa)
  · exact .inr (.inl (axisOf_before _ o.scanoutSize.w ho.logicalW.1 hsw (hrb ▸ hla ▸ hx h) hsxb))
  · exact .inr (.inr (.inl (axisOf_before _ o.scanoutSize.h ho.logicalH.1 hsh (hba ▸ htb ▸ hy h) hsya)))
  · exact .inr (.inr (.inr (axisOf_before _ o.scanoutSize.h ho.logicalH.1 hsh (hbb ▸ hta ▸ hy h) hsyb)))

/-- A region of an output is announced as a target that can be captured, exactly if it does not start at the far edge;
and regions apart are read from pixels apart. -/
theorem capture_regions (ho : o.Valid atlasSize) (hnormal : o.transform = .normal) (overlayCursor : Bool) :
    ((∀ t, projectCaptureRegion o requested overlayCursor = some t → Announced transforms o atlasSize t) ↔
      ¬FarEdge o requested) ∧
    ∀ a b ta tb, Apart a b → projectCaptureRegion o (some a) overlayCursor = some ta →
      projectCaptureRegion o (some b) overlayCursor = some tb → ¬Degenerate o (some a) → ¬Degenerate o (some b) →
        Apart ta.source tb.source := by
  refine ⟨announced_iff ho hnormal overlayCursor, fun a b ta tb hapar ha hb hsolA hsolB => ?_⟩
  rw [project_eq ho] at ha hb
  obtain ⟨ea, hedgA, rfl⟩ := Option.map_eq_some_iff.1 ha
  obtain ⟨eb, hedgB, rfl⟩ := Option.map_eq_some_iff.1 hb
  exact sources_apart ho hapar hedgA hedgB hsolA hsolB

end

/-! ## An output smaller than its logical size -/

/-- An output at a quarter of its logical size, untransformed. -/
def quarterOutput : CaptureOutput := ⟨1, ⟨0, 0, 100, 100⟩, ⟨100, 100⟩, ⟨400, 400⟩, .normal⟩

/-- Transforms of rectangles, as far as the untransformed output goes. -/
def upright : RectTransform := ⟨fun _ rect _ => rect, fun _ _ => rfl⟩

theorem quarterOutput_valid : quarterOutput.Valid ⟨100, 100⟩ :=
  ⟨by decide, by decide, by decide, by decide, by decide⟩

theorem quarter_output_regions :
    ((∀ t, projectCaptureRegion quarterOutput (some ⟨0, 0, 200, 400⟩) false = some t →
        Announced upright quarterOutput ⟨100, 100⟩ t) ↔ ¬FarEdge quarterOutput (some ⟨0, 0, 200, 400⟩)) ∧
    ∀ a b ta tb, Apart a b → projectCaptureRegion quarterOutput (some a) false = some ta →
      projectCaptureRegion quarterOutput (some b) false = some tb → ¬Degenerate quarterOutput (some a) →
        ¬Degenerate quarterOutput (some b) → Apart ta.source tb.source :=
  capture_regions quarterOutput_valid rfl false

/-- Its last logical column is announced, and read from a column that it does not have. -/
theorem last_column_not_capturable : ∃ t,
    projectCaptureRegion quarterOutput (some ⟨399, 0, 1, 400⟩) false = some t ∧ t.source = ⟨100, 0, 1, 100⟩ ∧
      captureSourceRect upright t ⟨100, 100⟩ = none :=
  ⟨⟨1, ⟨100, 0, 1, 100⟩, ⟨1, 100⟩, ⟨100, 100⟩, .normal, false⟩, by decide, rfl, by decide⟩

end Deniald.Screencopy.Regions
