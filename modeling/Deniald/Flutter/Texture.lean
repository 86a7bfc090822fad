/-
The hand-over of a client's frames to the rasterizer (flutter_runtime/renderer/texture.rs,
`ExternalTextureSlot`): the current frame, its stable successor and a latest-only lookahead. Producer
and rasterizer interleave freely; frames are presented in the order they were queued in, only excess
lookahead is dropped, and a frame that expects a sample is not replaced before it has one.
-/
import Deniald.Lib.Run
import Mathlib.Data.List.Nodup

namespace Deniald.Flutter

open Deniald.Lib

/-! ## Model -/

/-- A frame of a client. Buffers, pixel storages and feedback tokens are shared pointers, compared by identity. -/
inductive ExternalTextureSource where
  | dmabuf (dmabuf : Nat) (revision : UInt64) (feedback : Option Nat)
  | shm (width height : UInt32) (revision : UInt64) (rgba : Nat) (feedback : Option Nat)

namespace ExternalTextureSource

def feedback : ExternalTextureSource → Option Nat
  | .dmabuf _ _ feedback => feedback
  | .shm _ _ _ _ feedback => feedback

def generation : ExternalTextureSource → UInt64
  | .dmabuf _ revision _ => revision
  | .shm _ _ revision _ _ => revision

def sameGeneration (a b : ExternalTextureSource) : Bool :=
  if a.feedback ≠ b.feedback then false
  else
    match a, b with
    | .dmabuf currentBuffer current _, .dmabuf nextBuffer next _ => current == next && currentBuffer == nextBuffer
    | .shm width height revision rgba _, .shm width' height' revision' rgba' _ =>
      revision == revision' && width == width' && height == height' && rgba == rgba'
    | _, _ => false

end ExternalTextureSource

structure ExternalTextureSlot where
  current : Option ExternalTextureSource
  queued : Option ExternalTextureSource
  lookahead : Option ExternalTextureSource
  currentSampled : Bool
  expectsSample : Bool

namespace ExternalTextureSlot

/-- `ExternalTextureSlot::default`. -/
def default : ExternalTextureSlot := ⟨none, none, none, false, false⟩

def queue (s : ExternalTextureSlot) (source : ExternalTextureSource) (expectsSample : Bool) :
    ExternalTextureSlot × Bool :=
  let s := { s with expectsSample := expectsSample }
  let unchanged := s.queued.any (·.sameGeneration source) || s.lookahead.any (·.sameGeneration source) ||
    s.current.any (·.sameGeneration source)
  if unchanged then (s, false)
  else if s.queued.isNone then ({ s with queued := some source }, true)
  else ({ s with lookahead := some source }, true)

def advance (s : ExternalTextureSlot) : ExternalTextureSlot × Bool :=
  if s.queued.isNone ∨ s.current.isSome ∧ !s.currentSampled ∧ s.expectsSample then (s, false)
  else ({ s with current := s.queued, queued := s.lookahead, lookahead := none, currentSampled := false }, true)

/-- `mark_external_texture_sampled` (handler.rs), for the texture of this slot. -/
def sample (s : ExternalTextureSlot) (generation : UInt64) : ExternalTextureSlot :=
  if s.current.any fun source => source.generation == generation then { s with currentSampled := true } else s

/-- `rearm_abandoned_samples` (handler.rs), for a sample of this slot's texture. -/
def rearm (s : ExternalTextureSlot) (generation : UInt64) : ExternalTextureSlot :=
  if s.current.any fun source => source.generation == generation then { s with currentSampled := false } else s

def newest (s : ExternalTextureSlot) : Option ExternalTextureSource := s.lookahead.or (s.queued.or s.current)

end ExternalTextureSlot

/-! ## Runs -/

inductive SlotEvent where
  | queue (source : ExternalTextureSource) (expectsSample : Bool)
  | advance
  | sample (generation : UInt64)
  | rearm (generation : UInt64)

def SlotEvent.source : SlotEvent → Option ExternalTextureSource
  | .queue source _ => some source
  | _ => none

/-- A slot with what went into it, what became its current frame, in order, and the generations sampled since the
current frame is the current one, less those whose sample was abandoned. -/
structure TextureSession where
  slot : ExternalTextureSlot
  queued : List ExternalTextureSource
  presented : List ExternalTextureSource
  sampled : List UInt64

namespace TextureSession

def start : TextureSession := ⟨.default, [], [], []⟩

def next (s : TextureSession) : SlotEvent → TextureSession
  | .queue source expectsSample =>
    { s with slot := (s.slot.queue source expectsSample).1, queued := s.queued ++ [source] }
  | .advance =>
    let (slot, advanced) := s.slot.advance
    if advanced then { s with slot := slot, presented := s.presented ++ slot.current.toList, sampled := [] }
    else { s with slot := slot }
  | .sample generation =>
    { s with slot := s.slot.sample generation, sampled := generation :: s.sampled }
  | .rearm generation =>
    { s with slot := s.slot.rearm generation, sampled := s.sampled.filter (· ≠ generation) }

def Fresh (s : TextureSession) (e : SlotEvent) : Prop :=
  ∀ source, e.source = some source → source.generation ∉ s.queued.map (·.generation)

/-! ## The invariant -/

/-- The frames presented and those that wait are the queued ones in order, less some: the newest is still held,
the last presented is the current one, and a current frame that counts as sampled was sampled. -/
structure Ordered (s : TextureSession) : Prop where
  line : (s.presented ++ s.slot.queued.toList ++ s.slot.lookahead.toList).Sublist s.queued
  current : s.slot.current = s.presented.getLast?
  newest : s.slot.newest = s.queued.getLast?
  stable : s.slot.lookahead.isSome → s.slot.queued.isSome
  sampled : s.slot.currentSampled → ∀ source, s.slot.current = some source → source.generation ∈ s.sampled

end TextureSession

/-! ## Steps -/

theorem sameGeneration_generation {a b : ExternalTextureSource} (h : a.sameGeneration b = true) :
    a.generation = b.generation := by
  unfold ExternalTextureSource.sameGeneration at h; split at h
  · cases h
  · cases a <;> cases b <;> simp_all [ExternalTextureSource.generation]

namespace TextureSession

variable {s : TextureSession}

variable {source : ExternalTextureSource}

theorem Ordered.held (h : s.Ordered)
    (hs : s.slot.current = some source ∨ s.slot.queued = some source ∨ s.slot.lookahead = some source) :
    source ∈ s.queued := by
  refine h.line.subset ?_
  simp only [List.mem_append, Option.mem_toList]
  rcases hs with hs | hs | hs
  · rw [h.current] at hs; exact .inl (.inl (List.mem_of_getLast? hs))
  · exact .inl (.inr hs)
  · exact .inr hs

theorem queue_fresh (h : s.Ordered) (hf : source.generation ∉ s.queued.map (·.generation)) (expectsSample : Bool) :
    s.slot.queue source expectsSample =
      (if s.slot.queued.isNone then { s.slot with expectsSample := expectsSample, queued := some source }
        else { s.slot with expectsSample := expectsSample, lookahead := some source }, true) := by
  have hh : ∀ other, s.slot.current = some other ∨ s.slot.queued = some other ∨ s.slot.lookahead = some other →
      other.sameGeneration source = false := by
    intro other ho
    by_contra hm
    refine hf (List.mem_map.2 ⟨other, h.held ho, sameGeneration_generation ?_⟩)
    simpa using hm
  have hr : s.slot.current.any (·.sameGeneration source) = false := by
    cases hs : s.slot.current with
    | none => rfl
    | some other => exact hh other (.inl hs)
  have hd : s.slot.queued.any (·.sameGeneration source) = false := by
    cases hs : s.slot.queued with
    | none => rfl
    | some other => exact hh other (.inr (.inl hs))
  have hk : s.slot.lookahead.any (·.sameGeneration source) = false := by
    cases hs : s.slot.lookahead with
    | none => rfl
    | some other => exact hh other (.inr (.inr hs))
  unfold ExternalTextureSlot.queue
  simp only [hr, hd, hk, Bool.or_self, Bool.false_eq_true, if_false]
  split <;> rfl

theorem next_queue (h : s.Ordered) (hf : source.generation ∉ s.queued.map (·.generation)) (expectsSample : Bool) :
    s.next (.queue source expectsSample) =
      { s with
        slot := if s.slot.queued.isNone then { s.slot with expectsSample := expectsSample, queued := some source }
          else { s.slot with expectsSample := expectsSample, lookahead := some source }
        queued := s.queued ++ [source] } := by
  show { s with slot := (s.slot.queue source expectsSample).1, queued := s.queued ++ [source] } = _
  rw [queue_fresh h hf expectsSample]

theorem next_advance_refused
    (hr : s.slot.queued.isNone ∨ s.slot.current.isSome ∧ !s.slot.currentSampled ∧ s.slot.expectsSample) :
    s.next .advance = s := by
  have hs : s.slot.advance = (s.slot, false) := if_pos hr
  simp only [next, hs]; rfl

theorem next_advance {sc : ExternalTextureSource} (hd : s.slot.queued = some sc)
    (hac : ¬(s.slot.current.isSome ∧ !s.slot.currentSampled ∧ s.slot.expectsSample)) :
    s.next .advance =
      { s with
        slot :=
          { current := some sc, queued := s.slot.lookahead, lookahead := none, currentSampled := false,
            expectsSample := s.slot.expectsSample }
        presented := s.presented ++ [sc]
        sampled := [] } := by
  have hs : s.slot.advance =
      ({ s.slot with current := s.slot.queued, queued := s.slot.lookahead, lookahead := none, currentSampled := false },
        true) := by
    refine if_neg ?_
    rintro (hn | hr)
    · rw [hd] at hn; cases hn
    · exact hac hr
  simp only [next, hs, hd]; rfl

theorem Ordered.lookahead_none (h : s.Ordered) (hd : s.slot.queued = none) : s.slot.lookahead = none := by
  cases hs : s.slot.lookahead with
  | none => rfl
  | some other =>
    have := h.stable (by rw [hs]; rfl)
    rw [hd] at this; cases this

theorem ordered_queue (h : s.Ordered) (hf : source.generation ∉ s.queued.map (·.generation)) (smp : Bool) :
    (s.next (.queue source smp)).Ordered := by
  rw [next_queue h hf]
  have hn := h.line
  cases hd : s.slot.queued with
  | none =>
    have hno := h.lookahead_none hd; rw [hd, hno] at hn
    refine ⟨?_, h.current, ?_, ?_, h.sampled⟩
    · simpa [hno] using hn
    · simp [ExternalTextureSlot.newest, hno]
    · simp
  | some sc =>
    rw [hd] at hn
    refine ⟨?_, h.current, ?_, ?_, h.sampled⟩
    · -- the lookahead before is dropped
      have hk := (List.sublist_append_left _ _).trans hn
      simpa [hd] using hk.append (List.Sublist.refl [source])
    · simp [ExternalTextureSlot.newest]
    · simp [hd]

theorem ordered_advance (h : s.Ordered) : (s.next .advance).Ordered := by
  by_cases hr : s.slot.queued.isNone ∨ s.slot.current.isSome ∧ !s.slot.currentSampled ∧ s.slot.expectsSample
  · rw [next_advance_refused hr]; exact h
  obtain ⟨hs, hac⟩ := not_or.1 hr
  obtain ⟨successor, hd⟩ : ∃ successor, s.slot.queued = some successor := by
    cases hd : s.slot.queued with
    | none => exact absurd (by rw [hd]; rfl) hs
    | some successor => exact ⟨successor, rfl⟩
  rw [next_advance hd hac]
  have hli := h.line
  have hn := h.newest; rw [hd] at hli
  unfold ExternalTextureSlot.newest at hn; rw [hd] at hn
  refine ⟨?_, ?_, ?_, ?_, ?_⟩
  · simpa using hli
  · simp
  · show ExternalTextureSlot.newest _ = s.queued.getLast?; rw [← hn]
    cases hk : s.slot.lookahead <;> rfl
  · simp
  · simp

theorem ordered_sample (h : s.Ordered) (generation : UInt64) : (s.next (.sample generation)).Ordered := by
  show TextureSession.Ordered { s with slot := s.slot.sample generation, sampled := generation :: s.sampled }
  unfold ExternalTextureSlot.sample; split
  · rename_i hr
    refine ⟨h.line, h.current, h.newest, h.stable, fun _ source hs => ?_⟩
    have hs : s.slot.current = some source := hs
    rw [hs, Option.any_some] at hr
    rw [eq_of_beq hr]; exact List.mem_cons_self ..
  · exact ⟨h.line, h.current, h.newest, h.stable, fun hm source hs =>
      List.mem_cons_of_mem _ (h.sampled hm source hs)⟩

theorem ordered_rearm (h : s.Ordered) (generation : UInt64) : (s.next (.rearm generation)).Ordered := by
  show TextureSession.Ordered
    { s with slot := s.slot.rearm generation, sampled := s.sampled.filter (· ≠ generation) }
  unfold ExternalTextureSlot.rearm; split
  · refine ⟨h.line, h.current, h.newest, h.stable, ?_⟩; simp
  rename_i hr
  refine ⟨h.line, h.current, h.newest, h.stable, fun hm source hs => ?_⟩
  have hs : s.slot.current = some source := hs
  rw [hs, Option.any_some] at hr
  refine List.mem_filter.2 ⟨h.sampled hm source hs, ?_⟩
  simpa using hr

theorem ordered_next (h : s.Ordered) (e : SlotEvent) (he : s.Fresh e) : (s.next e).Ordered := by
  cases e with
  | queue source smp => exact ordered_queue h (he source rfl) smp
  | advance => exact ordered_advance h
  | sample generation => exact ordered_sample h generation
  | rearm generation => exact ordered_rearm h generation

theorem ordered_start : start.Ordered := by
  refine ⟨?_, rfl, rfl, ?_, ?_⟩
  all_goals simp [start, ExternalTextureSlot.default]

/-! ## Runs with distinct generations -/

theorem queued_next (s : TextureSession) (e : SlotEvent) : (s.next e).queued = s.queued ++ e.source.toList := by
  cases e with
  | queue source smp => rfl
  | advance =>
    simp only [next, SlotEvent.source, Option.toList_none, List.append_nil]
    split <;> rfl
  | sample generation => simp [next, SlotEvent.source]
  | rearm generation => simp [next, SlotEvent.source]

theorem queued_exec : ∀ (s : TextureSession) (es : List SlotEvent),
    (exec next s es).queued = s.queued ++ es.filterMap SlotEvent.source
  | s, [] => by simp
  | s, e :: es => by
    rw [exec_cons, queued_exec, queued_next, List.append_assoc]
    cases hs : e.source <;> simp [hs]

theorem along_fresh : ∀ {s : TextureSession} {es : List SlotEvent},
    ((s.queued ++ es.filterMap SlotEvent.source).map (·.generation)).Nodup → Along next Fresh s es
  | _, [], _ => trivial
  | s, e :: es, h => by
    refine ⟨fun source hs hmem => ?_, along_fresh ?_⟩
    · rw [List.map_append, List.filterMap_cons_some hs, List.map_cons] at h
      exact List.disjoint_of_nodup_append h hmem (List.mem_cons_self ..)
    · rw [queued_next]
      cases hs : e.source <;> simpa [hs] using h

/-- What the hand-over promises of a step: frames are presented in the order they were queued in and the newest
is held; a successor stays one until it is current, and only a lookahead behind it is replaced; a current
frame that expects a sample has one before it is replaced. -/
structure HandOver (s : TextureSession) (e : SlotEvent) : Prop where
  presented : (s.next e).presented.Sublist (s.next e).queued
  newest : (s.next e).slot.newest = (s.next e).queued.getLast?
  follows : ∀ source, e.source = some source → s.slot.queued = none →
    s.slot.current = s.queued.getLast? ∧ (s.next e).slot.queued = some source
  successor : ∀ successor, s.slot.queued = some successor →
    (s.next e).slot.queued = some successor ∨ e = .advance ∧ (s.next e).slot.current = some successor
  lookahead : ∀ lookahead, s.slot.lookahead = some lookahead →
    (s.next e).slot.lookahead = some lookahead ∨ (s.next e).slot.queued = some lookahead ∨
      ∃ successor, (s.next e).slot.queued = some successor ∧ [successor, lookahead].Sublist s.queued
  sampled : ∀ current, s.slot.current = some current → (s.next e).slot.current ≠ some current →
    s.slot.expectsSample → e = .advance ∧ current.generation ∈ s.sampled

theorem HandOver.of_frames {e : SlotEvent} (hn : (s.next e).Ordered)
    (hcu : (s.next e).slot.current = s.slot.current) (hd : (s.next e).slot.queued = s.slot.queued)
    (hk : (s.next e).slot.lookahead = s.slot.lookahead) (hr : e.source = none) : s.HandOver e where
  presented := ((List.sublist_append_left _ _).trans (List.sublist_append_left _ _)).trans hn.line
  newest := hn.newest
  follows source hs := by
    rw [hr] at hs; cases hs
  successor successor hsu := .inl (hd.trans hsu)
  lookahead lookahead hs := .inl (hk.trans hs)
  sampled current hs hre := absurd (hcu.trans hs) hre

theorem handOver_queue (h : s.Ordered) {smp : Bool} (he : s.Fresh (.queue source smp)) :
    s.HandOver (.queue source smp) := by
  have hne := ordered_queue h (he source rfl) smp
  have hs := next_queue h (he source rfl) smp
  constructor
  · exact ((List.sublist_append_left _ _).trans (List.sublist_append_left _ _)).trans hne.line
  · exact hne.newest
  · intro other ho hn; cases ho
    refine ⟨?_, ?_⟩
    · rw [← h.newest, ExternalTextureSlot.newest, hn, h.lookahead_none hn]; rfl
    · rw [hs]; simp [hn]
  · intro sc hsu
    rw [hs]; simp [hsu]
  · intro l hk
    obtain ⟨sc, hsu⟩ := Option.isSome_iff_exists.1 (h.stable (by rw [hk]; rfl))
    refine .inr (.inr ⟨sc, ?_, ?_⟩)
    · rw [hs]; simp [hsu]
    · have hli := h.line
      rw [hsu, hk, List.append_assoc] at hli
      exact (List.sublist_append_right _ _).trans hli
  · intro current hr hre
    refine absurd ?_ hre; rw [hs]
    by_cases hn : s.slot.queued.isNone <;> simp [hn, hr]

theorem handOver_advance (h : s.Ordered) : s.HandOver .advance := by
  have hn := ordered_advance h
  by_cases hf : s.slot.queued.isNone ∨ s.slot.current.isSome ∧ !s.slot.currentSampled ∧ s.slot.expectsSample
  · have hs := next_advance_refused hf
    exact HandOver.of_frames hn (by rw [hs]) (by rw [hs]) (by rw [hs]) rfl
  obtain ⟨hm, hac⟩ := not_or.1 hf
  obtain ⟨successor, hd⟩ : ∃ successor, s.slot.queued = some successor := by
    cases hd : s.slot.queued with
    | none => exact absurd (by rw [hd]; rfl) hm
    | some successor => exact ⟨successor, rfl⟩
  have hca := next_advance hd hac
  constructor
  · exact ((List.sublist_append_left _ _).trans (List.sublist_append_left _ _)).trans hn.line
  · exact hn.newest
  · intro source hso; cases hso
  · intro other ho; rw [hd] at ho
    rw [hca]; exact .inr ⟨rfl, ho⟩
  · intro l hk
    rw [hca]; exact .inr (.inl hk)
  · intro current hr _ he
    refine ⟨rfl, h.sampled ?_ current hr⟩
    by_contra hu
    exact hac ⟨by rw [hr]; rfl, by simpa using hu, he⟩

theorem handOver_next (h : s.Ordered) (e : SlotEvent) (he : s.Fresh e) : s.HandOver e := by
  have hn := ordered_next h e he
  cases e with
  | queue source smp => exact handOver_queue h he
  | advance => exact handOver_advance h
  | sample generation =>
    refine HandOver.of_frames hn ?_ ?_ ?_ rfl
    all_goals
      simp only [next, ExternalTextureSlot.sample]
      split <;> rfl
  | rearm generation =>
    refine HandOver.of_frames hn ?_ ?_ ?_ rfl
    all_goals
      simp only [next, ExternalTextureSlot.rearm]
      split <;> rfl

end TextureSession

/-- Whatever order a producer and the rasterizer queue, advance, sample and abandon samples in, with sources of
distinct generations, each step hands over as promised. -/
theorem texture_hand_over (es : List SlotEvent) (e : SlotEvent)
    (hdistinct : (((es ++ [e]).filterMap SlotEvent.source).map (·.generation)).Nodup) :
    (exec TextureSession.next .start (es ++ [e])).queued = (es ++ [e]).filterMap SlotEvent.source ∧
      (exec TextureSession.next .start es).HandOver e := by
  have hfres : Along TextureSession.next TextureSession.Fresh .start (es ++ [e]) :=
    TextureSession.along_fresh hdistinct
  obtain ⟨hbef, hlas, -⟩ := along_append.1 hfres
  refine ⟨TextureSession.queued_exec _ _, TextureSession.handOver_next ?_ e hlas⟩
  exact exec_invariant_along (I := TextureSession.Ordered) (fun _ e h he => TextureSession.ordered_next h e he)
    TextureSession.ordered_start hbef

/-- Four frames queued, sampled late: the second is presented once the first was sampled, the third is dropped. -/
def lateSample : List SlotEvent :=
  let shm (revision : UInt64) : ExternalTextureSource := .shm 64 64 revision 0 none
  [.queue (shm 1) true, .advance, .queue (shm 2) true, .advance, .queue (shm 3) true, .queue (shm 4) true, .sample 1]

theorem texture_hand_over_late :
    (exec TextureSession.next .start (lateSample ++ [.advance])).queued.map (·.generation) = [1, 2, 3, 4] ∧
      (exec TextureSession.next .start (lateSample ++ [.advance])).presented.map (·.generation) = [1, 2] ∧
      (exec TextureSession.next .start lateSample).HandOver .advance :=
  ⟨by decide, by decide, (texture_hand_over lateSample .advance (by decide)).2⟩

end Deniald.Flutter
