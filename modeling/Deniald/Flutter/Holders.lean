/-
Registered textures and those who hold them: in every run whose scene syncs go through and whose registrations succeed,
what is shown is registered, and after each scene nothing else is. A scene sync that fails loses the recorded scene, and a
registration that fails is recorded: then what is shown may be unregistered, or was never registered.
-/
import Deniald.Flutter.Registration

namespace Deniald.Flutter

open Deniald.Lib Deniald.Wire
open TextureState WindowCloseTextureLeases

/-! ## Registering and unregistering -/

structure Recorded (registered : List Int64) (engine : EngineTextures) : Prop where
  nodup : registered.Nodup
  same : ∀ textureId, textureId ∈ registered ↔ textureId ∈ engine.registered
  calls : ∀ call ∈ engine.calls, call.proper = true

section Recording

variable {registered : List Int64} {engine : EngineTextures} {textureId : Int64}

theorem Recorded.calls_snoc (h : Recorded registered engine) {call : EngineCall} (hca : call.proper = true) :
    ∀ other ∈ engine.calls ++ [call], other.proper = true := by
  intro other ho
  rcases List.mem_append.1 ho with ho | ho
  · exact h.calls other ho
  · obtain rfl := List.mem_singleton.1 ho; exact hca

theorem Recorded.proper_register (h : Recorded registered engine) (hf : textureId ∉ registered) :
    EngineCall.proper ⟨.register, textureId, engine.registered.contains textureId⟩ = true := by
  have he : textureId ∉ engine.registered := fun hmem => hf ((h.same textureId).2 hmem)
  simpa [EngineCall.proper] using he

theorem Recorded.proper_unregister (h : Recorded registered engine) (hmem : textureId ∈ registered) :
    EngineCall.proper ⟨.unregister, textureId, engine.registered.contains textureId⟩ = true := by
  simpa [EngineCall.proper] using (h.same textureId).1 hmem

theorem Recorded.register (h : Recorded registered engine) (hf : textureId ∉ registered) :
    Recorded (textureId :: registered) (engine.register textureId true) := by
  refine ⟨List.nodup_cons.2 ⟨hf, h.nodup⟩, fun other => ?_, h.calls_snoc (h.proper_register hf)⟩
  show other ∈ textureId :: registered ↔ other ∈ engine.registered.insert textureId
  rw [List.mem_cons, List.mem_insert_iff, h.same other]

theorem Recorded.register_failed (h : Recorded registered engine) (hf : textureId ∉ registered) :
    Recorded registered (engine.register textureId false) :=
  ⟨h.nodup, h.same, h.calls_snoc (h.proper_register hf)⟩

theorem Recorded.unregister (h : Recorded registered engine) (hmem : textureId ∈ registered) :
    Recorded (registered.filter (· != textureId)) (engine.unregister textureId true) := by
  refine ⟨h.nodup.filter _, fun other => ?_, h.calls_snoc (h.proper_unregister hmem)⟩
  show other ∈ registered.filter (· != textureId) ↔ other ∈ engine.registered.filter (· != textureId)
  rw [List.mem_filter, List.mem_filter, h.same other]

theorem Recorded.unregister_failed (h : Recorded registered engine) (hmem : textureId ∈ registered) :
    Recorded registered (engine.unregister textureId false) :=
  ⟨h.nodup, h.same, h.calls_snoc (h.proper_unregister hmem)⟩

end Recording

namespace TextureState

variable {F : Type} {answers : EngineAnswers}

theorem registerTextures_ok : ∀ {texs : List Int64} {s : TextureState F},
    Recorded s.registeredExternalTextures s.engine →
    (∀ textureId ∈ texs, textureId ∉ s.registeredExternalTextures → answers.registers textureId = true) →
    ∃ registered engine,
      s.registerTextures answers texs = ({ s with registeredExternalTextures := registered, engine }, .ok ()) ∧
        Recorded registered engine ∧
        ∀ textureId, textureId ∈ registered ↔ textureId ∈ s.registeredExternalTextures ∨ textureId ∈ texs
  | [], s, h, _ => ⟨s.registeredExternalTextures, s.engine, rfl, h, by simp⟩
  | textureId :: texs, s, h, hr => by
    unfold registerTextures
    by_cases hmem : textureId ∈ s.registeredExternalTextures
    · rw [if_pos (by simpa using hmem)]
      obtain ⟨registered, engine, heq, hrec, hs⟩ :=
        registerTextures_ok h fun other hh => hr other (List.mem_cons_of_mem _ hh)
      refine ⟨registered, engine, heq, hrec, fun other => ?_⟩; rw [hs other, List.mem_cons]
      constructor
      · rintro (ho | hn)
        · exact .inl ho
        · exact .inr (.inr hn)
      · rintro (ho | rfl | hn)
        · exact .inl ho
        · exact .inl hmem
        · exact .inr hn
    · have hsu := hr textureId (List.mem_cons_self ..) hmem; rw [if_neg (by simpa using hmem)]
      simp only [hsu, if_true]
      let s' : TextureState F := { s with
        registeredExternalTextures := textureId :: s.registeredExternalTextures
        engine := s.engine.register textureId true }
      have hre : ∀ other ∈ texs, other ∉ s'.registeredExternalTextures → answers.registers other = true :=
        fun other hh hf =>
          hr other (List.mem_cons_of_mem _ hh) fun ho => hf (List.mem_cons_of_mem _ ho)
      obtain ⟨registered, engine, heq, hrec, hs⟩ := registerTextures_ok (s := s') (h.register hmem) hre
      refine ⟨registered, engine, heq, hrec, fun other => ?_⟩
      rw [hs other, List.mem_cons, List.mem_cons]
      tauto

/-- Where what is held, and what is not registered, is kept: nothing else changes than that other textures go. -/
theorem unregisterTextures_spec {keeps : TextureState F → Int64 → Bool} (K : Int64 → Prop) :
    ∀ {texs : List Int64} {s : TextureState F},
    Recorded s.registeredExternalTextures s.engine →
    (∀ registered engine textureId, K textureId ∨ textureId ∉ registered →
      keeps { s with registeredExternalTextures := registered, engine } textureId = true) →
    ∃ registered engine result,
      s.unregisterTextures answers keeps texs =
          ({ s with registeredExternalTextures := registered, engine }, result) ∧
        Recorded registered engine ∧
        (∀ textureId ∈ registered, textureId ∈ s.registeredExternalTextures) ∧
        ∀ textureId ∈ s.registeredExternalTextures, K textureId → textureId ∈ registered
  | [], s, h, _ => ⟨s.registeredExternalTextures, s.engine, .ok (), rfl, h, fun _ h => h, fun _ h _ => h⟩
  | textureId :: texs, s, h, hke => by
    unfold unregisterTextures
    by_cases hkp : keeps s textureId = true
    · rw [if_pos hkp]; exact unregisterTextures_spec K h hke
    rw [if_neg hkp]
    have hf := hke s.registeredExternalTextures s.engine textureId
    have hmem : textureId ∈ s.registeredExternalTextures := by
      by_contra hmem; exact hkp (hf (.inr hmem))
    cases hn : answers.unregisters textureId with
    | false =>
      refine ⟨s.registeredExternalTextures, s.engine.unregister textureId false, .error .engine, ?_,
        h.unregister_failed hmem, fun _ h => h, fun _ h _ => h⟩
      simp
    | true =>
      let s' : TextureState F := { s with
        registeredExternalTextures := s.registeredExternalTextures.filter (· != textureId)
        engine := s.engine.unregister textureId true }
      obtain ⟨registered, engine, result, heq, hrec, hs, hheld⟩ :=
        unregisterTextures_spec K (s := s') (h.unregister hmem) hke
      refine ⟨registered, engine, result, ?_, hrec, fun other ho => (List.mem_filter.1 (hs other ho)).1,
        fun other ho hk => hheld other (List.mem_filter.2 ⟨ho, ?_⟩) hk⟩
      · rw [if_pos rfl]; exact heq
      · rw [bne_iff_ne]
        rintro rfl; exact hkp (hf (.inl hk))

theorem unregisterTextures_all (answers : EngineAnswers) : ∀ {texs : List Int64} {s : TextureState F},
    Recorded s.registeredExternalTextures s.engine → texs.Nodup →
    (∀ textureId ∈ texs, textureId ∈ s.registeredExternalTextures) →
    ∃ registered engine result,
      s.unregisterTextures answers (fun _ _ => false) texs =
          ({ s with registeredExternalTextures := registered, engine }, result) ∧
        Recorded registered engine ∧
        (∀ textureId ∈ registered, textureId ∈ s.registeredExternalTextures) ∧
        (∀ textureId ∈ s.registeredExternalTextures, textureId ∉ texs → textureId ∈ registered) ∧
        (result = .ok () → ∀ textureId ∈ registered, textureId ∉ texs) ∧
        ((∀ textureId ∈ texs, answers.unregisters textureId = true) → result = .ok ())
  | [], s, h, _, _ =>
    ⟨s.registeredExternalTextures, s.engine, .ok (), rfl, h, fun _ h => h, fun _ h _ => h, fun _ _ _ => List.not_mem_nil,
      fun _ => rfl⟩
  | textureId :: texs, s, h, hn, hsu => by
    obtain ⟨hf, hn⟩ := List.nodup_cons.1 hn
    have hmem := hsu textureId (List.mem_cons_self ..); unfold unregisterTextures
    cases hs : answers.unregisters textureId with
    | false =>
      refine ⟨s.registeredExternalTextures, s.engine.unregister textureId false, .error .engine, ?_,
        h.unregister_failed hmem, fun _ h => h, fun _ h _ => h, fun h => (nomatch h), fun hal => ?_⟩
      · simp
      · rw [hal textureId (List.mem_cons_self ..)] at hs; cases hs
    | true =>
      let s' : TextureState F := { s with
        registeredExternalTextures := s.registeredExternalTextures.filter (· != textureId)
        engine := s.engine.unregister textureId true }
      have hr : ∀ other ∈ texs, other ∈ s'.registeredExternalTextures := by
        intro other ho
        refine List.mem_filter.2 ⟨hsu other (List.mem_cons_of_mem _ ho), ?_⟩; rw [bne_iff_ne]
        rintro rfl; exact hf ho
      obtain ⟨registered, engine, result, heq, hrec, hd, hk, hgo, hal⟩ :=
        unregisterTextures_all answers (s := s') (h.unregister hmem) hn hr
      refine ⟨registered, engine, result, ?_, hrec, fun other ho => (List.mem_filter.1 (hd other ho)).1,
        fun other ho hno => ?_, fun hok other ho hin => ?_, fun h => hal fun other ho => ?_⟩
      · rw [if_pos rfl]; exact heq
      · rw [List.mem_cons, not_or] at hno
        exact hk other (List.mem_filter.2 ⟨ho, by simpa using hno.1⟩) hno.2
      · rcases List.mem_cons.1 hin with rfl | hin
        · simpa using (List.mem_filter.1 (hd other ho)).2
        · exact hgo hok other ho hin
      · exact h other (List.mem_cons_of_mem _ ho)

/-! ## The invariant -/

def Retired (s : TextureState F) (textureId : Int64) : Prop :=
  ∃ epoch textureIds, s.retiredCursorTextureIds.lookup epoch = some textureIds ∧ textureId ∈ textureIds

def HeldBySurfaces (s : TextureState F) (textureId : Int64) : Prop :=
  textureId ∈ s.sceneTextureIds ∨ textureId ∈ s.cursorTextureIds ∨ s.Retired textureId ∨
    textureId ∈ s.windowCloseTextureLeases.held

/-- What is held is recorded and registered, and is not the screenshot. Published windows, whose textures closing will
lease, are those of the recorded scene and of the windows the bridge has. -/
structure Consistent (s : TextureState F) : Prop where
  recorded : Recorded s.registeredExternalTextures s.engine
  held : ∀ textureId, s.HeldBySurfaces textureId → textureId ∈ s.registeredExternalTextures
  screenshot : ∀ textureId, s.screenshotTextureId = some textureId →
    textureId ∈ s.registeredExternalTextures ∧ ¬s.HeldBySurfaces textureId
  leases : s.windowCloseTextureLeases.Accounted
  windows : ∀ textureId ∈ s.windowCloseTextureLeases.shownTextures, textureId ∈ s.sceneTextureIds
  tracked : ∀ textureId ∈ s.windowCloseTextureLeases.shownTextures,
    textureId ∈ (windowTextureMap s.wire.windows).entries.flatMap (·.2)

variable {s : TextureState F} {textureId : Int64}

theorem retainsCursorTexture_iff :
    s.retainsCursorTexture textureId = true ↔ textureId ∈ s.cursorTextureIds ∨ s.Retired textureId := by
  unfold retainsCursorTexture Retired
  rw [Bool.or_eq_true, List.contains_iff_mem, List.any_eq_true]
  refine or_congr Iff.rfl ⟨?_, ?_⟩
  · rintro ⟨⟨epoch, textureIds⟩, he, hmem⟩
    exact ⟨epoch, textureIds, AList.mem_lookup_iff.2 he, by simpa using hmem⟩
  · rintro ⟨epoch, textureIds, hk, hmem⟩
    exact ⟨⟨epoch, textureIds⟩, AList.mem_lookup_iff.1 hk, by simpa using hmem⟩

theorem retainsTexture_iff (h : s.windowCloseTextureLeases.Accounted) :
    s.windowCloseTextureLeases.retainsTexture textureId = true ↔ textureId ∈ s.windowCloseTextureLeases.held :=
  (h.retains textureId).trans List.mem_flatMap.symm

theorem Consistent.mono {s' : TextureState F} (h : s.Consistent)
    (hrec : Recorded s'.registeredExternalTextures s'.engine) (hr : ∀ textureId ∈ s.registeredExternalTextures,
      s'.HeldBySurfaces textureId ∨ s'.screenshotTextureId = some textureId → textureId ∈ s'.registeredExternalTextures)
    (hheld : ∀ textureId, s'.HeldBySurfaces textureId → s.HeldBySurfaces textureId ∨
      textureId ∈ s'.registeredExternalTextures ∧ s.screenshotTextureId ≠ some textureId)
    (hsc : s'.screenshotTextureId = s.screenshotTextureId) (hs : s'.windowCloseTextureLeases.Accounted)
    (hw : ∀ textureId ∈ s'.windowCloseTextureLeases.shownTextures, textureId ∈ s'.sceneTextureIds)
    (htr : ∀ textureId ∈ s'.windowCloseTextureLeases.shownTextures,
      textureId ∈ (windowTextureMap s'.wire.windows).entries.flatMap (·.2)) : s'.Consistent := by
  refine ⟨hrec, fun textureId hmem => ?_, fun textureId hid => ?_, hs, hw, htr⟩
  · rcases hheld textureId hmem with ho | hn
    · exact hr textureId (h.held textureId ho) (.inl hmem)
    · exact hn.1
  · have ho := hid; rw [hsc] at ho
    obtain ⟨hre, hf⟩ := h.screenshot textureId ho
    refine ⟨hr textureId hre (.inr hid), fun hmem => ?_⟩
    rcases hheld textureId hmem with hheld | hn
    · exact hf hheld
    · exact hn.2 ho

/-! ## Promises and conditions -/

end TextureState

def SceneCall.recordedWindows {F : Type} (call : SceneCall) (wire : WireBridge F) : List WindowDescription :=
  if wire.windowsRevision = some call.metadataRevision then wire.windows else call.windows

namespace TextureState

variable {F : Type} {answers : EngineAnswers} {s : TextureState F} {textureId : Int64} (builder : Builder F)

/-- What the callers see to: a surface's texture is not the screenshot, and the frames of a scene are those of the
surfaces of its windows, of which there is one list for each revision. -/
def Promised (s : TextureState F) : TextureCall → Prop
  | .syncWaylandScene call =>
    (∀ textureId ∈ call.frames, s.screenshotTextureId ≠ some textureId) ∧
      ∀ textureId ∈ (windowTextureMap (call.recordedWindows s.wire)).entries.flatMap (·.2), textureId ∈ call.frames
  | .syncCursorState call => ∀ textureId ∈ call.frames, s.screenshotTextureId ≠ some textureId
  | _ => True

/-- A scene whose textures are in order, whose update can be sent, and whose removed textures the engine lets go. -/
structure Completes (s : TextureState F) (answers : EngineAnswers) (call : SceneCall) : Prop where
  frames : (collectTextureIds (fun _ => false) [] call.frames).isSome = true
  update : (s.wire.updateWindows builder call.metadataRevision call.windows call.restoredWindowIds).2.isOk = true
  sends : s.wire.windowsRevision ≠ some call.metadataRevision → answers.sends = true
  unregisters : ∀ textureId ∈ s.registeredExternalTextures, answers.unregisters textureId = true

/-- The engine registers what is new, and a scene goes through where one is recorded: where none is, its textures may
still be out of order or its update not be sent. -/
def GoesThrough (s : TextureState F) (e : TextureEvent) : Prop :=
  match e.call with
  | .syncWaylandScene call =>
    (∀ textureId ∈ call.frames, textureId ∉ s.registeredExternalTextures → e.answers.registers textureId = true) ∧
      (s.Completes builder e.answers call ∨
        s.sceneTextureIds = [] ∧
          (call.frames = [] ∨ ∀ textureId ∈ s.registeredExternalTextures, e.answers.unregisters textureId = true))
  | .syncCursorState call =>
    ∀ textureId ∈ call.frames, textureId ∉ s.registeredExternalTextures → e.answers.registers textureId = true
  | _ => True

-- a property of the textures of a list is decided along the list, not over all numbers that a texture can have
instance decidablePromised (s : TextureState F) : ∀ call : TextureCall, Decidable (s.Promised call)
  | .syncWaylandScene call =>
    haveI : Decidable (∀ textureId ∈ call.frames, s.screenshotTextureId ≠ some textureId) :=
      List.decidableBAll _ _
    haveI : Decidable (∀ textureId ∈ (windowTextureMap (call.recordedWindows s.wire)).entries.flatMap (·.2),
        textureId ∈ call.frames) :=
      List.decidableBAll _ _
    inferInstanceAs (Decidable (_ ∧ _))
  | .syncCursorState call => List.decidableBAll (fun textureId => s.screenshotTextureId ≠ some textureId) call.frames
  | .syncWaylandBuffers _ | .syncCursorBuffers _ | .acknowledgeCursorEpoch .. | .registerScreenshotTexture
  | .unregisterScreenshotTexture _ | .completeWindowClose _ | .expireWindowCloseTextureLeases .. =>
    inferInstanceAs (Decidable True)

instance decidableCompletes (s : TextureState F) (answers : EngineAnswers) (call : SceneCall) :
    Decidable (s.Completes builder answers call) :=
  haveI : Decidable (∀ textureId ∈ s.registeredExternalTextures, answers.unregisters textureId = true) :=
    List.decidableBAll _ _
  decidable_of_iff (_ ∧ _ ∧ (s.wire.windowsRevision ≠ some call.metadataRevision → answers.sends = true) ∧
      ∀ textureId ∈ s.registeredExternalTextures, answers.unregisters textureId = true)
    ⟨fun ⟨hframes, hupdate, hsends, hunregisters⟩ => ⟨hframes, hupdate, hsends, hunregisters⟩,
      fun h => ⟨h.frames, h.update, h.sends, h.unregisters⟩⟩

instance decidableGoesThrough (s : TextureState F) : ∀ e : TextureEvent, Decidable (s.GoesThrough builder e)
  | ⟨.syncWaylandScene call, answers⟩ =>
    haveI : Decidable (∀ textureId ∈ call.frames, textureId ∉ s.registeredExternalTextures →
        answers.registers textureId = true) :=
      List.decidableBAll _ _
    haveI : Decidable (∀ textureId ∈ s.registeredExternalTextures,
        answers.unregisters textureId = true) :=
      List.decidableBAll _ _
    inferInstanceAs (Decidable (_ ∧ (_ ∨ _ ∧ (_ ∨ _))))
  | ⟨.syncCursorState call, answers⟩ =>
    List.decidableBAll (fun textureId => textureId ∉ s.registeredExternalTextures → answers.registers textureId = true)
      call.frames
  | ⟨.syncWaylandBuffers _, _⟩ | ⟨.syncCursorBuffers _, _⟩ | ⟨.acknowledgeCursorEpoch .., _⟩
  | ⟨.registerScreenshotTexture, _⟩ | ⟨.unregisterScreenshotTexture _, _⟩ | ⟨.completeWindowClose _, _⟩
  | ⟨.expireWindowCloseTextureLeases .., _⟩ => inferInstanceAs (Decidable True)

/-! ## The steps of a scene -/

theorem collectTextureIds_some {rs : Int64 → Bool} : ∀ {fs seen desired : List Int64},
    collectTextureIds rs seen fs = some desired → seen.Nodup →
      desired = fs.reverse ++ seen ∧ desired.Nodup
  | [], seen, desired, h, hs => by
    cases h; exact ⟨rfl, hs⟩
  | textureId :: fs, seen, desired, h, hs => by
    unfold collectTextureIds at h
    split_ifs at h with hd
    have hf : textureId ∉ seen := by
      intro hmem
      simp [hmem] at hd
    obtain ⟨heq, hn⟩ := collectTextureIds_some h (List.nodup_cons.2 ⟨hf, hs⟩)
    exact ⟨by rw [heq, List.reverse_cons, List.append_assoc, List.singleton_append], hn⟩

variable {desired registered : List Int64} {engine : EngineTextures} {leases : WindowCloseTextureLeases}

theorem mem_collected {rs : Int64 → Bool} {frames : List Int64}
    (h : collectTextureIds rs [] frames = some desired) : textureId ∈ desired ↔ textureId ∈ frames := by
  rw [(collectTextureIds_some h List.nodup_nil).1, List.append_nil, List.mem_reverse]

theorem updateWindows_cases (wire : WireBridge F) (call : SceneCall) :
    let update := wire.updateWindows builder call.metadataRevision call.windows call.restoredWindowIds
    (∃ wire' error, update = (wire', .error error)) ∨
      (wire.windowsRevision = some call.metadataRevision ∧ update = (wire, .ok (none, call.windows))) ∨
      (wire.windowsRevision ≠ some call.metadataRevision ∧
        ∃ wire' message windows, update = (wire', .ok (some message, windows)) ∧ wire'.windows = call.windows) := by
  unfold WireBridge.updateWindows
  by_cases hr : wire.windowsRevision = some call.metadataRevision
  · exact .inr (.inl ⟨hr, if_pos hr⟩)
  rw [if_neg hr]; split
  · exact .inl ⟨_, _, rfl⟩
  dsimp only; split
  · exact .inl ⟨_, _, rfl⟩
  · exact .inr (.inr ⟨hr, _, _, _, rfl, rfl⟩)

structure Updates (s : TextureState F) (answers : EngineAnswers) (call : SceneCall) : Prop where
  update : (s.wire.updateWindows builder call.metadataRevision call.windows call.restoredWindowIds).2.isOk = true
  sends : s.wire.windowsRevision ≠ some call.metadataRevision → answers.sends = true

/-- Publishing fails, where the update cannot be sent, and leaves the leases; or what they hold and the published windows
show is accounted for. -/
theorem publishWindows_cases (answers : EngineAnswers) (hs : s.windowCloseTextureLeases.Accounted)
    (htr : ∀ textureId ∈ s.windowCloseTextureLeases.shownTextures,
      textureId ∈ (windowTextureMap s.wire.windows).entries.flatMap (·.2)) (call : SceneCall) :
    (∃ wire error, s.publishWindows builder answers call = ({ s with wire }, .error error) ∧
        ¬s.Updates builder answers call) ∨
      ∃ wire leases changed,
        s.publishWindows builder answers call = ({ s with wire, windowCloseTextureLeases := leases }, .ok changed) ∧
          leases.Accounted ∧
          (∀ textureId ∈ leases.held, textureId ∈ s.windowCloseTextureLeases.shownTextures ∨
            textureId ∈ s.windowCloseTextureLeases.held) ∧
          (∀ textureId ∈ leases.shownTextures, textureId ∈ (windowTextureMap wire.windows).entries.flatMap (·.2)) ∧
          wire.windows = call.recordedWindows s.wire := by
  unfold publishWindows
  rcases updateWindows_cases builder s.wire call with ⟨wire, error, heq⟩ | ⟨hr, heq⟩ |
    ⟨hr, wire, message, windows, heq, hw⟩
  · rw [heq]
    refine .inl ⟨wire, .wire error, rfl, fun hu => ?_⟩
    have hok := hu.update
    rw [heq] at hok; cases hok
  · rw [heq]
    refine .inr ⟨s.wire, s.windowCloseTextureLeases, false, rfl, hs, fun _ => .inr, htr, ?_⟩
    exact (if_pos hr).symm
  · rw [heq]
    cases hsends : answers.sends with
    | false =>
      refine .inl ⟨wire, .engine, rfl, fun hu => ?_⟩
      rw [hu.sends hr] at hsends; cases hsends
    | true =>
      let leases := (s.windowCloseTextureLeases.publish call.leaseHash (windowTextureMap wire.windows) call.now).1
      obtain ⟨hpu, hheld⟩ : leases.publishedWindows = windowTextureMap wire.windows ∧ _ :=
        heldWithin_publish ..
      refine .inr ⟨wire, leases, true, rfl, ?_, hheld, fun textureId hh => ?_, hw.trans (if_neg hr).symm⟩
      · exact accounted_next (.publish call.leaseHash _ call.now) hs
      · rw [shownTextures, hpu] at hh; exact hh

inductive SceneOutcome (s : TextureState F) (call : SceneCall) (result : TextureResult F Bool) : Prop
  | recorded {changed : Bool} (hok : result.2 = .ok changed)
      (hscene : ∀ textureId, textureId ∈ result.1.sceneTextureIds ↔ textureId ∈ call.frames)
      (hheld : ∀ textureId ∈ result.1.registeredExternalTextures,
        result.1.HeldBySurfaces textureId ∨ result.1.screenshotTextureId = some textureId)
  | failed {error : TextureError} (herror : result.2 = .error error) (hnone : s.sceneTextureIds = [])
      (hscene : result.1.sceneTextureIds = [])

theorem mem_removedTextures (hs : s.windowCloseTextureLeases.Accounted) :
    textureId ∈ s.removedTextures desired ↔ textureId ∈ s.registeredExternalTextures ∧ textureId ∉ desired ∧
      s.screenshotTextureId ≠ some textureId ∧ textureId ∉ s.cursorTextureIds ∧ ¬s.Retired textureId ∧
        textureId ∉ s.windowCloseTextureLeases.held := by
  unfold removedTextures
  rw [List.mem_filter, Bool.and_eq_true, Bool.and_eq_true, Bool.and_eq_true, Bool.not_eq_true', Bool.not_eq_true',
    Bool.not_eq_true', bne_iff_ne, Bool.eq_false_iff, Bool.eq_false_iff, Bool.eq_false_iff, ne_eq, ne_eq, ne_eq, ne_eq,
    retainsTexture_iff hs, retainsCursorTexture_iff, List.contains_iff_mem]
  tauto

theorem consistent_unpublished (wire : WireBridge F) (h : s.Consistent) (hnone : s.sceneTextureIds = [])
    (hrec : Recorded registered engine)
    (hr : ∀ textureId ∈ s.registeredExternalTextures, textureId ∈ registered) :
    Consistent { s with sceneTextureIds := [], registeredExternalTextures := registered, engine, wire } := by
  have hs : ∀ textureId ∈ s.windowCloseTextureLeases.shownTextures, False := by
    intro textureId hs
    have hscene := h.windows textureId hs
    rw [hnone] at hscene; cases hscene
  refine h.mono hrec (fun textureId ho _ => hr textureId ho) (fun textureId hheld => ?_) rfl h.leases
    (fun textureId hmem => (hs textureId hmem).elim) fun textureId hmem => (hs textureId hmem).elim
  rcases hheld with hscene | hheld
  · cases hscene
  · exact .inl (.inr hheld)

theorem consistent_published {registered' : List Int64} {e' : EngineTextures} {wire : WireBridge F}
    (h : s.Consistent) (hrec : Recorded registered' e')
    (hrg : ∀ textureId, textureId ∈ s.registeredExternalTextures ∨ textureId ∈ desired → textureId ∈ registered)
    (hsc : ∀ textureId ∈ desired, s.screenshotTextureId ≠ some textureId) (hle : leases.Accounted)
    (hheld : ∀ textureId ∈ leases.held, textureId ∈ s.windowCloseTextureLeases.shownTextures ∨
      textureId ∈ s.windowCloseTextureLeases.held)
    (hh : ∀ textureId ∈ leases.shownTextures, textureId ∈ (windowTextureMap wire.windows).entries.flatMap (·.2))
    (hv : ∀ textureId ∈ (windowTextureMap wire.windows).entries.flatMap (·.2), textureId ∈ desired)
    (hk : ∀ textureId ∈ registered,
      textureId ∉ removedTextures { s with
        sceneTextureIds := []
        registeredExternalTextures := registered
        engine
        wire
        windowCloseTextureLeases := leases } desired → textureId ∈ registered') :
    Consistent { s with
      sceneTextureIds := desired
      registeredExternalTextures := registered'
      engine := e'
      wire
      windowCloseTextureLeases := leases } := by
  let s' : TextureState F := { s with
    sceneTextureIds := desired
    registeredExternalTextures := registered'
    engine := e'
    wire
    windowCloseTextureLeases := leases }
  have hy : ∀ textureId ∈ registered, s'.HeldBySurfaces textureId ∨ s'.screenshotTextureId = some textureId →
      textureId ∈ registered' := by
    intro textureId hmem hheld
    refine hk textureId hmem fun hn => ?_
    obtain ⟨-, hd, hsc, hr, hre, hs⟩ := (mem_removedTextures hle).1 hn
    rcases hheld with (hscene | hc' | hr' | hl') | hs'
    · exact hd hscene
    · exact hr hc'
    · exact hre hr'
    · exact hs hl'
    · exact hsc hs'
  refine h.mono hrec (fun textureId hmem hheld => hy textureId (hrg textureId (.inl hmem)) hheld)
    (fun textureId hmem => ?_) rfl hle (fun textureId hmem => hv textureId (hh textureId hmem)) hh
  rcases hmem with hscene | hr | hre | hs
  · exact .inr ⟨hy textureId (hrg textureId (.inr hscene)) (.inl (.inl hscene)), hsc textureId hscene⟩
  · exact .inl (.inr (.inl hr))
  · exact .inl (.inr (.inr (.inl hre)))
  rcases hheld textureId hs with hpu | hs
  · exact .inl (.inl (h.windows textureId hpu))
  · exact .inl (.inr (.inr (.inr hs)))

theorem syncWaylandScene_step {call : SceneCall} (h : s.Consistent) (hpr : s.Promised (.syncWaylandScene call))
    (hs : s.GoesThrough builder ⟨.syncWaylandScene call, answers⟩) :
    let result := s.syncWaylandScene builder answers call
    result.1.Consistent ∧ result.1.cursorTextureIds = s.cursorTextureIds ∧ s.SceneOutcome call result := by
  intro result
  obtain ⟨hsc, hv⟩ := hpr
  obtain ⟨hrg, hs⟩ := hs
  let s₀ : TextureState F := { s with sceneTextureIds := [] }
  have hr : result = s.syncWaylandScene builder answers call := rfl
  unfold syncWaylandScene at hr
  cases hco : collectTextureIds (fun _ => false) [] call.frames with
  | none =>
    rw [hco] at hr; rw [hr]
    have hnone : s.sceneTextureIds = [] := by
      rcases hs with hm | ⟨hnone, -⟩
      · have := hm.frames
        rw [hco] at this; cases this
      · exact hnone
    exact ⟨consistent_unpublished s.wire h hnone h.recorded fun _ => id, rfl, .failed rfl hnone rfl⟩
  | some desired =>
    rw [hco] at hr
    have hframes : ∀ textureId, textureId ∈ desired ↔ textureId ∈ call.frames := fun textureId => mem_collected hco
    have hd : ∀ textureId, textureId ∈ call.hash.order desired ↔ textureId ∈ desired := fun textureId =>
      (call.hash.perm desired).mem_iff
    obtain ⟨registered, engine, hreg, hrec, hsa⟩ := registerTextures_ok (s := s₀) h.recorded
      fun textureId hmem => hrg textureId ((hframes textureId).1 ((hd textureId).1 hmem))
    have hre : ∀ textureId, textureId ∈ s.registeredExternalTextures ∨ textureId ∈ desired →
        textureId ∈ registered := by
      rintro textureId (ho | hw)
      · exact (hsa textureId).2 (.inl ho)
      · exact (hsa textureId).2 (.inr ((hd textureId).2 hw))
    let s₁ : TextureState F := { s₀ with registeredExternalTextures := registered, engine }
    dsimp only at hr
    rw [show registerTextures answers { s with sceneTextureIds := [] } (call.hash.order desired) = (s₁, .ok ())
      from hreg] at hr
    dsimp only at hr
    rcases publishWindows_cases builder (s := s₁) answers h.leases h.tracked call with
      ⟨wire, error, hpu, hfa⟩ | ⟨wire, leases, changed, hpu, hle, hheld, hh, hwi⟩
    · rw [hpu] at hr; rw [hr]
      have hnone : s.sceneTextureIds = [] := by
        rcases hs with hm | ⟨hnone, -⟩
        · exact absurd ⟨hm.update, hm.sends⟩ hfa
        · exact hnone
      exact ⟨consistent_unpublished (s := s) wire h hnone hrec fun textureId ho => hre textureId (.inl ho), rfl,
        .failed rfl hnone rfl⟩
    · rw [hpu] at hr; dsimp only at hr
      let s₂ : TextureState F := { s₁ with wire, windowCloseTextureLeases := leases }
      have hrm : ∀ textureId, textureId ∈ call.hash.order (s₂.removedTextures desired) ↔
          textureId ∈ s₂.removedTextures desired := fun textureId => (call.hash.perm _).mem_iff
      obtain ⟨reg', engine', unregistered, hu, hr', ho, hk, hgo, hal⟩ :=
        unregisterTextures_all answers (s := s₂) hrec ((call.hash.perm _).nodup_iff.2 (hrec.nodup.filter _))
          fun textureId hmem => ((mem_removedTextures hle).1 ((hrm textureId).1 hmem)).1
      have hc' : ∀ textureId ∈ (windowTextureMap wire.windows).entries.flatMap (·.2), textureId ∈ desired := by
        rw [show wire.windows = call.recordedWindows s.wire from hwi]
        exact fun textureId hmem => (hframes textureId).2 (hv textureId hmem)
      have hcn : Consistent { s₂ with
          sceneTextureIds := desired
          registeredExternalTextures := reg'
          engine := engine' } :=
        consistent_published (s := s) h hr' hre
          (fun textureId hmem => hsc textureId ((hframes textureId).1 hmem)) hle hheld hh hc'
          fun textureId hmem hy => hk textureId hmem fun hn => hy ((hrm textureId).1 hn)
      rw [show unregisterTextures answers (fun _ _ => false) ({ s₁ with wire, windowCloseTextureLeases := leases })
        (call.hash.order (removedTextures ({ s₁ with wire, windowCloseTextureLeases := leases }) desired)) = _
        from hu] at hr
      cases hok : unregistered with
      | error error =>
        rw [hok] at hr; rw [hr]
        have hlt : ¬∀ textureId ∈ s.registeredExternalTextures, answers.unregisters textureId = true := by
          intro hlt
          have hfa := hal fun textureId hmem => by
            obtain ⟨hmem, hno, -⟩ := (mem_removedTextures hle).1 ((hrm textureId).1 hmem)
            rcases (hsa textureId).1 hmem with ho | hw
            · exact hlt textureId ho
            · exact absurd ((hd textureId).1 hw) hno
          rw [hok] at hfa; cases hfa
        obtain ⟨hnone, he⟩ : s.sceneTextureIds = [] ∧ call.frames = [] := by
          rcases hs with hm | ⟨hnone, he | hl'⟩
          · exact absurd hm.unregisters hlt
          · exact ⟨hnone, he⟩
          · exact absurd hl' hlt
        obtain rfl : desired = [] := by
          rw [he] at hco; exact (Option.some.inj hco).symm
        exact ⟨hcn, rfl, .failed rfl hnone rfl⟩
      | ok _ =>
        rw [hok] at hr; rw [hr]
        refine ⟨hcn, rfl, .recorded rfl hframes fun textureId hmem => ?_⟩
        have hy : textureId ∉ s₂.removedTextures desired := fun hn =>
          hgo hok textureId hmem ((hrm textureId).2 hn)
        rw [mem_removedTextures hle] at hy
        by_contra hf; rw [not_or] at hf
        obtain ⟨hf, hsc⟩ := hf
        refine hy ⟨ho textureId hmem, fun hmem => hf (.inl hmem), hsc,
          fun hmem => hf (.inr (.inl hmem)), fun hmem => hf (.inr (.inr (.inl hmem))),
          fun hmem => hf (.inr (.inr (.inr hmem)))⟩

/-! ## The other steps -/

theorem unregisterTextures_consistent {keeps : TextureState F → Int64 → Bool} (answers : EngineAnswers)
    (texs : List Int64) (h : s.Consistent)
    (hk : ∀ registered engine textureId, (s.HeldBySurfaces textureId ∨ s.screenshotTextureId = some textureId) ∨
      textureId ∉ registered → keeps { s with registeredExternalTextures := registered, engine } textureId = true) :
    (s.unregisterTextures answers keeps texs).1.Consistent ∧
      (s.unregisterTextures answers keeps texs).1.sceneTextureIds = s.sceneTextureIds ∧
      (s.unregisterTextures answers keeps texs).1.cursorTextureIds = s.cursorTextureIds := by
  obtain ⟨registered, engine, result, heq, hrec, -, hheld⟩ :=
    unregisterTextures_spec (fun textureId => s.HeldBySurfaces textureId ∨ s.screenshotTextureId = some textureId)
      h.recorded hk
  rw [heq]
  exact ⟨h.mono hrec hheld (fun textureId hmem => .inl hmem) rfl h.leases h.windows h.tracked, rfl, rfl⟩

theorem retired_retireCursorTextures (h : (s.retireCursorTextures desired).Retired textureId) :
    s.Retired textureId ∨ textureId ∈ s.cursorTextureIds := by
  obtain ⟨epoch, textureIds, hk, hmem⟩ := h; unfold retireCursorTextures at hk
  dsimp only at hk; split at hk
  · exact .inl ⟨epoch, textureIds, hk, hmem⟩
  rw [lookup_insert_eq] at hk; split at hk
  · cases hk
    rcases List.mem_append.1 hmem with ho | hn
    · cases he : s.retiredCursorTextureIds.lookup (max (s.cursorEpoch + 1) 1) with
      | none =>
        rw [he] at ho; cases ho
      | some textureIds =>
        rw [he] at ho; exact .inl ⟨_, textureIds, he, ho⟩
    · exact .inr (List.mem_filter.1 hn).1
  · exact .inl ⟨epoch, textureIds, hk, hmem⟩

theorem retireCursorTextures_consistent (desired curs : List Int64) (wire : WireBridge F) (h : s.Consistent)
    (hrec : Recorded registered engine)
    (hre : ∀ textureId ∈ s.registeredExternalTextures, textureId ∈ registered)
    (hcu : ∀ textureId ∈ curs, textureId ∈ s.cursorTextureIds ∨
      textureId ∈ registered ∧ s.screenshotTextureId ≠ some textureId) (hw : wire.windows = s.wire.windows) :
    Consistent { ({ s with registeredExternalTextures := registered, engine }).retireCursorTextures desired with
      wire, cursorTextureIds := curs } := by
  refine h.mono hrec (fun textureId hmem _ => hre textureId hmem) (fun textureId hheld => ?_) rfl h.leases
    h.windows fun textureId hmem => ?_
  · rcases hheld with hscene | hmem | hr | hs
    · exact .inl (.inl hscene)
    · rcases hcu textureId hmem with ho | hn
      · exact .inl (.inr (.inl ho))
      · exact .inr hn
    · rcases retired_retireCursorTextures
        (s := { s with registeredExternalTextures := registered, engine }) hr with hr | ho
      · exact .inl (.inr (.inr (.inl hr)))
      · exact .inl (.inr (.inl ho))
    · exact .inl (.inr (.inr (.inr hs)))
  · show textureId ∈ (windowTextureMap wire.windows).entries.flatMap (·.2)
    rw [hw]; exact h.tracked textureId hmem

theorem syncCursorState_consistent {call : CursorCall} (h : s.Consistent) (hpr : s.Promised (.syncCursorState call))
    (hre : ∀ textureId ∈ call.frames, textureId ∉ s.registeredExternalTextures → answers.registers textureId = true) :
    (s.syncCursorState answers call).1.Consistent ∧
      (s.syncCursorState answers call).1.sceneTextureIds = s.sceneTextureIds ∧
      ∀ error, (s.syncCursorState answers call).2 = .error error →
        (s.syncCursorState answers call).1.cursorTextureIds = s.cursorTextureIds := by
  unfold syncCursorState
  cases hco : collectTextureIds s.sceneTextureIds.contains [] call.frames with
  | none => exact ⟨h, rfl, fun _ _ => rfl⟩
  | some desired =>
    have hd : ∀ textureId, textureId ∈ call.hash.order desired ↔ textureId ∈ call.frames := fun textureId =>
      (call.hash.perm desired).mem_iff.trans (mem_collected hco)
    obtain ⟨registered, engine, hrg, hrec, hm⟩ := registerTextures_ok h.recorded
      fun textureId hmem => hre textureId ((hd textureId).1 hmem)
    dsimp only; rw [hrg]
    have hs : ∀ textureId ∈ s.registeredExternalTextures, textureId ∈ registered := fun textureId hmem =>
      (hm textureId).2 (.inl hmem)
    have hn : ∀ textureId ∈ desired, textureId ∈ s.cursorTextureIds ∨
        textureId ∈ registered ∧ s.screenshotTextureId ≠ some textureId := by
      intro textureId hmem
      have hf := (mem_collected hco).1 hmem
      exact .inr ⟨(hm textureId).2 (.inr ((hd textureId).2 hf)), hpr textureId hf⟩
    have hr : ∀ cursor (wire : WireBridge F), _ → _ → Consistent _ := fun cursor wire =>
      retireCursorTextures_consistent desired cursor wire h hrec hs
    cases call.validates with
    | error error => exact ⟨hr s.cursorTextureIds s.wire (fun _ => .inl) rfl, rfl, fun _ _ => rfl⟩
    | ok _ =>
      cases call.encodes with
      | error error => exact ⟨hr s.cursorTextureIds s.wire.takeSequence.2 (fun _ => .inl) rfl, rfl, fun _ _ => rfl⟩
      | ok _ =>
        cases hsends : answers.sends with
        | false => exact ⟨hr s.cursorTextureIds s.wire.takeSequence.2 (fun _ => .inl) rfl, rfl, fun _ _ => rfl⟩
        | true => exact ⟨hr desired s.wire.takeSequence.2 hn rfl, rfl, fun _ h => (nomatch h)⟩

theorem Consistent.release {s' : TextureState F} (h : s.Consistent)
    (hr : s'.registeredExternalTextures = s.registeredExternalTextures) (he : s'.engine = s.engine)
    (hheld : ∀ textureId, s'.HeldBySurfaces textureId → s.HeldBySurfaces textureId)
    (hsc : s'.screenshotTextureId = s.screenshotTextureId) (hle : s'.windowCloseTextureLeases.Accounted)
    (hs : s'.windowCloseTextureLeases.shownTextures = s.windowCloseTextureLeases.shownTextures)
    (hscene : s'.sceneTextureIds = s.sceneTextureIds) (hw : s'.wire = s.wire) : s'.Consistent := by
  refine h.mono ?_ (fun textureId hmem _ => ?_) (fun textureId hmem => .inl (hheld textureId hmem)) hsc hle
    (fun textureId hmem => ?_) fun textureId hmem => ?_
  · rw [hr, he]; exact h.recorded
  · rw [hr]; exact hmem
  · rw [hscene]; exact h.windows textureId (by rwa [← hs])
  · rw [hw]; exact h.tracked textureId (by rwa [← hs])

theorem retired_retainEpochs {ep : UInt64} :
    (s.retainEpochs ep).Retired textureId ↔ textureId ∈ (s.acknowledgedTextures ep).2 := by
  unfold acknowledgedTextures; rw [List.mem_flatMap]
  constructor
  · rintro ⟨later, textureIds, hk, hmem⟩
    exact ⟨⟨later, textureIds⟩, AList.mem_lookup_iff.1 hk, hmem⟩
  · rintro ⟨⟨later, textureIds⟩, he, hmem⟩
    exact ⟨later, textureIds, AList.mem_lookup_iff.2 he, hmem⟩

theorem keepsAcknowledged_held {lr : List Int64} (hs : s.windowCloseTextureLeases.Accounted)
    (hla : s.Retired textureId → textureId ∈ lr)
    (h : (s.HeldBySurfaces textureId ∨ s.screenshotTextureId = some textureId) ∨
      textureId ∉ s.registeredExternalTextures) : keepsAcknowledged lr s textureId = true := by
  unfold keepsAcknowledged
  simp only [Bool.or_eq_true, List.contains_iff_mem, beq_iff_eq, Bool.not_eq_true', ← Bool.not_eq_true]
  rw [retainsTexture_iff hs]
  rcases h with ((hscene | hcu | hr | hle) | hsc) | hf
  · tauto
  · tauto
  · have := hla hr
    tauto
  · tauto
  · tauto
  · tauto

theorem keepsClosed_held (hs : s.windowCloseTextureLeases.Accounted)
    (h : (s.HeldBySurfaces textureId ∨ s.screenshotTextureId = some textureId) ∨
      textureId ∉ s.registeredExternalTextures) : keepsClosed s textureId = true := by
  unfold keepsClosed
  simp only [Bool.or_eq_true, List.contains_iff_mem, beq_iff_eq, Bool.not_eq_true', ← Bool.not_eq_true]
  rw [retainsTexture_iff hs, retainsCursorTexture_iff]
  rcases h with ((hscene | hr | hre | hle) | hsc) | hf <;> tauto

theorem acknowledgeCursorEpoch_consistent (h : s.Consistent) (hash : HashOrder Int64) (ep : UInt64) :
    (s.acknowledgeCursorEpoch answers hash ep).1.Consistent ∧
      (s.acknowledgeCursorEpoch answers hash ep).1.sceneTextureIds = s.sceneTextureIds ∧
      (s.acknowledgeCursorEpoch answers hash ep).1.cursorTextureIds = s.cursorTextureIds := by
  unfold acknowledgeCursorEpoch; split
  · exact ⟨h, rfl, rfl⟩
  have hre : (s.retainEpochs ep).Consistent := by
    refine h.release rfl rfl (fun textureId hheld => ?_) rfl h.leases rfl rfl rfl
    rcases hheld with hscene | hr | ⟨later, textureIds, hk, hmem⟩ | hs
    · exact .inl hscene
    · exact .inr (.inl hr)
    · exact .inr (.inr (.inl ⟨later, textureIds, (lookup_retainKeys.1 hk).1, hmem⟩))
    · exact .inr (.inr (.inr hs))
  have hke := unregisterTextures_consistent answers (hash.order (s.acknowledgedTextures ep).1.dedup) hre
    fun registered engine textureId hheld =>
      keepsAcknowledged_held h.leases (fun hrt => retired_retainEpochs.1 hrt) hheld
  revert hke
  dsimp only
  generalize unregisterTextures answers _ (s.retainEpochs ep) _ = result
  rcases result with ⟨s', error | _⟩ <;> exact id

theorem freeTextureId_free : ∀ {fuel : Nat} {start textureId : Int64},
    freeTextureId registered fuel start = some textureId → textureId ∉ registered
  | 0, _, _, h => nomatch h
  | fuel + 1, start, textureId, h => by
    unfold freeTextureId at h
    split_ifs at h with _ hmem
    · exact freeTextureId_free h
    · cases h
      simpa using hmem

theorem registerScreenshotTexture_consistent (h : s.Consistent) : (s.registerScreenshotTexture answers).1.Consistent ∧
      (s.registerScreenshotTexture answers).1.sceneTextureIds = s.sceneTextureIds ∧
      (s.registerScreenshotTexture answers).1.cursorTextureIds = s.cursorTextureIds := by
  unfold registerScreenshotTexture; split
  · exact ⟨h, rfl, rfl⟩
  split
  · exact ⟨h, rfl, rfl⟩
  rename_i textureId hf
  have hn := freeTextureId_free hf
  cases hs : answers.registers textureId with
  | false =>
    refine ⟨⟨h.recorded.register_failed hn, h.held, h.screenshot, h.leases, h.windows, h.tracked⟩, rfl, rfl⟩
  | true =>
    refine ⟨⟨h.recorded.register hn, fun other hheld => ?_, fun other ho => ?_, h.leases, h.windows, h.tracked⟩,
      rfl, rfl⟩
    · exact List.mem_cons_of_mem _ (h.held other hheld)
    · cases ho
      exact ⟨List.mem_cons_self .., fun hheld => hn (h.held _ hheld)⟩

theorem unregisterScreenshotTexture_consistent (h : s.Consistent) (textureId : Int64) :
    (s.unregisterScreenshotTexture answers textureId).1.Consistent ∧
      (s.unregisterScreenshotTexture answers textureId).1.sceneTextureIds = s.sceneTextureIds ∧
      (s.unregisterScreenshotTexture answers textureId).1.cursorTextureIds = s.cursorTextureIds := by
  unfold unregisterScreenshotTexture; split
  · exact ⟨h, rfl, rfl⟩
  rename_i hac
  obtain ⟨hmem, hu⟩ := h.screenshot textureId (not_not.1 hac)
  cases hn : answers.unregisters textureId with
  | false =>
    refine ⟨⟨h.recorded.unregister_failed hmem, h.held, h.screenshot, h.leases, h.windows, h.tracked⟩, rfl, rfl⟩
  | true =>
    refine ⟨⟨h.recorded.unregister hmem, fun other hheld => ?_, fun other ho => (nomatch ho), h.leases,
      h.windows, h.tracked⟩, rfl, rfl⟩
    refine List.mem_filter.2 ⟨h.held other hheld, ?_⟩; rw [bne_iff_ne]
    rintro rfl; exact hu hheld

theorem retireWindowCloseTextures_consistent (h : s.Consistent) (hs : leases.Accounted)
    (hw : WindowCloseTextureLeases.HeldWithin [] s.windowCloseTextureLeases leases) (texs : List Int64) :
    let s' : TextureState F := { s with windowCloseTextureLeases := leases }
    s'.Consistent ∧ (s'.retireWindowCloseTextures answers texs).1.Consistent ∧
      (s'.retireWindowCloseTextures answers texs).1.sceneTextureIds = s.sceneTextureIds ∧
      (s'.retireWindowCloseTextures answers texs).1.cursorTextureIds = s.cursorTextureIds := by
  intro s'
  have hr : s'.Consistent := by
    refine h.release rfl rfl (fun textureId hheld => ?_) rfl hs ?_ rfl rfl
    · rcases hheld with hscene | hcu | hre | hle
      · exact .inl hscene
      · exact .inr (.inl hcu)
      · exact .inr (.inr (.inl hre))
      rcases hw.2 textureId hle with hnone | hle
      · cases hnone
      · exact .inr (.inr (.inr hle))
    · exact congrArg (fun wins : WindowTextures => wins.entries.flatMap (·.2)) hw.1
  exact ⟨hr, unregisterTextures_consistent answers texs hr fun registered engine textureId hheld =>
    keepsClosed_held hs hheld⟩

end TextureState

/-! ## Every run -/

namespace RegistrationSession

variable {F : Type} (builder : Builder F)

/-- The callers keep their promises, scenes go through and registrations succeed. -/
def Guarded (s : RegistrationSession F) (e : TextureEvent) : Prop :=
  s.state.Promised e.call ∧ s.state.GoesThrough builder e

instance decidableGuarded (s : RegistrationSession F) (e : TextureEvent) : Decidable (Guarded builder s e) :=
  inferInstanceAs (Decidable (_ ∧ _))

structure Sound (s : RegistrationSession F) : Prop where
  consistent : s.state.Consistent
  published : ∀ textureId, textureId ∈ s.state.sceneTextureIds ↔ textureId ∈ s.publishedScene

variable {s : RegistrationSession F} {e : TextureEvent}

theorem Sound.registered (h : s.Sound) {textureId : Int64} (hh : s.Holds textureId) :
    textureId ∈ s.state.engine.registered := by
  refine (h.consistent.recorded.same textureId).1 ?_
  cases hh with
  | scene hmem => exact h.consistent.held textureId (.inl ((h.published textureId).2 hmem))
  | cursor hmem => exact h.consistent.held textureId (.inr (.inl hmem))
  | epoch hk hmem => exact h.consistent.held textureId (.inr (.inr (.inl ⟨_, _, hk, hmem⟩)))
  | screenshot hid => exact (h.consistent.screenshot textureId hid).1
  | lease hmem => exact h.consistent.held textureId (.inr (.inr (.inr hmem)))

theorem Sound.holds (h : s.Sound) {textureId : Int64}
    (hheld : s.state.HeldBySurfaces textureId ∨ s.state.screenshotTextureId = some textureId) : s.Holds textureId := by
  rcases hheld with (hscene | hr | ⟨_, _, hk, hmem⟩ | hs) | hsc
  · exact .scene ((h.published textureId).1 hscene)
  · exact .cursor hr
  · exact .epoch hk hmem
  · exact .lease hs
  · exact .screenshot hsc

/-- What a step keeps, and what it does. -/
structure Kept (s : RegistrationSession F) (e : TextureEvent) : Prop where
  sound : (next builder s e).Sound
  held : ∀ call, e.call = .syncWaylandScene call → (s.state.handle builder e).2 = .ok () →
    ∀ textureId ∈ (s.state.handle builder e).1.registeredExternalTextures,
      (s.state.handle builder e).1.HeldBySurfaces textureId ∨
        (s.state.handle builder e).1.screenshotTextureId = some textureId
  failed : ∀ error, (s.state.handle builder e).2 = .error error →
    (s.state.handle builder e).1.sceneTextureIds = s.state.sceneTextureIds ∧
      (s.state.handle builder e).1.cursorTextureIds = s.state.cursorTextureIds

theorem state_next (s : RegistrationSession F) (e : TextureEvent) :
    (next builder s e).state = (s.state.handle builder e).1 := by
  unfold next; dsimp only
  split <;> rfl

theorem kept_of_other (h : s.Sound) (ho : ∀ call, e.call ≠ .syncWaylandScene call)
    (hn : (s.state.handle builder e).1.Consistent)
    (hscene : (s.state.handle builder e).1.sceneTextureIds = s.state.sceneTextureIds)
    (hr : ∀ error, (s.state.handle builder e).2 = .error error →
      (s.state.handle builder e).1.cursorTextureIds = s.state.cursorTextureIds) : Kept builder s e := by
  have hpu : (next builder s e).publishedScene = s.publishedScene := by
    unfold next; dsimp only
    split
    · rename_i call _ hca _; exact absurd hca (ho call)
    · rfl
  refine ⟨⟨?_, fun textureId => ?_⟩, fun call hca => absurd hca (ho call),
    fun error herror => ⟨hscene, hr error herror⟩⟩
  · rw [state_next]; exact hn
  · rw [state_next, hpu, hscene]; exact h.published textureId

theorem kept_of_scene {call : SceneCall} {answers : EngineAnswers} (h : s.Sound)
    (hpr : s.state.Promised (.syncWaylandScene call))
    (hgo : s.state.GoesThrough builder ⟨.syncWaylandScene call, answers⟩) :
    Kept builder s ⟨.syncWaylandScene call, answers⟩ := by
  obtain ⟨hn, hcu, ho⟩ :=
    syncWaylandScene_step builder h.consistent hpr hgo
  have hs := state_next builder s ⟨.syncWaylandScene call, answers⟩
  cases ho with
  | @recorded changed hok hscene hheld =>
    have hr : (s.state.handle builder ⟨.syncWaylandScene call, answers⟩).2 = .ok () := by
      show (s.state.syncWaylandScene builder answers call).2.map _ = _
      rw [hok]; rfl
    have hpu : (next builder s ⟨.syncWaylandScene call, answers⟩).publishedScene = call.frames := by
      unfold next; dsimp only
      rw [hr]
    refine ⟨⟨?_, fun textureId => ?_⟩, fun _ _ _ => hheld, fun error herror => ?_⟩
    · rw [hs]; exact hn
    · rw [hs, hpu]; exact hscene textureId
    · rw [hr] at herror; cases herror
  | @failed error herror hnone hscene =>
    have hr : (s.state.handle builder ⟨.syncWaylandScene call, answers⟩).2 = .error error := by
      show (s.state.syncWaylandScene builder answers call).2.map _ = _
      rw [herror]; rfl
    have hpu : (next builder s ⟨.syncWaylandScene call, answers⟩).publishedScene = s.publishedScene := by
      unfold next; dsimp only
      rw [hr]
    have hm : (s.state.handle builder ⟨.syncWaylandScene call, answers⟩).1.sceneTextureIds = s.state.sceneTextureIds :=
      hscene.trans hnone.symm
    refine ⟨⟨?_, fun textureId => ?_⟩, fun _ _ hok => ?_, fun _ _ => ⟨hm, hcu⟩⟩
    · rw [hs]; exact hn
    · rw [hs, hpu, hm]; exact h.published textureId
    · rw [hr] at hok; cases hok

theorem kept (h : s.Sound) (hgu : Guarded builder s e) : Kept builder s e := by
  obtain ⟨hpr, hgo⟩ := hgu
  obtain ⟨call, answers⟩ := e
  have hs := h.consistent
  cases call with
  | syncWaylandScene call => exact kept_of_scene builder h hpr hgo
  | syncWaylandBuffers fs =>
    have hm : (s.state.syncWaylandBuffers fs).1 = s.state := by
      unfold syncWaylandBuffers
      split <;> rfl
    refine kept_of_other builder h (fun _ hca => nomatch hca) ?_ ?_ fun _ _ => ?_
    · show (s.state.syncWaylandBuffers fs).1.Consistent
      rw [hm]; exact hs
    · exact congrArg sceneTextureIds hm
    · exact congrArg cursorTextureIds hm
  | syncCursorState call =>
    obtain ⟨hn, hscene, hr⟩ := syncCursorState_consistent hs hpr hgo
    exact kept_of_other builder h (fun _ hca => nomatch hca) hn hscene hr
  | syncCursorBuffers fs =>
    have hm : (s.state.syncCursorBuffers fs).1 = s.state := by
      unfold syncCursorBuffers
      split <;> rfl
    refine kept_of_other builder h (fun _ hca => nomatch hca) ?_ ?_ fun _ _ => ?_
    · show (s.state.syncCursorBuffers fs).1.Consistent
      rw [hm]; exact hs
    · exact congrArg sceneTextureIds hm
    · exact congrArg cursorTextureIds hm
  | acknowledgeCursorEpoch hash epoch =>
    obtain ⟨hn, hscene, hr⟩ := acknowledgeCursorEpoch_consistent hs hash epoch
    exact kept_of_other builder h (fun _ hca => nomatch hca) hn hscene fun _ _ => hr
  | registerScreenshotTexture =>
    obtain ⟨hn, hscene, hr⟩ := registerScreenshotTexture_consistent hs
    exact kept_of_other builder h (fun _ hca => nomatch hca) hn hscene fun _ _ => hr
  | unregisterScreenshotTexture textureId =>
    obtain ⟨hn, hscene, hr⟩ := unregisterScreenshotTexture_consistent hs textureId
    exact kept_of_other builder h (fun _ hca => nomatch hca) hn hscene fun _ _ => hr
  | completeWindowClose windowId =>
    obtain ⟨-, hn, hscene, hr⟩ := retireWindowCloseTextures_consistent hs
      (accounted_next (.complete windowId) hs.leases)
      (heldWithin_complete _ windowId)
      (s.state.windowCloseTextureLeases.complete windowId).2.textureIds
    exact kept_of_other builder h (fun _ hca => nomatch hca) hn hscene fun _ _ => hr
  | expireWindowCloseTextureLeases hash now =>
    obtain ⟨hrl, hn, hscene, hr⟩ := retireWindowCloseTextures_consistent hs
      (accounted_next (.expire hash now) hs.leases)
      (heldWithin_expire _ now)
      (s.state.windowCloseTextureLeases.expire hash now).2.textureIds
    by_cases hnone : (s.state.windowCloseTextureLeases.expire hash now).2.leaseCount = 0
    · have hre : s.state.expireWindowCloseTextureLeases answers hash now = (_, .ok ()) := if_pos hnone
      refine kept_of_other builder h (fun _ hca => nomatch hca) ?_ ?_ fun _ _ => ?_
      · exact (congrArg Prod.fst hre) ▸ hrl
      · exact congrArg (fun result : TextureResult F Unit => result.1.sceneTextureIds) hre
      · exact congrArg (fun result : TextureResult F Unit => result.1.cursorTextureIds) hre
    · have hre : s.state.expireWindowCloseTextureLeases answers hash now =
          retireWindowCloseTextures answers _ _ := if_neg hnone
      refine kept_of_other builder h (fun _ hca => nomatch hca) ?_ ?_ fun _ _ => ?_
      · exact (congrArg Prod.fst hre) ▸ hn
      · exact (congrArg (fun result : TextureResult F Unit => result.1.sceneTextureIds) hre).trans hscene
      · exact (congrArg (fun result : TextureResult F Unit => result.1.cursorTextureIds) hre).trans hr

theorem matched_of_kept (h : Kept builder s e) : Matched builder s e := by
  refine ⟨fun textureId hh => h.sound.registered hh, fun call hca hok textureId hmem => ?_,
    h.sound.consistent.recorded.calls, fun error herror => ?_⟩
  · have hr := (h.sound.consistent.recorded.same textureId).2 hmem; rw [state_next] at hr
    have := h.held call hca hok textureId hr
    rw [← state_next] at this; exact h.sound.holds this
  · rw [state_next]; exact h.failed error herror

/-- In every run of scenes, buffers, cursors and their acknowledgements, screenshots and leases, whatever else fails: where
the scenes go through and the registrations succeed, what is shown is registered with the engine; after each scene nothing
else is; nothing is registered twice or unregistered that was not registered; and what fails leaves the scene and cursor. -/
theorem textures_match_holders (wire : WireBridge F) (es : List TextureEvent)
    (h : Along (next builder) (Guarded builder) ⟨{ wire }, []⟩ es) :
    Along (next builder) (Matched builder) ⟨{ wire }, []⟩ es := by
  have hstar : Sound (F := F) ⟨{ wire }, []⟩ := by
    refine ⟨⟨⟨List.nodup_nil, fun _ => Iff.rfl, fun _ hcal => nomatch hcal⟩, fun textureId hheld => ?_,
      fun _ hid => (nomatch hid), WindowCloseTextureLeases.accounted_default, fun _ hmem => (nomatch hmem),
      fun _ hmem => (nomatch hmem)⟩, fun _ => Iff.rfl⟩
    rcases hheld with hscene | hcur | ⟨_, _, hlook, -⟩ | hleas
    · cases hscene
    · cases hcur
    · cases hlook
    · cases hleas
  exact Along.of_invariant (I := Sound) (fun s e hs hguar => (kept builder hs hguar).sound)
    (fun s e hs hguar => matched_of_kept builder (kept builder hs hguar)) hstar h

/-! ### Two runs -/

/-- A bridge without outputs, whose messages fit. -/
def plainWire : WireBridge Unit where
  snapshot := ⟨0, none, none, []⟩
  atlas := ⟨0, ((), ()), ((), ()), 120, ⟨1, 1⟩, []⟩
  workArea := {}

def plainBuilder : Builder Unit := fun _ => .ok 0

def plainWindow (textureId : UInt64) : WindowDescription :=
  ⟨textureId, textureId, textureId, textureId, "", "", 1, 1, .finite 0, .finite 0, .finite 1, .finite 1, .finite 0,
    .finite 0, .finite 1, .finite 1, .finite 0, .finite 0, .finite 1, .finite 1, 7, 1, false, 0, 120, .finite 0, .finite 0,
    .finite 1, .finite 1, [], false, false, .finite 1, .surfaceTree, .contentTranslucent⟩

/-- The engine does all it is asked to, or takes no messages, or no textures. -/
def willing : EngineAnswers := ⟨fun _ => true, fun _ => true, true⟩

def mute : EngineAnswers := { willing with sends := false }

def full : EngineAnswers := { willing with registers := fun _ => false }

def sceneEvent (answers : EngineAnswers) (revision : UInt64) (windows : List WindowDescription) (frames : List Int64) :
    TextureEvent :=
  ⟨.syncWaylandScene ⟨revision, windows, frames, [], 0, .asKept _, .asKept _⟩, answers⟩

def cursorEvent (answers : EngineAnswers) (frames : List Int64) : TextureEvent :=
  ⟨.syncCursorState ⟨frames, .ok (), .ok (), .asKept _⟩, answers⟩

def reopened : List TextureEvent :=
  [sceneEvent willing 1 [plainWindow 8] [8], sceneEvent willing 2 [] [], sceneEvent willing 3 [plainWindow 8] [8],
    cursorEvent willing [9], ⟨.registerScreenshotTexture, willing⟩, ⟨.completeWindowClose 8, willing⟩,
    cursorEvent willing [], ⟨.acknowledgeCursorEpoch (.asKept _) 2, willing⟩]

/-- What it shows when it is open again stays registered. -/
theorem reopened_matched : Along (next plainBuilder) (Guarded plainBuilder) ⟨{ wire := plainWire }, []⟩ reopened ∧
    Along (next plainBuilder) (Matched plainBuilder) ⟨{ wire := plainWire }, []⟩ reopened := by
  have h : Along (next plainBuilder) (Guarded plainBuilder) ⟨{ wire := plainWire }, []⟩ reopened := by decide +kernel
  exact ⟨h, textures_match_holders plainBuilder plainWire reopened h⟩

/-- The window closes and opens again; the next scene, the same one, cannot be sent; then the closing completes. -/
def sceneLost : List TextureEvent :=
  [sceneEvent willing 1 [plainWindow 8] [8], sceneEvent willing 2 [] [], sceneEvent willing 3 [plainWindow 8] [8],
    sceneEvent mute 4 [plainWindow 8] [8], ⟨.completeWindowClose 8, willing⟩]

/-- The cursor's texture is refused, and shown the next time. -/
def registrationLost : List TextureEvent := [cursorEvent full [9], cursorEvent willing [9]]

/-- The scene that fails is forgotten, and the texture of the window that is shown is unregistered; the texture that was
refused is taken for a registered one, and the cursor shows it. -/
theorem held_texture_unregistered :
    let start : RegistrationSession Unit := ⟨{ wire := plainWire }, []⟩
    let failed := exec (next plainBuilder) start (sceneLost.take 4)
    let closed := exec (next plainBuilder) start sceneLost
    let cursor := exec (next plainBuilder) start registrationLost
    Along (next plainBuilder) (fun s e => s.state.Promised e.call) start sceneLost ∧
      (exec (next plainBuilder) start (sceneLost.take 3)).state.sceneTextureIds = [8] ∧ failed.publishedScene = [8] ∧
      failed.state.sceneTextureIds = [] ∧ closed.publishedScene = [8] ∧ 8 ∉ closed.state.engine.registered ∧
      Along (next plainBuilder) (fun s e => s.state.Promised e.call) start registrationLost ∧
      cursor.state.cursorTextureIds = [9] ∧ 9 ∉ cursor.state.engine.registered := by
  decide +kernel

end RegistrationSession

end Deniald.Flutter
