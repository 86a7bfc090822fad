/-
The tap of Super (native_shortcut.rs, `observe` and `note_pointer_button`): the action bound to it comes with the
release of the last Super key held, unless something was pressed since the first of them was.
-/
import Deniald.Lib.Stretch
import Deniald.Shortcut.Engine

namespace Deniald.Shortcut

open Deniald.Lib

namespace ShortcutEngine

/-! ## What a step does to Super -/

/-- What a step that is not Super's does to its keys, the note that they were chorded, and the switcher they own. -/
structure ChordStep (chords : Bool) (e e' : ShortcutEngine) : Prop where
  bindings : e'.bindings = e.bindings
  keys : e'.logoKeys = e.logoKeys
  chorded : e'.logoChorded = true ↔ e.logoChorded = true ∨ chords = true ∧ e.logoKeys ≠ 0
  owns : e'.windowSwitcherRelease = some (.modifier .super) →
    e.windowSwitcherRelease = some (.modifier .super) ∨ chords = true ∧ e.logoKeys ≠ 0

theorem notePointerButton_chord (e : ShortcutEngine) (pressed : Bool) :
    ChordStep pressed e (e.notePointerButton pressed) := by
  unfold notePointerButton; split
  · rename_i h
    exact ⟨rfl, rfl, ⟨fun _ => .inr h, fun _ => rfl⟩, .inl⟩
  · rename_i h
    exact ⟨rfl, rfl, ⟨.inl, fun h' => h'.resolve_right h⟩, .inl⟩

theorem ChordStep.trans {cs : Bool} {e₁ e₂ e₃ : ShortcutEngine} (h : ChordStep cs e₁ e₂)
    (hn : e₃.bindings = e₂.bindings) (hk : e₃.logoKeys = e₂.logoKeys) (hh : e₃.logoChorded = e₂.logoChorded)
    (ho : e₃.windowSwitcherRelease = some (.modifier .super) →
      e₂.windowSwitcherRelease = some (.modifier .super) ∨ cs = true ∧ e₂.logoKeys ≠ 0) : ChordStep cs e₁ e₃ where
  bindings := hn.trans h.bindings
  keys := hk.trans h.keys
  chorded := by rw [hh, h.chorded]
  owns := fun hr => (ho hr).elim h.owns fun hc => .inr ⟨hc.1, h.keys ▸ hc.2⟩

theorem observePress_chord (e : ShortcutEngine) (keycode : Nat) :
    (e.observePress keycode).1.bindings = e.bindings ∧ (e.observePress keycode).1.logoKeys = e.logoKeys ∧
      (e.observePress keycode).1.logoChorded = e.logoChorded ∧
      ((e.observePress keycode).1.windowSwitcherRelease = some (.modifier .super) →
        e.windowSwitcherRelease = some (.modifier .super) ∨ e.logoKeys ≠ 0) := by
  cases hca : e.capturedKeys.lookup keycode with
  | some target =>
    unfold observePress
    rw [hca]; exact ⟨rfl, rfl, rfl, .inl⟩
  | none =>
    have hstep := observePress_step hca
    refine ⟨hstep.bindings, congrFun hstep.keys .super, ?_, fun hr => ?_⟩
    · unfold observePress; rw [hca]
      cases e.targetForKey keycode <;> rfl
    · rcases hstep.release _ hr with h | ⟨-, ⟨m, hm, hk⟩ | h⟩
      · exact .inl h
      · obtain rfl := WindowSwitcherRelease.modifier.inj hm; exact .inr hk
      · cases h

theorem observeRelease_chord (e : ShortcutEngine) (keycode : Nat) :
    (e.observeRelease keycode).1.bindings = e.bindings ∧ (e.observeRelease keycode).1.logoKeys = e.logoKeys ∧
      (e.observeRelease keycode).1.logoChorded = e.logoChorded ∧
      ((e.observeRelease keycode).1.windowSwitcherRelease = some (.modifier .super) →
        e.windowSwitcherRelease = some (.modifier .super)) := by
  unfold observeRelease; dsimp only
  split
  · exact ⟨rfl, rfl, rfl, fun h => by cases h⟩
  · exact ⟨rfl, rfl, rfl, id⟩

variable {keycode : Nat}

theorem otherModifier_not_super {md : Modifier} {bit : UInt8} (h : otherModifier keycode = some (md, bit)) :
    md ≠ .super := by
  unfold otherModifier at h
  rintro rfl
  repeat' split at h
  all_goals cases h

theorem observeModifier_chord (e : ShortcutEngine) {md : Modifier} (hm : md ≠ .super) (bit : UInt8) (pressed : Bool) :
    (e.observeModifier md bit pressed).1.bindings = e.bindings ∧
      (e.observeModifier md bit pressed).1.logoKeys = e.logoKeys ∧
      (e.observeModifier md bit pressed).1.logoChorded = e.logoChorded ∧
      ((e.observeModifier md bit pressed).1.windowSwitcherRelease = some (.modifier .super) →
        e.windowSwitcherRelease = some (.modifier .super)) := by
  unfold observeModifier
  generalize (if pressed then e.keys md ||| bit else e.keys md &&& ~~~bit) = value; dsimp only
  cases md with
  | super => exact absurd rfl hm
  | ctrl | alt | shift =>
    split
    · exact ⟨rfl, rfl, rfl, fun h => by cases h⟩
    · exact ⟨rfl, rfl, rfl, id⟩

theorem observe_chord (h : logoModifier keycode = none) (e : ShortcutEngine) (pressed : Bool) :
    ChordStep pressed e (e.observe keycode pressed).1 := by
  have hno : ChordStep pressed e (if pressed ∧ e.logoKeys ≠ 0 then { e with logoChorded := true } else e) :=
    notePointerButton_chord e pressed
  unfold observe; rw [h]
  dsimp only
  generalize (if pressed ∧ e.logoKeys ≠ 0 then { e with logoChorded := true } else e : ShortcutEngine) = noted at hno ⊢
  cases hot : otherModifier keycode with
  | some f =>
    obtain ⟨modifier, bit⟩ := f
    obtain ⟨hn, hk, hh, ho⟩ :=
      observeModifier_chord noted (otherModifier_not_super hot) bit pressed
    exact hno.trans hn hk hh fun hr => .inl (ho hr)
  | none =>
    cases pressed with
    | true =>
      obtain ⟨hn, hk, hh, ho⟩ := observePress_chord noted keycode
      exact hno.trans hn hk hh fun hr => (ho hr).imp_right fun hk => ⟨rfl, hk⟩
    | false =>
      obtain ⟨hn, hk, hh, ho⟩ := observeRelease_chord noted keycode
      exact hno.trans hn hk hh fun hr => .inl (ho hr)

theorem intercept_chord (h : logoModifier keycode = none) (e : ShortcutEngine) (pressed locked answer : Bool) :
    ChordStep pressed e (e.intercept keycode pressed locked answer).1 := by
  have hstep := observe_chord h e pressed
  rcases intercept_cases e keycode pressed locked answer with ⟨heq, -⟩ | ⟨-, -, heq⟩
  · rwa [heq]
  · rw [heq]; exact hstep.trans rfl rfl rfl .inl

end ShortcutEngine

namespace KeySession

open ShortcutEngine

/-! ## The chord -/

def SuperHeld (s : KeySession) : Prop := keyLeftMeta ∈ s.down ∨ keyRightMeta ∈ s.down

def Disturbs (s : KeySession) : KeyEvent → Prop
  | .key keycode true _ _ => logoModifier keycode = none
  | .key keycode false _ _ => logoModifier keycode ≠ none ∧ (s.engine.observe keycode false).2.isEnd = true
  | .pointerButton pressed => pressed = true

def TapFires (s : KeySession) (keycode : Nat) (pressed : Bool) : Prop :=
  logoModifier keycode ≠ none ∧ ∃ target, s.engine.modifierTapTarget .super = some target ∧ (s.engine.observe keycode pressed).2 = target.disposition

/-- Since the first Super key of the chord went down, something disturbed it. -/
def Chorded (s : KeySession) (es : List KeyEvent) : Prop := Happened next SuperHeld Disturbs s es

structure Knows (bindings : List CompiledShortcut) (es : List KeyEvent) (s : KeySession) : Prop where
  compiled : s.engine.bindings = bindings
  keys : s.engine.logoKeys = heldBits (decide (keyLeftMeta ∈ s.down)) (decide (keyRightMeta ∈ s.down))
  chorded : s.engine.logoChorded = true ↔ Chorded (start bindings) es
  owns : s.engine.windowSwitcherRelease = some (.modifier .super) → s.engine.logoChorded = true

theorem heldBits_ne_zero : ∀ left right : Bool, heldBits left right ≠ 0 ↔ left = true ∨ right = true := by decide

variable {bindings : List CompiledShortcut} {es : List KeyEvent} {bit : UInt8}

theorem Knows.held {s : KeySession} (h : Knows bindings es s) : s.engine.logoKeys ≠ 0 ↔ SuperHeld s := by
  rw [h.keys, heldBits_ne_zero, decide_eq_true_iff, decide_eq_true_iff]; rfl

theorem Knows.lasts (h : Knows bindings es (exec next (start bindings) es))
    (hh : (exec next (start bindings) es).engine.logoChorded = true) :
    (exec next (start bindings) es).engine.logoKeys ≠ 0 :=
  h.held.2 (h.chorded.1 hh).holds

theorem not_superHeld_start (bindings : List CompiledShortcut) : ¬SuperHeld (start bindings) := by
  simp [SuperHeld, start]

theorem knows_start (bindings : List CompiledShortcut) : Knows bindings [] (start bindings) where
  compiled := rfl
  keys := by simp [start, fromBindings, heldBits]
  chorded := ⟨fun h => (by cases h), fun h => absurd h.holds (not_superHeld_start bindings)⟩
  owns := fun h => by cases h

variable {e : KeyEvent} {keycode : Nat}

theorem superHeld_next {s : KeySession} (h : ¬SuperHeld s) (h' : SuperHeld (next s e)) : ¬Disturbs s e := by
  cases e with
  | pointerButton pressed => exact absurd h' h
  | key keycode pressed locked answer =>
    cases pressed with
    | false =>
      refine absurd ?_ h
      exact h'.imp Finset.mem_of_mem_erase Finset.mem_of_mem_erase
    | true =>
      intro ho
      have hf : keyLeftMeta ≠ keycode := by
        rintro rfl; cases ho
      have hr : keyRightMeta ≠ keycode := by
        rintro rfl; cases ho
      refine h (h'.imp (fun hmem => ?_) fun hmem => ?_)
      · exact (Finset.mem_insert.1 hmem).resolve_left hf
      · exact (Finset.mem_insert.1 hmem).resolve_left hr

theorem chorded_snoc : Chorded (start bindings) (es ++ [e]) ↔ SuperHeld (next (exec next (start bindings) es) e) ∧
      (Chorded (start bindings) es ∨
        SuperHeld (exec next (start bindings) es) ∧ Disturbs (exec next (start bindings) es) e) :=
  happened_snoc (not_superHeld_start bindings) fun _ _ => superHeld_next

theorem knows_of_chord {cs : Bool} (h : Knows bindings es (exec next (start bindings) es))
    (hstep : ChordStep cs (exec next (start bindings) es).engine (next (exec next (start bindings) es) e).engine)
    (hd : ∀ k, logoModifier k ≠ none →
      (k ∈ (next (exec next (start bindings) es) e).down ↔ k ∈ (exec next (start bindings) es).down))
    (hdi : Disturbs (exec next (start bindings) es) e ↔ cs = true) :
    Knows bindings (es ++ [e]) (next (exec next (start bindings) es) e) := by
  have hf := hd keyLeftMeta (by decide)
  have hri := hd keyRightMeta (by decide)
  have hhe : SuperHeld (next (exec next (start bindings) es) e) ↔ SuperHeld (exec next (start bindings) es) := by
    unfold SuperHeld; rw [hf, hri]
  have hh : (next (exec next (start bindings) es) e).engine.logoChorded = true ↔
      Chorded (start bindings) (es ++ [e]) := by
    rw [chorded_snoc, hhe, hdi, hstep.chorded, h.held, h.chorded]
    constructor
    · rintro (hh | ⟨hr, hs⟩)
      · exact ⟨hh.holds, .inl hh⟩
      · exact ⟨hs, .inr ⟨hs, hr⟩⟩
    · rintro ⟨-, hh | ⟨hs, hr⟩⟩
      · exact .inl hh
      · exact .inr ⟨hr, hs⟩
  refine ⟨hstep.bindings.trans h.compiled, ?_, hh, fun ho => ?_⟩
  · rw [hstep.keys, h.keys]
    simp [hf, hri]
  · rw [hstep.chorded]; exact (hstep.owns ho).imp_left h.owns

theorem intercept_keeps (e : ShortcutEngine) (keycode : Nat) (pressed locked answer : Bool) :
    (e.intercept keycode pressed locked answer).1.bindings = (e.observe keycode pressed).1.bindings ∧
      (e.intercept keycode pressed locked answer).1.logoKeys = (e.observe keycode pressed).1.logoKeys ∧
      (e.intercept keycode pressed locked answer).1.logoChorded = (e.observe keycode pressed).1.logoChorded ∧
      (e.intercept keycode pressed locked answer).1.windowSwitcherRelease =
        (e.observe keycode pressed).1.windowSwitcherRelease := by
  rcases intercept_cases e keycode pressed locked answer with ⟨heq, -⟩ | ⟨-, -, heq⟩
  · rw [heq]; exact ⟨rfl, rfl, rfl, rfl⟩
  · rw [heq]; exact ⟨rfl, rfl, rfl, rfl⟩

theorem observe_logo (h : logoModifier keycode = some bit) (e : ShortcutEngine) (pressed : Bool) :
    e.observe keycode pressed = e.observeLogo bit pressed := by
  unfold observe; rw [h]

theorem heldBits_key (h : logoModifier keycode = some bit) (down : Finset Nat) (pressed : Bool) :
    (if pressed then heldBits (decide (keyLeftMeta ∈ down)) (decide (keyRightMeta ∈ down)) ||| bit
      else heldBits (decide (keyLeftMeta ∈ down)) (decide (keyRightMeta ∈ down)) &&& ~~~bit) =
      heldBits (decide (keyLeftMeta ∈ if pressed then insert keycode down else down.erase keycode))
        (decide (keyRightMeta ∈ if pressed then insert keycode down else down.erase keycode)) := by
  have hf : ∀ l r, heldBits l r ||| leftModifier = heldBits true r ∧
      heldBits l r &&& ~~~leftModifier = heldBits false r := by decide
  have hr : ∀ l r, heldBits l r ||| rightModifier = heldBits l true ∧
      heldBits l r &&& ~~~rightModifier = heldBits l false := by decide
  have hne : keyLeftMeta ≠ keyRightMeta := by decide
  rcases logoModifier_some h with ⟨rfl, rfl⟩ | ⟨rfl, rfl⟩
  · rw [show leftKey Modifier.super = keyLeftMeta from rfl]; cases pressed
    · simp [(hf _ _).2, hne.symm]
    · simp [(hf _ _).1, hne.symm]
  rw [show rightKey Modifier.super = keyRightMeta from rfl]; cases pressed
  · simp [(hr _ _).2, hne]
  · simp [(hr _ _).1, hne]

theorem knows_press (hlo : logoModifier keycode = some bit) (locked answer : Bool)
    (h : Knows bindings es (exec next (start bindings) es)) : Knows bindings (es ++ [.key keycode true locked answer])
      (next (exec next (start bindings) es) (.key keycode true locked answer)) := by
  obtain ⟨hn, hk, hh, ho⟩ :=
    intercept_keeps (exec next (start bindings) es).engine keycode true locked answer
  rw [observe_logo hlo] at hn hk hh ho
  have hm := heldBits_key hlo (exec next (start bindings) es).down true
  rw [if_pos rfl, if_pos rfl] at hm
  have hhe := h.held
  have hk' : (next (exec next (start bindings) es) (.key keycode true locked answer)).engine.logoKeys =
      heldBits (decide (keyLeftMeta ∈ insert keycode (exec next (start bindings) es).down))
        (decide (keyRightMeta ∈ insert keycode (exec next (start bindings) es).down)) := by
    rw [← hm, ← h.keys]; exact hk
  have hw : SuperHeld (next (exec next (start bindings) es) (.key keycode true locked answer)) := by
    rcases logoModifier_some hlo with ⟨rfl, -⟩ | ⟨rfl, -⟩
    · exact .inl (Finset.mem_insert_self ..)
    · exact .inr (Finset.mem_insert_self ..)
  have hqu : ¬Disturbs (exec next (start bindings) es) (.key keycode true locked answer) := by
    intro hs
    rw [Disturbs, hlo] at hs; cases hs
  have hc' : (next (exec next (start bindings) es) (.key keycode true locked answer)).engine.logoChorded = true ↔
      (exec next (start bindings) es).engine.logoChorded = true := by
    rw [show (next (exec next (start bindings) es) (.key keycode true locked answer)).engine.logoChorded =
      (if (exec next (start bindings) es).engine.logoKeys = 0 then false
        else (exec next (start bindings) es).engine.logoChorded) from hh]
    split
    · rename_i hz
      exact ⟨fun hf => (by cases hf), fun htr => absurd hz (h.lasts htr)⟩
    · rfl
  refine ⟨hn.trans h.compiled, hk', ?_, fun hr => hc'.2 (h.owns (ho.symm.trans hr))⟩
  rw [chorded_snoc, ← h.chorded, hc']
  exact ⟨fun htr => ⟨hw, .inl htr⟩, fun hc => hc.2.resolve_right fun hd => hqu hd.2⟩

theorem observeLogo_release (e : ShortcutEngine) (bit : UInt8) :
    (e.windowSwitcherRelease = some (.modifier .super) ∧ (e.observeLogo bit false).1.windowSwitcherRelease = none ∧
        (e.observeLogo bit false).2 = .requestWindowSwitcherEnd false ∨
      e.windowSwitcherRelease ≠ some (.modifier .super) ∧
        (e.observeLogo bit false).1.windowSwitcherRelease = e.windowSwitcherRelease ∧
        (e.observeLogo bit false).2 = if e.logoKeys &&& ~~~bit = 0 then e.tapDisposition else .consume) ∧
      (e.observeLogo bit false).1.bindings = e.bindings ∧ (e.observeLogo bit false).1.logoKeys = e.logoKeys &&& ~~~bit ∧
      (e.observeLogo bit false).1.logoChorded = if e.logoKeys &&& ~~~bit = 0 then false else e.logoChorded := by
  unfold observeLogo; rw [if_neg (by decide)]
  dsimp only
  by_cases ho : e.windowSwitcherRelease = some (.modifier .super)
  · rw [if_pos ho]; exact ⟨.inl ⟨ho, rfl, rfl⟩, rfl, rfl, rfl⟩
  · rw [if_neg ho]
    by_cases hz : e.logoKeys &&& ~~~bit = 0 <;> simp [hz, ho]

theorem knows_release (hlo : logoModifier keycode = some bit) (locked answer : Bool)
    (h : Knows bindings es (exec next (start bindings) es)) : Knows bindings (es ++ [.key keycode false locked answer])
      (next (exec next (start bindings) es) (.key keycode false locked answer)) := by
  obtain ⟨hn, hk, hh, hw⟩ :=
    intercept_keeps (exec next (start bindings) es).engine keycode false locked answer
  rw [observe_logo hlo] at hn hk hh hw
  obtain ⟨hs, hb', hlk, hlc⟩ :=
    observeLogo_release (exec next (start bindings) es).engine bit
  have hm := heldBits_key hlo (exec next (start bindings) es).down false
  rw [if_neg (by decide), if_neg (by decide), ← h.keys] at hm
  have hk' := (hk.trans hlk).trans hm
  have hh' : (exec next (start bindings) es).engine.logoKeys &&& ~~~bit ≠ 0 ↔
      SuperHeld (next (exec next (start bindings) es) (.key keycode false locked answer)) := by
    rw [hm, heldBits_ne_zero, decide_eq_true_iff, decide_eq_true_iff]; rfl
  have hds : Disturbs (exec next (start bindings) es) (.key keycode false locked answer) →
      (exec next (start bindings) es).engine.logoChorded = true := by
    rintro ⟨-, he⟩; rw [observe_logo hlo] at he
    rcases hs with ⟨ho, -⟩ | ⟨-, -, hdi⟩
    · exact h.owns ho
    rw [hdi] at he; split at he
    · rw [tap_not_end] at he; cases he
    · cases he
  have hc' := hh.trans hlc
  refine ⟨(hn.trans hb').trans h.compiled, hk', ?_, fun hr => ?_⟩
  · rw [chorded_snoc, ← h.chorded, ← hh']
    refine (iff_of_eq (congrArg (· = true) hc')).trans ?_; split
    · rename_i hz
      exact ⟨fun hf => (by cases hf), fun hc => absurd hz hc.1⟩
    · rename_i hnn
      exact ⟨fun htr => ⟨hnn, .inl htr⟩, fun hc => hc.2.elim id fun hd => hds hd.2⟩
  · have hr' := hw.symm.trans hr
    rcases hs with ⟨-, hno, -⟩ | ⟨ho, hsa, -⟩
    · rw [hno] at hr'; cases hr'
    · exact absurd (hsa.symm.trans hr') ho

theorem knows_next (e : KeyEvent) (h : Knows bindings es (exec next (start bindings) es)) :
    Knows bindings (es ++ [e]) (next (exec next (start bindings) es) e) := by
  cases e with
  | pointerButton pressed =>
    exact knows_of_chord h (notePointerButton_chord _ pressed) (fun _ _ => Iff.rfl) Iff.rfl
  | key keycode pressed locked answer =>
    cases hlo : logoModifier keycode with
    | some bit =>
      cases pressed with
      | true => exact knows_press hlo locked answer h
      | false => exact knows_release hlo locked answer h
    | none =>
      refine knows_of_chord h (intercept_chord hlo _ pressed locked answer) (fun k hk => ?_) ?_
      · have hne : k ≠ keycode := by
          rintro rfl; exact hk hlo
        exact mem_down_next pressed locked answer hne
      · cases pressed with
        | true => exact ⟨fun _ => rfl, fun _ => hlo⟩
        | false => exact ⟨fun hd => absurd hlo hd.1, fun hf => by cases hf⟩

theorem knows_run (bindings : List CompiledShortcut) (es : List KeyEvent) :
    Knows bindings es (exec next (start bindings) es) := by
  induction es using List.reverseRecOn with
  | nil => exact knows_start bindings
  | append_singleton es e ih =>
    rw [exec_snoc]; exact knows_next e ih

/-! ## The tap -/

theorem target_ne_consume (tgt : ShortcutTarget) : tgt.disposition ≠ .consume := by
  cases tgt with
  | denialAction action => cases action <;> exact fun h => by cases h
  | spawn cmd desktopFileId => exact fun h => by cases h
  | spawnSh cmd => exact fun h => by cases h

theorem tapDisposition_fires {e : ShortcutEngine} :
    (∃ target, e.modifierTapTarget .super = some target ∧ e.tapDisposition = target.disposition) ↔
      e.modifierTapTarget .super ≠ none ∧ e.logoChorded = false := by
  unfold tapDisposition
  cases e.modifierTapTarget .super with
  | none => exact ⟨fun h => (by obtain ⟨_, h, -⟩ := h; cases h), fun h => absurd rfl h.1⟩
  | some target =>
    dsimp only
    cases e.logoChorded with
    | true => exact ⟨fun h => (by obtain ⟨_, -, h⟩ := h; exact absurd h.symm (target_ne_consume _)), fun h => by cases h.2⟩
    | false => exact ⟨fun _ => ⟨fun h => (by cases h), rfl⟩, fun _ => ⟨target, rfl, rfl⟩⟩

theorem release_fires {e : ShortcutEngine} :
    (∃ target, e.modifierTapTarget .super = some target ∧ (e.observeLogo bit false).2 = target.disposition) ↔
      e.modifierTapTarget .super ≠ none ∧ e.logoChorded = false ∧ e.logoKeys &&& ~~~bit = 0 ∧
        e.windowSwitcherRelease ≠ some (.modifier .super) := by
  rcases (observeLogo_release e bit).1 with ⟨ho, -, he⟩ | ⟨ho, -, hd⟩
  · rw [he]
    refine ⟨fun ⟨target, _, h⟩ => ?_, fun h => absurd ho h.2.2.2⟩
    have hn := target_not_end target
    rw [← h] at hn; cases hn
  rw [hd]; split
  · rename_i hz; rw [tapDisposition_fires]
    exact ⟨fun h => ⟨h.1, h.2, hz, ho⟩, fun h => ⟨h.1, h.2.1⟩⟩
  · rename_i hno
    exact ⟨fun ⟨_, _, h⟩ => absurd h.symm (target_ne_consume _), fun h => absurd h.2.2.1 hno⟩

/-- Over every sequence of keys and pointer buttons: a Super key gives the action of the tap exactly when it is
released, leaves no Super key down, and nothing disturbed the chord since its first Super key went down; and while
Super is held there is such a chord. -/
theorem super_tap_fires (bindings : List CompiledShortcut) (es : List KeyEvent) :
    (∀ (keycode : Nat) (pressed locked answer : Bool),
      TapFires (exec next (start bindings) es) keycode pressed ↔
        logoModifier keycode ≠ none ∧ (fromBindings bindings).modifierTapTarget .super ≠ none ∧ pressed = false ∧
          ¬SuperHeld (next (exec next (start bindings) es) (.key keycode pressed locked answer)) ∧
          (∀ before during, es = before ++ during → Stretch next SuperHeld (start bindings) before during →
            ¬Occurs next Disturbs (exec next (start bindings) before) during) ∧
          ¬Disturbs (exec next (start bindings) es) (.key keycode pressed locked answer)) ∧
      (SuperHeld (exec next (start bindings) es) →
        ∃ before during, es = before ++ during ∧ Stretch next SuperHeld (start bindings) before during) := by
  have h := knows_run bindings es
  refine ⟨fun keycode pressed locked answer => ?_, exists_stretch (not_superHeld_start bindings)⟩
  have htap : (exec next (start bindings) es).engine.modifierTapTarget .super =
      (fromBindings bindings).modifierTapTarget .super := by
    unfold modifierTapTarget
    rw [h.compiled]; rfl
  have hquiet : (∀ before during, es = before ++ during → Stretch next SuperHeld (start bindings) before during →
      ¬Occurs next Disturbs (exec next (start bindings) before) during) ↔
        (exec next (start bindings) es).engine.logoChorded = false := by
    rw [← Bool.not_eq_true, h.chorded]
    exact ⟨fun hq ⟨before, during, heq, hstr, hocc⟩ => hq before during heq hstr hocc,
      fun hq before during heq hstr hocc => hq ⟨before, during, heq, hstr, hocc⟩⟩
  rw [hquiet, ← htap]; unfold TapFires
  refine and_congr_right fun hsup => ?_
  obtain ⟨bit, hlog⟩ := Option.ne_none_iff_exists'.1 hsup; rw [observe_logo hlog]
  cases pressed with
  | true => exact ⟨fun ⟨_, _, hd⟩ => absurd hd.symm (target_ne_consume _), fun hr => by cases hr.2.1⟩
  | false =>
    have hhel : SuperHeld (next (exec next (start bindings) es) (.key keycode false locked answer)) ↔
        (exec next (start bindings) es).engine.logoKeys &&& ~~~bit ≠ 0 := by
      have haft := (knows_release hlog locked answer h).held
      rw [show (next (exec next (start bindings) es) (.key keycode false locked answer)).engine.logoKeys =
        (exec next (start bindings) es).engine.logoKeys &&& ~~~bit by
          have hkeys := (intercept_keeps (exec next (start bindings) es).engine keycode false locked answer).2.1
          rw [observe_logo hlog] at hkeys
          exact hkeys.trans (observeLogo_release _ bit).2.2.1] at haft
      exact haft.symm
    rw [hhel, not_not, release_fires]
    constructor
    · rintro ⟨hboun, hchor, hzer, howner⟩
      refine ⟨hboun, rfl, hzer, hchor, fun ⟨_, hend⟩ => ?_⟩; rw [observe_logo hlog] at hend
      rcases (observeLogo_release (exec next (start bindings) es).engine bit).1 with ⟨hown', -⟩ | ⟨-, -, hd⟩
      · exact howner hown'
      · rw [hd, if_pos hzer, tap_not_end] at hend; cases hend
    · rintro ⟨hboun, -, hzer, hchor, hdis⟩
      refine ⟨hboun, hchor, hzer, fun howner => ?_⟩
      rw [h.owns howner] at hchor; cases hchor

end KeySession

end Deniald.Shortcut
