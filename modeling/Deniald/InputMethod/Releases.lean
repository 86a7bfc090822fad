/-
Where the releases of keys go: to the receiver of the press, as long as an input method holds no key when its grab is
taken from it.
-/
import Deniald.InputMethod.Keyboard

namespace Deniald.InputMethod

open Deniald.Lib
open KeyboardSeat

/-- The keyboard, with who was sent the press of each key that is held. -/
structure KeyboardSession where
  seat : KeyboardSeat := {}
  held : Nat → Option Receiver := fun _ => none

namespace KeyboardSession

/-- Who was sent the press of each key, after an event with its deliveries. -/
def pressed (held : Nat → Option Receiver) (deliveries : List Delivery) : KeyboardEvent → Nat → Option Receiver
  | .key e =>
    match e.state with
    | .pressed => Function.update held e.code (receivers deliveries).head?
    | .released => Function.update held e.code none
  | _ => held

def next (t : KeyboardSession) (e : KeyboardEvent) : KeyboardSession :=
  let (seat, deliveries) := t.seat.handle e
  { seat, held := pressed t.held deliveries e }

def Alternate (t : KeyboardSession) : KeyboardEvent → Prop
  | .key e =>
    match e.state with
    | .pressed => t.held e.code = none
    | .released => t.held e.code ≠ none
  | _ => True

instance (t : KeyboardSession) : ∀ e, Decidable (t.Alternate e)
  | .key ⟨code, .pressed, _, _, _⟩ => inferInstanceAs (Decidable (t.held code = none))
  | .key ⟨code, .released, _, _, _⟩ => inferInstanceAs (Decidable (t.held code ≠ none))
  | .install .. | .destroyed _ | .disconnected _ | .setActive _ | .virtualKey _ => .isTrue trivial

/-- The release of a key is sent to the receiver of its press; or to nobody, if that is an input method that is gone. -/
def Routed (t : KeyboardSession) : KeyboardEvent → Prop
  | .key e =>
    e.state = .released → ∀ receiver, t.held e.code = some receiver →
      receivers (t.seat.handle (.key e)).2 = [receiver] ∨
        receivers (t.seat.handle (.key e)).2 = [] ∧ ∃ owner ∈ t.seat.gone, receiver = .inputMethod owner
  | _ => True

/-- No key is held that the input method was sent when the seat's grab is destroyed, or replaced by one of another input
method. -/
def Yields (t : KeyboardSession) : KeyboardEvent → Prop
  | .install _ owner current _ =>
    t.seat.accepts owner current = true → ∀ resource, t.seat.route.resource = some resource →
      resource.owner ≠ owner → t.seat.route.inputMethodKeys = ∅
  | .destroyed resource =>
    resource.accepted = true → resource.grabSerial.isSome = true → t.seat.grab = resource.grabSerial →
      t.seat.route.inputMethodKeys = ∅
  | _ => True

structure Consistent (t : KeyboardSession) : Prop where
  held : ∀ code owner, t.held code = some (.inputMethod owner) → code ∈ t.seat.route.inputMethodKeys ∧
    t.seat.grab.isSome = true ∧ ∃ resource, t.seat.route.resource = some resource ∧ resource.owner = owner
  keys : ∀ code ∈ t.seat.route.inputMethodKeys, ∃ owner, t.held code = some (.inputMethod owner)
  granted : ∀ resource, t.seat.route.resource = some resource → resource.accepted = true ∧
    resource.grabSerial.isSome = true ∧ (t.seat.grab = none ∨ t.seat.grab = resource.grabSerial)

theorem consistent_start : Consistent {} :=
  ⟨fun _ _ h => (nomatch h), fun _ h => (nomatch Finset.notMem_empty _ h), fun _ h => (nomatch h)⟩

/-! ## Steps -/

variable {t : KeyboardSession}

theorem consistent_install (h : t.Consistent) {id owner : Nat} {current : Bool} {ser : UInt32}
    (hy : t.Yields (.install id owner current ser)) : (t.next (.install id owner current ser)).Consistent := by
  show Consistent ⟨t.seat.install id owner current ser, t.held⟩; unfold install
  split
  · rename_i hac
    refine ⟨fun code o' hd => ?_, h.keys, fun resource hr => ?_⟩
    · obtain ⟨hmem, -, resource, hr, rfl⟩ := h.held code o' hd
      refine ⟨hmem, rfl, _, rfl, ?_⟩
      by_contra ho
      have he := hy hac resource hr (Ne.symm ho)
      rw [he] at hmem; exact Finset.notMem_empty code hmem
    · cases hr; exact ⟨rfl, rfl, .inr rfl⟩
  · exact h

theorem Consistent.free (h : t.Consistent) (he : t.seat.route.inputMethodKeys = ∅) (code owner : Nat) :
    t.held code ≠ some (.inputMethod owner) := by
  intro hd; have := (h.held code owner hd).1
  rw [he] at this; exact Finset.notMem_empty code this

theorem consistent_destroyed (h : t.Consistent) {res : KeyboardGrabResource}
    (hy : t.Yields (.destroyed res)) : (t.next (.destroyed res)).Consistent := by
  show Consistent ⟨t.seat.destroyed res, t.held⟩; unfold destroyed
  split
  · exact h
  rename_i hac; rw [Bool.not_eq_true', Bool.not_eq_false] at hac
  have hk : (t.seat.route.remove res).inputMethodKeys = t.seat.route.inputMethodKeys := by
    unfold KeyboardRouteState.remove
    split <;> rfl
  have hre {r : KeyboardGrabResource} (hr : (t.seat.route.remove res).resource = some r) :
      t.seat.route.resource = some r := by
    unfold KeyboardRouteState.remove at hr; split at hr
    · cases hr
    · exact hr
  split
  · rename_i hgr
    have he := hy hac hgr.1 hgr.2
    refine ⟨fun code owner hd => absurd hd (h.free he code owner), fun code hd => ?_, fun r hr => ?_⟩
    · exact h.keys code (hk ▸ hd)
    · obtain ⟨ha', hs, -⟩ := h.granted r (hre hr); exact ⟨ha', hs, .inl rfl⟩
  · rename_i hgr
    refine ⟨fun code owner hd => ?_, fun code hd => h.keys code (hk ▸ hd), fun r hr =>
      h.granted r (hre hr)⟩
    obtain ⟨hmem, hm, r, hr, ho⟩ := h.held code owner hd
    refine ⟨hk.symm ▸ hmem, hm, r, ?_, ho⟩; unfold KeyboardRouteState.remove
    rw [if_neg fun heq => ?_]
    · exact hr
    · -- The route's own object has the seat's grab, which then is removed with it.
      obtain rfl := Option.some.inj (heq.symm.trans hr)
      obtain ⟨-, hs, hn | hg'⟩ := h.granted res heq
      · rw [hn] at hm; cases hm
      · exact hgr ⟨hs, hg'⟩

theorem Consistent.update (h : t.Consistent) {code : Nat} {r : Option Receiver} {keys : Finset Nat}
    (ho : ∀ c, c ≠ code → (c ∈ keys ↔ c ∈ t.seat.route.inputMethodKeys))
    (hd : (code ∈ keys ∧ t.seat.grab.isSome = true ∧ ∃ resource, t.seat.route.resource = some resource ∧
        r = some (.inputMethod resource.owner)) ∨
      (code ∉ keys ∧ ∀ owner, r ≠ some (.inputMethod owner))) :
    Consistent ⟨{ t.seat with route := { t.seat.route with inputMethodKeys := keys } },
      Function.update t.held code r⟩ := by
  refine ⟨fun c owner hc => ?_, fun c hc => ?_, h.granted⟩
  · dsimp only at hc ⊢
    by_cases heq : c = code
    · subst heq; rw [Function.update_self] at hc
      obtain ⟨hmem, hm, resource, hs, hrec⟩ | ⟨-, hn⟩ := hd
      · refine ⟨hmem, hm, resource, hs, ?_⟩; rw [hrec] at hc
        cases hc; rfl
      · exact absurd hc (hn owner)
    · rw [Function.update_of_ne heq] at hc
      obtain ⟨hmem, hr⟩ := h.held c owner hc; exact ⟨(ho c heq).2 hmem, hr⟩
  · dsimp only at hc ⊢
    by_cases heq : c = code
    · subst heq; rw [Function.update_self]
      obtain ⟨-, -, resource, -, hrec⟩ | ⟨hn, -⟩ := hd
      · exact ⟨resource.owner, hrec⟩
      · exact absurd hc hn
    · rw [Function.update_of_ne heq]; exact h.keys c ((ho c heq).1 hc)

theorem consistent_pressed (h : t.Consistent) {e : KeyEvent} (hs : e.state = .pressed)
    (hw : t.held e.code = none) : (t.next (.key e)).Consistent := by
  have hf : e.code ∉ t.seat.route.inputMethodKeys := by
    intro hmem
    obtain ⟨owner, ho⟩ := h.keys e.code hmem
    rw [hw] at ho; cases ho
  show Consistent ⟨(t.seat.input false e).1, pressed t.held (t.seat.input false e).2 (.key e)⟩; unfold pressed
  dsimp only
  rw [input_pressed _ hs, hs]; dsimp only
  split
  · rename_i hr
    obtain ⟨resource, hre⟩ := Option.isSome_iff_exists.1 hr.2.2
    obtain ⟨hn, -⟩ := Option.filter_eq_some_iff.1 hre
    refine h.update (fun c hc => ?_) (.inl ⟨Finset.mem_insert_self _ _, hr.1, resource, hn, ?_⟩)
    · rw [Finset.mem_insert]; exact or_iff_right hc
    · dsimp only
      rw [receivers_toInputMethod, hre]; rfl
  · exact h.update (fun _ _ => Iff.rfl) (.inr ⟨hf, fun owner => nofun⟩)

theorem consistent_released (h : t.Consistent) {e : KeyEvent} (hs : e.state = .released) :
    (t.next (.key e)).Consistent := by
  show Consistent ⟨(t.seat.input false e).1, pressed t.held (t.seat.input false e).2 (.key e)⟩; unfold pressed
  dsimp only
  rw [input_released _ hs, hs]; dsimp only
  split
  · refine h.update (fun c hc => ?_) (.inr ⟨Finset.notMem_erase _ _, fun owner heq => (nomatch heq)⟩)
    rw [Finset.mem_erase]; exact and_iff_right hc
  rename_i hr
  refine h.update (fun _ _ => Iff.rfl) (.inr ⟨fun hmem => hr ⟨?_, hmem⟩, fun owner heq => (nomatch heq)⟩)
  obtain ⟨owner, ho⟩ := h.keys e.code hmem; exact (h.held e.code owner ho).2.1

theorem consistent_virtualKey (h : t.Consistent) (e : KeyEvent) : (t.next (.virtualKey e)).Consistent := by
  show Consistent ⟨(t.seat.input true e).1, t.held⟩; unfold input
  split <;> exact h

theorem consistent_next (h : t.Consistent) {e : KeyboardEvent} (hal : t.Alternate e) (hy : t.Yields e) :
    (t.next e).Consistent := by
  cases e with
  | install id owner current ser => exact consistent_install h hy
  | destroyed res => exact consistent_destroyed h hy
  | disconnected owner => exact ⟨h.held, h.keys, h.granted⟩
  | setActive a => exact ⟨h.held, h.keys, h.granted⟩
  | key e =>
    cases hs : e.state with
    | pressed =>
      refine consistent_pressed h hs ?_
      simp only [Alternate, hs] at hal; exact hal
    | released => exact consistent_released h hs
  | virtualKey e => exact consistent_virtualKey h e

/-! ## Releases -/

theorem routed_next (h : t.Consistent) (e : KeyboardEvent) : t.Routed e := by
  cases e with
  | key e =>
    intro hs r hh
    show receivers (t.seat.input false e).2 = [r] ∨ receivers (t.seat.input false e).2 = [] ∧ _
    rw [input_released _ hs]
    cases r with
    | client =>
      rw [if_neg fun hr => ?_]
      · exact .inl rfl
      · obtain ⟨owner, ho⟩ := h.keys e.code hr.2
        rw [hh] at ho; cases ho
    | inputMethod owner =>
      obtain ⟨hmem, hm, resource, hre, rfl⟩ := h.held e.code owner hh; rw [if_pos ⟨hm, hmem⟩]
      dsimp only; rw [receivers_toInputMethod, hre]
      by_cases hn : resource.owner ∈ t.seat.gone
      · refine .inr ⟨?_, resource.owner, hn, rfl⟩
        rw [Option.filter_some_neg (by simpa using hn)]; rfl
      · refine .inl ?_
        rw [Option.filter_some_pos (by simpa using hn)]; rfl
  | install | destroyed | disconnected | setActive | virtualKey => trivial

theorem strays_of_not_yields (h : t.Consistent) {e : KeyboardEvent} (hy : ¬t.Yields e) :
    ∃ code, (t.next e).Alternate (.key { code, state := .released }) ∧
      ¬(t.next e).Routed (.key { code, state := .released }) := by
  have hw {code : Nat} (hmem : code ∈ t.seat.route.inputMethodKeys) : ∃ resource,
      t.seat.route.resource = some resource ∧ t.held code = some (.inputMethod resource.owner) := by
    obtain ⟨owner, ho⟩ := h.keys code hmem
    obtain ⟨-, -, resource, hs, rfl⟩ := h.held code owner ho; exact ⟨resource, hs, ho⟩
  cases e with
  | install id owner current ser =>
    simp only [Yields, not_forall] at hy
    obtain ⟨hac, resource, hs, hh, hk⟩ := hy
    obtain ⟨code, hmem⟩ := Finset.nonempty_iff_ne_empty.2 hk
    obtain ⟨res', hr', ho⟩ := hw hmem
    obtain rfl := Option.some.inj (hs.symm.trans hr')
    have hne : t.next (.install id owner current ser) = ⟨{ t.seat with
        route := t.seat.route.install ⟨id, owner, true, some ser⟩, grab := some ser }, t.held⟩ := by
      show KeyboardSession.mk (t.seat.install id owner current ser) t.held = _; unfold install
      rw [if_pos hac]
    rw [hne]
    refine ⟨code, ?_, fun hr => ?_⟩
    · show t.held code ≠ none
      rw [ho]; exact nofun
    · have hv : owner ∉ t.seat.gone := by simpa using (Bool.and_eq_true_iff.1 hac).2
      have hrec : receivers (input { t.seat with
          route := t.seat.route.install ⟨id, owner, true, some ser⟩, grab := some ser } false
            { code, state := .released }).2 = [.inputMethod owner] := by
        rw [input_released _ rfl, if_pos ⟨rfl, hmem⟩]; dsimp only
        rw [receivers_toInputMethod]; unfold KeyboardRouteState.install
        rw [Option.filter_some_pos (by simpa using hv)]; rfl
      obtain hm | ⟨hn, -⟩ := hr rfl _ ho
      · exact hh (Receiver.inputMethod.inj (List.singleton_inj.1 (hm.symm.trans hrec)))
      · cases hn.symm.trans hrec
  | destroyed resource =>
    simp only [Yields, not_forall] at hy
    obtain ⟨hae, hse, hgr, hk⟩ := hy
    obtain ⟨code, hmem⟩ := Finset.nonempty_iff_ne_empty.2 hk
    obtain ⟨res', -, ho⟩ := hw hmem
    have hu : (t.next (.destroyed resource)).seat.grab = none := by
      show (t.seat.destroyed resource).grab = none; unfold destroyed
      rw [hae]; exact if_pos ⟨hse, hgr⟩
    refine ⟨code, ?_, fun hr => ?_⟩
    · show t.held code ≠ none
      rw [ho]; exact nofun
    · have hrec : receivers ((t.next (.destroyed resource)).seat.input false { code, state := .released }).2 =
          [.client] := by
        rw [input_released _ rfl, hu, if_neg fun h => Bool.false_ne_true h.1]; rfl
      obtain hm | ⟨hn, -⟩ := hr rfl _ ho
      · cases hm.symm.trans hrec
      · cases hn.symm.trans hrec
  | disconnected | setActive | key | virtualKey => exact absurd trivial hy

/-! ## Runs -/

/-- In a run whose grabs are taken from an input method only while it holds no key, the release of every key goes to the
receiver of its press. The first event of a run that does otherwise can be followed by a release that does not. -/
theorem releases_follow_presses {es : List KeyboardEvent} (halternate : Along next Alternate {} es) :
    (Along next Yields {} es → Along next Routed {} es) ∧
      ∀ before e after, es = before ++ e :: after → Along next Yields {} before → ¬(exec next {} before).Yields e →
        ∃ code, (exec next {} (before ++ [e])).Alternate (.key { code, state := .released }) ∧
          ¬(exec next {} (before ++ [e])).Routed (.key { code, state := .released }) := by
  constructor
  · intro hyiel
    exact (halternate.and hyiel).of_invariant (I := Consistent) (fun _ _ h hg => consistent_next h hg.1 hg.2)
      (fun _ e h _ => routed_next h e) consistent_start
  · intro before e after heq hyiel hnot; rw [heq] at halternate
    have hcon : Consistent (exec next {} before) :=
      exec_invariant_along (I := Consistent) (fun _ _ h hg => consistent_next h hg.1 hg.2) consistent_start
        ((along_append.1 halternate).1.and hyiel)
    rw [exec_snoc]; exact strays_of_not_yields hcon hnot

/-- An input method is sent a press, and then deactivated; its key is still its own. -/
def deactivates : List KeyboardEvent :=
  [.install 1 1 true 7, .setActive true, .key { code := 30, state := .pressed }, .setActive false,
    .key { code := 30, state := .released }]

theorem releases_follow_presses_deactivated : Along next Routed {} deactivates :=
  (releases_follow_presses (show Along next Alternate {} deactivates by decide)).1
    ⟨nofun, trivial, trivial, trivial, trivial, trivial⟩

/-- An input method disconnects while a key is held that it was sent. -/
def disconnects : List KeyboardEvent :=
  [.install 1 1 true 7, .setActive true, .key { code := 30, state := .pressed }, .disconnected 1,
    .destroyed ⟨1, 1, true, some 7⟩, .key { code := 30, state := .released }]

/-- The key, pressed again for the client, is released for the next input method. -/
theorem key_stuck : Along next Alternate {} (disconnects ++ [.key { code := 30, state := .pressed },
    .install 2 2 true 8, .key { code := 30, state := .released }]) ∧
      ¬Along next Routed {} (disconnects ++ [.key { code := 30, state := .pressed },
        .install 2 2 true 8, .key { code := 30, state := .released }]) := by
  constructor
  · decide
  · intro h
    obtain hclien | ⟨hnon, -⟩ := (along_append.1 h).2.2.2.1 rfl .client (by decide)
    · exact absurd hclien (by decide)
    · exact absurd hnon (by decide)

end KeyboardSession

end Deniald.InputMethod
