/-
Runs of a deterministic machine `next : σ → ε → σ`, all of whose nondeterminism is in its events:
the state after a list of events, what a step lemma gives for every run (`exec_invariant`), for
every run whose steps all meet a guard (`exec_invariant_along`), and for the pair of the first and
the last state (`exec_rel`). What a run did since something last happened is `Since`, what it showed on the way
is its `trace`, and an invariant of the state together with the run so far is `exec_history`.
-/
import Mathlib.Data.List.Induction

namespace Deniald.Lib

universe u v

variable {σ : Type u} {ε : Type v} (next : σ → ε → σ)

/-- The state after a run. -/
def exec (s : σ) (es : List ε) : σ := es.foldl next s

/-- Every step of the run from `s` is taken in a state where its guard holds. -/
def Along (G : σ → ε → Prop) : σ → List ε → Prop
  | _, [] => True
  | s, e :: es => G s e ∧ Along G (next s e) es

@[simp] theorem exec_nil (s : σ) : exec next s [] = s := rfl

@[simp] theorem exec_cons (s : σ) (e : ε) (es : List ε) : exec next s (e :: es) = exec next (next s e) es := rfl

theorem exec_append (s : σ) (es fs : List ε) : exec next s (es ++ fs) = exec next (exec next s es) fs :=
  List.foldl_append

variable {next}

instance decidableAlong {G : σ → ε → Prop} [∀ s e, Decidable (G s e)] : ∀ (s : σ) (es : List ε),
    Decidable (Along next G s es)
  | _, [] => inferInstanceAs (Decidable True)
  | s, e :: es =>
    have := decidableAlong (G := G) (next s e) es
    inferInstanceAs (Decidable (G s e ∧ Along next G (next s e) es))

variable {G H : σ → ε → Prop} {I : σ → Prop}

theorem along_append : ∀ {s : σ} {es fs : List ε},
    Along next G s (es ++ fs) ↔ Along next G s es ∧ Along next G (exec next s es) fs
  | _, [], _ => by simp [Along]
  | s, e :: es, fs => by
    simp only [List.cons_append, Along, exec_cons]; rw [along_append, and_assoc]

theorem Along.mono (h : ∀ s e, G s e → H s e) :
    ∀ {s : σ} {es : List ε}, Along next G s es → Along next H s es
  | _, [], _ => trivial
  | _, _ :: _, ⟨hg, hr⟩ => ⟨h _ _ hg, hr.mono h⟩

theorem Along.and : ∀ {s : σ} {es : List ε}, Along next G s es → Along next H s es →
    Along next (fun s e => G s e ∧ H s e) s es
  | _, [], _, _ => trivial
  | _, _ :: _, ⟨hg, hr⟩, ⟨hh, hr'⟩ => ⟨⟨hg, hh⟩, hr.and hr'⟩

theorem along_of_forall {P : ε → Prop} : ∀ {s : σ} {es : List ε}, (∀ e ∈ es, P e) → Along next (fun _ e => P e) s es
  | _, [], _ => trivial
  | _, e :: _, h => ⟨h e (List.mem_cons_self ..), along_of_forall fun e he => h e (List.mem_cons_of_mem _ he)⟩

/-! ## Invariants -/

theorem exec_invariant (step : ∀ s e, I s → I (next s e)) :
    ∀ {s : σ} (es : List ε), I s → I (exec next s es)
  | _, [], h => h
  | s, e :: es, h => exec_invariant step es (step s e h)

theorem exec_invariant_along (step : ∀ s e, I s → G s e → I (next s e)) :
    ∀ {s : σ} {es : List ε}, I s → Along next G s es → I (exec next s es)
  | _, [], h, _ => h
  | s, e :: es, h, ⟨hg, hr⟩ => by
    have := exec_invariant_along step (step s e h hg) hr
    exact this

theorem Along.of_invariant (step : ∀ s e, I s → G s e → I (next s e)) (holds : ∀ s e, I s → G s e → H s e) :
    ∀ {s : σ} {es : List ε}, I s → Along next G s es → Along next H s es
  | _, [], _, _ => trivial
  | s, e :: _, h, ⟨hg, hr⟩ => ⟨holds s e h hg, Along.of_invariant step holds (step s e h hg) hr⟩

theorem along_iff_invariant (step : ∀ s e, I s → (I (next s e) ↔ G s e)) :
    ∀ {s : σ} {es : List ε}, I s → (Along next G s es ↔ Along next (fun s e => I (next s e)) s es)
  | _, [], _ => Iff.rfl
  | s, e :: es, h => by
    constructor
    · rintro ⟨hg, hr⟩
      have hi := (step s e h).2 hg; exact ⟨hi, (along_iff_invariant step hi).1 hr⟩
    · rintro ⟨hi, hr⟩
      exact ⟨(step s e h).1 hi, (along_iff_invariant step hi).2 hr⟩

theorem exec_simulation {τ : Type u} {next' : τ → ε → τ} {R : σ → τ → Prop}
    (step : ∀ s t e, R s t → R (next s e) (next' t e)) :
    ∀ {s : σ} {t : τ} (es : List ε), R s t → R (exec next s es) (exec next' t es)
  | _, _, [], h => h
  | s, t, e :: es, h => exec_simulation step es (step s t e h)

theorem exec_rel {R : σ → σ → Prop} (refl : ∀ s, R s s) (trans : ∀ a b c, R a b → R b c → R a c)
    (step : ∀ s e, R s (next s e)) : ∀ (s : σ) (es : List ε), R s (exec next s es)
  | s, [] => refl s
  | s, e :: es => trans _ _ _ (step s e) (exec_rel refl trans step (next s e) es)

/-! ## Histories -/

variable (next) in
/-- Some step of the run did `A`, and no later one did `R`. -/
def Since (A R : σ → ε → Prop) (s : σ) (es : List ε) : Prop :=
  ∃ before e after, es = before ++ e :: after ∧ A (exec next s before) e ∧
    Along next (fun s e => ¬R s e) (exec next s (before ++ [e])) after

theorem exec_snoc (s : σ) (es : List ε) (e : ε) : exec next s (es ++ [e]) = next (exec next s es) e :=
  exec_append next s es [e]

theorem since_nil {A R : σ → ε → Prop} {s : σ} : ¬Since next A R s [] := by
  rintro ⟨before, e, after, h, -, -⟩
  cases before <;> cases h

theorem since_snoc {A R : σ → ε → Prop} {s : σ} {es : List ε} {e : ε} :
    Since next A R s (es ++ [e]) ↔ A (exec next s es) e ∨ Since next A R s es ∧ ¬R (exec next s es) e := by
  constructor
  · rintro ⟨before, e', after, heq, ha, hr⟩
    rcases List.eq_nil_or_concat after with rfl | ⟨after, last, rfl⟩
    · obtain ⟨rfl, hs⟩ := List.append_inj' heq rfl
      obtain rfl := List.head_eq_of_cons_eq hs; exact .inl ha
    rw [List.concat_eq_append] at heq hr
    have heq : es ++ [e] = (before ++ e' :: after) ++ [last] := by rw [heq, List.append_assoc, List.cons_append]
    obtain ⟨rfl, hs⟩ := List.append_inj' heq rfl
    obtain rfl := List.head_eq_of_cons_eq hs
    obtain ⟨hf, hs, -⟩ := along_append.1 hr
    refine .inr ⟨⟨before, e', after, rfl, ha, hf⟩, ?_⟩
    rwa [← exec_append, List.append_assoc, List.singleton_append] at hs
  · rintro (ha | ⟨⟨before, e', after, rfl, ha, hr⟩, hs⟩)
    · exact ⟨es, e, [], rfl, ha, trivial⟩
    · refine ⟨before, e', after ++ [e], by rw [List.append_assoc, List.cons_append], ha, ?_⟩
      refine along_append.2 ⟨hr, ?_, trivial⟩
      rwa [← exec_append, List.append_assoc, List.singleton_append]

variable (next) in
/-- What the steps of a run show, in their order. -/
def trace {α : Type*} (f : σ → ε → Option α) : σ → List ε → List α
  | _, [] => []
  | s, e :: es => (f s e).toList ++ trace f (next s e) es

theorem trace_snoc {α : Type*} {f : σ → ε → Option α} {e : ε} : ∀ {s : σ} {es : List ε},
    trace next f s (es ++ [e]) = trace next f s es ++ (f (exec next s es) e).toList
  | _, [] => by simp [trace]
  | s, e' :: es => by rw [List.cons_append, trace, trace_snoc, trace, List.append_assoc, exec_cons]

theorem exec_history {I : List ε → σ → Prop} {s : σ} (start : I [] s)
    (step : ∀ es e, I es (exec next s es) → G (exec next s es) e → I (es ++ [e]) (next (exec next s es) e)) :
    ∀ {es : List ε}, Along next G s es → I es (exec next s es) := by
  intro es
  induction es using List.reverseRecOn with
  | nil => exact fun _ => start
  | append_singleton es e ih =>
    intro h
    obtain ⟨hes, he, -⟩ := along_append.1 h
    rw [exec_snoc]; exact step es e (ih hes) he

end Deniald.Lib
