/-
Trees of layers: every node has children below it and children above it, and a traversal from the lowest layer to the
highest meets a node between the two. On the way down a traversal carries a context, which a node may change for its
children, or withhold from them; then they are not met.
-/
import Mathlib.Data.List.Sublists

namespace Deniald.Lib

inductive LayeredTree (α : Type) where
  | node (value : α) (below above : List (LayeredTree α))

namespace LayeredTree

variable {α γ δ : Type}

def value : LayeredTree α → α
  | node value _ _ => value

/-! ## Layers -/

mutual

def layers : LayeredTree α → List α
  | node value below above => layersAll below ++ value :: layersAll above

def layersAll : List (LayeredTree α) → List α
  | [] => []
  | t :: ts => t.layers ++ layersAll ts

end

/-! ## Traversals -/

section Visits

variable (enter : γ → α → Option γ)

mutual

def visits (context : γ) : LayeredTree α → List (α × γ)
  | node value below above =>
    match enter context value with
    | none => [(value, context)]
    | some inner => visitsAll inner below ++ (value, context) :: visitsAll inner above

def visitsAll (context : γ) : List (LayeredTree α) → List (α × γ)
  | [] => []
  | t :: ts => visits context t ++ visitsAll context ts

end

variable {enter}

mutual

theorem visits_sublist (ctx : γ) : ∀ t : LayeredTree α, ((visits enter ctx t).map Prod.fst).Sublist t.layers
  | node value b a => by
    unfold visits layers; split
    · exact (List.nil_sublist _).append ((List.nil_sublist _).cons_cons value)
    · rename_i inner _; rw [List.map_append, List.map_cons]
      exact (visitsAll_sublist inner b).append ((visitsAll_sublist inner a).cons_cons value)

theorem visitsAll_sublist (ctx : γ) : ∀ ts : List (LayeredTree α),
    ((visitsAll enter ctx ts).map Prod.fst).Sublist (layersAll ts)
  | [] => .slnil
  | t :: ts => by
    unfold visitsAll layersAll; rw [List.map_append]
    exact (visits_sublist ctx t).append (visitsAll_sublist ctx ts)

end

mutual

theorem visits_cases (ctx : γ) : ∀ (t : LayeredTree α) {visit : α × γ}, visit ∈ visits enter ctx t →
    visit = (t.value, ctx) ∨ ∃ parent ∈ visits enter ctx t, enter parent.2 parent.1 = some visit.2
  | node value below above, visit, h => by
    unfold visits at h ⊢
    cases he : enter ctx value with
    | none =>
      rw [he] at h; exact .inl (List.mem_singleton.1 h)
    | some inner =>
      simp only [he, List.mem_append, List.mem_cons] at h ⊢
      rcases h with h | rfl | h
      · rcases visitsAll_cases inner below h with hr | ⟨parent, hpa, hn⟩
        · exact .inr ⟨(value, ctx), .inr (.inl rfl), by rw [hr]; exact he⟩
        · exact .inr ⟨parent, .inl hpa, hn⟩
      · exact .inl rfl
      rcases visitsAll_cases inner above h with hr | ⟨parent, hpa, hn⟩
      · exact .inr ⟨(value, ctx), .inr (.inl rfl), by rw [hr]; exact he⟩
      · exact .inr ⟨parent, .inr (.inr hpa), hn⟩

theorem visitsAll_cases (ctx : γ) : ∀ (ts : List (LayeredTree α)) {visit : α × γ},
    visit ∈ visitsAll enter ctx ts →
      visit.2 = ctx ∨ ∃ parent ∈ visitsAll enter ctx ts, enter parent.2 parent.1 = some visit.2
  | t :: ts, visit, h => by
    unfold visitsAll at h ⊢
    simp only [List.mem_append] at h ⊢
    rcases h with h | h
    · rcases visits_cases ctx t h with rfl | ⟨parent, hr, hn⟩
      · exact .inl rfl
      · exact .inr ⟨parent, .inl hr, hn⟩
    rcases visitsAll_cases ctx ts h with hco | ⟨parent, hr, hn⟩
    · exact .inl hco
    · exact .inr ⟨parent, .inr hr, hn⟩

end

mutual

variable {enter' : δ → α → Option δ}

theorem visits_map {f : γ → δ} (h : ∀ c v, (enter c v).map f = enter' (f c) v) (ctx : γ) :
    ∀ t : LayeredTree α, (visits enter ctx t).map (fun visit => (visit.1, f visit.2)) = visits enter' (f ctx) t
  | node value b a => by
    have hv := h ctx value; unfold visits
    cases he : enter ctx value with
    | none =>
      rw [he, Option.map_none] at hv
      rw [← hv]; rfl
    | some inner =>
      rw [he, Option.map_some] at hv
      rw [← hv, List.map_append, List.map_cons, visitsAll_map h inner b, visitsAll_map h inner a]

theorem visitsAll_map {f : γ → δ} (h : ∀ c v, (enter c v).map f = enter' (f c) v) (ctx : γ) :
    ∀ ts : List (LayeredTree α),
      (visitsAll enter ctx ts).map (fun visit => (visit.1, f visit.2)) = visitsAll enter' (f ctx) ts
  | [] => rfl
  | t :: ts => by
    unfold visitsAll
    rw [List.map_append, visits_map h ctx t, visitsAll_map h ctx ts]

end

end Visits

/-! ## Parents -/

/-- What a traversal that enters the children of some values meets, each with the parent it is met from. -/
def links (entered : α → Bool) (t : LayeredTree α) : List (α × Option α) :=
  visits (fun _ v => if entered v then some (some v) else none) none t

variable {entered : α → Bool} {inner : γ → α → γ}

variable {visit : α × γ × Option α}

end LayeredTree

end Deniald.Lib
