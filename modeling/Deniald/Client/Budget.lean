/-
The budgets of Wayland clients (wayland_frontend/handlers.rs): the global counters of clients and surfaces, and the
reservations each client holds under its lock. An operation takes the counters one atomic step at a time, and any other
operation may come between two of its steps.
-/
import Deniald.Lib.Lists
import Deniald.Lib.Run
import Mathlib.Data.Finset.Card

namespace Deniald.Client

open Deniald.Lib

def maxWaylandClients : Nat := 128

def maxSurfacesPerClient : Nat := 1024

def maxWaylandSurfaces : Nat := 16384

/-! ## Counters -/

/-- `try_reserve`: the counter after it, unless it is at its limit. -/
def tryReserve (counter limit : Nat) : Option Nat := if counter < limit then some (counter + 1) else none

/-- `release`, which saturates. -/
def release (counter amount : Nat) : Nat := counter - amount

/-! ## Clients -/

/-- A registration that holds its client's lock: past the checks of the client, or with the surface reserved. -/
inductive Registration where
  | checked (surface : Nat)
  | reserved (surface : Nat)

structure DenialClientState where
  /-- The client counts against the budget. -/
  budget : Bool
  surfaces : Finset Nat := ∅
  reservationLive : Bool := true
  /-- The registration that holds the lock of the surfaces. -/
  lock : Option Registration := none

/-- What an operation that holds no lock has still to do to the counters. -/
inductive Pending where
  /-- A client has been reserved, and its state is made next. -/
  | accept
  | releaseSurfaces (amount : Nat)
  /-- The surfaces of a client and then the client. -/
  | releaseAll (surfaces : Nat)
  | releaseClient

structure WaylandClientBudget where
  clients : Nat := 0
  surfaces : Nat := 0
  table : List DenialClientState := []
  pending : List Pending := []

inductive BudgetEvent where
  /-- `try_reserve_client`. -/
  | reserveClient
  /-- A client state without a budget. -/
  | defaultClient
  /-- `try_register_surface` takes the lock and checks the client. -/
  | register (client surface : Nat)
  /-- It goes on under the lock: the surface is reserved, then inserted. -/
  | registerNext (client : Nat)
  | unregister (client surface : Nat)
  /-- `release_reservations`, of a disconnection or of the drop. -/
  | releaseReservations (client : Nat)
  /-- The next step of an operation that is past its lock. -/
  | pendingNext (operation : Nat)

namespace DenialClientState

variable (c : DenialClientState)

/-- The checks of `try_register_surface` before it reserves: whether it goes on. -/
def checks (surface : Nat) : Bool :=
  c.reservationLive && surface ∉ c.surfaces && c.surfaces.card < maxSurfacesPerClient

def liveClient : Nat := if c.budget && c.reservationLive then 1 else 0

def liveSurfaces : Nat := if c.budget then c.surfaces.card else 0

def reservedSurface : Nat :=
  match c.lock with
  | some (.reserved _) => if c.budget then 1 else 0
  | _ => 0

end DenialClientState

def Pending.clients : Pending → Nat
  | .accept | .releaseAll _ | .releaseClient => 1
  | .releaseSurfaces _ => 0

def Pending.surfaces : Pending → Nat
  | .releaseSurfaces amount | .releaseAll amount => amount
  | .accept | .releaseClient => 0

namespace WaylandClientBudget

variable (s : WaylandClientBudget)

def setClient (client : Nat) (c : DenialClientState) : WaylandClientBudget := { s with table := s.table.set client c }

def locked (client : Nat) (f : DenialClientState → WaylandClientBudget) : WaylandClientBudget :=
  match s.table[client]? with
  | none => s
  | some c => if c.lock.isSome then s else f c

def register (client surface : Nat) : WaylandClientBudget :=
  s.locked client fun c =>
    if c.checks surface then s.setClient client { c with lock := some (.checked surface) } else s

/-- The surface is reserved where the client has a budget; without one, it is inserted all the same. -/
def reserveSurface (client : Nat) (c : DenialClientState) (surface : Nat) : WaylandClientBudget :=
  if c.budget then
    match tryReserve s.surfaces maxWaylandSurfaces with
    | some surfaces => { s with surfaces := surfaces }.setClient client { c with lock := some (.reserved surface) }
    | none => s.setClient client { c with lock := none }
  else s.setClient client { c with lock := some (.reserved surface) }

def insertSurface (client : Nat) (c : DenialClientState) (surface : Nat) : WaylandClientBudget :=
  if surface ∈ c.surfaces then
    { s with surfaces := if c.budget then release s.surfaces 1 else s.surfaces }.setClient client
    { c with lock := none }
  else s.setClient client { c with surfaces := insert surface c.surfaces, lock := none }

def registerNext (client : Nat) : WaylandClientBudget :=
  match s.table[client]? with
  | none => s
  | some c =>
    match c.lock with
    | none => s
    | some (.checked surface) => s.reserveSurface client c surface
    | some (.reserved surface) => s.insertSurface client c surface

def unregister (client surface : Nat) : WaylandClientBudget :=
  s.locked client fun c =>
    { s with
      pending := if surface ∈ c.surfaces ∧ c.budget then .releaseSurfaces 1 :: s.pending else s.pending }.setClient
      client { c with surfaces := c.surfaces.erase surface }

def releaseReservations (client : Nat) : WaylandClientBudget :=
  s.locked client fun c =>
    if !c.reservationLive then s
    else
      { s with pending := if c.budget then .releaseAll c.surfaces.card :: s.pending else s.pending }.setClient client
        { c with reservationLive := false, surfaces := ∅ }

def pendingNext (operation : Nat) : WaylandClientBudget :=
  match s.pending[operation]? with
  | none => s
  | some .accept => { s with table := s.table ++ [{ budget := true }], pending := s.pending.eraseIdx operation }
  | some (.releaseSurfaces amount) =>
    { s with surfaces := release s.surfaces amount, pending := s.pending.eraseIdx operation }
  | some (.releaseAll surfaces) =>
    { s with surfaces := release s.surfaces surfaces, pending := s.pending.set operation .releaseClient }
  | some .releaseClient => { s with clients := release s.clients 1, pending := s.pending.eraseIdx operation }

def next (s : WaylandClientBudget) : BudgetEvent → WaylandClientBudget
  | .reserveClient =>
    match tryReserve s.clients maxWaylandClients with
    | some clients => { s with clients := clients, pending := .accept :: s.pending }
    | none => s
  | .defaultClient => { s with table := s.table ++ [{ budget := false }] }
  | .register client surface => s.register client surface
  | .registerNext client => s.registerNext client
  | .unregister client surface => s.unregister client surface
  | .releaseReservations client => s.releaseReservations client
  | .pendingNext operation => s.pendingNext operation

def liveClients : Nat := (s.table.map DenialClientState.liveClient).sum

def liveSurfaces : Nat := (s.table.map DenialClientState.liveSurfaces).sum

/-- No operation is midway. -/
def Idle : Prop := s.pending = [] ∧ ∀ c ∈ s.table, c.lock = none

/-! ## The invariant -/

structure Sound (c : DenialClientState) : Prop where
  within : c.surfaces.card ≤ maxSurfacesPerClient
  room : c.lock ≠ none → c.surfaces.card < maxSurfacesPerClient ∧ c.reservationLive = true
  apart : ∀ surface, c.lock = some (.checked surface) ∨ c.lock = some (.reserved surface) → surface ∉ c.surfaces
  returned : c.reservationLive = false → c.surfaces = ∅

/-- The counters are what is reserved and what is on its way back. -/
structure Accounted (s : WaylandClientBudget) : Prop where
  clients : s.clients = s.liveClients + (s.pending.map Pending.clients).sum
  surfaces : s.surfaces = s.liveSurfaces + (s.table.map DenialClientState.reservedSurface).sum +
    (s.pending.map Pending.surfaces).sum
  clientsWithin : s.clients ≤ maxWaylandClients
  surfacesWithin : s.surfaces ≤ maxWaylandSurfaces
  sound : ∀ c ∈ s.table, Sound c

variable {s}

theorem tryReserve_some {cn limit n : Nat} (h : tryReserve cn limit = some n) : n = cn + 1 ∧ cn < limit := by
  unfold tryReserve at h; split at h
  · rename_i hlt; exact ⟨(Option.some.inj h).symm, hlt⟩
  · cases h

theorem sound_new (budget : Bool) : Sound { budget := budget } where
  within := Nat.zero_le _
  room h := absurd rfl h
  apart surface h := by rcases h with h | h <;> cases h
  returned _ := rfl

variable {client : Nat} {c : DenialClientState}

theorem Accounted.set (h : Accounted s) (hc : s.table[client]? = some c) (d : DenialClientState) (hd : Sound d)
    {surfaces : Nat} {pending : List Pending}
    (hn : d.liveClient + (pending.map Pending.clients).sum = c.liveClient + (s.pending.map Pending.clients).sum)
    (hs : surfaces + c.liveSurfaces + c.reservedSurface + (s.pending.map Pending.surfaces).sum =
      s.surfaces + d.liveSurfaces + d.reservedSurface + (pending.map Pending.surfaces).sum)
    (hw : surfaces ≤ maxWaylandSurfaces) :
    Accounted ({ s with surfaces := surfaces, pending := pending }.setClient client d) := by
  have hv := sum_map_set (b := d) DenialClientState.liveClient hc
  have hh := sum_map_set (b := d) DenialClientState.liveSurfaces hc
  have hr := sum_map_set (b := d) DenialClientState.reservedSurface hc
  refine ⟨?_, ?_, h.clientsWithin, hw, fun e he => ?_⟩
  · have := h.clients
    show s.clients = ((s.table.set client d).map _).sum + (pending.map _).sum
    unfold liveClients at this; omega
  · have := h.surfaces
    show surfaces = ((s.table.set client d).map _).sum + ((s.table.set client d).map _).sum + (pending.map _).sum
    unfold liveSurfaces at this; omega
  · rcases List.mem_or_eq_of_mem_set he with he | rfl
    · exact h.sound e he
    · exact hd

theorem locked_cases (client : Nat) (f : DenialClientState → WaylandClientBudget) :
    s.locked client f = s ∨ ∃ c, s.table[client]? = some c ∧ c.lock = none ∧ s.locked client f = f c := by
  unfold locked; split
  · exact .inl rfl
  rename_i c hc; split
  · exact .inl rfl
  · rename_i hlo; exact .inr ⟨c, hc, by simpa using hlo, rfl⟩

/-! ## Steps -/

theorem accounted_register (h : Accounted s) (client surf : Nat) : Accounted (s.register client surf) := by
  unfold register
  rcases locked_cases client fun c =>
    if c.checks surf then s.setClient client { c with lock := some (.checked surf) } else s with
    hs | ⟨c, hc, hlo, hs⟩
  · rw [hs]; exact h
  rw [hs]; split
  · rename_i hh
    have hn := h.sound c (List.mem_of_getElem? hc)
    simp only [DenialClientState.checks, Bool.and_eq_true, decide_eq_true_eq] at hh
    refine h.set hc { c with lock := some (.checked surf) }
      ⟨hn.within, fun _ => ⟨hh.2, hh.1.1⟩, ?_, hn.returned⟩ rfl ?_ h.surfacesWithin
    · rintro other (ho | ho)
      · obtain rfl : surf = other := by injection Option.some.inj ho
        exact hh.1.2
      · cases ho
    · simp [DenialClientState.liveSurfaces, DenialClientState.reservedSurface, hlo]
  · exact h

theorem accounted_reserveSurface (h : Accounted s) (hc : s.table[client]? = some c) {surf : Nat}
    (hlo : c.lock = some (.checked surf)) : Accounted (s.reserveSurface client c surf) := by
  have hs := h.sound c (List.mem_of_getElem? hc)
  have hm := hs.room (by rw [hlo]; exact Option.some_ne_none _)
  have hr : Sound { c with lock := some (.reserved surf) } := by
    refine ⟨hs.within, fun _ => hm, ?_, hs.returned⟩
    rintro other (ho | ho)
    · cases ho
    · obtain rfl : surf = other := by injection Option.some.inj ho
      exact hs.apart surf (.inl hlo)
  unfold reserveSurface; split
  · rename_i hd; split
    · rename_i surfaces hre
      obtain ⟨rfl, hlt⟩ := tryReserve_some hre
      refine h.set hc _ hr rfl ?_ hlt
      simp only [DenialClientState.liveSurfaces, DenialClientState.reservedSurface, hlo, hd, if_true]
      omega
    · refine h.set hc { c with lock := none } ⟨hs.within, fun h => absurd rfl h, ?_, hs.returned⟩ rfl ?_
        h.surfacesWithin
      · rintro other (ho | ho) <;> cases ho
      · simp [DenialClientState.liveSurfaces, DenialClientState.reservedSurface, hlo]
  · rename_i hd
    refine h.set hc _ hr rfl ?_ h.surfacesWithin
    simp [DenialClientState.liveSurfaces, DenialClientState.reservedSurface, hlo, hd]

theorem accounted_insertSurface (h : Accounted s) (hc : s.table[client]? = some c) {surf : Nat}
    (hlo : c.lock = some (.reserved surf)) : Accounted (s.insertSurface client c surf) := by
  have hs := h.sound c (List.mem_of_getElem? hc)
  have hm := hs.room (by rw [hlo]; exact Option.some_ne_none _)
  have hr := hs.apart surf (.inr hlo)
  have hca := Finset.card_insert_of_notMem hr; unfold insertSurface
  rw [if_neg hr]
  refine h.set hc { c with surfaces := insert surf c.surfaces, lock := none }
    ⟨?_, fun h => absurd rfl h, ?_, fun hre => ?_⟩ rfl ?_ h.surfacesWithin
  · show (insert surf c.surfaces).card ≤ _; omega
  · rintro other (ho | ho) <;> cases ho
  · cases hm.2.symm.trans hre
  · simp only [DenialClientState.liveSurfaces, DenialClientState.reservedSurface, hlo]; split
    · omega
    · rfl

theorem accounted_registerNext (h : Accounted s) (client : Nat) : Accounted (s.registerNext client) := by
  unfold registerNext; split
  · exact h
  rename_i c hc; split
  · exact h
  · rename_i surface hlo; exact accounted_reserveSurface h hc hlo
  · rename_i surface hlo; exact accounted_insertSurface h hc hlo

theorem accounted_unregister (h : Accounted s) (client surf : Nat) : Accounted (s.unregister client surf) := by
  unfold unregister
  rcases locked_cases client fun c =>
    { s with
      pending := if surf ∈ c.surfaces ∧ c.budget then .releaseSurfaces 1 :: s.pending else s.pending }.setClient
      client { c with surfaces := c.surfaces.erase surf } with hs | ⟨c, hc, hlo, hs⟩
  · rw [hs]; exact h
  rw [hs]
  have hn := h.sound c (List.mem_of_getElem? hc)
  have hr := Finset.card_erase_le (s := c.surfaces) (a := surf)
  refine h.set hc { c with surfaces := c.surfaces.erase surf }
    ⟨hr.trans hn.within, fun h => absurd hlo h, ?_, fun hre => ?_⟩ ?_ ?_ h.surfacesWithin
  · rintro other (ho | ho) <;> cases hlo.symm.trans ho
  · show c.surfaces.erase surf = ∅
    rw [hn.returned hre]; rfl
  · split <;> simp [DenialClientState.liveClient, Pending.clients]
  · simp only [DenialClientState.liveSurfaces, DenialClientState.reservedSurface, hlo]
    by_cases hmem : surf ∈ c.surfaces
    · have := Finset.card_erase_add_one hmem
      cases hd : c.budget
      · simp
      · simp only [hmem, and_self, if_true, List.map_cons, List.sum_cons, Pending.surfaces]; omega
    · simp [hmem]

theorem accounted_releaseReservations (h : Accounted s) (client : Nat) : Accounted (s.releaseReservations client) := by
  unfold releaseReservations
  rcases locked_cases client fun c =>
    if !c.reservationLive then s
    else
      { s with pending := if c.budget then .releaseAll c.surfaces.card :: s.pending else s.pending }.setClient client
        { c with reservationLive := false, surfaces := ∅ } with hs | ⟨c, hc, hlo, hs⟩
  · rw [hs]; exact h
  rw [hs]; split
  · exact h
  rename_i hv
  have hv : c.reservationLive = true := by simpa using hv
  refine h.set hc { c with reservationLive := false, surfaces := ∅ }
    ⟨Nat.zero_le _, fun h => absurd hlo h, ?_, fun _ => rfl⟩ ?_ ?_ h.surfacesWithin
  · rintro other (ho | ho) <;> cases hlo.symm.trans ho
  · simp only [DenialClientState.liveClient, hv]
    cases hd : c.budget <;> simp [Pending.clients]
  · simp only [DenialClientState.liveSurfaces, DenialClientState.reservedSurface, hlo]
    cases hd : c.budget
    · simp
    · simp only [if_true, List.map_cons, List.sum_cons, Pending.surfaces, Finset.card_empty]; omega

theorem accounted_pendingNext (h : Accounted s) (operation : Nat) : Accounted (s.pendingNext operation) := by
  have hn := h.clients
  have hr := h.surfaces
  have hcw := h.clientsWithin
  have hsw := h.surfacesWithin; unfold pendingNext
  split
  · exact h
  · rename_i hop
    have hc := sum_map_eraseIdx Pending.clients hop
    have hs := sum_map_eraseIdx Pending.surfaces hop
    simp only [Pending.clients, Pending.surfaces] at hc hs
    refine ⟨?_, ?_, hcw, hsw, fun c hmem => ?_⟩
    · show s.clients = ((s.table ++ [({ budget := true } : DenialClientState)]).map _).sum +
        ((s.pending.eraseIdx operation).map _).sum
      simp only [liveClients] at hn
      simp only [List.map_append, List.map_cons, List.map_nil, List.sum_append, List.sum_cons, List.sum_nil,
        DenialClientState.liveClient, Bool.and_self, if_true]
      omega
    · show s.surfaces = ((s.table ++ [({ budget := true } : DenialClientState)]).map _).sum +
        ((s.table ++ [({ budget := true } : DenialClientState)]).map _).sum +
        ((s.pending.eraseIdx operation).map _).sum
      simp only [liveSurfaces] at hr
      simp only [List.map_append, List.map_cons, List.map_nil, List.sum_append, List.sum_cons, List.sum_nil,
        DenialClientState.liveSurfaces, DenialClientState.reservedSurface, Finset.card_empty, if_true]
      omega
    · rcases List.mem_append.1 hmem with hmem | hmem
      · exact h.sound c hmem
      · rw [List.mem_singleton.1 hmem]; exact sound_new true
  · rename_i a hop
    have hc := sum_map_eraseIdx Pending.clients hop
    have hs := sum_map_eraseIdx Pending.surfaces hop
    simp only [Pending.clients, Pending.surfaces] at hc hs
    refine ⟨?_, ?_, hcw, ?_, h.sound⟩
    · show s.clients = s.liveClients + _
      dsimp only; omega
    · show release s.surfaces a = s.liveSurfaces + _ + _; unfold release
      dsimp only; omega
    · exact (Nat.sub_le _ _).trans hsw
  · rename_i surfaces hop
    have hc := sum_map_set (b := Pending.releaseClient) Pending.clients hop
    have hs := sum_map_set (b := Pending.releaseClient) Pending.surfaces hop
    simp only [Pending.clients, Pending.surfaces] at hc hs
    refine ⟨?_, ?_, hcw, ?_, h.sound⟩
    · show s.clients = s.liveClients + _
      dsimp only; omega
    · show release s.surfaces surfaces = s.liveSurfaces + _ + _; unfold release
      dsimp only; omega
    · exact (Nat.sub_le _ _).trans hsw
  · rename_i hop
    have hc := sum_map_eraseIdx Pending.clients hop
    have hs := sum_map_eraseIdx Pending.surfaces hop
    simp only [Pending.clients, Pending.surfaces] at hc hs
    refine ⟨?_, ?_, ?_, hsw, h.sound⟩
    · show release s.clients 1 = s.liveClients + _; unfold release
      dsimp only; omega
    · show s.surfaces = s.liveSurfaces + _ + _
      dsimp only; omega
    · exact (Nat.sub_le _ _).trans hcw

theorem accounted_next (s : WaylandClientBudget) (e : BudgetEvent) (h : Accounted s) : Accounted (s.next e) := by
  cases e with
  | reserveClient =>
    simp only [next]; split
    · rename_i clients hr
      obtain ⟨rfl, hlt⟩ := tryReserve_some hr
      have hn := h.clients
      have hs := h.surfaces
      refine ⟨?_, ?_, hlt, h.surfacesWithin, h.sound⟩
      · show s.clients + 1 = s.liveClients + _
        simp only [List.map_cons, List.sum_cons, Pending.clients]; omega
      · show s.surfaces = s.liveSurfaces + _ + _
        simp only [List.map_cons, List.sum_cons, Pending.surfaces]; omega
    · exact h
  | defaultClient =>
    refine ⟨?_, ?_, h.clientsWithin, h.surfacesWithin, fun c hmem => ?_⟩
    · simpa [next, liveClients, DenialClientState.liveClient] using h.clients
    · simpa [next, liveSurfaces, DenialClientState.liveSurfaces, DenialClientState.reservedSurface] using h.surfaces
    · rcases List.mem_append.1 hmem with hmem | hmem
      · exact h.sound c hmem
      · rw [List.mem_singleton.1 hmem]; exact sound_new false
  | register client surface => exact accounted_register h client surface
  | registerNext client => exact accounted_registerNext h client
  | unregister client surface => exact accounted_unregister h client surface
  | releaseReservations client => exact accounted_releaseReservations h client
  | pendingNext operation => exact accounted_pendingNext h operation

/-! ## Clients whose reservations were returned -/

def Returned (s : WaylandClientBudget) (client : Nat) : Prop :=
  ∃ c, s.table[client]? = some c ∧ c.reservationLive = false

theorem returned_setClient {other : Nat} {d : DenialClientState} (hc : s.table[other]? = some c)
    (hv : c.reservationLive = false → d.reservationLive = false) (h : s.Returned client) :
    (s.setClient other d).Returned client := by
  obtain ⟨e, he, hr⟩ := h
  by_cases hs : other = client
  · subst hs
    obtain rfl := Option.some.inj (hc.symm.trans he)
    exact ⟨d, List.getElem?_set_self (List.getElem?_eq_some_iff.1 hc).1, hv hr⟩
  · exact ⟨e, (List.getElem?_set_ne hs).trans he, hr⟩

theorem returned_next (s : WaylandClientBudget) (e : BudgetEvent) (h : s.Returned client) :
    (s.next e).Returned client := by
  have hadd : ∀ c, ({ s with table := s.table ++ [c] } : WaylandClientBudget).Returned client := by
    obtain ⟨d, hd, hr⟩ := h
    refine fun c => ⟨d, ?_, hr⟩
    rw [List.getElem?_append_left (List.getElem?_eq_some_iff.1 hd).1]; exact hd
  cases e with
  | reserveClient =>
    simp only [next]
    split <;> exact h
  | defaultClient => exact hadd _
  | register other surface =>
    simp only [next, register, locked]; split
    · exact h
    rename_i c hc; split
    · exact h
    · split
      · exact returned_setClient hc id h
      · exact h
  | registerNext other =>
    simp only [next, registerNext]; split
    · exact h
    rename_i c hc; split
    · exact h
    · unfold reserveSurface; split
      · split <;> exact returned_setClient hc id h
      · exact returned_setClient hc id h
    · unfold insertSurface
      split <;> exact returned_setClient hc id h
  | unregister other surface =>
    simp only [next, unregister, locked]; split
    · exact h
    rename_i c hc; split
    · exact h
    · exact returned_setClient hc id h
  | releaseReservations other =>
    simp only [next, releaseReservations, locked]; split
    · exact h
    rename_i c hc; split
    · exact h
    · split
      · exact h
      · exact returned_setClient hc (fun _ => rfl) h
  | pendingNext operation =>
    simp only [next, pendingNext]; split
    · exact h
    · exact hadd _
    · exact h
    · exact h
    · exact h

/-! ## Runs -/

theorem accounted_start : Accounted {} :=
  ⟨rfl, rfl, Nat.zero_le _, Nat.zero_le _, fun _ h => absurd h List.not_mem_nil⟩

/-- In every state the counters are at least what clients hold, and that exactly when no operation is midway; they and
the clients are within their limits; and a client whose reservations were returned never holds any again. -/
theorem budgets_balance (es : List BudgetEvent) :
    (exec next {} es).liveClients ≤ (exec next {} es).clients ∧
      (exec next {} es).liveSurfaces ≤ (exec next {} es).surfaces ∧
      ((exec next {} es).Idle → (exec next {} es).clients = (exec next {} es).liveClients ∧
        (exec next {} es).surfaces = (exec next {} es).liveSurfaces) ∧
      (exec next {} es).clients ≤ maxWaylandClients ∧ (exec next {} es).surfaces ≤ maxWaylandSurfaces ∧
      (∀ c ∈ (exec next {} es).table, c.surfaces.card ≤ maxSurfacesPerClient) ∧
      (∀ client, (exec next {} es).Returned client → ∀ fs, ∃ c, (exec next {} (es ++ fs)).table[client]? = some c ∧
        c.reservationLive = false ∧ c.surfaces = ∅ ∧ c.lock = none) ∧
      ((exec next {} es).Idle → (∀ c ∈ (exec next {} es).table, c.reservationLive = false) →
        (exec next {} es).clients = 0 ∧ (exec next {} es).surfaces = 0) := by
  have hacc : ∀ es, Accounted (exec next {} es) := fun es => exec_invariant accounted_next es accounted_start
  have h := hacc es
  have hclien := h.clients
  have hsur := h.surfaces
  have hidl : (exec next {} es).Idle → (exec next {} es).clients = (exec next {} es).liveClients ∧
      (exec next {} es).surfaces = (exec next {} es).liveSurfaces := by
    rintro ⟨hpen, hloc⟩
    have hres : ((exec next {} es).table.map DenialClientState.reservedSurface).sum = 0 := by
      refine List.sum_eq_zero fun n hn => ?_
      obtain ⟨c, hc, rfl⟩ := List.mem_map.1 hn
      rw [DenialClientState.reservedSurface, hloc c hc]
    rw [hpen] at hclien hsur
    simp only [List.map_nil, List.sum_nil] at hclien hsur; omega
  refine ⟨by omega, by omega, hidl, h.clientsWithin, h.surfacesWithin, fun c hc => (h.sound c hc).within,
    fun client hret fs => ?_, fun hstil hgon => ?_⟩
  · rw [exec_append]
    obtain ⟨c, hc, hliv⟩ := exec_invariant (I := fun s => Returned s client) returned_next fs hret
    rw [← exec_append] at hc ⊢
    have hsoun := (hacc (es ++ fs)).sound c (List.mem_of_getElem? hc)
    refine ⟨c, hc, hliv, hsoun.returned hliv, ?_⟩
    by_contra hlock
    cases hliv.symm.trans (hsoun.room hlock).2
  · obtain ⟨hclien, hsur⟩ := hidl hstil; rw [hclien, hsur]
    constructor
    · refine List.sum_eq_zero fun n hn => ?_
      obtain ⟨c, hc, rfl⟩ := List.mem_map.1 hn
      simp [DenialClientState.liveClient, hgon c hc]
    · refine List.sum_eq_zero fun n hn => ?_
      obtain ⟨c, hc, rfl⟩ := List.mem_map.1 hn
      simp [DenialClientState.liveSurfaces, (h.sound c hc).returned (hgon c hc)]

end WaylandClientBudget

end Deniald.Client
