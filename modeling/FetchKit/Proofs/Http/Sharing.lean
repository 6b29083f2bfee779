import FetchKit.Http.Shared
import Mathlib.Data.List.Basic

/-!
# One client for all

Callers look at the cell, build and store in any order. Whatever the order is, the cell is written at
most once, and every caller that ends with a client ends with the one in the cell.
-/

namespace FetchKit.Http.Shared

variable {γ : Type}

/-! ## One action -/

@[simp] theorem move_cell (s : State γ) (i : Nat) (c : Caller γ) : (s.move i c).cell = s.cell := rfl

@[simp] theorem move_caller_self (s : State γ) (i : Nat) (c : Caller γ) :
    (s.move i c).caller i = c := if_pos rfl

theorem move_caller_of_ne (s : State γ) {i j : Nat} (h : j ≠ i) (c : Caller γ) :
    (s.move i c).caller j = s.caller j := if_neg h

/-- Everything that an action of a caller can do. -/
inductive Step (s : State γ) (i : Nat) : Action γ → State γ → Prop
  | found {c} (hi : s.caller i = .idle) (hcell : s.cell = some c) :
    Step s i .look (s.move i (.done c))
  | missed (hi : s.caller i = .idle) (hcell : s.cell = none) : Step s i .look (s.move i .missed)
  | built {c} (hi : s.caller i = .missed) : Step s i (.build (some c)) (s.move i (.built c))
  | failed (hi : s.caller i = .missed) : Step s i (.build none) (s.move i .failed)
  /-- Another caller was first: its client is taken, the own one is dropped. -/
  | yielded {own c} (hi : s.caller i = .built own) (hcell : s.cell = some c) :
    Step s i .store (s.move i (.done c))
  | stored {c} (hi : s.caller i = .built c) (hcell : s.cell = none) :
    Step s i .store ({ s with cell := some c }.move i (.done c))

theorem step?_eq_some_iff {s s' : State γ} {i : Nat} {a : Action γ} :
    s.step? i a = some s' ↔ Step s i a s' := by
  constructor
  · intro h
    cases a with
    | look =>
      simp only [State.step?] at h
      split at h
      · next hi hcell =>
        cases h
        exact .found hi hcell
      · next hi hcell =>
        cases h
        exact .missed hi hcell
      · cases h
    | build result =>
      simp only [State.step?] at h
      split at h
      · next hi =>
        cases h
        exact .built hi
      · next hi =>
        cases h
        exact .failed hi
      · cases h
    | store =>
      simp only [State.step?] at h
      split at h
      · next hi hcell =>
        cases h
        exact .yielded hi hcell
      · next hi hcell =>
        cases h
        exact .stored hi hcell
      · cases h
  · intro h
    cases h <;> simp_all [State.step?]

theorem Step.caller_of_ne {s s' : State γ} {i j : Nat} {a : Action γ} (h : Step s i a s')
    (hj : j ≠ i) : s'.caller j = s.caller j := by
  cases h <;> exact move_caller_of_ne _ hj _

theorem Step.cell_of_some {s s' : State γ} {i : Nat} {a : Action γ} {c : γ} (h : Step s i a s')
    (hc : s.cell = some c) : s'.cell = some c := by
  cases h with
  | stored hi hcell => simp [hc] at hcell
  | _ => simpa using hc

/-- Whoever ended with a client has the one in the cell. -/
def Agreed (s : State γ) : Prop := ∀ i c, s.caller i = .done c → s.cell = some c

theorem Step.agreed {s s' : State γ} {i : Nat} {a : Action γ} (h : Step s i a s') (hs : Agreed s) :
    Agreed s' := by
  intro j c hj
  by_cases hji : j = i
  · subst hji
    cases h <;> simp_all
  · rw [h.caller_of_ne hji] at hj
    exact h.cell_of_some (hs j c hj)

/-- The cell is full, and the caller has either not started or ended with what is in it. -/
def Served (j : Nat) (c : γ) (s : State γ) : Prop :=
  s.cell = some c ∧ (s.caller j = .idle ∨ s.caller j = .done c)

theorem Step.served {s s' : State γ} {i j : Nat} {a : Action γ} {c : γ} (h : Step s i a s')
    (hs : Served j c s) : Served j c s' ∧ ∀ result, (i, a) ≠ (j, .build result) := by
  obtain ⟨hcell, hj⟩ := hs
  refine ⟨⟨h.cell_of_some hcell, ?_⟩, ?_⟩
  · by_cases hji : j = i
    · subst hji
      cases h <;> simp_all
    · rwa [h.caller_of_ne hji]
  · rintro result ⟨⟩
    cases h <;> simp_all

/-! ## Many actions -/

theorem run?_cons {s t : State γ} {i : Nat} {a : Action γ} {actions : List (Nat × Action γ)} :
    s.run? ((i, a) :: actions) = some t ↔ ∃ s', Step s i a s' ∧ s'.run? actions = some t := by
  simp only [State.run?, List.foldlM_cons, Option.bind_eq_bind, Option.bind_eq_some_iff,
    step?_eq_some_iff]

theorem run?_keeps {P : State γ → Prop}
    (hstep : ∀ {s s' i a}, Step s i a s' → P s → P s') {actions : List (Nat × Action γ)}
    {s t : State γ} (hrun : s.run? actions = some t) (hs : P s) : P t := by
  induction actions generalizing s with
  | nil =>
    cases hrun
    exact hs
  | cons action actions ih =>
    obtain ⟨s', hs', hmore⟩ := run?_cons.1 hrun
    exact ih hmore (hstep hs' hs)

theorem run?_served {actions : List (Nat × Action γ)} {s t : State γ} {j : Nat} {c : γ}
    (hrun : s.run? actions = some t) (hs : Served j c s) :
    Served j c t ∧ ∀ result, (j, .build result) ∉ actions := by
  induction actions generalizing s with
  | nil =>
    cases hrun
    exact ⟨hs, by simp⟩
  | cons action actions ih =>
    obtain ⟨s', hs', hmore⟩ := run?_cons.1 hrun
    obtain ⟨hserved, hother⟩ := hs'.served hs
    obtain ⟨ht, hnone⟩ := ih hmore hserved
    refine ⟨ht, fun result hmem => ?_⟩
    rcases List.mem_cons.1 hmem with heq | hmem
    · exact hother result heq.symm
    · exact hnone result hmem

/-- What the cell holds before each action of a run, and after the last. -/
def State.cells (s : State γ) : List (Nat × Action γ) → List (Option γ)
  | [] => [s.cell]
  | (i, a) :: actions =>
    match s.step? i a with
    | some s' => s.cell :: s'.cells actions
    | none => [s.cell]

theorem cells_cons {s s' : State γ} {i : Nat} {a : Action γ} (h : Step s i a s')
    (actions : List (Nat × Action γ)) :
    s.cells ((i, a) :: actions) = s.cell :: s'.cells actions := by
  rw [State.cells, step?_eq_some_iff.2 h]

theorem cells_of_some {actions : List (Nat × Action γ)} {s t : State γ} {c : γ}
    (hrun : s.run? actions = some t) (hc : s.cell = some c) :
    s.cells actions = List.replicate (actions.length + 1) (some c) := by
  induction actions generalizing s with
  | nil => simp [State.cells, hc]
  | cons action actions ih =>
    obtain ⟨s', hs', hmore⟩ := run?_cons.1 hrun
    rw [cells_cons hs', ih hmore (hs'.cell_of_some hc), hc]
    rfl

theorem cells_eq {actions : List (Nat × Action γ)} {s t : State γ} (hrun : s.run? actions = some t) :
    ∃ before after, s.cells actions =
      List.replicate before none ++ List.replicate after t.cell := by
  induction actions generalizing s with
  | nil =>
    cases hrun
    exact ⟨0, 1, rfl⟩
  | cons action actions ih =>
    cases hc : s.cell with
    | some c =>
      have ht := run?_keeps (P := fun s => s.cell = some c) Step.cell_of_some hrun hc
      refine ⟨0, (action :: actions).length + 1, ?_⟩
      rw [cells_of_some hrun hc, ht]
      rfl
    | none =>
      obtain ⟨s', hs', hmore⟩ := run?_cons.1 hrun
      obtain ⟨before, after, hcells⟩ := ih hmore
      refine ⟨before + 1, after, ?_⟩
      rw [cells_cons hs', hcells, hc]
      rfl

/-- However callers act from the start: the cell is written at most once, and every caller that ended
with a client has the one that is in the cell. To fail to build changes nothing but where the caller
stands. A caller that starts after another one ended with a client builds none, and can only end
with the same. -/
theorem shared_once {actions : List (Nat × Action γ)} {t : State γ}
    (hrun : State.run? {} actions = some t) :
    (∃ before after, State.cells {} actions =
        List.replicate before none ++ List.replicate after t.cell) ∧
      (∀ i c, t.caller i = .done c → t.cell = some c) ∧
      (∀ i s, t.step? i (.build none) = some s →
        s.cell = t.cell ∧ s.caller i = .failed ∧ ∀ j ≠ i, s.caller j = t.caller j) ∧
      ∀ i j c more u, t.caller i = .done c → t.caller j = .idle → t.run? more = some u →
        (∀ result, (j, .build result) ∉ more) ∧
          (u.caller j = .idle ∨ u.caller j = .done c) ∧ u.cell = some c := by
  have hagreed : Agreed t := run?_keeps Step.agreed hrun (fun _ _ h => by cases h)
  refine ⟨cells_eq hrun, hagreed, fun i s hstep => ?_, fun i j c more u hi hj hmore => ?_⟩
  · have hstep := step?_eq_some_iff.1 hstep
    refine ⟨?_, ?_, fun j hj => hstep.caller_of_ne hj⟩
    · cases hstep
      rfl
    · cases hstep
      exact move_caller_self ..
  · obtain ⟨⟨hcell, hu⟩, hnone⟩ := run?_served hmore ⟨hagreed i c hi, .inl hj⟩
    exact ⟨hnone, hu, hcell⟩

/-- Three callers find the cell empty. One fails, and of two clients the one that is stored first is
taken by both, and by a fourth caller that comes later. -/
theorem shared_once_race :
    let actions : List (Nat × Action String) :=
      [(0, .look), (1, .look), (2, .look), (0, .build (some "a")), (2, .build none),
        (1, .build (some "b")), (1, .store), (0, .store)]
    ∃ t u, State.run? {} actions = some t ∧ t.run? [(3, .look)] = some u ∧
      State.cells {} actions = List.replicate 7 none ++ List.replicate 2 (some "b") ∧
      t.caller 0 = .done "b" ∧ t.caller 2 = .failed ∧
      u.caller 3 = .done "b" ∧ u.cell = some "b" := by
  intro actions
  obtain ⟨t, hrun, h0, h2, h3⟩ : ∃ t, State.run? {} actions = some t ∧
      t.caller 0 = .done "b" ∧ t.caller 2 = .failed ∧ t.caller 3 = .idle :=
    ⟨_, rfl, rfl, rfl, rfl⟩
  obtain ⟨-, hagreed, -, hlate⟩ := shared_once hrun
  have hcell := hagreed 0 "b" h0
  have hlook : t.run? [(3, .look)] = some (t.move 3 (.done "b")) :=
    run?_cons.2 ⟨_, .found h3 hcell, rfl⟩
  obtain ⟨-, -, hu⟩ := hlate 0 3 "b" _ _ h0 h3 hlook
  exact ⟨t, _, hrun, hlook, rfl, h0, h2, move_caller_self .., hu⟩

end FetchKit.Http.Shared
