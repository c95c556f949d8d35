/-
  Opni.Lib.Goroutines

  Goroutines that share a state, as one state machine: an event names the
  goroutine that moves and what it does, and an event that is blocked has no
  next state.

  A deadlock is a set of goroutines each of which is blocked by another one of
  the set. There is none where every goroutine waits for one of a lower rank
  only.
-/

import Mathlib.Order.WellFounded

namespace Opni.Lib.Goroutines

/-! ## Runs -/

section Runs

variable {σ ε : Type} {step : σ → ε → Option σ} {ok : σ → ε → Prop} {s s' s'' : σ} {events : List ε}
  {I P : σ → Prop}

theorem ite_some_eq_some {P : Prop} [Decidable P] :
    (if P then some s else none) = some s' ↔ P ∧ s = s' := by
  rw [Option.ite_none_right_eq_some, Option.some.injEq]

/-- One event, that `ok` allows in the state before it. -/
def StepWhen (step : σ → ε → Option σ) (ok : σ → ε → Prop) (s s' : σ) : Prop :=
  ∃ e, ok s e ∧ step s e = some s'

/-- A run of events that `ok` allows. -/
abbrev Reaches (step : σ → ε → Option σ) (ok : σ → ε → Prop) : σ → σ → Prop :=
  Relation.ReflTransGen (StepWhen step ok)

theorem Reaches.invariant (h : Reaches step ok s s') (hs : I s)
    (hstep : ∀ s e s', I s → ok s e → step s e = some s' → I s') : I s' := by
  induction h with
  | refl => exact hs
  | tail _ hlast ih =>
    obtain ⟨e, hok, he⟩ := hlast
    exact hstep _ e _ ih hok he

/-- The run of given events; none if one of them is blocked. -/
def run (step : σ → ε → Option σ) (s : σ) (events : List ε) : Option σ := events.foldlM step s

theorem exists_of_run_cons {e : ε} (hrun : run step s (e :: events) = some s') :
    ∃ t, step s e = some t ∧ run step t events = some s' := by
  simpa [run, Option.bind_eq_some_iff] using hrun

theorem Reaches.run (h : Reaches step ok s s') (hrun : run step s' events = some s'')
    (hok : ∀ s, ∀ e ∈ events, ok s e) : Reaches step ok s s'' := by
  induction events generalizing s' with
  | nil =>
    cases hrun
    exact h
  | cons e events ih =>
    obtain ⟨t, he, hrest⟩ := exists_of_run_cons hrun
    exact ih (h.tail ⟨e, hok _ e (by simp), he⟩) hrest fun s e he => hok s e (by simp [he])

theorem exists_run_of_isSome (h : (run step s events).isSome = true)
    (hP : run step s events = some ((run step s events).get h) → P ((run step s events).get h)) :
    ∃ s', run step s events = some s' ∧ P s' :=
  have hrun := (Option.some_get h).symm
  ⟨_, hrun, hP hrun⟩

theorem exists_reaches_of_isSome (events : List ε) (h : (run step s events).isSome = true)
    (hP : P ((run step s events).get h)) : ∃ s', Reaches step (fun _ _ => True) s s' ∧ P s' :=
  ⟨_, Reaches.run .refl (Option.some_get h).symm fun _ _ _ => trivial, hP⟩

/-- Every event of the run has the property, in the state before it. -/
def Throughout (step : σ → ε → Option σ) (ok : σ → ε → Prop) : σ → List ε → Prop
  | _, [] => True
  | s, e :: events => ok s e ∧ ∀ s', step s e = some s' → Throughout step ok s' events

instance decidableThroughout [∀ s e, Decidable (ok s e)] :
    (s : σ) → (events : List ε) → Decidable (Throughout step ok s events)
  | _, [] => isTrue trivial
  | s, e :: events =>
    match h : step s e with
    | none =>
      decidable_of_iff (ok s e)
        ⟨fun hok => ⟨hok, fun s' hs' => by rw [h] at hs'; cases hs'⟩, And.left⟩
    | some t =>
      have := decidableThroughout t events
      decidable_of_iff (ok s e ∧ Throughout step ok t events)
        ⟨fun hand => ⟨hand.1, fun s' hs' => Option.some.inj (h.symm.trans hs') ▸ hand.2⟩,
          fun hand => ⟨hand.1, hand.2 t h⟩⟩

theorem Throughout.reaches (h : Throughout step ok s events) (hrun : run step s events = some s') :
    Reaches step ok s s' := by
  induction events generalizing s with
  | nil =>
    cases hrun
    exact .refl
  | cons e events ih =>
    obtain ⟨t, he, hrest⟩ := exists_of_run_cons hrun
    exact .head ⟨e, h.1, he⟩ (ih (h.2 t he) hrest)

theorem Throughout.imp_of_invariant {P : σ → ε → Prop} (h : Throughout step ok s events) (hs : I s)
    (hI : ∀ s e s', I s → ok s e → step s e = some s' → I s') (hP : ∀ s e, I s → ok s e → P s e) :
    Throughout step P s events := by
  induction events generalizing s with
  | nil => trivial
  | cons e events ih =>
    exact ⟨hP s e hs h.1, fun s' hs' => ih (h.2 s' hs') (hI s e s' hs h.1 hs')⟩

def Always (step : σ → ε → Option σ) (P : σ → Prop) : σ → List ε → Prop
  | s, [] => P s
  | s, e :: events => P s ∧ ∀ s', step s e = some s' → Always step P s' events

theorem Always.start (h : Always step P s events) : P s := by
  cases events with
  | nil => exact h
  | cons e events => exact h.1

theorem always_iff_throughout_of_invariant (hIP : ∀ s, I s → P s)
    (hI : ∀ s e s', I s → ok s e → step s e = some s' → I s')
    (hok : ∀ s e s', I s → step s e = some s' → P s' → ok s e) (hs : I s)
    (hrun : run step s events = some s') :
    Always step P s events ↔ Throughout step ok s events := by
  induction events generalizing s with
  | nil => exact iff_of_true (hIP s hs) trivial
  | cons e events ih =>
    obtain ⟨t, he, hrest⟩ := exists_of_run_cons hrun
    have hnext : ∀ {Q : σ → Prop}, (∀ u, step s e = some u → Q u) ↔ Q t := by
      rw [he]
      exact ⟨fun h => h t rfl, fun h u hu => Option.some.inj hu ▸ h⟩
    rw [Always, Throughout, hnext, hnext]
    constructor
    · rintro ⟨-, halways⟩
      have hallowed := hok s e t hs he halways.start
      exact ⟨hallowed, (ih (hI s e t hs hallowed he) hrest).mp halways⟩
    · rintro ⟨hallowed, hthrough⟩
      exact ⟨hIP s hs, (ih (hI s e t hs hallowed he) hrest).mpr hthrough⟩

theorem always_iff_throughout (hI : ∀ s e s', I s → step s e = some s' → I s')
    (hP : ∀ s e s', I s → P s → step s e = some s' → (P s' ↔ ok s e)) (hs : I s) (hPs : P s)
    (hrun : run step s events = some s') :
    Always step P s events ↔ Throughout step ok s events := by
  refine always_iff_throughout_of_invariant (I := fun s => I s ∧ P s) (fun s h => h.2) ?_ ?_
    ⟨hs, hPs⟩ hrun
  · intro s e s' h hallowed he
    exact ⟨hI s e s' h.1 he, (hP s e s' h.1 h.2 he).mpr hallowed⟩
  · intro s e s' h he hafter
    exact (hP s e s' h.1 h.2 he).mp hafter

theorem end_iff_throughout (hI : ∀ s e s', I s → step s e = some s' → I s')
    (hP : ∀ s e s', I s → step s e = some s' → (P s' ↔ P s ∧ ok s e)) (hs : I s)
    (hrun : run step s events = some s') : P s' ↔ P s ∧ Throughout step ok s events := by
  induction events generalizing s with
  | nil =>
    cases hrun
    exact (and_iff_left trivial).symm
  | cons e events ih =>
    obtain ⟨t, he, hrest⟩ := exists_of_run_cons hrun
    rw [ih (hI s e t hs he) hrest, hP s e t hs he, and_assoc, Throughout]
    refine and_congr_right fun _ => and_congr_right fun _ => ?_
    rw [he]
    exact ⟨fun h u hu => Option.some.inj hu ▸ h, fun h => h t rfl⟩

end Runs

/-! ## Deadlocks -/

section Deadlocks

variable {γ : Type} {waitsFor : γ → γ → Prop}

/-- Each goroutine of the set is blocked waiting for another one of them. -/
def Deadlocked (waitsFor : γ → γ → Prop) (S : Set γ) : Prop :=
  S.Nonempty ∧ ∀ g ∈ S, ∃ g' ∈ S, g' ≠ g ∧ waitsFor g g'

theorem not_deadlocked_of_rank (rank : γ → ℕ)
    (h : ∀ g g', waitsFor g g' → rank g' < rank g) (S : Set γ) : ¬Deadlocked waitsFor S := by
  rintro ⟨hne, hwait⟩
  -- a goroutine of the lowest rank in the set has none to wait for
  obtain ⟨g, hg, hmin⟩ := (measure rank).wf.has_min S hne
  obtain ⟨g', hg', -, hfor⟩ := hwait g hg
  exact hmin g' hg' (h g g' hfor)

theorem deadlocked_pair {g g' : γ} (hne : g ≠ g') (h : waitsFor g g') (h' : waitsFor g' g) :
    Deadlocked waitsFor {g, g'} := by
  refine ⟨⟨g, .inl rfl⟩, ?_⟩
  rintro x (rfl | rfl)
  · exact ⟨g', .inr rfl, hne.symm, h⟩
  · exact ⟨g, .inl rfl, hne, h'⟩

end Deadlocks

end Opni.Lib.Goroutines
