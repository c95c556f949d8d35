/-
  Opni.Lib.Interleave

  Processes that share a state and take their steps one at a time, in any
  order.

  A step of process `i` reads and writes the shared state and the state of
  `i`; what it does may also depend on a choice that is not the process's own,
  such as an operation that fails.  A run is a list of such steps.
-/

import Mathlib.Data.List.Infix

namespace Opni.Lib.Interleave

open Function

/-! ## The elements of a list, with what is before them -/

section Prefixes

variable {α : Type} {R : List α → α → Prop} {l : List α} {a : α}

theorem forall_prefix_nil : ∀ before x, before ++ [x] <+: [] → R before x := by
  intro before x hpre
  exact absurd (List.prefix_nil.mp hpre) (by simp)

theorem forall_prefix_cons :
    (∀ before x, before ++ [x] <+: a :: l → R before x) ↔
      R [] a ∧ ∀ before x, before ++ [x] <+: l → R (a :: before) x := by
  apply Iff.intro
  · intro h
    refine ⟨h [] a (by simp), ?_⟩
    intro before x hpre
    exact h (a :: before) x ((List.prefix_cons_inj a).mpr hpre)
  · rintro ⟨hfirst, hrest⟩ before x hpre
    cases before with
    | nil =>
      obtain rfl := (List.cons_prefix_cons.mp hpre).1
      exact hfirst
    | cons b before =>
      obtain ⟨rfl, htail⟩ := List.cons_prefix_cons.mp hpre
      exact hrest before x htail

theorem forall_prefix_concat :
    (∀ before x, before ++ [x] <+: l ++ [a] → R before x) ↔
      (∀ before x, before ++ [x] <+: l → R before x) ∧ R l a := by
  apply Iff.intro
  · intro h
    refine ⟨?_, h l a List.prefix_rfl⟩
    intro before x hpre
    exact h before x (hpre.trans (List.prefix_append _ _))
  · rintro ⟨h, hlast⟩ before x hpre
    rcases List.prefix_concat_iff.mp hpre with heq | hpre
    · obtain ⟨rfl, hx⟩ := List.append_inj' heq rfl
      obtain rfl := List.singleton_injective hx
      exact hlast
    · exact h before x hpre

end Prefixes

/-! ## Runs -/

structure Config (ι σ π : Type) where
  shared : σ
  procs : ι → π

variable {ι σ π χ : Type} [DecidableEq ι] (next : ι → χ → σ → π → σ × π) (c : Config ι σ π)

/-- Process `e.1` takes a step with the choice `e.2`. -/
def step (e : ι × χ) : Config ι σ π where
  shared := (next e.1 e.2 c.shared (c.procs e.1)).1
  procs := update c.procs e.1 (next e.1 e.2 c.shared (c.procs e.1)).2

variable (events : List (ι × χ)) {i : ι} {e : ι × χ}

def run : Config ι σ π := events.foldl (step next) c

@[simp] theorem run_nil : run next c [] = c := rfl

theorem run_append (events later : List (ι × χ)) :
    run next c (events ++ later) = run next (run next c events) later := List.foldl_append

theorem run_concat (e : ι × χ) : run next c (events ++ [e]) = step next (run next c events) e := by
  rw [run, List.foldl_concat, ← run]

@[simp] theorem procs_step_self (i : ι) (x : χ) :
    (step next c (i, x)).procs i = (next i x c.shared (c.procs i)).2 := update_self ..

theorem procs_step_of_ne {j : ι} (x : χ) (h : j ≠ i) :
    (step next c (i, x)).procs j = c.procs j := update_of_ne h ..

/-! ## What has happened in a run -/

variable (P : Config ι σ π → ι × χ → Prop)

/-- Process `i` has taken a step with the property. -/
def Happened (c : Config ι σ π) (events : List (ι × χ)) (i : ι) :
    Prop :=
  ∃ before x, before ++ [(i, x)] <+: events ∧ P (run next c before) (i, x)

def Throughout (c : Config ι σ π) (events : List (ι × χ)) :
    Prop :=
  ∀ before e, before ++ [e] <+: events → P (run next c before) e

variable {next} {P : Config ι σ π → ι × χ → Prop} {c : Config ι σ π} {events : List (ι × χ)}

theorem not_happened_nil : ¬Happened next P c [] i := by
  rintro ⟨before, x, hpre, -⟩
  exact absurd (List.prefix_nil.mp hpre) (by simp)

theorem happened_concat : Happened next P c (events ++ [e]) i ↔
    Happened next P c events i ∨ e.1 = i ∧ P (run next c events) e := by
  apply Iff.intro
  · rintro ⟨before, x, hpre, hP⟩
    rcases List.prefix_concat_iff.mp hpre with heq | hpre
    · obtain ⟨rfl, hlast⟩ := List.append_inj' heq rfl
      obtain rfl := List.singleton_injective hlast
      exact .inr ⟨rfl, hP⟩
    · exact .inl ⟨before, x, hpre, hP⟩
  · rintro (⟨before, x, hpre, hP⟩ | ⟨rfl, hP⟩)
    · exact ⟨before, x, hpre.trans (List.prefix_append _ _), hP⟩
    · exact ⟨events, e.2, List.prefix_rfl, hP⟩

theorem throughout_nil : Throughout next P c [] := forall_prefix_nil

theorem Throughout.of_prefix (h : Throughout next P c events) {events' : List (ι × χ)}
    (h' : events' <+: events) : Throughout next P c events' := by
  intro before e hbefore
  exact h before e (hbefore.trans h')

theorem throughout_concat_iff : Throughout next P c (events ++ [e]) ↔
    Throughout next P c events ∧ P (run next c events) e :=
  forall_prefix_concat

theorem throughout_concat (h : Throughout next P c (events ++ [e])) :
    Throughout next P c events ∧ P (run next c events) e :=
  throughout_concat_iff.mp h

theorem throughout_cons : Throughout next P c (e :: events) ↔
    P c e ∧ Throughout next P (step next c e) events :=
  forall_prefix_cons

instance decidableThroughout [∀ c e, Decidable (P c e)] :
    ∀ (c : Config ι σ π) (events : List (ι × χ)), Decidable (Throughout next P c events)
  | _, [] => isTrue throughout_nil
  | c, e :: events =>
    have := decidableThroughout (step next c e) events
    decidable_of_iff _ throughout_cons.symm

theorem iff_throughout {Q : Config ι σ π → Prop} (hfirst : Q c)
    (hstep : ∀ events e, Q (step next (run next c events) e) ↔
      Q (run next c events) ∧ P (run next c events) e) :
    Q (run next c events) ↔ Throughout next P c events := by
  induction events using List.reverseRecOn with
  | nil => exact iff_of_true hfirst throughout_nil
  | append_singleton events e ih => rw [run_concat, hstep, throughout_concat_iff, ih]

/-! ## One process alone -/

end Opni.Lib.Interleave
