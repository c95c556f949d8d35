/-
  Opni.Lib.Derived

  Entries that follow from what is stored: every stored value has entries of
  its own, under keys no other id has, in a second map that is written
  separately (rules in another system, running tasks).

  After a change to one id the second map is in step with the first just when
  the keys of that id have the entries of its new value.
-/

import Mathlib.Logic.Function.Basic

namespace Opni.Lib

open Function

variable {I V K E : Type} {entries : I → V → K → Option E} {src : I → Option V}
  {der der' : K → Option E} {i : I} {k : K}

def Owns (entries : I → V → K → Option E) (i : I) (k : K) : Prop := ∃ v, entries i v k ≠ none

/-- The map `der` has the entries of what is stored in `src`, and no others. -/
def InStep (entries : I → V → K → Option E) (src : I → Option V) (der : K → Option E) : Prop :=
  ∀ k e, der k = some e ↔ ∃ i v, src i = some v ∧ entries i v k = some e

theorem owns_of_eq_some {v : V} {e : E} (h : entries i v k = some e) : Owns entries i k :=
  ⟨v, by simp [h]⟩

theorem inStep_empty (entries : I → V → K → Option E) :
    InStep entries (fun _ => none) fun _ => none := by
  intro k e
  simp

variable (hown : ∀ i j k, Owns entries i k → Owns entries j k → i = j) (h : InStep entries src der)

include hown h

theorem InStep.eq_bind (hk : Owns entries i k) : der k = (src i).bind (entries i · k) := by
  ext e
  rw [h k e, Option.bind_eq_some_iff]
  constructor
  · rintro ⟨j, v, hv, he⟩
    obtain rfl := hown i j k hk (owns_of_eq_some he)
    exact ⟨v, hv, he⟩
  · rintro ⟨v, hv, he⟩
    exact ⟨i, v, hv, he⟩

variable [DecidableEq I]

theorem InStep.update_iff (w : Option V) (hframe : ∀ k, ¬Owns entries i k → der' k = der k) :
    InStep entries (update src i w) der' ↔
      ∀ k, Owns entries i k → der' k = w.bind (entries i · k) := by
  constructor
  · intro h' k hk
    rw [h'.eq_bind hown hk, update_self]
  · intro hkeys k e
    by_cases hk : Owns entries i k
    · rw [hkeys k hk, Option.bind_eq_some_iff]
      constructor
      · rintro ⟨v, hv, he⟩
        exact ⟨i, v, by rw [update_self, hv], he⟩
      · rintro ⟨j, v, hv, he⟩
        obtain rfl := hown i j k hk (owns_of_eq_some he)
        rw [update_self] at hv
        exact ⟨v, hv, he⟩
    · rw [hframe k hk, h k e]
      refine exists_congr fun j => exists_congr fun v => and_congr_left fun he => ?_
      have hji : j ≠ i := by
        rintro rfl
        exact hk (owns_of_eq_some he)
      rw [update_of_ne hji]

/-- Writing the entries of a new value over the old ones is enough just when the new value has
    all the keys that the old one had. -/
theorem InStep.overlay_iff (w : V) (hder : ∀ k, der' k = (entries i w k).or (der k)) :
    InStep entries (update src i (some w)) der' ↔
      ∀ v, src i = some v → ∀ k, entries i v k ≠ none → entries i w k ≠ none := by
  have hframe : ∀ k, ¬Owns entries i k → der' k = der k := by
    intro k hk
    rw [hder, not_exists_not.mp hk w, Option.none_or]
  rw [h.update_iff hown (some w) hframe]
  constructor
  · intro hkeys v hv k hk hnone
    have hkey := hkeys k ⟨v, hk⟩
    rw [hder, h.eq_bind hown ⟨v, hk⟩, hv, Option.bind_some, Option.bind_some, hnone,
      Option.none_or] at hkey
    exact hk hkey
  · intro hcover k hk
    rw [hder, h.eq_bind hown hk, Option.bind_some]
    cases hw : entries i w k with
    | some e => rfl
    | none =>
      cases hv : src i with
      | none => rfl
      | some v =>
        by_contra hne
        exact hcover v hv k hne hw

theorem InStep.remove {v : V} (hv : src i = some v)
    (hder : ∀ k, der' k = if entries i v k = none then der k else none) :
    InStep entries (update src i none) der' := by
  have hframe : ∀ k, ¬Owns entries i k → der' k = der k := by
    intro k hk
    rw [hder, if_pos (not_exists_not.mp hk v)]
  rw [h.update_iff hown none hframe]
  intro k hk
  rw [hder, Option.bind_none]
  split
  next hnone => rw [h.eq_bind hown hk, hv, Option.bind_some, hnone]
  · rfl

omit [DecidableEq I] in
theorem InStep.eq_none_of_remove {src' : I → Option V} {j : I} {v : V}
    (h' : InStep entries src' der') (hj : src j = some v) (hj' : src' j = none) (hne : j ≠ i)
    (hder : ∀ k, der' k = if entries i v k = none then der k else none) (k : K) :
    entries j v k = none := by
  by_contra hentry
  have hk : Owns entries j k := ⟨v, hentry⟩
  have hother : entries i v k = none := by
    by_contra hi
    exact hne (hown j i k hk ⟨v, hi⟩)
  have hkey := hder k
  rw [if_pos hother, h.eq_bind hown hk, h'.eq_bind hown hk, hj, hj', Option.bind_some,
    Option.bind_none] at hkey
  exact hentry hkey.symm

end Opni.Lib
