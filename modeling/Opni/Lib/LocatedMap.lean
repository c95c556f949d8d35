/-
  Opni.Lib.LocatedMap

  Maps that are kept in another map, each address at a location of its own:
  the rows of tables in one key space, the objects of namespaces in one
  bucket.

  As long as only addresses with locations of their own are written, writing
  to the location is writing to the address, and what is stored anywhere
  belongs to an address.
-/

import Mathlib.Data.Set.Function

namespace Opni.Lib

open Function

variable {α L V : Type} {loc : α → L} {ok : Set α} {flat : L → Option V} {m : α → Option V}

/-- The map `flat` has the values of `m`, which are under the addresses in `ok`, at their
    locations, and nothing else. -/
structure LocatedMap (loc : α → L) (ok : Set α) (flat : L → Option V) (m : α → Option V) :
    Prop where
  at_loc : ∀ a ∈ ok, flat (loc a) = m a
  mem_of_ne_none : ∀ a, m a ≠ none → a ∈ ok
  exists_address : ∀ x, flat x ≠ none → ∃ a ∈ ok, loc a = x

namespace LocatedMap

theorem empty (loc : α → L) (ok : Set α) :
    LocatedMap loc ok (fun _ => (none : Option V)) fun _ => none where
  at_loc _ _ := rfl
  mem_of_ne_none _ h := absurd rfl h
  exists_address _ h := absurd rfl h

variable [DecidableEq α] [DecidableEq L]

theorem update (hinj : Set.InjOn loc ok) (h : LocatedMap loc ok flat m) {a : α} (ha : a ∈ ok)
    (v : Option V) :
    LocatedMap loc ok (update flat (loc a) v) (update m a v) where
  at_loc b hb := by
    by_cases hba : b = a
    · rw [hba, update_self, update_self]
    · have hloc : loc b ≠ loc a := fun heq => hba (hinj hb ha heq)
      rw [update_of_ne hloc, update_of_ne hba, h.at_loc b hb]
  mem_of_ne_none b hb := by
    by_cases hba : b = a
    · rwa [hba]
    · rw [update_of_ne hba] at hb
      exact h.mem_of_ne_none b hb
  exists_address x hx := by
    by_cases hxa : x = loc a
    · exact ⟨a, ha, hxa.symm⟩
    · rw [update_of_ne hxa] at hx
      exact h.exists_address x hx

end LocatedMap

end Opni.Lib
