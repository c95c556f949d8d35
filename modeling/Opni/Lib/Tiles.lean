/-
  Opni.Lib.Tiles

  Windows that follow one another: each starts where the one before it ends,
  is not empty and has a bounded length.  Together they cover the interval
  from the first start to the last end, and nothing else.
-/

import Mathlib.Algebra.Order.Group.Int
import Mathlib.Data.List.Infix

namespace Opni.Lib

section Order

variable {α : Type} [LinearOrder α] [Add α] {δ a b c : α} {ws ws' : List (α × α)}

/-- The windows follow one another from `a` to `b`, none of them longer than `δ`. -/
def Tiles (δ : α) : α → List (α × α) → α → Prop
  | a, [], b => a = b
  | a, w :: ws, b => w.1 = a ∧ w.1 < w.2 ∧ w.2 ≤ w.1 + δ ∧ Tiles δ w.2 ws b

theorem Tiles.le (h : Tiles δ a ws b) : a ≤ b := by
  induction ws generalizing a with
  | nil => exact le_of_eq h
  | cons w ws ih =>
    obtain ⟨rfl, hlt, -, hrest⟩ := h
    exact hlt.le.trans (ih hrest)

theorem Tiles.append (h : Tiles δ a ws b) (h' : Tiles δ b ws' c) : Tiles δ a (ws ++ ws') c := by
  induction ws generalizing a with
  | nil =>
    obtain rfl : a = b := h
    exact h'
  | cons w ws ih => exact ⟨h.1, h.2.1, h.2.2.1, ih h.2.2.2⟩

theorem tiles_singleton (hlt : a < b) (hle : b ≤ a + δ) : Tiles δ a [(a, b)] b :=
  ⟨rfl, hlt, hle, rfl⟩

variable (h : Tiles δ a ws b)

include h

theorem Tiles.lt_of_mem {w : α × α} (hw : w ∈ ws) : w.1 < w.2 := by
  induction ws generalizing a with
  | nil => cases hw
  | cons w' ws ih =>
    obtain rfl | hw := List.mem_cons.mp hw
    · exact h.2.1
    · exact ih h.2.2.2 hw

theorem Tiles.of_prefix (hpre : ws' <+: ws) : ∃ b', Tiles δ a ws' b' := by
  induction ws' generalizing a ws with
  | nil => exact ⟨a, rfl⟩
  | cons w' ws' ih =>
    cases ws with
    | nil => exact absurd (List.prefix_nil.mp hpre) (List.cons_ne_nil _ _)
    | cons w ws =>
      obtain ⟨rfl, hrest⟩ := List.cons_prefix_cons.mp hpre
      obtain ⟨b', hb'⟩ := ih h.2.2.2 hrest
      exact ⟨b', h.1, h.2.1, h.2.2.1, hb'⟩

theorem Tiles.mem_iff (hne : ws ≠ []) (t : α) : (∃ w ∈ ws, w.1 ≤ t ∧ t ≤ w.2) ↔ a ≤ t ∧ t ≤ b := by
  induction ws generalizing a with
  | nil => exact absurd rfl hne
  | cons w ws ih =>
    obtain ⟨rfl, hlt, -, hrest⟩ := h
    simp only [List.mem_cons, exists_eq_or_imp]
    cases ws with
    | nil =>
      obtain rfl : w.2 = b := hrest
      simp
    | cons w' ws =>
      rw [ih hrest (List.cons_ne_nil _ _)]
      constructor
      · rintro (⟨hle, hle'⟩ | ⟨hle, hle'⟩)
        · exact ⟨hle, hle'.trans hrest.le⟩
        · exact ⟨hlt.le.trans hle, hle'⟩
      · rintro ⟨hle, hle'⟩
        exact (le_total t w.2).imp (fun ht => ⟨hle, ht⟩) fun ht => ⟨ht, hle'⟩

end Order

section Full

variable {α : Type} [LinearOrder α] [AddCommGroup α] [IsOrderedAddMonoid α] {δ : α}

/-- The first `n` windows of full length. -/
def fullTiles (δ : α) : ℕ → α → List (α × α)
  | 0, _ => []
  | n + 1, a => (a, a + δ) :: fullTiles δ n (a + δ)

omit [LinearOrder α] [IsOrderedAddMonoid α] in
theorem length_fullTiles (n : ℕ) (a : α) : (fullTiles δ n a).length = n := by
  induction n generalizing a with
  | zero => rfl
  | succ n ih => rw [fullTiles, List.length_cons, ih]

theorem tiles_fullTiles (hδ : 0 < δ) (n : ℕ) (a : α) : Tiles δ a (fullTiles δ n a) (a + n • δ) := by
  induction n generalizing a with
  | zero => simp [fullTiles, Tiles]
  | succ n ih =>
    refine ⟨rfl, lt_add_of_pos_right a hδ, le_rfl, ?_⟩
    have hend : a + (n + 1) • δ = a + δ + n • δ := by
      rw [succ_nsmul, add_assoc, add_comm δ]
    rw [hend]
    exact ih (a + δ)

end Full

end Opni.Lib
