/-
  Opni.Lib.Matchers

  Selectors of labelled things: a selector is a list of matchers, each of
  which accepts some values of one label, and it selects what all of them
  accept.
-/

import Mathlib.Algebra.BigOperators.Ring.Finset
import Mathlib.Algebra.Order.BigOperators.Group.Finset
import Mathlib.Algebra.Order.Field.Basic

namespace Opni.Lib

open Function

structure Matcher (κ ν : Type) where
  key : κ
  accepts : ν → Prop

namespace Matcher

variable {κ ν : Type} (selector : List (Matcher κ ν))

def Selects (labels : κ → ν) : Prop :=
  ∀ m ∈ selector, m.accepts (labels m.key)

def Admits (key : κ) (v : ν) : Prop :=
  ∀ m ∈ selector, m.key = key → m.accepts v

theorem Selects.admits {selector : List (Matcher κ ν)} {labels : κ → ν}
    (h : Selects selector labels) (key : κ) : Admits selector key (labels key) := by
  rintro m hm rfl
  exact h m hm

theorem Selects.update [DecidableEq κ] {selector : List (Matcher κ ν)} {labels : κ → ν}
    (h : Selects selector labels) {key : κ} {v : ν} (hv : Admits selector key v) :
    Selects selector (update labels key v) := by
  intro m hm
  by_cases hkey : m.key = key
  · rw [hkey, update_self]
    exact hv m hm hkey
  · rw [update_of_ne hkey]
    exact h m hm

theorem selects_imp_iff [DecidableEq κ] {inner outer : List (Matcher κ ν)} :
    (∀ labels, Selects inner labels → Selects outer labels) ↔
      (∀ labels, ¬Selects inner labels) ∨
        ∀ m ∈ outer, ∀ v, Admits inner m.key v → m.accepts v := by
  constructor
  · intro hwithin
    by_cases hnone : ∀ labels, ¬Selects inner labels
    · exact .inl hnone
    · obtain ⟨labels, hlabels⟩ := not_forall_not.mp hnone
      refine .inr fun m hm v hv => ?_
      -- what is selected stays so when the label gets the value
      have hm := hwithin _ (hlabels.update hv) m hm
      rwa [update_self] at hm
  · rintro (hnone | haccepts) labels hlabels
    · exact absurd hlabels (hnone labels)
    · exact fun m hm => haccepts m hm _ (hlabels.admits m.key)

/-! ## Rates -/

section Rates

variable {𝕜 : Type} [Field 𝕜] [LinearOrder 𝕜] [IsStrictOrderedRing 𝕜]

open scoped Classical in
/-- The sum of a rate over the series that are selected. -/
noncomputable def total (selector : List (Matcher κ ν)) (series : Finset (κ → ν))
    (rate : (κ → ν) → 𝕜) : 𝕜 :=
  ∑ labels ∈ series with Selects selector labels, rate labels

variable {inner outer : List (Matcher κ ν)} {series : Finset (κ → ν)} {rate : (κ → ν) → 𝕜}
  (hwithin : ∀ labels, Selects inner labels → Selects outer labels)

include hwithin

open scoped Classical in
theorem total_le_total
    (hrate : ∀ labels, 0 ≤ rate labels) : total inner series rate ≤ total outer series rate := by
  refine Finset.sum_le_sum_of_subset_of_nonneg ?_ fun labels _ _ => hrate labels
  intro labels hmem
  rw [Finset.mem_filter] at hmem ⊢
  exact ⟨hmem.1, hwithin labels hmem.2⟩

theorem one_sub_ratio_nonneg
    (hrate : ∀ labels, 0 ≤ rate labels) (hpos : 0 < total outer series rate) :
    0 ≤ 1 - total inner series rate / total outer series rate := by
  have hle : total inner series rate ≤ total outer series rate := total_le_total hwithin hrate
  have hratio : total inner series rate / total outer series rate ≤ 1 := (div_le_one hpos).mpr hle
  exact sub_nonneg.mpr hratio

end Rates

end Matcher

end Opni.Lib
