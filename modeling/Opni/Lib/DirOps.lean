/-
  Opni.Lib.DirOps

  Operations on a directory, seen as a partial map from names to contents:
  writing a file, replacing one that has known contents, moving a file to a
  free name, deleting a file.  `replace` and `move` can fail.
-/

import Mathlib.Data.List.Nodup
import Mathlib.Data.List.Perm.Basic
import Mathlib.Data.Set.Basic

namespace Opni.Lib.DirOps

open Function

variable {F C : Type}

/-! ## Operations -/

/-- A directory: the contents of each name that exists. -/
abbrev State (F C : Type) := F → Option C

inductive Op (F C : Type) where
  | put (f : F) (c : C)
  | replace (f : F) (old new : C)
  | move (src dst : F)
  | delete (f : F)
deriving DecidableEq, Repr

namespace Op

/-- The operation gives `f` its contents. -/
def Writes : Op F C → F → Prop
  | .put g _, f => g = f
  | .replace g _ _, f => g = f
  | .move _ dst, f => dst = f
  | .delete _, _ => False

/-- The operation takes away what was at `f`. -/
def Vacates : Op F C → F → Prop
  | .move src _, f => src = f
  | .delete g, f => g = f
  | _, _ => False

end Op

variable [DecidableEq F] [DecidableEq C]

/-- One operation; `none` when it fails. -/
def step : Op F C → State F C → Option (State F C)
  | .put f c, σ => some (update σ f (some c))
  | .replace f old new, σ =>
    if σ f = some old then some (update σ f (some new)) else none
  | .move src dst, σ =>
    if σ dst = none then
      (σ src).map fun c => update (update σ src none) dst (some c)
    else none
  | .delete f, σ => some (update σ f none)

/-- The operations one after the other; `none` as soon as one fails. -/
def run : List (Op F C) → State F C → Option (State F C)
  | [], σ => some σ
  | o :: os, σ => (step o σ).bind (run os)

variable {σ σ' : State F C} {o : Op F C} {os os' : List (Op F C)} {f : F} {m : F × F}
  {ms : List (F × F)}

theorem step_replace_eq_some {old new : C} :
    step (.replace f old new) σ = some σ' ↔
      σ f = some old ∧ σ' = update σ f (some new) := by
  simp [step, eq_comm]

theorem step_move_eq_some {src dst : F} :
    step (.move src dst) σ = some σ' ↔
      σ dst = none ∧ ∃ c, σ src = some c ∧
        σ' = update (update σ src none) dst (some c) := by
  by_cases h : σ dst = none <;> simp [step, h, eq_comm]

theorem run_cons_eq_some :
    run (o :: os) σ = some σ' ↔ ∃ τ, step o σ = some τ ∧ run os τ = some σ' := by
  simp [run, Option.bind_eq_some_iff]

theorem run_append_eq_some :
    run (os ++ os') σ = some σ' ↔ ∃ τ, run os σ = some τ ∧ run os' τ = some σ' := by
  induction os generalizing σ with
  | nil => simp [run]
  | cons o os ih =>
    simp only [List.cons_append, run_cons_eq_some, ih]
    constructor
    · rintro ⟨τ, ho, τ', hos, hos'⟩
      exact ⟨τ', ⟨τ, ho, hos⟩, hos'⟩
    · rintro ⟨τ', ⟨τ, ho, hos⟩, hos'⟩
      exact ⟨τ, ho, τ', hos, hos'⟩

/-! ## What a run leaves alone -/

theorem step_frame (h : step o σ = some σ') (hw : ¬ o.Writes f) (hv : ¬ o.Vacates f) :
    σ' f = σ f := by
  cases o with
  | put g c =>
    cases h
    exact update_of_ne (Ne.symm hw) _ _
  | replace g old new =>
    obtain ⟨-, rfl⟩ := step_replace_eq_some.mp h
    exact update_of_ne (Ne.symm hw) _ _
  | move src dst =>
    obtain ⟨-, c, -, rfl⟩ := step_move_eq_some.mp h
    rw [update_of_ne (Ne.symm hw), update_of_ne (Ne.symm hv)]
  | delete g =>
    cases h
    exact update_of_ne (Ne.symm hv) _ _

theorem run_frame (h : run os σ = some σ')
    (hos : ∀ o ∈ os, ¬ o.Writes f ∧ ¬ o.Vacates f) : σ' f = σ f := by
  induction os generalizing σ with
  | nil =>
    cases h
    rfl
  | cons o os ih =>
    obtain ⟨τ, ho, hrest⟩ := run_cons_eq_some.mp h
    have hframe : τ f = σ f :=
      step_frame ho (hos o (by simp)).1 (hos o (by simp)).2
    rw [ih hrest fun o' ho' => hos o' (by simp [ho']), hframe]

theorem step_vacated (h : step o σ = some σ') (hv : o.Vacates f) (hw : ¬ o.Writes f) :
    σ' f = none := by
  cases o with
  | put g c | replace g old new => exact hv.elim
  | move src dst =>
    obtain ⟨-, c, -, rfl⟩ := step_move_eq_some.mp h
    cases hv
    rw [update_of_ne (Ne.symm hw), update_self]
  | delete g =>
    cases h
    cases hv
    exact update_self _ _ _

theorem run_vacated (h : run os σ = some σ') (hw : ∀ o ∈ os, ¬ o.Writes f)
    (hv : σ f = none ∨ ∃ o ∈ os, o.Vacates f) : σ' f = none := by
  induction os generalizing σ with
  | nil =>
    cases h
    simpa using hv
  | cons o os ih =>
    obtain ⟨τ, ho, hrest⟩ := run_cons_eq_some.mp h
    have hwo : ¬ o.Writes f := hw o (by simp)
    refine ih hrest (fun o' ho' => hw o' (by simp [ho'])) ?_
    by_cases hvo : o.Vacates f
    · exact .inl (step_vacated ho hvo hwo)
    · rw [step_frame ho hwo hvo]
      rcases hv with hv | ⟨o', ho', hv'⟩
      · exact .inl hv
      · rcases List.mem_cons.mp ho' with rfl | ho'
        · exact absurd hv' hvo
        · exact .inr ⟨o', ho', hv'⟩

theorem step_occupied (h : step o σ = some σ') (hv : ¬ o.Vacates f) (hσ : σ f ≠ none) :
    σ' f ≠ none := by
  by_cases hw : o.Writes f
  · cases o with
    | put g c =>
      cases h
      cases hw
      simp
    | replace g old new =>
      obtain ⟨-, rfl⟩ := step_replace_eq_some.mp h
      cases hw
      simp
    | move src dst =>
      obtain ⟨-, c, -, rfl⟩ := step_move_eq_some.mp h
      cases hw
      simp
    | delete g => exact hw.elim
  · rw [step_frame h hw hv]
    exact hσ

/-! ## What no order achieves -/

theorem run_eq_none_of_invariant (I : State F C → Prop) {bad : Op F C} (hbad : bad ∈ os)
    (hfail : ∀ τ, I τ → step bad τ = none)
    (hkeep : ∀ o ∈ os, ∀ τ τ', I τ → step o τ = some τ' → I τ') (h : I σ) : run os σ = none := by
  induction os generalizing σ with
  | nil => simp at hbad
  | cons o os ih =>
    rw [run]
    cases ho : step o σ with
    | none => rfl
    | some τ =>
      -- the first operation succeeded, so the bad one is still to come
      have hmem : bad ∈ os := by
        rcases List.mem_cons.mp hbad with rfl | hmem
        · rw [hfail σ h] at ho
          cases ho
        · exact hmem
      exact ih hmem (fun o' ho' => hkeep o' (by simp [ho'])) (hkeep o (by simp) σ τ h ho)

/-! ## Orders that work -/

def deletes (os : List (Op F C)) : List F :=
  os.filterMap fun | .delete f => some f | _ => none

/-- The moves of a list, as pairs of source and destination. -/
def moves (os : List (Op F C)) : List (F × F) :=
  os.filterMap fun | .move src dst => some (src, dst) | _ => none

/-- The replacements of a list: file, old and new contents. -/
def replaces (os : List (Op F C)) : List (F × C × C) :=
  os.filterMap fun | .replace f old new => some (f, old, new) | _ => none

def puts (os : List (Op F C)) : List (F × C) :=
  os.filterMap fun | .put f c => some (f, c) | _ => none

omit [DecidableEq F] [DecidableEq C] in
@[simp] theorem mem_deletes : f ∈ deletes os ↔ Op.delete f ∈ os := by
  simp only [deletes, List.mem_filterMap]
  constructor
  · rintro ⟨o, ho, h⟩
    cases o <;> simp_all
  · intro h
    exact ⟨_, h, rfl⟩

omit [DecidableEq F] [DecidableEq C] in
@[simp] theorem mem_moves : m ∈ moves os ↔ Op.move m.1 m.2 ∈ os := by
  simp only [moves, List.mem_filterMap]
  constructor
  · rintro ⟨o, ho, h⟩
    cases o <;> simp_all
    cases h
    exact ho
  · intro h
    exact ⟨_, h, rfl⟩

omit [DecidableEq F] [DecidableEq C] in
@[simp] theorem mem_replaces {p : F × C × C} :
    p ∈ replaces os ↔ Op.replace p.1 p.2.1 p.2.2 ∈ os := by
  simp only [replaces, List.mem_filterMap]
  constructor
  · rintro ⟨o, ho, h⟩
    cases o <;> simp_all
    cases h
    exact ho
  · intro h
    exact ⟨_, h, rfl⟩

omit [DecidableEq F] [DecidableEq C] in
theorem perm_by_kind (os : List (Op F C)) :
    List.Perm ((deletes os).map Op.delete ++ ((moves os).map (fun m => Op.move m.1 m.2) ++
      ((replaces os).map (fun p => Op.replace p.1 p.2.1 p.2.2) ++
        (puts os).map (fun p => Op.put p.1 p.2)))) os := by
  induction os with
  | nil => exact List.Perm.refl _
  | cons o os ih =>
    cases o with
    | delete f => exact ih.cons _
    | move src dst => exact List.perm_middle.trans (ih.cons _)
    | replace f old new =>
      refine List.Perm.trans ?_ (ih.cons _)
      rw [← List.append_assoc, ← List.append_assoc (List.map _ _)]
      exact List.perm_middle
    | put f c =>
      refine List.Perm.trans ?_ (ih.cons _)
      simp only [← List.append_assoc]
      exact List.perm_middle

omit [DecidableEq F] [DecidableEq C] in
theorem nodup_moves_replaces (h : os.Nodup) : (moves os).Nodup ∧ (replaces os).Nodup := by
  have hkinds := (perm_by_kind os).nodup_iff.mpr h
  simp only [List.nodup_append] at hkinds
  exact ⟨hkinds.2.1.1.of_map _, hkinds.2.1.2.1.1.of_map _⟩

theorem exists_run_puts (l : List (F × C)) (σ : State F C) :
    ∃ σ', run (l.map fun p => Op.put p.1 p.2) σ = some σ' := by
  induction l generalizing σ with
  | nil => exact ⟨σ, rfl⟩
  | cons p l ih => exact ih _

theorem exists_run_deletes (l : List F) (σ : State F C) :
    ∃ σ', run (l.map Op.delete) σ = some σ' := by
  induction l generalizing σ with
  | nil => exact ⟨σ, rfl⟩
  | cons f l ih => exact ih _

theorem exists_run_replaces (l : List (F × C × C)) (hnd : (l.map Prod.fst).Nodup)
    (hσ : ∀ p ∈ l, σ p.1 = some p.2.1) :
    ∃ σ', run (l.map fun p => Op.replace p.1 p.2.1 p.2.2) σ = some σ' := by
  induction l generalizing σ with
  | nil => exact ⟨σ, rfl⟩
  | cons p l ih =>
    obtain ⟨hp, hnd⟩ := List.nodup_cons.mp hnd
    have hrest : ∀ q ∈ l, update σ p.1 (some p.2.2) q.1 = some q.2.1 := by
      intro q hq
      have hne : q.1 ≠ p.1 := fun heq => hp (heq ▸ List.mem_map_of_mem hq)
      rw [update_of_ne hne]
      exact hσ q (by simp [hq])
    obtain ⟨σ', hrun⟩ := ih hnd hrest
    exact ⟨σ', run_cons_eq_some.mpr
      ⟨_, step_replace_eq_some.mpr ⟨hσ p (by simp), rfl⟩, hrun⟩⟩

/-- A set of moves that can be ordered: sources and destinations are different,
    there is a file at each source, each destination is free or the source of
    another move, and no set of files is permuted by the moves. -/
structure Orderable (σ : State F C) (ms : List (F × F)) : Prop where
  src_nodup : (ms.map Prod.fst).Nodup
  dst_nodup : (ms.map Prod.snd).Nodup
  occupied : ∀ m ∈ ms, σ m.1 ≠ none
  free : ∀ m ∈ ms, σ m.2 = none ∨ m.2 ∈ ms.map Prod.fst
  acyclic : ∀ R : Set F, R.Nonempty → ∃ f ∈ R, ∀ g ∈ R, (f, g) ∉ ms

omit [DecidableEq F] [DecidableEq C] in
theorem Orderable.exists_first (h : Orderable σ ms) (hne : ms ≠ []) :
    ∃ m ∈ ms, m.2 ∉ ms.map Prod.fst := by
  obtain ⟨m₀, hm₀⟩ := List.exists_mem_of_ne_nil ms hne
  -- the set of all sources is not permuted, so one of them leaves it
  obtain ⟨f, hf, hnot⟩ := h.acyclic {f | f ∈ ms.map Prod.fst} ⟨m₀.1, List.mem_map_of_mem hm₀⟩
  obtain ⟨m, hm, rfl⟩ := List.mem_map.mp hf
  exact ⟨m, hm, fun hmem => hnot m.2 hmem hm⟩

/-- Such a move succeeds, and the others can still be ordered after it. -/
theorem Orderable.step (h : Orderable σ ms) (hm : m ∈ ms) (hlast : m.2 ∉ ms.map Prod.fst) :
    ∃ τ, DirOps.step (.move m.1 m.2) σ = some τ ∧ Orderable τ (ms.erase m) := by
  have hnone : σ m.2 = none := (h.free m hm).resolve_right hlast
  obtain ⟨c, hc⟩ := Option.ne_none_iff_exists'.mp (h.occupied m hm)
  have hperm : ms.Perm (m :: ms.erase m) := List.perm_cons_erase hm
  have hsrc := (hperm.map Prod.fst).nodup_iff.mp h.src_nodup
  have hdst := (hperm.map Prod.snd).nodup_iff.mp h.dst_nodup
  simp only [List.map_cons, List.nodup_cons] at hsrc hdst
  have hsub : ∀ m' ∈ ms.erase m, m' ∈ ms := fun m' hm' => List.mem_of_mem_erase hm'
  have hne1 : ∀ m' ∈ ms.erase m, m'.1 ≠ m.1 := fun m' hm' heq =>
    hsrc.1 (heq ▸ List.mem_map_of_mem hm')
  have hne2 : ∀ m' ∈ ms.erase m, m'.2 ≠ m.2 := fun m' hm' heq =>
    hdst.1 (heq ▸ List.mem_map_of_mem hm')
  refine ⟨_, step_move_eq_some.mpr ⟨hnone, c, hc, rfl⟩, hsrc.2, hdst.2, ?_, ?_, ?_⟩
  · -- the other sources are where they were
    intro m' hm'
    have hne : m'.1 ≠ m.2 := fun heq => hlast (heq ▸ List.mem_map_of_mem (hsub m' hm'))
    rw [update_of_ne hne, update_of_ne (hne1 m' hm')]
    exact h.occupied m' (hsub m' hm')
  · -- a destination that had to wait for this move is free now
    intro m' hm'
    rw [update_of_ne (hne2 m' hm')]
    by_cases heq : m'.2 = m.1
    · rw [heq, update_self]
      exact .inl rfl
    · rw [update_of_ne heq]
      rcases h.free m' (hsub m' hm') with hfree | hin
      · exact .inl hfree
      · rw [(hperm.map Prod.fst).mem_iff, List.map_cons, List.mem_cons] at hin
        exact .inr (hin.resolve_left heq)
  · intro R hR
    obtain ⟨f, hfR, hno⟩ := h.acyclic R hR
    exact ⟨f, hfR, fun g hg hmem => hno g hg (hsub _ hmem)⟩

theorem exists_order_moves (h : Orderable σ ms) :
    ∃ order, List.Perm order ms ∧
      ∃ σ', run (order.map fun m => Op.move m.1 m.2) σ = some σ' := by
  induction hn : ms.length generalizing ms σ with
  | zero =>
    rw [List.length_eq_zero_iff] at hn
    exact ⟨[], by rw [hn], σ, rfl⟩
  | succ n ih =>
    obtain ⟨m, hm, hlast⟩ := h.exists_first (List.ne_nil_of_length_eq_add_one hn)
    obtain ⟨τ, hstep, hτ⟩ := h.step hm hlast
    have hlen : (ms.erase m).length = n := by
      rw [List.length_erase_of_mem hm]
      omega
    obtain ⟨order, hord, σ', hrun⟩ := ih hτ hlen
    exact ⟨m :: order, (hord.cons m).trans (List.perm_cons_erase hm).symm, σ',
      run_cons_eq_some.mpr ⟨τ, hstep, hrun⟩⟩

end Opni.Lib.DirOps
