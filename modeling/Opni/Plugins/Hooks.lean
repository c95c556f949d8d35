/-
  Opni.Plugins.Hooks

  When every hook runs exactly once.  A hook joins the lists and is invoked
  for what is loaded by then; the hooks in the lists are invoked for what is
  loaded later.
-/

import Mathlib.Data.List.Nodup
import Opni.Plugins.Loader

namespace Opni.Plugins

open Lib.Goroutines Function

/-! ## Phases -/

/-- How far `LoadOne` has come: two stages for each implementation. -/
def LoadPc.stage : LoadPc → Nat
  | .invoking k => 2 * k
  | .adding k => 2 * k + 1

/-- The implementation is one of those that are loaded, and the hook is for it. -/
def Setup.Wants (su : Setup) (n : Nat) (i : Impl) : Prop :=
  i.1 < su.plugins ∧ i.2 < su.impls i.1 ∧ su.shouldInvoke n i = true

def HookPc.Added : HookPc → Prop
  | .idle | .flagged _ => False
  | .joining _ | .returned => True

namespace PluginLoader

variable {su : Setup} {s s' : PluginLoader} {e : LoaderEvent}

/-! ## The locks and the flag -/

/-- Who has `hooksMu`, and what the flag tells. -/
structure Locks (su : Setup) (s : PluginLoader) : Prop where
  writer : ∀ n, s.hooks n = .joining false → s.hookWriter = some n
  shared : ∀ n, s.hooks n = .flagged true ∨ s.hooks n = .joining true → s.completed = true
  loaded : s.completed = true → ∀ r < su.plugins, s.loads r = .invoking (su.impls r)
  completed_iff : s.completed = true ↔ s.complete ≠ .idle

theorem locks_new (su : Setup) : Locks su {} where
  writer n h := by cases h
  shared n h := by rcases h with h | h <;> cases h
  loaded h := by cases h
  completed_iff := by simp

theorem Locks.move (h : Locks su s) (hmove : Move su s e s') : Locks su s' := by
  cases hmove with
  | @hookBegin n hpc =>
    refine ⟨fun m hm => ?_, fun m hm => ?_, h.loaded, h.completed_iff⟩
    · simp only [update_apply] at hm
      split at hm
      · cases hm
      · exact h.writer m hm
    · simp only [update_apply] at hm
      split at hm
      · simpa using hm
      · exact h.shared m hm
  | @hookAdd n shared hpc hlock =>
    refine ⟨fun m hm => ?_, fun m hm => ?_, h.loaded, h.completed_iff⟩
    · simp only [addHook, update_apply] at hm
      split at hm
      next hmn =>
        cases hm
        simp [addHook, hmn]
      · -- nobody else has the lock for writing
        have hold := h.writer m hm
        rw [hlock.1] at hold
        cases hold
    · simp only [addHook, update_apply] at hm
      split at hm
      · obtain rfl : shared = true := by simpa using hm
        exact h.shared n (.inl hpc)
      · exact h.shared m hm
  | @hookJoin n shared hpc =>
    refine ⟨fun m hm => ?_, fun m hm => ?_, h.loaded, h.completed_iff⟩
    · simp only [joinHook, update_apply] at hm
      split at hm
      · cases hm
      next hmn =>
        have hold := h.writer m hm
        cases shared with
        | true => simpa [joinHook] using hold
        | false =>
          rw [h.writer n hpc] at hold
          exact absurd (Option.some.inj hold).symm hmn
    · simp only [joinHook, update_apply] at hm
      split at hm
      · simp at hm
      · exact h.shared m hm
  | @loadInvoke r k hpc hr hk hlock =>
    refine ⟨h.writer, h.shared, fun hcomp => ?_, h.completed_iff⟩
    have hdone := h.loaded hcomp r hr
    rw [hpc] at hdone
    exact absurd (LoadPc.invoking.inj hdone) (by omega)
  | @loadAdd r k hpc =>
    refine ⟨h.writer, h.shared, fun hcomp r' hr' => ?_, h.completed_iff⟩
    have hdone := h.loaded hcomp r' hr'
    by_cases hrr : r' = r
    · subst hrr
      rw [hpc] at hdone
      cases hdone
    · simpa [update_of_ne hrr] using hdone
  | completeStore hpc hloads =>
    exact ⟨h.writer, fun _ _ => rfl, fun _ => hloads, by simp⟩
  | completeCount hpc | completeInvoke hpc hlock =>
    refine ⟨h.writer, h.shared, h.loaded, ?_⟩
    simp [h.completed_iff.mpr (by simp [hpc])]

variable {n r k : Nat} {shared : Bool} {hooks : Nat → HookPc} {l : List Nat} {kind : Nat → HookKind}
  {κ : HookKind}

theorem Locks.not_joining (h : Locks su s) (hpc : s.loads r = .invoking k)
    (hr : r < su.plugins) (hk : k < su.impls r) (hlock : s.hookWriter = none) (n : Nat)
    (shared : Bool) : s.hooks n ≠ .joining shared := by
  intro hn
  cases shared with
  | false =>
    have hwriter := h.writer n hn
    rw [hlock] at hwriter
    cases hwriter
  | true =>
    have hdone := h.loaded (h.shared n (.inr hn)) r hr
    rw [hpc] at hdone
    exact absurd (LoadPc.invoking.inj hdone) (by omega)

/-! ## The lists -/

/-- The lists have the hooks that have been added and the implementations that have been
    loaded, each once. -/
structure Lists (su : Setup) (s : PluginLoader) : Prop where
  mem_loadHooks : ∀ n, n ∈ s.loadHooks ↔ su.kind n = .load ∧ (s.hooks n).Added
  nodup_loadHooks : s.loadHooks.Nodup
  mem_completedHooks : ∀ n, n ∈ s.completedHooks ↔ su.kind n = .completed ∧ (s.hooks n).Added
  nodup_completedHooks : s.completedHooks.Nodup
  mem_activePlugins : ∀ i : Impl, i ∈ s.activePlugins ↔ 2 * i.2 + 2 ≤ (s.loads i.1).stage
  nodup_activePlugins : s.activePlugins.Nodup

theorem lists_new (su : Setup) : Lists su {} where
  mem_loadHooks n := by simp [HookPc.Added]
  nodup_loadHooks := List.nodup_nil
  mem_completedHooks n := by simp [HookPc.Added]
  nodup_completedHooks := List.nodup_nil
  mem_activePlugins i := by simp [LoadPc.stage]
  nodup_activePlugins := List.nodup_nil

section

variable (hmem : ∀ m, m ∈ l ↔ kind m = κ ∧ (hooks m).Added)

include hmem

theorem mem_add_iff (hn : ¬(hooks n).Added) (m : Nat) :
    m ∈ (if kind n = κ then l ++ [n] else l) ↔
      kind m = κ ∧ (update hooks n (.joining shared) m).Added := by
  by_cases hmn : m = n
  · subst hmn
    have hnot : m ∉ l := fun h => hn ((hmem m).mp h).2
    split
    next hkind => simp [hkind, HookPc.Added]
    next hkind => simp [hnot, hkind]
  · rw [update_of_ne hmn, ← hmem m]
    split
    · simp [hmn]
    · rfl

theorem nodup_add (hnd : l.Nodup)
    (hn : ¬(hooks n).Added) : (if kind n = κ then l ++ [n] else l).Nodup := by
  split
  · exact List.Nodup.append hnd (List.nodup_singleton n)
      (List.disjoint_singleton.mpr fun h => hn ((hmem n).mp h).2)
  · exact hnd

end

/-- A call of `Hook` moves on without being added to a list. -/
theorem Lists.setHook (h : Lists su s) {n : Nat} {pc : HookPc}
    (hsame : pc.Added ↔ (s.hooks n).Added)
    (hs : s' = { s' with
      hooks := update s.hooks n pc, loads := s.loads, activePlugins := s.activePlugins
      loadHooks := s.loadHooks, completedHooks := s.completedHooks }) : Lists su s' := by
  have hadded (m) : (update s.hooks n pc m).Added ↔ (s.hooks m).Added := by
    by_cases hmn : m = n
    · rw [hmn, update_self, hsame]
    · rw [update_of_ne hmn]
  rw [hs]
  refine ⟨fun m => ?_, h.nodup_loadHooks, fun m => ?_, h.nodup_completedHooks,
    h.mem_activePlugins, h.nodup_activePlugins⟩
  · rw [hadded]
    exact h.mem_loadHooks m
  · rw [hadded]
    exact h.mem_completedHooks m

theorem Lists.move (h : Lists su s) (hmove : Move su s e s') : Lists su s' := by
  cases hmove with
  | hookBegin hpc => exact h.setHook (by rw [hpc]; exact Iff.rfl) rfl
  | @hookAdd n shared hpc hlock =>
    have hn : ¬(s.hooks n).Added := by
      rw [hpc]
      exact id
    exact ⟨mem_add_iff h.mem_loadHooks hn, nodup_add h.mem_loadHooks h.nodup_loadHooks hn,
      mem_add_iff h.mem_completedHooks hn,
      nodup_add h.mem_completedHooks h.nodup_completedHooks hn, h.mem_activePlugins,
      h.nodup_activePlugins⟩
  | hookJoin hpc => exact h.setHook (by rw [hpc]; exact Iff.rfl) rfl
  | @loadInvoke r k hpc hr hk hlock =>
    refine ⟨h.mem_loadHooks, h.nodup_loadHooks, h.mem_completedHooks, h.nodup_completedHooks,
      fun i => ?_, h.nodup_activePlugins⟩
    dsimp only
    rw [h.mem_activePlugins]
    by_cases hir : i.1 = r
    · -- one more stage, of the same implementation
      rw [hir, hpc, update_self, LoadPc.stage, LoadPc.stage]
      omega
    · rw [update_of_ne hir]
  | @loadAdd r k hpc =>
    have hstage : (s.loads r).stage = 2 * k + 1 := by rw [hpc, LoadPc.stage]
    refine ⟨h.mem_loadHooks, h.nodup_loadHooks, h.mem_completedHooks, h.nodup_completedHooks,
      fun i => ?_, ?_⟩
    · obtain ⟨r', k'⟩ := i
      dsimp only
      rw [List.mem_append, h.mem_activePlugins, List.mem_singleton, Prod.mk.injEq]
      by_cases hrr : r' = r
      · subst hrr
        rw [update_self, hstage, LoadPc.stage]
        omega
      · simp [hrr]
    · refine List.Nodup.append h.nodup_activePlugins (List.nodup_singleton _) ?_
      rw [List.disjoint_singleton, h.mem_activePlugins, hstage]
      omega
  | completeStore hpc hloads | completeCount hpc | completeInvoke hpc hlock =>
    exact ⟨h.1, h.2, h.3, h.4, h.5, h.6⟩

/-! ## Counting invocations -/

theorem count_invoke (hnd : l.Nodup) (p : Nat → Bool) (i j : Impl) (n : Nat) :
    ((l.filter p).map (·, i)).count (n, j) = if j = i ∧ n ∈ l ∧ p n = true then 1 else 0 := by
  rw [((hnd.filter p).map fun a b hab => (Prod.mk.inj hab).1).count]
  refine if_congr ?_ rfl rfl
  simp [and_comm, @eq_comm _ j]

theorem count_join {l : List Impl} (hnd : l.Nodup) (p : Impl → Bool) (n m : Nat) (i : Impl) :
    ((l.filter p).map (Prod.mk n)).count (m, i) = if m = n ∧ i ∈ l ∧ p i = true then 1 else 0 := by
  rw [((hnd.filter p).map fun a b hab => (Prod.mk.inj hab).2).count]
  refine if_congr ?_ rfl rfl
  simp [-Prod.exists, and_comm, @eq_comm _ m]

theorem count_fst_append (l : List (Nat × Nat)) (hooks : List Nat) (k n : Nat) :
    ((l ++ hooks.map (·, k)).map Prod.fst).count n = (l.map Prod.fst).count n + hooks.count n := by
  simp [comp_def]

theorem loadCount_joinHook (h : Lists su s) (n : Nat) (shared : Bool) (m : Nat) (i : Impl) :
    (s.joinHook su n shared).loadCount m i = s.loadCount m i +
      if su.kind n = .load ∧ m = n ∧ i ∈ s.activePlugins ∧ su.shouldInvoke n i = true
        then 1 else 0 := by
  unfold loadCount joinHook
  by_cases hkind : su.kind n = .load
  · rw [if_pos hkind, List.count_append, count_join h.nodup_activePlugins]
    simp [hkind]
  · simp [hkind]

theorem completedCount_joinHook (su : Setup) (s : PluginLoader) (n : Nat)
    (shared : Bool) (m : Nat) :
    (s.joinHook su n shared).completedCount m = s.completedCount m +
      if su.kind n = .completed ∧ s.completed = true ∧ m = n then 1 else 0 := by
  unfold completedCount joinHook
  dsimp only
  by_cases hcond : su.kind n = .completed ∧ s.completed = true
  · rw [if_pos hcond, List.map_append, List.count_append, List.map_singleton, List.count_singleton]
    by_cases hmn : m = n
    · simp [hcond, hmn]
    · have hnm : n ≠ m := fun heq => hmn heq.symm
      simp [hmn, hnm]
  · rw [if_neg hcond, if_neg fun h => hcond ⟨h.1, h.2.1⟩, Nat.add_zero]

structure Uninvoked (su : Setup) (s : PluginLoader) : Prop where
  load : ∀ n i, s.hooks n ≠ .returned → s.loadCount n i = 0
  other : ∀ n i, su.shouldInvoke n i = false → s.loadCount n i = 0
  completed : ∀ n, ¬(s.hooks n).Added → s.completedCount n = 0

theorem uninvoked_new (su : Setup) : Uninvoked su {} where
  load _ _ _ := rfl
  other _ _ _ := rfl
  completed _ _ := rfl

theorem Uninvoked.setHook (h : Uninvoked su s) (hbefore : ¬(s.hooks n).Added)
    (hhooks : ∀ m ≠ n, s'.hooks m = s.hooks m) (hinvoked : s'.invoked = s.invoked)
    (hcompleted : s'.completedInvoked = s.completedInvoked) : Uninvoked su s' := by
  have hcount : ∀ m, s'.completedCount m = s.completedCount m := by
    intro m
    rw [completedCount, hcompleted, completedCount]
  refine ⟨fun m i hm => ?_, fun m i hm => ?_, fun m hm => ?_⟩
  · rw [loadCount, hinvoked]
    by_cases hmn : m = n
    · refine h.load m i fun hreturned => hbefore ?_
      rw [← hmn, hreturned]
      trivial
    · exact h.load m i (hhooks m hmn ▸ hm)
  · rw [loadCount, hinvoked]
    exact h.other m i hm
  · rw [hcount]
    by_cases hmn : m = n
    · exact h.completed m (hmn ▸ hbefore)
    · exact h.completed m (hhooks m hmn ▸ hm)

theorem Uninvoked.move (h : Uninvoked su s) (hlocks : Locks su s) (hlists : Lists su s)
    (hmove : Move su s e s') : Uninvoked su s' := by
  cases hmove with
  | hookBegin hpc | hookAdd hpc hlock =>
    exact h.setHook (by simp [hpc, HookPc.Added]) (fun m hmn => update_of_ne hmn _ _)
      rfl rfl
  | @hookJoin n shared hpc =>
    -- only the hook that joins can be invoked, and it has returned then
    refine ⟨fun m i hm => ?_, fun m i hm => ?_, fun m hm => ?_⟩
    · have hmn : m ≠ n := by
        rintro rfl
        simp [joinHook] at hm
      rw [loadCount_joinHook hlists, if_neg fun hc => hmn hc.2.1]
      exact h.load m i (by simpa [joinHook, update_of_ne hmn] using hm)
    · rw [loadCount_joinHook hlists, if_neg, h.other m i hm]
      rintro ⟨-, rfl, -, hshould⟩
      rw [hm] at hshould
      cases hshould
    · have hmn : m ≠ n := by
        rintro rfl
        simp [joinHook, HookPc.Added] at hm
      rw [completedCount_joinHook, if_neg fun hc => hmn hc.2.2]
      exact h.completed m (by simpa [joinHook, update_of_ne hmn] using hm)
  | @loadInvoke r k hpc hr hk hlock =>
    refine ⟨fun m i hm => ?_, fun m i hm => ?_, h.completed⟩
    · unfold loadCount
      rw [List.count_append, count_invoke hlists.nodup_loadHooks, if_neg]
      · exact h.load m i hm
      · -- a hook that has been added and has not returned would block the run
        rintro ⟨-, hmem, -⟩
        have hadded := ((hlists.mem_loadHooks m).mp hmem).2
        cases hmpc : s.hooks m with
        | idle | flagged c => simp [hmpc, HookPc.Added] at hadded
        | joining c => exact hlocks.not_joining hpc hr hk hlock m c hmpc
        | returned => exact hm hmpc
    · unfold loadCount
      rw [List.count_append, count_invoke hlists.nodup_loadHooks, if_neg]
      · exact h.other m i hm
      · rintro ⟨rfl, -, hshould⟩
        rw [hm] at hshould
        cases hshould
  | loadAdd hpc | completeStore hpc hloads | completeCount hpc =>
    exact ⟨h.load, h.other, h.completed⟩
  | @completeInvoke numLoaded hpc hlock =>
    refine ⟨h.load, h.other, fun m hm => ?_⟩
    have hnot : m ∉ s.completedHooks := fun hmem => hm ((hlists.mem_completedHooks m).mp hmem).2
    rw [completedCount, count_fst_append, List.count_eq_zero_of_not_mem hnot]
    exact h.completed m hm

/-! ## What is due -/

/-- How often `LoadOne` is still to invoke a hook that has been added, for an implementation. -/
def loadDue (s : PluginLoader) (i : Impl) : Nat := if (s.loads i.1).stage ≤ 2 * i.2 then 1 else 0

/-- How often `Complete` is still to invoke a hook that has been added. -/
def completedDue (s : PluginLoader) : Nat := if s.complete = .returned then 0 else 1

/-- The hook has been invoked as often as it should, less what is due. -/
def OnTrack (su : Setup) (s : PluginLoader) (n : Nat) : Prop :=
  match su.kind n with
  | .load => s.hooks n = .returned → ∀ i, su.Wants n i → s.loadCount n i + s.loadDue i = 1
  | .completed =>
    match s.hooks n with
    | .idle | .flagged _ => True
    | .joining _ => s.completedCount n = 0
    | .returned => s.completedCount n + s.completedDue = 1

/-- A load hook does not join while an implementation it is for is being added, a completed
    hook does not join while `Complete` runs, and `Complete` does not invoke the completed hooks
    while one of them joins. -/
def Allows (su : Setup) (s : PluginLoader) : LoaderEvent → Prop
  | .hookJoin n =>
    match su.kind n with
    | .load => ∀ i, su.Wants n i → s.loads i.1 ≠ .adding i.2
    | .completed => s.completed = true → s.complete = .returned
  | .completeInvoke => ∀ n shared, s.hooks n = .joining shared → su.kind n ≠ .completed
  | .hookBegin _ | .hookAdd _ | .loadInvoke _ | .loadAdd _ | .completeStore | .completeCount => True

structure Consistent (su : Setup) (s : PluginLoader) : Prop where
  locks : Locks su s
  lists : Lists su s
  uninvoked : Uninvoked su s

theorem consistent_new (su : Setup) : Consistent su {} :=
  ⟨locks_new su, lists_new su, uninvoked_new su⟩

theorem Consistent.move (h : Consistent su s) (hmove : Move su s e s') : Consistent su s' :=
  ⟨h.locks.move hmove, h.lists.move hmove, h.uninvoked.move h.locks h.lists hmove⟩

theorem onTrack_congr (hpc : s'.hooks n = s.hooks n)
    (hload : su.kind n = .load → s.hooks n = .returned → ∀ i, su.Wants n i →
      s'.loadCount n i + s'.loadDue i = s.loadCount n i + s.loadDue i)
    (hcompleted : s'.completedCount n = s.completedCount n)
    (hdue : s'.completedDue = s.completedDue) : OnTrack su s' n ↔ OnTrack su s n := by
  unfold OnTrack
  rw [hpc, hcompleted, hdue]
  split
  next hkind =>
    refine forall_congr' fun hret => forall_congr' fun i => forall_congr' fun hs => ?_
    rw [hload hkind hret i hs]
  · exact Iff.rfl

theorem onTrack_of_not_added (h : ¬(s.hooks n).Added) : OnTrack su s n := by
  unfold OnTrack
  cases hpc : s.hooks n with
  | idle | flagged completed => split <;> simp
  | joining shared | returned => simp [hpc, HookPc.Added] at h

theorem onTrack_of_joining (hpc : s.hooks n = .joining shared)
    (hcount : s.completedCount n = 0) : OnTrack su s n := by
  unfold OnTrack
  rw [hpc]
  cases su.kind n with
  | load => exact fun hret => by cases hret
  | completed => exact hcount

theorem loadCount_join_iff (h : Consistent su s)
    (hpc : s.hooks n = .joining shared) (hkind : su.kind n = .load) {i : Impl}
    (hshould : su.shouldInvoke n i = true) :
    (s.joinHook su n shared).loadCount n i + s.loadDue i = 1 ↔ s.loads i.1 ≠ .adding i.2 := by
  have hzero : s.loadCount n i = 0 := h.uninvoked.load n i (by simp [hpc])
  rw [loadCount_joinHook h.lists, hzero, loadDue]
  simp only [h.lists.mem_activePlugins, hkind, hshould, true_and, and_true]
  cases hload : s.loads i.1 with
  | invoking k | adding k =>
    rw [LoadPc.stage]
    split <;> split <;> simp <;> omega

theorem onTrack_joinHook (h : Consistent su s) (hpc : s.hooks n = .joining shared) :
    OnTrack su (s.joinHook su n shared) n ↔ OnTrack su s n ∧ Allows su s (.hookJoin n) := by
  have hret : (s.joinHook su n shared).hooks n = .returned := by simp [joinHook]
  have hdue : (s.joinHook su n shared).completedDue = s.completedDue := rfl
  unfold OnTrack Allows
  rw [hret, hpc]
  cases hkind : su.kind n with
  | load =>
    simp only [hkind, reduceCtorEq, false_implies, forall_const, true_and]
    exact forall_congr' fun i => forall_congr' fun hs => loadCount_join_iff h hpc hkind hs.2.2
  | completed =>
    rw [completedCount_joinHook, hdue, completedDue]
    have hflag := h.locks.completed_iff
    by_cases hcomp : s.completed = true <;> by_cases hdone : s.complete = .returned
    · simp [hkind, hcomp, hdone]
    · simp [hkind, hcomp, hdone]
    · rw [hdone] at hflag
      exact absurd (hflag.mpr (by simp)) hcomp
    · simp [hkind, hcomp, hdone]

theorem loadDue_loadInvoke (hpc : s.loads r = .invoking k) (i : Impl) :
    s.loadDue i = (if (update s.loads r (.adding k) i.1).stage ≤ 2 * i.2 then 1 else 0) +
      if i = (r, k) then 1 else 0 := by
  obtain ⟨r', k'⟩ := i
  rw [loadDue]
  by_cases hrr : r' = r
  · subst hrr
    rw [hpc, update_self, LoadPc.stage, LoadPc.stage]
    simp only [Prod.mk.injEq, true_and]
    split <;> split <;> split <;> omega
  · simp [hrr]

theorem onTrack_completeInvoke (h : Consistent su s) {numLoaded : Nat}
    (hpc : s.complete = .counted numLoaded) (n : Nat)
    (hcount : s'.completedCount n = s.completedCount n + s.completedHooks.count n)
    (hhooks : s'.hooks = s.hooks) (hinvoked : s'.invoked = s.invoked) (hloads : s'.loads = s.loads)
    (hdone : s'.complete = .returned) :
    OnTrack su s' n ↔
      OnTrack su s n ∧ ∀ shared, s.hooks n = .joining shared → su.kind n ≠ .completed := by
  have hmem := h.lists.mem_completedHooks n
  have hdue : s.completedDue = 1 := by simp [completedDue, hpc]
  have hdue' : s'.completedDue = 0 := by simp [completedDue, hdone]
  have hload : ∀ i, s'.loadCount n i + s'.loadDue i = s.loadCount n i + s.loadDue i := by
    intro i
    rw [loadCount, loadDue, hinvoked, hloads, loadCount, loadDue]
  unfold OnTrack
  rw [hhooks, hcount, h.lists.nodup_completedHooks.count, hdue, hdue']
  cases hkind : su.kind n with
  | load => simp [hload]
  | completed =>
    cases hn : s.hooks n with
    | idle | flagged completed => simp
    | joining shared | returned => simp [hmem, hkind, hn, HookPc.Added]

theorem forall_iff_of_others {p q : Nat → Prop} {a : Prop} (hothers : ∀ m ≠ n, (p m ↔ q m))
    (hself : p n ↔ q n ∧ a) : (∀ m, p m) ↔ (∀ m, q m) ∧ a := by
  constructor
  · intro h
    obtain ⟨hn, ha⟩ := hself.mp (h n)
    exact ⟨fun m => (eq_or_ne m n).elim (· ▸ hn) fun hm => (hothers m hm).mp (h m), ha⟩
  · rintro ⟨h, ha⟩ m
    exact (eq_or_ne m n).elim (· ▸ hself.mpr ⟨h n, ha⟩) fun hm => (hothers m hm).mpr (h m)

/-- A step leaves every hook on track just when every one was and the step is allowed. -/
theorem onTrack_move (h : Consistent su s) (hmove : Move su s e s') :
    (∀ n, OnTrack su s' n) ↔ (∀ n, OnTrack su s n) ∧ Allows su s e := by
  cases hmove with
  | @hookBegin n hpc =>
    refine forall_iff_of_others (n := n) (fun m hmn => ?_) (iff_of_true ?_ ⟨?_, trivial⟩)
    · exact onTrack_congr (update_of_ne hmn _ _) (fun _ _ _ _ => rfl) rfl rfl
    · exact onTrack_of_not_added (by simp [HookPc.Added])
    · exact onTrack_of_not_added (by simp [hpc, HookPc.Added])
  | @hookAdd n shared hpc hlock =>
    have hnot : ¬(s.hooks n).Added := by simp [hpc, HookPc.Added]
    refine forall_iff_of_others (n := n) (fun m hmn => ?_) (iff_of_true ?_ ⟨?_, trivial⟩)
    · exact onTrack_congr (update_of_ne hmn _ _) (fun _ _ _ _ => rfl) rfl rfl
    · exact onTrack_of_joining (update_self _ _ _) (h.uninvoked.completed n hnot)
    · exact onTrack_of_not_added hnot
  | @hookJoin n shared hpc =>
    -- the one step of `Hook` that can invoke: the condition is about its own hook
    refine forall_iff_of_others (fun m hmn => ?_) (onTrack_joinHook h hpc)
    refine onTrack_congr (update_of_ne hmn _ _) (fun _ _ i _ => ?_) ?_ rfl
    · rw [loadCount_joinHook h.lists, if_neg fun hc => hmn hc.2.1]
      rfl
    · rw [completedCount_joinHook, if_neg fun hc => hmn hc.2.2, Nat.add_zero]
  | @loadInvoke r k hpc hr hk hlock =>
    refine (forall_congr' fun m => ?_).trans (and_iff_left trivial).symm
    refine onTrack_congr rfl (fun hkind hret i hwants => ?_) rfl rfl
    -- a hook that has returned is in the list, and is due for this implementation
    have hmem : m ∈ s.loadHooks :=
      (h.lists.mem_loadHooks m).mpr ⟨hkind, by simp [hret, HookPc.Added]⟩
    unfold loadCount
    rw [List.count_append, count_invoke h.lists.nodup_loadHooks, loadDue_loadInvoke hpc, loadDue]
    by_cases hi : i = (r, k)
    · subst hi
      simp only [hmem, hwants.2.2, and_self, if_true]
      omega
    · simp only [hi, false_and, if_false, Nat.add_zero]
  | @loadAdd r k hpc =>
    -- the implementation was no longer due, and the next one still is
    refine (forall_congr' fun m => ?_).trans (and_iff_left trivial).symm
    refine onTrack_congr rfl (fun _ _ i _ => congrArg (s.loadCount m i + ·) ?_) rfl rfl
    unfold loadDue
    dsimp only
    refine if_congr ?_ rfl rfl
    by_cases hir : i.1 = r
    · rw [hir, hpc, update_self, LoadPc.stage, LoadPc.stage]
      omega
    · rw [update_of_ne hir]
  | completeStore hpc hloads | completeCount hpc =>
    refine (forall_congr' fun m => ?_).trans (and_iff_left trivial).symm
    exact onTrack_congr rfl (fun _ _ _ _ => rfl) rfl (by simp [completedDue, hpc])
  | @completeInvoke numLoaded hpc hlock =>
    rw [Allows, ← forall_and]
    refine forall_congr' fun m => onTrack_completeInvoke h hpc m ?_ rfl rfl rfl rfl
    exact count_fst_append ..

/-! ## Every hook is invoked once -/

/-- Every hook that was added has been invoked once: a load hook for each implementation it is
    for, and for no other. -/
structure InvokedOnce (su : Setup) (s : PluginLoader) : Prop where
  load : ∀ n, su.kind n = .load → s.hooks n = .returned →
    ∀ r < su.plugins, ∀ k < su.impls r,
      s.loadCount n (r, k) = if su.shouldInvoke n (r, k) then 1 else 0
  completed : ∀ n, su.kind n = .completed → s.hooks n = .returned → s.completedCount n = 1

/-- Loading has finished, and no call of `Hook` is under way. -/
structure Finished (s : PluginLoader) : Prop where
  complete : s.complete = .returned
  hooks : ∀ n, s.hooks n = .idle ∨ s.hooks n = .returned

theorem invokedOnce_iff (h : Consistent su s) (hfinished : Finished s) :
    InvokedOnce su s ↔ ∀ n, OnTrack su s n := by
  have hcompleted : s.completed = true :=
    h.locks.completed_iff.mpr (by simp [hfinished.complete])
  have hdue : ∀ r k, r < su.plugins → k < su.impls r → s.loadDue (r, k) = 0 := by
    intro r k hr hk
    rw [loadDue, h.locks.loaded hcompleted r hr, LoadPc.stage]
    rw [if_neg (by omega)]
  have hnone : s.completedDue = 0 := by rw [completedDue, if_pos hfinished.complete]
  constructor
  · intro hinv n
    unfold OnTrack
    cases hkind : su.kind n with
    | load =>
      rintro hret ⟨r, k⟩ ⟨hr, hk, hshould⟩
      rw [hdue r k hr hk, hinv.load n hkind hret r hr k hk, if_pos hshould]
    | completed =>
      rcases hfinished.hooks n with hidle | hret
      · rw [hidle]
        trivial
      · rw [hret, hnone]
        exact hinv.completed n hkind hret
  · intro htrack
    refine ⟨fun n hkind hret r hr k hk => ?_, fun n hkind hret => ?_⟩
    · have hn := htrack n
      rw [OnTrack, hkind] at hn
      cases hshould : su.shouldInvoke n (r, k) with
      | false => exact h.uninvoked.other n (r, k) hshould
      | true =>
        have hsum := hn hret (r, k) ⟨hr, hk, hshould⟩
        rw [hdue r k hr hk] at hsum
        exact hsum
    · have hn := htrack n
      rw [OnTrack, hkind, hret, hnone] at hn
      exact hn

/-- After loading has finished every hook has been invoked exactly once, if and only if no load
    hook joined while an implementation it is for was being added, and no completed hook joined
    while `Complete` ran. -/
theorem hooks_invoked_once (su : Setup) (events : List LoaderEvent) (s : PluginLoader)
    (hrun : run (step su) {} events = some s) (hfinished : Finished s) :
    InvokedOnce su s ↔ Throughout (step su) (Allows su) {} events := by
  have hkept : ∀ t e t', Consistent su t → t.step su e = some t' → Consistent su t' :=
    fun t e t' ht hstep => ht.move (move_of_step hstep)
  have htrack : ∀ t e t', Consistent su t → t.step su e = some t' →
      ((∀ n, OnTrack su t' n) ↔ (∀ n, OnTrack su t n) ∧ Allows su t e) :=
    fun t e t' ht hstep => onTrack_move ht (move_of_step hstep)
  have hstart : ∀ n, OnTrack su {} n := fun n => onTrack_of_not_added (s := {}) id
  have hend : Consistent su s := by
    have hreach : Reaches (step su) (fun _ _ => True) {} s :=
      Reaches.run .refl hrun fun _ _ _ => trivial
    exact hreach.invariant (I := Consistent su) (consistent_new su)
      fun t e t' ht _ hstep => hkept t e t' ht hstep
  rw [invokedOnce_iff hend hfinished, end_iff_throughout hkept htrack (consistent_new su) hrun,
    and_iff_right hstart]

/-- A plugin with one implementation, and hooks of which the first two are load hooks. -/
def onePlugin : Setup where
  kind n := if n < 2 then .load else .completed
  shouldInvoke _ _ := true
  plugins := 1
  impls _ := 1

/-- A call of `Hook` that nothing comes in between of. -/
def hookCall (n : Nat) : List LoaderEvent := [.hookBegin n, .hookAdd n, .hookJoin n]

/-- A load hook is added, the plugin is loaded, and a completed hook is added. -/
def hooksAround : List LoaderEvent :=
  hookCall 0 ++ [.loadInvoke 0, .loadAdd 0, .completeStore, .completeCount, .completeInvoke] ++
    hookCall 2

theorem hooks_invoked_once_around :
    ∃ s, run (step onePlugin) {} hooksAround = some s ∧ Finished s ∧ InvokedOnce onePlugin s := by
  obtain ⟨s, hs⟩ : ∃ s, run (step onePlugin) {} hooksAround = some s :=
    Option.isSome_iff_exists.mp (by decide +kernel)
  have hfinished : Finished s := by
    simp [hooksAround, hookCall, run, step, canLock, addHook, joinHook, onePlugin] at hs
    subst hs
    refine ⟨rfl, fun n => ?_⟩
    simp only [update_apply]
    split_ifs <;> simp
  refine ⟨s, hs, hfinished, (hooks_invoked_once onePlugin _ s hs hfinished).mpr ?_⟩
  simp [hooksAround, hookCall, Throughout, Allows, step, canLock, addHook, joinHook, onePlugin]
  intro n
  rw [update_apply]
  split_ifs <;> simp

/-- A load hook joins while the implementation is being added, and is not invoked for it. -/
def joinsLoading : List LoaderEvent :=
  [.loadInvoke 0] ++ hookCall 0 ++ [.loadAdd 0, .completeStore, .completeCount, .completeInvoke]

/-- A completed hook joins after the flag is set, and is invoked by `Hook` and by `Complete`. -/
def joinsCompleting : List LoaderEvent :=
  [.loadInvoke 0, .loadAdd 0, .completeStore] ++ hookCall 2 ++ [.completeCount, .completeInvoke]

theorem hooks_missed_or_repeated :
    (∃ s, run (step onePlugin) {} joinsLoading = some s ∧ Finished s ∧
      onePlugin.kind 0 = .load ∧ s.hooks 0 = .returned ∧ onePlugin.shouldInvoke 0 (0, 0) = true ∧
      s.loadCount 0 (0, 0) = 0) ∧
    ∃ s, run (step onePlugin) {} joinsCompleting = some s ∧ Finished s ∧
      onePlugin.kind 2 = .completed ∧ s.hooks 2 = .returned ∧ s.completedCount 2 = 2 := by
  constructor
  · simp [joinsLoading, hookCall, run, step, canLock, addHook, joinHook, onePlugin, loadCount]
    refine ⟨rfl, fun n => ?_⟩
    simp only [update_apply]
    split_ifs <;> simp
  · simp [joinsCompleting, hookCall, run, step, canLock, addHook, joinHook, onePlugin,
      completedCount]
    refine ⟨rfl, fun n => ?_⟩
    simp only [update_apply]
    split_ifs <;> simp

end PluginLoader

end Opni.Plugins
