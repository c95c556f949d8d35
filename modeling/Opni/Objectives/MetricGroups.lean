/-
  Opni.Objectives.MetricGroups

  The group that `scoredLabels` puts a series into.  A series goes to the
  group with its highest score; between equal scores the order of a map
  decides.
-/

import Opni.Objectives.MultiClusterClone

namespace Opni.Objectives.MultiClusterClone

open Lib MetricGroupList

/-! ## Lists -/

def MetricGroupList.metrics (groups : MetricGroupList) (group : String) : List String :=
  (groups.lookup group).getD []

theorem containsId_iff {groups : MetricGroupList} {id : String} :
    groups.containsId id = true ↔ ∃ g, id ∈ groups.metrics g := by
  rw [containsId, List.contains_iff_mem, List.mem_flatMap]
  constructor
  · rintro ⟨⟨g, l⟩, hmem, hid⟩
    exact ⟨g, by rwa [metrics, GoMap.mem_entries.mp hmem]⟩
  · rintro ⟨g, hid⟩
    cases hlookup : groups.lookup g with
    | none => simp [metrics, hlookup] at hid
    | some l =>
      exact ⟨⟨g, l⟩, GoMap.mem_entries.mpr hlookup,
        by simpa [metrics, hlookup] using hid⟩

theorem metrics_foldl_add (group : String → String) (series : List String)
    (groups : MetricGroupList) (g : String) :
    (series.foldl (fun groups s => add groups (group s) s) groups).metrics g =
      groups.metrics g ++ series.filter (group · = g) := by
  induction series generalizing groups with
  | nil => simp
  | cons s series ih =>
    rw [List.foldl_cons, ih]
    by_cases hg : group s = g
    · subst hg
      simp [metrics, add]
    · simp [metrics, add, hg, Ne.symm hg]

section Series

variable {filters : List Filter} {orders : Orders} {series : List String} {s g : String}

theorem metrics_scoredLabels : (scoredLabels filters orders series).metrics g =
    (orders.series.order (series.filter fun s => (scores filters s).entries ≠ [])).filter
      fun s => bestGroup orders.groups (scores filters s) = g :=
  metrics_foldl_add ..

theorem containsId_scoredLabels : (scoredLabels filters orders series).containsId s = true ↔
    s ∈ series ∧ (scores filters s).entries ≠ [] := by
  simp [containsId_iff, metrics_scoredLabels, (orders.series.perm _).mem_iff]

theorem count_scoredLabels (hseries : series.Nodup) (hs : s ∈ series) :
    ((scoredLabels filters orders series).metrics g).count s =
      if (scores filters s).entries ≠ [] ∧ bestGroup orders.groups (scores filters s) = g
      then 1 else 0 := by
  rw [metrics_scoredLabels, ((orders.series.perm _).filter _).count_eq]
  split
  next h =>
    rw [List.count_filter (by simpa using h.2), List.count_filter (by simpa using h.1)]
    exact List.count_eq_one_of_mem hseries hs
  next h =>
    refine List.count_eq_zero_of_not_mem fun hmem => h ?_
    simp only [List.mem_filter, decide_eq_true_eq] at hmem
    exact ⟨hmem.1.2, hmem.2⟩

end Series

/-! ## Scores -/

/-- The scores of the expressions that match. -/
def matchingScores (sign : Int) (s : String) (values : List FilterValue) : List Int :=
  (values.filter (·.matchString s)).map (sign * ·.score)

def Filter.matching (f : Filter) (s : String) : List Int :=
  matchingScores 1 s f.filters ++ matchingScores (-1) s f.ignore

def Filter.total (f : Filter) (s : String) : Int := (f.matching s).sum

section Scores

variable {filters : List Filter} {s : String}

theorem lookup_foldl_insert (group : String) (vals : List Int) (m : GoMap String Int) (g : String) :
    (vals.foldl (fun m v => m.insert group ((m.lookup group).getD 0 + v)) m).lookup g =
      if g = group ∧ vals ≠ [] then some ((m.lookup group).getD 0 + vals.sum) else m.lookup g := by
  induction vals generalizing m with
  | nil => simp
  | cons v vals ih =>
    rw [List.foldl_cons, ih]
    by_cases hg : g = group <;> by_cases hnil : vals = [] <;>
      simp [hg, hnil, GoMap.lookup_insert_eq, Int.add_assoc]

theorem foldl_addScore (group : String) (sign : Int) (values : List FilterValue)
    (m : GoMap String Int) : values.foldl (addScore group s sign) m =
      (matchingScores sign s values).foldl
        (fun m v => m.insert group ((m.lookup group).getD 0 + v)) m := by
  rw [matchingScores, List.foldl_map, List.foldl_filter]
  rfl

theorem mem_entries_scores (hfilters : (filters.map (·.name)).Nodup) {e : Σ _ : String, Int} :
    e ∈ (scores filters s).entries ↔
      ∃ f ∈ filters, f.matching s ≠ [] ∧ (⟨f.name, f.total s⟩ : Σ _ : String, Int) = e := by
  obtain ⟨g, t⟩ := e
  rw [GoMap.mem_entries]
  induction filters using List.reverseRecOn generalizing t with
  | nil => simp [scores]
  | append_singleton filters f ih =>
    rw [List.map_append, List.nodup_append] at hfilters
    obtain ⟨hnd, -, hdisj⟩ := hfilters
    rw [scores, List.foldl_concat, ← scores, foldl_addScore, foldl_addScore, ← List.foldl_append,
      ← Filter.matching, lookup_foldl_insert, ← Filter.total]
    simp only [List.mem_append, List.mem_singleton, or_and_right, exists_or, exists_eq_left]
    by_cases hg : g = f.name
    · subst hg
      -- the groups before have other names
      have hnone : (scores filters s).lookup f.name = none := by
        refine Option.eq_none_iff_forall_ne_some.mpr fun t ht => ?_
        obtain ⟨f', hf', -, heq⟩ := (ih hnd t).mp ht
        exact hdisj _ (List.mem_map_of_mem hf') _ (by simp) (congrArg Sigma.fst heq)
      have hothers := ih hnd t
      rw [hnone] at hothers
      rw [← hothers]
      by_cases hmatch : f.matching s = [] <;> simp [hnone, hmatch]
    · simp [hg, Ne.symm hg, ih hnd]

end Scores

/-! ## Groups -/

/-- The score of the group is positive, and no other one is higher. -/
def Filter.Top (f : Filter) (filters : List Filter) (s : String) : Prop :=
  0 < f.total s ∧ ∀ f' ∈ filters, f'.total s ≤ f.total s

/-- The group that a series belongs to. -/
def Best (filters : List Filter) (s group : String) : Prop :=
  (∃ f ∈ filters, f.name = group ∧ f.Top filters s) ∨
    group = "other metrics" ∧ ∀ f ∈ filters, f.total s ≤ 0

theorem foldl_best (vals : List (Σ _ : String, Int)) (best : String × Int) :
    let last := vals.foldl (fun best e => if e.2 > best.2 then (e.1, e.2) else best) best
    (∀ e ∈ vals, e.2 ≤ last.2) ∧
      (last = best ∨ best.2 < last.2 ∧ ∃ e ∈ vals, last = (e.1, e.2)) := by
  induction vals generalizing best with
  | nil => exact ⟨nofun, .inl rfl⟩
  | cons e vals ih =>
    have hlast := ih (if e.2 > best.2 then (e.1, e.2) else best)
    dsimp only [List.foldl_cons] at hlast ⊢
    generalize vals.foldl _ _ = last at hlast
    split at hlast <;> grind

section Best

variable {filters : List Filter} {s : String} (hfilters : (filters.map (·.name)).Nodup)
include hfilters

theorem total_le {b : Int} (hb : 0 ≤ b) (h : ∀ e ∈ (scores filters s).entries, e.2 ≤ b) :
    ∀ f ∈ filters, f.total s ≤ b := by
  intro f hf
  by_cases hmatch : f.matching s = []
  · simpa [Filter.total, hmatch] using hb
  · exact h _ ((mem_entries_scores hfilters).mpr ⟨f, hf, hmatch, rfl⟩)

theorem best_bestGroup (order : Scheduler (Σ _ : String, Int)) :
    Best filters s (bestGroup order (scores filters s)) := by
  have hmem {e} := (order.perm (scores filters s).entries).mem_iff (a := e)
  obtain ⟨hmax, hlast⟩ := foldl_best (order.order (scores filters s).entries) ("", 0)
  unfold bestGroup
  rcases hlast with hlast | ⟨hpos, e, he, hlast⟩
  · rw [hlast] at hmax ⊢
    exact .inr ⟨rfl, total_le hfilters le_rfl fun e he => hmax e (hmem.mpr he)⟩
  · rw [hlast] at hmax hpos ⊢
    obtain ⟨f, hf, -, rfl⟩ := (mem_entries_scores hfilters).mp (hmem.mp he)
    exact .inl ⟨f, hf, (if_neg hpos.not_ge).symm, hpos,
      total_le hfilters hpos.le fun e he => hmax e (hmem.mpr he)⟩

/-- A group of the highest score is chosen if it comes first. -/
theorem bestGroup_front {f : Filter} (hf : f ∈ filters) (htop : f.Top filters s) :
    bestGroup (.front ⟨f.name, f.total s⟩) (scores filters s) = f.name := by
  have hmatch : f.matching s ≠ [] := by
    intro hnil
    simpa [Filter.total, hnil] using htop.1
  unfold bestGroup Scheduler.front
  dsimp only
  rw [if_pos ((mem_entries_scores hfilters).mpr ⟨f, hf, hmatch, rfl⟩), List.foldl_cons,
    if_pos htop.1]
  rcases (foldl_best _ (f.name, f.total s)).2 with hlast | ⟨hlt, e, he, hlast⟩
  · rw [hlast, if_neg htop.1.not_ge]
  · obtain ⟨f', hf', -, rfl⟩ := (mem_entries_scores hfilters).mp (List.mem_of_mem_erase he)
    rw [hlast] at hlt
    exact absurd hlt (htop.2 f' hf').not_gt

omit hfilters in
theorem Best.unique {group group' : String} (h : Best filters s group)
    (h' : Best filters s group') (hunique : ∀ f ∈ filters, ∀ f' ∈ filters,
      f.Top filters s → f'.Top filters s → f.name = f'.name) : group = group' := by
  rcases h with ⟨f, hf, rfl, htop⟩ | ⟨rfl, hall⟩ <;>
    rcases h' with ⟨f', hf', rfl, htop'⟩ | ⟨rfl, hall'⟩
  · exact hunique f hf f' hf' htop htop'
  · exact absurd (hall' f hf) htop.1.not_ge
  · exact absurd (hall f' hf') htop'.1.not_ge
  · rfl

end Best

/-- Each series is once in the group that it belongs to and in no other one, whatever the orders,
    exactly if some expression matches it and no two groups have its highest score. -/
theorem scoredLabels_stable_iff {filters : List Filter} {series : List String}
    (hfilters : (filters.map (·.name)).Nodup) (hseries : series.Nodup) :
    (∀ s ∈ series, ∃ group, Best filters s group ∧ ∀ orders g,
      ((scoredLabels filters orders series).metrics g).count s = if g = group then 1 else 0) ↔
    ∀ s ∈ series, (∃ f ∈ filters, f.matching s ≠ []) ∧ ∀ f ∈ filters, ∀ f' ∈ filters,
      f.Top filters s → f'.Top filters s → f.name = f'.name := by
  refine forall₂_congr fun s hs => ?_
  have hmatched : (scores filters s).entries ≠ [] ↔ ∃ f ∈ filters, f.matching s ≠ [] := by
    simp [List.eq_nil_iff_forall_not_mem, mem_entries_scores hfilters]
  simp only [count_scoredLabels hseries hs, ← hmatched]
  constructor
  · rintro ⟨group, -, hplaced⟩
    have hgroup (order : Scheduler (Σ _ : String, Int)) :
        (scores filters s).entries ≠ [] ∧ bestGroup order (scores filters s) = group := by
      simpa using hplaced ⟨.inOrder _, order⟩ group
    refine ⟨(hgroup (.inOrder _)).1, fun f hf f' hf' htop htop' => ?_⟩
    rw [← bestGroup_front hfilters hf htop, (hgroup _).2, ← bestGroup_front hfilters hf' htop',
      (hgroup _).2]
  · rintro ⟨hmatch, hunique⟩
    refine ⟨_, best_bestGroup hfilters (.inOrder _), fun orders g => ?_⟩
    rw [(best_bestGroup hfilters orders.groups).unique (best_bestGroup hfilters (.inOrder _))
      hunique]
    simp only [ne_eq, hmatch, not_false_eq_true, true_and, eq_comm]

instance (filters : List Filter) (s : String) (f : Filter) : Decidable (f.Top filters s) :=
  inferInstanceAs (Decidable (_ ∧ ∀ f' ∈ filters, _))

/-- A series of each of two groups, and one that belongs to neither. -/
theorem scoredLabels_stable_three :
    let network : Filter := ⟨"network metrics", [⟨(· = "up"), 10⟩], [⟨fun _ => true, 3⟩]⟩
    let storage : Filter := ⟨"storage metrics", [⟨(· = "disk"), 5⟩, ⟨(· ≠ "idle"), 1⟩], []⟩
    let series := ["up", "disk", "idle"]
    (network.total "up", storage.total "up", storage.total "disk", network.total "idle") =
        (7, 1, 6, -3) ∧
      ∀ s ∈ series, ∃ group, Best [network, storage] s group ∧ ∀ orders g,
        ((scoredLabels [network, storage] orders series).metrics g).count s =
          if g = group then 1 else 0 := by
  intro network storage series
  exact ⟨by decide, (scoredLabels_stable_iff (by decide) (by decide)).mpr (by decide)⟩

/-- A series that nothing matches is in no group.  With two groups of one score the order
    decides. -/
theorem unmatched_series_lost :
    let network : Filter := ⟨"network metrics", [⟨(· = "up"), 1⟩], []⟩
    let storage : Filter := ⟨"storage metrics", [⟨(· = "up"), 1⟩], []⟩
    let groups series first := (scoredLabels [network, storage]
      ⟨.inOrder _, .front ⟨first, 1⟩⟩ [series]).entries.map fun e => (e.1, e.2)
    groups "down" "network metrics" = [] ∧
      groups "up" "network metrics" = [("network metrics", ["up"])] ∧
      groups "up" "storage metrics" = [("storage metrics", ["up"])] := by
  decide

end Opni.Objectives.MultiClusterClone
