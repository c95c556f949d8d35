/-
  Opni.Objectives.FailedChanges

  What a change to an objective that fails leaves behind, for any of the calls
  to `LoadRules` and to the store that fail.
-/

import Opni.Objectives.Groups

namespace Opni.Objectives

open Lib

/-! ## Statements -/

section Statements

variable {β : Type} (texts : Texts β) (faults : Faults)

def LoadsSucceed : Prop := ∀ i < 3, faults.load i = none

instance : Decidable (LoadsSucceed faults) := inferInstanceAs (Decidable (∀ i < 3, _))

variable (clusters : Except Status (List String)) (slo : ServiceLevelObjective β)

/-- The request is valid, and its datasource has a store. -/
def Accepted : Prop :=
  checkRequest texts clusters slo = none ∧ registered slo.datasource = true

instance :
    Decidable (Accepted texts clusters slo) :=
  inferInstanceAs (Decidable (_ ∧ _))

/-- If `CreateSLO` fails, Cortex has no group of the new id, and nothing is stored. -/
def CreateHasNoEffect (newId : String)
    (slo : ServiceLevelObjective β) (p : Plugin β) : Prop :=
  (∃ errs, (createSLO texts faults clusters newId slo p).2 = .error errs) →
    (createSLO texts faults clusters newId slo p).1.slos = p.slos ∧
    ∀ clusterId, ∀ name ∈ groupNames newId,
      (createSLO texts faults clusters newId slo p).1.groups (clusterId, name) = none

/-- The objective `s` is stored in `q`, with the groups that it has in `p`. -/
def Kept (s : SLOData β) (p q : Plugin β) : Prop :=
  q.slos (sloKey s.id) = some s ∧
    ∀ name ∈ groupNames s.id, q.groups (s.slo.clusterId, name) = p.groups (s.slo.clusterId, name)

/-- If `UpdateSLO` fails, the objective that is stored is kept. -/
def UpdateHasNoEffect (newId deleteId : String)
    (req s : SLOData β) (p : Plugin β) : Prop :=
  (∃ errs, (updateSLO texts faults clusters newId deleteId req p).2 = .error errs) →
    Kept s p (updateSLO texts faults clusters newId deleteId req p).1

/-- The deletion of an objective that moves fails before it has deleted anything. -/
def DeleteFailsEarly (deleteId : String) (s : SLOData β) : Prop :=
  faults.deleteGet ≠ none ∨ registered s.slo.datasource = false ∨
    faults.delete ≠ none ∧ ∀ name ∈ groupNames s.id,
      name ∉ ruleNames (constructCortexRules texts.text
        (sloDataToStruct deleteId ⟨s.id, texts.matched s.slo⟩))

variable (newId : String)

def updatedRules (req : SLOData β) : List RuleGroup :=
  constructCortexRules texts.text (sloDataToStruct newId ⟨req.id, texts.matched req.slo⟩)

variable (req s : SLOData β)

/-- The update loads the groups of the objective that is stored. -/
def Overwrites : Prop :=
  s.slo.clusterId = req.slo.clusterId ∧ (sloDataToStruct newId req).id = s.id

instance : Decidable (Overwrites newId req s) :=
  inferInstanceAs (Decidable (_ ∧ _))

/-- The calls of an accepted update that fail do no harm: with a group that cannot be loaded, the
    groups are not those of the stored objective; with a store that cannot be written, the groups
    that are loaded are what was there, and a move has not deleted the objective. -/
def Harmless (newId deleteId : String) (req s : SLOData β) (p : Plugin β) : Prop :=
  if LoadsSucceed faults then
    faults.put ≠ none →
      (Overwrites newId req s → ∀ name ∈ groupNames s.id,
        groupsOf s.slo.clusterId (updatedRules texts newId req) (s.slo.clusterId, name) =
          p.groups (s.slo.clusterId, name)) ∧
      (s.slo.clusterId ≠ req.slo.clusterId → DeleteFailsEarly texts faults deleteId s)
  else ¬Overwrites newId req s

end Statements

/-! ## Creation -/

section Create

variable {β : Type} {texts : Texts β} {faults : Faults} {p : Plugin β}

theorem loadsSucceed_iff {clusterId : String} {text : SLO β → String → String} {s : SLO β}
    {groups : Groups} :
    (tryApplyThenDeleteCortexRules faults clusterId (constructCortexRules text s) groups).2 = [] ↔
      LoadsSucceed faults :=
  tryApplyThenDeleteCortexRules_errors

variable {clusters : Except Status (List String)} {newId : String} {slo : ServiceLevelObjective β}

theorem createSLO_not_loaded (newId : String) (p : Plugin β)
    (hdelete : ∀ name, faults.deleteRule name = none)
    (haccepted : Accepted texts clusters slo) (hloads : ¬LoadsSucceed faults) :
    (createSLO texts faults clusters newId slo p).1.slos = p.slos ∧
      ∀ k, (createSLO texts faults clusters newId slo p).1.groups k =
        if k.1 = slo.clusterId ∧ k.2 ∈ groupNames newId then none else p.groups k := by
  unfold createSLO
  rw [haccepted.1, haccepted.2]
  rw [if_neg (by decide), if_pos (mt loadsSucceed_iff.mp hloads)]
  exact ⟨rfl, tryApplyThenDeleteCortexRules_failed hdelete (mt loadsSucceed_iff.mp hloads)⟩

theorem createSLO_loaded (newId : String) (p : Plugin β) (haccepted : Accepted texts clusters slo)
    (hloads : LoadsSucceed faults) :
    (createSLO texts faults clusters newId slo p).2 =
        faults.put.elim (.ok newId) (fun err => .error [err]) ∧
      ∀ k, (createSLO texts faults clusters newId slo p).1.groups k =
        (groupsOf slo.clusterId (rulesOf texts ⟨newId, texts.matched slo⟩) k).or (p.groups k) := by
  unfold createSLO
  rw [haccepted.1, haccepted.2]
  rw [if_neg (by decide), if_neg (not_not.mpr (loadsSucceed_iff.mpr hloads))]
  cases faults.put <;> exact ⟨rfl, tryApplyThenDeleteCortexRules_applied
    (nodup_constructCortexRules _ _) (loadsSucceed_iff.mpr hloads)⟩

/-- A creation that fails has no effect, unless it is the store alone that fails. -/
theorem createHasNoEffect_iff (hdelete : ∀ name, faults.deleteRule name = none)
    (hfresh : ∀ clusterId, ∀ name ∈ groupNames newId, p.groups (clusterId, name) = none) :
    CreateHasNoEffect texts faults clusters newId slo p ↔
      ¬(Accepted texts clusters slo ∧ LoadsSucceed faults ∧ faults.put ≠ none) := by
  by_cases haccepted : Accepted texts clusters slo
  · by_cases hloads : LoadsSucceed faults
    · obtain ⟨hresult, hgroups⟩ := createSLO_loaded newId p haccepted hloads
      cases hput : faults.put with
      | none =>
        refine iff_of_true ?_ fun h => h.2.2 rfl
        rintro ⟨errs, herrs⟩
        rw [hresult, hput] at herrs
        cases herrs
      | some err =>
        refine iff_of_false (fun h => ?_) fun h => h ⟨haccepted, hloads, by simp⟩
        -- the first of the groups is one of the new id
        have hname : newId ++ recordingRuleSuffix ∈ groupNames newId := .head _
        have hnone := (h ⟨_, hresult.trans (by rw [hput]; rfl)⟩).2 slo.clusterId _ hname
        rw [hgroups, Option.or_eq_none_iff] at hnone
        exact groupsOf_ne_none_iff.mpr ⟨rfl, hname⟩ hnone.1
    · refine iff_of_true (fun _ => ?_) fun h => hloads h.2.1
      obtain ⟨hslos, hgroups⟩ := createSLO_not_loaded newId p hdelete haccepted hloads
      refine ⟨hslos, fun clusterId name hname => ?_⟩
      rw [hgroups]
      split
      · rfl
      · exact hfresh clusterId name hname
  · refine iff_of_true (fun _ => ?_) fun h => haccepted h.1
    unfold createSLO
    split
    · exact ⟨rfl, hfresh⟩
    next hcheck =>
      rw [if_pos (by simpa [Accepted, hcheck] using haccepted)]
      exact ⟨rfl, hfresh⟩

end Create

/-! ## Update -/

section Update

variable {β : Type} {texts : Texts β} {faults : Faults} {p : Plugin β}
  {clusters : Except Status (List String)} {newId deleteId : String} {req s : SLOData β}

theorem updateSLO_not_accepted (h : ¬(Accepted texts clusters req.slo ∧ faults.get = none)) :
    (updateSLO texts faults clusters newId deleteId req p).1 = p := by
  unfold updateSLO
  split
  · rfl
  next hcheck =>
    split
    · rfl
    next existing hget =>
      rw [if_pos (by simpa [Accepted, hcheck, (get_eq_ok_iff.mp hget).1] using h)]

def loaded (texts : Texts β) (faults : Faults) (newId : String) (req : SLOData β) (p : Plugin β) :
    Plugin β :=
  { p with groups := (tryApplyThenDeleteCortexRules faults req.slo.clusterId
      (updatedRules texts newId req) p.groups).1 }

theorem groups_not_loaded (hdelete : ∀ name, faults.deleteRule name = none)
    (hloads : ¬LoadsSucceed faults) (k : String × String) :
    (loaded texts faults newId req p).groups k =
      if k.1 = req.slo.clusterId ∧ k.2 ∈ groupNames (sloDataToStruct newId req).id then none
      else p.groups k :=
  tryApplyThenDeleteCortexRules_failed hdelete (mt loadsSucceed_iff.mp hloads) k

theorem groups_loaded (hloads : LoadsSucceed faults) (k : String × String) :
    (loaded texts faults newId req p).groups k =
      (groupsOf req.slo.clusterId (updatedRules texts newId req) k).or (p.groups k) :=
  tryApplyThenDeleteCortexRules_applied (nodup_constructCortexRules _ _)
    (loadsSucceed_iff.mpr hloads) k

theorem update_not_loaded (texts : Texts β) (newId deleteId : String) (req s : SLOData β)
    (p : Plugin β) (hloads : ¬LoadsSucceed faults) :
    (update texts faults newId deleteId s ⟨req.id, texts.matched req.slo⟩ p).1 =
        loaded texts faults newId req p ∧
      (update texts faults newId deleteId s ⟨req.id, texts.matched req.slo⟩ p).2 ≠ [] := by
  unfold update
  rw [if_neg fun h => hloads (loadsSucceed_iff.mp h.1)]
  exact ⟨rfl, mt loadsSucceed_iff.mp hloads⟩

theorem update_loaded (hloads : LoadsSucceed faults) :
    update texts faults newId deleteId s ⟨req.id, texts.matched req.slo⟩ p =
      (if s.slo.clusterId = req.slo.clusterId then loaded texts faults newId req p
        else (deleteSLO texts faults deleteId s.id (loaded texts faults newId req p)).1, []) := by
  have herrors : (tryApplyThenDeleteCortexRules faults req.slo.clusterId
      (updatedRules texts newId req) p.groups).2 = [] := loadsSucceed_iff.mpr hloads
  by_cases hcluster : s.slo.clusterId = req.slo.clusterId
  · rw [if_pos hcluster]
    exact (if_neg fun h => h.2 hcluster).trans (Prod.ext rfl herrors)
  · rw [if_neg hcluster]
    exact (if_pos ⟨herrors, hcluster⟩).trans (Prod.ext rfl herrors)

/-! ### What is kept -/

variable (hdelete : ∀ name, faults.deleteRule name = none) (hs : p.slos (sloKey s.id) = some s)
  (hlive : ∀ name ∈ groupNames s.id, p.groups (s.slo.clusterId, name) ≠ none)

include hs

theorem kept_loaded_iff (hloads : LoadsSucceed faults) :
    Kept s p (loaded texts faults newId req p) ↔
      (Overwrites newId req s → ∀ name ∈ groupNames s.id,
        groupsOf s.slo.clusterId (updatedRules texts newId req) (s.slo.clusterId, name) =
          p.groups (s.slo.clusterId, name)) := by
  constructor
  · rintro ⟨-, hgroups⟩ ⟨hcluster, hid⟩ name hname
    have hsame := hgroups name hname
    rw [← hid] at hname
    have hsome : groupsOf s.slo.clusterId (updatedRules texts newId req)
        (s.slo.clusterId, name) ≠ none := groupsOf_ne_none_iff.mpr ⟨rfl, hname⟩
    rwa [groups_loaded hloads, ← hcluster,
      Option.or_of_isSome (Option.isSome_iff_ne_none.mpr hsome)] at hsame
  · intro hsame
    refine ⟨hs, fun name hname => ?_⟩
    rw [groups_loaded hloads]
    by_cases hover : Overwrites newId req s
    · rw [← hover.1, hsame hover name hname, Option.or_self]
    · -- the groups that are loaded have other names, or are on another cluster
      have hnone : groupsOf req.slo.clusterId (updatedRules texts newId req)
          (s.slo.clusterId, name) = none := by
        by_contra hsome
        obtain ⟨hcluster, hmem⟩ := groupsOf_ne_none_iff.mp hsome
        exact hover ⟨hcluster, eq_of_mem_groupNames hmem hname⟩
      rw [hnone, Option.none_or]

theorem deleteSLO_refused (h : faults.deleteGet ≠ none ∨ registered s.slo.datasource = false) :
    (deleteSLO texts faults deleteId s.id p).1 = p := by
  unfold deleteSLO
  split
  · rfl
  next existing hget =>
    obtain ⟨hfault, hexisting⟩ := get_eq_ok_iff.mp hget
    cases hs.symm.trans hexisting
    rw [if_pos (h.resolve_left (not_not.mpr hfault))]

include hdelete

theorem deleteSLO_registered (hget : faults.deleteGet = none)
    (hregistered : registered s.slo.datasource = true) :
    (deleteSLO texts faults deleteId s.id p).1 =
      { slos := if faults.delete = none then Function.update p.slos (sloKey s.id) none else p.slos
        groups := fun k =>
          if k.1 = s.slo.clusterId ∧ k.2 ∈ ruleNames (constructCortexRules texts.text
            (sloDataToStruct deleteId ⟨s.id, texts.matched s.slo⟩)) then none
          else p.groups k } := by
  unfold deleteSLO
  rw [get_eq_ok_iff.mpr ⟨hget, hs⟩]
  dsimp only
  rw [deleteCortexSLORules_groups hdelete]
  rw [hregistered, if_neg (by decide), if_neg (by simp)]
  split
  next err hfault => rw [if_neg (by simp [hfault])]
  next hfault => rw [if_pos hfault]

include hlive

theorem kept_not_loaded_iff (hloads : ¬LoadsSucceed faults) :
    Kept s p (loaded texts faults newId req p) ↔ ¬Overwrites newId req s := by
  constructor
  · rintro ⟨-, hgroups⟩ ⟨hcluster, hid⟩
    have hname : s.id ++ recordingRuleSuffix ∈ groupNames s.id := .head _
    have hgone := hgroups _ hname
    rw [groups_not_loaded hdelete hloads, if_pos ⟨hcluster, hid ▸ hname⟩] at hgone
    exact hlive _ hname hgone.symm
  · intro hother
    refine ⟨hs, fun name hname => ?_⟩
    rw [groups_not_loaded hdelete hloads, if_neg]
    rintro ⟨hcluster, hmem⟩
    exact hother ⟨hcluster, eq_of_mem_groupNames hmem hname⟩

theorem kept_deleteSLO_iff :
    Kept s p (deleteSLO texts faults deleteId s.id p).1 ↔
      DeleteFailsEarly texts faults deleteId s := by
  -- `DeleteFailsEarly` has these two cases and the failure of the store after the rules
  by_cases hrefused : faults.deleteGet ≠ none ∨ registered s.slo.datasource = false
  · rw [deleteSLO_refused hs hrefused]
    exact iff_of_true ⟨hs, fun _ _ => rfl⟩ (hrefused.imp_right .inl)
  · obtain ⟨hget, hregistered⟩ := not_or.mp hrefused
    rw [deleteSLO_registered hdelete hs (not_not.mp hget)
      (Bool.eq_true_of_not_eq_false hregistered)]
    unfold DeleteFailsEarly Kept
    rw [or_iff_right hget, or_iff_right hregistered]
    refine and_congr ?_ (forall_congr' fun name => forall_congr' fun hname => ?_)
    · split
      next hnone => simp [hnone]
      next hfault => simp [hfault, hs]
    · simp only [true_and]
      split
      next hmem => exact iff_of_false (fun h => hlive name hname h.symm) (not_not.mpr hmem)
      next hmem => exact iff_of_true rfl hmem

theorem kept_move_iff (hloads : LoadsSucceed faults)
    (hmoved : s.slo.clusterId ≠ req.slo.clusterId) :
    Kept s p (deleteSLO texts faults deleteId s.id (loaded texts faults newId req p)).1 ↔
      DeleteFailsEarly texts faults deleteId s := by
  have hkept : Kept s p (loaded texts faults newId req p) :=
    (kept_loaded_iff hs hloads).mpr fun hover => absurd hover.1 hmoved
  have hlive' : ∀ name ∈ groupNames s.id,
      (loaded texts faults newId req p).groups (s.slo.clusterId, name) ≠ none := by
    intro name hname
    rw [hkept.2 name hname]
    exact hlive name hname
  rw [← kept_deleteSLO_iff hdelete hkept.1 hlive']
  refine and_congr_right fun _ => forall_congr' fun name => forall_congr' fun hname => ?_
  rw [hkept.2 name hname]

/-- An accepted update that fails keeps the stored objective just when the calls that fail do no
    harm. -/
theorem updateHasNoEffect_iff (hreq : sloKey req.id = sloKey s.id) :
    UpdateHasNoEffect texts faults clusters newId deleteId req s p ↔
      (Accepted texts clusters req.slo → faults.get = none →
        Harmless texts faults newId deleteId req s p) := by
  unfold UpdateHasNoEffect
  -- the cases are those of `Harmless`: loads, then the store, then whether it moves
  by_cases haccepted : Accepted texts clusters req.slo ∧ faults.get = none
  · obtain ⟨haccepted, hget⟩ := haccepted
    rw [forall_prop_of_true haccepted, forall_prop_of_true hget, Harmless, updateSLO, haccepted.1,
      get_eq_ok_iff.mpr ⟨hget, hreq ▸ hs⟩]
    dsimp only
    rw [if_neg (by simp [haccepted.2])]
    by_cases hloads : LoadsSucceed faults
    · rw [if_pos hloads, update_loaded hloads]
      rw [if_neg (not_not.mpr rfl)]
      cases hput : faults.put with
      | none => simp
      | some err =>
        rw [forall_prop_of_true ⟨[err], rfl⟩, forall_prop_of_true (by simp)]
        dsimp only
        split
        next hcluster =>
          rw [kept_loaded_iff hs hloads]
          exact (and_iff_left fun hne => absurd hcluster hne).symm
        next hcluster =>
          rw [kept_move_iff hdelete hs hlive hloads hcluster, forall_prop_of_true hcluster]
          exact (and_iff_right fun hover => absurd hover.1 hcluster).symm
    · obtain ⟨hstate, herrors⟩ := update_not_loaded texts newId deleteId req s p hloads
      rw [if_neg hloads, if_pos herrors, hstate, ← kept_not_loaded_iff hdelete hs hlive hloads]
      exact forall_prop_of_true ⟨_, rfl⟩
  · rw [updateSLO_not_accepted haccepted]
    refine iff_of_true (fun _ => ⟨hs, fun _ _ => rfl⟩) fun h hget => ?_
    exact absurd ⟨h, hget⟩ haccepted

end Update

/-! ## Changes that fail -/

/-- With deletions that succeed: a creation that fails has no effect, unless it is the store alone
    that fails; an update that fails has no effect just when it is refused or the calls that fail
    do no harm. -/
theorem failed_change_has_no_effect_iff {β : Type} (texts : Texts β) (faults : Faults)
    (hdelete : ∀ name, faults.deleteRule name = none) (p : Plugin β)
    (clusters : Except Status (List String)) (newId deleteId : String)
    (slo : ServiceLevelObjective β)
    (hfresh : ∀ clusterId, ∀ name ∈ groupNames newId, p.groups (clusterId, name) = none)
    (req s : SLOData β) (hs : p.slos (sloKey s.id) = some s) (hreq : sloKey req.id = sloKey s.id)
    (hlive : ∀ name ∈ groupNames s.id, p.groups (s.slo.clusterId, name) ≠ none) :
    (CreateHasNoEffect texts faults clusters newId slo p ↔
      ¬(Accepted texts clusters slo ∧ LoadsSucceed faults ∧ faults.put ≠ none)) ∧
    (UpdateHasNoEffect texts faults clusters newId deleteId req s p ↔
      (Accepted texts clusters req.slo → faults.get = none →
        Harmless texts faults newId deleteId req s p)) :=
  ⟨createHasNoEffect_iff hdelete hfresh, updateHasNoEffect_iff hdelete hs hlive hreq⟩

def savedSLO : SLOData Unit := ⟨"one", monthly "uptime" "a"⟩

def savedPlugin : Plugin Unit where
  slos key := if key = sloKey "one" then some savedSLO else none
  groups := groupsOf "a" (rulesOf plainTexts savedSLO)

def unavailable : Status := ⟨.unavailable, "connection refused"⟩

def secondLoadFails : Faults where
  load i := if i = 1 then some unavailable else none

theorem failed_change_has_no_effect_iff_load :
    CreateHasNoEffect plainTexts secondLoadFails (.ok ["a", "b"]) "two" (monthly "latency" "a")
      savedPlugin ∧
    UpdateHasNoEffect plainTexts secondLoadFails (.ok ["a", "b"]) "two" "three"
      ⟨"one", monthly "uptime" "b"⟩ savedSLO savedPlugin := by
  have hfresh : ∀ clusterId, ∀ name ∈ groupNames "two",
      savedPlugin.groups (clusterId, name) = none := by
    intro clusterId name hname
    by_contra hgroup
    have hid := eq_of_mem_groupNames hname (groupsOf_ne_none_iff.mp hgroup).2
    exact absurd hid (by decide)
  have hs : savedPlugin.slos (sloKey "one") = some savedSLO := by
    simp [savedPlugin]
  have hlive : ∀ name ∈ groupNames "one", savedPlugin.groups ("a", name) ≠ none := by
    intro name hname
    rw [savedPlugin, groupsOf_ne_none_iff]
    exact ⟨rfl, hname⟩
  have hiff := failed_change_has_no_effect_iff plainTexts secondLoadFails (fun _ => rfl)
    savedPlugin (.ok ["a", "b"]) "two" "three" (monthly "latency" "a") hfresh
    ⟨"one", monthly "uptime" "b"⟩ savedSLO hs rfl hlive
  refine ⟨hiff.1.mpr (by decide), hiff.2.mpr fun _ _ => ?_⟩
  rw [Harmless, if_neg (by decide)]
  decide

/-- A group that cannot be loaded takes the groups of the objective with it, a store that cannot
    be written takes an objective that moves, and leaves the groups of one that is created. -/
theorem failed_changes_have_effects :
    ¬UpdateHasNoEffect plainTexts secondLoadFails (.ok ["a", "b"]) "two" "three"
      ⟨"one", monthly "latency" "a"⟩ savedSLO savedPlugin ∧
    ¬UpdateHasNoEffect plainTexts { put := some unavailable } (.ok ["a", "b"]) "two" "three"
      ⟨"one", monthly "uptime" "b"⟩ savedSLO savedPlugin ∧
    ¬CreateHasNoEffect plainTexts { put := some unavailable } (.ok ["a", "b"]) "two"
      (monthly "latency" "a") savedPlugin := by
  refine ⟨fun h => ?_, fun h => ?_, fun h => ?_⟩
  · have hgroup := (h ⟨[unavailable], by decide +kernel⟩).2 ("one" ++ recordingRuleSuffix)
      List.mem_cons_self
    exact absurd hgroup (by decide +kernel)
  · exact absurd (h ⟨[unavailable], by decide +kernel⟩).1 (by decide +kernel)
  · have hgroup := (h ⟨[unavailable], by decide +kernel⟩).2 "a" ("two" ++ recordingRuleSuffix)
      List.mem_cons_self
    exact absurd hgroup (by decide +kernel)

end Opni.Objectives
