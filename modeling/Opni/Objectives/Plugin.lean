/-
  Opni.Objectives.Plugin

  Creating, updating, cloning and deleting service level objectives
  (`plugins/slo/pkg/slo/api.go`, `impl.go`, `cortex_info.go`).
-/

import Opni.Lib.GoStrings
import Opni.Objectives.Rules

namespace Opni.Objectives

open Lib Function

/-! ## State -/

abbrev Groups := String × String → Option RuleGroup

structure Plugin (β : Type) where
  slos : Path → Option (SLOData β) := fun _ => none
  groups : Groups := fun _ => none

/-- `path.Join("/slos", id)`. -/
def sloKey (id : String) : Path := joinPath ["/slos", id]

structure Texts (β : Type) where
  validate : ServiceLevelObjective β → Option Status
  /-- `ToMatchingSubsetIdenticalMetric`, where the two metrics are one. -/
  events : β → β
  /-- The text of a rule, by its name. -/
  text : SLO β → String → String

/-- `CreateSLORequestToStruct` and `SLODataToStruct` write the matching events to the request. -/
def Texts.matched {β : Type} (texts : Texts β) (slo : ServiceLevelObjective β) :
    ServiceLevelObjective β :=
  { slo with rest := texts.events slo.rest }

structure Faults where
  /-- `LoadRules`, by the number of the group. -/
  load : Nat → Option Status := fun _ => none
  /-- `DeleteRule`, by the name of the group. -/
  deleteRule : String → Option Status := fun _ => none
  /-- `Get` and `Put` of the store. -/
  get : Option Status := none
  put : Option Status := none
  /-- `Get` and `Delete` of the store, in `DeleteSLO`. -/
  deleteGet : Option Status := none
  delete : Option Status := none

/-! ## Cortex -/

section Cortex

variable (faults : Faults) (clusterId : String)

/-- `applyCortexSLORules` for each of the groups, from group `i` on. -/
def applyCortexSLORules : Nat → List RuleGroup → Groups → Groups × List Status
  | _, [], groups => (groups, [])
  | i, rules :: toApply, groups =>
    match faults.load i with
    | none => applyCortexSLORules (i + 1) toApply
        (update groups (clusterId, rules.name) (some rules))
    | some err =>
      let r := applyCortexSLORules (i + 1) toApply groups
      (r.1, err :: r.2)

/-- `deleteCortexSLORules` for each of the names. -/
def deleteCortexSLORules : List String → Groups → Groups × List Status
  | [], groups => (groups, [])
  | groupName :: names, groups =>
    match faults.deleteRule groupName with
    | none => deleteCortexSLORules names (update groups (clusterId, groupName) none)
    | some err =>
      let r := deleteCortexSLORules names groups
      -- a group that is not there is no error
      (r.1, if err.code = .notFound then r.2 else err :: r.2)

variable (toApply : List RuleGroup)

def tryApplyThenDeleteCortexRules (groups : Groups) :
    Groups × List Status :=
  let r := applyCortexSLORules faults clusterId 0 toApply groups
  if r.2 = [] then r
  else
    -- by name: whatever had one of the names before goes as well
    let d := deleteCortexSLORules faults clusterId (toApply.map (·.name)) r.1
    (d.1, r.2 ++ d.2)

/-! ### What the calls leave in Cortex -/

/-- The groups of a list on the cluster, by their names. -/
def groupsOf : Groups := fun k =>
  if k.1 = clusterId then toApply.find? (·.name = k.2) else none

variable {faults clusterId}

variable {toApply : List RuleGroup} {groups : Groups} {k : String × String}

theorem groupsOf_ne_none_iff :
    groupsOf clusterId toApply k ≠ none ↔ k.1 = clusterId ∧ k.2 ∈ toApply.map (·.name) := by
  unfold groupsOf
  split
  next hcluster => simp [hcluster]
  next hcluster => simp [hcluster]

theorem groupsOf_eq_some_iff (hnodup : (toApply.map (·.name)).Nodup) {g : RuleGroup} :
    groupsOf clusterId toApply k = some g ↔ k.1 = clusterId ∧ g ∈ toApply ∧ g.name = k.2 := by
  unfold groupsOf
  split
  next hcluster =>
    simp only [hcluster, true_and]
    have hfound {g : RuleGroup} (h : toApply.find? (·.name = k.2) = some g) :
        g ∈ toApply ∧ g.name = k.2 :=
      ⟨List.mem_of_find?_eq_some h, by simpa using List.find?_some h⟩
    refine ⟨hfound, fun ⟨hmem, hg⟩ => ?_⟩
    have hsome : (toApply.find? (·.name = k.2)).isSome :=
      List.find?_isSome.mpr ⟨g, hmem, decide_eq_true hg⟩
    obtain ⟨g', hg'⟩ := Option.isSome_iff_exists.mp hsome
    obtain ⟨hmem', hname⟩ := hfound hg'
    rw [hg', List.inj_on_of_nodup_map hnodup hmem' hmem (hname.trans hg.symm)]
  next hcluster => simp [hcluster]

theorem applyCortexSLORules_frame
    (hk : ¬(k.1 = clusterId ∧ k.2 ∈ toApply.map (·.name))) (i : ℕ) (groups : Groups) :
    (applyCortexSLORules faults clusterId i toApply groups).1 k = groups k := by
  -- on the groups that are left, each of which is loaded or fails
  induction toApply generalizing i groups with
  | nil => rfl
  | cons rules toApply ih =>
    rw [List.map_cons, List.mem_cons] at hk
    have hrest : ¬(k.1 = clusterId ∧ k.2 ∈ toApply.map (·.name)) :=
      fun h => hk ⟨h.1, .inr h.2⟩
    have hne : k ≠ (clusterId, rules.name) := by
      rintro rfl
      exact hk ⟨rfl, .inl rfl⟩
    rw [applyCortexSLORules]
    split
    · rw [ih hrest, update_of_ne hne]
    · exact ih hrest _ _

/-- Without an error all of the groups are there. -/
theorem applyCortexSLORules_groups (hnodup : (toApply.map (·.name)).Nodup) {i : ℕ}
    (h : (applyCortexSLORules faults clusterId i toApply groups).2 = []) (k : String × String) :
    (applyCortexSLORules faults clusterId i toApply groups).1 k =
      (groupsOf clusterId toApply k).or (groups k) := by
  induction toApply generalizing i groups with
  | nil => simp [applyCortexSLORules, groupsOf]
  | cons rules toApply ih =>
    rw [List.map_cons, List.nodup_cons] at hnodup
    rw [applyCortexSLORules] at h ⊢
    split at h
    · by_cases hk : k = (clusterId, rules.name)
      · -- the groups that follow have other names
        subst hk
        rw [applyCortexSLORules_frame fun hmem => hnodup.1 hmem.2]
        simp [groupsOf]
      · rw [ih hnodup.2 h, update_of_ne hk]
        have hgroup :
            groupsOf clusterId (rules :: toApply) k = groupsOf clusterId toApply k := by
          unfold groupsOf
          split
          next hcluster =>
            have hname : rules.name ≠ k.2 := by
              intro hname
              exact hk (Prod.ext hcluster hname.symm)
            rw [List.find?_cons_of_neg (by simpa using hname)]
          · rfl
        rw [hgroup]
    · cases h

theorem applyCortexSLORules_errors (i : ℕ) (toApply : List RuleGroup) (groups : Groups) :
    (applyCortexSLORules faults clusterId i toApply groups).2 =
      (List.range' i toApply.length).filterMap faults.load := by
  induction toApply generalizing i groups with
  | nil => rfl
  | cons rules toApply ih =>
    rw [applyCortexSLORules, List.length_cons, List.range'_succ]
    split
    next hload => rw [ih, List.filterMap_cons_none hload]
    next err hload => rw [List.filterMap_cons_some hload, ← ih (i + 1) groups]

theorem deleteCortexSLORules_groups (hdelete : ∀ name, faults.deleteRule name = none)
    (names : List String) (groups : Groups) :
    deleteCortexSLORules faults clusterId names groups =
      (fun k => if k.1 = clusterId ∧ k.2 ∈ names then none else groups k, []) := by
  induction names generalizing groups with
  | nil => simp [deleteCortexSLORules]
  | cons groupName names ih =>
    rw [deleteCortexSLORules, hdelete]
    dsimp only
    rw [ih]
    congr 1
    funext k
    by_cases hk : k = (clusterId, groupName)
    · simp [hk]
    · have hne : ¬(k.1 = clusterId ∧ k.2 = groupName) := fun h => hk (Prod.ext h.1 h.2)
      rw [update_of_ne hk]
      refine if_congr ?_ rfl rfl
      rw [List.mem_cons]
      tauto

theorem tryApplyThenDeleteCortexRules_errors :
    (tryApplyThenDeleteCortexRules faults clusterId toApply groups).2 = [] ↔
      ∀ i < toApply.length, faults.load i = none := by
  have happly : (applyCortexSLORules faults clusterId 0 toApply groups).2 = [] ↔
      ∀ i < toApply.length, faults.load i = none := by
    rw [applyCortexSLORules_errors, List.filterMap_eq_nil_iff]
    simp
  rw [tryApplyThenDeleteCortexRules, ← happly]
  split
  next h => simp [h]
  next h => simp [h]

theorem tryApplyThenDeleteCortexRules_applied (hnodup : (toApply.map (·.name)).Nodup)
    (h : (tryApplyThenDeleteCortexRules faults clusterId toApply groups).2 = [])
    (k : String × String) :
    (tryApplyThenDeleteCortexRules faults clusterId toApply groups).1 k =
      (groupsOf clusterId toApply k).or (groups k) := by
  unfold tryApplyThenDeleteCortexRules at h ⊢
  dsimp only at h ⊢
  split at h
  next happly => rw [if_pos happly, applyCortexSLORules_groups hnodup h]
  next happly => exact absurd (List.append_eq_nil_iff.mp h).1 happly

theorem tryApplyThenDeleteCortexRules_failed (hdelete : ∀ name, faults.deleteRule name = none)
    (h : (tryApplyThenDeleteCortexRules faults clusterId toApply groups).2 ≠ [])
    (k : String × String) :
    (tryApplyThenDeleteCortexRules faults clusterId toApply groups).1 k =
      if k.1 = clusterId ∧ k.2 ∈ toApply.map (·.name) then none else groups k := by
  unfold tryApplyThenDeleteCortexRules at h ⊢
  dsimp only at h ⊢
  split at h
  next happly => exact absurd happly h
  next happly =>
    rw [if_neg happly, deleteCortexSLORules_groups hdelete]
    dsimp only
    split
    · rfl
    next hk => exact applyCortexSLORules_frame hk _ _

end Cortex

/-! ## Requests -/

section Requests

variable {β : Type} (texts : Texts β) (faults : Faults)

def registered (datasource : String) : Bool := datasource = "monitoring"

def errInvalidDatasource : Status := ⟨.notFound, "Invalid required datasource value"⟩

def nilStore : Status := ⟨.unknown, "invalid memory address or nil pointer dereference"⟩

variable (clusters : Except Status (List String))

/-- The checks that `CreateSLO` and `UpdateSLO` begin with; `clusters` is what `ListClusters`
    answers. -/
def checkRequest (slo : ServiceLevelObjective β) :
    Option Status :=
  match texts.validate slo, clusters with
  | some err, _ => some err
  | none, .error err => some err
  | none, .ok ids =>
    if slo.clusterId ∈ ids then none else some ⟨.invalidArgument, "invalid cluster"⟩

def rulesOf (s : SLOData β) : List RuleGroup :=
  constructCortexRules texts.text (createSLORequestToStruct s.id s.slo)

/-- `Get` of the store. -/
def Plugin.get (p : Plugin β) (fault : Option Status) (id : String) : Except Status (SLOData β) :=
  match fault, p.slos (sloKey id) with
  | some err, _ => .error err
  | none, none => .error ⟨.notFound, "not found"⟩
  | none, some s => .ok s

/-- `Put` of the store. -/
def Plugin.put (p : Plugin β) (id : String) (s : SLOData β) : Plugin β :=
  { p with slos := update p.slos (sloKey id) (some s) }

/-- `CreateSLO`, with the id that `NewSLO` makes. -/
def createSLO (newId : String)
    (slo : ServiceLevelObjective β) (p : Plugin β) : Plugin β × Except (List Status) String :=
  match checkRequest texts clusters slo with
  | some err => (p, .error [err])
  | none =>
    -- `Validate` lets "logging" through, which nothing is registered for
    if registered slo.datasource = false then (p, .error [nilStore])
    else
      let slo := texts.matched slo
      let r := tryApplyThenDeleteCortexRules faults slo.clusterId
        (constructCortexRules texts.text (createSLORequestToStruct newId slo)) p.groups
      let p := { p with groups := r.1 }
      if r.2 ≠ [] then (p, .error r.2)
      else match faults.put with
        -- the groups stay
        | some err => (p, .error [err])
        | none => (p.put newId ⟨newId, slo⟩, .ok newId)

variable (newId id : String)

/-- `DeleteSLO`; data without an id would get the id `newId`. -/
def deleteSLO (p : Plugin β) : Plugin β × Except (List Status) Unit :=
  match p.get faults.deleteGet id with
  | .error err => (p, .error [err])
  | .ok existing =>
    if registered existing.slo.datasource = false then (p, .error [errInvalidDatasource])
    else
      let r := deleteCortexSLORules faults existing.slo.clusterId
        (ruleNames (constructCortexRules texts.text
          (sloDataToStruct newId ⟨existing.id, texts.matched existing.slo⟩))) p.groups
      let p := { p with groups := r.1 }
      if r.2 ≠ [] then (p, .error r.2)
      else match faults.delete with
        | some err => (p, .error [err])
        | none => ({ p with slos := update p.slos (sloKey id) none }, .ok ())

/-- `SLOMonitoring.Update`, for an incoming objective whose events match.  The error of the
    deletion is only logged. -/
def update (newId deleteId : String) (existing incoming : SLOData β) (p : Plugin β) :
    Plugin β × List Status :=
  let r := tryApplyThenDeleteCortexRules faults incoming.slo.clusterId
    (constructCortexRules texts.text (sloDataToStruct newId incoming)) p.groups
  let p := { p with groups := r.1 }
  if r.2 = [] ∧ existing.slo.clusterId ≠ incoming.slo.clusterId then
    ((deleteSLO texts faults deleteId existing.id p).1, r.2)
  else (p, r.2)

/-- `UpdateSLO`; data without an id would get the id `newId`, and `deleteId` when it is deleted. -/
def updateSLO (newId deleteId : String) (req : SLOData β)
    (p : Plugin β) : Plugin β × Except (List Status) Unit :=
  match checkRequest texts clusters req.slo with
  | some err => (p, .error [err])
  | none =>
    match p.get faults.get req.id with
    | .error err => (p, .error [err])
    | .ok existing =>
      if registered req.slo.datasource = false then (p, .error [nilStore])
      else
        let req := ⟨req.id, texts.matched req.slo⟩
        let r := update texts faults newId deleteId existing req p
        if r.2 ≠ [] then (r.1, .error r.2)
        else match faults.put with
          | some err => (r.1, .error [err])
          | none => (r.1.put req.id req, .ok ())

def cloneData (newId : String) (s : SLOData β) : SLOData β :=
  ⟨newId, { texts.matched s.slo with name := s.slo.name ++ "-clone" }⟩

/-- `CloneSLO`, with the id that `Clone` makes. -/
def cloneSLO (p : Plugin β) :
    Plugin β × Except (List Status) (SLOData β) :=
  match p.get faults.get id with
  | .error err => (p, .error [err])
  | .ok existing =>
    match texts.validate existing.slo with
    | some err => (p, .error [err])
    | none =>
      if registered existing.slo.datasource = false then (p, .error [errInvalidDatasource])
      else
        let clone := cloneData texts newId existing
        let r := tryApplyThenDeleteCortexRules faults existing.slo.clusterId
          (constructCortexRules texts.text (createSLORequestToStruct newId clone.slo)) p.groups
        let p := { p with groups := r.1 }
        if r.2 ≠ [] then (p, .error r.2)
        else match faults.put with
          | some err => (p, .error [err])
          | none => (p.put newId clone, .ok clone)

end Requests

end Opni.Objectives
