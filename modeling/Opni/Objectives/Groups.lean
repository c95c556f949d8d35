/-
  Opni.Objectives.Groups

  The rule groups in Cortex over any history of successful changes to the
  objectives.  A change of the cluster leaves groups behind (`LeavesGroup`);
  where none are left, the groups are those of what is stored (`HoldsRules`).
-/

import Opni.Lib.Derived
import Opni.Lib.Goroutines
import Opni.Objectives.Plugin

namespace Opni.Objectives

open Lib Lib.Goroutines

/-- An id that `uuid.New` makes: a file name of its own. -/
abbrev NewId := { id : String // PlainName id }

/-- A request, with what `ListClusters` answers and the ids that are made for it. -/
inductive Request (β : Type)
  | create (clusters : Except Status (List String)) (newId : NewId) (slo : ServiceLevelObjective β)
  | update (clusters : Except Status (List String)) (newId deleteId : NewId) (req : SLOData β)
  | clone (newId : NewId) (id : String)
  | delete (newId : NewId) (id : String)

section Runs

variable {β : Type} (texts : Texts β)

def succeeded {α : Type} (r : Plugin β × Except (List Status) α) : Option (Plugin β) :=
  match r.2 with
  | .ok _ => some r.1
  | .error _ => none

variable (p : Plugin β)

def step : Request β → Option (Plugin β)
  | .create clusters newId slo => succeeded (createSLO texts {} clusters newId slo p)
  | .update clusters newId deleteId req =>
    succeeded (updateSLO texts {} clusters newId deleteId req p)
  | .clone newId id => succeeded (cloneSLO texts {} newId id p)
  | .delete newId id => succeeded (deleteSLO texts {} newId id p)

/-- Cortex has the groups of the objectives that are stored, and no others. -/
def HoldsRules : Prop :=
  ∀ clusterId name group, p.groups (clusterId, name) = some group ↔
    ∃ key s, p.slos key = some s ∧ s.slo.clusterId = clusterId ∧ group ∈ rulesOf texts s ∧
      group.name = name

/-- What is stored under the key of the id, if anything, has that very id and the cluster. -/
def Keeps (id clusterId : String) : Prop :=
  ∀ s, p.slos (sloKey id) = some s → s.id = id ∧ s.slo.clusterId = clusterId

/-- A request that changes an objective in place, or makes one under a new id. -/
def InPlace : Request β → Prop
  | .create _ newId slo => Keeps p newId slo.clusterId
  | .update _ _ _ req => Keeps p req.id req.slo.clusterId
  | .clone newId id => ∀ s, p.slos (sloKey id) = some s → Keeps p newId s.slo.clusterId
  | .delete _ _ => False

end Runs

/-! ## Keys -/

section Keys

variable {β : Type} {texts : Texts β} {p p' : Plugin β} {id : String} {s : SLOData β}

/-- Objectives are stored under their ids, in the directory. -/
def Keyed (p : Plugin β) : Prop :=
  ∀ key s, p.slos key = some s → key = sloKey s.id ∧ ∃ id, PlainName id ∧ key = sloKey id

theorem nodup_rulesOf (s : SLOData β) : ((rulesOf texts s).map (·.name)).Nodup :=
  nodup_constructCortexRules _ _

theorem sloKey_ne_of_plain (h : PlainName id) : sloKey id ≠ sloKey "" := by
  intro heq
  rw [sloKey, joinPath_name h, sloKey] at heq
  have hcomps := congrArg (fun path => path.comps.length) heq
  have hdir : (joinPath ["/slos", ""]).comps.length = (cleanPath "/slos").comps.length := by
    decide +kernel
  simp [hdir] at hcomps

theorem Keyed.id_ne_empty (h : Keyed p) (hs : p.slos (sloKey id) = some s) : id ≠ "" := by
  rintro rfl
  obtain ⟨-, name, hname, hkey⟩ := h _ _ hs
  exact sloKey_ne_of_plain hname hkey.symm

theorem Keyed.update (h : Keyed p) {w : Option (SLOData β)}
    (hslos : p'.slos = Function.update p.slos (sloKey id) w)
    (hw : ∀ s, w = some s → sloKey id = sloKey s.id ∧ ∃ name, PlainName name ∧
      sloKey id = sloKey name) :
    Keyed p' := by
  intro key s hs
  rw [hslos, Function.update_apply] at hs
  split at hs
  next hkey => exact hkey ▸ hw s hs
  · exact h key s hs

variable (texts) in
def sloGroups (key : Path) (s : SLOData β) : Groups := fun k =>
  if key = sloKey s.id then groupsOf s.slo.clusterId (rulesOf texts s) k else none

theorem sloGroups_ne_none_iff {key : Path} {k : String × String} :
    sloGroups texts key s k ≠ none ↔
      key = sloKey s.id ∧ k.1 = s.slo.clusterId ∧ k.2 ∈ groupNames s.id := by
  unfold sloGroups
  split
  next hkey =>
    rw [groupsOf_ne_none_iff]
    simp only [hkey, true_and]
    exact Iff.rfl
  next hkey => simp [hkey]

theorem owns_sloGroups (key key' : Path) (k : String × String)
    (h : Owns (sloGroups texts) key k) (h' : Owns (sloGroups texts) key' k) : key = key' := by
  obtain ⟨s, hs⟩ := h
  obtain ⟨s', hs'⟩ := h'
  obtain ⟨hkey, -, hname⟩ := sloGroups_ne_none_iff.mp hs
  obtain ⟨hkey', -, hname'⟩ := sloGroups_ne_none_iff.mp hs'
  rw [hkey, hkey', eq_of_mem_groupNames hname hname']

theorem holdsRules_iff_inStep (hkeyed : Keyed p) :
    HoldsRules texts p ↔ InStep (sloGroups texts) p.slos p.groups := by
  rw [HoldsRules, InStep, Prod.forall]
  refine forall₃_congr fun clusterId name group => iff_congr Iff.rfl ?_
  refine exists_congr fun key => exists_congr fun s => and_congr_right fun hs => ?_
  rw [sloGroups, if_pos (hkeyed key s hs).1, groupsOf_eq_some_iff (nodup_rulesOf s)]
  simp only [eq_comm]

end Keys

/-! ## What a request does -/

section Requests

variable {β : Type} {texts : Texts β} {p p' : Plugin β} {w : SLOData β} {id name : String}
  {s : SLOData β} {clusters : Except Status (List String)} {newId : String} {faults : Faults}
  {deleteId : String} {inPlace : Prop}

variable (texts) in
/-- The objective is stored under its id, and its groups are loaded. -/
structure Stored (w : SLOData β) (p p' : Plugin β) : Prop where
  slos : p'.slos = Function.update p.slos (sloKey w.id) (some w)
  groups : ∀ k, p'.groups k = (groupsOf w.slo.clusterId (rulesOf texts w) k).or (p.groups k)

/-- What was stored is gone or is on another cluster, and a group of it is still there. -/
structure LeavesGroup (s : SLOData β) (w : Option (SLOData β)) (p p' : Plugin β) : Prop where
  stored : p.slos (sloKey s.id) = some s
  slos : p'.slos = Function.update p.slos (sloKey s.id) w
  elsewhere : ∀ s', w = some s' → s'.slo.clusterId ≠ s.slo.clusterId
  group : ∃ name ∈ groupNames s.id,
    p'.groups (s.slo.clusterId, name) = p.groups (s.slo.clusterId, name)

theorem Stored.holdsRules_iff (h : Stored texts w p p') (hkeyed : Keyed p) (hkeyed' : Keyed p')
    (hholds : HoldsRules texts p) : HoldsRules texts p' ↔ Keeps p w.id w.slo.clusterId := by
  rw [holdsRules_iff_inStep hkeyed', h.slos]
  have hder : ∀ k, p'.groups k = (sloGroups texts (sloKey w.id) w k).or (p.groups k) := by
    intro k
    rw [h.groups, sloGroups, if_pos rfl]
  rw [((holdsRules_iff_inStep hkeyed).mp hholds).overlay_iff owns_sloGroups w hder]
  refine forall_congr' fun s => forall_congr' fun hs => ?_
  have hkey := (hkeyed _ s hs).1
  constructor
  · -- the first group of what was stored is one of the new groups
    intro hcover
    have hname : s.id ++ recordingRuleSuffix ∈ groupNames s.id := .head _
    obtain ⟨-, hcluster, hname'⟩ := sloGroups_ne_none_iff.mp
      (hcover (s.slo.clusterId, s.id ++ recordingRuleSuffix)
        (sloGroups_ne_none_iff.mpr ⟨hkey, rfl, hname⟩))
    exact ⟨eq_of_mem_groupNames hname hname', hcluster⟩
  · rintro ⟨hid, hcluster⟩ k hk
    obtain ⟨-, hk₁, hk₂⟩ := sloGroups_ne_none_iff.mp hk
    exact sloGroups_ne_none_iff.mpr ⟨rfl, hk₁.trans hcluster, hid ▸ hk₂⟩

theorem HoldsRules.cluster_of_group (h : HoldsRules texts p) (hkeyed : Keyed p) (clusterId : String)
    (hname : name ∈ groupNames id) (hgroup : (p.groups (clusterId, name)).isSome) :
    (p.slos (sloKey id)).map (·.slo.clusterId) = some clusterId := by
  obtain ⟨group, hgroup⟩ := Option.isSome_iff_exists.mp hgroup
  obtain ⟨key, s, hs, hcluster, hmem, hgname⟩ := (h _ _ _).mp hgroup
  -- only the same id has a group of that name
  have hid : id = s.id := eq_of_mem_groupNames hname (List.mem_map.mpr ⟨group, hmem, hgname⟩)
  rw [(hkeyed key s hs).1, ← hid] at hs
  rw [hs, Option.map_some, hcluster]

theorem LeavesGroup.not_holdsRules {w : Option (SLOData β)} (h : LeavesGroup s w p p')
    (hkeyed' : Keyed p') (hholds : HoldsRules texts p) : ¬HoldsRules texts p' := by
  intro hholds'
  obtain ⟨name, hname, hsame⟩ := h.group
  -- the group was there, so it is there still
  obtain ⟨group, hgroup, hgname⟩ := List.mem_map.mp
    (show name ∈ (rulesOf texts s).map (·.name) from hname)
  have hbefore := (hholds s.slo.clusterId name group).mpr
    ⟨sloKey s.id, s, h.stored, rfl, hgroup, hgname⟩
  rw [← hsame] at hbefore
  obtain ⟨s', hs', hcluster⟩ := Option.map_eq_some_iff.mp
    (hholds'.cluster_of_group hkeyed' _ hname (Option.isSome_of_eq_some hbefore))
  rw [h.slos, Function.update_self] at hs'
  exact h.elsewhere s' hs' hcluster

theorem stored_of_createSLO {slo : ServiceLevelObjective β}
    (h : succeeded (createSLO texts {} clusters newId slo p) = some p') :
    Stored texts ⟨newId, texts.matched slo⟩ p p' := by
  revert h
  fun_cases createSLO texts {} clusters newId slo p with
  | case5 _ _ _ _ _ hok =>
    rintro ⟨⟩
    exact ⟨rfl, tryApplyThenDeleteCortexRules_applied (nodup_constructCortexRules _ _)
      (not_not.mp hok)⟩
  | _ => exact nofun

theorem get_eq_ok_iff {fault : Option Status} :
    p.get fault id = .ok s ↔ fault = none ∧ p.slos (sloKey id) = some s := by
  fun_cases Plugin.get p fault id <;> simp [*]

theorem stored_of_cloneSLO (h : succeeded (cloneSLO texts {} newId id p) = some p') :
    ∃ s, p.slos (sloKey id) = some s ∧ Stored texts (cloneData texts newId s) p p' := by
  revert h
  fun_cases cloneSLO texts {} newId id p with
  | case6 s hget _ _ _ _ _ hok =>
    rintro ⟨⟩
    exact ⟨s, (get_eq_ok_iff.mp hget).2, rfl, tryApplyThenDeleteCortexRules_applied
      (nodup_constructCortexRules _ _) (not_not.mp hok)⟩
  | _ => exact nofun

theorem groups_deleteSLO (hdelete : ∀ name, faults.deleteRule name = none)
    (hs : p.slos (sloKey id) = some s)
    (hname : name ∉ ruleNames
      (constructCortexRules texts.text (sloDataToStruct newId ⟨s.id, texts.matched s.slo⟩)))
    (clusterId : String) :
    (deleteSLO texts faults newId id p).1.groups (clusterId, name) =
      p.groups (clusterId, name) := by
  unfold deleteSLO
  split
  · rfl
  next existing hget =>
    rw [(get_eq_ok_iff.mp hget).2, Option.some_inj] at hs
    subst hs
    split
    · rfl
    · rw [deleteCortexSLORules_groups hdelete]
      rw [if_neg (not_not.mpr rfl)]
      split <;> exact if_neg fun hmem => hname hmem.2

variable (texts) in
theorem slos_deleteSLO (faults : Faults) (newId id : String) (p : Plugin β) :
    ∃ w, (deleteSLO texts faults newId id p).1.slos = Function.update p.slos (sloKey id) w := by
  have hself : p.slos = Function.update p.slos (sloKey id) (p.slos (sloKey id)) :=
    (Function.update_eq_self _ _).symm
  fun_cases deleteSLO texts faults newId id p with
  | case5 => exact ⟨_, rfl⟩
  | _ => exact ⟨_, hself⟩

variable (texts) in
theorem exists_group_deleteSLO (hdelete : ∀ name, faults.deleteRule name = none) (newId : String)
    (hs : p.slos (sloKey s.id) = some s) (hid : s.id ≠ "") :
    ∃ name ∈ groupNames s.id,
      (deleteSLO texts faults newId s.id p).1.groups (s.slo.clusterId, name) =
        p.groups (s.slo.clusterId, name) := by
  have hstruct : (sloDataToStruct newId ⟨s.id, texts.matched s.slo⟩).id = s.id := if_neg hid
  obtain ⟨name, hname, hleft⟩ := exists_group_not_deleted texts.text
    (sloDataToStruct newId ⟨s.id, texts.matched s.slo⟩)
  rw [hstruct] at hname
  exact ⟨name, hname, groups_deleteSLO hdelete hs hleft _⟩

theorem slos_of_deleteSLO (h : succeeded (deleteSLO texts {} newId id p) = some p') :
    (∃ s, p.slos (sloKey id) = some s) ∧ p' = (deleteSLO texts {} newId id p).1 ∧
      p'.slos = Function.update p.slos (sloKey id) none := by
  revert h
  fun_cases deleteSLO texts {} newId id p with
  | case5 s hget =>
    rintro ⟨⟩
    exact ⟨⟨s, (get_eq_ok_iff.mp hget).2⟩, rfl, rfl⟩
  | _ => exact nofun

theorem leavesGroup_of_deleteSLO (hkeyed : Keyed p)
    (h : succeeded (deleteSLO texts {} newId id p) = some p') : ∃ s, LeavesGroup s none p p' := by
  obtain ⟨⟨s, hs⟩, rfl, hslos⟩ := slos_of_deleteSLO h
  have hkey := (hkeyed _ s hs).1
  rw [hkey] at hs hslos
  refine ⟨s, hs, hslos, fun s' hs' => (nomatch hs'), ?_⟩
  -- the id of the request may be written in another way than that of the objective
  have hsame : deleteSLO texts {} newId id p = deleteSLO texts {} newId s.id p := by
    unfold deleteSLO Plugin.get
    rw [hkey]
  rw [hsame]
  exact exists_group_deleteSLO texts (fun _ => rfl) newId hs (hkeyed.id_ne_empty hs)

theorem leavesGroup_of_move (hkeyed : Keyed p) {q : Plugin β} (hs : p.slos (sloKey s.id) = some s)
    (hkey : sloKey w.id = sloKey s.id) (hcluster : w.slo.clusterId ≠ s.slo.clusterId)
    (hslos : q.slos = p.slos)
    (hgroups : ∀ name, q.groups (s.slo.clusterId, name) = p.groups (s.slo.clusterId, name)) :
    LeavesGroup s (some w) p ((deleteSLO texts {} deleteId s.id q).1.put w.id w) where
  stored := hs
  slos := by
    obtain ⟨old, hold⟩ := slos_deleteSLO texts {} deleteId s.id q
    rw [Plugin.put, hold, hkey, Function.update_idem, hslos]
  elsewhere := by
    rintro s' ⟨⟩
    exact hcluster
  group := by
    have hnone : ∀ name, ({} : Faults).deleteRule name = none := fun _ => rfl
    obtain ⟨name, hname, hleft⟩ :=
      exists_group_deleteSLO texts hnone deleteId (hslos ▸ hs) (hkeyed.id_ne_empty hs)
    exact ⟨name, hname, hleft.trans (hgroups name)⟩

/-- An update on the cluster stores the objective; one that moves it leaves a group. -/
theorem stored_or_leavesGroup_of_updateSLO (hkeyed : Keyed p) {req : SLOData β}
    (h : succeeded (updateSLO texts {} clusters newId deleteId req p) = some p') :
    ∃ s, p.slos (sloKey req.id) = some s ∧
      (Stored texts ⟨req.id, texts.matched req.slo⟩ p p' ∨
        s.slo.clusterId ≠ req.slo.clusterId ∧
          LeavesGroup s (some ⟨req.id, texts.matched req.slo⟩) p p') := by
  revert h
  fun_cases updateSLO texts {} clusters newId deleteId req p with
  | case6 _ s hget _ data r hok =>
    rintro ⟨⟩
    have hs := (get_eq_ok_iff.mp hget).2
    have hkey := (hkeyed _ s hs).1
    have hrules : sloDataToStruct newId data =
        createSLORequestToStruct req.id (texts.matched req.slo) :=
      congrArg (createSLORequestToStruct · _) (if_neg (hkeyed.id_ne_empty hs))
    refine ⟨s, hs, ?_⟩
    unfold r update at hok ⊢
    rw [hrules] at hok ⊢
    dsimp only at hok ⊢
    split at hok
    next hmoved =>
      -- the groups are loaded on the new cluster before the deletion
      rw [if_pos hmoved]
      refine .inr ⟨hmoved.2, leavesGroup_of_move hkeyed (hkey ▸ hs) hkey
        (fun heq => hmoved.2 heq.symm) rfl fun name => ?_⟩
      exact (tryApplyThenDeleteCortexRules_applied (nodup_constructCortexRules _ _)
        hmoved.1 _).trans (by rw [groupsOf, if_neg hmoved.2, Option.none_or])
    next hstay =>
      rw [if_neg hstay]
      exact .inl ⟨rfl, tryApplyThenDeleteCortexRules_applied
        (nodup_constructCortexRules _ _) (not_not.mp hok)⟩
  | _ => rintro ⟨⟩

variable (texts) in
/-- What a request has done, and whether it was in place. -/
inductive Done (p p' : Plugin β) (inPlace : Prop) : Prop
  | stored {w : SLOData β} (hstored : Stored texts w p p')
      (hplain : ∃ name, PlainName name ∧ sloKey w.id = sloKey name)
      (hplace : inPlace ↔ Keeps p w.id w.slo.clusterId)
  | left {s : SLOData β} {w : Option (SLOData β)} (hleft : LeavesGroup s w p p')
      (hkey : ∀ s', w = some s' → sloKey s'.id = sloKey s.id) (hplace : ¬inPlace)

theorem done_of_step (hkeyed : Keyed p) {e : Request β} (h : step texts p e = some p') :
    Done texts p p' (InPlace p e) := by
  cases e with
  | create clusters newId slo =>
    exact .stored (stored_of_createSLO h) ⟨newId, newId.2, rfl⟩ Iff.rfl
  | update clusters newId deleteId req =>
    obtain ⟨s, hs, hstored | ⟨hmoved, hleft⟩⟩ := stored_or_leavesGroup_of_updateSLO hkeyed h
    · exact .stored hstored (hkeyed _ s hs).2 Iff.rfl
    · refine .left hleft ?_ fun hplace => hmoved (hplace s hs).2
      rintro s' ⟨⟩
      exact (hkeyed _ s hs).1
  | clone newId id =>
    obtain ⟨s, hs, hstored⟩ := stored_of_cloneSLO h
    refine .stored hstored ⟨newId, newId.2, rfl⟩ ⟨fun hplace => hplace s hs, ?_⟩
    intro hkeeps s' hs'
    cases hs.symm.trans hs'
    exact hkeeps
  | delete newId id =>
    obtain ⟨s, hleft⟩ := leavesGroup_of_deleteSLO hkeyed h
    exact .left hleft (fun s' hs' => nomatch hs') fun hplace => hplace

theorem Done.keyed (h : Done texts p p' inPlace) (hkeyed : Keyed p) : Keyed p' := by
  cases h with
  | stored hstored hplain hplace =>
    refine hkeyed.update hstored.slos ?_
    rintro s ⟨⟩
    exact ⟨rfl, hplain⟩
  | left hleft hkey hplace =>
    refine hkeyed.update hleft.slos fun s' hs' => ⟨(hkey s' hs').symm, ?_⟩
    exact (hkeyed _ _ hleft.stored).2

theorem Done.holdsRules_iff (h : Done texts p p' inPlace) (hkeyed : Keyed p)
    (hholds : HoldsRules texts p) : HoldsRules texts p' ↔ inPlace := by
  have hkeyed' := h.keyed hkeyed
  cases h with
  | stored hstored hplain hplace =>
    rw [hplace, hstored.holdsRules_iff hkeyed hkeyed' hholds]
  | left hleft hkey hplace =>
    exact iff_of_false (hleft.not_holdsRules hkeyed' hholds) hplace

end Requests

/-! ## Runs -/

theorem keyed_new (β : Type) : Keyed ({} : Plugin β) := fun _ _ hs => nomatch hs

theorem keyed_run {β : Type} {texts : Texts β} {requests : List (Request β)} {p : Plugin β}
    (hrun : run (step texts) {} requests = some p) : Keyed p := by
  have hreach : Reaches (step texts) (fun _ _ => True) {} p :=
    Reaches.run .refl hrun fun _ _ _ => trivial
  refine hreach.invariant (keyed_new β) ?_
  intro q e q' hkeyed _ hstep
  exact (done_of_step hkeyed hstep).keyed hkeyed

/-- In a run of requests that succeed, Cortex has the groups of the stored objectives all along
    just when every request is one in place. -/
theorem rules_of_stored_slos {β : Type} (texts : Texts β) (requests : List (Request β))
    {p : Plugin β} (hrun : run (step texts) {} requests = some p) :
    Always (step texts) (HoldsRules texts) {} requests ↔
      Throughout (step texts) InPlace {} requests := by
  refine always_iff_throughout (I := Keyed) ?_ ?_ (keyed_new β)
    ((holdsRules_iff_inStep (keyed_new β)).mpr (inStep_empty _)) hrun
  · intro q e q' hkeyed hstep
    exact (done_of_step hkeyed hstep).keyed hkeyed
  · intro q e q' hkeyed hholds hstep
    exact (done_of_step hkeyed hstep).holdsRules_iff hkeyed hholds

instance {β : Type} (p : Plugin β) (id clusterId : String) : Decidable (Keeps p id clusterId) :=
  match h : p.slos (sloKey id) with
  | none => isTrue fun s hs => by rw [h] at hs; cases hs
  | some s => decidable_of_iff (s.id = id ∧ s.slo.clusterId = clusterId)
      ⟨fun hs s' hs' => Option.some.inj (h.symm.trans hs') ▸ hs, fun hkeeps => hkeeps s h⟩

instance {β : Type} (p : Plugin β) (e : Request β) : Decidable (InPlace p e) :=
  match e with
  | .create _ newId slo => inferInstanceAs (Decidable (Keeps p newId slo.clusterId))
  | .update _ _ _ req => inferInstanceAs (Decidable (Keeps p req.id req.slo.clusterId))
  | .clone newId id =>
    match h : p.slos (sloKey id) with
    | none => isTrue fun s hs => by rw [h] at hs; cases hs
    | some s => decidable_of_iff (Keeps p newId s.slo.clusterId)
        ⟨fun hs s' hs' => Option.some.inj (h.symm.trans hs') ▸ hs, fun hplace => hplace s h⟩
  | .delete _ _ => inferInstanceAs (Decidable False)

/-- Everything is valid, and a rule has the name of its objective. -/
def plainTexts : Texts Unit where
  validate _ := none
  events := id
  text s _ := s.name

def monthly (name clusterId : String) : ServiceLevelObjective Unit :=
  ⟨name, "monitoring", clusterId, "30d", ()⟩

def renamed : List (Request Unit) :=
  [.create (.ok ["a", "b"]) ⟨"one", by decide⟩ (monthly "uptime" "a"),
    .update (.ok ["a", "b"]) ⟨"two", by decide⟩ ⟨"three", by decide⟩ ⟨"one", monthly "latency" "a"⟩,
    .clone ⟨"four", by decide⟩ "one"]

theorem rules_of_stored_slos_renamed :
    Always (step plainTexts) (HoldsRules plainTexts) {} renamed := by
  obtain ⟨p, hp⟩ : ∃ p, run (step plainTexts) {} renamed = some p :=
    Option.isSome_iff_exists.mp (by decide +kernel)
  exact (rules_of_stored_slos plainTexts _ hp).mpr (by decide +kernel)

def deleted : List (Request Unit) :=
  [.create (.ok ["a", "b"]) ⟨"one", by decide⟩ (monthly "uptime" "a"),
    .delete ⟨"two", by decide⟩ "one"]

/-- An objective is created and moved to another cluster. -/
def moved : List (Request Unit) :=
  [.create (.ok ["a", "b"]) ⟨"one", by decide⟩ (monthly "uptime" "a"),
    .update (.ok ["a", "b"]) ⟨"two", by decide⟩ ⟨"three", by decide⟩ ⟨"one", monthly "uptime" "b"⟩]

/-- The three groups are still there when the objective is deleted, and are still on the first
    cluster when it has moved. -/
theorem groups_left_behind :
    (∃ p, run (step plainTexts) {} deleted = some p ∧ p.slos (sloKey "one") = none ∧
      (∀ name ∈ groupNames "one", (p.groups ("a", name)).isSome) ∧ ¬HoldsRules plainTexts p) ∧
    ∃ p, run (step plainTexts) {} moved = some p ∧
      (p.slos (sloKey "one")).map (·.slo.clusterId) = some "b" ∧
      (∀ name ∈ groupNames "one", (p.groups ("a", name)).isSome) ∧ ¬HoldsRules plainTexts p := by
  have hfirst : "one" ++ recordingRuleSuffix ∈ groupNames "one" := .head _
  constructor
  all_goals
    refine exists_run_of_isSome (by decide +kernel) fun hp =>
      ⟨by decide +kernel, by decide +kernel, fun hholds => ?_⟩
    have hcluster := hholds.cluster_of_group (keyed_run hp) "a" hfirst (by decide +kernel)
    exact absurd hcluster (by decide +kernel)

end Opni.Objectives
