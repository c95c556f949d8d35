/-
  Opni.Alerting.Enforcement

  Whether the alert conditions are enforced as they are stored.  Rules and
  evaluators follow from the conditions (`Lib.Derived`), as long as no call
  takes the place of a condition that is enforced by others.
-/

import Opni.Alerting.ConditionHandlers
import Opni.Lib.Derived
import Opni.Lib.Goroutines

namespace Opni.Alerting.Plugin

open Lib Lib.Goroutines Function

variable {env : HandlerEnv} {p p' : Plugin} {cond : AlertCondition} {id : String}

/-! ## What should be there -/

/-- The condition that is stored under an id.  The id of a stored condition is what its key has
    below the prefix. -/
def stored (p : Plugin) (id : String) : Option AlertCondition :=
  if p.stores.conditions.CleanKey id then p.stores.conditions.kv.lookup (p.stores.conditions.key id)
  else none

/-- The rule group of a condition: the key is a cluster and the name of a group. -/
def ruleEntries (env : HandlerEnv) (id : String) (cond : AlertCondition) (k : String × String) :
    Option (Except Failure String) :=
  if target cond = some (.rules k.1) ∧ k.2 = cortexRuleIdFromUuid id then
    some (env.ruleContent id cond)
  else none

def ruleGroups (p : Plugin) (k : String × String) : Option (Except Failure String) :=
  (p.rules.lookup ⟨k.1, opniAlertingCortexNamespace, k.2⟩).map .ok

def evaluatorEntries (id : String) (cond : AlertCondition) (k : String) : Option Unit :=
  if target cond = some .evaluator ∧ k = id then some () else none

def evaluators (p : Plugin) (id : String) : Option Unit := (p.listeners.lookup id).map fun _ => ()

theorem eq_ruleKey_iff {clusterId clusterId' name : String} :
    (⟨clusterId', opniAlertingCortexNamespace, name⟩ : RuleKey) = ruleKey clusterId id ↔
      clusterId' = clusterId ∧ name = cortexRuleIdFromUuid id := by
  simp [ruleKey]

structure Enforced (env : HandlerEnv) (p : Plugin) : Prop where
  /-- Every stored condition has an id. -/
  ids : p.stores.conditions.CleanKeys
  /-- The rule groups of the plugin's namespace are those of the stored conditions on metrics,
      on the clusters of the conditions and with their rules. -/
  rules : ∀ clusterId groupName content, p.ruleGroups (clusterId, groupName) = some content ↔
    ∃ id cond, p.stored id = some cond ∧ target cond = some (.rules clusterId) ∧
      groupName = cortexRuleIdFromUuid id ∧ env.ruleContent id cond = content
  /-- The evaluators that are not cancelled are those of the stored internal conditions. -/
  running : ∀ id, (∃ evaluator, p.running.lookup evaluator = some id) ↔
    ∃ cond, p.stored id = some cond ∧ target cond = some .evaluator
  /-- There is one for each. -/
  one : ∀ id e e', p.running.lookup e = some id → p.running.lookup e' = some id → e = e'

/-! ## The evaluators and the messaging node -/

/-- The messaging node knows just the evaluators that are not cancelled. -/
structure Tracked (p : Plugin) : Prop where
  running_iff : ∀ evaluator id,
    p.running.lookup evaluator = some id ↔ p.listeners.lookup id = some evaluator
  lt_started : ∀ evaluator id, p.running.lookup evaluator = some id → evaluator < p.started

theorem tracked_new : Tracked {} := by
  refine ⟨fun evaluator id => ?_, fun evaluator id h => ?_⟩
  · simp
  · simp at h

theorem lookup_running_cancelListener (h : Tracked p) (id : String) (evaluator : Nat)
    (id' : String) :
    (p.cancelListener id).running.lookup evaluator = some id' ↔
      p.running.lookup evaluator = some id' ∧ id' ≠ id := by
  have hrunning := h.running_iff
  rw [cancelListener]
  split
  next old hlisten =>
    have hold := (hrunning old id).mpr hlisten
    rw [cancel, GoMap.lookup_erase_eq_some]
    grind
  · grind

@[simp] theorem listeners_cancelListener (p : Plugin) (id : String) :
    (p.cancelListener id).listeners = p.listeners := by
  rw [cancelListener]
  split <;> rfl

@[simp] theorem rules_cancelListener (p : Plugin) (id : String) :
    (p.cancelListener id).rules = p.rules := by
  rw [cancelListener]
  split <;> rfl

@[simp] theorem started_cancelListener (p : Plugin) (id : String) :
    (p.cancelListener id).started = p.started := by
  rw [cancelListener]
  split <;> rfl

theorem Tracked.removeConfigListener (h : Tracked p) (id : String) :
    Tracked (p.removeConfigListener id) := by
  refine ⟨fun evaluator id' => ?_, fun evaluator id' hrun => ?_⟩
  · rw [Plugin.removeConfigListener]
    rw [lookup_running_cancelListener h, listeners_cancelListener, h.running_iff,
      GoMap.lookup_erase_eq_some, and_comm]
  · rw [Plugin.removeConfigListener] at hrun ⊢
    rw [started_cancelListener]
    exact h.lt_started evaluator id' ((lookup_running_cancelListener h id evaluator id').mp hrun).1

theorem lookup_running_startEvaluator (h : Tracked p) (id : String) (evaluator : Nat) :
    (p.startEvaluator id).running.lookup evaluator =
      if evaluator = p.started then some id
      else (p.cancelListener id).running.lookup evaluator := by
  simp only [startEvaluator, addSystemConfigListener, cancelListener]
  cases hold : p.listeners.lookup id with
  | none => exact GoMap.lookup_insert_eq ..
  | some old =>
    -- the evaluator that is cancelled is an earlier one
    have hlt := h.lt_started old id ((h.running_iff old id).mpr hold)
    simp only [cancel, GoMap.lookup_erase_eq, GoMap.lookup_insert_eq]
    grind

@[simp] theorem listeners_startEvaluator (p : Plugin) (id : String) :
    (p.startEvaluator id).listeners = p.listeners.insert id p.started := by
  simp [startEvaluator, addSystemConfigListener]

@[simp] theorem rules_startEvaluator (p : Plugin) (id : String) :
    (p.startEvaluator id).rules = p.rules := by
  simp [startEvaluator, addSystemConfigListener]

@[simp] theorem started_startEvaluator (p : Plugin) (id : String) :
    (p.startEvaluator id).started = p.started + 1 := by
  simp [startEvaluator, addSystemConfigListener]

theorem Tracked.startEvaluator (h : Tracked p) (id : String) : Tracked (p.startEvaluator id) := by
  refine ⟨fun evaluator id' => ?_, fun evaluator id' hrun => ?_⟩
  · have hlt := h.lt_started evaluator id'
    rw [lookup_running_startEvaluator h, listeners_startEvaluator, GoMap.lookup_insert_eq_some,
      ← h.running_iff]
    split
    · -- nobody else listens to an evaluator that has not been started
      grind
    · rw [lookup_running_cancelListener h]
      grind
  · rw [started_startEvaluator]
    rw [lookup_running_startEvaluator h] at hrun
    by_cases hnew : evaluator = p.started
    · omega
    · rw [if_neg hnew, lookup_running_cancelListener h] at hrun
      have hlt := h.lt_started evaluator id' hrun.1
      omega

/-- The part of the property that is about evaluators, for the messaging node. -/
theorem running_iff_inStep (h : Tracked p) :
    ((∀ id, (∃ evaluator, p.running.lookup evaluator = some id) ↔
        ∃ cond, p.stored id = some cond ∧ target cond = some .evaluator) ∧
      ∀ id e e', p.running.lookup e = some id → p.running.lookup e' = some id → e = e') ↔
    InStep evaluatorEntries p.stored p.evaluators := by
  have hone : ∀ id e e', p.running.lookup e = some id → p.running.lookup e' = some id → e = e' := by
    intro id e e' he he'
    rw [h.running_iff] at he he'
    rw [he] at he'
    exact Option.some.inj he'
  rw [and_iff_left hone]
  have hlisten : ∀ id, (∃ evaluator, p.running.lookup evaluator = some id) ↔
      p.evaluators id = some () := by
    intro id
    simp only [h.running_iff, evaluators, Option.map_eq_some_iff, and_true]
  have hentry : ∀ id, (∃ i cond, p.stored i = some cond ∧ evaluatorEntries i cond id = some ()) ↔
      ∃ cond, p.stored id = some cond ∧ target cond = some .evaluator := by
    intro id
    constructor
    · rintro ⟨i, cond, hcond, hentry⟩
      rw [evaluatorEntries, ite_some_eq_some] at hentry
      obtain ⟨⟨htarget, rfl⟩, -⟩ := hentry
      exact ⟨cond, hcond, htarget⟩
    · rintro ⟨cond, hcond, htarget⟩
      exact ⟨id, cond, hcond, if_pos ⟨htarget, rfl⟩⟩
  constructor
  · rintro hall id ⟨⟩
    rw [← hlisten, hall, hentry]
  · intro hin id
    rw [hlisten, hin id (), hentry]

theorem enforced_iff (h : Tracked p) :
    Enforced env p ↔ p.stores.conditions.CleanKeys ∧
      InStep (ruleEntries env) p.stored p.ruleGroups ∧
      InStep evaluatorEntries p.stored p.evaluators := by
  rw [← running_iff_inStep h, InStep]
  simp only [ruleEntries, ite_some_eq_some, Prod.forall, and_assoc]
  constructor
  · intro henf
    exact ⟨henf.ids, henf.rules, henf.running, henf.one⟩
  · rintro ⟨hids, hrules, hrunning, hone⟩
    exact ⟨hids, hrules, hrunning, hone⟩

/-! ## Whose entries these are -/

theorem cortexRuleIdFromUuid_inj {id' : String}
    (h : cortexRuleIdFromUuid id = cortexRuleIdFromUuid id') : id = id' :=
  (String.append_left_inj _).mp h

theorem owns_ruleEntries {k : String × String} (h : Owns (ruleEntries env) id k) :
    k.2 = cortexRuleIdFromUuid id := by
  obtain ⟨cond, hne⟩ := h
  by_contra hname
  exact hne (if_neg fun hand => hname hand.2)

theorem owns_evaluatorEntries {k : String} (h : Owns evaluatorEntries id k) : k = id := by
  obtain ⟨cond, hne⟩ := h
  by_contra hid
  exact hne (if_neg fun hand => hid hand.2)

theorem ruleEntries_owner (i j : String) (k : String × String) (hi : Owns (ruleEntries env) i k)
    (hj : Owns (ruleEntries env) j k) : i = j :=
  cortexRuleIdFromUuid_inj ((owns_ruleEntries hi).symm.trans (owns_ruleEntries hj))

theorem evaluatorEntries_owner (i j : String) (k : String) (hi : Owns evaluatorEntries i k)
    (hj : Owns evaluatorEntries j k) : i = j :=
  (owns_evaluatorEntries hi).symm.trans (owns_evaluatorEntries hj)

/-! ## Storing and deleting -/

theorem stored_putCondition (h : p.stores.conditions.CleanKey id) (cond : AlertCondition) :
    (p.putCondition id cond).stored = update p.stored id (some cond) := by
  funext j
  by_cases hj : j = id
  · subst hj
    rw [update_self]
    exact (if_pos h).trans (AList.lookup_insert _)
  · rw [update_of_ne hj, stored, stored]
    refine ite_congr rfl (fun hclean => ?_) fun _ => rfl
    exact AList.lookup_insert_ne fun heq => hj (hclean.eq_of_key_eq h heq)

def dropCondition (p : Plugin) (id : String) : Plugin :=
  { p with stores.conditions := p.stores.conditions.delete id }

theorem stored_dropCondition (h : p.stores.conditions.CleanKey id) :
    (p.dropCondition id).stored = update p.stored id none := by
  funext j
  by_cases hj : j = id
  · subst hj
    rw [update_self]
    exact (if_pos h).trans (AList.lookup_erase _ _)
  · rw [update_of_ne hj, stored, stored]
    refine ite_congr rfl (fun hclean => ?_) fun _ => rfl
    exact AList.lookup_erase_ne fun heq => hj (hclean.eq_of_key_eq h heq)

variable (old : Option AlertCondition) (new : AlertCondition) {allowed : Prop}

/-- What a condition is enforced by stays, if there was a condition before. -/
def Keeps : Prop :=
  ∀ cond, old = some cond → ∀ t, target cond = some t → target new = some t

instance : Decidable (Keeps old new) :=
  match old with
  | none => isTrue fun _ h => by cases h
  | some cond =>
    match h : target cond with
    | none => isTrue fun _ hc t ht => by rw [← Option.some.inj hc, h] at ht; cases ht
    | some t =>
      decidable_of_iff (target new = some t)
        ⟨fun hnew c hc t' ht' => by
          rw [← Option.some.inj hc, h] at ht'
          rw [hnew, ht'],
        fun hkeeps => hkeeps cond rfl t h⟩

theorem keeps_iff (env : HandlerEnv) (id : String) (old : Option AlertCondition)
    (new : AlertCondition) :
    Keeps old new ↔
      (∀ v, old = some v → ∀ k, ruleEntries env id v k ≠ none → ruleEntries env id new k ≠ none) ∧
      ∀ v, old = some v → ∀ k, evaluatorEntries id v k ≠ none →
        evaluatorEntries id new k ≠ none := by
  simp only [Keeps, ruleEntries, evaluatorEntries, ne_eq, ite_eq_right_iff, reduceCtorEq, imp_false,
    not_not]
  constructor
  · intro h
    exact ⟨fun v hv k hk => ⟨h v hv _ hk.1, hk.2⟩, fun v hv k hk => ⟨h v hv _ hk.1, hk.2⟩⟩
  · rintro ⟨hrules, hevaluators⟩ v hv t ht
    cases t with
    | evaluator => exact (hevaluators v hv id ⟨ht, rfl⟩).1
    | rules c => exact (hrules v hv (c, cortexRuleIdFromUuid id) ⟨ht, rfl⟩).1

/-! ## Setting up -/

section

variable (h : SetUp env p cond id p')

include h

theorem SetUp.overlay :
    p'.stores = p.stores ∧
      (∀ k, p'.ruleGroups k = (ruleEntries env id cond k).or (p.ruleGroups k)) ∧
      ∀ k, p'.evaluators k = (evaluatorEntries id cond k).or (p.evaluators k) := by
  cases h with
  | evaluator htarget =>
    refine ⟨?_, fun k => ?_, fun k => ?_⟩
    · simp only [startEvaluator, addSystemConfigListener, cancelListener]
      split <;> rfl
    · simp [ruleGroups, ruleEntries, htarget]
    · rw [evaluators, listeners_startEvaluator, evaluatorEntries, evaluators,
        GoMap.lookup_insert_eq]
      split <;> simp [*]
  | @rules clusterId content htarget hcontent =>
    refine ⟨rfl, fun k => ?_, fun k => ?_⟩
    · simp only [ruleGroups, ruleEntries, htarget, Option.some.injEq, Target.rules.injEq,
        GoMap.lookup_insert_eq, eq_ruleKey_iff, @eq_comm _ clusterId]
      split
      · rw [hcontent]
        rfl
      · rfl
    · simp [evaluatorEntries, htarget, evaluators]

theorem SetUp.tracked (htracked : Tracked p) : Tracked p' := by
  cases h with
  | evaluator htarget => exact htracked.startEvaluator id
  | rules htarget hcontent => exact ⟨htracked.running_iff, htracked.lt_started⟩

theorem SetUp.entry :
    (∃ k e, p'.ruleGroups k = some e ∧ Owns (ruleEntries env) id k) ∨
      ∃ k e, p'.evaluators k = some e ∧ Owns evaluatorEntries id k := by
  obtain ⟨-, hrules, hevaluators⟩ := h.overlay
  cases h with
  | evaluator htarget =>
    have hentry : evaluatorEntries id cond id = some () := if_pos ⟨htarget, rfl⟩
    exact .inr ⟨id, (), by rw [hevaluators, hentry, Option.some_or], owns_of_eq_some hentry⟩
  | @rules clusterId content htarget hcontent =>
    have hentry : ruleEntries env id cond (clusterId, cortexRuleIdFromUuid id) =
        some (env.ruleContent id cond) := if_pos ⟨htarget, rfl⟩
    exact .inl ⟨_, _, by rw [hrules, hentry, Option.some_or], owns_of_eq_some hentry⟩

end

theorem enforced_setUp_iff (htracked : Tracked p) (h : Enforced env p)
    (hsetup : SetUp env (p.putCondition id cond) cond id p') :
    Enforced env p' ↔ p.stores.conditions.CleanKey id ∧ Keeps (p.stored id) cond := by
  obtain ⟨hids, hrules, hevaluators⟩ := (enforced_iff htracked).mp h
  obtain ⟨hstores, hgroups, hlisteners⟩ := hsetup.overlay
  have htracked' : Tracked p' := hsetup.tracked ⟨htracked.running_iff, htracked.lt_started⟩
  have hstored : p'.stored = (p.putCondition id cond).stored := by
    unfold stored
    rw [hstores]
  rw [enforced_iff htracked', hstored, hstores]
  by_cases hclean : p.stores.conditions.CleanKey id
  · rw [stored_putCondition hclean, hrules.overlay_iff ruleEntries_owner cond hgroups,
      hevaluators.overlay_iff evaluatorEntries_owner cond hlisteners, ← keeps_iff,
      and_iff_right hclean]
    exact and_iff_right (hids.put hclean cond)
  · -- nothing is stored under the id, but something enforces it
    have hnone : (p.putCondition id cond).stored id = none := if_neg hclean
    refine iff_of_false ?_ fun hand => hclean hand.1
    rintro ⟨-, hrules', hevaluators'⟩
    rcases hsetup.entry with ⟨k, e, hk, hown⟩ | ⟨k, e, hk, hown⟩
    · rw [hrules'.eq_bind ruleEntries_owner hown, hnone] at hk
      cases hk
    · rw [hevaluators'.eq_bind evaluatorEntries_owner hown, hnone] at hk
      cases hk

/-! ## Removing -/

theorem Removed.remove (env : HandlerEnv) (h : Removed p cond id p') :
    p'.stores = p.stores ∧
      (∀ k, p'.ruleGroups k = if ruleEntries env id cond k = none then p.ruleGroups k else none) ∧
      ∀ k, p'.evaluators k =
        if evaluatorEntries id cond k = none then p.evaluators k else none := by
  cases h with
  | evaluator htarget =>
    refine ⟨?_, fun k => ?_, fun k => ?_⟩
    · simp only [removeConfigListener, cancelListener]
      split <;> rfl
    · simp [ruleGroups, ruleEntries, htarget, removeConfigListener]
    · simp only [evaluators, evaluatorEntries, htarget, removeConfigListener,
        listeners_cancelListener, true_and, ite_eq_right_iff, reduceCtorEq, imp_false,
        GoMap.lookup_erase_eq]
      split <;> simp
  | @rules clusterId htarget =>
    refine ⟨rfl, fun k => ?_, fun k => ?_⟩
    · simp only [ruleGroups, ruleEntries, htarget, Option.some.injEq, Target.rules.injEq,
        ite_eq_right_iff, reduceCtorEq, imp_false, GoMap.lookup_erase_eq, eq_ruleKey_iff,
        @eq_comm _ clusterId, ite_not, apply_ite (Option.map _), Option.map_none]
    · simp [evaluatorEntries, htarget, evaluators]

theorem Removed.tracked (h : Removed p cond id p') (htracked : Tracked p) : Tracked p' := by
  cases h with
  | evaluator htarget => exact htracked.removeConfigListener id
  | rules htarget => exact ⟨htracked.running_iff, htracked.lt_started⟩

/-- After a condition has been deleted everything is enforced just when the id is clean. -/
theorem enforced_removed_iff (htracked : Tracked p) (h : Enforced env p)
    (hget : p.stores.conditions.get id = .ok cond)
    (hremoved : Removed (p.dropCondition id) cond id p') :
    Enforced env p' ↔ p.stores.conditions.CleanKey id := by
  obtain ⟨hids, hrules, hevaluators⟩ := (enforced_iff htracked).mp h
  obtain ⟨hstores, hgroups, hlisteners⟩ := hremoved.remove env
  have htracked' : Tracked p' := hremoved.tracked ⟨htracked.running_iff, htracked.lt_started⟩
  have hstored : p'.stored = (p.dropCondition id).stored := by
    unfold stored
    rw [hstores]
  rw [AlertingStorage.get_eq_ok_iff] at hget
  rw [enforced_iff htracked', hstored, hstores]
  by_cases hclean : p.stores.conditions.CleanKey id
  · have hid : p.stored id = some cond := (if_pos hclean).trans hget
    refine iff_of_true ⟨hids.delete id, ?_, ?_⟩ hclean
    · rw [stored_dropCondition hclean]
      exact hrules.remove ruleEntries_owner hid hgroups
    · rw [stored_dropCondition hclean]
      exact hevaluators.remove evaluatorEntries_owner hid hlisteners
  · -- the condition is stored under another id, whose entries stay
    refine iff_of_false ?_ hclean
    rintro ⟨-, hrules', hevaluators'⟩
    have hmem : p.stores.conditions.key id ∈ p.stores.conditions.kv :=
      GoMap.mem_iff.mpr ⟨_, hget⟩
    obtain ⟨id', hclean', hkey⟩ := hids _ hmem
    have hne : id' ≠ id := by
      rintro rfl
      exact hclean hclean'
    have hid' : p.stored id' = some cond := (if_pos hclean').trans (hkey ▸ hget)
    have hgone : (p.dropCondition id).stored id' = none := by
      refine (if_pos hclean').trans ?_
      exact hkey ▸ AList.lookup_erase _ _
    have hnorule := hrules.eq_none_of_remove ruleEntries_owner hrules' hid' hgone hne hgroups
    have hnoevaluator :=
      hevaluators.eq_none_of_remove evaluatorEntries_owner hevaluators' hid' hgone hne hlisteners
    cases hremoved with
    | evaluator htarget =>
      have hentry := hnoevaluator id'
      rw [evaluatorEntries, if_pos ⟨htarget, rfl⟩] at hentry
      cases hentry
    | @rules clusterId htarget =>
      have hentry := hnorule (clusterId, cortexRuleIdFromUuid id')
      rw [ruleEntries, if_pos ⟨htarget, rfl⟩] at hentry
      cases hentry

/-! ## Runs -/

/-- An update, or a create that draws an id in use, keeps what the condition is enforced by;
    and the ids of updates and deletes are clean. -/
def Allows (p : Plugin) : ConditionCall → Prop
  | .create newId req => Keeps (p.stored newId.1) req
  | .update none _ => True
  | .update (some id) updateAlert =>
    p.stores.conditions.CleanKey id ∧ Keeps (p.stored id) updateAlert
  | .delete id => p.stores.conditions.CleanKey id

instance (p : Plugin) (c : ConditionCall) : Decidable (p.Allows c) :=
  match c with
  | .create _ _ => inferInstanceAs (Decidable (Keeps _ _))
  | .update none _ => isTrue trivial
  | .update (some _) _ => inferInstanceAs (Decidable (_ ∧ _))
  | .delete _ => inferInstanceAs (Decidable (AlertingStorage.CleanKey _ _))

theorem target_of_validate {lib : AlertingLibs} {req : AlertCondition}
    (h : req.validate lib = .ok cond) : target cond = target req := by
  obtain ⟨alertType, htype, rfl, -⟩ := AlertCondition.validate_eq_ok h
  cases hd : req.alertType with
  | none =>
    rw [hd] at htype
    simp [AlertTypeDetails.validate, invalid] at htype
  | some d =>
    rw [hd] at htype
    obtain ⟨_, -, rfl⟩ := map_eq_ok_iff.mp htype
    cases d <;> simp [target, hd, AlertTypeDetails.normalize]

theorem keeps_congr {old : Option AlertCondition} {new new' : AlertCondition}
    (h : target new = target new') : Keeps old new ↔ Keeps old new' := by
  rw [Keeps, Keeps, h]

theorem whenInstalled_eq_ok (hstatus : env.status = .ok .installed) {handle : Plugin → Outcome} :
    p.whenInstalled env handle = handle p := by
  simp [whenInstalled, hstatus]

/-- What a call that succeeds does, and whether it is allowed. -/
inductive Done (env : HandlerEnv) (p p' : Plugin) (allowed : Prop) : Prop where
  | setUp {id : String} {cond : AlertCondition}
      (hsetup : SetUp env (p.putCondition id cond) cond id p')
      (hallowed : allowed ↔ p.stores.conditions.CleanKey id ∧ Keeps (p.stored id) cond)
  | removed {id : String} {cond : AlertCondition}
      (hget : p.stores.conditions.get id = .ok cond)
      (hremoved : Removed (p.dropCondition id) cond id p')
      (hallowed : allowed ↔ p.stores.conditions.CleanKey id)

theorem done_of_step (hstatus : env.status = .ok .installed) {c : ConditionCall}
    (h : p.step env c = some p') : Done env p p' (p.Allows c) := by
  have hcall : p.call env c = (.ok (), p') := by
    rw [step] at h
    split at h
    next q hq => rw [hq, Option.some.inj h]
    · cases h
  cases c with
  | create newId req =>
    rw [call, createAlertCondition] at hcall
    split at hcall
    · cases hcall
    next cond hvalid =>
      rw [whenInstalled_eq_ok hstatus] at hcall
      refine .setUp (setUp_of_setupCondition hcall) ?_
      rw [Allows, and_iff_right (p.stores.conditions.cleanKey_of_plain newId.2)]
      exact keeps_congr (target_of_validate hvalid).symm
  | update id updateAlert =>
    cases id with
    | none => cases hcall
    | some id =>
      rw [call, updateAlertCondition] at hcall
      split at hcall
      · cases hcall
      · split at hcall
        · cases hcall
        next cond hvalid =>
          rw [whenInstalled_eq_ok hstatus] at hcall
          refine .setUp (setUp_of_setupCondition hcall) ?_
          rw [Allows, keeps_congr (target_of_validate hvalid)]
  | delete id =>
    rw [call, deleteAlertCondition] at hcall
    split at hcall
    · cases hcall
    next cond hget =>
      rw [whenInstalled_eq_ok hstatus] at hcall
      exact .removed hget (removed_of_deleteCondition hcall) Iff.rfl

theorem Done.tracked (h : Done env p p' allowed) (htracked : Tracked p) : Tracked p' := by
  cases h with
  | setUp hsetup hallowed => exact hsetup.tracked ⟨htracked.running_iff, htracked.lt_started⟩
  | removed hget hremoved hallowed =>
    exact hremoved.tracked ⟨htracked.running_iff, htracked.lt_started⟩

theorem Done.enforced_iff (h : Done env p p' allowed) (htracked : Tracked p)
    (henforced : Enforced env p) : Enforced env p' ↔ allowed := by
  cases h with
  | setUp hsetup hallowed => rw [hallowed, enforced_setUp_iff htracked henforced hsetup]
  | removed hget hremoved hallowed =>
    rw [hallowed, enforced_removed_iff htracked henforced hget hremoved]

theorem enforced_new (env : HandlerEnv) : Enforced env {} := by
  have hnone : ∀ id, stored {} id = none := by
    intro id
    rw [stored]
    split <;> rfl
  refine ⟨fun path hpath => ?_, fun clusterId groupName content => ?_, fun id => ?_,
    fun id e e' he => ?_⟩
  · exact absurd hpath (AList.notMem_empty path)
  · simp [ruleGroups, hnone]
  · simp [hnone]
  · simp at he

/-- In a run of calls that succeed, with alerting installed, the conditions are enforced as they
    are stored all along just when every call is allowed. -/
theorem conditions_enforced (env : HandlerEnv) (hstatus : env.status = .ok .installed)
    (calls : List ConditionCall) {p : Plugin} (hrun : run (step env) {} calls = some p) :
    Always (step env) (Enforced env) {} calls ↔ Throughout (step env) Allows {} calls := by
  refine always_iff_throughout (I := Tracked) ?_ ?_ tracked_new (enforced_new env) hrun
  · intro q c q' htracked hstep
    exact (done_of_step hstatus hstep).tracked htracked
  · intro q c q' htracked henforced hstep
    exact (done_of_step hstatus hstep).enforced_iff htracked henforced

/-- Alerting is installed, everything is accepted, and the rules of a condition are its name. -/
def installedEnv : HandlerEnv where
  lib :=
    { parseRequestURI := fun _ => .ok ()
      parseURL := fun url => .ok url
      parseAddress := fun _ => .ok ()
      showEndpoint := fun _ => ""
      parseExpr := fun _ => .ok ()
      showAlertType := fun _ => "" }
  ruleContent _ cond := .ok cond.name
  status := .ok .installed
  cortex := .ok ()

variable (name clusterId : String)

def fsCondition : AlertCondition where
  name
  alertType := some (.fs (some clusterId) 0 60 ">")

def systemCondition : AlertCondition where
  name
  alertType := some (.system (some clusterId))

theorem plainName_one : PlainName "one" := by decide

theorem plainName_two : PlainName "two" := by decide

def drawnId : RefId := ⟨"one", plainName_one⟩

/-- A condition is created, updated and deleted, and another one is created. -/
def updatingCalls : List ConditionCall :=
  [.create drawnId (fsCondition "full" "a"), .update (some "one") (fsCondition "fuller" "a"),
    .create ⟨"two", plainName_two⟩ (systemCondition "gone" "a"), .delete "one"]

theorem conditions_enforced_updating :
    Always (step installedEnv) (Enforced installedEnv) {} updatingCalls := by
  obtain ⟨p, hp⟩ : ∃ p, run (step installedEnv) {} updatingCalls = some p :=
    Option.isSome_iff_exists.mp (by decide +kernel)
  exact (conditions_enforced installedEnv rfl _ hp).mpr (by decide +kernel)

/-- An update moves a condition to another cluster, and then it is deleted. -/
def movingCalls : List ConditionCall :=
  [.create drawnId (fsCondition "full" "a"), .update (some "one") (fsCondition "full" "b"),
    .delete "one"]

/-- An update turns an internal condition into one on metrics, and then it is deleted. -/
def turningCalls : List ConditionCall :=
  [.create drawnId (systemCondition "gone" "a"), .update (some "one") (fsCondition "full" "a"),
    .delete "one"]

/-- The rules on the first cluster, and the evaluator, are still there when the condition is
    not. -/
theorem update_leaves_enforcement :
    (∃ p, run (step installedEnv) {} movingCalls = some p ∧ p.stored "one" = none ∧
      p.rules.lookup (ruleKey "a" "one") = some "full" ∧ ¬Enforced installedEnv p) ∧
    ∃ p, run (step installedEnv) {} turningCalls = some p ∧ p.stored "one" = none ∧
      p.running.lookup 0 = some "one" ∧ ¬Enforced installedEnv p := by
  constructor
  · refine exists_run_of_isSome (by decide +kernel) fun _ =>
      ⟨by decide +kernel, by decide +kernel, fun henforced => ?_⟩
    obtain ⟨id, cond, hid, -, hname, -⟩ :=
      (henforced.rules "a" (cortexRuleIdFromUuid "one") (.ok "full")).mp (by decide +kernel)
    rw [← cortexRuleIdFromUuid_inj hname] at hid
    cases hid.symm.trans (by decide +kernel : _ = none)
  · refine exists_run_of_isSome (by decide +kernel) fun _ =>
      ⟨by decide +kernel, by decide +kernel, fun henforced => ?_⟩
    obtain ⟨cond, hcond, -⟩ := (henforced.running "one").mp ⟨0, by decide +kernel⟩
    cases hcond.symm.trans (by decide +kernel : _ = none)

end Opni.Alerting.Plugin
