/-
  Opni.Alerting.ConditionHandlers

  What enforces the alert conditions: rule groups in Cortex for the conditions
  on metrics, evaluators that run in the plugin for the internal ones
  (`plugins/alerting/pkg/alerting/condition_handlers.go`,
  `messaging/node.go`), and the API calls that store, set up and remove
  conditions (`api_conditions.go`).
-/

import Opni.Alerting.Clientset

namespace Opni.Alerting

open Lib

/-! ## Cortex -/

def opniAlertingCortexNamespace : String := "opni-alerting"

def alertingSuffix : String := "-opni-alerting"

def cortexRuleIdFromUuid (id : String) : String := id ++ alertingSuffix

structure RuleKey where
  clusterId : String
  ns : String
  groupName : String
deriving DecidableEq

inductive InstallState where
  | installUnknown | notInstalled | installUpdating | installed | uninstalling
deriving DecidableEq

/-- What a call depends on: the rules of a condition, as the builders of the metrics package and
    `NewCortexAlertingRule` make them, the answer of `GetClusterStatus`, and that of Cortex. -/
structure HandlerEnv where
  lib : AlertingLibs
  ruleContent : String → AlertCondition → Except Failure String
  status : Except Failure InstallState
  cortex : Except Failure Unit

/-! ## The plugin -/

/-- The plugin: the stores, the rule groups in Cortex, and the evaluators that have been
    started.  `running` has the ids of the conditions whose evaluators are not cancelled, and
    `listeners` the evaluators that the messaging node knows of. -/
structure Plugin where
  stores : Stores := .empty
  rules : GoMap RuleKey String := ∅
  listeners : GoMap String Nat := ∅
  running : GoMap Nat String := ∅
  started : Nat := 0

abbrev Outcome := Except Failure Unit × Plugin

namespace Plugin

variable (p : Plugin)

def cancel (evaluator : Nat) : Plugin := { p with running := p.running.erase evaluator }

variable (conditionId : String)

/-- The evaluator that the messaging node has for the condition is cancelled. -/
def cancelListener : Plugin :=
  match p.listeners.lookup conditionId with
  | some evaluator => p.cancel evaluator
  | none => p

def addSystemConfigListener (evaluator : Nat) : Plugin :=
  let p := p.cancelListener conditionId
  { p with listeners := p.listeners.insert conditionId evaluator }

def removeConfigListener : Plugin :=
  let p := p.cancelListener conditionId
  { p with listeners := p.listeners.erase conditionId }

/-- `onSystemConditionCreate`, `onDownstreamCapabilityConditionCreate` and
    `onCortexClusterStatusCreate` start an evaluator and register it. -/
def startEvaluator : Plugin :=
  let evaluator := p.started
  let p := { p with
    running := p.running.insert evaluator conditionId
    started := evaluator + 1 }
  p.addSystemConfigListener conditionId evaluator

def ruleKey (clusterId id : String) : RuleKey :=
  ⟨clusterId, opniAlertingCortexNamespace, cortexRuleIdFromUuid id⟩

section Handlers

variable (env : HandlerEnv) (p : Plugin)

/-- The handlers of the conditions on metrics build the rules of the condition and call
    `LoadRules` for its cluster. -/
def loadRules (clusterId : String) (cond : AlertCondition) (id : String) : Outcome :=
  match env.ruleContent id cond with
  | .error err => (.error err, p)
  | .ok content =>
    match env.cortex with
    | .error err => (.error err, p)
    | .ok () => (.ok (), { p with rules := p.rules.insert (ruleKey clusterId id) content })

/-- `DeleteRule`, for the rule group of a condition. -/
def deleteRule (clusterId id : String) : Outcome :=
  match env.cortex with
  | .error err => (.error err, p)
  | .ok () => (.ok (), { p with rules := p.rules.erase (ruleKey clusterId id) })

def alertingErrNotImplemented : Failure := .status ⟨.unimplemented, "Not implemented"⟩

/-- An evaluator for a cluster; a missing reference to the cluster panics. -/
def startClusterEvaluator (clusterId : Option String) (id : String) : Outcome :=
  match clusterId with
  | none => (nilDereference, p)
  | some _ => (.ok (), p.startEvaluator id)

variable (cond : AlertCondition) (id : String)

def setupCondition : Outcome :=
  match cond.alertType with
  | some (.system clusterId) | some (.downstreamCapability clusterId _ _) =>
    p.startClusterEvaluator clusterId id
  | some (.monitoringBackend _ _ _) => (.ok (), p.startEvaluator id)
  | some (.kubeState clusterId _ _ _ _) => p.loadRules env clusterId cond id
  | some (.cpu clusterId _ _ _ _) | some (.memory clusterId _ _ _ _) | some (.fs clusterId _ _ _)
  | some (.prometheusQuery clusterId _ _) => p.loadRules env (clusterId.getD "") cond id
  | some .composition | some .controlFlow | none => (.error alertingErrNotImplemented, p)

/-- `deleteCondition`; a condition on metrics without a reference to its cluster is not
    handled. -/
def deleteCondition : Outcome :=
  match cond.alertType with
  | some (.system _) | some (.downstreamCapability _ _ _) | some (.monitoringBackend _ _ _) =>
    (.ok (), p.removeConfigListener id)
  | some (.kubeState clusterId _ _ _ _) => p.deleteRule env clusterId id
  | some (.cpu clusterId _ _ _ _) | some (.memory clusterId _ _ _ _) | some (.fs clusterId _ _ _)
  | some (.prometheusQuery clusterId _ _) =>
    match clusterId with
    | some clusterId => p.deleteRule env clusterId id
    | none => (.error alertingErrNotImplemented, p)
  | some .composition | some .controlFlow | none => (.error alertingErrNotImplemented, p)

/-- The last part of the calls, which is only done when alerting is installed. -/
def whenInstalled (handle : Plugin → Outcome) : Outcome :=
  match env.status with
  | .error err => (.error err, p)
  | .ok state => if state ≠ .installed then (.ok (), p) else handle p

def putCondition (cond : AlertCondition) : Plugin :=
  { p with stores.conditions := p.stores.conditions.put id cond }

def createAlertCondition (newId : RefId) (req : AlertCondition) : Outcome :=
  match req.validate env.lib with
  | .error err => (.error err, p)
  | .ok req =>
    let cond := { req with id := newId.1 }
    (p.putCondition newId.1 cond).whenInstalled env (·.setupCondition env cond newId.1)

/-- `UpdateAlertCondition`.  What the stored version has in Cortex or in the plugin is not
    looked at. -/
def updateAlertCondition (id : Option String) (updateAlert : AlertCondition) :
    Outcome :=
  match id with
  | none => (invalid "Id must be set", p)
  | some id =>
    if id = "" then (invalid "Id must be set", p)
    else match updateAlert.validate env.lib with
      | .error err => (.error err, p)
      | .ok cond => (p.putCondition id cond).whenInstalled env (·.setupCondition env cond id)

def deleteAlertCondition : Outcome :=
  match p.stores.conditions.get id with
  | .error err => (.error err, p)
  | .ok existing =>
    let p := { p with stores.conditions := p.stores.conditions.delete id }
    p.whenInstalled env (·.deleteCondition env existing id)

inductive ConditionCall where
  | create (newId : RefId) (req : AlertCondition)
  | update (id : Option String) (updateAlert : AlertCondition)
  | delete (id : String)

def call : ConditionCall → Outcome
  | .create newId req => p.createAlertCondition env newId req
  | .update id updateAlert => p.updateAlertCondition env id updateAlert
  | .delete id => p.deleteAlertCondition env id

def step (c : ConditionCall) : Option Plugin :=
  match p.call env c with
  | (.ok (), p') => some p'
  | (.error _, _) => none

end Handlers

/-! ## What a call does -/

inductive Target where
  | evaluator
  | rules (clusterId : String)
deriving DecidableEq

/-- What `setupCondition` sets up. -/
def target (cond : AlertCondition) : Option Target :=
  match cond.alertType with
  | some (.system _) | some (.downstreamCapability _ _ _) | some (.monitoringBackend _ _ _) =>
    some .evaluator
  | some (.kubeState clusterId _ _ _ _) => some (.rules clusterId)
  | some (.cpu clusterId _ _ _ _) | some (.memory clusterId _ _ _ _) | some (.fs clusterId _ _ _)
  | some (.prometheusQuery clusterId _ _) => some (.rules (clusterId.getD ""))
  | some .composition | some .controlFlow | none => none

inductive SetUp (env : HandlerEnv) (p : Plugin) (cond : AlertCondition) (id : String) :
    Plugin → Prop where
  | evaluator (htarget : target cond = some .evaluator) : SetUp env p cond id (p.startEvaluator id)
  | rules {clusterId content : String} (htarget : target cond = some (.rules clusterId))
      (hcontent : env.ruleContent id cond = .ok content) :
      SetUp env p cond id { p with rules := p.rules.insert (ruleKey clusterId id) content }

/-- A condition is removed, in the plugin or in Cortex. -/
inductive Removed (p : Plugin) (cond : AlertCondition) (id : String) : Plugin → Prop where
  | evaluator (htarget : target cond = some .evaluator) :
      Removed p cond id (p.removeConfigListener id)
  | rules {clusterId : String} (htarget : target cond = some (.rules clusterId)) :
      Removed p cond id { p with rules := p.rules.erase (ruleKey clusterId id) }

variable {env : HandlerEnv} {p p' : Plugin} {cond : AlertCondition} {id : String}

theorem setUp_of_setupCondition (h : p.setupCondition env cond id = (.ok (), p')) :
    SetUp env p cond id p' := by
  have hevaluator : ∀ clusterId, target cond = some .evaluator →
      p.startClusterEvaluator clusterId id = (.ok (), p') → SetUp env p cond id p' := by
    intro clusterId htarget hstart
    cases clusterId with
    | none => cases hstart
    | some clusterId =>
      obtain rfl := (Prod.mk.inj hstart).2
      exact .evaluator htarget
  have hrules : ∀ clusterId, target cond = some (.rules clusterId) →
      p.loadRules env clusterId cond id = (.ok (), p') → SetUp env p cond id p' := by
    intro clusterId htarget
    fun_cases p.loadRules env clusterId cond id with
    | case3 content hcontent =>
      rintro ⟨⟩
      exact .rules htarget hcontent
    | _ => exact nofun
  revert h
  fun_cases p.setupCondition env cond id with
  | case1 | case2 => exact hevaluator _ (by rw [target, ‹cond.alertType = _›])
  | case3 =>
    rintro ⟨⟩
    exact .evaluator (by rw [target, ‹cond.alertType = _›])
  | case4 | case5 | case6 | case7 | case8 => exact hrules _ (by rw [target, ‹cond.alertType = _›])
  | _ => exact nofun

theorem removed_of_deleteCondition (h : p.deleteCondition env cond id = (.ok (), p')) :
    Removed p cond id p' := by
  have hrules : ∀ clusterId, target cond = some (.rules clusterId) →
      p.deleteRule env clusterId id = (.ok (), p') → Removed p cond id p' := by
    intro clusterId htarget hdelete
    rw [deleteRule] at hdelete
    split at hdelete
    · cases hdelete
    · obtain rfl := (Prod.mk.inj hdelete).2
      exact .rules htarget
  revert h
  fun_cases p.deleteCondition env cond id with
  | case1 | case2 | case3 =>
    rintro ⟨⟩
    exact .evaluator (by rw [target, ‹cond.alertType = _›])
  | case4 => exact hrules _ (by rw [target, ‹cond.alertType = _›])
  | case5 | case7 | case9 | case11 => exact hrules _ (by rw [target, ‹cond.alertType = _›]; rfl)
  | _ => exact nofun

end Plugin

end Opni.Alerting
