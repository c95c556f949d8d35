/-
  Opni.Alerting.Condition

  Alert conditions: their validation (`pkg/apis/alerting/v1/validate.go`), the
  namespace and labels they are routed by, and the cluster they watch
  (`pkg/apis/alerting/v1/extensions.go`).

  A field of message type may be missing (`Option`); reading a field of a
  missing message directly panics.
-/

import Opni.Alerting.Router
import Mathlib.Data.Rat.Defs

namespace Opni.Alerting

open Lib

/-! ## Conditions -/

structure AttachedEndpoint where
  endpointId : String
deriving DecidableEq

structure AttachedEndpoints where
  items : List AttachedEndpoint := []
  initialDelay : Option Duration := none
  repeatInterval : Option Duration := none
  throttlingDuration : Option Duration := none
  details : Option EndpointImplementation := none
deriving DecidableEq

/-- `AlertTypeDetails`.  The field `For` is `period`; a missing duration reads
    as zero. -/
inductive AlertTypeDetails where
  | system (clusterId : Option String)
  | downstreamCapability (clusterId : Option String) (capabilityState : List String)
      (period : Duration)
  | monitoringBackend (clusterId : Option String) (backendComponents : List String)
      (period : Duration)
  | kubeState (clusterId objectType objectName objectNamespace state : String)
  | cpu (clusterId : Option String) (expectedRatio : Rat) (period : Duration)
      (cpuStates : List String) (operation : String)
  | memory (clusterId : Option String) (expectedRatio : Rat) (period : Duration)
      (usageTypes : List String) (operation : String)
  | fs (clusterId : Option String) (expectedRatio : Rat) (period : Duration) (operation : String)
  | prometheusQuery (clusterId : Option String) (query : String) (period : Duration)
  | composition
  | controlFlow
deriving DecidableEq

structure AlertCondition where
  name : String
  id : String := ""
  severity : OpniSeverity := .info
  alertType : Option AlertTypeDetails
  attachedEndpoints : Option AttachedEndpoints := none
deriving DecidableEq

/-- The parsers of the libraries, with the one for PromQL. -/
structure AlertingLibs extends Parsers where
  parseExpr : String → Except String Unit
  showAlertType : Option AlertTypeDetails → String

/-! ## Validation -/

/-- `validation.Error`, as the result of a call that might also panic. -/
def invalid {α : Type} (msg : String) : Except Failure α := .error (.status ⟨.invalidArgument, msg⟩)

def nilDereference {α : Type} : Except Failure α :=
  .error (.panicked "invalid memory address or nil pointer dereference")

/-- `validComparionOperator`. -/
def validComparisonOperator (op : String) : Except Failure Unit :=
  if op ∉ ["<", ">", "<=", ">=", "=", "!="] then invalid "Invalid comparison operator" else .ok ()

/-- The checks shared by the saturation conditions; only the first two have
    usage types. -/
def validateSaturation (clusterId : Option String) (expectedRatio : Rat) (period : Duration)
    (usage : Option (List String)) (operation : String) : Except Failure Unit :=
  match clusterId with
  | none => nilDereference
  | some id =>
    if id = "" then invalid "clusterId must be set"
    else if ¬(0 ≤ expectedRatio ∧ expectedRatio ≤ 1) then
      invalid "expectedRatio must be between 0 and 1"
    else if period = 0 then invalid "\"for\" duration must be set"
    else if usage = some [] then invalid "At least one usage type should be set"
    else validComparisonOperator operation

def kubeStates : List String := ["Pending", "Running", "Succeeded", "Failed", "Unknown"]

def upstreamClusterId : String := "UPSTREAM_CLUSTER_ID"

section Validate

variable (lib : AlertingLibs)

/-- What the `Validate` methods of the alert types check. -/
def AlertTypeDetails.check : AlertTypeDetails → Except Failure Unit
  | .system _ => .ok ()
  | .downstreamCapability none _ _ => nilDereference
  | .downstreamCapability (some clusterId) capabilityState period =>
    if clusterId = "" then invalid "clusterId must be set"
    else if period ≤ 0 then invalid "positive \"for\" duration must be set"
    else if capabilityState.length = 0 then
      invalid "At least one bad capability state required for alerting"
    else .ok ()
  | .kubeState clusterId objectType objectName objectNamespace state =>
    if clusterId = "" then invalid "clusterId must be set"
    else if objectType = "" then invalid "objectType must be set"
    else if objectName = "" then invalid "objectName must be set"
    else if objectNamespace = "" then invalid "objectNamespace must be set"
    else if state ∉ kubeStates then
      invalid "state must be one of the following: [Pending Running Succeeded Failed Unknown]"
    else .ok ()
  | .cpu clusterId expectedRatio period cpuStates operation =>
    validateSaturation clusterId expectedRatio period (some cpuStates) operation
  | .memory clusterId expectedRatio period usageTypes operation =>
    validateSaturation clusterId expectedRatio period (some usageTypes) operation
  | .fs clusterId expectedRatio period operation =>
    validateSaturation clusterId expectedRatio period none operation
  | .prometheusQuery none _ _ => nilDereference
  | .prometheusQuery (some clusterId) query period =>
    if clusterId = "" then invalid "clusterId must be set"
    else if query = "" then invalid "Prometheus query must be non-empty"
    else match lib.parseExpr query with
      | .error err => invalid ("Invalid prometheus query : " ++ err ++ " ")
      | .ok () => if period = 0 then invalid "\"for\" duration must be set" else .ok ()
  | .composition => .error (.status ⟨.unimplemented, "Composition alerts not implemented yet"⟩)
  | .controlFlow => .error (.status ⟨.unimplemented, "Control flow alerts not implemented yet"⟩)
  -- the cluster of the monitoring backend is not checked: it is overwritten
  | .monitoringBackend _ backendComponents period =>
    if period = 0 then invalid "\"for\" duration must be some positive time"
    else if backendComponents.length = 0 then
      invalid "At least one backend component must be set to track"
    else .ok ()

/-- What they write: the monitoring backend is given the upstream cluster. -/
def AlertTypeDetails.normalize : AlertTypeDetails → AlertTypeDetails
  | .monitoringBackend _ backendComponents period =>
    .monitoringBackend (some upstreamClusterId) backendComponents period
  | d => d

/-- `AlertTypeDetails.Validate`, with what it writes. -/
def AlertTypeDetails.validate : Option AlertTypeDetails → Except Failure (Option AlertTypeDetails)
  | none => invalid ("Backend does not handle alert type provided " ++ lib.showAlertType none)
  | some d => (d.check lib).map fun _ => some d.normalize

/-- The loop of `AttachedEndpoints.Validate`; `cache` has the ids seen so far. -/
def validateItems (cache : List String) : List AttachedEndpoint → Except Status Unit
  | [] => .ok ()
  | item :: items =>
    if item.endpointId ∈ cache then validationError "duplicate endpoint id in request"
    else if item.endpointId = "" then
      validationError "attachedEndpoint endpoint id must be set"
    else validateItems (item.endpointId :: cache) items

def AttachedEndpoints.validate (a : AttachedEndpoints) : Except Status Unit :=
  match a.details with
  | none => validationError "attachedEndpoints details must be set"
  | some details =>
    match details.validate with
    | .error err => .error err
    | .ok () => validateItems [] a.items

/-- `AlertCondition.Validate`, with what it writes. -/
def AlertCondition.validate (a : AlertCondition) : Except Failure AlertCondition :=
  if a.name = "" then invalid "AlertCondition name must be set"
  else match AlertTypeDetails.validate lib a.alertType with
    | .error err => .error err
    | .ok alertType =>
      match a.attachedEndpoints with
      | none => .ok { a with alertType := alertType }
      | some endpoints =>
        match endpoints.validate with
        | .error err => .error (.status err)
        | .ok () => .ok { a with alertType := alertType }

end Validate

/-! ## Routing -/

namespace AlertCondition

variable (a : AlertCondition)

/-- `Namespace`. -/
def ns : String :=
  match a.alertType with
  | some (.system ..) => "disconnect"
  | some (.downstreamCapability ..) => "capability"
  | some (.cpu ..) => "cpu"
  | some (.memory ..) => "memory"
  | some (.fs ..) => "fs"
  | some (.kubeState ..) => "kube-state"
  | some (.prometheusQuery ..) => "promql"
  | some (.monitoringBackend ..) => "monitoring-backend"
  | some .composition | some .controlFlow | none => "default"

def getRoutingLabels : LabelSet :=
  GoMap.ofList Prod.fst Prod.snd
    -- the label that the routing tree matches is the namespace, its value the id
    [(opniSeverityLabel, a.severity.name), (backendConditionIdLabel, a.id), (a.ns, a.id)]

/-- `GetClusterId().GetId()`. -/
def clusterId (a : AlertCondition) : String :=
  match a.alertType with
  | some (.system clusterId) | some (.downstreamCapability clusterId _ _)
  | some (.monitoringBackend clusterId _ _) | some (.prometheusQuery clusterId _ _)
  | some (.cpu clusterId _ _ _ _) | some (.memory clusterId _ _ _ _)
  | some (.fs clusterId _ _ _) => clusterId.getD ""
  | some (.kubeState clusterId _ _ _ _) => clusterId
  | some .composition | some .controlFlow | none => ""

/-- `SetClusterId`; for the remaining types it returns an error. -/
def setClusterId (id : String) : Except Status AlertCondition :=
  match a.alertType with
  | some (.system _) => .ok { a with alertType := some (.system (some id)) }
  | some (.prometheusQuery _ query period) =>
    .ok { a with alertType := some (.prometheusQuery (some id) query period) }
  | some (.kubeState _ objectType objectName objectNamespace state) =>
    .ok { a with
      alertType := some (.kubeState id objectType objectName objectNamespace state) }
  | some (.cpu _ expectedRatio period cpuStates operation) =>
    .ok { a with alertType := some (.cpu (some id) expectedRatio period cpuStates operation) }
  | some (.memory _ expectedRatio period usageTypes operation) =>
    .ok { a with alertType := some (.memory (some id) expectedRatio period usageTypes operation) }
  | some (.fs _ expectedRatio period operation) =>
    .ok { a with alertType := some (.fs (some id) expectedRatio period operation) }
  | _ => .error ⟨.internal, "AlertCondition could not find its clusterId"⟩

/-- The endpoints of a condition; none if the field is missing. -/
def attached : List AttachedEndpoint :=
  (a.attachedEndpoints.map (·.items)).getD []

def namespaces : List String :=
  ["disconnect", "capability", "cpu", "memory", "fs", "kube-state", "promql",
    "monitoring-backend", "default"]

theorem ns_mem_namespaces : a.ns ∈ namespaces := by
  unfold ns
  split <;> decide

theorem namespaces_spec : ∀ ns ∈ namespaces, ns ≠ "" ∧ ns ≠ opniSeverityLabel ∧
    ns ≠ backendConditionIdLabel ∧ ns ≠ opniDatasourceLabel ∧ '.' ∉ ns.toList := by
  decide

theorem get_getRoutingLabels (label : String) :
    a.getRoutingLabels.get label =
      if label = a.ns ∨ label = backendConditionIdLabel then a.id
      else if label = opniSeverityLabel then a.severity.name else "" := by
  simp only [getRoutingLabels, LabelSet.get, GoMap.ofList, List.foldl_cons, List.foldl_nil]
  -- the entry of the namespace is written last, that of the severity first
  simp only [GoMap.lookup_insert_eq, AList.lookup_empty]
  grind

end AlertCondition

/-! ## What validation ensures -/

structure AttachedEndpoints.Valid (a : AttachedEndpoints) : Prop where
  details : ∃ details, a.details = some details ∧ details.validate = .ok ()
  ids_ne : ∀ item ∈ a.items, item.endpointId ≠ ""
  ids_nodup : (a.items.map (·.endpointId)).Nodup

theorem validateItems_eq_ok {cache : List String} {items : List AttachedEndpoint}
    (h : validateItems cache items = .ok ()) :
    (∀ item ∈ items, item.endpointId ≠ "" ∧ item.endpointId ∉ cache) ∧
      (items.map (·.endpointId)).Nodup := by
  induction items generalizing cache with
  | nil => simp
  | cons item items ih =>
    rw [validateItems] at h
    split at h
    · simp [validationError] at h
    next hcache =>
      split at h
      · simp [validationError] at h
      next hempty =>
        obtain ⟨hitems, hnodup⟩ := ih h
        refine ⟨?_, ?_⟩
        · intro item' hmem
          rcases List.mem_cons.mp hmem with rfl | hmem
          · exact ⟨hempty, hcache⟩
          · exact ⟨(hitems item' hmem).1,
              fun hin => (hitems item' hmem).2 (.tail _ hin)⟩
        · -- the later items have been checked against a cache with this id
          rw [List.map_cons, List.nodup_cons]
          refine ⟨?_, hnodup⟩
          intro hmem
          obtain ⟨item', hitem', heq⟩ := List.mem_map.mp hmem
          exact (hitems item' hitem').2 (heq ▸ .head _)

theorem AttachedEndpoints.valid_of_validate {a : AttachedEndpoints} (h : a.validate = .ok ()) :
    a.Valid := by
  unfold AttachedEndpoints.validate at h
  split at h
  · simp [validationError] at h
  next details hdetails =>
    split at h
    · cases h
    next hvalid =>
      obtain ⟨hitems, hnodup⟩ := validateItems_eq_ok h
      exact ⟨⟨details, hdetails, hvalid⟩, fun item hitem => (hitems item hitem).1, hnodup⟩

variable {lib : AlertingLibs} {a a' : AlertCondition}

theorem AlertTypeDetails.ns_of_validate {d d' : Option AlertTypeDetails}
    (h : AlertTypeDetails.validate lib d = .ok d') (a : AlertCondition) :
    ({ a with alertType := d' } : AlertCondition).ns ≠ "default" := by
  cases d with
  | none => simp [AlertTypeDetails.validate, invalid] at h
  | some d =>
    obtain ⟨_, hcheck, rfl⟩ := map_eq_ok_iff.mp h
    cases d with
    | composition | controlFlow => simp [AlertTypeDetails.check] at hcheck
    | _ => simp [AlertCondition.ns, AlertTypeDetails.normalize]

structure AlertCondition.Valid (a : AlertCondition) : Prop where
  ns_ne_default : a.ns ≠ "default"
  attached_valid : ∀ endpoints, a.attachedEndpoints = some endpoints → endpoints.Valid

theorem AlertCondition.validate_eq_ok (h : a.validate lib = .ok a') :
    ∃ alertType, AlertTypeDetails.validate lib a.alertType = .ok alertType ∧
      a' = { a with alertType := alertType } ∧
      ∀ endpoints, a.attachedEndpoints = some endpoints → endpoints.validate = .ok () := by
  revert h
  fun_cases AlertCondition.validate lib a with
  | case3 _ alertType htype hnone =>
    rintro ⟨⟩
    exact ⟨alertType, htype, rfl, fun endpoints hsome => nomatch hnone.symm.trans hsome⟩
  | case5 _ alertType htype endpoints hsome hvalid =>
    rintro ⟨⟩
    refine ⟨alertType, htype, rfl, fun endpoints' hsome' => ?_⟩
    rw [hsome] at hsome'
    exact Option.some.inj hsome' ▸ hvalid
  | _ => exact nofun

theorem AlertCondition.valid_of_validate (h : a.validate lib = .ok a') : a'.Valid := by
  obtain ⟨alertType, htype, rfl, hendpoints⟩ := AlertCondition.validate_eq_ok h
  exact ⟨AlertTypeDetails.ns_of_validate htype a, fun endpoints hsome =>
    AttachedEndpoints.valid_of_validate (hendpoints endpoints hsome)⟩

end Opni.Alerting
