/-
  Opni.Alerting.Clientset

  The alerting stores, the API calls that write them
  (`plugins/alerting/pkg/alerting/api_conditions.go`, `api_endpoints.go`), and
  `ForceSync`, which computes the router from them
  (`pkg/alerting/storage/clientset.go`).
-/

import Opni.Alerting.Condition
import Opni.Alerting.Storage

namespace Opni.Alerting

open Lib

/-! ## The stores -/

def conditionPrefixV1 : StorePrefix where
  path := "/alerting/conditions"
  ne_empty := by decide
  clean := by decide
  comps_ne := by decide

def endpointPrefixV1 : StorePrefix where
  path := "/alerting/endpoints"
  ne_empty := by decide
  clean := by decide
  comps_ne := by decide

structure Stores where
  conditions : AlertingStorage AlertCondition
  endpoints : AlertingStorage AlertEndpoint

def Stores.empty : Stores := ⟨.empty conditionPrefixV1, .empty endpointPrefixV1⟩

/-! ## The calls -/

/-- An id as `NewAlertingRefId` draws it: a short UUID, which has neither dots
    nor slashes. -/
abbrev RefId := { id : String // PlainName id }

/-- The API calls, with the ids they draw.  `cloneTo` has the clusters known to
    the management API, and the target clusters in the order in which the
    goroutines for them run. -/
inductive Call where
  | createAlertEndpoint (newId : RefId) (req : AlertEndpoint)
  | createAlertCondition (newId : RefId) (req : AlertCondition)
  | updateAlertCondition (id : Option String) (updateAlert : AlertCondition)
  | deleteAlertCondition (id : String)
  | cloneTo (clusters : List String) (toClusters : List (String × RefId)) (cond : AlertCondition)

section Calls

variable (lib : AlertingLibs) (st : Stores)

def createAlertEndpoint (newId : RefId) (req : AlertEndpoint) :
    Except Failure Stores :=
  match req.validate lib.toParsers with
  | .error err => .error (.status err)
  | .ok () => .ok { st with endpoints := st.endpoints.put newId.1 { req with id := newId.1 } }

def createAlertCondition (newId : RefId) (req : AlertCondition) :
    Except Failure Stores :=
  match req.validate lib with
  | .error err => .error err
  | .ok req => .ok { st with conditions := st.conditions.put newId.1 { req with id := newId.1 } }

/-- `UpdateAlertCondition`.  The condition is stored as it comes, with whatever
    id it has. -/
def updateAlertCondition (id : Option String) (updateAlert : AlertCondition) :
    Except Failure Stores :=
  match id with
  | none => invalid "Id must be set"
  | some id =>
    if id = "" then invalid "Id must be set"
    -- `updateAlert.id` is neither compared with `id` nor set to it
    else match updateAlert.validate lib with
      | .error err => .error err
      | .ok updateAlert => .ok { st with conditions := st.conditions.put id updateAlert }

def deleteAlertCondition (id : String) : Except Failure Stores :=
  match st.conditions.get id with
  | .error err => .error err
  | .ok _ => .ok { st with conditions := st.conditions.delete id }

/-- The goroutines of `CloneTo`.  The error of `SetClusterId` is ignored. -/
def createClones (cond : AlertCondition) : List (String × RefId) → Stores → Except Failure Stores
  | [], st => .ok st
  | (cluster, newId) :: rest, st =>
    -- after an ignored error the clone keeps the cluster of the original
    let clone := match cond.setClusterId cluster with
      | .ok clone => clone
      | .error _ => cond
    match createAlertCondition lib st newId clone with
    | .error err => .error err
    | .ok st => createClones cond rest st

/-- `CloneTo`, when no goroutine reports an error. -/
def cloneTo (clusters : List String) (toClusters : List (String × RefId))
    (cond : AlertCondition) : Except Failure Stores :=
  if toClusters.length = 0 then invalid "toClusters must have a least one cluster set"
  else match cond.validate lib with
    | .error err => .error err
    | .ok cond =>
      match toClusters.find? fun target => decide (target.1 ∉ clusters) with
      | some target => invalid ("cluster could not be found " ++ target.1)
      | none => createClones lib cond toClusters st

def Stores.step : Call → Except Failure Stores
  | .createAlertEndpoint newId req => createAlertEndpoint lib st newId req
  | .createAlertCondition newId req => createAlertCondition lib st newId req
  | .updateAlertCondition id updateAlert => updateAlertCondition lib st id updateAlert
  | .deleteAlertCondition id => deleteAlertCondition st id
  | .cloneTo clusters toClusters cond => cloneTo lib st clusters toClusters cond

def Stores.run : List Call → Stores → Except Failure Stores
  | [], st => .ok st
  | call :: calls, st =>
    match st.step lib call with
    | .error err => .error err
    | .ok st => Stores.run calls st

end Calls

/-! ## Computing the router -/

def convertEndpointIdsToRoutingNode (endpointList : List AlertEndpoint) (req : AttachedEndpoints) :
    FullAttachedEndpoints where
  items := endpointList.flatMap fun endpointItem =>
    (req.items.filter fun expected => endpointItem.id = expected.endpointId).map fun _ =>
      { endpointId := endpointItem.id, alertEndpoint := some endpointItem, details := req.details }
  initialDelay := req.initialDelay
  repeatInterval := req.repeatInterval
  throttlingDuration := req.throttlingDuration
  details := req.details

variable (endpMap : GoMap String AlertEndpoint)

def findEndpoint (item : AttachedEndpoint) :
    Except Failure AlertEndpoint :=
  match endpMap.lookup item.endpointId with
  | some endp => .ok endp
  | none => .error (.status ⟨.notFound, "endpoint not found"⟩)

def conditionSpecs (cond : AlertCondition) :
    Except Failure FullAttachedEndpoints :=
  match cond.attachedEndpoints with
  | none => .ok {}
  | some endpoints =>
    -- without endpoints the route is still registered, with no receivers
    if endpoints.items.length = 0 then .ok {}
    else
      (endpoints.items.mapM (findEndpoint endpMap)).map fun endpointConfigs =>
        convertEndpointIdsToRoutingNode endpointConfigs endpoints

section Sync

variable (lib : Parsers)

/-- The loop of `calculateRouters` over the conditions. -/
def routeConditions (endpMap : GoMap String AlertEndpoint) :
    List AlertCondition → OpniRouterV1 → Except Failure OpniRouterV1
  | [], router => .ok router
  | cond :: conds, router =>
    -- a condition without an id is filed under its cluster
    let cond := if cond.id = "" then { cond with id := cond.clusterId } else cond
    match conditionSpecs endpMap cond with
    | .error err => .error err
    | .ok specs =>
      match router.setNamespaceSpec lib cond.ns cond.id specs with
      | .error err => .error err
      | .ok router => routeConditions endpMap conds router

def endpointTagNotifications : String := "notifications"

/-- The orders in which the keys of the buckets are listed, for the hash and for
    the router. -/
structure SyncOrders where
  hashConditions : Scheduler Path
  hashEndpoints : Scheduler Path
  conditions : Scheduler Path
  endpoints : Scheduler Path

variable (sync : SyncOrders)

/-- `calculateRouters`: the router it stores. -/
def calculateRouters (st : Stores) (router : OpniRouterV1) :
    Except Failure OpniRouterV1 :=
  match st.conditions.list sync.conditions with
  | .error err => .error err
  | .ok conds =>
    match st.endpoints.list sync.endpoints with
    | .error err => .error err
    | .ok endps =>
      match routeConditions lib (GoMap.ofList AlertEndpoint.id id endps) conds router with
      | .error err => .error err
      | .ok router =>
        router.setDefaultNamespaceConfig lib
          (endps.filter fun a => decide (endpointTagNotifications ∈ a.properties))

def forceSync (st : Stores) (router : OpniRouterV1) :
    Except Failure OpniRouterV1 :=
  match st.conditions.list sync.hashConditions with
  | .error err => .error err
  | .ok _ =>
    match st.endpoints.list sync.hashEndpoints with
    | .error err => .error err
    | .ok _ => calculateRouters lib sync st router

end Sync

end Opni.Alerting
