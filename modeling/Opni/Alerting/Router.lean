/-
  Opni.Alerting.Router

  `OpniRouterV1` (`pkg/alerting/drivers/routing`): the maps from namespaces,
  routes and severities to receivers, the calls that change them, and
  `BuildConfig`, which turns them into an Alertmanager configuration.
-/

import Opni.Alerting.Endpoint

namespace Opni.Alerting

open Lib
open DispatchTree (node)

/-! ## The default routing tree -/

inductive OpniSeverity where
  | info | warning | error | critical
deriving DecidableEq, Repr

/-- `OpniSeverity_name`. -/
def OpniSeverity.name : OpniSeverity → String
  | .info => "Info"
  | .warning => "Warning"
  | .error => "Error"
  | .critical => "Critical"

/-- `rateLimitingConfig`; the zero value is what Go reads for a missing key. -/
structure RateLimitingConfig where
  initialDelay : Duration := 0
  repeatInterval : Duration := 0
  throttlingDuration : Duration := 0
deriving DecidableEq

structure DefaultRouteValues where
  value : String
  rateLimiting : RateLimitingConfig
deriving DecidableEq

def defaultSubTreeLabel : String := opniSeverityLabel

/-- `DefaultSubTreeValues`: the severities in ascending order, throttled the
    less the more severe they are. -/
def defaultSubTreeValues : List DefaultRouteValues :=
  [OpniSeverity.info, .warning, .error, .critical].zipIdx.map fun (sev, i) =>
    { value := sev.name
      rateLimiting :=
        { initialDelay := 10 * second
          repeatInterval := 5 * hour
          throttlingDuration := (3 * (((i : Int) - 4).natAbs : Int) - 2) * minute } }

variable (ns : String)

def newNamespaceParentMatcher : Matcher := ⟨.notEqual, ns, ""⟩

def newNamespaceMatcher (ns value : String) : Matcher := ⟨.equal, ns, value⟩

def newFinalizer (optionalNamespace : Option String) : Route :=
  node { matchers := (optionalNamespace.map newNamespaceParentMatcher).toList
         receiver := alertingHookReceiverName
         continues := false } []

variable (route : RouteNode)

def setRateLimiting (rl : RateLimitingConfig) : RouteNode :=
  { route with
    repeatInterval := some rl.repeatInterval
    groupWait := some rl.initialDelay
    groupInterval := some rl.throttlingDuration }

/-- `setDefaultRateLimitingFromProto`, with the values of
    `RateLimitingConfig.Default`. -/
def setDefaultRateLimitingFromProto : RouteNode :=
  { route with
    groupInterval := some (10 * minute)
    groupWait := some (10 * second)
    repeatInterval := some (10 * minute) }

def newOpniSubRoutingTreeWithDefaultValue (value : DefaultRouteValues) :
    Route × Receiver :=
  let constructedReceiverId := newOpniReceiverName ⟨ns, value.value⟩
  let valueRoute : RouteNode :=
    { matchers := [newNamespaceMatcher ns value.value], continues := true }
  (node { setRateLimiting valueRoute value.rateLimiting with receiver := constructedReceiverId } [],
    { name := constructedReceiverId })

/-- The node of `NewOpniNamespacedSubTree`. -/
def namespaceNode : RouteNode :=
  { groupBy := ["..."]
    matchers := [newNamespaceParentMatcher ns]
    continues := false
    groupWait := some (60 * second)
    repeatInterval := some (5 * hour) }

def newOpniNamespacedSubTree (defaultValues : List DefaultRouteValues) :
    Route × List Receiver :=
  let subs := defaultValues.map (newOpniSubRoutingTreeWithDefaultValue ns)
  (node (namespaceNode ns) (subs.map Prod.fst ++ [newFinalizer (some ns)]), subs.map Prod.snd)

/-- The node of `NewOpniSubRoutingTree`. -/
def opniNode : RouteNode :=
  { groupBy := ["alertname"]
    matchers := [⟨.equal, opniDatasourceLabel, ""⟩]
    continues := true }

def newOpniSubRoutingTree : Route × List Receiver :=
  let (defaultNamespaceRoute, recvs) :=
    newOpniNamespacedSubTree defaultSubTreeLabel defaultSubTreeValues
  let defaultNode : RouteNode :=
    { defaultNamespaceRoute.data with
      groupBy := defaultNamespaceRoute.data.groupBy ++ ["OpniGroupKey"] }
  (node opniNode [node defaultNode defaultNamespaceRoute.children, newFinalizer none], recvs)

/-- The node of `NewOpniMetricsSubtree`. -/
def metricsNode : RouteNode :=
  setDefaultRateLimitingFromProto
    { groupBy := ["..."]
      matchers := [⟨.equal, opniDatasourceLabel, opniDatasourceMetrics⟩]
      continues := true }

def newOpniMetricsSubtree : Route := node metricsNode []

/-- `DefaultOpniReceiver`, with the URL of the hook parsed. -/
def defaultOpniReceiver (hookURL : String) : Receiver :=
  { name := alertingHookReceiverName, webhookConfigs := [{ url := hookURL }] }

/-- The node of `NewDefaultRoutingTreeRoot`. -/
def rootNode : RouteNode :=
  { receiver := alertingHookReceiverName
    groupBy := ["..."]
    groupWait := some (60 * second)
    repeatInterval := some (5 * hour) }

/-- The order of `slices.SortFunc` on receivers. -/
def receiverLess (a b : Receiver) : Bool := a.name < b.name

def newDefaultRoutingTree (hookURL : String) : Config :=
  let (subtree, recvs) := newOpniSubRoutingTree
  { route := node rootNode [subtree, newOpniMetricsSubtree]
    receivers := sortFunc receiverLess recvs ++ [defaultOpniReceiver hookURL] }

/-! ## The router -/

structure OpniRouterV1 where
  hookEndpoint : String
  syncedConfig : Option Config
  /-- severity → endpoint id → receiver -/
  defaultNamespaceConfigs : GoMap String (GoMap String OpniReceiver)
  /-- namespace → route id → endpoint id → receiver -/
  namespacedSpecs : GoMap String (GoMap String (GoMap String OpniReceiver))
  /-- namespace → route id → rate limits -/
  namespacedRateLimiting : GoMap String (GoMap String RateLimitingConfig)

namespace OpniRouterV1

/-- `NewOpniRouterV1`. -/
def new (hookEndpoint : String) : OpniRouterV1 where
  hookEndpoint := hookEndpoint
  syncedConfig := none
  defaultNamespaceConfigs := ∅
  namespacedSpecs := ∅
  namespacedRateLimiting := ∅

variable (o : OpniRouterV1)

def routes (ns : String) : GoMap String (GoMap String OpniReceiver) :=
  (o.namespacedSpecs.lookup ns).getD ∅

def endpoints (ns routeId : String) : GoMap String OpniReceiver :=
  ((o.routes ns).lookup routeId).getD ∅

variable (s : Scheduler String)

/-- The first namespace in the given order that has a route with the id. -/
def findNamespace (o : OpniRouterV1) (routingId : String) : Option String :=
  (s.order o.namespacedSpecs.keys).find? fun ns => decide (routingId ∈ o.routes ns)

def hasLabels (o : OpniRouterV1) (routingId : String) : List Matcher :=
  -- the caller's namespace is not a parameter: it is searched for by the route id
  match o.findNamespace s routingId with
  | some ns => [⟨.equal, ns, routingId⟩]
  | none => []

def hasReceivers (o : OpniRouterV1) (routingId : String) : List String :=
  match o.findNamespace s routingId with
  | some ns => [newOpniReceiverName ⟨ns, routingId⟩]
  | none => []

end OpniRouterV1

/-! ## Changing the router -/

structure FullAttachedEndpoint where
  endpointId : String
  alertEndpoint : Option AlertEndpoint
  details : Option EndpointImplementation
deriving DecidableEq

structure FullAttachedEndpoints where
  items : List FullAttachedEndpoint := []
  initialDelay : Option Duration := none
  repeatInterval : Option Duration := none
  throttlingDuration : Option Duration := none
  details : Option EndpointImplementation := none
deriving DecidableEq

inductive Failure where
  | status (s : Status)
  | panicked (msg : String)
deriving DecidableEq, Repr

section Calls

variable (lib : Parsers)

def FullAttachedEndpoint.validate (f : FullAttachedEndpoint) : Except Status Unit :=
  if f.endpointId = "" then validationError "EndpointId must be set"
  else match f.details with
    | none => validationError "Details must be set"
    | some details =>
      match details.validate with
      | .error err => .error err
      | .ok () =>
        match f.alertEndpoint with
        | none => validationError "AlertEndpoint must be set"
        | some endp => endp.validate lib

/-- A loop that validates every element and returns the first error. -/
def validateAll {α : Type} (check : α → Except Status Unit) : List α → Except Status Unit
  | [] => .ok ()
  | x :: xs =>
    match check x with
    | .error err => .error err
    | .ok () => validateAll check xs

/-- A loop that fills a map with the receivers of endpoints. -/
def fillReceivers (details : Option EndpointImplementation)
    (specs : List (String × AlertEndpoint)) :
    Except String (GoMap String OpniReceiver) :=
  (specs.mapM fun s =>
    (newReceiverImplementationFromEndpoint lib s.2 details).map (Prod.mk s.1)).map
    (GoMap.ofList Prod.fst Prod.snd)

namespace OpniRouterV1

/-- The endpoint of an item; a missing one reads as an empty message. -/
def itemSpec (item : FullAttachedEndpoint) : String × AlertEndpoint :=
  (item.endpointId, item.alertEndpoint.getD { name := "", endpoint := none })

variable (o : OpniRouterV1)

def setNamespaceSpec (ns routeId : String) (specs : FullAttachedEndpoints) :
    Except Failure OpniRouterV1 :=
  if ns = "" then
    .error (.status ⟨.invalidArgument, "namespace cannot be empty when setting specs"⟩)
  else if ns = defaultSubTreeLabel then
    .error (.status ⟨.invalidArgument, "namespace cannot be the default namespace label"⟩)
  else match validateAll (FullAttachedEndpoint.validate lib) specs.items with
    | .error err =>
      .error (.status ⟨.invalidArgument,
        "failed to update endpoint with route id " ++ routeId ++ ": " ++ err.message⟩)
    | .ok () =>
      match fillReceivers lib specs.details (specs.items.map itemSpec) with
      | .error msg => .error (.panicked msg)
      | .ok receivers =>
        -- the receivers of the route are replaced, those of other routes kept
        .ok { o with
          namespacedSpecs := o.namespacedSpecs.insert ns ((o.routes ns).insert routeId receivers)
          namespacedRateLimiting := o.namespacedRateLimiting.insert ns
            (((o.namespacedRateLimiting.lookup ns).getD ∅).insert routeId
              { initialDelay := specs.initialDelay.getD minute
                repeatInterval := specs.repeatInterval.getD (10 * minute)
                throttlingDuration := specs.throttlingDuration.getD (30 * second) }) }

def defaultDetails : EndpointImplementation where
  title := "\x7b\x7b .OpniTitleLabel \x7d\x7d"
  body := "\x7b\x7b .OpniBodyLabel \x7d\x7d"

/-- The loop of `SetDefaultNamespaceConfig`.  All turns validate the same
    endpoints, so an error is returned before anything is written. -/
def setDefaultValues (endps : List AlertEndpoint) :
    List DefaultRouteValues → OpniRouterV1 → Except Failure OpniRouterV1
  | [], o => .ok o
  | val :: vals, o =>
    if endps.length = 0 then
      -- the source returns here, with the other severities still in place
      .ok { o with defaultNamespaceConfigs := o.defaultNamespaceConfigs.erase val.value }
    else match validateAll (AlertEndpoint.validate lib) endps with
      | .error err => .error (.status err)
      | .ok () =>
        match fillReceivers lib (some defaultDetails) (endps.map fun e => (e.id, e)) with
        | .error msg => .error (.panicked msg)
        | .ok receivers =>
          setDefaultValues endps vals { o with
            defaultNamespaceConfigs := o.defaultNamespaceConfigs.insert val.value receivers }

def setDefaultNamespaceConfig (endps : List AlertEndpoint) :
    Except Failure OpniRouterV1 :=
  setDefaultValues lib endps defaultSubTreeValues o

variable (id : String) (spec : AlertEndpoint)

/-- The update of one map from endpoint ids to receivers. -/
def updateReceivers (m : GoMap String OpniReceiver) :
    Except String (GoMap String OpniReceiver) :=
  match m.lookup id with
  | none => .ok m
  | some r =>
    -- of the old receiver only `sendResolved` survives the update
    (newReceiverImplementationFromEndpoint lib spec (some r.extractInfo)).map (m.insert id ·)

def updateEndpoint :
    Except Failure OpniRouterV1 :=
  match spec.validate lib with
  | .error err => .error (.status ⟨.invalidArgument, "invalid endpoint : " ++ err.message⟩)
  | .ok () =>
    match o.namespacedSpecs.mapM fun routes => routes.mapM (updateReceivers lib id spec) with
    | .error msg => .error (.panicked msg)
    | .ok specs =>
      match o.defaultNamespaceConfigs.mapM (updateReceivers lib id spec) with
      | .error msg => .error (.panicked msg)
      | .ok defaults =>
        .ok { o with namespacedSpecs := specs, defaultNamespaceConfigs := defaults }

def deleteEndpoint : OpniRouterV1 :=
  { o with
    -- routes stay when their last endpoint goes; severities do not
    namespacedSpecs := o.namespacedSpecs.filterMap fun _ routes =>
      some (routes.filterMap fun _ endpoints => some (endpoints.erase id))
    defaultNamespaceConfigs := o.defaultNamespaceConfigs.filterMap fun value endpoints =>
      if (endpoints.erase id).keys = [] ∨ value = "" then none else some (endpoints.erase id) }

/-- `SyncExternalConfig` with a configuration that has been unmarshalled. -/
def syncExternalConfig (cfg : Option Config) : OpniRouterV1 :=
  { o with syncedConfig := cfg }

end OpniRouterV1

end Calls

end Opni.Alerting
