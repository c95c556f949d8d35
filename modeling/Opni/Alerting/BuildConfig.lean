/-
  Opni.Alerting.BuildConfig

  `OpniRouterV1.BuildConfig`, and what it builds: on every router that the
  calls of the package can reach, none of the panics of the function is
  reached and the result is `builtConfig` (`buildConfig_eq`).  The later files
  only look at `builtConfig`.
-/

import Opni.Alerting.RouterCalls

namespace Opni.Alerting

open Lib
open DispatchTree (node)

/-! ## The function -/

/-- The orders in which the calls of `HasLabels` and `HasReceivers` for a
    namespace and route range over the namespaces. -/
structure MapOrders where
  labels : String → String → Scheduler String
  receivers : String → String → Scheduler String

/-- `lo.Keys` followed by `slices.SortFunc`. -/
def sortedKeys {β : Type} (m : GoMap String β) : List String :=
  sortFunc (fun a b => decide (a < b)) m.keys

/-- The receivers of a map, in the order of their endpoint ids. -/
def inKeyOrder (m : GoMap String OpniReceiver) : List OpniReceiver :=
  (sortedKeys m).filterMap m.lookup

def newOpniSubRoutingTreeWithValue (rl : RateLimitingConfig) (opniConfigs : List OpniReceiver)
    (matchers : List Matcher) (receiverId : String) : Except String (Route × Receiver) :=
  let valueRoute := setDefaultRateLimitingFromProto { matchers := matchers, continues := true }
  match buildReceiver receiverId opniConfigs with
  | .error err => .error err
  | .ok valueReceiver =>
    .ok (node { valueRoute with
        groupInterval := some rl.throttlingDuration
        groupWait := some rl.initialDelay
        repeatInterval := some rl.repeatInterval
        receiver := receiverId } [], valueReceiver)

namespace OpniRouterV1

variable (o : OpniRouterV1) (ns routeId : String)

/-- The rate limits of a route; a missing entry reads as zero. -/
def rateLimiting : RateLimitingConfig :=
  (((o.namespacedRateLimiting.lookup ns).getD ∅).lookup routeId).getD {}

variable (orders : MapOrders)

section

variable (o : OpniRouterV1)

section

variable (ns routeId : String)

/-- The route and receiver built for one route id, if it has endpoints. -/
def valueSubTree :
    Except String (Option (Route × Receiver)) :=
  -- a route without endpoints is skipped, and gets neither node nor receiver
  if (o.endpoints ns routeId).keys.length = 0 then .ok none
  else match o.hasReceivers (orders.receivers ns routeId) routeId with
    -- the source indexes the result with [0] without a check
    | [] => .error "index out of range [0] with length 0"
    | receiverId :: _ =>
      (newOpniSubRoutingTreeWithValue (o.rateLimiting ns routeId)
        (inKeyOrder (o.endpoints ns routeId))
        (o.hasLabels (orders.labels ns routeId) routeId) receiverId).map some

def buildRoutes (orders : MapOrders) (o : OpniRouterV1) (ns : String) :
    List String → Route × List Receiver → Except String (Route × List Receiver)
  | [], acc => .ok acc
  | routeId :: routeIds, (tree, recvs) =>
    match o.valueSubTree orders ns routeId with
    | .error err => .error err
    | .ok none => buildRoutes orders o ns routeIds (tree, recvs)
    | .ok (some (route, recv)) =>
      -- routes are prepended and receivers appended
      buildRoutes orders o ns routeIds (node tree.data (route :: tree.children), recvs ++ [recv])

def buildNamespaces (orders : MapOrders) (o : OpniRouterV1) :
    List String → List Route × List Receiver → Except String (List Route × List Receiver)
  | [], acc => .ok acc
  | ns :: namespaces, (opniRoutes, opniReceivers) =>
    match o.buildRoutes orders ns (sortedKeys (o.routes ns))
        ((newOpniNamespacedSubTree ns []).1, opniReceivers) with
    | .error err => .error err
    | .ok (tree, recvs) => buildNamespaces orders o namespaces (opniRoutes ++ [tree], recvs)

/-- The receiver of a severity, with the endpoints of the severity. -/
def fillDefault (recv : Receiver) : Except String Receiver :=
  if recv.name = alertingHookReceiverName then .ok recv
  else match extractReceiverId recv.name with
    | .error err => .error err
    | .ok id =>
      match o.defaultNamespaceConfigs.lookup id.receiverId with
      | none => .ok recv
      | some endpoints =>
        match buildReceiver (newOpniReceiverName id) (inKeyOrder endpoints) with
        | .error err => .error ("name : " ++ id.receiverId ++ " : " ++ err)
        | .ok recv => .ok recv

/-- What one matcher of a subtree of the root makes the loop attach to it, and
    to the receivers. -/
def attachMatcher (opniRoutes : List Route) (synced : Option Config)
    (st : Route × List Receiver) (m : Matcher) : Route × List Receiver :=
  let st :=
    if m.name = opniDatasourceLabel ∧ m.type = .equal ∧ m.value = "" then
      -- Opni's subtree: the namespaces come before its own children
      (node st.1.data (opniRoutes ++ st.1.children), st.2)
    else st
  if m.name = opniDatasourceLabel ∧ m.type = .equal ∧ m.value = opniDatasourceMetrics then
    match synced with
    -- the metrics subtree: the user's tree replaces the children
    | some cfg => (node st.1.data [cfg.route], cfg.receivers ++ st.2)
    | none => st
  else st

def attachSubtrees (opniRoutes : List Route) (synced : Option Config) :
    List Route → List Receiver → List Route × List Receiver
  | [], recvs => ([], recvs)
  | subRoute :: subRoutes, recvs =>
    let st := subRoute.data.matchers.foldl (attachMatcher opniRoutes synced) (subRoute, recvs)
    let rest := attachSubtrees opniRoutes synced subRoutes st.2
    (st.1 :: rest.1, rest.2)

def buildConfig (lib : Parsers) (orders : MapOrders) (o : OpniRouterV1) : Except String Config :=
  match lib.parseURL o.hookEndpoint with
  | .error err => .error err
  | .ok hookURL =>
    let root := newDefaultRoutingTree hookURL
    match root.receivers.mapM o.fillDefault with
    | .error err => .error err
    | .ok rootReceivers =>
      match o.buildNamespaces orders (sortedKeys o.namespacedSpecs) ([], []) with
      | .error err => .error err
      | .ok (opniRoutes, opniReceivers) =>
        let (routes, receivers) :=
          attachSubtrees opniRoutes o.syncedConfig root.route.children rootReceivers
        let receivers := sortFunc receiverLess opniReceivers ++ receivers
        if receivers.getLast?.map (·.name) ≠ some alertingHookReceiverName then
          .error "default receiver should always be last"
        else .ok { route := node root.route.data routes, receivers := receivers }

/-! ## What it builds -/

/-- The name `BuildConfig` gives the receiver of a route. -/
def receiverName : String :=
  (o.hasReceivers (orders.receivers ns routeId) routeId).headD ""

/-- The node `BuildConfig` makes for a route. -/
def valueNode : RouteNode where
  matchers := o.hasLabels (orders.labels ns routeId) routeId
  continues := true
  groupInterval := some (o.rateLimiting ns routeId).throttlingDuration
  groupWait := some (o.rateLimiting ns routeId).initialDelay
  repeatInterval := some (o.rateLimiting ns routeId).repeatInterval
  receiver := o.receiverName orders ns routeId

/-- The receiver `BuildConfig` makes for a route. -/
def valueReceiver : Receiver :=
  (inKeyOrder (o.endpoints ns routeId)).foldl Receiver.add
    { name := o.receiverName orders ns routeId }

end

def activeRoutes (ns : String) : List String :=
  (sortedKeys (o.routes ns)).filter fun routeId => (o.endpoints ns routeId).keys.length ≠ 0

def namespaceTree (ns : String) : Route :=
  node (namespaceNode ns)
    (((o.activeRoutes ns).map fun routeId => node (o.valueNode orders ns routeId) []).reverse ++
      [newFinalizer (some ns)])

def opniReceivers : List Receiver :=
  (sortedKeys o.namespacedSpecs).flatMap fun ns =>
    (o.activeRoutes ns).map (o.valueReceiver orders ns)

def defaultReceiver (value : String) : Receiver :=
  (inKeyOrder ((o.defaultNamespaceConfigs.lookup value).getD ∅)).foldl Receiver.add
    { name := newOpniReceiverName ⟨defaultSubTreeLabel, value⟩ }

def rootReceivers (hookURL : String) : List Receiver :=
  ["Critical", "Error", "Info", "Warning"].map o.defaultReceiver ++ [defaultOpniReceiver hookURL]

/-- The configuration that `BuildConfig` builds. -/
def builtConfig (hookURL : String) : Config where
  route := node rootNode
    [node opniNode ((sortedKeys o.namespacedSpecs).map (o.namespaceTree orders) ++
        newOpniSubRoutingTree.1.children),
     node metricsNode (o.syncedConfig.map (·.route)).toList]
  receivers := sortFunc receiverLess (o.opniReceivers orders) ++
    ((o.syncedConfig.map (·.receivers)).getD [] ++ o.rootReceivers hookURL)

end

/-! ## Namespaces and routes -/

def Active : Prop := (o.endpoints ns routeId).keys ≠ []

variable {o : OpniRouterV1} {ns routeId : String} {β : Type}

theorem mem_of_mem_routes (h : routeId ∈ o.routes ns) : ns ∈ o.namespacedSpecs := by
  by_contra hno
  rw [routes, AList.lookup_eq_none.mpr hno] at h
  exact absurd h (AList.notMem_empty routeId)

theorem mem_routes_of_active (h : o.Active ns routeId) : routeId ∈ o.routes ns := by
  by_contra hno
  rw [Active, endpoints, AList.lookup_eq_none.mpr hno] at h
  exact absurd rfl h

@[simp] theorem mem_sortedKeys {m : GoMap String β} {k : String} : k ∈ sortedKeys m ↔ k ∈ m := by
  rw [sortedKeys, mem_sortFunc, AList.mem_keys]

theorem nodup_sortedKeys (m : GoMap String β) : (sortedKeys m).Nodup :=
  (sortFunc_perm _ _).nodup_iff.mpr m.keys_nodup

theorem mem_activeRoutes : routeId ∈ o.activeRoutes ns ↔ o.Active ns routeId := by
  have hlen : (o.endpoints ns routeId).keys.length ≠ 0 ↔ o.Active ns routeId := by
    rw [Active, Ne, Ne, List.length_eq_zero_iff]
  rw [activeRoutes, List.mem_filter, mem_sortedKeys, decide_eq_true_iff, hlen]
  exact ⟨And.right, fun h => ⟨mem_routes_of_active h, h⟩⟩

theorem nodup_activeRoutes (o : OpniRouterV1) (ns : String) : (o.activeRoutes ns).Nodup :=
  (nodup_sortedKeys _).filter _

theorem exists_findNamespace (h : routeId ∈ o.routes ns) (s : Scheduler String) :
    ∃ ns', o.findNamespace s routeId = some ns' ∧ routeId ∈ o.routes ns' := by
  cases hfind : o.findNamespace s routeId with
  | none =>
    have hns : ns ∈ s.order o.namespacedSpecs.keys :=
      (s.perm _).mem_iff.mpr (AList.mem_keys.mp (mem_of_mem_routes h))
    have hno := List.find?_eq_none.mp hfind ns hns
    exact absurd h (by simpa using hno)
  | some ns' => exact ⟨ns', rfl, by simpa using List.find?_some hfind⟩

theorem findNamespace_of_unique (h : routeId ∈ o.routes ns)
    (huniq : ∀ ns', routeId ∈ o.routes ns' → ns' = ns) (s : Scheduler String) :
    o.findNamespace s routeId = some ns := by
  obtain ⟨ns', hfind, hmem⟩ := exists_findNamespace h s
  rw [hfind, huniq ns' hmem]

/-! ## The receivers of a map -/

theorem inKeyOrder_perm (m : GoMap String OpniReceiver) :
    (inKeyOrder m).Perm (m.entries.map Sigma.snd) := by
  rw [← GoMap.filterMap_lookup_keys]
  exact (sortFunc_perm _ _).filterMap _

theorem inKeyOrder_ne_nil {m : GoMap String OpniReceiver} (h : m.keys ≠ []) :
    inKeyOrder m ≠ [] := by
  intro hnil
  have hlen := (inKeyOrder_perm m).length_eq
  rw [hnil, List.length_map, List.length_nil] at hlen
  rw [AList.keys, List.keys, Ne, List.map_eq_nil_iff] at h
  exact h (List.length_eq_zero_iff.mp hlen.symm)

/-! ## The loops -/

theorem valueSubTree_of_active (h : o.Active ns routeId) (orders : MapOrders) :
    o.valueSubTree orders ns routeId =
      .ok (some (node (o.valueNode orders ns routeId) [], o.valueReceiver orders ns routeId)) := by
  -- some namespace has the route, so the index [0] of `HasReceivers` is in range
  obtain ⟨ns', hfind, -⟩ :=
    exists_findNamespace (mem_routes_of_active h) (orders.receivers ns routeId)
  have hlen : (o.endpoints ns routeId).keys.length ≠ 0 := by
    rwa [Ne, List.length_eq_zero_iff]
  rw [valueSubTree, if_neg hlen]
  simp only [hasReceivers, hfind, newOpniSubRoutingTreeWithValue,
    buildReceiver_eq _ (inKeyOrder_ne_nil h), valueNode, valueReceiver, receiverName,
    setDefaultRateLimitingFromProto, Except.map, List.headD_cons]

section

variable (o : OpniRouterV1)

theorem buildRoutes_eq (ns : String)
    (routeIds : List String) (tree : Route) (recvs : List Receiver) :
    o.buildRoutes orders ns routeIds (tree, recvs) =
      .ok (node tree.data
          (((routeIds.filter fun routeId => (o.endpoints ns routeId).keys.length ≠ 0).map
              fun routeId => node (o.valueNode orders ns routeId) []).reverse ++ tree.children),
        recvs ++ (routeIds.filter fun routeId => (o.endpoints ns routeId).keys.length ≠ 0).map
          (o.valueReceiver orders ns)) := by
  induction routeIds generalizing tree recvs with
  | nil =>
    obtain ⟨a, cs⟩ := tree
    simp [buildRoutes]
  | cons routeId routeIds ih =>
    by_cases hactive : o.Active ns routeId
    · have hlen : (o.endpoints ns routeId).keys.length ≠ 0 := by
        rwa [Ne, List.length_eq_zero_iff]
      rw [buildRoutes, valueSubTree_of_active hactive]
      simp only
      rw [ih, List.filter_cons_of_pos (by simpa using hlen)]
      simp
    · have hlen : (o.endpoints ns routeId).keys.length = 0 := by
        rwa [Active, Ne, not_not, ← List.length_eq_zero_iff] at hactive
      rw [buildRoutes, valueSubTree, if_pos hlen]
      rw [ih, List.filter_cons_of_neg (by simpa using hlen)]

theorem buildNamespaces_eq (namespaces : List String)
    (routes : List Route) (recvs : List Receiver) :
    o.buildNamespaces orders namespaces (routes, recvs) =
      .ok (routes ++ namespaces.map (o.namespaceTree orders),
        recvs ++ namespaces.flatMap fun ns =>
          (o.activeRoutes ns).map (o.valueReceiver orders ns)) := by
  induction namespaces generalizing routes recvs with
  | nil => simp [buildNamespaces]
  | cons ns namespaces ih =>
    rw [buildNamespaces, buildRoutes_eq]
    simp only
    rw [ih]
    simp [namespaceTree, activeRoutes, newOpniNamespacedSubTree]

/-! ## The default receivers -/

/-- What the calls of the package keep true of a router. -/
structure WellFormed : Prop where
  namespace_ne : ∀ ns ∈ o.namespacedSpecs, ns ≠ defaultSubTreeLabel
  default_ne_nil : ∀ value m, o.defaultNamespaceConfigs.lookup value = some m → m.keys ≠ []

end

theorem fillDefault_eq (h : o.WellFormed) {value : String}
    (hvalue : value ∈ ["Critical", "Error", "Info", "Warning"]) :
    o.fillDefault { name := newOpniReceiverName ⟨defaultSubTreeLabel, value⟩ } =
      .ok (o.defaultReceiver value) := by
  have hhook : newOpniReceiverName ⟨defaultSubTreeLabel, value⟩ ≠ alertingHookReceiverName := by
    revert value
    decide
  have hextract : extractReceiverId (newOpniReceiverName ⟨defaultSubTreeLabel, value⟩) =
      .ok ⟨defaultSubTreeLabel, value⟩ := by
    simp only [List.mem_cons, List.not_mem_nil, or_false] at hvalue
    rcases hvalue with rfl | rfl | rfl | rfl <;> rfl
  rw [fillDefault, if_neg hhook, hextract]
  cases hlookup : o.defaultNamespaceConfigs.lookup value with
  | none =>
    -- an unset severity keeps its receiver without notifiers
    simp only [defaultReceiver, hlookup, Option.getD_none]
    rfl
  | some m =>
    simp only [buildReceiver_eq _ (inKeyOrder_ne_nil (h.default_ne_nil value m hlookup)),
      defaultReceiver, hlookup, Option.getD_some]

theorem mapM_fillDefault (h : o.WellFormed) (hookURL : String) :
    (newDefaultRoutingTree hookURL).receivers.mapM o.fillDefault =
      .ok (o.rootReceivers hookURL) := by
  have hsorted : (newDefaultRoutingTree hookURL).receivers =
      (["Critical", "Error", "Info", "Warning"].map fun value =>
        ({ name := newOpniReceiverName ⟨defaultSubTreeLabel, value⟩ } : Receiver)) ++
        [defaultOpniReceiver hookURL] := by
    rfl
  rw [hsorted, mapM_eq_ok_iff, rootReceivers]
  refine List.rel_append ?_ (.cons ?_ .nil)
  · rw [List.forall₂_map_left_iff, List.forall₂_map_right_iff, List.forall₂_same]
    exact fun value hvalue => fillDefault_eq h hvalue
  · exact if_pos rfl

theorem buildConfig_eq {lib : Parsers} (h : o.WellFormed) {hookURL : String}
    (hhook : lib.parseURL o.hookEndpoint = .ok hookURL) (orders : MapOrders) :
    o.buildConfig lib orders = .ok (o.builtConfig orders hookURL) := by
  have hattach : ∀ opniRoutes recvs,
      attachSubtrees opniRoutes o.syncedConfig
        (newDefaultRoutingTree hookURL).route.children recvs =
        ([node opniNode (opniRoutes ++ newOpniSubRoutingTree.1.children),
          node metricsNode (o.syncedConfig.map (·.route)).toList],
         (o.syncedConfig.map (·.receivers)).getD [] ++ recvs) := by
    -- the matchers of the two subtrees are closed terms, so the loop evaluates
    intro opniRoutes recvs
    cases o.syncedConfig <;> rfl
  rw [buildConfig, hhook]
  simp only [mapM_fillDefault h, buildNamespaces_eq, hattach, List.nil_append]
  rw [if_neg ?_]
  · rfl
  · -- the hook's receiver has stayed the last one
    simp [rootReceivers, defaultOpniReceiver]

/-! ## The calls keep a router well formed -/

theorem WellFormed.new (hook : String) : (OpniRouterV1.new hook).WellFormed where
  namespace_ne ns hns := absurd hns (AList.notMem_empty ns)
  default_ne_nil value m hm := by
    cases hm

section WellFormedCalls

variable {lib : Parsers} {o o' : OpniRouterV1}

theorem WellFormed.setNamespaceSpec {specs : FullAttachedEndpoints} (h : o.WellFormed)
    (hcall : o.setNamespaceSpec lib ns routeId specs = .ok o') : o'.WellFormed := by
  obtain ⟨-, hns, receivers, -, hspecs, hdefaults, -, -⟩ := setNamespaceSpec_eq_ok hcall
  refine ⟨fun ns' hns' => ?_, fun v m hm => h.default_ne_nil v m (hdefaults ▸ hm)⟩
  rw [hspecs, AList.mem_insert] at hns'
  rcases hns' with rfl | hns'
  · -- the call has refused the default namespace
    exact hns
  · exact h.namespace_ne ns' hns'

theorem WellFormed.setDefaultNamespaceConfig {endps : List AlertEndpoint} (h : o.WellFormed)
    (hcall : o.setDefaultNamespaceConfig lib endps = .ok o') : o'.WellFormed := by
  obtain ⟨hspecs, -, -, hdefault⟩ := setDefaultValues_eq_ok hcall
  refine ⟨fun ns hns => h.namespace_ne ns (hspecs ▸ hns), fun v m hm => ?_⟩
  rcases hdefault v m hm with hold | hnew
  · exact h.default_ne_nil v m hold
  · exact hnew

theorem WellFormed.updateEndpoint {id : String} {spec : AlertEndpoint} (h : o.WellFormed)
    (hcall : o.updateEndpoint lib id spec = .ok o') : o'.WellFormed := by
  obtain ⟨hspecs, hdefaults, -, -⟩ := updateEndpoint_eq_ok hcall
  constructor
  · intro ns hns
    obtain ⟨m', hm'⟩ := mem_iff_exists_lookup.mp hns
    obtain ⟨m, hm, -⟩ := (GoMap.lookup_mapM hspecs).mp hm'
    exact h.namespace_ne ns (mem_iff_exists_lookup.mpr ⟨m, hm⟩)
  · -- an update replaces the receiver of an id and keeps the ids
    intro v m' hm'
    obtain ⟨m, hm, hupdate⟩ := (GoMap.lookup_mapM hdefaults).mp hm'
    obtain ⟨k, hk⟩ := keys_ne_nil_iff.mp (h.default_ne_nil v m hm)
    exact keys_ne_nil_iff.mpr ⟨k, (mem_of_updateReceivers hupdate).mpr hk⟩

theorem WellFormed.deleteEndpoint (h : o.WellFormed) (id : String) :
    (o.deleteEndpoint id).WellFormed := by
  constructor
  · intro ns hns
    obtain ⟨m', hm'⟩ := mem_iff_exists_lookup.mp hns
    rw [OpniRouterV1.deleteEndpoint, GoMap.lookup_filterMap] at hm'
    obtain ⟨m, hm, -⟩ := Option.bind_eq_some_iff.mp hm'
    exact h.namespace_ne ns (mem_iff_exists_lookup.mpr ⟨m, hm⟩)
  · -- a severity is dropped with its last endpoint, so an empty map never stays
    intro v m' hm'
    rw [OpniRouterV1.deleteEndpoint, GoMap.lookup_filterMap] at hm'
    obtain ⟨m, -, hm⟩ := Option.bind_eq_some_iff.mp hm'
    split at hm
    · cases hm
    next hkeep =>
      cases hm
      exact fun hnil => hkeep (.inl hnil)

end WellFormedCalls

end OpniRouterV1

/-! ## Reachable routers -/

structure RouterEnv where
  lib : Parsers
  hook : String
  hookURL : String
  parse_hook : lib.parseURL hook = .ok hookURL

/-- The routers that successful calls can reach.  A call that returns an error
    has not changed the router. -/
inductive Reachable (env : RouterEnv) : OpniRouterV1 → Prop where
  | new : Reachable env (.new env.hook)
  | setNamespaceSpec {o o' : OpniRouterV1} {ns routeId : String} {specs : FullAttachedEndpoints} :
      Reachable env o → o.setNamespaceSpec env.lib ns routeId specs = .ok o' → Reachable env o'
  | setDefaultNamespaceConfig {o o' : OpniRouterV1} {endps : List AlertEndpoint} :
      Reachable env o → o.setDefaultNamespaceConfig env.lib endps = .ok o' → Reachable env o'
  | updateEndpoint {o o' : OpniRouterV1} {id : String} {spec : AlertEndpoint} :
      Reachable env o → o.updateEndpoint env.lib id spec = .ok o' → Reachable env o'
  | deleteEndpoint {o : OpniRouterV1} (id : String) :
      Reachable env o → Reachable env (o.deleteEndpoint id)
  | syncExternalConfig {o : OpniRouterV1} (cfg : Option Config) :
      Reachable env o → Reachable env (o.syncExternalConfig cfg)

variable {env : RouterEnv} {o : OpniRouterV1}

theorem Reachable.wellFormed (h : Reachable env o) : o.WellFormed := by
  induction h with
  | new => exact .new env.hook
  | setNamespaceSpec _ hcall ih => exact ih.setNamespaceSpec hcall
  | setDefaultNamespaceConfig _ hcall ih => exact ih.setDefaultNamespaceConfig hcall
  | updateEndpoint _ hcall ih => exact ih.updateEndpoint hcall
  | deleteEndpoint id _ ih => exact ih.deleteEndpoint id
  | syncExternalConfig cfg _ ih => exact ⟨ih.namespace_ne, ih.default_ne_nil⟩

theorem Reachable.hookEndpoint (h : Reachable env o) : o.hookEndpoint = env.hook := by
  induction h with
  | new => rfl
  | setNamespaceSpec _ hcall ih =>
    obtain ⟨-, -, receivers, -, -, -, -, hhook⟩ := OpniRouterV1.setNamespaceSpec_eq_ok hcall
    rw [hhook, ih]
  | setDefaultNamespaceConfig _ hcall ih =>
    rw [(OpniRouterV1.setDefaultValues_eq_ok hcall).2.2.1, ih]
  | updateEndpoint _ hcall ih => rw [(OpniRouterV1.updateEndpoint_eq_ok hcall).2.2.2, ih]
  | deleteEndpoint id _ ih | syncExternalConfig cfg _ ih => exact ih

theorem Reachable.buildConfig_eq (h : Reachable env o) (orders : MapOrders) :
    o.buildConfig env.lib orders = .ok (o.builtConfig orders env.hookURL) :=
  OpniRouterV1.buildConfig_eq h.wellFormed (h.hookEndpoint ▸ env.parse_hook) orders

end Opni.Alerting
