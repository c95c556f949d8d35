/-
  Opni.Alerting.ReceiverNames

  When the configuration that `BuildConfig` builds has one route per namespace
  and route id, pairwise distinct receiver names, and a receiver for every
  name.
-/

import Opni.Alerting.BuildConfig

namespace Opni.Alerting

open Lib Function
open DispatchTree (node nodes_node nodesOf mem_nodesOf)
open OpniRouterV1

/-! ## The property -/

/-- The subtrees of a configuration that are entered by alerts with a label for
    the namespace. -/
def Config.namespaceSubtrees (cfg : Config) (ns : String) : List Route :=
  cfg.route.children.flatMap fun sub =>
    sub.children.filter fun t => t.data.matchers = [newNamespaceParentMatcher ns]

/-- A node that matches a route of a namespace and delivers to its receiver. -/
def RouteNode.Serves (n : RouteNode) (ns routeId : String) : Prop :=
  n.matchers = [newNamespaceMatcher ns routeId] ∧ n.receiver = newOpniReceiverName ⟨ns, routeId⟩

instance (n : RouteNode) (ns routeId : String) : Decidable (n.Serves ns routeId) :=
  inferInstanceAs (Decidable (_ ∧ _))

variable (o : OpniRouterV1)

/-- One route per namespace and route id, distinct receiver names, and no
    undefined receiver. -/
structure WellRouted (cfg : Config) : Prop where
  one_route : ∀ ns routeId, o.Active ns routeId →
    ∃ t, cfg.namespaceSubtrees ns = [t] ∧ t.nodes.countP (·.Serves ns routeId) = 1
  names_nodup : cfg.receiverNames.Nodup
  defined : ∀ n ∈ cfg.route.nodes, n.receiver ≠ "" → n.receiver ∈ cfg.receiverNames

/-- The routers without ambiguity: the id of a route with endpoints occurs in
    no other namespace, its dotted name belongs to no other route, and it is
    not the name of the hook. -/
structure Unambiguous : Prop where
  namespace_unique : ∀ ns routeId ns', o.Active ns routeId → routeId ∈ o.routes ns' → ns' = ns
  name_unique : ∀ ns routeId ns' routeId', o.Active ns routeId → o.Active ns' routeId' →
    ns ++ "." ++ routeId = ns' ++ "." ++ routeId' → ns = ns' ∧ routeId = routeId'
  not_hook : ∀ ns routeId, o.Active ns routeId → ¬(ns = "default" ∧ routeId = "hook")

namespace OpniRouterV1

/-! ## The routes with endpoints -/

/-- The namespaces and routes that get a receiver, in the order in which the
    loops of `BuildConfig` meet them. -/
def activePairs (o : OpniRouterV1) : List (String × String) :=
  (sortedKeys o.namespacedSpecs).flatMap fun ns => (o.activeRoutes ns).map (Prod.mk ns)

variable {o : OpniRouterV1} {ns routeId : String}

theorem mem_activePairs : (ns, routeId) ∈ o.activePairs ↔ o.Active ns routeId := by
  rw [activePairs, List.mem_flatMap]
  constructor
  · rintro ⟨ns', -, hmem⟩
    obtain ⟨routeId', hactive, heq⟩ := List.mem_map.mp hmem
    cases heq
    exact mem_activeRoutes.mp hactive
  · intro hactive
    refine ⟨ns, ?_, List.mem_map_of_mem (mem_activeRoutes.mpr hactive)⟩
    exact mem_sortedKeys.mpr (mem_of_mem_routes (mem_routes_of_active hactive))

theorem nodup_activePairs (o : OpniRouterV1) : o.activePairs.Nodup := by
  rw [activePairs, List.nodup_flatMap]
  constructor
  · intro ns _
    exact (o.nodup_activeRoutes ns).map (Prod.mk_right_injective ns)
  · refine (nodup_sortedKeys o.namespacedSpecs).imp ?_
    intro ns ns' hne p hp hp'
    obtain ⟨routeId, -, rfl⟩ := List.mem_map.mp hp
    obtain ⟨routeId', -, heq⟩ := List.mem_map.mp hp'
    exact hne (Prod.mk.inj heq).1.symm

variable (orders : MapOrders)

section

variable (o : OpniRouterV1)

theorem opniReceivers_eq :
    o.opniReceivers orders = o.activePairs.map fun p => o.valueReceiver orders p.1 p.2 := by
  rw [opniReceivers, activePairs, List.map_flatMap]
  simp only [List.map_map, comp_def]

@[simp] theorem name_valueReceiver (ns routeId : String) :
    (o.valueReceiver orders ns routeId).name = o.receiverName orders ns routeId := by
  rw [valueReceiver, Receiver.name_foldl_add]

@[simp] theorem name_defaultReceiver (value : String) :
    (o.defaultReceiver value).name = newOpniReceiverName ⟨defaultSubTreeLabel, value⟩ := by
  rw [defaultReceiver, Receiver.name_foldl_add]

end

/-- The names of the receivers that do not depend on the router. -/
def rootNames : List String :=
  (["Critical", "Error", "Info", "Warning"].map fun value =>
    newOpniReceiverName ⟨defaultSubTreeLabel, value⟩) ++ [alertingHookReceiverName]

theorem receiverNames_perm (hsync : o.syncedConfig = none) (orders : MapOrders) (hookURL : String) :
    (o.builtConfig orders hookURL).receiverNames.Perm
      (o.activePairs.map (fun p => o.receiverName orders p.1 p.2) ++ rootNames) := by
  have hroot : (o.rootReceivers hookURL).map (·.name) = rootNames := by
    simp only [rootReceivers, rootNames, List.map_append, List.map_map, comp_def,
      name_defaultReceiver]
    rfl
  rw [Config.receiverNames, builtConfig, List.map_append, hsync]
  simp only [Option.map_none, Option.getD_none, List.nil_append, hroot]
  refine List.Perm.append_right _ ?_
  refine ((sortFunc_perm _ _).map _).trans ?_
  simp [opniReceivers_eq, List.map_map, comp_def]

/-! ## The subtree of a namespace -/

theorem namespaceSubtrees_eq (h : o.WellFormed) (hsync : o.syncedConfig = none)
    (hns : ns ∈ o.namespacedSpecs) (orders : MapOrders) (hookURL : String) :
    (o.builtConfig orders hookURL).namespaceSubtrees ns = [o.namespaceTree orders ns] := by
  have hnodup := nodup_sortedKeys o.namespacedSpecs
  have hmem : ns ∈ sortedKeys o.namespacedSpecs := mem_sortedKeys.mpr hns
  have hne : ns ≠ "OpniSeverity" := h.namespace_ne ns hns
  have hfilter : ((sortedKeys o.namespacedSpecs).map (o.namespaceTree orders)).filter
      (fun t => t.data.matchers = [newNamespaceParentMatcher ns]) =
        [o.namespaceTree orders ns] := by
    -- the matcher of a subtree names its namespace, and the namespaces are distinct
    rw [List.filter_map]
    have hpred : ((fun t : Route => decide (t.data.matchers = [newNamespaceParentMatcher ns])) ∘
        o.namespaceTree orders) = fun ns' => decide (ns' = ns) := by
      funext ns'
      simp [namespaceTree, namespaceNode, newNamespaceParentMatcher]
    have hbeq : (fun ns' => decide (ns' = ns)) = (· == ns) := rfl
    rw [hpred, hbeq, List.filter_beq, List.count_eq_one_of_mem hnodup hmem]
    rfl
  -- the fixed subtrees are those of the severities and the finalizer
  have hfixed : newOpniSubRoutingTree.1.children.filter
      (fun t => t.data.matchers = [newNamespaceParentMatcher ns]) = [] := by
    rw [List.filter_eq_nil_iff]
    intro t ht
    have hroutes : t.data.matchers = [newNamespaceParentMatcher "OpniSeverity"] ∨
        t.data.matchers = [] := by
      revert t
      decide
    rcases hroutes with hm | hm
    · simpa [hm, newNamespaceParentMatcher] using Ne.symm hne
    · simp [hm]
  simp [Config.namespaceSubtrees, builtConfig, hsync, hfilter, hfixed]

theorem nodes_namespaceTree (o : OpniRouterV1) (ns : String) :
    (o.namespaceTree orders ns).nodes =
      namespaceNode ns :: (((o.activeRoutes ns).map (o.valueNode orders ns)).reverse ++
        [(newFinalizer (some ns)).data]) := by
  have hleaves : ∀ l : List RouteNode, nodesOf (l.map fun n => node n []) = l := by
    intro l
    induction l with
    | nil => simp [nodesOf]
    | cons n l ih => simp [nodesOf, ih]
  have happend : ∀ ts ts' : List Route, nodesOf (ts ++ ts') = nodesOf ts ++ nodesOf ts' := by
    intro ts ts'
    induction ts with
    | nil => simp [nodesOf]
    | cons t ts ih => simp [nodesOf, ih]
  have hroutes := hleaves ((o.activeRoutes ns).map (o.valueNode orders ns)).reverse
  rw [List.map_reverse, List.map_map] at hroutes
  rw [namespaceTree, nodes_node, happend]
  refine congrArg _ (congrArg₂ _ hroutes ?_)
  simp [newFinalizer, nodesOf]

theorem countP_serves_eq (o : OpniRouterV1) (ns routeId : String) :
    (o.namespaceTree orders ns).nodes.countP (·.Serves ns routeId) =
      (o.activeRoutes ns).countP fun r => (o.valueNode orders ns r).Serves ns routeId := by
  have hparent : ¬(namespaceNode ns).Serves ns routeId := by
    simp [RouteNode.Serves, namespaceNode, newNamespaceParentMatcher, newNamespaceMatcher]
  have hfinal : ¬(newFinalizer (some ns)).data.Serves ns routeId := by
    simp [RouteNode.Serves, newFinalizer, newNamespaceParentMatcher, newNamespaceMatcher]
  rw [nodes_namespaceTree, List.countP_cons_of_neg (by simpa using hparent), List.countP_append,
    List.countP_reverse, List.countP_map]
  simp [hfinal, comp_def]

theorem serves_valueNode {orders : MapOrders} {r : String}
    (h : (o.valueNode orders ns r).Serves ns routeId) :
    r = routeId ∧ o.findNamespace (orders.labels ns r) r = some ns := by
  have hmatchers : o.hasLabels (orders.labels ns r) r = [newNamespaceMatcher ns routeId] := h.1
  rw [hasLabels] at hmatchers
  split at hmatchers
  next ns' hfind =>
    obtain ⟨rfl, rfl⟩ := hmatchers
    exact ⟨rfl, hfind⟩
  · cases hmatchers

/-! ## Unambiguous routers are well routed -/

section Unambiguous

variable {o : OpniRouterV1} (hu : Unambiguous o)

include hu

theorem findNamespace_of_unambiguous (h : o.Active ns routeId) (s : Scheduler String) :
    o.findNamespace s routeId = some ns :=
  findNamespace_of_unique (mem_routes_of_active h)
    (fun ns' => hu.namespace_unique ns routeId ns' h) s

theorem receiverName_of_unambiguous (h : o.Active ns routeId) (orders : MapOrders) :
    o.receiverName orders ns routeId = newOpniReceiverName ⟨ns, routeId⟩ := by
  rw [receiverName, hasReceivers, findNamespace_of_unambiguous hu h]
  rfl

theorem serves_of_unambiguous {r : String} (h : o.Active ns r) (orders : MapOrders)
    (routeId : String) : (o.valueNode orders ns r).Serves ns routeId ↔ r = routeId := by
  constructor
  · exact fun hs => (serves_valueNode hs).1
  · rintro rfl
    refine ⟨?_, receiverName_of_unambiguous hu h orders⟩
    rw [valueNode, hasLabels, findNamespace_of_unambiguous hu h]
    rfl

theorem countP_serves_of_unambiguous (h : o.Active ns routeId) (orders : MapOrders) :
    (o.namespaceTree orders ns).nodes.countP (·.Serves ns routeId) = 1 := by
  have hcongr : (o.activeRoutes ns).countP
      (fun r => decide ((o.valueNode orders ns r).Serves ns routeId)) =
        (o.activeRoutes ns).countP (· == routeId) := by
    apply List.countP_congr
    intro r hr
    simp only [decide_eq_true_eq, beq_iff_eq]
    exact serves_of_unambiguous hu (mem_activeRoutes.mp hr) orders routeId
  rw [countP_serves_eq, hcongr]
  exact List.count_eq_one_of_mem (o.nodup_activeRoutes ns) (mem_activeRoutes.mpr h)

end Unambiguous

variable {o : OpniRouterV1} {ns routeId : String}

theorem name_notMem_rootNames (hns : ns ≠ defaultSubTreeLabel)
    (hhook : ¬(ns = "default" ∧ routeId = "hook")) :
    newOpniReceiverName ⟨ns, routeId⟩ ∉ rootNames := by
  have hdotless : ∀ x ∈ [defaultSubTreeLabel, "default", "Critical", "Error", "Info", "Warning",
      "hook"], '.' ∉ x.toList := by
    decide
  have happart : ∀ ns' ∈ [defaultSubTreeLabel, "default"],
      ∀ value ∈ ["Critical", "Error", "Info", "Warning", "hook"],
        newOpniReceiverName ⟨ns, routeId⟩ = newOpniReceiverName ⟨ns', value⟩ →
          ns = ns' ∧ routeId = value := by
    intro ns' hns' value hvalue heq
    have hdotted := newOpniReceiverName_inj.mp heq
    refine append_sep_inj (hdotless ns' ?_) (hdotless value ?_) hdotted
    · simp only [List.mem_cons, List.not_mem_nil, or_false] at hns' ⊢
      tauto
    · tauto
  rw [rootNames, List.mem_append, List.mem_map, List.mem_singleton]
  rintro (⟨value, hvalue, heq⟩ | heq)
  · refine hns (happart _ (by simp) value ?_ heq.symm).1
    simp only [List.mem_cons, List.not_mem_nil, or_false] at hvalue ⊢
    tauto
  · exact hhook (happart "default" (by simp) "hook" (by simp) heq)

theorem nodup_receiverNames (h : o.WellFormed) (hsync : o.syncedConfig = none)
    (hu : Unambiguous o) (orders : MapOrders) (hookURL : String) :
    (o.builtConfig orders hookURL).receiverNames.Nodup := by
  have hname : ∀ p ∈ o.activePairs,
      o.receiverName orders p.1 p.2 = newOpniReceiverName ⟨p.1, p.2⟩ :=
    fun p hp => receiverName_of_unambiguous hu (mem_activePairs.mp hp) orders
  rw [(receiverNames_perm hsync orders hookURL).nodup_iff, List.nodup_append']
  refine ⟨?_, by decide, ?_⟩
  · -- different routes have different dotted names
    refine o.nodup_activePairs.map_on ?_
    intro p hp p' hp' heq
    rw [hname p hp, hname p' hp'] at heq
    obtain ⟨hns, hroute⟩ := hu.name_unique p.1 p.2 p'.1 p'.2 (mem_activePairs.mp hp)
      (mem_activePairs.mp hp') (newOpniReceiverName_inj.mp heq)
    exact Prod.ext hns hroute
  · intro name hmem
    obtain ⟨p, hp, rfl⟩ := List.mem_map.mp hmem
    rw [hname p hp]
    have hactive := mem_activePairs.mp hp
    exact name_notMem_rootNames
      (h.namespace_ne p.1 (mem_of_mem_routes (mem_routes_of_active hactive)))
      (hu.not_hook p.1 p.2 hactive)

/-- Every receiver that a route of the built configuration names is defined. -/
theorem receiver_defined (hsync : o.syncedConfig = none) (orders : MapOrders)
    (hookURL : String) {n : RouteNode} (hn : n ∈ (o.builtConfig orders hookURL).route.nodes)
    (hne : n.receiver ≠ "") : n.receiver ∈ (o.builtConfig orders hookURL).receiverNames := by
  rw [(receiverNames_perm hsync orders hookURL).mem_iff, List.mem_append]
  have hfixed : ∀ n' ∈ rootNode :: opniNode :: metricsNode ::
      nodesOf newOpniSubRoutingTree.1.children, n'.receiver ≠ "" → n'.receiver ∈ rootNames := by
    decide
  -- a node is one of the fixed ones or in the subtree of a namespace
  have hcases : n ∈ rootNode :: opniNode :: metricsNode ::
      nodesOf newOpniSubRoutingTree.1.children ∨
        ∃ ns, n ∈ (o.namespaceTree orders ns).nodes := by
    simp only [builtConfig, hsync, Option.map_none, Option.toList_none, nodes_node, mem_nodesOf,
      List.mem_cons, List.not_mem_nil, or_false] at hn
    simp only [List.mem_cons, mem_nodesOf]
    rcases hn with rfl | ⟨t, rfl | rfl, ht⟩
    · simp
    · simp only [nodes_node, List.mem_cons, mem_nodesOf, List.mem_append, List.mem_map] at ht
      rcases ht with rfl | ⟨t, ⟨ns, -, rfl⟩ | ht, hnt⟩
      · simp
      · exact .inr ⟨ns, hnt⟩
      · exact .inl (.inr (.inr (.inr ⟨t, ht, hnt⟩)))
    · simp only [nodes_node, nodesOf, List.mem_singleton] at ht
      simp [ht]
  rcases hcases with hmem | ⟨ns, hmem⟩
  · exact .inr (hfixed n hmem hne)
  · rw [nodes_namespaceTree, List.mem_cons, List.mem_append, List.mem_reverse, List.mem_map,
      List.mem_singleton] at hmem
    rcases hmem with rfl | ⟨r, hr, rfl⟩ | rfl
    · -- the node of the namespace itself has no receiver
      exact absurd rfl hne
    · exact .inl (List.mem_map.mpr ⟨(ns, r), mem_activePairs.mpr (mem_activeRoutes.mp hr), rfl⟩)
    · exact .inr (List.mem_append_right _ (List.mem_singleton_self _))

/-! ## Well routed routers are unambiguous -/

/-- Orders in which the calls of `HasLabels` meet the given namespace first. -/
def labelsFrom (ns : String) : MapOrders where
  labels _ _ := Scheduler.front ns
  receivers _ _ := Scheduler.inOrder String

theorem findNamespace_front (h : routeId ∈ o.routes ns) :
    o.findNamespace (Scheduler.front ns) routeId = some ns := by
  have hns : ns ∈ o.namespacedSpecs.keys := AList.mem_keys.mp (mem_of_mem_routes h)
  rw [findNamespace, Scheduler.front]
  simp only [hns, if_true]
  rw [List.find?_cons_of_pos (by simpa using h)]

theorem countP_serves_eq_zero {ns' : String} (hne : ns' ≠ ns) (hmem : routeId ∈ o.routes ns') :
    (o.namespaceTree (labelsFrom ns') ns).nodes.countP (·.Serves ns routeId) = 0 := by
  rw [countP_serves_eq, List.countP_eq_zero]
  intro r _ hserves
  obtain ⟨rfl, hfind⟩ := serves_valueNode (of_decide_eq_true hserves)
  rw [show (labelsFrom ns').labels ns r = Scheduler.front ns' from rfl,
    findNamespace_front hmem] at hfind
  exact hne (Option.some.inj hfind)

end OpniRouterV1

/-- A reachable router without a synchronised configuration. -/
structure PlainRouter (env : RouterEnv) where
  router : OpniRouterV1
  reachable : Reachable env router
  not_synced : router.syncedConfig = none

namespace PlainRouter

variable {env : RouterEnv} (p : PlainRouter env)

theorem wellRouted_of_unambiguous (hu : Unambiguous p.router) (orders : MapOrders) :
    WellRouted p.router (p.router.builtConfig orders env.hookURL) where
  one_route ns _ hactive :=
    ⟨p.router.namespaceTree orders ns,
      namespaceSubtrees_eq p.reachable.wellFormed p.not_synced
        (mem_of_mem_routes (mem_routes_of_active hactive)) orders _,
      countP_serves_of_unambiguous hu hactive orders⟩
  names_nodup :=
    nodup_receiverNames p.reachable.wellFormed p.not_synced hu orders env.hookURL
  defined _ hn hne := receiver_defined p.not_synced orders env.hookURL hn hne

/-- In every order of the map iterations the configuration has one route per
    namespace and route id, distinct receiver names and no undefined receiver,
    exactly when the router is unambiguous. -/
theorem wellRouted_iff :
    (∀ orders, ∃ cfg, p.router.buildConfig env.lib orders = .ok cfg ∧ WellRouted p.router cfg) ↔
      Unambiguous p.router := by
  simp only [p.reachable.buildConfig_eq, Except.ok.injEq, exists_eq_left']
  refine ⟨fun h => ?_, fun hu orders => p.wellRouted_of_unambiguous hu orders⟩
  have hns : ∀ ns routeId ns', p.router.Active ns routeId → routeId ∈ p.router.routes ns' →
      ns' = ns := by
    -- otherwise `HasLabels` may meet the other namespace first
    intro ns routeId ns' hactive hmem
    by_contra hne
    obtain ⟨t, ht, hcount⟩ := (h (labelsFrom ns')).one_route ns routeId hactive
    rw [namespaceSubtrees_eq p.reachable.wellFormed p.not_synced
      (mem_of_mem_routes (mem_routes_of_active hactive))] at ht
    obtain rfl := List.singleton_inj.mp ht
    rw [countP_serves_eq_zero hne hmem] at hcount
    cases hcount
  -- with the namespaces found, the names in the configuration are the dotted ones
  let orders := labelsFrom ""
  have hname : ∀ ns routeId, p.router.Active ns routeId →
      p.router.receiverName orders ns routeId = newOpniReceiverName ⟨ns, routeId⟩ := by
    intro ns routeId hactive
    rw [receiverName, hasReceivers,
      findNamespace_of_unique (mem_routes_of_active hactive)
        (fun ns' => hns ns routeId ns' hactive)]
    rfl
  have hnodup := (h orders).names_nodup
  rw [(receiverNames_perm p.not_synced orders env.hookURL).nodup_iff,
    List.nodup_append'] at hnodup
  obtain ⟨hinj, -, hdisjoint⟩ := hnodup
  refine ⟨hns, ?_, ?_⟩
  · intro ns routeId ns' routeId' hactive hactive' heq
    have hpair := List.inj_on_of_nodup_map hinj (mem_activePairs.mpr hactive)
      (mem_activePairs.mpr hactive') (by
        rw [hname ns routeId hactive, hname ns' routeId' hactive', newOpniReceiverName_inj]
        exact heq)
    exact Prod.mk.inj hpair
  · rintro ns routeId hactive ⟨rfl, rfl⟩
    have hmem : alertingHookReceiverName ∈
        p.router.activePairs.map fun p' => p.router.receiverName orders p'.1 p'.2 := by
      refine List.mem_map.mpr ⟨_, mem_activePairs.mpr hactive, ?_⟩
      rw [hname _ _ hactive]
      rfl
    exact List.disjoint_left.mp hdisjoint hmem (by decide)

end PlainRouter

/-! ## A route id in two namespaces -/

def lenientParsers : Parsers where
  parseRequestURI _ := .ok ()
  parseURL s := .ok s
  parseAddress _ := .ok ()
  showEndpoint a := a.name

def sampleEnv : RouterEnv where
  lib := lenientParsers
  hook := "http://localhost:3000"
  hookURL := "http://localhost:3000"
  parse_hook := rfl

def sampleSpecs : FullAttachedEndpoints where
  items := [{
    endpointId := "endpoint"
    alertEndpoint :=
      some { name := "webhook", endpoint := some (.webhook { url := "http://localhost:3000" }) }
    details := some { title := "title", body := "body" } }]
  details := some { title := "title", body := "body" }

/-- The router after `SetNamespaceSpec` of a route id in two namespaces. -/
def twoNamespaces : Except Failure OpniRouterV1 :=
  match (new sampleEnv.hook).setNamespaceSpec sampleEnv.lib "cpu" "alarm"
    sampleSpecs with
  | .error err => .error err
  | .ok o => o.setNamespaceSpec sampleEnv.lib "memory" "alarm" sampleSpecs

/-- The route of `cpu` is built with the matcher of `memory`, so that no route
    of `cpu` serves the alarm. -/
theorem shared_routeId_is_misfiled :
    ∃ (p : PlainRouter sampleEnv) (orders : MapOrders) (cfg : Config),
      twoNamespaces = .ok p.router ∧ p.router.buildConfig sampleEnv.lib orders = .ok cfg ∧
        ¬WellRouted p.router cfg := by
  have hfirst : ∃ o, (new sampleEnv.hook).setNamespaceSpec sampleEnv.lib "cpu" "alarm"
      sampleSpecs = .ok o := ⟨_, rfl⟩
  obtain ⟨o, ho⟩ := hfirst
  have hsecond : ∃ o', o.setNamespaceSpec sampleEnv.lib "memory" "alarm" sampleSpecs = .ok o' := by
    cases ho
    exact ⟨_, rfl⟩
  obtain ⟨o', ho'⟩ := hsecond
  have hreach : Reachable sampleEnv o' := .setNamespaceSpec (.setNamespaceSpec .new ho) ho'
  have hfacts : o'.syncedConfig = none ∧ o'.Active "cpu" "alarm" ∧
      "alarm" ∈ o'.routes "memory" := by
    cases ho
    cases ho'
    refine ⟨rfl, ?_, ?_⟩
    · unfold OpniRouterV1.Active
      decide
    · decide
  obtain ⟨hsync, hactive, hmem⟩ := hfacts
  refine ⟨⟨o', hreach, hsync⟩, labelsFrom "memory", _, ?_,
    hreach.buildConfig_eq _, ?_⟩
  · rw [twoNamespaces, ho]
    exact ho'
  · intro h
    obtain ⟨t, ht, hcount⟩ := h.one_route "cpu" "alarm" hactive
    rw [namespaceSubtrees_eq hreach.wellFormed hsync
      (mem_of_mem_routes (mem_routes_of_active hactive))] at ht
    obtain rfl := List.singleton_inj.mp ht
    rw [countP_serves_eq_zero (by decide) hmem] at hcount
    cases hcount

end Opni.Alerting
