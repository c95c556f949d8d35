/-
  Opni.Alerting.Delivery

  Every alarm reaches its endpoints, as long as `UpdateAlertCondition` is
  given conditions that carry the id they are stored under.
-/

import Opni.Alerting.ForceSync
import Opni.Alerting.ReceiverNames
import Opni.Alerting.Isolation

namespace Opni.Alerting

open Lib
open DispatchTree (node Hit)
open OpniRouterV1 (mem_sortedKeys nodup_sortedKeys mem_of_mem_routes mem_routes_of_active)

/-! ## The route of an alert -/

section Route

variable {o : OpniRouterV1} {re : Regexps} {ls : LabelSet} {ns routeId : String}
  (hu : Unambiguous o)

include hu

theorem reaches_namespaceTree (hactive : o.Active ns routeId)
    (hlabel : ls.get ns = routeId) (orders : MapOrders) :
    Reaches re ls (newOpniReceiverName ⟨ns, routeId⟩) (o.namespaceTree orders ns) := by
  obtain ⟨hmatchers, hreceiver⟩ :=
    (OpniRouterV1.serves_of_unambiguous hu hactive orders routeId).mpr rfl
  have haccepts : (o.valueNode orders ns routeId).accepts re ls = true := by
    rw [RouteNode.accepts_eq rfl rfl, hmatchers]
    simp [newNamespaceMatcher, Matcher.accepts, hlabel]
  set routes := ((o.activeRoutes ns).map fun r => node (o.valueNode orders ns r) []).reverse
    with hroutes
  have hmem : node (o.valueNode orders ns routeId) [] ∈ routes :=
    List.mem_reverse.mpr (List.mem_map_of_mem (OpniRouterV1.mem_activeRoutes.mpr hactive))
  obtain ⟨before, after, hsplit⟩ := List.append_of_mem hmem
  -- the routes in front of it let the search go on
  have hcontinue : ∀ c ∈ before, c.data.continues = true := by
    intro c hc
    have hc' : c ∈ routes := hsplit ▸ List.mem_append_left _ hc
    obtain ⟨r, -, rfl⟩ := List.mem_map.mp (List.mem_reverse.mp hc')
    rfl
  rw [OpniRouterV1.namespaceTree, ← hroutes, hsplit, List.append_assoc, List.cons_append]
  refine reaches_of_child (fun c hc _ => hcontinue c hc) (fun _ => haccepts) ?_
  rw [← hreceiver]
  intro haccepts
  exact ⟨⟨[], [_]⟩, DispatchTree.mem_select_iff.mpr ⟨haccepts, .inl ⟨rfl, by simp⟩⟩,
    [], _, rfl, rfl⟩

/-- An alert with the label of one namespace only is delivered by the route that
    the label names. -/
theorem deliver_value (hactive : o.Active ns routeId)
    (hds : ls.get opniDatasourceLabel = "") (hlabel : ls.get ns = routeId) (hne : routeId ≠ "")
    (hothers : ∀ ns' ∈ o.namespacedSpecs, ns' ≠ ns → ls.get ns' = "") (orders : MapOrders)
    (hookURL : String) :
    ∃ h ∈ (o.builtConfig orders hookURL).route.deliver re ls,
      selectedReceiver h = newOpniReceiverName ⟨ns, routeId⟩ := by
  have hns : ns ∈ sortedKeys o.namespacedSpecs := mem_sortedKeys.mpr
    (mem_of_mem_routes (mem_routes_of_active hactive))
  obtain ⟨before, after, hsplit⟩ := List.append_of_mem hns
  have hnodup := nodup_sortedKeys o.namespacedSpecs
  -- subtrees do not continue, so no earlier one may accept the alert
  have hbefore : ∀ t ∈ before.map (o.namespaceTree orders),
      t.data.accepts re ls = true → t.data.continues = true := by
    intro t ht haccepts
    obtain ⟨ns', hns', rfl⟩ := List.mem_map.mp ht
    rw [hsplit, List.nodup_append] at hnodup
    have hget := hothers ns' (mem_sortedKeys.mp (hsplit ▸ List.mem_append_left _ hns'))
      (hnodup.2.2 ns' hns' ns (by simp))
    exact absurd hget ((accepts_of_parentMatcher re ls rfl rfl rfl).mp haccepts)
  have hopni : Reaches re ls (newOpniReceiverName ⟨ns, routeId⟩)
      (node opniNode ((sortedKeys o.namespacedSpecs).map (o.namespaceTree orders) ++
        newOpniSubRoutingTree.1.children)) := by
    rw [hsplit, List.map_append, List.map_cons, List.append_assoc, List.cons_append]
    refine reaches_of_child hbefore (fun _ => ?_) (reaches_namespaceTree hu hactive hlabel orders)
    refine (accepts_of_parentMatcher re ls rfl rfl rfl).mpr ?_
    rw [hlabel]
    exact hne
  have hroot : Reaches re ls (newOpniReceiverName ⟨ns, routeId⟩)
      (node rootNode ([] ++ node opniNode ((sortedKeys o.namespacedSpecs).map
        (o.namespaceTree orders) ++ newOpniSubRoutingTree.1.children) ::
          [node metricsNode (o.syncedConfig.map (·.route)).toList])) :=
    reaches_of_child (by simp) (fun _ => (accepts_opniNode re ls).mpr hds) hopni
  obtain ⟨h, hmem, above, n, hchain, hname⟩ := hroot (accepts_rootNode re ls)
  refine ⟨h, hmem, ?_⟩
  rw [selectedReceiver, hchain, List.foldl_concat, hname,
    if_neg (by simp [newOpniReceiverName_eq])]

end Route

/-! ## Synced routers -/

namespace SyncedFrom

variable {env : AlertingEnv} {st : Stores} {o : OpniRouterV1} (h : SyncedFrom env st o)
  {c : AlertCondition} {p : Path}

include h

theorem eq_of_id_eq {p' : Path} {c' : AlertCondition} (hc : st.conditions.kv.lookup p = some c)
    (hc' : st.conditions.kv.lookup p' = some c') (hid : c.id = c'.id) : c = c' := by
  have hp : p = p' := by rw [(h.valid p c hc).2.1, (h.valid p' c' hc').2.1, hid]
  rw [hp, hc'] at hc
  exact (Option.some.inj hc).symm

theorem unambiguous : Unambiguous o where
  namespace_unique ns routeId ns' hactive hmem := by
    obtain ⟨p, c, hc, rfl, rfl⟩ := (h.routes ns routeId).mp (mem_routes_of_active hactive)
    obtain ⟨p', c', hc', rfl, hid⟩ := (h.routes ns' c.id).mp hmem
    rw [h.eq_of_id_eq hc' hc hid]
  name_unique ns routeId ns' routeId' hactive hactive' heq := by
    -- namespaces have no dots, so the first dot of a name ends the namespace
    obtain ⟨p, c, hc, rfl, rfl⟩ := (h.routes ns routeId).mp (mem_routes_of_active hactive)
    obtain ⟨p', c', hc', rfl, rfl⟩ := (h.routes ns' routeId').mp (mem_routes_of_active hactive')
    have hdotless := fun c : AlertCondition =>
      (AlertCondition.namespaces_spec _ c.ns_mem_namespaces).2.2.2.2
    exact append_sep_inj_left (hdotless c) (hdotless c') heq
  not_hook ns routeId hactive hhook := by
    obtain ⟨p, c, hc, rfl, rfl⟩ := (h.routes ns routeId).mp (mem_routes_of_active hactive)
    exact (h.valid p c hc).2.2.ns_ne_default hhook.1

theorem active (hc : st.conditions.kv.lookup p = some c) (hne : c.attached ≠ []) :
    o.Active c.ns c.id := by
  obtain ⟨rs, hperm, hrel⟩ := h.receivers p c hc hne
  intro hnil
  have hlen := hperm.length_eq
  rw [List.length_map, ← hrel.length_eq] at hlen
  rw [AList.keys, List.keys, List.map_eq_nil_iff] at hnil
  rw [hnil] at hlen
  exact hne (List.length_eq_zero_iff.mp hlen.symm)

theorem get_other {ns : String} (hns : ns ∈ o.namespacedSpecs) (hne : ns ≠ c.ns) :
    c.getRoutingLabels.get ns = "" := by
  obtain ⟨-, hseverity, hid, -, -⟩ := AlertCondition.namespaces_spec ns (h.namespaces ns hns)
  rw [AlertCondition.get_getRoutingLabels, if_neg (not_or.mpr ⟨hne, hid⟩), if_neg hseverity]

theorem exists_receiver (hactive : o.Active c.ns c.id) (orders : MapOrders) :
    ∃ recv, ((o.builtConfig orders env.hookURL).receivers.filter fun r =>
        newOpniReceiverName ⟨c.ns, c.id⟩ = r.name) = [recv] ∧
      recv.integrations.Perm ((o.endpoints c.ns c.id).entries.map Sigma.snd) := by
  have hname := OpniRouterV1.receiverName_of_unambiguous h.unambiguous hactive orders
  have hnodup := OpniRouterV1.nodup_receiverNames h.reachable.wellFormed h.not_synced
    h.unambiguous orders env.hookURL
  have hmem : o.valueReceiver orders c.ns c.id ∈ (o.builtConfig orders env.hookURL).receivers := by
    refine List.mem_append_left _ (mem_sortFunc.mpr ?_)
    rw [OpniRouterV1.opniReceivers_eq]
    exact List.mem_map.mpr ⟨(c.ns, c.id), OpniRouterV1.mem_activePairs.mpr hactive, rfl⟩
  refine ⟨o.valueReceiver orders c.ns c.id, ?_, ?_⟩
  · rw [← hname, ← OpniRouterV1.name_valueReceiver]
    exact filter_key_eq hnodup hmem
  · exact (Receiver.integrations_built _ _).trans (OpniRouterV1.inKeyOrder_perm _)

end SyncedFrom

/-! ## Every alarm reaches its endpoints -/

/-- The alert fired for a condition is delivered to the receiver named after its
    namespace and key, and that receiver has one integration for each attached
    endpoint. -/
structure AlarmReaches (lib : Parsers) (st : Stores) (cfg : Config) (re : Regexps) (p : Path)
    (c : AlertCondition) : Prop where
  delivered : ∃ h ∈ cfg.route.deliver re c.getRoutingLabels,
    selectedReceiver h = newOpniReceiverName ⟨c.ns, p.base⟩
  receiver : ∃ recv rs,
    (cfg.receivers.filter fun r => newOpniReceiverName ⟨c.ns, p.base⟩ = r.name) = [recv] ∧
      recv.integrations.Perm rs ∧
      List.Forall₂ (fun item r => ∃ q e, st.endpoints.kv.lookup q = some e ∧
        e.id = item.endpointId ∧ newReceiverImplementationFromEndpoint lib e
          (c.attachedEndpoints.bind (·.details)) = .ok r) c.attached rs

variable {p : Path} {c : AlertCondition}

theorem SyncedFrom.alarmReaches {env : AlertingEnv} {st : Stores} {o : OpniRouterV1}
    (h : SyncedFrom env st o) (hc : st.conditions.kv.lookup p = some c) (hne : c.attached ≠ [])
    (orders : MapOrders) (re : Regexps) :
    AlarmReaches env.lib.toParsers st (o.builtConfig orders env.hookURL) re p c := by
  obtain ⟨hplain, hp, -⟩ := h.valid p c hc
  have hbase : p.base = c.id := by rw [hp, st.conditions.base_key hplain]
  have hactive := h.active hc hne
  obtain ⟨-, -, -, hds, -⟩ := AlertCondition.namespaces_spec _ c.ns_mem_namespaces
  constructor
  · -- the label of the namespace is set, those of the datasource and of others are not
    rw [hbase]
    refine deliver_value h.unambiguous hactive ?_ ?_ hplain.ne_empty
      (fun ns hns hother => h.get_other hns hother) orders env.hookURL
    · rw [AlertCondition.get_getRoutingLabels, if_neg, if_neg (by decide)]
      rintro (heq | heq)
      · exact hds heq.symm
      · exact absurd heq (by decide)
    · rw [AlertCondition.get_getRoutingLabels, if_pos (.inl rfl)]
  · obtain ⟨recv, hrecv, hintegrations⟩ := h.exists_receiver hactive orders
    obtain ⟨rs, hperm, hrel⟩ := h.receivers p c hc hne
    rw [hbase]
    exact ⟨recv, rs, hrecv, hintegrations.trans hperm, hrel⟩

/-- After any run of consistent calls on empty stores, in whatever order the
    buckets and maps are listed, `ForceSync` and `BuildConfig` succeed, and
    every stored condition with endpoints reaches them. -/
theorem alarms_reach_endpoints (env : AlertingEnv) {calls : List Call} {st : Stores}
    (hrun : Stores.run env.lib calls Stores.empty = .ok st)
    (hcalls : ∀ call ∈ calls, call.Consistent env.lib) (hexist : st.EndpointsExist)
    (sync : SyncOrders) (orders : MapOrders) (re : Regexps) :
    ∃ o cfg, forceSync env.lib.toParsers sync st (.new env.hook) = .ok o ∧
      o.buildConfig env.lib.toParsers orders = .ok cfg ∧
      ∀ p c, st.conditions.kv.lookup p = some c → c.attached ≠ [] →
        AlarmReaches env.lib.toParsers st cfg re p c := by
  have hst : st.Consistent env.lib := Stores.Consistent.empty.run hcalls hrun
  obtain ⟨o, hsync, h⟩ := exists_forceSync hst hexist sync
  exact ⟨o, _, hsync, h.reachable.buildConfig_eq orders,
    fun p c hc hne => h.alarmReaches hc hne orders re⟩

/-! ## A run, and one in which an update loses the id -/

def lenientLibs : AlertingLibs where
  toParsers := lenientParsers
  parseExpr _ := .ok ()
  showAlertType _ := ""

def lenientEnv : AlertingEnv where
  lib := lenientLibs
  hook := "http://localhost:3000"
  hookURL := "http://localhost:3000"
  parse_hook := rfl

variable (id : String)

def sampleCondition : AlertCondition where
  name := "disconnected"
  id := id
  alertType := some (.system (some "cluster"))
  attachedEndpoints := some {
    items := [⟨"endpoint"⟩]
    details := some { title := "title", body := "body" } }

/-- An endpoint and an alarm are created, and the alarm is updated by a condition
    with the given id. -/
def sampleCalls : List Call :=
  [.createAlertEndpoint ⟨"endpoint", by decide⟩
      { name := "webhook", endpoint := some (.webhook { url := "http://localhost:3000" }) },
   .createAlertCondition ⟨"alarm", by decide⟩ (sampleCondition ""),
   .updateAlertCondition (some "alarm") (sampleCondition id)]

def sampleStores : Stores :=
  { Stores.empty with
    conditions := (Stores.empty.conditions.put "alarm" (sampleCondition "alarm")).put "alarm"
      (sampleCondition id)
    endpoints := Stores.empty.endpoints.put "endpoint"
      { name := "webhook", id := "endpoint"
        endpoint := some (.webhook { url := "http://localhost:3000" }) } }

theorem run_sampleCalls :
    Stores.run lenientEnv.lib (sampleCalls id) Stores.empty = .ok (sampleStores id) := rfl

def alarmPath : Path := Stores.empty.conditions.key "alarm"

theorem lookup_sampleStores {id : String} :
    (sampleStores id).conditions.kv.lookup p = some c ↔ p = alarmPath ∧ c = sampleCondition id := by
  constructor
  · intro h
    rcases AlertingStorage.lookup_put h with hnew | hold
    · exact hnew
    rcases AlertingStorage.lookup_put hold with ⟨hp, -⟩ | hempty
    · rw [hp] at h
      exact ⟨hp, (Option.some.inj h).symm⟩
    · simp [Stores.empty, AlertingStorage.empty] at hempty
  · rintro ⟨rfl, rfl⟩
    rfl

theorem endpointsExist_sampleStores : (sampleStores id).EndpointsExist := by
  intro p c hc item hitem
  obtain ⟨-, rfl⟩ := lookup_sampleStores.mp hc
  obtain rfl := List.mem_singleton.mp hitem
  exact ⟨Stores.empty.endpoints.key "endpoint", _, rfl, rfl⟩

/-- Orders in which everything is listed as it is stored. -/
def sampleSync : SyncOrders := ⟨.inOrder _, .inOrder _, .inOrder _, .inOrder _⟩

def sampleOrders : MapOrders := ⟨fun _ _ => .inOrder _, fun _ _ => .inOrder _⟩

/-- After a consistent update the alarm still reaches its endpoint. -/
theorem updated_alarm_reaches :
    ∃ o cfg, forceSync lenientLibs.toParsers sampleSync (sampleStores "alarm")
        (.new lenientEnv.hook) = .ok o ∧
      o.buildConfig lenientLibs.toParsers sampleOrders = .ok cfg ∧
      AlarmReaches lenientLibs.toParsers (sampleStores "alarm") cfg (fun _ _ => false) alarmPath
        (sampleCondition "alarm") := by
  have hcalls : ∀ call ∈ sampleCalls "alarm", call.Consistent lenientEnv.lib := by
    intro call hcall
    simp only [sampleCalls, List.mem_cons, List.not_mem_nil, or_false] at hcall
    rcases hcall with rfl | rfl | rfl
    · trivial
    · trivial
    · exact ⟨by decide, rfl⟩
  obtain ⟨o, cfg, hsync, hbuild, hreach⟩ :=
    alarms_reach_endpoints lenientEnv (run_sampleCalls "alarm") hcalls
      (endpointsExist_sampleStores "alarm") sampleSync sampleOrders (fun _ _ => false)
  exact ⟨o, cfg, hsync, hbuild,
    hreach alarmPath _ (lookup_sampleStores.mpr ⟨rfl, rfl⟩) (by decide)⟩

/-- An update by a condition without an id is stored as it is.  `ForceSync` files
    the route under the id of the cluster, the alert has an empty label, and no
    receiver of the alarm gets it. -/
theorem update_without_id_loses_alarm :
    ∃ st o cfg, Stores.run lenientLibs (sampleCalls "") Stores.empty = .ok st ∧
      st.EndpointsExist ∧
      forceSync lenientLibs.toParsers sampleSync st (.new lenientEnv.hook) = .ok o ∧
      o.buildConfig lenientLibs.toParsers sampleOrders = .ok cfg ∧
      st.conditions.kv.lookup alarmPath = some (sampleCondition "") ∧
      (sampleCondition "").attached ≠ [] ∧
      ¬AlarmReaches lenientLibs.toParsers st cfg (fun _ _ => false) alarmPath
        (sampleCondition "") := by
  have hsync : ∃ o, forceSync lenientLibs.toParsers sampleSync (sampleStores "")
      (.new lenientEnv.hook) = .ok o := ⟨_, rfl⟩
  obtain ⟨o, ho⟩ := hsync
  have hbuild : ∃ cfg, o.buildConfig lenientLibs.toParsers sampleOrders = .ok cfg := by
    cases ho
    exact ⟨_, rfl⟩
  obtain ⟨cfg, hcfg⟩ := hbuild
  refine ⟨sampleStores "", o, cfg, run_sampleCalls "", endpointsExist_sampleStores "", ho, hcfg,
    lookup_sampleStores.mpr ⟨rfl, rfl⟩, by decide, fun h => ?_⟩
  have hlost : ∀ h ∈ cfg.route.deliver (fun _ _ => false) (sampleCondition "").getRoutingLabels,
      selectedReceiver h ≠ newOpniReceiverName ⟨(sampleCondition "").ns, alarmPath.base⟩ := by
    cases ho
    cases hcfg
    decide +kernel
  obtain ⟨hit, hmem, hname⟩ := h.delivered
  exact hlost hit hmem hname

end Opni.Alerting
