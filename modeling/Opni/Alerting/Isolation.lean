/-
  Opni.Alerting.Isolation

  Opni's own alerts stay out of the routing tree a user has synchronised, and
  no alert is lost.  The root of the tree that `BuildConfig` builds has two
  subtrees: Opni's, at path `[0]`, and the metrics subtree, at path `[1]`,
  below which the user's tree hangs at path `[1, 0]`.
-/

import Opni.Alerting.BuildConfig

namespace Opni.Alerting

open Lib
open DispatchTree (node Hit data_node mem_select_iff mem_selectFrom_iff select_eq_nil_iff)

section Delivery

variable (re : Regexps) (ls : LabelSet)

/-! ## Which nodes accept -/

theorem accepts_rootNode : rootNode.accepts re ls = true := by
  rfl

theorem accepts_opniNode : opniNode.accepts re ls = true ↔ ls.get opniDatasourceLabel = "" := by
  rw [RouteNode.accepts_eq rfl rfl]
  simp [opniNode, Matcher.accepts]

theorem accepts_metricsNode :
    metricsNode.accepts re ls = true ↔ ls.get opniDatasourceLabel = opniDatasourceMetrics := by
  rw [RouteNode.accepts_eq rfl rfl]
  simp [metricsNode, setDefaultRateLimitingFromProto, Matcher.accepts]

theorem accepts_of_parentMatcher {n : RouteNode} {ns : String}
    (hm : n.matchers = [newNamespaceParentMatcher ns]) (hl : n.matchLabels = ∅)
    (hr : n.matchRE = ∅) : n.accepts re ls = true ↔ ls.get ns ≠ "" := by
  rw [RouteNode.accepts_eq hl hr, hm]
  simp [newNamespaceParentMatcher, Matcher.accepts]

variable {re ls} {orders : MapOrders} {o : OpniRouterV1} {hookURL : String} {h : Hit RouteNode}

/-! ## Paths -/

theorem deliver_cases (hmem : h ∈ (o.builtConfig orders hookURL).route.deliver re ls) :
    (h.path = [] ∧ opniNode.accepts re ls = false ∧ metricsNode.accepts re ls = false) ∨
      ([0] <+: h.path ∧ opniNode.accepts re ls = true) ∨
      ([1] <+: h.path ∧ metricsNode.accepts re ls = true) := by
  obtain ⟨-, ⟨rfl, hnone⟩ | ⟨h', hsel, rfl⟩⟩ := mem_select_iff.mp hmem
  · have hopni := hnone _ (.head _ ..)
    have hmetrics := hnone _ (.tail _ (List.mem_singleton_self _))
    exact .inl ⟨rfl, hopni, hmetrics⟩
  · -- the root has two children; the length of `before` says which of them is hit
    obtain ⟨before, t, after, hsplit, ⟨h'', hin, rfl⟩, -⟩ := mem_selectFrom_iff.mp hsel
    have haccepts : t.data.accepts re ls = true := by
      by_contra hno
      rw [select_eq_nil_iff.mpr (by simpa using hno)] at hin
      cases hin
    refine .inr ?_
    match before, hsplit with
    | [], hsplit =>
      cases hsplit
      exact .inl ⟨⟨h''.path, rfl⟩, haccepts⟩
    | [_], hsplit =>
      obtain ⟨-, hrest⟩ := List.cons.inj hsplit
      cases hrest
      exact .inr ⟨⟨h''.path, rfl⟩, haccepts⟩
    | _ :: _ :: rest, hsplit =>
      have hlen := congrArg List.length hsplit
      simp only [List.length_append, List.length_cons, List.length_nil] at hlen
      omega

theorem selectedReceiver_ne_empty (hmem : h ∈ (o.builtConfig orders hookURL).route.deliver re ls) :
    selectedReceiver h ≠ "" := by
  -- a node without a receiver inherits its parent's
  have hkeep : ∀ (chain : List RouteNode) (r : String), r ≠ "" →
      chain.foldl (fun r n => if n.receiver = "" then r else n.receiver) r ≠ "" := by
    intro chain
    induction chain with
    | nil => exact fun r hr => hr
    | cons n chain ih =>
      intro r hr
      rw [List.foldl_cons]
      apply ih
      split
      · exact hr
      next hne => exact hne
  obtain ⟨-, ⟨rfl, -⟩ | ⟨h', -, rfl⟩⟩ := mem_select_iff.mp hmem
  · exact hkeep [] alertingHookReceiverName (by decide)
  · exact hkeep h'.chain alertingHookReceiverName (by decide)

theorem deliver_ne_nil (o : OpniRouterV1) (orders : MapOrders) (hookURL : String) :
    (o.builtConfig orders hookURL).route.deliver re ls ≠ [] := by
  have hroot : (o.builtConfig orders hookURL).route.data.accepts re ls = true :=
    accepts_rootNode re ls
  rw [Route.deliver, Ne, select_eq_nil_iff, hroot]
  decide

/-! ## Finalizers -/

/-- A tree that, when it accepts an alert, delivers it to the receiver among
    others. -/
def Reaches (re : Regexps) (ls : LabelSet) (receiver : String) (t : Route) : Prop :=
  t.data.accepts re ls = true →
    ∃ h ∈ t.deliver re ls, ∃ above n, h.chain = above ++ [n] ∧ n.receiver = receiver

theorem reaches_of_child {receiver : String} {a : RouteNode} {before after : List Route} {t : Route}
    (hbefore : ∀ c ∈ before, c.data.accepts re ls = true → c.data.continues = true)
    (haccepts : a.accepts re ls = true → t.data.accepts re ls = true)
    (ht : Reaches re ls receiver t) : Reaches re ls receiver (node a (before ++ t :: after)) := by
  intro ha
  obtain ⟨h, hmem, above, n, hchain, hhook⟩ := ht (haccepts ha)
  refine ⟨(h.inChild before.length).below a, ?_, a :: above, n, ?_, hhook⟩
  · exact DispatchTree.mem_select_of_mem_child ha hbefore hmem
  · rw [DispatchTree.Hit.chain_below, DispatchTree.Hit.chain_inChild, hchain, List.cons_append]

end Delivery

/-- On every reachable router, with any synchronised configuration, and for
    every alert: without a datasource label the alert is delivered, and nowhere
    inside the user's tree; with the label `metrics` it is delivered only
    inside the metrics subtree; and it is always delivered to some receiver. -/
theorem deliver_isolated {env : RouterEnv} (o : { o : OpniRouterV1 // Reachable env o })
    (orders : MapOrders) (re : Regexps) (ls : LabelSet) :
    ∃ cfg, o.1.buildConfig env.lib orders = .ok cfg ∧
      (cfg.route.subtree [1]).map (·.data) = some metricsNode ∧
      cfg.route.subtree [1, 0] = o.1.syncedConfig.map (·.route) ∧
      (ls.get opniDatasourceLabel = "" → ∀ h ∈ cfg.route.deliver re ls, ¬[1, 0] <+: h.path) ∧
      (ls.get opniDatasourceLabel = opniDatasourceMetrics →
        ∀ h ∈ cfg.route.deliver re ls, [1] <+: h.path) ∧
      cfg.route.deliver re ls ≠ [] ∧ ∀ h ∈ cfg.route.deliver re ls, selectedReceiver h ≠ "" := by
  refine ⟨_, o.2.buildConfig_eq orders, rfl, ?_, ?_, ?_, deliver_ne_nil o.1 orders _,
    fun h hmem => selectedReceiver_ne_empty hmem⟩
  · cases hsync : o.1.syncedConfig with
    | none | some cfg => simp [OpniRouterV1.builtConfig, hsync, DispatchTree.subtree]
  · -- without the label the metrics node does not accept, so the path starts with 0
    intro hds h hmem hprefix
    have hmetrics : metricsNode.accepts re ls ≠ true := by
      rw [Ne, accepts_metricsNode, hds]
      decide
    rcases deliver_cases hmem with ⟨hpath, -, -⟩ | ⟨hpath, -⟩ | ⟨-, hacc⟩
    · rw [hpath] at hprefix
      simp at hprefix
    · obtain ⟨rest, hrest⟩ := hpath
      rw [← hrest] at hprefix
      simp at hprefix
    · exact hmetrics hacc
  · -- with the label `metrics` only the metrics node accepts
    intro hds h hmem
    have hopni : opniNode.accepts re ls ≠ true := by
      rw [Ne, accepts_opniNode, hds]
      decide
    have hmetrics : metricsNode.accepts re ls = true := (accepts_metricsNode re ls).mpr hds
    rcases deliver_cases hmem with ⟨-, -, hno⟩ | ⟨-, hacc⟩ | ⟨hpath, -⟩
    · rw [hmetrics] at hno
      cases hno
    · exact absurd hacc hopni
    · exact hpath

end Opni.Alerting
