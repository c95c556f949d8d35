/-
  Opni.Alerting.ClusterChecks

  `checkMetricsClusterStatus`
  (`plugins/alerting/pkg/alerting/api_conditions.go`): whether an alarm on
  metrics is invalid because its cluster lacks the metrics capability; and
  `checkInternalClusterStatus` with `MessagingNode` (`messaging/node.go`):
  whether an internal alarm is invalid because its evaluator does not run.
-/

import Opni.Alerting.Condition
import Opni.Alerting.Status
import Opni.Capabilities.Backends

namespace Opni.Alerting

open Lib Capabilities

/-- `cortexops.InstallState`. -/
inductive MetricsInstallState where
  | unknown | notInstalled | updating | installed | uninstalling
deriving DecidableEq

def isMetrics (cap : ClusterCapability) : Prop := cap.name = Backend.metrics.capability

instance : DecidablePred isMetrics := fun _ => inferInstanceAs (Decidable (_ = _))

def lacksMetrics : AlertStatusResponse :=
  { state := .invalidated, reason := "cluster does not have metrics capabilities installed" }

/-- The loop over the capabilities, if it returns: it does at the first that is another one. -/
def checkCapabilities : List ClusterCapability → Option AlertStatusResponse
  | [] => none
  | cap :: capabilities =>
    if ¬isMetrics cap then some lacksMetrics else checkCapabilities capabilities

/-- `checkMetricsClusterStatus`, with times in nanoseconds. -/
def checkMetricsClusterStatus (lastUpdated now : Int) (metricsBackendStatus : MetricsInstallState)
    (clMap : GoMap String Cluster) (clusterId : String) : AlertStatusResponse :=
  if metricsBackendStatus = .notInstalled then
    { state := .invalidated, reason := "metrics backend not installed" }
  else match clMap.lookup clusterId with
    | none => { state := .invalidated, reason := "cluster not found" }
    | some cluster =>
      match checkCapabilities cluster.capabilities with
      | some status => status
      | none =>
        if ¬lastUpdated < now - 90 * 10 ^ 9 then
          { state := .pending, reason := "alarm metric dependencies are updating" }
        else { state := .ok }

theorem checkCapabilities_eq (capabilities : List ClusterCapability) :
    checkCapabilities capabilities =
      if ∀ cap ∈ capabilities, isMetrics cap then none else some lacksMetrics := by
  induction capabilities with
  | nil => rfl
  | cons cap capabilities ih =>
    rw [checkCapabilities, ih]
    by_cases hcap : isMetrics cap
    · simp [hcap]
    · simp [hcap]

section Cluster

variable (lastUpdated now : Int) (metricsBackendStatus : MetricsInstallState)
  (clMap : GoMap String Cluster) (cluster : Cluster)

/-- The check of the cluster says that it lacks the capability. -/
def SaysLacking : Prop :=
  checkMetricsClusterStatus lastUpdated now metricsBackendStatus (clMap.insert cluster.id cluster)
    cluster.id = lacksMetrics

instance : Decidable (SaysLacking lastUpdated now metricsBackendStatus clMap cluster) :=
  inferInstanceAs (Decidable (_ = _))

/-- The check says so just when no capability is the metrics capability, and says the same of the
    capabilities in any other order. -/
def ReportsCapability : Prop :=
  (SaysLacking lastUpdated now metricsBackendStatus clMap cluster ↔
    ∀ cap ∈ cluster.capabilities, ¬isMetrics cap) ∧
  ∀ data, data.Perm cluster.capabilities →
    (SaysLacking lastUpdated now metricsBackendStatus clMap { cluster with data } ↔
      SaysLacking lastUpdated now metricsBackendStatus clMap cluster)

variable {lastUpdated now metricsBackendStatus clMap cluster}

/-- What the check says is that some capability is another one. -/
theorem saysLacking_iff : SaysLacking lastUpdated now metricsBackendStatus clMap cluster ↔
    metricsBackendStatus ≠ .notInstalled ∧ ¬∀ cap ∈ cluster.capabilities, isMetrics cap := by
  rw [SaysLacking, checkMetricsClusterStatus, AList.lookup_insert]
  by_cases hbackend : metricsBackendStatus = .notInstalled
  · rw [if_pos hbackend]
    exact iff_of_false (by decide) fun h => h.1 hbackend
  · rw [if_neg hbackend, and_iff_right hbackend]
    dsimp only
    rw [checkCapabilities_eq]
    by_cases hall : ∀ cap ∈ cluster.capabilities, isMetrics cap
    · rw [if_pos hall]
      refine iff_of_false ?_ (not_not.mpr hall)
      dsimp only
      split <;> decide
    · rw [if_neg hall]
      exact iff_of_true rfl hall

variable (lastUpdated now metricsBackendStatus clMap cluster)

/-- The check is right about a backend that is installed if the cluster has capabilities, and not
    the metrics capability together with others. -/
theorem checkMetricsClusterStatus_reports_iff :
    ReportsCapability lastUpdated now metricsBackendStatus clMap cluster ↔
      if metricsBackendStatus = .notInstalled then ∃ cap ∈ cluster.capabilities, isMetrics cap
      else cluster.capabilities ≠ [] ∧ ((∀ cap ∈ cluster.capabilities, isMetrics cap) ∨
        ∀ cap ∈ cluster.capabilities, ¬isMetrics cap) := by
  have hperm : ∀ data, data.Perm cluster.capabilities →
      (SaysLacking lastUpdated now metricsBackendStatus clMap { cluster with data } ↔
        SaysLacking lastUpdated now metricsBackendStatus clMap cluster) := by
    intro data hperm
    rw [saysLacking_iff, saysLacking_iff]
    simp only [hperm.mem_iff]
  rw [ReportsCapability, and_iff_left hperm, saysLacking_iff]
  by_cases hbackend : metricsBackendStatus = .notInstalled
  · simp [hbackend]
  · rw [if_neg hbackend, and_iff_right hbackend]
    cases hcaps : cluster.capabilities with
    | nil => simp
    | cons cap capabilities =>
      -- the first capability is one of the two kinds, and the others are of its kind
      by_cases hcap : isMetrics cap
      · simp [hcap]
      · simp [hcap]

end Cluster

/-- Another capability hides the metrics capability, and without any capability none is missed. -/
theorem checkMetricsClusterStatus_misreports :
    let reports (capabilities : List ClusterCapability) : Prop :=
      SaysLacking 0 100 .installed ∅ ⟨"c", capabilities, ""⟩
    reports [⟨"metrics", none⟩, ⟨"logs", none⟩] ∧ ¬reports [] ∧
      ¬ReportsCapability 0 100 .installed ∅ ⟨"c", [⟨"metrics", none⟩, ⟨"logs", none⟩], ""⟩ ∧
      ¬ReportsCapability 0 100 .installed ∅ ⟨"c", [], ""⟩ := by
  refine ⟨by decide, by decide, fun h => ?_, fun h => ?_⟩
  · exact absurd (h.1.mp (by decide)) (by decide)
  · cases h.1.mpr (by decide)

/-! ## Internal alarms -/

/-- `EvaluatorContext`: its copies share the context, and each has a flag of its own. -/
structure EvaluatorContext where
  ctx : Nat
  running : Bool
deriving DecidableEq

/-- `MessagingNode`, with the contexts that are cancelled, the copies that the watchers hold and
    every evaluator that was registered. -/
structure MessagingNode where
  listeners : GoMap String EvaluatorContext := ∅
  cancelled : List Nat := []
  watchers : List EvaluatorContext := []
  registered : List (String × Nat) := []

namespace MessagingNode

variable (n : MessagingNode) (conditionId : String)

/-- The context that is registered is cancelled. -/
def cancelOld : List Nat :=
  (n.listeners.lookup conditionId).toList.map (·.ctx) ++ n.cancelled

/-- `AddSystemConfigListener`: the watcher gets the argument, the map a copy of it. -/
def addSystemConfigListener (ctx : Nat) : MessagingNode where
  listeners := n.listeners.insert conditionId ⟨ctx, true⟩
  cancelled := n.cancelOld conditionId
  watchers := n.watchers ++ [⟨ctx, true⟩]
  registered := (conditionId, ctx) :: n.registered

def removeConfigListener : MessagingNode :=
  { n with listeners := n.listeners.erase conditionId, cancelled := n.cancelOld conditionId }

/-- A watcher goes on when its context is done, and resets its copy of the flag. -/
def watch (w : EvaluatorContext) : EvaluatorContext :=
  if w.ctx ∈ n.cancelled then { w with running := false } else w

def isRunning : Bool := (n.listeners.lookup conditionId).any (·.running)

def checkInternalClusterStatus (clMap : GoMap String Cluster) (clusterId : String) :
    AlertStatusResponse :=
  if clusterId ≠ upstreamClusterId ∧ clMap.lookup clusterId = none then
    { state := .invalidated, reason := "cluster not found" }
  else if !n.isRunning conditionId then
    { state := .invalidated, reason := "internal server error -- restart gateway" }
  else { state := .ok }

inductive Event where
  | add (conditionId : String) (ctx : Nat)
  | remove (conditionId : String)
  | cancel (ctx : Nat)
  | watcher (i : Nat)

def step : Event → MessagingNode
  | .add conditionId ctx => n.addSystemConfigListener conditionId ctx
  | .remove conditionId => n.removeConfigListener conditionId
  | .cancel ctx => { n with cancelled := ctx :: n.cancelled }
  | .watcher i => { n with watchers := n.watchers.modify i n.watch }

def run (events : List Event) : MessagingNode := events.foldl step n

/-- The evaluator of a condition is registered and its context is not cancelled. -/
def Live : Prop := ∃ e, n.listeners.lookup conditionId = some e ∧ e.ctx ∉ n.cancelled

/-- The watchers have caught up. -/
def CaughtUp : Prop := ∀ w ∈ n.watchers, w.ctx ∈ n.cancelled → w.running = false

structure Truthful : Prop where
  running : ∀ id, n.isRunning id = true ↔ n.Live id
  invalid : ∀ id, ¬n.Live id → ∀ clMap clusterId,
    (n.checkInternalClusterStatus id clMap clusterId).state = .invalidated

/-- What every step keeps: the flags in the map are never reset, and an evaluator whose context is
    not cancelled is the one that is registered. -/
structure Inv : Prop where
  flags : ∀ id e, n.listeners.lookup id = some e → e.running = true
  last : ∀ id ctx, (id, ctx) ∈ n.registered → ctx ∉ n.cancelled →
    (n.listeners.lookup id).map (·.ctx) = some ctx

variable {n}

/-- The evaluators of other conditions stay, and none of this one keeps its context. -/
theorem Inv.last_of_cancelOld (h : n.Inv) {conditionId id : String} {ctx : Nat}
    (hmem : (id, ctx) ∈ n.registered) (hlive : ctx ∉ n.cancelOld conditionId) :
    id ≠ conditionId ∧ (n.listeners.lookup id).map (·.ctx) = some ctx := by
  rw [cancelOld, List.mem_append, not_or] at hlive
  have hlast := h.last id ctx hmem hlive.2
  refine ⟨?_, hlast⟩
  rintro rfl
  apply hlive.1
  rw [← Option.toList_map, hlast]
  exact List.mem_singleton_self ctx

theorem Inv.step (h : n.Inv) (event : Event) : (n.step event).Inv := by
  cases event with
  | add conditionId ctx =>
    refine ⟨fun id e he => ?_, fun id ctx' hmem hlive => ?_⟩
    · rw [MessagingNode.step, addSystemConfigListener, GoMap.lookup_insert_eq] at he
      split at he
      · cases he
        rfl
      · exact h.flags id e he
    · rw [MessagingNode.step, addSystemConfigListener, GoMap.lookup_insert_eq]
      rcases List.mem_cons.mp hmem with heq | hmem
      · cases heq
        simp
      · obtain ⟨hne, hlast⟩ := h.last_of_cancelOld hmem hlive
        rwa [if_neg hne]
  | remove conditionId =>
    refine ⟨fun id e he => ?_, fun id ctx' hmem hlive => ?_⟩
    · rw [MessagingNode.step, removeConfigListener, GoMap.lookup_erase_eq] at he
      exact h.flags id e (Option.ite_none_left_eq_some.mp he).2
    · obtain ⟨hne, hlast⟩ := h.last_of_cancelOld hmem hlive
      rwa [MessagingNode.step, removeConfigListener, GoMap.lookup_erase_eq, if_neg hne]
  | cancel ctx =>
    refine ⟨h.flags, fun id ctx' hmem hlive => h.last id ctx' hmem fun hold => hlive ?_⟩
    exact List.mem_cons_of_mem ctx hold
  | watcher i => exact ⟨h.flags, h.last⟩

theorem Inv.run (h : n.Inv) (events : List Event) : (n.run events).Inv := by
  induction events generalizing n with
  | nil => exact h
  | cons event events ih => exact ih (h.step event)

theorem Inv.isRunning_iff (h : n.Inv) (id : String) :
    n.isRunning id = true ↔ n.listeners.lookup id ≠ none := by
  cases he : n.listeners.lookup id with
  | none => simp [isRunning, he]
  | some e => simp [isRunning, he, h.flags id e he]

theorem Inv.truthful_iff (h : n.Inv) : n.Truthful ↔
    ∀ id e, n.listeners.lookup id = some e → e.ctx ∉ n.cancelled := by
  apply Iff.intro
  · intro ht id e he
    obtain ⟨e', he', hlive⟩ := (ht.running id).mp ((h.isRunning_iff id).mpr (by simp [he]))
    obtain rfl := Option.some.inj (he.symm.trans he')
    exact hlive
  · intro hlive
    have hrunning : ∀ id, n.isRunning id = true ↔ n.Live id := by
      intro id
      rw [h.isRunning_iff, Option.ne_none_iff_exists']
      exact exists_congr fun e => (and_iff_left_of_imp (hlive id e)).symm
    refine ⟨hrunning, fun id hdead clMap clusterId => ?_⟩
    have hstopped : n.isRunning id = false := by
      rwa [← Bool.not_eq_true, hrunning]
    rw [checkInternalClusterStatus, hstopped]
    split <;> rfl

end MessagingNode

open MessagingNode in
/-- At most one evaluator of a condition has a context that is not cancelled.  The flags are right
    exactly while no context is cancelled but by replacing or removing the evaluator. -/
theorem messagingNode_truthful_iff (events : List MessagingNode.Event) :
    let n := run {} events
    (∀ id ctx ctx', (id, ctx) ∈ n.registered → (id, ctx') ∈ n.registered →
      ctx ∉ n.cancelled → ctx' ∉ n.cancelled → ctx = ctx') ∧
    ((n.CaughtUp → n.Truthful) ↔
      (n.CaughtUp → ∀ id e, n.listeners.lookup id = some e → e.ctx ∉ n.cancelled)) := by
  have hinv : (run {} events).Inv := Inv.run ⟨by simp, by simp⟩ events
  refine ⟨fun id ctx ctx' hmem hmem' hlive hlive' => ?_, imp_congr_right fun _ => hinv.truthful_iff⟩
  exact Option.some.inj ((hinv.last id ctx hmem hlive).symm.trans (hinv.last id ctx' hmem' hlive'))

open MessagingNode in
/-- The context of an evaluator is cancelled and its watcher catches up: it is still running. -/
theorem messagingNode_reports_stopped :
    let n := run {} [.add "a" 0, .cancel 0, .watcher 0]
    n.watchers = [⟨0, false⟩] ∧ 0 ∈ n.cancelled ∧ n.isRunning "a" = true ∧
      (n.checkInternalClusterStatus "a" ∅ upstreamClusterId).state = .ok := by
  decide

end Opni.Alerting
