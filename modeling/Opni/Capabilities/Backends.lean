/-
  Opni.Capabilities.Backends

  The capabilities of a cluster, and what the metrics, logging and topology
  backends do to them (`pkg/storage/mutators.go`;
  `plugins/metrics/pkg/backend/metrics.go`,
  `plugins/logging/pkg/backend/install.go` and `uninstall.go`,
  `plugins/topology/pkg/backend/topology.go`).
-/

import Opni.Lib.GoData
import Opni.Storage.Objects
import Opni.Task.Controller

namespace Opni.Capabilities

open Lib Opni.Task

/-! ## Capabilities of a cluster -/

abbrev Timestamp := Int

structure ClusterCapability where
  name : String
  deletionTimestamp : Option Timestamp := none
deriving DecidableEq

def ClusterCapability.equal (c other : ClusterCapability) : Bool :=
  c.name ≠ "" && other.name ≠ "" && c.name = other.name

/-- `Cluster`, with the capabilities of its metadata. -/
abbrev Cluster := Storage.Cluster (List ClusterCapability)

abbrev Cluster.capabilities (c : Cluster) : List ClusterCapability := c.data

def Cluster.capability (c : Cluster) (name : String) : Option ClusterCapability :=
  c.capabilities.find? (·.name = name)

def newAddCapabilityMutator (capability : ClusterCapability) (c : Cluster) : Cluster :=
  if c.capabilities.any (·.equal capability) then c
  else { c with data := c.capabilities ++ [capability] }

def newRemoveCapabilityMutator (capability : ClusterCapability) (c : Cluster) : Cluster :=
  { c with data := c.capabilities.filter fun cap => !cap.equal capability }

/-- What `OnTaskCompleted` does to the cluster; its loop has no break. -/
def resetDeletionTimestamp (name : String) (c : Cluster) : Cluster :=
  { c with
    data := c.capabilities.map fun cap =>
      if cap.name = name then { cap with deletionTimestamp := none } else cap }

section Lookup

variable (c : Cluster) (name other : String) (now : Timestamp)

theorem capability_remove (hname : name ≠ "") :
    (newRemoveCapabilityMutator ⟨name, none⟩ c).capability name = none := by
  unfold newRemoveCapabilityMutator Cluster.capability
  rw [List.find?_eq_none]
  intro cap hmem heq
  have heq : cap.name = name := of_decide_eq_true heq
  have hkept := (List.mem_filter.mp hmem).2
  simp [ClusterCapability.equal, heq, hname] at hkept

theorem capability_remove_of_ne (h : other ≠ name) :
    (newRemoveCapabilityMutator ⟨name, none⟩ c).capability other = c.capability other := by
  unfold newRemoveCapabilityMutator Cluster.capability
  rw [List.find?_filter]
  congr 1
  funext cap
  by_cases heq : cap.name = other
  · simp [ClusterCapability.equal, heq, h]
  · simp [heq]

theorem capability_resetDeletionTimestamp :
    (resetDeletionTimestamp name c).capability other = (c.capability other).map fun cap =>
      if other = name then { cap with deletionTimestamp := none } else cap := by
  unfold resetDeletionTimestamp Cluster.capability
  induction c.capabilities with
  | nil => rfl
  | cons cap caps ih =>
    -- the name of an entry stays
    have hhead : (if cap.name = name then { cap with deletionTimestamp := none } else cap).name =
        cap.name := by split <;> rfl
    rw [List.map_cons, List.find?_cons, List.find?_cons, hhead, ih]
    by_cases hother : cap.name = other
    · simp [hother]
    · simp [hother]

end Lookup

/-! ## Backends -/

/-- The backends of the gateway that have uninstall tasks. -/
inductive Backend where
  | metrics | logging | topology
deriving DecidableEq

/-- `DefaultUninstallOptions`. -/
structure UninstallOptions where
  deleteStoredData : Bool := false
  initialDelay : Int := 0
deriving DecidableEq

structure TimestampedMetadata where
  options : UninstallOptions
  deletionTimestamp : Timestamp
deriving DecidableEq

/-- How far a call of `Uninstall` has come. -/
inductive UninstallCall where
  /-- About to look the cluster up, with the options of the request or the error that they
      do not load with. -/
  | reading (options : Except String UninstallOptions)
  /-- About to look the task up. -/
  | checking (options : UninstallOptions)
  /-- About to set the deletion timestamp. -/
  | updating (options : UninstallOptions)
  /-- About to launch the task. -/
  | launching (md : TimestampedMetadata)
  /-- `LaunchTask` has been called. -/
  | launched
  | refused (err : Status)

namespace Backend

/-- `wellknown.CapabilityMetrics`, `CapabilityLogs` and `CapabilityTopology`. -/
def capability : Backend → String
  | metrics => "metrics"
  | logging => "logs"
  | topology => "topology"

theorem capability_ne_empty (b : Backend) : b.capability ≠ "" := by
  cases b <;> decide

theorem capability_injective : Function.Injective capability := by
  intro b b' h
  cases b <;> cases b' <;> first | rfl | exact absurd h (by decide)

def stamped (b : Backend) (c : Cluster) : Bool :=
  (c.capability b.capability).any (·.deletionTimestamp.isSome)

section Stamped

variable {b b' : Backend} (c : Cluster) (now : Timestamp)

theorem stamped_remove : b.stamped (newRemoveCapabilityMutator ⟨b.capability, none⟩ c) = false := by
  rw [stamped, capability_remove c _ b.capability_ne_empty]
  rfl

theorem stamped_remove_of_ne (h : b ≠ b') :
    b.stamped (newRemoveCapabilityMutator ⟨b'.capability, none⟩ c) = b.stamped c := by
  rw [stamped, capability_remove_of_ne c _ _ (capability_injective.ne h), stamped]

theorem stamped_resetDeletionTimestamp :
    b.stamped (resetDeletionTimestamp b.capability c) = false := by
  rw [stamped, capability_resetDeletionTimestamp]
  cases c.capability b.capability with
  | none => rfl
  | some cap => simp

theorem stamped_resetDeletionTimestamp_of_ne (h : b ≠ b') :
    b.stamped (resetDeletionTimestamp b'.capability c) = b.stamped c := by
  rw [stamped, capability_resetDeletionTimestamp, stamped]
  simp only [if_neg (capability_injective.ne h), Option.map_id']

end Stamped

/-! ### Install -/

end Backend

end Opni.Capabilities
