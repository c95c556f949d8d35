/-
  Opni.Capabilities.Uninstall

  The backends of a gateway with their uninstall tasks, for one cluster
  (`plugins/*/pkg/backend`, `pkg/task/controller.go`; the task runners are in
  `plugins/metrics/pkg/cortex/uninstall.go`,
  `plugins/logging/pkg/gateway/uninstall.go` and
  `plugins/topology/pkg/topology/gateway/uninstall.go`).
-/

import Opni.Capabilities.Backends
import Opni.Task.Runs

namespace Opni.Capabilities

open Lib Opni.Task Lib.Interleave Function

/-! ## The process of a backend -/

/-- `NewController` starts the process. -/
inductive Phase where
  | down
  /-- `NewController` is resuming the task. -/
  | starting
  | up
deriving DecidableEq

/-- The process of a backend, and the stored status of its uninstall task. -/
structure BackendState where
  phase : Phase := .down
  task : TaskConfig := initial none
  /-- The options of the launches. -/
  opts : Nat → NewTaskOptions := fun _ => {}
  /-- The calls of `Uninstall`. -/
  calls : Nat → Option UninstallCall := fun _ => none

namespace BackendState

variable (p : BackendState)

def taskState : TaskState := p.task.shared.state.getD .unknown

def taskStep (p : BackendState) (e : Option Nat × TaskChoice) : BackendState :=
  { p with task := step (Opni.Task.taskStep p.opts) p.task e }

/-- `LaunchTask` is called. -/
def launchTask (mdJson : String) : BackendState :=
  { p with opts := update p.opts p.task.shared.launched { mdJson := mdJson } }.taskStep
    (none, .launch)

def setCall (i : Nat) (call : UninstallCall) : BackendState :=
  { p with calls := update p.calls i (some call) }

end BackendState

/-- What the task runner does to the cluster when one of its functions returns: `OnTaskRunning`
    has removed the capability if it returns nil, and `OnTaskCompleted` resets the deletion
    timestamp, if the cluster can be updated, unless the task has completed. -/
def Backend.runnerReturns (b : Backend) (pc : Pc) (x : TaskChoice) (updated : Bool) (c : Cluster) :
    Cluster :=
  match pc, x with
  | .running, .proceeds .nil => newRemoveCapabilityMutator ⟨b.capability, none⟩ c
  | .completing .completed, _ => c
  | .completing _, .proceeds _ =>
    if updated then resetDeletionTimestamp b.capability c else c
  | _, _ => c

section Steps

variable (marshal : TimestampedMetadata → String) (b : Backend)

end Steps

/-! ## What decides whether a call is refused -/

namespace BackendState

variable (p : BackendState) (x : TaskChoice) (i : Nat) (call : UninstallCall) (mdJson : String)

theorem taskStep_none : p.taskStep (none, x) =
    { p with task := ⟨controllerStep p.opts x p.task.shared, p.task.procs⟩ } := by
  simp only [taskStep, step, Opni.Task.taskStep, update_eq_self]

theorem calls_setCall : (p.setCall i call).calls i = some call := update_self ..

end BackendState

section Call

variable (marshal : TimestampedMetadata → String) (b : Backend) (i : Nat) (now : Timestamp)
  {options : UninstallOptions} {c : Cluster} {p : BackendState} {md : TimestampedMetadata}
  {err : Status} {launched : Nat}

end Call

end Opni.Capabilities
