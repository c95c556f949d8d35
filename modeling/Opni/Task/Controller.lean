/-
  Opni.Task.Controller

  `LaunchTask` and `CancelTask` of the task controller, and the runs that they
  start (`pkg/task/controller.go`, `task.go`), for one task id.
-/

import Opni.Lib.Interleave

namespace Opni.Task

open Lib.Interleave

/-! ## Status -/

inductive TaskState where
  | unknown | pending | running | completed | failed | canceled
deriving DecidableEq

def TaskState.text : TaskState → String
  | .unknown => "Unknown"
  | .pending => "Pending"
  | .running => "Running"
  | .completed => "Completed"
  | .failed => "Failed"
  | .canceled => "Canceled"

inductive TaskTrigger where
  | start | finish | error | cancel
deriving DecidableEq

structure Progress where
  current : Nat
  total : Nat
deriving DecidableEq

structure LogEntry where
  msg : String
  level : Int
deriving DecidableEq

/-- `TaskStatus`, with the states of its transitions. -/
structure TaskStatus where
  state : TaskState
  progress : Option Progress := none
  metadata : String := ""
  logs : List LogEntry := []
  transitions : List TaskState := []
deriving DecidableEq

def logTransition (state : TaskState) (status : TaskStatus) : TaskStatus :=
  { status with transitions := status.transitions ++ [state] }

variable (mdJson : String)

/-- `mutator`: what it stores. -/
def mutator (state : TaskState) : Option TaskStatus → TaskStatus
  | none => { state := state, metadata := mdJson }
  | some ts => { ts with state := state }

def infoLevel : Int := 0

/-- The status of a task that is launched again, given the state that was read
    before. -/
def relaunch (state : TaskState) (prev : TaskStatus) : TaskStatus :=
  let prev := { prev with state := .pending }
  match state with
  | .running => prev
  | .failed =>
    { prev with
      progress := none
      metadata := mdJson
      logs := prev.logs ++ [⟨"internal: restarting task (previous state: " ++ state.text ++ ")",
        infoLevel⟩] }
  | .canceled => { prev with metadata := mdJson, logs := [], transitions := [] }
  | .unknown | .pending | .completed =>
    { prev with progress := none, metadata := mdJson, logs := [], transitions := [] }

def permit : TaskState → TaskTrigger → Option TaskState
  | .pending, .start => some .running
  | .pending, .cancel => some .canceled
  | .running, .finish => some .completed
  | .running, .cancel => some .canceled
  | .running, .error => some .failed
  | _, _ => none

/-! ## What is shared -/

/-- `NewTaskOptions`, with the metadata as json, and the callbacks that are set. -/
structure NewTaskOptions where
  mdJson : String := ""
  statusCallback : Bool := false
  stateCallback : Bool := false

/-- How far a call of `LaunchTask` has come. -/
inductive LaunchState where
  /-- There is none. -/
  | idle
  /-- About to read the state. -/
  | reading
  /-- About to set the state to Pending, having read a state or none. -/
  | writing (state : Option TaskState)
  /-- About to log the transition to Pending and to start the run. -/
  | logging

/-- The stored status, the contexts, and the controller.  The runs are numbered in
    the order of their launches. -/
structure Shared where
  status : Option TaskStatus := none
  /-- `c.tasks`: the run whose context `CancelTask` or the next launch cancels. -/
  tasks : Option Nat := none
  /-- The contexts that are canceled. -/
  canceled : Nat → Bool := fun _ => false
  launched : Nat := 0
  started : Nat := 0
  launch : LaunchState := .idle

def Shared.state (s : Shared) : Option TaskState := s.status.map (·.state)

/-- The context in `c.tasks` is canceled. -/
def Shared.cancelRegistered (s : Shared) : Nat → Bool :=
  match s.tasks with
  | some i => Function.update s.canceled i true
  | none => s.canceled

/-! ## Runs -/

inductive RunnerReturn where
  | nil
  /-- The error that a context has after it is canceled. -/
  | contextCanceled
  | other (err : String)
deriving DecidableEq

inductive Outcome where
  | success | canceled | failed
deriving DecidableEq

/-- The check `taskCtx.Err() != nil && taskCtx.Err() == err`. -/
def outcome (ctxCanceled : Bool) : RunnerReturn → Outcome
  | .nil => .success
  | .contextCanceled => if ctxCanceled then .canceled else .failed
  | .other _ => .failed

/-- The trigger that is fired after `OnTaskPending`. -/
def pendingTrigger : Outcome → TaskTrigger
  | .success => .start
  | .canceled => .cancel
  | .failed => .error

/-- The trigger that is fired after `OnTaskRunning`. -/
def runningTrigger : Outcome → TaskTrigger
  | .success => .finish
  | .canceled => .cancel
  | .failed => .error

inductive Pc where
  /-- About to read the state, to activate its handler. -/
  | activating
  /-- In `OnTaskPending`. -/
  | pending
  /-- About to read the state for a trigger. -/
  | firing (trigger : TaskTrigger)
  /-- About to log the transition. -/
  | transitioning (destination : TaskState)
  /-- About to set the state. -/
  | setting (destination : TaskState)
  /-- In `OnTaskRunning`. -/
  | running
  /-- In `OnTaskCompleted`. -/
  | completing (state : TaskState)
  /-- About to send the callbacks. -/
  | callbacks
  | finished
deriving DecidableEq

structure History where
  pendingOutcome : Option Outcome := none
  runningOutcome : Option Outcome := none
  /-- The states that it has set. -/
  entered : List TaskState := []
  /-- The states that `OnTaskCompleted` has been called with. -/
  completed : List TaskState := []
  /-- What the status callback has been offered. -/
  statusOffers : List TaskStatus := []
  /-- What the state callback has been offered. -/
  stateOffers : List TaskState := []
deriving DecidableEq

structure RunState where
  pc : Pc := .activating
  history : History := {}
deriving DecidableEq

def entry : TaskState → Pc
  | .running => .running
  | .completed => .completing .completed
  | .failed => .completing .failed
  | .canceled => .completing .canceled
  | .unknown | .pending => .finished

/-- `maybeSendCallbacks`, with the status that it has read. -/
def History.offer (h : History) (opts : NewTaskOptions) (status : TaskStatus) : History :=
  { h with
    statusOffers := h.statusOffers ++ if opts.statusCallback then [status] else []
    stateOffers := h.stateOffers ++ if opts.stateCallback then [status.state] else [] }

inductive TaskChoice where
  /-- `LaunchTask` is called. -/
  | launch
  /-- `CancelTask` is called. -/
  | cancel
  /-- The process goes on; a function of the runner that it is in returns. -/
  | proceeds (result : RunnerReturn)
  /-- The runner calls `SetProgress`. -/
  | setProgress (progress : Option Progress)
  /-- The runner calls `AddLogEntry`. -/
  | addLogEntry (level : Int) (msg : String)
deriving DecidableEq

section Steps

variable (opts : Nat → NewTaskOptions)

/-- A step of `LaunchTask` or `CancelTask`. -/
def controllerStep (x : TaskChoice) (s : Shared) : Shared :=
  match s.launch, x with
  | .idle, .launch =>
    { s with
      canceled := s.cancelRegistered
      tasks := some s.launched
      launched := s.launched + 1
      launch := .reading }
  | .idle, .cancel => { s with canceled := s.cancelRegistered, tasks := none }
  | .reading, .proceeds _ => { s with launch := .writing s.state }
  | .writing none, .proceeds _ =>
    { s with
      status := some (mutator (opts (s.launched - 1)).mdJson .pending s.status)
      launch := .logging }
  | .writing (some state), .proceeds _ =>
    match s.status with
    -- the error is returned
    | none => { s with launch := .idle }
    | some prev =>
      { s with
        status := some (relaunch (opts (s.launched - 1)).mdJson state prev)
        launch := .logging }
  | .logging, .proceeds _ =>
    { s with
      status := s.status.map (logTransition .pending)
      started := s.launched
      launch := .idle }
  | _, _ => s

/-- What a runner's call does to the status, if it is one. -/
def runnerCall : TaskChoice → TaskStatus → TaskStatus
  | .setProgress progress, status => { status with progress := progress }
  | .addLogEntry level msg, status => { status with logs := status.logs ++ [⟨msg, level⟩] }
  | _, status => status

def runStep (i : Nat) (x : TaskChoice) (s : Shared) (p : RunState) : Shared × RunState :=
  let h := p.history
  if s.started ≤ i then (s, p)
  else match p.pc, x with
    | .activating, .proceeds _ =>
      -- only the Pending state has a handler
      if s.state = some .pending then (s, ⟨.pending, h⟩) else (s, ⟨.finished, h⟩)
    | .pending, .proceeds result =>
      let o := outcome (s.canceled i) result
      (s, ⟨.firing (pendingTrigger o), { h with pendingOutcome := some o }⟩)
    | .firing trigger, .proceeds _ =>
      match s.state.bind (permit · trigger) with
      | some destination => (s, ⟨.transitioning destination, h⟩)
      -- the error is returned to the caller of `Activate`, which ignores it
      | none => (s, ⟨.finished, h⟩)
    | .transitioning destination, .proceeds _ =>
      ({ s with status := s.status.map (logTransition destination) }, ⟨.setting destination, h⟩)
    | .setting destination, .proceeds _ =>
      ({ s with status := some (mutator (opts i).mdJson destination s.status) },
        ⟨entry destination, { h with entered := h.entered ++ [destination] }⟩)
    | .running, .proceeds result =>
      let o := outcome (s.canceled i) result
      (s, ⟨.firing (runningTrigger o), { h with runningOutcome := some o }⟩)
    | .completing state, .proceeds _ =>
      (s, ⟨.callbacks, { h with completed := h.completed ++ [state] }⟩)
    | .callbacks, .proceeds _ =>
      match s.status with
      | none => (s, p)
      | some status => (s, ⟨.finished, h.offer (opts i) status⟩)
    -- while a function of the runner is called
    | .pending, x | .running, x | .completing _, x =>
      ({ s with status := s.status.map (runnerCall x) }, p)
    | _, _ => (s, p)

/-- The controller is the process `none`, and run `i` is `some i`. -/
def taskStep : Option Nat → TaskChoice → Shared → RunState → Shared × RunState
  | none, x, s, p => (controllerStep opts x s, p)
  | some i, x, s, p => runStep opts i x s p

abbrev TaskConfig := Config (Option Nat) Shared RunState

variable (stored : Option TaskStatus)

/-- Before the first launch, with what is stored for the id. -/
def initial : TaskConfig := ⟨{ status := stored }, fun _ => {}⟩

/-- The controller and the runs that it starts, after some steps. -/
def runTasks (events : List (Option Nat × TaskChoice)) : TaskConfig :=
  run (taskStep opts) (initial stored) events

end Steps

/-- The next step of a process; a function of the runner returns nil. -/
def proceed (i : Option Nat) : Option Nat × TaskChoice := (i, .proceeds .nil)

/-- `LaunchTask`, from its call to its return. -/
def launchTask : List (Option Nat × TaskChoice) :=
  [(none, .launch), proceed none, proceed none, proceed none]

end Opni.Task
