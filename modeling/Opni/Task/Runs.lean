/-
  Opni.Task.Runs

  What holds in the runs of a task that is launched any number of times.

  As long as no superseded run sets the state, the stored state follows the
  run that was launched last (`Tracks`, `TaskInv`).  Whether a superseded run
  sets the state is a matter of the schedule; `Undisturbed` is the condition
  on a step.
-/

import Opni.Task.Controller

namespace Opni.Task

open Lib.Interleave Function

/-! ## What a step does -/

/-- The functions of the runner are called in these places. -/
def Pc.inRunner : Pc → Bool
  | .pending | .running | .completing _ => true
  | _ => false

/-- What a step of run `i` makes of the status and of the run. -/
inductive RunStep (opts : Nat → NewTaskOptions) (i : Nat) (x : TaskChoice) (s : Shared) :
    RunState → Option TaskStatus → RunState → Prop
  | waits {p} : (∀ r, x = .proceeds r → i < s.started → p.pc = .finished ∨
      p.pc = .callbacks ∧ s.status = none) → RunStep opts i x s p s.status p
  | calls {p} {f : TaskStatus → TaskStatus} : (∀ r, x ≠ .proceeds r) → p.pc.inRunner = true →
      (∀ status, (f status).state = status.state) → RunStep opts i x s p (s.status.map f) p
  | activates {h} : s.state = some .pending →
      RunStep opts i x s ⟨.activating, h⟩ s.status ⟨.pending, h⟩
  | skips {h} : s.state ≠ some .pending →
      RunStep opts i x s ⟨.activating, h⟩ s.status ⟨.finished, h⟩
  | pendingReturns {h} (o : Outcome) : RunStep opts i x s ⟨.pending, h⟩ s.status
      ⟨.firing (pendingTrigger o), { h with pendingOutcome := some o }⟩
  | fires {h trigger state destination} (r : RunnerReturn) : x = .proceeds r →
      s.state = some state → permit state trigger = some destination →
      RunStep opts i x s ⟨.firing trigger, h⟩ s.status ⟨.transitioning destination, h⟩
  | unhandled {h trigger} : s.state.bind (permit · trigger) = none →
      RunStep opts i x s ⟨.firing trigger, h⟩ s.status ⟨.finished, h⟩
  | logs {h destination} : RunStep opts i x s ⟨.transitioning destination, h⟩
      (s.status.map (logTransition destination)) ⟨.setting destination, h⟩
  | sets {h destination} : RunStep opts i x s ⟨.setting destination, h⟩
      (some (mutator (opts i).mdJson destination s.status))
      ⟨entry destination, { h with entered := h.entered ++ [destination] }⟩
  | runningReturns {h} (o : Outcome) : RunStep opts i x s ⟨.running, h⟩ s.status
      ⟨.firing (runningTrigger o), { h with runningOutcome := some o }⟩
  | completes {h state} : RunStep opts i x s ⟨.completing state, h⟩ s.status
      ⟨.callbacks, { h with completed := h.completed ++ [state] }⟩
  | sends {h status} : s.status = some status → RunStep opts i x s ⟨.callbacks, h⟩ s.status
      ⟨.finished, h.offer (opts i) status⟩

theorem state_runnerCall (x : TaskChoice) (status : TaskStatus) :
    (runnerCall x status).state = status.state := by
  cases x <;> rfl

variable (opts : Nat → NewTaskOptions)

theorem runStep_cases (i : Nat) (x : TaskChoice) (s : Shared)
    (p : RunState) : ∃ status p', runStep opts i x s p = ({ s with status := status }, p') ∧
      RunStep opts i x s p status p' := by
  obtain ⟨pc, h⟩ := p
  unfold runStep
  split
  next => exact ⟨_, _, rfl, .waits fun r _ hi => absurd hi (by omega)⟩
  next =>
    cases x with
    | proceeds r =>
      cases pc with
      | finished => exact ⟨_, _, rfl, .waits fun _ _ _ => .inl rfl⟩
      | activating =>
        simp only
        split
        next hstate => exact ⟨_, _, rfl, .activates hstate⟩
        next hstate => exact ⟨_, _, rfl, .skips hstate⟩
      | pending => exact ⟨_, _, rfl, .pendingReturns _⟩
      | running => exact ⟨_, _, rfl, .runningReturns _⟩
      | completing state => exact ⟨_, _, rfl, .completes⟩
      | firing trigger =>
        simp only
        cases hpermit : s.state.bind (permit · trigger) with
        | some destination =>
          obtain ⟨state, hstate, hpermit⟩ := Option.bind_eq_some_iff.mp hpermit
          exact ⟨_, _, rfl, .fires r rfl hstate hpermit⟩
        | none => exact ⟨_, _, rfl, .unhandled hpermit⟩
      | transitioning destination => exact ⟨_, _, rfl, .logs⟩
      | setting destination => exact ⟨_, _, rfl, .sets⟩
      | callbacks =>
        cases hstatus : s.status with
        | none => exact ⟨s.status, _, rfl, .waits fun _ _ _ => .inr ⟨rfl, hstatus⟩⟩
        | some status => exact ⟨s.status, _, rfl, .sends hstatus⟩
    | launch | cancel | setProgress _ | addLogEntry _ _ =>
      cases pc with
      | pending | running | completing _ =>
        exact ⟨_, _, rfl, .calls (by simp) rfl (state_runnerCall _)⟩
      | _ => exact ⟨_, _, rfl, .waits (by simp)⟩

variable (c : TaskConfig) {i : Nat} {trigger : TaskTrigger}

theorem step_run_cases (i : Nat) (x : TaskChoice) :
    ∃ status p', step (taskStep opts) c (some i, x) =
        ⟨{ c.shared with status := status }, update c.procs (some i) p'⟩ ∧
      RunStep opts i x c.shared (c.procs (some i)) status p' := by
  obtain ⟨status, p', heq, hstep⟩ := runStep_cases opts i x c.shared (c.procs (some i))
  refine ⟨status, p', ?_, hstep⟩
  simp only [step, taskStep, heq]

theorem step_not_started {opts : Nat → NewTaskOptions} {c : TaskConfig} (h : c.shared.started ≤ i)
    (x : TaskChoice) : step (taskStep opts) c (some i, x) = c := by
  simp only [step, taskStep, runStep, if_pos h, update_eq_self]

inductive ControllerStep (x : TaskChoice) (s : Shared) : Shared → Prop
  | waits : ControllerStep x s s
  | cancels : s.launch = .idle →
      ControllerStep x s { s with canceled := s.cancelRegistered, tasks := none }
  | launches : s.launch = .idle → ControllerStep x s
      { s with
        canceled := s.cancelRegistered
        tasks := some s.launched
        launched := s.launched + 1
        launch := .reading }
  | reads : s.launch = .reading → ControllerStep x s { s with launch := .writing s.state }
  | writes {state status} (r : RunnerReturn) : x = .proceeds r → s.launch = .writing state →
      status.state = .pending →
      ControllerStep x s { s with status := some status, launch := .logging }
  | fails {state} : s.launch = .writing (some state) → s.status = none →
      ControllerStep x s { s with launch := .idle }
  | starts : s.launch = .logging → ControllerStep x s
      { s with
        status := s.status.map (logTransition .pending)
        started := s.launched
        launch := .idle }

theorem state_logTransition (state : TaskState) (status : TaskStatus) :
    (logTransition state status).state = status.state := rfl

variable (mdJson : String) (state : TaskState)

theorem state_mutator (status : Option TaskStatus) :
    (mutator mdJson state status).state = state := by
  cases status <;> rfl

theorem state_relaunch (prev : TaskStatus) : (relaunch mdJson state prev).state = .pending := by
  cases state <;> rfl

theorem controllerStep_cases (x : TaskChoice) (s : Shared) :
    ControllerStep x s (controllerStep opts x s) := by
  fun_cases controllerStep opts x s with
  | case1 hlaunch => exact .launches hlaunch
  | case2 hlaunch => exact .cancels hlaunch
  | case3 r hlaunch => exact .reads hlaunch
  | case4 r hlaunch => exact .writes r rfl hlaunch (state_mutator ..)
  | case5 state r hlaunch hstatus => exact .fails hlaunch hstatus
  | case6 state r hlaunch prev hstatus => exact .writes r rfl hlaunch (state_relaunch ..)
  | case7 r hlaunch => exact .starts hlaunch
  | case8 => exact .waits

/-! ## Following the run that was launched last -/

/-- The end state that the contract of the runner calls for. -/
def final : Outcome → TaskState
  | .success => .completed
  | .canceled => .canceled
  | .failed => .failed

/-- The end state of a run, when the functions of the runner have returned. -/
def History.due (h : History) : Option TaskState :=
  match h.pendingOutcome with
  | none => none
  | some .success => h.runningOutcome.map final
  | some o => some (final o)

/-- `OnTaskCompleted` has not been called, and no callback has been sent. -/
structure Silent (h : History) : Prop where
  completed : h.completed = []
  statusOffers : h.statusOffers = []
  stateOffers : h.stateOffers = []

structure Fresh (h : History) : Prop where
  pendingOutcome : h.pendingOutcome = none
  runningOutcome : h.runningOutcome = none
  entered : h.entered = []
  silent : Silent h

/-- `OnTaskPending` has returned nil, and the state has been set to Running. -/
structure EnteredRunning (h : History) : Prop where
  pendingOutcome : h.pendingOutcome = some .success
  runningOutcome : h.runningOutcome = none
  entered : h.entered = [.running]
  silent : Silent h

/-- A trigger that the run fires, and the state in which it does. -/
inductive Fires (h : History) : TaskState → TaskTrigger → Prop
  | pending {o} : h.pendingOutcome = some o → h.runningOutcome = none → h.entered = [] →
      Silent h → Fires h .pending (pendingTrigger o)
  | running {o} : h.pendingOutcome = some .success → h.runningOutcome = some o →
      h.entered = [.running] → Silent h → Fires h .running (runningTrigger o)

structure Ended (h : History) (state : TaskState) : Prop where
  outcome : h.pendingOutcome ≠ some .failed
  due : h.due = some state
  entered : h.entered = if h.pendingOutcome = some .success then [.running, state] else [state]

/-- The error of `OnTaskPending` is not handled: the task is left Pending. -/
structure Stuck (h : History) (state : TaskState) : Prop where
  state : state = .pending
  outcome : h.pendingOutcome = some .failed
  silent : Silent h

/-- The run has ended, and the callbacks have been sent. -/
structure Reported (opts : NewTaskOptions) (h : History) (state : TaskState) : Prop where
  ended : Ended h state
  completed : h.completed = [state]
  statusOffers : h.statusOffers.map (·.state) = if opts.statusCallback then [state] else []
  stateOffers : h.stateOffers = if opts.stateCallback then [state] else []

def Tracks (opts : NewTaskOptions) : RunState → TaskState → Prop
  | ⟨.activating, h⟩, state | ⟨.pending, h⟩, state => state = .pending ∧ Fresh h
  | ⟨.firing trigger, h⟩, state => Fires h state trigger
  | ⟨.transitioning destination, h⟩, state | ⟨.setting destination, h⟩, state =>
    ∃ trigger, Fires h state trigger ∧ permit state trigger = some destination
  | ⟨.running, h⟩, state => state = .running ∧ EnteredRunning h
  | ⟨.completing state', h⟩, state => state' = state ∧ Ended h state ∧ Silent h
  | ⟨.callbacks, h⟩, state =>
    Ended h state ∧ h.completed = [state] ∧ h.statusOffers = [] ∧ h.stateOffers = []
  | ⟨.finished, h⟩, state => Reported opts h state ∨ Stuck h state

/-- After a trigger that is permitted the run is in Running, or has set its end
    state. -/
theorem Fires.tracks {h : History} {state destination : TaskState} (hf : Fires h state trigger)
    (hpermit : permit state trigger = some destination) (opts : NewTaskOptions) :
    Tracks opts ⟨entry destination, { h with entered := h.entered ++ [destination] }⟩
      destination := by
  cases hf with
  | @pending o ho hrunning hentered hsilent =>
    cases o with
    | success =>
      cases hpermit
      exact ⟨rfl, ho, hrunning, by simp [hentered], ⟨hsilent.1, hsilent.2, hsilent.3⟩⟩
    | canceled =>
      cases hpermit
      refine ⟨rfl, ⟨?_, ?_, ?_⟩, ⟨hsilent.1, hsilent.2, hsilent.3⟩⟩
      · simp [ho]
      · simp [History.due, ho, final]
      · simp [ho, hentered]
    | failed => simp [pendingTrigger, permit] at hpermit
  | @running o hpending ho hentered hsilent =>
    cases o with
    | success | canceled | failed =>
      cases hpermit
      refine ⟨rfl, ⟨?_, ?_, ?_⟩, ⟨hsilent.1, hsilent.2, hsilent.3⟩⟩
      · simp [hpending]
      · simp [History.due, hpending, ho, final]
      · simp [hpending, hentered]

theorem Fires.stuck {h : History} {state : TaskState} (hf : Fires h state trigger)
    (hpermit : permit state trigger = none) : Stuck h state := by
  cases hf with
  | @pending o ho _ _ hsilent =>
    cases o with
    | failed => exact ⟨rfl, ho, hsilent⟩
    | success | canceled => simp [pendingTrigger, permit] at hpermit
  | @running o _ _ _ _ =>
    cases o with
    | success | canceled | failed => simp [runningTrigger, permit] at hpermit

theorem state_map {status : Option TaskStatus} {f : TaskStatus → TaskStatus}
    (hf : ∀ status, (f status).state = status.state) :
    (status.map f).map (·.state) = status.map (·.state) := by
  cases status with
  | none => rfl
  | some status => simp [hf]

/-- A step of the run that the state follows. -/
theorem Tracks.step {opts : Nat → NewTaskOptions} {x : TaskChoice} {s : Shared} {p p' : RunState}
    {state : TaskState} {status : Option TaskStatus} (h : Tracks (opts i) p state)
    (hstate : s.state = some state) (hstep : RunStep opts i x s p status p') :
    ∃ state', status.map (·.state) = some state' ∧ Tracks (opts i) p' state' := by
  cases hstep with
  | waits _ | activates _ => exact ⟨state, hstate, h⟩
  | calls _ _ hf => exact ⟨state, (state_map hf).trans hstate, h⟩
  | skips hskip =>
    -- the run finds the state that its launch has set
    rw [hstate, h.1] at hskip
    exact absurd rfl hskip
  | pendingReturns o =>
    obtain ⟨rfl, hfresh⟩ := h
    have hsilent := hfresh.silent
    exact ⟨_, hstate, .pending rfl hfresh.runningOutcome hfresh.entered
      ⟨hsilent.1, hsilent.2, hsilent.3⟩⟩
  | @fires _ trigger state' destination _ _ hstate' hpermit =>
    cases hstate.symm.trans hstate'
    exact ⟨_, hstate, trigger, h, hpermit⟩
  | unhandled hpermit =>
    -- only the error of `OnTaskPending` gets here
    rw [hstate] at hpermit
    exact ⟨_, hstate, .inr (Fires.stuck h hpermit)⟩
  | logs => exact ⟨_, (state_map (state_logTransition _)).trans hstate, h⟩
  | sets =>
    obtain ⟨trigger, hf, hpermit⟩ := h
    exact ⟨_, congrArg some (state_mutator ..), hf.tracks hpermit _⟩
  | runningReturns o =>
    obtain ⟨rfl, hentered⟩ := h
    have hsilent := hentered.silent
    exact ⟨_, hstate, .running hentered.pendingOutcome rfl hentered.entered
      ⟨hsilent.1, hsilent.2, hsilent.3⟩⟩
  | completes =>
    obtain ⟨rfl, hended, hsilent⟩ := h
    exact ⟨_, hstate, ⟨hended.1, hended.2, hended.3⟩, by simp [hsilent.completed],
      hsilent.statusOffers, hsilent.stateOffers⟩
  | @sends _ status hstatus =>
    obtain ⟨hended, hcompleted, hstatusOffers, hstateOffers⟩ := h
    have hsame : status.state = state := by
      rw [Shared.state, hstatus] at hstate
      exact Option.some.inj hstate
    refine ⟨_, hstate, .inl ⟨⟨hended.1, hended.2, hended.3⟩, hcompleted, ?_, ?_⟩⟩
    · cases hcallback : (opts i).statusCallback <;>
        simp [History.offer, hcallback, hstatusOffers, hsame]
    · cases hcallback : (opts i).stateCallback <;>
        simp [History.offer, hcallback, hstateOffers, hsame]

/-! ## Superseded runs -/

/-- The runs that have been set to Pending: those that are launched, except for one
    whose launch has not got so far. -/
def Shared.runs (s : Shared) : Nat :=
  match s.launch with
  | .idle | .logging => s.launched
  | .reading | .writing _ => s.launched - 1

def LaunchState.isWriting : LaunchState → Bool
  | .writing _ => true
  | _ => false

/-- The run has read the state for a transition, and has not yet set the new one. -/
def Pc.moving : Pc → Bool
  | .transitioning _ | .setting _ => true
  | _ => false

/-- The run is about to fire a trigger that the stored state permits. -/
def Shared.permits (s : Shared) : Pc → Bool
  | .firing trigger => (s.state.bind (permit · trigger)).isSome
  | _ => false

/-- A step that does not let a superseded run set the state: a superseded run does not
    fire a trigger that the state permits, and the state is not set to Pending while an
    earlier run is in a transition. -/
def Undisturbed : Option Nat × TaskChoice → Prop
  | (some i, .proceeds _) =>
    i + 1 < c.shared.runs → c.shared.permits (c.procs (some i)).pc = false
  | (none, .proceeds _) =>
    c.shared.launch.isWriting = true → ∀ i < c.shared.runs, (c.procs (some i)).pc.moving = false
  | _ => True

instance : ∀ e, Decidable (Undisturbed c e)
  | (some i, .proceeds _) => inferInstanceAs (Decidable
      (i + 1 < c.shared.runs → c.shared.permits (c.procs (some i)).pc = false))
  | (none, .proceeds _) => inferInstanceAs (Decidable (c.shared.launch.isWriting = true →
      ∀ i < c.shared.runs, (c.procs (some i)).pc.moving = false))
  | (some _, .launch) | (some _, .cancel) | (some _, .setProgress _) | (some _, .addLogEntry _ _)
  | (none, .launch) | (none, .cancel) | (none, .setProgress _) | (none, .addLogEntry _ _) =>
    isTrue trivial

structure TaskInv : Prop where
  launched : c.shared.launch ≠ .idle → 0 < c.shared.launched
  started : c.shared.started ≤ c.shared.runs
  logging : c.shared.launch = .logging → c.shared.started < c.shared.launched
  writing : ∀ state, c.shared.launch = .writing (some state) → c.shared.status.isSome
  /-- A run that is not started has done nothing. -/
  fresh : ∀ i, c.shared.started ≤ i → c.procs (some i) = {}
  /-- A superseded run is not in a transition. -/
  settled : ∀ i, i + 1 < c.shared.runs → (c.procs (some i)).pc.moving = false
  /-- The state follows the last run. -/
  tracks : ∀ i, i + 1 = c.shared.runs → ∃ state, c.shared.state = some state ∧
    Tracks (opts i) (c.procs (some i)) state

section

variable {opts : Nat → NewTaskOptions} {i : Nat} {x : TaskChoice} {s : Shared} {p p' : RunState}
  {status : Option TaskStatus} (h : RunStep opts i x s p status p')

include h

theorem RunStep.state_eq (hmoving : p.pc.moving = false) : status.map (·.state) = s.state := by
  cases h with
  | calls _ _ hf => exact state_map hf
  | logs | sets => simp [Pc.moving] at hmoving
  | _ => rfl

theorem RunStep.not_moving (hmoving : p.pc.moving = false)
    (hpermits : ∀ r, x = .proceeds r → s.permits p.pc = false) : p'.pc.moving = false := by
  cases h with
  | fires r hx hstate hpermit =>
    exact absurd (hpermits r hx) (by simp [Shared.permits, hstate, hpermit])
  | logs | sets => simp [Pc.moving] at hmoving
  | waits _ | calls _ _ _ => exact hmoving
  | _ => rfl

theorem RunStep.isSome (hsome : s.status.isSome) : status.isSome := by
  cases h with
  | calls _ _ _ | logs => rwa [Option.isSome_map]
  | sets => rfl
  | _ => exact hsome

end

theorem taskInv_initial (stored : Option TaskStatus) : TaskInv opts (initial stored) where
  launched := fun h => absurd rfl h
  started := le_rfl
  logging := fun h => absurd h (by simp [initial])
  writing := fun _ h => absurd h (by simp [initial])
  fresh := fun _ _ => rfl
  settled := fun _ h => absurd h (by simp [Shared.runs, initial])
  tracks := fun _ h => absurd h (by simp [Shared.runs, initial])

section Step

variable {opts : Nat → NewTaskOptions} {c : TaskConfig}

theorem TaskInv.keep (h : TaskInv opts c) {s' : Shared} (hstate : s'.state = c.shared.state)
    (hstarted : s'.started = c.shared.started) (hruns : s'.runs = c.shared.runs)
    (hlaunched : s'.launch ≠ .idle → 0 < s'.launched) (hlogging : s'.launch ≠ .logging)
    (hwriting : ∀ state, s'.launch = .writing (some state) → s'.status.isSome) :
    TaskInv opts ⟨s', c.procs⟩ where
  launched := hlaunched
  started := by
    rw [hstarted, hruns]
    exact h.started
  logging := fun hl => absurd hl hlogging
  writing := hwriting
  fresh := fun i hi => h.fresh i (hstarted ▸ hi)
  settled := fun i hi => h.settled i (hruns ▸ hi)
  tracks := fun i hi => hstate ▸ h.tracks i (hruns ▸ hi)

/-- A step of the controller. -/
theorem TaskInv.controller (h : TaskInv opts c) (x : TaskChoice) (hok : Undisturbed c (none, x)) :
    TaskInv opts ⟨controllerStep opts x c.shared, c.procs⟩ := by
  have hstep := controllerStep_cases opts x c.shared
  generalize controllerStep opts x c.shared = s' at hstep ⊢
  cases hstep with
  | waits => exact h
  | cancels hidle => exact h.keep rfl rfl rfl h.launched (by simp [hidle]) h.writing
  | launches hidle =>
    have hruns : c.shared.runs = c.shared.launched := by rw [Shared.runs, hidle]
    exact h.keep rfl rfl hruns.symm (fun _ => Nat.succ_pos _) (by simp) (by simp)
  | reads hreading =>
    have hruns : c.shared.runs = c.shared.launched - 1 := by rw [Shared.runs, hreading]
    refine h.keep rfl rfl hruns.symm (fun _ => h.launched (by simp [hreading])) (by simp) ?_
    intro state hstate
    have hsome : c.shared.state = some state := LaunchState.writing.inj hstate
    rw [Shared.state, Option.map_eq_some_iff] at hsome
    obtain ⟨status, hstatus, -⟩ := hsome
    exact Option.isSome_iff_exists.mpr ⟨status, hstatus⟩
  | writes r hx hwriting hpending =>
    have hpos : 0 < c.shared.launched := h.launched (by simp [hwriting])
    have hruns : c.shared.runs = c.shared.launched - 1 := by rw [Shared.runs, hwriting]
    have hstarted := h.started
    subst hx
    refine ⟨fun _ => hpos, ?_, fun _ => ?_, by simp, h.fresh, ?_, ?_⟩
    · show c.shared.started ≤ c.shared.launched
      omega
    · show c.shared.started < c.shared.launched
      omega
    · intro i (hi : i + 1 < c.shared.launched)
      exact hok (by simp [hwriting, LaunchState.isWriting]) i (by omega)
    · -- the run that is launched starts from Pending
      intro i (hi : i + 1 = c.shared.launched)
      refine ⟨.pending, congrArg some hpending, ?_⟩
      rw [h.fresh i (by omega)]
      exact ⟨rfl, rfl, rfl, rfl, rfl, rfl, rfl⟩
  | fails hwriting hnone =>
    -- the status was there when it was read, and is never removed
    have hsome := h.writing _ hwriting
    rw [hnone] at hsome
    cases hsome
  | starts hlogging =>
    have hruns : c.shared.runs = c.shared.launched := by rw [Shared.runs, hlogging]
    have hstarted := h.logging hlogging
    refine ⟨by simp, le_rfl, by simp, by simp, ?_, ?_, ?_⟩
    · intro i (hi : c.shared.launched ≤ i)
      exact h.fresh i (by omega)
    · intro i (hi : i + 1 < c.shared.launched)
      exact h.settled i (by omega)
    · intro i (hi : i + 1 = c.shared.launched)
      obtain ⟨state, hstate, htracks⟩ := h.tracks i (by omega)
      exact ⟨state, (state_map (state_logTransition _)).trans hstate, htracks⟩

/-- A step of run `i`. -/
theorem TaskInv.run (h : TaskInv opts c) {x : TaskChoice} (hok : Undisturbed c (some i, x)) :
    TaskInv opts (step (taskStep opts) c (some i, x)) := by
  by_cases hi : c.shared.started ≤ i
  · rw [step_not_started hi]
    exact h
  obtain ⟨status, p', hnext, hstep⟩ := step_run_cases opts c i x
  have hstarted := h.started
  rw [hnext]
  refine ⟨h.launched, h.started, h.logging, ?_, ?_, ?_, ?_⟩
  · intro state hwriting
    exact hstep.isSome (h.writing state hwriting)
  · intro j (hj : c.shared.started ≤ j)
    have hne : some j ≠ some i := fun heq => hi (Option.some.inj heq ▸ hj)
    exact (update_of_ne hne ..).trans (h.fresh j hj)
  · intro j (hj : j + 1 < c.shared.runs)
    simp only [update_apply, Option.some.injEq]
    split
    next hji =>
      subst hji
      apply hstep.not_moving (h.settled j hj)
      rintro r rfl
      exact hok hj
    · exact h.settled j hj
  · intro j (hj : j + 1 = c.shared.runs)
    obtain ⟨state, hstate, htracks⟩ := h.tracks j hj
    simp only [update_apply, Option.some.injEq]
    split
    next hji =>
      subst hji
      exact htracks.step hstate hstep
    · -- another run that is started is superseded
      exact ⟨state, (hstep.state_eq (h.settled i (by omega))).trans hstate, htracks⟩

theorem taskInv_runTasks {stored : Option TaskStatus} {events : List (Option Nat × TaskChoice)}
    (h : Throughout (taskStep opts) Undisturbed (initial stored) events) :
    TaskInv opts (runTasks opts stored events) := by
  induction events using List.reverseRecOn with
  | nil => exact taskInv_initial opts stored
  | append_singleton events e ih =>
    obtain ⟨hevents, hlast⟩ := throughout_concat h
    have hinv := ih hevents
    rw [runTasks, run_concat]
    obtain ⟨i, x⟩ := e
    cases i with
    | none =>
      have hnext := hinv.controller x hlast
      rw [step]
      simpa [taskStep, runTasks] using hnext
    | some i => exact hinv.run hlast

end Step

end Opni.Task
