/-
  Opni.Capabilities.UninstallRuns

  When an uninstall can be started again, over the runs of a gateway.  A
  capability that is marked for deletion has a task that accounts for the mark
  (`Accounted`), as long as no run that goes on sets another state.
-/

import Opni.Capabilities.Uninstall

namespace Opni.Capabilities

open Lib Opni.Task Lib.Interleave Function Backend

/-! ## Timestamps that are accounted for -/

/-- The states of a task that `NewController` resumes or that `Uninstall` takes for stale. -/
def accounts : TaskState → Bool
  | .pending | .running | .canceled | .failed => true
  | .unknown | .completed => false

/-- The run is about to set a state that does not account for a timestamp. -/
def spoils : Pc → Bool
  | .firing trigger => trigger = .finish
  | .transitioning destination | .setting destination => !accounts destination
  | .activating | .pending | .running | .completing _ | .callbacks | .finished => false

/-- A call has set the timestamp, and the task is not stored yet. -/
def BackendState.UnderWay (p : BackendState) : Prop :=
  (∃ i md, p.calls i = some (.launching md)) ∨ p.task.shared.launch = .reading ∨
    ∃ state, p.task.shared.launch = .writing state

structure Accounted (b : Backend) (c : Cluster) (p : BackendState) : Prop where
  spoiled : ∀ i, spoils (p.task.procs (some i)).pc = true → b.stamped c = false
  stored : ∀ state, p.task.shared.launch = .writing (some state) → p.task.shared.status.isSome
  accounted : p.phase ≠ .down → b.stamped c = true → accounts p.taskState = true ∨ p.UnderWay

section Runs

variable {opts : Nat → NewTaskOptions} {i : Nat} {x : TaskChoice} {s : Shared}
  {q q' : RunState} {status : Option TaskStatus}

theorem state_eq_or_sets (h : RunStep opts i x s q status q') :
    status.map (·.state) = s.state ∨
      ∃ destination, q.pc = .setting destination ∧ status.map (·.state) = some destination := by
  cases h with
  | sets => exact .inr ⟨_, rfl, congrArg some (state_mutator ..)⟩
  | calls _ _ hf => exact .inl (state_map hf)
  | logs => exact .inl (state_map (state_logTransition _))
  | waits _ | activates _ | skips _ | pendingReturns _ | fires _ _ _ _ | unhandled _
  | runningReturns _ | completes | sends _ => exact .inl rfl

theorem accounts_of_permit {state destination : TaskState} {trigger : TaskTrigger}
    (h : permit state trigger = some destination) (htrigger : trigger ≠ .finish) :
    accounts destination = true := by
  cases state <;> cases trigger <;> simp [permit] at h <;> subst h <;> first
    | rfl
    | exact absurd rfl htrigger

/-- Completed is set only after `OnTaskRunning` has returned nil. -/
theorem spoils_runStep {s' : Shared} (heq : runStep opts i x s q = (s', q'))
    (hstep : RunStep opts i x s q status q') (h : spoils q'.pc = true) :
    spoils q.pc = true ∨ q.pc = .running ∧ x = .proceeds .nil := by
  cases hstep with
  | waits _ | calls _ _ _ | logs => exact .inl h
  | fires _ _ _ hpermit =>
    refine .inl (decide_eq_true ?_)
    by_contra htrigger
    rw [spoils, accounts_of_permit hpermit htrigger] at h
    cases h
  | @sets _ destination => cases destination <;> cases h
  | @runningReturns history o =>
    have hfinish : runningTrigger o = .finish := of_decide_eq_true h
    have hpc := congrArg (fun r => r.2.pc) heq
    rw [hfinish] at hpc
    refine .inr ⟨rfl, ?_⟩
    unfold runStep at hpc
    split at hpc
    next => cases hpc
    next =>
      cases x with
      | proceeds r =>
        cases r with
        | nil => rfl
        | other err => cases hpc
        | contextCanceled => 
          dsimp only [outcome] at hpc
          split at hpc <;> cases hpc
      | launch | cancel | setProgress _ | addLogEntry _ _ => cases hpc
  | pendingReturns o => cases o <;> cases h
  | activates _ | skips _ | unhandled _ | completes | sends _ => cases h

end Runs

/-! ## Steps -/

section Steps

variable {marshal : TimestampedMetadata → String} {b b' : Backend} {c c' : Cluster}
  {p : BackendState} {i : Nat} {g : Gateway}

theorem stamped_runnerReturns (pc : Pc) (x : TaskChoice) (updated : Bool)
    (h : b.stamped (b'.runnerReturns pc x updated c) = true) : b.stamped c = true := by
  revert h
  by_cases hb : b = b'
  · subst hb
    fun_cases runnerReturns b pc x updated c <;>
      simp [stamped_remove, stamped_resetDeletionTimestamp]
  · fun_cases runnerReturns b' pc x updated c <;>
      simp [stamped_remove_of_ne c hb, stamped_resetDeletionTimestamp_of_ne c hb]

theorem Accounted.mono (h : Accounted b c p) (hc : b.stamped c' = true → b.stamped c = true) :
    Accounted b c' p where
  spoiled := by
    intro i hi
    have hnot := h.spoiled i hi
    cases hc' : b.stamped c' with
    | false => rfl
    | true => rw [hc hc'] at hnot; cases hnot
  stored := h.stored
  accounted := fun hphase hc' => h.accounted hphase (hc hc')

theorem BackendState.UnderWay.setCall (h : p.UnderWay)
    (hcall : ∀ md, p.calls i ≠ some (.launching md)) (call : UninstallCall) :
    (p.setCall i call).UnderWay := by
  obtain ⟨j, md, hj⟩ | hlaunch := h
  · refine .inl ⟨j, md, (update_of_ne ?_ ..).trans hj⟩
    rintro rfl
    exact hcall md hj
  · exact .inr hlaunch

theorem Accounted.setCall (h : Accounted b c p) (hcall : ∀ md, p.calls i ≠ some (.launching md))
    (call : UninstallCall) :
    Accounted b c (p.setCall i call) where
  spoiled := h.spoiled
  stored := h.stored
  accounted := by
    intro hphase hstamped
    exact (h.accounted hphase hstamped).imp id fun hway => hway.setCall hcall call

theorem Accounted.controller (h : Accounted b c p) (x : TaskChoice) :
    Accounted b c (p.taskStep (none, x)) := by
  have hstep := controllerStep_cases p.opts x p.task.shared
  rw [p.taskStep_none x]
  generalize controllerStep p.opts x p.task.shared = s at hstep
  refine ⟨h.spoiled, ?_, ?_⟩
  · cases hstep with
    | waits | cancels _ => exact h.stored
    | reads _ =>
      intro state hstate
      have hread : p.task.shared.state = some state := LaunchState.writing.inj hstate
      exact Option.isSome_map.symm.trans (Option.isSome_of_eq_some hread)
    | launches _ | writes _ _ _ _ | fails _ _ | starts _ => exact fun _ hstate => nomatch hstate
  · intro hphase hstamped
    have hbefore := h.accounted hphase hstamped
    -- a launch in progress accounts for the timestamp until the state is written
    cases hstep with
    | waits | cancels _ => exact hbefore
    | launches _ => exact .inr (.inr (.inl rfl))
    | reads _ => exact .inr (.inr (.inr ⟨_, rfl⟩))
    | writes _ _ _ hpending => exact .inl (congrArg accounts hpending)
    | fails hwriting hnone =>
      -- the status that was read is still stored
      have hsome := h.stored _ hwriting
      rw [hnone] at hsome
      cases hsome
    | starts hlogging =>
      refine hbefore.imp ?_ ?_
      · intro haccounts
        rw [← haccounts]
        exact congrArg (fun state : Option TaskState => accounts (state.getD .unknown))
          (state_map (state_logTransition _))
      · rintro (hcall | hreading | ⟨state, hwriting⟩)
        · exact .inl hcall
        · exact nomatch hlogging.symm.trans hreading
        · exact nomatch hlogging.symm.trans hwriting

theorem Accounted.run (h : Accounted b c p) (i : Nat) (x : TaskChoice) (updated : Bool) :
    Accounted b (b.runnerReturns (p.task.procs (some i)).pc x updated c)
      (p.taskStep (some i, x)) := by
  obtain ⟨status, q, heq, hstep⟩ := runStep_cases p.opts i x p.task.shared (p.task.procs (some i))
  have htask : p.taskStep (some i, x) =
      { p with task :=
          ⟨{ p.task.shared with status := status }, update p.task.procs (some i) q⟩ } := by
    simp only [BackendState.taskStep, step, Opni.Task.taskStep, heq]
  have hkept : Accounted b (b.runnerReturns (p.task.procs (some i)).pc x updated c) p :=
    h.mono (stamped_runnerReturns (p.task.procs (some i)).pc x updated)
  rw [htask]
  refine ⟨?_, ?_, ?_⟩
  · intro j hj
    dsimp only at hj
    by_cases hij : j = i
    · -- the run spoiled the task before, or removes the capability now
      subst hij
      rw [update_self] at hj
      obtain hbefore | ⟨hrunning, rfl⟩ := spoils_runStep heq hstep hj
      · exact hkept.spoiled j hbefore
      · rw [hrunning]
        exact stamped_remove c
    · rw [update_of_ne (Option.some_injective _ |>.ne hij)] at hj
      exact hkept.spoiled j hj
  · intro state hwriting
    exact hstep.isSome (h.stored state hwriting)
  · intro hphase hstamped
    refine (hkept.accounted hphase hstamped).imp ?_ id
    intro haccounts
    obtain hstate | ⟨destination, hsetting, hstate⟩ := state_eq_or_sets hstep
    · rw [← haccounts]
      exact congrArg (fun state : Option TaskState => accounts (state.getD .unknown)) hstate
    · cases hdestination : accounts destination with
      | true =>
        rw [← hdestination]
        exact congrArg (fun state : Option TaskState => accounts (state.getD .unknown)) hstate
      | false =>
        -- the run has removed the capability
        have hspoils : spoils (p.task.procs (some i)).pc = true := by
          rw [hsetting, spoils, hdestination]
          rfl
        cases hstamped.symm.trans (hkept.spoiled i hspoils)

theorem Accounted.launchTask (h : Accounted b c p) (mdJson : String) :
    Accounted b c (p.launchTask mdJson) := by
  have hopts : ∀ opts, Accounted b c { p with opts := opts } := fun _ =>
    ⟨h.spoiled, h.stored, h.accounted⟩
  exact (hopts _).controller .launch

end Steps

/-! ## Runs of the gateway -/

end Opni.Capabilities
