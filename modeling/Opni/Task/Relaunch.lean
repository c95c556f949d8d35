/-
  Opni.Task.Relaunch

  A task that is launched again while an earlier run is going on.  The earlier
  run goes on, and what it sets is set for the later one.
-/

import Opni.Task.Runs

namespace Opni.Task

open Lib.Interleave

/-- A run does not change the state after a later run has been set to Pending. -/
def SupersededRunsSilent (opts : Nat → NewTaskOptions) (stored : Option TaskStatus)
    (events : List (Option Nat × TaskChoice)) : Prop :=
  ∀ before i x, before ++ [(some i, x)] <+: events →
    i + 1 < (runTasks opts stored before).shared.runs →
    (runTasks opts stored (before ++ [(some i, x)])).shared.state =
      (runTasks opts stored before).shared.state

/-- No launch is going on, and all runs, of which `last` is the last, have finished. -/
structure AllFinished (c : TaskConfig) (last : Nat) : Prop where
  idle : c.shared.launch = .idle
  launched : c.shared.launched = last + 1
  finished : ∀ i ≤ last, (c.procs (some i)).pc = .finished

section Relaunch

variable {opts : Nat → NewTaskOptions} {stored : Option TaskStatus}
  {events : List (Option Nat × TaskChoice)}

theorem supersededRunsSilent (h : Throughout (taskStep opts) Undisturbed (initial stored) events) :
    SupersededRunsSilent opts stored events := by
  intro before i x hbefore hi
  have hinv : TaskInv opts (runTasks opts stored before) := by
    apply taskInv_runTasks
    exact h.of_prefix ((List.prefix_append _ _).trans hbefore)
  obtain ⟨status, p', hnext, hstep⟩ := step_run_cases opts (runTasks opts stored before) i x
  rw [runTasks, run_concat, ← runTasks, hnext]
  exact hstep.state_eq (hinv.settled i hi)

theorem Tracks.due_iff {opts : NewTaskOptions} {h : History} {state : TaskState}
    (htracks : Tracks opts ⟨.finished, h⟩ state) :
    h.due = some state ↔ h.pendingOutcome ≠ some .failed := by
  rcases htracks with hreported | hstuck
  · exact iff_of_true hreported.ended.due hreported.ended.outcome
  · apply iff_of_false
    · rw [History.due, hstuck.outcome, hstuck.state]
      simp [final]
    · simp [hstuck.outcome]

/-- If no superseded run fires a trigger that is permitted, and no run is set to Pending
    in the middle of a transition of an earlier one, then superseded runs do not change
    the state, and in the end it is that of the last run, provided that its
    `OnTaskPending` has not failed. -/
theorem relaunch_replaces (h : Throughout (taskStep opts) Undisturbed (initial stored) events) :
    SupersededRunsSilent opts stored events ∧
      ∀ last, AllFinished (runTasks opts stored events) last →
        ((runTasks opts stored events).shared.state =
            ((runTasks opts stored events).procs (some last)).history.due ↔
          ((runTasks opts stored events).procs (some last)).history.pendingOutcome ≠
            some .failed) := by
  refine ⟨supersededRunsSilent h, ?_⟩
  intro last hall
  have hruns : last + 1 = (runTasks opts stored events).shared.runs := by
    rw [Shared.runs, hall.idle, hall.launched]
  obtain ⟨state, hstate, htracks⟩ := (taskInv_runTasks h).tracks last hruns
  have hfinished := hall.finished last le_rfl
  generalize (runTasks opts stored events).procs (some last) = p at htracks hfinished ⊢
  obtain ⟨pc, history⟩ := p
  obtain rfl : pc = .finished := hfinished
  -- the state follows the last run, which has reported or is stuck
  rw [hstate, eq_comm]
  exact htracks.due_iff

end Relaunch

/-! ## A run that overwrites the state of a later one -/

/-- The runner of run 0 returns after run 1 has completed. -/
def lateReturn : List (Option Nat × TaskChoice) :=
  launchTask ++ [proceed (some 0)] ++ launchTask ++ List.replicate 11 (proceed (some 1)) ++
    [proceed (some 0), proceed (some 0)]

theorem relaunch_replaces_lateReturn :
    Throughout (taskStep fun _ => {}) Undisturbed (initial none) lateReturn ∧
      AllFinished (runTasks (fun _ => {}) none lateReturn) 1 ∧
      (runTasks (fun _ => {}) none lateReturn).shared.state = some .completed := by
  have hthroughout : Throughout (taskStep fun _ => {}) Undisturbed (initial none) lateReturn := by
    decide
  have hall : AllFinished (runTasks (fun _ => {}) none lateReturn) 1 := ⟨rfl, rfl, by decide⟩
  refine ⟨hthroughout, hall, ?_⟩
  rw [((relaunch_replaces hthroughout).2 1 hall).mpr (by decide)]
  decide

/-- Run 0 is canceled by the second launch, and is about to set the state when run 1 is
    set to Pending.  Run 1 completes. -/
def canceledInTransition : List (Option Nat × TaskChoice) :=
  launchTask ++
    [proceed (some 0), (none, .launch), (some 0, .proceeds .contextCanceled), proceed (some 0),
      proceed (some 0), proceed none, proceed none, proceed none] ++
    List.replicate 11 (proceed (some 1))

theorem superseded_run_overwrites :
    ¬SupersededRunsSilent (fun _ => {}) none (canceledInTransition ++ [proceed (some 0)]) ∧
      AllFinished (runTasks (fun _ => {}) none
        (canceledInTransition ++ List.replicate 3 (proceed (some 0)))) 1 ∧
      ((runTasks (fun _ => {}) none
        (canceledInTransition ++ List.replicate 3 (proceed (some 0)))).procs (some 1)).history.due =
          some .completed ∧
      (runTasks (fun _ => {}) none
        (canceledInTransition ++ List.replicate 3 (proceed (some 0)))).shared.state =
          some .canceled := by
  refine ⟨?_, ⟨rfl, rfl, by decide⟩, by decide, by decide⟩
  intro h
  have hsame := h canceledInTransition 0 (.proceeds .nil) List.prefix_rfl (by decide)
  cases hsame

end Opni.Task
