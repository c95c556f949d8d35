/-
  Opni.Task.LifeCycle

  A task that is launched once, against the contract of `TaskRunner`
  (`pkg/task/types.go`).
-/

import Opni.Task.Runs

namespace Opni.Task

open Lib.Interleave

/-! ## One launch -/

theorem Shared.runs_le_launched (s : Shared) : s.runs ≤ s.launched := by
  unfold Shared.runs
  split <;> omega

theorem ControllerStep.launched_le {x : TaskChoice} {s s' : Shared} (h : ControllerStep x s s') :
    s.launched ≤ s'.launched := by
  cases h with
  | launches _ => exact Nat.le_succ _
  | waits | cancels _ | reads _ | writes _ _ _ _ | fails _ _ | starts _ => exact le_rfl

section Launched

variable (opts : Nat → NewTaskOptions) (stored : Option TaskStatus)

theorem launched_le_step (c : TaskConfig) (e : Option Nat × TaskChoice) :
    c.shared.launched ≤ (step (taskStep opts) c e).shared.launched := by
  obtain ⟨i, x⟩ := e
  cases i with
  | none => exact (controllerStep_cases opts x c.shared).launched_le
  | some i =>
    obtain ⟨status, p', hnext, -⟩ := step_run_cases opts c i x
    rw [hnext]

theorem launched_le (before after : List (Option Nat × TaskChoice)) :
    (runTasks opts stored before).shared.launched ≤
      (runTasks opts stored (before ++ after)).shared.launched := by
  induction after using List.reverseRecOn with
  | nil => rw [List.append_nil]
  | append_singleton after e ih =>
    rw [← List.append_assoc, runTasks, runTasks, run_concat]
    exact ih.trans (launched_le_step opts _ e)

variable {opts stored}

theorem undisturbed_of_launched_le {c : TaskConfig} (h : c.shared.launched ≤ 1)
    (e : Option Nat × TaskChoice) : Undisturbed c e := by
  obtain ⟨i, x⟩ := e
  have hruns := c.shared.runs_le_launched
  cases x with
  | launch | cancel | setProgress _ | addLogEntry _ _ => cases i <;> trivial
  | proceeds r =>
    cases i with
    | some i =>
      intro hi
      omega
    | none =>
      intro hwriting i hi
      have hnone : c.shared.runs = c.shared.launched - 1 := by
        cases hlaunch : c.shared.launch with
        | writing state => rw [Shared.runs, hlaunch]
        | idle | reading | logging =>
          rw [hlaunch] at hwriting
          simp [LaunchState.isWriting] at hwriting
      omega

theorem taskInv_of_launched_le {events : List (Option Nat × TaskChoice)}
    (h : (runTasks opts stored events).shared.launched ≤ 1) :
    TaskInv opts (runTasks opts stored events) := by
  apply taskInv_runTasks
  rintro before e ⟨after, rfl⟩
  apply undisturbed_of_launched_le
  rw [List.append_assoc] at h
  exact (launched_le opts stored before _).trans h

end Launched

/-! ## The steps of the one run -/

/-- A step after the run has started: another process leaves the status as it is. -/
inductive SoleStep (opts : Nat → NewTaskOptions) (c : TaskConfig) :
    Option Nat × TaskChoice → Option TaskStatus → RunState → Prop
  | other {i x} : i ≠ some 0 → SoleStep opts c (i, x) c.shared.status (c.procs (some 0))
  | own {x status p'} : RunStep opts 0 x c.shared (c.procs (some 0)) status p' →
      SoleStep opts c (some 0, x) status p'

section Sole

variable {opts : Nat → NewTaskOptions} {c : TaskConfig} (h : TaskInv opts c)

include h

theorem TaskInv.status_controller {x : TaskChoice} {s' : Shared}
    (hstep : ControllerStep x c.shared s') (hlaunched : c.shared.launched ≤ 1)
    (hstarted : 0 < c.shared.started) :
    s'.status = c.shared.status ∧ s'.started = c.shared.started := by
  have hruns := h.started
  cases hstep with
  | writes _ _ hwriting _ =>
    rw [Shared.runs, hwriting] at hruns
    simp only at hruns
    omega
  | starts hlogging =>
    have hlt := h.logging hlogging
    omega
  | waits | cancels _ | launches _ | reads _ | fails _ _ => exact ⟨rfl, rfl⟩

theorem TaskInv.soleStep (hlaunched : c.shared.launched ≤ 1)
    (hstarted : 0 < c.shared.started) (e : Option Nat × TaskChoice) :
    (step (taskStep opts) c e).shared.started = c.shared.started ∧
      SoleStep opts c e (step (taskStep opts) c e).shared.status
        ((step (taskStep opts) c e).procs (some 0)) := by
  obtain ⟨i, x⟩ := e
  have hruns := h.started.trans c.shared.runs_le_launched
  cases i with
  | none =>
    obtain ⟨hstatus, hsame⟩ :=
      h.status_controller (controllerStep_cases opts x c.shared) hlaunched hstarted
    refine ⟨hsame, ?_⟩
    exact hstatus ▸ .other (by simp)
  | some i =>
    cases i with
    | zero =>
      obtain ⟨status, p', hnext, hstep⟩ := step_run_cases opts c 0 x
      rw [hnext]
      refine ⟨rfl, ?_⟩
      exact .own hstep
    | succ i =>
      rw [step_not_started (by omega)]
      exact ⟨rfl, .other (by simp)⟩

theorem TaskInv.tracks_sole (hlaunched : c.shared.launched ≤ 1) (hstarted : 0 < c.shared.started) :
    ∃ state, c.shared.state = some state ∧ Tracks (opts 0) (c.procs (some 0)) state := by
  have hle := h.started
  have hruns := c.shared.runs_le_launched
  exact h.tracks 0 (by omega)

theorem TaskInv.procs_step (hstarted : c.shared.started = 0)
    (e : Option Nat × TaskChoice) : (step (taskStep opts) c e).procs (some 0) = {} := by
  obtain ⟨i, x⟩ := e
  have hfresh := h.fresh 0 (by omega)
  cases i with
  | none => rw [procs_step_of_ne _ _ _ (by simp), hfresh]
  | some i => rw [step_not_started (by omega), hfresh]

end Sole

/-! ## The status that is sent -/

/-- A run that has finished has offered the stored status. -/
def Offered (opts : NewTaskOptions) (status : Option TaskStatus) (p : RunState) : Prop :=
  p.pc = .finished → p.history.completed ≠ [] →
    p.history.statusOffers = if opts.statusCallback then status.toList else []

theorem offered_fresh (opts : NewTaskOptions) (status : Option TaskStatus) :
    Offered opts status {} := by
  intro hfinished
  cases hfinished

variable {state destination : TaskState} {opts : Nat → NewTaskOptions} {h : History}
  {trigger : TaskTrigger} {p p' : RunState} {i : Nat} {x : TaskChoice} {s : Shared}
  {status stored : Option TaskStatus}

theorem Fires.silent (hf : Fires h state trigger) : Silent h := by
  cases hf with
  | pending _ _ _ hsilent | running _ _ _ hsilent => exact hsilent

theorem entry_ne_finished
    (h : permit state trigger = some destination) : entry destination ≠ .finished := by
  revert h
  cases state <;> cases trigger <;> cases destination <;> decide

theorem Offered.step (h : Offered (opts i) s.status p) (htracks : Tracks (opts i) p state)
    (hstep : RunStep opts i x s p status p') : Offered (opts i) status p' := by
  intro hfinished hcompleted
  cases hstep with
  | waits _ => exact h hfinished hcompleted
  | calls _ hin _ =>
    -- the runner changes the status only while one of its functions is called
    rw [hfinished] at hin
    simp [Pc.inRunner] at hin
  -- without `OnTaskCompleted` there is nothing to show
  | skips _ => exact absurd htracks.2.silent.completed hcompleted
  | unhandled _ => exact absurd (Fires.silent htracks).completed hcompleted
  | sets =>
    obtain ⟨trigger, -, hpermit⟩ := htracks
    exact absurd hfinished (entry_ne_finished hpermit)
  | sends hstatus =>
    obtain ⟨-, -, hoffers, -⟩ := htracks
    simp [History.offer, hoffers, hstatus]
  | activates _ | pendingReturns _ | fires _ _ _ _ | logs | runningReturns _ | completes =>
    cases hfinished

theorem offered_of_launched_le {events : List (Option Nat × TaskChoice)}
    (h : (runTasks opts stored events).shared.launched ≤ 1) :
    Offered (opts 0) (runTasks opts stored events).shared.status
      ((runTasks opts stored events).procs (some 0)) := by
  induction events using List.reverseRecOn with
  | nil => exact offered_fresh _ _
  | append_singleton events e ih =>
    have hbefore := (launched_le opts stored events [e]).trans h
    have hinv := taskInv_of_launched_le hbefore
    have hprev := ih hbefore
    rw [runTasks, run_concat, ← runTasks]
    by_cases hstarted : (runTasks opts stored events).shared.started = 0
    · rw [hinv.procs_step hstarted]
      exact offered_fresh _ _
    · obtain ⟨-, hstep⟩ := hinv.soleStep hbefore (by omega) e
      obtain ⟨state, -, htracks⟩ := hinv.tracks_sole hbefore (by omega)
      generalize (step (taskStep opts) (runTasks opts stored events) e).shared.status = status,
        (step (taskStep opts) (runTasks opts stored events) e).procs (some 0) = p' at hstep ⊢
      cases hstep with
      | other _ => exact hprev
      | own hstep => exact hprev.step htracks hstep

/-! ## The run ends -/

def rank : RunState → Nat
  | ⟨.activating, _⟩ => 11
  | ⟨.pending, _⟩ => 10
  | ⟨.firing _, h⟩ => if h.runningOutcome = none then 9 else 5
  | ⟨.transitioning _, h⟩ => if h.runningOutcome = none then 8 else 4
  | ⟨.setting _, h⟩ => if h.runningOutcome = none then 7 else 3
  | ⟨.running, _⟩ => 6
  | ⟨.completing _, _⟩ => 2
  | ⟨.callbacks, _⟩ => 1
  | ⟨.finished, _⟩ => 0

theorem rank_le (p : RunState) : rank p ≤ 11 := by
  obtain ⟨pc, history⟩ := p
  cases pc with
  | firing _ | transitioning _ | setting _ =>
    simp only [rank]
    split_ifs <;> omega
  | activating | pending | running | completing _ | callbacks | finished => simp [rank]

theorem pc_of_rank (h : rank p = 0) : p.pc = .finished := by
  obtain ⟨pc, history⟩ := p
  cases pc with
  | finished => rfl
  | activating | pending | running | completing _ | callbacks => simp [rank] at h
  | firing _ | transitioning _ | setting _ =>
    simp only [rank] at h
    split_ifs at h

theorem Fires.rank_entry
    (hf : Fires h state trigger) (hpermit : permit state trigger = some destination)
    (h' : History) : rank ⟨entry destination, h'⟩ < rank ⟨.setting destination, h⟩ := by
  cases hf with
  | @pending o _ hrunning _ _ =>
    cases o with
    | success | canceled =>
      cases hpermit
      simp [rank, entry, hrunning]
    | failed => simp [pendingTrigger, permit] at hpermit
  | @running o _ hrunning _ _ =>
    cases o with
    | success | canceled | failed =>
      cases hpermit
      simp [rank, entry, hrunning]

theorem Tracks.rank_step
    (h : Tracks (opts i) p state) (hstate : s.state = some state) (hstarted : i < s.started)
    (hstep : RunStep opts i x s p status p') :
    rank p' ≤ rank p ∧ ∀ r, x = .proceeds r → rank p' ≤ rank p - 1 := by
  suffices hlt : rank p' < rank p ∨ p' = p ∧ ∀ r, x = .proceeds r → rank p = 0 by
    rcases hlt with hlt | ⟨rfl, hwaits⟩
    · exact ⟨by omega, fun _ _ => by omega⟩
    · refine ⟨le_rfl, fun r hx => ?_⟩
      rw [hwaits r hx]
  cases hstep with
  | waits hwaits =>
    refine .inr ⟨rfl, fun r hx => ?_⟩
    rcases hwaits r hx hstarted with hfinished | ⟨-, hnone⟩
    · obtain ⟨pc, history⟩ := p
      obtain rfl : pc = .finished := hfinished
      rfl
    · -- `getStatus` does not wait for a status, as one is stored
      rw [Shared.state, hnone] at hstate
      cases hstate
  | calls hx _ _ => exact .inr ⟨rfl, fun r hr => absurd hr (hx r)⟩
  | pendingReturns o =>
    simp [rank, h.2.runningOutcome]
  | sets =>
    obtain ⟨trigger, hf, hpermit⟩ := h
    exact .inl (hf.rank_entry hpermit _)
  | fires _ _ _ _ | logs | unhandled _ =>
    simp only [rank]
    split_ifs <;> omega
  | activates _ | skips _ | runningReturns _ | completes | sends _ =>
    simp [rank]

def runProceeds : Option Nat × TaskChoice → Bool
  | (some 0, .proceeds _) => true
  | _ => false

/-- Every step of its own brings the run nearer to its end. -/
theorem rank_runTasks {before after : List (Option Nat × TaskChoice)}
    (h : (runTasks opts stored (before ++ after)).shared.launched ≤ 1)
    (hstarted : 0 < (runTasks opts stored before).shared.started) :
    0 < (runTasks opts stored (before ++ after)).shared.started ∧
      rank ((runTasks opts stored (before ++ after)).procs (some 0)) ≤
        11 - after.countP runProceeds := by
  induction after using List.reverseRecOn with
  | nil =>
    rw [List.append_nil]
    exact ⟨hstarted, rank_le _⟩
  | append_singleton after e ih =>
    rw [← List.append_assoc] at h ⊢
    have hbefore := (launched_le opts stored (before ++ after) [e]).trans h
    obtain ⟨hgoing, hrank⟩ := ih hbefore
    have hinv := taskInv_of_launched_le hbefore
    obtain ⟨hsame, hstep⟩ := hinv.soleStep hbefore hgoing e
    obtain ⟨state, hstate, htracks⟩ := hinv.tracks_sole hbefore hgoing
    rw [runTasks, run_concat, ← runTasks, hsame, List.countP_append]
    refine ⟨hgoing, ?_⟩
    generalize (step (taskStep opts) _ e).shared.status = status,
      (step (taskStep opts) _ e).procs (some 0) = p' at hstep ⊢
    cases hstep with
    | @other i x hi =>
      -- the run stays where it is, and the step does not count
      have hother : runProceeds (i, x) = false := by
        cases i with
        | none => rfl
        | some i => cases i with
          | zero => exact absurd rfl hi
          | succ i => rfl
      rw [List.countP_singleton, hother]
      exact hrank
    | @own x status p' hstep =>
      obtain ⟨hle, hlt⟩ := htracks.rank_step hstate hgoing hstep
      cases x with
      | proceeds r =>
        have hp' := hlt r rfl
        have hone : List.countP runProceeds [(some 0, .proceeds r)] = 1 := rfl
        omega
      | launch | cancel | setProgress _ | addLogEntry _ _ => exact hle.trans hrank

/-! ## The contract -/

/-- What the contract says of a run that has finished, with the stored status: it has
    gone to its end state, through Running if `OnTaskPending` has returned nil;
    `OnTaskCompleted` has been called once, with that state; and the callbacks that are
    set have been offered that status once. -/
structure FollowsContract (opts : NewTaskOptions) (h : History) (status : TaskStatus) : Prop where
  due : h.due = some status.state
  entered : h.entered =
    if h.pendingOutcome = some .success then [.running, status.state] else [status.state]
  completed : h.completed = [status.state]
  statusOffers : h.statusOffers = if opts.statusCallback then [status] else []
  stateOffers : h.stateOffers = if opts.stateCallback then [status.state] else []

theorem Tracks.followsContract_iff {opts : NewTaskOptions} {status : TaskStatus}
    (htracks : Tracks opts ⟨.finished, h⟩ status.state)
    (hoffered : Offered opts (some status) ⟨.finished, h⟩) :
    FollowsContract opts h status ↔ h.pendingOutcome ≠ some .failed := by
  rcases htracks with hreported | hstuck
  · refine iff_of_true ?_ hreported.ended.outcome
    have hsent := hoffered rfl (by simp [hreported.completed])
    exact ⟨hreported.ended.due, hreported.ended.entered, hreported.completed, hsent,
      hreported.stateOffers⟩
  · apply iff_of_false
    · intro hfollows
      have hcompleted := hfollows.completed
      rw [hstuck.silent.completed] at hcompleted
      cases hcompleted
    · simp [hstuck.outcome]

/-- The one launched task: when its run has finished, it has followed the contract,
    unless `OnTaskPending` has returned an error that is not that of its canceled context;
    and after eleven steps its run has finished. -/
theorem lifeCycle_iff {opts : Nat → NewTaskOptions} {stored : Option TaskStatus}
    {events : List (Option Nat × TaskChoice)}
    (h : (runTasks opts stored events).shared.launched = 1) :
    (((runTasks opts stored events).procs (some 0)).pc = .finished →
      ∃ status, (runTasks opts stored events).shared.status = some status ∧
        (FollowsContract (opts 0) ((runTasks opts stored events).procs (some 0)).history status ↔
          ((runTasks opts stored events).procs (some 0)).history.pendingOutcome ≠
            some .failed)) ∧
      ∀ before after, before ++ after = events →
        (runTasks opts stored before).shared.started = 1 → 11 ≤ after.countP runProceeds →
        ((runTasks opts stored events).procs (some 0)).pc = .finished := by
  apply And.intro
  · intro hfinished
    have hinv := taskInv_of_launched_le h.le
    have hoffered := offered_of_launched_le h.le
    have hstarted : 0 < (runTasks opts stored events).shared.started := by
      by_contra hzero
      rw [hinv.fresh 0 (by omega)] at hfinished
      cases hfinished
    obtain ⟨state, hstate, htracks⟩ := hinv.tracks_sole h.le hstarted
    obtain ⟨status, hstatus, rfl⟩ := Option.map_eq_some_iff.mp hstate
    refine ⟨status, hstatus, ?_⟩
    rw [hstatus] at hoffered
    generalize (runTasks opts stored events).procs (some 0) = p at hfinished hoffered htracks ⊢
    obtain ⟨pc, history⟩ := p
    obtain rfl : pc = .finished := hfinished
    exact htracks.followsContract_iff hoffered
  · rintro before after rfl hstarted hsteps
    obtain ⟨-, hrank⟩ := rank_runTasks h.le (by omega)
    apply pc_of_rank
    omega

def withCallbacks : Nat → NewTaskOptions := fun _ =>
  { statusCallback := true, stateCallback := true }

/-- Both functions of the runner return nil. -/
theorem lifeCycle_completes :
    ∃ status, (runTasks withCallbacks none
        (launchTask ++ List.replicate 11 (proceed (some 0)))).shared.status = some status ∧
      FollowsContract (withCallbacks 0) ((runTasks withCallbacks none
        (launchTask ++ List.replicate 11 (proceed (some 0)))).procs (some 0)).history status := by
  obtain ⟨hfollows, hends⟩ := lifeCycle_iff (show (runTasks withCallbacks none
    (launchTask ++ List.replicate 11 (proceed (some 0)))).shared.launched = 1 by decide)
  obtain ⟨status, hstatus, hiff⟩ := hfollows (hends _ _ rfl (by decide) (by decide))
  exact ⟨status, hstatus, hiff.mpr (by decide)⟩

/-- `OnTaskPending` returns an error: the task is left Pending, and nothing is reported. -/
theorem pendingError_left_pending :
    let c := runTasks withCallbacks none (launchTask ++
      [proceed (some 0), (some 0, .proceeds (.other "failed to connect")), proceed (some 0)])
    (c.procs (some 0)).pc = .finished ∧
      (c.procs (some 0)).history.due = some .failed ∧
      c.shared.state = some .pending ∧
      (c.procs (some 0)).history.completed = [] ∧
      (c.procs (some 0)).history.statusOffers = [] ∧
      (c.procs (some 0)).history.stateOffers = [] := by
  decide

end Opni.Task
