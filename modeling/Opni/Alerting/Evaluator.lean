/-
  Opni.Alerting.Evaluator

  `InternalConditionEvaluator` (`plugins/alerting/pkg/alerting/impl.go`): the
  loops that turn health messages into incidents.
-/

import Opni.Alerting.AlarmStorage

namespace Opni.Alerting

/-! ## Calls -/

/-- The calls of the hooks and of the incident tracker. -/
inductive HookCall where
  | triggerHook
  | openInterval
  | closeInterval
  | resolveHook
deriving DecidableEq

/-- Adds a call to the incidents it belongs to.  Incidents are listed with the
    last one first, each with the calls that have followed its opening. -/
def HookCall.record (incidents : List (List HookCall)) : HookCall → List (List HookCall)
  | .openInterval => [] :: incidents
  | call => incidents.modifyHead (· ++ [call])

variable (calls : List HookCall)

def incidentsOf : List (List HookCall) := calls.foldl HookCall.record []

variable (incident : List HookCall)

/-- An incident that has been closed once and resolved once. -/
def IsResolved : Prop :=
  incident.count .closeInterval = 1 ∧ incident.count .resolveHook = 1

instance : Decidable (IsResolved incident) :=
  inferInstanceAs (Decidable (_ ∧ _))

/-- An incident that has neither been closed nor resolved. -/
def IsOpen : Prop :=
  incident.count .closeInterval = 0 ∧ incident.count .resolveHook = 0

def AllResolved : Prop := ∀ incident ∈ incidentsOf calls, IsResolved incident

def NeverReopened : Prop :=
  ∀ incident ∈ (incidentsOf calls).tail, .closeInterval ∈ incident

instance : Decidable (AllResolved calls) :=
  inferInstanceAs (Decidable (∀ _ ∈ _, _))

theorem IsResolved.closed {incident : List HookCall} (h : IsResolved incident) :
    .closeInterval ∈ incident :=
  List.count_pos_iff.mp (by rw [h.1]; decide)

theorem IsOpen.trigger {incident : List HookCall} (h : IsOpen incident) :
    IsOpen (incident ++ [.triggerHook]) := by
  simpa [IsOpen, List.count_append] using h

theorem IsResolved.trigger {incident : List HookCall} (h : IsResolved incident) :
    IsResolved (incident ++ [.triggerHook]) := by
  simpa [IsResolved, List.count_append] using h

theorem IsOpen.resolve {incident : List HookCall} (h : IsOpen incident) :
    IsResolved (incident ++ [.closeInterval, .resolveHook]) := by
  simp [IsResolved, List.count_append, h.1, h.2]

theorem exists_of_modifyHead_eq {l : List (List HookCall)} {more last : List HookCall}
    {older : List (List HookCall)} (h : l.modifyHead (· ++ more) = last :: older) :
    ∃ last', l = last' :: older ∧ last = last' ++ more := by
  cases l with
  | nil => cases h
  | cons last' older' =>
    rw [List.modifyHead_cons, List.cons.injEq] at h
    exact ⟨last', by rw [h.2], h.1.symm⟩

theorem incidentsOf_trigger :
    incidentsOf (calls ++ [.triggerHook]) =
      (incidentsOf calls).modifyHead (· ++ [.triggerHook]) := by
  rw [incidentsOf, List.foldl_append]
  rfl

theorem incidentsOf_fire :
    incidentsOf (calls ++ [.triggerHook, .openInterval]) =
      [] :: (incidentsOf calls).modifyHead (· ++ [.triggerHook]) := by
  rw [incidentsOf, List.foldl_append]
  rfl

theorem incidentsOf_resolve :
    incidentsOf (calls ++ [.closeInterval, .resolveHook]) =
      (incidentsOf calls).modifyHead (· ++ [.closeInterval, .resolveHook]) := by
  rw [incidentsOf, List.foldl_append, incidentsOf]
  cases calls.foldl HookCall.record [] with
  | nil => rfl
  | cons incident older => simp [HookCall.record]

/-! ## The evaluator -/

/-- The settings of an evaluator and of the incident tracker. -/
structure EvaluatorConfig where
  evaluateDuration : Duration
  ttl : Duration

/-- The in-memory state of an evaluator, the entries of its condition in the
    stores, and the calls made so far. -/
structure Evaluator where
  inMemoryFiring : Bool
  state : Option CachedState
  incidents : Option IncidentIntervals
  calls : List HookCall

/-- The readings of the clock in a tick: for the interval, for the new state,
    for the incident, and when the incidents are pruned. -/
structure TickTimes where
  evaluate : Timestamp
  update : Timestamp
  incident : Timestamp
  prune : Timestamp

/-- The steps.  A message has a timestamp and arrives at a time. -/
inductive Event where
  | message (healthy : Bool) (ts now : Timestamp)
  | tick (t : TickTimes)

namespace Evaluator

def setFiring (firing : Bool) (e : Evaluator) : Evaluator := { e with inMemoryFiring := firing }

variable (s : CachedState) (e : Evaluator)

def updateState : Evaluator :=
  if CachedState.isDiff e.state s then { e with state := CachedState.put e.state s } else e

/-- `CalculateInitialState` of a new evaluator, from what is stored. -/
def calculateInitialState (now : Timestamp) (state : Option CachedState)
    (incidents : Option IncidentIntervals) : Evaluator :=
  let incomingState := state.getD (.default now)
  updateState incomingState
    { inMemoryFiring := incomingState.firing
      state := if state = none then CachedState.put state incomingState else state
      incidents := some (incidents.getD [])
      calls := [] }

/-- What `SubscriberLoop` does with a message. -/
def onMessage (healthy : Bool) (ts : Timestamp) (e : Evaluator) : Evaluator :=
  e.updateState ⟨healthy, e.inMemoryFiring, ts⟩

section Steps

variable (c : EvaluatorConfig) (t : TickTimes) (last : CachedState)

/-- The state has been unhealthy for longer than `evaluateDuration`. -/
def overdue : Bool :=
  timeSub t.evaluate last.timestamp > c.evaluateDuration

/-- What a tick does that finds the state unhealthy for too long. -/
def fire (e : Evaluator) : Evaluator :=
  -- the hook is triggered at every such tick, an incident opened at the first only
  let e := { e with calls := e.calls ++ [HookCall.triggerHook] }
  if e.inMemoryFiring then e
  else
    -- the new state has the time of the update, from which the next ticks measure
    let e := (e.setFiring true).updateState ⟨last.healthy, true, t.update⟩
    { e with
      incidents := IncidentIntervals.openInterval c.ttl t.prune t.incident e.incidents
      calls := e.calls ++ [.openInterval] }

/-- What a tick does that finds the state healthy after the alarm has fired. -/
def resolve (e : Evaluator) : Evaluator :=
  let e := e.setFiring false
  { e with
    incidents := IncidentIntervals.closeInterval c.ttl t.prune t.incident e.incidents
    calls := e.calls ++ [.closeInterval, .resolveHook] }

/-- One turn of `EvaluateLoop`. -/
def tick (e : Evaluator) : Evaluator :=
  match e.state with
  | none => e
  | some last =>
    if !last.healthy then
      if overdue c t last then e.fire c t last
      -- the incident that may be open is forgotten here
      else e.setFiring false
    else if last.healthy && e.inMemoryFiring then e.resolve c t
    else e

def step (e : Evaluator) : Event → Evaluator
  -- the time of arrival is not looked at: the state gets the message's own timestamp
  | .message healthy ts _ => e.onMessage healthy ts
  | .tick t => e.tick c t

variable (events : List Event)

def run (e : Evaluator) : Evaluator := events.foldl (step c) e

theorem run_append (events more : List Event) (e : Evaluator) :
    run c (events ++ more) e = run c more (run c events e) := List.foldl_append

theorem run_concat (event : Event) (e : Evaluator) :
    run c (events ++ [event]) e = (run c events e).step c event := by
  rw [run_append]
  rfl

end Steps

def Healthy : Prop := e.state.map (·.healthy) = some true

instance : Decidable e.Healthy := inferInstanceAs (Decidable (_ = _))

def Ended (e : Evaluator) : Prop := (e.incidents.getD []).Ended

/-! ## What the steps do -/

theorem updateState_frame :
    (e.updateState s).inMemoryFiring = e.inMemoryFiring ∧
      (e.updateState s).incidents = e.incidents ∧ (e.updateState s).calls = e.calls := by
  unfold updateState
  split
  · exact ⟨rfl, rfl, rfl⟩
  · exact ⟨rfl, rfl, rfl⟩

theorem healthy_updateState : (e.updateState s).state.map (·.healthy) = some s.healthy := by
  unfold updateState
  split
  next hdiff => rw [CachedState.put_of_isDiff hdiff, Option.map_some]
  next hdiff =>
    cases hstate : e.state with
    | none => exact absurd (by rw [hstate]; rfl) hdiff
    | some last =>
      rw [hstate] at hdiff
      have hequiv : last.isEquivalent s = true := by simpa [CachedState.isDiff] using hdiff
      rw [CachedState.isEquivalent, Bool.and_eq_true, beq_iff_eq, beq_iff_eq] at hequiv
      rw [Option.map_some, hequiv.1]

section Tick

variable {c : EvaluatorConfig} {t : TickTimes} {e : Evaluator} {last : CachedState}
  (hstate : e.state = some last)

include hstate

section

variable (hhealthy : last.healthy = false)

include hhealthy

theorem tick_of_fire (hoverdue : overdue c t last = true) (hfiring : e.inMemoryFiring = false) :
    (e.tick c t).inMemoryFiring = true ∧ ¬(e.tick c t).Healthy ∧
      (e.tick c t).incidents =
        IncidentIntervals.openInterval c.ttl t.prune t.incident e.incidents ∧
      (e.tick c t).calls = e.calls ++ [.triggerHook, .openInterval] := by
  -- the evaluator and the state that `UpdateState` is called with
  set e' := { e with calls := e.calls ++ [HookCall.triggerHook], inMemoryFiring := true } with he'
  set s' : CachedState := ⟨last.healthy, true, t.update⟩ with hs'
  obtain ⟨hflag, hincidents, hcalls⟩ := updateState_frame s' e'
  have htick : e.tick c t =
      { e'.updateState s' with
        incidents := IncidentIntervals.openInterval c.ttl t.prune t.incident
          (e'.updateState s').incidents
        calls := (e'.updateState s').calls ++ [.openInterval] } := by
    simp [tick, hstate, hhealthy, hoverdue, fire, hfiring, setFiring, he', hs']
  rw [htick]
  refine ⟨hflag, ?_, by rw [hincidents], ?_⟩
  · rw [Healthy, healthy_updateState, hhealthy]
    simp
  · rw [hcalls, he', List.append_assoc]
    rfl

theorem tick_of_firing (hoverdue : overdue c t last = true) (hfiring : e.inMemoryFiring = true) :
    e.tick c t = { e with calls := e.calls ++ [.triggerHook] } := by
  simp [tick, hstate, hhealthy, hoverdue, fire, hfiring]

theorem tick_of_not_overdue (hoverdue : overdue c t last = false) :
    e.tick c t = e.setFiring false := by
  simp [tick, hstate, hhealthy, hoverdue]

end

variable (hhealthy : last.healthy = true)

include hhealthy

theorem tick_of_healthy (hfiring : e.inMemoryFiring = false) : e.tick c t = e := by
  simp [tick, hstate, hhealthy, hfiring]

end Tick

/-! ## Ticks that act, and ticks that drop an incident -/

section Effects

variable (c : EvaluatorConfig)

/-- A tick that finds the state healthy, or unhealthy for too long. -/
def Acts (e : Evaluator) : Event → Prop
  | .message .. => False
  | .tick t => ∃ last, e.state = some last ∧ (last.healthy = true ∨ overdue c t last = true)

/-- A tick that finds the alarm firing, with an incident this evaluator has
    opened, and the state unhealthy for at most `evaluateDuration`. -/
def Drops (e : Evaluator) : Event → Prop
  | .message .. => False
  | .tick t => e.inMemoryFiring = true ∧ incidentsOf e.calls ≠ [] ∧
      ∃ last, e.state = some last ∧ last.healthy = false ∧ overdue c t last = false

inductive Effect (e : Evaluator) : Event → Evaluator → Prop where
  | message {healthy : Bool} {ts now : Timestamp} {e' : Evaluator}
      (hflag : e'.inMemoryFiring = e.inMemoryFiring) (hincidents : e'.incidents = e.incidents)
      (hcalls : e'.calls = e.calls) : Effect e (.message healthy ts now) e'
  | noState {t : TickTimes} (hstate : e.state = none) : Effect e (.tick t) e
  | quiet {t : TickTimes} (hhealthy : e.Healthy) (hflag : e.inMemoryFiring = false) :
      Effect e (.tick t) e
  | resolve {t : TickTimes} (hhealthy : e.Healthy) (hflag : e.inMemoryFiring = true) :
      Effect e (.tick t) (e.resolve c t)
  | trigger {t : TickTimes} (hacts : Acts c e (.tick t)) (hhealthy : ¬e.Healthy)
      (hflag : e.inMemoryFiring = true) :
      Effect e (.tick t) { e with calls := e.calls ++ [.triggerHook] }
  | fire {t : TickTimes} {e' : Evaluator} (hacts : Acts c e (.tick t))
      (hflag : e.inMemoryFiring = false) (hflag' : e'.inMemoryFiring = true)
      (hhealthy' : ¬e'.Healthy)
      (hincidents : e'.incidents =
        IncidentIntervals.openInterval c.ttl t.prune t.incident e.incidents)
      (hcalls : e'.calls = e.calls ++ [.triggerHook, .openInterval]) : Effect e (.tick t) e'
  | wait {t : TickTimes} (hhealthy : ¬e.Healthy) (hacts : ¬Acts c e (.tick t))
      (hdrops : e.inMemoryFiring = true → incidentsOf e.calls ≠ [] → Drops c e (.tick t)) :
      Effect e (.tick t) (e.setFiring false)

variable {c} in
theorem not_acts {e : Evaluator} {t : TickTimes} {last : CachedState} (hstate : e.state = some last)
    (hhealthy : last.healthy = false) (hoverdue : overdue c t last = false) :
    ¬Acts c e (.tick t) := by
  rintro ⟨last', hstate', hor⟩
  cases hstate.symm.trans hstate'
  rw [hhealthy, hoverdue] at hor
  exact absurd hor (by decide)

variable {c} in
theorem Drops.not_acts {e : Evaluator} {event : Event} (h : Drops c e event) : ¬Acts c e event := by
  cases event with
  | message => exact h.elim
  | tick t =>
    obtain ⟨-, -, last, hstate, hhealthy, hoverdue⟩ := h
    exact Evaluator.not_acts hstate hhealthy hoverdue

variable {c} in
theorem Acts.of_healthy {e : Evaluator} (h : e.Healthy) (t : TickTimes) : Acts c e (.tick t) := by
  obtain ⟨last, hstate, hhealthy⟩ := Option.map_eq_some_iff.mp h
  exact ⟨last, hstate, .inl hhealthy⟩

theorem step_effect (e : Evaluator) (event : Event) : Effect c e event (e.step c event) := by
  cases event with
  | message healthy ts now =>
    obtain ⟨hflag, hincidents, hcalls⟩ := updateState_frame ⟨healthy, e.inMemoryFiring, ts⟩ e
    exact .message hflag hincidents hcalls
  | tick t =>
    show Effect c e (.tick t) (e.tick c t)
    cases hstate : e.state with
    | none =>
      have hsame : e.tick c t = e := by rw [tick, hstate]
      rw [hsame]
      exact .noState hstate
    | some last =>
      have hhealthy : e.Healthy ↔ last.healthy = true := by
        rw [Healthy, hstate, Option.map_some, Option.some.injEq]
      cases hlast : last.healthy with
      | true =>
        cases hflag : e.inMemoryFiring with
        | true =>
          simp only [tick, hstate, hlast, hflag]
          exact .resolve (hhealthy.mpr hlast) hflag
        | false =>
          rw [tick_of_healthy hstate hlast hflag]
          exact .quiet (hhealthy.mpr hlast) hflag
      | false =>
        have hnot : ¬e.Healthy := by rw [hhealthy, hlast]; decide
        cases hoverdue : overdue c t last with
        | true =>
          cases hflag : e.inMemoryFiring with
          | true =>
            rw [tick_of_firing hstate hlast hoverdue hflag]
            exact .trigger ⟨last, hstate, .inr hoverdue⟩ hnot hflag
          | false =>
            obtain ⟨hflag', hhealthy', hincidents, hcalls⟩ :=
              tick_of_fire hstate hlast hoverdue hflag
            exact .fire ⟨last, hstate, .inr hoverdue⟩ hflag hflag' hhealthy'
              hincidents hcalls
        | false =>
          rw [tick_of_not_overdue hstate hlast hoverdue]
          exact .wait hnot (not_acts hstate hlast hoverdue) fun hflag hopened =>
            ⟨hflag, hopened, last, hstate, hlast, hoverdue⟩

end Effects

end Evaluator

end Opni.Alerting
