/-
  Opni.Alerting.AlarmRuns

  Which runs of an evaluator resolve every alarm that has fired.

  As long as no tick drops an incident, the flag says whether the last
  incident is open (`Good.step`).  After a tick that does, the last incident
  stays open, and the next tick that acts shows it (`not_acts_of_unresolved`).
-/

import Opni.Alerting.Evaluator

namespace Opni.Alerting

namespace Evaluator

/-! ## The property -/

variable (c : EvaluatorConfig) (e : Evaluator) (events : List Event)

/-- At every tick of the run that leaves the stored state healthy, every incident
    opened so far has been closed and resolved once, and none is open in the
    store (if none was at the start); and no incident is opened before the last
    one has been closed. -/
structure FiredIsResolved : Prop where
  resolved : ∀ before t after, events = before ++ .tick t :: after →
    (run c (before ++ [.tick t]) e).Healthy →
      AllResolved (run c (before ++ [.tick t]) e).calls ∧
        (e.Ended → (run c (before ++ [.tick t]) e).Ended)
  never_reopened : ∀ before after, events = before ++ after →
    NeverReopened (run c before e).calls

/-- No tick that acts comes after a tick that drops an incident. -/
def NoActAfterDrop : Prop :=
  ∀ before drop between act after, events = before ++ drop :: (between ++ act :: after) →
    Drops c (run c before e) drop → ¬Acts c (run c (before ++ drop :: between) e) act

/-! ## Runs without dropped incidents -/

/-- The flag says whether the last incident is open, and all others are
    resolved. -/
def Good : Prop :=
  ∀ last older, incidentsOf e.calls = last :: older →
    (∀ incident ∈ older, IsResolved incident) ∧
      (e.inMemoryFiring = true → IsOpen last) ∧ (e.inMemoryFiring = false → IsResolved last)

/-- The incidents of the store that are open are those this evaluator has
    opened: the last one, while the flag is set. -/
def Tracks : Prop :=
  e.Ended ∨
    ((e.incidents.getD []).OnlyLastOpen ∧ e.inMemoryFiring = true ∧ incidentsOf e.calls ≠ [])

variable {c : EvaluatorConfig} {e e' : Evaluator} {event : Event}

theorem Good.effect (h : Good e) (hdrops : ¬Drops c e event) (heffect : Effect c e event e') :
    Good e' := by
  cases heffect with
  | message hflag hincidents hcalls =>
    unfold Good
    rw [hcalls, hflag]
    exact h
  | noState | quiet => exact h
  | resolve hhealthy hflag =>
    -- the last incident gets its closing and its resolution
    intro last older hincs
    rw [Evaluator.resolve, incidentsOf_resolve] at hincs
    obtain ⟨last', hold, rfl⟩ := exists_of_modifyHead_eq hincs
    obtain ⟨holder, hopen, -⟩ := h last' older hold
    exact ⟨holder, fun hfiring => absurd hfiring (by simp [Evaluator.resolve, setFiring]),
      fun _ => (hopen hflag).resolve⟩
  | trigger hacts hhealthy hflag =>
    intro last older hincs
    rw [incidentsOf_trigger] at hincs
    obtain ⟨last', hold, rfl⟩ := exists_of_modifyHead_eq hincs
    obtain ⟨holder, hopen, -⟩ := h last' older hold
    exact ⟨holder, fun _ => (hopen hflag).trigger,
      fun hfiring => absurd (hflag.symm.trans hfiring) (by decide)⟩
  | fire hacts hflag hflag' hhealthy' hincidents hcalls =>
    -- the flag was off, so the incident before the new one is resolved
    intro last older hincs
    rw [hcalls, incidentsOf_fire, List.cons.injEq] at hincs
    obtain ⟨rfl, rfl⟩ := hincs
    refine ⟨fun incident hmem => ?_, fun _ => ⟨rfl, rfl⟩,
      fun hfiring => absurd (hflag'.symm.trans hfiring) (by decide)⟩
    cases hold : incidentsOf e.calls with
    | nil => simp [hold] at hmem
    | cons last' older' =>
      obtain ⟨holder, -, hresolved⟩ := h last' older' hold
      rw [hold, List.modifyHead_cons, List.mem_cons] at hmem
      rcases hmem with rfl | hmem
      · exact (hresolved hflag).trigger
      · exact holder incident hmem
  | wait hhealthy hacts hdrop =>
    -- the flag is taken back; with an incident of this evaluator that is a drop
    intro last older hincs
    have hold : incidentsOf e.calls = last :: older := hincs
    obtain ⟨holder, -, hresolved⟩ := h last older hold
    have hflag : e.inMemoryFiring = false := by
      by_contra hflag
      exact hdrops (hdrop (by simpa using hflag) (by simp [hold]))
    exact ⟨holder, fun hfiring => absurd hfiring (by simp [setFiring]), fun _ => hresolved hflag⟩

theorem Tracks.effect (h : Tracks e) (hdrops : ¬Drops c e event) (heffect : Effect c e event e') :
    Tracks e' := by
  have honly : (e.incidents.getD []).OnlyLastOpen :=
    h.elim IncidentIntervals.Ended.onlyLastOpen And.left
  cases heffect with
  | message hflag hincidents hcalls =>
    unfold Tracks Ended
    rw [hcalls, hflag, hincidents]
    exact h
  | noState | quiet => exact h
  | resolve hhealthy hflag =>
    exact .inl (IncidentIntervals.ended_prune (IncidentIntervals.ended_closed honly))
  | trigger hacts hhealthy hflag =>
    refine h.imp_right fun ⟨_, _, hopened⟩ => ⟨honly, hflag, ?_⟩
    simpa [incidentsOf_trigger] using hopened
  | fire hacts hflag hflag' hhealthy' hincidents hcalls =>
    refine .inr ⟨?_, hflag', by simp [hcalls, incidentsOf_fire]⟩
    rw [hincidents]
    exact IncidentIntervals.onlyLastOpen_prune (IncidentIntervals.onlyLastOpen_opened honly)
  | wait hhealthy hacts hdrop =>
    rcases h with hended | ⟨-, hflag, hopened⟩
    · exact .inl hended
    · exact absurd (hdrop hflag hopened) hdrops

theorem Good.neverReopened (h : Good e) : NeverReopened e.calls := by
  intro incident hmem
  cases hincs : incidentsOf e.calls with
  | nil => simp [hincs] at hmem
  | cons last older =>
    rw [hincs, List.tail_cons] at hmem
    exact ((h last older hincs).1 incident hmem).closed

theorem Good.allResolved (h : Good e) (hflag : e.inMemoryFiring = false) : AllResolved e.calls := by
  intro incident hmem
  cases hincs : incidentsOf e.calls with
  | nil => simp [hincs] at hmem
  | cons last older =>
    obtain ⟨holder, -, hlast⟩ := h last older hincs
    rw [hincs, List.mem_cons] at hmem
    rcases hmem with rfl | hmem
    · exact hlast hflag
    · exact holder incident hmem

theorem calls_of_not_acts (hacts : ¬Acts c e event) (heffect : Effect c e event e') :
    e'.calls = e.calls := by
  cases heffect with
  | message hflag hincidents hcalls => exact hcalls
  | noState | quiet | wait => rfl
  | resolve hhealthy => exact absurd (.of_healthy hhealthy _) hacts
  | trigger hacts' | fire hacts' => exact absurd hacts' hacts

theorem good_or_dropped {events : List Event} (hno : NoActAfterDrop c e events) (hgood : Good e)
    {before after : List Event} (hsplit : events = before ++ after) :
    (Good (run c before e) ∧ (Tracks e → Tracks (run c before e))) ∨
      ((∃ pre drop between, before = pre ++ drop :: between ∧ Drops c (run c pre e) drop) ∧
        NeverReopened (run c before e).calls) := by
  induction before using List.reverseRec generalizing after with
  | nil => exact .inl ⟨hgood, id⟩
  | append_singleton before event ih =>
    rw [List.append_assoc, List.singleton_append] at hsplit
    have heffect := step_effect c (run c before e) event
    rw [run_concat]
    rcases ih hsplit with ⟨hgood', htracks⟩ | ⟨⟨pre, drop, between, rfl, hdrop⟩, hnever⟩
    · by_cases hdrops : Drops c (run c before e) event
      · -- a tick that drops the incident makes no calls
        refine .inr ⟨⟨before, event, [], rfl, hdrops⟩, ?_⟩
        rw [calls_of_not_acts hdrops.not_acts heffect]
        exact hgood'.neverReopened
      · exact .inl ⟨hgood'.effect hdrops heffect, fun h => (htracks h).effect hdrops heffect⟩
    · have hacts := hno pre drop between event after (by rw [hsplit]; simp) hdrop
      refine .inr ⟨⟨pre, drop, between ++ [event], by simp, hdrop⟩, ?_⟩
      rw [calls_of_not_acts hacts heffect]
      exact hnever

theorem healthy_tick {t : TickTimes} (heffect : Effect c e (.tick t) e') (h : e'.Healthy) :
    e.Healthy ∧ e'.inMemoryFiring = false := by
  cases heffect with
  | noState hstate => simp [Healthy, hstate] at h
  | quiet hhealthy hflag => exact ⟨hhealthy, hflag⟩
  | resolve hhealthy hflag => exact ⟨hhealthy, rfl⟩
  | trigger hacts hhealthy | wait hhealthy => exact absurd h hhealthy
  | fire hacts hflag hflag' hhealthy' => exact absurd h hhealthy'

theorem firedIsResolved_of_noActAfterDrop {events : List Event} (hgood : Good e)
    (hno : NoActAfterDrop c e events) : FiredIsResolved c e events where
  resolved before t after hsplit hhealthy := by
    have heffect := step_effect c (run c before e) (.tick t)
    rw [run_concat] at hhealthy ⊢
    obtain ⟨hhealthy', hflag⟩ := healthy_tick heffect hhealthy
    have hacts : Acts c (run c before e) (.tick t) := .of_healthy hhealthy' t
    rcases good_or_dropped hno hgood hsplit with
      ⟨hgood', htracks⟩ | ⟨⟨pre, drop, between, rfl, hdrop⟩, -⟩
    · have hdrops : ¬Drops c (run c before e) (.tick t) := fun h => h.not_acts hacts
      refine ⟨(hgood'.effect hdrops heffect).allResolved hflag, fun hended => ?_⟩
      rcases (htracks (.inl hended)).effect hdrops heffect with hended' | ⟨-, hflag', -⟩
      · exact hended'
      · cases hflag.symm.trans hflag'
    · -- the tick would act after the drop
      exact absurd hacts (hno pre drop between _ after (by rw [hsplit]; simp) hdrop)
  never_reopened before after hsplit := by
    rcases good_or_dropped hno hgood hsplit with ⟨hgood', -⟩ | ⟨-, hnever⟩
    · exact hgood'.neverReopened
    · exact hnever

/-! ## Runs that drop an incident -/

/-- While the flag is set the last incident has not been closed, whatever has
    happened before. -/
def FlagOpen (e : Evaluator) : Prop :=
  e.inMemoryFiring = true → ∀ last older, incidentsOf e.calls = last :: older →
    .closeInterval ∉ last

/-- The flag is off, but the last incident has not been closed. -/
def Unresolved (e : Evaluator) : Prop :=
  e.inMemoryFiring = false ∧ ∃ last older, incidentsOf e.calls = last :: older ∧
    .closeInterval ∉ last

theorem FlagOpen.effect (h : FlagOpen e) (heffect : Effect c e event e') : FlagOpen e' := by
  cases heffect with
  | message hflag hincidents hcalls =>
    unfold FlagOpen
    rw [hcalls, hflag]
    exact h
  | noState | quiet => exact h
  | resolve => exact fun hfiring => absurd hfiring (by simp [Evaluator.resolve, setFiring])
  | trigger hacts hhealthy hflag =>
    intro _ last older hincs
    rw [incidentsOf_trigger] at hincs
    obtain ⟨last', hold, rfl⟩ := exists_of_modifyHead_eq hincs
    simpa using h hflag last' older hold
  | fire hacts hflag hflag' hhealthy' hincidents hcalls =>
    intro _ last older hincs
    rw [hcalls, incidentsOf_fire, List.cons.injEq] at hincs
    rw [← hincs.1]
    simp
  | wait => exact fun hfiring => absurd hfiring (by simp [setFiring])

theorem FlagOpen.run (h : FlagOpen e) (events : List Event) : FlagOpen (run c events e) := by
  induction events generalizing e with
  | nil => exact h
  | cons event events ih => exact ih (h.effect (step_effect c e event))

theorem FlagOpen.unresolved (h : FlagOpen e) (hdrops : Drops c e event) :
    Unresolved (e.step c event) := by
  cases event with
  | message => exact hdrops.elim
  | tick t =>
    obtain ⟨hflag, hopened, last, hstate, hhealthy, hoverdue⟩ := hdrops
    have htick : e.step c (.tick t) = e.setFiring false :=
      tick_of_not_overdue hstate hhealthy hoverdue
    rw [htick]
    cases hincs : incidentsOf e.calls with
    | nil => exact absurd hincs hopened
    | cons last older => exact ⟨rfl, last, older, hincs, h hflag last older hincs⟩

theorem Unresolved.effect (h : Unresolved e) (hacts : ¬Acts c e event)
    (heffect : Effect c e event e') : Unresolved e' := by
  refine ⟨?_, by rw [calls_of_not_acts hacts heffect]; exact h.2⟩
  cases heffect with
  | message hflag => rw [hflag, h.1]
  | noState | quiet => exact h.1
  | resolve | wait => rfl
  | trigger hacts' | fire hacts' => exact absurd hacts' hacts

/-- A tick that acts on an unresolved incident violates the property: a healthy
    state leaves the incident open, an unhealthy one opens another. -/
theorem not_acts_of_unresolved {events before after : List Event} {act : Event}
    (hfired : FiredIsResolved c e events) (hsplit : events = before ++ act :: after)
    (h : Unresolved (run c before e)) : ¬Acts c (run c before e) act := by
  obtain ⟨hflag, last, older, hincs, hopen⟩ := h
  intro hacts
  cases act with
  | message => exact hacts
  | tick t =>
    obtain ⟨state, hstate, hor⟩ := hacts
    cases hhealthy : state.healthy with
    | true =>
      -- the flag is off, so the tick does nothing and the incident stays open
      have hsame : run c (before ++ [.tick t]) e = run c before e := by
        rw [run_concat]
        exact tick_of_healthy hstate hhealthy hflag
      have hresolved := (hfired.resolved before t after hsplit (by
        rw [hsame, Healthy, hstate, Option.map_some, hhealthy])).1
      rw [hsame] at hresolved
      exact hopen (hresolved last (by simp [hincs])).closed
    | false =>
      -- the flag is off, so the tick opens a second incident
      have hoverdue : overdue c t state = true := by simpa [hhealthy] using hor
      have hcalls := (tick_of_fire hstate hhealthy hoverdue hflag).2.2.2
      have hnever := hfired.never_reopened (before ++ [.tick t]) after (by rw [hsplit]; simp)
      rw [run_concat, step, NeverReopened, hcalls, incidentsOf_fire, hincs] at hnever
      have hclosed := hnever (last ++ [.triggerHook]) (by simp)
      rw [List.mem_append, List.mem_singleton] at hclosed
      exact hopen (hclosed.resolve_right (by decide))

theorem noActAfterDrop_of_firedIsResolved {events : List Event} (hflag : FlagOpen e)
    (hfired : FiredIsResolved c e events) : NoActAfterDrop c e events := by
  intro before drop between act after hsplit hdrop
  have hunresolved : Unresolved (run c (before ++ [drop]) e) := by
    rw [run_concat]
    exact (hflag.run before).unresolved hdrop
  -- no tick in between acts, so the incident is still unresolved
  have hbetween : ∀ between rest, events = before ++ [drop] ++ (between ++ rest) →
      Unresolved (run c (before ++ [drop] ++ between) e) := by
    intro between
    induction between using List.reverseRec with
    | nil => exact fun rest _ => by rwa [List.append_nil]
    | append_singleton between event ih =>
      intro rest heq
      have hih := ih (event :: rest) (by rw [heq]; simp)
      have hsplit' : events = before ++ [drop] ++ between ++ event :: rest := by
        rw [heq]
        simp
      have hacts := not_acts_of_unresolved hfired hsplit' hih
      rw [← List.append_assoc, run_concat]
      exact hih.effect hacts (step_effect c _ event)
  have hsplit' : events = before ++ [drop] ++ between ++ act :: after := by
    rw [hsplit]
    simp
  have hact := not_acts_of_unresolved hfired hsplit'
    (hbetween between (act :: after) (by rw [hsplit', List.append_assoc]))
  rwa [List.append_assoc, List.singleton_append] at hact

/-! ## The iff -/

variable (now : Timestamp)

/-- From whatever is stored, a run of messages and ticks resolves every alarm that
    has fired exactly when no tick acts after a tick has dropped an incident. -/
theorem firedIsResolved_iff (c : EvaluatorConfig) (now : Timestamp) (state : Option CachedState)
    (incidents : Option IncidentIntervals) (events : List Event) :
    FiredIsResolved c (calculateInitialState now state incidents) events ↔
      NoActAfterDrop c (calculateInitialState now state incidents) events := by
  have hnone : incidentsOf (calculateInitialState now state incidents).calls = [] :=
    congrArg incidentsOf (updateState_frame _ _).2.2
  constructor
  · refine noActAfterDrop_of_firedIsResolved fun _ last older hincs => ?_
    cases hnone.symm.trans hincs
  · refine firedIsResolved_of_noActAfterDrop fun last older hincs => ?_
    cases hnone.symm.trans hincs

/-! ## A run that leaves an incident open -/

def times : Event → List Timestamp
  | .message _ _ now => [now]
  | .tick t => [t.evaluate, t.update, t.incident, t.prune]

def onTime : Event → Bool
  | .message _ ts now => decide (ts ≤ now)
  | .tick _ => true

/-- The clock never goes back, and no message is later than its arrival. -/
def Timely (start : Timestamp) (events : List Event) : Prop :=
  (start :: events.flatMap times).Pairwise (· ≤ ·) ∧ ∀ event ∈ events, onTime event = true

def tickAt : Event := .tick ⟨now, now, now, now⟩

/-- The condition turns unhealthy, fires eleven seconds later, is looked at
    again two seconds after that, and turns healthy. -/
def droppedRun : List Event :=
  [.message false (1 * second) (1 * second), tickAt (12 * second), tickAt (14 * second),
    .message true (15 * second) (15 * second), tickAt (16 * second)]

/-- With an `evaluateDuration` of ten seconds the incident of this run is never
    closed: the second tick takes the flag back. -/
theorem droppedRun_leaves_incident_open :
    Timely 0 droppedRun ∧
      ¬FiredIsResolved ⟨10 * second, 24 * hour⟩ (calculateInitialState 0 none none) droppedRun := by
  refine ⟨⟨by decide, by decide⟩, fun h => ?_⟩
  obtain ⟨hresolved, -⟩ := h.resolved (droppedRun.take 4) ⟨16 * second, 16 * second, 16 * second,
    16 * second⟩ [] rfl (by decide)
  exact absurd hresolved (by decide)

end Evaluator

end Opni.Alerting
