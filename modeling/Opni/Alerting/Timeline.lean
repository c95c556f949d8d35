/-
  Opni.Alerting.Timeline

  The windows in which an alarm was active, for the timeline
  (`GetActiveWindowsFromIncidentTracker` of
  `pkg/alerting/storage/jetstream/jetstream.go`, and `Timeline` of
  `plugins/alerting/pkg/alerting/api_conditions.go`).
-/

import Opni.Alerting.Clientset
import Opni.Alerting.IncidentIntervals

namespace Opni.Alerting

open Lib

/-! ## Windows -/

inductive TimelineType where
  | unknown | alerting | silenced
deriving DecidableEq

structure ActiveWindow where
  startAt : Option Timestamp
  endAt : Option Timestamp
  type : TimelineType
deriving DecidableEq

variable (start finish : Timestamp)

def activeWindow (step : Interval) : Option ActiveWindow :=
  if step.startAt.getD 0 < start then none
  -- pointers are compared here: those of equal times differ
  else if step.startAt = none ∧ step.endAt = none then none
  else some { startAt := step.startAt, endAt := step.endAt.or (some finish), type := .alerting }

variable (incidents : AlertingStorage IncidentIntervals) (conditionId : String)

def getActiveWindowsFromIncidentTracker (start finish : Timestamp) :
    Except Failure (List ActiveWindow) :=
  (incidents.get conditionId).map fun items => items.filterMap (activeWindow start finish)

/-- The first result of `handleSwitchCortexRules`: the cluster of a metrics alarm, or nil. -/
def handleSwitchCortexRules : Option AlertTypeDetails → Option String
  | some (.kubeState clusterId ..) => some clusterId
  | some (.cpu clusterId ..) | some (.memory clusterId ..) | some (.fs clusterId ..)
  | some (.prometheusQuery clusterId ..) => clusterId
  | _ => none

/-- The goroutine of `Timeline` for a condition: what it yields, if anything. -/
def timelineItem (start finish : Timestamp)
    (cond : AlertCondition) : Option (String × List ActiveWindow) :=
  if handleSwitchCortexRules cond.alertType ≠ none then none
  else match getActiveWindowsFromIncidentTracker incidents cond.id start finish with
    -- the error is logged
    | .error _ => none
    | .ok activeWindows => some (cond.id, activeWindows)

/-- `Timeline`, with the two readings of the clock, the order in which the goroutines yield, and
    the error of the context if it is done before the values have all been received. -/
def timeline (st : Stores) (incidents : AlertingStorage IncidentIntervals) (keys : Scheduler Path)
    (yields : Scheduler (String × List ActiveWindow)) (ctxErr : Option Failure)
    (lookbackWindow : Option Duration) (now now' : Timestamp) :
    Except Failure (GoMap String (List ActiveWindow)) :=
  match lookbackWindow with
  | none => invalid "lookbackWindow must be set"
  | some lookback =>
    if lookback.tdiv second = 0 then invalid "lookbackWindow must have a non zero time"
    else match st.conditions.list keys with
      | .error err => .error err
      | .ok conditions =>
        match ctxErr with
        | some err => .error err
        | none => .ok (GoMap.ofList Prod.fst Prod.snd
            (yields.order (conditions.filterMap (timelineItem incidents (now - lookback) now'))))

/-- What the goroutines have yielded for an id does not depend on their order. -/
theorem lookup_yielded (yields : Scheduler (String × List ActiveWindow))
    (conditions : List AlertCondition) (start finish : Timestamp) (id : String)
    (windows : List ActiveWindow) :
    (GoMap.ofList Prod.fst Prod.snd (yields.order (conditions.filterMap
        (timelineItem incidents start finish)))).lookup id = some windows ↔
      (∃ cond ∈ conditions, cond.id = id ∧ handleSwitchCortexRules cond.alertType = none) ∧
        getActiveWindowsFromIncidentTracker incidents id start finish = .ok windows := by
  have hyields : ∀ {id windows}, (id, windows) ∈ yields.order (conditions.filterMap
      (timelineItem incidents start finish)) ↔ (∃ cond ∈ conditions, cond.id = id ∧
        handleSwitchCortexRules cond.alertType = none) ∧
      getActiveWindowsFromIncidentTracker incidents id start finish = .ok windows := by
    simp only [(yields.perm _).mem_iff, List.mem_filterMap, timelineItem]
    grind
  rw [← hyields]
  constructor
  · intro hlookup
    obtain ⟨⟨id', windows'⟩, hmem, rfl, rfl⟩ := GoMap.exists_of_lookup_ofList hlookup
    exact hmem
  · intro hmem
    have hin : id ∈ GoMap.ofList Prod.fst Prod.snd (yields.order _) :=
      GoMap.mem_ofList.mpr ⟨_, hmem, rfl⟩
    obtain ⟨windows', hlookup⟩ := GoMap.mem_iff.mp hin
    obtain ⟨⟨id', _⟩, hmem', rfl, rfl⟩ := GoMap.exists_of_lookup_ofList hlookup
    -- the windows are determined by the id
    have hsame := (hyields.mp hmem').2.symm.trans (hyields.mp hmem).2
    rw [hlookup, Except.ok.inj hsame]

/-- `Timeline` fails only for a missing or too short lookback, if the conditions cannot be listed or
    if the context is done.  Otherwise it has the windows of each condition that has incidents and
    is no metrics alarm of a cluster, in whatever order its goroutines yield. -/
theorem timeline_shows_conditions (st : Stores) (keys : Scheduler Path)
    (yields : Scheduler (String × List ActiveWindow)) (ctxErr : Option Failure)
    (lookbackWindow : Option Duration) (now now' : Timestamp) :
    (∃ err, timeline st incidents keys yields ctxErr lookbackWindow now now' = .error err ∧
      ((∀ lookback, lookbackWindow = some lookback → lookback.tdiv second = 0) ∨
        st.conditions.list keys = .error err ∨ ctxErr = some err)) ∨
    ∃ lookback conditions items, lookbackWindow = some lookback ∧
      st.conditions.list keys = .ok conditions ∧
      timeline st incidents keys yields ctxErr lookbackWindow now now' = .ok items ∧
      ∀ id windows, items.lookup id = some windows ↔
        (∃ cond ∈ conditions, cond.id = id ∧ handleSwitchCortexRules cond.alertType = none) ∧
        getActiveWindowsFromIncidentTracker incidents id (now - lookback) now' = .ok windows := by
  cases lookbackWindow with
  | none => exact .inl ⟨_, rfl, .inl (by simp)⟩
  | some lookback =>
    by_cases hlookback : lookback.tdiv second = 0
    · exact .inl ⟨_, if_pos hlookback, .inl (by simpa using hlookback)⟩
    cases hlist : st.conditions.list keys with
    | error err =>
      refine .inl ⟨err, ?_, .inr (.inl rfl)⟩
      simp only [timeline, if_neg hlookback, hlist]
    | ok conditions =>
      cases ctxErr with
      | some err =>
        refine .inl ⟨err, ?_, .inr (.inr rfl)⟩
        simp only [timeline, if_neg hlookback, hlist]
      | none =>
        refine .inr ⟨lookback, conditions, _, rfl, rfl, ?_,
          lookup_yielded incidents yields conditions (now - lookback) now'⟩
        simp only [timeline, if_neg hlookback, hlist]

/-! ## Showing the incidents in a range -/

def ActiveWindow.ShownAt (w : ActiveWindow) (t : Timestamp) : Prop :=
  ∃ s e, w.startAt = some s ∧ w.endAt = some e ∧ s ≤ t ∧ t < e

def Interval.ActiveAt (i : Interval) (t : Timestamp) : Prop :=
  (∃ s, i.startAt = some s ∧ s ≤ t) ∧ ∀ e, i.endAt = some e → t < e

variable (items : IncidentIntervals)

/-- The windows show the incidents in the range, and those only; and none of them, unless
    it is of length zero, reaches outside. -/
structure ShowsIncidents (windows : List ActiveWindow) : Prop where
  shown_iff : ∀ t, (∃ w ∈ windows, w.ShownAt t) ↔
    ∃ i ∈ items, i.ActiveAt t ∧ start ≤ t ∧ t < finish
  within : ∀ w ∈ windows, w.startAt ≠ w.endAt → ∀ t, w.startAt = some t ∨ w.endAt = some t →
    start ≤ t ∧ t ≤ finish

/-- An incident that began before the range is active in it only while one that began in
    it is. -/
def BegunEarlier : Prop :=
  ∀ i ∈ items, ∀ s, i.startAt = some s → s < start →
    ∀ t, i.ActiveAt t → start ≤ t → t < finish →
      ∃ j ∈ items, (∃ s', j.startAt = some s' ∧ start ≤ s') ∧ j.ActiveAt t

/-- An incident that begins in the range or later ends in it, or begins in it if it is
    open. -/
def EndsInRange : Prop :=
  ∀ i ∈ items, ∀ s, i.startAt = some s → start ≤ s → i.endAt ≠ some s →
    s ≤ finish ∧ ∀ e, i.endAt = some e → e ≤ finish

theorem activeWindow_eq_some {start finish : Timestamp} {i : Interval} (h : i.Proper)
    {w : ActiveWindow} : activeWindow start finish i = some w ↔
      (∃ s, i.startAt = some s ∧ start ≤ s) ∧
        w = ⟨i.startAt, some (i.endAt.getD finish), .alerting⟩ := by
  obtain ⟨s, hs, -⟩ := h
  have hend : i.endAt.or (some finish) = some (i.endAt.getD finish) := by
    cases i.endAt <;> rfl
  rw [activeWindow, hs, Option.getD_some, hend]
  by_cases hlt : s < start
  · rw [if_pos hlt]
    lia
  · rw [if_neg hlt, if_neg (by simp), Option.some.injEq, eq_comm]
    exact ⟨fun heq => ⟨⟨s, rfl, not_lt.mp hlt⟩, heq⟩, fun h => h.2⟩

section Range

variable {start finish : Timestamp} {items : IncidentIntervals}

theorem mem_windows (h : ∀ i ∈ items, i.Proper) {w : ActiveWindow} :
    w ∈ items.filterMap (activeWindow start finish) ↔
      ∃ i ∈ items, (∃ s, i.startAt = some s ∧ start ≤ s) ∧
        w = ⟨i.startAt, some (i.endAt.getD finish), .alerting⟩ := by
  rw [List.mem_filterMap]
  apply exists_congr
  intro i
  apply and_congr_right
  intro hi
  exact activeWindow_eq_some (h i hi)

theorem shownAt_window {i : Interval} {t : Timestamp} :
    ActiveWindow.ShownAt ⟨i.startAt, some (i.endAt.getD finish), .alerting⟩ t ↔
      i.ActiveAt t ∧ (i.endAt = none → t < finish) := by
  cases hend : i.endAt with
  | none | some e => simp [ActiveWindow.ShownAt, Interval.ActiveAt, hend, ← and_assoc]

theorem fitsRange_of_showsIncidents (h : ∀ i ∈ items, i.Proper)
    (hshows : ShowsIncidents start finish items (items.filterMap (activeWindow start finish))) :
    BegunEarlier start finish items ∧ EndsInRange start finish items := by
  refine ⟨?_, ?_⟩
  · intro i hi s hs hlt t hactive hstart hfinish
    obtain ⟨w, hw, hshown⟩ := (hshows.shown_iff t).mpr ⟨i, hi, hactive, hstart, hfinish⟩
    obtain ⟨j, hj, hbegins, rfl⟩ := (mem_windows h).mp hw
    exact ⟨j, hj, hbegins, (shownAt_window.mp hshown).1⟩
  · intro i hi s hs hle hend
    have hw : (⟨i.startAt, some (i.endAt.getD finish), .alerting⟩ : ActiveWindow) ∈
        items.filterMap (activeWindow start finish) :=
      (mem_windows h).mpr ⟨i, hi, ⟨s, hs, hle⟩, rfl⟩
    have hwithin := hshows.within _ hw
    cases hclosed : i.endAt with
    | some e =>
      have hne : s ≠ e := by
        rintro rfl
        exact hend hclosed
      have hends := hwithin (by simpa [hs, hclosed] using hne)
      have he := (hends e (.inr (by simp [hclosed]))).2
      refine ⟨(hends s (.inl hs)).2, ?_⟩
      intro e' he'
      exact Option.some.inj he' ▸ he
    | none =>
      by_contra hlate
      have hne : s ≠ finish := by lia
      have hends := hwithin (by simp [hs, hclosed, hne]) s (.inl hs)
      lia

theorem showsIncidents_of_fitsRange (h : ∀ i ∈ items, i.Proper)
    (hbegun : BegunEarlier start finish items) (hends : EndsInRange start finish items) :
    ShowsIncidents start finish items (items.filterMap (activeWindow start finish)) := by
  refine ⟨?_, ?_⟩
  · intro t
    apply Iff.intro
    · rintro ⟨w, hw, hshown⟩
      obtain ⟨i, hi, ⟨s, hs, hle⟩, rfl⟩ := (mem_windows h).mp hw
      obtain ⟨hactive, hopen⟩ := shownAt_window.mp hshown
      obtain ⟨s', hs', hst⟩ := hactive.1
      refine ⟨i, hi, hactive, by lia, ?_⟩
      cases hclosed : i.endAt with
      | none => exact hopen hclosed
      | some e =>
        have hte := hactive.2 e hclosed
        have hne : i.endAt ≠ some s := by
          lia
        have hef := (hends i hi s hs hle hne).2 e hclosed
        lia
    · rintro ⟨i, hi, hactive, hstart, hfinish⟩
      -- an incident that began earlier is shown by another one
      obtain ⟨j, hj, hbegins, hactive'⟩ : ∃ j ∈ items,
          (∃ s', j.startAt = some s' ∧ start ≤ s') ∧ j.ActiveAt t := by
        obtain ⟨s, hs, -⟩ := h i hi
        by_cases hlt : s < start
        · exact hbegun i hi s hs hlt t hactive hstart hfinish
        · exact ⟨i, hi, ⟨s, hs, not_lt.mp hlt⟩, hactive⟩
      exact ⟨_, (mem_windows h).mpr ⟨j, hj, hbegins, rfl⟩,
        shownAt_window.mpr ⟨hactive', fun _ => hfinish⟩⟩
  · intro w hw hne t ht
    obtain ⟨i, hi, ⟨s, hs, hle⟩, rfl⟩ := (mem_windows h).mp hw
    obtain ⟨s', hs', hproper⟩ := h i hi
    have hend : i.endAt ≠ some s := by
      intro heq
      exact hne (by simp [hs, heq])
    obtain ⟨hsf, hef⟩ := hends i hi s hs hle hend
    simp only [hs, Option.some.injEq] at ht
    rcases ht with rfl | rfl
    · exact ⟨hle, hsf⟩
    · cases hclosed : i.endAt with
      | none => exact ⟨by simp only [Option.getD_none]; lia, le_rfl⟩
      | some e =>
        have hse := hproper e hclosed
        exact ⟨by simp only [Option.getD_some]; lia, hef e hclosed⟩

/-- Of incidents that do not overlap, none may have begun before the range and be active
    in it. -/
theorem begunEarlier_iff_of_sorted (h : items.Sorted) :
    BegunEarlier start finish items ↔
      ∀ i ∈ items, ∀ s, i.startAt = some s → s < start →
        ∀ t, i.ActiveAt t → start ≤ t → finish ≤ t := by
  have hapart : ∀ i ∈ items, ∀ j ∈ items, i ≠ j → i.Before j ∨ j.Before i := by
    have hsymm : items.Pairwise fun i j => i.Before j ∨ j.Before i := h.before.imp .inl
    have : Std.Symm fun i j : Interval => i.Before j ∨ j.Before i := ⟨fun _ _ => Or.symm⟩
    intro i hi j hj hne
    exact hsymm.forall hi hj hne
  apply Iff.intro
  · intro hbegun i hi s hs hlt t hactive hstart
    by_contra hfinish
    obtain ⟨j, hj, ⟨s', hs', hle⟩, hactive'⟩ :=
      hbegun i hi s hs hlt t hactive hstart (not_le.mp hfinish)
    have hne : i ≠ j := by
      lia
    obtain ⟨s'', hs'', hst⟩ := hactive'.1
    rcases hapart i hi j hj hne with ⟨e, sj, he, hsj, hes⟩ | ⟨e, si, he, hsi, hes⟩
    · have hte := hactive.2 e he
      lia
    · have hte := hactive'.2 e he
      lia
  · intro hnone i hi s hs hlt t hactive hstart hfinish
    have := hnone i hi s hs hlt t hactive hstart
    lia

end Range

/-- The windows of the stored incidents show them in the range exactly if those that begin
    in the range end there, and one that began earlier is active only while one that began
    in the range is; so, if they do not overlap, not at all.  Whether they are sorted does
    not matter. -/
theorem activeWindows_iff {incidents : AlertingStorage IncidentIntervals} {conditionId : String}
    {items : IncidentIntervals} (hget : incidents.get conditionId = .ok items)
    (h : ∀ i ∈ items, i.Proper) (start finish : Timestamp) :
    ∃ windows,
      getActiveWindowsFromIncidentTracker incidents conditionId start finish = .ok windows ∧
      (ShowsIncidents start finish items windows ↔
        BegunEarlier start finish items ∧ EndsInRange start finish items) ∧
      (items.Sorted → (BegunEarlier start finish items ↔
        ∀ i ∈ items, ∀ s, i.startAt = some s → s < start →
          ∀ t, i.ActiveAt t → start ≤ t → finish ≤ t)) := by
  refine ⟨items.filterMap (activeWindow start finish), ?_, ?_, begunEarlier_iff_of_sorted⟩
  · rw [getActiveWindowsFromIncidentTracker, hget]
    rfl
  · apply Iff.intro
    · exact fitsRange_of_showsIncidents h
    · rintro ⟨hbegun, hends⟩
      exact showsIncidents_of_fitsRange h hbegun hends

def trackerOf (items : IncidentIntervals) :
    AlertingStorage IncidentIntervals :=
  (AlertingStorage.empty conditionPrefixV1).put conditionId items

/-- An incident before the range, one in the middle of it and one that is open. -/
theorem activeWindows_inside :
    let items : IncidentIntervals := [⟨some (-3), some (-1)⟩, ⟨some 2, some 5⟩, ⟨some 7, none⟩]
    ∃ windows, getActiveWindowsFromIncidentTracker (trackerOf "a" items) "a" 0 10 = .ok windows ∧
      ShowsIncidents 0 10 items windows := by
  intro items
  have hget : (trackerOf "a" items).get "a" = .ok items := by decide
  obtain ⟨windows, hwindows, hiff, -⟩ :=
    activeWindows_iff hget (by simp [items, Interval.Proper]) 0 10
  refine ⟨windows, hwindows, hiff.mpr ⟨?_, ?_⟩⟩
  · -- the first one is over when the range begins
    simp only [BegunEarlier, items, List.forall_mem_cons, Option.some.injEq, Interval.ActiveAt]
    refine ⟨fun s _ _ t hactive hstart => ?_, ?_, ?_, by simp⟩
    · exact absurd (hactive.2 (-1) rfl) (by lia)
    · lia
    · lia
  · simp [EndsInRange, items]

/-- An incident that is open since before the range is not shown. -/
theorem activeWindows_skip_open :
    getActiveWindowsFromIncidentTracker (trackerOf "a" [⟨some 2, none⟩]) "a" 5 10 = .ok [] ∧
      ¬ShowsIncidents 5 10 [⟨some 2, none⟩] [] := by
  refine ⟨by decide, ?_⟩
  intro h
  have hactive : Interval.ActiveAt ⟨some 2, none⟩ 5 := ⟨⟨2, rfl, by decide⟩, by simp⟩
  obtain ⟨w, hw, -⟩ :=
    (h.shown_iff 5).mpr ⟨_, List.mem_singleton_self _, hactive, by decide, by decide⟩
  cases hw

end Opni.Alerting
