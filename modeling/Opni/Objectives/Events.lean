/-
  Opni.Objectives.Events

  The events of a service level objective, and the queries for them
  (`plugins/slo/pkg/slo/simple.go`, `util.go`,
  `plugins/slo/pkg/apis/slo/validate.go`).
-/

import Mathlib.Algebra.Field.Rat
import Mathlib.Algebra.Order.Ring.Rat
import Opni.Lib.Matchers
import Opni.Objectives.Plugin

namespace Opni.Objectives

open Lib

/-! ## Events -/

/-- `Event`; a slice is none if it is nil. -/
structure Event where
  key : String
  vals : Option (List String)
deriving DecidableEq

def Event.alternatives (e : Event) : List String := e.vals.getD []

def leftJoinSlice (arr1 arr2 : List String) : List String :=
  arr1 ++ arr2.filter fun v => v ∉ arr1

/-- `append` to a slice; a nil slice stays nil if nothing is appended. -/
def appendSlice {α : Type} (s : Option (List α)) (xs : List α) : Option (List α) :=
  if xs = [] then s else some (s.getD [] ++ xs)

section Matching

variable (indexGood : GoMap String (Option (List String)))

/-- The loop over the total events: what is appended to the good events, and the total events
    as they are left. -/
def matchTotals : List Event → List Event × List Event
  | [] => ([], [])
  | t :: totalEvents =>
    let r := matchTotals totalEvents
    match t.vals with
    | none => (r.1, t :: r.2)
    | some vals =>
      if t.key = "" then (r.1, t :: r.2)
      else match indexGood.lookup t.key with
        -- event type defined on good and total
        | some good => (r.1, ⟨t.key, some (leftJoinSlice (good.getD []) vals)⟩ :: r.2)
        | none => (t :: r.1, t :: r.2)

end Matching

variable (goodEvents : Option (List Event))

/-- `indexGood`, in which the last event of a key stays. -/
def indexEvents : GoMap String (Option (List String)) :=
  .ofList Event.key Event.vals (goodEvents.getD [])

def toMatchingSubsetIdenticalMetric (totalEvents : List Event) :
    Option (List Event) × List Event :=
  let r := matchTotals (indexEvents goodEvents) totalEvents
  (appendSlice goodEvents r.1, r.2)

/-! ## Objectives -/

inductive Double where
  | nan
  | negInf
  | posInf
  | finite (q : ℚ)
deriving DecidableEq

/-- `x < q`; nothing is less than NaN. -/
def Double.lessThan (q : ℚ) : Double → Bool
  | .nan | .posInf => false
  | .negInf => true
  | .finite x => x < q

/-- `x > q`. -/
def Double.greaterThan (q : ℚ) : Double → Bool
  | .nan | .negInf => false
  | .posInf => true
  | .finite x => x > q

/-- The rest of a `ServiceLevelObjective`. -/
structure Details where
  target : Option Double
  serviceId : String
  goodMetricName : String
  totalMetricName : String
  goodEvents : Option (List Event)
  totalEvents : List Event
  /-- The names of the labels. -/
  labels : List String
  /-- In nanoseconds. -/
  budgetingInterval : Int
  /-- What `AttachedEndpoints.Validate` says, if there are any. -/
  endpointsError : Option Status
deriving DecidableEq

variable (d : Details)

/-- `CreateSLORequestToStruct` and `SLODataToStruct` match the events of one metric. -/
def Details.matched : Details :=
  if d.goodMetricName = d.totalMetricName then
    let r := toMatchingSubsetIdenticalMetric d.goodEvents d.totalEvents
    { d with goodEvents := r.1, totalEvents := r.2 }
  else d

@[simp] theorem Details.serviceId_matched : d.matched.serviceId = d.serviceId := by
  unfold matched
  split <;> rfl

@[simp] theorem Details.goodMetricName_matched : d.matched.goodMetricName = d.goodMetricName := by
  unfold matched
  split <;> rfl

@[simp] theorem Details.totalMetricName_matched :
    d.matched.totalMetricName = d.totalMetricName := by
  unfold matched
  split <;> rfl

def validateGoodEvent (e : Event) : Option Status :=
  if e.key = "" then some ⟨.invalidArgument, "If an event is provided, its key must be set"⟩
  else if "" ∈ e.alternatives then
    some ⟨.invalidArgument, "If an event is provided, one of its values cannot be empty"⟩
  else none

/-- `ServiceLevelObjective.Validate`; `parseDuration` is the one of Prometheus. -/
def validate (parseDuration : String → Option Int) (slo : ServiceLevelObjective Details) :
    Option Status :=
  let invalid (message : String) : Option Status := some ⟨.invalidArgument, message⟩
  let d := slo.rest
  match d.target with
  | none => invalid "Target must be set for an SLO"
  | some target =>
    if target.lessThan 0 ∨ target.greaterThan 100 then
      invalid "objective must be between 0 and 100"
    else if slo.sloPeriod = "" then invalid "sloPeriod must be set"
    else if parseDuration slo.sloPeriod = none then
      invalid "Passed in sloPeriod string is not a valid prometheus duration"
    else if slo.datasource ≠ "monitoring" ∧ slo.datasource ≠ "logging" then
      some errInvalidDatasource
    else if slo.name = "" then invalid "slo name must be set"
    else if d.serviceId = "" then invalid "service must be set"
    else if d.goodMetricName = "" then invalid "goodMetricName must be set"
    else if d.totalMetricName = "" then invalid "totalMetricName must be set"
    else if slo.clusterId = "" then invalid "clusterId must be set"
    else match d.goodEvents with
      | none => invalid "goodEvents must always be set for creating an SLO"
      | some events =>
        match events.findSome? validateGoodEvent with
        | some err => some err
        | none =>
          if d.budgetingInterval < 60000000000 ∨ d.budgetingInterval > 3600000000000 then
            invalid "budgetingInterval must be between 1 minute and 1 hour"
          else d.endpointsError

/-! ## Queries -/

section Queries

-- a pattern fully matches a label
variable (fullMatch : String → String → Prop)

/-- A pattern of alternatives; without any it is empty, and matches the empty label. -/
def Alternation (vals : List String) (label : String) : Prop :=
  if vals = [] then label = "" else ∃ v ∈ vals, fullMatch v label

/-- The matchers of `LabelPairs.Construct`. -/
def construct (events : List Event) : List (Matcher String String) :=
  (events.filter fun e => e.key ≠ "").map fun e => ⟨e.key, Alternation fullMatch e.alternatives⟩

/-- The selector of `simpleQueryTpl`. -/
def simpleQuery (metric jobId : String) (events : List Event) : List (Matcher String String) :=
  ⟨"__name__", (· = metric)⟩ :: ⟨"job", (· = jobId)⟩ :: construct fullMatch events

variable (d : Details)

def rawGoodEventsQuery : List (Matcher String String) :=
  simpleQuery fullMatch d.goodMetricName d.serviceId (d.goodEvents.getD [])

def rawTotalEventsQuery : List (Matcher String String) :=
  simpleQuery fullMatch d.totalMetricName d.serviceId d.totalEvents

/-- The good query is within the total query, and so the error ratio that `RawSLIQuery` records
    is not negative, whatever the series and their rates. -/
def GoodWithinTotal : Prop :=
  (∀ labels, Matcher.Selects (rawGoodEventsQuery fullMatch d) labels →
    Matcher.Selects (rawTotalEventsQuery fullMatch d) labels) ∧
  ∀ (series : Finset (String → String)) (rate : (String → String) → ℚ),
    (∀ labels, 0 ≤ rate labels) →
    0 < Matcher.total (rawTotalEventsQuery fullMatch d) series rate →
    0 ≤ 1 - Matcher.total (rawGoodEventsQuery fullMatch d) series rate /
      Matcher.total (rawTotalEventsQuery fullMatch d) series rate

/-- What a total event asks of the good query, which admits some values for its key: without
    values, that it admits none but the empty one; with values, but where the last good event of
    the key has none, that it does not admit the empty one, or that one of the values matches it. -/
def Event.Covered (goodEvents : Option (List Event)) (admits : String → Prop) (t : Event) : Prop :=
  match t.vals with
  | none => ∀ label, admits label → label = ""
  | some vals =>
    ((indexEvents goodEvents).lookup t.key).map (·.getD []) = some [] → vals ≠ [] →
      admits "" → ∃ v ∈ vals, fullMatch v ""

/-- The good query selects nothing, or all total events with a key are covered. -/
def EventsCovered : Prop :=
  (∀ labels, ¬Matcher.Selects (rawGoodEventsQuery fullMatch d.matched) labels) ∨
    ∀ t ∈ d.totalEvents, t.key ≠ "" →
      t.Covered fullMatch d.goodEvents
        (Matcher.Admits (rawGoodEventsQuery fullMatch d.matched) t.key)

end Queries

/-! ## What the matching does -/

section Matched

variable {fullMatch : String → String → Prop} {indexGood : GoMap String (Option (List String))}
  {goodEvents : Option (List Event)} {totalEvents : List Event} {t e : Event} {label : String}
  {v : String} {vals : List String} {metric jobId : String}

@[simp]
theorem leftJoinSlice_nil (arr : List String) : leftJoinSlice [] arr = arr := by
  simp [leftJoinSlice]

def Event.reconciled (indexGood : GoMap String (Option (List String))) (t : Event) : Event :=
  match t.vals with
  | none => t
  | some vals =>
    if t.key = "" then t
    else match indexGood.lookup t.key with
      | some good => ⟨t.key, some (leftJoinSlice (good.getD []) vals)⟩
      | none => t

theorem Event.reconciled_key : (t.reconciled indexGood).key = t.key := by
  unfold Event.reconciled
  split
  · rfl
  · split
    · rfl
    · split <;> rfl

theorem matchTotals_snd :
    (matchTotals indexGood totalEvents).2 = totalEvents.map (·.reconciled indexGood) := by
  induction totalEvents with
  | nil => rfl
  | cons t totalEvents ih =>
    rw [matchTotals, List.map_cons, ← ih, Event.reconciled]
    cases t.vals with
    | none => rfl
    | some vals =>
      by_cases hkey : t.key = ""
      · simp only [if_pos hkey]
      · simp only [if_neg hkey]
        cases indexGood.lookup t.key <;> rfl

theorem mem_matchTotals_fst (hmem : t ∈ totalEvents) (hvals : t.vals = some vals)
    (hkey : t.key ≠ "") (hlookup : indexGood.lookup t.key = none) :
    t ∈ (matchTotals indexGood totalEvents).1 := by
  induction totalEvents with
  | nil => cases hmem
  | cons u totalEvents ih =>
    rw [matchTotals]
    rcases List.mem_cons.mp hmem with rfl | hmem
    · simp [hvals, hkey, hlookup]
    · have ih := ih hmem
      -- whatever the loop does with `u`, it keeps what it has appended
      split
      · exact ih
      · split
        · exact ih
        · split
          · exact ih
          · exact List.mem_cons_of_mem u ih

theorem mem_construct (hmem : e ∈ totalEvents) (hkey : e.key ≠ "") :
    ⟨e.key, Alternation fullMatch e.alternatives⟩ ∈ construct fullMatch totalEvents :=
  List.mem_map.mpr ⟨e, List.mem_filter.mpr ⟨hmem, by simpa using hkey⟩, rfl⟩

theorem alternation_of_admits (hmem : e ∈ totalEvents) (hkey : e.key ≠ "")
    (h : Matcher.Admits (simpleQuery fullMatch metric jobId totalEvents) e.key label) :
    Alternation fullMatch e.alternatives label :=
  h ⟨e.key, Alternation fullMatch e.alternatives⟩
    (.tail _ (.tail _ (mem_construct hmem hkey))) rfl

/-- A good event of the key is joined to the total event: its values are accepted, but for the
    empty label if there are none. -/
theorem joined_iff_covered {good : Option (List String)} {admits : String → Prop}
    (hvals : t.vals = some vals) (hlookup : (indexEvents goodEvents).lookup t.key = some good)
    (hadmits : ∀ label, admits label → Alternation fullMatch (good.getD []) label) :
    (∀ label, admits label →
      Alternation fullMatch (leftJoinSlice (good.getD []) vals) label) ↔
      t.Covered fullMatch goodEvents admits := by
  rw [Event.Covered, hvals]
  rw [hlookup, Option.map_some]
  by_cases hgood : good.getD [] = []
  · -- only the empty label is admitted
    rw [hgood, leftJoinSlice_nil]
    have hempty : ∀ label, admits label → label = "" := by
      intro label hlabel
      have h := hadmits label hlabel
      rw [hgood] at h
      exact h
    constructor
    · intro h _ hne hadmitted
      have h := h "" hadmitted
      rwa [Alternation, if_neg hne] at h
    · intro h label hlabel
      obtain rfl := hempty label hlabel
      by_cases hne : vals = []
      · rw [hne]
        rfl
      · rw [Alternation, if_neg hne]
        exact h rfl hne hlabel
  · refine iff_of_true (fun label hlabel => ?_) fun h => absurd (Option.some.inj h) hgood
    have h := hadmits label hlabel
    rw [Alternation, if_neg hgood] at h
    obtain ⟨v, hv, hmatch⟩ := h
    have hjoin : v ∈ leftJoinSlice (good.getD []) vals := List.mem_append_left _ hv
    rw [Alternation, if_neg (List.ne_nil_of_mem hjoin)]
    exact ⟨v, hjoin, hmatch⟩

/-- The matcher of a total event accepts what the good query admits, just if it is covered. -/
theorem accepts_iff_covered (hmem : t ∈ totalEvents) (hkey : t.key ≠ "") :
    (∀ label, Matcher.Admits (simpleQuery fullMatch metric jobId
        (goodEvents.getD [] ++ (matchTotals (indexEvents goodEvents) totalEvents).1)) t.key label →
      Alternation fullMatch (t.reconciled (indexEvents goodEvents)).alternatives label) ↔
    t.Covered fullMatch goodEvents (Matcher.Admits (simpleQuery fullMatch metric jobId
      (goodEvents.getD [] ++ (matchTotals (indexEvents goodEvents) totalEvents).1)) t.key) := by
  cases hvals : t.vals with
  | none =>
    rw [Event.Covered, Event.reconciled, hvals]
    rw [Event.alternatives, hvals]
    rfl
  | some vals =>
    cases hlookup : (indexEvents goodEvents).lookup t.key with
    | some good =>
      have hreconciled : (t.reconciled (indexEvents goodEvents)).alternatives =
          leftJoinSlice (good.getD []) vals := by
        simp [Event.reconciled, hvals, hkey, hlookup, Event.alternatives]
      rw [hreconciled]
      refine joined_iff_covered hvals hlookup fun label hlabel => ?_
      -- the event that the index has kept is one of the good query
      obtain ⟨g, hg, hgkey, hgvals⟩ := GoMap.exists_of_lookup_ofList hlookup
      rw [← hgkey] at hlabel
      have halternation := alternation_of_admits (List.mem_append_left _ hg)
        (hgkey ▸ hkey) hlabel
      rwa [Event.alternatives, hgvals] at halternation
    | none =>
      have hreconciled : t.reconciled (indexEvents goodEvents) = t := by
        simp [Event.reconciled, hvals, hkey, hlookup]
      rw [hreconciled, Event.Covered, hvals]
      rw [hlookup]
      refine iff_of_true (fun label hlabel => ?_) (fun h => by cases h)
      exact alternation_of_admits
        (List.mem_append_right _ (mem_matchTotals_fst hmem hvals hkey hlookup)) hkey hlabel

end Matched

/-! ## Results -/

section Results

variable (fullMatch : String → String → Prop) (d : Details)

/-- For an objective of one metric the good query is within the total query, just if its total
    events are covered. -/
theorem good_within_total_iff (hmetric : d.goodMetricName = d.totalMetricName) :
    GoodWithinTotal fullMatch d.matched ↔ EventsCovered fullMatch d := by
  have hgood : rawGoodEventsQuery fullMatch d.matched =
      simpleQuery fullMatch d.totalMetricName d.serviceId (d.goodEvents.getD [] ++
        (matchTotals (indexEvents d.goodEvents) d.totalEvents).1) := by
    rw [rawGoodEventsQuery, Details.matched, if_pos hmetric, ← hmetric]
    dsimp only [toMatchingSubsetIdenticalMetric]
    unfold appendSlice
    split
    next hnil => rw [hnil, List.append_nil]
    · rfl
  have htotal : rawTotalEventsQuery fullMatch d.matched =
      simpleQuery fullMatch d.totalMetricName d.serviceId
        (d.totalEvents.map (·.reconciled (indexEvents d.goodEvents))) := by
    rw [rawTotalEventsQuery, Details.matched, if_pos hmetric]
    dsimp only [toMatchingSubsetIdenticalMetric]
    rw [matchTotals_snd]
  -- the ratio follows from the inclusion
  have hratio : GoodWithinTotal fullMatch d.matched ↔
      ∀ labels, Matcher.Selects (rawGoodEventsQuery fullMatch d.matched) labels →
        Matcher.Selects (rawTotalEventsQuery fullMatch d.matched) labels :=
    ⟨And.left, fun hwithin => ⟨hwithin, fun _ _ hrate hpos =>
      Matcher.one_sub_ratio_nonneg hwithin hrate hpos⟩⟩
  rw [hratio, Matcher.selects_imp_iff, EventsCovered]
  refine or_congr_right ?_
  rw [hgood, htotal]
  constructor
  · intro h t ht hkey
    rw [← accepts_iff_covered ht hkey]
    have hmem := List.mem_map_of_mem (f := (·.reconciled (indexEvents d.goodEvents))) ht
    intro label hlabel
    refine h _ (.tail _ (.tail _
      (mem_construct hmem (by rwa [Event.reconciled_key])))) label ?_
    rwa [Event.reconciled_key]
  · intro h m hm label hlabel
    -- the metric and the job are those of the good query
    rcases List.mem_cons.mp hm with rfl | hm
    · exact hlabel _ List.mem_cons_self rfl
    rcases List.mem_cons.mp hm with rfl | hm
    · exact hlabel _ (.tail _ List.mem_cons_self) rfl
    obtain ⟨e, he, rfl⟩ := List.mem_map.mp hm
    obtain ⟨hmem, hkey⟩ := List.mem_filter.mp he
    obtain ⟨t, ht, rfl⟩ := List.mem_map.mp hmem
    have hkey : t.key ≠ "" := by
      rw [← Event.reconciled_key]
      exact of_decide_eq_true hkey
    rw [Event.reconciled_key] at hlabel
    exact (accepts_iff_covered ht hkey).mpr (h t ht hkey) label hlabel

end Results

/-! ## Examples -/

def monthDuration (s : String) : Option Int :=
  if s = "30d" then some 2592000000000000 else none

def requestsSLO (goodEvents totalEvents : List Event) : ServiceLevelObjective Details where
  name := "uptime"
  datasource := "monitoring"
  clusterId := "a"
  sloPeriod := "30d"
  rest := {
    target := some (.finite 99)
    serviceId := "nginx"
    goodMetricName := "http_requests_total"
    totalMetricName := "http_requests_total"
    goodEvents := some goodEvents
    totalEvents
    labels := []
    budgetingInterval := 300000000000
    endpointsError := none }

theorem good_within_total_iff_codes :
    validate monthDuration (requestsSLO [⟨"code", some ["200"]⟩] [⟨"code", some ["500"]⟩]) = none ∧
      GoodWithinTotal (· = ·)
        (requestsSLO [⟨"code", some ["200"]⟩] [⟨"code", some ["500"]⟩]).rest.matched := by
  refine ⟨by decide +kernel, (good_within_total_iff (· = ·) _ rfl).mpr (.inr ?_)⟩
  intro t ht _
  obtain rfl := List.mem_singleton.mp ht
  -- the good event of the key has a value
  intro hlookup
  cases hlookup

def requestSeries (code pod : String) (key : String) : String :=
  if key = "__name__" then "http_requests_total"
  else if key = "job" then "nginx"
  else if key = "code" then code
  else if key = "pod" then pod
  else ""

/-- A total event without values, which is not matched, and a good event without values, which
    the total event of its key does not include. -/
theorem good_not_within_total :
    (validate monthDuration (requestsSLO [⟨"code", some ["200"]⟩] [⟨"pod", none⟩]) = none ∧
      ¬GoodWithinTotal (· = ·)
        (requestsSLO [⟨"code", some ["200"]⟩] [⟨"pod", none⟩]).rest.matched) ∧
    validate monthDuration (requestsSLO [⟨"code", none⟩] [⟨"code", some ["500"]⟩]) = none ∧
      ¬GoodWithinTotal (· = ·)
        (requestsSLO [⟨"code", none⟩] [⟨"code", some ["500"]⟩]).rest.matched := by
  have hpod : (requestsSLO [⟨"code", some ["200"]⟩] [⟨"pod", none⟩]).rest.matched =
      (requestsSLO [⟨"code", some ["200"]⟩] [⟨"pod", none⟩]).rest := by
    decide +kernel
  have hcode : (requestsSLO [⟨"code", none⟩] [⟨"code", some ["500"]⟩]).rest.matched =
      (requestsSLO [⟨"code", none⟩] [⟨"code", some ["500"]⟩]).rest := by
    decide +kernel
  refine ⟨⟨by decide +kernel, fun hwithin => ?_⟩, by decide +kernel, fun hwithin => ?_⟩
  · -- a good series of a pod
    rw [hpod] at hwithin
    simpa [Matcher.Selects, rawGoodEventsQuery, rawTotalEventsQuery, simpleQuery, construct,
      requestsSLO, Alternation, Event.alternatives, requestSeries]
      using hwithin.1 (requestSeries "200" "nginx-0")
  · -- a series without the label
    rw [hcode] at hwithin
    simpa [Matcher.Selects, rawGoodEventsQuery, rawTotalEventsQuery, simpleQuery, construct,
      requestsSLO, Alternation, Event.alternatives, requestSeries]
      using hwithin.1 (requestSeries "" "")

end Opni.Objectives
