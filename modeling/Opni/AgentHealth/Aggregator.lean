/-
  Opni.AgentHealth.Aggregator

  The health of several clients as one: `Aggregator.GetHealth`
  (`pkg/health/aggregator.go`).
-/

import Opni.AgentHealth.Listener

namespace Opni.AgentHealth

open Lib

/-! ## The aggregator -/

/-- The status codes that `GetHealth` tells apart. -/
inductive ClientErrCode where
  | unavailable | resourceExhausted | deadlineExceeded | canceled | other
deriving DecidableEq

structure ClientErr where
  code : ClientErrCode
  text : String

/-- What a client answers. -/
abbrev Answer := Except ClientErr Health

structure Aggregator where
  staticAnnotations : GoMap String String := ∅
  clients : GoMap String Answer

/-- `NewAggregator` and `AddClient`.  The options are applied, and then not used. -/
def newAggregator (_staticAnnotations : GoMap String String) (clients : GoMap String Answer) :
    Aggregator where
  clients := clients

/-- The zero `time.Time`, in nanoseconds since the epoch. -/
def zeroTime : Timestamp := -62135596800000000000

/-- `clientTimestamps` of a client. -/
def clientTimestamp : Answer → Timestamp
  | .ok health => Health.time (some health)
  | .error _ => zeroTime

variable (name : String)

/-- `clientConditions` of a client.  Nothing formats the first three texts. -/
def clientConditions : Answer → List String
  | .ok health => health.conditions.map fun condition => name ++ ": " ++ condition
  | .error err =>
    match err.code with
    | .unavailable => ["%s is unavailable", name]
    | .resourceExhausted => ["%s is overloaded", name]
    | .deadlineExceeded | .canceled => ["%s timed out", name]
    | .other => [name ++ ": " ++ err.text]

/-- `clientsReady` of a client. -/
def clientReady : Answer → Bool
  | .ok health => health.ready
  | .error _ => false

/-- `lo.MaxBy`, which keeps an item that `comparison` puts before the one it has. -/
def maxBy {α : Type} (comparison : α → α → Bool) (zero : α) : List α → α
  | [] => zero
  | x :: xs => xs.foldl (fun max item => if comparison item max then item else max) x

/-- `GetHealth`, with the clients in the order of the map. -/
def Aggregator.getHealth (h : Aggregator) (order : Scheduler (Σ _ : String, Answer)) : Health :=
  let clients := order.order h.clients.entries
  { timestamp := some (maxBy (fun t1 t2 => t1 < t2) zeroTime (clients.map (clientTimestamp ·.2)))
    ready := clients.all (clientReady ·.2)
    conditions := sortFunc (fun a b => decide (a < b))
      (clients.flatMap fun c => clientConditions c.1 c.2)
    annotations := h.staticAnnotations }

/-! ## What it is for -/

/-- The condition for a client that fails. -/
def failureCondition (err : ClientErr) : String :=
  match err.code with
  | .unavailable => name ++ " is unavailable"
  | .resourceExhausted => name ++ " is overloaded"
  | .deadlineExceeded | .canceled => name ++ " timed out"
  | .other => name ++ ": " ++ err.text

def expectedConditions : Answer → List String
  | .ok health => health.conditions.map fun condition => name ++ ": " ++ condition
  | .error err => [failureCondition name err]

variable (annotations : GoMap String String) (clients : GoMap String Answer)

/-- The health is that of the clients and the configured annotations. -/
structure Aggregates (health : Health) : Prop where
  ready : health.ready = true ↔
    ∀ name a, clients.lookup name = some a → ∃ h, a = .ok h ∧ h.ready = true
  timestamp : (∃ name h, clients.lookup name = some (.ok h)) →
    ∃ name h, clients.lookup name = some (.ok h) ∧
      health.timestamp = some (Health.time (some h)) ∧
      ∀ name' h', clients.lookup name' = some (.ok h') →
        Health.time (some h') ≤ Health.time (some h)
  annotations : ∀ key, health.annotations.lookup key = annotations.lookup key
  sorted : health.conditions.Pairwise (· ≤ ·)
  conditions : health.conditions.Perm
    (clients.entries.flatMap fun c => expectedConditions c.1 c.2)

/-- No annotations are configured, no client fails with one of the codes that have a text of
    their own, and if a client answers, no collected time is before that of its answer. -/
structure Aggregable :
    Prop where
  annotations : ∀ key, annotations.lookup key = none
  errors : ∀ name err, clients.lookup name = some (.error err) → err.code = .other
  times : ∀ name h name' a, clients.lookup name = some (.ok h) → clients.lookup name' = some a →
    Health.time (some h) ≤ clientTimestamp a

/-- `lo.MaxBy` with `Before` gives the earliest time. -/
theorem maxBy_before_spec {l : List Timestamp} (hne : l ≠ []) :
    maxBy (fun t1 t2 => t1 < t2) zeroTime l ∈ l ∧
      ∀ t ∈ l, maxBy (fun t1 t2 => t1 < t2) zeroTime l ≤ t := by
  obtain ⟨x, xs, rfl⟩ := List.exists_cons_of_ne_nil hne
  have hstep : (fun max item : Timestamp => if decide (item < max) then item else max) = min := by
    funext a b
    rcases lt_or_ge b a with hlt | hge
    · simp [hlt, hlt.le]
    · simp [hge, not_lt.mpr hge]
  rw [maxBy, hstep]
  exact List.min?_eq_some_iff.mp rfl

theorem length_conditions (clients : List (Σ _ : String, Answer)) :
    (clients.flatMap fun c => clientConditions c.1 c.2).length =
      (clients.flatMap fun c => expectedConditions c.1 c.2).length +
        clients.countP fun c => (clientConditions c.1 c.2 != expectedConditions c.1 c.2) := by
  induction clients with
  | nil => rfl
  | cons c clients ih =>
    obtain ⟨name, a⟩ := c
    simp only [List.flatMap_cons, List.countP_cons, List.length_append, ih]
    -- a client counts for one more condition exactly if its conditions are the wrong ones
    have hclient : (clientConditions name a).length = (expectedConditions name a).length +
        if clientConditions name a != expectedConditions name a then 1 else 0 := by
      cases a with
      | ok health => simp [clientConditions, expectedConditions]
      | error err =>
        obtain ⟨code, text⟩ := err
        cases code <;> simp [clientConditions, expectedConditions, failureCondition]
    omega

theorem clientConditions_eq_iff {name : String} {a : Answer} :
    clientConditions name a = expectedConditions name a ↔
      ∀ err, a = .error err → err.code = .other := by
  cases a with
  | ok health => simp [clientConditions, expectedConditions]
  | error err =>
    obtain ⟨code, text⟩ := err
    cases code <;> simp [clientConditions, expectedConditions, failureCondition]

section GetHealth

variable {annotations : GoMap String String} {clients : GoMap String Answer}
  (order : Scheduler (Σ _ : String, Answer))

theorem mem_order {name : String} {a : Answer} :
    ⟨name, a⟩ ∈ order.order clients.entries ↔ clients.lookup name = some a :=
  (order.perm _).mem_iff.trans GoMap.mem_entries

theorem perm_conditions_iff :
    ((newAggregator annotations clients).getHealth order).conditions.Perm
        (clients.entries.flatMap fun c => expectedConditions c.1 c.2) ↔
      ∀ name err, clients.lookup name = some (.error err) → err.code = .other := by
  have horder : ((newAggregator annotations clients).getHealth order).conditions.Perm
      (clients.entries.flatMap fun c => clientConditions c.1 c.2) :=
    (sortFunc_perm _ _).trans ((order.perm clients.entries).flatMap_right _)
  have hall : (∀ c ∈ clients.entries, clientConditions c.1 c.2 = expectedConditions c.1 c.2) ↔
      ∀ name err, clients.lookup name = some (.error err) → err.code = .other := by
    constructor
    · intro h name err hlookup
      exact clientConditions_eq_iff.mp (h ⟨name, _⟩ (GoMap.mem_entries.mpr hlookup)) err rfl
    · rintro h ⟨name, a⟩ hc
      refine clientConditions_eq_iff.mpr fun err herr => h name err ?_
      exact herr ▸ GoMap.mem_entries.mp hc
  rw [← hall]
  constructor
  · -- each client with the wrong conditions makes the list longer
    intro hperm c hc
    have hlength := (horder.symm.trans hperm).length_eq
    rw [length_conditions] at hlength
    have hnone : (clients.entries.countP fun c =>
        clientConditions c.1 c.2 != expectedConditions c.1 c.2) = 0 := by omega
    simpa using List.countP_eq_zero.mp hnone c hc
  · intro h
    rwa [List.flatMap_congr h] at horder

theorem timestamp_iff :
    ((∃ name h, clients.lookup name = some (.ok h)) → ∃ name h,
      clients.lookup name = some (.ok h) ∧
      ((newAggregator annotations clients).getHealth order).timestamp =
        some (Health.time (some h)) ∧
      ∀ name' h', clients.lookup name' = some (.ok h') →
        Health.time (some h') ≤ Health.time (some h)) ↔
    ∀ name h name' a, clients.lookup name = some (.ok h) → clients.lookup name' = some a →
      Health.time (some h) ≤ clientTimestamp a := by
  have hmem : ∀ {t}, t ∈ (order.order clients.entries).map (clientTimestamp ·.2) ↔
      ∃ name a, clients.lookup name = some a ∧ clientTimestamp a = t := by
    intro t
    simp only [List.mem_map, Sigma.exists, mem_order]
  constructor
  · intro hlatest name h name' a hlookup hlookup'
    obtain ⟨name₀, h₀, hlookup₀, htime, hmax⟩ := hlatest ⟨name, h, hlookup⟩
    have hne := List.ne_nil_of_mem (hmem.mpr ⟨name', a, hlookup', rfl⟩)
    have hmin := (maxBy_before_spec hne).2 _ (hmem.mpr ⟨name', a, hlookup', rfl⟩)
    calc Health.time (some h) ≤ Health.time (some h₀) := hmax name h hlookup
      _ = maxBy (fun t1 t2 => t1 < t2) zeroTime _ := (Option.some.inj htime).symm
      _ ≤ clientTimestamp a := hmin
  · rintro htimes ⟨name, h, hlookup⟩
    have hin := hmem.mpr ⟨name, .ok h, hlookup, rfl⟩
    obtain ⟨hfound, hmin⟩ := maxBy_before_spec (List.ne_nil_of_mem hin)
    obtain ⟨name', a, hlookup', htime⟩ := hmem.mp hfound
    have hle := htimes name h name' a hlookup hlookup'
    refine ⟨name, h, hlookup, congrArg some ?_, fun name₁ h₁ hlookup₁ =>
      htimes name₁ h₁ name (.ok h) hlookup₁ hlookup⟩
    exact le_antisymm (hmin _ hin) (hle.trans_eq htime)

end GetHealth

/-- In every order of the clients, `GetHealth` gives the aggregated health exactly if no
    annotations are configured, no client fails as unavailable, overloaded or timed out, and all
    answers have the time of the earliest that is collected. -/
theorem getHealth_aggregates_iff (annotations : GoMap String String)
    (clients : GoMap String Answer) (order : Scheduler (Σ _ : String, Answer)) :
    Aggregates annotations clients ((newAggregator annotations clients).getHealth order) ↔
      Aggregable annotations clients := by
  constructor
  · intro h
    refine ⟨fun key => (h.annotations key).symm, (perm_conditions_iff order).mp h.conditions, ?_⟩
    exact (timestamp_iff order).mp h.timestamp
  · intro h
    refine ⟨?_, (timestamp_iff order).mpr h.times, fun key => (h.annotations key).symm, ?_,
      (perm_conditions_iff order).mpr h.errors⟩
    · show ((order.order clients.entries).all (clientReady ·.2)) = true ↔ _
      simp only [List.all_eq_true, Sigma.forall, mem_order]
      refine forall_congr' fun name => forall_congr' fun a => imp_congr_right fun _ => ?_
      cases a <;> simp [clientReady]
    · exact pairwise_sortFunc_le _

/-- Configured annotations are lost, an unavailable client gives two conditions, and the time
    is the earliest one. -/
theorem getHealth_drops :
    let clients : GoMap String Answer :=
      (((∅ : GoMap String Answer).insert "a" (.ok ⟨some 1, true, [], ∅⟩)).insert "b"
        (.ok ⟨some 2, true, [], ∅⟩)).insert "c" (.error ⟨.unavailable, "down"⟩)
    let health := (newAggregator (AList.singleton "os" "linux") clients).getHealth
      (Scheduler.inOrder _)
    health.annotations.keys = [] ∧ health.conditions = ["%s is unavailable", "c"] ∧
      health.timestamp = some zeroTime := by
  decide

end Opni.AgentHealth
