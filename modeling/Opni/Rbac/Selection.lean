/-
  Opni.Rbac.Selection

  Clusters, label selectors, and the predicate a selector stands for
  (`pkg/storage/selection.go`).
-/

import Opni.Lib.GoData
import Opni.Storage.Objects

namespace Opni.Rbac

open Lib

/-- `Cluster`, with the labels of its metadata. -/
abbrev Cluster := Storage.Cluster (GoMap String String)

abbrev Cluster.labels (c : Cluster) : GoMap String String := c.data

/-- `LabelSelectorOperator`.  Any other string is `unknown`. -/
inductive LabelSelectorOperator where
  | opIn | opNotIn | opExists | opDoesNotExist | unknown
deriving DecidableEq

structure LabelSelectorRequirement where
  key : String
  operator : LabelSelectorOperator
  values : List String := []
deriving DecidableEq

structure LabelSelector where
  matchLabels : GoMap String String := ∅
  matchExpressions : List LabelSelectorRequirement := []
deriving DecidableEq

def LabelSelector.isEmpty : Option LabelSelector → Bool
  | none => true
  | some ls => ls.matchLabels.keys.length = 0 && ls.matchExpressions.length = 0

/-- The loop of `labelSelectorMatches` over the expressions. -/
def matchExpressionsFrom (labels : GoMap String String) : List LabelSelectorRequirement → Bool
  | [] => true
  | req :: reqs =>
    match req.operator with
    | .opIn =>
      if req.values.any fun value => (labels.lookup req.key).getD "" = value then
        matchExpressionsFrom labels reqs
      else false
    | .opNotIn =>
      match labels.lookup req.key with
      | none => false
      -- the requirements after this one are not looked at
      | some v => if req.values.any fun value => v = value then false else true
    | .opExists => if req.key ∈ labels then matchExpressionsFrom labels reqs else false
    | .opDoesNotExist => if req.key ∈ labels then false else matchExpressionsFrom labels reqs
    | .unknown => matchExpressionsFrom labels reqs

/-- `labelSelectorMatches`.  The labels to match are a map, but the order in which
    it is read does not matter. -/
def labelSelectorMatches (selector : LabelSelector) (labels : GoMap String String) : Bool :=
  if selector.matchLabels.entries.any fun e => (labels.lookup e.1).getD "" ≠ e.2 then false
  else matchExpressionsFrom labels selector.matchExpressions

/-- `ClusterSelector`, with the one option there is. -/
structure ClusterSelector where
  clusterIDs : List String := []
  labelSelector : Option LabelSelector
  emptySelectorMatchesNone : Bool

def newSelectorPredicate (s : ClusterSelector) (c : Cluster) : Bool :=
  let emptyLabelSelector := LabelSelector.isEmpty s.labelSelector
  if emptyLabelSelector && s.clusterIDs.length = 0 then !s.emptySelectorMatchesNone
  else if c.id ∈ s.clusterIDs then true
  else match s.labelSelector with
    | none => false
    | some selector => if emptyLabelSelector then false else labelSelectorMatches selector c.labels

/-- A cluster that the non-empty selector of a role matches. -/
def Selects (matchLabels : Option LabelSelector) (c : Cluster) : Prop :=
  ∃ selector, matchLabels = some selector ∧ LabelSelector.isEmpty matchLabels = false ∧
    labelSelectorMatches selector c.labels = true

theorem newSelectorPredicate_iff {matchLabels : Option LabelSelector} {c : Cluster} :
    newSelectorPredicate { labelSelector := matchLabels, emptySelectorMatchesNone := true } c =
      true ↔
      Selects matchLabels c := by
  unfold newSelectorPredicate Selects
  cases hempty : LabelSelector.isEmpty matchLabels with
  | true => simp
  | false =>
    cases matchLabels with
    | none => simp [LabelSelector.isEmpty] at hempty
    | some selector => simp

/-! ## Selectors as conjunctions -/

/-- A pair of `matchLabels` that is satisfied on its own. -/
def PairSatisfied (labels : GoMap String String) (key value : String) : Prop :=
  labelSelectorMatches { matchLabels := AList.singleton key value } labels = true

def LabelSelectorRequirement.SatisfiedBy (req : LabelSelectorRequirement)
    (labels : GoMap String String) : Prop :=
  labelSelectorMatches { matchExpressions := [req] } labels = true

variable (s : LabelSelector)

def LabelSelector.PairsSatisfied (labels : GoMap String String) : Prop :=
  ∀ key value, s.matchLabels.lookup key = some value → PairSatisfied labels key value

/-- All pairs and all requirements of a selector are satisfied. -/
structure LabelSelector.Satisfied (labels : GoMap String String) : Prop where
  pairs : s.PairsSatisfied labels
  requirements : ∀ req ∈ s.matchExpressions, req.SatisfiedBy labels

/-- A satisfied `NotIn` requirement, with everything before it satisfied, stands
    before one that is not: the loop returns before it gets there. -/
def LabelSelector.SkipsUnsatisfied (labels : GoMap String String) : Prop :=
  s.PairsSatisfied labels ∧ ∃ before req after, s.matchExpressions = before ++ req :: after ∧
    req.operator = .opNotIn ∧ (∀ r ∈ before ++ [req], r.SatisfiedBy labels) ∧
    ∃ r ∈ after, ¬r.SatisfiedBy labels

section Conjunction

variable {labels : GoMap String String}

variable {s : LabelSelector} {req : LabelSelectorRequirement} {reqs : List LabelSelectorRequirement}

theorem satisfiedBy_iff : req.SatisfiedBy labels ↔ matchExpressionsFrom labels [req] = true := by
  have hnone : ((∅ : GoMap String String).entries.any fun e =>
      decide ((labels.lookup e.1).getD "" ≠ e.2)) = false := rfl
  rw [LabelSelectorRequirement.SatisfiedBy, labelSelectorMatches, hnone, if_neg (by decide)]

theorem pairSatisfied_iff {key value : String} :
    PairSatisfied labels key value ↔ (labels.lookup key).getD "" = value := by
  unfold PairSatisfied labelSelectorMatches
  simp [matchExpressionsFrom]

theorem pairsSatisfied_iff :
    s.PairsSatisfied labels ↔
      (s.matchLabels.entries.any fun e => decide ((labels.lookup e.1).getD "" ≠ e.2)) = false := by
  rw [List.any_eq_false]
  constructor
  · rintro h ⟨key, value⟩ hmem
    have hpair := pairSatisfied_iff.mp (h key value (GoMap.mem_entries.mp hmem))
    simpa using hpair
  · intro h key value hlookup
    have hpair := h ⟨key, value⟩ (GoMap.mem_entries.mpr hlookup)
    exact pairSatisfied_iff.mpr (by simpa using hpair)

theorem labelSelectorMatches_iff :
    labelSelectorMatches s labels = true ↔
      s.PairsSatisfied labels ∧ matchExpressionsFrom labels s.matchExpressions = true := by
  rw [labelSelectorMatches, pairsSatisfied_iff]
  cases s.matchLabels.entries.any fun e => decide ((labels.lookup e.1).getD "" ≠ e.2) with
  | true | false => simp

theorem matchExpressionsFrom_cons :
    matchExpressionsFrom labels (req :: reqs) = true ↔ req.SatisfiedBy labels ∧
      (req.operator = .opNotIn ∨ matchExpressionsFrom labels reqs = true) := by
  rw [satisfiedBy_iff]
  cases hop : req.operator with
  | opIn | opNotIn | opExists | opDoesNotExist | unknown => simp [matchExpressionsFrom, hop]

theorem matchExpressionsFrom_of_satisfied
    (h : ∀ req ∈ reqs, req.SatisfiedBy labels) : matchExpressionsFrom labels reqs = true := by
  induction reqs with
  | nil => rfl
  | cons req reqs ih =>
    rw [List.forall_mem_cons] at h
    exact matchExpressionsFrom_cons.mpr ⟨h.1, .inr (ih h.2)⟩

theorem exists_notIn_of_matchExpressionsFrom
    (h : matchExpressionsFrom labels reqs = true) (hnot : ∃ req ∈ reqs, ¬req.SatisfiedBy labels) :
    ∃ before req after, reqs = before ++ req :: after ∧ req.operator = .opNotIn ∧
      (∀ r ∈ before ++ [req], r.SatisfiedBy labels) ∧ ∃ r ∈ after, ¬r.SatisfiedBy labels := by
  induction reqs with
  | nil => simp at hnot
  | cons req reqs ih =>
    obtain ⟨hreq, hrest⟩ := matchExpressionsFrom_cons.mp h
    have hnot' : ∃ r ∈ reqs, ¬r.SatisfiedBy labels := by
      rw [List.exists_mem_cons_iff] at hnot
      exact hnot.resolve_left (not_not.mpr hreq)
    by_cases hop : req.operator = .opNotIn
    · exact ⟨[], req, reqs, rfl, hop, by simpa using hreq, hnot'⟩
    · obtain ⟨before, req', after, rfl, hop', hsat, hskip⟩ := ih (hrest.resolve_left hop) hnot'
      refine ⟨req :: before, req', after, rfl, hop', ?_, hskip⟩
      rw [List.cons_append, List.forall_mem_cons]
      exact ⟨hreq, hsat⟩

theorem matchExpressionsFrom_of_notIn {before after : List LabelSelectorRequirement}
    (hop : req.operator = .opNotIn) (hsat : ∀ r ∈ before ++ [req], r.SatisfiedBy labels) :
    matchExpressionsFrom labels (before ++ req :: after) = true := by
  induction before with
  | nil => exact matchExpressionsFrom_cons.mpr ⟨hsat req (by simp), .inl hop⟩
  | cons r before ih =>
    rw [List.cons_append, List.forall_mem_cons] at hsat
    exact matchExpressionsFrom_cons.mpr ⟨hsat.1, .inr (ih hsat.2)⟩

theorem LabelSelector.Satisfied.matches (h : s.Satisfied labels) :
    labelSelectorMatches s labels = true :=
  labelSelectorMatches_iff.mpr ⟨h.pairs, matchExpressionsFrom_of_satisfied h.requirements⟩

theorem satisfied_of_matches (hskip : ¬s.SkipsUnsatisfied labels)
    (h : labelSelectorMatches s labels = true) : s.Satisfied labels := by
  obtain ⟨hpairs, hloop⟩ := labelSelectorMatches_iff.mp h
  refine ⟨hpairs, ?_⟩
  by_contra hnot
  push Not at hnot
  exact hskip ⟨hpairs, exists_notIn_of_matchExpressionsFrom hloop hnot⟩

end Conjunction

/-- `labelSelectorMatches` is the conjunction of the pairs and requirements exactly
    when no satisfied `NotIn` hides a requirement that is not satisfied.  For such
    selectors the order of the requirements does not matter, and what a selector
    with more pairs and requirements matches is matched by the smaller one. -/
theorem labelSelectorMatches_conjunction (s : LabelSelector) (labels : GoMap String String) :
    ((labelSelectorMatches s labels = true ↔ s.Satisfied labels) ↔ ¬s.SkipsUnsatisfied labels) ∧
      (¬s.SkipsUnsatisfied labels →
        (∀ reqs : List LabelSelectorRequirement, reqs.Perm s.matchExpressions →
          ¬({ s with matchExpressions := reqs } : LabelSelector).SkipsUnsatisfied labels →
          labelSelectorMatches { s with matchExpressions := reqs } labels =
            labelSelectorMatches s labels) ∧
        ∀ smaller : LabelSelector, smaller.matchExpressions ⊆ s.matchExpressions →
          (∀ key value, smaller.matchLabels.lookup key = some value →
            s.matchLabels.lookup key = some value) →
          labelSelectorMatches s labels = true → labelSelectorMatches smaller labels = true) := by
  refine ⟨⟨?_, ?_⟩, fun hskip => ⟨?_, ?_⟩⟩
  · rintro hconj ⟨hpairs, before, req, after, hsplit, hop, hsat, r, hr, hnot⟩
    have hmatch : labelSelectorMatches s labels = true := by
      refine labelSelectorMatches_iff.mpr ⟨hpairs, ?_⟩
      rw [hsplit]
      exact matchExpressionsFrom_of_notIn hop hsat
    refine hnot ((hconj.mp hmatch).requirements r ?_)
    rw [hsplit]
    exact List.mem_append_right _ (.tail _ hr)
  · exact fun hskip => ⟨satisfied_of_matches hskip, LabelSelector.Satisfied.matches⟩
  · intro reqs hperm hskip'
    rw [Bool.eq_iff_iff]
    constructor
    · intro h
      have hsat := satisfied_of_matches hskip' h
      exact LabelSelector.Satisfied.matches
        ⟨hsat.pairs, fun req hreq => hsat.requirements req (hperm.mem_iff.mpr hreq)⟩
    · intro h
      have hsat := satisfied_of_matches hskip h
      exact LabelSelector.Satisfied.matches
        ⟨hsat.pairs, fun req hreq => hsat.requirements req (hperm.mem_iff.mp hreq)⟩
  · intro smaller hreqs hpairs h
    have hsat := satisfied_of_matches hskip h
    exact LabelSelector.Satisfied.matches
      ⟨fun key value hlookup => hsat.pairs key value (hpairs key value hlookup),
        fun req hreq => hsat.requirements req (hreqs hreq)⟩

/-- `foo NotIn x` and `bar Exists`, in this order. -/
def notInFirst : LabelSelector where
  matchExpressions :=
    [{ key := "foo", operator := .opNotIn, values := ["x"] },
      { key := "bar", operator := .opExists }]

/-- The labels `foo=y` match although there is no label `bar`.  The other order does
    not match, and neither does `bar Exists` alone. -/
theorem notIn_hides_requirement :
    labelSelectorMatches notInFirst (AList.singleton "foo" "y") = true ∧
      ¬notInFirst.Satisfied (AList.singleton "foo" "y") ∧
      labelSelectorMatches { matchExpressions := notInFirst.matchExpressions.reverse }
        (AList.singleton "foo" "y") = false ∧
      labelSelectorMatches { matchExpressions := notInFirst.matchExpressions.tail }
        (AList.singleton "foo" "y") = false := by
  refine ⟨by decide, fun h => ?_, by decide, by decide⟩
  have hbar := h.requirements { key := "bar", operator := .opExists } (by decide)
  exact absurd hbar (by unfold LabelSelectorRequirement.SatisfiedBy; decide)

end Opni.Rbac
