/-
  Opni.Objectives.Rules

  The rule groups of a service level objective
  (`plugins/slo/pkg/slo/simple.go`, `pkg/alerting/metrics/construct.go`).
-/

import Mathlib.Data.List.Infix

namespace Opni.Objectives

/-! ## Objectives -/

variable (β : Type)

/-- `ServiceLevelObjective`; the rest of it is read by the validation and by the texts of the
    rules. -/
structure ServiceLevelObjective where
  name : String
  datasource : String
  clusterId : String
  sloPeriod : String
  rest : β
deriving DecidableEq

structure SLOData where
  id : String
  slo : ServiceLevelObjective β
deriving DecidableEq

structure SLO where
  id : String
  name : String
  sloPeriod : String
  rest : β
deriving DecidableEq

/-- `CreateSLORequestToStruct`, with the new id. -/
def createSLORequestToStruct {β : Type} (newId : String) (slo : ServiceLevelObjective β) : SLO β :=
  ⟨newId, slo.name, slo.sloPeriod, slo.rest⟩

/-- `SLODataToStruct`; data without an id gets a new one. -/
def sloDataToStruct {β : Type} (newId : String) (s : SLOData β) : SLO β :=
  createSLORequestToStruct (if s.id = "" then newId else s.id) s.slo

/-! ## Rule groups -/

/-- `rulefmt.Rule`: a recording rule or an alerting rule. -/
structure Rule where
  record : String := ""
  alert : String := ""
  text : String
deriving DecidableEq

/-- `RuleGroupYAMLv2`. -/
structure RuleGroup where
  name : String
  interval : String := "1m"
  rules : List Rule
deriving DecidableEq

def recordingRuleSuffix : String := "-recording"

def metadataRuleSuffix : String := "-metadata"

def alertRuleSuffix : String := "-alerts"

/-- `slo_ratio_rate_query_name`. -/
def ratioRateQueryName : String := "slo:sli_error:ratio_rate"

def newWindowRange (sloPeriod : String) : List String :=
  ["5m", "30m", "1h", "2h", "6h", "1d", sloPeriod]

def metadataRuleNames : List String :=
  ["slo:objective:ratio", "slo:error_budget:ratio", "slo:time_period:days",
    "slo:current_burn_rate:ratio", "slo:period_burn_rate:ratio",
    "slo:period_error_budget_remaining:ratio", "opni_slo_info"]

def withSloId (sloId alertType suffix : String) : String := sloId ++ "-" ++ alertType ++ suffix

section Construct

variable {β : Type} (text : SLO β → String → String) (s : SLO β)

def recordingRule (name : String) : Rule := { record := name, text := text s name }

def alertingRule (name : String) : Rule := { alert := name, text := text s name }

def constructRecordingRuleGroup : RuleGroup where
  name := s.id ++ recordingRuleSuffix
  rules := (newWindowRange s.sloPeriod).map fun w => recordingRule text s (ratioRateQueryName ++ w)

def constructMetadataRules : RuleGroup where
  name := s.id ++ metadataRuleSuffix
  rules := metadataRuleNames.map (recordingRule text s)

def constructAlertingRuleGroup : RuleGroup where
  name := s.id ++ alertRuleSuffix
  rules :=
    [recordingRule text s "slo:alert:ticket_window", recordingRule text s "slo:alert:page_window",
      alertingRule text s (withSloId s.id "page" alertRuleSuffix),
      alertingRule text s (withSloId s.id "ticket" alertRuleSuffix)]

def constructCortexRules : List RuleGroup :=
  [constructRecordingRuleGroup text s, constructMetadataRules text s,
    constructAlertingRuleGroup text s]

end Construct

variable (id : String)

def groupNames : List String :=
  [id ++ recordingRuleSuffix, id ++ metadataRuleSuffix, id ++ alertRuleSuffix]

def Rule.names (rule : Rule) : List String :=
  (if rule.alert ≠ "" then [rule.alert] else []) ++ if rule.record ≠ "" then [rule.record] else []

/-- The names that `Delete` goes through: those of the rules, not those of the groups. -/
def ruleNames (groups : List RuleGroup) : List String :=
  groups.flatMap fun group => group.rules.flatMap Rule.names

/-! ## Names -/

variable {β : Type} {name n t : String} {text : SLO β → String → String} {s : SLO β}

def lastChar (s : String) : Option Char := s.toList.getLast?

theorem lastChar_append {s : String} (h : t ≠ "") : lastChar (s ++ t) = lastChar t := by
  unfold lastChar
  rw [String.toList_append, List.getLast?_append]
  cases hlast : t.toList.getLast? with
  | none => exact absurd (String.toList_eq_nil_iff.mp (List.getLast?_eq_none_iff.mp hlast)) h
  | some c => rfl

theorem lastChar_recording : lastChar (id ++ recordingRuleSuffix) = some 'g' :=
  lastChar_append (by decide)

theorem lastChar_metadata : lastChar (id ++ metadataRuleSuffix) = some 'a' :=
  lastChar_append (by decide)

theorem lastChar_alerts : lastChar (id ++ alertRuleSuffix) = some 's' :=
  lastChar_append (by decide)

theorem nodup_groupNames : (groupNames id).Nodup := by
  have hne : ∀ {s t : String}, lastChar s ≠ lastChar t → s ≠ t := fun h heq => h (heq ▸ rfl)
  have hrecording := lastChar_recording id
  have hmetadata := lastChar_metadata id
  have halerts := lastChar_alerts id
  simp only [groupNames, List.nodup_cons, List.mem_cons, List.not_mem_nil, or_false, not_or,
    not_false_eq_true, List.nodup_nil, and_true]
  refine ⟨⟨hne ?_, hne ?_⟩, hne ?_⟩
  · rw [hrecording, hmetadata]
    decide
  · rw [hrecording, halerts]
    decide
  · rw [hmetadata, halerts]
    decide

theorem nodup_constructCortexRules (text : SLO β → String → String) (s : SLO β) :
    ((constructCortexRules text s).map (·.name)).Nodup := by
  exact nodup_groupNames s.id

theorem eq_of_mem_groupNames {id id' : String} (h : name ∈ groupNames id)
    (h' : name ∈ groupNames id') : id = id' := by
  simp only [groupNames, List.mem_cons, List.not_mem_nil, or_false] at h h'
  -- the suffixes end in different letters
  obtain rfl | rfl | rfl := h <;> obtain h' | h' | h' := h' <;> first
    | exact (String.append_left_inj _).mp h'
    | (have hlast := congrArg lastChar h'
       simp [lastChar_recording, lastChar_metadata, lastChar_alerts] at hlast)

theorem mem_ite_empty (h : name ∈ if n ≠ "" then [n] else []) : name = n ∧ n ≠ "" := by
  split at h
  next hn => exact ⟨List.mem_singleton.mp h, hn⟩
  · exact absurd h List.not_mem_nil

theorem eq_of_mem_names_recordingRule (h : name ∈ (recordingRule text s n).names) : name = n := by
  obtain h | h := List.mem_append.mp h
  · exact absurd rfl (mem_ite_empty h).2
  · exact (mem_ite_empty h).1

theorem eq_of_mem_names_alertingRule (h : name ∈ (alertingRule text s n).names) : name = n := by
  obtain h | h := List.mem_append.mp h
  · exact (mem_ite_empty h).1
  · exact absurd rfl (mem_ite_empty h).2

/-- All of the rule names but one end in other letters than the names of the recording and of
    the metadata group. -/
theorem mem_ruleNames (h : name ∈ ruleNames (constructCortexRules text s)) :
    name = ratioRateQueryName ++ s.sloPeriod ∨
      lastChar name ≠ some 'g' ∧ lastChar name ≠ some 'a' := by
  obtain ⟨group, hgroup, hmem⟩ := List.mem_flatMap.mp h
  obtain ⟨rule, hrule, hname⟩ := List.mem_flatMap.mp hmem
  simp only [constructCortexRules, List.mem_cons, List.not_mem_nil, or_false] at hgroup
  obtain rfl | rfl | rfl := hgroup
  · obtain ⟨w, hw, rfl⟩ := List.mem_map.mp hrule
    obtain rfl := eq_of_mem_names_recordingRule hname
    simp only [newWindowRange, List.mem_cons, List.not_mem_nil, or_false] at hw
    obtain rfl | rfl | rfl | rfl | rfl | rfl | rfl := hw <;> first
      | exact .inl rfl
      | exact .inr ⟨by decide, by decide⟩
  · obtain ⟨n, hn, rfl⟩ := List.mem_map.mp hrule
    obtain rfl := eq_of_mem_names_recordingRule hname
    have hmetadata : ∀ n ∈ metadataRuleNames, lastChar n ≠ some 'g' ∧ lastChar n ≠ some 'a' := by
      decide
    exact .inr (hmetadata _ hn)
  · simp only [constructAlertingRuleGroup, List.mem_cons, List.not_mem_nil, or_false] at hrule
    have hlast : ∀ alertType, lastChar (withSloId s.id alertType alertRuleSuffix) = some 's' :=
      fun _ => lastChar_alerts _
    obtain rfl | rfl | rfl | rfl := hrule
    · obtain rfl := eq_of_mem_names_recordingRule hname
      exact .inr ⟨by decide, by decide⟩
    · obtain rfl := eq_of_mem_names_recordingRule hname
      exact .inr ⟨by decide, by decide⟩
    · obtain rfl := eq_of_mem_names_alertingRule hname
      rw [hlast]
      exact .inr ⟨by decide, by decide⟩
    · obtain rfl := eq_of_mem_names_alertingRule hname
      rw [hlast]
      exact .inr ⟨by decide, by decide⟩

theorem exists_group_not_deleted (text : SLO β → String → String) (s : SLO β) :
    ∃ name ∈ groupNames s.id, name ∉ ruleNames (constructCortexRules text s) := by
  by_cases hrecording : s.id ++ recordingRuleSuffix ∈ ruleNames (constructCortexRules text s)
  · refine ⟨s.id ++ metadataRuleSuffix, by simp [groupNames], ?_⟩
    intro hmetadata
    -- both would be the one name that ends as the period does
    have hfirst := (mem_ruleNames hrecording).resolve_right fun h => h.1 (lastChar_recording _)
    have hsecond := (mem_ruleNames hmetadata).resolve_right fun h => h.2 (lastChar_metadata _)
    have hlast := congrArg lastChar (hfirst.trans hsecond.symm)
    rw [lastChar_recording, lastChar_metadata] at hlast
    cases hlast
  · exact ⟨_, by simp [groupNames], hrecording⟩

end Opni.Objectives
