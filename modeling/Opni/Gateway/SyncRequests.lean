/-
  Opni.Gateway.SyncRequests

  `RequestSync` of the `SyncRequester` (`pkg/gateway/sync.go`), and the calls
  of the metrics backend that end with it
  (`plugins/metrics/pkg/backend/metrics.go`).
-/

import Opni.Gateway.AgentConnections

namespace Opni.Gateway

open Lib

/-! ## Requests -/

/-- What `RequestSync` returns if there is nobody to ask. -/
def agentNotConnected : Status := ⟨.notFound, "agent is not connected"⟩

def SyncRequester.toSync (order : Scheduler Nat) (s : AgentServer Nat) (id : String) : List Nat :=
  if id = "" then order.order (s.activeAgents.entries.map Sigma.snd)
  else (s.activeAgents.lookup id).toList

/-- The loop of `RequestSync`: the clients whose `SyncNow` is called, and the error. -/
def SyncRequester.syncLoop (syncNow : Nat → Option Status) : List Nat → List Nat × Option Status
  | [] => ([], some agentNotConnected)
  | clientSet :: _ =>
    match syncNow clientSet with
    | some err => ([clientSet], some err)
    -- the rest is not asked
    | none => ([clientSet], none)

section Requests

variable (order : Scheduler Nat) (syncNow : Nat → Option Status) (s : AgentServer Nat)

/-- `RequestSync`. -/
def SyncRequester.sync (id : String) : List Nat × Option Status :=
  syncLoop syncNow (toSync order s id)

end Requests

/-! ## Agents that are asked -/

def AgentServer.addressed {α : Type} (s : AgentServer α) (id : String) : List α :=
  if id = "" then s.activeAgents.entries.map Sigma.snd else (s.activeAgents.lookup id).toList

/-- Each agent that is addressed is asked once, and nobody else; the answer is `NotFound` just if
    there is none; and it is an error if one of them fails. -/
structure SyncsAll (syncNow : Nat → Option Status) (s : AgentServer Nat) (id : String)
    (calls : List Nat) (err : Option Status) : Prop where
  asked : calls.Perm (s.addressed id)
  notFound : err.map Status.code = some .notFound ↔ s.addressed id = []
  failed : ∀ c ∈ s.addressed id, syncNow c ≠ none → err ≠ none

/-- At most one agent is addressed, and it does not answer `NotFound` itself. -/
def SyncFits (syncNow : Nat → Option Status) (s : AgentServer Nat) (id : String) : Prop :=
  (s.addressed id).length ≤ 1 ∧
    ∀ c ∈ s.addressed id, (syncNow c).map Status.code ≠ some .notFound

section Results

variable {order : Scheduler Nat} {syncNow : Nat → Option Status} {s : AgentServer Nat} {id : String}

theorem syncLoop_eq (syncNow : Nat → Option Status) (clients : List Nat) :
    SyncRequester.syncLoop syncNow clients =
      (clients.head?.toList, clients.head?.elim (some agentNotConnected) syncNow) := by
  cases clients with
  | nil => rfl
  | cons c clients =>
    rw [SyncRequester.syncLoop]
    split
    next err herr => simp [herr]
    next hnone => simp [hnone]

theorem syncsAll_nil (h : s.addressed id = []) :
    SyncsAll syncNow s id [] (some agentNotConnected) where
  asked := by rw [h]
  notFound := iff_of_true rfl h
  failed c hc := by
    rw [h] at hc
    cases hc

theorem syncsAll_singleton_iff {c : Nat} (h : s.addressed id = [c]) :
    SyncsAll syncNow s id [c] (syncNow c) ↔ (syncNow c).map Status.code ≠ some .notFound := by
  constructor
  · intro hall hcode
    have hnil := hall.notFound.mp hcode
    rw [h] at hnil
    cases hnil
  · intro hcode
    refine ⟨by rw [h], iff_of_false hcode (by simp [h]), fun c' hc' hfails => ?_⟩
    rw [h, List.mem_singleton] at hc'
    rwa [hc'] at hfails

/-- `RequestSync` asks every agent that it is for, just if there is at most one, which does not
    answer `NotFound` itself. -/
theorem syncs_all_iff (order : Scheduler Nat) (syncNow : Nat → Option Status) (s : AgentServer Nat)
    (id : String) :
    SyncsAll syncNow s id (SyncRequester.sync order syncNow s id).1
        (SyncRequester.sync order syncNow s id).2 ↔
      SyncFits syncNow s id := by
  have hperm : (SyncRequester.toSync order s id).Perm (s.addressed id) := by
    unfold SyncRequester.toSync AgentServer.addressed
    split
    · exact order.perm _
    · exact List.Perm.refl _
  rw [SyncRequester.sync, syncLoop_eq, SyncFits]
  cases hclients : SyncRequester.toSync order s id with
  | nil =>
    rw [hclients] at hperm
    have hnil : s.addressed id = [] := hperm.nil_eq.symm
    exact iff_of_true (syncsAll_nil hnil) (by simp [hnil])
  | cons c clients =>
    rw [hclients] at hperm
    cases clients with
    | nil =>
      have hone : s.addressed id = [c] := (List.singleton_perm.mp hperm).symm
      have hsingle : SyncsAll syncNow s id [c] (syncNow c) ↔ _ := syncsAll_singleton_iff hone
      simpa [hone] using hsingle
    | cons c' clients =>
      -- two agents, and one of them is not asked
      have hlength := hperm.length_eq
      simp only [List.length_cons] at hlength
      refine iff_of_false (fun hall => ?_) fun hfits => ?_
      · have hasked := hall.asked.length_eq
        simp only [List.head?_cons, Option.toList_some, List.length_singleton] at hasked
        omega
      · omega

end Results

def twoAgents : AgentServer Nat where
  activeAgents := (AList.insert "b" 1 (AList.singleton "a" 0) : GoMap String Nat)

/-- A request for all of the agents calls one of them, whether it fails or not; and an agent that
    answers `NotFound` looks as if it was not there. -/
theorem sync_skips_agents :
    ¬SyncsAll (fun _ => none) twoAgents ""
      (SyncRequester.sync (Scheduler.inOrder _) (fun _ => none) twoAgents "").1
      (SyncRequester.sync (Scheduler.inOrder _) (fun _ => none) twoAgents "").2 ∧
    SyncRequester.sync (Scheduler.inOrder _)
      (fun c => if c = 0 then some ⟨.unavailable, "connection lost"⟩ else none) twoAgents "" =
        ([1], none) ∧
    SyncRequester.sync (Scheduler.inOrder _)
      (fun _ => some ⟨.notFound, "no such capability"⟩) twoAgents "a" =
        ([0], some ⟨.notFound, "no such capability"⟩) := by
  refine ⟨fun hall => ?_, by decide +kernel, by decide +kernel⟩
  have hlength := hall.asked.length_eq
  exact absurd hlength (by decide +kernel)

end Opni.Gateway
