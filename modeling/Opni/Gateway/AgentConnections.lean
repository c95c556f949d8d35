/-
  Opni.Gateway.AgentConnections

  The connected agents, as the gateway knows them: `HandleAgentConnection` of
  the `DelegateServer` (`pkg/gateway/delegate.go`) and of the `SyncRequester`
  (`pkg/gateway/sync.go`), which `StreamServer.Connect` starts for every
  connection, and the requests that look the agents up.
-/

import Opni.Lib.GoData
import Opni.Lib.Goroutines

namespace Opni.Gateway

open Lib Lib.Goroutines Function

/-! ## The servers -/

/-- Where `HandleAgentConnection` is. -/
inductive HandlerPc where
  /-- Before the lock, or not yet called. -/
  | starting
  /-- With the lock, before the agent is filed. -/
  | locked
  /-- Waiting for its context. -/
  | waiting
  /-- With the lock, before the agent is taken out. -/
  | removing
  | returned
deriving DecidableEq

/-- `DelegateServer` and `SyncRequester`: the lock, the map, and the calls. -/
structure AgentServer (α : Type) where
  writer : Option Nat := none
  readers : Nat := 0
  activeAgents : GoMap String α := ∅
  pcs : Nat → HandlerPc := fun _ => .starting

/-- What a server does, with what it looks up for a connection that it files. -/
inductive ServerEvent (ρ : Type) where
  | lock (n : Nat)
  | register (n : Nat) (r : ρ)
  | lockAgain (n : Nat)
  | remove (n : Nat)
  /-- A request begins. -/
  | rLock
  /-- A request ends. -/
  | rUnlock

section Server

variable {α ρ : Type} (s : AgentServer α)

def AgentServer.Free : Prop := s.writer = none ∧ s.readers = 0

instance : Decidable s.Free := inferInstanceAs (Decidable (_ ∧ _))

def AgentServer.setPc (n : Nat) (pc : HandlerPc) : AgentServer α :=
  { s with pcs := update s.pcs n pc }

/-- A step of a server that files `entry n r` for a connection, or returns if there is none. -/
def AgentServer.step (ids : Nat → String) (entry : Nat → ρ → Option α) (ended : Nat → Bool)
    (s : AgentServer α) : ServerEvent ρ → Option (AgentServer α)
  | .lock n =>
    if s.pcs n = .starting ∧ s.Free then some { s.setPc n .locked with writer := some n } else none
  | .register n r =>
    if s.pcs n = .locked then
      match entry n r with
      -- the lock is not released
      | none => some (s.setPc n .returned)
      | some a => some { s.setPc n .waiting with
          writer := none
          activeAgents := s.activeAgents.insert (ids n) a }
    else none
  | .lockAgain n =>
    if s.pcs n = .waiting ∧ ended n = true ∧ s.Free then
      some { s.setPc n .removing with writer := some n }
    else none
  | .remove n =>
    if s.pcs n = .removing then
      some { s.setPc n .returned with
        writer := none
        activeAgents := s.activeAgents.erase (ids n) }
    else none
  | .rLock => if s.writer = none then some { s with readers := s.readers + 1 } else none
  | .rUnlock => if 0 < s.readers then some { s with readers := s.readers - 1 } else none

end Server

/-- `agentInfo`, with the client of a connection. -/
structure AgentInfo where
  client : Nat
  labels : GoMap String String
  id : String

/-- A step of the `DelegateServer`; `GetCluster` has the labels of the cluster, or fails. -/
def DelegateServer.step (ids : Nat → String) (ended : Nat → Bool) (s : AgentServer AgentInfo) :
    ServerEvent (Option (GoMap String String)) → Option (AgentServer AgentInfo) :=
  s.step ids (fun n cluster => cluster.map fun labels => ⟨n, labels, ids n⟩) ended

/-- A step of the `SyncRequester`. -/
def SyncRequester.step (ids : Nat → String) (ended : Nat → Bool) (s : AgentServer Nat) :
    ServerEvent Unit → Option (AgentServer Nat) :=
  s.step ids (fun n _ => some n) ended

/-- `Request`: the client that gets the request; `NotFound` if there is none. -/
def DelegateServer.request (s : AgentServer AgentInfo) (id : String) : Option Nat :=
  (s.activeAgents.lookup id).map AgentInfo.client

/-- `RequestSync`: the client that gets the request; `NotFound` if there is none.  Without an
    id, it is the first of the map. -/
def SyncRequester.requestSync (order : Scheduler Nat) (s : AgentServer Nat) (id : String) :
    Option Nat :=
  if id = "" then (order.order (s.activeAgents.entries.map Sigma.snd)).head?
  else s.activeAgents.lookup id

/-! ## The gateway -/

/-- The connections whose context has ended, and the servers. -/
structure Servers where
  ended : Nat → Bool := fun _ => false
  delegate : AgentServer AgentInfo := {}
  sync : AgentServer Nat := {}

inductive ServersEvent where
  | connectionEnds (n : Nat)
  | delegate (e : ServerEvent (Option (GoMap String String)))
  | sync (e : ServerEvent Unit)

/-- A step of the gateway; the connections have the ids of agents. -/
def Servers.step (ids : Nat → String) (g : Servers) : ServersEvent → Option Servers
  | .connectionEnds n => some { g with ended := update g.ended n true }
  | .delegate e =>
    (DelegateServer.step ids g.ended g.delegate e).map fun s => { g with delegate := s }
  | .sync e => (SyncRequester.step ids g.ended g.sync e).map fun s => { g with sync := s }

/-! ## Agents that are reached -/

namespace AgentServer

variable {α ρ : Type} (ids : Nat → String)

/-- The connection of an id is filed, and has not ended. -/
@[mk_iff]
structure Live (ended : Nat → Bool) (s : AgentServer α) (id : String)
    (n : Nat) : Prop where
  id_eq : ids n = id
  filed : s.pcs n = .waiting
  not_ended : ended n = false

variable (client : α → Nat)

/-- A call that has returned or waits for its context does not have the lock, and an agent
    with a live connection is filed with the client of a connection that has not ended. -/
structure Sound (ids : Nat → String) (ended : Nat → Bool)
    (s : AgentServer α) : Prop where
  unlocked : ∀ n, s.writer = some n → s.pcs n ≠ .returned ∧ s.pcs n ≠ .waiting
  reached : ∀ id n, s.Live ids ended id n →
    ∃ a, s.activeAgents.lookup id = some a ∧ ids (client a) = id ∧ ended (client a) = false

/-- The server has something to file; and when it files a connection that has ended, or takes
    an id out, the agent has no live connection. -/
def Allows (entry : Nat → ρ → Option α) (ended : Nat → Bool)
    (s : AgentServer α) : ServerEvent ρ → Prop
  | .register n r => entry n r ≠ none ∧ (ended n = true → ∀ m, ¬s.Live ids ended (ids n) m)
  | .remove n => ∀ m, ¬s.Live ids ended (ids n) m
  | .lock _ | .lockAgain _ | .rLock | .rUnlock => True

/-- When the connection whose client is filed ends, the agent has no other live one. -/
def AllowsEnd (ids : Nat → String) (ended : Nat → Bool) (s : AgentServer α)
    (n : Nat) : Prop :=
  ∀ a, s.activeAgents.lookup (ids n) = some a → client a = n →
    ∀ m, m ≠ n → ¬s.Live ids ended (ids n) m

/-- A call between taking the lock and giving it back has it. -/
def Holding (s : AgentServer α) : Prop :=
  ∀ n, s.pcs n = .locked ∨ s.pcs n = .removing → s.writer = some n

variable {ids : Nat → String} {entry : Nat → ρ → Option α} {ended : Nat → Bool}
  {client : α → Nat} {s s' : AgentServer α} {e : ServerEvent ρ} {n : Nat} {pc : HandlerPc}

inductive Move (ids : Nat → String) (entry : Nat → ρ → Option α) (ended : Nat → Bool)
    (s : AgentServer α) : ServerEvent ρ → AgentServer α → Prop where
  | lock {n : Nat} (hpc : s.pcs n = .starting) (hfree : s.Free) :
      Move ids entry ended s (.lock n) { s.setPc n .locked with writer := some n }
  | fail {n : Nat} {r : ρ} (hpc : s.pcs n = .locked) (hentry : entry n r = none) :
      Move ids entry ended s (.register n r) (s.setPc n .returned)
  | register {n : Nat} {r : ρ} {a : α} (hpc : s.pcs n = .locked) (hentry : entry n r = some a) :
      Move ids entry ended s (.register n r)
        { s.setPc n .waiting with
          writer := none
          activeAgents := s.activeAgents.insert (ids n) a }
  | lockAgain {n : Nat} (hpc : s.pcs n = .waiting) (hended : ended n = true) (hfree : s.Free) :
      Move ids entry ended s (.lockAgain n) { s.setPc n .removing with writer := some n }
  | remove {n : Nat} (hpc : s.pcs n = .removing) :
      Move ids entry ended s (.remove n)
        { s.setPc n .returned with
          writer := none
          activeAgents := s.activeAgents.erase (ids n) }
  | rLock (hwriter : s.writer = none) :
      Move ids entry ended s .rLock { s with readers := s.readers + 1 }
  | rUnlock (hreaders : 0 < s.readers) :
      Move ids entry ended s .rUnlock { s with readers := s.readers - 1 }

theorem move_of_step (h : s.step ids entry ended e = some s') : Move ids entry ended s e s' := by
  revert h
  fun_cases step ids entry ended s e <;> grind [Move]

@[simp] theorem pcs_setPc (s : AgentServer α) (n : Nat) (pc : HandlerPc) :
    (s.setPc n pc).pcs = update s.pcs n pc := rfl

theorem holding_new : Holding ({} : AgentServer α) := by
  rintro n (h | h)
  · cases h
  · cases h

theorem holding_of_update (hpcs : s'.pcs = update s.pcs n pc)
    (hself : pc = .locked ∨ pc = .removing → s'.writer = some n)
    (hothers : ∀ m ≠ n, s.pcs m = .locked ∨ s.pcs m = .removing → s'.writer = some m) :
    Holding s' := by
  intro m hm
  rw [hpcs, update_apply] at hm
  split at hm
  next hmn => exact hmn ▸ hself hm
  next hmn => exact hothers m hmn hm

/-- Only a call that has the lock, or takes it when nobody has it, moves on. -/
theorem Holding.step (h : Holding s) (hstep : s.step ids entry ended e = some s') : Holding s' := by
  -- a call that does not move has the lock only if nobody else takes it
  have hother : ∀ {n m : Nat} {P : Prop}, m ≠ n → s.writer = none ∨ s.writer = some n →
      s.pcs m = .locked ∨ s.pcs m = .removing → P := by
    intro n m P hne hwriter hm
    rw [h m hm] at hwriter
    rcases hwriter with hwriter | hwriter
    · cases hwriter
    · exact absurd (Option.some.inj hwriter) hne
  cases move_of_step hstep with
  | lock hpc hfree | lockAgain hpc hended hfree =>
    exact holding_of_update rfl (fun _ => rfl) fun m hne => hother hne (.inl hfree.1)
  | fail hpc hentry =>
    -- the lock is not given back
    exact holding_of_update rfl (fun hpc' => by simp at hpc') fun m _ hm => h m hm
  | @register n r a hpc hentry =>
    refine holding_of_update rfl (fun hpc' => by simp at hpc') fun m hne => ?_
    exact hother hne (.inr (h n (.inl hpc)))
  | @remove n hpc =>
    refine holding_of_update rfl (fun hpc' => by simp at hpc') fun m hne => ?_
    exact hother hne (.inr (h n (.inr hpc)))
  | rLock hwriter | rUnlock hreaders => exact h

theorem sound_new (client : α → Nat) (ids : Nat → String) (ended : Nat → Bool) :
    Sound client ids ended ({} : AgentServer α) where
  unlocked n h := by cases h
  reached id n h := by cases h.filed

variable (h : Sound client ids ended s)

include h

theorem Sound.take (hpc : pc = .locked ∨ pc = .removing) :
    Sound client ids ended { s.setPc n pc with writer := some n } where
  unlocked m hm := by
    obtain rfl : n = m := Option.some.inj hm
    rcases hpc with rfl | rfl
    · simp
    · simp
  reached id m hm := by
    have hfiled := hm.filed
    by_cases hmn : m = n
    · subst hmn
      simp only [pcs_setPc, update_self] at hfiled
      rcases hpc with rfl | rfl
      · cases hfiled
      · cases hfiled
    · simp only [pcs_setPc, update_of_ne hmn] at hfiled
      exact h.reached id m ⟨hm.id_eq, hfiled, hm.not_ended⟩

/-- Filing a connection keeps the agents reached unless the connection has ended and the agent
    has another one. -/
theorem sound_register_iff (hclient : ∀ n r a, entry n r = some a → client a = n) {r : ρ} {a : α}
    (hpc : s.pcs n = .locked) (hentry : entry n r = some a) :
    Sound client ids ended { s.setPc n .waiting with
        writer := none
        activeAgents := s.activeAgents.insert (ids n) a } ↔
      (ended n = true → ∀ m, ¬s.Live ids ended (ids n) m) := by
  have hne : ∀ {m id}, s.Live ids ended id m → m ≠ n := by
    rintro m id hm rfl
    cases hm.filed.symm.trans hpc
  apply Iff.intro
  · intro hsound hended m hm
    obtain ⟨b, hlookup, -, hlive⟩ := hsound.reached (ids n) m
      ⟨hm.id_eq, by simp [update_of_ne (hne hm), hm.filed], hm.not_ended⟩
    obtain rfl : a = b := by simpa using hlookup
    rw [hclient n r a hentry, hended] at hlive
    cases hlive
  · intro hallow
    refine ⟨fun m hm => absurd hm (by simp), fun id m hm => ?_⟩
    by_cases hid : id = ids n
    · subst hid
      refine ⟨a, AList.lookup_insert _, ?_, ?_⟩
      · rw [hclient n r a hentry]
      · rw [hclient n r a hentry]
        by_contra hended
        by_cases hmn : m = n
        · exact hended (hmn ▸ hm.not_ended)
        · refine hallow (by simpa using hended) m ⟨hm.id_eq, ?_, hm.not_ended⟩
          simpa [update_of_ne hmn] using hm.filed
    · have hmn : m ≠ n := by
        rintro rfl
        exact hid hm.id_eq.symm
      have hold : s.Live ids ended id m :=
        ⟨hm.id_eq, by simpa [update_of_ne hmn] using hm.filed, hm.not_ended⟩
      obtain ⟨b, hlookup, hb⟩ := h.reached id m hold
      exact ⟨b, (AList.lookup_insert_ne hid).trans hlookup, hb⟩

/-- Taking an id out keeps the agents reached unless the agent has a live connection. -/
theorem sound_remove_iff (hpc : s.pcs n = .removing) :
    Sound client ids ended { s.setPc n .returned with
        writer := none
        activeAgents := s.activeAgents.erase (ids n) } ↔
      ∀ m, ¬s.Live ids ended (ids n) m := by
  apply Iff.intro
  · intro hsound m hm
    have hmn : m ≠ n := by
      rintro rfl
      cases hm.filed.symm.trans hpc
    obtain ⟨b, hlookup, -⟩ := hsound.reached (ids n) m
      ⟨hm.id_eq, by simp [update_of_ne hmn, hm.filed], hm.not_ended⟩
    rw [AList.lookup_erase] at hlookup
    cases hlookup
  · intro hallow
    refine ⟨fun m hm => absurd hm (by simp), fun id m hm => ?_⟩
    have hmn : m ≠ n := by
      rintro rfl
      exact absurd hm.filed (by simp)
    have hold : s.Live ids ended id m :=
      ⟨hm.id_eq, by simpa [update_of_ne hmn] using hm.filed, hm.not_ended⟩
    have hid : id ≠ ids n := by
      rintro rfl
      exact hallow m hold
    obtain ⟨b, hlookup, hb⟩ := h.reached id m hold
    exact ⟨b, (AList.lookup_erase_ne hid).trans hlookup, hb⟩

theorem sound_step_iff (hholding : Holding s) (hclient : ∀ n r a, entry n r = some a → client a = n)
    (hstep : s.step ids entry ended e = some s') :
    Sound client ids ended s' ↔ Allows ids entry ended s e := by
  cases move_of_step hstep with
  | lock hpc hfree => exact iff_of_true (h.take (.inl rfl)) trivial
  | @fail n r hpc hentry =>
    refine iff_of_false (fun hsound => ?_) fun hallow => hallow.1 hentry
    exact (hsound.unlocked n (hholding n (.inl hpc))).1 (by simp)
  | @register n r a hpc hentry =>
    rw [sound_register_iff h hclient hpc hentry, Allows, hentry]
    simp
  | lockAgain hpc hended hfree => exact iff_of_true (h.take (.inr rfl)) trivial
  | remove hpc => exact sound_remove_iff h hpc
  | rLock hwriter | rUnlock hreaders =>
    refine iff_of_true ⟨h.unlocked, fun id n hn => ?_⟩ trivial
    exact h.reached id n ⟨hn.id_eq, hn.filed, hn.not_ended⟩

theorem sound_end_iff (n : Nat) :
    Sound client ids (update ended n true) s ↔ AllowsEnd client ids ended s n := by
  apply Iff.intro
  · intro hsound a hlookup hclient m hmn hm
    obtain ⟨b, hlookup', -, hended⟩ := hsound.reached (ids n) m
      ⟨hm.id_eq, hm.filed, by rw [update_of_ne hmn, hm.not_ended]⟩
    obtain rfl : a = b := Option.some.inj (hlookup.symm.trans hlookup')
    rw [hclient, update_self] at hended
    cases hended
  · intro hallow
    refine ⟨h.unlocked, fun id m hm => ?_⟩
    have hmn : m ≠ n := by
      rintro rfl
      exact absurd hm.not_ended (by simp)
    have hold : s.Live ids ended id m :=
      ⟨hm.id_eq, hm.filed, by simpa [update_of_ne hmn] using hm.not_ended⟩
    obtain ⟨a, hlookup, hid, hended⟩ := h.reached id m hold
    refine ⟨a, hlookup, hid, ?_⟩
    by_cases hclient : client a = n
    · have heq : ids n = id := by rw [← hclient, hid]
      exact absurd (heq ▸ hold) (hallow a (heq ▸ hlookup) hclient m hmn)
    · rw [update_of_ne hclient, hended]

end AgentServer

/-! ## Every agent is reached -/

namespace Servers

/-- Both servers are sound, and so `Request` and `RequestSync` find every agent with a live
    connection. -/
structure Sound (ids : Nat → String) (g : Servers) : Prop where
  delegate : g.delegate.Sound AgentInfo.client ids g.ended
  sync : g.sync.Sound id ids g.ended
  request_ne_none : ∀ id n, g.delegate.Live ids g.ended id n →
    DelegateServer.request g.delegate id ≠ none
  requestSync_ne_none : ∀ order id n, g.sync.Live ids g.ended id n →
    SyncRequester.requestSync order g.sync id ≠ none

/-- The lookup of a cluster does not fail; and when the connection that is filed ends, when one
    that has ended is filed, and when an id is taken out, the agent has no other live
    connection. -/
def Allows (ids : Nat → String) (g : Servers) : ServersEvent → Prop
  | .connectionEnds n =>
    g.delegate.AllowsEnd AgentInfo.client ids g.ended n ∧ g.sync.AllowsEnd id ids g.ended n
  | .delegate e =>
    g.delegate.Allows ids
      (fun n cluster => cluster.map fun labels => AgentInfo.mk n labels (ids n)) g.ended e
  | .sync e => g.sync.Allows ids (fun n (_ : Unit) => some n) g.ended e

variable {ids : Nat → String} {g g' : Servers} {e : ServersEvent}

theorem sound_iff : g.Sound ids ↔
    g.delegate.Sound AgentInfo.client ids g.ended ∧ g.sync.Sound id ids g.ended := by
  refine ⟨fun h => ⟨h.delegate, h.sync⟩, fun ⟨hdelegate, hsync⟩ => ⟨hdelegate, hsync, ?_, ?_⟩⟩
  · intro id n hlive
    obtain ⟨a, hlookup, -⟩ := hdelegate.reached id n hlive
    simp [DelegateServer.request, hlookup]
  · intro order id n hlive
    obtain ⟨a, hlookup, -⟩ := hsync.reached id n hlive
    rw [SyncRequester.requestSync]
    split
    · have hmem : a ∈ order.order (g.sync.activeAgents.entries.map Sigma.snd) := by
        rw [(order.perm _).mem_iff]
        exact List.mem_map_of_mem (GoMap.mem_entries.mpr hlookup)
      rw [Ne, List.head?_eq_none_iff]
      exact List.ne_nil_of_mem hmem
    · rw [hlookup]
      exact Option.some_ne_none a

/-- The calls of both servers have the locks where they should. -/
def Holding (g : Servers) : Prop := g.delegate.Holding ∧ g.sync.Holding

theorem Holding.step (h : g.Holding) (hstep : g.step ids e = some g') : g'.Holding := by
  cases e with
  | connectionEnds n =>
    cases hstep
    exact h
  | delegate e =>
    obtain ⟨s, hs, rfl⟩ := Option.map_eq_some_iff.mp hstep
    exact ⟨h.1.step hs, h.2⟩
  | sync e =>
    obtain ⟨s, hs, rfl⟩ := Option.map_eq_some_iff.mp hstep
    exact ⟨h.1, h.2.step hs⟩

theorem sound_step_iff (hholding : g.Holding) (h : g.Sound ids) (hstep : g.step ids e = some g') :
    g'.Sound ids ↔ g.Allows ids e := by
  rw [sound_iff]
  cases e with
  | connectionEnds n =>
    cases hstep
    exact and_congr (AgentServer.sound_end_iff h.delegate n) (AgentServer.sound_end_iff h.sync n)
  | delegate e =>
    obtain ⟨s, hs, rfl⟩ := Option.map_eq_some_iff.mp hstep
    rw [and_iff_left h.sync]
    refine AgentServer.sound_step_iff h.delegate hholding.1 ?_ hs
    rintro n (_ | labels) a ha
    · cases ha
    · obtain rfl := Option.some.inj ha
      rfl
  | sync e =>
    obtain ⟨s, hs, rfl⟩ := Option.map_eq_some_iff.mp hstep
    rw [and_iff_right h.delegate]
    refine AgentServer.sound_step_iff h.sync hholding.2 ?_ hs
    intro n r a ha
    exact (Option.some.inj ha).symm

end Servers

/-- In a run of the gateway, no lock is left behind and every agent with a live connection is
    reached all along just when every event is allowed. -/
theorem agents_reachable (ids : Nat → String) (events : List ServersEvent) {g : Servers}
    (hrun : run (Servers.step ids) {} events = some g) :
    Always (Servers.step ids) (Servers.Sound ids) {} events ↔
      Throughout (Servers.step ids) (Servers.Allows ids) {} events := by
  refine always_iff_throughout (I := Servers.Holding) ?_ ?_ ?_ ?_ hrun
  · intro s e s' hs hstep
    exact hs.step hstep
  · intro s e s' hs hsound hstep
    exact Servers.sound_step_iff hs hsound hstep
  · exact ⟨AgentServer.holding_new, AgentServer.holding_new⟩
  · exact Servers.sound_iff.mpr
      ⟨AgentServer.sound_new _ _ _, AgentServer.sound_new _ _ _⟩

variable (n : Nat)

def connecting : List ServersEvent :=
  [.delegate (.lock n), .delegate (.register n (some ∅)), .sync (.lock n), .sync (.register n ())]

/-- A connection ends, and both servers take its id out. -/
def disconnecting : List ServersEvent :=
  [.connectionEnds n, .delegate (.lockAgain n), .delegate (.remove n), .sync (.lockAgain n),
    .sync (.remove n)]

/-- An agent connects again once its old connection has been taken out. -/
theorem agents_reachable_connecting :
    Always (Servers.step fun _ => "agent") (Servers.Sound fun _ => "agent") {}
      (connecting 0 ++ disconnecting 0 ++ connecting 1) := by
  obtain ⟨g, hg⟩ : ∃ g, run (Servers.step fun _ => "agent") {}
      (connecting 0 ++ disconnecting 0 ++ connecting 1) = some g :=
    Option.isSome_iff_exists.mp (by decide +kernel)
  refine (agents_reachable (fun _ => "agent") _ hg).mpr ?_
  simp [connecting, disconnecting, Throughout, Servers.Allows, AgentServer.Allows, Servers.step,
    DelegateServer.step, SyncRequester.step, AgentServer.step, AgentServer.Free,
    AgentServer.setPc, AgentServer.AllowsEnd, AgentServer.live_iff, update_apply]
  -- no connection but the one that ends is filed
  refine ⟨fun m hm => ?_, fun m hm => ?_⟩
  · simp [hm]
  · by_contra hne
    simp [hne] at hm

/-- The lookup of the cluster fails, and the call returns with the lock; and an agent connects
    again before its old connection has been taken out, and neither server finds it. -/
theorem reconnect_loses_agent :
    (∃ g, Reaches (Servers.step fun _ => "agent") (fun _ _ => True) {} g ∧
      g.delegate.writer = some 0 ∧ g.delegate.pcs 0 = .returned) ∧
    ∃ g, Reaches (Servers.step fun _ => "agent") (fun _ _ => True) {} g ∧
      g.delegate.pcs 1 = .waiting ∧ g.sync.pcs 1 = .waiting ∧ g.ended 1 = false ∧
      DelegateServer.request g.delegate "agent" = none ∧
      SyncRequester.requestSync (.inOrder _) g.sync "agent" = none := by
  constructor
  · exact exists_reaches_of_isSome [.delegate (.lock 0), .delegate (.register 0 none)]
      (by decide +kernel) (by decide +kernel)
  · exact exists_reaches_of_isSome (connecting 0 ++ connecting 1 ++ disconnecting 0)
      (by decide +kernel) (by decide +kernel)

end Opni.Gateway
