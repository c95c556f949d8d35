/-
  Opni.AgentHealth.PublishedOrder

  Whether a run of `HandleConnection` publishes health that is older than what
  it has received (`pkg/health/listener.go`).  What it compares with is the
  health that it has published last, and an unchanged one that is newer is not
  remembered.  The first and the last health of a run are published with the
  time of the gateway.
-/

import Opni.AgentHealth.Listener

namespace Opni.AgentHealth

open Lib.Goroutines

/-- A run of `HandleConnection`, with the times of the health values that it has received. -/
structure HealthRun where
  conn : Connection
  received : List Timestamp := []

inductive HealthRunEvent where
  | connection (closed : Bool) (e : ConnectionEvent)
  /-- `UpdateHealth` puts an update into the channel. -/
  | push (u : HealthUpdate)
  | sendStatus (now : Timestamp)
  | sendHealth (now : Timestamp)

/-- The health that the connection receives with an event. -/
def Connection.receives (c : Connection) : ConnectionEvent → Option Health
  | .answer res | .polled res => res
  | .takeIncoming => c.incoming.head?.map (·.value)
  | _ => none

namespace HealthRun

def step (r : HealthRun) : HealthRunEvent → Option HealthRun
  | .connection closed e => (r.conn.step closed e).map fun c =>
    ⟨c, r.received ++ (r.conn.receives e).toList.map fun h => Health.time (some h)⟩
  | .push u => some { r with conn := { r.conn with incoming := r.conn.incoming ++ [u] } }
  | .sendStatus now =>
    (r.conn.statusToSend now).map fun u => { r with conn := { r.conn with pc := u.2 } }
  | .sendHealth now =>
    (r.conn.healthToSend now).map fun u => { r with conn := { r.conn with pc := u.2 } }

/-- When `HandleConnection` has registered the connection. -/
def start (id : String) (incoming : List HealthUpdate) : HealthRun where
  conn := { id := id, pc := .connecting, incoming := incoming }

variable (r : HealthRun)

/-- No health that is received is older than one received before, and the clock of the gateway
    is not behind the timestamps that it has received. -/
def inOrder : HealthRunEvent → Bool
  | .connection _ e =>
    (r.conn.receives e).all fun h => r.received.all (· ≤ Health.time (some h))
  | .push _ => true
  | .sendStatus now | .sendHealth now => r.received.all (· ≤ now)

/-- The invariant: what is about to be sent on is the latest. -/
def ForwardsLatest : Prop :=
  ∀ u, r.conn.pc = .forwarding u → ∀ t ∈ r.received, t ≤ Health.time (some u.value)

theorem forwardsLatest_receive {received : List Timestamp} {c : Connection} {u u' : HealthUpdate}
    (hok : received.all (· ≤ Health.time (some u.value)) = true)
    (hpc : (c.receive u).pc = .forwarding u') :
    ∀ t ∈ received ++ [Health.time (some u.value)], t ≤ Health.time (some u'.value) := by
  unfold Connection.receive at hpc
  split at hpc
  · obtain rfl := ConnectionPc.forwarding.inj hpc
    intro t ht
    rcases List.mem_append.mp ht with hold | hlast
    · exact decide_eq_true_eq.mp (List.all_eq_true.mp hok t hold)
    · exact (List.mem_singleton.mp hlast).le
  · cases hpc

theorem ForwardsLatest.step {r r' : HealthRun} {e : HealthRunEvent} (h : r.ForwardsLatest)
    (hok : r.inOrder e = true) (hstep : r.step e = some r') : r'.ForwardsLatest := by
  cases e with
  | push u =>
    cases hstep
    exact h
  | sendStatus now =>
    obtain ⟨⟨u, pc⟩, hsend, rfl⟩ := Option.map_eq_some_iff.mp hstep
    intro u' hpc
    rcases Connection.statusToSend_eq_some hsend with ⟨-, -, rfl⟩ | ⟨-, -, rfl⟩
    · cases hpc
    · cases hpc
  | sendHealth now =>
    obtain ⟨⟨u, pc⟩, hsend, rfl⟩ := Option.map_eq_some_iff.mp hstep
    intro u' hpc
    rcases Connection.healthToSend_eq_some hsend with
      ⟨-, -, -, rfl⟩ | ⟨-, rfl⟩ | ⟨-, -, rfl⟩ <;> cases hpc
  | connection closed e =>
    obtain ⟨c, hconn, rfl⟩ := Option.map_eq_some_iff.mp hstep
    intro u hpc
    -- only what the loop receives is sent on
    cases Connection.move_of_step hconn with
    | cancel =>
      simp only [Connection.receives, Option.toList_none, List.map_nil, List.append_nil]
      exact h u hpc
    | @polled health _ =>
      exact forwardsLatest_receive (u := ⟨r.conn.id, health⟩) hok hpc
    | @takeIncoming u₀ incoming _ hincoming =>
      simp only [inOrder, Connection.receives, hincoming, List.head?_cons, Option.map_some,
        Option.toList_some, List.map_cons, List.map_nil, Option.all_some] at hok ⊢
      exact forwardsLatest_receive hok hpc
    | giveUp _ | answer _ | answerError _ | timer _ | polledError _ | leave _ _ =>
      cases hpc

end HealthRun

end Opni.AgentHealth
