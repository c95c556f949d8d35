/-
  Opni.AgentHealth.Listener

  The health listener: `HandleConnection`, `UpdateHealth` and `Close` of
  `pkg/health/listener.go`, with the comparisons of
  `pkg/apis/core/v1/comparator.go`.
-/

import Opni.AgentHealth.Monitor

namespace Opni.AgentHealth

open Function

open Lib (GoMap)
open Lib.Goroutines

/-! ## Comparing health -/

/-- `r.GetTimestamp().AsTime()`; the zero timestamp is the epoch. -/
def Health.time (r : Option Health) : Timestamp := (r.bind Health.timestamp).getD 0

/-- `Equal`, which leaves the timestamp out. -/
def Health.equal (r other : Option Health) : Bool :=
  match r, other with
  | some r, some other =>
    r.ready == other.ready && r.conditions == other.conditions &&
      r.annotations.equal other.annotations
  | none, none => true
  | _, _ => false

def Health.newerThan (r other : Option Health) : Bool := Health.time other < Health.time r

/-! ## Connections -/

/-- Where `HandleConnection` is. -/
inductive ConnectionPc where
  /-- It has not been called. -/
  | idle
  /-- In `sem.Acquire`. -/
  | acquiring
  /-- About to look up its client lock. -/
  | finding
  /-- In `clientLock.Lock`. -/
  | locking
  /-- In the first `incomingHealthUpdatesMu.Lock`, behind other writers. -/
  | registering
  /-- The same, as the next writer, which waits for the readers to leave. -/
  | registeringNext
  /-- At the send of the status connected. -/
  | connecting
  /-- Waiting for the first answer to `GetHealth`. -/
  | asking
  /-- At the send of that answer. -/
  | publishing (health : Health)
  /-- At the `select` of the loop. -/
  | selecting
  /-- Waiting for a later answer to `GetHealth`. -/
  | polling
  /-- At the send of a health that is new. -/
  | forwarding (u : HealthUpdate)
  /-- In the second deferred call, at the send of a health that is not ready. -/
  | clearing
  /-- In the second deferred call, at the send of the status disconnected. -/
  | disconnecting
  /-- In the `incomingHealthUpdatesMu.Lock` of the third, behind other writers. -/
  | unregistering
  | unregisteringNext
  /-- At the fourth deferred call, `clientLock.Unlock`. -/
  | unlocking
  /-- At the fifth deferred call, `sem.Release`. -/
  | releasing
  | returned
  /-- It has returned without handling the connection. -/
  | refused

/-- How far `HandleConnection` has come. -/
def ConnectionPc.stage : ConnectionPc → Nat
  | .idle => 0
  | .acquiring => 1
  | .finding => 2
  | .locking => 3
  | .registering => 4
  | .registeringNext => 5
  | .connecting => 6
  | .asking => 7
  | .publishing _ => 8
  | .selecting | .polling | .forwarding _ => 9
  | .clearing => 10
  | .disconnecting => 11
  | .unregistering => 12
  | .unregisteringNext => 13
  | .unlocking => 14
  | .releasing => 15
  | .returned => 16
  | .refused => 17

/-- A run of `HandleConnection`: its goroutine and its variables, and whether its context
    is cancelled. -/
structure Connection where
  id : String
  pc : ConnectionPc := .idle
  cancelled : Bool := false
  curHealth : Option Health := none
  incoming : List HealthUpdate := []

variable (c : Connection)

/-- What the loop does with a health: one that is new is sent on. -/
def Connection.receive (u : HealthUpdate) : Connection :=
  if !Health.equal (some u.value) c.curHealth && Health.newerThan (some u.value) c.curHealth then
    { c with curHealth := some u.value, pc := .forwarding u }
  else { c with pc := .selecting }

variable (now : Timestamp)

/-- The health it is sending, and where it is afterwards. -/
def Connection.healthToSend :
    Option (HealthUpdate × ConnectionPc) :=
  match c.pc with
  | .publishing health => some (⟨c.id, { health with timestamp := some now }⟩, .selecting)
  | .forwarding u => some (u, .selecting)
  | .clearing => some (⟨c.id, { timestamp := some now, ready := false }⟩, .disconnecting)
  | _ => none

/-- The status it is sending with `publishStatus`, and where it is afterwards. -/
def Connection.statusToSend :
    Option (StatusUpdate × ConnectionPc) :=
  match c.pc with
  | .connecting => some (⟨c.id, { timestamp := some now, connected := true }⟩, .asking)
  | .disconnecting => some (⟨c.id, { timestamp := some now, connected := false }⟩, .unregistering)
  | _ => none

theorem Connection.healthToSend_eq_some {c : Connection} {now : Timestamp} {u : HealthUpdate}
    {pc : ConnectionPc} (h : c.healthToSend now = some (u, pc)) :
    (∃ health, c.pc = .publishing health ∧ u = ⟨c.id, { health with timestamp := some now }⟩ ∧
        pc = .selecting) ∨
      c.pc = .forwarding u ∧ pc = .selecting ∨
      c.pc = .clearing ∧ u = ⟨c.id, { timestamp := some now, ready := false }⟩ ∧
        pc = .disconnecting := by
  unfold Connection.healthToSend at h
  split at h
  next health hpc =>
    cases h
    exact .inl ⟨health, hpc, rfl, rfl⟩
  next hpc =>
    cases h
    exact .inr (.inl ⟨hpc, rfl⟩)
  next hpc =>
    cases h
    exact .inr (.inr ⟨hpc, rfl, rfl⟩)
  · cases h

theorem Connection.statusToSend_eq_some {c : Connection} {now : Timestamp} {u : StatusUpdate}
    {pc : ConnectionPc} (h : c.statusToSend now = some (u, pc)) :
    c.pc = .connecting ∧ u = ⟨c.id, { timestamp := some now, connected := true }⟩ ∧
        pc = .asking ∨
      c.pc = .disconnecting ∧ u = ⟨c.id, { timestamp := some now, connected := false }⟩ ∧
        pc = .unregistering := by
  unfold Connection.statusToSend at h
  split at h
  next hpc =>
    cases h
    exact .inl ⟨hpc, rfl, rfl⟩
  next hpc =>
    cases h
    exact .inr ⟨hpc, rfl, rfl⟩
  · cases h

inductive ConnectionEvent where
  | cancel
  /-- The context is cancelled while it waits for the semaphore. -/
  | giveUp
  /-- The first answer to `GetHealth`; none is an error. -/
  | answer (res : Option Health)
  | timer
  | polled (res : Option Health)
  | takeIncoming
  /-- It returns from the loop. -/
  | leave

def Connection.step (closed : Bool) (c : Connection) : ConnectionEvent → Option Connection
  | .cancel => some { c with cancelled := true }
  | .giveUp =>
    match c.pc with
    | .acquiring => if c.cancelled then some { c with pc := .refused } else none
    | _ => none
  | .answer res =>
    match c.pc, res with
    | .asking, some health => some { c with curHealth := some health, pc := .publishing health }
    | .asking, none => some { c with curHealth := none, pc := .selecting }
    | _, _ => none
  | .timer =>
    match c.pc with
    | .selecting => some { c with pc := .polling }
    | _ => none
  | .polled res =>
    match c.pc, res with
    | .polling, some health => some (c.receive ⟨c.id, health⟩)
    | .polling, none => some { c with pc := .selecting }
    | _, _ => none
  | .takeIncoming =>
    match c.pc, c.incoming with
    | .selecting, u :: incoming => some (Connection.receive { c with incoming := incoming } u)
    | _, _ => none
  | .leave =>
    match c.pc with
    | .selecting => if c.cancelled || closed then some { c with pc := .clearing } else none
    | _ => none

inductive Connection.Move (closed : Bool) (c : Connection) :
    ConnectionEvent → Connection → Prop where
  | cancel : c.Move closed .cancel { c with cancelled := true }
  | giveUp : c.pc = .acquiring → c.Move closed .giveUp { c with pc := .refused }
  | answer {health : Health} : c.pc = .asking → c.Move closed (.answer (some health))
      { c with curHealth := some health, pc := .publishing health }
  | answerError : c.pc = .asking →
      c.Move closed (.answer none) { c with curHealth := none, pc := .selecting }
  | timer : c.pc = .selecting → c.Move closed .timer { c with pc := .polling }
  | polled {health : Health} : c.pc = .polling →
      c.Move closed (.polled (some health)) (c.receive ⟨c.id, health⟩)
  | polledError : c.pc = .polling → c.Move closed (.polled none) { c with pc := .selecting }
  | takeIncoming {u : HealthUpdate} {incoming : List HealthUpdate} : c.pc = .selecting →
      c.incoming = u :: incoming →
      c.Move closed .takeIncoming (Connection.receive { c with incoming := incoming } u)
  | leave : c.pc = .selecting → (c.cancelled || closed) = true →
      c.Move closed .leave { c with pc := .clearing }

theorem Connection.move_of_step {closed : Bool} {c c' : Connection} {e : ConnectionEvent}
    (h : c.step closed e = some c') : c.Move closed e c' := by
  revert h
  fun_cases Connection.step closed c e <;> grind [Connection.Move]

/-! ## The listener -/

/-- Where `UpdateHealth` is. -/
inductive CallPc where
  | idle
  /-- In `incomingHealthUpdatesMu.RLock`. -/
  | locking
  /-- It holds the lock for reading, and is sending to the connection. -/
  | sending (c : Nat)
  | returned
deriving DecidableEq

/-- A call of `UpdateHealth`. -/
structure Call where
  id : String
  req : Health
  pc : CallPc := .idle

def Call.update (k : Call) : HealthUpdate := ⟨k.id, k.req⟩

/-- The capacity of the channel from `UpdateHealth` to a connection. -/
def incomingCap : Nat := 10

/-- `idLocks` has the holder of each lock.  The channel of an id in `incomingHealthUpdates` is
    the one of its connection.  `writer` and `readers` are the state of
    `incomingHealthUpdatesMu`, `holders` that of `sem`. -/
structure Listener where
  maxConnections : Nat
  updateQueueCap : Nat
  statusUpdate : List StatusUpdate := []
  healthUpdate : List HealthUpdate := []
  idLocks : GoMap String (Option Nat) := ∅
  incomingHealthUpdates : GoMap String Nat := ∅
  writer : Option Nat := none
  readers : List Nat := []
  holders : List Nat := []
  closed : Bool := false
  /-- The goroutine of `Close` has the whole semaphore, and has closed the two queues. -/
  queuesClosed : Bool := false
  connections : Nat → Connection
  calls : Nat → Call

/-- A send on a channel goes through: there is room, or a receiver is waiting, as an
    unbuffered channel needs. -/
def canSend {α : Type} (cap : Nat) (ready : Bool) (queue : List α) : Bool :=
  queue.length < cap || ready && queue.isEmpty

variable (l : Listener)

def Listener.setConnection (i : Nat) (c : Connection) : Listener :=
  { l with connections := update l.connections i c }

def Listener.setPc (i : Nat) (pc : ConnectionPc) : Listener :=
  l.setConnection i { l.connections i with pc := pc }

def Listener.setCall (k : Nat) (pc : CallPc) : Listener :=
  { l with calls := update l.calls k { l.calls k with pc := pc } }

/-- The client lock of an id is looked up, and made if there is none. -/
def findLock (idLocks : GoMap String (Option Nat)) (id : String) : GoMap String (Option Nat) :=
  match idLocks.lookup id with
  | none => idLocks.insert id none
  | some _ => idLocks

section Set

variable {l : Listener} {i j : Nat} {c : Connection} {pc : ConnectionPc}

@[simp] theorem Listener.connections_setConnection_self :
    (l.setConnection i c).connections i = c := update_self ..

@[simp] theorem Listener.connections_setConnection_of_ne (h : j ≠ i) :
    (l.setConnection i c).connections j = l.connections j := update_of_ne h ..

@[simp] theorem Listener.connections_setPc_self :
    (l.setPc i pc).connections i = { l.connections i with pc := pc } := update_self ..

@[simp] theorem Listener.connections_setPc_of_ne (h : j ≠ i) :
    (l.setPc i pc).connections j = l.connections j := update_of_ne h ..

@[simp] theorem Listener.calls_setConnection : (l.setConnection i c).calls = l.calls := rfl

@[simp] theorem Listener.calls_setCall_self {pc : CallPc} :
    (l.setCall i pc).calls i = { l.calls i with pc := pc } := update_self ..

@[simp] theorem Listener.calls_setCall_of_ne {pc : CallPc} (h : j ≠ i) :
    (l.setCall i pc).calls j = l.calls j := update_of_ne h ..

end Set

inductive ListenerEvent where
  /-- `HandleConnection` is called. -/
  | connect (i : Nat)
  | connection (i : Nat) (e : ConnectionEvent)
  | acquire (i : Nat)
  | find (i : Nat)
  | lock (i : Nat)
  /-- The connection becomes the next writer. -/
  | announce (i : Nat)
  /-- It has the lock, puts its channel into the map and unlocks. -/
  | register (i : Nat)
  /-- It has the lock, takes its channel out of the map and unlocks. -/
  | unregister (i : Nat)
  | publishHealth (i : Nat) (now : Timestamp)
  | publishStatus (i : Nat) (now : Timestamp)
  | unlock (i : Nat)
  | release (i : Nat)
  /-- `UpdateHealth` is called. -/
  | call (k : Nat)
  /-- It locks for reading and looks up the channel. -/
  | rlock (k : Nat)
  /-- It sends, unlocks and returns. -/
  | push (k : Nat)
  | close
  | closeQueues

/-- `ready` says that `Run` of the monitor is waiting for an update. -/
def Listener.step (l : Listener) (ready : Bool) : ListenerEvent → Option Listener
  | .connect i =>
    match (l.connections i).pc with
    | .idle => some (l.setPc i (if l.closed then .refused else .acquiring))
    | _ => none
  | .connection i e => ((l.connections i).step l.closed e).map (l.setConnection i)
  | .acquire i =>
    match (l.connections i).pc with
    | .acquiring =>
      if l.holders.length < l.maxConnections ∧ l.queuesClosed = false then
        some { l.setPc i .finding with holders := i :: l.holders }
      else none
    | _ => none
  | .find i =>
    match (l.connections i).pc with
    | .finding =>
      some { l.setPc i .locking with idLocks := findLock l.idLocks (l.connections i).id }
    | _ => none
  | .lock i =>
    match (l.connections i).pc, l.idLocks.lookup (l.connections i).id with
    | .locking, some none =>
      some { l.setPc i .registering with
        idLocks := l.idLocks.insert (l.connections i).id (some i) }
    | _, _ => none
  | .announce i =>
    match (l.connections i).pc, l.writer with
    | .registering, none => some { l.setPc i .registeringNext with writer := some i }
    | .unregistering, none => some { l.setPc i .unregisteringNext with writer := some i }
    | _, _ => none
  | .register i =>
    match (l.connections i).pc, l.readers with
    | .registeringNext, [] =>
      some { l.setConnection i { l.connections i with pc := .connecting, incoming := [] } with
        incomingHealthUpdates := l.incomingHealthUpdates.insert (l.connections i).id i
        writer := none }
    | _, _ => none
  | .unregister i =>
    match (l.connections i).pc, l.readers with
    | .unregisteringNext, [] =>
      some { l.setPc i .unlocking with
        incomingHealthUpdates := l.incomingHealthUpdates.erase (l.connections i).id
        writer := none }
    | _, _ => none
  | .publishHealth i now =>
    match (l.connections i).healthToSend now with
    | some (u, pc) =>
      if canSend l.updateQueueCap ready l.healthUpdate then
        some { l.setPc i pc with healthUpdate := l.healthUpdate ++ [u] }
      else none
    | none => none
  | .publishStatus i now =>
    match (l.connections i).statusToSend now with
    | some (u, pc) =>
      if canSend l.updateQueueCap ready l.statusUpdate then
        some { l.setPc i pc with statusUpdate := l.statusUpdate ++ [u] }
      else none
    | none => none
  | .unlock i =>
    match (l.connections i).pc with
    | .unlocking =>
      some { l.setPc i .releasing with
        idLocks := l.idLocks.insert (l.connections i).id none }
    | _ => none
  | .release i =>
    match (l.connections i).pc with
    | .releasing => some { l.setPc i .returned with holders := l.holders.erase i }
    | _ => none
  | .call k =>
    match (l.calls k).pc with
    | .idle => some (l.setCall k .locking)
    | _ => none
  | .rlock k =>
    match (l.calls k).pc, l.writer with
    | .locking, none =>
      match l.incomingHealthUpdates.lookup (l.calls k).id with
      | some i => some { l.setCall k (.sending i) with readers := k :: l.readers }
      | none => some (l.setCall k .returned)
    | _, _ => none
  | .push k =>
    match (l.calls k).pc with
    | .sending i =>
      let c := l.connections i
      if c.incoming.length < incomingCap then
        some { (l.setConnection i { c with
            incoming := c.incoming ++ [(l.calls k).update] }).setCall k .returned with
          readers := l.readers.erase k }
      else none
    | _ => none
  | .close => if l.closed then none else some { l with closed := true }
  | .closeQueues =>
    if l.closed = true ∧ l.holders = [] ∧ l.queuesClosed = false then
      some { l with queuesClosed := true }
    else none

inductive Listener.Move (l : Listener) (ready : Bool) : ListenerEvent → Listener → Prop where
  | connect {i : Nat} : (l.connections i).pc = .idle →
      l.Move ready (.connect i) (l.setPc i (if l.closed then .refused else .acquiring))
  | connection {i : Nat} {e : ConnectionEvent} {c : Connection} :
      (l.connections i).Move l.closed e c → l.Move ready (.connection i e) (l.setConnection i c)
  | acquire {i : Nat} : (l.connections i).pc = .acquiring →
      l.Move ready (.acquire i) { l.setPc i .finding with holders := i :: l.holders }
  | find {i : Nat} : (l.connections i).pc = .finding →
      l.Move ready (.find i) { l.setPc i .locking with
        idLocks := findLock l.idLocks (l.connections i).id }
  | lock {i : Nat} : (l.connections i).pc = .locking →
      l.idLocks.lookup (l.connections i).id = some none →
      l.Move ready (.lock i) { l.setPc i .registering with
        idLocks := l.idLocks.insert (l.connections i).id (some i) }
  | announce {i : Nat} : (l.connections i).pc = .registering → l.writer = none →
      l.Move ready (.announce i) { l.setPc i .registeringNext with writer := some i }
  | announceLast {i : Nat} : (l.connections i).pc = .unregistering → l.writer = none →
      l.Move ready (.announce i) { l.setPc i .unregisteringNext with writer := some i }
  | register {i : Nat} : (l.connections i).pc = .registeringNext → l.readers = [] →
      l.Move ready (.register i)
        { l.setConnection i { l.connections i with pc := .connecting, incoming := [] } with
          incomingHealthUpdates := l.incomingHealthUpdates.insert (l.connections i).id i
          writer := none }
  | unregister {i : Nat} : (l.connections i).pc = .unregisteringNext → l.readers = [] →
      l.Move ready (.unregister i) { l.setPc i .unlocking with
        incomingHealthUpdates := l.incomingHealthUpdates.erase (l.connections i).id
        writer := none }
  | publishHealth {i : Nat} {now : Timestamp} {u : HealthUpdate} {pc : ConnectionPc} :
      (l.connections i).healthToSend now = some (u, pc) →
      l.Move ready (.publishHealth i now)
        { l.setPc i pc with healthUpdate := l.healthUpdate ++ [u] }
  | publishStatus {i : Nat} {now : Timestamp} {u : StatusUpdate} {pc : ConnectionPc} :
      (l.connections i).statusToSend now = some (u, pc) →
      l.Move ready (.publishStatus i now)
        { l.setPc i pc with statusUpdate := l.statusUpdate ++ [u] }
  | unlock {i : Nat} : (l.connections i).pc = .unlocking →
      l.Move ready (.unlock i) { l.setPc i .releasing with
        idLocks := l.idLocks.insert (l.connections i).id none }
  | release {i : Nat} : (l.connections i).pc = .releasing →
      l.Move ready (.release i) { l.setPc i .returned with holders := l.holders.erase i }
  | call {k : Nat} : (l.calls k).pc = .idle → l.Move ready (.call k) (l.setCall k .locking)
  | rlock {k i : Nat} : (l.calls k).pc = .locking → l.writer = none →
      l.incomingHealthUpdates.lookup (l.calls k).id = some i →
      l.Move ready (.rlock k) { l.setCall k (.sending i) with readers := k :: l.readers }
  | rlockMiss {k : Nat} : (l.calls k).pc = .locking →
      l.incomingHealthUpdates.lookup (l.calls k).id = none →
      l.Move ready (.rlock k) (l.setCall k .returned)
  | push {k i : Nat} : (l.calls k).pc = .sending i →
      (l.connections i).incoming.length < incomingCap →
      l.Move ready (.push k)
        { (l.setConnection i { l.connections i with incoming :=
            (l.connections i).incoming ++ [(l.calls k).update] }).setCall k .returned
          with readers := l.readers.erase k }
  | close : l.Move ready .close { l with closed := true }
  | closeQueues : l.Move ready .closeQueues { l with queuesClosed := true }

theorem Listener.move_of_step {l l' : Listener} {ready : Bool} {e : ListenerEvent}
    (h : l.step ready e = some l') : l.Move ready e l' := by
  revert h
  fun_cases Listener.step l ready e with
  | case3 i e =>
    intro h
    obtain ⟨c, hc, rfl⟩ := Option.map_eq_some_iff.mp h
    exact .connection (Connection.move_of_step hc)
  | _ => grind [Listener.Move]

end Opni.AgentHealth
