/-
  Opni.AgentHealth.Deadlock

  Which goroutines of the pipeline wait for which, and when there is no
  deadlock.  There is none as long as every wait is for a goroutine of lower
  rank (`Pipeline.rank`), for which those that leave need room
  (`Pipeline.Flowing`).
-/

import Opni.AgentHealth.Pipeline
import Opni.AgentHealth.Watching

namespace Opni.AgentHealth

open Lib.Goroutines Function Pipeline Listener

/-! ## Who waits for whom -/

inductive Goroutine where
  /-- `Run` of the monitor. -/
  | run
  /-- The goroutine of a call of `WatchHealthStatus`. -/
  | watcher (i : Nat)
  /-- A run of `HandleConnection`. -/
  | connection (i : Nat)
  /-- A call of `UpdateHealth`. -/
  | call (k : Nat)
deriving DecidableEq

def ConnectionPc.sendsHealth : ConnectionPc → Bool
  | .publishing _ | .forwarding _ | .clearing => true
  | _ => false

def ConnectionPc.sendsStatus : ConnectionPc → Bool
  | .connecting | .disconnecting => true
  | _ => false

/-- The first goroutine is blocked until the second one moves. -/
inductive Pipeline.WaitsFor (p : Pipeline) : Goroutine → Goroutine → Prop where
  /-- The channel of the watcher is full. -/
  | health {u : HealthUpdate} {i : Nat} {rest : List Nat} :
      p.monitor.pc = .sendingHealth u (i :: rest) →
      listenerCap ≤ (p.monitor.watchers i).health.queue.length →
      p.WaitsFor .run (.watcher i)
  | status {u : StatusUpdate} {i : Nat} {rest : List Nat} :
      p.monitor.pc = .sendingStatus u (i :: rest) →
      listenerCap ≤ (p.monitor.watchers i).status.queue.length →
      p.WaitsFor .run (.watcher i)
  /-- `Run` holds `mu`. -/
  | mu {i : Nat} : (p.monitor.watchers i).pc = .leaving → p.monitor.pc.holdsMu = true →
      p.WaitsFor (.watcher i) .run
  /-- The queue that `Run` reads is full. -/
  | healthQueue {i : Nat} : (p.listener.connections i).pc.sendsHealth = true →
      canSend p.listener.updateQueueCap p.monitor.pc.ready p.listener.healthUpdate = false →
      p.monitor.pc ≠ .returned → p.WaitsFor (.connection i) .run
  | statusQueue {i : Nat} : (p.listener.connections i).pc.sendsStatus = true →
      canSend p.listener.updateQueueCap p.monitor.pc.ready p.listener.statusUpdate = false →
      p.monitor.pc ≠ .returned → p.WaitsFor (.connection i) .run
  /-- The semaphore has no slot, or `Close` waits for all of them. -/
  | slot {i j : Nat} : (p.listener.connections i).pc = .acquiring →
      (p.listener.connections i).cancelled = false →
      p.listener.maxConnections ≤ p.listener.holders.length ∨ p.listener.closed = true →
      j ∈ p.listener.holders → p.WaitsFor (.connection i) (.connection j)
  /-- Another connection of the id has the client lock. -/
  | clientLock {i j : Nat} : (p.listener.connections i).pc = .locking →
      p.listener.idLocks.lookup (p.listener.connections i).id = some (some j) →
      p.WaitsFor (.connection i) (.connection j)
  /-- Another connection is the next writer of `incomingHealthUpdatesMu`. -/
  | writer {i j : Nat} : (p.listener.connections i).pc.stage = 4 ∨
      (p.listener.connections i).pc.stage = 12 → p.listener.writer = some j →
      p.WaitsFor (.connection i) (.connection j)
  /-- The next writer waits for the readers to leave. -/
  | reader {i k : Nat} : (p.listener.connections i).pc.NextWriter → k ∈ p.listener.readers →
      p.WaitsFor (.connection i) (.call k)
  /-- Readers wait for the next writer. -/
  | readLock {k i : Nat} : (p.listener.calls k).pc = .locking → p.listener.writer = some i →
      p.WaitsFor (.call k) (.connection i)
  /-- The channel of the connection is full. -/
  | incoming {k i : Nat} : (p.listener.calls k).pc = .sending i →
      incomingCap ≤ (p.listener.connections i).incoming.length →
      p.WaitsFor (.call k) (.connection i)

/-! ## Room for those that leave -/

/-- When `Run` begins to send an update, there is room for it on the channel of every
    watcher whose context is cancelled; and a watcher to which `Run` has yet to send is
    cancelled only if there is room on its channel. -/
def Monitor.HasRoom (m : Monitor) : MonitorEvent → Prop
  | .lock =>
    (∀ u, m.pc = .lockingHealth u → ∀ i ∈ m.healthListeners,
      (m.watchers i).cancelled = true → (m.watchers i).health.queue.length < listenerCap) ∧
    ∀ u, m.pc = .lockingStatus u → ∀ i ∈ m.statusListeners,
      (m.watchers i).cancelled = true → (m.watchers i).status.queue.length < listenerCap
  | .watcher i .cancel =>
    (∀ u rest, m.pc = .sendingHealth u rest → i ∈ rest →
      (m.watchers i).health.queue.length < listenerCap) ∧
    ∀ u rest, m.pc = .sendingStatus u rest → i ∈ rest →
      (m.watchers i).status.queue.length < listenerCap
  | _ => True

variable (l : Listener) {α : Type} {u : Update α} {b b' : Inbox α} {i : Nat} {p : Pipeline}

def Listener.senders (i : Nat) : Nat :=
  l.readers.countP fun k => decide ((l.calls k).pc = .sending i)

def Listener.Leaves (i : Nat) : Prop :=
  (l.connections i).cancelled = true ∨ l.closed = true

/-- When a connection is to leave its loop, there is room on its channel for the calls that
    are sending to it; and a call that begins to send to it then finds room, too. -/
def Listener.HasRoom : ListenerEvent → Prop
  | .connection i .cancel => (l.connections i).incoming.length + l.senders i ≤ incomingCap
  | .close => ∀ i, (l.connections i).incoming.length + l.senders i ≤ incomingCap
  | .rlock k => ∀ i, l.incomingHealthUpdates.lookup (l.calls k).id = some i → l.Leaves i →
      (l.connections i).incoming.length + l.senders i < incomingCap
  | _ => True

def Pipeline.HasRoom (p : Pipeline) : PipelineEvent → Prop
  | .monitor e => p.monitor.HasRoom e
  | .listener e => p.listener.HasRoom e
  | .takeHealth | .takeStatus => True

/-! ## The watchers -/

section Spared

variable {α : Type} {box : Watcher → Inbox α} {u : Update α} {i : Nat} {w : Watcher}
  {rest : List Nat} {sending : Option (Update α × List Nat)} {watchers : Nat → Watcher}

/-- There is room on the channel of every cancelled watcher that `Run` has yet to send to. -/
def Spared (box : Watcher → Inbox α) (sending : Option (Update α × List Nat))
    (watchers : Nat → Watcher) : Prop :=
  ∀ u rest, sending = some (u, rest) → ∀ i ∈ rest, (watchers i).cancelled = true →
    (box (watchers i)).queue.length < listenerCap

theorem spared_none : Spared box none watchers := by
  intro u rest h
  cases h

theorem Spared.send (h : Spared box (some (u, i :: rest)) watchers) (hnodup : (i :: rest).Nodup) :
    Spared box (some (u, rest)) (update watchers i w) := by
  intro u' rest' heq j hj
  cases heq
  have hne : j ≠ i := by
    rintro rfl
    exact (List.nodup_cons.mp hnodup).1 hj
  rw [update_of_ne hne]
  exact h u _ rfl j (.tail _ hj)

theorem Spared.update (h : Spared box sending watchers)
    (hw : ∀ u rest, sending = some (u, rest) → i ∈ rest → w.cancelled = true →
      (watchers i).cancelled = true ∨ (box (watchers i)).queue.length < listenerCap)
    (hqueue : (box w).queue.length ≤ (box (watchers i)).queue.length) :
    Spared box sending (update watchers i w) := by
  intro u rest heq j hj
  rcases eq_or_ne j i with rfl | hne
  · rw [update_self]
    intro hcancelled
    have hbefore := (hw u rest heq hj hcancelled).elim (h u rest heq j hj) id
    omega
  · rw [update_of_ne hne]
    exact h u rest heq j hj

theorem Spared.cancelled_eq_false (h : Spared box (some (u, i :: rest)) watchers)
    (hfull : listenerCap ≤ (box (watchers i)).queue.length) : (watchers i).cancelled = false := by
  rw [← Bool.not_eq_true]
  intro hcancelled
  have hroom := h u _ rfl i List.mem_cons_self hcancelled
  omega

end Spared

/-- A watcher of a monitor that runs: its channels are open, and it leaves because its
    context is cancelled. -/
structure Watcher.Open (w : Watcher) : Prop where
  health : w.health.closed = false
  status : w.status.closed = false
  leaving : w.pc = .leaving → w.cancelled = true

theorem Inbox.closed_take (h : b.take = some (u, b')) : b'.closed = b.closed := by
  obtain ⟨queue, -, rfl⟩ := b.take_eq_some h
  rfl

theorem Inbox.length_take (h : b.take = some (u, b')) : b'.queue.length ≤ b.queue.length := by
  obtain ⟨queue, hqueue, rfl⟩ := b.take_eq_some h
  rw [hqueue]
  exact Nat.le_succ _

section WatcherMove

variable {w w' : Watcher} {e : WatcherEvent} (hmove : w.Move e w')

include hmove

theorem Watcher.Move.open (h : w.Open) : w'.Open := by
  cases hmove with
  | recvHealth _ htake => exact ⟨(Inbox.closed_take htake).trans h.health, h.status, by simp⟩
  | recvStatus _ htake => exact ⟨h.health, (Inbox.closed_take htake).trans h.status, by simp⟩
  | breakLoop _ hwhy =>
    refine ⟨h.health, h.status, fun _ => ?_⟩
    simpa [Inbox.drained, h.health, h.status] using hwhy
  | cancel => exact ⟨h.health, h.status, fun _ => rfl⟩
  | read _ => exact ⟨h.health, h.status, h.leaving⟩
  | _ => exact ⟨h.health, h.status, by simp⟩

theorem Watcher.Move.cancelled_or (h : w'.cancelled = true) : w.cancelled = true ∨ e = .cancel := by
  cases hmove with
  | cancel => exact .inr rfl
  | _ => exact .inl h

end WatcherMove

/-- `Run` is not blocked by a watcher that leaves, and a watcher leaves because its context
    is cancelled. -/
structure Monitor.Unblocked (m : Monitor) : Prop where
  healthInStep : m.HealthInStep
  statusInStep : m.StatusInStep
  health : Spared Watcher.health m.pc.sendingHealth? m.watchers
  status : Spared Watcher.status m.pc.sendingStatus? m.watchers
  watchers : ∀ i, (m.watchers i).Open

section MonitorMove

variable {m m' : Monitor} {e : MonitorEvent} {rest : List Nat} {pc : MonitorPc}

theorem MonitorPc.sendingHealth?_eq_some {u : HealthUpdate}
    (h : pc.sendingHealth? = some (u, rest)) :
    pc = .sendingHealth u rest := by
  cases pc with
  | sendingHealth u' rest' =>
    cases h
    rfl
  | _ => simp [MonitorPc.sendingHealth?] at h

theorem MonitorPc.sendingStatus?_eq_some {u : StatusUpdate}
    (h : pc.sendingStatus? = some (u, rest)) :
    pc = .sendingStatus u rest := by
  cases pc with
  | sendingStatus u' rest' =>
    cases h
    rfl
  | _ => simp [MonitorPc.sendingStatus?] at h

theorem Monitor.Move.spared (hmove : m.Move e m') (hroom : m.HasRoom e) (h : m.Unblocked) :
    Spared Watcher.health m'.pc.sendingHealth? m'.watchers ∧
      Spared Watcher.status m'.pc.sendingStatus? m'.watchers := by
  cases hmove with
  | recvHealth | recvStatus | unlockHealth | unlockStatus | finish =>
    exact ⟨spared_none, spared_none⟩
  | @lockHealth u hpc =>
    refine ⟨fun u' rest heq i hi hcancelled => ?_, spared_none⟩
    cases heq
    exact hroom.1 u hpc i hi hcancelled
  | @lockStatus u hpc =>
    refine ⟨spared_none, fun u' rest heq i hi hcancelled => ?_⟩
    cases heq
    exact hroom.2 u hpc i hi hcancelled
  | sendHealth hpc _ =>
    have hspared := h.health
    have hstep := h.healthInStep
    rw [hpc] at hspared
    rw [Monitor.HealthInStep, hpc] at hstep
    exact ⟨hspared.send (hstep.sending_nodup _ _ rfl), spared_none⟩
  | sendStatus hpc _ =>
    have hspared := h.status
    have hstep := h.statusInStep
    rw [hpc] at hspared
    rw [Monitor.StatusInStep, hpc] at hstep
    exact ⟨spared_none, hspared.send (hstep.sending_nodup _ _ rfl)⟩
  | watch hmu _ | unwatch hmu _ =>
    obtain ⟨hhealth, hstatus⟩ := MonitorPc.sending?_of_not_holdsMu hmu
    show Spared Watcher.health m.pc.sendingHealth? _ ∧ Spared Watcher.status m.pc.sendingStatus? _
    rw [hhealth, hstatus]
    exact ⟨spared_none, spared_none⟩
  | @watcher i e w hw =>
    have hlength : w.health.queue.length ≤ (m.watchers i).health.queue.length ∧
        w.status.queue.length ≤ (m.watchers i).status.queue.length := by
      cases hw with
      | recvHealth _ htake => exact ⟨Inbox.length_take htake, Nat.le_refl _⟩
      | recvStatus _ htake => exact ⟨Nat.le_refl _, Inbox.length_take htake⟩
      | _ => exact ⟨Nat.le_refl _, Nat.le_refl _⟩
    refine ⟨h.health.update ?_ hlength.1, h.status.update ?_ hlength.2⟩
    · intro u rest heq hi hcancelled
      refine (hw.cancelled_or hcancelled).imp_right ?_
      rintro rfl
      exact hroom.1 u rest (MonitorPc.sendingHealth?_eq_some heq) hi
    · intro u rest heq hi hcancelled
      refine (hw.cancelled_or hcancelled).imp_right ?_
      rintro rfl
      exact hroom.2 u rest (MonitorPc.sendingStatus?_eq_some heq) hi

theorem Monitor.Move.open (hmove : m.Move e m') (h : ∀ i, (m.watchers i).Open)
    (hrun : m'.pc ≠ .returned) : ∀ i, (m'.watchers i).Open := by
  have hset : ∀ {i w}, Watcher.Open w → ∀ j, ((m.setWatcher i w).watchers j).Open :=
    fun hw => (forall_update_iff _ fun _ => Watcher.Open).mpr ⟨hw, fun j _ => h j⟩
  cases hmove with
  | recvHealth | recvStatus | lockHealth | lockStatus | unlockHealth | unlockStatus => exact h
  | @sendHealth _ i _ _ _ | @sendStatus _ i _ _ _ =>
    exact hset ⟨(h i).health, (h i).status, (h i).leaving⟩
  | finish => exact absurd rfl hrun
  | watch => exact hset ⟨rfl, rfl, by simp⟩
  | @watcher i _ _ hw => exact hset (hw.open (h i))
  | @unwatch i _ _ => exact hset ⟨(h i).health, (h i).status, by simp⟩

theorem Monitor.Move.unblocked (hmove : m.Move e m') (hroom : m.HasRoom e) (h : m.Unblocked)
    (hrun : m'.pc ≠ .returned) : m'.Unblocked where
  healthInStep := (hmove.inStep h.healthInStep h.statusInStep hrun).1
  statusInStep := (hmove.inStep h.healthInStep h.statusInStep hrun).2
  health := (hmove.spared hroom h).1
  status := (hmove.spared hroom h).2
  watchers := hmove.open h.watchers hrun

theorem unblocked_start : Monitor.Unblocked {} where
  healthInStep := converging_start.health
  statusInStep := converging_start.status
  health := spared_none
  status := spared_none
  watchers := fun _ => ⟨rfl, rfl, by simp⟩

end MonitorMove

/-! ## The connections -/

section Listener

variable {l l' : Listener} {ready : Bool} {e : ListenerEvent} {k i : Nat} {c' : Connection}
  {closed : Bool} {c : Connection}

/-- There is room for the calls that are sending to a connection that is to leave its loop. -/
def Listener.Spared (l : Listener) : Prop :=
  ∀ i, l.Leaves i → (l.connections i).incoming.length + l.senders i ≤ incomingCap

theorem countP_setCall {pc : CallPc} {readers : List Nat} (hk : k ∉ readers) (i : Nat) :
    readers.countP (fun k' => decide (((l.setCall k pc).calls k').pc = .sending i)) =
      readers.countP fun k' => decide ((l.calls k').pc = .sending i) := by
  refine List.countP_congr fun k' hk' => ?_
  have hne : k' ≠ k := by
    rintro rfl
    exact hk hk'
  rw [calls_setCall_of_ne hne]

theorem Listener.senders_rlock (hk : k ∉ l.readers) (j : Nat) :
    senders { l.setCall k (.sending i) with readers := k :: l.readers } j =
      l.senders j + if i = j then 1 else 0 := by
  show (k :: l.readers).countP (fun k' =>
    decide (((l.setCall k (.sending i)).calls k').pc = .sending j)) = _
  rw [List.countP_cons, countP_setCall hk, calls_setCall_self]
  simp [senders]

theorem Listener.senders_push (hnodup : l.readers.Nodup) (hk : k ∈ l.readers)
    (hpc : (l.calls k).pc = .sending i) (j : Nat) :
    senders { l.setCall k .returned with readers := l.readers.erase k } j +
      (if i = j then 1 else 0) = l.senders j := by
  have hout : k ∉ l.readers.erase k := by
    rw [hnodup.mem_erase_iff]
    simp
  have hbefore := (List.perm_cons_erase hk).countP_eq
    fun k' => decide ((l.calls k').pc = .sending j)
  rw [List.countP_cons, hpc] at hbefore
  show (l.readers.erase k).countP (fun k' =>
    decide (((l.setCall k .returned).calls k').pc = .sending j)) + _ = l.readers.countP _
  rw [countP_setCall hout, hbefore]
  simp

theorem Connection.Move.length_incoming {e : ConnectionEvent} (hmove : c.Move closed e c') :
    c'.incoming.length ≤ c.incoming.length := by
  cases hmove with
  | polled _ => rw [Connection.receive_incoming]
  | takeIncoming _ hincoming =>
    rw [Connection.receive_incoming, hincoming]
    exact Nat.le_succ _
  | _ => exact Nat.le_refl _

theorem Connection.Move.cancelled_or {e : ConnectionEvent} (hmove : c.Move closed e c')
    (h : c'.cancelled = true) : c.cancelled = true ∨ e = .cancel := by
  cases hmove with
  | cancel => exact .inr rfl
  | polled _ | takeIncoming _ _ =>
    rw [Connection.receive_cancelled] at h
    exact .inl h
  | _ => exact .inl h

theorem Listener.Spared.setConnection (h : l.Spared)
    (hcancelled : c.cancelled = true → (l.connections i).cancelled = true ∨
      (l.connections i).incoming.length + l.senders i ≤ incomingCap)
    (hlength : c.incoming.length ≤ (l.connections i).incoming.length) :
    (l.setConnection i c).Spared := by
  intro j hj
  rw [Listener.Leaves] at hj
  rcases eq_or_ne j i with rfl | hne
  · rw [connections_setConnection_self] at hj ⊢
    have hbefore : (l.connections j).incoming.length + l.senders j ≤ incomingCap := by
      rcases hj with hj | hj
      · exact (hcancelled hj).elim (fun hc => h j (.inl hc)) id
      · exact h j (.inr hj)
    show c.incoming.length + l.senders j ≤ incomingCap
    omega
  · rw [connections_setConnection_of_ne hne] at hj ⊢
    exact h j hj

/-- A call has sent to a connection: one more on the channel, and one sender less. -/
theorem Listener.Spared.push (h : l.Spared) (hreaders : l.ReadersSending)
    (hpc : (l.calls k).pc = .sending i) :
    Listener.Spared { (l.setConnection i { l.connections i with
        incoming := (l.connections i).incoming ++ [(l.calls k).update] }).setCall k .returned with
      readers := l.readers.erase k } := by
  intro j hj
  have hk : k ∈ l.readers := (hreaders.mem_iff k).mpr ⟨i, hpc⟩
  have hsame : ((l.setConnection i { l.connections i with
      incoming := (l.connections i).incoming ++ [(l.calls k).update] }).connections j).cancelled =
      (l.connections j).cancelled := by
    rcases eq_or_ne j i with rfl | hne
    · rw [connections_setConnection_self]
    · rw [connections_setConnection_of_ne hne]
  have hbefore := h j (hj.imp hsame.symm.trans id)
  obtain ⟨n, hn, hsenders⟩ : ∃ n, senders
      { l.setCall k .returned with readers := l.readers.erase k } j = n ∧
      n + (if i = j then 1 else 0) = l.senders j :=
    ⟨_, rfl, l.senders_push hreaders.nodup hk hpc j⟩
  show ((l.setConnection i _).connections j).incoming.length + senders
    { l.setCall k .returned with readers := l.readers.erase k } j ≤ _
  rcases eq_or_ne j i with rfl | hne
  · rw [if_pos rfl] at hsenders
    rw [connections_setConnection_self, List.length_append, List.length_singleton]
    omega
  · rw [connections_setConnection_of_ne hne]
    omega

theorem Listener.Move.spared (hmove : l.Move ready e l') (hroom : l.HasRoom e)
    (hreaders : l.ReadersSending) (h : l.Spared) : l'.Spared := by
  have hset : ∀ {i c}, c.cancelled = (l.connections i).cancelled →
      c.incoming = (l.connections i).incoming → (l.setConnection i c).Spared := by
    intro i c hc hi
    exact h.setConnection (fun hcancelled => .inl (hc ▸ hcancelled)) (by rw [hi])
  have hout : ∀ {k}, (∀ i, (l.calls k).pc ≠ .sending i) → k ∉ l.readers := by
    intro k hk hmem
    obtain ⟨i, hi⟩ := (hreaders.mem_iff k).mp hmem
    exact hk i hi
  cases hmove with
  | @connection i e c hc =>
    refine h.setConnection ?_ hc.length_incoming
    intro hcancelled
    rcases hc.cancelled_or hcancelled with hbefore | rfl
    · exact .inl hbefore
    · exact .inr hroom
  | register _ _ => exact h.setConnection .inl (Nat.zero_le _)
  | @call k hpc | @rlockMiss k hpc _ =>
    intro j hj
    show _ + l.readers.countP _ ≤ _
    rw [countP_setCall (hout (by simp [hpc]))]
    exact h j hj
  | @rlock k i hpc _ hlookup =>
    intro j hj
    rw [senders_rlock (hout (by simp [hpc]))]
    show (l.connections j).incoming.length + _ ≤ _
    have hbefore := h j hj
    rcases eq_or_ne i j with rfl | hne
    · have hless := hroom i hlookup hj
      simp only [↓reduceIte]
      omega
    · simp only [hne, ↓reduceIte]
      omega
  | push hpc _ => exact h.push hreaders hpc
  | close =>
    intro j _
    exact hroom j
  | closeQueues => exact h
  | _ => exact hset rfl rfl

end Listener

/-! ## Ranks -/

/-- A connection that waits for a lock waits for one that is further on. -/
def stageRank (stage : Nat) : Nat :=
  if stage ≤ 1 then 7
  else if stage ≤ 3 then 6
  else if stage = 4 ∨ stage = 12 then 5
  else if stage = 5 ∨ stage = 13 then 4
  else 2

def Pipeline.rank (p : Pipeline) : Goroutine → Nat
  | .run => 1
  | .watcher i => if (p.monitor.watchers i).cancelled then 2 else 0
  | .connection i => stageRank (p.listener.connections i).pc.stage
  | .call k =>
    match (p.listener.calls k).pc with
    | .sending _ => 3
    | _ => 5

structure Pipeline.Flowing (p : Pipeline) : Prop where
  listener : p.listener.Consistent
  spared : p.listener.Spared
  monitor : p.monitor.pc = .returned ∨ p.monitor.Unblocked

section Flowing

variable {p p' : Pipeline}

theorem Pipeline.Flowing.stage_lt (h : p.Flowing) {k i : Nat}
    (hpc : (p.listener.calls k).pc = .sending i)
    (hfull : incomingCap ≤ (p.listener.connections i).incoming.length) :
    (p.listener.connections i).pc.stage < 12 := by
  by_contra hlate
  obtain ⟨-, -, hhi⟩ := h.listener.readers.target k i hpc
  have hleaves : p.listener.Leaves i := h.listener.mayEnd i ⟨by omega, by omega⟩
  have hroom := h.spared i hleaves
  have hsender : 0 < p.listener.senders i :=
    List.countP_pos_iff.mpr ⟨k, (h.listener.readers.mem_iff k).mpr ⟨i, hpc⟩, by simp [hpc]⟩
  omega

theorem Pipeline.Flowing.rank_lt (h : p.Flowing) (g g' : Goroutine) (hwait : p.WaitsFor g g') :
    p.rank g' < p.rank g := by
  have hl := h.listener
  -- the locks are ordered by the stages; the two sends under a lock need room
  cases hwait with
  | health hpc hfull =>
    rcases h.monitor with hret | hm
    · cases hpc.symm.trans hret
    · have hspared := hm.health
      rw [hpc] at hspared
      simp [rank, hspared.cancelled_eq_false hfull]
  | status hpc hfull =>
    rcases h.monitor with hret | hm
    · cases hpc.symm.trans hret
    · have hspared := hm.status
      rw [hpc] at hspared
      simp [rank, hspared.cancelled_eq_false hfull]
  | @mu i hpc hmu =>
    rcases h.monitor with hret | hm
    · rw [hret] at hmu
      simp [MonitorPc.holdsMu] at hmu
    · simp [rank, (hm.watchers i).leaving hpc]
  | healthQueue hsends _ _ =>
    grind [rank, stageRank, ConnectionPc.stage, ConnectionPc.sendsHealth]
  | statusQueue hsends _ _ =>
    grind [rank, stageRank, ConnectionPc.stage, ConnectionPc.sendsStatus]
  | @slot i j hpc _ _ hj =>
    have hslot := (hl.slots.slot j hj).1
    grind [rank, stageRank, ConnectionPc.stage]
  | @clientLock i j hpc hlookup =>
    have hlocked := ((hl.locks _ j).mp hlookup).2.1
    grind [rank, stageRank, ConnectionPc.stage]
  | @writer i j hpc hwriter =>
    have hnext : _ ∨ _ := hl.writer j hwriter
    grind [rank, stageRank]
  | @reader i k hpc hk =>
    obtain ⟨j, hj⟩ := (hl.readers.mem_iff k).mp hk
    have hnext : _ ∨ _ := hpc
    grind [rank, stageRank]
  | @readLock k i hpc hwriter =>
    have hnext : _ ∨ _ := hl.writer i hwriter
    grind [rank, stageRank]
  | @incoming k i hpc hfull =>
    obtain ⟨hlo, -⟩ := (hl.readers.target k i hpc).2
    have hhi := h.stage_lt hpc hfull
    grind [rank, stageRank]

theorem Pipeline.Move.flowing {e : PipelineEvent} (hmove : p.Move e p') (hroom : p.HasRoom e)
    (h : p.Flowing) : p'.Flowing where
  listener := hmove.consistent h.listener
  spared := by
    cases hmove with
    | takeHealth | takeStatus | monitor => exact h.spared
    | listener hl => exact hl.spared hroom h.listener.readers h.spared
  monitor := by
    have hreturned := hmove.returned
    rcases h.monitor with hret | hm
    · exact .inl (hreturned hret)
    · refine or_iff_not_imp_left.mpr fun hrun => ?_
      cases hmove with
      | takeHealth hqueue hpc => exact (Monitor.Move.recvHealth _ hpc).unblocked trivial hm hrun
      | takeStatus hqueue hpc => exact (Monitor.Move.recvStatus _ hpc).unblocked trivial hm hrun
      | monitor _ hmove => exact hmove.unblocked hroom hm hrun
      | listener _ => exact hm

end Flowing

/-- There is no deadlock in the runs in which those that leave have room. -/
theorem not_deadlocked {maxConnections updateQueueCap : Nat} {ids : Nat → String}
    {reqs : Nat → HealthUpdate} {p : Pipeline}
    (hrun : Reaches step Pipeline.HasRoom
      (newPipeline maxConnections updateQueueCap ids reqs) p)
    (S : Set Goroutine) : ¬Deadlocked p.WaitsFor S := by
  have hflowing : p.Flowing := by
    apply hrun.invariant (I := Pipeline.Flowing)
    · refine ⟨consistent_newPipeline .., ?_, .inr unblocked_start⟩
      intro i hleaves
      simp [Listener.Leaves, newPipeline] at hleaves
    · intro p e p' h hroom hstep
      exact (move_of_step hstep).flowing hroom h
  exact not_deadlocked_of_rank p.rank hflowing.rank_lt S

/-- A connection is cancelled while it waits for its agent, and leaves its loop. -/
theorem not_deadlocked_leaving : ∃ p, Reaches step Pipeline.HasRoom oneAgent p ∧
    (p.listener.connections 0).pc.stage = 10 ∧
    ¬Deadlocked p.WaitsFor {.run, .connection 0} := by
  obtain ⟨p, hp⟩ : ∃ p, run step oneAgent (connecting 0) = some p := ⟨_, rfl⟩
  have hreach : Reaches step Pipeline.HasRoom oneAgent p :=
    Reaches.run .refl hp (by simp [connecting, Pipeline.HasRoom, Listener.HasRoom])
  cases hp
  have hcancel := hreach.tail ⟨.listener (.connection 0 .cancel), Nat.zero_le incomingCap, rfl⟩
  have hleave := (hcancel.tail ⟨.listener (.connection 0 (.answer none)), trivial, rfl⟩).tail
    ⟨.listener (.connection 0 .leave), trivial, rfl⟩
  exact ⟨_, hleave, rfl, not_deadlocked hleave _⟩

/-! ## Two deadlocks -/

/-- `Run` is sending a health to the cancelled watcher, whose channel is full and which is
    waiting for `mu`. -/
def Pipeline.watcherStuck (p : Pipeline) (i : Nat) : Bool :=
  match p.monitor.pc with
  | .sendingHealth _ (j :: _) =>
    j = i ∧ (p.monitor.watchers i).cancelled = true ∧ (p.monitor.watchers i).pc = .leaving ∧
      listenerCap ≤ (p.monitor.watchers i).health.queue.length
  | _ => false

theorem Pipeline.deadlocked_of_watcherStuck (h : p.watcherStuck i = true) :
    (p.monitor.watchers i).cancelled = true ∧ Deadlocked p.WaitsFor {.run, .watcher i} := by
  unfold watcherStuck at h
  split at h
  next hpc =>
    obtain ⟨rfl, hcancelled, hleaving, hfull⟩ := of_decide_eq_true h
    exact ⟨hcancelled, deadlocked_pair (by simp) (.health hpc hfull)
      (.mu hleaving (by rw [hpc]; rfl))⟩
  · cases h

/-- The call is sending to the cancelled connection, whose channel is full and which is
    waiting for the readers to leave. -/
def Pipeline.connectionStuck (p : Pipeline) (i k : Nat) : Bool :=
  (p.listener.calls k).pc = .sending i ∧ (p.listener.connections i).cancelled = true ∧
    (p.listener.connections i).pc.stage = 13 ∧ k ∈ p.listener.readers ∧
    incomingCap ≤ (p.listener.connections i).incoming.length

theorem Pipeline.deadlocked_of_connectionStuck {k : Nat} (h : p.connectionStuck i k = true) :
    (p.listener.connections i).cancelled = true ∧
      Deadlocked p.WaitsFor {.connection i, .call k} := by
  obtain ⟨hpc, hcancelled, hstage, hk, hfull⟩ := of_decide_eq_true h
  exact ⟨hcancelled, deadlocked_pair (by simp) (.reader (.inr hstage) hk) (.incoming hpc hfull)⟩

/-- The agent answers a poll with a health that is new, which `Run` begins to send. -/
def polling (n : Nat) : List PipelineEvent :=
  [.listener (.connection 0 .timer),
    .listener (.connection 0 (.polled (some { timestamp := some n, ready := n % 2 = 1 }))),
    .listener (.publishHealth 0 n), .takeHealth, .monitor .lock]

/-- A watcher does not come to read ten updates, and is cancelled when `Run` has an eleventh
    for it. -/
def slowWatcher : List PipelineEvent :=
  [.monitor (.watch 0), .monitor (.watcher 0 .loop)] ++ connecting 0 ++
    [.listener (.connection 0 (.answer none))] ++
    (List.range 10).flatMap (fun n => polling (n + 1) ++ [.monitor .send, .monitor .unlock]) ++
    polling 11 ++ [.monitor (.watcher 0 .cancel), .monitor (.watcher 0 .breakLoop)]

/-- A connection waits for its agent while eleven updates are pushed to it, and is cancelled. -/
def busyAgent : List PipelineEvent :=
  connecting 0 ++
    (List.range 10).flatMap (fun k =>
      [.listener (.call k), .listener (.rlock k), .listener (.push k)]) ++
    [.listener (.call 10), .listener (.rlock 10), .listener (.connection 0 .cancel),
      .listener (.connection 0 (.answer none)), .listener (.connection 0 .leave),
      .listener (.publishHealth 0 2), .listener (.publishStatus 0 2), .listener (.announce 0)]

/-- A cancelled watcher and `Run` can wait for each other, and so can a cancelled connection
    and a call of `UpdateHealth`. -/
theorem leaving_deadlocks :
    (∃ p, Reaches step (fun _ _ => True) oneAgent p ∧
      (p.monitor.watchers 0).cancelled = true ∧ Deadlocked p.WaitsFor {.run, .watcher 0}) ∧
    ∃ p, Reaches step (fun _ _ => True) oneAgent p ∧
      (p.listener.connections 0).cancelled = true ∧
      Deadlocked p.WaitsFor {.connection 0, .call 10} := by
  constructor
  · exact exists_reaches_of_isSome slowWatcher (by decide +kernel)
      (deadlocked_of_watcherStuck (by decide +kernel))
  · exact exists_reaches_of_isSome busyAgent (by decide +kernel)
      (deadlocked_of_connectionStuck (by decide +kernel))

end Opni.AgentHealth
