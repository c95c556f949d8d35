/-
  Opni.Alerting.RemoteSyncDelivery

  Whether every syncer gets the latest configurations.  All syncers receive
  from one channel, so that a push reaches one of them only.  `Inv` is what is
  kept while that one is the only one connected.
-/

import Opni.Alerting.RemoteSyncers

namespace Opni.Alerting.RemoteSync

open Lib Lib.Goroutines Function

variable {ι ρ γ : Type}

namespace OpsNode

/-! ## What should hold -/

variable (s : OpsNode ι ρ γ)

/-- What the syncer has been sent, and what it has taken and is about to send. -/
def taken (m : ι) : List (Item γ) := s.sent m ++ (s.syncers m).pending

variable (items : List (Item γ))

/-- The items have a configuration for the key that is as new as the given one. -/
def Covers (key : String) (item : Item γ) : Prop :=
  ∃ i ∈ items, i.key = key ∧ item.stamp ≤ i.stamp

/-- A push is in progress: it has `syncMu`, or its request is about to be sent. -/
def InProgress : Prop :=
  (∃ n, s.pushes n ≠ .idle ∧ s.pushes n ≠ .returned) ∨ ∃ m, (s.syncers m).isSending = true

/-- A push waits for a syncer to take its request, holding `syncMu`, and none is connected. -/
def Blocked : Prop :=
  (∃ n items, s.pushes n = .pushing items) ∧ ∀ m, ¬(s.syncers m).Connected

/-- When no push is in progress, every connected syncer has been sent the configurations that were
    pushed last; one in its initial sync has read them for it, or has the keys still to read.  And
    no push waits in vain. -/
structure Delivered : Prop where
  latest : ¬s.InProgress → ∀ m, (s.syncers m).Connected →
    ∀ key item, s.lastPush key = some item → Covers (s.sent m) key item ∨
      ∃ keys items, s.syncers m = .reading keys items ∧ (Covers items key item ∨ key ∈ keys)
  unblocked : ¬s.Blocked

/-- What is allowed: that a router is stored that a configuration can be built from, that a push
    begins while a syncer is connected, that a syncer takes a request while no other one is
    connected, and that the last syncer disconnects while no push holds `syncMu`. -/
def Allows (build : ρ → Option γ) (s : OpsNode ι ρ γ) : SyncEvent ι ρ → Prop
  | .write _ router => (build router).isSome
  | .lock _ => ∃ m, (s.syncers m).Connected
  | .deliver _ m => ∀ m' ≠ m, ¬(s.syncers m').Connected
  | .disconnect m => s.syncMu ≠ none → ∃ m' ≠ m, (s.syncers m').Connected
  | .keys _ _ | .skip _ | .read _ | .offer _ | .send _ | .connect _ | .readInitial _
  | .sendInitial _ => True

/-! ## The invariant -/

/-- The store has a router for the key of the item that is no older. -/
def Fresh (item : Item γ) : Prop :=
  ∃ stored, s.routers.lookup item.key = some stored ∧ item.stamp ≤ stored.stamp

/-- What allowed steps keep: configurations are never newer than the stored routers, which can be
    built; a push that is not over has `syncMu`, and then a syncer is connected; and every
    connected syncer has the configurations that were pushed last, or is about to. -/
structure Inv (build : ρ → Option γ) (s : OpsNode ι ρ γ) : Prop where
  routers : ∀ key stored, s.routers.lookup key = some stored →
    (build stored.router).isSome ∧ stored.stamp < s.writes
  pushed : ∀ key item, s.lastPush key = some item → item.key = key ∧ s.Fresh item
  offered : ∀ n, ∀ item ∈ (s.pushes n).items, s.Fresh item
  held : ∀ n, s.pushes n ≠ .idle → s.pushes n ≠ .returned → s.syncMu = some n
  connected : s.syncMu ≠ none → ∃ m, (s.syncers m).Connected
  latest : ∀ m, (s.syncers m).Connected → ∀ key item, s.lastPush key = some item →
    Covers (s.taken m) key item ∨ key ∈ (s.syncers m).unread

variable {build : ρ → Option γ} {s s' : OpsNode ι ρ γ} {n : ι} {pc : PushPc γ} {item : Item γ}
  {m : ι} {key : String}

theorem inv_new : Inv build ({} : OpsNode ι ρ γ) := by
  refine ⟨by simp, by simp, by simp [PushPc.items], by simp, by simp, ?_⟩
  exact fun m hm => hm.elim

theorem Inv.holder (h : Inv build s) (hpc : s.pushes n = pc) (hidle : pc ≠ .idle)
    (hreturned : pc ≠ .returned) : s.syncMu = some n :=
  h.held n (hpc ▸ hidle) (hpc ▸ hreturned)

theorem Inv.latest_of (h : Inv build s) {pc : SyncerPc γ} (hpc : s.syncers m = pc)
    (hm : pc.Connected) (hlast : s.lastPush key = some item) :
    Covers (s.sent m ++ pc.pending) key item ∨ key ∈ pc.unread :=
  hpc ▸ h.latest m (hpc ▸ hm) key item hlast

theorem Inv.delivered (h : Inv build s) : Delivered s := by
  refine ⟨fun hidle m hm key item hlast => ?_, ?_⟩
  · cases hpc : s.syncers m with
    | idle | returned =>
      rw [hpc] at hm
      exact hm.elim
    | sending items => exact absurd (.inr ⟨m, by rw [hpc]; rfl⟩) hidle
    | waiting =>
      rcases h.latest_of hpc trivial hlast with hcovers | hunread
      · exact .inl (List.append_nil (s.sent m) ▸ hcovers)
      · cases hunread
    | reading keys items =>
      rcases h.latest_of hpc trivial hlast with ⟨i, hi, hcovers⟩ | hunread
      · rcases List.mem_append.mp hi with hi | hi
        · exact .inl ⟨i, hi, hcovers⟩
        · exact .inr ⟨keys, items, rfl, .inl ⟨i, hi, hcovers⟩⟩
      · exact .inr ⟨keys, items, rfl, .inr hunread⟩
  · rintro ⟨⟨n, items, hpc⟩, hnone⟩
    obtain ⟨m, hm⟩ := h.connected (by simp [h.holder hpc nofun nofun])
    exact hnone m hm

theorem Covers.append_left {items : List (Item γ)} (h : Covers items key item)
    (more : List (Item γ)) : Covers (items ++ more) key item := by
  obtain ⟨i, hi, hcovers⟩ := h
  exact ⟨i, List.mem_append_left more hi, hcovers⟩

theorem recordPush_eq_some {last : String → Option (Item γ)} {items : List (Item γ)}
    (h : recordPush last items key = some item) :
    (item ∈ items ∧ item.key = key) ∨ last key = some item := by
  induction items generalizing last with
  | nil => exact .inr h
  | cons i items ih =>
    rcases ih h with ⟨hmem, hkey⟩ | hbefore
    · exact .inl ⟨List.mem_cons_of_mem i hmem, hkey⟩
    · replace hbefore : update last i.key (some i) key = some item := hbefore
      by_cases hkey : key = i.key
      · subst hkey
        rw [update_self] at hbefore
        obtain rfl := Option.some.inj hbefore
        exact .inl ⟨.head _, rfl⟩
      · rw [update_of_ne hkey] at hbefore
        exact .inr hbefore

/-- What is read is as new as the store. -/
theorem fresh_readItem (h : item ∈ s.readItem build key) : s.Fresh item := by
  unfold readItem at h
  split at h
  · cases h
  next stored hstored =>
    split at h
    · cases h
    · rw [List.mem_singleton] at h
      subst h
      exact ⟨stored, hstored, Nat.le_refl _⟩

/-- A router that is stored is read. -/
theorem Inv.covers_readItem (h : Inv build s) (hlast : s.lastPush key = some item) :
    Covers (s.readItem build key) key item := by
  obtain ⟨rfl, stored, hstored, hle⟩ := h.pushed key item hlast
  obtain ⟨config, hconfig⟩ := Option.isSome_iff_exists.mp (h.routers _ stored hstored).1
  refine ⟨⟨item.key, stored.stamp, config⟩, ?_, rfl, hle⟩
  simp [readItem, hstored, hconfig]

theorem Inv.write (h : Inv build s) {router : ρ} (hbuild : (build router).isSome) :
    Inv build { s with
      routers := s.routers.insert key ⟨s.writes, router⟩
      writes := s.writes + 1 } := by
  -- the new router is newer than anything that was read
  have hfresh : ∀ item, s.Fresh item → ∃ stored,
      (s.routers.insert key ⟨s.writes, router⟩).lookup item.key = some stored ∧
        item.stamp ≤ stored.stamp := by
    rintro item ⟨stored, hstored, hle⟩
    by_cases hkey : item.key = key
    · refine ⟨⟨s.writes, router⟩, by rw [hkey, AList.lookup_insert], ?_⟩
      exact Nat.le_trans hle (Nat.le_of_lt (h.routers _ stored hstored).2)
    · exact ⟨stored, by rwa [AList.lookup_insert_ne hkey], hle⟩
  refine ⟨fun key' stored hstored => ?_, fun key' item hlast => ?_, fun n item hitem => ?_,
    h.held, h.connected, h.latest⟩
  · rcases GoMap.lookup_insert_eq_some.mp hstored with ⟨-, rfl⟩ | ⟨-, hstored⟩
    · exact ⟨hbuild, Nat.lt_succ_self _⟩
    · obtain ⟨hsome, hlt⟩ := h.routers key' stored hstored
      exact ⟨hsome, Nat.lt_succ_of_lt hlt⟩
  · exact ⟨(h.pushed key' item hlast).1, hfresh item (h.pushed key' item hlast).2⟩
  · exact hfresh item (h.offered n item hitem)

variable [DecidableEq ι]

/-- A push goes on, or takes or releases `syncMu`. -/
theorem Inv.setPush (h : Inv build s) {mu : Option ι} (hitems : ∀ item ∈ pc.items, s.Fresh item)
    (hown : pc ≠ .returned → mu = some n) (hothers : ∀ n' ≠ n, s.syncMu = some n' → mu = some n')
    (hconnected : mu ≠ none → ∃ m, (s.syncers m).Connected) :
    Inv build { s with pushes := update s.pushes n pc, syncMu := mu } := by
  refine ⟨h.routers, h.pushed, ?_, ?_, hconnected, h.latest⟩
  · exact (forall_update_iff s.pushes fun _ pc => ∀ item ∈ pc.items, s.Fresh item).mpr
      ⟨hitems, fun n' _ => h.offered n'⟩
  · refine (forall_update_iff s.pushes fun n' pc =>
      pc ≠ .idle → pc ≠ .returned → mu = some n').mpr ⟨fun _ => hown, ?_⟩
    exact fun n' hne hidle hreturned => hothers n' hne (h.held n' hidle hreturned)

theorem Inv.advance (h : Inv build s) (hmu : s.syncMu = some n)
    (hitems : ∀ item ∈ pc.items, s.Fresh item) :
    Inv build { s with pushes := update s.pushes n pc } :=
  h.setPush hitems (fun _ => hmu) (fun _ _ => id) h.connected

theorem Inv.release (h : Inv build s) (hmu : s.syncMu = some n) :
    Inv build { s with pushes := update s.pushes n .returned, syncMu := none } := by
  refine h.setPush (by simp [PushPc.items]) (by simp) (fun n' hne hn' => ?_) (by simp)
  exact absurd (Option.some.inj (hn'.symm.trans hmu)) hne

/-- A syncer goes on. -/
theorem Inv.setSyncer (h : Inv build s) {pc : SyncerPc γ} {sent : ι → List (Item γ)}
    (hsent : ∀ m' ≠ m, sent m' = s.sent m')
    (hlatest : pc.Connected → ∀ key item, s.lastPush key = some item →
      Covers (sent m ++ pc.pending) key item ∨ key ∈ pc.unread)
    (hconnected : s.syncMu ≠ none → pc.Connected ∨ ∃ m' ≠ m, (s.syncers m').Connected) :
    Inv build { s with syncers := update s.syncers m pc, sent := sent } := by
  refine ⟨h.routers, h.pushed, h.offered, h.held, fun hmu => ?_, ?_⟩
  · exact (exists_update_iff _ fun _ => SyncerPc.Connected).mpr (hconnected hmu)
  · refine (forall_update_iff s.syncers fun m' pc => pc.Connected → ∀ key item,
      s.lastPush key = some item → Covers (sent m' ++ pc.pending) key item ∨ key ∈ pc.unread).mpr
      ⟨hlatest, fun m' hne hm' key item hlast => ?_⟩
    rw [hsent m' hne]
    exact h.latest m' hm' key item hlast

/-- A syncer takes a request: no other one is connected that would miss it. -/
theorem Inv.deliver (h : Inv build s) {items : List (Item γ)} (hpush : s.pushes n = .pushing items)
    (hpc : s.syncers m = .waiting) (hothers : ∀ m' ≠ m, ¬(s.syncers m').Connected) :
    Inv build { s with
      pushes := update s.pushes n .returned
      syncMu := none
      syncers := update s.syncers m (.sending items)
      lastPush := recordPush s.lastPush items } := by
  have hreleased := h.release (h.holder hpush nofun nofun)
  refine ⟨h.routers, fun key item hlast => ?_, hreleased.offered, hreleased.held, by simp, ?_⟩
  · rcases recordPush_eq_some hlast with ⟨hmem, hkey⟩ | hbefore
    · exact ⟨hkey, h.offered n item (by rwa [hpush])⟩
    · exact h.pushed key item hbefore
  · refine (forall_update_iff s.syncers fun m' pc => pc.Connected → ∀ key item,
      recordPush s.lastPush items key = some item →
        Covers (s.sent m' ++ pc.pending) key item ∨ key ∈ pc.unread).mpr
      ⟨fun _ key item hlast => .inl ?_, fun m' hne hm' => absurd hm' (hothers m' hne)⟩
    rcases recordPush_eq_some hlast with ⟨hmem, hkey⟩ | hbefore
    · exact ⟨item, List.mem_append_right _ hmem, hkey, Nat.le_refl _⟩
    · rcases h.latest_of hpc trivial hbefore with hcovers | hunread
      · exact (List.append_nil (s.sent m) ▸ hcovers).append_left items
      · cases hunread

theorem Inv.step {e : SyncEvent ι ρ} (h : Inv build s) (hallowed : s.Allows build e)
    (hstep : s.step build e = some s') : Inv build s' := by
  cases e with
  | write key router =>
    cases hstep
    exact h.write hallowed
  | disconnect m =>
    obtain ⟨-, rfl⟩ := ite_some_eq_some.mp hstep
    exact h.setSyncer (fun _ _ => rfl) (fun hconnected => hconnected.elim) fun hmu =>
      .inr (hallowed hmu)
  | lock n =>
    rw [OpsNode.step] at hstep
    split at hstep <;> cases hstep
    next hmu =>
      exact h.setPush (by simp [PushPc.items]) (fun _ => rfl) (by simp [hmu]) fun _ => hallowed
  | keys n routerKeys =>
    rw [OpsNode.step] at hstep
    split at hstep <;> cases hstep
    next hpc => exact h.advance (h.holder hpc nofun nofun) (by simp [PushPc.items])
  | skip n =>
    rw [OpsNode.step] at hstep
    split at hstep <;> cases hstep
    next hpc => exact h.release (h.holder hpc nofun nofun)
  | read n =>
    rw [OpsNode.step] at hstep
    split at hstep <;> cases hstep
    next hpc =>
      refine h.advance (h.holder hpc nofun nofun) fun item hitem => ?_
      rcases List.mem_append.mp hitem with hbefore | hread
      · exact h.offered n item (by rwa [hpc])
      · exact fresh_readItem hread
  | offer n =>
    rw [OpsNode.step] at hstep
    split at hstep <;> cases hstep
    next hpc =>
      exact h.advance (h.holder hpc nofun nofun) fun item hitem => h.offered n item (by rwa [hpc])
  | deliver n m =>
    rw [OpsNode.step] at hstep
    split at hstep <;> cases hstep
    next hpush hpc => exact h.deliver hpush hpc hallowed
  | send m | sendInitial m =>
    rw [OpsNode.step] at hstep
    split at hstep <;> cases hstep
    next hpc =>
      -- what was about to be sent is now sent, and no key is left
      refine h.setSyncer (fun m' hne => update_of_ne hne _ _) (fun _ key item hlast => .inl ?_)
        fun _ => .inl trivial
      rw [update_self]
      rcases h.latest_of hpc trivial hlast with hcovers | hunread
      · exact hcovers.append_left _
      · cases hunread
  | connect m =>
    rw [OpsNode.step] at hstep
    split at hstep <;> cases hstep
    refine h.setSyncer (fun _ _ => rfl) (fun _ key item hlast => .inr ?_) fun _ => .inl trivial
    obtain ⟨rfl, stored, hstored, -⟩ := h.pushed key item hlast
    exact AList.mem_keys.mp (GoMap.mem_iff.mpr ⟨_, hstored⟩)
  | readInitial m =>
    rw [OpsNode.step] at hstep
    split at hstep <;> cases hstep
    next hpc =>
      refine h.setSyncer (fun _ _ => rfl) (fun _ key' item hlast => ?_) fun _ => .inl trivial
      rw [SyncerPc.pending, ← List.append_assoc]
      rcases h.latest_of hpc trivial hlast with hcovers | hunread
      · exact .inl (hcovers.append_left _)
      · rcases List.mem_cons.mp hunread with rfl | hunread
        · obtain ⟨i, hi, hcovers⟩ := h.covers_readItem hlast
          exact .inl ⟨i, List.mem_append_right _ hi, hcovers⟩
        · exact .inr hunread

/-- In every state that allowed steps lead to, every connected syncer has the latest configurations
    when no push is in progress, and no push waits in vain. -/
theorem syncers_delivered (build : ρ → Option γ) {s : OpsNode ι ρ γ}
    (h : Goroutines.Reaches (step build) (Allows build) {} s) : Delivered s := by
  have hinv : Inv build s :=
    h.invariant inv_new fun t e t' ht hallowed hstep => ht.step hallowed hstep
  exact hinv.delivered

def pushTo (n m : Fin 2) (key : String) : List (SyncEvent (Fin 2) Unit) :=
  [.lock n, .keys n [key], .read n, .offer n, .deliver n m, .send m]

def connectTo (m : Fin 2) : List (SyncEvent (Fin 2) Unit) :=
  [.connect m, .readInitial m, .sendInitial m]

/-- A syncer connects and is sent a push, a second one connects and takes its place, and is sent the
    next push. -/
def replacedSyncer : List (SyncEvent (Fin 2) Unit) :=
  .write "key" () :: connectTo 0 ++ .write "key" () :: pushTo 0 0 "key" ++ connectTo 1 ++
    .disconnect 0 :: .write "key" () :: pushTo 1 1 "key"

theorem syncers_delivered_replaced :
    ∃ s : OpsNode (Fin 2) Unit Unit, run (step some) {} replacedSyncer = some s ∧
      s.lastPush "key" = some ⟨"key", 2, ()⟩ ∧ s.sent 1 = [⟨"key", 1, ()⟩, ⟨"key", 2, ()⟩] ∧
      Delivered s := by
  have hthroughout : Throughout (step some) (Allows some) ({} : OpsNode (Fin 2) Unit Unit)
      replacedSyncer := by
    simp [replacedSyncer, connectTo, pushTo, Throughout, Allows, step, readItem, recordPush]
    decide
  exact exists_run_of_isSome (by decide +kernel) fun hs =>
    ⟨by decide +kernel, by decide +kernel, syncers_delivered some (hthroughout.reaches hs)⟩

/-- Two syncers are connected, and a router is written and pushed: one of them takes it. -/
def twoSyncers : List (SyncEvent (Fin 2) Unit) :=
  [.connect 0, .sendInitial 0, .connect 1, .sendInitial 1, .write "key" ()] ++ pushTo 0 0 "key"

/-- A router is written and pushed while a second syncer does its initial sync. -/
def lateSyncer : List (SyncEvent (Fin 2) Unit) :=
  [.connect 0, .sendInitial 0, .write "key" (), .connect 1, .readInitial 1, .write "key" ()] ++
    pushTo 0 0 "key" ++ [.disconnect 0, .sendInitial 1]

def noSyncer : List (SyncEvent (Fin 2) Unit) := [.lock 0, .keys 0 [], .offer 0]

instance (s : OpsNode (Fin 2) Unit Unit) : Decidable s.InProgress :=
  inferInstanceAs (Decidable (_ ∨ _))

theorem syncer_misses_push :
    (∃ s : OpsNode (Fin 2) Unit Unit, run (step some) {} twoSyncers = some s ∧ ¬s.InProgress ∧
      s.syncers 1 = .waiting ∧ s.lastPush "key" = some ⟨"key", 0, ()⟩ ∧ s.sent 1 = []) ∧
    (∃ s : OpsNode (Fin 2) Unit Unit, run (step some) {} lateSyncer = some s ∧ ¬s.InProgress ∧
      s.syncers 1 = .waiting ∧ s.lastPush "key" = some ⟨"key", 1, ()⟩ ∧
      s.sent 1 = [⟨"key", 0, ()⟩]) ∧
    ∃ s : OpsNode (Fin 2) Unit Unit, run (step some) {} noSyncer = some s ∧ s.Blocked := by
  refine ⟨?_, ?_, ?_⟩
  · exact exists_run_of_isSome (by decide +kernel) fun _ => by decide +kernel
  · exact exists_run_of_isSome (by decide +kernel) fun _ => by decide +kernel
  · exact ⟨_, rfl, ⟨0, [], rfl⟩, fun m => id⟩

end OpsNode

end Opni.Alerting.RemoteSync
