/-
  Opni.Alerting.SyncHash

  `Sync` and `ForceSync` (`pkg/alerting/storage/clientset.go`), with the hash
  by which `Sync` sees that it has nothing to do.
-/

import Opni.Alerting.References

namespace Opni.Alerting

open Lib

/-! ## The client set -/

/-- What the calls use: the parsers, the address of `NewDefaultOpniRouting`, and the digest
    of the listed conditions and endpoints, which tells different contents apart. -/
structure HashEnv where
  lib : Parsers
  hook : String
  Digest : Type
  [decEq : DecidableEq Digest]
  digest : List AlertCondition → List AlertEndpoint → Digest
  perm_of_digest_eq : ∀ {conds conds' endps endps'}, digest conds endps = digest conds' endps' →
    conds.Perm conds' ∧ endps.Perm endps'

instance (env : HashEnv) : DecidableEq env.Digest := env.decEq

/-- `CompositeAlertingClientSet`: the stores of conditions and endpoints, the hash that is
    remembered for `SingleConfigId` and the router stored for it. -/
structure ClientSet (env : HashEnv) where
  stores : Stores
  hash : Option env.Digest
  router : Option OpniRouterV1

/-- The errors of the `List` calls and the `Put` of a synchronisation. -/
structure SyncFaults where
  hashConditions : Option Failure := none
  hashEndpoints : Option Failure := none
  conditions : Option Failure := none
  endpoints : Option Failure := none
  put : Option Failure := none

/-- A call that fails with the given error, if there is one. -/
def orFail {α : Type} (fault : Option Failure) (result : Except Failure α) : Except Failure α :=
  match fault with
  | some err => .error err
  | none => result

namespace ClientSet

variable {env : HashEnv} (orders : SyncOrders) (faults : SyncFaults) (c : ClientSet env)

def calculateHash :
    Except Failure (ClientSet env) :=
  match orFail faults.hashConditions (c.stores.conditions.list orders.hashConditions) with
  | .error err => .error err
  | .ok conds =>
    match orFail faults.hashEndpoints (c.stores.endpoints.list orders.hashEndpoints) with
    | .error err => .error err
    | .ok endps => .ok { c with hash := some (env.digest conds endps) }

/-- `calculateRouters`, which fails where one of its `List` calls or its `Put` does. -/
def calculateRouters (orders : SyncOrders) (faults : SyncFaults) (c : ClientSet env) :
    Except Failure (ClientSet env) :=
  match orFail faults.conditions (c.stores.conditions.list orders.conditions) with
  | .error err => .error err
  | .ok _ =>
    match orFail faults.endpoints
      (Alerting.calculateRouters env.lib orders c.stores (.new env.hook)) with
    | .error err => .error err
    | .ok router => orFail faults.put (.ok { c with router := some router })

/-- `ForceSync`, with its error. -/
def forceSync :
    ClientSet env × Except Failure Unit :=
  match c.calculateHash orders faults with
  | .error err => (c, .error err)
  | .ok c =>
    match c.calculateRouters orders faults with
    -- the hash is that of the contents, whether or not the router is
    | .error err => (c, .error err)
    | .ok c => (c, .ok ())

/-- `Sync`, with the keys of the routers it has computed or its error. -/
def sync :
    ClientSet env × Except Failure (List String) :=
  let curHash := c.hash
  -- the error of `CalculateHash` is dropped
  let c := match c.calculateHash orders faults with
    | .ok c => c
    | .error _ => c
  if curHash = c.hash then (c, .ok [])
  else
    match c.calculateRouters orders faults with
    | .error err => (c, .error err)
    | .ok c => (c, .ok ["global"])

end ClientSet

/-- What happens to the client set: a change of the stores by anyone, or a synchronisation. -/
inductive SyncEvent where
  | change (stores : Stores)
  | sync (orders : SyncOrders) (faults : SyncFaults)
  | forceSync (orders : SyncOrders) (faults : SyncFaults)

def ClientSet.step {env : HashEnv} (c : ClientSet env) : SyncEvent → ClientSet env
  | .change stores => { c with stores := stores }
  | .sync orders faults => (c.sync orders faults).1
  | .forceSync orders faults => (c.forceSync orders faults).1

/-- A client set that has just been started, with whatever router is stored. -/
def ClientSet.start (env : HashEnv) (stores : Stores) (router : Option OpniRouterV1) :
    ClientSet env := ⟨stores, none, router⟩

/-! ## The right router -/

section Router

variable {env : HashEnv}

/-- The stored router is one that `calculateRouters` computes from the stores. -/
def ClientSet.RouterCurrent (c : ClientSet env) : Prop :=
  ∃ orders router,
    Alerting.calculateRouters env.lib orders c.stores (.new env.hook) = .ok router ∧
      c.router = some router

/-- The router can be computed from the stores, in whatever order they are listed. -/
def Stores.Routable (env : HashEnv) (st : Stores) : Prop :=
  ∀ orders, ∃ router, Alerting.calculateRouters env.lib orders st (.new env.hook) = .ok router

variable {c : ClientSet env} {orders : SyncOrders} {faults : SyncFaults} {st : Stores}
  {router router' : OpniRouterV1} {lib : Parsers} {conds : List AlertCondition}
  {endps : List AlertEndpoint}

theorem Stores.Consistent.routable {lib : AlertingLibs} (hst : st.Consistent lib)
    (hexist : st.EndpointsExist) (hlib : env.lib = lib.toParsers) {hookURL : String}
    (hhook : lib.parseURL env.hook = .ok hookURL) : st.Routable env := by
  intro orders
  let alertingEnv : AlertingEnv := ⟨lib, env.hook, hookURL, hhook⟩
  have hst' : st.Consistent alertingEnv.lib := hst
  obtain ⟨router, hsync, -⟩ := exists_forceSync hst' hexist orders
  rw [hlib]
  unfold Alerting.forceSync at hsync
  split at hsync
  · cases hsync
  · split at hsync
    · cases hsync
    · exact ⟨router, hsync⟩

/-- Neither a `List` of `calculateRouters` nor its `Put` fails, and the router can be
    computed. -/
structure ClientSet.RoutersComputed (c : ClientSet env) (faults : SyncFaults) : Prop where
  conditions : faults.conditions = none
  endpoints : faults.endpoints = none
  put : faults.put = none
  routable : c.stores.Routable env

/-- An event that leaves no failed synchronisation behind: `Sync` does not fail at all, and
    `ForceSync` only before it has stored the hash. -/
def SyncEvent.Completes (c : ClientSet env) : SyncEvent → Prop
  | .change _ => True
  | .sync _ faults =>
    faults.hashConditions = none ∧ faults.hashEndpoints = none ∧ c.RoutersComputed faults
  | .forceSync _ faults =>
    faults.hashConditions = none → faults.hashEndpoints = none → c.RoutersComputed faults

theorem calculateRouters_eq_ok (h : Alerting.calculateRouters lib orders st router = .ok router') :
    ∃ conds endps, st.conditions.list orders.conditions = .ok conds ∧
      st.endpoints.list orders.endpoints = .ok endps ∧
      ∀ (st' : Stores) (orders' : SyncOrders), st'.conditions.list orders'.conditions = .ok conds →
        st'.endpoints.list orders'.endpoints = .ok endps →
        Alerting.calculateRouters lib orders' st' router = .ok router' := by
  unfold Alerting.calculateRouters at h
  split at h
  · cases h
  next conds hconds =>
    split at h
    · cases h
    next endps hendps =>
      refine ⟨conds, endps, hconds, hendps, fun st' orders' hconds' hendps' => ?_⟩
      simp only [Alerting.calculateRouters, hconds', hendps']
      exact h

theorem exists_calculateRouters_of_perm {st' : Stores} {s₁ s₂ s₁' s₂' : Scheduler Path}
    {conds' : List AlertCondition} {endps' : List AlertEndpoint}
    (h : Alerting.calculateRouters lib orders st router = .ok router')
    (hconds : st.conditions.list s₁ = .ok conds) (hendps : st.endpoints.list s₂ = .ok endps)
    (hconds' : st'.conditions.list s₁' = .ok conds') (hendps' : st'.endpoints.list s₂' = .ok endps')
    (hperm : conds.Perm conds' ∧ endps.Perm endps') :
    ∃ orders', Alerting.calculateRouters lib orders' st' router = .ok router' := by
  obtain ⟨cs, es, hcs, hes, hcalc⟩ := calculateRouters_eq_ok h
  obtain ⟨t₁, ht₁⟩ := AlertingStorage.exists_list_of_perm hconds'
    ((AlertingStorage.list_perm hcs hconds).trans hperm.1)
  obtain ⟨t₂, ht₂⟩ := AlertingStorage.exists_list_of_perm hendps'
    ((AlertingStorage.list_perm hes hendps).trans hperm.2)
  exact ⟨{ orders with conditions := t₁, endpoints := t₂ }, hcalc st' _ ht₁ ht₂⟩

/-! ## The hash is honest -/

/-- The remembered hash is that of stores from which the stored router has been computed. -/
def ClientSet.Honest (c : ClientSet env) : Prop :=
  ∀ d, c.hash = some d → ∃ (st : Stores) (s₁ s₂ : Scheduler Path) (orders : SyncOrders)
    (conds : List AlertCondition) (endps : List AlertEndpoint) (router : OpniRouterV1),
    st.conditions.list s₁ = .ok conds ∧ st.endpoints.list s₂ = .ok endps ∧
      d = env.digest conds endps ∧
      Alerting.calculateRouters env.lib orders st (.new env.hook) = .ok router ∧
      c.router = some router

theorem ClientSet.calculateHash_eq_ok {c' : ClientSet env}
    (h : c.calculateHash orders faults = .ok c') :
    ∃ conds endps, faults.hashConditions = none ∧ faults.hashEndpoints = none ∧
      c.stores.conditions.list orders.hashConditions = .ok conds ∧
      c.stores.endpoints.list orders.hashEndpoints = .ok endps ∧
      c' = { c with hash := some (env.digest conds endps) } := by
  unfold calculateHash orFail at h
  cases hc : faults.hashConditions with
  | some err => simp [hc] at h
  | none =>
    cases he : faults.hashEndpoints with
    | some err =>
      simp only [hc, he] at h
      split at h <;> cases h
    | none =>
      simp only [hc, he] at h
      split at h
      · cases h
      next conds hconds =>
        split at h
        · cases h
        next endps hendps =>
          exact ⟨conds, endps, rfl, rfl, hconds, hendps, (Except.ok.inj h).symm⟩

theorem ClientSet.exists_calculateHash
    (hc : faults.hashConditions = none) (he : faults.hashEndpoints = none)
    (hroutable : c.stores.Routable env) (orders : SyncOrders) :
    ∃ c', c.calculateHash orders faults = .ok c' := by
  obtain ⟨router, hrouter⟩ := hroutable
    { orders with conditions := orders.hashConditions, endpoints := orders.hashEndpoints }
  obtain ⟨conds, endps, hconds, hendps, -⟩ := calculateRouters_eq_ok hrouter
  simp only [calculateHash, orFail, hc, he]
  exact ⟨_, by rw [hconds, hendps]⟩

theorem ClientSet.RoutersComputed.calculateRouters_eq
    (h : c.RoutersComputed faults) (orders : SyncOrders) (d : Option env.Digest) :
    ∃ router, Alerting.calculateRouters env.lib orders c.stores (.new env.hook) = .ok router ∧
      ({ c with hash := d } : ClientSet env).calculateRouters orders faults =
        .ok { c with hash := d, router := some router } := by
  obtain ⟨router, hrouter⟩ := h.routable orders
  obtain ⟨conds, -, hconds, -⟩ := calculateRouters_eq_ok hrouter
  refine ⟨router, hrouter, ?_⟩
  simp only [ClientSet.calculateRouters, orFail, h.conditions, h.endpoints, h.put, hconds, hrouter]

theorem ClientSet.sync_of_hash_eq (h : c.calculateHash orders faults = .ok c) :
    c.sync orders faults = (c, .ok []) := by
  simp only [sync, h, if_pos]

theorem ClientSet.sync_eq (h : (SyncEvent.sync orders faults).Completes c) :
    ∃ conds endps, c.stores.conditions.list orders.hashConditions = .ok conds ∧
      c.stores.endpoints.list orders.hashEndpoints = .ok endps ∧
      ((c.hash = some (env.digest conds endps) ∧ c.sync orders faults = (c, .ok [])) ∨
        ∃ router, Alerting.calculateRouters env.lib orders c.stores (.new env.hook) = .ok router ∧
          c.sync orders faults =
            ({ c with hash := some (env.digest conds endps), router := some router },
              .ok ["global"])) := by
  obtain ⟨hc, he, hrouters⟩ := h
  obtain ⟨c', hhash⟩ := exists_calculateHash hc he hrouters.routable orders
  obtain ⟨conds, endps, -, -, hconds, hendps, rfl⟩ := calculateHash_eq_ok hhash
  refine ⟨conds, endps, hconds, hendps, ?_⟩
  by_cases hsame : c.hash = some (env.digest conds endps)
  · rw [← hsame] at hhash
    exact .inl ⟨hsame, sync_of_hash_eq hhash⟩
  · obtain ⟨router, hrouter, hcalc⟩ :=
      hrouters.calculateRouters_eq orders (some (env.digest conds endps))
    exact .inr ⟨router, hrouter, by simp only [sync, hhash, if_neg hsame, hcalc]⟩

theorem ClientSet.honest_of_computed {orders' : SyncOrders}
    (hconds : c.stores.conditions.list orders.hashConditions = .ok conds)
    (hendps : c.stores.endpoints.list orders.hashEndpoints = .ok endps)
    (hrouter : Alerting.calculateRouters env.lib orders' c.stores (.new env.hook) = .ok router) :
    ({ c with hash := some (env.digest conds endps), router := some router } :
      ClientSet env).Honest := by
  intro d hd
  exact ⟨c.stores, _, _, orders', conds, endps, router, hconds, hendps,
    (Option.some.inj hd).symm, hrouter, rfl⟩

theorem ClientSet.Honest.step (h : c.Honest) {ev : SyncEvent}
    (hev : ev.Completes c) : (c.step ev).Honest := by
  cases ev with
  | change stores => exact h
  | sync orders faults =>
    obtain ⟨conds, endps, hconds, hendps, ⟨-, hsync⟩ | ⟨router, hrouter, hsync⟩⟩ := sync_eq hev
    · rw [ClientSet.step, hsync]
      exact h
    · rw [ClientSet.step, hsync]
      exact honest_of_computed hconds hendps hrouter
  | forceSync orders faults =>
    rw [ClientSet.step, ClientSet.forceSync]
    cases hhash : c.calculateHash orders faults with
    | error err => exact h
    | ok c' =>
      obtain ⟨conds, endps, hc, he, hconds, hendps, rfl⟩ := calculateHash_eq_ok hhash
      obtain ⟨router, hrouter, hcalc⟩ :=
        (hev hc he).calculateRouters_eq orders (some (env.digest conds endps))
      simp only [hcalc]
      exact honest_of_computed hconds hendps hrouter

/-- An event that leaves no failed synchronisation behind. -/
def CompletedEvent (c c' : ClientSet env) : Prop :=
  ∃ ev : SyncEvent, ev.Completes c ∧ c' = c.step ev

/-- In every run in which no synchronisation fails after it has stored the hash: when `Sync`
    returns without computing the router, the stored one is right. -/
theorem sync_honest {stores : Stores} {router : Option OpniRouterV1} {c : ClientSet env}
    (hrun : Relation.ReflTransGen CompletedEvent (ClientSet.start env stores router) c)
    {orders : SyncOrders} {faults : SyncFaults} (hsync : (SyncEvent.sync orders faults).Completes c)
    (hret : (c.sync orders faults).2 = .ok []) : (c.sync orders faults).1.RouterCurrent := by
  have hhonest : c.Honest := by
    clear hsync hret
    induction hrun with
    | refl => exact fun d hd => absurd hd (by simp [ClientSet.start])
    | tail _ hstep ih =>
      obtain ⟨ev, hev, rfl⟩ := hstep
      exact ih.step hev
  obtain ⟨conds, endps, hconds, hendps, ⟨hhash, heq⟩ | ⟨router, -, heq⟩⟩ := ClientSet.sync_eq hsync
  · obtain ⟨st, s₁, s₂, orders₀, conds₀, endps₀, router₀, hconds₀, hendps₀, hd, hrouter, hstored⟩ :=
      hhonest _ hhash
    obtain ⟨orders', hcalc⟩ := exists_calculateRouters_of_perm hrouter hconds₀ hendps₀ hconds hendps
      (env.perm_of_digest_eq hd.symm)
    rw [heq]
    exact ⟨orders', router₀, hcalc, hstored⟩
  · rw [heq] at hret
    cases hret

end Router

/-! ## Two runs -/

def plainEnv : HashEnv where
  lib := acceptingLibs.toParsers
  hook := "http://localhost:3000"
  Digest := List AlertCondition × List AlertEndpoint
  digest := Prod.mk
  perm_of_digest_eq h := by
    obtain ⟨rfl, rfl⟩ := Prod.mk.inj h
    exact ⟨.refl _, .refl _⟩

def inOrder : SyncOrders := ⟨.inOrder _, .inOrder _, .inOrder _, .inOrder _⟩

/-- A client set on stores with an endpoint and an alarm that has it, after a `ForceSync`. -/
def forceSynced (faults : SyncFaults) : ClientSet plainEnv :=
  (ClientSet.start plainEnv withAlarm none).step (.forceSync inOrder faults)

theorem routable_withAlarm : withAlarm.Routable plainEnv := by
  let calls : List Call := [.createAlertEndpoint ⟨"endpoint", by decide⟩ pagerEndpoint,
    .createAlertCondition ⟨"alarm", by decide⟩ (alarmWith "endpoint")]
  have hrun : Stores.run acceptingLibs calls .empty = .ok withAlarm := rfl
  have hconsistent : withAlarm.Consistent acceptingLibs := by
    refine Stores.Consistent.empty.run (fun call hcall => ?_) hrun
    simp only [calls, List.mem_cons, List.not_mem_nil, or_false] at hcall
    rcases hcall with rfl | rfl <;> trivial
  refine hconsistent.routable (fun p c hc item hitem => ?_) rfl rfl
  rcases AlertingStorage.lookup_put hc with ⟨-, rfl⟩ | hold
  · obtain rfl := List.mem_singleton.mp hitem
    exact ⟨withEndpoint.endpoints.key "endpoint", _, rfl, rfl⟩
  · simp [withEndpoint, Stores.empty, AlertingStorage.empty] at hold

/-- A `Sync` after a `ForceSync`, on unchanged stores. -/
theorem sync_after_forceSync :
    ((forceSynced {}).sync inOrder {}).2 = .ok [] ∧
      ((forceSynced {}).sync inOrder {}).1.RouterCurrent := by
  have hstart : (ClientSet.start plainEnv withAlarm none).RoutersComputed {} :=
    ⟨rfl, rfl, rfl, routable_withAlarm⟩
  have hrun : Relation.ReflTransGen CompletedEvent (ClientSet.start plainEnv withAlarm none)
      (forceSynced {}) := .single ⟨.forceSync inOrder {}, fun _ _ => hstart, rfl⟩
  have hskip : ((forceSynced {}).sync inOrder {}).2 = .ok [] :=
    congrArg Prod.snd (ClientSet.sync_of_hash_eq rfl)
  exact ⟨hskip, sync_honest hrun ⟨rfl, rfl, rfl, rfl, rfl, routable_withAlarm⟩ hskip⟩

/-- The `Put` of a `ForceSync` fails: the next `Sync` takes it for done, with no router in the
    store. -/
theorem sync_skips_failed :
    ((forceSynced { put := some (.status ⟨.unavailable, "timeout"⟩) }).sync inOrder {}).2 =
        .ok [] ∧
      ¬((forceSynced { put := some (.status ⟨.unavailable, "timeout"⟩) }).sync
        inOrder {}).1.RouterCurrent := by
  rw [ClientSet.sync_of_hash_eq (show (forceSynced { put := _ }).calculateHash inOrder {} =
    .ok (forceSynced { put := _ }) from rfl)]
  refine ⟨rfl, ?_⟩
  rintro ⟨orders, router, -, h⟩
  cases h

end Opni.Alerting
