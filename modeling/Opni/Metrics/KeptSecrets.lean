/-
  Opni.Metrics.KeptSecrets

  What concurrent calls of `ConfigureCluster` leave of the secrets.  Every
  attempt puts the secrets that it reads into the request, so that a later one
  finds no placeholder (`leftSecret`).
-/

import Opni.Metrics.ConfigureCluster

namespace Opni.Metrics.ConfigureCluster

open Lib Lib.Goroutines

section Secrets

variable {ρ : Type} {conf conf' : ClusterConfiguration ρ}
  {cluster clone : MonitoringCluster ρ} {gateway : String} {request : ClusterConfiguration ρ}
  {reads : List (Option (StorageSpec ρ))} {st : Option (StorageSpec ρ)} {k : Secret}
  {v : Option String}

/-! ## The mutator -/

theorem mutator_eq_none_iff : mutator gateway conf cluster = none ↔ conf.storage = none := by
  unfold mutator
  split
  next hnone => exact iff_of_true rfl hnone
  next storage hstorage =>
    rw [hstorage]
    split <;> simp

structure Mutated (conf : ClusterConfiguration ρ) (cluster : MonitoringCluster ρ)
    (conf' : ClusterConfiguration ρ) (clone : MonitoringCluster ρ) : Prop where
  present : conf.storage.isSome ∧ conf'.storage.isSome
  stored : clone.storage = conf'.storage
  version : clone.resourceVersion = cluster.resourceVersion
  secrets : ∀ k, PutBack (secretOf conf.storage k) (secretOf cluster.storage k)
    (secretOf conf'.storage k)

theorem mutated_of_mutator (h : mutator gateway conf cluster = some (.ok (conf', clone))) :
    Mutated conf cluster conf' clone := by
  unfold mutator at h
  split at h
  · cases h
  next storage hstorage =>
    split at h
    · cases h
    next storage' hput =>
      cases h
      refine ⟨⟨by rw [hstorage]; rfl, rfl⟩, rfl, rfl, fun k => ?_⟩
      have hk := putBack_unredactSecrets hput k
      rw [hstorage]
      exact hk

/-! ## What the attempts leave in the request -/

def leftSecret (request : ClusterConfiguration ρ) (reads : List (Option (StorageSpec ρ)))
    (k : Secret) : Option String :=
  if secretOf request.storage k = some redacted then (firstSecret reads k).getD (some redacted)
  else secretOf request.storage k

theorem leftSecret_nil : leftSecret request [] k = secretOf request.storage k := by
  unfold leftSecret
  split
  next h => exact h.symm
  · rfl

theorem firstSecret_concat : firstSecret (reads ++ [st]) k =
    (firstSecret reads k).or
      (if secretOf st k = some redacted then none else some (secretOf st k)) := by
  rw [firstSecret, List.map_append, List.find?_append, ← firstSecret]
  by_cases h : secretOf st k = some redacted
  · simp [h]
  · simp [h]

theorem ne_redacted_of_firstSecret (h : firstSecret reads k = some v) : v ≠ some redacted := by
  have hv := List.find?_some h
  exact of_decide_eq_true hv

theorem firstSecret_eq_none (h : firstSecret reads k = none) (hst : st ∈ reads) :
    secretOf st k = some redacted := by
  have hall := List.find?_eq_none.mp h _ (List.mem_map_of_mem (f := fun st => secretOf st k) hst)
  simpa using hall

theorem leftSecret_concat (h : PutBack (leftSecret request reads k) (secretOf st k) v) :
    v = leftSecret request (reads ++ [st]) k := by
  by_cases hplace : secretOf request.storage k = some redacted
  · rw [leftSecret, if_pos hplace] at h
    rw [leftSecret, if_pos hplace, firstSecret_concat]
    cases hfirst : firstSecret reads k with
    | none =>
      -- nothing has been put back yet
      rw [hfirst, Option.getD_none, PutBack, if_pos rfl] at h
      rw [h.1, Option.none_or]
      split
      next hst => exact hst
      · rfl
    | some first =>
      rw [hfirst, Option.getD_some, PutBack, if_neg (ne_redacted_of_firstSecret hfirst)] at h
      rw [h, Option.some_or, Option.getD_some]
  · rw [leftSecret, if_neg hplace, PutBack, if_neg hplace] at h
    rw [leftSecret, if_neg hplace, h]

theorem leftSecret_ne_redacted (hst : st ∈ reads) (hne : secretOf st k ≠ some redacted) :
    leftSecret request reads k ≠ some redacted := by
  unfold leftSecret
  split
  · cases hfirst : firstSecret reads k with
    | none => exact absurd (firstSecret_eq_none hfirst hst) hne
    | some first =>
      exact ne_redacted_of_firstSecret hfirst
  next hplace => exact hplace

theorem leftSecret_eq_iff (hplace : secretOf request.storage k = some redacted) (hst : st ∈ reads) :
    leftSecret request reads k = secretOf st k ↔ ∀ v ∈ firstSecret reads k, v = secretOf st k := by
  rw [leftSecret, if_pos hplace]
  cases hfirst : firstSecret reads k with
  | none => simp [firstSecret_eq_none hfirst hst]
  | some first => simp

end Secrets

/-! ## Calls -/

section Calls

variable {ρ : Type} {env : Env ρ} {object object' : Option (MonitoringCluster ρ)} {store : Store ρ}
  {c : Call ρ} {left : Nat} {clone cluster : MonitoringCluster ρ}

/-- The request of a call has what its attempts have left in it. -/
structure Call.Carries (c : Call ρ) : Prop where
  present : c.conf.storage.isSome = c.request.storage.isSome
  secrets : ∀ k, secretOf c.conf.storage k = leftSecret c.request c.reads k

/-- An update: while nobody else writes, the object is what the attempt has read. -/
structure Call.Updates (object : Option (MonitoringCluster ρ)) (c : Call ρ)
    (clone : MonitoringCluster ρ) : Prop where
  stored : clone.storage = c.conf.storage
  read : ∃ current, object = some current ∧ clone.resourceVersion ≤ current.resourceVersion ∧
    (current.resourceVersion = clone.resourceVersion → current.storage ∈ c.reads)

def Call.Inv (object : Option (MonitoringCluster ρ)) (c : Call ρ) : Prop :=
  match c.pc with
  | .idle | .returned _ | .panicked => True
  | .called | .found _ => c.Carries ∧ c.reads = []
  | .attempting _ => c.Carries
  | .updating clone _ => c.Carries ∧ c.Updates object clone
  | .creating cluster => c.Carries ∧ c.reads = [] ∧ cluster.storage = c.conf.storage ∧
      NoPlaceholder c.conf.storage

def Later (object object' : Option (MonitoringCluster ρ)) : Prop :=
  object' = object ∨ ∃ new, object' = some new ∧
    ∀ old, object = some old → old.resourceVersion < new.resourceVersion

theorem Call.Inv.frame (h : c.Inv object) (hlater : Later object object') : c.Inv object' := by
  rcases hlater with rfl | ⟨new, rfl, hnew⟩
  · exact h
  · unfold Call.Inv at h ⊢
    split
    all_goals simp only [*] at h
    any_goals exact h
    next =>
      obtain ⟨hcarries, hstored, current, rfl, hle, -⟩ := h
      have hlt := hnew current rfl
      exact ⟨hcarries, hstored, new, rfl, by omega, fun heq => by omega⟩

theorem attempted_cases (left : Nat) (err : ConfigError) :
    (∃ later, (attempted left err : Pc ρ) = .attempting later) ∨
      ∃ err', (attempted left err : Pc ρ) = .returned (some err') := by
  unfold attempted
  split
  · exact .inl ⟨_, rfl⟩
  · exact .inr ⟨_, rfl⟩

theorem attempted_ne_panicked (left : Nat) (err : ConfigError) :
    (attempted left err : Pc ρ) ≠ .panicked := by
  obtain ⟨later, heq⟩ | ⟨err', heq⟩ := @attempted_cases ρ left err
  · simp [heq]
  · simp [heq]

theorem Call.Carries.attempted (h : c.Carries) (left : Nat) (err : ConfigError) :
    Call.Inv object { c with pc := ConfigureCluster.attempted left err } := by
  obtain ⟨later, heq⟩ | ⟨err', heq⟩ := @attempted_cases ρ left err
  · rw [heq]
    exact ⟨h.present, h.secrets⟩
  · rw [heq]
    exact trivial

theorem inv_gatewayRead (h : c.Carries) (hreads : c.reads = []) (present : Bool)
    (answer : Except ConfigError String) : (gatewayRead env present answer c).Inv object := by
  unfold gatewayRead
  split
  · exact trivial
  · dsimp only
    split
    · exact trivial
    split
    · exact ⟨h.present, h.secrets⟩
    split
    · exact trivial
    · exact trivial
    next conf cluster hmutator =>
      have hmutated := mutated_of_mutator hmutator
      have hput (k : Secret) : PutBack (leftSecret c.request c.reads k) none
          (secretOf conf.storage k) := by
        rw [← h.secrets k]
        exact hmutated.secrets k
      -- there is nothing to put back, so nothing is to be put back
      have hplain (k : Secret) : leftSecret c.request c.reads k ≠ some redacted ∧
          secretOf conf.storage k = leftSecret c.request c.reads k := by
        have hk := hput k
        unfold PutBack at hk
        split at hk
        · obtain ⟨-, w, hw, -⟩ := hk
          cases hw
        next hne => exact ⟨hne, hk⟩
      refine ⟨⟨?_, fun k => (hplain k).2⟩, hreads, hmutated.stored, fun k => ?_⟩
      · rw [← h.present]
        exact hmutated.present.2.trans hmutated.present.1.symm
      · rw [(hplain k).2]
        exact (hplain k).1

theorem inv_attempt (h : c.Carries) (fault : Option ConfigError) :
    (attempt env object left fault c).Inv object := by
  unfold attempt
  split
  · exact h.attempted left _
  · exact h.attempted left _
  next existing =>
    dsimp only
    split
    · exact trivial
    · exact trivial
    next conf clone hmutator =>
      have hmutated := mutated_of_mutator hmutator
      split
      · exact trivial
      · refine ⟨⟨?_, fun k => ?_⟩, hmutated.stored, existing, rfl, hmutated.version.le,
          fun _ => List.mem_append_right _ (List.mem_singleton_self _)⟩
        · exact hmutated.present.2.trans (hmutated.present.1.symm.trans h.present)
        · apply leftSecret_concat
          rw [← h.secrets k]
          exact hmutated.secrets k

/-! ## Panics -/

theorem Call.Carries.conf_eq_none_iff (h : c.Carries) :
    c.conf.storage = none ↔ c.request.storage = none := by
  rw [← Option.isNone_iff_eq_none, ← Option.isNone_iff_eq_none, ← Option.not_isSome,
    ← Option.not_isSome, h.present]

theorem gatewayRead_panics_iff (h : c.Carries) (present : Bool)
    (answer : Except ConfigError String) : (gatewayRead env present answer c).pc = .panicked ↔
      (∃ hostname, answer = .ok hostname) ∧ present = false ∧ c.request.storage = none := by
  unfold gatewayRead
  rw [← h.conf_eq_none_iff]
  split
  · simp
  next hostname =>
    dsimp only
    split
    next hshort =>
      refine iff_of_false (by simp) ?_
      rintro ⟨-, -, hnone⟩
      have hlong : retentionTooShort (withDefaults hostname c.conf) = false := by
        simp [retentionTooShort, withDefaults, hnone]
      rw [hshort] at hlong
      cases hlong
    split
    next hpresent => simp [hpresent]
    · have hnone_iff : mutator env.gateway (withDefaults hostname c.conf) {} = none ↔
          c.conf.storage = none := mutator_eq_none_iff
      split
      all_goals simp_all

theorem attempt_panics_iff (h : c.Carries) (fault : Option ConfigError) :
    (attempt env object left fault c).pc = .panicked ↔
      fault = none ∧ object.isSome ∧ c.request.storage = none := by
  unfold attempt
  rw [← h.conf_eq_none_iff]
  split
  · simp [attempted_ne_panicked]
  · simp [attempted_ne_panicked]
  next existing =>
    have hnone_iff : mutator env.gateway c.conf existing = none ↔ c.conf.storage = none :=
      mutator_eq_none_iff
    rw [← hnone_iff]
    dsimp only
    split
    next hnone => simp [hnone]
    next err hmutator => simp [hmutator, attempted_ne_panicked]
    next conf clone hmutator =>
      refine iff_of_false ?_ (by simp [hmutator])
      split
      · exact attempted_ne_panicked left (.status _)
      · simp

/-! ## Writes -/

/-- What a write does: nothing to the object, or it stores what is in the request. -/
inductive Wrote (store : Store ρ) (c : Call ρ) : Option ConfigError → Store ρ → Call ρ → Prop
  | failed (fault : Option ConfigError) (pc : Pc ρ) (hpc : pc ≠ .panicked)
      (hinv : Call.Inv store.object { c with pc })
      (hfailed : fault = none → ∀ clone left current, c.pc = .updating clone left →
        store.object = some current → current.resourceVersion ≠ clone.resourceVersion) :
      Wrote store c fault store { c with pc }
  | created (cluster : MonitoringCluster ρ) (hpc : c.pc = .creating cluster)
      (hobject : store.object = none) :
      Wrote store c none ⟨some { cluster with resourceVersion := 1 },
        store.writes ++ [⟨c.request, none, cluster.storage⟩]⟩ { c with pc := .returned none }
  | updated (clone : MonitoringCluster ρ) (left : Nat) (current : MonitoringCluster ρ)
      (hpc : c.pc = .updating clone left) (hobject : store.object = some current)
      (hversion : current.resourceVersion = clone.resourceVersion) :
      Wrote store c none ⟨some { clone with resourceVersion := clone.resourceVersion + 1 },
        store.writes ++ [⟨c.request, current.storage, clone.storage⟩]⟩
        { c with pc := .returned none }

theorem wrote_update (hpc : c.pc = .updating clone left) (h : c.Carries)
    (fault : Option ConfigError) :
    Wrote store c fault (update store clone left fault c).1
      (update store clone left fault c).2 := by
  unfold update
  split
  next err =>
    refine .failed _ _ (attempted_ne_panicked left err) (h.attempted left err) ?_
    intro hfault
    cases hfault
  next hobject =>
    refine .failed _ _ (attempted_ne_panicked left _) (h.attempted left _) ?_
    intro _ _ _ current _ hcurrent
    rw [hobject] at hcurrent
    cases hcurrent
  next current hobject =>
    split
    next hversion => exact .updated clone left current hpc hobject hversion
    next hversion =>
      refine .failed _ _ (attempted_ne_panicked left _) (h.attempted left _) ?_
      intro _ clone' left' current' hpc' hobject'
      obtain ⟨rfl, -⟩ := Pc.updating.inj (hpc.symm.trans hpc')
      cases hobject.symm.trans hobject'
      exact hversion

theorem wrote_create (hpc : c.pc = .creating cluster) (fault : Option ConfigError) :
    Wrote store c fault (create store cluster fault c).1 (create store cluster fault c).2 := by
  -- this is not an update
  have hcreating : fault = none → ∀ clone left current, c.pc = .updating clone left →
      store.object = some current → current.resourceVersion ≠ clone.resourceVersion := by
    intro _ clone left _ hpc'
    rw [hpc] at hpc'
    cases hpc'
  unfold create
  split
  · exact .failed _ _ (by simp) trivial hcreating
  · exact .failed _ _ (by simp) trivial hcreating
  next hobject => exact .created cluster hpc hobject

variable {store' : Store ρ} {c' : Call ρ} {fault : Option ConfigError}

/-- A write keeps the invariant of the call, and stores no placeholder that was not there. -/
theorem Wrote.stored (h : Wrote store c fault store' c')
    (hinv : c.Inv store.object) : c'.Inv store'.object ∧ Later store.object store'.object ∧
      ∀ k, secretOf (store'.object.bind (·.storage)) k = some redacted →
        secretOf (store.object.bind (·.storage)) k = some redacted := by
  cases h with
  | failed _ pc hpc hinv _ => exact ⟨hinv, .inl rfl, fun _ => id⟩
  | created cluster hpc hobject =>
    rw [Call.Inv, hpc] at hinv
    obtain ⟨-, -, hstored, hplain⟩ := hinv
    refine ⟨trivial, .inr ⟨_, rfl, fun old hold => ?_⟩, fun k hk => ?_⟩
    · rw [hobject] at hold
      cases hold
    · rw [← hstored] at hplain
      exact absurd hk (hplain k)
  | updated clone left current hpc hobject hversion =>
    rw [Call.Inv, hpc, hobject] at hinv
    obtain ⟨hcarries, hstored, _, heq, -, hread⟩ := hinv
    cases heq
    rw [hobject]
    refine ⟨trivial, .inr ⟨_, rfl, fun old hold => ?_⟩, fun k hk => ?_⟩
    · obtain rfl := Option.some.inj hold
      dsimp only
      omega
    · -- the attempt has read what is in the object
      by_contra hne
      have hk' : secretOf clone.storage k = some redacted := hk
      rw [hstored, hcarries.secrets k] at hk'
      exact leftSecret_ne_redacted (hread hversion) hne hk'

theorem wrote_next
    (h : next env store c (.write fault) = some (store', c')) (hinv : c.Inv store.object) :
    Wrote store c fault store' c' := by
  rw [next] at h
  split at h
  next clone left hpc =>
    rw [Call.Inv, hpc] at hinv
    have heq := Option.some.inj h
    have hwrote : Wrote store c fault (update store clone left fault c).1 _ :=
      wrote_update hpc hinv.1 fault
    rwa [heq] at hwrote
  next cluster hpc =>
    have heq := Option.some.inj h
    have hwrote : Wrote store c fault (create store cluster fault c).1 _ := wrote_create hpc fault
    rwa [heq] at hwrote
  · cases h

theorem Wrote.ne_panicked (h : Wrote store c fault store' c') : c'.pc ≠ .panicked := by
  cases h with
  | failed _ pc hpc _ _ => exact hpc
  | created | updated => simp

/-- Just when the writes still keep the secrets after one more. -/
theorem Wrote.keeps_iff (h : Wrote store c fault store' c') (hinv : c.Inv store.object)
    (hkept : ∀ w ∈ store.writes, w.Keeps) :
    (∀ w ∈ store'.writes, w.Keeps) ↔ (fault = none → c.FitsWrite store.object) := by
  cases h with
  | failed _ pc _ _ hfailed =>
    refine iff_of_true hkept fun hfault => ?_
    unfold Call.FitsWrite
    split
    next clone left current hpc hobject =>
      exact fun hversion => absurd hversion (hfailed hfault clone left current hpc hobject)
    · trivial
  | created cluster hpc hobject =>
    rw [Call.Inv, hpc] at hinv
    obtain ⟨hcarries, hreads, -, hplain⟩ := hinv
    refine iff_of_true (fun w hw => ?_) fun _ => ?_
    · rcases List.mem_append.mp hw with hw | hw
      · exact hkept w hw
      · -- the request has no placeholder
        obtain rfl := List.mem_singleton.mp hw
        intro k hk
        have hleft := hcarries.secrets k
        rw [hreads, leftSecret_nil] at hleft
        exact absurd (hleft.trans hk) (hplain k)
    · unfold Call.FitsWrite
      rw [hpc]
      trivial
  | updated clone left current hpc hobject hversion =>
    rw [Call.Inv, hpc, hobject] at hinv
    obtain ⟨hcarries, hstored, _, heq, -, hread⟩ := hinv
    cases heq
    have hfits : c.FitsWrite store.object ↔ ∀ k, secretOf c.request.storage k = some redacted →
        ∀ v ∈ firstSecret c.reads k, v = secretOf current.storage k := by
      unfold Call.FitsWrite
      rw [hpc, hobject]
      exact ⟨fun h => h hversion, fun h _ => h⟩
    have hnew : StoredWrite.Keeps ⟨c.request, current.storage, clone.storage⟩ ↔
        c.FitsWrite store.object := by
      rw [hfits]
      refine forall_congr' fun k => forall_congr' fun hplace => ?_
      rw [hstored, hcarries.secrets k, leftSecret_eq_iff hplace (hread hversion)]
    rw [List.forall_mem_append, List.forall_mem_singleton, hnew]
    exact ⟨fun h _ => h.2, fun h => ⟨hkept, h rfl⟩⟩

/-- What a step does to the call that takes it and to the object. -/
structure Stepped (store : Store ρ) (store' : Store ρ) (c' : Call ρ) : Prop where
  inv : c'.Inv store'.object
  later : Later store.object store'.object
  placeholder : ∀ k, secretOf (store'.object.bind (·.storage)) k = some redacted →
    secretOf (store.object.bind (·.storage)) k = some redacted

theorem stepped_of_next {e : CallStep ρ}
    (h : next env store c e = some (store', c')) (hinv : c.Inv store.object) :
    Stepped store store' c' := by
  -- a step without a write says nothing new about the object
  have hsame {c' : Call ρ} (hinv' : c'.Inv store.object) : Stepped store store c' :=
    ⟨hinv', .inl rfl, fun _ => id⟩
  have hnext := h
  revert h
  fun_cases next env store c e with
  | case1 =>
    rintro ⟨⟩
    exact hsame ⟨⟨rfl, fun k => leftSecret_nil.symm⟩, rfl⟩
  | case3 fault hpc =>
    rintro ⟨⟩
    rw [Call.Inv, hpc] at hinv
    refine hsame ?_
    unfold firstRead
    split
    · exact ⟨⟨hinv.1.present, hinv.1.secrets⟩, hinv.2⟩
    · exact ⟨⟨hinv.1.present, hinv.1.secrets⟩, hinv.2⟩
    · exact trivial
  | case5 answer present hpc =>
    rintro ⟨⟩
    rw [Call.Inv, hpc] at hinv
    exact hsame (inv_gatewayRead hinv.1 hinv.2 present answer)
  | case7 fault left hpc =>
    rintro ⟨⟩
    rw [Call.Inv, hpc] at hinv
    exact hsame (inv_attempt hinv fault)
  | case9 | case10 =>
    obtain ⟨hinv', hlater, hplaceholder⟩ := (wrote_next hnext hinv).stored hinv
    exact fun _ => ⟨hinv', hlater, hplaceholder⟩
  | _ => exact nofun

end Calls

/-! ## Runs -/

section Runs

variable {ρ : Type} {env : Env ρ} {initial : Option (StorageSpec ρ)} {s s' : State ρ}
  {e : Nat × CallStep ρ} (object : Option (MonitoringCluster ρ))

structure State.Inv (initial : Option (StorageSpec ρ)) (s : State ρ) : Prop where
  calls : ∀ n, (s.calls n).Inv s.store.object
  hidden : NoPlaceholder initial → NoPlaceholder (s.store.object.bind (·.storage))

theorem step_eq_some_iff : step env s e = some s' ↔
    ∃ store c, next env s.store (s.calls e.1) e.2 = some (store, c) ∧
      s' = { store, calls := Function.update s.calls e.1 c } := by
  rw [step, Option.map_eq_some_iff]
  constructor
  · rintro ⟨⟨store, c⟩, hnext, rfl⟩
    exact ⟨store, c, hnext, rfl⟩
  · rintro ⟨store, c, hnext, rfl⟩
    exact ⟨(store, c), hnext, rfl⟩

theorem inv_new :
    (State.new object).Inv (object.bind (·.storage)) := ⟨fun _ => trivial, id⟩

theorem inv_step (h : s.Inv initial) (hstep : step env s e = some s') : s'.Inv initial := by
  obtain ⟨store, c, hnext, rfl⟩ := step_eq_some_iff.mp hstep
  have hstepped := stepped_of_next hnext (h.calls e.1)
  refine ⟨(Function.forall_update_iff _ fun _ c => Call.Inv store.object c).mpr
    ⟨hstepped.inv, fun n _ => (h.calls n).frame hstepped.later⟩, fun hinitial k hk => ?_⟩
  exact h.hidden hinitial k (hstepped.placeholder k hk)

theorem secretsKept_update_iff {n : Nat} {store : Store ρ} {c : Call ρ} (h : SecretsKept initial s)
    (hinv : State.Inv initial { store, calls := Function.update s.calls n c }) :
    SecretsKept initial { store, calls := Function.update s.calls n c } ↔
      c.pc ≠ .panicked ∧ ∀ w ∈ store.writes, w.Keeps := by
  have hrunning := Function.forall_update_iff s.calls (a := n) (b := c) fun _ c => c.pc ≠ .panicked
  constructor
  · intro hkept
    exact ⟨(hrunning.mp hkept.running).1, hkept.kept⟩
  · rintro ⟨hpc, hwrites⟩
    exact ⟨hrunning.mpr ⟨hpc, fun m _ => h.running m⟩, hwrites, hinv.hidden⟩

/-- A step keeps the secrets just when it fits. -/
theorem secretsKept_step_iff (hinv : s.Inv initial) (h : SecretsKept initial s)
    (hstep : step env s e = some s') : SecretsKept initial s' ↔ Fits s e := by
  have hinv' := inv_step hinv hstep
  obtain ⟨store, c, hnext, rfl⟩ := step_eq_some_iff.mp hstep
  rw [secretsKept_update_iff h hinv']
  obtain ⟨n, e⟩ := e
  have hcall : (s.calls n).Inv s.store.object := hinv.calls n
  have h' := hnext
  revert h'
  fun_cases next env s.store (s.calls n) e with
  | case1 =>
    rintro ⟨⟩
    exact iff_of_true ⟨by simp, h.kept⟩ trivial
  | case3 fault =>
    rintro ⟨⟩
    refine iff_of_true ⟨?_, h.kept⟩ trivial
    unfold firstRead
    split <;> simp
  | case5 answer present hpc =>
    rintro ⟨⟩
    rw [Call.Inv, hpc] at hcall
    rw [and_iff_left h.kept, Ne, gatewayRead_panics_iff hcall.1]
    cases answer with
    | error err => exact iff_of_true (by simp) trivial
    | ok hostname =>
      unfold Fits
      dsimp only
      rw [hpc]
      cases present with
      | true => simp
      | false => simp [Option.isSome_iff_ne_none]
  | case7 fault left hpc =>
    rintro ⟨⟩
    rw [Call.Inv, hpc] at hcall
    rw [and_iff_left h.kept, Ne, attempt_panics_iff hcall]
    cases fault with
    | some err => exact iff_of_true (by simp) trivial
    | none => simp [Fits, Option.isSome_iff_ne_none]
  | case9 fault | case10 fault =>
    intro _
    have hwrote := wrote_next hnext hcall
    rw [hwrote.keeps_iff hcall h.kept, and_iff_right hwrote.ne_panicked]
    cases fault with
    | some err => exact iff_of_true (fun hfault => by cases hfault) trivial
    | none => exact ⟨fun h => h rfl, fun h _ => h⟩
  | _ => rintro ⟨⟩

/-- Redaction hides the secrets and loses none; and a run of concurrent calls panics nowhere, keeps
    the secrets that its requests have the placeholder for and stores no placeholder, just when
    the requests have storage and the secret is still what the first attempt has read when an
    update succeeds. -/
theorem secrets_kept_iff :
    (∀ st st' : StorageSpec ρ, DifferInSecrets st st' → st.redactSecrets = st'.redactSecrets) ∧
      (∀ st : StorageSpec ρ, st.redactSecrets.unredactSecrets (some st) = .ok st) ∧
      ∀ (env : Env ρ) (object : Option (MonitoringCluster ρ)) (events : List (Nat × CallStep ρ)),
        (run (step env) (State.new object) events).isSome →
          (Always (step env) (SecretsKept (object.bind (·.storage))) (State.new object) events ↔
            Throughout (step env) Fits (State.new object) events) := by
  refine ⟨fun st st' => redactSecrets_eq, unredactSecrets_redactSecrets, ?_⟩
  intro env object events hrun
  obtain ⟨s', hs'⟩ := Option.isSome_iff_exists.mp hrun
  exact always_iff_throughout (fun _ _ _ => inv_step)
    (fun _ _ _ hinv h hstep => secretsKept_step_iff hinv h hstep) (inv_new object)
    ⟨fun _ => by simp [State.new], fun w hw => by simp [State.new] at hw, id⟩ hs'

end Runs

/-! ## A secret that is changed between two attempts -/

def s3Storage (key : String) : StorageSpec Unit :=
  { backend := "s3", s3 := some { secretAccessKey := key, rest := () } }

def changingEnv : Env Unit := ⟨"opni-gateway", fun _ _ => false⟩

def callUntilUpdate (n : Nat) (storage : Option (StorageSpec Unit)) : List (Nat × CallStep Unit) :=
  [(n, .call { storage }), (n, .get none), (n, .gateway (.ok "opni.example")), (n, .read none)]

/-- One call keeps the key, another one changes it in time. -/
theorem secrets_kept_iff_in_turn :
    let object : MonitoringCluster Unit :=
      { resourceVersion := 1, storage := some (s3Storage "old") }
    let events := callUntilUpdate 0 (some (s3Storage redacted)) ++ [(0, .write none)] ++
      callUntilUpdate 1 (some (s3Storage "new")) ++ [(1, .write none)]
    Always (step changingEnv) (SecretsKept (some (s3Storage "old"))) (State.new (some object))
      events := by
  intro object events
  exact (secrets_kept_iff.2.2 changingEnv (some object) events rfl).mpr (by decide +kernel)

/-- The key that a second call has stored is overwritten with the one that the first attempt of
    the first call has read; and a request without storage makes the call panic. -/
theorem changed_secret_lost :
    let object : MonitoringCluster Unit :=
      { resourceVersion := 1, storage := some (s3Storage "old") }
    (∃ s, run (step changingEnv) (State.new (some object))
        (callUntilUpdate 0 (some (s3Storage redacted)) ++
          callUntilUpdate 1 (some (s3Storage "new")) ++
          [(1, .write none), (0, .write none), (0, .read none), (0, .write none)]) = some s ∧
      ∃ w ∈ s.store.writes, secretOf w.request.storage .secretAccessKey = some redacted ∧
        secretOf w.before .secretAccessKey = some "new" ∧
        secretOf w.after .secretAccessKey = some "old") ∧
    ∃ s, run (step changingEnv) (State.new (some object)) (callUntilUpdate 0 none) = some s ∧
      (s.calls 0).pc = .panicked := by
  exact ⟨⟨_, rfl, _, .tail _ (.head _), rfl, rfl, rfl⟩, _, rfl, rfl⟩

end Opni.Metrics.ConfigureCluster
