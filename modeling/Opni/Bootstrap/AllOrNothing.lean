/-
  Opni.Bootstrap.AllOrNothing

  What a call of `ServerV2.Auth` that fails leaves behind.  After
  `CreateCluster` a failure leaves the cluster without a keyring, and the
  client is refused from then on.
-/

import Opni.Bootstrap.AuthRuns

namespace Opni.Bootstrap

open Lib Auth Rbac Lib.Interleave

section Call

variable {lib : BootstrapLib} (call : AuthCall lib) (faults : AuthFaults) (s : Storage)

/-! ## The property -/

def CreatedBy : Prop :=
  call.req.clientId ∉ s.clusters ∧ call.req.clientId ∈ (auth call faults s).1.clusters

/-- A call that fails has not created the cluster, or has stored its keyring. -/
def AllOrNothing : Prop :=
  ∀ err, (auth call faults s).2 = .error err → CreatedBy call faults s →
    Stored call (auth call faults s).1

/-- If the call fails, and the id was free, then the id is not refused afterwards. -/
def NotRefused : Prop :=
  ∀ err, (auth call faults s).2 = .error err → call.req.clientId ∉ s.clusters →
    ∀ retry : AuthCall lib, retry.req.clientId = call.req.clientId →
      ∀ msg, (auth retry {} (auth call faults s).1).2 ≠ failWith .alreadyExists msg

/-! ## The condition -/

/-- The call gets as far as `CreateCluster`. -/
structure Reaches (token : Token) (bootstrapToken : BootstrapToken) (kr : Keyring) : Prop where
  token_eq : call.token = .ok token
  getToken : faults.getToken.read (s.getToken token.hexID) = .ok bootstrapToken
  valid : call.req.validate = .ok ()
  getCluster : ∃ err, faults.getCluster.read (s.getCluster call.req.clientId) = .error err ∧
    err.notFound = true
  keyring : call.keyring = .ok kr

def Creates : Prop :=
  (∃ token bootstrapToken kr, Reaches call faults s token bootstrapToken kr) ∧
    call.req.clientId ∉ s.clusters ∧ faults.createCluster.TakesEffect

/-! ## What a call does -/

variable {call faults s} {token : Token} {bootstrapToken : BootstrapToken} {kr : Keyring}
  {msg : String}

theorem auth_of_reaches (h : Reaches call faults s token bootstrapToken kr) :
    auth call faults s = auth.register call faults token bootstrapToken kr s := by
  obtain ⟨err, hread, hnotFound⟩ := h.getCluster
  unfold auth
  simp only [h.token_eq, h.getToken, h.valid, hread, hnotFound, h.keyring, if_true]

theorem auth_of_not_reaches
    (h : ∀ token bootstrapToken kr, ¬Reaches call faults s token bootstrapToken kr) :
    ∃ err, auth call faults s = (s, .error err) := by
  fun_cases auth call faults s with
  | case7 token htoken bootstrapToken hget hvalid err hread hnotFound kr hkr =>
    exact absurd ⟨htoken, hget, hvalid, ⟨err, hread, hnotFound⟩, hkr⟩ (h _ _ _)
  | _ => exact ⟨_, rfl⟩

theorem Reaches.token_mem (h : Reaches call faults s token bootstrapToken kr) :
    s.tokens.lookup token.hexID = some bootstrapToken := by
  have hget := h.getToken
  unfold Fault.read at hget
  split at hget
  · unfold Storage.getToken at hget
    split at hget
    · cases hget
    next found => rw [found, Except.ok.inj hget]
  · cases hget
  · cases hget

/-- Everything after `CreateCluster` is done. -/
structure AuthFaults.Registers (faults : AuthFaults) : Prop where
  createCluster : faults.createCluster = .ok
  updateToken : faults.updateToken = .ok
  putKeyring : faults.putKeyring.TakesEffect

/-- A call that creates the cluster stores its keyring if the operations after that
    succeed, and fails otherwise. -/
theorem auth_of_creates (h : Reaches call faults s token bootstrapToken kr)
    (hnot : call.req.clientId ∉ s.clusters) (heffect : faults.createCluster.TakesEffect) :
    call.req.clientId ∈ (auth call faults s).1.clusters ∧
      token.hexID ∈ (auth call faults s).1.tokens ∧
      (faults.Registers ∧ Stored call (auth call faults s).1 ∧
          (faults.putKeyring = .ok ↔ ∃ pubKey, (auth call faults s).2 = .ok pubKey) ∨
        ¬faults.Registers ∧ (auth call faults s).1.keyrings = s.keyrings ∧
          ∃ err, (auth call faults s).2 = .error err) := by
  have htoken := h.token_mem
  have hmem : token.hexID ∈ s.tokens := GoMap.mem_iff.mpr ⟨_, htoken⟩
  have hcreate : s.createCluster (newCluster call bootstrapToken) = .ok { s with
      clusters := s.clusters.insert call.req.clientId (newCluster call bootstrapToken) } :=
    if_neg hnot
  have hid : call.req.clientId ∈
      s.clusters.insert call.req.clientId (newCluster call bootstrapToken) :=
    (AList.mem_insert _).mpr (.inl rfl)
  have hcounted : token.hexID ∈
      s.tokens.insert token.hexID (incrementUsageCount bootstrapToken) :=
    (AList.mem_insert _).mpr (.inl rfl)
  rw [auth_of_reaches h]
  unfold auth.register
  cases hf : faults.createCluster with
  | lost err =>
    rw [hf] at heffect
    exact absurd heffect id
  | unacked err =>
    have hregisters : ¬faults.Registers := fun hr => absurd (hf ▸ hr.createCluster) (by simp)
    simp only [Fault.write, hcreate]
    exact ⟨hid, hmem, .inr ⟨hregisters, trivial, _, rfl⟩⟩
  | ok =>
    simp only [Fault.write, hcreate, Storage.updateToken, htoken]
    cases hu : faults.updateToken with
    | lost err =>
      have hregisters : ¬faults.Registers := fun hr => absurd (hu ▸ hr.updateToken) (by simp)
      exact ⟨hid, hmem, .inr ⟨hregisters, rfl, _, rfl⟩⟩
    | unacked err =>
      have hregisters : ¬faults.Registers := fun hr => absurd (hu ▸ hr.updateToken) (by simp)
      exact ⟨hid, hcounted, .inr ⟨hregisters, rfl, _, rfl⟩⟩
    | ok =>
      have hstored : ∀ s' : Storage, Stored call (s'.putKeyring call.req.clientId kr) :=
        fun s' => ⟨kr, h.keyring, AList.lookup_insert _⟩
      cases hp : faults.putKeyring with
      | lost err =>
        have hregisters : ¬faults.Registers := fun hr => (hp ▸ hr.putKeyring :)
        exact ⟨hid, hcounted, .inr ⟨hregisters, rfl, _, rfl⟩⟩
      | unacked err =>
        refine ⟨hid, hcounted, .inl ⟨⟨hf, hu, by rw [hp]; trivial⟩, hstored _, ?_⟩⟩
        simp [failWith]
      | ok =>
        refine ⟨hid, hcounted, .inl ⟨⟨hf, hu, by rw [hp]; trivial⟩, hstored _, ?_⟩⟩
        simp

theorem auth_of_not_creates (h : ¬Creates call faults s) :
    ∃ err, auth call faults s = (s, .error err) := by
  by_cases hreaches : ∃ token bootstrapToken kr, Reaches call faults s token bootstrapToken kr
  · obtain ⟨token, bootstrapToken, kr, hr⟩ := hreaches
    rw [auth_of_reaches hr, auth.register]
    rcases faults.createCluster.write_cases s
      (s.createCluster (newCluster call bootstrapToken)) with
      ⟨s', hok, hf, hwrite⟩ | ⟨err, -, hwrite⟩ | ⟨s', err, hok, heffect, -, hwrite⟩
    · refine absurd ⟨⟨_, _, _, hr⟩, (Storage.createCluster_eq_ok hok).1, ?_⟩ h
      rw [hf]
      trivial
    · rw [hwrite]
      exact ⟨_, rfl⟩
    · exact absurd ⟨⟨_, _, _, hr⟩, (Storage.createCluster_eq_ok hok).1, heffect⟩ h
  · exact auth_of_not_reaches fun token bootstrapToken kr hr => hreaches ⟨_, _, _, hr⟩

/-! ## Which calls leave things in order -/

theorem allOrNothing_iff : AllOrNothing call faults s ↔
    (Creates call faults s → faults.Registers ∨ Stored call s) := by
  apply Iff.intro
  · rintro h ⟨⟨token, bootstrapToken, kr, hr⟩, hnot, heffect⟩
    obtain ⟨hmem, -, ⟨hregisters, -⟩ | ⟨-, hkeyrings, err, herr⟩⟩ := auth_of_creates hr hnot heffect
    · exact .inl hregisters
    · obtain ⟨kr', hkr', hlookup⟩ := h err herr ⟨hnot, hmem⟩
      rw [hkeyrings] at hlookup
      exact .inr ⟨kr', hkr', hlookup⟩
  · intro h err herr hcreated
    by_cases hcreates : Creates call faults s
    · obtain ⟨⟨token, bootstrapToken, kr, hr⟩, hnot, heffect⟩ := hcreates
      obtain ⟨-, -, ⟨-, hstored, -⟩ | ⟨hregisters, hkeyrings, -⟩⟩ := auth_of_creates hr hnot heffect
      · exact hstored
      · obtain ⟨kr', hkr', hlookup⟩ := (h ⟨⟨_, _, _, hr⟩, hnot, heffect⟩).resolve_left hregisters
        exact ⟨kr', hkr', by rw [hkeyrings]; exact hlookup⟩
    · obtain ⟨err', hauth⟩ := auth_of_not_creates hcreates
      have hmem := hcreated.2
      rw [hauth] at hmem
      exact absurd hmem hcreated.1

theorem token_ne_alreadyExists : call.token ≠ .error (.status ⟨.alreadyExists, msg⟩) := by
  unfold AuthCall.token
  split
  · simp [failWith]
  · simp [failWith]
  · split
    · simp [failWith]
    · split
      · simp [failWith]
      · split
        · simp
        · simp

theorem mem_of_refused (h : (auth call {} s).2 = failWith .alreadyExists msg) :
    call.req.clientId ∈ s.clusters := by
  revert h
  fun_cases auth call {} s with
  | case1 err htoken =>
    intro h
    cases h
    exact absurd htoken token_ne_alreadyExists
  | case5 _ _ _ _ _ cluster hcluster =>
    rw [Fault.read, Storage.getCluster] at hcluster
    split at hcluster
    · cases hcluster
    next found => exact fun _ => GoMap.mem_iff.mpr ⟨_, found⟩
  | case7 =>
    fun_cases auth.register <;> simp [failWith]
  | _ => simp [failWith]

theorem refused_of_mem (htoken : call.token = .ok token) (hmem : token.hexID ∈ s.tokens)
    (hvalid : call.req.validate = .ok ()) (hid : call.req.clientId ∈ s.clusters) :
    ∃ msg, (auth call {} s).2 = failWith .alreadyExists msg := by
  obtain ⟨bootstrapToken, hlookup⟩ := GoMap.mem_iff.mp hmem
  obtain ⟨cluster, hcluster⟩ := GoMap.mem_iff.mp hid
  unfold auth
  simp only [htoken, Fault.read, Storage.getToken, hlookup, hvalid, Storage.getCluster, hcluster]
  exact ⟨_, rfl⟩

theorem notRefused_iff : NotRefused call faults s ↔
    (Creates call faults s → faults.Registers ∧ faults.putKeyring = .ok) := by
  apply Iff.intro
  · rintro h ⟨⟨token, bootstrapToken, kr, hr⟩, hnot, heffect⟩
    obtain ⟨hmem, htoken, hcases⟩ := auth_of_creates hr hnot heffect
    -- if the call fails, its client is refused when it tries again
    have hsucceeds : ∀ err, (auth call faults s).2 ≠ .error err := by
      intro err herr
      obtain ⟨msg, hrefused⟩ := refused_of_mem hr.token_eq htoken hr.valid hmem
      exact h err herr hnot call rfl msg hrefused
    rcases hcases with ⟨hregisters, -, hok⟩ | ⟨-, -, err, herr⟩
    · refine ⟨hregisters, hok.mpr ?_⟩
      cases hresult : (auth call faults s).2 with
      | ok pubKey => exact ⟨pubKey, rfl⟩
      | error err => exact absurd hresult (hsucceeds err)
    · exact absurd herr (hsucceeds err)
  · intro h err herr hnot retry hretry msg hrefused
    have hmem := mem_of_refused hrefused
    rw [hretry] at hmem
    by_cases hcreates : Creates call faults s
    · obtain ⟨hregisters, hput⟩ := h hcreates
      obtain ⟨⟨token, bootstrapToken, kr, hr⟩, -, heffect⟩ := hcreates
      obtain ⟨-, -, ⟨-, -, hok⟩ | ⟨hnone, -⟩⟩ := auth_of_creates hr hnot heffect
      · obtain ⟨pubKey, hpub⟩ := hok.mp hput
        rw [herr] at hpub
        cases hpub
      · exact hnone hregisters
    · obtain ⟨err', hauth⟩ := auth_of_not_creates hcreates
      rw [hauth] at hmem
      exact hnot hmem

end Call

/-! ## Runs -/

section Runs

variable {lib : BootstrapLib} {ι : Type} [DecidableEq ι] {calls : ι → AuthCall lib} {s₀ : Storage}
  {events : List (ι × Fault)}

/-- An operation of a call that does not leave its cluster without a keyring: if
    `CreateCluster` takes effect it succeeds, `UpdateToken` succeeds, and `Put` takes
    effect. -/
structure OpOk (calls : ι → AuthCall lib) (c : Config ι Storage AuthState)
    (e : ι × Fault) : Prop where
  create : Creating (calls e.1) e.2 c.shared (c.procs e.1) → e.2 = .ok
  count : ∀ token kr, c.procs e.1 = .created token kr → e.2 = .ok ∧ token.hexID ∈ c.shared.tokens
  put : ∀ kr, c.procs e.1 = .counted kr → e.2.TakesEffect

/-- A call that has created its cluster and has not yet stored its keyring. -/
def AuthState.Registering : AuthState → Prop
  | created .. | counted _ => True
  | _ => False

theorem AuthStep.registers {call : AuthCall lib} {f : Fault} {s s' : Storage} {p p' : AuthState}
    (h : AuthStep call f s p s' p') (hkeys : p.HasKeysOf call)
    (hcreate : Creating call f s p → f = .ok)
    (hcount : ∀ token kr, p = .created token kr → f = .ok ∧ token.hexID ∈ s.tokens)
    (hput : ∀ kr, p = .counted kr → f.TakesEffect) (hp : p.Registering ∨ Creating call f s p) :
    p'.Registering ∨ (∃ result, p' = .returned result) ∧ Stored call s' := by
  cases h with
  | reads hread =>
    rcases hread with rfl | ⟨token, bootstrapToken, rfl⟩
    · simp [AuthState.Registering, Creating] at hp
    · simp [AuthState.Registering, Creating] at hp
  | done => simp [AuthState.Registering, Creating] at hp
  | notCreated err hfails =>
    rcases hp with hp | ⟨-, hnot, heffect⟩
    · exact absurd hp id
    · exact absurd (hfails.resolve_left hnot) (not_not_intro heffect)
  | creates hnot heffect hp' =>
    rcases hp' with ⟨-, rfl⟩ | ⟨hf, -⟩
    · exact .inl trivial
    · exact absurd (hcreate ⟨⟨_, _, _, rfl⟩, hnot, heffect⟩) hf
  | counts _ _ hp' =>
    rcases hp' with rfl | ⟨hfails, -⟩
    · exact .inl trivial
    · exact absurd (hcount _ _ rfl) hfails
  | notPut err hfails => exact absurd (hput _ rfl) hfails
  | puts result => exact .inr ⟨⟨result, rfl⟩, _, hkeys, AList.lookup_insert _⟩

/-- After such operations a call that has created its cluster is about to store its
    keyring, or has returned and its keyring is stored. -/
theorem registering_or_stored
    (hok : Throughout (nextOf calls) (OpOk calls) ⟨s₀, fun _ => .started⟩ events) (i : ι)
    (hcreated : Created calls s₀ events i) :
    ((runAuth calls s₀ events).procs i).Registering ∨
      (∃ result, (runAuth calls s₀ events).procs i = .returned result) ∧
        Stored (calls i) (runAuth calls s₀ events).shared := by
  induction events using List.reverseRecOn with
  | nil => exact absurd hcreated not_happened_nil
  | append_singleton events e ih =>
    obtain ⟨hok, hop⟩ := throughout_concat hok
    have hinv := authInv_run calls s₀ events
    by_cases hi : i = e.1
    · subst hi
      have hstep := authStep_run calls s₀ events e
      rcases created_concat.mp hcreated with hbefore | ⟨-, hcreating⟩
      · rcases ih hok hbefore with hregistering | ⟨⟨result, hreturned⟩, hstored⟩
        · exact hstep.registers (hinv.keys _) hop.create hop.count hop.put (.inl hregistering)
        · -- nothing more happens to a call that has returned
          rw [hreturned] at hstep
          generalize hp' : (runAuth calls s₀ (events ++ [e])).procs e.1 = p' at hstep
          generalize (runAuth calls s₀ (events ++ [e])).shared = s' at hstep ⊢
          cases hstep with
          | reads hread => simp at hread
          | done => exact .inr ⟨⟨result, rfl⟩, hstored⟩
      · exact hstep.registers (hinv.keys _) hop.create hop.count hop.put (.inr hcreating)
    · rw [procs_run_of_ne hi]
      have hbefore : Created calls s₀ events i := by
        rcases created_concat.mp hcreated with hbefore | ⟨rfl, -⟩
        · exact hbefore
        · exact absurd rfl hi
      exact (ih hok hbefore).imp_right fun ⟨hreturned, hstored⟩ =>
        ⟨hreturned, hinv.stored_concat hi hbefore hstored⟩

end Runs

/-- A call fails cleanly unless it creates the cluster and then does not store the
    keyring; its client is refused afterwards exactly if the call has created the
    cluster and failed; and after any run of interleaved calls, in which every
    `CreateCluster` that takes effect succeeds, every `UpdateToken` succeeds and every
    `Put` takes effect, the keyring of every call that has created its cluster and
    returned is stored. -/
theorem auth_allOrNothing (lib : BootstrapLib) :
    (∀ (call : AuthCall lib) (faults : AuthFaults) (s : Storage),
      (AllOrNothing call faults s ↔ (Creates call faults s → faults.Registers ∨ Stored call s)) ∧
      (NotRefused call faults s ↔
        (Creates call faults s → faults.Registers ∧ faults.putKeyring = .ok))) ∧
    ∀ (ι : Type) [DecidableEq ι] (calls : ι → AuthCall lib) (s₀ : Storage)
      (events : List (ι × Fault)),
      Throughout (nextOf calls) (OpOk calls) ⟨s₀, fun _ => .started⟩ events →
      ∀ i result, Created calls s₀ events i →
        (runAuth calls s₀ events).procs i = .returned result →
        Stored (calls i) (runAuth calls s₀ events).shared := by
  refine ⟨fun call faults s => ⟨allOrNothing_iff, notRefused_iff⟩, ?_⟩
  intro ι _ calls s₀ events hok i result hcreated hreturned
  rcases registering_or_stored hok i hcreated with hregistering | ⟨-, hstored⟩
  · rw [hreturned] at hregistering
    exact absurd hregistering id
  · exact hstored

/-- `UpdateToken` fails: the call fails, its cluster is there without a keyring, and
    its client is refused from then on. -/
theorem auth_leaves_cluster_without_keyring :
    ∃ faults : AuthFaults,
      (auth (sampleCall false) faults sampleStorage).2 =
        failWith .internal "error incrementing usage count: timeout" ∧
      "c" ∉ sampleStorage.clusters ∧
      "c" ∈ (auth (sampleCall false) faults sampleStorage).1.clusters ∧
      (auth (sampleCall false) faults sampleStorage).1.keyrings.lookup "c" = none ∧
      ¬AllOrNothing (sampleCall false) faults sampleStorage ∧
      (auth (sampleCall false) {} (auth (sampleCall false) faults sampleStorage).1).2 =
        failWith .alreadyExists "cluster c already exists" := by
  have hnone : (auth (sampleCall false) { updateToken := .lost ⟨false, "timeout"⟩ }
      sampleStorage).1.keyrings.lookup "c" = none := rfl
  refine ⟨{ updateToken := .lost ⟨false, "timeout"⟩ }, rfl, by decide, by decide, hnone, ?_, rfl⟩
  intro h
  obtain ⟨kr, -, hlookup⟩ := h _ rfl ⟨by decide, by decide⟩
  cases hnone.symm.trans hlookup

end Opni.Bootstrap
