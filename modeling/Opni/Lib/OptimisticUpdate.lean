/-
  Opni.Lib.OptimisticUpdate

  Optimistic updates of one entry that carries a revision: a call reads the
  entry, computes what to write, and writes it if the revision has not
  changed; otherwise it tries again or gives up.
-/

import Opni.Lib.Interleave

namespace Opni.Lib.OptimisticUpdate

open Lib.Interleave

structure Versioned (β : Type) where
  value : β
  rev : Nat

/-- A conditional write: the revision to compare with, the value to store, which may
    depend on the write, and what the call returns, given the new revision. -/
structure Write (α β κ : Type) where
  expected : Nat
  store : κ → β
  result : Nat → α

inductive Attempt (α β κ : Type) where
  | write (w : Write α β κ)
  | fail (err : String)
  /-- The call fails, and the entry will be deleted. -/
  | expired (err : String)

/-- An update.  `τ` and `κ` are what a read and a write learn from the backend. -/
structure Updater (α β τ κ : Type) where
  attempt : τ → Versioned β → Attempt α β κ
  /-- The error when the entry is not there. -/
  notFound : String
  /-- The error when the read fails. -/
  readErr : String → String
  /-- The error of an attempt that lost the race, after which the call tries again. -/
  conflictErr : String
  /-- After a write that failed: the error to give up with, or the one to remember for
      the next attempt. -/
  onWriteErr : String → Except String String
  /-- The error when the call stops between attempts, given that of the last. -/
  onStop : Option String → Option String

inductive CallState (α β κ : Type) where
  /-- About to read; the last attempt, if any, failed so. -/
  | ready (last : Option String)
  /-- About to write. -/
  | writing (w : Write α β κ)
  /-- Has returned an error, and is about to delete the entry. -/
  | collecting (err : String)
  | returned (result : Except String α)

inductive Choice (τ κ : Type) where
  | read (t : τ)
  /-- The conditional write is carried out; if it succeeds the revision grows by
      `bump + 1`. -/
  | write (k : κ) (bump : Nat)
  | fails (err : String)
  | stop
  | collect

section Run

variable {α β τ κ : Type} (u : Updater α β τ κ)

def retry {α β κ : Type} : Except String String → CallState α β κ
  | .error err => .returned (.error err)
  | .ok last => .ready (some last)

variable (x : Choice τ κ) (entry : Option (Versioned β)) (p : CallState α β κ)

/-- A step of a call.  A choice that does not fit leaves the call where it is. -/
def nextCall :
    Option (Versioned β) × CallState α β κ :=
  match p, x with
  | .ready _, .read t =>
    match entry with
    | none => (none, .returned (.error u.notFound))
    | some v =>
      match u.attempt t v with
      | .write w => (some v, .writing w)
      | .fail err => (some v, .returned (.error err))
      | .expired err => (some v, .collecting err)
  | .ready _, .fails err => (entry, .returned (.error (u.readErr err)))
  | .ready last, .stop =>
    match u.onStop last with
    | some err => (entry, .returned (.error err))
    | none => (entry, .ready last)
  | .writing w, .write k bump =>
    match entry with
    | some v =>
      if v.rev = w.expected then
        (some ⟨w.store k, v.rev + bump + 1⟩, .returned (.ok (w.result (v.rev + bump + 1))))
      else (some v, .ready (some u.conflictErr))
    | none => (none, .ready (some u.conflictErr))
  | .writing _, .fails err => (entry, retry (u.onWriteErr err))
  | .collecting err, .collect => (none, .returned (.error err))
  | p, _ => (entry, p)

/-! ## Updates one after the other -/

/-- An update that nothing comes between: what it makes of the entry, and what it
    returns. -/
def Applies (v v' : Versioned β) (r : α) : Prop :=
  ∃ t k w, u.attempt t v = .write w ∧ v'.value = w.store k ∧ v.rev < v'.rev ∧ r = w.result v'.rev

/-- Updates one after the other, with what each returns; `R i` relates the versions
    before and after update `i` with its result. -/
inductive Serial {ι : Type} (R : ι → Versioned β → Versioned β → α → Prop) (v₀ : Versioned β) :
    List (ι × α) → Versioned β → Prop
  | nil : Serial R v₀ [] v₀
  | concat {l v v' i r} : Serial R v₀ l v → R i v v' r → Serial R v₀ (l ++ [(i, r)]) v'

theorem Serial.mono {ι : Type} {R R' : ι → Versioned β → Versioned β → α → Prop}
    {v₀ v : Versioned β} {l : List (ι × α)} (h : Serial R v₀ l v)
    (hR : ∀ i v v' r, R i v v' r → R' i v v' r) : Serial R' v₀ l v := by
  induction h with
  | nil => exact .nil
  | concat _ hstep ih => exact ih.concat (hR _ _ _ _ hstep)

/-- The update compares with the revision that it has read. -/
def Updater.Lawful (u : Updater α β τ κ) : Prop :=
  ∀ t v w, u.attempt t v = .write w → w.expected = v.rev

/-! ## One step -/

def FindsExpired : Prop :=
  (∃ last, p = .ready last) ∧ ∃ t v err, x = .read t ∧ entry = some v ∧
    u.attempt t v = .expired err

/-- What a step of a call can do to the entry and to the call. -/
inductive CallStep (x : Choice τ κ) (entry : Option (Versioned β)) :
    CallState α β κ → Option (Versioned β) → CallState α β κ → Prop
  /-- The call waits, tries again or fails. -/
  | stays {p p'} : (∀ r, p ≠ .returned (.ok r)) → (∀ r, p' ≠ .returned (.ok r)) →
      (∀ w, p' = .writing w → p' = p) → (∀ err, p' = .collecting err → p' = p) →
      CallStep x entry p entry p'
  | done {result} : CallStep x entry (.returned result) entry (.returned result)
  /-- The call has read the entry. -/
  | reads {last v t w} : entry = some v → u.attempt t v = .write w →
      CallStep x entry (.ready last) entry (.writing w)
  | expires {p err} : FindsExpired u x entry p → CallStep x entry p entry (.collecting err)
  /-- The write succeeds. -/
  | writes {w v} (k bump) : entry = some v → v.rev = w.expected →
      CallStep x entry (.writing w) (some ⟨w.store k, v.rev + bump + 1⟩)
        (.returned (.ok (w.result (v.rev + bump + 1))))
  | collects {err} : CallStep x entry (.collecting err) none (.returned (.error err))

theorem callStep_nextCall :
    CallStep u x entry p (nextCall u x entry p).1 (nextCall u x entry p).2 := by
  -- a call that has tried in vain
  have hretry : ∀ w r, CallStep u x entry (.writing w) entry (retry r) := by
    intro w r
    cases r with
    | error err | ok last =>
      exact .stays (by simp) (by simp [retry]) (by simp [retry]) (by simp [retry])
  -- a choice that does not fit
  have hwait : (∀ r, p ≠ .returned (.ok r)) → CallStep u x entry p entry p :=
    fun h => .stays h h (fun _ _ => rfl) fun _ _ => rfl
  fun_cases nextCall u x entry p with
  | case2 last t v w hattempt => exact .reads rfl hattempt
  | case4 last t v err hattempt => exact .expires ⟨⟨_, rfl⟩, t, v, err, rfl, rfl, hattempt⟩
  | case7 => exact hwait (by simp)
  | case8 w k bump v hrev => exact .writes k bump rfl hrev
  | case9 w | case10 w => exact hretry w (.ok u.conflictErr)
  | case11 => exact hretry _ _
  | case12 => exact .collects
  | case13 =>
    cases p with
    | returned result => exact .done
    | _ => exact hwait (by simp)
  | _ => exact .stays (by simp) (by simp) (by simp) (by simp)

end Run

/-! ## Runs -/

section Runs

variable {α β τ κ ι : Type} [DecidableEq ι] (us : ι → Updater α β τ κ) (v₀ : Versioned β)
  (events : List (ι × Choice τ κ))

def runUpdates :
    Config ι (Option (Versioned β)) (CallState α β κ) :=
  run (fun i => nextCall (us i)) ⟨some v₀, fun _ => .ready none⟩ events

def Expired : Prop :=
  ∃ i, Happened (fun i => nextCall (us i))
    (fun c e => FindsExpired (us e.1) e.2 c.shared (c.procs e.1))
    ⟨some v₀, fun _ => .ready none⟩ events i

theorem callStep_run (e : ι × Choice τ κ) :
    CallStep (us e.1) e.2 (runUpdates us v₀ events).shared ((runUpdates us v₀ events).procs e.1)
      (runUpdates us v₀ (events ++ [e])).shared
      ((runUpdates us v₀ (events ++ [e])).procs e.1) := by
  rw [runUpdates, runUpdates, run_concat, procs_step_self]
  exact callStep_nextCall ..

variable {us v₀} {events : List (ι × Choice τ κ)} {e : ι × Choice τ κ}

theorem procs_runUpdates_of_ne {j : ι} (h : j ≠ e.1) :
    (runUpdates us v₀ (events ++ [e])).procs j = (runUpdates us v₀ events).procs j := by
  rw [runUpdates, run_concat]
  exact procs_step_of_ne _ _ _ h

theorem expired_concat : Expired us v₀ (events ++ [e]) ↔
    Expired us v₀ events ∨
      FindsExpired (us e.1) e.2 (runUpdates us v₀ events).shared
        ((runUpdates us v₀ events).procs e.1) := by
  unfold Expired
  simp only [happened_concat, exists_or]
  apply or_congr_right
  exact ⟨fun ⟨_, _, h⟩ => h, fun h => ⟨e.1, rfl, h⟩⟩

/-- The entry is what the successful calls have made of it, in the order `l`; a call
    that is about to write has read a version that is either the present one or has
    an older revision. -/
structure SerialInv (us : ι → Updater α β τ κ) (v₀ : Versioned β) (events : List (ι × Choice τ κ))
    (l : List (ι × α)) (v : Versioned β) : Prop where
  serial : Serial (fun i => Applies (us i)) v₀ l v
  nodup : (l.map (·.1)).Nodup
  success : ∀ i r, (runUpdates us v₀ events).procs i = .returned (.ok r) ↔ (i, r) ∈ l
  entry : (runUpdates us v₀ events).shared = some v ∨
    (runUpdates us v₀ events).shared = none ∧ Expired us v₀ events
  collecting : ∀ i err, (runUpdates us v₀ events).procs i = .collecting err → Expired us v₀ events
  writing : ∀ i w, (runUpdates us v₀ events).procs i = .writing w → ∃ t v',
    (us i).attempt t v' = .write w ∧ v'.rev ≤ v.rev ∧ (v'.rev = v.rev → v' = v)

variable {l : List (ι × α)} {v : Versioned β}

section

variable (h : SerialInv us v₀ events l v) {e : ι × Choice τ κ}

include h

theorem SerialInv.keep
    (hentry : (runUpdates us v₀ (events ++ [e])).shared = (runUpdates us v₀ events).shared ∨
      (runUpdates us v₀ (events ++ [e])).shared = none ∧ Expired us v₀ (events ++ [e]))
    (hsuccess : ∀ r, (runUpdates us v₀ (events ++ [e])).procs e.1 = .returned (.ok r) ↔
      (runUpdates us v₀ events).procs e.1 = .returned (.ok r))
    (hcollecting : ∀ err, (runUpdates us v₀ (events ++ [e])).procs e.1 = .collecting err →
      Expired us v₀ (events ++ [e]))
    (hwriting : ∀ w, (runUpdates us v₀ (events ++ [e])).procs e.1 = .writing w →
      ∃ t v', (us e.1).attempt t v' = .write w ∧ v'.rev ≤ v.rev ∧ (v'.rev = v.rev → v' = v)) :
    SerialInv us v₀ (events ++ [e]) l v := by
  have hexpired : Expired us v₀ events → Expired us v₀ (events ++ [e]) :=
    fun hbefore => expired_concat.mpr (.inl hbefore)
  refine ⟨h.serial, h.nodup, ?_, ?_, ?_, ?_⟩
  · intro i r
    by_cases hi : i = e.1
    · rw [hi, hsuccess r]
      exact h.success e.1 r
    · rw [procs_runUpdates_of_ne hi]
      exact h.success i r
  · rcases hentry with hsame | hnone
    · rw [hsame]
      exact h.entry.imp_right fun ⟨hnone, hbefore⟩ => ⟨hnone, hexpired hbefore⟩
    · exact .inr hnone
  · intro i err hi'
    by_cases hi : i = e.1
    · rw [hi] at hi'
      exact hcollecting err hi'
    · rw [procs_runUpdates_of_ne hi] at hi'
      exact hexpired (h.collecting i err hi')
  · intro i w hi'
    by_cases hi : i = e.1
    · subst hi
      exact hwriting w hi'
    · rw [procs_runUpdates_of_ne hi] at hi'
      exact h.writing i w hi'

/-- A write that succeeds has read the present version. -/
theorem SerialInv.write (hlawful : ∀ i, (us i).Lawful) {w : Write α β κ} {v' : Versioned β} {k : κ}
    {bump : Nat} (hbefore : (runUpdates us v₀ events).procs e.1 = .writing w)
    (hsome : (runUpdates us v₀ events).shared = some v') (hrev : v'.rev = w.expected)
    (hentry : (runUpdates us v₀ (events ++ [e])).shared = some ⟨w.store k, v'.rev + bump + 1⟩)
    (hafter : (runUpdates us v₀ (events ++ [e])).procs e.1 =
      .returned (.ok (w.result (v'.rev + bump + 1)))) :
    SerialInv us v₀ (events ++ [e]) (l ++ [(e.1, w.result (v'.rev + bump + 1))])
      ⟨w.store k, v'.rev + bump + 1⟩ := by
  obtain rfl : v' = v := by
    rcases h.entry with hv | ⟨hnone, -⟩
    · exact Option.some.inj (hsome.symm.trans hv)
    · cases hsome.symm.trans hnone
  obtain ⟨t, read, hattempt, -, hpresent⟩ := h.writing e.1 w hbefore
  obtain rfl : read = v' := hpresent ((hlawful e.1 t read w hattempt).symm.trans hrev.symm)
  -- the call has not succeeded before
  have hnew : ∀ r, (e.1, r) ∉ l := by
    intro r hmem
    have hdone := (h.success e.1 r).mpr hmem
    cases hbefore.symm.trans hdone
  refine ⟨h.serial.concat ⟨t, k, w, hattempt, rfl, ?_, rfl⟩, ?_, ?_, .inl hentry, ?_, ?_⟩
  · show read.rev < read.rev + bump + 1
    omega
  · rw [List.map_append, List.map_singleton, List.nodup_append]
    refine ⟨h.nodup, List.pairwise_singleton _ _, ?_⟩
    intro i hi j hj heq
    obtain ⟨⟨i', r⟩, hmem, rfl⟩ := List.mem_map.mp hi
    rw [List.mem_singleton.mp hj] at heq
    exact hnew r (heq ▸ hmem)
  · intro i r
    rw [List.mem_append, List.mem_singleton]
    by_cases hi : i = e.1
    · subst hi
      rw [hafter]
      simp only [CallState.returned.injEq, Except.ok.injEq, Prod.mk.injEq, true_and]
      exact ⟨fun heq => .inr heq.symm, fun hr => (hr.resolve_left (hnew r)).symm⟩
    · rw [procs_runUpdates_of_ne hi, h.success i r]
      exact ⟨.inl, fun hr => hr.resolve_right fun heq => hi (Prod.mk.inj heq).1⟩
  · intro i err hi'
    by_cases hi : i = e.1
    · subst hi
      cases hafter.symm.trans hi'
    · rw [procs_runUpdates_of_ne hi] at hi'
      exact expired_concat.mpr (.inl (h.collecting i err hi'))
  · intro i w' hi'
    by_cases hi : i = e.1
    · subst hi
      cases hafter.symm.trans hi'
    · rw [procs_runUpdates_of_ne hi] at hi'
      obtain ⟨t', v'', hattempt', hle, -⟩ := h.writing i w' hi'
      refine ⟨t', v'', hattempt', ?_, ?_⟩
      · show v''.rev ≤ read.rev + bump + 1
        omega
      · intro heq
        have heq' : v''.rev = read.rev + bump + 1 := heq
        omega

end

theorem serialInv_nil (us : ι → Updater α β τ κ) (v₀ : Versioned β) : SerialInv us v₀ [] [] v₀ := by
  refine ⟨.nil, List.nodup_nil, ?_, .inl rfl, ?_, ?_⟩
  · exact fun i r => ⟨fun h => absurd h (by simp [runUpdates]), nofun⟩
  · exact fun i err h => absurd h (by simp [runUpdates])
  · exact fun i w h => absurd h (by simp [runUpdates])

/-- One step: it extends the serial history if it stores an entry, and keeps it
    otherwise. -/
theorem SerialInv.step (h : SerialInv us v₀ events l v) (hlawful : ∀ i, (us i).Lawful)
    (e : ι × Choice τ κ) : ∃ l' v', SerialInv us v₀ (events ++ [e]) l' v' := by
  have hstep := callStep_run us v₀ events e
  generalize hp : (runUpdates us v₀ events).procs e.1 = p at hstep
  generalize hp' : (runUpdates us v₀ (events ++ [e])).procs e.1 = p' at hstep
  generalize hentry' : (runUpdates us v₀ (events ++ [e])).shared = entry' at hstep
  cases hstep with
  | stays hold hnew hwriting hcollecting =>
    refine ⟨l, v, h.keep (.inl hentry') ?_ ?_ ?_⟩
    · intro r
      rw [hp, hp']
      exact iff_of_false (hnew r) (hold r)
    · intro err herr
      rw [hp'] at herr
      rw [← hp, herr] at hcollecting
      exact expired_concat.mpr (.inl (h.collecting e.1 err (hcollecting err rfl).symm))
    · intro w hw
      rw [hp'] at hw
      rw [← hp, hw] at hwriting
      exact h.writing e.1 w (hwriting w rfl).symm
  | done =>
    refine ⟨l, v, h.keep (.inl hentry') ?_ ?_ ?_⟩
    · intro r
      rw [hp, hp']
    · intro err herr
      cases hp'.symm.trans herr
    · intro w hw
      cases hp'.symm.trans hw
  | reads hsome hattempt =>
    refine ⟨l, v, h.keep (.inl hentry') ?_ ?_ ?_⟩
    · intro r
      rw [hp, hp']
      exact iff_of_false (by simp) (by simp)
    · intro err herr
      cases hp'.symm.trans herr
    · intro w hw
      have hsame := hp'.symm.trans hw
      simp only [CallState.writing.injEq] at hsame
      obtain rfl := hsame
      rcases h.entry with hv | ⟨hnone, -⟩
      · obtain rfl := Option.some.inj (hsome.symm.trans hv)
        exact ⟨_, _, hattempt, le_rfl, fun _ => rfl⟩
      · cases hsome.symm.trans hnone
  | expires hfinds =>
    have hexpired : Expired us v₀ (events ++ [e]) := by
      rw [expired_concat, hp]
      exact .inr hfinds
    refine ⟨l, v, h.keep (.inl hentry') ?_ (fun _ _ => hexpired) ?_⟩
    · intro r
      obtain ⟨⟨last, rfl⟩, -⟩ := hfinds
      rw [hp, hp']
      exact iff_of_false (by simp) (by simp)
    · intro w hw
      cases hp'.symm.trans hw
  | writes k bump hsome hrev =>
    exact ⟨_, _, h.write hlawful hp hsome hrev hentry' hp'⟩
  | collects =>
    have hexpired : Expired us v₀ (events ++ [e]) :=
      expired_concat.mpr (.inl (h.collecting e.1 _ hp))
    refine ⟨l, v, h.keep (.inr ⟨hentry', hexpired⟩) ?_ (fun _ _ => hexpired) ?_⟩
    · intro r
      rw [hp, hp']
      exact iff_of_false (by simp) (by simp)
    · intro w hw
      cases hp'.symm.trans hw

theorem run_serial (hlawful : ∀ i, (us i).Lawful) (v₀ : Versioned β)
    (events : List (ι × Choice τ κ)) : ∃ l v, SerialInv us v₀ events l v := by
  induction events using List.reverseRecOn with
  | nil => exact ⟨[], v₀, serialInv_nil us v₀⟩
  | append_singleton events e ih =>
    obtain ⟨l, v, h⟩ := ih
    exact h.step hlawful e

/-- No update is lost: the entry is what the updates of the calls that have succeeded
    make of the first version, one after the other and each once, and each of these
    calls returns the result of its own update.  `R i` says what update `i` does. -/
def NoLostUpdates (us : ι → Updater α β τ κ) (R : ι → Versioned β → Versioned β → α → Prop)
    (v₀ : Versioned β) (events : List (ι × Choice τ κ)) : Prop :=
  ∃ l v, Serial R v₀ l v ∧ (l.map (·.1)).Nodup ∧
    (∀ i r, (runUpdates us v₀ events).procs i = .returned (.ok r) ↔ (i, r) ∈ l) ∧
    (runUpdates us v₀ events).shared = some v

theorem noLostUpdates {us : ι → Updater α β τ κ} {R : ι → Versioned β → Versioned β → α → Prop}
    (hlawful : ∀ i, (us i).Lawful) (hR : ∀ i v v' r, Applies (us i) v v' r → R i v v' r)
    {v₀ : Versioned β} (hexpired : ¬Expired us v₀ events) : NoLostUpdates us R v₀ events := by
  obtain ⟨l, v, h⟩ := run_serial hlawful v₀ events
  refine ⟨l, v, h.serial.mono hR, h.nodup, h.success, ?_⟩
  exact h.entry.resolve_right fun hnone => hexpired hnone.2

theorem not_expired {us : ι → Updater α β τ κ} (h : ∀ i t v err, (us i).attempt t v ≠ .expired err)
    (v₀ : Versioned β) (events : List (ι × Choice τ κ)) : ¬Expired us v₀ events := by
  rintro ⟨i, before, x, -, -, t, v, err, -, -, hattempt⟩
  exact h i t v err hattempt

end Runs

end Opni.Lib.OptimisticUpdate
