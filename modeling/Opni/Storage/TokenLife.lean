/-
  Opni.Storage.TokenLife

  How long a token of the JetStream store lives when it is used
  (`pkg/storage/jetstream/token_store.go`).
-/

import Opni.Storage.Tokens

namespace Opni.Storage

open Lib Lib.OptimisticUpdate

variable {δ : Type}

/-! ## Updates in time -/

/-- How an attempt of `UpdateToken` goes on after its read. -/
inductive UpdateOutcome where
  | writes (writeAt : Int) (bump : Nat)
  | fails (err : String)
  /-- The token has expired, and is deleted. -/
  | collects

/-- An attempt of `UpdateToken`, with its times in nanoseconds.  A call that has to try again
    makes several. -/
structure TimedUpdate (δ : Type) where
  mutator : BootstrapToken δ → BootstrapToken δ
  readAt : Int
  outcome : UpdateOutcome

namespace TimedUpdate

variable (u : TimedUpdate δ)

def choice : Choice Int Int :=
  match u.outcome with
  | .writes writeAt bump => .write (unix writeAt) bump
  | .fails err => .fails err
  | .collects => .collect

def run (entry : Option (Versioned (StampedToken δ))) :
    Option (Versioned (StampedToken δ)) :=
  let read := nextCall (jetStreamUpdateToken u.mutator) (.read (unix u.readAt)) entry (.ready none)
  (nextCall (jetStreamUpdateToken u.mutator) u.choice read.1 read.2).1

/-- The attempt writes in the second in which it has read, and its mutator does not add to the
    time to live. -/
structure Prompt : Prop where
  same_second : ∀ writeAt bump, u.outcome = .writes writeAt bump → unix writeAt ≤ unix u.readAt
  ttl_le : ∀ token, (u.mutator token).ttl ≤ token.ttl

end TimedUpdate

/-- The entry that `CreateToken` makes of a token with a time to live in nanoseconds. -/
def createdEntry (data : δ) (createdAt : Int) (ttl rev : Nat) : Versioned (StampedToken δ) :=
  ⟨⟨{ data := data, leaseID := -1, ttl := (ttl / 1000000000 : Nat) }, unix createdAt⟩, rev⟩

/-! ## Expiry -/

variable {v v' : Versioned (StampedToken δ)} {u : TimedUpdate δ}

theorem readEntry_eq_notFound {now : Int} (h : v.value.expiry ≤ now) :
    JetStreamTokens.readEntry now (some v) = .error .notFound := by
  have httl : (patchTTL now v.value).ttl ≤ 0 := by
    have := @ttl_patchTTL_pos δ now v.value
    omega
  simp only [JetStreamTokens.readEntry, if_pos httl]

/-- An attempt adds to the expiry the seconds between its read and its write, and what the
    mutator adds to the time to live. -/
theorem expiry_run (h : u.run (some v) = some v') :
    v' = v ∨ ∃ writeAt bump token, u.outcome = .writes writeAt bump ∧
      v'.value.expiry = v.value.expiry + (unix writeAt - unix u.readAt) +
        ((u.mutator token).ttl - token.ttl) := by
  simp only [TimedUpdate.run, TimedUpdate.choice, nextCall] at h
  cases hattempt : (jetStreamUpdateToken u.mutator).attempt (unix u.readAt) v with
  | fail err =>
    rw [hattempt] at h
    exact .inl (Option.some.inj h).symm
  | expired err =>
    rw [hattempt] at h
    cases hout : u.outcome with
    | collects => simp [hout] at h
    | writes writeAt bump | fails err =>
      simp only [hout, Option.some.injEq] at h
      exact .inl h.symm
  | write w =>
    rw [hattempt] at h
    cases hout : u.outcome with
    | collects | fails err =>
      simp only [hout, Option.some.injEq] at h
      exact .inl h.symm
    | writes writeAt bump =>
      simp only [hout] at h
      split at h
      · -- the write succeeds
        obtain ⟨httl, version, -, rfl⟩ := jetStreamUpdateToken_write hattempt
        cases h
        have hleft := ttl_patchTTL_of_pos httl
        refine .inr ⟨writeAt, bump, { patchTTL (unix u.readAt) v.value with
          resourceVersion := toString v.rev }, rfl, ?_⟩
        show unix writeAt + (u.mutator _).ttl = _
        dsimp only
        omega
      · exact .inl (Option.some.inj h).symm

theorem expiry_run_le (hu : u.Prompt) (h : u.run (some v) = some v') :
    v'.value.expiry ≤ v.value.expiry := by
  rcases expiry_run h with rfl | ⟨writeAt, bump, token, hout, hexpiry⟩
  · exact le_refl _
  · have hsecond := hu.same_second writeAt bump hout
    have httl := hu.ttl_le token
    omega

theorem exists_of_foldl_run {updates : List (TimedUpdate δ)} (hupdates : ∀ u ∈ updates, u.Prompt)
    {entry : Option (Versioned (StampedToken δ))}
    (h : updates.foldl (fun entry u => u.run entry) entry = some v) :
    ∃ v₀, entry = some v₀ ∧ v.value.expiry ≤ v₀.value.expiry := by
  induction updates generalizing entry with
  | nil => exact ⟨v, h, le_refl _⟩
  | cons u updates ih =>
    obtain ⟨v₁, hrun, hle⟩ := ih (fun u hu => hupdates u (.tail _ hu)) h
    cases entry with
    | none => simp [TimedUpdate.run, TimedUpdate.choice, nextCall] at hrun
    | some v₀ => exact ⟨v₀, rfl, hle.trans (expiry_run_le (hupdates u (by simp)) hrun)⟩

/-- However often a token is updated: if every attempt that writes does so in the second in
    which it has read, and no mutator adds to the time to live, then the token is not found
    any more as soon as the time is over that it was created for. -/
theorem expired_of_prompt (data : δ) (createdAt : Int) (ttl rev : Nat)
    {updates : List (TimedUpdate δ)} (hupdates : ∀ u ∈ updates, u.Prompt) (now : Int)
    (hnow : createdAt + ttl ≤ now) :
    JetStreamTokens.readEntry (unix now) (updates.foldl (fun entry u => u.run entry)
      (some (createdEntry data createdAt ttl rev))) = .error .notFound := by
  cases hentry : updates.foldl (fun entry u => u.run entry)
      (some (createdEntry data createdAt ttl rev)) with
  | none => rfl
  | some v =>
    obtain ⟨v₀, hv₀, hle⟩ := exists_of_foldl_run hupdates hentry
    cases hv₀
    have hcreated : (createdEntry data createdAt ttl rev).value.expiry ≤ unix now := by
      simp only [createdEntry, StampedToken.expiry, unix]
      omega
    exact readEntry_eq_notFound (hle.trans hcreated)

/-- A use of the token, read and written at these times. -/
def useAt (readAt writeAt : Int) : TimedUpdate Nat :=
  ⟨countUse, readAt, .writes writeAt 0⟩

/-- A token for ten seconds is used in its first second, twice. -/
theorem expired_after_prompt_uses :
    JetStreamTokens.readEntry (unix 10000000000)
      ([useAt 100000000 300000000, useAt 700000000 900000000].foldl (fun entry u => u.run entry)
        (some (createdEntry 0 0 10000000000 1))) = .error .notFound := by
  have hprompt : ∀ readAt writeAt, unix writeAt ≤ unix readAt → (useAt readAt writeAt).Prompt := by
    intro readAt writeAt h
    refine ⟨fun writeAt' bump hout => ?_, fun token => le_refl _⟩
    obtain ⟨rfl, -⟩ := UpdateOutcome.writes.inj hout
    exact h
  refine expired_of_prompt 0 0 10000000000 1 ?_ 10000000000 (by decide)
  intro u hu
  simp only [List.mem_cons, List.not_mem_nil, or_false] at hu
  rcases hu with rfl | rfl
  · exact hprompt _ _ (by decide)
  · exact hprompt _ _ (by decide)

/-- A use that is read in one second and written in the next: after the ten seconds the token
    is still there, with one second left. -/
theorem late_write_prolongs :
    JetStreamTokens.readEntry (unix 10000000000)
      ([useAt 900000000 1100000000].foldl (fun entry u => u.run entry)
        (some (createdEntry 0 0 10000000000 1))) =
      .ok { data := 1, leaseID := -1, ttl := 1, resourceVersion := "2" } := rfl

end Opni.Storage
