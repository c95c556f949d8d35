/-
  Opni.Alerting.AlarmStorage

  What the alarm stores keep for one condition: its last known state
  (`JetStreamAlertingStateCache`) and its incidents
  (`JetStreamAlertingIncidentTracker`), from
  `pkg/alerting/storage/jetstream/jetstream.go`.
-/

import Opni.Alerting.Config
import Mathlib.Data.List.DropRight
import Mathlib.Data.List.Infix

namespace Opni.Alerting

/-- A point in time, in nanoseconds after the Unix epoch. -/
abbrev Timestamp := Int

/-- The largest `time.Duration`. -/
def maxDuration : Duration := 2 ^ 63 - 1

/-- The smallest `time.Duration`. -/
def minDuration : Duration := -2 ^ 63

/-- `Time.Sub`, which saturates. -/
def timeSub (t u : Timestamp) : Duration := max minDuration (min maxDuration (t - u))

/-! ## The state cache -/

structure CachedState where
  healthy : Bool
  firing : Bool
  timestamp : Timestamp
deriving DecidableEq

namespace CachedState

/-- `IsEquivalent`: the timestamps are not compared. -/
def isEquivalent (c other : CachedState) : Bool :=
  c.healthy == other.healthy && c.firing == other.firing

/-- `DefaultCachedState`. -/
def default (now : Timestamp) : CachedState where
  healthy := true
  firing := false
  timestamp := now

variable (persisted : Option CachedState) (incoming : CachedState)

def isDiff : Bool :=
  match persisted with
  | none => true
  | some persisted => !persisted.isEquivalent incoming

/-- `Put` of the state cache.  An equivalent state only replaces a later one. -/
def put : Option CachedState :=
  if isDiff persisted incoming then some incoming
  else match persisted with
    | none => persisted
    -- the earliest timestamp of a run of equivalent states is kept
    | some last => if last.timestamp > incoming.timestamp then some incoming else persisted

theorem put_of_isDiff {persisted : Option CachedState} {incoming : CachedState}
    (h : isDiff persisted incoming = true) : put persisted incoming = some incoming := by
  unfold put
  rw [if_pos h]

theorem isEquivalent_iff {c other : CachedState} :
    c.isEquivalent other = true ↔ c.healthy = other.healthy ∧ c.firing = other.firing := by
  simp [isEquivalent]

/-- After any calls of `Put` for a key, the stored pair is that of the last one, and the timestamp
    is the earliest of the longest run of calls with that pair at the end. -/
theorem put_keeps_last_change (puts : List CachedState) (last : CachedState) :
    ∃ state, (puts ++ [last]).foldl put none = some state ∧
      state.healthy = last.healthy ∧ state.firing = last.firing ∧
      (((puts ++ [last]).rtakeWhile (·.isEquivalent last)).map (·.timestamp)).min? =
        some state.timestamp := by
  have hself : last.isEquivalent last = true := isEquivalent_iff.mpr ⟨rfl, rfl⟩
  rw [List.rtakeWhile_concat_pos (·.isEquivalent last) puts last hself, List.foldl_concat]
  -- the induction is on the calls before the last one
  induction puts using List.reverseRecOn generalizing last with
  | nil => exact ⟨last, rfl, rfl, rfl, rfl⟩
  | append_singleton puts prev ih =>
    have hprev : prev.isEquivalent prev = true := isEquivalent_iff.mpr ⟨rfl, rfl⟩
    obtain ⟨state, hstate, hhealthy, hfiring, hmin⟩ := ih prev hprev
    rw [List.foldl_concat, hstate]
    have hpair : state.isEquivalent last = prev.isEquivalent last := by
      rw [isEquivalent, isEquivalent, hhealthy, hfiring]
    cases hsame : prev.isEquivalent last with
    | false =>
      -- a new pair is stored as it comes, and starts a run
      rw [put_of_isDiff (by simp [isDiff, hpair, hsame]),
        List.rtakeWhile_concat_neg (·.isEquivalent last) puts prev (by simp [hsame])]
      exact ⟨last, rfl, rfl, rfl, rfl⟩
    | true =>
      obtain ⟨hh, hf⟩ := isEquivalent_iff.mp hsame
      have hrun : (fun c : CachedState => c.isEquivalent last) = (·.isEquivalent prev) := by
        funext c
        rw [isEquivalent, isEquivalent, hh, hf]
      rw [hrun, List.rtakeWhile_concat_pos (·.isEquivalent prev) puts prev hprev]
      obtain ⟨hmem, hle⟩ := List.min?_eq_some_iff.mp hmin
      rw [put, if_neg (by simp [isDiff, hpair, hsame])]
      split
      next hlater =>
        refine ⟨last, rfl, rfl, rfl, List.min?_eq_some_iff.mpr ⟨by simp, fun t ht => ?_⟩⟩
        rw [List.map_append, List.mem_append] at ht
        rcases ht with ht | ht
        · exact (le_of_lt hlater).trans (hle t ht)
        · exact (List.mem_singleton.mp ht).ge
      next hearlier =>
        refine ⟨state, rfl, hhealthy.trans hh, hfiring.trans hf, List.min?_eq_some_iff.mpr
          ⟨?_, fun t ht => ?_⟩⟩
        · rw [List.map_append]
          exact List.mem_append_left _ hmem
        · rw [List.map_append, List.mem_append] at ht
          rcases ht with ht | ht
          · exact hle t ht
          · rw [List.mem_singleton.mp ht]
            exact not_lt.mp hearlier

end CachedState

/-! ## The incident tracker -/

structure Interval where
  startAt : Option Timestamp
  endAt : Option Timestamp
deriving DecidableEq

abbrev IncidentIntervals := List Interval

namespace IncidentIntervals

/-- The loop of `Prune`: how many intervals to drop, and the intervals with the
    starts it moves. -/
def pruneLoop (limit : Timestamp) : IncidentIntervals → Nat × IncidentIntervals
  | [] => (0, [])
  | interval :: items =>
    if interval.startAt.getD 0 < limit then
      let rest := pruneLoop limit items
      match interval.endAt with
      -- an open interval is neither counted nor does it end the loop
      | none => (rest.1, interval :: rest.2)
      | some tEnd =>
        if tEnd < limit then (rest.1 + 1, interval :: rest.2)
        else (rest.1, { interval with startAt := some (limit + minute) } :: rest.2)
    else (0, interval :: items)

variable (ttl : Duration)

def prune (now : Timestamp) (items : IncidentIntervals) : IncidentIntervals :=
  (pruneLoop (now - ttl) items).2.drop (pruneLoop (now - ttl) items).1

/-- What `OpenInterval` does to the items before it prunes them. -/
def opened (start : Timestamp) (items : IncidentIntervals) : IncidentIntervals :=
  match items.getLast? with
  | none => [⟨some start, none⟩]
  | some last =>
    match last.startAt with
    | none => items.dropLast ++ [{ last with startAt := some start }]
    -- the last interval is ended by the new one, whether it was open or not
    | some _ => items.dropLast ++ [{ last with endAt := some start }, ⟨some start, none⟩]

/-- What `CloseInterval` does to the items before it prunes them. -/
def closed (finish : Timestamp) (items : IncidentIntervals) : IncidentIntervals :=
  match items.getLast? with
  | none => [⟨some finish, some finish⟩]
  | some last =>
    match last.startAt with
    | none => items.dropLast ++ [⟨some finish, some finish⟩]
    | some _ => items.dropLast ++ [{ last with endAt := some finish }]

def openInterval (now start : Timestamp) (entry : Option IncidentIntervals) :
    Option IncidentIntervals :=
  some (prune ttl now (opened start (entry.getD [])))

def closeInterval (now finish : Timestamp) (entry : Option IncidentIntervals) :
    Option IncidentIntervals :=
  some (prune ttl now (closed finish (entry.getD [])))

/-! ## Open intervals -/

variable (items : IncidentIntervals)

def Ended : Prop := ∀ i ∈ items, i.endAt.isSome

def OnlyLastOpen : Prop := Ended items.dropLast

instance : Decidable items.Ended :=
  inferInstanceAs (Decidable (∀ i ∈ items, _))

variable {items : IncidentIntervals} {ttl : Duration} {now : Timestamp}

theorem Ended.onlyLastOpen (h : items.Ended) : items.OnlyLastOpen :=
  fun i hi => h i (List.mem_of_mem_dropLast hi)

theorem map_endAt_pruneLoop (limit : Timestamp) (items : IncidentIntervals) :
    (pruneLoop limit items).2.map (·.endAt) = items.map (·.endAt) := by
  induction items with
  | nil => rfl
  | cons interval items ih =>
    rw [pruneLoop]
    split
    · split
      · rw [List.map_cons, ih, List.map_cons]
      next =>
        split
        · rw [List.map_cons, ih, List.map_cons]
        · rw [List.map_cons, ih, List.map_cons]
    · rfl

theorem ended_iff : items.Ended ↔ ∀ e ∈ items.map (·.endAt), e.isSome := by
  rw [Ended, List.forall_mem_map]

theorem ended_prune (h : items.Ended) : (prune ttl now items).Ended := by
  rw [ended_iff, prune, List.map_drop, map_endAt_pruneLoop]
  exact fun e he => ended_iff.mp h e (List.mem_of_mem_drop he)

theorem onlyLastOpen_prune (h : items.OnlyLastOpen) : (prune ttl now items).OnlyLastOpen := by
  have hends : ∀ e ∈ (items.map (·.endAt)).dropLast, e.isSome := by
    rw [← List.map_dropLast]
    exact ended_iff.mp h
  -- dropping from the front commutes with leaving out the last one
  rw [OnlyLastOpen, ended_iff, List.map_dropLast, prune, List.map_drop, map_endAt_pruneLoop,
    List.dropLast_drop_eq_drop_dropLast]
  exact fun e he => hends e (List.mem_of_mem_drop he)

theorem onlyLastOpen_opened {start : Timestamp}
    (h : items.OnlyLastOpen) : (opened start items).OnlyLastOpen := by
  unfold opened
  split
  · exact fun i hi => absurd hi (by simp)
  next =>
    split
    · rw [OnlyLastOpen, List.dropLast_concat]
      exact h
    · intro i hi
      rw [List.dropLast_append_of_ne_nil (by simp), List.mem_append] at hi
      rcases hi with hi | hi
      · exact h i hi
      · rw [List.mem_singleton.mp hi]
        rfl

theorem ended_closed {finish : Timestamp} (h : items.OnlyLastOpen) :
    (closed finish items).Ended := by
  have happend : ∀ i : Interval, i.endAt.isSome → Ended (items.dropLast ++ [i]) := by
    intro i hi j hj
    rcases List.mem_append.mp hj with hj | hj
    · exact h j hj
    · rw [List.mem_singleton.mp hj]
      exact hi
  unfold closed
  split
  · exact fun i hi => by rw [List.mem_singleton.mp hi]; rfl
  · split
    · exact happend _ rfl
    · exact happend _ rfl

end IncidentIntervals

end Opni.Alerting
