/-
  Opni.Metrics.Import

  The import of metrics from a remote read endpoint, the task runner of the
  agent (`plugins/metrics/pkg/agent/runner.go`; `pkg/clients/locker.go`).
-/

import Mathlib.Algebra.Order.Ring.Int
import Opni.Task.Controller

namespace Opni.Metrics

open Opni.Task

/-! ## The remote side -/

structure Query where
  start : Int
  finish : Int
  start_ge : -2 ^ 63 ≤ start
  finish_lt : finish < 2 ^ 63
  start_lt : start < finish

inductive PushOutcome where
  | pushed
  | failed (err : String)
  /-- The client is closed, and `Use` returns false. -/
  | closed
deriving DecidableEq

variable (α : Type)

/-- The answers to the reads and to the pushes, by their numbers: a read is of a window, and a
    push is of one of its results. -/
structure Remote where
  read : Nat → Except String (List (List α))
  push : Nat → Nat → PushOutcome
  /-- `proto.Marshal` of a write request. -/
  marshal : List α → Except String (List UInt8)
  /-- `snappy.Encode`. -/
  encode : List UInt8 → List UInt8

structure Attempt where
  window : Nat
  result : Nat
  series : List α
  outcome : PushOutcome
deriving DecidableEq

/-- What has been done, and what is returned; nothing is returned by a loop that is still
    running. -/
structure ImportRun where
  windows : List (Int × Int) := []
  attempts : List (Attempt α) := []
  /-- The calls of `SetProgress` and `AddLogEntry`. -/
  calls : List TaskChoice := []
  result : Option RunnerReturn

def ImportRun.prepend {α : Type} (windows : List (Int × Int)) (attempts : List (Attempt α))
    (calls : List TaskChoice) (run : ImportRun α) : ImportRun α :=
  { windows := windows ++ run.windows
    attempts := attempts ++ run.attempts
    calls := calls ++ run.calls
    result := run.result }

theorem ImportRun.prepend_prepend {α : Type} (run : ImportRun α)
    (windows windows' : List (Int × Int)) (attempts attempts' : List (Attempt α))
    (calls calls' : List TaskChoice) :
    (run.prepend windows attempts calls).prepend windows' attempts' calls' =
      run.prepend (windows' ++ windows) (attempts' ++ attempts) (calls' ++ calls) := by
  simp only [prepend, List.append_assoc]

/-! ## The loop -/

def timeDeltaMillis : Int := 60000

def int64 (x : Int) : Int := x.bmod (2 ^ 64)

def uint64 (x : Int) : Nat := (x % 2 ^ 64).toNat

def debugLevel : Int := -1

def errorLevel : Int := 2

section Loop

variable {α : Type} (remote : Remote α) (total : Nat)

def stop (msg : String) : ImportRun α :=
  { calls := [.addLogEntry errorLevel msg], result := some (.other msg) }

def pushLog (payload : List UInt8) : PushOutcome → List TaskChoice
  | .pushed =>
    [.addLogEntry debugLevel ("pushed " ++ toString payload.length ++ " bytes to remote write")]
  | .failed err => [.addLogEntry errorLevel ("failed to push to remote write: " ++ err)]
  | .closed => []

/-- The results of window `k`, from result `j` on; `rest` is done after them. -/
def pushResults (k : Nat) (nextEnd : Int) :
    Nat → List (List α) → ImportRun α → ImportRun α
  | _, [], rest => rest
  | j, result :: results, rest =>
    if result.isEmpty then pushResults k nextEnd (j + 1) results rest
    else match remote.marshal result with
      | .error err => stop ("failed to uncompress data from target endpoint: " ++ err)
      | .ok uncompressed =>
        -- whatever comes of the push, the progress is set and the loop goes on
        (pushResults k nextEnd (j + 1) results rest).prepend []
          [⟨k, j, result, remote.push k j⟩]
          (pushLog (remote.encode uncompressed) (remote.push k j) ++
            [.setProgress (some ⟨uint64 nextEnd, total⟩)])

/-- Window `k`; `rest` is done after it. -/
def importWindow (k : Nat) (window : Int × Int) (rest : ImportRun α) : ImportRun α :=
  match remote.read k with
  | .error err =>
    (stop ("failed to read from target endpoint: " ++ err)).prepend [window] [] []
  | .ok results => (pushResults remote total k window.2 0 results rest).prepend [window] [] []

def importLoop (importEnd : Int) : Nat → Nat → Int → Int → ImportRun α
  | 0, _, _, _ => { result := none }
  | fuel + 1, k, nextStart, nextEnd =>
    if nextStart < importEnd then
      -- `nextEnd` is the start of the query at first
      let nextStart := nextEnd
      let nextEnd := int64 (nextStart + timeDeltaMillis)
      if importEnd ≤ nextStart then { result := some .nil }
      else
        let nextEnd := if importEnd ≤ nextEnd then importEnd else nextEnd
        importWindow remote total k (nextStart, nextEnd)
          (importLoop importEnd fuel (k + 1) nextStart nextEnd)
    else { result := some .nil }

end Loop

def onTaskRunning {α : Type} (remote : Remote α) (q : Query) (fuel : Nat) : ImportRun α :=
  let total := uint64 (q.finish - q.start)
  (importLoop remote total q.finish fuel 0 q.start q.start).prepend [] []
    [.setProgress (some ⟨0, total⟩)]

end Opni.Metrics
