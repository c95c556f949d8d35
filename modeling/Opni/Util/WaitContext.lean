/-
  Opni.Util.WaitContext

  Contexts that wait for the goroutines that were started with them
  (`pkg/util/waitctx/context.go`).
-/

import Opni.Lib.Goroutines

namespace Opni.Util

open Lib.Goroutines
open Function

/-- What a goroutine does with the context, and the `go` statement. -/
inductive Stmt where
  | addOne | done | wait
  | spawn (body : List Stmt)

/-- The calls of `Done`, less those of `AddOne`, that a statement makes with the goroutines it
    starts. -/
def Stmt.owed : Stmt → Int
  | .addOne => -1
  | .done => 1
  | .wait => 0
  | .spawn body => owes body
where
  owes : List Stmt → Int
    | [] => 0
    | stmt :: rest => stmt.owed + owes rest

/-- Where a goroutine is: at the mutex in `AddOne`, in `cond.Wait`, or in `Wait`, whose own
    goroutine is at the mutex or in `wg.Wait`. -/
inductive Pc where
  | running | adding | sleeping | locking | waiting
deriving DecidableEq

structure Goroutine where
  pc : Pc := .running
  rest : List Stmt := []

/-- The context and its goroutines; only a `Wait` keeps the mutex between steps. -/
structure WaitContext where
  goroutines : Nat → Goroutine
  started : Nat := 1
  mutex : Option Nat := none
  waiting : Bool := false
  wg : Nat := 0
  /-- The calls of `AddOne` and of `Done` that have taken effect. -/
  added : Nat := 0
  finished : Nat := 0

def broadcast (g : Goroutine) : Goroutine :=
  if g.pc = .sleeping then { g with pc := .adding } else g

/-- A goroutine that is in `AddOne` with these statements to come is tracked: it owes a `Done`
    besides the one that answers this `AddOne`. -/
def Tracked (rest : List Stmt) : Prop := 1 < Stmt.owed.owes rest

instance (rest : List Stmt) : Decidable (Tracked rest) := inferInstanceAs (Decidable (_ < _))

/-- A tracked goroutine is in `AddOne`. -/
def TrackedAdds (goroutines : Nat → Goroutine) : Prop :=
  ∃ i, (goroutines i).pc = .adding ∧ Tracked (goroutines i).rest

namespace WaitContext

def start (main : List Stmt) : WaitContext where
  goroutines := update (fun _ => {}) 0 ⟨.running, main⟩

variable (s : WaitContext) (i : Nat)

/-- The next step of a goroutine; none if it is blocked, has ended, or panics. -/
def step : Option WaitContext :=
  match s.goroutines i with
  | ⟨.running, []⟩ | ⟨.sleeping, _⟩ => none
  | ⟨.running, .addOne :: rest⟩ =>
    some { s with goroutines := update s.goroutines i ⟨.adding, rest⟩ }
  | ⟨.running, .wait :: rest⟩ =>
    some { s with goroutines := update s.goroutines i ⟨.locking, rest⟩ }
  | ⟨.running, .spawn body :: rest⟩ => some { s with
      goroutines := update (update s.goroutines i ⟨.running, rest⟩) s.started ⟨.running, body⟩
      started := s.started + 1 }
  | ⟨.running, .done :: rest⟩ =>
    -- a negative counter panics
    if s.wg = 0 then none
    else some { s with
      goroutines := update s.goroutines i ⟨.running, rest⟩
      wg := s.wg - 1
      finished := s.finished + 1 }
  | ⟨.adding, rest⟩ =>
    if s.mutex.isSome then none
    else if s.waiting then some { s with goroutines := update s.goroutines i ⟨.sleeping, rest⟩ }
    else some { s with
      goroutines := update s.goroutines i ⟨.running, rest⟩
      wg := s.wg + 1
      added := s.added + 1 }
  | ⟨.locking, rest⟩ =>
    if s.mutex.isSome then none
    else some { s with
      goroutines := update s.goroutines i ⟨.waiting, rest⟩
      mutex := some i
      waiting := true }
  | ⟨.waiting, rest⟩ =>
    if s.wg = 0 then some { s with
      goroutines := broadcast ∘ update s.goroutines i ⟨.running, rest⟩
      mutex := none
      waiting := false }
    else none

/-- A `Wait` waits for a tracked goroutine that is blocked in `AddOne` until it returns. -/
def Stuck : Prop := 0 < s.wg ∧ s.mutex.isSome ∧ TrackedAdds s.goroutines

/-- While a `Wait` waits no tracked goroutine calls `AddOne`, and no `Wait` gets the mutex while
    one is in it. -/
def Allows : Prop :=
  match s.goroutines i with
  | ⟨.running, .addOne :: rest⟩ => Tracked rest → s.mutex.isSome → s.wg = 0
  | ⟨.locking, _⟩ => TrackedAdds s.goroutines → s.wg = 0
  | _ => True

structure Inv : Prop where
  holder : ∀ i, (s.goroutines i).pc = .waiting ↔ s.mutex = some i
  awake : ∀ i, (s.goroutines i).pc ≠ .sleeping
  flag : s.waiting = s.mutex.isSome
  fresh : ∀ i, s.started ≤ i → s.goroutines i = {}
  counted : s.wg + s.finished = s.added

variable {s i} {s' : WaitContext} {finished wg added : Nat} {g : Goroutine} {gs : Nat → Goroutine}

theorem inv_start (main : List Stmt) : (start main).Inv := by
  constructor <;> simp [start, update_apply] <;> grind

/-- A goroutine moves on, with the mutex if it is in `wg.Wait` and without it otherwise. -/
theorem Inv.set (h : s.Inv) (hlive : s.goroutines i ≠ {}) (hawake : g.pc ≠ .sleeping)
    {mutex : Option Nat} (hholder : g.pc = .waiting ↔ mutex = some i)
    (hothers : ∀ j, j ≠ i → (mutex = some j ↔ s.mutex = some j)) {waiting : Bool}
    (hflag : waiting = mutex.isSome) (hcounted : wg + finished = added) :
    Inv ⟨update s.goroutines i g, s.started, mutex, waiting, wg, added, finished⟩ where
  holder j := by
    by_cases hij : j = i
    · simpa [hij] using hholder
    · simpa [hij, hothers j hij] using h.holder j
  awake j := by
    by_cases hij : j = i
    · simpa [hij] using hawake
    · simpa [hij] using h.awake j
  flag := hflag
  fresh j hj := by
    have hij : j ≠ i := fun heq => hlive (heq ▸ h.fresh j hj)
    simpa [hij] using h.fresh j hj
  counted := hcounted

/-- A goroutine that neither has the mutex nor gets it moves on. -/
theorem Inv.move (h : s.Inv) (hi : (s.goroutines i).pc ≠ .waiting) (hlive : s.goroutines i ≠ {})
    (hwaiting : g.pc ≠ .waiting) (hawake : g.pc ≠ .sleeping) (hcounted : wg + finished = added) :
    Inv ⟨update s.goroutines i g, s.started, s.mutex, s.waiting, wg, added, finished⟩ := by
  have hnot : s.mutex ≠ some i := fun hmutex => hi ((h.holder i).mpr hmutex)
  exact h.set hlive hawake (iff_of_false hwaiting hnot) (fun _ _ => .rfl) h.flag hcounted

theorem Inv.spawn (h : s.Inv) (body : List Stmt) :
    Inv { s with
      goroutines := update s.goroutines s.started ⟨.running, body⟩
      started := s.started + 1 } where
  holder j := by
    by_cases hj : j = s.started
    · simpa [hj, h.fresh] using h.holder s.started
    · simpa [hj] using h.holder j
  awake j := by
    by_cases hj : j = s.started
    · simp [hj]
    · simpa [hj] using h.awake j
  flag := h.flag
  fresh j hj := by
    have hlt : s.started < j := hj
    simpa [hlt.ne'] using h.fresh j hlt.le
  counted := h.counted

theorem broadcast_comp (h : ∀ j, (gs j).pc ≠ .sleeping) : broadcast ∘ gs = gs :=
  funext fun j => if_neg (h j)

theorem Inv.step (h : s.Inv) (hstep : s.step i = some s') : s'.Inv := by
  have hcounted := h.counted
  revert hstep
  fun_cases WaitContext.step s i with
  -- blocked, ended or panicking
  | case1 | case2 | case6 | case8 | case11 | case14 => exact nofun
  -- `AddOne` and `Wait` are called
  | case3 rest hi | case4 rest hi =>
    rintro ⟨⟩
    exact h.move (by simp [hi]) (by simp [hi]) (by simp) (by simp) hcounted
  | case5 body rest hi =>
    rintro ⟨⟩
    have hmoved : Inv { s with goroutines := update s.goroutines i ⟨.running, rest⟩ } :=
      h.move (by simp [hi]) (by simp [hi]) (by simp) (by simp) hcounted
    exact hmoved.spawn body
  -- `Done`
  | case7 rest hi hwg =>
    rintro ⟨⟩
    exact h.move (by simp [hi]) (by simp [hi]) (by simp) (by simp) (by omega)
  -- nobody finds the flag set and the mutex free
  | case9 rest hi hmutex hwaiting =>
    rw [h.flag] at hwaiting
    contradiction
  -- `AddOne` returns
  | case10 rest hi hmutex hwaiting =>
    rintro ⟨⟩
    exact h.move (by simp [hi]) (by simp [hi]) (by simp) (by simp) (by omega)
  -- `Wait` gets the mutex
  | case12 rest hi hmutex =>
    rintro ⟨⟩
    have hfree : s.mutex = none := by simpa using hmutex
    exact h.set (by simp [hi]) (by simp) (by simp) (fun j hj => by simp [hfree, hj.symm]) rfl
      hcounted
  -- `Wait` returns, and nobody sleeps in `cond.Wait`
  | case13 rest hi hwg =>
    rintro ⟨⟩
    have hmutex : s.mutex = some i := (h.holder i).mp (by rw [hi])
    have hset : Inv { s with
        goroutines := update s.goroutines i ⟨.running, rest⟩, mutex := none, waiting := false } :=
      h.set (by simp [hi]) (by simp) (by simp) (fun j hj => by simp [hmutex, hj.symm]) rfl hcounted
    rw [broadcast_comp hset.awake]
    exact hset

end WaitContext

end Opni.Util
