/-
  Opni.Plugins.Loader

  The plugin loader (`pkg/plugins/loader.go`): `LoadPlugins` runs `LoadOne`
  for every plugin, each by itself, and then `Complete`, while `Hook` may be
  called at any time.
-/

import Opni.Lib.Goroutines
import Mathlib.Data.List.Count

namespace Opni.Plugins

open Lib.Goroutines Function

/-! ## The loader -/

/-- The kinds of hooks: `PluginLoadHook` and `LoadingCompletedHook`.  `Hook` does nothing with
    values of other types. -/
inductive HookKind where
  | load | completed
deriving DecidableEq

/-- An implementation: the run of `LoadOne`, and the position in it. -/
abbrev Impl := Nat × Nat

/-- What a loader is used for: the hooks, which of the implementations they are for
    (`ShouldInvoke`), and how many implementations each of the plugins has. -/
structure Setup where
  kind : Nat → HookKind
  shouldInvoke : Nat → Impl → Bool
  plugins : Nat
  impls : Nat → Nat

/-- Where `Hook` is. -/
inductive HookPc where
  | idle
  /-- It has read the flag. -/
  | flagged (completed : Bool)
  /-- It has added the hook, and holds `hooksMu`, for reading if the flag was set. -/
  | joining (completed : Bool)
  | returned
deriving DecidableEq

/-- Where `LoadOne` is: before the hooks are invoked for an implementation, or before the
    implementation is added. -/
inductive LoadPc where
  | invoking (k : Nat)
  | adding (k : Nat)
deriving DecidableEq

/-- Where `Complete` is. -/
inductive CompletePc where
  | idle
  /-- It has set the flag. -/
  | stored
  /-- It has counted the plugins. -/
  | counted (numLoaded : Nat)
  | returned
deriving DecidableEq

/-- `PluginLoader`: the locks, the lists and the flag, the calls, and the invocations so far:
    of load hooks, and of completed hooks with the number they get. -/
structure PluginLoader where
  hookWriter : Option Nat := none
  hookReaders : Nat := 0
  loadHooks : List Nat := []
  completedHooks : List Nat := []
  activePlugins : List Impl := []
  completed : Bool := false
  hooks : Nat → HookPc := fun _ => .idle
  loads : Nat → LoadPc := fun _ => .invoking 0
  complete : CompletePc := .idle
  invoked : List (Nat × Impl) := []
  completedInvoked : List (Nat × Nat) := []

inductive LoaderEvent where
  /-- `Hook` reads the flag. -/
  | hookBegin (n : Nat)
  /-- `Hook` takes `hooksMu` and adds the hook. -/
  | hookAdd (n : Nat)
  /-- `Hook` invokes a hook that joins late, and releases `hooksMu`. -/
  | hookJoin (n : Nat)
  /-- `LoadOne` invokes the hooks for an implementation. -/
  | loadInvoke (r : Nat)
  /-- `LoadOne` adds the implementation. -/
  | loadAdd (r : Nat)
  /-- `Complete` sets the flag. -/
  | completeStore
  /-- `Complete` counts the plugins. -/
  | completeCount
  /-- `Complete` invokes the hooks. -/
  | completeInvoke

namespace PluginLoader

variable (s : PluginLoader)

/-- `Hook` gets the lock. -/
def canLock (shared : Bool) : Prop :=
  s.hookWriter = none ∧ (shared = false → s.hookReaders = 0)

instance (shared : Bool) : Decidable (s.canLock shared) :=
  inferInstanceAs (Decidable (_ ∧ _))

variable (su : Setup)

/-- The loader after `Hook` has taken the lock and added the hook. -/
def addHook (s : PluginLoader) (n : Nat) (shared : Bool) : PluginLoader :=
  { s with
    hookWriter := if shared then none else some n
    hookReaders := if shared then s.hookReaders + 1 else s.hookReaders
    hooks := update s.hooks n (.joining shared)
    loadHooks := if su.kind n = .load then s.loadHooks ++ [n] else s.loadHooks
    completedHooks :=
      if su.kind n = .completed then s.completedHooks ++ [n] else s.completedHooks }

/-- The loader after `Hook` has invoked the hook, as far as it joins late, and returned. -/
def joinHook (s : PluginLoader) (n : Nat) (shared : Bool) : PluginLoader :=
  { s with
    hookWriter := if shared then s.hookWriter else none
    hookReaders := if shared then s.hookReaders - 1 else s.hookReaders
    hooks := update s.hooks n .returned
    invoked :=
      if su.kind n = .load then
        s.invoked ++ (s.activePlugins.filter (su.shouldInvoke n)).map (Prod.mk n)
      else s.invoked
    completedInvoked :=
      if su.kind n = .completed ∧ s.completed then
        s.completedInvoked ++ [(n, s.activePlugins.length)]
      else s.completedInvoked }

def step (s : PluginLoader) : LoaderEvent → Option PluginLoader
  -- which lock is taken is decided by the flag, which can be set before it is taken
  | .hookBegin n =>
    if s.hooks n = .idle then
      some { s with hooks := update s.hooks n (.flagged s.completed) }
    else none
  | .hookAdd n =>
    match s.hooks n with
    | .flagged shared => if s.canLock shared then some (s.addHook su n shared) else none
    | _ => none
  | .hookJoin n =>
    match s.hooks n with
    | .joining shared => some (s.joinHook su n shared)
    | _ => none
  | .loadInvoke r =>
    match s.loads r with
    | .invoking k =>
      -- the hooks are read under `hooksMu`, the implementation is added under another lock
      if r < su.plugins ∧ k < su.impls r ∧ s.hookWriter = none then some { s with
        loads := update s.loads r (.adding k)
        invoked := s.invoked ++
          (s.loadHooks.filter (su.shouldInvoke · (r, k))).map (·, (r, k)) }
      else none
    | .adding _ => none
  | .loadAdd r =>
    match s.loads r with
    | .invoking _ => none
    | .adding k => some { s with
        loads := update s.loads r (.invoking (k + 1))
        activePlugins := s.activePlugins ++ [(r, k)] }
  -- `LoadPlugins` waits for all runs of `LoadOne`
  | .completeStore =>
    if s.complete = .idle ∧ ∀ r < su.plugins, s.loads r = .invoking (su.impls r) then
      some { s with completed := true, complete := .stored }
    else none
  | .completeCount =>
    if s.complete = .stored then
      some { s with complete := .counted s.activePlugins.length }
    else none
  | .completeInvoke =>
    match s.complete with
    | .counted numLoaded =>
      if s.hookWriter = none then some { s with
        complete := .returned
        completedInvoked := s.completedInvoked ++ s.completedHooks.map (·, numLoaded) }
      else none
    | _ => none

/-- How often a load hook has been invoked for an implementation. -/
def loadCount (n : Nat) (i : Impl) : Nat := s.invoked.count (n, i)

def completedCount (n : Nat) : Nat := (s.completedInvoked.map Prod.fst).count n

/-! ## What a step can do -/

/-- The steps of the loader, each with the state it leads to. -/
inductive Move (su : Setup) (s : PluginLoader) : LoaderEvent → PluginLoader → Prop where
  | hookBegin {n : Nat} (hpc : s.hooks n = .idle) :
      Move su s (.hookBegin n)
        { s with hooks := update s.hooks n (.flagged s.completed) }
  | hookAdd {n : Nat} {shared : Bool} (hpc : s.hooks n = .flagged shared)
      (hlock : s.canLock shared) : Move su s (.hookAdd n) (s.addHook su n shared)
  | hookJoin {n : Nat} {shared : Bool} (hpc : s.hooks n = .joining shared) :
      Move su s (.hookJoin n) (s.joinHook su n shared)
  | loadInvoke {r k : Nat} (hpc : s.loads r = .invoking k) (hr : r < su.plugins)
      (hk : k < su.impls r) (hlock : s.hookWriter = none) :
      Move su s (.loadInvoke r) { s with
        loads := update s.loads r (.adding k)
        invoked := s.invoked ++ (s.loadHooks.filter (su.shouldInvoke · (r, k))).map (·, (r, k)) }
  | loadAdd {r k : Nat} (hpc : s.loads r = .adding k) :
      Move su s (.loadAdd r) { s with
        loads := update s.loads r (.invoking (k + 1))
        activePlugins := s.activePlugins ++ [(r, k)] }
  | completeStore (hpc : s.complete = .idle)
      (hloads : ∀ r < su.plugins, s.loads r = .invoking (su.impls r)) :
      Move su s .completeStore { s with completed := true, complete := .stored }
  | completeCount (hpc : s.complete = .stored) :
      Move su s .completeCount { s with complete := .counted s.activePlugins.length }
  | completeInvoke {numLoaded : Nat} (hpc : s.complete = .counted numLoaded)
      (hlock : s.hookWriter = none) :
      Move su s .completeInvoke { s with
        complete := .returned
        completedInvoked := s.completedInvoked ++ s.completedHooks.map (·, numLoaded) }

theorem move_of_step {su : Setup} {s s' : PluginLoader} {e : LoaderEvent}
    (h : s.step su e = some s') : Move su s e s' := by
  revert h
  fun_cases step su s e <;> grind [Move]

end PluginLoader

end Opni.Plugins
