/-
  Opni.Metrics.ImportComplete

  When a completed import has imported everything.  The windows of the loop
  tile the interval of the query (`Lib.Tiles`), unless the additions of int64
  overflow.
-/

import Opni.Lib.Tiles
import Opni.Metrics.Import

namespace Opni.Metrics

open Lib Opni.Task

/-! ## Windows -/

section Windows

variable {α : Type} (remote : Remote α) (total : Nat)

/-- Windows that are known; `rest` is done after them. -/
def importWindows : Nat → List (Int × Int) → ImportRun α → ImportRun α
  | _, [], rest => rest
  | k, window :: windows, rest =>
    importWindow remote total k window (importWindows (k + 1) windows rest)

variable (k : Nat)

theorem importWindows_append (windows windows' : List (Int × Int)) (rest : ImportRun α) :
    importWindows remote total k (windows ++ windows') rest =
      importWindows remote total k windows
        (importWindows remote total (k + windows.length) windows' rest) := by
  induction windows generalizing k with
  | nil => rfl
  | cons window windows ih =>
    rw [List.cons_append, importWindows, importWindows, ih, List.length_cons,
      Nat.add_right_comm k 1, Nat.add_assoc k]

/-- Window `k` is read, and its results can be encoded. -/
def Passes : Prop :=
  ∃ results, remote.read k = .ok results ∧
    ∀ result ∈ results, result ≠ [] → ∃ bytes, remote.marshal result = .ok bytes

def attempt (entry : List α × Nat) : Option (Attempt α) :=
  if entry.1.isEmpty then none else some ⟨k, entry.2, entry.1, remote.push k entry.2⟩

variable {k j : Nat} {results : List (List α)} {nextEnd : Int} {windows : List (Int × Int)}

theorem pushResults_ok
    (h : ∀ result ∈ results, result ≠ [] → ∃ bytes, remote.marshal result = .ok bytes)
    (rest : ImportRun α) :
    ∃ calls, pushResults remote total k nextEnd j results rest =
      rest.prepend [] ((results.zipIdx j).filterMap (attempt remote k)) calls := by
  induction results generalizing j with
  | nil => exact ⟨[], rfl⟩
  | cons result results ih =>
    obtain ⟨calls, hrest⟩ := @ih (j + 1) fun r hr => h r (.tail _ hr)
    rw [pushResults, List.zipIdx_cons, List.filterMap_cons, attempt]
    cases result with
    | nil => exact ⟨calls, hrest⟩
    | cons series result =>
      obtain ⟨bytes, hbytes⟩ := h _ List.mem_cons_self (List.cons_ne_nil _ _)
      rw [hbytes, hrest]
      exact ⟨_, ImportRun.prepend_prepend ..⟩

theorem pushResults_stops
    (h : ¬∀ result ∈ results, result ≠ [] → ∃ bytes, remote.marshal result = .ok bytes)
    (rest : ImportRun α) :
    (∃ err, (pushResults remote total k nextEnd j results rest).result = some (.other err)) ∧
      (pushResults remote total k nextEnd j results rest).windows = [] := by
  induction results generalizing j with
  | nil => exact absurd nofun h
  | cons result results ih =>
    rw [pushResults]
    rw [List.forall_mem_cons, not_and_or] at h
    cases result with
    | nil => exact ih (h.resolve_left fun hnil => hnil (absurd rfl))
    | cons series result =>
      cases hmarshal : remote.marshal (series :: result) with
      | error err => exact ⟨⟨_, rfl⟩, rfl⟩
      | ok bytes => exact ih (h.resolve_left fun hnone => hnone fun _ => ⟨bytes, hmarshal⟩)

/-- The push of result `a.result` of window `k`. -/
structure IsAttempt (k : Nat) (a : Attempt α) : Prop where
  window : a.window = k
  series : ∃ results, remote.read k = .ok results ∧ results[a.result]? = some a.series
  nonempty : a.series ≠ []
  outcome : a.outcome = remote.push k a.result

theorem mem_attempts (hread : remote.read k = .ok results) (a : Attempt α) :
    a ∈ results.zipIdx.filterMap (attempt remote k) ↔ IsAttempt remote k a := by
  rw [List.mem_filterMap]
  constructor
  · rintro ⟨⟨result, j⟩, hmem, hattempt⟩
    unfold attempt at hattempt
    split at hattempt
    next => cases hattempt
    next hne =>
      cases hattempt
      exact ⟨rfl, ⟨results, hread, List.mem_zipIdx_iff_getElem?.mp hmem⟩,
        fun hnil => hne (List.isEmpty_iff.mpr hnil), rfl⟩
  · rintro ⟨rfl, ⟨results', hread', hget⟩, hne, houtcome⟩
    cases hread.symm.trans hread'
    refine ⟨(a.series, a.result), List.mem_zipIdx_iff_getElem?.mpr hget, ?_⟩
    rw [attempt, if_neg (fun h => hne (List.isEmpty_iff.mp h)), ← houtcome]

theorem importWindow_ok (h : Passes remote k) (window : Int × Int) (rest : ImportRun α) :
    ∃ attempts calls, importWindow remote total k window rest =
      rest.prepend [window] attempts calls ∧ ∀ a, a ∈ attempts ↔ IsAttempt remote k a := by
  obtain ⟨results, hread, hmarshal⟩ := h
  obtain ⟨calls, hpush⟩ := pushResults_ok remote total hmarshal rest
  rw [importWindow, hread]
  dsimp only
  rw [hpush, ImportRun.prepend_prepend]
  exact ⟨_, _, rfl, mem_attempts remote hread⟩

theorem importWindow_stops (h : ¬Passes remote k) (window : Int × Int) (rest : ImportRun α) :
    (∃ err, (importWindow remote total k window rest).result = some (.other err)) ∧
      (importWindow remote total k window rest).windows = [window] := by
  unfold importWindow
  cases hread : remote.read k with
  | error err => exact ⟨⟨_, rfl⟩, rfl⟩
  | ok results =>
    have hmarshal : ¬∀ result ∈ results, result ≠ [] →
        ∃ bytes, remote.marshal result = .ok bytes :=
      fun hmarshal => h ⟨results, hread, hmarshal⟩
    obtain ⟨⟨err, herr⟩, hwindows⟩ := pushResults_stops remote total hmarshal rest
    exact ⟨⟨err, herr⟩, congrArg (window :: ·) hwindows⟩

theorem importWindows_ok
    (h : ∀ m, k ≤ m → m < k + windows.length → Passes remote m) (rest : ImportRun α) :
    ∃ attempts calls, importWindows remote total k windows rest =
      rest.prepend windows attempts calls ∧
      ∀ a, a ∈ attempts ↔ ∃ m, k ≤ m ∧ m < k + windows.length ∧ IsAttempt remote m a := by
  induction windows generalizing k with
  | nil => exact ⟨[], [], rfl, by simp; omega⟩
  | cons window windows ih =>
    rw [List.length_cons] at h
    obtain ⟨attempts, calls, hrest, hmem⟩ :=
      @ih (k + 1) fun m hm hm' => h m (by omega) (by omega)
    obtain ⟨attempts', calls', hfirst, hmem'⟩ := importWindow_ok remote total
      (h k le_rfl (by omega)) window (importWindows remote total (k + 1) windows rest)
    rw [importWindows, hfirst, hrest, ImportRun.prepend_prepend]
    refine ⟨_, _, rfl, fun a => ?_⟩
    rw [List.mem_append, hmem', hmem, List.length_cons]
    constructor
    · rintro (ha | ⟨m, hm, hm', ha⟩)
      · exact ⟨k, le_rfl, by omega, ha⟩
      · exact ⟨m, by omega, by omega, ha⟩
    · rintro ⟨m, hm, hm', ha⟩
      obtain rfl | hlt := hm.eq_or_lt
      · exact .inl ha
      · exact .inr ⟨m, hlt, by omega, ha⟩

theorem importWindows_stops
    (h : ∃ m, k ≤ m ∧ m < k + windows.length ∧ ¬Passes remote m) (rest : ImportRun α) :
    (∃ err, (importWindows remote total k windows rest).result = some (.other err)) ∧
      (importWindows remote total k windows rest).windows <+: windows := by
  induction windows generalizing k with
  | nil =>
    obtain ⟨m, hm, hm', -⟩ := h
    exact absurd (hm.trans_lt hm') (lt_irrefl k)
  | cons window windows ih =>
    obtain ⟨m, hm, hm', hstops⟩ := h
    rw [List.length_cons] at hm'
    rw [importWindows]
    by_cases hk : Passes remote k
    · obtain ⟨attempts, calls, hfirst, -⟩ := importWindow_ok remote total hk window
        (importWindows remote total (k + 1) windows rest)
      have hne : k ≠ m := by
        rintro rfl
        exact hstops hk
      obtain ⟨⟨err, herr⟩, hwindows⟩ := @ih (k + 1) ⟨m, by omega, by omega, hstops⟩
      rw [hfirst]
      exact ⟨⟨err, herr⟩, (List.prefix_cons_inj window).mpr hwindows⟩
    · obtain ⟨herr, hwindows⟩ := importWindow_stops remote total hk window
        (importWindows remote total (k + 1) windows rest)
      rw [hwindows]
      exact ⟨herr, ⟨windows, rfl⟩⟩

end Windows

/-! ## The windows of the loop -/

variable {x : Int}

theorem int64_eq (hge : -2 ^ 63 ≤ x) (hlt : x < 2 ^ 63) : int64 x = x := by
  exact Int.bmod_eq_of_le (by omega) (by omega)

theorem int64_of_overflow (hge : 2 ^ 63 ≤ x) (hlt : x < 2 ^ 64) : int64 x = x - 2 ^ 64 := by
  unfold int64 Int.bmod
  dsimp only
  split <;> omega

namespace Query

variable (q : Query)

def fullWindows : Nat := ((q.finish - q.start - 1) / timeDeltaMillis).toNat

def lastStart : Int := q.start + q.fullWindows * timeDeltaMillis

theorem lastStart_lt : q.lastStart < q.finish := by
  have hlt := q.start_lt
  unfold lastStart fullWindows timeDeltaMillis
  omega

theorem finish_le : q.finish ≤ q.lastStart + timeDeltaMillis := by
  unfold lastStart fullWindows timeDeltaMillis
  omega

end Query

section Loop

variable {α : Type} (remote : Remote α) (total : Nat) {importEnd : Int} (fuel k : Nat)

theorem importLoop_full {prev cur : Int} (hprev : prev < importEnd) (hge : -2 ^ 63 ≤ cur)
    (hcur : cur + timeDeltaMillis < importEnd) (hend : importEnd < 2 ^ 63) :
    importLoop remote total importEnd (fuel + 1) k prev cur =
      importWindow remote total k (cur, cur + timeDeltaMillis)
        (importLoop remote total importEnd fuel (k + 1) cur (cur + timeDeltaMillis)) := by
  have hδ : 0 < timeDeltaMillis := by decide
  have hnext : int64 (cur + timeDeltaMillis) = cur + timeDeltaMillis :=
    int64_eq (by omega) (by omega)
  rw [importLoop, if_pos hprev]
  dsimp only
  rw [hnext, if_neg (by omega), if_neg (by omega)]

theorem importLoop_fullTiles (n k : Nat) {prev cur : Int} (hprev : prev < importEnd)
    (hge : -2 ^ 63 ≤ cur) (hcur : cur + n * timeDeltaMillis < importEnd)
    (hend : importEnd < 2 ^ 63) :
    ∃ prev' < importEnd, importLoop remote total importEnd (fuel + n) k prev cur =
      importWindows remote total k (fullTiles timeDeltaMillis n cur)
        (importLoop remote total importEnd fuel (k + n) prev' (cur + n * timeDeltaMillis)) := by
  induction n generalizing k prev cur with
  | zero => exact ⟨prev, hprev, by simp [fullTiles, importWindows]⟩
  | succ n ih =>
    have hfirst : cur + timeDeltaMillis < importEnd := by
      unfold timeDeltaMillis at hcur ⊢
      omega
    have hrest : cur + timeDeltaMillis + n * timeDeltaMillis =
        cur + (n + 1 : ℕ) * timeDeltaMillis := by
      unfold timeDeltaMillis
      omega
    have hδ : 0 < timeDeltaMillis := by decide
    obtain ⟨prev', hprev', hloop⟩ := @ih (k + 1) cur (cur + timeDeltaMillis)
      (by omega) (by omega) (by omega)
    refine ⟨prev', hprev', ?_⟩
    rw [← Nat.add_assoc fuel, importLoop_full remote total _ k hprev hge hfirst hend, hloop,
      hrest, Nat.add_right_comm k, Nat.add_assoc k]
    rfl

theorem importLoop_last {prev cur : Int} (hprev : prev < importEnd) (hge : -2 ^ 63 ≤ cur)
    (hcur : cur < importEnd) (hle : importEnd ≤ cur + timeDeltaMillis)
    (hlt : cur + timeDeltaMillis < 2 ^ 63) :
    importLoop remote total importEnd (fuel + 2) k prev cur =
      importWindow remote total k (cur, importEnd) { result := some .nil } := by
  rw [importLoop, if_pos hprev]
  dsimp only
  rw [int64_eq (by omega) hlt, if_neg (by omega), if_pos hle, importLoop, if_pos hcur]
  rw [if_pos le_rfl]

theorem importLoop_overflow {prev cur : Int} (hprev : prev < importEnd) (hcur : cur < importEnd)
    (hend : importEnd < 2 ^ 63) (hge : 2 ^ 63 ≤ cur + timeDeltaMillis) :
    ∃ rest, importLoop remote total importEnd (fuel + 1) k prev cur =
      importWindow remote total k (cur, cur + timeDeltaMillis - 2 ^ 64) rest := by
  have hδ : timeDeltaMillis = 60000 := rfl
  rw [importLoop, if_pos hprev]
  dsimp only
  rw [int64_of_overflow hge (by omega), if_neg (by omega), if_neg (by omega)]
  exact ⟨_, rfl⟩

end Loop

/-! ## More fuel -/

section Fuel

variable {α : Type} {run run' : ImportRun α} {fuel' : Nat} {q : Query}

structure Extends (run run' : ImportRun α) : Prop where
  windows : run.windows <+: run'.windows
  returned : run.result ≠ none → run = run'

theorem Extends.refl (run : ImportRun α) : Extends run run :=
  ⟨List.prefix_rfl, fun _ => rfl⟩

theorem Extends.trans {run'' : ImportRun α} (h : Extends run run') (h' : Extends run' run'') :
    Extends run run'' where
  windows := h.windows.trans h'.windows
  returned := by
    intro hreturned
    obtain rfl := h.returned hreturned
    exact h'.returned hreturned

theorem Extends.prepend (h : Extends run run') (windows : List (Int × Int))
    (attempts : List (Attempt α)) (calls : List TaskChoice) :
    Extends (run.prepend windows attempts calls) (run'.prepend windows attempts calls) where
  windows := (List.prefix_append_right_inj windows).mpr h.windows
  returned := fun hreturned => congrArg _ (h.returned hreturned)

variable (remote : Remote α) (total : Nat)

theorem Extends.pushResults (h : Extends run run') (k j : Nat) (nextEnd : Int)
    (results : List (List α)) :
    Extends (pushResults remote total k nextEnd j results run)
      (pushResults remote total k nextEnd j results run') := by
  induction results generalizing j with
  | nil => exact h
  | cons result results ih =>
    unfold Metrics.pushResults
    split
    · exact ih (j + 1)
    · split
      · exact .refl _
      · exact (ih (j + 1)).prepend ..

theorem Extends.importWindow (h : Extends run run') (k : Nat) (window : Int × Int) :
    Extends (importWindow remote total k window run) (importWindow remote total k window run') := by
  unfold Metrics.importWindow
  split
  · exact .refl _
  · exact (h.pushResults remote total ..).prepend ..

theorem extends_importLoop (importEnd : Int) (fuel k : Nat) (nextStart nextEnd : Int) :
    Extends (importLoop remote total importEnd fuel k nextStart nextEnd)
      (importLoop remote total importEnd (fuel + 1) k nextStart nextEnd) := by
  induction fuel generalizing k nextStart nextEnd with
  | zero => exact ⟨List.nil_prefix, fun h => absurd rfl h⟩
  | succ fuel ih =>
    unfold importLoop
    split
    · dsimp only
      split
      · exact .refl _
      · exact (ih ..).importWindow ..
    · exact .refl _

theorem extends_onTaskRunning (q : Query) {fuel : Nat} (h : fuel ≤ fuel') :
    Extends (onTaskRunning remote q fuel) (onTaskRunning remote q fuel') := by
  induction fuel', h using Nat.le_induction with
  | base => exact .refl _
  | succ fuel' _ ih => exact ih.trans ((extends_importLoop ..).prepend ..)

theorem onTaskRunning_unique {fuel : Nat} (h : (onTaskRunning remote q fuel).result ≠ none)
    (h' : (onTaskRunning remote q fuel').result ≠ none) :
    onTaskRunning remote q fuel = onTaskRunning remote q fuel' := by
  obtain hle | hle := le_total fuel fuel'
  · exact (extends_onTaskRunning remote q hle).returned h
  · exact ((extends_onTaskRunning remote q hle).returned h').symm

theorem windows_isPrefixOf {fuel : Nat} (h : (onTaskRunning remote q fuel).result ≠ none)
    (fuel' : Nat) :
    (onTaskRunning remote q fuel').windows <+: (onTaskRunning remote q fuel).windows := by
  obtain hle | hle := le_total fuel' fuel
  · exact (extends_onTaskRunning remote q hle).windows
  · rw [(extends_onTaskRunning remote q hle).returned h]

end Fuel

/-! ## The import -/

section Import

variable {α : Type} (remote : Remote α) (q : Query)

def Query.windows : List (Int × Int) :=
  fullTiles timeDeltaMillis q.fullWindows q.start ++ [(q.lastStart, q.finish)]

theorem Query.tiles_full : Tiles timeDeltaMillis q.start
    (fullTiles timeDeltaMillis q.fullWindows q.start) q.lastStart := by
  have h := tiles_fullTiles (show 0 < timeDeltaMillis by decide) q.fullWindows q.start
  rwa [nsmul_eq_mul] at h

theorem Query.tiles_windows : Tiles timeDeltaMillis q.start q.windows q.finish :=
  q.tiles_full.append (tiles_singleton q.lastStart_lt q.finish_le)

theorem Query.length_windows : q.windows.length = q.fullWindows + 1 := by
  rw [Query.windows, List.length_append, length_fullTiles, List.length_singleton]

theorem onTaskRunning_full (fuel : Nat) :
    ∃ prev < q.finish, onTaskRunning remote q (fuel + q.fullWindows) =
      (importWindows remote (uint64 (q.finish - q.start)) 0
        (fullTiles timeDeltaMillis q.fullWindows q.start)
        (importLoop remote (uint64 (q.finish - q.start)) q.finish fuel q.fullWindows prev
          q.lastStart)).prepend [] [] [.setProgress (some ⟨0, uint64 (q.finish - q.start)⟩)] := by
  obtain ⟨prev, hprev, hloop⟩ := importLoop_fullTiles remote (uint64 (q.finish - q.start)) fuel
    q.fullWindows 0 q.start_lt q.start_ge q.lastStart_lt q.finish_lt
  rw [Nat.zero_add] at hloop
  exact ⟨prev, hprev, congrArg (ImportRun.prepend [] [] _) hloop⟩

def Query.Fits : Prop := q.lastStart + timeDeltaMillis < 2 ^ 63

instance : Decidable q.Fits := inferInstanceAs (Decidable (_ < _))

theorem Query.lastStart_ge : -2 ^ 63 ≤ q.lastStart := q.start_ge.trans q.tiles_full.le

theorem onTaskRunning_fits (h : q.Fits) :
    onTaskRunning remote q (2 + q.fullWindows) =
      (importWindows remote (uint64 (q.finish - q.start)) 0 q.windows
        { result := some .nil }).prepend [] []
        [.setProgress (some ⟨0, uint64 (q.finish - q.start)⟩)] := by
  obtain ⟨prev, hprev, hrun⟩ := onTaskRunning_full remote q 2
  rw [hrun, importLoop_last remote _ 0 _ hprev q.lastStart_ge q.lastStart_lt q.finish_le h,
    Query.windows, importWindows_append, length_fullTiles, Nat.zero_add]
  rfl

theorem onTaskRunning_passes (hfits : q.Fits) (h : ∀ k ≤ q.fullWindows, Passes remote k) :
    ∃ fuel, (onTaskRunning remote q fuel).result = some .nil ∧
      (onTaskRunning remote q fuel).windows = q.windows ∧
      ∀ a, a ∈ (onTaskRunning remote q fuel).attempts ↔
        ∃ k ≤ q.fullWindows, IsAttempt remote k a := by
  have hpasses : ∀ m, 0 ≤ m → m < 0 + q.windows.length → Passes remote m := by
    intro m _ hm
    rw [q.length_windows] at hm
    exact h m (by omega)
  obtain ⟨attempts, calls, hwindows, hmem⟩ := importWindows_ok remote
    (uint64 (q.finish - q.start)) hpasses { result := some .nil }
  refine ⟨2 + q.fullWindows, ?_⟩
  rw [onTaskRunning_fits remote q hfits, hwindows]
  refine ⟨rfl, List.append_nil _, fun a => ?_⟩
  change a ∈ [] ++ (attempts ++ []) ↔ _
  rw [List.nil_append, List.append_nil, hmem, q.length_windows]
  constructor
  · rintro ⟨k, -, hk, ha⟩
    exact ⟨k, by omega, ha⟩
  · rintro ⟨k, hk, ha⟩
    exact ⟨k, by omega, by omega, ha⟩

theorem onTaskRunning_stops {k : Nat} (hk : k < q.fullWindows ∨ q.Fits ∧ k = q.fullWindows)
    (h : ¬Passes remote k) :
    ∃ fuel err, (onTaskRunning remote q fuel).result = some (.other err) ∧
      (onTaskRunning remote q fuel).windows <+: q.windows := by
  obtain hlt | ⟨hfits, rfl⟩ := hk
  · obtain ⟨prev, -, hrun⟩ := onTaskRunning_full remote q 0
    have hstops : ∃ m, 0 ≤ m ∧
        m < 0 + (fullTiles timeDeltaMillis q.fullWindows q.start).length ∧ ¬Passes remote m :=
      ⟨k, Nat.zero_le _, by rwa [Nat.zero_add, length_fullTiles], h⟩
    obtain ⟨⟨err, herr⟩, hwindows⟩ :=
      importWindows_stops remote (uint64 (q.finish - q.start)) hstops
      (importLoop remote (uint64 (q.finish - q.start)) q.finish 0 q.fullWindows prev q.lastStart)
    refine ⟨0 + q.fullWindows, err, ?_, ?_⟩
    · rw [hrun]
      exact herr
    · rw [hrun]
      exact hwindows.trans (List.prefix_append _ _)
  · have hstops : ∃ m, 0 ≤ m ∧ m < 0 + q.windows.length ∧ ¬Passes remote m :=
      ⟨q.fullWindows, Nat.zero_le _, by rw [q.length_windows]; omega, h⟩
    obtain ⟨⟨err, herr⟩, hwindows⟩ :=
      importWindows_stops remote (uint64 (q.finish - q.start)) hstops
      { result := some .nil }
    refine ⟨2 + q.fullWindows, err, ?_, ?_⟩
    · rw [onTaskRunning_fits remote q hfits]
      exact herr
    · rw [onTaskRunning_fits remote q hfits]
      exact hwindows

theorem onTaskRunning_overflow (hfits : ¬q.Fits) (h : ∀ k < q.fullWindows, Passes remote k) :
    ∃ fuel rest, (onTaskRunning remote q fuel).windows =
      fullTiles timeDeltaMillis q.fullWindows q.start ++
        (q.lastStart, q.lastStart + timeDeltaMillis - 2 ^ 64) :: rest := by
  obtain ⟨prev, hprev, hrun⟩ := onTaskRunning_full remote q 1
  obtain ⟨rest, hloop⟩ := importLoop_overflow remote (uint64 (q.finish - q.start)) 0 q.fullWindows
    hprev q.lastStart_lt q.finish_lt (not_lt.mp hfits)
  obtain ⟨rest', hlast⟩ : ∃ windows, (importWindow remote (uint64 (q.finish - q.start))
      q.fullWindows (q.lastStart, q.lastStart + timeDeltaMillis - 2 ^ 64) rest).windows =
      _ :: windows := by
    unfold importWindow
    split <;> exact ⟨_, rfl⟩
  have hpasses : ∀ m, 0 ≤ m → m < 0 + (fullTiles timeDeltaMillis q.fullWindows q.start).length →
      Passes remote m := by
    intro m _ hm
    rw [length_fullTiles, Nat.zero_add] at hm
    exact h m hm
  rw [hloop] at hrun
  obtain ⟨attempts, calls, hwindows, -⟩ := importWindows_ok remote
    (uint64 (q.finish - q.start)) hpasses (importWindow remote (uint64 (q.finish - q.start))
      q.fullWindows (q.lastStart, q.lastStart + timeDeltaMillis - 2 ^ 64) rest)
  refine ⟨1 + q.fullWindows, rest', ?_⟩
  rw [hrun, hwindows, ← hlast]
  rfl

/-- A read or a push has failed in the run, or the task was canceled, with that many windows
    read, before the last window of the run. -/
def Faulty (run : ImportRun α) (canceled : Option Nat) : Prop :=
  (∃ k < run.windows.length, ∃ err, remote.read k = .error err) ∨
    (∃ a ∈ run.attempts, a.outcome ≠ .pushed) ∨ ∃ k < run.windows.length, canceled = some k

structure CompleteImport (canceled : Option Nat) : Prop where
  /-- The windows follow one another from the start, none of them longer than the delta. -/
  consecutive : ∀ fuel, ∃ upTo,
    Tiles timeDeltaMillis q.start (onTaskRunning remote q fuel).windows upTo
  /-- The loop ends. -/
  ends : ∃ fuel, (onTaskRunning remote q fuel).result ≠ none
  /-- If nil is returned, the windows cover the range and nothing else. -/
  covers : ∀ fuel, (onTaskRunning remote q fuel).result = some .nil →
    ∀ t, (∃ w ∈ (onTaskRunning remote q fuel).windows, w.1 ≤ t ∧ t ≤ w.2) ↔
      q.start ≤ t ∧ t ≤ q.finish
  /-- If nil is returned, every result that has series was pushed. -/
  pushes : ∀ fuel, (onTaskRunning remote q fuel).result = some .nil →
    ∀ k < (onTaskRunning remote q fuel).windows.length, ∀ results, remote.read k = .ok results →
      ∀ j series, results[j]? = some series → series ≠ [] →
        ⟨k, j, series, .pushed⟩ ∈ (onTaskRunning remote q fuel).attempts
  /-- A fault is returned, and the task does not become Completed. -/
  reports : ∀ fuel result, (onTaskRunning remote q fuel).result = some result →
    Faulty remote (onTaskRunning remote q fuel) canceled →
      result ≠ .nil ∧ ∀ ctxCanceled,
        permit .running (runningTrigger (outcome ctxCanceled result)) ≠ some .completed

/-- Window `k` passes, and all of its pushes succeed. -/
def AllPushed (k : Nat) : Prop :=
  ∀ results, remote.read k = .ok results → ∀ j series, results[j]? = some series → series ≠ [] →
    remote.push k j = .pushed

variable {remote q} {canceled : Option Nat}

theorem onTaskRunning_eq_of_result {fuel fuel' : Nat} {result result' : RunnerReturn}
    (h : (onTaskRunning remote q fuel).result = some result)
    (h' : (onTaskRunning remote q fuel').result = some result') :
    onTaskRunning remote q fuel' = onTaskRunning remote q fuel :=
  onTaskRunning_unique remote (by rw [h']; exact Option.some_ne_none _)
    (by rw [h]; exact Option.some_ne_none _)

theorem completeImport_of_error {fuel : Nat} {err : String}
    (hresult : (onTaskRunning remote q fuel).result = some (.other err))
    (hwindows : (onTaskRunning remote q fuel).windows <+: q.windows) :
    CompleteImport remote q canceled := by
  have hreturned : (onTaskRunning remote q fuel).result ≠ none := by
    rw [hresult]
    exact Option.some_ne_none _
  have herror : ∀ {fuel' result}, (onTaskRunning remote q fuel').result = some result →
      result = .other err := by
    intro fuel' result h
    rw [onTaskRunning_eq_of_result hresult h, hresult] at h
    exact (Option.some.inj h).symm
  refine ⟨?_, ⟨fuel, hreturned⟩, ?_, ?_, ?_⟩
  · intro fuel'
    exact q.tiles_windows.of_prefix ((windows_isPrefixOf remote hreturned fuel').trans hwindows)
  · intro fuel' hnil
    cases herror hnil
  · intro fuel' hnil
    cases herror hnil
  · intro fuel' result h _
    obtain rfl := herror h
    exact ⟨nofun, fun _ => nofun⟩

/-- Nil is returned, with faults or without. -/
theorem completeImport_of_nil {fuel : Nat}
    (hresult : (onTaskRunning remote q fuel).result = some .nil)
    (hwindows : (onTaskRunning remote q fuel).windows = q.windows)
    (hattempts : ∀ a, a ∈ (onTaskRunning remote q fuel).attempts ↔
      ∃ k ≤ q.fullWindows, IsAttempt remote k a)
    (hreads : ∀ k ≤ q.fullWindows, Passes remote k) :
    CompleteImport remote q canceled ↔
      (∀ k ≤ q.fullWindows, AllPushed remote k) ∧ ∀ k, canceled = some k → q.fullWindows < k := by
  have hlength : (onTaskRunning remote q fuel).windows.length = q.fullWindows + 1 := by
    rw [hwindows, q.length_windows]
  have hreturned : (onTaskRunning remote q fuel).result ≠ none := by
    rw [hresult]
    exact Option.some_ne_none _
  constructor
  · intro h
    constructor
    · -- every series has been pushed, and an attempt has the outcome that its push had
      intro k hk results hread j series hget hne
      have hmem := h.pushes fuel hresult k (by omega) results hread j series hget hne
      obtain ⟨k', -, ha⟩ := (hattempts _).mp hmem
      obtain rfl : k = k' := ha.window
      exact ha.outcome.symm
    · intro k hk
      by_contra hle
      have hfaulty : Faulty remote (onTaskRunning remote q fuel) canceled :=
        .inr (.inr ⟨k, by omega, hk⟩)
      exact (h.reports fuel .nil hresult hfaulty).1 rfl
  · rintro ⟨hpushed, hcanceled⟩
    refine ⟨?_, ⟨fuel, hreturned⟩, ?_, ?_, ?_⟩
    · -- with less fuel the run has fewer windows
      intro fuel'
      refine q.tiles_windows.of_prefix ?_
      rw [← hwindows]
      exact windows_isPrefixOf remote hreturned fuel'
    · intro fuel' h
      rw [onTaskRunning_eq_of_result hresult h, hwindows]
      exact q.tiles_windows.mem_iff (List.append_ne_nil_of_right_ne_nil _ (List.cons_ne_nil _ _))
    · intro fuel' h k hk results hread j series hget hne
      rw [onTaskRunning_eq_of_result hresult h] at hk ⊢
      refine (hattempts _).mpr ⟨k, by omega, rfl, ⟨results, hread, hget⟩, hne, ?_⟩
      exact (hpushed k (by omega) results hread j series hget hne).symm
    · intro fuel' result h hfaulty
      rw [onTaskRunning_eq_of_result hresult h] at hfaulty
      -- no read has failed, no push, and it was not canceled
      obtain ⟨k, hk, err, hread⟩ | ⟨a, ha, hfailed⟩ | ⟨k, hk, hk'⟩ := hfaulty
      · obtain ⟨results, hok, -⟩ := hreads k (by omega)
        rw [hread] at hok
        cases hok
      · obtain ⟨k, hk, ha⟩ := (hattempts a).mp ha
        obtain ⟨results, hread, hget⟩ := ha.series
        refine absurd ?_ hfailed
        rw [ha.outcome]
        exact hpushed k hk results hread _ _ hget ha.nonempty
      · have hlt := hcanceled k hk'
        omega

/-- An import is what it should be if and only if the additions of the loop do not overflow, or
    an earlier window does not pass; and, if every window passes, every push succeeds and the
    task is not canceled before the last window. -/
theorem completeImport_iff : CompleteImport remote q canceled ↔
    (q.Fits ∨ ∃ k < q.fullWindows, ¬Passes remote k) ∧
      ((∀ k ≤ q.fullWindows, Passes remote k) →
        (∀ k ≤ q.fullWindows, AllPushed remote k) ∧
          ∀ k, canceled = some k → q.fullWindows < k) := by
  by_cases hearly : ∃ k < q.fullWindows, ¬Passes remote k
  · obtain ⟨k, hk, hstops⟩ := hearly
    obtain ⟨fuel, err, hresult, hwindows⟩ := onTaskRunning_stops remote q (.inl hk) hstops
    refine iff_of_true (completeImport_of_error hresult hwindows) ⟨.inr ⟨k, hk, hstops⟩, ?_⟩
    intro hpasses
    exact absurd (hpasses k hk.le) hstops
  · have hbefore : ∀ k < q.fullWindows, Passes remote k := by
      intro k hk
      by_contra hstops
      exact hearly ⟨k, hk, hstops⟩
    by_cases hfits : q.Fits
    · rw [and_iff_right (.inl hfits)]
      by_cases hlast : Passes remote q.fullWindows
      · have hpasses : ∀ k ≤ q.fullWindows, Passes remote k := by
          intro k hk
          obtain rfl | hlt := hk.eq_or_lt
          · exact hlast
          · exact hbefore k hlt
        obtain ⟨fuel, hresult, hwindows, hattempts⟩ := onTaskRunning_passes remote q hfits hpasses
        rw [completeImport_of_nil hresult hwindows hattempts hpasses]
        exact ⟨fun h _ => h, fun h => h hpasses⟩
      · obtain ⟨fuel, err, hresult, hwindows⟩ :=
          onTaskRunning_stops remote q (.inr ⟨hfits, rfl⟩) hlast
        refine iff_of_true (completeImport_of_error hresult hwindows) ?_
        intro hpasses
        exact absurd (hpasses _ le_rfl) hlast
    · refine iff_of_false ?_ fun h => (not_or.mpr ⟨hfits, hearly⟩) h.1
      intro h
      obtain ⟨fuel, rest, hwindows⟩ := onTaskRunning_overflow remote q hfits hbefore
      obtain ⟨upTo, htiles⟩ := h.consecutive fuel
      -- the last window ends before it starts
      rw [hwindows] at htiles
      have hlt := htiles.lt_of_mem (List.mem_append_right _ List.mem_cons_self)
      have hδ : timeDeltaMillis = 60000 := rfl
      omega

end Import

/-! ## Faults that are not reported -/

def minutes (n : Nat) (hpos : 0 < n) (hlt : n < 2 ^ 40) : Query where
  start := 0
  finish := n * timeDeltaMillis
  start_ge := by decide
  finish_lt := by
    unfold timeDeltaMillis
    omega
  start_lt := by
    unfold timeDeltaMillis
    omega

/-- An endpoint with one series in every window, and a remote write client. -/
def oneSeries (push : Nat → Nat → PushOutcome) : Remote Nat where
  read := fun _ => .ok [[0]]
  push := push
  marshal := fun _ => .ok []
  encode := id

/-- A push that fails is not reported, and neither is a task that is canceled after the first of
    two windows: nil is returned, and the task becomes Completed. -/
theorem import_completes_with_faults :
    ((onTaskRunning (oneSeries fun _ _ => .failed "unavailable")
        (minutes 1 (by decide) (by decide)) 2).result = some .nil ∧
      (onTaskRunning (oneSeries fun _ _ => .failed "unavailable")
        (minutes 1 (by decide) (by decide)) 2).attempts =
          [⟨0, 0, [0], .failed "unavailable"⟩] ∧
      ¬CompleteImport (oneSeries fun _ _ => .failed "unavailable")
        (minutes 1 (by decide) (by decide)) none) ∧
    ((onTaskRunning (oneSeries fun _ _ => .pushed)
        (minutes 2 (by decide) (by decide)) 3).result = some .nil ∧
      ¬CompleteImport (oneSeries fun _ _ => .pushed)
        (minutes 2 (by decide) (by decide)) (some 1)) ∧
    permit .running (runningTrigger (outcome true .nil)) = some .completed := by
  refine ⟨⟨by decide, by decide, ?_⟩, ⟨by decide, ?_⟩, rfl⟩
  · intro h
    exact (h.reports 2 .nil (by decide) (.inr (.inl ⟨_, .head _, nofun⟩))).1 rfl
  · intro h
    exact (h.reports 3 .nil (by decide) (.inr (.inr ⟨1, by decide, rfl⟩))).1 rfl

end Opni.Metrics
