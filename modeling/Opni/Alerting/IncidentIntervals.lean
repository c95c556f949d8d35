/-
  Opni.Alerting.IncidentIntervals

  Sorted lists of intervals, and what `Prune`, `OpenInterval` and
  `CloseInterval` make of them.
-/

import Opni.Alerting.AlarmStorage

namespace Opni.Alerting

/-! ## Sorted intervals that stand for incidents -/

def Interval.Proper (i : Interval) : Prop :=
  ∃ s, i.startAt = some s ∧ ∀ e, i.endAt = some e → s ≤ e

/-- An interval that has ended when the other one starts. -/
def Interval.Before (i j : Interval) : Prop :=
  ∃ e s, i.endAt = some e ∧ j.startAt = some s ∧ e ≤ s

structure IncidentIntervals.Sorted (items : IncidentIntervals) : Prop where
  proper : ∀ i ∈ items, i.Proper
  before : items.Pairwise Interval.Before

variable (limit : Timestamp)

/-- A stored interval stands for an incident: it has its end, and its start, which
    may have been moved forward up to the end if it is before the limit. -/
def Interval.StandsFor (i incident : Interval) : Prop :=
  i.endAt = incident.endAt ∧ (i.startAt = incident.startAt ∨
    ∃ s s', incident.startAt = some s ∧ i.startAt = some s' ∧ s < limit ∧ s ≤ s' ∧
      ∀ e, i.endAt = some e → s' ≤ e)

def Interval.endedBefore (i : Interval) : Bool :=
  match i.endAt with
  | some e => decide (e < limit)
  | none => false

/-- The stored intervals are the incidents, in order, less some that have ended
    before the limit. -/
def IncidentIntervals.Records (items : IncidentIntervals)
    (incidents : List Interval) : Prop :=
  ∃ dropped kept, incidents = dropped ++ kept ∧ (∀ i ∈ dropped, i.endedBefore limit = true) ∧
    List.Forall₂ (Interval.StandsFor limit) items kept

/-- An interval that lasts past the limit, but by less than a minute. -/
def NearLimit (limit s e : Timestamp) : Prop := s < limit ∧ limit ≤ e ∧ e < limit + minute

/-- None of the intervals outlives the limit by less than a minute. -/
def IncidentIntervals.NoneNear (items : IncidentIntervals) : Prop :=
  ∀ i ∈ items, ∀ s e, i.startAt = some s → i.endAt = some e → ¬NearLimit limit s e

namespace IncidentIntervals

/-! ## Pruning -/

variable (limit : Timestamp)

/-- What `Prune` does to an interval that it keeps. -/
def movedStart (i : Interval) : Interval :=
  if i.startAt.getD 0 < limit ∧ i.endAt.isSome then { i with startAt := some (limit + minute) }
  else i

@[simp] theorem endAt_movedStart (i : Interval) : (movedStart limit i).endAt = i.endAt := by
  unfold movedStart
  split <;> rfl

variable {items : IncidentIntervals} {limit s now : Timestamp} {i last j : Interval}
  {incidents : List Interval} {ttl : Duration}

theorem movedStart_of_le (hs : i.startAt = some s) (hle : limit ≤ s) : movedStart limit i = i := by
  have hnot : ¬(i.startAt.getD 0 < limit ∧ i.endAt.isSome) := by
    rw [hs, Option.getD_some]
    lia
  rw [movedStart, if_neg hnot]

theorem movedStart_of_open (hopen : i.endAt = none) : movedStart limit i = i := by
  rw [movedStart, hopen, if_neg (by simp)]

theorem Sorted.tail (h : Sorted (i :: items)) : Sorted items :=
  ⟨fun j hj => h.proper j (.tail _ hj), (List.pairwise_cons.mp h.before).2⟩

theorem pruneLoop_of_le (h : items.Sorted)
    (hle : ∀ i ∈ items, ∀ s, i.startAt = some s → limit ≤ s) :
    pruneLoop limit items = (0, items) ∧ items.map (movedStart limit) = items := by
  constructor
  · cases items with
    | nil => rfl
    | cons i items =>
      obtain ⟨s, hs, -⟩ := h.proper i (by simp)
      have hlim := hle i (by simp) s hs
      rw [pruneLoop, hs, Option.getD_some, if_neg (by lia)]
  · refine (List.map_congr_left ?_).trans (List.map_id items)
    intro i hi
    obtain ⟨s, hs, -⟩ := h.proper i hi
    exact movedStart_of_le hs (hle i hi s hs)

/-- On sorted intervals `Prune` drops those that have ended before the limit, and
    moves the starts of the others that are before it. -/
theorem prune_eq (h : items.Sorted) :
    prune ttl now items =
      (items.dropWhile (Interval.endedBefore (now - ttl))).map (movedStart (now - ttl)) := by
  unfold prune
  set limit := now - ttl with hlimit
  induction items with
  | nil => rfl
  | cons i items ih =>
    obtain ⟨s, hs, hproper⟩ := h.proper i (by simp)
    have hbefore := (List.pairwise_cons.mp h.before).1
    -- the intervals after one that ends at or after the limit start there or later
    have hlater : ∀ e, i.endAt = some e → limit ≤ e →
        ∀ j ∈ items, ∀ s', j.startAt = some s' → limit ≤ s' := by
      intro e he hle j hj s' hs'
      obtain ⟨e', s'', he', hs'', hes⟩ := hbefore j hj
      rw [he] at he'
      cases he'
      lia
    rw [pruneLoop, hs, Option.getD_some]
    cases hend : i.endAt with
    | none =>
      -- only the last interval is open
      have hnil : items = [] := by
        cases items with
        | nil => rfl
        | cons j items =>
          obtain ⟨e, _, he, _⟩ := hbefore j (by simp)
          cases hend.symm.trans he
      subst hnil
      have hkeep : i.endedBefore limit = false := by rw [Interval.endedBefore, hend]
      rw [List.dropWhile_cons_of_neg (by simp [hkeep])]
      simp only [pruneLoop, List.map_cons, List.map_nil, movedStart_of_open hend]
      split <;> rfl
    | some e =>
      have hse := hproper e hend
      have hended : i.endedBefore limit = decide (e < limit) := by
        rw [Interval.endedBefore, hend]
      by_cases hlt : e < limit
      · rw [if_pos (by lia), List.dropWhile_cons_of_pos (by simp [hended, hlt]), ← ih h.tail]
        simp only [hlt, if_true, List.drop_succ_cons]
      · obtain ⟨hloop, hmoved⟩ := pruneLoop_of_le h.tail (hlater e hend (by lia))
        rw [List.dropWhile_cons_of_neg (by simp [hended, hlt]), List.map_cons, hmoved, hloop]
        by_cases hstart : s < limit
        · have hmove : movedStart limit i = { i with startAt := some (limit + minute) } := by
            rw [movedStart, hs, hend, if_pos ⟨hstart, rfl⟩]
          rw [if_pos hstart, hmove]
          simp only [hlt, hend, if_false, List.drop_zero]
        · rw [if_neg hstart, movedStart_of_le hs (by lia), List.drop_zero]

theorem getLast?_prune_concat_open (ttl : Duration) (now t : Timestamp)
    (items : IncidentIntervals) :
    (prune ttl now (items ++ [⟨some t, none⟩])).getLast? = some ⟨some t, none⟩ := by
  have hloop : ∀ limit, ∃ kept, (pruneLoop limit (items ++ [⟨some t, none⟩])).2 =
      kept ++ [⟨some t, none⟩] ∧ (pruneLoop limit (items ++ [⟨some t, none⟩])).1 ≤ kept.length := by
    intro limit
    induction items with
    | nil => exact ⟨[], by rw [List.nil_append, pruneLoop]; split <;> exact ⟨rfl, le_rfl⟩⟩
    | cons i items ih =>
      obtain ⟨kept, hkept, hle⟩ := ih
      rw [List.cons_append, pruneLoop]
      split
      · simp only [hkept]
        split
        · exact ⟨i :: kept, rfl, by rw [List.length_cons]; omega⟩
        · split
          · exact ⟨i :: kept, rfl, by rw [List.length_cons]; omega⟩
          · exact ⟨_ :: kept, rfl, by rw [List.length_cons]; omega⟩
      · exact ⟨i :: items, rfl, Nat.zero_le _⟩
  obtain ⟨kept, hkept, hle⟩ := hloop (now - ttl)
  rw [prune, hkept, List.drop_append_of_le_length hle, List.getLast?_concat]

theorem opened_concat
    (hs : last.startAt = some s) (t : Timestamp) : opened t (items ++ [last]) =
      items ++ [{ last with endAt := some t }] ++ [⟨some t, none⟩] := by
  simp only [opened, List.getLast?_concat, hs, List.dropLast_concat, List.append_assoc,
    List.cons_append, List.nil_append]

theorem closed_concat (hs : last.startAt = some s) (t : Timestamp) :
    closed t (items ++ [last]) = items ++ [{ last with endAt := some t }] := by
  simp only [closed, List.getLast?_concat, hs, List.dropLast_concat]

def Started (items : IncidentIntervals) : Prop := ∀ i ∈ items, i.startAt.isSome

theorem Started.prune (h : items.Started) (ttl : Duration)
    (now : Timestamp) : (prune ttl now items).Started := by
  have hloop : ∀ {items : IncidentIntervals} limit, items.Started →
      (pruneLoop limit items).2.Started := by
    intro items limit h
    induction items with
    | nil => exact h
    | cons i items ih =>
      obtain ⟨hi, hitems⟩ := List.forall_mem_cons.mp h
      rw [pruneLoop]
      split
      · split
        · exact List.forall_mem_cons.mpr ⟨hi, ih hitems⟩
        · split
          · exact List.forall_mem_cons.mpr ⟨hi, ih hitems⟩
          · exact List.forall_mem_cons.mpr ⟨rfl, ih hitems⟩
      · exact h
  exact fun i hi => hloop (now - ttl) h i (List.mem_of_mem_drop hi)

theorem Started.opened (h : items.Started) (t : Timestamp) :
    (opened t items).Started ∧ ∃ init, opened t items = init ++ [⟨some t, none⟩] := by
  rcases List.eq_nil_or_concat' items with rfl | ⟨init, last, rfl⟩
  · exact ⟨by simp [Started, IncidentIntervals.opened], [], rfl⟩
  · obtain ⟨hinit, hlast⟩ := List.forall_mem_append.mp h
    obtain ⟨s, hs⟩ := Option.isSome_iff_exists.mp (hlast last (List.mem_singleton_self last))
    rw [opened_concat hs]
    refine ⟨?_, _, rfl⟩
    intro i hi
    simp only [List.mem_append, List.mem_singleton] at hi
    rcases hi with (hi | rfl) | rfl
    · exact hinit i hi
    · rw [hs]
      rfl
    · rfl

theorem Started.closed (h : items.Started) (t : Timestamp) : (closed t items).Started := by
  rcases List.eq_nil_or_concat' items with rfl | ⟨init, last, rfl⟩
  · simp [Started, IncidentIntervals.closed]
  · obtain ⟨hinit, hlast⟩ := List.forall_mem_append.mp h
    obtain ⟨s, hs⟩ := Option.isSome_iff_exists.mp (hlast last (List.mem_singleton_self last))
    rw [closed_concat hs]
    refine List.forall_mem_append.mpr ⟨hinit, ?_⟩
    intro i hi
    rw [List.mem_singleton.mp hi, hs]
    rfl

/-! ## Sorted intervals -/

theorem Sorted.concat (h : items.Sorted)
    (hproper : j.Proper) (hbefore : ∀ i ∈ items, i.Before j) : Sorted (items ++ [j]) := by
  refine ⟨?_, ?_⟩
  · intro i hi
    rcases List.mem_append.mp hi with hi | hi
    · exact h.proper i hi
    · rw [List.mem_singleton.mp hi]
      exact hproper
  · rw [List.pairwise_append]
    refine ⟨h.before, List.pairwise_singleton _ _, ?_⟩
    intro i hi k hk
    rw [List.mem_singleton.mp hk]
    exact hbefore i hi

theorem Sorted.init (h : Sorted (items ++ [j])) : items.Sorted ∧ ∀ i ∈ items, i.Before j := by
  obtain ⟨hinit, -, hcross⟩ := List.pairwise_append.mp h.before
  exact ⟨⟨fun i hi => h.proper i (List.mem_append_left _ hi), hinit⟩,
    fun i hi => hcross i hi j (List.mem_singleton_self j)⟩

theorem Sorted.setLastEnd {t : Timestamp}
    (h : Sorted (items ++ [last])) (hs : last.startAt = some s) (hst : s ≤ t) :
    Sorted (items ++ [{ last with endAt := some t }]) := by
  obtain ⟨hinit, hbefore⟩ := h.init
  refine hinit.concat ⟨s, hs, ?_⟩ hbefore
  intro e he
  cases he
  exact hst

theorem mem_dropWhile_of_not (hi : i ∈ items) (hended : i.endedBefore limit = false) :
    i ∈ items.dropWhile (Interval.endedBefore limit) := by
  rw [← List.takeWhile_append_dropWhile (p := Interval.endedBefore limit) (l := items),
    List.mem_append] at hi
  apply hi.resolve_left
  intro htake
  exact absurd (List.mem_takeWhile_imp htake) (by simp [hended])

/-! ## What pruning keeps -/

theorem Records.mono {limit' : Timestamp} (h : items.Records limit incidents)
    (hle : limit ≤ limit') : items.Records limit' incidents := by
  obtain ⟨dropped, kept, happend, hdropped, hkept⟩ := h
  refine ⟨dropped, kept, happend, ?_, hkept.imp ?_⟩
  · intro i hi
    have hended := hdropped i hi
    unfold Interval.endedBefore at hended ⊢
    split at hended
    next =>
      exact decide_eq_true (by lia)
    · cases hended
  · rintro i incident ⟨hend, hstart | ⟨s, s', hs, hs', hlt, hmoved⟩⟩
    · exact ⟨hend, .inl hstart⟩
    · exact ⟨hend, .inr ⟨s, s', hs, hs', by lia, hmoved⟩⟩

theorem Records.ends_suffix (h : items.Records limit incidents) :
    items.map (·.endAt) <:+ incidents.map (·.endAt) := by
  obtain ⟨dropped, kept, rfl, -, hkept⟩ := h
  rw [← Lib.map_eq_of_forall₂ hkept fun _ _ _ hstands => hstands.1.symm, List.map_append]
  exact List.suffix_append _ _

theorem Records.concat (h : items.Records limit incidents) (i : Interval) :
    Records limit (items ++ [i]) (incidents ++ [i]) := by
  obtain ⟨dropped, kept, rfl, hdropped, hkept⟩ := h
  refine ⟨dropped, kept ++ [i], List.append_assoc _ _ _, hdropped, ?_⟩
  exact List.rel_append hkept (.cons ⟨rfl, .inl rfl⟩ .nil)

/-- An interval that is not moved past its end stands for the same incident. -/
theorem standsFor_movedStart {incident : Interval} (hproper : i.Proper)
    (h : i.StandsFor limit incident)
    (hnear : ∀ s e, i.startAt = some s → i.endAt = some e → ¬NearLimit limit s e)
    (hkept : i.endedBefore limit = false) : (movedStart limit i).StandsFor limit incident := by
  obtain ⟨s, hs, -⟩ := hproper
  cases hend : i.endAt with
  | none =>
    rw [movedStart_of_open hend]
    exact h
  | some e =>
    have hle : limit ≤ e := by
      rw [Interval.endedBefore, hend] at hkept
      lia
    by_cases hlt : s < limit
    · have hnot := hnear s e hs hend
      have hmove : movedStart limit i = { i with startAt := some (limit + minute) } := by
        rw [movedStart, hs, hend, if_pos ⟨hlt, rfl⟩]
      obtain ⟨hends, hstart⟩ := h
      -- the incident started no later than the stored interval
      have hfirst : ∃ s₀, incident.startAt = some s₀ ∧ s₀ ≤ s := by
        rcases hstart with hstart | ⟨s₀, s', hs₀, hs', -, hle', -⟩
        · exact ⟨s, hstart.symm.trans hs, le_rfl⟩
        · rw [hs] at hs'
          cases hs'
          exact ⟨s₀, hs₀, hle'⟩
      obtain ⟨s₀, hs₀, hle₀⟩ := hfirst
      rw [hmove]
      refine ⟨hends, .inr ⟨s₀, limit + minute, hs₀, rfl, by lia, ?_, ?_⟩⟩
      · have : (0 : Int) ≤ minute := by decide
        lia
      · intro e' he'
        unfold NearLimit at hnot
        lia
    · rw [movedStart_of_le hs (by lia)]
      exact h

theorem proper_movedStart (hproper : i.Proper)
    (hnear : ∀ s e, i.startAt = some s → i.endAt = some e → ¬NearLimit limit s e)
    (hkept : i.endedBefore limit = false) : (movedStart limit i).Proper := by
  obtain ⟨-, hstart⟩ := standsFor_movedStart hproper ⟨rfl, .inl rfl⟩ hnear hkept
  rcases hstart with hstart | ⟨_, s', -, hs', -, -, hle⟩
  · obtain ⟨s, hs, hend⟩ := hproper
    rw [Interval.Proper, hstart, endAt_movedStart]
    exact ⟨s, hs, hend⟩
  · exact ⟨s', hs', hle⟩

theorem before_movedStart (h : i.Before j) : (movedStart limit i).Before (movedStart limit j) := by
  obtain ⟨e, s, he, hs, hes⟩ := h
  have hstart : ∃ s', (movedStart limit j).startAt = some s' ∧ s ≤ s' := by
    unfold movedStart
    split
    next hmove =>
      rw [hs, Option.getD_some] at hmove
      have : (0 : Int) ≤ minute := by decide
      exact ⟨limit + minute, rfl, by lia⟩
    · exact ⟨s, hs, le_rfl⟩
  obtain ⟨s', hs', hle⟩ := hstart
  exact ⟨e, s', by rw [endAt_movedStart, he], hs', by lia⟩

theorem Sorted.not_ended_of_mem_dropWhile
    (h : items.Sorted) (hi : i ∈ items.dropWhile (Interval.endedBefore limit)) :
    i.endedBefore limit = false := by
  induction items with
  | nil => cases hi
  | cons j items ih =>
    cases hj : j.endedBefore limit with
    | true =>
      rw [List.dropWhile_cons_of_pos hj] at hi
      exact ih h.tail hi
    | false =>
      rw [List.dropWhile_cons_of_neg (by simp [hj]), List.mem_cons] at hi
      rcases hi with rfl | hi
      · exact hj
      · -- `j` ends before `i` starts, and not before the limit
        obtain ⟨e, s, he, hs, hes⟩ := (List.pairwise_cons.mp h.before).1 i hi
        obtain ⟨s', hs', hend⟩ := h.proper i (.tail _ hi)
        rw [Interval.endedBefore, he] at hj
        cases hi' : i.endAt with
        | none => rw [Interval.endedBefore, hi']
        | some e' =>
          have := hend e' hi'
          rw [Interval.endedBefore, hi']
          exact decide_eq_false (by lia)

theorem records_map_movedStart
    {kept : List Interval} (hsorted : items.Sorted) (hnear : items.NoneNear limit)
    (h : List.Forall₂ (Interval.StandsFor limit) items kept) :
    Records limit ((items.dropWhile (Interval.endedBefore limit)).map (movedStart limit)) kept := by
  -- the induction is for the part that is dropped; the rest stands for the rest of the incidents
  have hrest : ∀ {items : IncidentIntervals} {kept : List Interval},
      (∀ i ∈ items, i.endedBefore limit = false) → items.Sorted → items.NoneNear limit →
      List.Forall₂ (Interval.StandsFor limit) items kept →
      List.Forall₂ (Interval.StandsFor limit) (items.map (movedStart limit)) kept := by
    intro items kept hended hsorted hnear h
    induction h with
    | nil => exact List.Forall₂.nil
    | cons hstands _ ih =>
      refine List.Forall₂.cons ?_ (ih ?_ hsorted.tail ?_)
      · exact standsFor_movedStart (hsorted.proper _ (by simp)) hstands (hnear _ (by simp))
          (hended _ (by simp))
      · exact fun i hi => hended i (.tail _ hi)
      · exact fun i hi => hnear i (.tail _ hi)
  induction h with
  | nil => exact ⟨[], [], rfl, by simp, List.Forall₂.nil⟩
  | @cons i incident items kept hstands h ih =>
    cases hi : i.endedBefore limit with
    | true =>
      rw [List.dropWhile_cons_of_pos hi]
      obtain ⟨dropped, kept', rfl, hdropped, hkept⟩ :=
        ih hsorted.tail fun j hj => hnear j (.tail _ hj)
      refine ⟨incident :: dropped, kept', rfl, ?_, hkept⟩
      rw [List.forall_mem_cons]
      refine ⟨?_, hdropped⟩
      rw [Interval.endedBefore, hstands.1] at hi
      exact hi
    | false =>
      have hkeep : (i :: items).dropWhile (Interval.endedBefore limit) = i :: items :=
        List.dropWhile_cons_of_neg (by simp [hi])
      rw [hkeep]
      refine ⟨[], incident :: kept, rfl, by simp, hrest ?_ hsorted hnear (.cons hstands h)⟩
      intro j hj
      rw [← hkeep] at hj
      exact hsorted.not_ended_of_mem_dropWhile hj

/-- Pruning sorted intervals that stand for the incidents is right unless one of
    them outlives the limit by less than a minute. -/
theorem prune_iff (hsorted : items.Sorted) (hrecords : items.Records (now - ttl) incidents) :
    (prune ttl now items).Records (now - ttl) incidents ∧ (prune ttl now items).Sorted ↔
      items.NoneNear (now - ttl) := by
  rw [prune_eq hsorted]
  apply Iff.intro
  · rintro ⟨-, hpruned⟩ i hi s e hs he ⟨hlt, hle, hnear⟩
    have hended : i.endedBefore (now - ttl) = false := by
      rw [Interval.endedBefore, he]
      exact decide_eq_false (by lia)
    -- its start has been moved past its end
    obtain ⟨s', hs', hend⟩ := hpruned.proper _
      (List.mem_map_of_mem (mem_dropWhile_of_not hi hended))
    rw [endAt_movedStart] at hend
    rw [movedStart, hs, he, if_pos ⟨hlt, rfl⟩] at hs'
    have := hend e he
    lia
  · intro hnear
    obtain ⟨dropped, kept, rfl, hdropped, hkept⟩ := hrecords
    obtain ⟨dropped', kept', rfl, hdropped', hkept'⟩ := records_map_movedStart hsorted hnear hkept
    refine ⟨⟨dropped ++ dropped', kept', (List.append_assoc _ _ _).symm, ?_, hkept'⟩, ?_, ?_⟩
    · intro i hi
      exact (List.mem_append.mp hi).elim (hdropped i) (hdropped' i)
    · rw [List.forall_mem_map]
      intro i hi
      have hmem : i ∈ items := (List.dropWhile_suffix _).subset hi
      exact proper_movedStart (hsorted.proper i hmem) (hnear i hmem)
        (hsorted.not_ended_of_mem_dropWhile hi)
    · rw [List.pairwise_map]
      exact (hsorted.before.sublist (List.dropWhile_suffix _).sublist).imp before_movedStart

end IncidentIntervals

/-! ## Opening and closing intervals -/

section Update

open IncidentIntervals

variable {ttl : Duration} {now t : Timestamp} {items : IncidentIntervals}
  {incidents : List Interval}

/-- The stored intervals are the incidents, all of which have ended by the time. -/
structure EndedBy (limit t : Timestamp) (items : IncidentIntervals) (incidents : List Interval) :
    Prop where
  sorted : items.Sorted
  records : items.Records limit incidents
  ended : ∀ i ∈ incidents, ∃ e, i.endAt = some e ∧ e ≤ t

variable {limit s : Timestamp} {i last j : Interval}

theorem EndedBy.stored_ended (h : EndedBy limit t items incidents) (hi : i ∈ items) :
    ∃ e, i.endAt = some e ∧ e ≤ t := by
  obtain ⟨incident, hincident, heq⟩ :=
    List.mem_map.mp (h.records.ends_suffix.subset (List.mem_map_of_mem hi))
  rw [← heq]
  exact h.ended incident hincident

theorem endedBefore_of_le {e : Timestamp} (he : i.endAt = some e)
    (hlt : e < limit) : i.endedBefore limit = true := by
  rw [Interval.endedBefore, he]
  exact decide_eq_true hlt

theorem EndedBy.sorted_opened
    (h : EndedBy limit t (items ++ [last]) incidents) (hs : last.startAt = some s) :
    (∀ i ∈ items ++ [{ last with endAt := some t }], ∃ e, i.endAt = some e ∧ e ≤ t) ∧
      Sorted (items ++ [{ last with endAt := some t }] ++ [⟨some t, none⟩]) := by
  obtain ⟨s', hs', hproper⟩ := h.sorted.proper last (by simp)
  rw [hs] at hs'
  cases hs'
  obtain ⟨e, he, hle⟩ := h.stored_ended (i := last) (by simp)
  have hse := hproper e he
  have hended : ∀ i ∈ items ++ [{ last with endAt := some t }],
      ∃ e, i.endAt = some e ∧ e ≤ t := by
    intro i hi
    rcases List.mem_append.mp hi with hi | hi
    · exact h.stored_ended (List.mem_append_left _ hi)
    · rw [List.mem_singleton.mp hi]
      exact ⟨t, rfl, le_rfl⟩
  refine ⟨hended, (h.sorted.setLastEnd hs (by lia)).concat ⟨t, rfl, by simp⟩ ?_⟩
  intro i hi
  obtain ⟨e', he', hle'⟩ := hended i hi
  exact ⟨e', t, he', rfl, hle'⟩

theorem prune_concat_of_ended (hsorted : Sorted (items ++ [⟨some t, none⟩]))
    (hitems : ∀ i ∈ items, i.endedBefore (now - ttl) = true)
    (hincidents : ∀ i ∈ incidents, i.endedBefore (now - ttl) = true) :
    (prune ttl now (items ++ [⟨some t, none⟩])).Records (now - ttl)
        (incidents ++ [⟨some t, none⟩]) ∧
      (prune ttl now (items ++ [⟨some t, none⟩])).Sorted := by
  have hprune : prune ttl now (items ++ [⟨some t, none⟩]) = [⟨some t, none⟩] := by
    rw [prune_eq hsorted, List.dropWhile_append_of_pos hitems,
      List.dropWhile_cons_of_neg (by simp [Interval.endedBefore]), List.map_singleton,
      movedStart_of_open rfl]
  rw [hprune]
  refine ⟨⟨incidents, [_], rfl, hincidents, .cons ⟨rfl, .inl rfl⟩ .nil⟩, ?_⟩
  exact ⟨fun i hi => hsorted.proper i (List.mem_append_right _ hi), List.pairwise_singleton _ _⟩

theorem end_of_records_opened (hle : now - ttl ≤ t)
    (hsorted : Sorted (items ++ [last] ++ [j])) (hlast : last.endAt = some t)
    (h : (prune ttl now (items ++ [last] ++ [j])).Records (now - ttl)
      (incidents ++ [j])) :
    (incidents.map (·.endAt)).getLast? = some (some t) := by
  have hkept : last.endedBefore (now - ttl) = false := by
    rw [Interval.endedBefore, hlast]
    exact decide_eq_false (by lia)
  have hsuffix : [last] ++ [j] <:+
      (items ++ [last] ++ [j]).dropWhile (Interval.endedBefore (now - ttl)) := by
    rw [List.append_assoc, List.dropWhile_append]
    split
    · rw [List.singleton_append, List.dropWhile_cons_of_neg (by simp [hkept])]
    · exact List.suffix_append _ _
  have hends := h.ends_suffix
  have hmap : List.map (·.endAt) (prune ttl now (items ++ [last] ++ [j])) =
      ((items ++ [last] ++ [j]).dropWhile
        (Interval.endedBefore (now - ttl))).map (·.endAt) := by
    rw [prune_eq hsorted, List.map_map]
    exact List.map_congr_left fun i _ => endAt_movedStart _ i
  rw [hmap] at hends
  obtain ⟨front, hfront⟩ := (hsuffix.map Interval.endAt).trans hends
  simp only [List.map_append, List.map_cons, List.map_nil, hlast, ← List.append_assoc] at hfront
  rw [← List.append_cancel_right hfront, List.getLast?_concat]

/-- Opening an interval keeps the history if the last one ends then, or the limit
    has passed, and none outlives the limit by less than a minute. -/
theorem EndedBy.opened_iff (h : EndedBy (now - ttl) t items incidents) :
    (prune ttl now (opened t items)).Records (now - ttl) (incidents ++ [⟨some t, none⟩]) ∧
      (prune ttl now (opened t items)).Sorted ↔
    (∀ last, items.getLast? = some last → last.endAt = some t ∨ t < now - ttl) ∧
      items.NoneNear (now - ttl) := by
  have hrecords := h.records.concat ⟨some t, none⟩
  rcases List.eq_nil_or_concat' items with rfl | ⟨items, last, rfl⟩
  · have hsorted := h.sorted.concat (j := ⟨some t, none⟩) ⟨t, rfl, by simp⟩ (by simp)
    exact iff_of_true ((prune_iff hsorted hrecords).mpr (by simp [NoneNear]))
      ⟨by simp, by simp [NoneNear]⟩
  · obtain ⟨s, hs, -⟩ := h.sorted.proper last (by simp)
    obtain ⟨e, he, hle⟩ := h.stored_ended (i := last) (by simp)
    obtain ⟨hended, hopened⟩ := h.sorted_opened hs
    rw [opened_concat hs, List.getLast?_concat]
    by_cases hlt : t < now - ttl
    · -- everything has ended before the limit
      refine iff_of_true (prune_concat_of_ended hopened ?_ ?_) ⟨fun _ _ => .inr hlt, ?_⟩
      · intro i hi
        obtain ⟨e', he', hle'⟩ := hended i hi
        exact endedBefore_of_le he' (by lia)
      · intro i hi
        obtain ⟨e', he', hle'⟩ := h.ended i hi
        exact endedBefore_of_le he' (by lia)
      · rintro i hi s' e' - he' ⟨-, hlim, -⟩
        obtain ⟨e'', he'', hle''⟩ := h.stored_ended hi
        lia
    · by_cases het : e = t
      · -- nothing is overwritten
        subst het
        have hsame : ({ last with endAt := some e } : Interval) = last := by rw [← he]
        rw [hsame] at hopened ⊢
        rw [prune_iff hopened hrecords]
        apply Iff.intro
        · intro hnear
          refine ⟨?_, fun i hi => hnear i (List.mem_append_left _ hi)⟩
          intro last' hlast'
          rw [← Option.some.inj hlast', he]
          exact .inl rfl
        · rintro ⟨-, hnear⟩ i hi
          rcases List.mem_append.mp hi with hi | hi
          · exact hnear i hi
          · rw [List.mem_singleton.mp hi]
            exact fun _ _ _ hend => absurd hend (by simp)
      · -- the end of the last incident has been overwritten
        refine iff_of_false ?_ ?_
        · rintro ⟨hrec, -⟩
          have hlastEnd := end_of_records_opened (by lia) hopened rfl hrec
          obtain ⟨front, hfront⟩ := h.records.ends_suffix
          rw [← hfront, List.map_append, ← List.append_assoc, List.map_singleton,
            List.getLast?_concat, he] at hlastEnd
          exact het (Option.some.inj (Option.some.inj hlastEnd))
        · rintro ⟨hcontiguous, -⟩
          rcases hcontiguous last rfl with hend | hlt'
          · rw [he] at hend
            exact het (Option.some.inj hend)
          · exact hlt hlt'

theorem IncidentIntervals.Records.init
    (h : Records limit (items ++ [i]) (incidents ++ [j])) : items.Records limit incidents := by
  obtain ⟨dropped, kept, happend, hdropped, hkept⟩ := h
  rcases List.eq_nil_or_concat' kept with rfl | ⟨kept, k, rfl⟩
  · exact absurd hkept.length_eq (by simp)
  · have hlen : items.length = kept.length := by
      have := hkept.length_eq
      simp only [List.length_append, List.length_singleton] at this
      omega
    rw [← List.append_assoc] at happend
    refine ⟨dropped, kept, (List.append_inj' happend rfl).1, hdropped, ?_⟩
    have htake := List.forall₂_take_append _ _ _ hkept
    rw [← hlen, List.take_left] at htake
    exact htake

theorem closed_iff (hsorted : Sorted (items ++ [⟨some s, none⟩]))
    (hrecords : Records (now - ttl) (items ++ [⟨some s, none⟩]) (incidents ++ [⟨some s, none⟩]))
    (hst : s ≤ t) :
    (prune ttl now (closed t (items ++ [⟨some s, none⟩]))).Records (now - ttl)
        (incidents ++ [⟨some s, some t⟩]) ∧
      (prune ttl now (closed t (items ++ [⟨some s, none⟩]))).Sorted ↔
    NoneNear (now - ttl) (items ++ [⟨some s, none⟩]) ∧ ¬NearLimit (now - ttl) s t := by
  rw [closed_concat rfl, prune_iff (hsorted.setLastEnd rfl hst) (hrecords.init.concat _)]
  simp only [NoneNear, List.forall_mem_append, List.forall_mem_singleton]
  simp

end Update

end Opni.Alerting
