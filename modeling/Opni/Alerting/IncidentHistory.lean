/-
  Opni.Alerting.IncidentHistory

  What the incident tracker has stored after alternating calls of
  `OpenInterval` and `CloseInterval`, compared with the incidents that the
  calls report.

  The history is right as long as no call finds an interval that it would end
  again or that it would move past its end (`recorded_iff_callOk`).
-/

import Opni.Alerting.IncidentIntervals

namespace Opni.Alerting

/-! ## Calls and incidents -/

/-- A call of `OpenInterval` or `CloseInterval`: the time it is given, and the
    clock when it prunes. -/
structure TrackerCall where
  time : Timestamp
  now : Timestamp

/-- What is stored for a condition, and whether the last call opened an interval. -/
structure IncidentTracker where
  isOpen : Bool := false
  entry : Option IncidentIntervals := none

namespace IncidentTracker

def stored (t : IncidentTracker) : IncidentIntervals := t.entry.getD []

def step (ttl : Duration) (t : IncidentTracker) (c : TrackerCall) : IncidentTracker :=
  if t.isOpen then
    ⟨false, IncidentIntervals.closeInterval ttl c.now c.time t.entry⟩
  else
    ⟨true, IncidentIntervals.openInterval ttl c.now c.time t.entry⟩

/-- Alternating calls, the first of which opens an interval. -/
def track (ttl : Duration) (calls : List TrackerCall) : IncidentTracker :=
  calls.foldl (step ttl) {}

end IncidentTracker

/-- The incidents that alternating calls report; the last may still be open. -/
def incidentsReported : List TrackerCall → List Interval
  | [] => []
  | [c] => [⟨some c.time, none⟩]
  | c :: d :: calls => ⟨some c.time, some d.time⟩ :: incidentsReported calls

/-! ## The property and the condition -/

variable (ttl : Duration) (calls : List TrackerCall)

def lastLimit : Timestamp :=
  ((calls.getLast?.map (·.now)).getD 0) - ttl

/-- After the calls the stored intervals are the incidents that were reported. -/
@[mk_iff] structure Recorded : Prop where
  records : (IncidentTracker.track ttl calls).stored.Records (lastLimit ttl calls)
    (incidentsReported calls)
  sorted : (IncidentTracker.track ttl calls).stored.Sorted

/-- A call that keeps the history: an interval is opened when the last stored one
    ends, or the limit has passed this time; and no stored interval, nor the one
    that is closed, has outlived its limit by less than a minute. -/
structure CallOk (t : IncidentTracker) (c : TrackerCall) : Prop where
  contiguous : t.isOpen = false → ∀ last, t.stored.getLast? = some last →
    last.endAt = some c.time ∨ c.time < c.now - ttl
  not_near : t.stored.NoneNear (c.now - ttl)
  closed_not_near : t.isOpen = true → ∀ last s, t.stored.getLast? = some last →
    last.startAt = some s → ¬NearLimit (c.now - ttl) s c.time

/-! ## The incidents that are reported -/

/-- The calls are made in the order of their times, with a clock that does not go
    back. -/
structure Chronological : Prop where
  times : calls.Pairwise (·.time ≤ ·.time)
  nows : calls.Pairwise (·.now ≤ ·.now)

theorem incidentsReported_append (later : List TrackerCall) : ∀ calls : List TrackerCall,
    calls.length % 2 = 0 →
    incidentsReported (calls ++ later) = incidentsReported calls ++ incidentsReported later ∧
      ∀ i ∈ incidentsReported calls, i.endAt.isSome
  | [], _ => ⟨rfl, by simp [incidentsReported]⟩
  | [_], hlen => absurd hlen (by simp)
  | d :: d' :: calls, hlen => by
      have hrest : calls.length % 2 = 0 := by
        simp only [List.length_cons] at hlen
        omega
      obtain ⟨happend, hended⟩ := incidentsReported_append later calls hrest
      refine ⟨by simp only [List.cons_append, incidentsReported, happend], ?_⟩
      rw [incidentsReported, List.forall_mem_cons]
      exact ⟨rfl, hended⟩

theorem exists_call_of_endAt : ∀ (calls : List TrackerCall) {i : Interval} {e : Timestamp},
    i ∈ incidentsReported calls → i.endAt = some e → ∃ c ∈ calls, c.time = e
  | [], _, _, hi, _ => absurd hi (by simp [incidentsReported])
  | [c], i, e, hi, he => by
      rw [incidentsReported, List.mem_singleton] at hi
      rw [hi] at he
      exact absurd he (by simp)
  | c :: d :: calls, i, e, hi, he => by
      rw [incidentsReported, List.mem_cons] at hi
      rcases hi with rfl | hi
      · exact ⟨d, by simp, Option.some.inj he⟩
      · obtain ⟨c', hc', htime⟩ := exists_call_of_endAt calls hi he
        exact ⟨c', by simp [hc'], htime⟩

namespace IncidentTracker

variable (ttl : Duration) (calls : List TrackerCall)

@[simp] theorem track_concat (c : TrackerCall) :
    track ttl (calls ++ [c]) = step ttl (track ttl calls) c := by
  rw [track, List.foldl_concat, ← track]

@[simp] theorem isOpen_step (t : IncidentTracker) (c : TrackerCall) :
    (step ttl t c).isOpen = !t.isOpen := by
  unfold step
  cases t.isOpen <;> rfl

theorem isOpen_track : (track ttl calls).isOpen = decide (calls.length % 2 = 1) := by
  induction calls using List.reverseRecOn with
  | nil => rfl
  | append_singleton calls c ih =>
    rw [track_concat, isOpen_step, ih, List.length_append, List.length_singleton]
    rcases Nat.mod_two_eq_zero_or_one calls.length with h | h
    · simp [h, Nat.add_mod]
    · simp [h, Nat.add_mod]

end IncidentTracker

/-! ## One call -/

section Step

open IncidentTracker IncidentIntervals

variable {ttl : Duration} {calls : List TrackerCall} {c : TrackerCall}

theorem Recorded.records_at (h : Recorded ttl calls) (hchron : Chronological (calls ++ [c])) :
    (track ttl calls).stored.Records (c.now - ttl) (incidentsReported calls) := by
  cases hlast : calls.getLast? with
  | none =>
    rw [List.getLast?_eq_none_iff] at hlast
    subst hlast
    exact ⟨[], [], rfl, by simp, List.Forall₂.nil⟩
  | some d =>
    apply h.records.mono
    have hle : d.now ≤ c.now := by
      have hcross := (List.pairwise_append.mp hchron.nows).2.2
      exact hcross d (List.mem_of_getLast? hlast) c (List.mem_singleton_self c)
    rw [lastLimit, hlast]
    simp only [Option.map_some, Option.getD_some]
    lia

@[simp] theorem lastLimit_concat (ttl : Duration) (calls : List TrackerCall) (c : TrackerCall) :
    lastLimit ttl (calls ++ [c]) = c.now - ttl := by
  rw [lastLimit, List.getLast?_concat]
  rfl

variable (t : IncidentTracker)

def IncidentTracker.updated (c : TrackerCall) : IncidentIntervals :=
  if t.isOpen then closed c.time t.stored else opened c.time t.stored

theorem stored_step : (step ttl t c).stored = prune ttl c.now (t.updated c) := by
  unfold step updated
  cases t.isOpen <;> rfl

theorem incidents_ended (hchron : Chronological (calls ++ [c]))
    (hisOpen : (track ttl calls).isOpen = false) {i : Interval}
    (hi : i ∈ incidentsReported calls) : ∃ e, i.endAt = some e ∧ e ≤ c.time := by
  rw [isOpen_track, decide_eq_false_iff_not] at hisOpen
  have hended := (incidentsReported_append [c] calls (by omega)).2
  obtain ⟨e, he⟩ := Option.isSome_iff_exists.mp (hended i hi)
  obtain ⟨d, hd, rfl⟩ := exists_call_of_endAt calls hi he
  refine ⟨d.time, he, ?_⟩
  exact (List.pairwise_append.mp hchron.times).2.2 d hd c (List.mem_singleton_self c)

theorem started_track (ttl : Duration) (calls : List TrackerCall) :
    (track ttl calls).stored.Started := by
  induction calls using List.reverseRecOn with
  | nil => exact fun i hi => absurd hi (by simp [track, stored])
  | append_singleton calls c ih =>
    rw [track_concat, stored_step, updated]
    apply Started.prune
    split
    · exact ih.closed c.time
    · exact (ih.opened c.time).1

theorem stored_of_isOpen (hisOpen : (track ttl calls).isOpen = true) :
    ∃ o ∈ calls, ∃ before items, calls = before ++ [o] ∧
      (track ttl calls).stored = items ++ [⟨some o.time, none⟩] := by
  induction calls using List.reverseRecOn with
  | nil => simp [track] at hisOpen
  | append_singleton calls o _ =>
    rw [track_concat, isOpen_step, Bool.not_eq_true'] at hisOpen
    obtain ⟨-, items, hopened⟩ := (started_track ttl calls).opened o.time
    have hlast := getLast?_prune_concat_open ttl o.now o.time items
    obtain ⟨kept, hkept⟩ := List.getLast?_eq_some_iff.mp hlast
    refine ⟨o, by simp, calls, kept, rfl, ?_⟩
    rw [track_concat, stored_step, updated, if_neg (by simp [hisOpen]), hopened, hkept]

/-- A call keeps the history right exactly if it is such a call. -/
theorem recorded_step_iff (h : Recorded ttl calls) (hchron : Chronological (calls ++ [c])) :
    Recorded ttl (calls ++ [c]) ↔ CallOk ttl (track ttl calls) c := by
  have hrecords := h.records_at hchron
  have hsorted := h.sorted
  rw [recorded_iff, lastLimit_concat, track_concat, stored_step, updated]
  have hlen := isOpen_track ttl calls
  cases hisOpen : (track ttl calls).isOpen with
  | false =>
    rw [hisOpen, eq_comm, decide_eq_false_iff_not] at hlen
    have hended := fun i => incidents_ended hchron hisOpen (i := i)
    rw [if_neg (by simp), (incidentsReported_append [c] calls (by omega)).1,
      incidentsReported, EndedBy.opened_iff ⟨hsorted, hrecords, hended⟩]
    apply Iff.intro
    · exact fun hok => ⟨fun _ => hok.1, hok.2, fun hopen => absurd hopen (by simp [hisOpen])⟩
    · exact fun hok => ⟨hok.contiguous hisOpen, hok.not_near⟩
  | true =>
    obtain ⟨o, ho, before, items, rfl, hstored⟩ := stored_of_isOpen hisOpen
    rw [hisOpen, eq_comm, decide_eq_true_iff, List.length_append, List.length_singleton] at hlen
    have happend := fun later => (incidentsReported_append later before (by omega)).1
    have hle : o.time ≤ c.time :=
      (List.pairwise_append.mp hchron.times).2.2 o ho c (List.mem_singleton_self c)
    rw [hstored, happend, incidentsReported] at hrecords
    rw [hstored] at hsorted
    rw [if_pos rfl, List.append_assoc, List.singleton_append, happend, incidentsReported,
      incidentsReported, hstored, closed_iff hsorted hrecords hle]
    apply Iff.intro
    · rintro ⟨hnear, hclose⟩
      rw [← hstored] at hnear
      refine ⟨fun hnot => absurd (hnot.symm.trans hisOpen) (by simp), hnear, ?_⟩
      intro _ last s hlast hs
      rw [hstored, List.getLast?_concat] at hlast
      rw [← Option.some.inj hlast] at hs
      rw [← Option.some.inj hs]
      exact hclose
    · intro hok
      have hnear := hok.not_near
      rw [hstored] at hnear
      refine ⟨hnear, hok.closed_not_near hisOpen ⟨some o.time, none⟩ o.time ?_ rfl⟩
      rw [hstored, List.getLast?_concat]

end Step

/-! ## Whole histories -/

theorem Chronological.of_prefix {calls calls' : List TrackerCall} (h : Chronological calls)
    (hpre : calls' <+: calls) : Chronological calls' :=
  ⟨h.times.sublist hpre.sublist, h.nows.sublist hpre.sublist⟩

/-- After every one of alternating calls the stored intervals are the incidents, if
    and only if each call opens its interval when the last stored one ends, or when
    the limit has passed this time, and finds no interval that has outlived the limit
    by less than a minute. -/
theorem recorded_iff_callOk (ttl : Duration) {calls : List TrackerCall}
    (hchron : Chronological calls) :
    (∀ before, before <+: calls → Recorded ttl before) ↔
      ∀ before c, before ++ [c] <+: calls → CallOk ttl (IncidentTracker.track ttl before) c := by
  apply Iff.intro
  · intro h before c hpre
    have hbefore := h before ((List.prefix_append before [c]).trans hpre)
    exact (recorded_step_iff hbefore (hchron.of_prefix hpre)).mp (h _ hpre)
  · intro h before
    induction before using List.reverseRecOn with
    | nil =>
      intro _
      have hnone : (IncidentTracker.track ttl []).stored = [] := rfl
      exact ⟨⟨[], [], rfl, by simp, .nil⟩, by simp [hnone], by simp [hnone]⟩
    | append_singleton before c ih =>
      intro hpre
      have hbefore := ih ((List.prefix_append before [c]).trans hpre)
      exact (recorded_step_iff hbefore (hchron.of_prefix hpre)).mpr (h before c hpre)

instance (limit s e : Timestamp) : Decidable (NearLimit limit s e) :=
  inferInstanceAs (Decidable (s < limit ∧ limit ≤ e ∧ e < limit + minute))

instance (t : IncidentTracker) (c : TrackerCall) : Decidable (CallOk ttl t c) :=
  decidable_of_iff
    ((t.isOpen = false → ∀ last ∈ t.stored.getLast?,
        last.endAt = some c.time ∨ c.time < c.now - ttl) ∧
      (∀ i ∈ t.stored, ∀ s ∈ i.startAt, ∀ e ∈ i.endAt, ¬NearLimit (c.now - ttl) s e) ∧
      (t.isOpen = true → ∀ last ∈ t.stored.getLast?, ∀ s ∈ last.startAt,
        ¬NearLimit (c.now - ttl) s c.time))
    ⟨fun ⟨hc, hn, hcn⟩ => ⟨hc, fun i hi s e hs he => hn i hi s hs e he,
        fun hopen last s hlast hs => hcn hopen last hlast s hs⟩,
      fun ⟨hc, hn, hcn⟩ => ⟨hc, fun i hi s hs e he => hn i hi s e hs he,
        fun hopen last hlast s hs => hcn hopen last s hlast hs⟩⟩

/-- Incidents from 0 to 1 and from 1 to 3, and one that is open since then. -/
theorem recorded_three_incidents :
    let calls : List TrackerCall := [⟨0, 10⟩, ⟨1, 10⟩, ⟨1, 10⟩, ⟨3, 12⟩, ⟨3, 12⟩]
    Chronological calls ∧ ∀ before, before <+: calls → Recorded 100 before := by
  intro calls
  have hchron : Chronological calls := ⟨by simp [calls], by simp [calls]⟩
  refine ⟨hchron, (recorded_iff_callOk 100 hchron).mpr fun before c hpre => ?_⟩
  have hall : ∀ l ∈ calls.inits, ∀ c ∈ l.getLast?,
      CallOk 100 (IncidentTracker.track 100 l.dropLast) c := by decide
  have hok := hall (before ++ [c]) ((List.mem_inits _ _).mpr hpre) c (by simp)
  rwa [List.dropLast_concat] at hok

/-- Incidents from 0 to 1 and from 5: the end of the first is stored as 5. -/
theorem openInterval_overwrites_end :
    (IncidentTracker.track 100 [⟨0, 10⟩, ⟨1, 10⟩, ⟨5, 10⟩]).stored =
        [⟨some 0, some 5⟩, ⟨some 5, none⟩] ∧
      incidentsReported [⟨0, 10⟩, ⟨1, 10⟩, ⟨5, 10⟩] = [⟨some 0, some 1⟩, ⟨some 5, none⟩] ∧
      Chronological [⟨0, 10⟩, ⟨1, 10⟩, ⟨5, 10⟩] ∧
      ¬Recorded 100 [⟨0, 10⟩, ⟨1, 10⟩, ⟨5, 10⟩] := by
  have hstored : (IncidentTracker.track 100 [⟨0, 10⟩, ⟨1, 10⟩, ⟨5, 10⟩]).stored =
      [⟨some 0, some 5⟩, ⟨some 5, none⟩] := by decide
  refine ⟨hstored, rfl, ⟨by simp, by simp⟩, ?_⟩
  intro hrecorded
  have hends := hrecorded.records.ends_suffix
  exact absurd hends (by decide)

-- The incident from 0 to 6 is closed when the limit is 5.
example : (IncidentTracker.track 10 [⟨0, 5⟩, ⟨6, 15⟩]).stored =
    [⟨some (5 + minute), some 6⟩] := by decide

end Opni.Alerting
