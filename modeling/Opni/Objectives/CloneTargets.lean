/-
  Opni.Objectives.CloneTargets

  Which calls of `CloneToClusters` make one objective for each target.  The
  goroutines of the targets share one request, so what holds of one that is
  alone is more (`Job.Inv`).
-/

import Opni.Objectives.MetricGroups

namespace Opni.Objectives.MultiClusterClone

open Lib Lib.Interleave Objectives.SharedRequest Function

/-! ## Rounds -/

section Rounds

variable {text : SLO Details → String → String} {newIds : Nat → String} {idx i : Nat}
  {clusters : List String} {data : SLOData Details} {job : Job}

theorem length_cloneLoop :
    (cloneLoop text newIds idx clusters data).1.length = clusters.length := by
  induction clusters generalizing idx data with
  | nil => rfl
  | cons c clusters ih => rw [cloneLoop, List.length_cons, List.length_cons, ih]

theorem job_of_cloneLoop (h : (cloneLoop text newIds idx clusters data).1[i]? = some job) :
    clusters[i]? = some job.clusterId ∧
      job.toApply.map (·.name) = groupNames (newIds (idx + i)) := by
  induction clusters generalizing idx i data with
  | nil => cases h
  | cons c clusters ih =>
    cases i with
    | zero =>
      cases h
      exact ⟨rfl, rfl⟩
    | succ i =>
      have hjob := ih h
      rw [List.getElem?_cons_succ, show idx + (i + 1) = idx + 1 + i by omega]
      exact hjob

theorem clusterId_cloneLoop :
    (cloneLoop text newIds idx clusters data).2.slo.clusterId = data.slo.clusterId := by
  induction clusters generalizing idx data with
  | nil => rfl
  | cons c clusters ih => rw [cloneLoop, ih]

theorem cloneLoop_concat {c : String} :
    (cloneLoop text newIds idx (clusters ++ [c]) data).2 =
      ⟨newIds (idx + clusters.length),
        { (cloneLoop text newIds idx clusters data).2.slo with
          name := cloneName (cloneLoop text newIds idx clusters data).2.slo.name
            (idx + clusters.length) }⟩ := by
  induction clusters generalizing idx data with
  | nil => rfl
  | cons c' clusters ih =>
    rw [List.cons_append, cloneLoop, ih, List.length_cons, cloneLoop,
      show idx + 1 + clusters.length = idx + (clusters.length + 1) by omega]

theorem length_cloneName (name : String) (idx : Nat) :
    name.length < (cloneName name idx).length := by
  have hseven : "-clone-".length = 7 := by decide
  rw [cloneName, String.length_append, String.length_append, hseven]
  omega

theorem length_name_cloneLoop :
    data.slo.name.length + clusters.length ≤
      (cloneLoop text newIds idx clusters data).2.slo.name.length := by
  induction clusters generalizing idx data with
  | nil => exact Nat.le_refl _
  | cons c clusters ih =>
    have hlonger := length_cloneName data.slo.name idx
    refine Nat.le_trans ?_ ih
    rw [List.length_cons]
    dsimp only
    omega

end Rounds

/-! ## Goroutines -/

section Goroutines

variable {env : Env} {d : Details} {job : Job} {fault : Option Status} {sh sh' : Shared} {pc : Pc}
  {alone : Prop} {tenant : String}

def Job.Loaded (job : Job) (groups : Groups) (loaded : List RuleGroup) : Prop :=
  ∀ g ∈ loaded, groups (job.clusterId, g.name) = some g

/-- What holds where a goroutine is; one that is alone has also read its own requests. -/
def Job.Inv (env : Env) (d : Details) (job : Job) (alone : Prop) (sh : Shared) : Pc → Prop
  | .start | .failed _ | .panicked => True
  | .askServices => job.clusterId ∈ env.clusterIds
  | .listServices =>
    job.clusterId ∈ env.clusterIds ∧ (alone → sh.current = some job.servicesRequest)
  | .askMetrics => job.clusterId ∈ env.clusterIds ∧
      (alone → d.serviceId ∈ env.services job.clusterId)
  | .listMetrics => job.clusterId ∈ env.clusterIds ∧
      (alone → d.serviceId ∈ env.services job.clusterId ∧ sh.current = some (job.metricsRequest d))
  | .loading left errs => job.clusterId ∈ env.clusterIds ∧ (alone → env.Offers d job.clusterId) ∧
      ∃ loaded, job.toApply = loaded ++ left ∧ (errs = [] → job.Loaded sh.groups loaded)
  | .undoing names _ => names ⊆ job.toApply.map (·.name)
  | .applied => job.clusterId ∈ env.clusterIds ∧ (alone → env.Offers d job.clusterId) ∧
      job.Loaded sh.groups job.toApply

theorem inv_checkServices (hexists : job.clusterId ∈ env.clusterIds)
    (htenant : alone → tenant = job.clusterId) :
    job.Inv env d alone sh (job.checkServices env d fault tenant) := by
  unfold Job.checkServices
  split
  · trivial
  · split
    · trivial
    next hservice =>
      refine ⟨hexists, fun hal => ?_⟩
      rw [← htenant hal]
      simpa [serviceListContainsId] using hservice

theorem inv_checkMetrics {serviceId : String} (hexists : job.clusterId ∈ env.clusterIds)
    (hservice : alone → d.serviceId ∈ env.services job.clusterId)
    (htenant : alone → tenant = job.clusterId ∧ serviceId = d.serviceId) :
    job.Inv env d alone sh (job.checkMetrics env d fault tenant serviceId) := by
  unfold Job.checkMetrics
  split
  · trivial
  · dsimp only
    split
    · trivial
    next hgood =>
      split
      · trivial
      next htotal =>
        rw [Bool.not_eq_false, containsId_scoredLabels] at hgood htotal
        refine ⟨hexists, fun hal => ?_, [], rfl, fun _ => nofun⟩
        obtain ⟨rfl, rfl⟩ := htenant hal
        exact ⟨hservice hal, hgood.1, htotal.1⟩

/-- A step keeps what holds for its own goroutine. -/
theorem Job.Inv.next (h : job.Inv env d alone sh pc) (hnodup : (job.toApply.map (·.name)).Nodup) :
    job.Inv env d alone (job.next env d fault sh pc).1 (job.next env d fault sh pc).2 := by
  fun_cases job.next env d fault sh pc with
  | case1 _ hexists => exact hexists
  | case3 => exact ⟨h, fun _ => rfl⟩
  | case4 _ tenant hlisting =>
    refine inv_checkServices h.1 fun hal => ?_
    rw [h.2 hal] at hlisting
    cases hlisting
    rfl
  | case6 => exact ⟨h.1, fun hal => ⟨h.2 hal, rfl⟩⟩
  | case7 _ tenant serviceId hlisting =>
    refine inv_checkMetrics h.1 (fun hal => (h.2 hal).1) fun hal => ?_
    rw [(h.2 hal).2] at hlisting
    cases hlisting
    exact ⟨rfl, rfl⟩
  | case9 rules left errs =>
    obtain ⟨hexists, hoffers, loaded, hsplit, hloaded⟩ := h
    refine ⟨hexists, hoffers, loaded ++ [rules], by simp [hsplit], fun herrs g hg => ?_⟩
    rcases List.mem_append.mp hg with hg | hg
    · -- an earlier group has another name
      have hname : g.name ≠ rules.name := by
        rw [hsplit, List.map_append, List.nodup_append] at hnodup
        exact hnodup.2.2 _ (List.mem_map_of_mem hg) _ (by simp)
      exact (update_of_ne (by simpa using hname) ..).trans (hloaded herrs g hg)
    · obtain rfl := List.mem_singleton.mp hg
      exact update_self ..
  | case10 rules left errs err =>
    obtain ⟨hexists, hoffers, loaded, hsplit, -⟩ := h
    exact ⟨hexists, hoffers, loaded ++ [rules], by simp [hsplit], by simp⟩
  | case11 =>
    obtain ⟨hexists, hoffers, loaded, hsplit, hloaded⟩ := h
    rw [List.append_nil] at hsplit
    exact ⟨hexists, hoffers, hsplit ▸ hloaded rfl⟩
  | case12 => exact List.Subset.refl _
  | case13 | case14 => exact (List.cons_subset.mp h).2
  | case16 => exact h
  | _ => trivial

/-- A step changes the groups of its job only. -/
theorem Job.Inv.groups_next (h : job.Inv env d alone sh pc) {k : String × String}
    (hk : k.2 ∉ job.toApply.map (·.name)) :
    (job.next env d fault sh pc).1.groups k = sh.groups k := by
  have hne {name : String} (hname : name ∈ job.toApply.map (·.name)) :
      k ≠ (job.clusterId, name) := by
    rintro rfl
    exact hk hname
  fun_cases job.next env d fault sh pc with
  | case9 rules left errs =>
    obtain ⟨-, -, loaded, hsplit, -⟩ := h
    exact update_of_ne (hne (by simp [hsplit])) ..
  | case13 name names errs => exact update_of_ne (hne (h List.mem_cons_self)) ..
  | _ => rfl

theorem Job.Inv.frame (h : job.Inv env d alone sh pc) (hcurrent : alone → sh'.current = sh.current)
    (hgroups : ∀ name ∈ job.toApply.map (·.name),
      sh'.groups (job.clusterId, name) = sh.groups (job.clusterId, name)) :
    job.Inv env d alone sh' pc := by
  have hloaded {loaded : List RuleGroup} (hsub : loaded ⊆ job.toApply)
      (hold : job.Loaded sh.groups loaded) : job.Loaded sh'.groups loaded := by
    intro g hg
    rw [hgroups _ (List.mem_map_of_mem (hsub hg))]
    exact hold g hg
  cases pc with
  | listServices => exact ⟨h.1, fun hal => (hcurrent hal).trans (h.2 hal)⟩
  | listMetrics => exact ⟨h.1, fun hal => ⟨(h.2 hal).1, (hcurrent hal).trans (h.2 hal).2⟩⟩
  | loading left errs =>
    obtain ⟨hexists, hoffers, loaded, hsplit, hold⟩ := h
    exact ⟨hexists, hoffers, loaded, hsplit, fun herrs =>
      hloaded (hsplit ▸ List.subset_append_left loaded left) (hold herrs)⟩
  | applied => exact ⟨h.1, h.2.1, hloaded (List.Subset.refl _) h.2.2⟩
  | start | askServices | askMetrics | undoing | failed | panicked => exact h

structure JobsDistinct (jobs : List Job) : Prop where
  nodup : ∀ (i : Nat) (job : Job), jobs[i]? = some job → (job.toApply.map (·.name)).Nodup
  disjoint : ∀ (i j : Nat) (job job' : Job), jobs[i]? = some job → jobs[j]? = some job' → i ≠ j →
    ∀ name ∈ job.toApply.map (·.name), name ∉ job'.toApply.map (·.name)

variable (env d) in
/-- In every run it holds for each of the goroutines. -/
theorem inv_run {jobs : List Job} (hjobs : JobsDistinct jobs) (sh : Shared)
    (events : List (Nat × Option Status)) {i : Nat} (hi : jobs[i]? = some job) :
    job.Inv env d (jobs.length = 1)
      (Interleave.run (goroutine env d jobs) ⟨sh, fun _ => .start⟩ events).shared
      ((Interleave.run (goroutine env d jobs) ⟨sh, fun _ => .start⟩ events).procs i) := by
  induction events using List.reverseRecOn generalizing i job with
  | nil => trivial
  | append_singleton events e ih =>
    obtain ⟨j, fault⟩ := e
    rw [run_concat]
    generalize Interleave.run (goroutine env d jobs) ⟨sh, fun _ => .start⟩ events = c at ih
    cases hj : jobs[j]? with
    | none =>
      have hne : i ≠ j := by
        rintro rfl
        rw [hi] at hj
        cases hj
      have hshared : (Interleave.step (goroutine env d jobs) c (j, fault)).shared = c.shared := by
        rw [Interleave.step, goroutine, hj]
      rw [hshared, procs_step_of_ne _ _ _ hne]
      exact ih hi
    | some job' =>
      have hshared : (Interleave.step (goroutine env d jobs) c (j, fault)).shared =
          (job'.next env d fault c.shared (c.procs j)).1 := by
        rw [Interleave.step, goroutine, hj]
      by_cases hij : i = j
      · subst hij
        cases hi.symm.trans hj
        have hproc : (Interleave.step (goroutine env d jobs) c (i, fault)).procs i =
            (job.next env d fault c.shared (c.procs i)).2 := by
          rw [procs_step_self, goroutine, hj]
        rw [hshared, hproc]
        exact (ih hi).next (hjobs.nodup i job hi)
      · rw [hshared, procs_step_of_ne _ _ _ hij]
        refine (ih hi).frame (fun hal => ?_) fun name hname => ?_
        · -- two different jobs
          have hi' := (List.getElem?_eq_some_iff.mp hi).1
          have hj' := (List.getElem?_eq_some_iff.mp hj).1
          omega
        · exact (ih hj).groups_next (hjobs.disjoint i j job job' hi hj hij name hname)

end Goroutines

/-! ## Store -/

theorem storeClones_ok {puts : Nat → Option Status} {data : SLOData Details} {idx : Nat}
    {results : List (String × Option (List Status))} {p p' : Plugin Details}
    {before failures : List (List Status)}
    (h : storeClones puts data idx results p before = (p', .ok failures)) :
    p'.groups = p.groups ∧ failures = before ++ results.filterMap Prod.snd ∧
      ∀ key, (p'.slos key = some data ∧ ∃ id, (id, none) ∈ results ∧ key = sloKey id) ∨
        (p'.slos key = p.slos key ∧ ∀ id, (id, none) ∈ results → key ≠ sloKey id) := by
  induction results generalizing idx p before with
  | nil =>
    cases h
    exact ⟨rfl, by simp, fun key => .inr ⟨rfl, fun _ => nofun⟩⟩
  | cons r results ih =>
    obtain ⟨id, errs⟩ := r
    cases errs with
    | some errs =>
      obtain ⟨hgroups, hfailures, hslos⟩ := ih h
      refine ⟨hgroups, by simp [hfailures], fun key => ?_⟩
      simpa using hslos key
    | none =>
      rw [storeClones] at h
      split at h
      · cases h
      · obtain ⟨hgroups, hfailures, hslos⟩ := ih h
        refine ⟨hgroups, by simp [hfailures], fun key => ?_⟩
        rcases hslos key with ⟨hdata, id', hid', hkey⟩ | ⟨hkept, hother⟩
        · exact .inl ⟨hdata, id', .tail _ hid', hkey⟩
        · by_cases hkey : key = sloKey id
          · refine .inl ⟨?_, id, .head _, hkey⟩
            rw [hkept, hkey]
            exact update_self ..
          · refine .inr ⟨?_, fun id' hid' => ?_⟩
            · rw [hkept]
              exact update_of_ne hkey ..
            · rcases List.mem_cons.mp hid' with heq | hid'
              · cases heq
                exact hkey
              · exact hother id' hid'

/-! ## Results -/

section Results

variable {text : SLO Details → String → String} {newIds : Nat → String} {env : Env}
  {current : Option (Message Details)} {events : List (Nat × Option Status)} {req : CloneRequest}
  {source : SLOData Details} {p p' : Plugin Details} {failures : List (List Status)}
  {parseDuration : String → Option Int} {faults : CloneFaults} {i : Nat} {l : List Nat}
  {P : Nat → Prop}

theorem jobsDistinct_cloneLoop (hfresh : FreshIds newIds p) (clusters : List String)
    (data : SLOData Details) : JobsDistinct (cloneLoop text newIds 0 clusters data).1 where
  nodup i job hi := by
    rw [(job_of_cloneLoop hi).2]
    exact nodup_groupNames _
  disjoint i j job job' hi hj hij name hname hname' := by
    rw [(job_of_cloneLoop hi).2, Nat.zero_add] at hname
    rw [(job_of_cloneLoop hj).2, Nat.zero_add] at hname'
    exact hij (hfresh.distinct i j (congrArg sloKey (eq_of_mem_groupNames hname hname')))

theorem exists_job_of_applied (hfresh : FreshIds newIds p)
    (h : Applied text newIds env current events req source p i) :
    ∃ job, (cloneLoop text newIds 0 req.clusters (clonedData source)).1[i]? = some job ∧
      req.clusters[i]? = some job.clusterId ∧ job.clusterId ∈ env.clusterIds ∧
      (req.clusters.length = 1 → env.Offers source.slo.rest job.clusterId) ∧
      job.Loaded (cloneRun text newIds env source req.clusters events
        ⟨current, p.groups⟩).shared.groups job.toApply := by
  have hlength : i < (cloneLoop text newIds 0 req.clusters (clonedData source)).1.length := by
    rw [length_cloneLoop]
    exact h.1
  have hjob := List.getElem?_eq_getElem hlength
  have hdistinct : JobsDistinct (cloneLoop text newIds 0 req.clusters (clonedData source)).1 :=
    jobsDistinct_cloneLoop hfresh _ _
  have hinv := inv_run env (clonedData source).slo.rest hdistinct ⟨current, p.groups⟩ events hjob
  have happlied := h.2
  unfold cloneRun at happlied
  rw [happlied, length_cloneLoop] at hinv
  obtain ⟨hexists, hoffers, hloaded⟩ := hinv
  refine ⟨_, hjob, (job_of_cloneLoop hjob).1, hexists, fun hone => ?_, hloaded⟩
  simpa [Env.Offers, clonedData] using hoffers hone

theorem filterMap_eq_map_filter {f : Nat → Option (List Status)} [DecidablePred P]
    (h : ∀ i ∈ l, f i = none ↔ P i) :
    l.filterMap f = (l.filter fun i => ¬P i).map fun i => (f i).getD [] := by
  rw [← List.filterMap_eq_map, List.filterMap_filter]
  refine List.filterMap_congr fun i hi => ?_
  by_cases hP : P i
  · simp [(h i hi).mpr hP, hP]
  · obtain ⟨errs, hf⟩ := Option.ne_none_iff_exists'.mp (mt (h i hi).mp hP)
    simp [hf, hP]

/-- The ways to return without an error. -/
theorem cloneToClusters_ok (hsource : p.slos (sloKey req.cloneId) = some source)
    (h : cloneToClusters text newIds parseDuration env current faults events req p =
      some (p', .ok failures)) :
    (∃ err, env.clusters = .error err ∧ p' = p ∧ failures = [[err]]) ∨
      (∃ ids, env.clusters = .ok ids) ∧
      let c := cloneRun text newIds env source req.clusters events ⟨current, p.groups⟩
      (∀ i < req.clusters.length, (c.procs i).finished = true) ∧
      storeClones faults.put (cloneLoop text newIds 0 req.clusters (clonedData source)).2 0
        ((List.range req.clusters.length).map fun i => (newIds i, (c.procs i).error))
        { p with groups := c.shared.groups } [] = (p', .ok failures) := by
  have hexisting {existing : SLOData Details}
      (hget : p.get faults.get req.cloneId = .ok existing) : existing = source :=
    Option.some.inj ((get_eq_ok_iff.mp hget).2.symm.trans hsource)
  revert h
  fun_cases cloneToClusters text newIds parseDuration env current faults events req p with
  | case4 existing hget _ _ err hclusters =>
    rintro ⟨⟩
    exact .inl ⟨err, hclusters, rfl, rfl⟩
  | case5 existing hget _ _ ids hclusters _ hfinished =>
    obtain rfl := hexisting hget
    exact fun h => .inr ⟨⟨ids, hclusters⟩, hfinished, Option.some.inj h⟩
  | _ => exact nofun

open Classical in
/-- What the store holds after the goroutines have returned. -/
theorem stored_of_finished {c : Config Nat Shared Pc}
    (hc : cloneRun text newIds env source req.clusters events ⟨current, p.groups⟩ = c)
    (hfinished : ∀ i < req.clusters.length, (c.procs i).finished = true)
    (h : storeClones faults.put (cloneLoop text newIds 0 req.clusters (clonedData source)).2 0
      ((List.range req.clusters.length).map fun i => (newIds i, (c.procs i).error))
      { p with groups := c.shared.groups } [] = (p', .ok failures)) :
    p'.groups = c.shared.groups ∧
    (∃ message : Nat → List Status, failures = ((List.range req.clusters.length).filter
      fun i => ¬Applied text newIds env current events req source p i).map message) ∧
    (∀ i, Applied text newIds env current events req source p i → p'.slos (sloKey (newIds i)) =
      some (cloneLoop text newIds 0 req.clusters (clonedData source)).2) ∧
    ∀ key, (∀ i, Applied text newIds env current events req source p i → key ≠ sloKey (newIds i)) →
      p'.slos key = p.slos key := by
  obtain ⟨hgroups, hfailures, hslos⟩ := storeClones_ok h
  have herror (i : Nat) (hi : i < req.clusters.length) :
      (c.procs i).error = none ↔ Applied text newIds env current events req source p i := by
    have herror : (c.procs i).error = none ↔ c.procs i = .applied := by
      cases hpc : c.procs i with
      | applied | failed errs => simp [Pc.error]
      | _ => cases hpc ▸ hfinished i hi
    rw [herror, Applied, hc]
    exact (and_iff_right hi).symm
  have happlied (id : String) :
      (id, none) ∈ (List.range req.clusters.length).map (fun i => (newIds i, (c.procs i).error)) ↔
        ∃ i, Applied text newIds env current events req source p i ∧ newIds i = id := by
    simp only [List.mem_map, List.mem_range, Prod.mk.injEq]
    constructor
    · rintro ⟨i, hi, hid, hnone⟩
      exact ⟨i, (herror i hi).mp hnone, hid⟩
    · rintro ⟨i, hi, hid⟩
      exact ⟨i, hi.1, hid, (herror i hi.1).mpr hi⟩
  refine ⟨hgroups, ?_, fun i hi => ?_, fun key hkey => ?_⟩
  · refine ⟨fun i => (c.procs i).error.getD [], hfailures.trans ?_⟩
    rw [List.nil_append, List.filterMap_map]
    exact filterMap_eq_map_filter fun i hi => herror i (List.mem_range.mp hi)
  · rcases hslos (sloKey (newIds i)) with ⟨hdata, -⟩ | ⟨-, hother⟩
    · exact hdata
    · exact absurd rfl (hother _ ((happlied _).mpr ⟨i, hi, rfl⟩))
  · rcases hslos key with ⟨-, id, hid, rfl⟩ | ⟨hkept, -⟩
    · obtain ⟨i, hi, rfl⟩ := (happlied id).mp hid
      exact absurd rfl (hkey i hi)
    · exact hkept

theorem iff_of_length_filter {Q : Nat → Prop} [DecidablePred P] [DecidablePred Q]
    (hPQ : ∀ i, P i → Q i) (h : (l.filter fun i => ¬Q i).length = (l.filter fun i => ¬P i).length)
    (hi : i ∈ l) (hQ : Q i) : P i := by
  have hsub : (l.filter fun i => ¬Q i).Sublist (l.filter fun i => ¬P i) := by
    refine List.monotone_filter_right l fun j hj => ?_
    simp only [decide_not, Bool.not_eq_true', decide_eq_false_iff_not] at hj ⊢
    exact fun hP => hj (hPQ j hP)
  have heq := hsub.eq_of_length h
  by_contra hP
  have hmem : i ∈ l.filter fun i => ¬P i := List.mem_filter.mpr ⟨hi, by simpa using hP⟩
  rw [← heq] at hmem
  exact absurd hQ (by simpa using (List.mem_filter.mp hmem).2)

/-- The message of the last round is a clone only of a single target, the cluster of the
    objective. -/
theorem eq_singleton_of_clone (hfresh : FreshIds newIds p) {c : String}
    (hi : req.clusters[i]? = some c)
    (hid : (cloneLoop text newIds 0 req.clusters (clonedData source)).2.id = newIds i)
    (hcluster : (cloneLoop text newIds 0 req.clusters (clonedData source)).2.slo.clusterId = c)
    (hname : (cloneLoop text newIds 0 req.clusters (clonedData source)).2.slo.name =
      cloneName source.slo.name i) :
    req.clusters = [source.slo.clusterId] := by
  rw [clusterId_cloneLoop] at hcluster
  rcases List.eq_nil_or_concat req.clusters with hnil | ⟨init, last, hlast⟩
  · rw [hnil] at hi
    cases hi
  · rw [List.concat_eq_append] at hlast
    rw [hlast, cloneLoop_concat, Nat.zero_add] at hid hname
    have hindex : init.length = i := hfresh.distinct _ _ (congrArg sloKey hid)
    rw [← hindex] at hname hi
    have hinit : (cloneLoop text newIds 0 init (clonedData source)).2.slo.name =
        source.slo.name := by
      rw [cloneName, cloneName, String.append_assoc, String.append_assoc] at hname
      exact (String.append_left_inj _).mp hname
    -- the name has grown in each of the rounds before
    have hlonger : (clonedData source).slo.name.length + init.length ≤
        (cloneLoop text newIds 0 init (clonedData source)).2.slo.name.length :=
      length_name_cloneLoop
    have hfirst : (clonedData source).slo.name = source.slo.name := rfl
    rw [hinit, hfirst] at hlonger
    obtain rfl : init = [] := List.eq_nil_of_length_eq_zero (by omega)
    rw [hlast] at hi ⊢
    cases hi
    rw [← hcluster]
    rfl

theorem not_succeeds_of_error {err : Status} (h : env.clusters = .error err) (i : Nat) :
    ¬Succeeds text newIds env current events req source p i := by
  rintro ⟨-, c, -, hexists, -⟩
  rw [Env.clusterIds, h] at hexists
  cases hexists

section

variable (hsource : p.slos (sloKey req.cloneId) = some source) (hfresh : FreshIds newIds p)
  (h : cloneToClusters text newIds parseDuration env current faults events req p =
    some (p', .ok failures))

include hsource hfresh h

theorem cloneFits_of_cloned
    (hcloned : ClonedToClusters text newIds env current events req source p p' failures) :
    CloneFits text newIds env current events req source p := by
  classical
  obtain ⟨message, hfailures⟩ := hcloned.failures
  rcases cloneToClusters_ok hsource h with ⟨err, hclusters, -, hone⟩ | ⟨⟨ids, hclusters⟩, hfin, hst⟩
  · refine ⟨fun _ _ => ?_, ?_⟩
    · have hlength := congrArg List.length (hone.symm.trans hfailures)
      simpa [not_succeeds_of_error hclusters] using hlength.symm
    · rintro ⟨i, hi⟩
      obtain ⟨job, -, -, hexists, -⟩ := exists_job_of_applied hfresh hi
      rw [Env.clusterIds, hclusters] at hexists
      cases hexists
  · refine ⟨fun err herr => ?_, ?_⟩
    · rw [hclusters] at herr
      cases herr
    · rintro ⟨i, hi⟩
      obtain ⟨-, ⟨message', hfailures'⟩, hdata, -⟩ := stored_of_finished rfl hfin hst
      have hlength := congrArg List.length (hfailures'.symm.trans hfailures)
      rw [List.length_map, List.length_map] at hlength
      have hsucceeds : Succeeds text newIds env current events req source p i :=
        iff_of_length_filter (fun _ hs => hs.1) hlength (List.mem_range.mpr hi.1) hi
      obtain ⟨c, hc, -⟩ := hsucceeds.2
      obtain ⟨data, hstored, hid, hcluster, hname, -⟩ := hcloned.stored i c hc hsucceeds
      cases (hdata i hi).symm.trans hstored
      exact eq_singleton_of_clone hfresh hc hid hcluster hname

theorem cloned_of_cloneFits (hfits : CloneFits text newIds env current events req source p) :
    ClonedToClusters text newIds env current events req source p p' failures := by
  classical
  rcases cloneToClusters_ok hsource h with ⟨err, hclusters, rfl, rfl⟩ | ⟨-, hfin, hst⟩
  · -- there is no goroutine
    have hfails := @not_succeeds_of_error text newIds env current events req source p' _ hclusters
    refine {
      stored := fun i _ _ hi => absurd hi (hfails i), others := fun _ _ => rfl,
      failures := ⟨fun _ => [err], ?_⟩, source := hsource }
    simp [hfails, hfits.1 err hclusters]
  · obtain ⟨hgroups, hfailures, hdata, hothers⟩ := stored_of_finished rfl hfin hst
    have hsucceeds (i : Nat) (hi : Applied text newIds env current events req source p i) :
        Succeeds text newIds env current events req source p i := by
      obtain ⟨job, -, hc, hexists, hoffers, -⟩ := exists_job_of_applied hfresh hi
      exact ⟨hi, _, hc, hexists, hoffers (by rw [hfits.2 ⟨i, hi⟩]; rfl)⟩
    have hiff (i : Nat) : Applied text newIds env current events req source p i ↔
        Succeeds text newIds env current events req source p i := ⟨hsucceeds i, And.left⟩
    refine { stored := fun i c hc hi => ?_, others := ?_, failures := ?_, source := ?_ }
    · have hreq := hfits.2 ⟨i, hi.1⟩
      obtain ⟨job, hjob, hc', -, -, hloaded⟩ := exists_job_of_applied hfresh hi.1
      cases hc.symm.trans hc'
      rw [hreq] at hc hjob
      have hzero : i = 0 := by
        have hlt := (List.getElem?_eq_some_iff.mp hc).1
        rw [List.length_singleton] at hlt
        omega
      subst hzero
      refine ⟨_, hdata 0 hi.1, ?_⟩
      rw [hreq, hgroups]
      cases hjob
      exact ⟨rfl, rfl, rfl, hloaded⟩
    · intro key hkey
      exact hothers key fun i hi => hkey i (hsucceeds i hi)
    · simpa only [hiff] using hfailures
    · rw [hothers _ fun i _ hkey => ?_, hsource]
      rw [hkey, hfresh.unused i] at hsource
      cases hsource

end

/-- A call that returns without an error makes one objective for each target that succeeds, and one
    failure for each other, just if `ListClusters` fails for a single target only, and rules are
    applied only if there is a single target, the cluster of the objective itself. -/
theorem clonedToClusters_iff (text : SLO Details → String → String) (newIds : Nat → String)
    (parseDuration : String → Option Int) (env : Env) (current : Option (Message Details))
    (faults : CloneFaults) (events : List (Nat × Option Status)) (req : CloneRequest)
    (source : SLOData Details) (p p' : Plugin Details) (failures : List (List Status))
    (hsource : p.slos (sloKey req.cloneId) = some source) (hfresh : FreshIds newIds p)
    (h : cloneToClusters text newIds parseDuration env current faults events req p =
      some (p', .ok failures)) :
    ClonedToClusters text newIds env current events req source p p' failures ↔
      CloneFits text newIds env current events req source p :=
  ⟨cloneFits_of_cloned hsource hfresh h, cloned_of_cloneFits hsource hfresh h⟩

end Results

/-! ## Cases -/

def cloneSource : SLOData Details := ⟨"0", requestsSLO [⟨"code", some ["200"]⟩] []⟩

def clonePlugin : Plugin Details := ({} : Plugin Details).put "0" cloneSource

theorem slos_clonePlugin : clonePlugin.slos (sloKey "0") = some cloneSource := by
  simp [clonePlugin, Plugin.put]

def cloneEnv : Env where
  clusters := .ok ["a", "b", "c"]
  services tenant := if tenant = "c" then [] else ["nginx"]
  series tenant _ := if tenant = "c" then [] else ["http_requests_total"]
  filters := [⟨"network metrics", [⟨fun _ => true, 10⟩], []⟩]
  orders := ⟨Scheduler.inOrder _, Scheduler.inOrder _⟩

def cloneIds (i : Nat) : String := String.ofList (List.replicate (i + 1) 'x')

theorem sloKey_of_plain {id : String} (h : PlainName id) : sloKey id = ⟨true, ["slos", id]⟩ := by
  have hdir : cleanPath "/slos" = ⟨true, ["slos"]⟩ := by decide
  rw [sloKey, joinPath_name h, hdir]
  rfl

theorem plainName_cloneIds (i : Nat) : PlainName (cloneIds i) := by
  refine plainName_of_chars ?_ ?_
  · simp [cloneIds, List.replicate_succ]
  · intro c hc
    simp only [cloneIds, String.toList_ofList, List.mem_replicate] at hc
    rw [hc.2]
    decide

theorem freshIds_cloneIds : FreshIds cloneIds clonePlugin where
  distinct i j h := by
    rw [sloKey_of_plain (plainName_cloneIds i), sloKey_of_plain (plainName_cloneIds j)] at h
    have hids : cloneIds i = cloneIds j := by simpa using h
    have hlength := congrArg (fun s => s.toList.length) hids
    simpa [cloneIds] using hlength
  unused i := by
    have hne : sloKey (cloneIds i) ≠ sloKey "0" := by
      rw [sloKey_of_plain (plainName_cloneIds i), sloKey_of_plain (by decide)]
      simp [cloneIds, List.replicate_succ, ← String.toList_inj]
    exact update_of_ne hne ..

def cloneSteps (i : Nat) : List (Nat × Option Status) := List.replicate 9 (i, none)

def cloneText (_ : SLO Details) (name : String) : String := name

theorem eq_some_get {α β : Type} {result : Option (α × β)} {b : β} (h : result.isSome = true)
    (hb : (result.get h).2 = b) : result = some ((result.get h).1, b) :=
  hb ▸ (Option.some_get h).symm

theorem clonedToClusters_iff_own :
    ∃ p' failures, cloneToClusters cloneText cloneIds monthDuration cloneEnv none {}
        (cloneSteps 0) ⟨"0", ["a"]⟩ clonePlugin = some (p', .ok failures) ∧
      Applied cloneText cloneIds cloneEnv none (cloneSteps 0) ⟨"0", ["a"]⟩ cloneSource
        clonePlugin 0 ∧
      ClonedToClusters cloneText cloneIds cloneEnv none (cloneSteps 0) ⟨"0", ["a"]⟩
        cloneSource clonePlugin p' failures := by
  refine ⟨_, [], eq_some_get (by decide +kernel) (by decide +kernel),
    ⟨by decide, by decide +kernel⟩, ?_⟩
  have hfits : CloneFits cloneText cloneIds cloneEnv none (cloneSteps 0) ⟨"0", ["a"]⟩ cloneSource
      clonePlugin := by
    refine ⟨fun err herr => ?_, fun _ => rfl⟩
    cases herr
  exact (clonedToClusters_iff cloneText cloneIds monthDuration cloneEnv none {} (cloneSteps 0)
    ⟨"0", ["a"]⟩ cloneSource clonePlugin _ [] slos_clonePlugin freshIds_cloneIds
    (eq_some_get _ (by decide +kernel))).mpr hfits

/-- Both targets succeed: what is stored under the id of the first has the id of the second, the
    cluster of the source and both suffixes.  A single target has the wrong cluster.  When
    `ListClusters` fails there is one failure for two targets.  When the requests cross, rules are
    applied on cluster c, which does not have the service, or a goroutine panics. -/
theorem clones_share_message :
    (∃ p', cloneToClusters cloneText cloneIds monthDuration cloneEnv none {}
        (cloneSteps 0 ++ cloneSteps 1) ⟨"0", ["a", "b"]⟩ clonePlugin = some (p', .ok []) ∧
      (p'.slos (sloKey (cloneIds 0))).map
        (fun data => (data.id, data.slo.clusterId, data.slo.name)) =
        some (cloneIds 1, "a", "uptime-clone-0-clone-1") ∧
      ¬ClonedToClusters cloneText cloneIds cloneEnv none (cloneSteps 0 ++ cloneSteps 1)
        ⟨"0", ["a", "b"]⟩ cloneSource clonePlugin p' []) ∧
    (∃ p', cloneToClusters cloneText cloneIds monthDuration cloneEnv none {}
        (cloneSteps 0) ⟨"0", ["b"]⟩ clonePlugin = some (p', .ok []) ∧
      ¬ClonedToClusters cloneText cloneIds cloneEnv none (cloneSteps 0)
        ⟨"0", ["b"]⟩ cloneSource clonePlugin p' []) ∧
    (∃ err, cloneToClusters cloneText cloneIds monthDuration
        { cloneEnv with clusters := .error err } none {} [] ⟨"0", ["a", "b"]⟩ clonePlugin =
          some (clonePlugin, .ok [[err]]) ∧
      ¬ClonedToClusters cloneText cloneIds { cloneEnv with clusters := .error err } none []
        ⟨"0", ["a", "b"]⟩ cloneSource clonePlugin clonePlugin [[err]]) ∧
    Applied cloneText cloneIds cloneEnv none
      ([1, 1, 0, 0, 1, 0, 1, 0, 1, 1, 1, 1, 1].map (·, none)) ⟨"0", ["b", "c"]⟩ cloneSource
      clonePlugin 1 ∧
    (cloneRun cloneText cloneIds cloneEnv cloneSource ["a", "b"]
      ([0, 0, 1, 1, 1, 1, 0].map (·, none)) ⟨none, clonePlugin.groups⟩).procs 0 = .panicked := by
  have hnot {steps : List (Nat × Option Status)} {clusters : List String} {p' : Plugin Details}
      (hresult : cloneToClusters cloneText cloneIds monthDuration cloneEnv none {} steps
        ⟨"0", clusters⟩ clonePlugin = some (p', .ok []))
      (happlied : Applied cloneText cloneIds cloneEnv none steps ⟨"0", clusters⟩ cloneSource
        clonePlugin 0) (hne : clusters ≠ ["a"]) :
      ¬ClonedToClusters cloneText cloneIds cloneEnv none steps ⟨"0", clusters⟩ cloneSource
        clonePlugin p' [] := fun hcloned =>
    have hfits : CloneFits cloneText cloneIds cloneEnv none steps ⟨"0", clusters⟩ cloneSource
        clonePlugin := cloneFits_of_cloned slos_clonePlugin freshIds_cloneIds hresult hcloned
    hne (hfits.2 ⟨0, happlied⟩)
  refine ⟨?_, ?_, ?_, ⟨by decide, by decide +kernel⟩, by decide +kernel⟩
  · refine ⟨_, eq_some_get (by decide +kernel) (by decide +kernel), by decide +kernel, ?_⟩
    exact hnot (eq_some_get _ (by decide +kernel)) ⟨by decide, by decide +kernel⟩ (by decide)
  · refine ⟨_, eq_some_get (by decide +kernel) (by decide +kernel), ?_⟩
    exact hnot (eq_some_get _ (by decide +kernel)) ⟨by decide, by decide +kernel⟩ (by decide)
  · have hreturns (err : Status) : cloneToClusters cloneText cloneIds monthDuration
        { cloneEnv with clusters := .error err } none {} [] ⟨"0", ["a", "b"]⟩ clonePlugin =
          some (clonePlugin, .ok [[err]]) := by
      have hget := get_eq_ok_iff.mpr ⟨rfl, slos_clonePlugin⟩
      have hvalid : validate monthDuration cloneSource.slo = none := by decide +kernel
      unfold cloneToClusters
      rw [hget]
      dsimp only
      rw [hvalid]
      rfl
    refine ⟨⟨.unavailable, "down"⟩, hreturns _, fun hcloned => ?_⟩
    have hfits : CloneFits cloneText cloneIds { cloneEnv with clusters := .error _ } none []
        ⟨"0", ["a", "b"]⟩ cloneSource clonePlugin :=
      cloneFits_of_cloned slos_clonePlugin freshIds_cloneIds (hreturns _) hcloned
    cases hfits.1 _ rfl

end Opni.Objectives.MultiClusterClone
