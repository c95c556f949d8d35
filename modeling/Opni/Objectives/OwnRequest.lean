/-
  Opni.Objectives.OwnRequest

  When the calls of the plugin act on their own requests.  A call leaves its
  request in the backend, where its methods read it; a call that runs at the
  same time may have replaced it.
-/

import Opni.Objectives.SharedRequest

namespace Opni.Objectives.SharedRequest

open Lib Lib.Goroutines

variable {β : Type}

/-! ## The invariant of a call -/

section Invariant

variable {texts : Texts β} {n : Nat} {m : Message β} {c : Call β} {s s' : Calls β} {e : Event β}

structure Call.Untouched (r : Option (Message β)) (c : Call β) : Prop where
  request : c.request = r
  read : c.read = none
  loads : c.loads = []
  puts : c.puts = []
  queries : c.queries = []

def Task.Fits (m : Message β) : Task β → Prop
  | .create => ∃ slo, m = .createSLO slo
  | .update _ => ∃ req, m = .updateSLO req
  | .delete .. => ∃ id, m = .reference id
  | .list => ∃ query, listing m m = some query

section

variable (texts : Texts β)

/-- The work is the one that the request asks for, and `m` is what became of the request. -/
def Work.Fits (m : Message β) (plan : Plan β) (w : Work β) : Message β → Prop
  | .createSLO slo => plan = createPlan texts w.id slo ∧ m = .createSLO (texts.matched slo)
  | .updateSLO req => (∃ newId, plan = updatePlan texts newId req) ∧
      m = .updateSLO ⟨req.id, texts.matched req.slo⟩
  | .reference _ | .listServices .. | .listMetrics .. | .listEvents .. => False

section

variable (n : Nat)

section

variable (m : Message β)

structure Call.Working (w : Work β) (c : Call β) :
    Prop where
  read : c.read = some (.request n)
  source : w.source = .request n
  puts : c.puts = []
  queries : c.queries = []
  asked : ∃ r plan, c.request = some r ∧ w.Fits texts m plan r ∧ w.clusterId = plan.clusterId ∧
    w.toApply = plan.toApply

/-- The groups that it has loaded are those of the work up to `left`. -/
structure Call.Loading (w : Work β) (left : List RuleGroup) (errs : List Status) (c : Call β) :
    Prop where
  groups : c.loads.map Load.group ++ left = w.toApply
  cluster : ∀ l ∈ c.loads, l.clusterId = w.clusterId
  faults : errs = [] → ∀ l ∈ c.loads, l.fault = none

def Call.Applied (w : Work β) (c : Call β) : Prop :=
  c.Working texts n m w ∧ c.Loading w [] []

/-- A call that deletes an objective, for itself or within an `Update`. -/
def Call.Deleting (c : Call β) :
    Option (Work β) → Prop
  | none => c.Untouched (some m) ∧ ∃ id, m = .reference id
  | some w => c.Applied texts n m w

/-- The call is about to use its request, or to delete an objective. -/
def Call.Entering (c : Call β) : Task β → Prop
  | .delete _ _ within => c.Deleting texts n m within
  | task => c.Untouched (some m) ∧ task.Fits m

/-- What holds of a call whose request is now `m`. -/
def Call.Inv (c : Call β) : Prop :=
  match c.pc with
  | .idle => c.Untouched none
  | .ready task | .written task => c.Entering texts n m task
  | .loading w left errs => c.Working texts n m w ∧ c.Loading w left errs
  | .undoing w _ errs => c.Working texts n m w ∧ c.Loading w [] errs ∧ errs ≠ []
  | .finding w _ | .storing w => c.Applied texts n m w
  | .deleting _ _ within _ _ | .erasing _ within => c.Deleting texts n m within
  | .returned _ => c.Own texts n
  | .panicked => False

end

end

end

variable {w : Work β} {r : Option (Message β)} {left : List RuleGroup} {errs : List Status}
  {within : Option (Work β)} (p : Plugin β) (clusters : Except Status (List String))
  (fault : Option Status)

theorem Call.Untouched.own (h : c.Untouched r) (hpc : c.pc ≠ .panicked)
    (hdone : ∀ r result, c.request = some r → c.pc = .returned (.ok result) →
      c.Done texts result r) : c.Own texts n where
  read ref href := by rw [h.read] at href; cases href
  running := hpc
  loads l hl := by rw [h.loads] at hl; cases hl
  puts put hput := by rw [h.puts] at hput; cases hput
  queries query hquery := by rw [h.queries] at hquery; cases hquery
  done := hdone

theorem Work.Fits.asks {plan : Plan β} {r : Message β} (h : w.Fits texts m plan r) :
    r.Asks texts plan := by
  cases r with
  | createSLO slo => exact ⟨w.id, h.1⟩
  | updateSLO req => exact h.1
  | _ => exact h

theorem Call.Working.own
    (h : c.Working texts n m w) (hloading : c.Loading w left errs) (hpc : c.pc ≠ .panicked)
    (hdone : ∀ r result, c.request = some r → c.pc = .returned (.ok result) →
      c.Done texts result r) : c.Own texts n where
  read ref href := Option.some.inj (href.symm.trans h.read)
  running := hpc
  loads l hl := by
    obtain ⟨r, plan, hr, hfits, hcluster, happly⟩ := h.asked
    have hgroup : l.group ∈ w.toApply := by
      rw [← hloading.groups]
      exact List.mem_append_left _ (List.mem_map_of_mem hl)
    exact ⟨r, plan, hr, hfits.asks, (hloading.cluster l hl).trans hcluster, happly ▸ hgroup⟩
  puts put hput := by rw [h.puts] at hput; cases hput
  queries query hquery := by rw [h.queries] at hquery; cases hquery
  done := hdone

theorem Call.Deleting.own (h : c.Deleting texts n m within)
    (hpc : c.pc ≠ .panicked) (hdone : ∀ result, c.pc ≠ .returned (.ok result)) : c.Own texts n := by
  cases within with
  | none => exact h.1.own hpc fun r result _ hresult => absurd hresult (hdone result)
  | some w => exact h.1.own h.2 hpc fun r result _ hresult => absurd hresult (hdone result)

theorem Call.Inv.own (h : c.Inv texts n m) : c.Own texts n := by
  unfold Call.Inv at h
  split at h
  case h_1 hpc => exact h.own (by simp [hpc]) (by simp [hpc])
  case h_2 task hpc | h_3 task hpc =>
      cases task with
      | delete id existing within => exact h.own (by simp [hpc]) (by simp [hpc])
      | _ => exact h.1.own (by simp [hpc]) (by simp [hpc])
  case h_4 hpc => exact h.1.own h.2 (by simp [hpc]) (by simp [hpc])
  case h_5 hpc => exact h.1.own h.2.1 (by simp [hpc]) (by simp [hpc])
  case h_6 hpc | h_7 hpc => exact h.1.own h.2 (by simp [hpc]) (by simp [hpc])
  case h_8 hpc | h_9 hpc => exact h.own (by simp [hpc]) (by simp [hpc])
  case h_10 => exact h
  case h_11 => exact h.elim

/-! ## Steps keep the invariant -/

def Calls.Inv (texts : Texts β) (s : Calls β) : Prop :=
  ∀ n, (s.calls n).Inv texts n (s.messages n)

theorem Calls.Inv.update (h : s.Inv texts) (hcalls : s'.calls = Function.update s.calls n c)
    (hmessages : ∀ k ≠ n, s'.messages k = s.messages k) (hc : c.Inv texts n (s'.messages n)) :
    s'.Inv texts := by
  intro k
  by_cases hk : k = n
  · subst hk
    rw [hcalls, Function.update_self]
    exact hc
  · rw [hcalls, Function.update_of_ne hk, hmessages k hk]
    exact h k

theorem Calls.Inv.setPc (h : s.Inv texts) {pc : Pc β}
    (hc : { s.calls n with pc }.Inv texts n (s.messages n)) : (s.setPc n pc).Inv texts :=
  h.update rfl (fun _ _ => rfl) hc

theorem Call.Untouched.setPc (h : c.Untouched r) (pc : Pc β) : { c with pc }.Untouched r :=
  ⟨h.request, h.read, h.loads, h.puts, h.queries⟩

theorem Call.Working.setPc (h : c.Working texts n m w) (pc : Pc β) :
    { c with pc }.Working texts n m w :=
  ⟨h.read, h.source, h.puts, h.queries, h.asked⟩

theorem Call.Loading.setPc
    (h : c.Loading w left errs) (pc : Pc β) : { c with pc }.Loading w left errs :=
  ⟨h.groups, h.cluster, h.faults⟩

theorem Call.Applied.setPc (h : c.Applied texts n m w) (pc : Pc β) :
    { c with pc }.Applied texts n m w :=
  ⟨h.1.setPc pc, h.2.setPc pc⟩

theorem Call.Deleting.setPc (h : c.Deleting texts n m within)
    (pc : Pc β) : { c with pc }.Deleting texts n m within := by
  cases within with
  | none => exact ⟨h.1.setPc pc, h.2⟩
  | some w => exact Call.Applied.setPc h pc

theorem Call.Entering.setPc {task : Task β} (h : c.Entering texts n m task) (pc : Pc β) :
    { c with pc }.Entering texts n m task := by
  cases task with
  | delete id existing within => exact Call.Deleting.setPc h pc
  | _ => exact ⟨h.1.setPc pc, h.2⟩

variable (texts) in
theorem accept_spec (m : Message β) :
    (∃ task, accept texts p clusters fault m = .ready task ∧ task.Fits m ∧
      ∀ id existing w, task ≠ .delete id existing (some w)) ∨
    ∃ errs, accept texts p clusters fault m = .returned (.error errs) := by
  fun_cases accept texts p clusters fault m with
  | case3 slo => exact .inl ⟨_, rfl, ⟨slo, rfl⟩, fun _ _ _ => nofun⟩
  | case7 req => exact .inl ⟨_, rfl, ⟨req, rfl⟩, fun _ _ _ => nofun⟩
  | case10 id => exact .inl ⟨_, rfl, ⟨id, rfl⟩, fun _ _ _ => nofun⟩
  | case12 | case14 | case17 => exact .inl ⟨_, rfl, ⟨_, rfl⟩, fun _ _ _ => nofun⟩
  | _ => exact .inr ⟨_, rfl⟩

theorem Call.inv_accept (m : Message β) :
    ({ request := some m, pc := accept texts p clusters fault m } : Call β).Inv texts n m := by
  have huntouched : ∀ pc, ({ request := some m, pc } : Call β).Untouched (some m) :=
    fun pc => ⟨rfl, rfl, rfl, rfl, rfl⟩
  rcases accept_spec texts p clusters fault m with ⟨task, hpc, hfits, hne⟩ | ⟨errs, hpc⟩
  · rw [hpc]
    cases task with
    | delete id existing within =>
      cases within with
      | none => exact ⟨huntouched _, hfits⟩
      | some w => exact absurd rfl (hne id existing w)
    | _ => exact ⟨huntouched _, hfits⟩
  · rw [hpc]
    exact (huntouched _).own (by simp) (by simp)

variable {w : Work β} {errs : List Status} {backend : Backend} {message r : Message β}
  {plan : Plan β} {task : Task β} {key : String} {data : SLOData β} {result : Option String}

theorem found_of_readsOwn (h : s.current backend = some (.request n)) :
    s.found backend = some (.request n, s.messages n) := by
  rw [Calls.found, h]
  rfl

/-- A call that begins its work on its own request. -/
theorem Calls.Inv.begin (h : s.Inv texts) (hc : (s.calls n).Untouched (some r))
    (hsource : w.source = .request n)
    (hfits : w.Fits texts message plan r) (hcluster : w.clusterId = plan.clusterId)
    (happly : w.toApply = plan.toApply) : (s.begin n message w).Inv texts := by
  have hmessages : (s.begin n message w).messages = Function.update s.messages n message := by
    rw [Calls.begin, hsource]
    rfl
  have hcalls : (s.begin n message w).calls = Function.update s.calls n
      { s.calls n with read := some w.source, pc := .loading w w.toApply [] } := by
    rw [Calls.begin, hsource]
    rfl
  refine h.update hcalls (fun k hk => by rw [hmessages, Function.update_of_ne hk]) ?_
  rw [hmessages, Function.update_self]
  constructor
  · exact ⟨congrArg some hsource, hsource, hc.puts, hc.queries,
      ⟨r, plan, hc.request, hfits, hcluster, happly⟩⟩
  · -- nothing is loaded yet
    refine ⟨?_, ?_, ?_⟩
    · exact congrArg (List.map Load.group · ++ w.toApply) hc.loads
    · intro l hl
      rw [hc.loads] at hl
      cases hl
    · intro _ l hl
      rw [hc.loads] at hl
      cases hl

theorem Calls.Inv.invoke (h : s.Inv texts) {newId : String}
    (hc : (s.calls n).Entering texts n (s.messages n) task)
    (hown : task.reads = true → s.current task.backend = some (.request n)) :
    (s.invoke texts n newId task).Inv texts := by
  cases task with
  | create =>
    obtain ⟨huntouched, slo, hslo⟩ := hc
    have hfound : s.found .slo = some (.request n, s.messages n) := found_of_readsOwn (hown rfl)
    rw [hslo] at hfound huntouched
    rw [Calls.invoke, hfound]
    exact h.begin huntouched rfl ⟨rfl, rfl⟩ rfl rfl
  | update existing =>
    obtain ⟨huntouched, req, hreq⟩ := hc
    have hfound : s.found .slo = some (.request n, s.messages n) := found_of_readsOwn (hown rfl)
    rw [hreq] at hfound huntouched
    rw [Calls.invoke, hfound]
    exact h.begin huntouched rfl ⟨⟨newId, rfl⟩, rfl⟩ rfl rfl
  | delete id existing within => exact h.setPc (Call.Deleting.setPc hc _)
  | list =>
    obtain ⟨huntouched, query, hquery⟩ := hc
    have hfound : s.found .service = some (.request n, s.messages n) :=
      found_of_readsOwn (hown rfl)
    rw [Calls.invoke, hfound]
    dsimp only
    rw [hquery]
    refine h.update rfl (fun _ _ => rfl) ?_
    have hqueries : (s.calls n).queries ++ [query] = [query] := by
      rw [huntouched.queries]
      rfl
    exact {
      read := fun ref href => (Option.some.inj href).symm
      running := nofun
      loads := fun l hl => by
        rw [huntouched.loads] at hl
        cases hl
      puts := fun put hput => by
        rw [huntouched.puts] at hput
        cases hput
      queries := fun q hq => by
        rw [hqueries, List.mem_singleton] at hq
        exact ⟨_, huntouched.request, hq ▸ hquery⟩
      done := fun r result hr _ => by
        have hr : s.messages n = r := Option.some.inj (huntouched.request.symm.trans hr)
        subst hr
        cases hm : s.messages n with
        | listServices | listMetrics | listEvents => exact ⟨query, hm ▸ hquery, hqueries⟩
        | _ => rw [hm] at hquery; cases hquery }

theorem Calls.Inv.loadRules (h : s.Inv texts) {rules : RuleGroup} (fault : Option Status)
    (hworking : (s.calls n).Working texts n (s.messages n) w)
    (hloading : (s.calls n).Loading w (rules :: left) errs) :
    (s.loadRules n w rules left errs fault).Inv texts := by
  have hgroups : ((s.calls n).loads ++ [(⟨w.clusterId, rules, fault⟩ : Load)]).map Load.group ++
      left = w.toApply := by
    rw [← hloading.groups]
    simp
  have hcluster : ∀ l ∈ (s.calls n).loads ++ [⟨w.clusterId, rules, fault⟩],
      l.clusterId = w.clusterId := by
    intro l hl
    rcases List.mem_append.mp hl with hl | hl
    · exact hloading.cluster l hl
    · rw [List.mem_singleton.mp hl]
  have hworking (c : Call β) (hrequest : c.request = (s.calls n).request)
      (hread : c.read = (s.calls n).read) (hputs : c.puts = (s.calls n).puts)
      (hqueries : c.queries = (s.calls n).queries) : c.Working texts n (s.messages n) w :=
    ⟨hread.trans hworking.read, hworking.source, hputs.trans hworking.puts,
      hqueries.trans hworking.queries, by rw [hrequest]; exact hworking.asked⟩
  cases fault with
  | none =>
    refine h.update rfl (fun _ _ => rfl) ⟨hworking _ rfl rfl rfl rfl, hgroups, hcluster, ?_⟩
    intro herrs l hl
    rcases List.mem_append.mp hl with hl | hl
    · exact hloading.faults herrs l hl
    · rw [List.mem_singleton.mp hl]
  | some err =>
    refine h.update rfl (fun _ _ => rfl) ⟨hworking _ rfl rfl rfl rfl, hgroups, hcluster, ?_⟩
    intro herrs
    simp at herrs

theorem Call.inv_afterLoad (hworking : c.Working texts n m w)
    (hloading : c.Loading w [] errs) : { c with pc := .afterLoad w errs }.Inv texts n m := by
  unfold Pc.afterLoad
  by_cases herrs : errs = []
  · subst herrs
    rw [if_neg (by simp)]
    split
    · exact ⟨hworking.setPc _, hloading.setPc _⟩
    · split
      · exact ⟨hworking.setPc _, hloading.setPc _⟩
      · exact ⟨hworking.setPc _, hloading.setPc _⟩
  · rw [if_pos herrs]
    exact ⟨hworking.setPc _, hloading.setPc _, herrs⟩

theorem Calls.Inv.deleteRule (h : s.Inv texts) {clusterId name : String}
    {pc : List Status → Pc β} (fault : Option Status)
    (hc : ∀ errs', (errs ≠ [] → errs' ≠ []) →
      { s.calls n with pc := pc errs' }.Inv texts n (s.messages n)) :
    (s.deleteRule n clusterId name errs fault pc).Inv texts := by
  cases fault with
  | none => exact h.update rfl (fun _ _ => rfl) (hc errs id)
  | some err =>
    refine h.setPc (hc _ ?_)
    intro hne
    split
    · exact hne
    · simp

theorem Call.Deleting.inv_afterDelete (h : c.Deleting texts n m within) (errs : List Status) :
    { c with pc := .afterDelete errs within }.Inv texts n m := by
  cases within with
  | none =>
    refine Call.Untouched.own (h.1.setPc _) (by simp [Pc.afterDelete]) ?_
    intro r result hr _
    obtain ⟨huntouched, id, hid⟩ := h
    have hr : m = r := Option.some.inj (huntouched.request.symm.trans hr)
    rw [← hr, hid]
    exact ⟨huntouched.loads, huntouched.puts⟩
  | some w => exact Call.Applied.setPc h _

theorem Call.Loading.loads (h : c.Loading w [] []) :
    c.loads = w.toApply.map (⟨w.clusterId, ·, none⟩) := by
  have hgroups := h.groups
  rw [List.append_nil] at hgroups
  rw [← hgroups, List.map_map]
  have hsame : ∀ l ∈ c.loads, (⟨w.clusterId, l.group, none⟩ : Load) = l := by
    intro l hl
    rw [← h.cluster l hl, ← h.faults rfl l hl]
  exact ((List.map_congr_left hsame).trans (List.map_id _)).symm

theorem stored_eq_some (hsource : w.source = .request n)
    (hfits : w.Fits texts (s.messages n) plan r) (h : s.stored n w = some (key, data, result)) :
    key = plan.key ∧ data = plan.data ∧
      ∀ c : Call β, c.Carried plan → c.Done texts result r := by
  rw [Calls.stored, hsource, Calls.message] at h
  cases r with
  | createSLO slo =>
    obtain ⟨rfl, hmessage⟩ := hfits
    rw [hmessage] at h
    cases h
    exact ⟨rfl, rfl, fun c hcarried => ⟨w.id, rfl, hcarried⟩⟩
  | updateSLO req =>
    obtain ⟨⟨newId, rfl⟩, hmessage⟩ := hfits
    rw [hmessage] at h
    cases h
    exact ⟨rfl, rfl, fun c hcarried => ⟨newId, hcarried⟩⟩
  | _ => exact hfits.elim

theorem Call.Applied.inv_stored (h : (s.calls n).Applied texts n (s.messages n) w)
    (hstored : s.stored n w = some (key, data, result)) :
    { s.calls n with
      puts := (s.calls n).puts ++ [(key, data)]
      pc := .returned (.ok result) }.Inv texts n (s.messages n) := by
  obtain ⟨hworking, hloading⟩ := h
  obtain ⟨r, plan, hr, hfits, hcluster, happly⟩ := hworking.asked
  obtain ⟨rfl, rfl, hdone⟩ := stored_eq_some hworking.source hfits hstored
  have hputs : (s.calls n).puts ++ [(plan.key, plan.data)] = [(plan.key, plan.data)] := by
    rw [hworking.puts]
    rfl
  -- but for the objective that it has stored, the call is as before
  have hbefore : { s.calls n with pc := .storing w }.Own texts n :=
    (hworking.setPc _).own (hloading.setPc _) nofun fun _ _ _ => nofun
  exact {
    read := hbefore.read
    running := nofun
    loads := hbefore.loads
    puts := fun put hput => by
      rw [hputs, List.mem_singleton] at hput
      exact ⟨r, plan, hr, hfits.asks, hput⟩
    queries := hbefore.queries
    done := fun r' result' hr' hpc => by
      cases hpc
      cases hr.symm.trans hr'
      refine hdone _ ⟨?_, hputs⟩
      rw [← hcluster, ← happly]
      exact hloading.loads }

/-- A step whose method finds the request of its call keeps the invariant. -/
theorem Calls.Inv.step (h : s.Inv texts) (hown : ReadsOwn s e)
    (he : step texts s e = some s') : s'.Inv texts := by
  have hn := h e.number
  unfold SharedRequest.step at he
  unfold Call.Inv at hn
  split at he
  case h_1 n request clusters fault hpc =>
    cases he
    refine h.update rfl (fun k hk => Function.update_of_ne hk _ _) ?_
    show ({ request := some request, pc := _ } : Call β).Inv texts n
      (Function.update s.messages n request n)
    rw [Function.update_self]
    exact Call.inv_accept s.plugin clusters fault request
  case h_2 n task hpc =>
    cases he
    rw [hpc] at hn
    exact h.update rfl (fun _ _ => rfl) (Call.Entering.setPc hn _)
  case h_3 n newId task hpc =>
    cases he
    rw [hpc] at hn
    have hpc : (s.calls n).pc = .written task := hpc
    rw [ReadsOwn, hpc] at hown
    exact h.invoke hn hown
  case h_4 n fault w rules left errs hpc =>
    cases he
    rw [hpc] at hn
    exact h.loadRules fault hn.1 hn.2
  case h_5 n w errs hpc =>
    cases he
    rw [hpc] at hn
    exact h.setPc (Call.inv_afterLoad hn.1 hn.2)
  case h_6 n fault w name names errs hpc =>
    cases he
    rw [hpc] at hn
    obtain ⟨hworking, hloading, herrs⟩ := hn
    refine h.deleteRule fault fun errs' herrs' => ?_
    exact ⟨hworking.setPc _,
      ⟨hloading.groups, hloading.cluster, fun hnil => absurd hnil (herrs' herrs)⟩, herrs' herrs⟩
  case h_7 n w errs hpc =>
    cases he
    rw [hpc] at hn
    obtain ⟨hworking, hloading, herrs⟩ := hn
    exact h.setPc ((hworking.setPc _).own (hloading.setPc _) (by simp) (by simp))
  case h_8 n fault w existing hpc =>
    rw [hpc] at hn
    split at he
    on_goal 2 => split at he
    all_goals
      cases he
      exact h.setPc (Call.Applied.setPc hn _)
  case h_9 n fault id clusterId within name names errs hpc =>
    cases he
    rw [hpc] at hn
    exact h.deleteRule fault fun errs' _ => Call.Deleting.setPc hn _
  case h_10 n id clusterId within errs hpc =>
    cases he
    rw [hpc] at hn
    refine h.setPc ?_
    split
    · exact Call.Deleting.setPc hn _
    · exact Call.Deleting.inv_afterDelete hn errs
  case h_11 n err id within hpc =>
    cases he
    rw [hpc] at hn
    exact h.setPc (Call.Deleting.inv_afterDelete hn [err])
  case h_12 n id within hpc =>
    cases he
    rw [hpc] at hn
    exact h.update rfl (fun _ _ => rfl) (Call.Deleting.inv_afterDelete hn [])
  case h_13 n err w hpc =>
    cases he
    rw [hpc] at hn
    exact h.setPc ((hn.1.setPc _).own (hn.2.setPc _) (by simp) (by simp))
  case h_14 n w hpc =>
    rw [hpc] at hn
    split at he
    next key data result hstored =>
      cases he
      exact h.update rfl (fun _ _ => rfl) (Call.Applied.inv_stored hn hstored)
    · cases he
  case h_15 => cases he

/-! ## Calls that find another request -/

theorem current_of_found {ref : Ref}
    (h : s.found backend = some (ref, message)) : s.current backend = some ref := by
  obtain ⟨ref', hcurrent, hpair⟩ := Option.map_eq_some_iff.mp h
  exact hcurrent.trans (congrArg (some ·.1) hpair)

/-- A method that reads the request finds one, or it panics. -/
theorem invoke_read (htask : task.reads = true) (newId : String) :
    (∃ ref, s.current task.backend = some ref ∧
      ((s.invoke texts n newId task).calls n).read = some ref) ∨
    ((s.invoke texts n newId task).calls n).pc = .panicked := by
  have habort : ∀ found, ((s.abort n found).calls n).pc = .panicked := by
    simp [Calls.abort, Calls.setCall]
  have hbegin : ∀ ref message backend m work, s.found backend = some (ref, message) →
      work.source = ref → ∃ ref, s.current backend = some ref ∧
        ((s.begin n m work).calls n).read = some ref := by
    intro ref message backend m work hfound hsource
    exact ⟨ref, current_of_found hfound, by simp [Calls.begin, Calls.setCall, hsource]⟩
  fun_cases Calls.invoke texts s n newId task with
  | case1 ref slo hfound | case3 existing ref data hfound =>
    exact .inl (hbegin ref _ _ _ _ hfound rfl)
  | case5 => cases htask
  | case6 ref message hfound =>
    exact .inl ⟨ref, current_of_found hfound, by simp [Calls.setCall]⟩
  | case2 | case4 | case7 | case8 => exact .inr (habort _)

theorem readsOwn_of_own (he : step texts s e = some s') (h : ActOnOwnRequest texts s') :
    ReadsOwn s e := by
  cases e with
  | read n newId =>
    rw [ReadsOwn]
    split
    next task hpc =>
      intro htask
      have hs' : s' = s.invoke texts n newId task := by
        unfold step at he
        simp only [Event.number] at he
        rw [hpc] at he
        exact (Option.some.inj he).symm
      subst hs'
      rcases invoke_read htask newId with ⟨ref, hcurrent, hread⟩ | hpanicked
      · rw [hcurrent, (h n).read ref hread]
      · exact absurd hpanicked (h n).running
    · trivial
  | _ => trivial

end Invariant

/-! ## Results -/

theorem inv_start (texts : Texts β) (plugin : Plugin β) : Calls.Inv texts { plugin } :=
  fun _ => ⟨rfl, rfl, rfl, rfl, rfl⟩

/-- All along a run every call acts on its own request, just if every method that reads the
    request of its backend finds the one that its call has written. -/
theorem calls_act_on_own_request_iff (texts : Texts β) (plugin : Plugin β)
    (events : List (Event β)) {s' : Calls β} (hrun : run (step texts) { plugin } events = some s') :
    Always (step texts) (ActOnOwnRequest texts) { plugin } events ↔
      Throughout (step texts) ReadsOwn { plugin } events :=
  always_iff_throughout_of_invariant (fun _ h n => (h n).own)
    (fun _ _ _ h hown he => h.step hown he) (fun _ _ _ _ he hown => readsOwn_of_own he hown)
    (inv_start texts plugin) hrun

/-- Two objectives are created one after the other, and meanwhile services are listed. -/
def inTurn : List (Event Unit) :=
  [.call 0 (.createSLO (monthly "uptime" "a")) (.ok ["a", "b"]) none,
    .call 1 (.createSLO (monthly "latency" "b")) (.ok ["a", "b"]) none,
    .call 2 (.listServices "monitoring" "a") (.ok ["a", "b"]) none,
    .write 0, .write 2, .read 0 "one", .write 1, .read 2 "", .read 1 "two",
    .load 0 none, .load 1 none, .load 1 none, .load 0 none, .load 1 none, .load 0 none,
    .next 0, .next 1, .store 0 none, .store 1 none]

theorem calls_act_on_own_request_iff_inTurn :
    (run (step plainTexts) {} inTurn).isSome ∧
      Always (step plainTexts) (ActOnOwnRequest plainTexts) {} inTurn := by
  have hsome : (run (step plainTexts) {} inTurn).isSome := by decide +kernel
  obtain ⟨s, hs⟩ := Option.isSome_iff_exists.mp hsome
  exact ⟨hsome, (calls_act_on_own_request_iff plainTexts {} inTurn hs).mpr (by decide +kernel)⟩

/-- Both write their request before the first reads it. -/
def overtaken : List (Event Unit) :=
  [.call 0 (.createSLO (monthly "uptime" "a")) (.ok ["a", "b"]) none,
    .call 1 (.createSLO (monthly "latency" "b")) (.ok ["a", "b"]) none,
    .write 0, .write 1, .read 0 "one", .load 0 none, .load 0 none, .load 0 none,
    .next 0, .store 0 none]

def mixedUp : List (Event Unit) :=
  [.call 0 (.listServices "monitoring" "a") (.ok ["a", "b"]) none,
    .call 1 (.listMetrics "monitoring" "b" "nginx") (.ok ["a", "b"]) none,
    .write 0, .write 1, .read 0 ""]

/-- The first objective is stored on cluster a, and its rules, which are those of the second, are
    loaded on cluster b; and the listing of the services panics on the request for metrics. -/
theorem calls_use_other_requests :
    (∃ s, run (step plainTexts) {} overtaken = some s ∧
      (s.calls 0).pc = .returned (.ok (some "one")) ∧
      (s.calls 0).puts = [("one", ⟨"one", monthly "uptime" "a"⟩)] ∧
      (s.calls 0).loads = (rulesOf plainTexts ⟨"one", monthly "latency" "b"⟩).map (⟨"b", ·, none⟩) ∧
      ¬ActOnOwnRequest plainTexts s) ∧
    ∃ s, run (step plainTexts) {} mixedUp = some s ∧ (s.calls 0).pc = .panicked ∧
      ¬ActOnOwnRequest plainTexts s := by
  constructor
  · refine exists_run_of_isSome (by decide +kernel) fun _ =>
      ⟨by decide +kernel, by decide +kernel, by decide +kernel, fun hown => ?_⟩
    cases (hown 0).read (.request 1) (by decide +kernel)
  · exact exists_run_of_isSome (by decide +kernel) fun _ =>
      ⟨by decide +kernel, fun hown => (hown 0).running (by decide +kernel)⟩

end Opni.Objectives.SharedRequest
