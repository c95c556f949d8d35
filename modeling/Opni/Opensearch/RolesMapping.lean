/-
  Opni.Opensearch.RolesMapping

  Adding a user to the mapping of an OpenSearch role and taking one out
  (`pkg/opensearch/reconciler/reconciler.go`): both read the mapping first and
  write it back changed.
-/

import Opni.Lib.GoData

namespace Opni.Opensearch

open Lib

/-! ## The server -/

structure RoleMappingSpec where
  backendRoles : List String := []
  hosts : List String := []
  users : List String := []
deriving DecidableEq

abbrev Mappings := GoMap String RoleMappingSpec

/-- `api.Response`, with what its body decodes to as a `RoleMappingReponse`. -/
structure Response where
  statusCode : Nat
  text : String := ""
  body : Mappings := ∅

def Response.isError (r : Response) : Bool := decide (299 < r.statusCode)

/-- How the server answers a read: not at all; as it should, with 404 for a role that has no
    mapping; with a body that cannot be decoded; or with an error status. -/
inductive ReadAnswer where
  | unreachable (err : String)
  | served
  | garbled
  | refused (statusCode : Nat) (text : String) (isError : 299 < statusCode)
      (ne_notFound : statusCode ≠ 404)

variable (server : Mappings)

def getRolesMapping (role : String) : ReadAnswer → Except String Response
  | .unreachable err => .error err
  | .served =>
    match server.lookup role with
    | some mapping => .ok { statusCode := 200, body := AList.singleton role mapping }
    | none => .ok { statusCode := 404 }
  | .garbled => .ok { statusCode := 200 }
  | .refused statusCode text _ _ => .ok { statusCode, text }

abbrev WriteAnswer := Except String Response

def WriteAnswer.accepted : WriteAnswer → Bool
  | .ok resp => !resp.isError
  | .error _ => false

variable (answer : WriteAnswer)

def createRolesMapping (role : String)
    (mapping : RoleMappingSpec) : Except String Response × Mappings :=
  (answer, if answer.accepted then server.insert role mapping else server)

def deleteRolesMapping (role : String) :
    Except String Response × Mappings :=
  (answer, if answer.accepted then server.erase role else server)

/-! ## The reconciler -/

variable (read : ReadAnswer)

/-- `checkRolesMapping`: whether the user is missing, and the mapping with the user. -/
def checkRolesMapping (roleName userName : String) :
    Except String (Bool × RoleMappingSpec) :=
  match getRolesMapping server roleName read with
  | .error err => .error err
  | .ok resp =>
    if resp.statusCode = 404 then .ok (true, { users := [userName] })
    else
      -- the error of the decoder is ignored, and a missing entry is an empty mapping
      let mapping := (resp.body.lookup roleName).getD {}
      if mapping.users.any (· == userName) then .ok (false, mapping)
      else .ok (true, { mapping with users := mapping.users ++ [userName] })

def checkResponse (message : String) : Except String Response → Except String Unit
  | .error err => .error err
  | .ok resp => if resp.isError then .error (message ++ resp.text) else .ok ()

variable (write : WriteAnswer)

def maybeUpdateRolesMapping (roleName userName : String) : Except String Unit × Mappings :=
  match checkRolesMapping server read roleName userName with
  | .error err => (.error err, server)
  | .ok (false, _) => (.ok (), server)
  | .ok (true, mapping) =>
    let (resp, server) := createRolesMapping server write roleName mapping
    (checkResponse "failed to create rolesmapping: " resp, server)

variable (userName : String)

/-- The loop of `MaybeRemoveRolesMapping` that rebuilds the users. -/
def rebuildUsers (mapping : RoleMappingSpec) : List String :=
  -- for every other user it is `userName` that is appended
  mapping.users.foldl (fun users user => if user ≠ userName then users ++ [userName] else users) []

def maybeRemoveRolesMapping (roleName userName : String) : Except String Unit × Mappings :=
  match checkRolesMapping server read roleName userName with
  | .error err => (.error err, server)
  | .ok (true, _) => (.ok (), server)
  | .ok (false, mapping) =>
    let users := rebuildUsers userName mapping
    let (resp, server) :=
      if users.length = 0 then deleteRolesMapping server write roleName
      else createRolesMapping server write roleName { mapping with users }
    (checkResponse "failed to remove user role mapping: " resp, server)

/-! ## What the calls do -/

variable {server : Mappings} {read : ReadAnswer} {write : WriteAnswer} {role user : String}

def usersOf (server : Mappings) (role : String) : List String :=
  ((server.lookup role).map (·.users)).getD []

/-- The mapping that `checkRolesMapping` looks at; none if there is no answer, and an empty one
    if the answer is not a mapping. -/
def seenUsers (server : Mappings) (role : String) : ReadAnswer → Option (List String)
  | .unreachable _ => none
  | .served => some (usersOf server role)
  | .garbled | .refused _ _ _ _ => some []

/-- What `checkRolesMapping` answers. -/
inductive Checked (server : Mappings) (role user : String) :
    ReadAnswer → Except String (Bool × RoleMappingSpec) → Prop where
  | unanswered {text err : String} : Checked server role user (.unreachable text) (.error err)
  | present {mapping : RoleMappingSpec} (husers : usersOf server role = mapping.users)
      (hmem : user ∈ mapping.users) : Checked server role user .served (.ok (false, mapping))
  | absent {read : ReadAnswer} {mapping : RoleMappingSpec} {users : List String}
      (hseen : seenUsers server role read = some users) (hmem : user ∉ users)
      (husers : mapping.users = users ++ [user]) :
      Checked server role user read (.ok (true, mapping))

theorem checked (server : Mappings) (read : ReadAnswer) (role user : String) :
    Checked server role user read (checkRolesMapping server read role user) := by
  unfold checkRolesMapping
  cases read with
  | unreachable err => exact .unanswered
  | garbled => exact .absent rfl List.not_mem_nil rfl
  | refused statusCode text isError ne_notFound =>
    simp only [getRolesMapping, ne_notFound, if_false]
    exact .absent rfl List.not_mem_nil rfl
  | served =>
    simp only [getRolesMapping]
    cases hlookup : server.lookup role with
    | none =>
      have hnone : usersOf server role = [] := by simp [usersOf, hlookup]
      exact .absent (by rw [seenUsers, hnone]) List.not_mem_nil rfl
    | some mapping =>
      have husers : usersOf server role = mapping.users := by simp [usersOf, hlookup]
      have hcode : ¬(200 = 404) := by decide
      simp only [← AList.insert_empty, AList.lookup_insert, Option.getD_some, hcode, if_false]
      by_cases hmem : user ∈ mapping.users
      · rw [if_pos (by simpa using hmem)]
        exact .present husers hmem
      · rw [if_neg (by simpa using hmem)]
        exact .absent (by rw [seenUsers, husers]) hmem rfl

theorem checkResponse_eq_ok {message : String} :
    checkResponse message write = .ok () ↔ write.accepted = true := by
  cases write with
  | error err => simp [checkResponse, WriteAnswer.accepted]
  | ok resp => cases hresp : resp.isError <;> simp [checkResponse, WriteAnswer.accepted, hresp]

variable (mapping : RoleMappingSpec)

theorem rebuildUsers_eq :
    rebuildUsers userName mapping =
      List.replicate (mapping.users.countP (· ≠ userName)) userName := by
  have hloop : ∀ (users acc : List String),
      users.foldl (fun acc user => if user ≠ userName then acc ++ [userName] else acc) acc =
        acc ++ List.replicate (users.countP (· ≠ userName)) userName := by
    intro users
    induction users with
    | nil => simp
    | cons v users ih =>
      intro acc
      rw [List.foldl_cons, ih, List.countP_cons]
      by_cases hv : v ≠ userName
      · simp [hv, List.replicate_succ]
      · simp [hv]
  rw [rebuildUsers, hloop, List.nil_append]

theorem usersOf_insert : usersOf (server.insert role mapping) role = mapping.users := by
  simp [usersOf, AList.lookup_insert]

theorem usersOf_erase : usersOf (server.erase role) role = [] := by
  simp [usersOf, AList.lookup_erase]

/-! ## Only the named user -/

def ReadAnswer.IsRefused : ReadAnswer → Prop
  | .refused _ _ _ _ => True
  | .unreachable _ | .served | .garbled => False

/-- A call that should leave certain users in the role: it does if it succeeds, other roles stay
    as they are, and a refused read makes it fail without a write. -/
structure Leaves (server : Mappings) (read : ReadAnswer) (role : String) (want : String → Prop)
    (result : Except String Unit × Mappings) : Prop where
  users : result.1 = .ok () → ∀ v, v ∈ usersOf result.2 role ↔ want v
  others : ∀ role' ≠ role, result.2.lookup role' = server.lookup role'
  refused : read.IsRefused → result.1 ≠ .ok () ∧ result.2 = server

/-- When `MaybeUpdateRolesMapping` does what it should. -/
def UpdateFits (server : Mappings) (write : WriteAnswer) (role user : String) : ReadAnswer → Prop
  | .unreachable _ | .served => True
  | .garbled => write.accepted = true → ∀ v ∈ usersOf server role, v = user
  | .refused _ _ _ _ => write.accepted = false

/-- When `MaybeRemoveRolesMapping` does what it should. -/
def RemoveFits (server : Mappings) (write : WriteAnswer) (role user : String) : ReadAnswer → Prop
  | .unreachable _ => True
  | .served =>
    write.accepted = true → user ∈ usersOf server role → ∀ v ∈ usersOf server role, v = user
  | .garbled => user ∉ usersOf server role
  | .refused _ _ _ _ => False

variable (want : String → Prop)

theorem leaves_error (err : String) : Leaves server read role want (.error err, server) where
  users h := by cases h
  others _ _ := rfl
  refused _ := ⟨by simp, rfl⟩

theorem leaves_ok_iff :
    Leaves server read role want (.ok (), server) ↔
      (∀ v, v ∈ usersOf server role ↔ want v) ∧ ¬read.IsRefused := by
  constructor
  · intro h
    exact ⟨h.users rfl, fun hrefused => (h.refused hrefused).1 rfl⟩
  · rintro ⟨husers, hrefused⟩
    exact ⟨fun _ => husers, fun _ _ => rfl, fun h => absurd h hrefused⟩

theorem leaves_write_iff {want : String → Prop} {message : String} {changed : Mappings}
    (hothers : ∀ role' ≠ role, changed.lookup role' = server.lookup role') :
    Leaves server read role want
        (checkResponse message write, if write.accepted then changed else server) ↔
      (write.accepted = true → (∀ v, v ∈ usersOf changed role ↔ want v) ∧ ¬read.IsRefused) := by
  cases haccepted : write.accepted with
  | false =>
    refine iff_of_true ⟨fun h => ?_, fun _ _ => rfl, fun _ => ⟨fun h => ?_, rfl⟩⟩ (by simp)
    · rw [checkResponse_eq_ok.mp h] at haccepted
      cases haccepted
    · rw [checkResponse_eq_ok.mp h] at haccepted
      cases haccepted
  | true =>
    have hok : checkResponse message write = .ok () := checkResponse_eq_ok.mpr haccepted
    rw [hok, if_pos rfl]
    constructor
    · intro h _
      exact ⟨h.users rfl, fun hrefused => (h.refused hrefused).1 rfl⟩
    · intro h
      exact ⟨fun _ => (h rfl).1, hothers, fun hrefused => absurd hrefused (h rfl).2⟩

theorem leaves_update_iff :
    Leaves server read role (fun v => v ∈ usersOf server role ∨ v = user)
        (maybeUpdateRolesMapping server read write role user) ↔
      UpdateFits server write role user read := by
  unfold maybeUpdateRolesMapping
  generalize hresult : checkRolesMapping server read role user = result
  have hchecked := checked server read role user
  rw [hresult] at hchecked
  cases hchecked with
  | unanswered => exact iff_of_true (leaves_error _ _) trivial
  | present husers hmem =>
    -- nothing is written, and the user is there
    rw [leaves_ok_iff, husers]
    refine iff_of_true ⟨fun v => ?_, id⟩ trivial
    rw [or_iff_left_of_imp]
    rintro rfl
    exact hmem
  | absent hseen hmem husers =>
    refine (leaves_write_iff fun role' hne => AList.lookup_insert_ne hne).trans ?_
    rw [usersOf_insert, husers]
    cases read with
    | unreachable err => cases hseen
    | served =>
      cases hseen
      exact iff_of_true (fun _ => ⟨fun v => by simp, id⟩) trivial
    | garbled =>
      cases hseen
      refine forall_congr' fun _ => (and_iff_left id).trans ?_
      simp
    | refused statusCode text isError ne_notFound =>
      -- the mapping is taken for empty, and is written over
      rw [UpdateFits, ← Bool.not_eq_true]
      exact forall_congr' fun _ => iff_of_false (fun h => h.2 trivial) id

theorem mem_rebuildUsers {mapping : RoleMappingSpec} {v : String} :
    v ∈ rebuildUsers user mapping ↔ v = user ∧ ∃ w ∈ mapping.users, w ≠ user := by
  rw [rebuildUsers_eq, List.mem_replicate, ← Nat.pos_iff_ne_zero, List.countP_pos_iff]
  simp [and_comm]

theorem leaves_remove_iff :
    Leaves server read role (fun v => v ∈ usersOf server role ∧ v ≠ user)
        (maybeRemoveRolesMapping server read write role user) ↔
      RemoveFits server write role user read := by
  unfold maybeRemoveRolesMapping
  generalize hresult : checkRolesMapping server read role user = result
  have hchecked := checked server read role user
  rw [hresult] at hchecked
  cases hchecked with
  | unanswered => exact iff_of_true (leaves_error _ _) trivial
  | @present mapping husers hmem =>
    have hother : user ∈ rebuildUsers user mapping ↔ ∃ w ∈ mapping.users, w ≠ user := by
      rw [mem_rebuildUsers, and_iff_right rfl]
    dsimp only
    split
    next hnone =>
      -- there is no other user, and the mapping is deleted
      rw [List.length_eq_zero_iff] at hnone
      have hall : ∀ v ∈ mapping.users, v = user := by
        rw [hnone] at hother
        simpa using hother
      refine (leaves_write_iff fun role' hne => AList.lookup_erase_ne hne).trans ?_
      rw [usersOf_erase]
      refine iff_of_true (fun _ => ⟨fun v => ?_, id⟩) fun _ _ => husers ▸ hall
      rw [husers]
      refine iff_of_false List.not_mem_nil fun hv => hv.2 (hall v hv.1)
    next hsome =>
      -- each other user has become the one that was to be removed
      have hrest : ∃ w ∈ mapping.users, w ≠ user := by
        obtain ⟨v, hv⟩ := List.exists_mem_of_ne_nil _
          fun hnil => hsome (List.length_eq_zero_iff.mpr hnil)
        exact (mem_rebuildUsers.mp hv).2
      refine (leaves_write_iff fun role' hne => AList.lookup_insert_ne hne).trans ?_
      rw [usersOf_insert, RemoveFits, husers]
      refine forall_congr' fun _ => iff_of_false (fun h => ?_) fun h => ?_
      · exact ((h.1 user).mp (hother.mpr hrest)).2 rfl
      · obtain ⟨w, hw, hne⟩ := hrest
        exact hne (h hmem w hw)
  | absent hseen hmem husers =>
    rw [leaves_ok_iff]
    have hkept : (∀ v, v ∈ usersOf server role ↔ v ∈ usersOf server role ∧ v ≠ user) ↔
        user ∉ usersOf server role := by
      constructor
      · exact fun h hmem => ((h user).mp hmem).2 rfl
      · rintro h v
        rw [iff_self_and]
        rintro hv rfl
        exact h hv
    rw [hkept]
    cases read with
    | unreachable err => cases hseen
    | served =>
      cases hseen
      exact iff_of_true ⟨hmem, id⟩ fun _ h => absurd h hmem
    | garbled => exact and_iff_left id
    | refused statusCode text isError ne_notFound => exact iff_of_false (fun h => h.2 trivial) id

theorem maybeUpdateRolesMapping_ok (haccepted : write.accepted = true) :
    (maybeUpdateRolesMapping server .served write role user).1 = .ok () := by
  unfold maybeUpdateRolesMapping
  generalize hresult : checkRolesMapping server .served role user = result
  have hchecked := checked server .served role user
  rw [hresult] at hchecked
  cases hchecked with
  | present husers hmem => rfl
  | absent hseen hmem husers => exact checkResponse_eq_ok.mpr haccepted

/-- Which of the calls leave the users they should, whatever the answers of the server; and when
    taking out a user that was added restores the mapping. -/
theorem rolesMapping_only_named (server : Mappings) (read : ReadAnswer) (write write' : WriteAnswer)
    (role user : String) :
    (Leaves server read role (fun v => v ∈ usersOf server role ∨ v = user)
        (maybeUpdateRolesMapping server read write role user) ↔
      UpdateFits server write role user read) ∧
    (Leaves server read role (fun v => v ∈ usersOf server role ∧ v ≠ user)
        (maybeRemoveRolesMapping server read write role user) ↔
      RemoveFits server write role user read) ∧
    (user ∉ usersOf server role → write.accepted = true → write'.accepted = true →
      (Leaves (maybeUpdateRolesMapping server .served write role user).2 .served role
          (fun v => v ∈ usersOf server role)
          (maybeRemoveRolesMapping (maybeUpdateRolesMapping server .served write role user).2
            .served write' role user) ↔
        usersOf server role = [])) := by
  refine ⟨leaves_update_iff, leaves_remove_iff, fun hnot haccepted haccepted' => ?_⟩
  have hupdate : Leaves server .served role (fun v => v ∈ usersOf server role ∨ v = user)
      (maybeUpdateRolesMapping server .served write role user) := leaves_update_iff.mpr trivial
  have husers := hupdate.users (maybeUpdateRolesMapping_ok haccepted)
  generalize (maybeUpdateRolesMapping server .served write role user).2 = updated at husers ⊢
  have hwant : (fun v => v ∈ usersOf server role) =
      fun v => v ∈ usersOf updated role ∧ v ≠ user := by
    funext v
    rw [husers v, eq_iff_iff]
    constructor
    · intro hv
      exact ⟨.inl hv, fun heq => hnot (heq ▸ hv)⟩
    · rintro ⟨hv | rfl, hne⟩
      · exact hv
      · exact absurd rfl hne
  rw [hwant, leaves_remove_iff, RemoveFits, List.eq_nil_iff_forall_not_mem]
  constructor
  · intro hfits v hv
    obtain rfl := hfits haccepted' ((husers user).mpr (.inr rfl)) v ((husers v).mpr (.inl hv))
    exact hnot hv
  · intro hempty _ _ v hv
    rcases (husers v).mp hv with hold | heq
    · exact absurd hold (hempty v)
    · exact heq

def serverWith (users : List String) : Mappings := AList.singleton "role" { users }

def acceptedWrite : WriteAnswer := .ok { statusCode := 200 }

theorem rolesMapping_only_named_sample :
    Leaves (serverWith ["ann"]) .served "role"
        (fun v => v ∈ usersOf (serverWith ["ann"]) "role" ∨ v = "bob")
        (maybeUpdateRolesMapping (serverWith ["ann"]) .served acceptedWrite "role" "bob") ∧
    Leaves (serverWith ["ann"]) .served "role"
        (fun v => v ∈ usersOf (serverWith ["ann"]) "role" ∧ v ≠ "ann")
        (maybeRemoveRolesMapping (serverWith ["ann"]) .served acceptedWrite "role" "ann") ∧
    Leaves (maybeUpdateRolesMapping ∅ .served acceptedWrite "role" "bob").2 .served "role"
        (fun v => v ∈ usersOf ∅ "role")
        (maybeRemoveRolesMapping (maybeUpdateRolesMapping ∅ .served acceptedWrite "role" "bob").2
          .served acceptedWrite "role" "bob") := by
  have hann :=
    rolesMapping_only_named (serverWith ["ann"]) .served acceptedWrite acceptedWrite "role"
  have hempty := rolesMapping_only_named ∅ .served acceptedWrite acceptedWrite "role" "bob"
  refine ⟨(hann "bob").1.mpr trivial, (hann "ann").2.1.mpr ?_, (hempty.2.2 ?_ rfl rfl).mpr rfl⟩
  · intro _ _ v hv
    exact List.mem_singleton.mp hv
  · exact List.not_mem_nil

def forbidden : ReadAnswer := .refused 403 "forbidden" (by decide) (by decide)

/-- Taking out one of three users leaves that user and takes out the other two; and an update
    whose read is refused leaves the new user alone, and a removal succeeds without a write. -/
theorem rolesMapping_changes_others :
    (maybeRemoveRolesMapping (serverWith ["ann", "bob", "eve"]) .served acceptedWrite
      "role" "eve").1 =
        .ok () ∧
      usersOf (maybeRemoveRolesMapping (serverWith ["ann", "bob", "eve"]) .served acceptedWrite
        "role" "eve").2 "role" = ["eve", "eve"] ∧
    (maybeUpdateRolesMapping (serverWith ["ann", "bob"]) forbidden acceptedWrite "role" "eve").1 =
        .ok () ∧
      usersOf (maybeUpdateRolesMapping (serverWith ["ann", "bob"]) forbidden acceptedWrite
        "role" "eve").2 "role" = ["eve"] ∧
    (maybeRemoveRolesMapping (serverWith ["ann"]) forbidden acceptedWrite "role" "ann").1 =
      .ok () :=
  ⟨rfl, by decide, rfl, by decide, rfl⟩

end Opni.Opensearch
