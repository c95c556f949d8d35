/-
  Opni.Auth.UserInfoCache

  The user infos of an OpenID provider, cached by access token
  (`pkg/auth/openid/cache.go`).
-/

import Opni.Lib.GoData

namespace Opni.Auth

open Lib

variable (α : Type)

/-- `fmt.Sprint` of a claim, and a text as the verb `%q` prints it. -/
structure ClaimTexts where
  sprint : α → String
  quote : String → String

structure UserInfo where
  raw : GoMap String α
  identifyingClaim : String

/-- `UserInfoCache`, with the claim of its configuration. -/
structure UserInfoCache where
  identifyingClaim : String
  cache : GoMap String (UserInfo α) := ∅
  knownUsers : GoMap String String := ∅

section Get

variable {α : Type} (texts : ClaimTexts α)

def UserInfo.userID (uid : UserInfo α) : Except String String :=
  match uid.raw.lookup uid.identifyingClaim with
  | some v => .ok (texts.sprint v)
  | none =>
    .error ("identifying claim " ++ texts.quote uid.identifyingClaim ++ " not found in user info")

namespace UserInfoCache

variable (c : UserInfoCache α)

/-- `Get`, where `fetched` is what the provider answers if it is asked. -/
def get (accessToken : String) (fetched : Except String (GoMap String α)) :
    UserInfoCache α × Except String (UserInfo α) :=
  match c.cache.lookup accessToken with
  | some info => (c, .ok info)
  | none =>
    match fetched with
    | .error err => (c, .error err)
    | .ok raw =>
      let info : UserInfo α := ⟨raw, c.identifyingClaim⟩
      match info.userID texts with
      | .error err => (c, .error err)
      | .ok id =>
        let (knownUsers, cache) :=
          match c.knownUsers.lookup id with
          | some previousAccessToken =>
            if previousAccessToken ≠ accessToken then
              (c.knownUsers.insert id accessToken, c.cache.erase previousAccessToken)
            else (c.knownUsers, c.cache)
          | none => (c.knownUsers.insert id accessToken, c.cache)
        ({ c with knownUsers, cache := cache.insert accessToken info }, .ok info)

/-- The calls of `Get`, one after the other. -/
def gets (calls : List (String × Except String (GoMap String α))) :
    UserInfoCache α :=
  calls.foldl (fun c call => (c.get texts call.1 call.2).1) c

/-- The cached tokens and the known users are in one-to-one correspondence. -/
structure OneTokenPerUser : Prop where
  known : ∀ token info, c.cache.lookup token = some info →
    ∃ id, info.userID texts = .ok id ∧ c.knownUsers.lookup id = some token
  cached : ∀ id token, c.knownUsers.lookup id = some token →
    ∃ info, c.cache.lookup token = some info ∧ info.userID texts = .ok id

/-- The user info of user `id` is cached under the token, and that of the token the user had
    before is not cached any more. -/
structure Refreshed (c c' : UserInfoCache α) (accessToken id : String) (info : UserInfo α) :
    Prop where
  users : ∀ user, c'.knownUsers.lookup user =
    if user = id then some accessToken else c.knownUsers.lookup user
  infos : ∀ token, c'.cache.lookup token =
    if token = accessToken then some info
    else if c.knownUsers.lookup id = some token then none else c.cache.lookup token

variable {texts} {c : UserInfoCache α} {accessToken id : String} {raw : GoMap String α}
  {info : UserInfo α}

theorem refreshed_get (hinv : c.OneTokenPerUser texts) (hnew : c.cache.lookup accessToken = none)
    (hid : (⟨raw, c.identifyingClaim⟩ : UserInfo α).userID texts = .ok id) :
    Refreshed c (c.get texts accessToken (.ok raw)).1 accessToken id ⟨raw, c.identifyingClaim⟩ := by
  unfold get
  simp only [hnew, hid]
  -- the token is not cached, so it is not the one that the user had
  have hne : c.knownUsers.lookup id ≠ some accessToken := by
    intro hknown
    obtain ⟨_, hcached, -⟩ := hinv.cached id accessToken hknown
    cases hnew.symm.trans hcached
  cases hknown : c.knownUsers.lookup id with
  | none => exact ⟨by grind, by grind⟩
  | some previousAccessToken => exact ⟨by grind, by grind⟩

theorem OneTokenPerUser.get (hinv : c.OneTokenPerUser texts) (accessToken : String)
    (fetched : Except String (GoMap String α)) :
    (c.get texts accessToken fetched).1.OneTokenPerUser texts := by
  by_cases hid : ∃ raw id, c.cache.lookup accessToken = none ∧ fetched = .ok raw ∧
      (⟨raw, c.identifyingClaim⟩ : UserInfo α).userID texts = .ok id
  · obtain ⟨raw, id, hnew, rfl, hid⟩ := hid
    obtain ⟨husers, hinfos⟩ := refreshed_get hinv hnew hid
    obtain ⟨hknown, hcached⟩ := hinv
    exact ⟨by grind, by grind⟩
  · -- nothing is written on the other paths
    have hsame : (c.get texts accessToken fetched).1 = c := by
      fun_cases UserInfoCache.get texts c accessToken fetched with
      | case4 hnew raw info id huser => exact absurd ⟨raw, id, hnew, rfl, huser⟩ hid
      | _ => rfl
    rwa [hsame]

/-- After any calls every user has one token, and the next token of a user evicts the one that the
    user had, and no other. -/
theorem get_evicts_previous (texts : ClaimTexts α) (identifyingClaim : String)
    (calls : List (String × Except String (GoMap String α))) :
    let c := (⟨identifyingClaim, ∅, ∅⟩ : UserInfoCache α).gets texts calls
    c.OneTokenPerUser texts ∧ ∀ accessToken raw id, c.cache.lookup accessToken = none →
      (⟨raw, c.identifyingClaim⟩ : UserInfo α).userID texts = .ok id →
      Refreshed c (c.get texts accessToken (.ok raw)).1 accessToken id
        ⟨raw, c.identifyingClaim⟩ := by
  intro c
  have hinv : c.OneTokenPerUser texts := by
    induction calls using List.reverseRecOn with
    | nil => exact ⟨by simp [c, gets], by simp [c, gets]⟩
    | append_singleton calls call ih =>
      show (UserInfoCache.gets texts _ (calls ++ [call])).OneTokenPerUser texts
      rw [gets, List.foldl_concat]
      exact ih.get call.1 call.2
  exact ⟨hinv, fun _ _ _ hnew hid => refreshed_get hinv hnew hid⟩

end UserInfoCache

end Get

end Opni.Auth
