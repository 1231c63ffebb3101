import FlightBookings.Auth.Service

/-! # Where a call of the authentication service stands

A call learns the session that it is about, passes the checks of its request,
deletes the id of the old token and stores the id of a new one. What it may
await next is decided by how much of that it has done.
-/

namespace FlightBookings.Auth

open Await

/-- What a call knows: its request, the session that it is about, the id that it drew for a new
token, and what it has done so far. -/
structure Progress where
  request : Request
  pair : Option (Int × String)
  drawn : Option String
  validated : Bool
  deleted : Bool
  inserted : Bool
  ended : Bool

/-- The token that a refresh presents. -/
def Request.refresh : Request → Option RefreshTokenDto
  | .refreshTokens dto => some dto
  | _ => none

def Request.isSignIn : Request → Bool
  | .signIn _ _ => true
  | _ => false

def Request.isSignOut : Request → Bool
  | .signOut _ => true
  | _ => false

def Request.progress (request : Request) : Progress where
  request := request
  pair :=
    match request with
    | .signOut dto => some (dto.userId, dto.deviceId)
    | _ => none
  drawn := none
  validated := false
  deleted := false
  inserted := false
  ended := false

/-- The id that is stored is the one of the token. -/
def isCurrent (stored : Option String) (tokenId : String) : Bool :=
  ¬(orElse stored "" = "" ∨ stored ≠ some tokenId)

theorem eq_of_isCurrent {stored : Option String} {tokenId : String}
    (h : isCurrent stored tokenId = true) : stored = some tokenId := by
  have hcurrent : ¬(orElse stored "" = "" ∨ stored ≠ some tokenId) := of_decide_eq_true h
  by_cases heq : stored = some tokenId
  · exact heq
  · exact absurd (.inr heq) hcurrent

/-- What the reply of an operation tells. -/
def Progress.learn (k : Progress) : (op : Op) → op.Ret → Progress
  | .findUserByEmail _, found =>
      match k.request, found with
      | .signIn dto _, some user =>
          { k with pair := some (user.id, dto.deviceId), validated := user.storedHash.isNone }
      | _, _ => k
  | .compare _ _, isMatch =>
      { k with validated := isMatch, ended := !isMatch }
  | .findUserById _, user =>
      match k.request with
      | .refreshTokens dto =>
          { k with pair := some (user.id, dto.effectiveDeviceId dto.refreshToken.claims) }
      | _ => k
  | .get (.refreshToken _ _), stored =>
      match k.request with
      | .refreshTokens dto =>
          { k with validated := isCurrent stored dto.refreshToken.claims.refreshTokenId }
      | _ => k
  | .del _, _ => { k with deleted := true }
  | .randomUUID, uuid => { k with drawn := some uuid }
  | .set (.refreshToken _ _) _ _, _ => { k with inserted := true }
  | .set (.blacklist _) _ _, _ => { k with ended := k.request.isSignOut }
  | _, _ => k

def advance (op : Op) (r : Except Exception op.Ret) (k : Progress) : Progress :=
  match r with
  | .ok a => k.learn op a
  | .error _ => { k with ended := true }

/-- How far call `i` is. -/
def progressOf (config : JwtConfig) (past : List Event) (i : Nat) : Option Progress :=
  (service config).trace Request.progress advance i past

/-- Nothing has come of the call so far. -/
structure Progress.Untouched (k : Progress) : Prop where
  drawn : k.drawn = none
  validated : k.validated = false
  deleted : k.deleted = false
  inserted : k.inserted = false
  ended : k.ended = false

/-- The call has come through with its checks, and given up its old token if it has one. -/
structure Progress.Ready (k : Progress) : Prop where
  validated : k.validated = true
  deleted : k.request.refresh.isSome = true → k.deleted = true
  inserted : k.inserted = false
  ended : k.ended = false

/-- The call may delete the id of its session. -/
structure Progress.MayDelete (k : Progress) : Prop where
  drawn : k.drawn = none
  validated : k.request.isSignOut = false → k.validated = true
  deleted : k.deleted = false
  inserted : k.inserted = false
  ended : k.ended = false

/-- What a call may do where it stands. -/
def Next (k : Progress) : Op → Prop
  | .findUserByEmail _ => k.Untouched ∧ k.pair = none
  | .findUserById id => k.Untouched ∧ k.pair = none ∧
      ∃ dto, k.request = .refreshTokens dto ∧ id = dto.refreshToken.claims.sub
  | .compare _ _ => k.Untouched ∧ k.request.isSignIn = true
  | .verifyRefresh token =>
      k.ended = false ∧ ∃ dto, k.request = .refreshTokens dto ∧ token = dto.refreshToken
  | .get (.refreshToken userId deviceId) => k.Untouched ∧ k.pair = some (userId, deviceId) ∧
      (k.request.refresh.isSome = true ∨ k.request.isSignOut = true)
  | .del key => k.MayDelete ∧ ∃ userId deviceId, key = .refreshToken userId deviceId ∧
      k.pair = some (userId, deviceId)
  | .randomUUID => k.Ready ∧ k.drawn = none
  | .signRefresh claims _ => k.Ready ∧ k.drawn = some claims.refreshTokenId ∧
      k.pair = some (claims.sub, claims.deviceId)
  | .set (.refreshToken userId deviceId) value seconds =>
      k.Ready ∧ k.drawn = some value ∧ k.pair = some (userId, deviceId) ∧ 0 < seconds
  | .set (.blacklist _) _ _ => k.deleted = true ∧ k.drawn = none ∧ k.ended = false
  | .saveAudit _ => k.request.isSignOut = false
  | _ => k.ended = false

/-- What the replies say beyond their types. -/
def Answers : (op : Op) → Except Exception op.Ret → Prop
  | .findUserById id, .ok user => User.id user = id
  | .verifyRefresh token, .ok claims => claims = token.claims
  | _, _ => True

/-- What a call knows when it has returned. -/
def Returns (k : Progress) : Option Tokens → Prop
  | some _ => k.validated = true ∧ k.inserted = true ∧ ∀ dto, k.request.refresh = some dto →
      k.deleted = true ∧ k.pair = some (dto.refreshToken.claims.sub,
        dto.effectiveDeviceId dto.refreshToken.claims)
  | none => k.request.isSignOut = true → k.deleted = true ∧ k.ended = true

/-! ## The requests follow it -/

abbrev Follows {α : Type} (c : Call α) (k : Progress) (Q : α → Unit → Progress → Prop) : Prop :=
  c.Ensures (tracked (fun op k => Next k op) (fun op r => Answers op r) advance) () k Q
    fun _ _ => True

variable {config : JwtConfig} {k : Progress} {α : Type} {dto : RefreshTokenDto}

theorem await_follows {op : Op} {Q : op.Ret → Unit → Progress → Prop} (hnext : Next k op)
    (h : ∀ a, Answers op (.ok a) → Q a () (k.learn op a)) : Follows (Call.await op) k Q := by
  refine ⟨hnext, ?_⟩
  intro r hr
  cases r with
  | ok a => exact h a hr
  | error e => trivial

/-- A step that neither asks for anything nor tells anything. -/
theorem plain_follows {op : Op} {Q : op.Ret → Unit → Progress → Prop} (hnext : Next k op)
    (hlearn : ∀ (k : Progress) a, k.learn op a = k) (h : ∀ a, Q a () k) :
    Follows (Call.await op) k Q := by
  refine await_follows hnext ?_
  intro a _
  rw [hlearn]
  exact h a

theorem generateTokens_follows {user : User} {deviceId : String} {ip : Option String}
    (hready : k.Ready) (hkind : k.request.isSignOut = false) (hdrawn : k.drawn = none) (hpair : k.pair = some (user.id, deviceId)) :
    Follows (generateTokens config user deviceId ip) k fun _ _ k' =>
      ∃ tokenId, k' = { k with drawn := some tokenId, inserted := true } := by
  refine .bind (await_follows ⟨hready, hdrawn⟩ fun tokenId _ => ?_)
  have hready' : (k.learn .randomUUID tokenId).Ready := ⟨hready.1, hready.2, hready.3, hready.4⟩
  refine .bind (plain_follows hready.ended (fun _ _ => rfl) fun accessToken => ?_)
  refine .bind (await_follows ⟨hready', rfl, hpair⟩ fun refreshToken _ => ?_)
  refine .bind (await_follows ⟨hready', rfl, hpair, config.refreshTokenTtl_pos⟩ fun _ _ => ?_)
  refine .bind (plain_follows hkind (fun _ _ => rfl) fun _ => ?_)
  exact .pure ⟨tokenId, rfl⟩

theorem signIn_follows {dto : SignInDto} {ip : Option String} :
    Follows (signIn config dto ip) (Request.signIn dto ip).progress fun tokens _ k =>
      Returns k (some tokens) := by
  have hstart : (Request.signIn dto ip).progress.Untouched := ⟨rfl, rfl, rfl, rfl, rfl⟩
  refine .bind (await_follows ⟨hstart, rfl⟩ fun found _ => ?_)
  cases found with
  | none => exact .throw trivial
  | some user =>
      let ready : Progress := { (Request.signIn dto ip).progress with
        pair := some (user.id, dto.deviceId), validated := true }
      have hready : ready.Ready := ⟨rfl, nofun, rfl, rfl⟩
      have hfound : (Request.signIn dto ip).progress.learn (.findUserByEmail dto.email) (some user) =
          { ready with validated := user.storedHash.isNone } := rfl
      have hchecked : Follows (checkPassword dto ip user)
          { ready with validated := user.storedHash.isNone } fun _ _ k => k = ready := by
        cases hstored : user.storedHash with
        | none =>
            simp only [checkPassword, hstored]
            exact .pure rfl
        | some storedHash =>
            simp only [checkPassword, hstored]
            refine .bind (await_follows ⟨⟨rfl, rfl, rfl, rfl, rfl⟩, rfl⟩ fun isMatch _ => ?_)
            cases isMatch with
            | true => exact .whenever nofun fun _ => rfl
            | false =>
                refine .whenever (fun _ => ?_) fun hne => absurd rfl hne
                exact .bind (plain_follows rfl (fun _ _ => rfl) fun _ => .throw trivial)
      rw [hfound]
      refine .andThen hchecked (fun _ _ h => h) fun _ _ k hk => ?_
      subst hk
      refine .andThen (generateTokens_follows hready rfl rfl rfl) (fun _ _ h => h)
        fun tokens _ k hk => ?_
      obtain ⟨tokenId, rfl⟩ := hk
      refine .bind (plain_follows rfl (fun _ _ => rfl) fun _ => ?_)
      exact .pure ⟨rfl, rfl, nofun⟩

/-- What `refreshTokens` knows of its token when it has given it up. -/
def given (dto : RefreshTokenDto) : Progress :=
  { (Request.refreshTokens dto).progress with
    pair := some (dto.refreshToken.claims.sub, dto.effectiveDeviceId dto.refreshToken.claims)
    validated := true
    deleted := true }

theorem giveUpToken_follows :
    Follows (giveUpToken dto) (Request.refreshTokens dto).progress fun result _ k =>
      k = given dto ∧ k.pair = some (result.1.id, result.2) := by
  have hstart : (Request.refreshTokens dto).progress.Untouched := ⟨rfl, rfl, rfl, rfl, rfl⟩
  refine .bind (await_follows ⟨rfl, dto, rfl, rfl⟩ fun payload hpayload => ?_)
  have hpayload : payload = dto.refreshToken.claims := hpayload
  subst hpayload
  refine .bind (.whenever (fun _ => .throw trivial) fun _ => ?_)
  refine .bind (.bind (plain_follows rfl (fun _ _ => rfl) fun _ => .pure ?_))
  refine .bind (.whenever (fun _ => .throw trivial) fun _ => ?_)
  refine .bind (await_follows ⟨hstart, rfl, dto, rfl, rfl⟩ fun user huser => ?_)
  have huser : user.id = dto.refreshToken.claims.sub := huser
  refine .bind (.bind (await_follows ⟨⟨rfl, rfl, rfl, rfl, rfl⟩, rfl, .inl rfl⟩
    fun stored _ => ?_))
  by_cases hcurrent : orElse stored "" = "" ∨ stored ≠ some dto.refreshToken.claims.refreshTokenId
  · rw [if_pos hcurrent]
    exact .throw trivial
  · rw [if_neg hcurrent]
    have hvalid : isCurrent stored dto.refreshToken.claims.refreshTokenId = true :=
      decide_eq_true hcurrent
    refine .pure (.bind (.whenever nofun fun _ => ?_))
    refine .bind (await_follows ⟨⟨rfl, fun _ => hvalid, rfl, rfl, rfl⟩, _, _, rfl, rfl⟩
      fun _ _ => ?_)
    refine .bind (await_follows ⟨rfl, rfl, rfl⟩ fun _ _ => ?_)
    refine .pure ⟨?_, rfl⟩
    simp only [Progress.learn, Request.progress, given, hvalid, huser, Request.isSignOut]

theorem refreshTokens_follows :
    Follows (refreshTokens config dto) (Request.refreshTokens dto).progress fun tokens _ k =>
      Returns k (some tokens) := by
  have hgiven : Follows (tryCatch (giveUpToken dto) fun error => throw error.ofRefresh)
      (Request.refreshTokens dto).progress fun result _ k =>
        k = given dto ∧ k.pair = some (result.1.id, result.2) :=
    .tryCatch giveUpToken_follows fun _ _ _ _ => .throw trivial
  refine .andThen hgiven (fun _ _ h => h) fun result _ k hk => ?_
  obtain ⟨rfl, hpair⟩ := hk
  have hready : (given dto).Ready := ⟨rfl, fun _ => rfl, rfl, rfl⟩
  refine .mono (generateTokens_follows hready rfl rfl hpair) (fun tokens _ k hk => ?_) fun _ _ h => h
  obtain ⟨tokenId, rfl⟩ := hk
  refine ⟨rfl, rfl, ?_⟩
  intro dto' hdto'
  cases hdto'
  exact ⟨rfl, rfl⟩

theorem signOut_follows {dto : SignOutDto} :
    Follows (signOut dto) (Request.signOut dto).progress fun _ _ k => Returns k none := by
  refine .bind (await_follows ⟨⟨rfl, rfl, rfl, rfl, rfl⟩, rfl, .inr rfl⟩ fun stored _ => ?_)
  refine .bind (await_follows ⟨⟨rfl, nofun, rfl, rfl, rfl⟩, _, _, rfl, rfl⟩ fun _ _ => ?_)
  exact await_follows ⟨rfl, rfl, rfl⟩ fun _ _ _ => ⟨rfl, rfl⟩

theorem register_follows {dto : SignUpDto} :
    Follows (register dto) (Request.register dto).progress fun _ _ k =>
      k = (Request.register dto).progress := by
  refine .bind (await_follows ⟨⟨rfl, rfl, rfl, rfl, rfl⟩, rfl⟩ fun found _ => ?_)
  refine .bind (.whenever (fun _ => .throw trivial) fun _ => ?_)
  refine .bind (plain_follows rfl (fun _ _ => rfl) fun _ => ?_)
  refine .bind (plain_follows rfl (fun _ _ => rfl) fun _ => ?_)
  exact .pure rfl

theorem validateUser_follows {payload : AccessClaims} :
    Follows (validateUser payload) (Request.validateUser payload).progress fun _ _ k =>
      k = (Request.validateUser payload).progress := by
  refine .bind (plain_follows rfl (fun _ _ => rfl) fun found => ?_)
  cases found.filter User.isActive with
  | none => exact .throw trivial
  | some user => exact .pure rfl

theorem request_follows (config : JwtConfig) (request : Request) :
    Follows (request.call config) request.progress fun tokens _ k => Returns k tokens := by
  cases request with
  | register dto =>
      refine .andThen register_follows (fun _ _ h => h) fun _ _ k hk => .pure ?_
      subst hk
      exact nofun
  | signIn dto ip => exact .andThen signIn_follows (fun _ _ h => h) fun _ _ _ hk => .pure hk
  | refreshTokens dto =>
      exact .andThen refreshTokens_follows (fun _ _ h => h) fun _ _ _ hk => .pure hk
  | signOut dto => exact .andThen signOut_follows (fun _ _ h => h) fun _ _ _ hk => .pure hk
  | validateUser payload =>
      refine .andThen validateUser_follows (fun _ _ h => h) fun _ _ k hk => .pure ?_
      subst hk
      exact nofun
  | changeUsers users =>
      exact .bind (plain_follows rfl (fun _ _ => rfl) fun _ => .pure nofun)
  | wait ms =>
      exact .bind (plain_follows rfl (fun _ _ => rfl) fun _ => .pure nofun)

end FlightBookings.Auth
