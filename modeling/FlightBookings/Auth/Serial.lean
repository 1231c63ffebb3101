import FlightBookings.Auth.Protocol

/-! # Calls one after the other

What each request comes to when it runs by itself and nothing fails: it is
refused and changes no session, or it issues a token for its session, or it
signs its session out.
-/

namespace FlightBookings.Auth

open Await

/-- A call that runs by itself. -/
def serve (config : JwtConfig) (request : Request) (choice : Choice) (w : World) :
    Response × World :=
  (request.call config).run (Op.perform choice) () w

variable {config : JwtConfig} {choice : Choice} {w : World}

/-- The token that a call signs. -/
def newToken (config : JwtConfig) (choice : Choice) (user : User) (deviceId : String) (w : World) :
    RefreshToken :=
  ⟨⟨user.id, user.email, choice.uuid, deviceId⟩, w.second + config.refreshTokenTtl⟩

def newAccessToken (config : JwtConfig) (user : User) (w : World) : AccessToken :=
  ⟨⟨user.id, user.email, [.admin]⟩, w.second + config.accessTokenTtl⟩

/-- The stores after new tokens. -/
def World.issue (config : JwtConfig) (choice : Choice) (user : User) (deviceId : String)
    (ip : Option String) (w : World) : World where
  redis := w.redis.setex (.refreshToken user.id deviceId) config.refreshTokenTtl choice.uuid
  users := w.users
  issued := choice.uuid :: w.issued
  accessTokens := newAccessToken config user w :: w.accessTokens
  refreshTokens := newToken config choice user deviceId w :: w.refreshTokens
  audits := w.audits ++ [⟨some user.id, ip, deviceId, none, some choice.uuid, "token_generated"⟩]

theorem generateTokens_run (user : User) (deviceId : String) (ip : Option String) :
    (generateTokens config user deviceId ip).run (Op.perform choice) () w =
      ((.ok ⟨newAccessToken config user w, newToken config choice user deviceId w⟩, ()),
        w.issue config choice user deviceId ip) := rfl

/-- The outcome of the password check: the user passes, with what the hashing library says. -/
def passes (choice : Choice) (user : User) : Bool := user.storedHash.isNone || choice.isMatch

theorem checkPassword_run (dto : SignInDto) (ip : Option String) (user : User) :
    (checkPassword dto ip user).run (Op.perform choice) () w =
      if passes choice user then ((.ok ⟨⟩, ()), w)
      else ((.error (.unauthorized "Invalid credentials" (some "auth.invalid_credentials")), ()),
        { w with audits := w.audits ++ [⟨none, ip, dto.deviceId, some false, none, "sign_in"⟩] }) := by
  unfold checkPassword passes
  cases user.storedHash with
  | none => rfl
  | some storedHash =>
      cases hmatch : choice.isMatch with
      | true => simp [Op.perform, hmatch]
      | false => simp [Op.perform, hmatch, logSignInAttempt]

theorem signIn_run (dto : SignInDto) (ip : Option String) :
    (signIn config dto ip).run (Op.perform choice) () w =
      match w.users.byEmail dto.email with
      | none => ((.error (.unauthorized "Invalid credentials" (some "auth.invalid_credentials")), ()), w)
      | some user =>
          if passes choice user then
            let w' := w.issue config choice user dto.deviceId ip
            ((.ok ⟨newAccessToken config user w, newToken config choice user dto.deviceId w⟩, ()),
              { w' with
                audits := w'.audits ++ [⟨some user.id, ip, dto.deviceId, some true, none, "sign_in"⟩] })
          else
            ((.error (.unauthorized "Invalid credentials" (some "auth.invalid_credentials")), ()),
              { w with
                audits := w.audits ++ [⟨none, ip, dto.deviceId, some false, none, "sign_in"⟩] }) := by
  simp only [signIn, Call.run_bind, Call.run_await, Op.perform]
  cases w.users.byEmail dto.email with
  | none => rfl
  | some user =>
      simp only [Call.run_bind, checkPassword_run]
      by_cases hpass : passes choice user = true
      · simp only [hpass, if_true, generateTokens_run]
        rfl
      · simp only [hpass]
        rfl

/-- The checks that `refreshTokens` makes of its token. -/
structure Accepts (w : World) (dto : RefreshTokenDto) (user : User) : Prop where
  verified : w.verifies World.refreshTokens dto.refreshToken = true
  device : dto.mismatches dto.refreshToken.claims = false
  listed : w.redis.get (.blacklist dto.refreshToken.claims.refreshTokenId) ≠ some "1"
  found : w.users.byId dto.refreshToken.claims.sub = some user
  current : isCurrent (w.redis.get (.refreshToken user.id
    (dto.effectiveDeviceId dto.refreshToken.claims))) dto.refreshToken.claims.refreshTokenId = true

/-- The stores after a token was given up. -/
def World.giveUp (userId : Int) (deviceId tokenId : String) (w : World) : World :=
  { w with
    redis := (w.redis.del (.refreshToken userId deviceId)).setex (.blacklist tokenId)
      RefreshTokenBlacklist.blacklistTTL "1" }

theorem giveUpToken_run {dto : RefreshTokenDto} {user : User} (h : Accepts w dto user) :
    (giveUpToken dto).run (Op.perform choice) () w =
      ((.ok (user, dto.effectiveDeviceId dto.refreshToken.claims), ()),
        w.giveUp user.id (dto.effectiveDeviceId dto.refreshToken.claims)
          dto.refreshToken.claims.refreshTokenId) := by
  have hcurrent := of_decide_eq_true h.current
  simp [giveUpToken, Op.perform, h.verified, h.device, RefreshTokenBlacklist.isBlacklisted, h.listed,
    h.found, RefreshTokenIdsStorage.validate, hcurrent, RefreshTokenIdsStorage.invalidate,
    RefreshTokenBlacklist.blacklistToken, World.giveUp]

/-- A token that does not pass one of the checks is left alone. -/
theorem giveUpToken_refused {dto : RefreshTokenDto} (h : ∀ user, ¬Accepts w dto user) :
    ∃ e, (giveUpToken dto).run (Op.perform choice) () w = ((.error e, ()), w) := by
  simp only [giveUpToken, Call.run_bind, Call.run_await, Op.perform]
  by_cases hverified : w.verifies World.refreshTokens dto.refreshToken = true
  · rw [if_pos hverified]
    by_cases hdevice : dto.mismatches dto.refreshToken.claims = true
    · exact ⟨.unauthorized "Unauthorized" (some "auth.unauthorized"), by simp [hdevice]⟩
    · by_cases hlisted : w.redis.get (.blacklist dto.refreshToken.claims.refreshTokenId) = some "1"
      · exact ⟨.unauthorized "Unauthorized" (some "auth.unauthorized"),
          by simp [hdevice, RefreshTokenBlacklist.isBlacklisted, Op.perform, hlisted]⟩
      · cases hfound : w.users.byId dto.refreshToken.claims.sub with
        | none =>
            exact ⟨.error "EntityNotFoundError",
              by simp [hdevice, RefreshTokenBlacklist.isBlacklisted, Op.perform, hlisted, hfound]⟩
        | some user =>
            refine ⟨.invalidateRefreshToken, ?_⟩
            have hcurrent : orElse (w.redis.get (.refreshToken user.id
                  (dto.effectiveDeviceId dto.refreshToken.claims))) "" = "" ∨
                w.redis.get (.refreshToken user.id
                  (dto.effectiveDeviceId dto.refreshToken.claims)) ≠
                  some dto.refreshToken.claims.refreshTokenId := by
              refine Decidable.of_not_not fun hcurrent => h user ?_
              exact ⟨hverified, by simpa using hdevice, hlisted, hfound, decide_eq_true hcurrent⟩
            simp [hdevice, RefreshTokenBlacklist.isBlacklisted, Op.perform, hlisted, hfound,
              RefreshTokenIdsStorage.validate, hcurrent]
  · rw [if_neg hverified]
    exact ⟨_, rfl⟩

theorem refreshTokens_run {dto : RefreshTokenDto} {user : User} (h : Accepts w dto user) :
    let deviceId := dto.effectiveDeviceId dto.refreshToken.claims
    let w' := w.giveUp user.id deviceId dto.refreshToken.claims.refreshTokenId
    (refreshTokens config dto).run (Op.perform choice) () w =
      ((.ok ⟨newAccessToken config user w', newToken config choice user deviceId w'⟩, ()),
        w'.issue config choice user deviceId none) := by
  simp only [refreshTokens, Call.run_bind, Call.run_tryCatch, giveUpToken_run h,
    generateTokens_run]

theorem refreshTokens_refused {dto : RefreshTokenDto} (h : ∀ user, ¬Accepts w dto user) :
    ∃ e, (refreshTokens config dto).run (Op.perform choice) () w = ((.error e, ()), w) := by
  have hrefused : ∃ e, (giveUpToken dto).run (Op.perform choice) () w = ((.error e, ()), w) :=
    giveUpToken_refused h
  obtain ⟨e, hrun⟩ := hrefused
  refine ⟨e.ofRefresh, ?_⟩
  simp only [refreshTokens, Call.run_bind, Call.run_tryCatch, hrun, Call.run_throw]

/-! ## What a request comes to -/

/-- The requests that can change a session. -/
def Request.isSession : Request → Bool
  | .signIn _ _ => true
  | .refreshTokens _ => true
  | .signOut _ => true
  | _ => false

/-- The outcome of a request that runs by itself. -/
inductive Turned (config : JwtConfig) (choice : Choice) (w : World) :
    Request → Except Exception (Option Tokens) → World → Prop where
  /-- No session is touched: the request is refused, or it is about something else. -/
  | kept {request : Request} {answer : Except Exception (Option Tokens)} {w' : World}
      (hanswer : ∀ tokens, answer ≠ .ok (some tokens))
      (hrequest : request.isSignOut = false)
      (hsame : request.isSession = true → w'.users = w.users ∧ w'.redis.now = w.redis.now)
      (hentries : w'.redis.entries = w.redis.entries) (hissued : w'.issued = w.issued)
      (hsigned : w'.refreshTokens = w.refreshTokens) : Turned config choice w request answer w'
  | signedIn {dto : SignInDto} {ip : Option String} {user : User} {tokens : Tokens} {w' : World}
      (huser : w.users.byEmail dto.email = some user)
      (htokens : tokens.refreshToken = newToken config choice user dto.deviceId w)
      (husers : w'.users = w.users)
      (hredis : w'.redis = (w.issue config choice user dto.deviceId ip).redis)
      (hissued : w'.issued = choice.uuid :: w.issued)
      (hsigned : w'.refreshTokens = tokens.refreshToken :: w.refreshTokens) :
      Turned config choice w (.signIn dto ip) (.ok (some tokens)) w'
  | refreshed {dto : RefreshTokenDto} {user : User} {tokens : Tokens} (h : Accepts w dto user)
      (htokens : tokens.refreshToken =
        newToken config choice user (dto.effectiveDeviceId dto.refreshToken.claims) w) :
      Turned config choice w (.refreshTokens dto) (.ok (some tokens))
        ((w.giveUp user.id (dto.effectiveDeviceId dto.refreshToken.claims)
          dto.refreshToken.claims.refreshTokenId).issue config choice user
            (dto.effectiveDeviceId dto.refreshToken.claims) none)
  | signedOut {dto : SignOutDto} :
      Turned config choice w (.signOut dto) (.ok none)
        (w.giveUp dto.userId dto.deviceId
          ((w.redis.get (.refreshToken dto.userId dto.deviceId)).getD "null"))

theorem signIn_turned (dto : SignInDto) (ip : Option String) :
    Turned config choice w (.signIn dto ip) (serve config (.signIn dto ip) choice w).1.1
      (serve config (.signIn dto ip) choice w).2 := by
  simp only [serve, Request.call, Call.run_bind, signIn_run]
  cases huser : w.users.byEmail dto.email with
  | none => exact .kept nofun rfl (fun _ => ⟨rfl, rfl⟩) rfl rfl rfl
  | some user =>
      by_cases hpass : passes choice user = true
      · simp only [hpass, if_true, Call.run_pure]
        exact .signedIn huser rfl rfl rfl rfl rfl
      · simp only [hpass]
        exact .kept nofun rfl (fun _ => ⟨rfl, rfl⟩) rfl rfl rfl

theorem refreshTokens_turned (dto : RefreshTokenDto) :
    Turned config choice w (.refreshTokens dto) (serve config (.refreshTokens dto) choice w).1.1
      (serve config (.refreshTokens dto) choice w).2 := by
  by_cases h : ∃ user, Accepts w dto user
  · obtain ⟨user, haccepts⟩ := h
    simp only [serve, Request.call, Call.run_bind, refreshTokens_run haccepts, Call.run_pure]
    exact .refreshed haccepts rfl
  · have hrefused : ∃ e, (refreshTokens config dto).run (Op.perform choice) () w =
        ((.error e, ()), w) := refreshTokens_refused fun user huser => h ⟨user, huser⟩
    obtain ⟨e, hrun⟩ := hrefused
    simp only [serve, Request.call, Call.run_bind, hrun]
    exact .kept nofun rfl (fun _ => ⟨rfl, rfl⟩) rfl rfl rfl

theorem register_turned (dto : SignUpDto) :
    Turned config choice w (.register dto) (serve config (.register dto) choice w).1.1
      (serve config (.register dto) choice w).2 := by
  simp only [serve, Request.call, register, Call.run_bind, Call.run_await, Call.run_whenever,
    Op.perform]
  by_cases hexists : (w.users.byEmail dto.email).isSome = true
  · simp only [hexists, if_true, Call.run_throw]
    exact .kept (by simp) rfl (fun h => by cases h) rfl rfl rfl
  · have hnone : w.users.byEmail dto.email = none := by simpa using hexists
    simp only [hnone, Option.isSome_none, Bool.false_eq_true, if_false, dif_pos, Call.run_pure]
    exact .kept (by simp) rfl (fun h => by cases h) rfl rfl rfl

theorem validateUser_turned (payload : AccessClaims) :
    Turned config choice w (.validateUser payload) (serve config (.validateUser payload) choice w).1.1
      (serve config (.validateUser payload) choice w).2 := by
  simp only [serve, Request.call, validateUser, Call.run_bind, Call.run_await, Op.perform]
  cases ((w.users.byId payload.id).filter fun user => user.email = payload.email).filter
      User.isActive with
  | none => exact .kept (by simp) rfl (fun h => by cases h) rfl rfl rfl
  | some user => exact .kept (by simp) rfl (fun h => by cases h) rfl rfl rfl

theorem turned (request : Request) :
    Turned config choice w request (serve config request choice w).1.1
      (serve config request choice w).2 := by
  cases request with
  | register dto => exact register_turned dto
  | signIn dto ip => exact signIn_turned dto ip
  | refreshTokens dto => exact refreshTokens_turned dto
  | signOut dto => exact .signedOut
  | validateUser payload => exact validateUser_turned payload
  | changeUsers users =>
      exact .kept (fun _ h => by cases h) rfl (fun h => by cases h) rfl rfl rfl
  | wait ms => exact .kept (fun _ h => by cases h) rfl (fun h => by cases h) rfl rfl rfl

end FlightBookings.Auth
