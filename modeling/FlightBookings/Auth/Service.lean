import FlightBookings.Await.Pool
import FlightBookings.Common
import FlightBookings.Store.Keyspace
import FlightBookings.Store.Table

/-! # The authentication service

Users in a table, the current refresh token of every session in Redis, and a
black list of tokens that were given up. A refresh token can only be presented
if it was signed: what the service accepts is decided by the claims that it
signed, not by what a client makes up.
-/

namespace FlightBookings.Auth

open Await

/-! ## Data -/

inductive Exception where
  | error (message : String)
  | conflict (message code : String)
  | unauthorized (message : String) (code : Option String)
  | badRequest (code : String)
  | invalidateRefreshToken
deriving DecidableEq

inductive Role where
  | admin
  | user
deriving DecidableEq

structure SignUpDto where
  firstName : String
  lastName : Option String
  email : String
  password : String
deriving DecidableEq

structure User where
  id : Int
  firstName : String
  lastName : Option String
  email : String
  password : Option String
  isActive : Bool
  isLocked : Bool
deriving DecidableEq

/-- The stored hash, where `if (user.password)` finds one. -/
def User.storedHash (user : User) : Option String := user.password.filter fun hash => hash ≠ ""

/-- The table of the users, with its primary key, its unique index and its sequence. -/
structure UserTable where
  rows : List User
  nextId : Int
  ids : (rows.map User.id).Nodup
  emails : (rows.map User.email).Nodup
  below : ∀ user ∈ rows, user.id < nextId

namespace UserTable

def empty : UserTable := ⟨[], 1, List.nodup_nil, List.nodup_nil, by simp⟩

def byId (t : UserTable) (id : Int) : Option User := Table.find User.id id t.rows

def byEmail (t : UserTable) (email : String) : Option User := Table.find User.email email t.rows

theorem byId_nextId (t : UserTable) : t.byId t.nextId = none := by
  refine Table.find_eq_none.mpr ?_
  intro user huser heq
  have hlt : user.id < t.nextId := t.below user huser
  omega

/-- The row that `create` and `save` make of a registration, with its default columns. -/
def newRow (t : UserTable) (dto : SignUpDto) (hash : String) : User where
  id := t.nextId
  firstName := dto.firstName
  lastName := dto.lastName
  email := dto.email
  password := some hash
  isActive := true
  isLocked := false

def insert (t : UserTable) (dto : SignUpDto) (hash : String) (h : t.byEmail dto.email = none) :
    UserTable where
  rows := t.rows ++ [t.newRow dto hash]
  nextId := t.nextId + 1
  ids := Table.nodup_insert t.ids t.byId_nextId
  emails := Table.nodup_insert t.emails h
  below := by
    intro user huser
    rcases List.mem_append.mp huser with hold | hnew
    · have hlt : user.id < t.nextId := t.below user hold
      omega
    · rw [List.mem_singleton.mp hnew]
      exact Int.lt_succ t.nextId

end UserTable

structure AccessClaims where
  id : Int
  email : String
  roles : List Role
deriving DecidableEq

structure RefreshClaims where
  sub : Int
  email : String
  refreshTokenId : String
  deviceId : String
deriving DecidableEq

/-- A token that stands for its claims, with the second at which it expires. -/
structure Token (Claims : Type) where
  claims : Claims
  exp : Nat
deriving DecidableEq

abbrev AccessToken := Token AccessClaims
abbrev RefreshToken := Token RefreshClaims

abbrev Token.id (token : RefreshToken) : String := token.claims.refreshTokenId

/-- The session of a refresh token. -/
abbrev Token.pair (token : RefreshToken) : Int × String := (token.claims.sub, token.claims.deviceId)

structure Tokens where
  accessToken : AccessToken
  refreshToken : RefreshToken
deriving DecidableEq

structure AuthAudit where
  userId : Option Int
  ip : Option String
  deviceId : String
  success : Option Bool
  refreshTokenId : Option String
  event : String
deriving DecidableEq

/-- The keys `refresh-token:{userId}:{deviceId}` and `blacklist:{tokenId}`. -/
inductive Key where
  | refreshToken (userId : Int) (deviceId : String)
  | blacklist (tokenId : String)
deriving DecidableEq

abbrev Redis := Keyspace Key fun _ => String

/-- The stores, the UUIDs that were drawn and the tokens that were signed. -/
structure World where
  redis : Redis
  users : UserTable
  issued : List String
  accessTokens : List AccessToken
  refreshTokens : List RefreshToken
  audits : List AuthAudit

def World.init (now : Nat) (users : UserTable) : World := ⟨.empty now, users, [], [], [], []⟩

/-- The second that the clock shows. -/
def World.second (w : World) : Nat := w.redis.now / 1000

/-- The signature of the token is right, and it has not expired. -/
def World.verifies {Claims : Type} [DecidableEq Claims] (signed : World → List (Token Claims))
    (token : Token Claims) (w : World) : Bool :=
  token ∈ signed w && w.second < token.exp

/-! ## Operations -/

/-- What the service awaits. `changeUsers` and `wait` are not among it: they are what happens to
the accounts, and the time that passes. -/
inductive Op where
  | findUserByEmail (email : String)
  | findUserById (id : Int)
  | findUser (id : Int) (email : String)
  | hash (password : String)
  | saveUser (dto : SignUpDto) (hash : String)
  | compare (password storedHash : String)
  | randomUUID
  | signAccess (claims : AccessClaims) (expiresIn : Nat)
  | signRefresh (claims : RefreshClaims) (expiresIn : Nat)
  | verifyAccess (token : AccessToken)
  | verifyRefresh (token : RefreshToken)
  | get (key : Key)
  | set (key : Key) (value : String) (seconds : Nat)
  | del (key : Key)
  | saveAudit (audit : AuthAudit)
  | changeUsers (users : UserTable)
  | wait (ms : Nat)

abbrev Op.Ret : Op → Type
  | .findUserByEmail _ => Option User
  | .findUserById _ => User
  | .findUser _ _ => Option User
  | .hash _ => String
  | .saveUser _ _ => User
  | .compare _ _ => Bool
  | .randomUUID => String
  | .signAccess _ _ => AccessToken
  | .signRefresh _ _ => RefreshToken
  | .verifyAccess _ => AccessClaims
  | .verifyRefresh _ => RefreshClaims
  | .get _ => Option String
  | .set _ _ _ => Unit
  | .del _ => Unit
  | .saveAudit _ => Unit
  | .changeUsers _ => Unit
  | .wait _ => Unit

/-- The UUIDs are drawn without waiting for anything that could fail. -/
def Op.fallible : Op → Bool
  | .randomUUID => false
  | _ => true

/-- What the environment decides for one operation: the message with which it fails, if it does,
the UUID that is drawn, and what the hashing library computes. -/
structure Choice where
  fails : Option String
  uuid : String
  hash : String
  isMatch : Bool

/-- An operation that the environment does not make fail. -/
def Op.perform (choice : Choice) : (op : Op) → World → Except Exception op.Ret × World
  | .findUserByEmail email, w => (.ok (w.users.byEmail email), w)
  | .findUserById id, w =>
      match w.users.byId id with
      | some user => (.ok user, w)
      | none => (.error (.error "EntityNotFoundError"), w)
  | .findUser id email, w => (.ok ((w.users.byId id).filter fun user => user.email = email), w)
  | .hash _, w => (.ok choice.hash, w)
  | .saveUser dto passwordHash, w =>
      if h : w.users.byEmail dto.email = none then
        (.ok (w.users.newRow dto passwordHash),
          { w with users := w.users.insert dto passwordHash h })
      else (.error (.error "duplicate key value violates unique constraint"), w)
  | .compare _ _, w => (.ok choice.isMatch, w)
  | .randomUUID, w => (.ok choice.uuid, { w with issued := choice.uuid :: w.issued })
  | .signAccess claims expiresIn, w =>
      let token : AccessToken := ⟨claims, w.second + expiresIn⟩
      (.ok token, { w with accessTokens := token :: w.accessTokens })
  | .signRefresh claims expiresIn, w =>
      let token : RefreshToken := ⟨claims, w.second + expiresIn⟩
      (.ok token, { w with refreshTokens := token :: w.refreshTokens })
  | .verifyAccess token, w =>
      if w.verifies World.accessTokens token then (.ok token.claims, w)
      else (.error (.error "JsonWebTokenError"), w)
  | .verifyRefresh token, w =>
      if w.verifies World.refreshTokens token then (.ok token.claims, w)
      else (.error (.error "JsonWebTokenError"), w)
  | .get key, w => (.ok (w.redis.get key), w)
  | .set key value seconds, w => (.ok (), { w with redis := w.redis.setex key seconds value })
  | .del key, w => (.ok (), { w with redis := w.redis.del key })
  | .saveAudit audit, w => (.ok (), { w with audits := w.audits ++ [audit] })
  | .changeUsers users, w => (.ok (), { w with users })
  | .wait ms, w => (.ok (), { w with redis := w.redis.wait ms })

/-- A UUID is one that was not drawn before. It is neither empty nor what `null` is printed as. -/
def World.draws (w : World) (uuid : String) : Bool :=
  uuid ∉ w.issued && uuid != "null" && uuid != ""

/-- An operation that fails changes nothing. -/
def performWith (choice : Choice) : (op : Op) → World → Option (Except Exception op.Ret × World)
  | .randomUUID, w =>
      if w.draws choice.uuid then some (Op.perform choice .randomUUID w) else none
  | op, w =>
      match choice.fails with
      | some message => some (.error (.error message), w)
      | none => some (op.perform choice w)

/-! ## The storages -/

abbrev Call (α : Type) := Await.Call Op Op.Ret Exception Unit α

/-- The life of the tokens in seconds. Redis refuses to keep a key for no time at all. -/
structure JwtConfig where
  accessTokenTtl : Nat
  refreshTokenTtl : Nat
  refreshTokenTtl_pos : 0 < refreshTokenTtl

namespace RefreshTokenIdsStorage

def insert (config : JwtConfig) (userId : Int) (tokenId deviceId : String) : Call Unit :=
  Call.await (Op.set (.refreshToken userId deviceId) tokenId config.refreshTokenTtl)

def getToken (userId : Int) (deviceId : String) : Call (Option String) :=
  Call.await (Op.get (.refreshToken userId deviceId))

def validate (userId : Int) (tokenId deviceId : String) : Call Bool := do
  let storedToken : Option String ← Call.await (Op.get (.refreshToken userId deviceId))
  if orElse storedToken "" = "" ∨ storedToken ≠ some tokenId then throw .invalidateRefreshToken
  else pure true

def invalidate (userId : Int) (deviceId : String) : Call Unit :=
  Call.await (Op.del (.refreshToken userId deviceId))

end RefreshTokenIdsStorage

namespace RefreshTokenBlacklist

def blacklistTTL : Nat := 60 * 60 * 24 * 30

/-- A token id that is missing goes into the name of the key as `null`. -/
def blacklistToken (tokenId : Option String) : Call Unit :=
  Call.await (Op.set (.blacklist (tokenId.getD "null")) "1" blacklistTTL)

def isBlacklisted (tokenId : String) : Call Bool := do
  let result : Option String ← Call.await (Op.get (.blacklist tokenId))
  pure (result = some "1")

end RefreshTokenBlacklist

def logSignInAttempt (userId : Option Int) (ip : Option String) (deviceId : String)
    (success : Bool) : Call Unit :=
  Call.await (Op.saveAudit ⟨userId, ip, deviceId, some success, none, "sign_in"⟩)

def logTokenGeneration (userId : Int) (deviceId refreshTokenId : String) (ip : Option String) :
    Call Unit :=
  Call.await (Op.saveAudit ⟨some userId, ip, deviceId, none, some refreshTokenId, "token_generated"⟩)

/-! ## The service -/

structure SignInDto where
  email : String
  password : String
  deviceId : String
deriving DecidableEq

structure RefreshTokenDto where
  refreshToken : RefreshToken
  deviceId : Option String
deriving DecidableEq

structure SignOutDto where
  userId : Int
  deviceId : String
deriving DecidableEq

/-- What `register` and `validateUser` return of a user. -/
structure Profile where
  id : Int
  email : String
  firstName : String
  lastName : Option String
  roles : List Role
deriving DecidableEq

def register (dto : SignUpDto) : Call Profile := do
  let existingUser : Option User ← Call.await (Op.findUserByEmail dto.email)
  Call.whenever existingUser.isSome
    (throw (.conflict "User already exists" "user.email.already_exists"))
  let hash ← Call.await (Op.hash dto.password)
  let user : User ← Call.await (Op.saveUser dto hash)
  pure ⟨user.id, user.email, user.firstName, user.lastName, []⟩

def generateTokens (config : JwtConfig) (user : User) (deviceId : String) (ip : Option String) :
    Call Tokens := do
  let refreshTokenId ← Call.await Op.randomUUID
  let accessToken ← Call.await
    (Op.signAccess ⟨user.id, user.email, [.admin]⟩ config.accessTokenTtl)
  let refreshToken ← Call.await
    (Op.signRefresh ⟨user.id, user.email, refreshTokenId, deviceId⟩ config.refreshTokenTtl)
  RefreshTokenIdsStorage.insert config user.id refreshTokenId deviceId
  logTokenGeneration user.id deviceId refreshTokenId ip
  pure ⟨accessToken, refreshToken⟩

/-- A user without a stored hash passes without a comparison. -/
def checkPassword (dto : SignInDto) (ip : Option String) (user : User) : Call PUnit :=
  match user.storedHash with
  | some storedHash => do
      let isValid : Bool ← Call.await (Op.compare dto.password storedHash)
      Call.whenever (isValid = false) do
        logSignInAttempt none ip dto.deviceId false
        throw (.unauthorized "Invalid credentials" (some "auth.invalid_credentials"))
  | none => pure ⟨⟩

def signIn (config : JwtConfig) (dto : SignInDto) (ip : Option String) : Call Tokens := do
  let found : Option User ← Call.await (Op.findUserByEmail dto.email)
  match found with
  | none => throw (.unauthorized "Invalid credentials" (some "auth.invalid_credentials"))
  | some user => do
      checkPassword dto ip user
      let tokens ← generateTokens config user dto.deviceId ip
      logSignInAttempt (some user.id) ip dto.deviceId true
      pure tokens

/-- `deviceId || payload.deviceId` -/
def RefreshTokenDto.effectiveDeviceId (dto : RefreshTokenDto) (payload : RefreshClaims) : String :=
  orElse dto.deviceId payload.deviceId

/-- The request names a device that is not the one of the token. -/
def RefreshTokenDto.mismatches (dto : RefreshTokenDto) (payload : RefreshClaims) : Bool :=
  orElse dto.deviceId "" ≠ "" ∧ payload.deviceId ≠ orElse dto.deviceId ""

/-- The part of `refreshTokens` in front of the new tokens. -/
def giveUpToken (dto : RefreshTokenDto) : Call (User × String) := do
  let payload : RefreshClaims ← Call.await (Op.verifyRefresh dto.refreshToken)
  Call.whenever (dto.mismatches payload) (throw (.unauthorized "Unauthorized" (some "auth.unauthorized")))
  let effectiveDeviceId := dto.effectiveDeviceId payload
  let isBlacklisted ← RefreshTokenBlacklist.isBlacklisted payload.refreshTokenId
  Call.whenever isBlacklisted (throw (.unauthorized "Unauthorized" (some "auth.unauthorized")))
  let user : User ← Call.await (Op.findUserById payload.sub)
  let isValid ← RefreshTokenIdsStorage.validate user.id payload.refreshTokenId effectiveDeviceId
  Call.whenever (isValid = false) (throw .invalidateRefreshToken)
  RefreshTokenIdsStorage.invalidate user.id effectiveDeviceId
  RefreshTokenBlacklist.blacklistToken (some payload.refreshTokenId)
  pure (user, effectiveDeviceId)

/-- What the handler of `refreshTokens` makes of an error. -/
def Exception.ofRefresh : Exception → Exception
  | .unauthorized message code => .unauthorized message code
  | .invalidateRefreshToken =>
      .unauthorized "Invalid refresh token" (some "auth.invalid_refresh_token")
  | _ => .unauthorized "Unauthorized" (some "auth.unauthorized")

/-- The promise of the new tokens is returned without being awaited, so that the handler does not
see their errors. -/
def refreshTokens (config : JwtConfig) (dto : RefreshTokenDto) : Call Tokens := do
  let (user, effectiveDeviceId) ← tryCatch (giveUpToken dto) fun error => throw error.ofRefresh
  generateTokens config user effectiveDeviceId none

def signOut (dto : SignOutDto) : Call Unit := do
  let refreshTokenId ← RefreshTokenIdsStorage.getToken dto.userId dto.deviceId
  RefreshTokenIdsStorage.invalidate dto.userId dto.deviceId
  RefreshTokenBlacklist.blacklistToken refreshTokenId

def validateUser (payload : AccessClaims) : Call Profile := do
  let found : Option User ← Call.await (Op.findUser payload.id payload.email)
  match found.filter User.isActive with
  | none => throw (.unauthorized "Unauthorized" (some "auth.unauthorized"))
  | some user => pure ⟨user.id, user.email, user.firstName, user.lastName, [.user]⟩

/-! ## Requests -/

inductive Request where
  | register (dto : SignUpDto)
  | signIn (dto : SignInDto) (ip : Option String)
  | refreshTokens (dto : RefreshTokenDto)
  | signOut (dto : SignOutDto)
  | validateUser (payload : AccessClaims)
  | changeUsers (users : UserTable)
  | wait (ms : Nat)

/-- The tokens that a request returns, if it returns any. -/
def Request.call (config : JwtConfig) : Request → Call (Option Tokens)
  | .register dto => do
      let _ ← Auth.register dto
      pure none
  | .signIn dto ip => do
      let tokens ← Auth.signIn config dto ip
      pure (some tokens)
  | .refreshTokens dto => do
      let tokens ← Auth.refreshTokens config dto
      pure (some tokens)
  | .signOut dto => do
      Auth.signOut dto
      pure none
  | .validateUser payload => do
      let _ ← Auth.validateUser payload
      pure none
  | .changeUsers users => do
      Call.await (Op.changeUsers users)
      pure none
  | .wait ms => do
      Call.await (Op.wait ms)
      pure none

abbrev Replies := fun op : Op => Except Exception op.Ret

abbrev Response := Except Exception (Option Tokens) × Unit

def service (config : JwtConfig) : System Request Op Replies Choice Response World where
  perform _ choice op w := performWith choice op w
  program request := request.call config ()

abbrev Event := Await.Event Request Op Choice World

abbrev ServicePool := Pool Op Replies Response World

/-! ## One user -/

/-- The configuration where the environment variables are not set. -/
def defaultConfig : JwtConfig := ⟨3600, 604800, by decide⟩

def john : User := ⟨1, "John", none, "john@example.com", some "hash", true, false⟩

def johnOnly : UserTable := ⟨[john], 2, by decide, by decide, by decide⟩

def drawing (uuid : String) : Choice := ⟨none, uuid, "", true⟩

/-- John's token with this id, as a call in the first second signs it. -/
def johnsToken (tokenId deviceId : String) : RefreshToken :=
  ⟨⟨1, "john@example.com", tokenId, deviceId⟩, 604800⟩

end FlightBookings.Auth
