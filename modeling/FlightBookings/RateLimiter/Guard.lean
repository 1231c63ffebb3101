import FlightBookings.Await.Pool
import FlightBookings.RateLimiter.Service

/-! # The guard in front of the endpoints

A request is counted for its client at its route. It goes on to its endpoint when
the limiter lets it through, or when its route has no limit.
-/

namespace FlightBookings.RateLimiter

open Await

/-! ## Requests -/

/-- What the guard reads of a request. -/
structure HttpRequest where
  user : Option Int
  apiKey : Option String
  forwardedFor : Option String
  realIp : Option String
  ip : Option String
  remoteAddress : Option String
  method : String
  routePath : Option String
  url : String
deriving DecidableEq

inductive IdentifierType where
  | user
  | api
  | ip
deriving DecidableEq

def IdentifierType.text : IdentifierType → String
  | .user => "user"
  | .api => "api"
  | .ip => "ip"

structure Client where
  identifierType : IdentifierType
  identifier : String
deriving DecidableEq

/-- `s.split(separator)[0]` -/
def firstPart (separator : Char) (s : String) : String :=
  String.ofList (s.toList.takeWhile (· ≠ separator))

namespace HttpRequest

def extractIp (request : HttpRequest) : String :=
  if orElse request.forwardedFor "" = "" then
    orElse request.realIp (orElse request.ip (orElse request.remoteAddress "unknown"))
  else trim (firstPart ',' (orElse request.forwardedFor ""))

/-- The first two parts of the key. -/
def client (request : HttpRequest) : Client :=
  match request.user.filter (· ≠ 0) with
  | some id => ⟨.user, toString id⟩
  | none =>
      if orElse request.apiKey "" = "" then ⟨.ip, request.extractIp⟩
      else ⟨.api, orElse request.apiKey ""⟩

def path (request : HttpRequest) : String :=
  orElse request.routePath (firstPart '?' request.url)

end HttpRequest

def keyOf (client : Client) (method path : String) : String :=
  s!"{client.identifierType.text}:{client.identifier}:{method}:{path}"

def generateKey (request : HttpRequest) : String :=
  keyOf request.client request.method request.path

/-! ## Routes -/

/-- The argument of `@RateLimit`. -/
structure RateLimitOptions where
  points : Nat
  duration : Nat
  blockDuration : Option Nat := none
  keyPrefix : Option String := none

/-- `{ ...this.defaultConfig, ...config }` -/
def RateLimitOptions.over (options : RateLimitOptions) (defaultConfig : RateLimitConfig) :
    RateLimitConfig where
  points := options.points
  duration := options.duration
  blockDuration := options.blockDuration.getD defaultConfig.blockDuration
  keyPrefix := options.keyPrefix.getD defaultConfig.keyPrefix

/-- What a value was set to on the handler and on its class. -/
structure Metadata (α : Type) where
  onHandler : Option α := none
  onClass : Option α := none

def getAllAndOverride {α : Type} (metadata : Metadata α) : Option α :=
  metadata.onHandler <|> metadata.onClass

structure Decorators where
  skipRateLimit : Metadata Bool := {}
  rateLimit : Metadata RateLimitOptions := {}

/-- The limit that the guard applies, if it applies one. -/
def Decorators.limit (decorators : Decorators) : Option RateLimitOptions :=
  if getAllAndOverride decorators.skipRateLimit = some true then none
  else getAllAndOverride decorators.rateLimit

/-- The decorators of the handler of a method and a path. No limited route has a parameter. -/
structure Router where
  decorators : (method path : String) → Decorators
  plain : ∀ method path, (decorators method path).limit ≠ none →
    ':' ∉ method.toList ∧ ':' ∉ path.toList

/-- The handlers of the gateway that have a limit: it is set on their class. -/
def authRoutes : List (String × String) :=
  [("POST", "/api/v1/auth/register"), ("POST", "/api/v1/auth/login"),
    ("POST", "/api/v1/auth/refresh"), ("POST", "/api/v1/auth/logout"), ("GET", "/api/v1/auth/me")]

theorem authRoutes_plain : ∀ route ∈ authRoutes,
    ':' ∉ route.1.toList ∧ ':' ∉ route.2.toList := by
  decide

def gatewayRouter : Router where
  decorators method path :=
    if (method, path) ∈ authRoutes then
      { rateLimit := { onClass := some { points := 5, duration := 60 } } }
    else {}
  plain method path hlimit := by
    split at hlimit
    · rename_i hmem
      exact authRoutes_plain _ hmem
    · exact absurd rfl hlimit

/-- The configuration of a gateway whose environment sets none. -/
def gatewayDefault : RateLimitConfig where
  points := 100
  duration := 60
  blockDuration := 120
  keyPrefix := "ratelimit"

variable (router : Router) (defaultConfig : RateLimitConfig)

def Router.config (method path : String) : Option RateLimitConfig :=
  (router.decorators method path).limit.map fun options => options.over defaultConfig

def HttpRequest.config (request : HttpRequest) : Option RateLimitConfig :=
  router.config defaultConfig request.method request.path

/-! ## The guard -/

/-- A command of the limiter, and the step that hands the request to its endpoint. -/
inductive GuardOp where
  | redis (op : Op)
  | proceed
deriving DecidableEq

abbrev GuardReply : GuardOp → Type
  | .redis op => Except Exception op.Ret
  | .proceed => Unit

abbrev GuardProgram (α : Type) := Await.Program GuardOp GuardReply α

abbrev Headers := List (String × String)

def rateLimitHeaders (result : RateLimitResult) : Headers :=
  [("X-RateLimit-Limit", toString result.info.limit),
    ("X-RateLimit-Remaining", toString result.info.remaining),
    ("X-RateLimit-Reset", toString result.info.reset)]

/-- A delay of no seconds is not told. -/
def retryAfterHeader (result : RateLimitResult) : Headers :=
  match result.info.retryAfter.filter (· ≠ 0) with
  | some retryAfter => [("Retry-After", toString retryAfter)]
  | none => []

/-- The body of the exception, whose status is the one in it. -/
structure TooManyRequests where
  statusCode : Nat := 429
  message : String := "Too many requests, please try again later"
  error : String := "Rate Limit Exceeded"
  retryAfter : Option Nat
  limit : Nat
  reset : Nat
deriving DecidableEq

inductive Outcome where
  | passed (headers : Headers)
  | refused (headers : Headers) (body : TooManyRequests)
  | failed (exception : Exception)
deriving DecidableEq

def answerWith (result : RateLimitResult) : GuardProgram Outcome :=
  if result.allowed then .await .proceed fun _ => .done (.passed (rateLimitHeaders result))
  else .done (.refused (rateLimitHeaders result ++ retryAfterHeader result)
    { retryAfter := result.info.retryAfter
      limit := result.info.limit
      reset := result.info.reset })

def canActivate (request : HttpRequest) : GuardProgram Outcome :=
  match request.config router defaultConfig with
  | none => .await .proceed fun _ => .done (.passed [])
  | some config =>
      ((consume config (generateKey request) ()).lift GuardOp.redis fun _ r => r).bind fun
        | (.ok result, _) => answerWith result
        | (.error exception, _) => .done (.failed exception)

/-- What the environment decides for one step: how long it takes to come, what the clock of the
gateway says, which commands fail, and the number that the script draws. -/
structure Conditions where
  waited : Nat
  clock : Nat
  fails : Op → Option Exception
  random : String

/-- The clock of the gateway need not be the one of Redis. -/
def GuardOp.perform (conditions : Conditions) : (op : GuardOp) → Redis → GuardReply op × Redis
  | .redis .dateNow, r => (.ok conditions.clock, r)
  | .redis op, r => performWith ⟨conditions.fails, conditions.random⟩ op r
  | .proceed, r => ((), r)

def guarded : System HttpRequest GuardOp GuardReply Conditions Outcome Redis where
  perform _ conditions op r := some (op.perform conditions (r.wait conditions.waited))
  program request := canActivate router defaultConfig request

abbrev GuardEvent := Await.Event HttpRequest GuardOp Conditions Redis

/-! ## Keys -/

section Keys

/-- What follows the last colon. -/
theorem split_last {a b c d : List Char} (hb : ':' ∉ b) (hd : ':' ∉ d)
    (h : a ++ ':' :: b = c ++ ':' :: d) : a = c ∧ b = d := by
  rcases List.append_eq_append_iff.mp h with ⟨e, rfl, he⟩ | ⟨e, rfl, he⟩
  · cases e with
    | nil => simpa using he
    | cons x e =>
        simp only [List.cons_append, List.cons.injEq] at he
        exact absurd (he.2 ▸ List.mem_append_right e List.mem_cons_self) hb
  · cases e with
    | nil => simpa [eq_comm] using he
    | cons x e =>
        simp only [List.cons_append, List.cons.injEq] at he
        exact absurd (he.2 ▸ List.mem_append_right e List.mem_cons_self) hd

/-- What precedes the first colon. -/
theorem split_first {a b c d : List Char} (ha : ':' ∉ a) (hc : ':' ∉ c)
    (h : a ++ ':' :: b = c ++ ':' :: d) : a = c ∧ b = d := by
  rcases List.append_eq_append_iff.mp h with ⟨e, rfl, he⟩ | ⟨e, rfl, he⟩
  · cases e with
    | nil => simpa using he
    | cons x e =>
        simp only [List.cons_append, List.cons.injEq] at he
        exact absurd (he.1 ▸ List.mem_append_right a List.mem_cons_self) hc
  · cases e with
    | nil => simpa [eq_comm] using he
    | cons x e =>
        simp only [List.cons_append, List.cons.injEq] at he
        exact absurd (he.1 ▸ List.mem_append_right c List.mem_cons_self) ha

theorem text_plain (identifierType : IdentifierType) : ':' ∉ identifierType.text.toList := by
  cases identifierType <;> decide

theorem text_inj {a b : IdentifierType} (h : a.text.toList = b.text.toList) : a = b := by
  revert h
  cases a <;> cases b <;> decide

variable {client client' : Client} {method method' path path' : String}
variable {config config' : RateLimitConfig}

theorem toList_keyOf : (keyOf client method path).toList = client.identifierType.text.toList ++
    ':' :: (client.identifier.toList ++ ':' :: (method.toList ++ ':' :: path.toList)) := by
  simp [keyOf, toString]

theorem toList_redisKeyOf (key : String) :
    (redisKeyOf config key).toList = config.keyPrefix.toList ++ ':' :: key.toList := by
  simp [redisKeyOf, toString]

/-- The key of a plain route names the route. -/
theorem route_of_redisKey (hplain : ':' ∉ method.toList ∧ ':' ∉ path.toList)
    (hplain' : ':' ∉ method'.toList ∧ ':' ∉ path'.toList)
    (h : redisKeyOf config (keyOf client method path) =
      redisKeyOf config' (keyOf client' method' path')) : method = method' ∧ path = path' := by
  have hlist := congrArg String.toList h
  simp only [toList_redisKeyOf, toList_keyOf, ← List.append_assoc, ← List.cons_append] at hlist
  obtain ⟨hrest, hpath⟩ := split_last hplain.2 hplain'.2 hlist
  obtain ⟨-, hmethod⟩ := split_last hplain.1 hplain'.1 hrest
  exact ⟨String.toList_inj.mp hmethod, String.toList_inj.mp hpath⟩

/-- Two clients never share a key, whatever their identifiers contain. -/
theorem client_of_redisKey
    (h : redisKeyOf config (keyOf client method path) =
      redisKeyOf config (keyOf client' method path)) : client = client' := by
  have hlist := congrArg String.toList h
  simp only [toList_redisKeyOf, toList_keyOf, List.append_cancel_left_eq, List.cons.injEq,
    true_and] at hlist
  obtain ⟨htype, hrest⟩ := split_first (text_plain _) (text_plain _) hlist
  have hidentifier := List.append_cancel_right hrest
  cases client
  cases client'
  simp only [Client.mk.injEq]
  exact ⟨text_inj htype, String.toList_inj.mp hidentifier⟩

end Keys

end FlightBookings.RateLimiter
