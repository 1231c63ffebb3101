import FlightBookings.Auth.Service

/-! # The authentication endpoints of the gateway

The gateway checks the access token of a logout and passes what the client sent
on to the authentication service. The tokens of a web client travel in cookies.
-/

namespace FlightBookings.Auth

open Await

inductive ClientType where
  | web
  | mobile
  | desktop
  | api
deriving DecidableEq

/-- The body of a refresh that passes validation. -/
structure RefreshBody where
  refreshToken : RefreshToken
  deviceId : String
  clientType : ClientType

/-- The body of a logout that passes validation. -/
structure LogoutBody where
  userId : Int
  deviceId : String
  clientType : ClientType
  userId_pos : 0 < userId

/-- Requests to the gateway, with the cookies `refreshToken_{deviceId}` by device and the access
token that comes in a header or a cookie, and the time that passes. -/
inductive GatewayRequest where
  | register (body : SignUpDto)
  | login (body : SignInDto)
  | refresh (cookies : String → Option RefreshToken) (body : RefreshBody)
  | logout (accessToken : Option AccessToken) (body : LogoutBody)
  | wait (ms : Nat)

/-- The guard of the endpoints that are not public. -/
def canActivate : Option AccessToken → Call Profile
  | none => throw (.unauthorized "Token not found" none)
  | some token =>
      tryCatch
        (do
          let payload : AccessClaims ← Call.await (Op.verifyAccess token)
          validateUser payload)
        fun _ => throw (.unauthorized "Invalid token" none)

/-- The token that a refresh presents: a web client sends it as a cookie. -/
def presented (cookies : String → Option RefreshToken) (body : RefreshBody) : Option RefreshToken :=
  if body.clientType = .web then cookies body.deviceId else some body.refreshToken

def GatewayRequest.call (config : JwtConfig) : GatewayRequest → Call (Option Tokens)
  | .register body => Request.call config (.register body)
  | .login body => Request.call config (.signIn body none)
  | .refresh cookies body =>
      match presented cookies body with
      | none => throw (.badRequest "auth.token.missing")
      | some refreshToken => Request.call config (.refreshTokens ⟨refreshToken, some body.deviceId⟩)
  | .logout accessToken body => do
      let _ ← canActivate accessToken
      Request.call config (.signOut ⟨body.userId, body.deviceId⟩)
  | .wait ms => Request.call config (.wait ms)

def gateway (config : JwtConfig) : System GatewayRequest Op Replies Choice Response World where
  perform _ choice op w := performWith choice op w
  program request := request.call config ()

end FlightBookings.Auth
