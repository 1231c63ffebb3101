import FlightBookings.Auth.Gateway
import FlightBookings.Checkout.Endpoints
import FlightBookings.Errors.Filters

/-! # The booking endpoints of the gateway

A client of the gateway proves who he is with an access token, which the guard
has the authentication service check. What the gateway asks of the booking
service it asks in the name of the user that the check returns, whatever the
client sends.
-/

namespace FlightBookings.Gateway

open Await
open Auth (AccessToken JwtConfig)
open Checkout (ServiceRequest ServiceReply)
open Errors (HttpException)

/-- The requests of clients to the booking endpoints, as they pass validation. -/
inductive Endpoint where
  | createBooking (createDto : Booking.CreateBookingDto)
  | completeBooking (bookingId paymentTransactionId : String)
  | cancelBooking (bookingId : String) (reason : Option String)
  | extendBooking (bookingId : String)
  | getMyBookings
  | getBooking (bookingId : String)
  | checkSeatAvailability (flightId : Int) (seats : String)

/-- The message to the booking service. The identifier of the user comes last, so that none that the
client sends can take its place. -/
def Endpoint.message (userId : Int) : Endpoint → ServiceRequest
  | .createBooking createDto => .checkout (.createBooking { createDto with userId } userId)
  | .completeBooking bookingId paymentTransactionId =>
      .checkout (.completeBooking bookingId userId paymentTransactionId)
  | .cancelBooking bookingId reason => .checkout (.cancelBooking bookingId userId reason)
  | .extendBooking bookingId => .extendBooking bookingId userId
  | .getMyBookings => .getMyBookings userId none
  | .getBooking bookingId => .getBooking bookingId userId
  | .checkSeatAvailability flightId seats => .checkSeatAvailability flightId seats

/-- The key of the message with which a success is reported. -/
def Endpoint.code : Endpoint → String
  | .createBooking _ => "booking.create.success"
  | .completeBooking _ _ => "booking.confirm.success"
  | .cancelBooking _ _ => "booking.cancel.success"
  | .extendBooking _ => "booking.extend.success"
  | .getMyBookings => "booking.list.success"
  | .getBooking _ => "booking.get.success"
  | .checkSeatAvailability _ _ => "booking.availability.success"

/-- `ApiResponseDto.success` with one of the keys above. -/
structure Success where
  data : ServiceReply
  code : String
  message : Js

inductive Response where
  | auth (reply : Except Auth.Exception (Option Auth.Tokens))
  | denied (exception : Auth.Exception)
  | success (response : Success)
  | failure (exception : HttpException)

/-! ## The system -/

/-- The operations of the authentication service, and a message to the booking service. -/
inductive Op where
  | auth (op : Auth.Op)
  | send (message : ServiceRequest)

/-- A message is replied to, or it is answered by an error, which becomes an exception with a stack
trace. -/
abbrev Replies : Op → Type
  | .auth op => Except Auth.Exception op.Ret
  | .send _ => Except (Js × String) ServiceReply

structure Choice where
  auth : Auth.Choice
  reply : Except (Js × String) ServiceReply

/-- What the authentication service stores, and the messages that the booking service was sent. -/
structure World where
  auth : Auth.World
  sent : List ServiceRequest

def World.init (now : Nat) (users : Auth.UserTable) : World := ⟨Auth.World.init now users, []⟩

/-- A message can arrive although no reply comes. -/
def performWith (choice : Choice) : (op : Op) → World → Option (Replies op × World)
  | .auth op, w => (Auth.performWith choice.auth op w.auth).map fun r => (r.1, { w with auth := r.2 })
  | .send message, w => some (choice.reply, { w with sent := w.sent ++ [message] })

abbrev Program (α : Type) := Await.Program Op Replies α

def ofAuth {α : Type} (c : Auth.Call α) : Program (Except Auth.Exception α × Unit) :=
  (c ()).lift Op.auth fun _ r => r

/-- The guard of the application and that of the controller, one after the other. What the second one
finds replaces what the first one found. -/
def authenticate (accessToken : Option AccessToken) : Auth.Call Auth.Profile := do
  let _ ← Auth.canActivate accessToken
  Auth.canActivate accessToken

def callService (endpoint : Endpoint) (userId : Int) : Program Response :=
  .await (.send (endpoint.message userId)) fun
    | .ok result => .done (.success ⟨result, endpoint.code, Errors.getMessage endpoint.code⟩)
    | .error (error, stack) => .done (.failure (Errors.createHttpExceptionFromRpcError error stack))

/-- The accounts change by other hands, too. -/
inductive Request where
  | auth (request : Auth.GatewayRequest)
  | changeUsers (users : Auth.UserTable)
  | booking (accessToken : Option AccessToken) (endpoint : Endpoint)

def Request.program (config : JwtConfig) : Request → Program Response
  | .auth request => (ofAuth (request.call config)).bind fun r => .done (.auth r.1)
  | .changeUsers users =>
      (ofAuth (Auth.Request.call config (.changeUsers users))).bind fun r => .done (.auth r.1)
  | .booking accessToken endpoint =>
      (ofAuth (authenticate accessToken)).bind fun
        | (.ok user, _) => callService endpoint user.id
        | (.error exception, _) => .done (.denied exception)

def gateway (config : JwtConfig) : System Request Op Replies Choice Response World where
  perform _ choice op w := performWith choice op w
  program request := request.program config

abbrev Event := Await.Event Request Op Choice World

end FlightBookings.Gateway
