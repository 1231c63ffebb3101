import FlightBookings.Errors.Value

/-! # Errors across a remote call

An error that a handler of a microservice throws is turned into a payload by the filter of the
service, into an exception again by the gateway, and into a response by the filter of the gateway.
Each stage looks at the shape of what it gets; the logs are left out.
-/

namespace FlightBookings.Errors

/-! ## Messages -/

def SUCCESS_MESSAGES : List (String × String) :=
  [("user.create.success", "User created successfully"),
    ("user.update.success", "User updated successfully"),
    ("user.delete.success", "User deleted successfully"),
    ("auth.login.success", "Logged in successfully"),
    ("auth.logout.success", "Logged out successfully"),
    ("auth.refresh.success", "Token refreshed successfully"),
    ("auth.profile.success", "Profile retrieved successfully"),
    ("booking.create.success", "Booking initiated successfully"),
    ("booking.confirm.success", "Booking confirmed successfully"),
    ("booking.cancel.success", "Booking cancelled successfully"),
    ("booking.extend.success", "Booking extended successfully"),
    ("booking.list.success", "Bookings retrieved successfully"),
    ("booking.get.success", "Booking retrieved successfully"),
    ("booking.availability.success", "Availability checked successfully"),
    ("airport.create.success", "Airport created successfully"),
    ("airport.list.success", "Airports retrieved successfully"),
    ("airport.search.success", "Airport retrieved successfully"),
    ("airport.get.success", "Airport retrieved successfully"),
    ("airport.update.success", "Airport updated successfully"),
    ("airport.delete.success", "Airport deleted successfully"),
    ("airport.statistics.success", "Airport statistics retrieved successfully"),
    ("city.create.success", "City created successfully"),
    ("city.list.success", "Cities retrieved successfully"),
    ("city.get.success", "City retrieved successfully"),
    ("city.update.success", "City updated successfully"),
    ("city.delete.success", "City deleted successfully"),
    ("city.restore.success", "City restored successfully"),
    ("city.statistics.success", "City statistics retrieved successfully"),
    ("airplane.create.success", "Airplane created successfully"),
    ("airplane.list.success", "Airplanes retrieved successfully"),
    ("airplane.get.success", "Airplane retrieved successfully"),
    ("airplane.update.success", "Airplane updated successfully"),
    ("airplane.delete.success", "Airplane deleted successfully"),
    ("seat.create.success", "Seat created successfully"),
    ("seat.bulk_create.success", "Seats created successfully"),
    ("seat.list.success", "Seats retrieved successfully"),
    ("seat.delete.success", "Seat deleted successfully"),
    ("flight.list.success", "Flights retrieved successfully"),
    ("flight.get.success", "Flight retrieved successfully"),
    ("flight.create.success", "Flight created successfully"),
    ("flight.delete.success", "Flight deleted successfully"),
    ("payment.intent.create.success", "Payment intent created successfully"),
    ("payment.intent.confirm.success", "Payment intent confirmed successfully"),
    ("payment.intent.get.success", "Payment intent retrieved successfully"),
    ("payment.intent.ledger.success", "Ledger entries returned successfully"),
    ("refund.create.success", "Refund created successfully"),
    ("refund.list.success", "Refunds retrieved successfully"),
    ("webhook.stripe.success", "Webhook processed successfully"),
    ("webhook.paypal.success", "Webhook processed successfully")]

def ERROR_MESSAGES : List (String × String) :=
  [("user.not_found", "User not found"),
    ("user.email.already_exists", "Email already exists"),
    ("auth.invalid_credentials", "Invalid email or password"),
    ("auth.invalid_refresh_token", "Invalid refresh token"),
    ("auth.unauthorized", "Unauthorized access"),
    ("auth.token.missing", "Missing refresh token"),
    ("validation.failed", "Validation failed"),
    ("resource.not_found", "Resource not found"),
    ("database.duplicate_entry", "Duplicate entry"),
    ("database.foreign_key_violation", "Foreign key constraint violation"),
    ("database.query_failed", "Database query failed"),
    ("server.internal_error", "Something went wrong"),
    ("server.unexpected_error", "Unexpected error")]

def MESSAGES : List (String × String) := SUCCESS_MESSAGES ++ ERROR_MESSAGES

/-- The operator `in` also finds what every object inherits. -/
def isMessageKey (value : String) : Bool :=
  MESSAGES.any (fun entry => entry.1 = value) || value ∈ Js.prototypeMembers

def getMessage (key : String) : Js :=
  match MESSAGES.find? fun entry => entry.1 = key with
  | some entry => .str entry.2
  | none => .inherited key

/-! ## Exceptions -/

/-- An exception with its response and its status, and the members that are attached to it after
its construction. -/
structure HttpException where
  response : Js
  status : Int
  code : Js := .undefined
  errors : Js := .undefined
  stack : String

/-- An error of any other class. -/
structure ErrorObject where
  message : String
  status : Js
  code : Js
  errors : Js
  stack : String

/-! ## The filter of a service -/

def DEFAULT_RPC_ERROR_CODES : List (String × Js) :=
  [("400", .str "validation.failed"), ("401", .str "auth.unauthorized"),
    ("404", .str "resource.not_found"), ("500", .str "server.internal_error")]

inductive Thrown where
  | http (exception : HttpException)
  | error (exception : ErrorObject)

def Thrown.status : Thrown → Js
  | .http exception => .num exception.status
  | .error exception => exception.status.or (.num 500)

def Thrown.message : Thrown → Js
  | .http exception => exception.response
  | .error exception => (Js.str exception.message).or (.str "Internal server error")

/-- The code in the response; the one that is attached to an `HttpException` is not read. -/
def Thrown.code : Thrown → Js
  | .http exception => if exception.response.isObject then exception.response.get "code" else .undefined
  | .error exception => exception.code

def Thrown.errors : Thrown → Js
  | .http exception => exception.errors
  | .error exception => exception.errors

/-- What `CommonRpcExceptionFilter.catch` sends to the caller. -/
def commonRpcExceptionFilter (exception : Thrown) : Js :=
  let status := exception.status
  let code := (exception.code.or (Js.member status.toKey DEFAULT_RPC_ERROR_CODES)).or
    (.str "server.internal_error")
  .obj [("status", status), ("message", exception.message), ("code", code), ("errorCode", code),
    ("errors", exception.errors)]

/-! ## The gateway -/

/-- The status of a payload: its own, or the one of the response that it carries. -/
def rpcStatus (rpcError : Js) : Int :=
  match (rpcError.get "status").number?, (rpcError.get "statusCode").number?,
    ((rpcError.get "response").get "status").number?,
    ((rpcError.get "response").get "statusCode").number? with
  | some status, _, _, _ => status
  | none, some status, _, _ => status
  | none, none, some status, _ => status
  | none, none, none, some status => status
  | none, none, none, none => 500

/-- The code, the message and the errors of a payload. -/
structure RpcContent where
  code : Option String := none
  message : Js := .str "Internal server error"
  errors : Js := .undefined

/-- The content of a record that says it in members of its own. -/
def recordContent (res : Js) : RpcContent where
  code := (res.get "code").string?
  message :=
    match (res.get "code").string? with
    | some code =>
        if code ≠ "" && isMessageKey code then getMessage code
        else ((res.get "message").or (res.get "error")).or res.stringify
    | none => ((res.get "message").or (res.get "error")).or res.stringify
  errors := res.get "errors"

def rpcContent (rpcError : Js) : RpcContent :=
  let message := rpcError.get "message"
  let response := rpcError.get "response"
  if message.string?.isSome then { message }
  else if response.string?.isSome then { message := response }
  else if response.truthy && response.isObject then recordContent response
  else if message.truthy && message.isObject then recordContent message
  else if (rpcError.get "error").string?.isSome then { message := rpcError.get "error" }
  else {}

/-- The code of the content, if it is not empty, or the one of the payload. -/
def rpcCode (rpcError : Js) : Option String :=
  match (rpcContent rpcError).code with
  | some code => if code ≠ "" then some code else ((rpcError.get "code").string?).or (some code)
  | none => (rpcError.get "code").string?

/-- `...(code && { code })` -/
def codeMember : Option String → List (String × Js)
  | some code => if code ≠ "" then [("code", .str code)] else []
  | none => []

/-- `...(errors !== undefined && { errors })` -/
def errorsMember : Js → List (String × Js)
  | .undefined => []
  | errors => [("errors", errors)]

def createHttpExceptionFromRpcError (rpcError : Js) (stack : String) : HttpException where
  response := .obj (codeMember (rpcCode rpcError) ++ [("message", (rpcContent rpcError).message)] ++
    errorsMember (rpcContent rpcError).errors)
  status := rpcStatus rpcError
  stack := stack

/-! ## The filter of the gateway -/

def DEFAULT_ERROR_CODES : List (String × Js) :=
  [("400", .str "validation.failed"), ("401", .str "auth.unauthorized"),
    ("404", .str "resource.not_found"), ("500", .str "server.internal_error")]

/-- What the filter reads of its environment and of the request. -/
structure Context where
  isProduction : Bool
  apiVersion : String
  correlationId : String
  path : String
  timestamp : String

structure ApiResponse where
  success : Bool
  version : String
  statusCode : Int
  code : Js
  message : Js
  errorCode : Js
  data : Js
  timestamp : String
  correlationId : String
  path : String
  errors : Js

inductive Caught where
  | http (exception : HttpException)
  | queryFailed (code detail : Js) (message stack : String)
  | error (message stack : String)
  | other

def Caught.stack : Caught → Option String
  | .http exception => some exception.stack
  | .queryFailed _ _ _ stack => some stack
  | .error _ stack => some stack
  | .other => none

/-- The status, the message, the code and the errors of the response. -/
structure Rendered where
  status : Int
  message : Js
  code : Js := .undefined
  errors : Js := .undefined

/-- The message of an exception whose response is a record, by its code if that is a key. -/
def responseMessage (res : Js) : Js :=
  let named := ((res.get "message").orNullish (res.get "error")).orNullish (.str "Error")
  match (res.get "code").string? with
  | some code => if code ≠ "" && isMessageKey code then getMessage code else named
  | none => named

def renderHttp (exception : HttpException) : Rendered :=
  let res := exception.response
  match res with
  | .str message => { status := exception.status, message := .str message }
  | _ =>
      if res.truthy && res.isObject then
        if (res.get "message").isArray then
          { status := exception.status
            message := getMessage "validation.failed"
            code := .str "validation.failed"
            errors := res.get "message" }
        else
          { status := exception.status
            message := responseMessage res
            code := ((res.get "code").string?.map Js.str).getD .undefined
            errors := if (res.get "errors").isArray then res.get "errors" else .undefined }
      else { status := exception.status, message := .str "Error" }

def renderQueryFailed (isProduction : Bool) (code detail : Js) (message : String) : Rendered :=
  let key :=
    match code with
    | .str "23505" => "database.duplicate_entry"
    | .str "23503" => "database.foreign_key_violation"
    | _ => "database.query_failed"
  { status := 400
    message := getMessage key
    code := .str key
    errors := if isProduction then .undefined else .arr [detail.or (.str message)] }

def render (isProduction : Bool) : Caught → Rendered
  | .http exception => renderHttp exception
  | .queryFailed code detail message _ => renderQueryFailed isProduction code detail message
  | .error message _ =>
      { status := 500
        message := if isProduction then getMessage "server.internal_error" else .str message
        code := .str "server.internal_error" }
  | .other =>
      { status := 500
        message := getMessage "server.unexpected_error"
        code := .str "server.unexpected_error" }

/-- What `GlobalExceptionFilter.catch` answers. -/
def globalExceptionFilter (context : Context) (exception : Caught) : ApiResponse :=
  let rendered := render context.isProduction exception
  let code := rendered.code.orNullish (Js.member (toString rendered.status) DEFAULT_ERROR_CODES)
  { success := false
    version := context.apiVersion
    statusCode := rendered.status
    code
    message := rendered.message
    errorCode := code
    data := .null
    timestamp := context.timestamp
    correlationId := context.correlationId
    path := context.path
    errors :=
      if context.isProduction then rendered.errors
      else rendered.errors.or
        ((exception.stack.map fun stack => Js.arr [.str stack]).getD .undefined) }

/-- The response of the gateway to an error that a handler of a service throws. -/
def remoteCall (context : Context) (stack : String) (exception : Thrown) : ApiResponse :=
  globalExceptionFilter context
    (.http (createHttpExceptionFromRpcError (commonRpcExceptionFilter exception) stack))

end FlightBookings.Errors
