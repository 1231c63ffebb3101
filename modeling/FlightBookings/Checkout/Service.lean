import FlightBookings.Booking.Saga
import FlightBookings.Payment.Database

/-! # The booking service

The requests of clients and the messages of the payment service, as the booking
service turns them into runs of its saga. Its payment client asks the payment
service for an intent, or stands in for it; what it gets back the environment
decides.
-/

namespace FlightBookings.Checkout

open Await
open Booking (CreateBookingDto BookingStatus PaymentStatus Memory World)

/-! ## The payment client -/

inductive BookingPaymentMode where
  | paymentService
  | localMock
deriving DecidableEq

/-- The numeric identifier of the booking row is only passed on, and left out here. -/
structure CreatePaymentIntentRequest where
  bookingReference : String
  userId : Int
  amountCents : Nat
  currency : String
  paymentMethod : String
  idempotencyKey : String
deriving DecidableEq

structure CreatePaymentIntentResponse where
  paymentId : Option String
  clientSecret : Option String
  status : Option String
  paymentRequired : Bool
  provider : BookingPaymentMode
deriving DecidableEq

/-- What the payment client reads of the reply to `payment.create_intent`. -/
structure IntentReply where
  id : Option String
  clientSecret : Option String
  status : Option String
deriving DecidableEq

/-- The operations of the saga, and the request to the payment service. -/
inductive Op where
  | saga (op : Booking.Op)
  | send (request : CreatePaymentIntentRequest)

abbrev Op.Ret : Op → Type
  | .saga op => op.Ret
  | .send _ => IntentReply

/-- The request fails as an operation of the saga does, and times out so. -/
structure Choice where
  saga : Booking.Choice
  reply : IntentReply

def performWith (choice : Choice) : (op : Op) → World → Option (Except Exception op.Ret × World)
  | .saga op, w => Booking.performWith choice.saga op w
  | .send _, w =>
      match choice.saga.fails with
      | some e => some (.error e, w)
      | none => some (.ok choice.reply, w)

abbrev Call (α : Type) := Await.Call Op Op.Ret Exception Memory α

def saga {α : Type} (c : Booking.Call α) : Call α := c.lift Op.saga fun _ r => r

def findByReference (bookingReference : String) : Call (Option Booking.Booking) :=
  Call.await (Op.saga (.findBooking bookingReference))

def randomUUID : Call String := Call.await (Op.saga .uuid)

/-- `paymentClient.createPaymentIntent` -/
def createPaymentIntent (mode : BookingPaymentMode) (request : CreatePaymentIntentRequest) :
    Call CreatePaymentIntentResponse :=
  match mode with
  | .paymentService => do
      let reply : IntentReply ← Call.await (Op.send request)
      pure
        { paymentId := reply.id
          clientSecret := reply.clientSecret
          status := reply.status
          paymentRequired := true
          provider := .paymentService }
  | .localMock => do
      let id ← randomUUID
      pure
        { paymentId := some s!"local_mock_{id}"
          clientSecret := none
          status := some "confirmed"
          paymentRequired := false
          provider := .localMock }

/-! ## Creation -/

/-- A property of a row that was not found. -/
def nullProperty (name : String) : Exception :=
  .error s!"Cannot read properties of null (reading '{name}')"

def createPaymentIntentForBooking (mode : BookingPaymentMode) (booking : Booking.Booking)
    (userId : Int) : Call CreatePaymentIntentResponse :=
  createPaymentIntent mode
    { bookingReference := booking.bookingReference
      userId
      amountCents := booking.totalCost
      currency := "USD"
      paymentMethod := "card"
      idempotencyKey := s!"booking:{booking.bookingReference}" }

/-- Its own errors are logged and not thrown. -/
def rollbackBookingAfterPaymentFailure (bookingReference reason : String) : Call Unit :=
  tryCatch
    (do
      let _ ← saga (Booking.cancelBooking bookingReference s!"Payment initiation failed: {reason}")
      pure ())
    fun _ => pure ()

/-- `paymentIntent.paymentId || ...` -/
def localTransactionId (paymentIntent : CreatePaymentIntentResponse) : Call String :=
  if orElse paymentIntent.paymentId "" = "" then do
    let id ← randomUUID
    pure s!"local_mock_tx_{id}"
  else pure (orElse paymentIntent.paymentId "")

def prepareBookingForPayment (mode : BookingPaymentMode) (booking : Option Booking.Booking)
    (userId : Int) : Call (Option Booking.Booking × CreatePaymentIntentResponse) :=
  match booking with
  | none => throw (nullProperty "bookingReference")
  | some booking =>
      tryCatch
        (do
          let paymentIntent ← createPaymentIntentForBooking mode booking userId
          if paymentIntent.paymentRequired then pure (some booking, paymentIntent)
          else do
            let txId ← localTransactionId paymentIntent
            let finalBooking ← saga (Booking.completeBooking booking.bookingReference txId)
            pure (finalBooking, paymentIntent))
        fun error => do
          rollbackBookingAfterPaymentFailure booking.bookingReference error.message
          throw error

structure PaymentSummary where
  paymentId : Option String
  clientSecret : Option String
  provider : BookingPaymentMode
  status : Option String
deriving DecidableEq

structure CreatedBooking where
  bookingId : String
  status : BookingStatus
  expiresAt : Option Nat
  totalCost : Nat
  paymentRequired : Bool
  autoCompleted : Bool
  payment : PaymentSummary
deriving DecidableEq

def createBooking (mode : BookingPaymentMode) (dto : CreateBookingDto) (userId : Int) :
    Call CreatedBooking :=
  tryCatch
    (do
      let booking ← saga (Booking.executeBookingSaga { dto with userId } none)
      let (finalBooking, paymentIntent) ← prepareBookingForPayment mode booking userId
      match finalBooking with
      | none => throw (nullProperty "bookingReference")
      | some finalBooking =>
          pure
            { bookingId := finalBooking.bookingReference
              status := finalBooking.status
              expiresAt := finalBooking.expiresAt
              totalCost := finalBooking.totalCost
              paymentRequired := paymentIntent.paymentRequired
              autoCompleted := !paymentIntent.paymentRequired
              payment :=
                { paymentId := paymentIntent.paymentId
                  clientSecret := paymentIntent.clientSecret
                  provider := paymentIntent.provider
                  status := paymentIntent.status } })
    fun error => throw (Exception.badRequest error.message)

/-! ## Completion -/

/-- The row of a booking of the user. -/
def findOwn (bookingId : String) (userId : Int) : Call Booking.Booking := do
  let booking ← findByReference bookingId
  match booking with
  | none => throw (Exception.notFound "Booking not found")
  | some booking =>
      if booking.userId ≠ userId then throw (Exception.badRequest "Unauthorized")
      else pure booking

structure CompletedBooking where
  bookingId : String
  status : BookingStatus
  paymentStatus : PaymentStatus
  seatNumbers : List String
deriving DecidableEq

def completeBookingFromPaymentEvent (bookingId paymentTransactionId : String) :
    Call CompletedBooking :=
  if paymentTransactionId = "" then
    throw (Exception.badRequest "Payment transaction ID is required")
  else do
    let booking ← findByReference bookingId
    match booking with
    | none => throw (Exception.notFound "Booking not found")
    | some _ => do
        let completedBooking ← saga (Booking.completeBooking bookingId paymentTransactionId)
        match completedBooking with
        | none => throw (nullProperty "bookingReference")
        | some completedBooking =>
            pure
              { bookingId := completedBooking.bookingReference
                status := completedBooking.status
                paymentStatus := completedBooking.paymentStatus
                seatNumbers := completedBooking.seatNumbers }

/-- The completion itself is returned and not awaited, so its errors pass by the handler. -/
def completeBooking (bookingId : String) (userId : Int) (paymentTransactionId : String) :
    Call CompletedBooking := do
  let _ ← tryCatch (findOwn bookingId userId) fun error =>
    throw (Exception.badRequest error.message)
  completeBookingFromPaymentEvent bookingId paymentTransactionId

/-- `msg.gatewayTransactionId || msg.gatewayPaymentId || msg.paymentId` -/
def transactionIdOf (msg : Payment.PaymentCompleted) : String :=
  orElse msg.gatewayTransactionId (orElse (some msg.gatewayPaymentId) msg.paymentId)

def handlePaymentCompleted (msg : Payment.PaymentCompleted) : Call Unit := do
  let bookingReference := trim msg.bookingReference
  if bookingReference = "" then pure ()
  else do
    let _ ← completeBookingFromPaymentEvent bookingReference (transactionIdOf msg)
    pure ()

/-! ## Cancellation -/

structure CancelledBooking where
  bookingId : String
  status : BookingStatus
deriving DecidableEq

def cancelBooking (bookingId : String) (userId : Int) (reason : Option String) :
    Call CancelledBooking :=
  tryCatch
    (do
      let _ ← findOwn bookingId userId
      let cancelledBooking ←
        saga (Booking.cancelBooking bookingId (orElse reason "User requested cancellation"))
      match cancelledBooking with
      | none => throw (nullProperty "bookingReference")
      | some cancelledBooking =>
          pure ⟨cancelledBooking.bookingReference, cancelledBooking.status⟩)
    fun error => throw (Exception.badRequest error.message)

/-! ## The service -/

inductive Request where
  | createBooking (dto : CreateBookingDto) (userId : Int)
  | completeBooking (bookingId : String) (userId : Int) (paymentTransactionId : String)
  | cancelBooking (bookingId : String) (userId : Int) (reason : Option String)
  | handlePaymentCompleted (msg : Payment.PaymentCompleted)
  | cleanupExpiredBookings
  | wait (ms : Nat)

inductive Reply where
  | created (response : CreatedBooking)
  | completed (response : CompletedBooking)
  | cancelled (response : CancelledBooking)
  | done
deriving DecidableEq

def Request.call (mode : BookingPaymentMode) : Request → Call Reply
  | .createBooking dto userId => do
      let response ← Checkout.createBooking mode dto userId
      pure (.created response)
  | .completeBooking bookingId userId paymentTransactionId => do
      let response ← Checkout.completeBooking bookingId userId paymentTransactionId
      pure (.completed response)
  | .cancelBooking bookingId userId reason => do
      let response ← Checkout.cancelBooking bookingId userId reason
      pure (.cancelled response)
  | .handlePaymentCompleted msg => do
      Checkout.handlePaymentCompleted msg
      pure .done
  | .cleanupExpiredBookings => do
      saga Booking.cleanupExpiredBookings
      pure .done
  | .wait ms => do
      Call.await (Op.saga (.redis (.wait ms)))
      pure .done

def service (mode : BookingPaymentMode) :
    System Request Op (fun op => Except Exception op.Ret) Choice
      (Except Exception Reply × Memory) World where
  perform _ choice op w := performWith choice op w
  program request := request.call mode Memory.blank

abbrev Event := Await.Event Request Op Choice World

end FlightBookings.Checkout
