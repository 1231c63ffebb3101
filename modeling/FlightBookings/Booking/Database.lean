import FlightBookings.SeatLock.Service
import FlightBookings.Store.Table

/-! # The database of the booking service

The rows that the booking saga reads and writes, and the operations that it
awaits. The statements of a transaction take effect together when it commits,
and not at all when it fails before.
-/

namespace FlightBookings.Booking

inductive BookingStatus where
  | initiated
  | pending
  | booked
  | cancelled
  | expired
  | refunded
deriving DecidableEq

inductive PaymentStatus where
  | pending
  | processing
  | completed
  | failed
  | refunded
deriving DecidableEq

inductive SagaStatus where
  | initiated
  | seatsLocked
  | flightReserved
  | paymentProcessing
  | paymentCompleted
  | bookingConfirmed
  | failed
  | compensating
  | compensated
deriving DecidableEq

/-- A booking request, its flight already read as a number and its cost in cents. -/
structure CreateBookingDto where
  userId : Int
  flightId : Int
  seats : Option Int := none
  seatNumbers : Option (List String) := none
  seatClass : Option String := none
  totalCost : Option Nat := none
  passengerName : Option String := none
  passengerEmail : Option String := none
  passengerPhone : Option String := none
  seatPreference : Option String := none
deriving DecidableEq

structure SagaState where
  sagaId : String
  bookingId : String
  status : SagaStatus
  currentStep : Nat
  payload : CreateBookingDto
  lockKey : Option String
  errorMessage : Option String
  idempotencyKey : Option String
deriving DecidableEq

structure Booking where
  bookingReference : String
  userId : Int
  flightId : Int
  noOfSeats : Int
  seatNumbers : List String
  seatClass : String
  totalCost : Nat
  passengerName : String
  passengerEmail : String
  passengerPhone : String
  status : BookingStatus
  paymentStatus : PaymentStatus
  paymentTransactionId : Option String
  paidAt : Option Nat
  expiresAt : Option Nat
  cancellationReason : Option String
  cancelledAt : Option Nat
deriving DecidableEq

/-- The payload of the three events that change the inventory of a flight. -/
structure SeatsPayload where
  flightId : Int
  bookingId : String
  seatClass : String
  seatCount : Int
deriving DecidableEq

/-- The events of the outbox by their type, with the payload of each. -/
inductive EventBody where
  | bookingCreated (bookingId : String) (userId : Int)
  | reserveSeats (payload : SeatsPayload)
  | confirmSeats (payload : SeatsPayload)
  | releaseSeats (payload : SeatsPayload)
  | bookingConfirmed (bookingId : String) (userId : Int)
deriving DecidableEq

def EventBody.eventType : EventBody → String
  | .bookingCreated _ _ => "booking.created"
  | .reserveSeats _ => "flight.reserve-seats"
  | .confirmSeats _ => "flight.confirm-seats"
  | .releaseSeats _ => "flight.release-seats"
  | .bookingConfirmed _ _ => "booking.confirmed"

structure OutboxEvent where
  eventId : String
  aggregateId : String
  body : EventBody
deriving DecidableEq

/-! ## Tables and transactions -/

/-- Redis, whose clock is the one that every service reads, the identifiers that were handed
out, and the tables. -/
structure World where
  redis : SeatLock.Redis
  issued : List String
  sagas : List SagaState
  bookings : List Booking
  outbox : List OutboxEvent

def World.init (now : Nat) : World := ⟨Keyspace.empty now, [], [], [], []⟩

abbrev World.saga (w : World) (bookingId : String) : Option SagaState :=
  Table.find SagaState.bookingId bookingId w.sagas

abbrev World.booking (w : World) (bookingReference : String) : Option Booking :=
  Table.find Booking.bookingReference bookingReference w.bookings

/-- The three partial updates of a booking row. -/
inductive BookingChange where
  | pending
  | booked (paymentTransactionId : String) (paidAt : Nat)
  | cancelled (cancellationReason : String) (cancelledAt : Nat)
deriving DecidableEq

def BookingChange.apply : BookingChange → Booking → Booking
  | .pending, b => { b with status := .pending }
  | .booked paymentTransactionId paidAt, b =>
      { b with
        status := .booked
        paymentStatus := .completed
        paymentTransactionId := some paymentTransactionId
        paidAt := some paidAt
        expiresAt := none }
  | .cancelled reason at_, b =>
      { b with
        status := .cancelled
        cancellationReason := some reason
        cancelledAt := some at_ }

@[simp] theorem BookingChange.apply_bookingReference (change : BookingChange) (b : Booking) :
    (change.apply b).bookingReference = b.bookingReference := by
  cases change <;> rfl

@[simp] theorem BookingChange.apply_flightId (change : BookingChange) (b : Booking) :
    (change.apply b).flightId = b.flightId := by
  cases change <;> rfl

@[simp] theorem BookingChange.apply_seatNumbers (change : BookingChange) (b : Booking) :
    (change.apply b).seatNumbers = b.seatNumbers := by
  cases change <;> rfl

/-- The writing statements of the transactions. -/
inductive Write where
  | insertBooking (booking : Booking)
  | saveSaga (saga : SagaState)
  | updateBooking (bookingReference : String) (change : BookingChange)
  | insertEvent (event : OutboxEvent)
deriving DecidableEq

def Write.apply : Write → World → World
  | .insertBooking b, w => { w with bookings := w.bookings ++ [b] }
  | .saveSaga s, w => { w with sagas := Table.upsert SagaState.bookingId s w.sagas }
  | .updateBooking ref change, w =>
      { w with bookings := Table.modify Booking.bookingReference ref change.apply w.bookings }
  | .insertEvent e, w => { w with outbox := w.outbox ++ [e] }

/-- The unique index on `booking_reference`. -/
def Write.unique (w : World) : Write → Bool
  | .insertBooking b => (w.booking b.bookingReference).isNone
  | _ => true

def applyAll (writes : List Write) (w : World) : World := writes.foldl (fun w x => x.apply w) w

inductive Tx where
  | createBooking
  | lockSeats
  | reserveFlightSeats
  | completeBooking
  | compensate
deriving DecidableEq

/-! ## Operations -/

inductive Op where
  | redis (op : SeatLock.Op)
  | uuid
  | findSagaByKey (idempotencyKey : String)
  | findSaga (bookingId : String)
  | findBooking (bookingReference : String)
  | findExpiredBookings (now : Nat)
  | insertSaga (saga : SagaState)
  | begin (tx : Tx)
  | sql (tx : Tx) (write : Write)
  | commit (tx : Tx) (bookingId : String) (writes : List Write)
deriving DecidableEq

abbrev Op.Ret : Op → Type
  | .redis op => op.Ret
  | .uuid => String
  | .findSagaByKey _ => Option SagaState
  | .findSaga _ => Option SagaState
  | .findBooking _ => Option Booking
  | .findExpiredBookings _ => List Booking
  | .insertSaga _ => Unit
  | .begin _ => Unit
  | .sql _ _ => Unit
  | .commit _ _ _ => Unit

/-- The reads of the clock and the draws of an identifier do not fail. -/
def Op.fallible : Op → Bool
  | .redis .dateNow => false
  | .redis (.wait _) => false
  | .uuid => false
  | _ => true

/-- What the environment decides for one operation: the error with which it fails, if it
does, and the identifier that it draws, if it draws one. -/
structure Choice where
  fails : Option Exception
  uuid : String
deriving DecidableEq

def isExpired (now : Nat) (b : Booking) : Bool :=
  b.status = .initiated && b.expiresAt.any fun expiresAt => expiresAt < now

def duplicateKey : Exception :=
  .error "duplicate key value violates unique constraint"

/-- An operation that succeeds. Identifiers never repeat. -/
def Op.perform (uuid : String) :
    (op : Op) → World → Option (Except Exception op.Ret × World)
  | .redis op, w => some (.ok (op.perform w.redis).1, { w with redis := (op.perform w.redis).2 })
  | .uuid, w =>
      if uuid ∈ w.issued then none else some (.ok uuid, { w with issued := uuid :: w.issued })
  | .findSagaByKey key, w => some (.ok (w.sagas.find? fun s => s.idempotencyKey = some key), w)
  | .findSaga id, w => some (.ok (w.saga id), w)
  | .findBooking ref, w => some (.ok (w.booking ref), w)
  | .findExpiredBookings now, w => some (.ok (w.bookings.filter (isExpired now)), w)
  | .insertSaga s, w => some (.ok (), { w with sagas := w.sagas ++ [s] })
  | .begin _, w => some (.ok (), w)
  | .sql _ _, w => some (.ok (), w)
  | .commit _ _ writes, w =>
      if writes.all (Write.unique w) then some (.ok (), applyAll writes w)
      else some (.error duplicateKey, w)

/-- A failing operation leaves the world as it was. -/
def performWith (choice : Choice) (op : Op) (w : World) :
    Option (Except Exception op.Ret × World) :=
  match choice.fails with
  | some e => if op.fallible then some (.error e, w) else op.perform choice.uuid w
  | none => op.perform choice.uuid w

end FlightBookings.Booking
