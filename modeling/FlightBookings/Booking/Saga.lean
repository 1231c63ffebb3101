import FlightBookings.Booking.Database

/-! # The booking saga

The orchestrator of a booking: its three steps, its completion after the
payment, and its compensation. The saga row that a call holds in memory is
changed inside transactions and is not restored when they roll back.
-/

namespace FlightBookings.Booking

open Await

/-- What a call keeps between its operations: the saga row that it holds, and the statements
of the transaction that it is in. -/
structure Memory where
  saga : SagaState
  writes : List Write

abbrev Call (α : Type) := Await.Call Op Op.Ret Exception Memory α

/-! ## Statements -/

def dateNow : Call Nat := Call.await (Op.redis .dateNow)

def seatLock {α : Type} (c : SeatLock.Call Memory α) : Call α := c.lift Op.redis fun _ r => r

def setSaga (f : SagaState → SagaState) : Call Unit :=
  Call.remember fun m => { m with saga := f m.saga }

def statement (tx : Tx) (write : Write) : Call Unit := do
  Call.await (Op.sql tx write)
  Call.remember fun m => { m with writes := m.writes ++ [write] }

def saveSaga (tx : Tx) : Call Unit := do
  let m ← Call.memory
  statement tx (.saveSaga m.saga)

def storeEvent (tx : Tx) (aggregateId : String) (body : EventBody) : Call Unit := do
  let eventId ← Call.await Op.uuid
  statement tx (.insertEvent ⟨eventId, aggregateId, body⟩)

/-- `dataSource.transaction`: the saga in memory is the one whose booking the body changes. -/
def transaction (tx : Tx) (body : Call Unit) : Call Unit := do
  Call.await (Op.begin tx)
  Call.remember fun m => { m with writes := [] }
  body
  let m ← Call.memory
  Call.await (Op.commit tx m.saga.bookingId m.writes)

/-! ## The data of a request -/

def seatClasses : List String := ["ECONOMY", "PREMIUM_ECONOMY", "BUSINESS", "FIRST_CLASS"]

/-- The class of the booking row: the one asked for, or a preference that names a class. -/
def resolvedSeatClass (dto : CreateBookingDto) : String :=
  if orElse dto.seatClass "" = "" then
    let upperPreference := toUpperCase (orElse dto.seatPreference "")
    if upperPreference ∈ seatClasses then upperPreference else "ECONOMY"
  else orElse dto.seatClass "ECONOMY"

def seatCount (dto : CreateBookingDto) : Int :=
  let fallback : Int :=
    match dto.seatNumbers with
    | some seatNumbers => seatNumbers.length
    | none => 1
  match dto.seats with
  | some seats => if seats = 0 then fallback else seats
  | none => fallback

def seatsPayload (saga : SagaState) : SeatsPayload where
  flightId := saga.payload.flightId
  bookingId := saga.bookingId
  seatClass := orElse saga.payload.seatClass "ECONOMY"
  seatCount := seatCount saga.payload

def newBooking (saga : SagaState) (now : Nat) : Booking where
  bookingReference := saga.bookingId
  userId := saga.payload.userId
  flightId := saga.payload.flightId
  noOfSeats := seatCount saga.payload
  seatNumbers := saga.payload.seatNumbers.getD []
  seatClass := resolvedSeatClass saga.payload
  totalCost := saga.payload.totalCost.getD 0
  passengerName := orElse saga.payload.passengerName "Unknown"
  passengerEmail := orElse saga.payload.passengerEmail ""
  passengerPhone := orElse saga.payload.passengerPhone ""
  status := .initiated
  paymentStatus := .pending
  paymentTransactionId := none
  paidAt := none
  expiresAt := some (now + 15 * 60 * 1000)
  cancellationReason := none
  cancelledAt := none

/-! ## Compensation -/

def compensateBody (message : String) : Call Unit := do
  setSaga fun s => { s with status := .compensating, errorMessage := some message }
  saveSaga .compensate
  let m ← Call.memory
  Call.whenever (3 ≤ m.saga.currentStep) <|
    storeEvent .compensate m.saga.bookingId (.releaseSeats (seatsPayload m.saga))
  Call.whenever (2 ≤ m.saga.currentStep) <|
    seatLock (SeatLock.releaseSeats m.saga.payload.flightId m.saga.bookingId)
  let now ← dateNow
  statement .compensate (.updateBooking m.saga.bookingId (.cancelled s!"Saga failed: {message}" now))
  setSaga fun s => { s with status := .compensated }
  saveSaga .compensate

/-- Its own errors are logged and not thrown. -/
def compensate (message : String) : Call Unit := do
  let m ← Call.memory
  if m.saga.status = .compensated then pure ()
  else tryCatch (transaction .compensate (compensateBody message)) fun _ => pure ()

def compensating (body : Call Unit) : Call Unit :=
  tryCatch body fun e => do
    compensate e.message
    throw e

/-! ## The steps -/

def createBookingBody (saga : SagaState) : Call Unit := do
  let now ← dateNow
  statement .createBooking (.insertBooking (newBooking saga now))
  setSaga fun s => { s with currentStep := 1, status := .initiated }
  saveSaga .createBooking
  storeEvent .createBooking saga.bookingId
    (.bookingCreated saga.bookingId saga.payload.userId)

def executeStep1_CreateBooking : Call Unit := do
  let m ← Call.memory
  if 1 ≤ m.saga.currentStep then pure ()
  else transaction .createBooking (createBookingBody m.saga)

def lockSeatsBody (lockKey : String) : Call Unit := do
  setSaga fun s => { s with currentStep := 2, status := .seatsLocked, lockKey := some lockKey }
  saveSaga .lockSeats

def executeStep2_LockSeats : Call Unit := do
  let m ← Call.memory
  if 2 ≤ m.saga.currentStep then pure ()
  else compensating do
    let dto := m.saga.payload
    let locked ← seatLock <|
      SeatLock.lockSeats dto.flightId (dto.seatNumbers.getD []) m.saga.bookingId dto.userId
    if locked.success then transaction .lockSeats (lockSeatsBody locked.lockKey)
    else
      throw (Exception.error
        ("Failed to lock seats: " ++ String.intercalate ", " locked.failedSeats))

def reserveFlightSeatsBody (saga : SagaState) : Call Unit := do
  storeEvent .reserveFlightSeats saga.bookingId (.reserveSeats (seatsPayload saga))
  setSaga fun s => { s with currentStep := 3, status := .flightReserved }
  saveSaga .reserveFlightSeats
  statement .reserveFlightSeats (.updateBooking saga.bookingId .pending)

def executeStep3_ReserveFlightSeats : Call Unit := do
  let m ← Call.memory
  if 3 ≤ m.saga.currentStep then pure ()
  else compensating (transaction .reserveFlightSeats (reserveFlightSeatsBody m.saga))

def newSaga (sagaId bookingId : String) (dto : CreateBookingDto)
    (idempotencyKey : Option String) : SagaState where
  sagaId := sagaId
  bookingId := bookingId
  status := .initiated
  currentStep := 0
  payload := dto
  lockKey := none
  errorMessage := none
  idempotencyKey := idempotencyKey

def findExistingSaga (idempotencyKey : Option String) : Call (Option SagaState) :=
  match idempotencyKey with
  | some key => if key = "" then pure none else Call.await (Op.findSagaByKey key)
  | none => pure none

/-! ## The entry points -/

def executeBookingSaga (dto : CreateBookingDto) (idempotencyKey : Option String) :
    Call (Option Booking) := do
  let existingSaga ← findExistingSaga idempotencyKey
  match existingSaga with
  | some saga => Call.await (Op.findBooking saga.bookingId)
  | none => do
      let sagaId ← Call.await Op.uuid
      let bookingId ← Call.await Op.uuid
      let saga := newSaga sagaId bookingId dto idempotencyKey
      Call.await (Op.insertSaga saga)
      setSaga fun _ => saga
      executeStep1_CreateBooking
      executeStep2_LockSeats
      executeStep3_ReserveFlightSeats
      Call.await (Op.findBooking bookingId)

def completeBody (bookingId paymentTransactionId : String) : Call Unit := do
  let m ← Call.memory
  storeEvent .completeBooking bookingId
    (.confirmSeats { seatsPayload m.saga with bookingId })
  let now ← dateNow
  statement .completeBooking (.updateBooking bookingId (.booked paymentTransactionId now))
  setSaga fun s => { s with currentStep := 6, status := .bookingConfirmed }
  saveSaga .completeBooking
  storeEvent .completeBooking bookingId (.bookingConfirmed bookingId m.saga.payload.userId)

def completeBooking (bookingId paymentTransactionId : String) : Call (Option Booking) := do
  let sagaState : Option SagaState ← Call.await (Op.findSaga bookingId)
  match sagaState with
  | none => throw (Exception.error "Saga state not found")
  | some saga =>
      if saga.status = .bookingConfirmed then Call.await (Op.findBooking bookingId)
      else do
        setSaga fun _ => saga
        transaction .completeBooking (completeBody bookingId paymentTransactionId)
        seatLock (SeatLock.releaseSeats saga.payload.flightId bookingId)
        Call.await (Op.findBooking bookingId)

def cancelBooking (bookingId reason : String) : Call (Option Booking) := do
  let sagaState : Option SagaState ← Call.await (Op.findSaga bookingId)
  match sagaState with
  | none => throw (Exception.error "Saga state not found")
  | some saga => do
      setSaga fun _ => saga
      compensate reason
      Call.await (Op.findBooking bookingId)

def expiredReason : String := "Booking expired - payment not completed within time limit"

def cleanupExpiredBookings : Call Unit :=
  tryCatch
    (do
      let now ← dateNow
      let expiredBookings : List Booking ← Call.await (Op.findExpiredBookings now)
      expiredBookings.forM fun booking =>
        tryCatch (do let _ ← cancelBooking booking.bookingReference expiredReason; pure ⟨⟩)
          fun _ => pure ⟨⟩)
    fun _ => pure ()

/-! ## The service -/

inductive Request where
  | executeBookingSaga (dto : CreateBookingDto) (idempotencyKey : Option String)
  | completeBooking (bookingId paymentTransactionId : String)
  | cancelBooking (bookingId reason : String)
  | cleanupExpiredBookings
  | wait (ms : Nat)

inductive Reply where
  | booking (booking : Option Booking)
  | done
deriving DecidableEq

def Request.call : Request → Call Reply
  | .executeBookingSaga dto key => do
      let booking ← Booking.executeBookingSaga dto key
      pure (.booking booking)
  | .completeBooking id paymentTransactionId => do
      let booking ← Booking.completeBooking id paymentTransactionId
      pure (.booking booking)
  | .cancelBooking id reason => do
      let booking ← Booking.cancelBooking id reason
      pure (.booking booking)
  | .cleanupExpiredBookings => do
      Booking.cleanupExpiredBookings
      pure .done
  | .wait ms => do
      Call.await (Op.redis (.wait ms))
      pure .done

/-- A memory that holds no saga yet. -/
def Memory.blank : Memory where
  saga := newSaga "" "" { userId := 0, flightId := 0 } none
  writes := []

def service : System Request Op (fun op => Except Exception op.Ret) Choice
    (Except Exception Reply × Memory) World where
  perform _ choice op w := performWith choice op w
  program request := request.call Memory.blank

abbrev Event := Await.Event Request Op Choice World

abbrev ServicePool :=
  Pool Op (fun op => Except Exception op.Ret) (Except Exception Reply × Memory) World

/-- The next `n` operations of a call succeed, each ready to draw an identifier of its own. -/
def succeeds (call : Nat) (name : String) (n : Nat) : List (Move Request Choice) :=
  (List.range n).map fun k => .run call ⟨none, s!"{name}{k}"⟩

def onlySeat : CreateBookingDto := { userId := 1, flightId := 7, seatNumbers := some ["1A"] }

/-- A saga for one seat that goes through all its steps. Its booking is `a1`. -/
def reserved : List (Move Request Choice) :=
  .start (.executeBookingSaga onlySeat none) :: succeeds 0 "a" 23

end FlightBookings.Booking
