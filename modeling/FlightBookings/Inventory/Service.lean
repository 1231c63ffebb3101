import FlightBookings.Common
import FlightBookings.Await.Logic
import FlightBookings.Await.Pool
import FlightBookings.Store.Table

/-! # The seat inventory of the flights

The handlers of the seat events. A delivery looks its event up and runs its
transaction later; the unique index on the processed events aborts a second
transaction of one event, and the lock on the flight row makes each transaction
one step.
-/

namespace FlightBookings.Inventory

open Await

/-! ## Tables -/

structure Flight where
  id : Int
  economySeatsAvailable : Int
  businessSeatsAvailable : Int
  firstClassSeatsAvailable : Int
  premiumEconomySeatsAvailable : Int
deriving DecidableEq

inductive SeatField where
  | economySeatsAvailable
  | businessSeatsAvailable
  | firstClassSeatsAvailable
  | premiumEconomySeatsAvailable
deriving DecidableEq

def Flight.available (f : Flight) : SeatField → Int
  | .economySeatsAvailable => f.economySeatsAvailable
  | .businessSeatsAvailable => f.businessSeatsAvailable
  | .firstClassSeatsAvailable => f.firstClassSeatsAvailable
  | .premiumEconomySeatsAvailable => f.premiumEconomySeatsAvailable

/-- `SET field = field + n`. -/
def Flight.add (n : Int) (f : Flight) : SeatField → Flight
  | .economySeatsAvailable => { f with economySeatsAvailable := f.economySeatsAvailable + n }
  | .businessSeatsAvailable => { f with businessSeatsAvailable := f.businessSeatsAvailable + n }
  | .firstClassSeatsAvailable => { f with firstClassSeatsAvailable := f.firstClassSeatsAvailable + n }
  | .premiumEconomySeatsAvailable =>
      { f with premiumEconomySeatsAvailable := f.premiumEconomySeatsAvailable + n }

@[simp] theorem Flight.add_id (n : Int) (f : Flight) (field : SeatField) :
    (f.add n field).id = f.id := by
  cases field <;> rfl

theorem Flight.available_add (n : Int) (f : Flight) (field field' : SeatField) :
    (f.add n field).available field' = f.available field' + if field' = field then n else 0 := by
  cases field <;> cases field' <;> simp [Flight.add, Flight.available]

structure ProcessedEvent where
  eventId : String
  eventType : String
  aggregateId : String
deriving DecidableEq

structure World where
  flights : List Flight
  processedEvents : List ProcessedEvent
deriving DecidableEq

abbrev World.flight (w : World) (id : Int) : Option Flight := Table.find Flight.id id w.flights

abbrev World.processed (w : World) (eventId : String) : Option ProcessedEvent :=
  Table.find ProcessedEvent.eventId eventId w.processedEvents

/-! ## Transactions -/

structure FlightSeatEvent where
  eventId : String
  flightId : Int
  bookingId : String
  seatClass : String
  seatCount : Int
deriving DecidableEq

def getSeatField : String → Option SeatField
  | "ECONOMY" => some .economySeatsAvailable
  | "BUSINESS" => some .businessSeatsAvailable
  | "FIRST_CLASS" => some .firstClassSeatsAvailable
  | "PREMIUM_ECONOMY" => some .premiumEconomySeatsAvailable
  | _ => none

/-- The statements of a transaction. It leaves nothing when one of them throws. -/
abbrev Transaction := StateT World (Except Exception)

/-- `increment`, and `decrement` by the negative number: a single update, which may meet no row.
A field that is not mapped is no column of the entity. -/
def increment (flightId : Int) (field : Option SeatField) (n : Int) : Transaction Unit :=
  match field with
  | some field =>
      modify fun w => { w with flights := Table.modify Flight.id flightId (fun f => f.add n field) w.flights }
  | none => throw (.error "Column undefined was not found in Flight entity.")

/-- The unique index on `event_id`. -/
def saveProcessedEvent (e : ProcessedEvent) : Transaction Unit := do
  let w ← get
  match w.processed e.eventId with
  | some _ => throw (.error "duplicate key value violates unique constraint")
  | none => set { w with processedEvents := w.processedEvents ++ [e] }

def reserveSeats (msg : FlightSeatEvent) : Transaction Unit := do
  let w ← get
  match w.flight msg.flightId with
  | none => throw (.error s!"Flight {msg.flightId} not found")
  | some flight =>
      let seatField := getSeatField msg.seatClass
      -- A count that is undefined is not less than any number.
      match seatField.map flight.available with
      | some currentAvailable =>
          if currentAvailable < msg.seatCount then
            throw (.error
              s!"Not enough seats. Requested: {msg.seatCount}, Available: {currentAvailable}")
      | none => pure ()
      increment msg.flightId seatField (-msg.seatCount)
      saveProcessedEvent ⟨msg.eventId, "flight.reserve-seats", msg.bookingId⟩

def confirmSeats (msg : FlightSeatEvent) : Transaction Unit :=
  saveProcessedEvent ⟨msg.eventId, "flight.confirm-seats", msg.bookingId⟩

def releaseSeats (msg : FlightSeatEvent) : Transaction Unit := do
  let seatField := getSeatField msg.seatClass
  increment msg.flightId seatField msg.seatCount
  saveProcessedEvent ⟨msg.eventId, "flight.release-seats", msg.bookingId⟩

/-! ## The handlers -/

inductive Kind where
  | reserve
  | confirm
  | release
deriving DecidableEq

def transactionOf : Kind → FlightSeatEvent → Transaction Unit
  | .reserve => reserveSeats
  | .confirm => confirmSeats
  | .release => releaseSeats

inductive Op where
  | findProcessed (eventId : String)
  | transaction (kind : Kind) (msg : FlightSeatEvent)
deriving DecidableEq

abbrev Op.Ret : Op → Type
  | .findProcessed _ => Option ProcessedEvent
  | .transaction _ _ => Unit

def Op.perform : (op : Op) → World → Except Exception op.Ret × World
  | .findProcessed eventId, w => (.ok (w.processed eventId), w)
  | .transaction kind msg, w =>
      match (transactionOf kind msg).run w with
      | .ok (_, w') => (.ok (), w')
      | .error e => (.error e, w)

/-- The environment may make an operation fail, which then leaves the tables as they were. -/
def performWith (fails : Option Exception) (op : Op) (w : World) : Except Exception op.Ret × World :=
  match fails with
  | some e => (.error e, w)
  | none => op.perform w

abbrev Call (α : Type) := Await.Call Op Op.Ret Exception Unit α

/-- The three handlers differ in their transactions only. -/
def handleSeats (kind : Kind) (msg : FlightSeatEvent) : Call Unit := do
  let alreadyProcessed : Option ProcessedEvent ← Call.await (Op.findProcessed msg.eventId)
  match alreadyProcessed with
  | some _ => pure ()
  | none => Call.await (Op.transaction kind msg)

def handleReserveSeats (msg : FlightSeatEvent) : Call Unit := handleSeats .reserve msg

def handleConfirmSeats (msg : FlightSeatEvent) : Call Unit := handleSeats .confirm msg

def handleReleaseSeats (msg : FlightSeatEvent) : Call Unit := handleSeats .release msg

/-- A delivery of an event from the queue of its kind. -/
structure Delivery where
  kind : Kind
  msg : FlightSeatEvent
deriving DecidableEq

def Delivery.call (d : Delivery) : Call Unit :=
  match d.kind with
  | .reserve => handleReserveSeats d.msg
  | .confirm => handleConfirmSeats d.msg
  | .release => handleReleaseSeats d.msg

def service : System Delivery Op (fun op => Except Exception op.Ret) (Option Exception)
    (Except Exception Unit × Unit) World where
  perform _ fails op w := some (performWith fails op w)
  program d := d.call ()

abbrev Event := Await.Event Delivery Op (Option Exception) World

abbrev ServicePool :=
  Pool Op (fun op => Except Exception op.Ret) (Except Exception Unit × Unit) World

end FlightBookings.Inventory
