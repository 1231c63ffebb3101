import FlightBookings.Flight.Activity
import FlightBookings.Flight.Listing

/-! # The catalogue

Airplanes and flights, beside the cities and airports. Nothing is ever deleted: an airplane is
deactivated, and a flight is cancelled.
-/

namespace FlightBookings.Catalogue

open FlightBookings.Flight hiding Field

/-! ## Rows -/

inductive FlightStatus where
  | scheduled
  | delayed
  | cancelled
  | departed
  | arrived
  | boarding
  | inFlight
deriving DecidableEq

/-- A point of time is a number of milliseconds. The columns `version` and `updatedAt`, which move with
every update, are left out. -/
structure Flight where
  id : Int
  flightNumber : String
  airplaneId : Int
  departureAirportId : Int
  arrivalAirportId : Int
  departureTime : Int
  arrivalTime : Int
  boardingGate : Option String
  terminal : Option String
  economyPrice : ℚ
  businessPrice : ℚ
  firstClassPrice : ℚ
  premiumEconomyPrice : ℚ
  economySeatsAvailable : Int
  businessSeatsAvailable : Int
  firstClassSeatsAvailable : Int
  premiumEconomySeatsAvailable : Int
  status : FlightStatus
deriving DecidableEq

/-- A flight with what the queries join to it. -/
structure JoinedFlight where
  flight : Flight
  airplane : Option Airplane
  departureAirport : Option Airport
  arrivalAirport : Option Airport
deriving DecidableEq

/-! ## Requests -/

structure CreateAirplaneDto where
  modelNumber : String
  manufacturer : String
  registrationNumber : Flight.Field String := .undefined
  totalCapacity : Int
  economySeats : Flight.Field Int := .value 0
  businessSeats : Flight.Field Int := .value 0
  firstClassSeats : Flight.Field Int := .value 0
  premiumEconomySeats : Flight.Field Int := .value 0
  active : Flight.Field Bool := .value true

structure UpdateAirplaneDto where
  modelNumber : Flight.Field String := .undefined
  manufacturer : Flight.Field String := .undefined
  registrationNumber : Flight.Field String := .undefined
  totalCapacity : Flight.Field Int := .undefined
  economySeats : Flight.Field Int := .undefined
  businessSeats : Flight.Field Int := .undefined
  firstClassSeats : Flight.Field Int := .undefined
  premiumEconomySeats : Flight.Field Int := .undefined
  active : Flight.Field Bool := .undefined

/-- No column is called `price`, and no field of the request fills the columns that are. -/
structure SharedCreateFlightDto where
  flightNumber : String
  airplaneId : Int
  departureAirportId : Int
  arrivalAirportId : Int
  departureTime : String
  arrivalTime : String
  price : ℚ

structure SharedSearchFlightDto where
  departureAirport : Option String := none
  arrivalAirport : Option String := none
  date : Option String := none

/-- `Partial<Flight>`. -/
structure PartialFlight where
  flightNumber : Flight.Field String := .undefined
  airplaneId : Flight.Field Int := .undefined
  departureAirportId : Flight.Field Int := .undefined
  arrivalAirportId : Flight.Field Int := .undefined
  departureTime : Flight.Field Int := .undefined
  arrivalTime : Flight.Field Int := .undefined
  boardingGate : Flight.Field String := .undefined
  terminal : Flight.Field String := .undefined
  economyPrice : Flight.Field ℚ := .undefined
  businessPrice : Flight.Field ℚ := .undefined
  firstClassPrice : Flight.Field ℚ := .undefined
  premiumEconomyPrice : Flight.Field ℚ := .undefined
  economySeatsAvailable : Flight.Field Int := .undefined
  businessSeatsAvailable : Flight.Field Int := .undefined
  firstClassSeatsAvailable : Flight.Field Int := .undefined
  premiumEconomySeatsAvailable : Flight.Field Int := .undefined
  status : Flight.Field FlightStatus := .undefined

/-- The row that is inserted, unless a column that needs a value has none. Only the status has a
default. -/
def PartialFlight.row (id : Int) (data : PartialFlight) : Option Flight := do
  let flightNumber ← data.flightNumber.inserted
  let airplaneId ← data.airplaneId.inserted
  let departureAirportId ← data.departureAirportId.inserted
  let arrivalAirportId ← data.arrivalAirportId.inserted
  let departureTime ← data.departureTime.inserted
  let arrivalTime ← data.arrivalTime.inserted
  let economyPrice ← data.economyPrice.inserted
  let businessPrice ← data.businessPrice.inserted
  let firstClassPrice ← data.firstClassPrice.inserted
  let premiumEconomyPrice ← data.premiumEconomyPrice.inserted
  let economySeatsAvailable ← data.economySeatsAvailable.inserted
  let businessSeatsAvailable ← data.businessSeatsAvailable.inserted
  let firstClassSeatsAvailable ← data.firstClassSeatsAvailable.inserted
  let premiumEconomySeatsAvailable ← data.premiumEconomySeatsAvailable.inserted
  let status ← data.status.insertedOr .scheduled
  pure
    { id := id
      flightNumber := flightNumber
      airplaneId := airplaneId
      departureAirportId := departureAirportId
      arrivalAirportId := arrivalAirportId
      departureTime := departureTime
      arrivalTime := arrivalTime
      boardingGate := data.boardingGate.inserted
      terminal := data.terminal.inserted
      economyPrice := economyPrice
      businessPrice := businessPrice
      firstClassPrice := firstClassPrice
      premiumEconomyPrice := premiumEconomyPrice
      economySeatsAvailable := economySeatsAvailable
      businessSeatsAvailable := businessSeatsAvailable
      firstClassSeatsAvailable := firstClassSeatsAvailable
      premiumEconomySeatsAvailable := premiumEconomySeatsAvailable
      status := status }

/-! ## Tables -/

structure Database where
  places : Tables
  airplanes : List Airplane
  flights : List Flight
  lastAirplaneId : Int
  lastFlightId : Int

namespace Database

abbrev airplane? (db : Database) (id : Int) : Option Airplane := Table.find Airplane.id id db.airplanes

abbrev flight? (db : Database) (id : Int) : Option Flight := Table.find Flight.id id db.flights

/-- The left joins with the airplane and the airports of a flight. -/
def join (db : Database) (flight : Flight) : JoinedFlight where
  flight := flight
  airplane := db.airplane? flight.airplaneId
  departureAirport := db.places.airport? flight.departureAirportId
  arrivalAirport := db.places.airport? flight.arrivalAirportId

end Database

def checkViolation : Exception := .error "new row violates check constraint"
def invalidTimestamp : Exception := .error "invalid input syntax for type timestamp with time zone"

abbrev Stored (α : Type) := Except Exception α × Database

/-! ## Airplanes -/

namespace AirplaneRepository

/-- Another airplane has the registration number. No number is equal to `NULL`. -/
def registered (db : Database) (id : Int) (registrationNumber : Option String) : Bool :=
  registrationNumber.any fun number =>
    db.airplanes.any fun other => other.id ≠ id && other.registrationNumber = some number

/-- A refused row still takes an id. -/
def create (data : CreateAirplaneDto) (db : Database) : Stored Airplane :=
  let id := db.lastAirplaneId + 1
  let db := { db with lastAirplaneId := id }
  let airplane : Option Airplane := do
    let economySeats ← data.economySeats.insertedOr 0
    let businessSeats ← data.businessSeats.insertedOr 0
    let firstClassSeats ← data.firstClassSeats.insertedOr 0
    let premiumEconomySeats ← data.premiumEconomySeats.insertedOr 0
    let active ← data.active.insertedOr true
    pure
      { id := id
        modelNumber := data.modelNumber
        manufacturer := data.manufacturer
        registrationNumber := data.registrationNumber.inserted
        totalCapacity := data.totalCapacity
        economySeats := economySeats
        businessSeats := businessSeats
        firstClassSeats := firstClassSeats
        premiumEconomySeats := premiumEconomySeats
        active := active }
  match airplane with
  | none => (.error notNullViolation, db)
  | some airplane =>
      if registered db id airplane.registrationNumber then (.error duplicateKey, db)
      else (.ok airplane, { db with airplanes := db.airplanes ++ [airplane] })

/-- The row after an update, unless a column that needs a value would lose it. -/
def patched (data : UpdateAirplaneDto) (airplane : Airplane) : Option Airplane := do
  let modelNumber ← data.modelNumber.updated (some airplane.modelNumber)
  let manufacturer ← data.manufacturer.updated (some airplane.manufacturer)
  let totalCapacity ← data.totalCapacity.updated (some airplane.totalCapacity)
  let economySeats ← data.economySeats.updated (some airplane.economySeats)
  let businessSeats ← data.businessSeats.updated (some airplane.businessSeats)
  let firstClassSeats ← data.firstClassSeats.updated (some airplane.firstClassSeats)
  let premiumEconomySeats ← data.premiumEconomySeats.updated (some airplane.premiumEconomySeats)
  let active ← data.active.updated (some airplane.active)
  pure
    { airplane with
      modelNumber := modelNumber
      manufacturer := manufacturer
      registrationNumber := data.registrationNumber.updated airplane.registrationNumber
      totalCapacity := totalCapacity
      economySeats := economySeats
      businessSeats := businessSeats
      firstClassSeats := firstClassSeats
      premiumEconomySeats := premiumEconomySeats
      active := active }

def update (id : Int) (data : UpdateAirplaneDto) (db : Database) : Stored Airplane :=
  match db.airplane? id with
  | none => (.error (.notFound "Airplane not found after update"), db)
  | some airplane =>
      match patched data airplane with
      | none => (.error notNullViolation, db)
      | some airplane' =>
          if registered db id airplane'.registrationNumber then (.error duplicateKey, db)
          else
            (.ok airplane',
              { db with airplanes := Table.modify Airplane.id id (fun _ => airplane') db.airplanes })

def delete (id : Int) (db : Database) : Bool × Database :=
  ((db.airplane? id).isSome,
    { db with airplanes :=
        Table.modify Airplane.id id (fun airplane => { airplane with active := false }) db.airplanes })

end AirplaneRepository

namespace AirplaneService

def create (dto : CreateAirplaneDto) (db : Database) : Stored AirplaneResponseDto :=
  let (result, db) := AirplaneRepository.create dto db
  (result.map AirplaneResponseDto.of, db)

def update (id : Int) (dto : UpdateAirplaneDto) (db : Database) : Stored AirplaneResponseDto :=
  let (result, db) := AirplaneRepository.update id dto db
  (result.map AirplaneResponseDto.of, db)

/-- Nothing is made of whether a row was affected. -/
def remove (id : Int) (db : Database) : Stored Unit :=
  match db.airplane? id with
  | none => (.error (.notFound s!"Airplane with ID {id} not found"), db)
  | some _ => (.ok (), (AirplaneRepository.delete id db).2)

end AirplaneService

/-! ## Flights -/

/-- The milliseconds of a day. -/
def day : Int := 24 * 60 * 60 * 1000

/-- `setUTCHours(0, 0, 0, 0)` -/
def startOfDay (date : Int) : Int := date - date % day

/-- `setUTCHours(23, 59, 59, 999)` -/
def endOfDay (date : Int) : Int := date - date % day + (((23 * 60 + 59) * 60 + 59) * 1000 + 999)

namespace FlightRepository

/-- The conditions of the search, once the date is read. -/
def selects (rules : TextRules) (dto : SharedSearchFlightDto) (date : Option Int)
    (row : JoinedFlight) : Bool :=
  whenGiven dto.departureAirport
      (fun s => row.departureAirport.any fun airport => airport.code = rules.toUpperCase s) &&
    whenGiven dto.arrivalAirport
      (fun s => row.arrivalAirport.any fun airport => airport.code = rules.toUpperCase s) &&
    date.all fun date =>
      startOfDay date ≤ row.flight.departureTime && row.flight.departureTime ≤ endOfDay date

/-- The database does not read what `new Date` makes of a text that is no date. -/
def search (rules : TextRules) (newDate : String → Option Int) (dto : SharedSearchFlightDto)
    (db : Database) : Except Exception (List JoinedFlight) :=
  let rows := db.flights.map db.join
  match dto.date with
  | none => .ok (rows.filter (selects rules dto none))
  | some s =>
      if s = "" then .ok (rows.filter (selects rules dto none))
      else
        match newDate s with
        | none => .error invalidTimestamp
        | some date => .ok (rows.filter (selects rules dto (some date)))

/-- A refused row still takes an id. -/
def create (data : PartialFlight) (db : Database) : Stored Flight :=
  let id := db.lastFlightId + 1
  let db := { db with lastFlightId := id }
  match data.row id with
  | none => (.error notNullViolation, db)
  | some flight =>
      if flight.arrivalTime ≤ flight.departureTime ∨
          flight.departureAirportId = flight.arrivalAirportId then (.error checkViolation, db)
      else if db.flights.any fun other =>
          other.flightNumber = flight.flightNumber && other.departureTime = flight.departureTime then
        (.error duplicateKey, db)
      else if (db.airplane? flight.airplaneId).isNone ∨
          (db.places.airport? flight.departureAirportId).isNone ∨
          (db.places.airport? flight.arrivalAirportId).isNone then (.error foreignKeyViolation, db)
      else (.ok flight, { db with flights := db.flights ++ [flight] })

/-- Whether a row was affected. -/
def delete (id : Int) (db : Database) : Bool × Database :=
  ((db.flight? id).isSome,
    { db with flights :=
        Table.modify Flight.id id (fun flight => { flight with status := .cancelled }) db.flights })

end FlightRepository

namespace FlightService

def create (newDate : String → Option Int) (createDto : SharedCreateFlightDto) (db : Database) :
    Stored Flight :=
  if (db.airplane? createDto.airplaneId).isNone then
    (.error (.notFound s!"Airplane {createDto.airplaneId} not found"), db)
  else if (db.places.airport? createDto.departureAirportId).isNone then
    (.error (.notFound s!"Departure Airport {createDto.departureAirportId} not found"), db)
  else if (db.places.airport? createDto.arrivalAirportId).isNone then
    (.error (.notFound s!"Arrival Airport {createDto.arrivalAirportId} not found"), db)
  else
    match newDate createDto.departureTime, newDate createDto.arrivalTime with
    | some departureTime, some arrivalTime =>
        FlightRepository.create
          { flightNumber := .value createDto.flightNumber
            airplaneId := .value createDto.airplaneId
            departureAirportId := .value createDto.departureAirportId
            arrivalAirportId := .value createDto.arrivalAirportId
            departureTime := .value departureTime
            arrivalTime := .value arrivalTime } db
    | _, _ => (.error invalidTimestamp, db)

def search (rules : TextRules) (newDate : String → Option Int) (searchDto : SharedSearchFlightDto)
    (db : Database) : Except Exception (List JoinedFlight) :=
  FlightRepository.search rules newDate searchDto db

def findOne (id : Int) (db : Database) : Except Exception JoinedFlight :=
  match db.flight? id with
  | some flight => .ok (db.join flight)
  | none => .error (.notFound s!"Flight {id} not found")

/-- Nobody looks whether there is such a flight. -/
def remove (id : Int) (db : Database) : Stored Unit :=
  (.ok (), (FlightRepository.delete id db).2)

end FlightService

/-! ## Runs -/

/-- A request that changes the catalogue. -/
inductive Request where
  | places (call : Call)
  | createAirplane (dto : CreateAirplaneDto)
  | updateAirplane (id : Int) (dto : UpdateAirplaneDto)
  | removeAirplane (id : Int)
  | createFlight (dto : SharedCreateFlightDto)
  | removeFlight (id : Int)

def Request.perform (rules : TextRules) (newDate : String → Option Int) :
    Request → Database → Database
  | .places call, db => { db with places := call.perform rules db.places }
  | .createAirplane dto, db => (AirplaneService.create dto db).2
  | .updateAirplane id dto, db => (AirplaneService.update id dto db).2
  | .removeAirplane id, db => (AirplaneService.remove id db).2
  | .createFlight dto, db => (FlightService.create newDate dto db).2
  | .removeFlight id, db => (FlightService.remove id db).2

def Database.after (rules : TextRules) (newDate : String → Option Int) (db : Database)
    (requests : List Request) : Database :=
  requests.foldl (fun db request => request.perform rules newDate db) db

end FlightBookings.Catalogue
