import FlightBookings.Catalogue.Service
import FlightBookings.Flight.CityNames
import FlightBookings.Flight.Codes

/-! # The schedule

A search finds the flights between the airports of the codes that are given, on the
day that is given. No request makes a flight.
-/

namespace FlightBookings.Catalogue

open FlightBookings.Flight hiding Field

/-- The airports have what they have in every run, and the flights refer to rows that are there. -/
structure WellFormed (rules : TextRules) (db : Database) : Prop where
  places : Catalogued rules db.places
  airplane : ∀ flight ∈ db.flights, (db.airplane? flight.airplaneId).isSome
  departure : ∀ flight ∈ db.flights, (db.places.airport? flight.departureAirportId).isSome
  arrival : ∀ flight ∈ db.flights, (db.places.airport? flight.arrivalAirportId).isSome

def Flight.cancelled (flight : Flight) : Flight := { flight with status := .cancelled }

/-- Everything a request can do. -/
inductive Change (rules : TextRules) (db : Database) : Database → Prop where
  | places (call : Call) : Change rules db { db with places := call.perform rules db.places }
  | airplanes (airplanes : List Airplane) (last : Int)
      (hkept : ∀ id, (db.airplane? id).isSome → (Table.find Airplane.id id airplanes).isSome) :
      Change rules db { db with airplanes := airplanes, lastAirplaneId := last }
  | refused (last : Int) : Change rules db { db with lastFlightId := last }
  | cancelled (id : Int) :
      Change rules db { db with flights := Table.modify Flight.id id Flight.cancelled db.flights }

section Requests

variable {rules : TextRules} {newDate : String → Option Int} {db db' : Database} {id : Int}

theorem createAirplane_change (dto : CreateAirplaneDto) :
    Change rules db (AirplaneService.create dto db).2 := by
  have hrefused : Change rules db { db with lastAirplaneId := db.lastAirplaneId + 1 } :=
    .airplanes db.airplanes _ fun _ h => h
  unfold AirplaneService.create AirplaneRepository.create
  dsimp only
  split
  · exact hrefused
  · split
    · exact hrefused
    · exact .airplanes _ _ fun _ h => Table.find_isSome_insert h

theorem airplane_patched {data : UpdateAirplaneDto} {airplane airplane' : Airplane}
    (h : AirplaneRepository.patched data airplane = some airplane') : airplane'.id = airplane.id := by
  simp only [AirplaneRepository.patched, Option.bind_eq_bind, Option.bind_eq_some_iff,
    Option.pure_def, Option.some.injEq] at h
  obtain ⟨_, -, _, -, _, -, _, -, _, -, _, -, _, -, _, -, rfl⟩ := h
  rfl

theorem updateAirplane_change (dto : UpdateAirplaneDto) :
    Change rules db (AirplaneService.update id dto db).2 := by
  have hsame : Change rules db db := .airplanes db.airplanes db.lastAirplaneId fun _ h => h
  unfold AirplaneService.update AirplaneRepository.update
  cases hairplane : db.airplane? id with
  | none => exact hsame
  | some airplane =>
      dsimp only
      cases hpatched : AirplaneRepository.patched dto airplane with
      | none => exact hsame
      | some airplane' =>
          dsimp only
          split
          · exact hsame
          · have hid : airplane'.id = id :=
              (airplane_patched hpatched).trans (Table.mem_of_find hairplane).2
            exact .airplanes _ _ fun _ h => Table.find_isSome_modify (fun _ _ => hid) h

theorem removeAirplane_change : Change rules db (AirplaneService.remove id db).2 := by
  unfold AirplaneService.remove
  cases db.airplane? id with
  | none => exact .airplanes db.airplanes db.lastAirplaneId fun _ h => h
  | some airplane => exact .airplanes _ _ fun _ h => Table.find_isSome_modify (fun _ heq => heq) h

/-- What fills the columns of the prices and seats is not in the request, so that the row is refused. -/
theorem createFlight_change (dto : SharedCreateFlightDto) :
    Change rules db (FlightService.create newDate dto db).2 := by
  unfold FlightService.create
  split_ifs
  · exact .refused db.lastFlightId
  · exact .refused db.lastFlightId
  · exact .refused db.lastFlightId
  · split
    · exact .refused (db.lastFlightId + 1)
    · exact .refused db.lastFlightId

theorem change_of_perform (request : Request) :
    Change rules db (request.perform rules newDate db) := by
  cases request with
  | places call => exact .places call
  | createAirplane dto => exact createAirplane_change dto
  | updateAirplane id dto => exact updateAirplane_change dto
  | removeAirplane id => exact removeAirplane_change
  | createFlight dto => exact createFlight_change dto
  | removeFlight id => exact .cancelled id

theorem Change.wellFormed (hchange : Change rules db db') (h : WellFormed rules db) :
    WellFormed rules db' := by
  cases hchange with
  | places call =>
      have heffect := effect_of_perform h.places call
      exact ⟨heffect.catalogued h.places, h.airplane,
        fun flight hflight => heffect.airport_kept (h.departure flight hflight),
        fun flight hflight => heffect.airport_kept (h.arrival flight hflight)⟩
  | airplanes airplanes last hkept =>
      exact ⟨h.places, fun flight hflight => hkept _ (h.airplane flight hflight), h.departure,
        h.arrival⟩
  | refused last => exact ⟨h.places, h.airplane, h.departure, h.arrival⟩
  | cancelled id =>
      have hsame : ∀ flight ∈ Table.modify Flight.id id Flight.cancelled db.flights, ∃ flight' ∈ db.flights,
          flight.airplaneId = flight'.airplaneId ∧
            flight.departureAirportId = flight'.departureAirportId ∧
            flight.arrivalAirportId = flight'.arrivalAirportId := by
        intro flight hflight
        obtain ⟨flight', hold, ⟨-, rfl⟩ | ⟨-, rfl⟩⟩ := Table.mem_modify.mp hflight
        · exact ⟨flight', hold, rfl, rfl, rfl⟩
        · exact ⟨flight, hold, rfl, rfl, rfl⟩
      constructor
      case places => exact h.places
      case airplane =>
        intro flight hflight
        obtain ⟨flight', hold, hairplane, -⟩ := hsame flight hflight
        rw [hairplane]
        exact h.airplane flight' hold
      case departure =>
        intro flight hflight
        obtain ⟨flight', hold, -, hdeparture, -⟩ := hsame flight hflight
        rw [hdeparture]
        exact h.departure flight' hold
      case arrival =>
        intro flight hflight
        obtain ⟨flight', hold, -, -, harrival⟩ := hsame flight hflight
        rw [harrival]
        exact h.arrival flight' hold

theorem WellFormed.after (h : WellFormed rules db) (requests : List Request) :
    WellFormed rules (db.after rules newDate requests) := by
  induction requests generalizing db with
  | nil => exact h
  | cons request requests ih => exact ih ((change_of_perform request).wellFormed h)

/-! ## Flights -/

/-- The flight is what it was, or it is cancelled. -/
def Remains (flight flight' : Flight) : Prop :=
  flight' = flight ∨ flight' = flight.cancelled

theorem Remains.cancelled {flight flight' : Flight} (h : Remains flight flight') :
    Remains flight flight'.cancelled := by
  rcases h with rfl | rfl <;> exact .inr rfl

theorem Change.remains {flights : List Flight} (hchange : Change rules db db')
    (h : List.Forall₂ Remains flights db.flights) : List.Forall₂ Remains flights db'.flights := by
  cases hchange with
  | places => exact h
  | airplanes => exact h
  | refused => exact h
  | cancelled id =>
      refine List.forall₂_map_right_iff.mpr (h.imp fun flight flight' hremains => ?_)
      split
      · exact hremains.cancelled
      · exact hremains

/-- Whatever is requested, the flights stay the same ones, in the same order, and nothing of them changes
but that some are cancelled. There is no request that makes a new one. -/
theorem flights_only_cancelled (rules : TextRules) (newDate : String → Option Int) (db : Database)
    (requests : List Request) :
    List.Forall₂ Remains db.flights (db.after rules newDate requests).flights := by
  suffices hfrom : ∀ flights, List.Forall₂ Remains flights db.flights →
      List.Forall₂ Remains flights (db.after rules newDate requests).flights from
    hfrom db.flights (List.forall₂_same.mpr fun _ _ => .inl rfl)
  intro flights h
  induction requests generalizing db with
  | nil => exact h
  | cons request requests ih => exact ih _ ((change_of_perform request).remains h)

end Requests

/-! ## Searches -/

/-- The number of the day, counted from the epoch. -/
def utcDay (date : Int) : Int := date / day

/-- The flight is between the airports and on the day that are asked for. -/
structure Matches (rules : TextRules) (newDate : String → Option Int) (dto : SharedSearchFlightDto)
    (db : Database) (flight : Flight) : Prop where
  departure : ∀ code, dto.departureAirport = some code → code ≠ "" → ∃ airport,
    AirportRepository.findByCode rules code db.places = some airport ∧
      flight.departureAirportId = airport.id
  arrival : ∀ code, dto.arrivalAirport = some code → code ≠ "" → ∃ airport,
    AirportRepository.findByCode rules code db.places = some airport ∧
      flight.arrivalAirportId = airport.id
  date : ∀ text, dto.date = some text → text ≠ "" → ∃ date, newDate text = some date ∧
    utcDay flight.departureTime = utcDay date

/-- The row shows the flight with its airplane and its airports, none of which is missing. -/
def Shows (db : Database) (flight : Flight) (row : JoinedFlight) : Prop :=
  ∃ airplane departureAirport arrivalAirport,
    row = ⟨flight, some airplane, some departureAirport, some arrivalAirport⟩ ∧
      db.airplane? flight.airplaneId = some airplane ∧
      db.places.airport? flight.departureAirportId = some departureAirport ∧
      db.places.airport? flight.arrivalAirportId = some arrivalAirport

/-- A search that is answered finds what it is asked for, and nothing else. -/
def Searchable (rules : TextRules) (newDate : String → Option Int) (db : Database) : Prop :=
  ∀ dto rows, FlightService.search rules newDate dto db = .ok rows → ∀ row, row ∈ rows ↔
    ∃ flight ∈ db.flights, Shows db flight row ∧ Matches rules newDate dto db flight

section Searches

variable {rules : TextRules} {newDate : String → Option Int} {db : Database}

theorem whenGiven_iff {value : Option String} {condition : String → Bool} :
    whenGiven value condition = true ↔ ∀ s, value = some s → s ≠ "" → condition s = true := by
  cases value with
  | none => simp [whenGiven]
  | some s =>
      simp only [whenGiven, Bool.or_eq_true, decide_eq_true_eq, Option.some.injEq, forall_eq']
      by_cases hs : s = "" <;> simp [hs]

theorem between_iff {date time : Int} :
    (startOfDay date ≤ time ∧ time ≤ endOfDay date) ↔ utcDay time = utcDay date := by
  simp only [startOfDay, endOfDay, utcDay, day]
  omega

/-- The airport of a flight has the code exactly if it is the airport that is found by it. -/
theorem code_iff {t : Tables} (h : Catalogued rules t) {id : Int} (hid : (t.airport? id).isSome)
    {code : String} :
    ((t.airport? id).any fun airport => airport.code = rules.toUpperCase code) = true ↔
      ∃ airport, AirportRepository.findByCode rules code t = some airport ∧ id = airport.id := by
  obtain ⟨airport, hairport⟩ := Option.isSome_iff_exists.mp hid
  obtain ⟨hmem, hkey⟩ := Table.mem_of_find hairport
  simp only [hairport, Option.any_some, decide_eq_true_eq, h.findByCode]
  constructor
  · intro hcode
    exact ⟨airport, ⟨hmem, hcode⟩, hkey.symm⟩
  · rintro ⟨airport', ⟨hmem', hcode⟩, heq⟩
    rwa [List.inj_on_of_nodup_map h.airportIds.nodup hmem hmem' (hkey.trans heq)]

theorem WellFormed.shows_join (h : WellFormed rules db) {flight : Flight} (hflight : flight ∈ db.flights) :
    Shows db flight (db.join flight) := by
  obtain ⟨airplane, hairplane⟩ := Option.isSome_iff_exists.mp (h.airplane flight hflight)
  obtain ⟨departureAirport, hdeparture⟩ := Option.isSome_iff_exists.mp (h.departure flight hflight)
  obtain ⟨arrivalAirport, harrival⟩ := Option.isSome_iff_exists.mp (h.arrival flight hflight)
  refine ⟨airplane, departureAirport, arrivalAirport, ?_, hairplane, hdeparture, harrival⟩
  rw [Database.join, hairplane, hdeparture, harrival]

theorem eq_join {flight : Flight} {row : JoinedFlight} (h : Shows db flight row) :
    row = db.join flight := by
  obtain ⟨airplane, departureAirport, arrivalAirport, rfl, hairplane, hdeparture, harrival⟩ := h
  rw [Database.join, hairplane, hdeparture, harrival]

/-- How a search reads the date of its request. -/
inductive Reads (newDate : String → Option Int) (dto : SharedSearchFlightDto) : Option Int → Prop where
  | missing (h : dto.date = none ∨ dto.date = some "") : Reads newDate dto none
  | given {text : String} {instant : Int} (h : dto.date = some text) (hgiven : text ≠ "")
      (hread : newDate text = some instant) : Reads newDate dto (some instant)

theorem WellFormed.selects_iff (h : WellFormed rules db) {flight : Flight}
    (hflight : flight ∈ db.flights) {dto : SharedSearchFlightDto} {date : Option Int}
    (hreads : Reads newDate dto date) :
    FlightRepository.selects rules dto date (db.join flight) = true ↔
      Matches rules newDate dto db flight := by
  have hday : (date.all fun date => startOfDay date ≤ flight.departureTime &&
      flight.departureTime ≤ endOfDay date) = true ↔
      ∀ text, dto.date = some text → text ≠ "" → ∃ date, newDate text = some date ∧
        utcDay flight.departureTime = utcDay date := by
    cases hreads with
    | missing hmissing => rcases hmissing with hnone | hempty <;> simp [*]
    | given htext hgiven hread => simp [htext, hgiven, hread, ← between_iff]
  simp only [FlightRepository.selects, Database.join, Bool.and_eq_true, whenGiven_iff,
    code_iff h.places (h.departure flight hflight), code_iff h.places (h.arrival flight hflight)]
  constructor
  · rintro ⟨⟨hdeparture, harrival⟩, hdate⟩
    exact ⟨hdeparture, harrival, hday.mp hdate⟩
  · intro hmatches
    exact ⟨⟨hmatches.departure, hmatches.arrival⟩, hday.mpr hmatches.date⟩

theorem search_cases {dto : SharedSearchFlightDto} {rows : List JoinedFlight}
    (h : FlightService.search rules newDate dto db = .ok rows) : ∃ date, Reads newDate dto date ∧
      rows = (db.flights.map db.join).filter (FlightRepository.selects rules dto date) := by
  unfold FlightService.search FlightRepository.search at h
  cases hdate : dto.date with
  | none =>
      simp only [hdate] at h
      cases h
      exact ⟨none, .missing (.inl hdate), rfl⟩
  | some text =>
      simp only [hdate] at h
      by_cases hempty : text = ""
      · rw [if_pos hempty] at h
        cases h
        exact ⟨none, .missing (.inr (hempty ▸ hdate)), rfl⟩
      · rw [if_neg hempty] at h
        cases hread : newDate text with
        | none =>
            rw [hread] at h
            cases h
        | some instant =>
            rw [hread] at h
            cases h
            exact ⟨some instant, .given hdate hempty hread, rfl⟩

theorem WellFormed.searchable (h : WellFormed rules db) : Searchable rules newDate db := by
  intro dto rows hsearch row
  obtain ⟨date, hreads, rfl⟩ := search_cases hsearch
  simp only [List.mem_filter, List.mem_map]
  constructor
  · rintro ⟨⟨flight, hflight, rfl⟩, hselects⟩
    exact ⟨flight, hflight, h.shows_join hflight, (h.selects_iff hflight hreads).mp hselects⟩
  · rintro ⟨flight, hflight, hshows, hmatches⟩
    obtain rfl := eq_join hshows
    exact ⟨⟨flight, hflight, rfl⟩, (h.selects_iff hflight hreads).mpr hmatches⟩

/-- From a catalogue whose airports and flights are in order, and whatever is requested since then,
passengers find exactly the flights between the airports of the codes that they give, in whatever case,
on the day that they give. -/
theorem searchable_run (h : WellFormed rules db) (requests : List Request) :
    Searchable rules newDate (db.after rules newDate requests) :=
  (h.after requests).searchable

theorem WellFormed.findOne_iff (h : WellFormed rules db) {id : Int} {row : JoinedFlight} :
    FlightService.findOne id db = .ok row ↔ ∃ flight, db.flight? id = some flight ∧ Shows db flight row := by
  unfold FlightService.findOne
  cases hflight : db.flight? id with
  | none => simp
  | some flight =>
      simp only [Except.ok.injEq, Option.some.injEq, exists_eq_left']
      constructor
      · rintro rfl
        exact h.shows_join (Table.mem_of_find hflight).1
      · exact fun hshows => (eq_join hshows).symm

/-- A flight that is looked up is shown as a search shows it, in every run. -/
theorem findOne_run (h : WellFormed rules db) (requests : List Request) {id : Int} {row : JoinedFlight} :
    FlightService.findOne id (db.after rules newDate requests) = .ok row ↔
      ∃ flight, (db.after rules newDate requests).flight? id = some flight ∧
        Shows (db.after rules newDate requests) flight row :=
  (h.after requests).findOne_iff

end Searches

def asciiRules : TextRules := .of asciiCollation FlightBookings.toUpperCase

/-- A date that is known, and nothing else. -/
def knownDate (text : String) : Option Int :=
  if text = "2025-02-01" then some 1738368000000 else none

def boeing737 : Airplane where
  id := 1
  modelNumber := "737-800"
  manufacturer := "Boeing"
  registrationNumber := some "N12345"
  totalCapacity := 189
  economySeats := 162
  businessSeats := 20
  firstClassSeats := 4
  premiumEconomySeats := 3
  active := true

def ba112 : Flight where
  id := 1
  flightNumber := "BA112"
  airplaneId := 1
  departureAirportId := 1
  arrivalAirportId := 2
  departureTime := 1738434600000
  arrivalTime := 1738478700000
  boardingGate := some "B22"
  terminal := some "7"
  economyPrice := 850
  businessPrice := 3500
  firstClassPrice := 8500
  premiumEconomyPrice := 1200
  economySeatsAvailable := 162
  businessSeatsAvailable := 20
  firstClassSeatsAvailable := 4
  premiumEconomySeatsAvailable := 3
  status := .scheduled

/-- A flight from New York to London, as it is seeded. -/
def seeded : Database where
  places := performAll asciiRules
    [.createCity { name := "New York", country := "USA" },
      .createCity { name := "London", country := "UK" },
      .createAirport { name := "John F. Kennedy", code := "JFK", cityId := 1 },
      .createAirport { name := "Heathrow", code := "lhr", cityId := 2 }] .empty
  airplanes := [boeing737]
  flights := [ba112]
  lastAirplaneId := 1
  lastFlightId := 1

theorem seeded_wellFormed : WellFormed asciiRules seeded where
  places := catalogued_empty.performAll _
  airplane := by decide +kernel
  departure := by decide +kernel
  arrival := by decide +kernel

/-- The flight is cancelled, the airport gets another code, and another flight is refused. -/
def changes : List Request :=
  [.removeFlight 1, .places (.updateAirport 2 { code := .value "lcy" }),
    .createFlight
      { flightNumber := "BA113"
        airplaneId := 1
        departureAirportId := 2
        arrivalAirportId := 1
        departureTime := "2025-02-01"
        arrivalTime := "2025-02-01"
        price := 500 }]

theorem searchable_run_seeded : (∃ row, FlightService.search asciiRules knownDate
      { arrivalAirport := some "Lcy", date := some "2025-02-01" }
      (seeded.after asciiRules knownDate changes) = .ok [row] ∧ row.flight = ba112.cancelled) ∧
    Searchable asciiRules knownDate (seeded.after asciiRules knownDate changes) := by
  refine ⟨⟨(seeded.after asciiRules knownDate changes).join ba112.cancelled, ?_, rfl⟩,
    searchable_run seeded_wellFormed changes⟩
  decide +kernel

end FlightBookings.Catalogue
