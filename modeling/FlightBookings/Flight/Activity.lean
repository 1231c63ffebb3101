import FlightBookings.Flight.Entities
import FlightBookings.Store.Table

/-! # Active airports and their cities

The calls that change cities and airports, one after the other. A city is not removed while one of its
airports is active; the other calls do not look.
-/

namespace FlightBookings.Flight

/-! ## Requests -/

structure CreateCityDto where
  name : String
  country : String
  countryCode : Field String := .undefined
  timezone : Field String := .undefined
  latitude : Field ℚ := .undefined
  longitude : Field ℚ := .undefined
  active : Field Bool := .value true

structure UpdateCityDto where
  name : Field String := .undefined
  country : Field String := .undefined
  countryCode : Field String := .undefined
  timezone : Field String := .undefined
  latitude : Field ℚ := .undefined
  longitude : Field ℚ := .undefined
  active : Field Bool := .undefined

/-- Neither of the requests about an airport has a field `active`. -/
structure CreateAirportDto where
  name : String
  code : String
  icaoCode : Field String := .undefined
  address : Field String := .undefined
  cityId : Int
  latitude : Field ℚ := .undefined
  longitude : Field ℚ := .undefined
  timezone : Field String := .undefined

structure UpdateAirportDto where
  name : Field String := .undefined
  code : Field String := .undefined
  icaoCode : Field String := .undefined
  address : Field String := .undefined
  cityId : Field Int := .undefined
  latitude : Field ℚ := .undefined
  longitude : Field ℚ := .undefined
  timezone : Field String := .undefined

namespace Field

variable {α : Type}

/-- What an insertion writes into a column that may be `NULL`. -/
def inserted : Field α → Option α
  | .value a => some a
  | _ => none

/-- What an insertion writes into a column with a default. -/
def insertedOr (default : α) : Field α → Option α
  | .undefined => some default
  | .null => none
  | .value a => some a

/-- What an update leaves in a column that may be `NULL`. -/
def updated (old : Option α) : Field α → Option α
  | .undefined => old
  | .null => none
  | .value a => some a

/-- `value?.toUpperCase()`, which makes nothing of `null`. -/
def upper (rules : TextRules) : Field String → Field String
  | .value s => .value (rules.toUpperCase s)
  | _ => .undefined

end Field

/-! ## Tables -/

/-- The rows, and the last values of the sequences of their ids. -/
structure Tables where
  cities : List City
  airports : List Airport
  lastCityId : Int
  lastAirportId : Int

namespace Tables

def empty : Tables := ⟨[], [], 0, 0⟩

abbrev city? (t : Tables) (id : Int) : Option City := Table.find City.id id t.cities

abbrev airport? (t : Tables) (id : Int) : Option Airport := Table.find Airport.id id t.airports

/-- The relation `airports` of a city. -/
def airportsOf (t : Tables) (cityId : Int) : List Airport :=
  t.airports.filter fun airport => airport.cityId = cityId

end Tables

def notNullViolation : Exception := .error "null value in column violates not-null constraint"
def duplicateKey : Exception := .error "duplicate key value violates unique constraint"
def foreignKeyViolation : Exception := .error "insert or update violates foreign key constraint"
def valueTooLong : Exception := .error "value too long for type character varying"

abbrev Result (α : Type) := Except Exception α × Tables

/-! ## Repositories -/

namespace CityRepository

/-- The name is a pattern here. -/
def findByName (rules : TextRules) (name : String) (t : Tables) : Option City :=
  t.cities.find? fun city => rules.ilike city.name name

/-- A refused row still takes an id. -/
def create (data : CreateCityDto) (t : Tables) : Result City :=
  let id := t.lastCityId + 1
  let t := { t with lastCityId := id }
  match data.active.insertedOr true with
  | none => (.error notNullViolation, t)
  | some active =>
      if t.cities.any fun city => city.name = data.name then (.error duplicateKey, t)
      else
        let city : City :=
          { id := id
            name := data.name
            country := data.country
            countryCode := data.countryCode.inserted
            timezone := data.timezone.inserted
            latitude := data.latitude.inserted
            longitude := data.longitude.inserted
            active := active }
        (.ok city, { t with cities := t.cities ++ [city] })

/-- The row after an update, unless a column that needs a value would lose it. -/
def patched (data : UpdateCityDto) (city : City) : Option City := do
  let name ← data.name.updated (some city.name)
  let country ← data.country.updated (some city.country)
  let active ← data.active.updated (some city.active)
  pure { city with
    name := name
    country := country
    countryCode := data.countryCode.updated city.countryCode
    timezone := data.timezone.updated city.timezone
    latitude := data.latitude.updated city.latitude
    longitude := data.longitude.updated city.longitude
    active := active }

def update (id : Int) (data : UpdateCityDto) (t : Tables) : Result City :=
  match t.city? id with
  | none => (.error (.error "City not found after update"), t)
  | some city =>
      match patched data city with
      | none => (.error notNullViolation, t)
      | some city' =>
          if t.cities.any fun other => other.id ≠ id && other.name = city'.name then
            (.error duplicateKey, t)
          else (.ok city', { t with cities := Table.modify City.id id (fun _ => city') t.cities })

/-- Whether a row was affected. -/
def delete (id : Int) (t : Tables) : Bool × Tables :=
  ((t.city? id).isSome,
    { t with cities := Table.modify City.id id (fun city => { city with active := false }) t.cities })

end CityRepository

namespace AirportRepository

def findByCode (rules : TextRules) (code : String) (t : Tables) : Option Airport :=
  t.airports.find? fun airport => airport.code = rules.toUpperCase code

def findByIcaoCode (rules : TextRules) (icaoCode : String) (t : Tables) : Option Airport :=
  t.airports.find? fun airport => airport.icaoCode = some (rules.toUpperCase icaoCode)

/-- The codes may be longer than their columns, as capitals. -/
def tooLong (airport : Airport) : Bool :=
  airport.code.length > 3 || (airport.icaoCode.getD "").length > 4

/-- A text that is too long is refused before the row takes an id; a row that is refused by an index or
by the reference still takes one. A new airport is active. -/
def create (rules : TextRules) (data : CreateAirportDto) (t : Tables) : Result Airport :=
  let airport : Airport :=
    { id := t.lastAirportId + 1
      name := data.name
      code := rules.toUpperCase data.code
      icaoCode := (data.icaoCode.upper rules).inserted
      address := data.address.inserted
      latitude := data.latitude.inserted
      longitude := data.longitude.inserted
      timezone := data.timezone.inserted
      cityId := data.cityId
      active := true }
  if tooLong airport then (.error valueTooLong, t)
  else
    let t := { t with lastAirportId := t.lastAirportId + 1 }
    if t.airports.any fun other => other.code = airport.code then (.error duplicateKey, t)
    else if (t.city? airport.cityId).isNone then (.error foreignKeyViolation, t)
    else (.ok airport, { t with airports := t.airports ++ [airport] })

/-- The row after an update, unless a column that needs a value would lose it. -/
def patched (rules : TextRules) (data : UpdateAirportDto) (airport : Airport) : Option Airport := do
  let name ← data.name.updated (some airport.name)
  let code ← (data.code.upper rules).updated (some airport.code)
  let cityId ← data.cityId.updated (some airport.cityId)
  pure { airport with
    name := name
    code := code
    icaoCode := (data.icaoCode.upper rules).updated airport.icaoCode
    address := data.address.updated airport.address
    latitude := data.latitude.updated airport.latitude
    longitude := data.longitude.updated airport.longitude
    timezone := data.timezone.updated airport.timezone
    cityId := cityId }

def update (rules : TextRules) (id : Int) (data : UpdateAirportDto) (t : Tables) : Result Airport :=
  match t.airport? id with
  | none => (.error (.notFound "Airport not found after update"), t)
  | some airport =>
      match patched rules data airport with
      | none => (.error notNullViolation, t)
      | some airport' =>
          if tooLong airport' then (.error valueTooLong, t)
          else if t.airports.any fun other => other.id ≠ id && other.code = airport'.code then
            (.error duplicateKey, t)
          else if (t.city? airport'.cityId).isNone then (.error foreignKeyViolation, t)
          else
            (.ok airport',
              { t with airports := Table.modify Airport.id id (fun _ => airport') t.airports })

/-- Whether a row was affected. -/
def delete (id : Int) (t : Tables) : Bool × Tables :=
  ((t.airport? id).isSome,
    { t with airports :=
        Table.modify Airport.id id (fun airport => { airport with active := false }) t.airports })

end AirportRepository

/-! ## Services -/

namespace CityService

def create (rules : TextRules) (dto : CreateCityDto) (t : Tables) : Result CityResponseDto :=
  if (CityRepository.findByName rules dto.name t).isSome then
    (.error (.conflict s!"City with name \"{dto.name}\" already exists"), t)
  else if dto.latitude ≠ .undefined ∧ dto.longitude = .undefined then
    (.error (.badRequest "Longitude is required when latitude is provided"), t)
  else if dto.longitude ≠ .undefined ∧ dto.latitude = .undefined then
    (.error (.badRequest "Latitude is required when longitude is provided"), t)
  else
    let (result, t) := CityRepository.create dto t
    (result.map CityResponseDto.of, t)

/-- The name that an update asks for, when it is another one. -/
def renamed (dto : UpdateCityDto) (existing : City) : Option String :=
  match dto.name with
  | .value name => if name ≠ "" ∧ name ≠ existing.name then some name else none
  | _ => none

def update (rules : TextRules) (id : Int) (dto : UpdateCityDto) (t : Tables) :
    Result CityResponseDto :=
  match t.city? id with
  | none => (.error (.notFound s!"City with ID {id} not found"), t)
  | some existing =>
      if ((renamed dto existing).bind fun name => CityRepository.findByName rules name t).isSome then
        (.error (.conflict
          s!"City with name \"{(renamed dto existing).getD existing.name}\" already exists"), t)
      -- a coordinate comes back from the database as a text, so that zero counts as given
      else if dto.latitude ≠ .undefined ∧ dto.longitude = .undefined ∧ existing.longitude = none then
        (.error (.badRequest "Longitude is required when latitude is provided"), t)
      else if dto.longitude ≠ .undefined ∧ dto.latitude = .undefined ∧ existing.latitude = none then
        (.error (.badRequest "Latitude is required when longitude is provided"), t)
      else
        let (result, t) := CityRepository.update id dto t
        (result.map CityResponseDto.of, t)

def remove (id : Int) (t : Tables) : Result Unit :=
  match t.city? id with
  | none => (.error (.notFound s!"City with ID {id} not found"), t)
  | some _ =>
      if (t.airportsOf id).any Airport.active then
        (.error (.badRequest
          "Cannot delete city with active airports. Deactivate airports first."), t)
      else
        let (deleted, t) := CityRepository.delete id t
        if deleted then (.ok (), t)
        else (.error (.badRequest s!"Failed to delete city with ID {id}"), t)

def restore (id : Int) (t : Tables) : Result CityResponseDto :=
  match t.city? id with
  | none => (.error (.notFound s!"City with ID {id} not found"), t)
  | some city =>
      if city.active then (.error (.badRequest s!"City with ID {id} is already active"), t)
      else
        let (result, t) := CityRepository.update id { active := .value true } t
        (result.map CityResponseDto.of, t)

end CityService

namespace AirportService

/-- `dto.icaoCode` where it is given and not empty. -/
def givenIcaoCode : Field String → Option String
  | .value s => if s = "" then none else some s
  | _ => none

def create (rules : TextRules) (dto : CreateAirportDto) (t : Tables) : Result AirportResponseDto :=
  match t.city? dto.cityId with
  | none => (.error (.notFound s!"City with ID {dto.cityId} not found"), t)
  | some _ =>
      if (AirportRepository.findByCode rules dto.code t).isSome then
        (.error (.conflict s!"Airport with code \"{dto.code}\" already exists"), t)
      else if ((givenIcaoCode dto.icaoCode).bind fun icaoCode =>
          AirportRepository.findByIcaoCode rules icaoCode t).isSome then
        (.error (.conflict
          ("Airport with ICAO code \"" ++ (givenIcaoCode dto.icaoCode).getD "" ++
            "\" already exists")), t)
      else
        let (result, t) := AirportRepository.create rules dto t
        (result.map fun airport => AirportResponseDto.of ⟨airport, none⟩, t)

/-- The city that an update asks for, when it is another one. -/
def moved (dto : UpdateAirportDto) (existing : Airport) : Option Int :=
  match dto.cityId with
  | .value cityId => if cityId ≠ 0 ∧ cityId ≠ existing.cityId then some cityId else none
  | _ => none

/-- The code that an update asks for, when it is another one. -/
def recoded (dto : UpdateAirportDto) (existing : Airport) : Option String :=
  match dto.code with
  | .value code => if code ≠ "" ∧ code ≠ existing.code then some code else none
  | _ => none

def update (rules : TextRules) (id : Int) (dto : UpdateAirportDto) (t : Tables) :
    Result AirportResponseDto :=
  match t.airport? id with
  | none => (.error (.notFound s!"Airport with ID {id} not found"), t)
  | some existing =>
      if (moved dto existing).any fun cityId => (t.city? cityId).isNone then
        (.error (.notFound
          s!"City with ID {(moved dto existing).getD existing.cityId} not found"), t)
      else if ((recoded dto existing).bind fun code =>
          AirportRepository.findByCode rules code t).isSome then
        (.error (.conflict
          s!"Airport with code \"{(recoded dto existing).getD existing.code}\" already exists"), t)
      else
        let (result, t) := AirportRepository.update rules id dto t
        (result.map fun airport => AirportResponseDto.of ⟨airport, t.city? airport.cityId⟩, t)

def remove (id : Int) (t : Tables) : Result Unit :=
  match t.airport? id with
  | none => (.error (.notFound s!"Airport with ID {id} not found"), t)
  | some _ =>
      let (deleted, t) := AirportRepository.delete id t
      if deleted then (.ok (), t)
      else (.error (.badRequest s!"Failed to delete airport with ID {id}"), t)

end AirportService

/-! ## Runs -/

inductive Call where
  | createCity (dto : CreateCityDto)
  | updateCity (id : Int) (dto : UpdateCityDto)
  | removeCity (id : Int)
  | restoreCity (id : Int)
  | createAirport (dto : CreateAirportDto)
  | updateAirport (id : Int) (dto : UpdateAirportDto)
  | removeAirport (id : Int)

def Call.perform (rules : TextRules) : Call → Tables → Tables
  | .createCity dto, t => (CityService.create rules dto t).2
  | .updateCity id dto, t => (CityService.update rules id dto t).2
  | .removeCity id, t => (CityService.remove id t).2
  | .restoreCity id, t => (CityService.restore id t).2
  | .createAirport dto, t => (AirportService.create rules dto t).2
  | .updateAirport id dto, t => (AirportService.update rules id dto t).2
  | .removeAirport id, t => (AirportService.remove id t).2

def performAll (rules : TextRules) (calls : List Call) (t : Tables) : Tables :=
  calls.foldl (fun t call => call.perform rules t) t

/-- Every active airport belongs to an active city. -/
def Sheltered (t : Tables) : Prop :=
  ∀ airport ∈ t.airports, airport.active = true →
    ∃ city, t.city? airport.cityId = some city ∧ city.active = true

/-- No airport of the city is active. -/
def Vacant (t : Tables) (cityId : Int) : Prop :=
  ∀ airport ∈ t.airportsOf cityId, airport.active = false

/-- A call that neither deactivates a city by an update while one of its airports is active, nor puts an
active airport into an inactive city. -/
def Call.considerate (t : Tables) : Call → Prop
  | .updateCity id dto => dto.active = .value false → Vacant t id
  | .createAirport dto => ∀ city, t.city? dto.cityId = some city → city.active = true
  | .updateAirport id dto =>
      ∀ airport, t.airport? id = some airport → airport.active = true →
        ∀ cityId, dto.cityId = .value cityId →
          ∀ city, t.city? cityId = some city → city.active = true
  | _ => True

/-- Every call of the run is considerate when it comes. -/
def Considerate (rules : TextRules) : List Call → Tables → Prop
  | [], _ => True
  | call :: calls, t => call.considerate t ∧ Considerate rules calls (call.perform rules t)

/-! ## What a statement keeps -/

section Statements

variable {t : Tables} {id : Int}

theorem sheltered_empty : Sheltered .empty := by
  intro airport hmem
  cases hmem

theorem Sheltered.vacant {city : City} (h : Sheltered t) (hcity : t.city? id = some city)
    (hactive : city.active = false) : Vacant t id := by
  intro airport hmem
  obtain ⟨hmem, hid⟩ := List.mem_filter.mp hmem
  rw [decide_eq_true_iff] at hid
  rw [← Bool.not_eq_true]
  intro hairport
  obtain ⟨city', hcity', hactive'⟩ := h airport hmem hairport
  rw [hid, hcity] at hcity'
  cases hcity'
  rw [hactive] at hactive'
  cases hactive'

theorem Sheltered.add_city (h : Sheltered t) (city : City) :
    Sheltered { t with cities := t.cities ++ [city] } := by
  intro airport hmem hairport
  obtain ⟨city', hcity', hactive⟩ := h airport hmem hairport
  refine ⟨city', ?_, hactive⟩
  rw [Tables.city?, Table.find_insert, show Table.find City.id _ t.cities = some city' from hcity']
  rfl

/-- A city may change as long as it stays active or has no active airport. -/
theorem Sheltered.modify_city {f : City → City} (h : Sheltered t)
    (hf : ∀ city, city.id = id → (f city).id = id)
    (hactive : (∀ city, (f city).active = true) ∨ Vacant t id) :
    Sheltered { t with cities := Table.modify City.id id f t.cities } := by
  intro airport hmem hairport
  obtain ⟨city, hcity, hcityActive⟩ := h airport hmem hairport
  by_cases hid : airport.cityId = id
  · subst hid
    rcases hactive with hactive | hvacant
    · refine ⟨f city, ?_, hactive city⟩
      rw [Tables.city?, Table.find_modify_self hf,
        show Table.find City.id _ t.cities = some city from hcity]
      rfl
    · have hidle := hvacant airport (List.mem_filter.mpr ⟨hmem, decide_eq_true rfl⟩)
      rw [hairport] at hidle
      cases hidle
  · refine ⟨city, ?_, hcityActive⟩
    rw [Tables.city?, Table.find_modify_of_ne hf hid]
    exact hcity

theorem Sheltered.add_airport {airport : Airport} (h : Sheltered t)
    (hairport : airport.active = true →
      ∃ city, t.city? airport.cityId = some city ∧ city.active = true) :
    Sheltered { t with airports := t.airports ++ [airport] } := by
  intro other hmem hactive
  rcases List.mem_append.mp hmem with hmem | hmem
  · exact h other hmem hactive
  · cases List.mem_singleton.mp hmem
    exact hairport hactive

theorem Sheltered.modify_airport {f : Airport → Airport} (h : Sheltered t)
    (hairport : ∀ airport ∈ t.airports, (f airport).active = true →
      ∃ city, t.city? (f airport).cityId = some city ∧ city.active = true) :
    Sheltered { t with airports := Table.modify Airport.id id f t.airports } := by
  intro other hmem hactive
  obtain ⟨airport, hold, hcase⟩ := Table.mem_modify.mp hmem
  rcases hcase with ⟨-, rfl⟩ | ⟨-, rfl⟩
  · exact hairport airport hold hactive
  · exact h other hold hactive

end Statements

/-! ## What a call keeps -/

section Calls

variable {rules : TextRules} {t : Tables} {id : Int}

theorem createCity_sheltered (h : Sheltered t) (dto : CreateCityDto) :
    Sheltered (CityService.create rules dto t).2 := by
  unfold CityService.create
  split_ifs
  · exact h
  · exact h
  · exact h
  · unfold CityRepository.create
    cases dto.active.insertedOr true with
    | none => exact h
    | some active =>
        simp only
        split
        · exact h
        · exact h.add_city _

theorem city_patched {data : UpdateCityDto} {city city' : City}
    (h : CityRepository.patched data city = some city') :
    city'.id = city.id ∧ data.active.updated (some city.active) = some city'.active := by
  simp only [CityRepository.patched, Option.bind_eq_bind, Option.bind_eq_some_iff, Option.pure_def,
    Option.some.injEq] at h
  obtain ⟨name, -, country, -, active, hactive, rfl⟩ := h
  exact ⟨rfl, hactive⟩

theorem cityRepository_update_sheltered (h : Sheltered t) {data : UpdateCityDto}
    (hvacant : data.active = .value false → Vacant t id) :
    Sheltered (CityRepository.update id data t).2 := by
  unfold CityRepository.update
  cases hcity : t.city? id with
  | none => exact h
  | some city =>
      dsimp only
      cases hpatched : CityRepository.patched data city with
      | none => exact h
      | some city' =>
          simp only
          split
          · exact h
          obtain ⟨hid, hactive⟩ := city_patched hpatched
          have hkey : city.id = id := (Table.mem_of_find hcity).2
          refine h.modify_city (fun _ _ => hid.trans hkey) ?_
          cases hcase : city'.active with
          | true => exact .inl fun _ => rfl
          | false =>
              refine .inr ?_
              rw [hcase] at hactive
              cases hgiven : data.active with
              | undefined =>
                  rw [hgiven] at hactive
                  exact h.vacant hcity (Option.some.inj hactive)
              | null =>
                  rw [hgiven] at hactive
                  cases hactive
              | value b =>
                  rw [hgiven] at hactive
                  cases Option.some.inj hactive
                  exact hvacant hgiven

theorem updateCity_sheltered (h : Sheltered t) {dto : UpdateCityDto}
    (hvacant : dto.active = .value false → Vacant t id) :
    Sheltered (CityService.update rules id dto t).2 := by
  unfold CityService.update
  cases t.city? id with
  | none => exact h
  | some existing =>
      simp only
      split_ifs
      · exact h
      · exact h
      · exact h
      · exact cityRepository_update_sheltered h hvacant

/-- A city is removed only if none of its airports is active. -/
theorem removeCity_sheltered (h : Sheltered t) : Sheltered (CityService.remove id t).2 := by
  unfold CityService.remove
  cases t.city? id with
  | none => exact h
  | some city =>
      simp only
      split
      · exact h
      · rename_i hidle
        have hvacant : Vacant t id := by simpa [Vacant] using hidle
        have hdelete : Sheltered (CityRepository.delete id t).2 :=
          h.modify_city (fun _ heq => heq) (.inr hvacant)
        split <;> exact hdelete

theorem restoreCity_sheltered (h : Sheltered t) : Sheltered (CityService.restore id t).2 := by
  unfold CityService.restore
  cases t.city? id with
  | none => exact h
  | some city =>
      simp only
      split
      · exact h
      · exact cityRepository_update_sheltered h (fun heq => by cases heq)

theorem createAirport_sheltered (h : Sheltered t) {dto : CreateAirportDto}
    (hcity : ∀ city, t.city? dto.cityId = some city → city.active = true) :
    Sheltered (AirportService.create rules dto t).2 := by
  unfold AirportService.create
  cases hfound : t.city? dto.cityId with
  | none => exact h
  | some city =>
      simp only
      split_ifs
      · exact h
      · exact h
      · unfold AirportRepository.create
        simp only
        split_ifs
        · exact h
        · exact h
        · exact h
        · exact h.add_airport fun _ => ⟨city, hfound, hcity city hfound⟩

theorem airport_patched {data : UpdateAirportDto} {airport airport' : Airport}
    (h : AirportRepository.patched rules data airport = some airport') :
    airport'.active = airport.active ∧
      data.cityId.updated (some airport.cityId) = some airport'.cityId := by
  simp only [AirportRepository.patched, Option.bind_eq_bind, Option.bind_eq_some_iff,
    Option.pure_def, Option.some.injEq] at h
  obtain ⟨name, -, code, -, cityId, hcityId, rfl⟩ := h
  exact ⟨rfl, hcityId⟩

theorem airportRepository_update_sheltered (h : Sheltered t) {data : UpdateAirportDto}
    (hmoved : ∀ airport, t.airport? id = some airport → airport.active = true →
      ∀ cityId, data.cityId = .value cityId →
        ∀ city, t.city? cityId = some city → city.active = true) :
    Sheltered (AirportRepository.update rules id data t).2 := by
  unfold AirportRepository.update
  cases hairport : t.airport? id with
  | none => exact h
  | some airport =>
      dsimp only
      cases hpatched : AirportRepository.patched rules data airport with
      | none => exact h
      | some airport' =>
          simp only
          split_ifs with _ _ hnone
          · exact h
          · exact h
          · exact h
          obtain ⟨hactive, hcityId⟩ := airport_patched hpatched
          refine h.modify_airport fun _ _ hactive' => ?_
          rw [hactive] at hactive'
          cases hgiven : data.cityId with
          | undefined =>
              -- the airport stays where it is
              rw [hgiven] at hcityId
              rw [← Option.some.inj hcityId]
              exact h airport (Table.mem_of_find hairport).1 hactive'
          | null =>
              rw [hgiven] at hcityId
              cases hcityId
          | value cityId =>
              rw [hgiven] at hcityId
              cases Option.some.inj hcityId
              cases hcity : t.city? airport'.cityId with
              | none => exact absurd (by rw [hcity]; rfl) hnone
              | some city =>
                  exact ⟨city, rfl, hmoved airport hairport hactive' _ hgiven city hcity⟩

theorem updateAirport_sheltered (h : Sheltered t) {dto : UpdateAirportDto}
    (hmoved : ∀ airport, t.airport? id = some airport → airport.active = true →
      ∀ cityId, dto.cityId = .value cityId →
        ∀ city, t.city? cityId = some city → city.active = true) :
    Sheltered (AirportService.update rules id dto t).2 := by
  unfold AirportService.update
  cases t.airport? id with
  | none => exact h
  | some existing =>
      simp only
      split_ifs
      · exact h
      · exact h
      · exact airportRepository_update_sheltered h hmoved

theorem removeAirport_sheltered (h : Sheltered t) : Sheltered (AirportService.remove id t).2 := by
  unfold AirportService.remove
  have hdelete : Sheltered (AirportRepository.delete id t).2 :=
    h.modify_airport fun _ _ hactive => by cases hactive
  cases t.airport? id with
  | none => exact h
  | some airport =>
      simp only
      split <;> exact hdelete

theorem perform_sheltered (h : Sheltered t) {call : Call} (hcall : call.considerate t) :
    Sheltered (call.perform rules t) := by
  cases call with
  | createCity dto => exact createCity_sheltered h dto
  | updateCity id dto => exact updateCity_sheltered h hcall
  | removeCity id => exact removeCity_sheltered h
  | restoreCity id => exact restoreCity_sheltered h
  | createAirport dto => exact createAirport_sheltered h hcall
  | updateAirport id dto => exact updateAirport_sheltered h hcall
  | removeAirport id => exact removeAirport_sheltered h

theorem performAll_sheltered (h : Sheltered t) {calls : List Call}
    (hcalls : Considerate rules calls t) : Sheltered (performAll rules calls t) := by
  induction calls generalizing t with
  | nil => exact h
  | cons call calls ih => exact ih (perform_sheltered h hcalls.1) hcalls.2

theorem considerate_past {past calls : List Call} (hcalls : Considerate rules calls t)
    (hpast : past <+: calls) : Considerate rules past t := by
  obtain ⟨later, rfl⟩ := hpast
  induction past generalizing t with
  | nil => trivial
  | cons call past ih => exact ⟨hcalls.1, ih hcalls.2⟩

end Calls

/-- In a run from the empty tables whose calls are all considerate, every active airport belongs to an
active city in every state that is reached. -/
theorem considerate_run_sheltered (rules : TextRules) (calls : List Call)
    (h : Considerate rules calls .empty) :
    ∀ past, past <+: calls → Sheltered (performAll rules past .empty) :=
  fun _ hpast => performAll_sheltered sheltered_empty (considerate_past h hpast)

/-- An inactive city, and an airport that is created in it. -/
def idleCityCalls : List Call :=
  [.createCity { name := "New York", country := "United States", active := .value false },
    .createAirport { name := "John F. Kennedy International Airport", code := "JFK", cityId := 1 }]

theorem idle_city_gets_active_airport :
    ¬∀ (rules : TextRules) (calls : List Call), Sheltered (performAll rules calls .empty) := by
  intro h
  have hrun := h ⟨fun s pattern => s = pattern, id⟩ idleCityCalls
  obtain ⟨city, hcity, hactive⟩ := hrun
    ⟨1, "John F. Kennedy International Airport", "JFK", none, none, none, none, none, 1, true⟩
    (by decide) rfl
  have hfound : (performAll ⟨fun s pattern => s = pattern, id⟩ idleCityCalls .empty).city? 1 =
      some ⟨1, "New York", "United States", none, none, none, none, false⟩ := by decide
  rw [hfound] at hcity
  cases hcity
  cases hactive

/-- The same city while it is active. It is not removed. -/
def busyCityCalls : List Call :=
  [.createCity { name := "New York", country := "United States" },
    .createAirport { name := "John F. Kennedy International Airport", code := "JFK", cityId := 1 },
    .removeCity 1]

theorem busy_city_run_sheltered :
    Sheltered (performAll ⟨fun s pattern => s = pattern, id⟩ busyCityCalls .empty) := by
  have hactive (city : City) (hcity : (performAll ⟨fun s pattern => s = pattern, id⟩
      (busyCityCalls.take 1) .empty).city? 1 = some city) : city.active = true := by
    have hfound : (performAll ⟨fun s pattern => s = pattern, id⟩ (busyCityCalls.take 1)
        .empty).city? 1 =
        some ⟨1, "New York", "United States", none, none, none, none, true⟩ := by decide
    rw [hfound] at hcity
    cases hcity
    rfl
  exact considerate_run_sheltered _ busyCityCalls ⟨trivial, hactive, trivial, trivial⟩ _
    List.prefix_rfl

end FlightBookings.Flight
