import FlightBookings.Flight.Entities
import FlightBookings.Flight.Pagination

/-! # Listings

Cities, airports and airplanes are listed by pages, with filters that may be left out. The order of
texts is that of the database; nothing is assumed about it.
-/

namespace FlightBookings.Flight

/-! ## Conditions of a query -/

/-- A condition on a text that is only added for one that is not empty. -/
def whenGiven (value : Option String) (condition : String → Bool) : Bool :=
  match value with
  | some s => s = "" || condition s
  | none => true

/-- `active !== undefined`. No column is equal to `NULL`. -/
def matchesActive (active : Field Bool) (column : Bool) : Bool :=
  match active with
  | .undefined => true
  | .null => false
  | .value b => column = b

section Queries

variable (rules : TextRules)

/-- A column without a value fits no pattern. -/
def columnLike (column : Option String) (pattern : String) : Bool :=
  match column with
  | some s => rules.ilike s pattern
  | none => false

def containing (s : String) : String := "%" ++ s ++ "%"

/-- The conditions of the search for cities. -/
def QueryCityDto.selects (dto : QueryCityDto) (city : City) : Bool :=
  whenGiven dto.search
      (fun s => rules.ilike city.name (containing s) || rules.ilike city.country (containing s)) &&
    whenGiven dto.country (fun s => rules.ilike city.country (containing s)) &&
    whenGiven dto.countryCode (fun s => city.countryCode = some s) &&
    whenGiven dto.timezone (fun s => city.timezone = some s) &&
    matchesActive dto.active city.active

/-- The conditions of the search for airports. -/
def QueryAirportDto.selects (dto : QueryAirportDto) (row : JoinedAirport) : Bool :=
  whenGiven dto.search
      (fun s => rules.ilike row.airport.name (containing s) || rules.ilike row.airport.code (containing s) ||
        columnLike rules (row.city.map City.name) (containing s)) &&
    whenGiven dto.code (fun s => row.airport.code = rules.toUpperCase s) &&
    whenGiven dto.icaoCode (fun s => row.airport.icaoCode = some (rules.toUpperCase s)) &&
    (dto.cityId.getD 0 = 0 || row.airport.cityId = dto.cityId.getD 0) &&
    whenGiven dto.cityName
      (fun s => columnLike rules (row.city.map City.name) (containing s)) &&
    whenGiven dto.country
      (fun s => columnLike rules (row.city.map City.country) (containing s)) &&
    matchesActive dto.active row.airport.active

/-- The conditions of the search for airplanes. -/
def QueryAirplaneDto.selects (dto : QueryAirplaneDto) (airplane : Airplane) : Bool :=
  whenGiven dto.search
      (fun s => rules.ilike airplane.manufacturer (containing s) ||
        rules.ilike airplane.modelNumber (containing s) ||
        columnLike rules airplane.registrationNumber (containing s)) &&
    whenGiven dto.manufacturer (fun s => rules.ilike airplane.manufacturer (containing s)) &&
    whenGiven dto.modelNumber (fun s => rules.ilike airplane.modelNumber (containing s)) &&
    whenGiven dto.registrationNumber
      (fun s => columnLike rules airplane.registrationNumber (containing s)) &&
    matchesActive dto.active airplane.active

/-! ## Repositories -/

/-- How the database puts the rows of a query in order: by a field, upwards or downwards. -/
abbrev RowOrder (α : Type) := String → String → α → α → Bool

/-- A page of the rows of a query, and how many rows there are. -/
def getManyAndCount {α : Type} (rows : List α) (skip take : Int) : List α × Nat :=
  (between skip take rows, rows.length)

namespace AirportRepository

def joined (cities : List City) (airports : List Airport) : List JoinedAirport :=
  airports.map fun airport => ⟨airport, cities.find? fun city => city.id = airport.cityId⟩

/-- The airports that match a query, in its order. -/
def matching (before : RowOrder JoinedAirport) (cities : List City) (airports : List Airport)
    (dto : QueryAirportDto) : List JoinedAirport :=
  ((joined cities airports).filter (dto.selects rules)).mergeSort
    (before (orElse dto.sortBy "name") (orElse dto.sortOrder "ASC"))

def search (before : RowOrder JoinedAirport) (cities : List City) (airports : List Airport)
    (dto : QueryAirportDto) : List JoinedAirport × Nat :=
  let skip := (dto.page - 1) * dto.limit
  let take := dto.limit
  getManyAndCount (matching rules before cities airports dto) skip take

end AirportRepository

namespace AirplaneRepository

/-- The airplanes that match a query, in its order. -/
def matching (before : RowOrder Airplane) (airplanes : List Airplane) (dto : QueryAirplaneDto) :
    List Airplane :=
  (airplanes.filter (dto.selects rules)).mergeSort
    (before (orElse dto.sortBy "manufacturer") (orElse dto.sortOrder "ASC"))

def search (before : RowOrder Airplane) (airplanes : List Airplane) (dto : QueryAirplaneDto) :
    List Airplane × Nat :=
  let skip := (dto.page - 1) * dto.limit
  let take := dto.limit
  getManyAndCount (matching rules before airplanes dto) skip take

end AirplaneRepository

namespace CityRepository

/-- The cities that match a query, in its order. -/
def matching (before : RowOrder City) (cities : List City) (dto : QueryCityDto) : List City :=
  (cities.filter (dto.selects rules)).mergeSort
    (before (orElse dto.sortBy "name") (orElse dto.sortOrder "ASC"))

/-- No service calls it. -/
def search (before : RowOrder City) (cities : List City) (dto : QueryCityDto) : List City × Nat :=
  let skip := (dto.page - 1) * dto.limit
  let take := dto.limit
  getManyAndCount (matching rules before cities dto) skip take

/-- A page of all cities. Its callers give no condition. -/
def findWithPagination (before : RowOrder City) (cities : List City) (skip take : Int) :
    List City × Nat :=
  getManyAndCount (cities.mergeSort (before "name" "ASC")) skip take

end CityRepository

/-! ## Services -/

def AirportService.findAll (before : RowOrder JoinedAirport) (cities : List City)
    (airports : List Airport) (queryDto : QueryAirportDto) :
    PaginatedResponseDto AirportResponseDto :=
  let (rows, total) := AirportRepository.search rules before cities airports queryDto
  .create (rows.map AirportResponseDto.of) queryDto.page queryDto.limit total

def AirplaneService.findAll (before : RowOrder Airplane) (airplanes : List Airplane)
    (queryDto : QueryAirplaneDto) : PaginatedResponseDto AirplaneResponseDto :=
  let (rows, total) := AirplaneRepository.search rules before airplanes queryDto
  .create (rows.map AirplaneResponseDto.of) queryDto.page queryDto.limit total

end Queries

def CityService.findAll (before : RowOrder City) (cities : List City) (queryDto : QueryCityDto) :
    PaginatedResponseDto CityResponseDto :=
  let skip := (queryDto.page - 1) * queryDto.limit
  let take := queryDto.limit
  let (rows, total) := CityRepository.findWithPagination before cities skip take
  .create (rows.map CityResponseDto.of) queryDto.page queryDto.limit total

/-! ## The pages of airports and airplanes -/

section Pages

variable (rules : TextRules)

def QueryAirportDto.atPage (dto : QueryAirportDto) (page : Int) : QueryAirportDto :=
  { dto with page := page }

def QueryAirplaneDto.atPage (dto : QueryAirplaneDto) (page : Int) : QueryAirplaneDto :=
  { dto with page := page }

theorem create_between {α β : Type} (f : α → β) (rows : List α) (limit page : Int) :
    PaginatedResponseDto.create ((between ((page - 1) * limit) limit rows).map f) page limit
      rows.length = paged (rows.map f) limit page := by
  rw [paged, between_map, List.length_map]

theorem airports_paged (before : RowOrder JoinedAirport) (cities : List City)
    (airports : List Airport) (dto : QueryAirportDto) :
    (fun page => AirportService.findAll rules before cities airports (dto.atPage page)) =
      paged ((AirportRepository.matching rules before cities airports dto).map
        AirportResponseDto.of) dto.limit :=
  funext fun page => create_between _ _ _ page

theorem airplanes_paged (before : RowOrder Airplane) (airplanes : List Airplane)
    (dto : QueryAirplaneDto) :
    (fun page => AirplaneService.findAll rules before airplanes (dto.atPage page)) =
      paged ((AirplaneRepository.matching rules before airplanes dto).map
        AirplaneResponseDto.of) dto.limit :=
  funext fun page => create_between _ _ _ page

/-- The pages of airports, and of airplanes, from the first one to the one without a next, hold every
match of the query once and in order exactly when a page has room for a row, or nothing matches. -/
theorem pages_partition_iff (beforeAirport : RowOrder JoinedAirport)
    (beforeAirplane : RowOrder Airplane) (cities : List City) (airports : List Airport)
    (airplanes : List Airplane) (airportDto : QueryAirportDto) (airplaneDto : QueryAirplaneDto) :
    (Partitions
        (fun page => AirportService.findAll rules beforeAirport cities airports
          (airportDto.atPage page))
        ((AirportRepository.matching rules beforeAirport cities airports airportDto).map
          AirportResponseDto.of) ↔
      1 ≤ airportDto.limit ∨
        AirportRepository.matching rules beforeAirport cities airports airportDto = []) ∧
    (Partitions
        (fun page => AirplaneService.findAll rules beforeAirplane airplanes
          (airplaneDto.atPage page))
        ((AirplaneRepository.matching rules beforeAirplane airplanes airplaneDto).map
          AirplaneResponseDto.of) ↔
      1 ≤ airplaneDto.limit ∨
        AirplaneRepository.matching rules beforeAirplane airplanes airplaneDto = []) := by
  constructor
  · rw [airports_paged, partitions_paged_iff, List.map_eq_nil_iff]
  · rw [airplanes_paged, partitions_paged_iff, List.map_eq_nil_iff]

end Pages

/-- Texts that are compared as they are. -/
def plainRules : TextRules := ⟨fun s pattern => s = pattern, id⟩

def newYork : City := ⟨1, "New York", "United States", some "US", none, none, none, true⟩

def kennedy : Airport :=
  ⟨1, "John F. Kennedy International Airport", "JFK", some "KJFK", none, none, none, none, 1, true⟩

/-- No page that takes zero rows shows the one airport there is. This is so of a database that returns the
rows from `skip` to `skip + take`; the ORM leaves a `take` of zero out and shows all rows again and again,
and Postgres refuses a negative limit. -/
theorem airport_missing_of_limit_zero :
    ¬∀ (rules : TextRules) (before : RowOrder JoinedAirport) (cities : List City)
      (airports : List Airport) (dto : QueryAirportDto),
      Partitions (fun page => AirportService.findAll rules before cities airports (dto.atPage page))
        ((AirportRepository.matching rules before cities airports dto).map AirportResponseDto.of) := by
  intro h
  have hpages := h plainRules (fun _ _ _ _ => true) [newYork] [kennedy]
    { page := 1, limit := 0 }
  rw [airports_paged, partitions_paged_iff, List.map_eq_nil_iff] at hpages
  rcases hpages with hlimit | hnone
  · exact absurd hlimit (by decide)
  · have hmem : (⟨kennedy, some newYork⟩ : JoinedAirport) ∈ AirportRepository.matching
        plainRules (fun _ _ _ _ => true) [newYork] [kennedy] { page := 1, limit := 0 } :=
      List.mem_mergeSort.mpr (by decide)
    rw [hnone] at hmem
    cases hmem

/-! ## The filters of cities -/

section Filters

variable (rules : TextRules) {before : RowOrder City} {cities : List City}
variable {dto : QueryCityDto}

/-- A listing shows only cities that satisfy every given filter, and counts all that do. -/
def Honours (cities : List City) (dto : QueryCityDto) (shown : List CityResponseDto) (total : Nat) :
    Prop :=
  (∀ r ∈ shown, ∃ city ∈ cities, r = .of city ∧ dto.selects rules city = true) ∧
    total = (cities.filter (dto.selects rules)).length

theorem search_honours : Honours rules cities dto
    ((CityRepository.search rules before cities dto).1.map CityResponseDto.of)
    (CityRepository.search rules before cities dto).2 := by
  refine ⟨?_, List.length_mergeSort _⟩
  intro r hr
  obtain ⟨city, hcity, rfl⟩ := List.mem_map.mp hr
  have hmatch := List.mem_filter.mp (List.mem_mergeSort.mp (between_subset hcity))
  exact ⟨city, hmatch.1, rfl, hmatch.2⟩

/-- The service shows a page of all cities and counts all of them. Only calls that are answered show
anything: a page below 1 or a negative limit makes the statement fail. -/
theorem findAll_honours_iff (before : RowOrder City) (cities : List City) (dto : QueryCityDto) :
    Honours rules cities dto (CityService.findAll before cities dto).data
        (CityService.findAll before cities dto).meta.total ↔
      ∀ city ∈ cities, dto.selects rules city = true := by
  have htotal : (CityService.findAll before cities dto).meta.total = cities.length :=
    List.length_mergeSort _
  constructor
  · intro h
    exact List.length_filter_eq_length_iff.mp (h.2.symm.trans htotal)
  · intro h
    refine ⟨?_, htotal.trans (List.length_filter_eq_length_iff.mpr h).symm⟩
    intro r hr
    obtain ⟨city, hcity, rfl⟩ := List.mem_map.mp hr
    have hmem : city ∈ cities := List.mem_mergeSort.mp (between_subset hcity)
    exact ⟨city, hmem, rfl, h city hmem⟩

/-- A city of the United States is listed under the code of France. -/
theorem city_listed_under_other_code :
    ¬∀ (rules : TextRules) (before : RowOrder City) (cities : List City)
      (dto : QueryCityDto),
      Honours rules cities dto (CityService.findAll before cities dto).data
        (CityService.findAll before cities dto).meta.total := by
  intro h
  have hcount := (h plainRules (fun _ _ _ _ => true) [newYork] { countryCode := some "FR" }).2
  rw [show (CityService.findAll (fun _ _ _ _ => true) [newYork]
    { countryCode := some "FR" }).meta.total = 1 from List.length_mergeSort _] at hcount
  exact absurd hcount (by decide)

end Filters

end FlightBookings.Flight
