import FlightBookings.Common
import Mathlib.Data.Rat.Defs

/-! # Cities, airports and airplanes

The rows of the flight service, the requests that it gets about them, and what it answers.
-/

namespace FlightBookings.Flight

/-- An optional field of a request. -/
inductive Field (α : Type) where
  | undefined
  | null
  | value (a : α)
deriving DecidableEq

/-- What depends on the whole of Unicode: the test of a text against a pattern of `ILIKE`, and
`String.prototype.toUpperCase`. Nothing is assumed about either. -/
structure TextRules where
  ilike : String → String → Bool
  toUpperCase : String → String

/-! ## Rows -/

structure City where
  id : Int
  name : String
  country : String
  countryCode : Option String
  timezone : Option String
  latitude : Option ℚ
  longitude : Option ℚ
  active : Bool
deriving DecidableEq

structure Airport where
  id : Int
  name : String
  code : String
  icaoCode : Option String
  address : Option String
  latitude : Option ℚ
  longitude : Option ℚ
  timezone : Option String
  cityId : Int
  active : Bool
deriving DecidableEq

structure Airplane where
  id : Int
  modelNumber : String
  manufacturer : String
  registrationNumber : Option String
  totalCapacity : Int
  economySeats : Int
  businessSeats : Int
  firstClassSeats : Int
  premiumEconomySeats : Int
  active : Bool
deriving DecidableEq

/-- An airport with the city that the query joins to it. -/
structure JoinedAirport where
  airport : Airport
  city : Option City
deriving DecidableEq

/-! ## Queries -/

/-- The initializers of the class are in place: neither `page` nor `limit` is missing. -/
structure BaseQueryDto where
  page : Int := 1
  limit : Int := 10
  sortBy : Option String := none
  sortOrder : Option String := some "DESC"
  search : Option String := none
  active : Field Bool := .undefined

structure QueryCityDto extends BaseQueryDto where
  country : Option String := none
  countryCode : Option String := none
  timezone : Option String := none

structure QueryAirportDto extends BaseQueryDto where
  code : Option String := none
  icaoCode : Option String := none
  cityId : Option Int := none
  cityName : Option String := none
  country : Option String := none

structure QueryAirplaneDto extends BaseQueryDto where
  manufacturer : Option String := none
  modelNumber : Option String := none
  registrationNumber : Option String := none

/-! ## Answers -/

structure CityResponseDto where
  id : Int
  name : String
  country : String
  countryCode : Option String
  timezone : Option String
  latitude : Option ℚ
  longitude : Option ℚ
  active : Bool
deriving DecidableEq

def CityResponseDto.of (city : City) : CityResponseDto :=
  { id := city.id
    name := city.name
    country := city.country
    countryCode := city.countryCode
    timezone := city.timezone
    latitude := city.latitude
    longitude := city.longitude
    active := city.active }

structure CityInfoDto where
  id : Int
  name : String
  country : String
  countryCode : Option String
deriving DecidableEq

def CityInfoDto.of (city : City) : CityInfoDto :=
  { id := city.id
    name := city.name
    country := city.country
    countryCode := city.countryCode }

structure AirportResponseDto where
  id : Int
  name : String
  code : String
  icaoCode : Option String
  address : Option String
  latitude : Option ℚ
  longitude : Option ℚ
  timezone : Option String
  cityId : Int
  city : Option CityInfoDto
  active : Bool
deriving DecidableEq

def AirportResponseDto.of (row : JoinedAirport) : AirportResponseDto :=
  { id := row.airport.id
    name := row.airport.name
    code := row.airport.code
    icaoCode := row.airport.icaoCode
    address := row.airport.address
    latitude := row.airport.latitude
    longitude := row.airport.longitude
    timezone := row.airport.timezone
    cityId := row.airport.cityId
    city := row.city.map CityInfoDto.of
    active := row.airport.active }

structure AirplaneResponseDto where
  id : Int
  modelNumber : String
  manufacturer : String
  registrationNumber : Option String
  totalCapacity : Int
  economySeats : Int
  businessSeats : Int
  firstClassSeats : Int
  premiumEconomySeats : Int
  active : Bool
deriving DecidableEq

def AirplaneResponseDto.of (airplane : Airplane) : AirplaneResponseDto :=
  { id := airplane.id
    modelNumber := airplane.modelNumber
    manufacturer := airplane.manufacturer
    registrationNumber := airplane.registrationNumber
    totalCapacity := airplane.totalCapacity
    economySeats := airplane.economySeats
    businessSeats := airplane.businessSeats
    firstClassSeats := airplane.firstClassSeats
    premiumEconomySeats := airplane.premiumEconomySeats
    active := airplane.active }

end FlightBookings.Flight
