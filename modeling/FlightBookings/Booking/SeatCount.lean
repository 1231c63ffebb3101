import FlightBookings.Booking.Grants
import Mathlib.Algebra.Order.Field.Rat
import Mathlib.Data.Rat.Lemmas

/-! # The number of seats that a booking reserves

A booking request names a number of seats and, if it likes, a list of them. Its
saga locks the list and reserves the number, and nothing compares the two.
-/

namespace FlightBookings.Booking

open Await

/-! ## What the gateway lets through -/

/-- The body of a booking request at the gateway, its flight already read as a number. There is a
number of seats if the body holds a finite one, whole or not. -/
structure Gateway.CreateBookingDto where
  flightId : Int
  seats : Option ℚ
  seatPreference : Option String := none
  seatClass : Option String := none
  seatNumbers : Option (List String) := none
deriving DecidableEq

/-- `@IsNumber() @IsNotEmpty()` on `seats`; the other fields are optional. -/
def Gateway.CreateBookingDto.validate (dto : Gateway.CreateBookingDto) : Bool := dto.seats.isSome

/-- The number that the saga takes for the column `no_of_seats`, and for its events. -/
def Gateway.CreateBookingDto.noOfSeats (dto : Gateway.CreateBookingDto) : ℚ :=
  let fallback : ℚ :=
    match dto.seatNumbers with
    | some seatNumbers => seatNumbers.length
    | none => 1
  match dto.seats with
  | some seats => if seats = 0 then fallback else seats
  | none => fallback

/-- What a column of type `int` stores of a number: it refuses those that it cannot hold. -/
def intColumn (value : ℚ) : Option Int :=
  if value.den = 1 ∧ -2147483648 ≤ value.num ∧ value.num ≤ 2147483647 then some value.num
  else none

/-- The request of a body whose row can be inserted. A saga for another one fails in its first
step, at the column `no_of_seats`. -/
def Gateway.CreateBookingDto.request (dto : Gateway.CreateBookingDto) (userId : Int) :
    Option Booking.CreateBookingDto :=
  (intColumn dto.noOfSeats).map fun _ =>
    { userId
      flightId := dto.flightId
      seats := dto.seats.map Rat.num
      seatNumbers := dto.seatNumbers
      seatClass := dto.seatClass
      seatPreference := dto.seatPreference }

/-- A body that asks for no number of its own, and not for an empty list either, or for a
positive number that is the length of its list, if it lists any seats. -/
def Gateway.CreateBookingDto.CountsItsSeats (dto : Gateway.CreateBookingDto) : Prop :=
  (dto.seats = some 0 ∧ dto.seatNumbers ≠ some []) ∨
    ∃ seats, dto.seats = some seats ∧ 0 < seats ∧
      (dto.seatNumbers.getD [] ≠ [] → seats = (dto.seatNumbers.getD []).length)

theorem intColumn_eq_some {value : ℚ} {n : Int} (h : intColumn value = some n) : value = n := by
  unfold intColumn at h
  split at h
  · rename_i hfits
    rw [← Option.some.inj h]
    exact (Rat.den_eq_one_iff value).mp hfits.1 |>.symm
  · cases h

/-- The saga counts for a request what the gateway was asked for. -/
theorem seatCount_request {body : Gateway.CreateBookingDto} {userId : Int}
    {dto : CreateBookingDto} (h : body.request userId = some dto) :
    dto.seatNumbers = body.seatNumbers ∧ (seatCount dto : ℚ) = body.noOfSeats := by
  obtain ⟨n, hn, rfl⟩ := Option.map_eq_some_iff.mp h
  refine ⟨rfl, ?_⟩
  have hwhole := intColumn_eq_some hn
  unfold Gateway.CreateBookingDto.noOfSeats at hwhole ⊢
  unfold seatCount
  cases hseats : body.seats with
  | none =>
      simp only [Option.map_none]
      cases body.seatNumbers with
      | none => simp
      | some seatNumbers => simp
  | some seats =>
      simp only [Option.map_some, Rat.num_eq_zero]
      by_cases hzero : seats = 0
      · simp only [if_pos hzero]
        cases body.seatNumbers with
        | none => simp
        | some seatNumbers => simp
      · simp only [hseats, if_neg hzero] at hwhole ⊢
        rw [hwhole, Rat.num_intCast]

/-- The number is positive, and the length of the list if there is one, exactly for the bodies that
count their seats. -/
theorem noOfSeats_iff {body : Gateway.CreateBookingDto} (hvalid : body.validate = true) :
    (0 < body.noOfSeats ∧ (body.seatNumbers.getD [] ≠ [] →
      body.noOfSeats = (body.seatNumbers.getD []).length)) ↔ body.CountsItsSeats := by
  obtain ⟨seats, hseats⟩ := Option.isSome_iff_exists.mp hvalid
  unfold Gateway.CreateBookingDto.noOfSeats Gateway.CreateBookingDto.CountsItsSeats
  by_cases hzero : seats = 0
  · subst hzero
    cases hnumbers : body.seatNumbers with
    | none => simp [hseats]
    | some seatNumbers => simp [hseats, List.length_pos_iff, Nat.cast_pos]
  · simp only [hseats, Option.some.injEq, hzero, if_false, false_and, false_or]
    constructor
    · exact fun h => ⟨seats, rfl, h⟩
    · rintro ⟨_, rfl, h⟩
      exact h

/-! ## Runs -/

/-- The request of the saga that an event starts, with the call that runs it. -/
def sagaOf : Event → Option (Nat × CreateBookingDto)
  | .started _ i (.executeBookingSaga dto _) => some (i, dto)
  | _ => none

def Write.reserved : Write → Option SeatsPayload
  | .insertEvent ⟨_, _, .reserveSeats payload⟩ => some payload
  | _ => none

/-- The call, the booking and the `flight.reserve-seats` event of a third step that commits. -/
def reservation : Event → Option (Nat × String × SeatsPayload)
  | .performed _ i choice (.commit .reserveFlightSeats id writes) _ =>
      if choice.fails = none then (writes.findSome? Write.reserved).map fun payload => (i, id, payload)
      else none
  | _ => none

/-- The saga of the request completes its third step, for the booking and with the event. -/
def Reserves (es : List Event) (dto : CreateBookingDto) (id : String) (p : SeatsPayload) : Prop :=
  ∃ i, (i, dto) ∈ es.filterMap sagaOf ∧ (i, id, p) ∈ es.filterMap reservation

theorem sagaOf_eq_some {e : Event} {i : Nat} {dto : CreateBookingDto}
    (h : sagaOf e = some (i, dto)) :
    ∃ w key, e = .started w i (.executeBookingSaga dto key) := by
  unfold sagaOf at h
  split at h
  · cases h
    exact ⟨_, _, rfl⟩
  · cases h

theorem reservation_eq_some {e : Event} {i : Nat} {id : String} {p : SeatsPayload}
    (h : reservation e = some (i, id, p)) :
    ∃ w choice writes w' event, e = .performed w i choice (.commit .reserveFlightSeats id writes) w' ∧
      .insertEvent event ∈ writes ∧ event.body = .reserveSeats p := by
  unfold reservation at h
  split at h
  · rename_i w j choice id' writes w'
    split at h
    · obtain ⟨payload, hfound, hsame⟩ := Option.map_eq_some_iff.mp h
      cases hsame
      obtain ⟨write, hmem, hwrite⟩ := List.exists_of_findSome?_eq_some hfound
      unfold Write.reserved at hwrite
      split at hwrite
      · cases hwrite
        exact ⟨_, _, _, _, _, rfl, hmem, rfl⟩
      · cases hwrite
    · cases h
  · cases h

/-- Whenever a saga of a request that the gateway let through completes its third step, the number
of seats that it reserves is positive, and the number of seats that were locked for its booking if
the request lists any, exactly if the request counts its seats. -/
theorem reserved_matches_locked_iff {now : Nat} {ms : List (Move Request Choice)}
    {es : List Event} {P : ServicePool} {body : Gateway.CreateBookingDto} {userId : Int}
    {dto : CreateBookingDto} {id : String} {p : SeatsPayload}
    (hvalid : body.validate = true) (hrequest : body.request userId = some dto)
    (hrun : service.run ms (Pool.init (World.init now)) = some (es, P))
    (hreserves : Reserves es dto id p) :
    (0 < p.seatCount ∧ (body.seatNumbers.getD [] ≠ [] → p.seatCount = lockedCount id es)) ↔
      body.CountsItsSeats := by
  obtain ⟨i, hsaga, hreservation⟩ := hreserves
  obtain ⟨e, he, hstarted⟩ := List.mem_filterMap.mp hsaga
  obtain ⟨e', he', hcommitted⟩ := List.mem_filterMap.mp hreservation
  obtain ⟨w₀, key, rfl⟩ := sagaOf_eq_some hstarted
  obtain ⟨w, choice, writes, w', event, rfl, hevent, hbody⟩ := reservation_eq_some hcommitted
  obtain ⟨hcount, hlocked⟩ := lockedCount_of_reserved hrun he he' hevent hbody
  obtain ⟨hnumbers, hsame⟩ := seatCount_request hrequest
  rw [← noOfSeats_iff hvalid, ← hsame, hcount, hlocked, hnumbers]
  norm_cast

/-- A saga for the body that goes through all its steps, for the booking `a1` on flight 7. -/
def reservedFor (body : Gateway.CreateBookingDto) : List (Move Request Choice) :=
  ((body.request 1).toList.map fun dto => .start (.executeBookingSaga dto none)) ++
    succeeds 0 "a" 23

/-- The saga of the body reserves the number of seats, and has `locked` seats locked. -/
def reservesInFull (body : Gateway.CreateBookingDto) (seatCount : Int) (locked : Nat)
    (result : List Event × ServicePool) : Bool :=
  ((body.request 1).any fun dto => (0, dto) ∈ result.1.filterMap sagaOf) &&
    (0, "a1", ⟨7, "a1", "ECONOMY", seatCount⟩) ∈ result.1.filterMap reservation &&
    lockedCount "a1" result.1 = locked

theorem reservesInFull_spec {body : Gateway.CreateBookingDto} {seatCount : Int} {locked : Nat}
    (h : (service.run (reservedFor body) (Pool.init (World.init 0))).any
      (reservesInFull body seatCount locked) = true) :
    ∃ es P dto, body.request 1 = some dto ∧
      service.run (reservedFor body) (Pool.init (World.init 0)) = some (es, P) ∧
      Reserves es dto "a1" ⟨7, "a1", "ECONOMY", seatCount⟩ ∧ lockedCount "a1" es = locked := by
  obtain ⟨es, P, hrun, hafter⟩ := System.exists_run h
  simp only [reservesInFull, Bool.and_eq_true, decide_eq_true_eq] at hafter
  obtain ⟨⟨hdto, hreserved⟩, hlocked⟩ := hafter
  obtain ⟨dto, hrequest, hsaga⟩ := (Option.any_eq_true _ _).mp hdto
  exact ⟨es, P, dto, hrequest, hrun, ⟨0, of_decide_eq_true hsaga, hreserved⟩, hlocked⟩

/-- One seat, and its name. -/
def oneNamed : Gateway.CreateBookingDto := { flightId := 7, seats := some 1, seatNumbers := some ["1A"] }

theorem reserved_matches_locked_oneNamed :
    ∃ es P dto id p, oneNamed.validate = true ∧ oneNamed.request 1 = some dto ∧
      service.run (reservedFor oneNamed) (Pool.init (World.init 0)) = some (es, P) ∧
      Reserves es dto id p ∧
      ((0 < p.seatCount ∧ (oneNamed.seatNumbers.getD [] ≠ [] →
        p.seatCount = lockedCount id es)) ↔ oneNamed.CountsItsSeats) := by
  have hrun : (service.run (reservedFor oneNamed) (Pool.init (World.init 0))).any
      (reservesInFull oneNamed 1 1) = true := by decide +kernel
  obtain ⟨es, P, dto, hrequest, hrun, hreserves, -⟩ := reservesInFull_spec hrun
  exact ⟨es, P, dto, "a1", _, rfl, hrequest, hrun, hreserves,
    reserved_matches_locked_iff rfl hrequest hrun hreserves⟩

/-- Five seats are reserved, where one was named and locked. -/
theorem five_reserved_one_locked :
    ∃ es P body dto id p, body.validate = true ∧ body.request 1 = some dto ∧
      service.run (reservedFor body) (Pool.init (World.init 0)) = some (es, P) ∧
      Reserves es dto id p ∧ ¬(0 < p.seatCount ∧ (body.seatNumbers.getD [] ≠ [] →
        p.seatCount = lockedCount id es)) := by
  let body : Gateway.CreateBookingDto := { oneNamed with seats := some 5 }
  have hrun : (service.run (reservedFor body) (Pool.init (World.init 0))).any
      (reservesInFull body 5 1) = true := by decide +kernel
  obtain ⟨es, P, dto, hrequest, hrun, hreserves, hlocked⟩ := reservesInFull_spec hrun
  refine ⟨es, P, body, dto, "a1", _, rfl, hrequest, hrun, hreserves, fun hmatches => ?_⟩
  have hcount := hmatches.2 (by decide)
  rw [hlocked] at hcount
  exact absurd hcount (by decide)

end FlightBookings.Booking
