import Mathlib.Algebra.Order.BigOperators.Group.List
import Mathlib.Algebra.Order.Ring.Int
import FlightBookings.Inventory.Processing

/-! # Conservation of seats

A booking emits one event that reserves its seats and at most one that releases
them, in queues of their own. A release is applied without a look at the
reservation, so the seats of a flight are conserved exactly as long as no release
overtakes its reservation.
-/

namespace FlightBookings.Inventory

open Await

/-! ## The events of the bookings -/

/-- A booking with the ids of the events that it emits. -/
structure Booked where
  bookingId : String
  flightId : Int
  seatClass : String
  seatCount : Int
  reserveId : String
  releaseId : Option String
deriving DecidableEq

def Booked.event (b : Booked) (eventId : String) : FlightSeatEvent :=
  ⟨eventId, b.flightId, b.bookingId, b.seatClass, b.seatCount⟩

/-- The deliveries of the events of some booking. -/
def Emitted (bookings : List Booked) (d : Delivery) : Prop :=
  ∃ b ∈ bookings, d = ⟨.reserve, b.event b.reserveId⟩ ∨
    ∃ eventId, b.releaseId = some eventId ∧ d = ⟨.release, b.event eventId⟩

/-- Each event has an id of its own, and each booking takes seats of a class of the flight. -/
structure Distinct (bookings : List Booked) : Prop where
  nodup : bookings.Nodup
  reserve : ∀ b ∈ bookings, ∀ b' ∈ bookings, b.reserveId = b'.reserveId → b = b'
  release : ∀ b ∈ bookings, ∀ b' ∈ bookings, ∀ eventId, b.releaseId = some eventId →
    b'.releaseId = some eventId → b = b'
  apart : ∀ b ∈ bookings, ∀ b' ∈ bookings, b.releaseId ≠ some b'.reserveId
  positive : ∀ b ∈ bookings, 0 < b.seatCount
  mapped : ∀ b ∈ bookings, (getSeatField b.seatClass).isSome

def reserved (w : World) (b : Booked) : Bool := (w.processed b.reserveId).isSome

def released (w : World) (b : Booked) : Bool :=
  b.releaseId.any fun eventId => (w.processed eventId).isSome

/-- The seats of the flight that the booking has taken and not given back. -/
def held (w : World) (flightId : Int) (field : SeatField) (b : Booked) : Int :=
  if b.flightId = flightId ∧ getSeatField b.seatClass = some field ∧ reserved w b = true ∧
      released w b = false then
    b.seatCount
  else 0

/-- Each count is its initial value less the seats that the bookings hold, and never above it. -/
structure Conserved (bookings : List Booked) (w₀ w : World) : Prop where
  balance : ∀ f₀ ∈ w₀.flights, ∀ field, ∃ f, w.flight f₀.id = some f ∧
    f.available field = f₀.available field - (bookings.map (held w f₀.id field)).sum
  bounded : ∀ f₀ ∈ w₀.flights, ∀ field, ∀ f, w.flight f₀.id = some f →
    f.available field ≤ f₀.available field

/-- A release of a flight that exists is applied after its reservation. -/
def ReleasesReserved (bookings : List Booked) (e : Event) : Prop :=
  ∀ b ∈ bookings, ∀ d, committed e = some d → d.kind = .release →
    b.releaseId = some d.msg.eventId → (e.before.flight b.flightId).isSome →
      reserved e.before b = true

variable {bookings : List Booked} {w w' w₀ : World} {b : Booked} {d : Delivery} {e : Event}

/-! ## Sums -/

/-- A sum in which one booking changes by `v`. -/
theorem sum_map_single {g k : Booked → Int} {v : Int} (hnodup : bookings.Nodup) (hb : b ∈ bookings)
    (h : ∀ b' ∈ bookings, g b' = k b' + if b' = b then v else 0) :
    (bookings.map g).sum = (bookings.map k).sum + v := by
  induction bookings with
  | nil => cases hb
  | cons a bookings ih =>
      rw [List.nodup_cons] at hnodup
      rw [List.map_cons, List.sum_cons, List.map_cons, List.sum_cons, h a List.mem_cons_self]
      rcases List.mem_cons.mp hb with rfl | hmem
      · have hsame : bookings.map g = bookings.map k := by
          refine List.map_congr_left fun b' hb' => ?_
          have hne : b' ≠ b := fun heq => hnodup.1 (heq ▸ hb')
          rw [h b' (List.mem_cons_of_mem _ hb'), if_neg hne, Int.add_zero]
        rw [hsame, if_pos rfl]
        omega
      · have hne : a ≠ b := fun heq => hnodup.1 (heq ▸ hmem)
        have htail := ih hnodup.2 hmem fun b' hb' => h b' (List.mem_cons_of_mem _ hb')
        rw [htail, if_neg hne]
        omega

theorem held_nonneg (h : Distinct bookings) (hb : b ∈ bookings) (flightId : Int)
    (field : SeatField) : 0 ≤ held w flightId field b := by
  have hpositive := h.positive b hb
  unfold held
  split <;> omega

/-- The count follows from the balance. -/
theorem conserved_of_balance (h : Distinct bookings)
    (hbalance : ∀ f₀ ∈ w₀.flights, ∀ field, ∃ f, w.flight f₀.id = some f ∧
      f.available field = f₀.available field - (bookings.map (held w f₀.id field)).sum) :
    Conserved bookings w₀ w where
  balance := hbalance
  bounded f₀ hf₀ field f hf := by
    obtain ⟨f', hf', havailable⟩ := hbalance f₀ hf₀ field
    rw [hf, Option.some.injEq] at hf'
    subst hf'
    have hsum : 0 ≤ (bookings.map (held w f₀.id field)).sum := by
      refine List.sum_nonneg fun x hx => ?_
      obtain ⟨b, hb, rfl⟩ := List.mem_map.mp hx
      exact held_nonneg h hb f₀.id field
    omega

/-! ## What a transaction does to the balance -/

/-- What the transaction of a delivery adds to a count. -/
def gain (d : Delivery) (flightId : Int) (field : SeatField) : Int :=
  if d.msg.flightId = flightId ∧ getSeatField d.msg.seatClass = some field then
    match d.kind with
    | .reserve => -d.msg.seatCount
    | .confirm => 0
    | .release => d.msg.seatCount
  else 0

theorem flight_modify {flights : List Flight} {flightId id n : Int} {field : SeatField} {f : Flight}
    (hf : Table.find Flight.id id flights = some f) :
    ∃ f', Table.find Flight.id id
        (Table.modify Flight.id flightId (fun f => f.add n field) flights) = some f' ∧
      ∀ field', f'.available field' = f.available field' +
        if flightId = id ∧ field = field' then n else 0 := by
  have hid : ∀ f : Flight, f.id = flightId → (f.add n field).id = flightId :=
    fun f hf => (Flight.add_id n f field).trans hf
  by_cases heq : id = flightId
  · subst heq
    refine ⟨f.add n field, ?_, fun field' => ?_⟩
    · rw [Table.find_modify_self hid, hf]
      rfl
    · rw [Flight.available_add]
      simp [eq_comm]
  · refine ⟨f, ?_, fun field' => ?_⟩
    · rw [Table.find_modify_of_ne hid heq]
      exact hf
    · simp [Ne.symm heq]

theorem Applied.flight (h : Applied d w w') {id : Int} {f : Flight} (hf : w.flight id = some f) :
    ∃ f', w'.flight id = some f' ∧
      ∀ field, f'.available field = f.available field + gain d id field := by
  obtain ⟨kind, msg⟩ := d
  have hflights : Applies msg w kind w'.flights := h.flights
  unfold World.flight
  generalize w'.flights = flights at hflights
  cases hflights with
  | confirm => exact ⟨f, hf, fun field => by simp [gain]⟩
  | release hfield =>
      obtain ⟨f', hf', havailable⟩ := flight_modify (n := msg.seatCount) hf
      exact ⟨f', hf', fun field => by rw [havailable]; simp [gain, hfield]⟩
  | reserve hfield hflight henough =>
      obtain ⟨f', hf', havailable⟩ := flight_modify (n := -msg.seatCount) hf
      exact ⟨f', hf', fun field => by rw [havailable]; simp [gain, hfield]⟩

theorem Applied.flight_isSome (h : Applied d w w') (id : Int) :
    (w'.flight id).isSome = (w.flight id).isSome := by
  cases hf : w.flight id with
  | some f =>
      obtain ⟨f', hf', -⟩ := h.flight hf
      rw [hf']
      rfl
  | none =>
      have hids : w'.flights.map Flight.id = w.flights.map Flight.id := h.map_id
      have hnone : ∀ f ∈ w.flights, f.id ≠ id := Table.find_eq_none.mp hf
      have hnone' : w'.flight id = none := by
        refine Table.find_eq_none.mpr fun f hmem hid => ?_
        have hmem' : id ∈ w.flights.map Flight.id := hids ▸ List.mem_map.mpr ⟨f, hmem, hid⟩
        obtain ⟨f', hf', hid'⟩ := List.mem_map.mp hmem'
        exact hnone f' hf' hid'
      rw [hnone']

theorem Applied.processed (h : Applied d w w') (eventId : String) :
    (w'.processed eventId).isSome =
      ((w.processed eventId).isSome || decide (d.msg.eventId = eventId)) := by
  obtain ⟨p, hp, hmarked⟩ := h.marked
  rw [World.processed, hmarked, Table.find_insert, hp]
  by_cases heq : d.msg.eventId = eventId <;> simp [heq]

/-! ## One booking at a time -/

theorem reserved_applied (h : Applied d w w') (b : Booked) :
    reserved w' b = (reserved w b || decide (d.msg.eventId = b.reserveId)) :=
  h.processed b.reserveId

theorem released_applied (h : Applied d w w') (b : Booked) :
    released w' b = (released w b || decide (b.releaseId = some d.msg.eventId)) := by
  unfold released
  cases hid : b.releaseId with
  | none => simp
  | some eventId =>
      rw [Option.any_some, Option.any_some, h.processed eventId]
      simp [eq_comm]

/-- What is applied is the reservation or the release of one booking, for the first time. -/
inductive Moves (bookings : List Booked) (b : Booked) (d : Delivery) (w w' : World) : Prop where
  | reserve (hd : d = ⟨.reserve, b.event b.reserveId⟩) (hnew : reserved w b = false)
      (hreserved : ∀ b' ∈ bookings, reserved w' b' = (reserved w b' || decide (b' = b)))
      (hreleased : ∀ b' ∈ bookings, released w' b' = released w b')
  | release (eventId : String) (hid : b.releaseId = some eventId)
      (hd : d = ⟨.release, b.event eventId⟩) (hnew : released w b = false)
      (hreserved : ∀ b' ∈ bookings, reserved w' b' = reserved w b')
      (hreleased : ∀ b' ∈ bookings, released w' b' = (released w b' || decide (b' = b)))

theorem moves_of_applied (hdistinct : Distinct bookings) (hd : Emitted bookings d)
    (h : Applied d w w') : ∃ b ∈ bookings, Moves bookings b d w w' := by
  obtain ⟨b, hb, rfl | ⟨eventId, hid, rfl⟩⟩ := hd
  · refine ⟨b, hb, .reserve rfl ?_ (fun b' hb' => ?_) fun b' hb' => ?_⟩
    · simpa [reserved, Booked.event] using h.unprocessed
    · rw [reserved_applied h]
      congr 1
      refine decide_eq_decide.mpr ⟨fun heq => ?_, fun heq => by rw [heq]; rfl⟩
      exact (hdistinct.reserve b hb b' hb' heq).symm
    · rw [released_applied h, decide_eq_false, Bool.or_false]
      exact hdistinct.apart b' hb' b hb
  · refine ⟨b, hb, .release eventId hid rfl ?_ (fun b' hb' => ?_) fun b' hb' => ?_⟩
    · have hnone := h.unprocessed
      simpa [released, hid, Booked.event] using hnone
    · rw [reserved_applied h, decide_eq_false, Bool.or_false]
      intro heq
      have heq : eventId = b'.reserveId := heq
      exact hdistinct.apart b hb b' hb' (heq ▸ hid)
    · rw [released_applied h]
      congr 1
      refine decide_eq_decide.mpr ⟨fun heq => ?_, fun heq => by rw [heq]; exact hid⟩
      exact hdistinct.release b' hb' b hb eventId heq hid

/-- The booking that moves changes what is held by as much as it holds before and after. -/
theorem sum_held (hdistinct : Distinct bookings) (hb : b ∈ bookings) (h : Moves bookings b d w w')
    (flightId : Int) (field : SeatField) : (bookings.map (held w' flightId field)).sum =
      (bookings.map (held w flightId field)).sum +
        (held w' flightId field b - held w flightId field b) := by
  refine sum_map_single hdistinct.nodup hb fun b' hb' => ?_
  by_cases heq : b' = b
  · subst heq
    rw [if_pos rfl]
    omega
  · have hsame : held w' flightId field b' = held w flightId field b' := by
      cases h with
      | reserve hd hnew hreserved hreleased =>
          simp [held, hreserved b' hb', hreleased b' hb', heq]
      | release eventId hid hd hnew hreserved hreleased =>
          simp [held, hreserved b' hb', hreleased b' hb', heq]
    rw [hsame, if_neg heq, Int.add_zero]

/-- The balance stays, unless a booking gives back seats that it does not hold, or takes seats that
it has given back already. -/
theorem gain_held (hb : b ∈ bookings) (h : Moves bookings b d w w') (flightId : Int)
    (field : SeatField)
    (hsound : b.flightId = flightId → getSeatField b.seatClass = some field →
      (d.kind = .reserve → released w b = false) ∧ (d.kind = .release → reserved w b = true)) :
    gain d flightId field = held w flightId field b - held w' flightId field b := by
  cases h with
  | reserve hd hnew hreserved hreleased =>
      subst hd
      by_cases hmatch : b.flightId = flightId ∧ getSeatField b.seatClass = some field
      · have hopen := (hsound hmatch.1 hmatch.2).1 rfl
        simp [gain, held, Booked.event, hmatch, hnew, hreserved b hb, hreleased b hb, hopen]
      · have hgain : gain ⟨.reserve, b.event b.reserveId⟩ flightId field = 0 := if_neg hmatch
        have hheld : ∀ w, held w flightId field b = 0 := fun w =>
          if_neg fun h => hmatch ⟨h.1, h.2.1⟩
        rw [hgain, hheld, hheld]
        rfl
  | release eventId hid hd hnew hreserved hreleased =>
      subst hd
      by_cases hmatch : b.flightId = flightId ∧ getSeatField b.seatClass = some field
      · have hheld := (hsound hmatch.1 hmatch.2).2 rfl
        simp [gain, held, Booked.event, hmatch, hnew, hreserved b hb, hreleased b hb, hheld]
      · have hgain : gain ⟨.release, b.event eventId⟩ flightId field = 0 := if_neg hmatch
        have hheld : ∀ w, held w flightId field b = 0 := fun w =>
          if_neg fun h => hmatch ⟨h.1, h.2.1⟩
        rw [hgain, hheld, hheld]
        rfl

/-! ## Runs -/

/-- What holds between two transactions of a run whose releases come after their reservations. -/
structure Orderly (bookings : List Booked) (w₀ w : World) : Prop where
  conserved : Conserved bookings w₀ w
  known : ∀ id, (w.flight id).isSome → ∃ f₀ ∈ w₀.flights, f₀.id = id
  ordered : ∀ b ∈ bookings, (w.flight b.flightId).isSome → released w b = true →
    reserved w b = true

theorem Orderly.applied (hdistinct : Distinct bookings) (h : Orderly bookings w₀ w)
    (hb : b ∈ bookings) (hmoves : Moves bookings b d w w') (happlied : Applied d w w')
    (hreserved : d.kind = .release → (w.flight b.flightId).isSome → reserved w b = true) :
    Orderly bookings w₀ w' := by
  refine ⟨conserved_of_balance hdistinct fun f₀ hf₀ field => ?_, fun id hid => ?_,
    fun b' hb' hflight hreleased' => ?_⟩
  · obtain ⟨f, hf, havailable⟩ := h.conserved.balance f₀ hf₀ field
    obtain ⟨f', hf', hgain⟩ := happlied.flight hf
    have hexists : b.flightId = f₀.id → (w.flight b.flightId).isSome = true := by
      intro heq
      rw [heq, hf]
      rfl
    have hheld := gain_held hb hmoves f₀.id field fun hflight _ => by
      refine ⟨fun hkind => ?_, fun hkind => hreserved hkind (hexists hflight)⟩
      rw [← Bool.not_eq_true]
      intro hreleased
      have hbefore := h.ordered b hb (hexists hflight) hreleased
      cases hmoves with
      | reserve hd hnew => rw [hbefore] at hnew; cases hnew
      | release eventId hid hd => rw [hd] at hkind; cases hkind
    refine ⟨f', hf', ?_⟩
    rw [hgain, havailable, sum_held hdistinct hb hmoves, hheld]
    omega
  · rw [happlied.flight_isSome] at hid
    exact h.known id hid
  · rw [happlied.flight_isSome] at hflight
    cases hmoves with
    | reserve hd hnew hreserves hreleases =>
        rw [hreleases b' hb'] at hreleased'
        rw [hreserves b' hb', h.ordered b' hb' hflight hreleased', Bool.true_or]
    | release eventId hid hd hnew hreserves hreleases =>
        rw [hreserves b' hb']
        rw [hreleases b' hb', Bool.or_eq_true] at hreleased'
        rcases hreleased' with hbefore | heq
        · exact h.ordered b' hb' hflight hbefore
        · have heq : b' = b := of_decide_eq_true heq
          subst heq
          exact hreserved (by rw [hd]) hflight

/-- A release of seats that are not held breaks the balance. -/
theorem reserved_of_conserved (hdistinct : Distinct bookings) (h : Orderly bookings w₀ w)
    (hb : b ∈ bookings) (hmoves : Moves bookings b d w w') (happlied : Applied d w w')
    (hafter : Conserved bookings w₀ w') (hkind : d.kind = .release)
    (hflight : (w.flight b.flightId).isSome) : reserved w b = true := by
  rw [← Bool.not_eq_false]
  intro hnot
  cases hmoves with
  | reserve hd => rw [hd] at hkind; cases hkind
  | release eventId hid hd hnew hreserves hreleases =>
      have hmoves : Moves bookings b d w w' := .release eventId hid hd hnew hreserves hreleases
      obtain ⟨f₀, hf₀, hid₀⟩ := h.known b.flightId hflight
      obtain ⟨field, hfield⟩ := Option.isSome_iff_exists.mp (hdistinct.mapped b hb)
      obtain ⟨f, hf, havailable⟩ := h.conserved.balance f₀ hf₀ field
      obtain ⟨f', hf', hgain⟩ := happlied.flight hf
      obtain ⟨f'', hf'', havailable'⟩ := hafter.balance f₀ hf₀ field
      rw [hf', Option.some.injEq] at hf''
      subst hf''
      have hsum := sum_held hdistinct hb hmoves f₀.id field
      have hholds : held w f₀.id field b = 0 := by simp [held, hnot]
      have hholds' : held w' f₀.id field b = 0 := by simp [held, hreserves b hb, hnot]
      have hgains : gain d f₀.id field = b.seatCount := by
        subst hd
        simp [gain, Booked.event, hid₀, hfield]
      have hfield' := hgain field
      have hpositive := hdistinct.positive b hb
      rw [hholds, hholds'] at hsum
      omega

theorem orderly_init (hkeyed : w₀.Keyed) (hempty : w₀.processedEvents = [])
    (hdistinct : Distinct bookings) : Orderly bookings w₀ w₀ := by
  have hreserved : ∀ b, reserved w₀ b = false := by
    intro b
    simp [reserved, World.processed, hempty, Table.find]
  have hreleased : ∀ b, released w₀ b = false := by
    intro b
    unfold released
    cases b.releaseId with
    | none => rfl
    | some eventId => simp [World.processed, hempty, Table.find]
  have hsum : ∀ flightId field, (bookings.map (held w₀ flightId field)).sum = 0 := by
    intro flightId field
    have hzero : bookings.map (held w₀ flightId field) = bookings.map fun _ => (0 : Int) :=
      List.map_congr_left fun b _ => by simp [held, hreserved b]
    rw [hzero]
    simp
  refine ⟨conserved_of_balance hdistinct fun f₀ hf₀ field => ?_, fun id hid => ?_,
    fun b _ _ hb => ?_⟩
  · refine ⟨f₀, Table.find_of_mem hkeyed.flights hf₀, ?_⟩
    rw [hsum]
    omega
  · obtain ⟨f, hf⟩ := Option.isSome_iff_exists.mp hid
    exact ⟨f, Table.mem_of_find hf⟩
  · rw [hreleased b] at hb
    cases hb

/-- The seats of the flights are conserved in every state of a run exactly when every release of a
flight that exists is applied after its reservation. -/
theorem seats_conserved_iff {ms : List (Move Delivery (Option Exception))} {es : List Event}
    {w₀ : World} {P : ServicePool} {bookings : List Booked} (hkeyed : w₀.Keyed)
    (hempty : w₀.processedEvents = []) (hdistinct : Distinct bookings)
    (hrun : service.run ms (Pool.init w₀) = some (es, P))
    (hreceives : ∀ e ∈ es, Receives (Emitted bookings) e) :
    (∀ e ∈ es, Conserved bookings w₀ e.after) ↔ ∀ e ∈ es, ReleasesReserved bookings e := by
  have hlawful := lawful_run hrun hreceives
  have hevents : ∀ e ∈ es, Orderly bookings w₀ e.before →
      (ReleasesReserved bookings e → Orderly bookings w₀ e.after ∧ Conserved bookings w₀ e.after) ∧
        (Conserved bookings w₀ e.after → ReleasesReserved bookings e) := by
    intro e he hbefore
    rcases hlawful e he with ⟨hnone, hsame⟩ | ⟨d, hd, hemitted, happlied⟩
    · refine ⟨fun _ => ?_, fun _ b _ d hd => ?_⟩
      · rw [hsame]
        exact ⟨hbefore, hbefore.conserved⟩
      · rw [hnone] at hd
        cases hd
    · obtain ⟨b, hb, hmoves⟩ := moves_of_applied hdistinct hemitted happlied
      constructor
      · intro hreleases
        have hafter := hbefore.applied hdistinct hb hmoves happlied fun hkind hflight => by
          cases hmoves with
          | reserve hd' => rw [hd'] at hkind; cases hkind
          | release eventId hid hd' =>
              refine hreleases b hb d hd hkind ?_ hflight
              rw [hd']
              exact hid
        exact ⟨hafter, hafter.conserved⟩
      · intro hafter b' hb' d' hd' hkind hid hflight
        rw [hd, Option.some.injEq] at hd'
        subst hd'
        have heq : b' = b := by
          cases hmoves with
          | reserve hd' => rw [hd'] at hkind; cases hkind
          | release eventId hid' hd' =>
              rw [hd'] at hid
              exact hdistinct.release b' hb' b hb eventId hid hid'
        subst heq
        exact reserved_of_conserved hdistinct hbefore hb hmoves happlied hafter hkind hflight
  exact System.run_iff hrun hevents (orderly_init hkeyed hempty hdistinct)

def booked (seatCount : Int) : Booked := ⟨"a1", 7, "ECONOMY", seatCount, "r1", some "l1"⟩

theorem distinct_booked {seatCount : Int} (h : 0 < seatCount) : Distinct [booked seatCount] where
  nodup := List.nodup_singleton _
  reserve b hb b' hb' _ := (List.mem_singleton.mp hb).trans (List.mem_singleton.mp hb').symm
  release b hb b' hb' _ _ _ := (List.mem_singleton.mp hb).trans (List.mem_singleton.mp hb').symm
  apart b hb b' hb' := by
    rw [List.mem_singleton.mp hb, List.mem_singleton.mp hb']
    simp [booked]
  positive b hb := by
    rw [List.mem_singleton.mp hb]
    exact h
  mapped b hb := by
    rw [List.mem_singleton.mp hb]
    rfl

/-- The events of the booking come in, the release before or after the reservation. -/
theorem receives_booked {seatCount : Int} {es : List Event}
    (h : es.all (fun e => match e with
      | .started _ _ d => d = ⟨.reserve, (booked seatCount).event "r1"⟩ ||
          d = ⟨.release, (booked seatCount).event "l1"⟩
      | .performed _ _ _ _ _ => true) = true) :
    ∀ e ∈ es, Receives (Emitted [booked seatCount]) e := by
  intro e he
  have hevent := List.all_eq_true.mp h e he
  cases e with
  | performed w i c op w' => trivial
  | started w i d =>
      simp only [Bool.or_eq_true, decide_eq_true_eq] at hevent
      refine ⟨booked seatCount, List.mem_singleton.mpr rfl, hevent.imp id fun hd => ?_⟩
      exact ⟨"l1", rfl, hd⟩

theorem seats_conserved_released :
    ∃ es P, service.run [.start ⟨.reserve, (booked 2).event "r1"⟩, .run 0 none, .run 0 none,
        .start ⟨.release, (booked 2).event "l1"⟩, .run 1 none, .run 1 none] (Pool.init oneFlight) =
          some (es, P) ∧ ∀ e ∈ es, Conserved [booked 2] oneFlight e.after := by
  have hrun : (service.run [.start ⟨.reserve, (booked 2).event "r1"⟩, .run 0 none, .run 0 none,
      .start ⟨.release, (booked 2).event "l1"⟩, .run 1 none, .run 1 none]
      (Pool.init oneFlight)).any (fun result => result.1.all (fun e => match e with
        | .started _ _ d => d = ⟨.reserve, (booked 2).event "r1"⟩ ||
            d = ⟨.release, (booked 2).event "l1"⟩
        | .performed _ _ _ _ _ => true) && result.1.all fun e =>
          (committed e).all (fun d => d.kind ≠ .release) || reserved e.before (booked 2)) = true := by
    decide +kernel
  obtain ⟨es, P, hrun, hresult⟩ := System.exists_run hrun
  rw [Bool.and_eq_true] at hresult
  refine ⟨es, P, hrun, (seats_conserved_iff ⟨by decide, by decide⟩ rfl (distinct_booked (by decide))
    hrun (receives_booked hresult.1)).mpr fun e he b hb d hd hkind _ _ => ?_⟩
  have hevent := List.all_eq_true.mp hresult.2 e he
  rw [List.mem_singleton.mp hb]
  simpa [hd, hkind] using hevent

/-- A reservation that is turned away and its release: three seats come out of nothing. -/
theorem seats_not_conserved :
    ¬∀ (ms : List (Move Delivery (Option Exception))) (es : List Event) (w₀ : World)
      (P : ServicePool) (bookings : List Booked), w₀.Keyed → w₀.processedEvents = [] →
      Distinct bookings → service.run ms (Pool.init w₀) = some (es, P) →
      (∀ e ∈ es, Receives (Emitted bookings) e) → ∀ e ∈ es, Conserved bookings w₀ e.after := by
  intro h
  have hrun : (service.run [.start ⟨.reserve, (booked 3).event "r1"⟩, .run 0 none, .run 0 none,
      .start ⟨.release, (booked 3).event "l1"⟩, .run 1 none, .run 1 none]
      (Pool.init oneFlight)).any (fun result => result.1.all (fun e => match e with
        | .started _ _ d => d = ⟨.reserve, (booked 3).event "r1"⟩ ||
            d = ⟨.release, (booked 3).event "l1"⟩
        | .performed _ _ _ _ _ => true) && result.1.any fun e =>
          (e.after.flight 7).any fun f => 2 < f.available .economySeatsAvailable) = true := by
    decide +kernel
  obtain ⟨es, P, hrun, hresult⟩ := System.exists_run hrun
  rw [Bool.and_eq_true, List.any_eq_true] at hresult
  obtain ⟨hreceives, e, he, hcount⟩ := hresult
  obtain ⟨f, hf, hcount⟩ := (Option.any_eq_true _ _).mp hcount
  have hconserved := h _ es oneFlight P [booked 3] ⟨by decide, by decide⟩ rfl
    (distinct_booked (by decide)) hrun (receives_booked hreceives) e he
  have hle := hconserved.bounded ⟨7, 2, 0, 0, 0⟩ (List.mem_singleton.mpr rfl)
    .economySeatsAvailable f hf
  have hle : f.available .economySeatsAvailable ≤ 2 := hle
  rw [decide_eq_true_eq] at hcount
  omega

end FlightBookings.Inventory
