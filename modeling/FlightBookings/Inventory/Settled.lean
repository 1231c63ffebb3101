import Mathlib.Tactic.Ring
import FlightBookings.Booking.Holdings
import FlightBookings.Inventory.Bookings

/-! # The inventory once all events were processed

When the events of the bookings have all been processed, the seats of a flight
that are missing are those that its pending and booked bookings hold.
-/

namespace FlightBookings.Inventory

open Await
open Booking (OutboxEvent EventBody SeatsPayload)

variable {w₀ w : World} {v : Booking.World} {e : OutboxEvent} {now : Nat}

def Settled (w : World) (v : Booking.World) : Prop :=
  ∀ e ∈ v.outbox, (messageOf e).isSome → (w.processed e.eventId).isSome

instance (w : World) (v : Booking.World) : Decidable (Settled w v) :=
  inferInstanceAs (Decidable (∀ e ∈ v.outbox, _ → _))

/-- The seats of the flight that an event takes, less those that it gives back. -/
def net (flightId : Int) (e : OutboxEvent) : Int :=
  match e.body with
  | .reserveSeats p => if p.flightId = flightId then p.seatCount else 0
  | .releaseSeats p => if p.flightId = flightId then -p.seatCount else 0
  | _ => 0

theorem sum_effect_settled (h : Accounted w₀ w v) (hsettled : Settled w v) (he : e ∈ v.outbox)
    (flightId : Int) :
    (seatFields.map fun field => effect w flightId field e).sum + net flightId e = 0 := by
  rw [sum_effect]
  cases hd : messageOf e with
  | none =>
      have hzero : net flightId e = 0 := by
        unfold messageOf at hd
        unfold net
        split at hd <;> simp_all
      simp [hzero]
  | some d =>
      have hprocessed : (w.processed e.eventId).isSome := hsettled e he (by rw [hd]; rfl)
      have hmapped := h.mapped e he hprocessed d hd
      rw [if_pos hprocessed]
      dsimp only
      rw [sum_gain]
      unfold messageOf at hd
      unfold net
      split at hd <;> cases hd
      · rename_i p hp
        have hmapped : (getSeatField p.seatClass).isSome := hmapped fun heq => by cases heq
        by_cases hflight : p.flightId = flightId <;>
          simp [hp, seatMessage, Delivery.seats, hflight, hmapped]
      · rename_i p hp
        simp [hp, Delivery.seats]
      · rename_i p hp
        have hmapped : (getSeatField p.seatClass).isSome := hmapped fun heq => by cases heq
        by_cases hflight : p.flightId = flightId <;>
          simp [hp, seatMessage, Delivery.seats, hflight, hmapped]

/-! ## Booking by booking -/

/-- What the events of one booking take. -/
theorem sum_net {b : Booking.Booking} {l : List OutboxEvent} (flightId : Int)
    (h : ∀ e ∈ l, ∀ p, e.body.seatsPayload = some p →
      p.flightId = b.flightId ∧ p.seatCount = b.noOfSeats) :
    (l.map (net flightId)).sum = if b.flightId = flightId then
      b.noOfSeats * ((l.countP fun e => e.body.isReserve : Nat) -
        (l.countP fun e => e.body.isRelease : Nat) : Int) else 0 := by
  induction l with
  | nil => simp
  | cons e l ih =>
      have htail := ih fun e' he' => h e' (List.mem_cons_of_mem e he')
      have hhead := h e List.mem_cons_self
      rw [List.map_cons, List.sum_cons, htail, List.countP_cons, List.countP_cons]
      cases hbody : e.body with
      | reserveSeats p =>
          obtain ⟨hflight, hcount⟩ := hhead p (by rw [hbody]; rfl)
          have hnet : net flightId e = if b.flightId = flightId then b.noOfSeats else 0 := by
            simp only [net, hbody, hflight, hcount]
          have hreserve : (EventBody.reserveSeats p).isReserve = true := rfl
          have hrelease : (EventBody.reserveSeats p).isRelease = false := rfl
          rw [hnet, hreserve, hrelease]
          split
          · push_cast
            rw [if_pos rfl]
            ring
          · rfl
      | releaseSeats p =>
          obtain ⟨hflight, hcount⟩ := hhead p (by rw [hbody]; rfl)
          have hnet : net flightId e = if b.flightId = flightId then -b.noOfSeats else 0 := by
            simp only [net, hbody, hflight, hcount]
          have hreserve : (EventBody.releaseSeats p).isReserve = false := rfl
          have hrelease : (EventBody.releaseSeats p).isRelease = true := rfl
          rw [hnet, hreserve, hrelease]
          split
          · push_cast
            rw [if_pos rfl]
            ring
          · rfl
      | confirmSeats p =>
          have hnet : net flightId e = 0 := by simp only [net, hbody]
          rw [hnet, Int.zero_add]
          rfl
      | bookingCreated bookingId userId =>
          have hnet : net flightId e = 0 := by simp only [net, hbody]
          rw [hnet, Int.zero_add]
          rfl
      | bookingConfirmed bookingId userId =>
          have hnet : net flightId e = 0 := by simp only [net, hbody]
          rw [hnet, Int.zero_add]
          rfl

/-- An event that takes or gives back seats is about a booking that has a row. -/
theorem stored_of_net {ms₂ : List (Move Booking.Request Booking.Choice)}
    {es₂ : List Booking.Event} {Q : Booking.ServicePool}
    (hrun : Booking.service.run ms₂ (Pool.init (Booking.World.init now)) = some (es₂, Q))
    (hcurrent : ∀ e ∈ es₂, Booking.UpToDate e) {flightId : Int} (he : e ∈ Q.state.outbox)
    (hnet : net flightId e ≠ 0) : (Q.state.booking e.aggregateId).isSome := by
  have hemitted := Booking.emitted_run hrun
  have hreserved : Booking.reserves Q.state e.aggregateId ≠ 0 →
      (Q.state.booking e.aggregateId).isSome := by
    intro hreserves
    obtain ⟨e', he', hreserve⟩ := List.countP_pos_iff.mp (Nat.pos_of_ne_zero hreserves)
    obtain ⟨haggregate, hreserve⟩ := Bool.and_eq_true_iff.mp hreserve
    rw [← of_decide_eq_true haggregate]
    exact (hemitted.aggregates e' he' hreserve).2
  cases hbody : e.body with
  | reserveSeats p => exact (hemitted.aggregates e he (by rw [hbody]; rfl)).2
  | releaseSeats p =>
      have hreleases : Booking.releases Q.state e.aggregateId ≠ 0 := by
        refine Nat.ne_of_gt (List.countP_pos_iff.mpr ⟨e, he, ?_⟩)
        simp [hbody, EventBody.isRelease]
      have hoccupancy := Booking.occupancy_run hrun hcurrent e.aggregateId
      cases hsaga : Q.state.saga e.aggregateId with
      | none => exact absurd (hoccupancy.unknown hsaga).2.1 hreleases
      | some s =>
          refine hreserved ?_
          rw [hoccupancy.counts s hsaga]
          omega
  | confirmSeats p => exact absurd (by simp only [net, hbody]) hnet
  | bookingCreated bookingId userId => exact absurd (by simp only [net, hbody]) hnet
  | bookingConfirmed bookingId userId => exact absurd (by simp only [net, hbody]) hnet

/-- The events of a run take as many seats of a flight as its pending and booked bookings hold. -/
theorem net_of_run {ms₂ : List (Move Booking.Request Booking.Choice)}
    {es₂ : List Booking.Event} {Q : Booking.ServicePool}
    (hrun : Booking.service.run ms₂ (Pool.init (Booking.World.init now)) = some (es₂, Q))
    (hcurrent : ∀ e ∈ es₂, Booking.UpToDate e) (flightId : Int) :
    (Q.state.outbox.map (net flightId)).sum =
      asked flightId (Q.state.bookings.filter Booking.Booking.active) := by
  have hunique : (Q.state.bookings.map Booking.Booking.bookingReference).Nodup :=
    (Booking.consistent_run hrun).unique
  have hkeys : ∀ e ∈ Q.state.outbox, net flightId e ≠ 0 →
      e.aggregateId ∈ Q.state.bookings.map Booking.Booking.bookingReference := by
    intro e he hnet
    obtain ⟨b, hb⟩ := Option.isSome_iff_exists.mp (stored_of_net hrun hcurrent he hnet)
    obtain ⟨hmem, href⟩ := Table.mem_of_find hb
    exact href ▸ List.mem_map_of_mem hmem
  have hgroup : ∀ b ∈ Q.state.bookings,
      ((Q.state.outbox.filter fun e => e.aggregateId = b.bookingReference).map (net flightId)).sum =
        if b.flightId = flightId ∧ b.active then b.noOfSeats else 0 := by
    intro b hb
    have hfind : Q.state.booking b.bookingReference = some b := Table.find_of_mem hunique hb
    have hcounts := Booking.holds_row hrun hcurrent hfind
    rw [sum_net (b := b)]
    · rw [List.countP_filter, List.countP_filter]
      have hreserves : (Q.state.outbox.countP fun e =>
          e.body.isReserve && decide (e.aggregateId = b.bookingReference)) =
            Booking.reserves Q.state b.bookingReference := by
        simp only [Booking.reserves, Bool.and_comm]
      have hreleases : (Q.state.outbox.countP fun e =>
          e.body.isRelease && decide (e.aggregateId = b.bookingReference)) =
            Booking.releases Q.state b.bookingReference := by
        simp only [Booking.releases, Bool.and_comm]
      rw [hreserves, hreleases, hcounts]
      by_cases hflight : b.flightId = flightId <;> cases hactive : b.active <;> simp [hflight]
    · intro e he p hp
      obtain ⟨hmem, haggregate⟩ := List.mem_filter.mp he
      have hrow : Q.state.booking e.aggregateId = some b := by
        rw [of_decide_eq_true haggregate]
        exact hfind
      exact Booking.seats_row hrun hmem hp hrow
  calc (Q.state.outbox.map (net flightId)).sum
      = (Q.state.bookings.map fun b =>
          if b.flightId = flightId ∧ b.active then b.noOfSeats else 0).sum := by
        rw [Table.sum_by_key hunique hkeys, List.map_map]
        exact congrArg List.sum (List.map_congr_left hgroup)
    _ = asked flightId (Q.state.bookings.filter Booking.Booking.active) := by
        rw [List.sum_map_ite, asked, List.filter_filter]
        simp

section Runs

variable {ms : List JointMove} {es : List JointEvent} {P : JointPools}

/-- In every run whose transactions go on from the stored sagas, once every event about seats was
processed, the seats of a flight that are taken are those of its pending and booked bookings. -/
theorem taken_settled (hkeyed : w₀.Keyed) (hempty : w₀.processedEvents = [])
    (hrun : pipeline.run ms (start w₀ now) = some (es, P))
    (hcurrent : ∀ e ∈ es, ∀ e' ∈ e.second?, Booking.UpToDate e')
    (hsettled : Settled P.first.state P.second.state) :
    ∀ f₀ ∈ w₀.flights, ∃ f, P.first.state.flight f₀.id = some f ∧
      taken f₀ f = asked f₀.id (P.second.state.bookings.filter Booking.Booking.active) := by
  intro f₀ hf₀
  have haccounted := accounted_of_run hkeyed hempty hrun
  obtain ⟨f, hf, -⟩ := haccounted.balance f₀ hf₀
  refine ⟨f, hf, ?_⟩
  have htaken := taken_effects haccounted hf₀ hf
  have hnet := net_of_run (Pair.run_second hrun)
    (fun e' he' => by
      obtain ⟨e, he, hsecond⟩ := List.mem_filterMap.mp he'
      exact hcurrent e he e' hsecond) f₀.id
  have hzero := List.map_congr_left fun e he => sum_effect_settled haccounted hsettled he f₀.id
  have hsum := congrArg List.sum hzero
  rw [List.sum_map_add] at hsum
  simp only [List.map_const', List.sum_replicate] at hsum
  simp at hsum
  omega

theorem taken_settled_twice :
    ∃ es P, pipeline.run deliveredTwice (start oneFlight 0) = some (es, P) ∧
      takesOnce (es, P) = true ∧ ∀ f₀ ∈ oneFlight.flights, ∃ f,
        P.first.state.flight f₀.id = some f ∧
          taken f₀ f = asked f₀.id (P.second.state.bookings.filter Booking.Booking.active) := by
  have hrun : (pipeline.run deliveredTwice (start oneFlight 0)).any (fun result =>
      takesOnce result && (Settled result.2.first.state result.2.second.state &&
        result.1.all fun e => e.second?.all fun e' => Booking.UpToDate e')) = true := by
    decide +kernel
  obtain ⟨es, P, hrun, hresult⟩ := Pair.exists_run hrun
  obtain ⟨htaken, hresult⟩ := Bool.and_eq_true_iff.mp hresult
  obtain ⟨hsettled, hcurrent⟩ := Bool.and_eq_true_iff.mp hresult
  refine ⟨es, P, hrun, htaken, taken_settled ⟨by decide, by decide⟩ rfl hrun (fun e he e' he' => ?_)
    (of_decide_eq_true hsettled)⟩
  have hall := List.all_eq_true.mp hcurrent e he
  rw [he', Option.all_some] at hall
  exact of_decide_eq_true hall

end Runs

end FlightBookings.Inventory
