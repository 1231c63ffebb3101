import FlightBookings.Await.Pair
import FlightBookings.Booking.Emissions
import FlightBookings.Inventory.Conservation
import FlightBookings.Store.Sums

/-! # The inventory beside the bookings

The booking service and the handlers of its seat events. An event of the outbox
is delivered any number of times, in any order, or never. The seats of a flight
are those that it began with and the effects of the events that were processed,
and no more are taken than the bookings of the flight ask for.
-/

namespace FlightBookings.Inventory

open Await
open Booking (OutboxEvent EventBody SeatsPayload)

/-! ## The two services -/

def seatMessage (eventId : String) (p : SeatsPayload) : FlightSeatEvent :=
  ⟨eventId, p.flightId, p.bookingId, p.seatClass, p.seatCount⟩

/-- The message of an event, in the queue that its type is routed to. -/
def messageOf (e : OutboxEvent) : Option Delivery :=
  match e.body with
  | .reserveSeats p => some ⟨.reserve, seatMessage e.eventId p⟩
  | .confirmSeats p => some ⟨.confirm, seatMessage e.eventId p⟩
  | .releaseSeats p => some ⟨.release, seatMessage e.eventId p⟩
  | .bookingCreated _ _ => none
  | .bookingConfirmed _ _ => none

theorem messageOf_eventId {e : OutboxEvent} {d : Delivery} (h : messageOf e = some d) :
    d.msg.eventId = e.eventId := by
  unfold messageOf at h
  split at h <;> cases h <;> rfl

def pipeline : Pair Delivery Op (fun op => Except Exception op.Ret) (Option Exception)
    (Except Exception Unit × Unit) World Booking.Request Booking.Op
    (fun op => Except Exception op.Ret) Booking.Choice
    (Except Exception Booking.Reply × Booking.Memory) Booking.World where
  first := service
  second := Booking.service
  admits d v := v.outbox.any fun e => messageOf e = some d

abbrev JointEvent :=
  PairEvent Delivery Op (Option Exception) World Booking.Request Booking.Op Booking.Choice
    Booking.World

abbrev JointMove := PairMove Delivery (Option Exception) Booking.Request Booking.Choice

abbrev JointPools :=
  Pools Op (fun op => Except Exception op.Ret) (Except Exception Unit × Unit) World Booking.Op
    (fun op => Except Exception op.Ret) (Except Exception Booking.Reply × Booking.Memory)
    Booking.World

def start (w₀ : World) (now : Nat) : JointPools :=
  ⟨Pool.init w₀, Pool.init (Booking.World.init now)⟩

/-! ## The effects of the events -/

/-- What an event of the outbox has done to a count. -/
def effect (w : World) (flightId : Int) (field : SeatField) (e : OutboxEvent) : Int :=
  if (w.processed e.eventId).isSome then
    match messageOf e with
    | some d => gain d flightId field
    | none => 0
  else 0

/-- Only events of the outbox were processed, those that reserve or release seats for a class that is
mapped, and each count is its initial value and the effects of the events. -/
structure Accounted (w₀ w : World) (v : Booking.World) : Prop where
  sent : ∀ eventId, (w.processed eventId).isSome → ∃ e ∈ v.outbox, e.eventId = eventId
  mapped : ∀ e ∈ v.outbox, (w.processed e.eventId).isSome → ∀ d, messageOf e = some d →
    d.kind ≠ .confirm → (getSeatField d.msg.seatClass).isSome
  balance : ∀ f₀ ∈ w₀.flights, ∃ f, w.flight f₀.id = some f ∧ ∀ field,
    f.available field = f₀.available field + (v.outbox.map (effect w f₀.id field)).sum

variable {w₀ w w' : World} {v v' : Booking.World} {d : Delivery} {e : OutboxEvent}

theorem accounted_init {now : Nat} (hkeyed : w₀.Keyed) (hempty : w₀.processedEvents = []) :
    Accounted w₀ w₀ (Booking.World.init now) where
  sent eventId h := by
    rw [World.processed, hempty] at h
    cases h
  mapped e he := absurd he List.not_mem_nil
  balance f₀ hf₀ := by
    refine ⟨f₀, Table.find_of_mem hkeyed.flights hf₀, fun field => ?_⟩
    simp [Booking.World.init]

/-- A transaction that commits is the effect of one event, which had none before. -/
theorem effect_applied (hunique : (v.outbox.map OutboxEvent.eventId).Nodup) (he : e ∈ v.outbox)
    (hd : messageOf e = some d) (happlied : Applied d w w') (flightId : Int) (field : SeatField) :
    ∀ e' ∈ v.outbox, effect w' flightId field e' =
      effect w flightId field e' + if e' = e then gain d flightId field else 0 := by
  intro e' he'
  have hid : d.msg.eventId = e.eventId := messageOf_eventId hd
  have hprocessed := happlied.processed e'.eventId
  by_cases heq : e' = e
  · subst heq
    have hnone : (w.processed e'.eventId).isSome = false := by
      rw [← hid, happlied.unprocessed]
      rfl
    simp [effect, hprocessed, hnone, hid, hd]
  · have hne : d.msg.eventId ≠ e'.eventId := fun hsame =>
      heq (List.inj_on_of_nodup_map hunique he' he (hsame.symm.trans hid))
    simp [effect, hprocessed, hne, heq]

theorem sum_effect_applied (hunique : (v.outbox.map OutboxEvent.eventId).Nodup) (he : e ∈ v.outbox)
    (hd : messageOf e = some d) (happlied : Applied d w w') (flightId : Int) (field : SeatField) :
    (v.outbox.map (effect w' flightId field)).sum =
      (v.outbox.map (effect w flightId field)).sum + gain d flightId field := by
  have hcount : v.outbox.count e = 1 := List.count_eq_one_of_mem (List.Nodup.of_map _ hunique) he
  rw [List.map_congr_left (effect_applied hunique he hd happlied flightId field), List.sum_map_add,
    List.sum_map_ite_eq, hcount]
  simp

theorem Applied.mapped (h : Applied d w w') (hkind : d.kind ≠ .confirm) :
    (getSeatField d.msg.seatClass).isSome := by
  obtain ⟨kind, msg⟩ := d
  have hflights : Applies msg w kind w'.flights := h.flights
  generalize w'.flights = flights at hflights
  cases hflights with
  | confirm => exact absurd rfl hkind
  | release hfield => exact Option.isSome_of_eq_some hfield
  | reserve hfield => exact Option.isSome_of_eq_some hfield

theorem Accounted.applied (h : Accounted w₀ w v)
    (hunique : (v.outbox.map OutboxEvent.eventId).Nodup) (he : e ∈ v.outbox)
    (hd : messageOf e = some d) (happlied : Applied d w w') : Accounted w₀ w' v where
  sent eventId hprocessed := by
    rw [happlied.processed, Bool.or_eq_true, decide_eq_true_eq] at hprocessed
    rcases hprocessed with hold | hnew
    · exact h.sent eventId hold
    · exact ⟨e, he, (messageOf_eventId hd).symm.trans hnew⟩
  mapped e' he' hprocessed d' hd' hkind := by
    rw [happlied.processed, Bool.or_eq_true, decide_eq_true_eq] at hprocessed
    rcases hprocessed with hold | hnew
    · exact h.mapped e' he' hold d' hd' hkind
    · have hsame : e = e' :=
        List.inj_on_of_nodup_map hunique he he' ((messageOf_eventId hd).symm.trans hnew)
      rw [← hsame, hd, Option.some.injEq] at hd'
      subst hd'
      exact happlied.mapped hkind
  balance f₀ hf₀ := by
    obtain ⟨f, hf, havailable⟩ := h.balance f₀ hf₀
    obtain ⟨f', hf', hgain⟩ := happlied.flight hf
    refine ⟨f', hf', fun field => ?_⟩
    rw [hgain, havailable, sum_effect_applied hunique he hd happlied]
    exact Int.add_assoc ..

/-- An event that is new to the outbox was not processed. -/
theorem Accounted.grows (h : Accounted w₀ w v) {news : List OutboxEvent}
    (hunique : (v'.outbox.map OutboxEvent.eventId).Nodup) (hv : v'.outbox = v.outbox ++ news) :
    Accounted w₀ w v' := by
  rw [hv, List.map_append, List.nodup_append] at hunique
  have hnone : ∀ e ∈ news, ¬(w.processed e.eventId).isSome := by
    intro e he hprocessed
    obtain ⟨e', he', hid⟩ := h.sent e.eventId hprocessed
    exact hunique.2.2 _ (List.mem_map_of_mem he') _ (List.mem_map_of_mem he) hid
  refine ⟨fun eventId hprocessed => ?_, fun e he hprocessed => ?_, fun f₀ hf₀ => ?_⟩
  · obtain ⟨e, he, hid⟩ := h.sent eventId hprocessed
    exact ⟨e, hv ▸ List.mem_append_left news he, hid⟩
  · rcases List.mem_append.mp (hv ▸ he) with hold | hnew
    · exact h.mapped e hold hprocessed
    · exact absurd hprocessed (hnone e hnew)
  · obtain ⟨f, hf, havailable⟩ := h.balance f₀ hf₀
    refine ⟨f, hf, fun field => ?_⟩
    have hzero : ∀ e ∈ news, effect w f₀.id field e = 0 := fun e he => if_neg (hnone e he)
    rw [havailable, hv, List.map_append, List.sum_append, List.map_congr_left hzero]
    simp

/-! ## Runs -/

section Runs

variable {now : Nat} {ms : List JointMove} {es : List JointEvent} {P : JointPools}

/-- A message of an event of the outbox. -/
def Sent (d : Delivery) (v : Booking.World) : Prop := ∃ e ∈ v.outbox, messageOf e = some d

theorem outbox_move {m : Move Booking.Request Booking.Choice} {Q Q' : Booking.ServicePool}
    {e : Booking.Event} (h : Booking.service.move m Q = some (e, Q')) :
    ∃ news, Q'.state.outbox = Q.state.outbox ++ news := by
  rcases System.move_cases h with ⟨request, -, -, rfl⟩ |
    ⟨i, c, op, next, r, v, -, -, hperform, -, rfl⟩
  · exact ⟨[], (List.append_nil _).symm⟩
  · rcases Booking.perform_tables hperform with ⟨-, -, houtbox, -⟩ | ⟨s, -, -, rfl⟩ |
      ⟨tx, id, writes, -, -, -, rfl⟩
    · exact ⟨[], houtbox.trans (List.append_nil _).symm⟩
    · exact ⟨[], (List.append_nil _).symm⟩
    · exact ⟨_, Booking.applyAll_outbox writes Q.state⟩

theorem sent_of_admits {d : Delivery} {v : Booking.World} (h : pipeline.admits d v = true) :
    Sent d v := by
  obtain ⟨e, he, hd⟩ := List.any_eq_true.mp h
  exact ⟨e, he, of_decide_eq_true hd⟩

theorem accounted_of_run (hkeyed : w₀.Keyed) (hempty : w₀.processedEvents = [])
    (hrun : pipeline.run ms (start w₀ now) = some (es, P)) :
    Accounted w₀ P.first.state P.second.state := by
  have hstarted : ∀ (d : Delivery) (v : Booking.World), pipeline.admits d v = true →
      (service.program d).Emits (Op.Sent (· = d)) (fun _ _ => True) ∧ Sent d v :=
    fun _ _ hadmits => ⟨delivery_emits rfl, sent_of_admits hadmits⟩
  refine Pair.run_joint hstarted ?_ ?_ hrun ⟨[], [], rfl⟩ (fun _ hp => absurd hp List.not_mem_nil)
    (accounted_init hkeyed hempty)
  · intro d w i fails op r w' ms₂ es₂ Q hrun₂ hop hsent hperform hinv
    refine ⟨trivial, ?_⟩
    have hlawful : Lawful (· = d) (.performed w i fails op w') :=
      lawful_performed hop (Option.some.inj hperform)
    rcases hlawful with ⟨-, hsame⟩ | ⟨d', -, rfl, happlied⟩
    · have hsame : w' = w := hsame
      rw [hsame]
      exact hinv
    · obtain ⟨e, he, hd⟩ := hsent
      exact hinv.applied (Booking.emitted_run hrun₂).unique he hd happlied
  · intro ms₂ es₂ Q m e Q' hrun₂ hrun₂' hmove
    obtain ⟨news, hnews⟩ := outbox_move hmove
    refine ⟨fun d hd => ?_, fun w hinv => hinv.grows (Booking.emitted_run hrun₂').unique hnews⟩
    obtain ⟨e, he, hmessage⟩ := hd
    exact ⟨e, hnews ▸ List.mem_append_left news he, hmessage⟩

/-- In every run the seats of a flight are those that it began with and the effects of the events
of the outbox that were processed. -/
theorem seats_accounted (hkeyed : w₀.Keyed) (hempty : w₀.processedEvents = [])
    (hrun : pipeline.run ms (start w₀ now) = some (es, P)) :
    Accounted w₀ P.first.state P.second.state :=
  accounted_of_run hkeyed hempty hrun

/-- A booking whose seat is reserved, and the event of its reservation, delivered twice. -/
def deliveredTwice : List JointMove :=
  Booking.reserved.map .inr ++
    [.inl (.start ⟨.reserve, seatEvent "a17" 7 1⟩), .inl (.start ⟨.reserve, seatEvent "a17" 7 1⟩),
      .inl (.run 0 none), .inl (.run 1 none), .inl (.run 0 none), .inl (.run 1 none)]

/-- The seat of the run is taken once. -/
def takesOnce (result : List JointEvent × JointPools) : Bool :=
  result.2.first.state.flight 7 = some ⟨7, 1, 0, 0, 0⟩ && result.2.first.idle

theorem seats_accounted_twice :
    ∃ es P, pipeline.run deliveredTwice (start oneFlight 0) = some (es, P) ∧
      takesOnce (es, P) = true ∧ Accounted oneFlight P.first.state P.second.state := by
  have hrun : (pipeline.run deliveredTwice (start oneFlight 0)).any takesOnce = true := by
    decide +kernel
  obtain ⟨es, P, hrun, htaken⟩ := Pair.exists_run hrun
  exact ⟨es, P, hrun, htaken, seats_accounted ⟨by decide, by decide⟩ rfl hrun⟩

/-! ## No more than was asked for -/

def seatFields : List SeatField :=
  [.economySeatsAvailable, .businessSeatsAvailable, .firstClassSeatsAvailable,
    .premiumEconomySeatsAvailable]

/-- The seats of a flight, of whatever class, that are no longer available. -/
def taken (f₀ f : Flight) : Int :=
  (seatFields.map fun field => f₀.available field - f.available field).sum

/-- The seats that the bookings of a flight ask for. -/
def asked (flightId : Int) (bookings : List Booking.Booking) : Int :=
  ((bookings.filter fun b => b.flightId = flightId).map Booking.Booking.noOfSeats).sum

/-- The seats of the flight that an event reserves. -/
def demand (flightId : Int) (e : OutboxEvent) : Int :=
  match e.body with
  | .reserveSeats p => if p.flightId = flightId then p.seatCount else 0
  | _ => 0

/-- No event is about a negative number of seats. -/
def Counted (v : Booking.World) : Prop :=
  ∀ e ∈ v.outbox, ∀ p, e.body.seatsPayload = some p → 0 ≤ p.seatCount

/-- What the message of an event adds to the seats of its flight. -/
def Delivery.seats (d : Delivery) : Int :=
  match d.kind with
  | .reserve => -d.msg.seatCount
  | .confirm => 0
  | .release => d.msg.seatCount

theorem sum_gain (d : Delivery) (flightId : Int) : (seatFields.map (gain d flightId)).sum =
    if d.msg.flightId = flightId ∧ (getSeatField d.msg.seatClass).isSome then d.seats else 0 := by
  by_cases hid : d.msg.flightId = flightId
  · cases hfield : getSeatField d.msg.seatClass with
    | none => simp [gain, hfield, seatFields]
    | some field =>
        have hgain : ∀ field', gain d flightId field' = if field' = field then d.seats else 0 := by
          intro field'
          cases hkind : d.kind <;> simp [gain, hid, hfield, hkind, Delivery.seats, eq_comm]
        cases field <;> simp [hgain, hid, seatFields]
  · simp [gain, hid, seatFields]

theorem sum_effect (w : World) (flightId : Int) (e : OutboxEvent) :
    (seatFields.map fun field => effect w flightId field e).sum =
      if (w.processed e.eventId).isSome then
        match messageOf e with
        | some d => (seatFields.map (gain d flightId)).sum
        | none => 0
      else 0 := by
  by_cases hprocessed : (w.processed e.eventId).isSome
  · cases hd : messageOf e <;> simp [effect, hprocessed, hd, seatFields]
  · simp [effect, hprocessed, seatFields]

/-- An event takes no more seats than it reserves. -/
theorem effect_demand (hcount : ∀ p, e.body.seatsPayload = some p → 0 ≤ p.seatCount)
    (w : World) (flightId : Int) :
    0 ≤ (seatFields.map fun field => effect w flightId field e).sum + demand flightId e := by
  rw [sum_effect]
  cases hbody : e.body with
  | reserveSeats p =>
      have hp : 0 ≤ p.seatCount := hcount p (by rw [hbody]; rfl)
      simp only [messageOf, hbody, demand, sum_gain, seatMessage, Delivery.seats]
      by_cases hflight : p.flightId = flightId
      · simp only [hflight, true_and, if_true]
        split
        · split <;> simp [hp]
        · omega
      · simp [hflight]
  | releaseSeats p =>
      have hp : 0 ≤ p.seatCount := hcount p (by rw [hbody]; rfl)
      simp only [messageOf, hbody, demand, sum_gain, seatMessage, Delivery.seats]
      split
      · split <;> omega
      · omega
  | confirmSeats p => simp [messageOf, hbody, demand, sum_gain, Delivery.seats]
  | bookingCreated id userId => simp [messageOf, hbody, demand]
  | bookingConfirmed id userId => simp [messageOf, hbody, demand]

theorem taken_effects (h : Accounted w₀ w v) {f₀ f : Flight} (hf₀ : f₀ ∈ w₀.flights)
    (hf : w.flight f₀.id = some f) : taken f₀ f +
      (v.outbox.map fun e => (seatFields.map fun field => effect w f₀.id field e).sum).sum = 0 := by
  obtain ⟨f', hf', hbalance⟩ := h.balance f₀ hf₀
  rw [hf, Option.some.injEq] at hf'
  subst hf'
  simp only [taken, seatFields, hbalance, List.map_cons, List.map_nil, List.sum_cons, List.sum_nil,
    List.sum_map_add, List.map_const', List.sum_replicate]
  simp
  omega

theorem taken_le_demand (h : Accounted w₀ w v) (hcounted : Counted v) {f₀ f : Flight}
    (hf₀ : f₀ ∈ w₀.flights) (hf : w.flight f₀.id = some f) :
    taken f₀ f ≤ (v.outbox.map (demand f₀.id)).sum := by
  have htaken := taken_effects h hf₀ hf
  have hsum : 0 ≤ (v.outbox.map fun e =>
      (seatFields.map fun field => effect w f₀.id field e).sum + demand f₀.id e).sum := by
    refine List.sum_nonneg fun x hx => ?_
    obtain ⟨e, he, rfl⟩ := List.mem_map.mp hx
    exact effect_demand (hcounted e he) w f₀.id
  rw [List.sum_map_add] at hsum
  omega

theorem demand_pos {flightId : Int} (h : 0 < demand flightId e) :
    ∃ p, e.body = .reserveSeats p ∧ p.flightId = flightId ∧ demand flightId e = p.seatCount := by
  unfold demand at h ⊢
  split at h
  · rename_i p hp
    by_cases hflight : p.flightId = flightId
    · exact ⟨p, hp, hflight, if_pos hflight⟩
    · rw [if_neg hflight] at h
      exact absurd h (Int.lt_irrefl 0)
  · exact absurd h (Int.lt_irrefl 0)

/-- The bookings of a run ask for all the seats that its events reserve. -/
theorem demand_le_asked {ms₂ : List (Move Booking.Request Booking.Choice)}
    {es₂ : List Booking.Event} {Q : Booking.ServicePool}
    (hrun : Booking.service.run ms₂ (Pool.init (Booking.World.init now)) = some (es₂, Q))
    (hrows : ∀ b ∈ Q.state.bookings, 0 ≤ b.noOfSeats) (flightId : Int) :
    (Q.state.outbox.map (demand flightId)).sum ≤ asked flightId Q.state.bookings := by
  have hnodup := Booking.nodup_aggregates (Booking.emitted_run hrun).once
  rw [List.Nodup, List.pairwise_map, List.pairwise_filter] at hnodup
  have hapart : Q.state.outbox.Pairwise fun e e' => 0 < demand flightId e →
      0 < demand flightId e' → e.aggregateId ≠ e'.aggregateId := by
    refine hnodup.imp fun {e e'} hne h h' => ?_
    obtain ⟨p, hp, -⟩ := demand_pos h
    obtain ⟨p', hp', -⟩ := demand_pos h'
    exact hne (by rw [hp]; rfl) (by rw [hp']; rfl)
  have hmatched : ∀ e ∈ Q.state.outbox, 0 < demand flightId e →
      ∃ b ∈ Q.state.bookings.filter (fun b => b.flightId = flightId),
        b.bookingReference = e.aggregateId ∧ demand flightId e ≤ b.noOfSeats := by
    intro e he hpositive
    obtain ⟨p, hp, hflight, hdemand⟩ := demand_pos hpositive
    obtain ⟨b, hb, hflight', hcount⟩ := Booking.reserve_row hrun he hp
    obtain ⟨hmem, href⟩ := Table.mem_of_find hb
    refine ⟨b, List.mem_filter.mpr ⟨hmem, ?_⟩, href, ?_⟩
    · exact decide_eq_true (hflight'.symm.trans hflight)
    · rw [hdemand, hcount]
  exact Table.sum_le_of_matched hapart hmatched fun b hb => hrows b (List.mem_filter.mp hb).1

/-- A booking is not asked for with a negative number of seats. -/
def CountsSeats : Booking.Event → Prop
  | .started _ _ (.executeBookingSaga dto _) => 0 ≤ Booking.seatCount dto
  | _ => True

instance : DecidablePred CountsSeats
  | .started _ _ (.executeBookingSaga _ _) => inferInstanceAs (Decidable (_ ≤ _))
  | .started _ _ (.completeBooking _ _) => .isTrue trivial
  | .started _ _ (.cancelBooking _ _) => .isTrue trivial
  | .started _ _ .cleanupExpiredBookings => .isTrue trivial
  | .started _ _ (.wait _) => .isTrue trivial
  | .performed _ _ _ _ _ => .isTrue trivial

/-- In every run in which no booking is asked for with a negative number of seats, no more seats of
a flight are taken than its bookings ask for. -/
theorem taken_le_asked (hkeyed : w₀.Keyed) (hempty : w₀.processedEvents = [])
    (hrun : pipeline.run ms (start w₀ now) = some (es, P))
    (hcounts : ∀ e ∈ es, ∀ e' ∈ e.second?, CountsSeats e') :
    ∀ f₀ ∈ w₀.flights, ∃ f, P.first.state.flight f₀.id = some f ∧
      taken f₀ f ≤ asked f₀.id P.second.state.bookings := by
  intro f₀ hf₀
  have haccounted := accounted_of_run hkeyed hempty hrun
  have hrun₂ := Pair.run_second hrun
  have hrecorded := Booking.recorded_run hrun₂
  have hpayload : ∀ p ∈ P.second.state.payloads, 0 ≤ Booking.seatCount p.2 := by
    intro p hp
    obtain ⟨v, i, key, hmem⟩ := hrecorded.requested p hp
    obtain ⟨e, he, hsecond⟩ := List.mem_filterMap.mp hmem
    exact hcounts e he _ hsecond
  have hcounted : Counted P.second.state := by
    intro e he p hp
    obtain ⟨dto, hdto, -, -, hcount⟩ := hrecorded.tables.events e he p hp
    rw [hcount]
    exact hpayload _ hdto
  have hrows : ∀ b ∈ P.second.state.bookings, 0 ≤ b.noOfSeats := by
    intro b hb
    obtain ⟨dto, hdto, -, -, hcount⟩ := hrecorded.tables.rows b hb
    rw [hcount]
    exact hpayload _ hdto
  obtain ⟨f, hf, -⟩ := haccounted.balance f₀ hf₀
  exact ⟨f, hf, Int.le_trans (taken_le_demand haccounted hcounted hf₀ hf)
    (demand_le_asked hrun₂ hrows f₀.id)⟩

theorem taken_le_asked_twice :
    ∃ es P, pipeline.run deliveredTwice (start oneFlight 0) = some (es, P) ∧
      takesOnce (es, P) = true ∧ ∀ f₀ ∈ oneFlight.flights, ∃ f,
        P.first.state.flight f₀.id = some f ∧ taken f₀ f ≤ asked f₀.id P.second.state.bookings := by
  have hrun : (pipeline.run deliveredTwice (start oneFlight 0)).any (fun result =>
      takesOnce result && result.1.all fun e => e.second?.all fun e' => CountsSeats e') = true := by
    decide +kernel
  obtain ⟨es, P, hrun, hresult⟩ := Pair.exists_run hrun
  obtain ⟨htaken, hcounts⟩ := Bool.and_eq_true_iff.mp hresult
  refine ⟨es, P, hrun, htaken,
    taken_le_asked ⟨by decide, by decide⟩ rfl hrun fun e he e' he' => ?_⟩
  have hall := List.all_eq_true.mp hcounts e he
  rw [he', Option.all_some] at hall
  exact of_decide_eq_true hall

end Runs

end FlightBookings.Inventory
