import FlightBookings.Booking.Consistency
import FlightBookings.Booking.Emissions

/-! # What a booking holds

A transaction of the saga saves a row that its call read or saved before, and
nothing makes sure that the row is still the stored one. As long as it is, and
a booking is completed after its seats were reserved, the events of a booking,
its saga and its row agree on whether the booking holds seats.
-/

namespace FlightBookings.Booking

open Await

def SagaStatus.holds : SagaStatus → Bool
  | .flightReserved => true
  | .bookingConfirmed => true
  | _ => false

/-- Whether a transaction goes on from the status. -/
def Tx.follows : Tx → SagaStatus → Bool
  | .createBooking, status => status = .initiated
  | .lockSeats, status => status = .initiated
  | .reserveFlightSeats, status => status = .seatsLocked
  | .completeBooking, status => status = .flightReserved
  | .compensate, status => status ≠ .compensated

/-- A transaction that commits goes on from the saga row as it is stored, and a compensation saves
the step of this row. -/
def UpToDate : Event → Prop
  | .performed w _ choice (.commit tx id writes) _ => choice.fails = none →
      ∃ s ∈ w.saga id, tx.follows s.status = true ∧
        (tx = .compensate → ∀ s' ∈ writes.filterMap Write.saved, s'.currentStep = s.currentStep)
  | _ => True

instance : DecidablePred UpToDate := by
  intro e
  unfold UpToDate
  split <;> infer_instance

/-- What the events of a booking, its saga and its row say of the seats that it holds. -/
structure Occupancy (id : String) (w : World) : Prop where
  unknown : w.saga id = none → reserves w id = 0 ∧ releases w id = 0 ∧ w.booking id = none
  counts : ∀ s, w.saga id = some s →
    reserves w id = releases w id + if s.status.holds then 1 else 0
  step : ∀ s, w.saga id = some s → s.status ≠ .compensated → (3 ≤ s.currentStep ↔ s.status.holds)
  row : ∀ s b, w.saga id = some s → w.booking id = some b → b.active = s.status.holds

variable {id id' : String} {w w' : World} {tx : Tx} {writes : List Write}

theorem occupancy_init (now : Nat) : Occupancy id (World.init now) where
  unknown _ := ⟨rfl, rfl, rfl⟩
  counts _ hs := by cases hs
  step _ hs := by cases hs
  row _ _ hs := by cases hs

theorem Occupancy.of_rows (h : Occupancy id w) (hsaga : w'.saga id = w.saga id)
    (hbooking : w'.booking id = w.booking id) (hreserves : reserves w' id = reserves w id)
    (hreleases : releases w' id = releases w id) : Occupancy id w' := by
  refine ⟨?_, ?_, ?_, ?_⟩
  · rw [hsaga, hbooking, hreserves, hreleases]
    exact h.unknown
  · rw [hsaga, hreserves, hreleases]
    exact h.counts
  · rw [hsaga]
    exact h.step
  · rw [hsaga, hbooking]
    exact h.row

theorem Occupancy.of_tables (h : Occupancy id w) (htables : SameTables w w') : Occupancy id w' :=
  h.of_rows (htables.saga id) (by rw [World.booking, htables.bookings])
    (by rw [reserves, htables.outbox, reserves]) (by rw [releases, htables.outbox, releases])

theorem Occupancy.insertSaga (h : Occupancy id w) {s : SagaState} (hstatus : s.status = .initiated)
    (hstep : s.currentStep = 0) : Occupancy id { w with sagas := w.sagas ++ [s] } := by
  cases hold : w.saga id with
  | some old =>
      have hfound : Table.find SagaState.bookingId id w.sagas = some old := hold
      refine h.of_rows (Table.find_insert.trans ?_) rfl rfl rfl
      rw [hfound, Option.some_or]
      exact hold.symm
  | none =>
      obtain ⟨hreserves, hreleases, hbooking⟩ := h.unknown hold
      have hfound : Table.find SagaState.bookingId id w.sagas = none := hold
      have hfind : ∀ s', World.saga { w with sagas := w.sagas ++ [s] } id = some s' → s' = s := by
        intro s' hs'
        rw [World.saga, Table.find_insert, hfound, Option.none_or] at hs'
        split at hs'
        · exact (Option.some.inj hs').symm
        · cases hs'
      refine ⟨fun _ => ⟨hreserves, hreleases, hbooking⟩, fun s' hs' => ?_, fun s' hs' _ => ?_,
        fun s' b hs' hb => ?_⟩
      · rw [hfind s' hs', hstatus]
        exact hreserves.trans hreleases.symm
      · rw [hfind s' hs', hstatus, hstep]
        simp [SagaStatus.holds]
      · exact absurd (hb.symm.trans hbooking) (Option.some_ne_none b)

/-- The booking of a transaction, whose saga row is known afterwards. -/
theorem Occupancy.of_saga {s : SagaState} (hsaga : w.saga id = some s)
    (hevents : reserves w id = releases w id + if s.status.holds then 1 else 0)
    (hstep : s.status ≠ .compensated → (3 ≤ s.currentStep ↔ s.status.holds))
    (hrow : ∀ b, w.booking id = some b → b.active = s.status.holds) : Occupancy id w := by
  have heq : ∀ s', w.saga id = some s' → s' = s := by
    intro s' hs'
    rw [hsaga, Option.some.injEq] at hs'
    exact hs'.symm
  refine ⟨fun hnone => ?_, fun s' hs' => ?_, fun s' hs' => ?_, fun s' b hs' => ?_⟩
  · rw [hsaga] at hnone
    cases hnone
  · rw [heq s' hs']
    exact hevents
  · rw [heq s' hs']
    exact hstep
  · rw [heq s' hs']
    exact hrow b

theorem Occupancy.commit_of_ne (h : Occupancy id w) (hshape : Shape tx id' writes) (hne : id ≠ id') :
    Occupancy id (applyAll writes w) :=
  h.of_rows (shape_saga_of_ne hshape hne w) (shape_booking_of_ne hshape hne w)
    (shape_outbox_of_ne hshape hne w EventBody.isReserve)
    (shape_outbox_of_ne hshape hne w EventBody.isRelease)

theorem reserves_applyAll (writes : List Write) (w : World) (id : String) :
    reserves (applyAll writes w) id = reserves w id +
      (events writes).countP fun e => e.aggregateId = id && e.body.isReserve := by
  rw [reserves, applyAll_outbox, List.countP_append, reserves]

/-- What the transactions leave of the booking that they are about. -/
theorem Occupancy.commit_self (h : Occupancy id w) (hshape : Shape tx id writes)
    (hsteps : Stepped tx writes) (hunique : writes.all (Write.unique w) = true) {s₀ : SagaState}
    (hsaga : w.saga id = some s₀) (hfollows : tx.follows s₀.status = true)
    (hsame : tx = .compensate → ∀ s ∈ writes.filterMap Write.saved, s.currentStep = s₀.currentStep) :
    Occupancy id (applyAll writes w) := by
  have hreserves := reserves_applyAll writes w id
  have hreleases : releases (applyAll writes w) id = releases w id + _ :=
    releases_append (applyAll_outbox writes w)
  have hevents := h.counts s₀ hsaga
  cases hshape with
  | createBooking s now eventId hstatus =>
      have hinitiated : s₀.status = .initiated := of_decide_eq_true hfollows
      have hone : s.currentStep = 1 := hsteps s (by simp [Write.saved]) 1 rfl
      have hnone : Table.find Booking.bookingReference s.bookingId w.bookings = none := by
        simp only [List.all_cons, Write.unique, Bool.and_eq_true] at hunique
        exact Option.isNone_iff_eq_none.mp hunique.1
      refine .of_saga Table.find_upsert_self ?_ (fun _ => ?_) fun b hb => ?_
      · rw [hreserves, hreleases, hstatus, ← hinitiated, hevents]
        simp [events, Write.event, List.filterMap_cons, EventBody.isReserve, EventBody.isRelease]
      · rw [hone, hstatus]
        simp [SagaStatus.holds]
      · have hb : Table.find Booking.bookingReference s.bookingId (w.bookings ++ [newBooking s now]) =
            some b := hb
        have hkey : (newBooking s now).bookingReference = s.bookingId := rfl
        rw [Table.find_insert, hnone, Option.none_or, if_pos hkey, Option.some.injEq] at hb
        rw [← hb, hstatus]
        rfl
  | lockSeats s hstatus =>
      have hinitiated : s₀.status = .initiated := of_decide_eq_true hfollows
      have htwo : s.currentStep = 2 := hsteps s (by simp [Write.saved]) 2 rfl
      refine .of_saga Table.find_upsert_self ?_ (fun _ => ?_) fun b hb => ?_
      · rw [hreserves, hreleases, hevents, hinitiated, hstatus]
        simp [events, Write.event, List.filterMap_cons, SagaStatus.holds]
      · rw [htwo, hstatus]
        simp [SagaStatus.holds]
      · rw [h.row s₀ b hsaga hb, hinitiated, hstatus]
        rfl
  | reserveFlightSeats s eventId hstatus =>
      have hlocked : s₀.status = .seatsLocked := of_decide_eq_true hfollows
      have hthree : s.currentStep = 3 := hsteps s (by simp [Write.saved]) 3 rfl
      refine .of_saga Table.find_upsert_self ?_ (fun _ => ?_) fun b hb => ?_
      · rw [hreserves, hreleases, hevents, hlocked, hstatus]
        simp [events, Write.event, List.filterMap_cons, EventBody.isReserve, EventBody.isRelease,
          SagaStatus.holds]
      · rw [hthree, hstatus]
        simp [SagaStatus.holds]
      · obtain ⟨old, -, rfl⟩ := booking_modify hb
        rw [hstatus]
        rfl
  | completeBooking s confirmId confirmedId paymentTransactionId now hstatus =>
      have hreserved : s₀.status = .flightReserved := of_decide_eq_true hfollows
      have hsix : s.currentStep = 6 := hsteps s (by simp [Write.saved]) 6 rfl
      refine .of_saga Table.find_upsert_self ?_ (fun _ => ?_) fun b hb => ?_
      · rw [hreserves, hreleases, hevents, hreserved, hstatus]
        simp [events, Write.event, List.filterMap_cons, EventBody.isReserve, EventBody.isRelease,
          SagaStatus.holds]
      · rw [hsix, hstatus]
        simp [SagaStatus.holds]
      · obtain ⟨old, -, rfl⟩ := booking_modify hb
        rw [hstatus]
        rfl
  | compensate s releaseId reason now hstatus hrelease =>
      have hopen : s₀.status ≠ .compensated := of_decide_eq_true hfollows
      have hstep : s.currentStep = s₀.currentStep :=
        hsame rfl s (by cases releaseId <;> simp [Write.saved])
      have hholds : releaseId.isSome = s₀.status.holds := by
        rw [Bool.eq_iff_iff, hrelease, hstep]
        exact h.step s₀ hsaga hopen
      have hsaved : (applyAll (.saveSaga { s with status := .compensating } ::
          (releaseId.toList.map fun eventId =>
            .insertEvent ⟨eventId, s.bookingId, .releaseSeats (seatsPayload s)⟩) ++
          [.updateBooking s.bookingId (.cancelled reason now), .saveSaga s]) w).saga s.bookingId =
            some s := by
        cases releaseId <;> exact Table.find_upsert_self
      refine .of_saga hsaved ?_ (fun hne => absurd hstatus hne) fun b hb => ?_
      · rw [hreserves, hreleases, hevents, ← hholds, hstatus]
        cases releaseId <;>
          simp [events, Write.event, List.filterMap_cons, EventBody.isReserve, EventBody.isRelease,
          SagaStatus.holds]
      · have hb : Table.find Booking.bookingReference s.bookingId
            (Table.modify Booking.bookingReference s.bookingId
              (BookingChange.cancelled reason now).apply w.bookings) = some b := by
          cases releaseId <;> exact hb
        obtain ⟨old, -, rfl⟩ := booking_modify hb
        rw [hstatus]
        rfl

theorem Occupancy.perform {i : Nat} {choice : Choice} {op : Op} {r : Except Exception op.Ret}
    {k : Emitter} (h : ∀ id, Occupancy id w) (hop : k.Permits op)
    (hperform : performWith choice op w = some (r, w'))
    (hallows : UpToDate (.performed w i choice op w')) : ∀ id, Occupancy id w' := by
  intro id
  rcases perform_tables hperform with ⟨hsagas, hbookings, houtbox, -⟩ | ⟨s, rfl, -, rfl⟩ |
    ⟨tx, id', writes, rfl, hfails, hunique, rfl⟩
  · exact (h id).of_tables ⟨hsagas, hbookings, houtbox⟩
  · exact (h id).insertSaga hop.2.1 hop.2.2
  · by_cases hid : id = id'
    · subst hid
      obtain ⟨s₀, hsaga, hfollows, hsame⟩ := hallows hfails
      exact (h id).commit_self hop.1 hop.2.2.2.2 hunique hsaga hfollows hsame
    · exact (h id).commit_of_ne hop.1 hid

/-! ## Runs -/

variable {now : Nat} {ms : List (Move Request Choice)} {es : List Event} {P : ServicePool}

theorem occupancy_run (hrun : service.run ms (Pool.init (World.init now)) = some (es, P))
    (hcurrent : ∀ e ∈ es, UpToDate e) : ∀ id, Occupancy id P.state := by
  have htracks : service.Tracks (fun _ w => ∀ id, Occupancy id w) (fun _ => Emitter.blank)
      (fun _ op k => Emitter.Permits k op) (fun _ => Op.Replies) Emitter.advance
      (fun _ _ _ => True) ([] ++ es) P ∧ ∀ e ∈ es, True := by
    refine System.run_tracked ?_ ?_ hrun hcurrent (System.tracks_init fun _ => occupancy_init now)
    · intro past w i request _ hinv _
      exact ⟨request_emits request, hinv, trivial⟩
    · intro past w i choice op r w' k hk hpermits hinv hperform hallows
      exact ⟨perform_replies hperform, Occupancy.perform hinv hpermits hperform hallows, trivial⟩
  exact htracks.1.inv

/-- In a run whose transactions go on from the stored sagas, a booking holds the seats of one
reservation that was not released exactly if its row is pending or booked. -/
theorem holds_row (hrun : service.run ms (Pool.init (World.init now)) = some (es, P))
    (hcurrent : ∀ e ∈ es, UpToDate e) {id : String} {b : Booking} (hb : P.state.booking id = some b) :
    reserves P.state id = releases P.state id + if b.active then 1 else 0 := by
  have hoccupancy := occupancy_run hrun hcurrent id
  obtain ⟨s, hs⟩ := ((consistent_run hrun).rows id).saga b hb
  rw [hoccupancy.row s b hs hb]
  exact hoccupancy.counts s hs

end FlightBookings.Booking
