import FlightBookings.Booking.Transactions

/-! # Double bookings

A seat of a flight is double booked when two bookings that are pending or
booked name it. The repository has a check for it that the saga does not make;
the runs without a double booking are exactly those in which this check would
have passed whenever a transaction makes a booking active.
-/

namespace FlightBookings.Booking

open Await

def Booking.active (b : Booking) : Bool := b.status = .booked || b.status = .pending

/-- The query of `areSeatsAvailable`, which nothing calls. -/
def areSeatsAvailable (rows : List Booking) (flightId : Int) (seatNumbers : List String) : Bool :=
  (rows.filter fun b => b.flightId = flightId && b.seatNumbers.any (· ∈ seatNumbers) &&
    b.active).length = 0

def NoDoubleBooking (rows : List Booking) : Prop :=
  ∀ b ∈ rows, ∀ c ∈ rows, b.bookingReference ≠ c.bookingReference → b.flightId = c.flightId →
    b.active = true → c.active = true → ∀ seat ∈ b.seatNumbers, seat ∉ c.seatNumbers

def Safe (w : World) : Prop := NoDoubleBooking w.bookings

/-- The transactions that make a booking pending or booked. -/
def Tx.activates : Tx → Bool
  | .reserveFlightSeats => true
  | .completeBooking => true
  | _ => false

/-- A booking that a transaction makes active takes seats that the repository reports free. -/
def TakesFreeSeats : Event → Prop
  | .performed w _ choice (.commit tx id _) _ =>
      choice.fails = none → tx.activates = true → ∀ b ∈ w.bookings, b.bookingReference = id →
        b.active = false → areSeatsAvailable w.bookings b.flightId b.seatNumbers = true
  | _ => True

instance : DecidablePred TakesFreeSeats
  | .performed w _ choice (.commit tx id _) _ =>
      inferInstanceAs (Decidable (choice.fails = none → tx.activates = true →
        ∀ b ∈ w.bookings, b.bookingReference = id → b.active = false →
          areSeatsAvailable w.bookings b.flightId b.seatNumbers = true))
  | .performed _ _ _ (.redis _) _ => isTrue trivial
  | .performed _ _ _ .uuid _ => isTrue trivial
  | .performed _ _ _ (.findSagaByKey _) _ => isTrue trivial
  | .performed _ _ _ (.findSaga _) _ => isTrue trivial
  | .performed _ _ _ (.findBooking _) _ => isTrue trivial
  | .performed _ _ _ (.findExpiredBookings _) _ => isTrue trivial
  | .performed _ _ _ (.insertSaga _) _ => isTrue trivial
  | .performed _ _ _ (.begin _) _ => isTrue trivial
  | .performed _ _ _ (.sql _ _) _ => isTrue trivial
  | .started _ _ _ => isTrue trivial

theorem areSeatsAvailable_iff {rows : List Booking} {flightId : Int} {seatNumbers : List String} :
    areSeatsAvailable rows flightId seatNumbers = true ↔
      ∀ c ∈ rows, c.flightId = flightId → c.active = true →
        ∀ seat ∈ seatNumbers, seat ∉ c.seatNumbers := by
  simp only [areSeatsAvailable, decide_eq_true_eq, List.length_eq_zero_iff,
    List.filter_eq_nil_iff, Bool.and_eq_true, List.any_eq_true, not_and]
  constructor
  · intro h c hc hflight hactive seat hseat hmem
    exact h c hc ⟨hflight, seat, hmem, by simpa using hseat⟩ hactive
  · intro h c hc hboth hactive
    obtain ⟨hflight, seat, hmem, hseat⟩ := hboth
    exact h c hc hflight hactive seat (by simpa using hseat) hmem

/-! ## What the transactions do to the bookings -/

variable {rows : List Booking} {id : String}

theorem noDoubleBooking_insert {b : Booking} (h : NoDoubleBooking rows) (hb : b.active = false) :
    NoDoubleBooking (rows ++ [b]) := by
  have hold : ∀ c ∈ rows ++ [b], c.active = true → c ∈ rows := by
    intro c hc hactive
    rcases List.mem_append.mp hc with hc | hc
    · exact hc
    · rw [List.mem_singleton.mp hc, hb] at hactive
      cases hactive
  intro c hc d hd hne hflight hcactive hdactive
  exact h c (hold c hc hcactive) d (hold d hd hdactive) hne hflight hcactive hdactive

/-- A change that makes no row active creates no double booking. -/
theorem noDoubleBooking_modify {change : BookingChange} (h : NoDoubleBooking rows)
    (hchange : ∀ b ∈ rows, b.bookingReference = id → (change.apply b).active = true →
      b.active = true) :
    NoDoubleBooking (Table.modify Booking.bookingReference id change.apply rows) := by
  have hold : ∀ c ∈ Table.modify Booking.bookingReference id change.apply rows,
      c.active = true → ∃ c' ∈ rows, c'.active = true ∧ c'.bookingReference = c.bookingReference ∧
        c'.flightId = c.flightId ∧ c'.seatNumbers = c.seatNumbers := by
    intro c hc hactive
    obtain ⟨c', hc', hcase⟩ := Table.mem_modify.mp hc
    rcases hcase with ⟨hkey, rfl⟩ | ⟨-, rfl⟩
    · exact ⟨c', hc', hchange c' hc' hkey hactive, by simp⟩
    · exact ⟨c, hc', hactive, rfl, rfl, rfl⟩
  intro c hc d hd hne hflight hcactive hdactive seat hseat
  obtain ⟨c', hc', hcactive', hcref, hcflight, hcseats⟩ := hold c hc hcactive
  obtain ⟨d', hd', hdactive', hdref, hdflight, hdseats⟩ := hold d hd hdactive
  rw [← hcref, ← hdref] at hne
  rw [← hcflight, ← hdflight] at hflight
  rw [← hcseats] at hseat
  rw [← hdseats]
  exact h c' hc' d' hd' hne hflight hcactive' hdactive' seat hseat

/-- A change that makes its row active is safe exactly when the seats of that row are free. -/
theorem noDoubleBooking_activate {change : BookingChange}
    (hrows : (rows.map Booking.bookingReference).Nodup) (h : NoDoubleBooking rows)
    (hchange : ∀ b, (change.apply b).active = true) :
    NoDoubleBooking (Table.modify Booking.bookingReference id change.apply rows) ↔
      ∀ b ∈ rows, b.bookingReference = id → b.active = false →
        areSeatsAvailable rows b.flightId b.seatNumbers = true := by
  constructor
  · intro hafter b hb hid hinactive
    rw [areSeatsAvailable_iff]
    intro c hc hflight hactive seat hseat hmem
    have hne : c.bookingReference ≠ id := by
      intro hcid
      have hcb : c = b := List.inj_on_of_nodup_map hrows hc hb (hcid.trans hid.symm)
      rw [hcb, hinactive] at hactive
      cases hactive
    have hb' : change.apply b ∈ Table.modify Booking.bookingReference id change.apply rows :=
      Table.mem_modify.mpr ⟨b, hb, .inl ⟨hid, rfl⟩⟩
    have hc' : c ∈ Table.modify Booking.bookingReference id change.apply rows :=
      Table.mem_modify.mpr ⟨c, hc, .inr ⟨hne, rfl⟩⟩
    exact hafter _ hb' c hc' (by simp [hid, Ne.symm hne]) (by simp [hflight]) (hchange b) hactive
      seat (by simpa using hseat) hmem
  · intro hfree
    -- the changed row against any other active row
    have hone : ∀ b ∈ rows, b.bookingReference = id → ∀ c ∈ rows, c.bookingReference ≠ id →
        c.flightId = b.flightId → c.active = true → ∀ seat ∈ b.seatNumbers,
        seat ∉ c.seatNumbers := by
      intro b hb hid c hc hne hflight hactive
      cases hbactive : b.active with
      | true => exact h b hb c hc (by rw [hid]; exact Ne.symm hne) hflight.symm hbactive hactive
      | false =>
          exact areSeatsAvailable_iff.mp (hfree b hb hid hbactive) c hc hflight hactive
    intro c hc d hd hne hflight hcactive hdactive seat hseat hmem
    obtain ⟨c', hc', hccase⟩ := Table.mem_modify.mp hc
    obtain ⟨d', hd', hdcase⟩ := Table.mem_modify.mp hd
    rcases hccase with ⟨hcid, rfl⟩ | ⟨hcid, rfl⟩
    · rcases hdcase with ⟨hdid, rfl⟩ | ⟨hdid, rfl⟩
      · exact hne (by simp [hcid, hdid])
      · simp only [BookingChange.apply_flightId, BookingChange.apply_seatNumbers] at hflight hseat
        exact hone c' hc' hcid d hd' hdid hflight.symm hdactive seat hseat hmem
    · rcases hdcase with ⟨hdid, rfl⟩ | ⟨hdid, rfl⟩
      · simp only [BookingChange.apply_flightId, BookingChange.apply_seatNumbers] at hflight hmem
        exact hone d' hd' hdid c hc' hcid hflight hcactive seat hmem hseat
      · exact h c hc' d hd' hne hflight hcactive hdactive seat hseat hmem

/-! ## Runs -/

def UniqueReferences (w : World) : Prop := (w.bookings.map Booking.bookingReference).Nodup

/-- A commit leaves a safe table safe exactly when it takes free seats. -/
def Exact (e : Event) : Prop := Safe e.before → (Safe e.after ↔ TakesFreeSeats e)

theorem shape_unique {tx : Tx} {writes : List Write} {w : World} (h : Shape tx id writes)
    (hw : UniqueReferences w) (hunique : writes.all (Write.unique w) = true) :
    UniqueReferences (applyAll writes w) := by
  have hmodify : ∀ change : BookingChange,
      ((Table.modify Booking.bookingReference id change.apply w.bookings).map
        Booking.bookingReference).Nodup := by
    intro change
    rw [Table.map_key_modify (by simp)]
    exact hw
  cases h with
  | createBooking s now eventId hstatus =>
      have hfree : (w.booking s.bookingId).isNone = true := by
        simp only [List.all_cons, Write.unique, Bool.and_eq_true] at hunique
        exact hunique.1
      exact Table.nodup_insert hw (Option.isNone_iff_eq_none.mp hfree)
  | lockSeats s hstatus => exact hw
  | reserveFlightSeats s eventId hstatus => exact hmodify .pending
  | completeBooking s confirmId confirmedId paymentTransactionId now hstatus =>
      exact hmodify (.booked paymentTransactionId now)
  | compensate s releaseId reason now hstatus hrelease =>
      cases releaseId <;> exact hmodify (.cancelled reason now)

theorem shape_exact {tx : Tx} {writes : List Write} {w : World} {i : Nat} {choice : Choice}
    (h : Shape tx id writes) (hw : UniqueReferences w) (hfails : choice.fails = none) :
    Exact (.performed w i choice (.commit tx id writes) (applyAll writes w)) := by
  intro hbefore
  have hskip : ∀ (hactivates : tx.activates = false),
      TakesFreeSeats (.performed w i choice (.commit tx id writes) (applyAll writes w)) := by
    intro hactivates _ hactivates'
    rw [hactivates] at hactivates'
    cases hactivates'
  cases h with
  | createBooking s now eventId hstatus =>
      have hinactive : (newBooking s now).active = false := rfl
      exact iff_of_true (noDoubleBooking_insert hbefore hinactive) (hskip rfl)
  | lockSeats s hstatus => exact iff_of_true hbefore (hskip rfl)
  | reserveFlightSeats s eventId hstatus =>
      have hactivate : NoDoubleBooking (Table.modify Booking.bookingReference s.bookingId
          BookingChange.pending.apply w.bookings) ↔ _ :=
        noDoubleBooking_activate hw hbefore fun b => rfl
      exact hactivate.trans ⟨fun h _ _ => h, fun h => h hfails rfl⟩
  | completeBooking s confirmId confirmedId paymentTransactionId now hstatus =>
      have hactivate : NoDoubleBooking (Table.modify Booking.bookingReference s.bookingId
          (BookingChange.booked paymentTransactionId now).apply w.bookings) ↔ _ :=
        noDoubleBooking_activate hw hbefore fun b => rfl
      exact hactivate.trans ⟨fun h _ _ => h, fun h => h hfails rfl⟩
  | compensate s releaseId reason now hstatus hrelease =>
      have hcancelled : ∀ b ∈ w.bookings, b.bookingReference = s.bookingId →
          ((BookingChange.cancelled reason now).apply b).active = true → b.active = true := by
        intro b _ _ hactive
        cases hactive
      have hafter := noDoubleBooking_modify hbefore hcancelled
      refine iff_of_true ?_ (hskip rfl)
      cases releaseId <;> exact hafter

/-- Only an insertion can violate the unique index. -/
theorem shape_activates {tx : Tx} {writes : List Write} {w : World} (h : Shape tx id writes)
    (htx : tx.activates = true) : writes.all (Write.unique w) = true := by
  cases h with
  | reserveFlightSeats s eventId hstatus => rfl
  | completeBooking s confirmId confirmedId paymentTransactionId now hstatus => rfl
  | createBooking s now eventId hstatus => cases htx
  | lockSeats s hstatus => cases htx
  | compensate s releaseId reason now hstatus hrelease => cases htx

theorem perform_exact {w w' : World} {i : Nat} {choice : Choice} {op : Op}
    {r : Except Exception op.Ret} (hshaped : op.Shaped) (hw : UniqueReferences w)
    (h : performWith choice op w = some (r, w')) :
    UniqueReferences w' ∧ Exact (.performed w i choice op w') := by
  rcases perform_tables h with ⟨-, hbookings, -, hcommit⟩ | ⟨s, rfl, -, rfl⟩ |
    ⟨tx, id, writes, rfl, hfails, hunique, rfl⟩
  · refine ⟨by rw [UniqueReferences, hbookings]; exact hw, ?_⟩
    intro hbefore
    refine iff_of_true (by rw [Event.after, Safe, hbookings]; exact hbefore) ?_
    cases op with
    | commit tx id writes =>
        intro hfails htx
        have hunique := hcommit tx id writes rfl hfails
        rw [shape_activates hshaped htx] at hunique
        cases hunique
    | _ => trivial
  · exact ⟨hw, fun hbefore => iff_of_true hbefore trivial⟩
  · exact ⟨shape_unique hshaped hw hunique, shape_exact hshaped hw hfails⟩

/-- A run of the booking service, from empty tables, has no double booking in any of its states
exactly when every transaction that makes a booking active takes free seats. -/
theorem no_double_booking_iff {now : Nat} {ms : List (Move Request Choice)} {es : List Event}
    {P : ServicePool}
    (hrun : service.run ms (Pool.init (World.init now)) = some (es, P)) :
    (∀ e ∈ es, Safe e.after) ↔ ∀ e ∈ es, TakesFreeSeats e := by
  have hstarted : ∀ (w : World) (i : Nat) (request : Request), UniqueReferences w → True →
      (service.program request).Emits Op.Shaped Op.Replies ∧ Exact (.started w i request) := by
    intro w i request _ _
    exact ⟨(request_shaped request).program, fun hbefore => iff_of_true hbefore trivial⟩
  have hperform : ∀ (w : World) (i : Nat) (choice : Choice) (op : Op)
      (r : Except Exception op.Ret) (w' : World), op.Shaped → UniqueReferences w →
      service.perform i choice op w = some (r, w') → True →
      op.Replies r ∧ UniqueReferences w' ∧ Exact (.performed w i choice op w') := by
    intro w i choice op r w' hshaped hw h _
    exact ⟨perform_replies h, perform_exact hshaped hw h⟩
  have hinit : UniqueReferences (World.init now) := List.nodup_nil
  have hexact := (System.run_ops hstarted hperform hrun (fun _ _ => trivial) hinit
    (by simp [Pool.init])).2
  have hsafe : Safe (World.init now) := by
    intro b hb
    cases hb
  have hevents : ∀ e ∈ es, Safe e.before →
      (TakesFreeSeats e → Safe e.after ∧ Safe e.after) ∧ (Safe e.after → TakesFreeSeats e) := by
    intro e he hbefore
    have hiff := hexact e he hbefore
    exact ⟨fun h => ⟨hiff.mpr h, hiff.mpr h⟩, hiff.mp⟩
  exact System.run_iff hrun hevents hsafe

/-- Two bookings ask for a seat, and the second one finds it locked. -/
theorem no_double_booking_locked :
    ∃ es P, service.run
        (reserved ++ .start (.executeBookingSaga onlySeat none) :: succeeds 1 "b" 20)
        (Pool.init (World.init 0)) = some (es, P) ∧ ∀ e ∈ es, Safe e.after := by
  have hrun : (service.run
      (reserved ++ .start (.executeBookingSaga onlySeat none) :: succeeds 1 "b" 20)
      (Pool.init (World.init 0))).any (fun result =>
        result.2.idle && result.1.all fun e => TakesFreeSeats e) = true := by decide +kernel
  obtain ⟨es, P, hrun, hfree⟩ := System.exists_run hrun
  refine ⟨es, P, hrun, (no_double_booking_iff hrun).mpr ?_⟩
  simpa using (Bool.and_eq_true_iff.mp hfree).2

/-- A booking that is completed, which releases its lock, and then another booking of its
seat. -/
def rebooked : List (Move Request Choice) :=
  reserved ++ .start (.completeBooking "a1" "tx") :: succeeds 1 "c" 15 ++
    .start (.executeBookingSaga onlySeat none) :: succeeds 2 "b" 23

theorem rebooked_not_safe :
    ¬∀ now ms es P, service.run ms (Pool.init (World.init now)) = some (es, P) →
      Safe P.state := by
  intro h
  have hrun : (service.run rebooked (Pool.init (World.init 0))).any (fun result =>
      match result.2.state.bookings with
      | [a, b] => a.bookingReference ≠ b.bookingReference && a.flightId = b.flightId &&
          a.active && b.active && "1A" ∈ a.seatNumbers && "1A" ∈ b.seatNumbers
      | _ => false) = true := by decide +kernel
  obtain ⟨es, P, hrun, hrows⟩ := System.exists_run hrun
  have hsafe := h 0 rebooked es P hrun
  split at hrows
  · rename_i a b hbookings
    have hbookings : P.state.bookings = [a, b] := hbookings
    simp only [Bool.and_eq_true, decide_eq_true_eq] at hrows
    obtain ⟨⟨⟨⟨⟨hne, hflight⟩, ha⟩, hb⟩, hseata⟩, hseatb⟩ := hrows
    have hmema : a ∈ P.state.bookings := by simp [hbookings]
    have hmemb : b ∈ P.state.bookings := by simp [hbookings]
    exact hsafe a hmema b hmemb hne hflight ha hb "1A" hseata hseatb
  · cases hrows

end FlightBookings.Booking
