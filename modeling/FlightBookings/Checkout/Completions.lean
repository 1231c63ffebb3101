import FlightBookings.Booking.Consistency
import FlightBookings.Checkout.Service

/-! # Who completes a booking

A booking is booked by the transaction of a completion only, and that one is
committed for the booking and the payment that a client or a message has named.
With the payment service, no booking is completed when it is created.
-/

namespace FlightBookings.Checkout

open Await
open Booking (Memory World)

/-- The booking that a request asks to complete, and the transaction of the payment. -/
def Request.completion : Request → Option (String × String)
  | .completeBooking bookingId _ paymentTransactionId => some (bookingId, paymentTransactionId)
  | .handlePaymentCompleted msg => some (trim msg.bookingReference, transactionIdOf msg)
  | _ => none

/-- The booking that an operation completes, and the transaction of the payment. -/
def Op.completion : Op → Option (String × String)
  | .saga op => op.completion
  | .send _ => none

/-! ## What a request commits -/

/-- An operation of the saga that completes only what was asked for. -/
def Asked (asked : Option (String × String)) (op : Booking.Op) : Prop :=
  op.Shaped ∧ ∀ r, op.completion = some r → asked = some r

def Op.Serves (asked : Option (String × String)) : Op → Prop
  | .saga op => Asked asked op
  | .send _ => True

def Op.Replies : (op : Op) → Except Exception op.Ret → Prop
  | .saga op, r => op.Replies r
  | .send _, _ => True

section Calls

variable {α : Type} {asked : Option (String × String)} {m : Memory} {id : String}

abbrev Keeps (asked : Option (String × String)) (c : Call α) (m : Memory) : Prop :=
  c.Emits (Op.Serves asked) Op.Replies m (fun _ _ => True) fun _ => True

theorem asked_of_incomplete {op : Booking.Op} (hshaped : op.Shaped) (hop : op.completion = none) :
    Asked asked op := by
  refine ⟨hshaped, fun r hr => ?_⟩
  rw [hop] at hr
  cases hr

theorem respectedApart_asked : Booking.RespectedApart (Asked asked) where
  within id op hop := by
    cases op with
    | insertSaga s => cases hop
    | commit tx id writes => cases hop
    | _ => exact asked_of_incomplete trivial rfl
  insertSaga _ hstatus hstep := asked_of_incomplete ⟨hstatus, hstep⟩ rfl
  lockSeats s hstatus _ := asked_of_incomplete (.lockSeats s hstatus) rfl
  commit tx id writes _ hcomplete hshape := by
    refine asked_of_incomplete hshape ?_
    cases tx with
    | completeBooking => exact absurd rfl hcomplete
    | _ => rfl

theorem saga_keeps {c : Booking.Call α} (h : Booking.Keeps (Asked asked) c m) :
    Keeps asked (saga c) m :=
  Call.Emits.liftWith (f := Op.saga) (g := fun _ r => r) h fun _ _ h => h

theorem saga_completeBooking_keeps {paymentTransactionId : String}
    (hasked : asked = some (id, paymentTransactionId)) :
    Keeps asked (saga (Booking.completeBooking id paymentTransactionId)) m := by
  refine saga_keeps (Booking.completeBooking_keeps respectedApart_asked fun m hid => ?_)
  subst hid
  refine (Booking.completeBody_completes paymentTransactionId).mono (fun _ m' h => ?_) fun _ h => h
  refine ⟨h.1, h.2.1, fun r hr => ?_⟩
  rw [hasked, ← h.2.2, hr]

theorem saga_cancelBooking_keeps (reason : String) :
    Keeps asked (saga (Booking.cancelBooking id reason)) m :=
  saga_keeps (Booking.cancelBooking_keeps respectedApart_asked id reason)

theorem await_keeps {op : Op} (hop : op.Serves asked) : Keeps asked (Call.await op) m :=
  .await hop trivial fun _ _ => trivial

theorem tryCatch_keeps {c : Call α} {handler : Exception → Call α} (h : Keeps asked c m)
    (hhandler : ∀ e m, Keeps asked (handler e) m) : Keeps asked (tryCatch c handler) m :=
  .tryCatch h fun e m _ => hhandler e m

theorem findByReference_keeps : Keeps asked (findByReference id) m :=
  await_keeps (asked_of_incomplete trivial rfl)

/-- The payment service always asks for a payment. -/
theorem createPaymentIntentForBooking_keeps {booking : Booking.Booking} {userId : Int} :
    (createPaymentIntentForBooking .paymentService booking userId).Emits (Op.Serves asked) Op.Replies m
      (fun response _ => response.paymentRequired = true) fun _ => True :=
  .bind (.await trivial trivial fun _ _ => .pure rfl)

theorem prepareBookingForPayment_keeps (booking : Option Booking.Booking) (userId : Int) :
    Keeps asked (prepareBookingForPayment .paymentService booking userId) m := by
  cases booking with
  | none => exact .throw trivial
  | some booking =>
      refine tryCatch_keeps (.andThen createPaymentIntentForBooking_keeps (fun _ h => h)
        fun response m hrequired => ?_) fun e m => ?_
      · rw [if_pos hrequired]
        exact .pure trivial
      · have hrollback : Keeps asked
            (rollbackBookingAfterPaymentFailure booking.bookingReference e.message) m :=
          tryCatch_keeps (.seq (saga_cancelBooking_keeps _) fun _ _ _ => .pure trivial)
            fun _ _ => .pure trivial
        exact .seq hrollback fun _ _ _ => .throw trivial

theorem createBooking_keeps (dto : Booking.CreateBookingDto) (userId : Int) :
    Keeps asked (createBooking .paymentService dto userId) m := by
  refine tryCatch_keeps (.seq (saga_keeps
    (Booking.executeBookingSaga_keeps respectedApart_asked _ _)) fun booking m _ => ?_)
    fun _ _ => .throw trivial
  refine .seq (prepareBookingForPayment_keeps booking userId) fun prepared m _ => ?_
  obtain ⟨finalBooking, paymentIntent⟩ := prepared
  cases finalBooking with
  | none => exact .throw trivial
  | some booking => exact .pure trivial

theorem findOwn_keeps (bookingId : String) (userId : Int) :
    Keeps asked (findOwn bookingId userId) m := by
  refine .seq findByReference_keeps fun booking m _ => ?_
  cases booking with
  | none => exact .throw trivial
  | some booking =>
      dsimp only
      split
      · exact .throw trivial
      · exact .pure trivial

theorem completeBookingFromPaymentEvent_keeps {paymentTransactionId : String}
    (hasked : asked = some (id, paymentTransactionId)) :
    Keeps asked (completeBookingFromPaymentEvent id paymentTransactionId) m := by
  unfold completeBookingFromPaymentEvent
  split
  · exact .throw trivial
  · refine .seq findByReference_keeps fun booking m _ => ?_
    cases booking with
    | none => exact .throw trivial
    | some booking =>
        refine .seq (saga_completeBooking_keeps hasked) fun completed m _ => ?_
        cases completed with
        | none => exact .throw trivial
        | some completed => exact .pure trivial

theorem cancelBooking_keeps (bookingId : String) (userId : Int) (reason : Option String) :
    Keeps asked (cancelBooking bookingId userId reason) m := by
  refine tryCatch_keeps (.seq (findOwn_keeps bookingId userId) fun _ m _ => ?_)
    fun _ _ => .throw trivial
  refine .seq (saga_cancelBooking_keeps _) fun cancelled m _ => ?_
  cases cancelled with
  | none => exact .throw trivial
  | some cancelled => exact .pure trivial

/-- With the payment service, a request completes at most the booking that it asks to complete. -/
theorem request_keeps (request : Request) :
    Keeps request.completion (request.call .paymentService) m := by
  cases request with
  | createBooking dto userId =>
      exact .seq (createBooking_keeps dto userId) fun _ _ _ => .pure trivial
  | completeBooking bookingId userId paymentTransactionId =>
      have hfind : Keeps (some (bookingId, paymentTransactionId))
          (tryCatch (findOwn bookingId userId) fun error =>
            throw (Exception.badRequest error.message)) m :=
        tryCatch_keeps (findOwn_keeps bookingId userId) fun _ _ => .throw trivial
      refine .seq (.seq hfind fun _ m _ => ?_) fun _ _ _ => .pure trivial
      exact completeBookingFromPaymentEvent_keeps rfl
  | cancelBooking bookingId userId reason =>
      exact .seq (cancelBooking_keeps bookingId userId reason) fun _ _ _ => .pure trivial
  | handlePaymentCompleted msg =>
      refine .seq ?_ fun _ _ _ => .pure trivial
      change Keeps _ (if trim msg.bookingReference = "" then pure () else do
        let _ ← completeBookingFromPaymentEvent (trim msg.bookingReference) (transactionIdOf msg)
        pure ()) m
      split
      · exact .pure trivial
      · exact .seq (completeBookingFromPaymentEvent_keeps rfl) fun _ _ _ => .pure trivial
  | cleanupExpiredBookings =>
      exact .seq (saga_keeps (Booking.cleanupExpiredBookings_keeps respectedApart_asked))
        fun _ _ _ => .pure trivial
  | wait ms => exact .seq (await_keeps (asked_of_incomplete trivial rfl)) fun _ _ _ => .pure trivial

end Calls

/-! ## What a completion changes -/

/-- The booking becomes booked, or paid. -/
def Reaches (w w' : World) (id : String) (b : Booking.Booking) : Prop :=
  w'.booking id = some b ∧
    ((b.status = .booked ∧ ∀ old, w.booking id = some old → old.status ≠ .booked) ∨
      (b.paymentStatus = .completed ∧
        ∀ old, w.booking id = some old → old.paymentStatus ≠ .completed))

section Rows

variable {w w' : World} {id id' : String} {b : Booking.Booking} {tx : Booking.Tx}
variable {writes : List Booking.Write}

theorem not_reaches_of_same (h : w'.booking id = w.booking id) : ¬Reaches w w' id b := by
  intro hreaches
  obtain ⟨hrow, hcase⟩ := hreaches
  rw [h] at hrow
  rcases hcase with ⟨hstatus, hnew⟩ | ⟨hpaid, hnew⟩
  · exact hnew b hrow hstatus
  · exact hnew b hrow hpaid

/-- A change of a row that books nothing. -/
theorem not_reaches_of_modify {change : Booking.BookingChange}
    (hrow : w'.booking id =
      Table.find Booking.Booking.bookingReference id
        (Table.modify Booking.Booking.bookingReference id change.apply w.bookings))
    (hchange : ∀ old, (change.apply old).status ≠ .booked ∧
      (change.apply old).paymentStatus = old.paymentStatus) : ¬Reaches w w' id b := by
  intro hreaches
  obtain ⟨hfound, hcase⟩ := hreaches
  obtain ⟨old, hold, rfl⟩ := Booking.booking_modify (hrow ▸ hfound)
  rcases hcase with ⟨hstatus, -⟩ | ⟨hpaid, hnew⟩
  · exact (hchange old).1 hstatus
  · exact hnew old hold ((hchange old).2 ▸ hpaid)

theorem not_reaches_of_insert {new : Booking.Booking}
    (hrow : w'.booking id = Table.find Booking.Booking.bookingReference id (w.bookings ++ [new]))
    (hstatus : new.status ≠ .booked) (hpaid : new.paymentStatus ≠ .completed) :
    ¬Reaches w w' id b := by
  intro hreaches
  have hfound := hrow.symm.trans hreaches.1
  rw [Table.find_insert] at hfound
  rcases Option.or_eq_some_iff.mp hfound with hold | ⟨-, hnew⟩
  · exact not_reaches_of_same (hreaches.1.trans hold.symm) hreaches
  · split at hnew
    · cases hnew
      exact hreaches.2.elim (fun h => hstatus h.1) fun h => hpaid h.1
    · cases hnew

/-- The transaction that books a row is that of a completion, and leaves its cost. -/
theorem reaches_of_shape (h : Booking.Shape tx id writes)
    (hreaches : Reaches w (Booking.applyAll writes w) id' b) :
    (∃ paymentTransactionId,
      (Booking.Op.commit tx id writes).completion = some (id', paymentTransactionId)) ∧
      ∃ old, w.booking id' = some old ∧ b.totalCost = old.totalCost := by
  have hid : id' = id := by
    by_contra hne
    exact not_reaches_of_same (Booking.shape_booking_of_ne h hne w) hreaches
  subst hid
  cases h with
  | createBooking s now eventId hstatus =>
      exact absurd hreaches (not_reaches_of_insert rfl nofun nofun)
  | lockSeats s hstatus => exact absurd hreaches (not_reaches_of_same rfl)
  | reserveFlightSeats s eventId hstatus =>
      exact absurd hreaches (not_reaches_of_modify rfl fun old => ⟨nofun, rfl⟩)
  | completeBooking s confirmId confirmedId paymentTransactionId now hstatus =>
      obtain ⟨old, hold, rfl⟩ := Booking.booking_modify hreaches.1
      exact ⟨⟨paymentTransactionId, rfl⟩, old, hold, rfl⟩
  | compensate s releaseId reason now hstatus hrelease =>
      refine absurd hreaches ?_
      cases releaseId <;> exact not_reaches_of_modify rfl fun old => ⟨nofun, rfl⟩

theorem reaches_of_perform {choice : Choice} {op : Op} {r : Except Exception op.Ret}
    {asked : Option (String × String)} (hserves : op.Serves asked)
    (h : performWith choice op w = some (r, w')) (hreaches : Reaches w w' id b) :
    choice.saga.fails = none ∧
      (∃ paymentTransactionId, op.completion = some (id, paymentTransactionId)) ∧
      ∃ old, w.booking id = some old ∧ b.totalCost = old.totalCost := by
  cases op with
  | send request =>
      have hsame : w' = w := by
        simp only [performWith] at h
        split at h <;> (cases h; rfl)
      exact absurd hreaches (not_reaches_of_same (by rw [hsame]))
  | saga op =>
      rcases Booking.perform_tables h with ⟨-, hbookings, -⟩ | ⟨s, -, -, rfl⟩ |
        ⟨tx, id', writes, rfl, hok, -, rfl⟩
      · exact absurd hreaches (not_reaches_of_same (by rw [World.booking, hbookings]))
      · exact absurd hreaches (not_reaches_of_same rfl)
      · exact ⟨hok, reaches_of_shape hserves.1 hreaches⟩

end Rows

end FlightBookings.Checkout
