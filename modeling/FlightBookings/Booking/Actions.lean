import FlightBookings.Booking.Agreement

/-! # The booking that a call changes

A completion and a cancellation commit transactions of the booking that they are
asked for, and no others; the steps of a saga those of its own booking.
-/

namespace FlightBookings.Booking

open Await

/-- Whatever row of the booking is looked up, so much is known of it. -/
def Op.Shows (id : String) (known : Booking → Prop) : (op : Op) → Except Exception op.Ret → Prop
  | .findBooking ref, r => ref = id → ∀ b : Booking, r = .ok (some b) → known b
  | op, r => op.Replies r

/-- An operation that commits transactions of the booking only, and of these kinds. -/
def Op.For (id : String) (txs : List Tx) : Op → Prop
  | .commit tx id' writes => id' = id ∧ tx ∈ txs ∧ Shape tx id writes
  | .insertSaga _ => False
  | _ => True

section Calls

variable {α : Type} {m : Memory} {id id' : String} {txs : List Tx} {tx : Tx} {op : Op}
variable {known : Booking → Prop}

theorem Op.Shows.replies {r : Except Exception op.Ret} (h : op.Shows id known r) : op.Replies r := by
  cases op with
  | findBooking ref => trivial
  | _ => exact h

abbrev Acts (id : String) (txs : List Tx) (known : Booking → Prop) (c : Call α) (m : Memory)
    (Q : α → Memory → Prop) (E : Memory → Prop) : Prop :=
  c.Emits (Op.For id txs) (Op.Shows id known) m Q E

theorem within_for (hop : op.Within id') : op.For id txs := by
  cases op with
  | insertSaga s => exact hop
  | commit tx id writes => exact hop.elim
  | _ => trivial

theorem Local.acts {c : Call α} {Q : α → Memory → Prop} (h : Local id c m Q) :
    Acts id txs known c m Q fun m => m.saga.bookingId = id :=
  h.of_good (fun _ => within_for) fun _ _ => Op.Shows.replies

/-- A part of a call that goes on with the booking, whether it returns or throws. -/
abbrev Stays (id : String) (txs : List Tx) (known : Booking → Prop) (c : Call α) (m : Memory) : Prop :=
  Acts id txs known c m (fun _ m => m.saga.bookingId = id) fun m => m.saga.bookingId = id

theorem transaction_stays {body : Call Unit} (h : Writes tx id body m) (htx : tx ∈ txs)
    (hid : m.saga.bookingId = id) : Stays id txs known (transaction tx body) m := by
  refine .bind (.await trivial hid fun _ _ => .bind (.remember ?_))
  refine .andThen h.acts (fun _ h => h) fun _ m' hm => .bind (.memory ?_)
  obtain ⟨rfl, hshape⟩ := hm
  exact .await ⟨rfl, htx, hshape⟩ rfl fun _ _ => rfl

theorem compensate_stays (message : String) (htxs : .compensate ∈ txs)
    (hid : m.saga.bookingId = id) : Stays id txs known (compensate message) m := by
  refine .bind (.memory ?_)
  split
  · exact .pure hid
  · subst hid
    exact .tryCatch (transaction_stays (compensateBody_writes message) htxs rfl)
      fun _ _ hm => .pure hm

theorem compensating_acts {body : Call Unit} (htxs : .compensate ∈ txs) (h : Stays id txs known body m) :
    Acts id txs known (compensating body) m (fun _ m => m.saga.bookingId = id) fun _ => True :=
  .tryCatch h fun e _ hm =>
    .andThen (compensate_stays e.message htxs hm) (fun _ _ => trivial) fun _ _ _ => .throw trivial

theorem executeStep2_acts (hid : m.saga.bookingId = id) :
    Acts id [.lockSeats, .compensate] known executeStep2_LockSeats m
      (fun _ m => m.saga.bookingId = id) fun _ => True := by
  refine .bind (.memory ?_)
  split
  · exact .pure hid
  · subst hid
    refine compensating_acts (by simp)
      (.andThen (seatLock_local (SeatLock.lockSeats_sends _ _ _ _) rfl).acts (fun _ h => h)
        fun locked m' hm => ?_)
    subst hm
    split
    · exact transaction_stays (lockSeatsBody_writes locked.lockKey) (by simp) rfl
    · exact .throw rfl

theorem executeStep3_acts (hid : m.saga.bookingId = id) :
    Acts id [.reserveFlightSeats, .compensate] known executeStep3_ReserveFlightSeats m
      (fun _ m => m.saga.bookingId = id) fun _ => True := by
  refine .bind (.memory ?_)
  split
  · exact .pure hid
  · subst hid
    exact compensating_acts (by simp)
      (transaction_stays reserveFlightSeatsBody_writes (by simp) rfl)

/-- A call that ends with a look-up of the booking. -/
abbrev Finds (id : String) (txs : List Tx) (known : Booking → Prop) (c : Call (Option Booking))
    (m : Memory) : Prop :=
  Acts id txs known c m (fun found _ => ∀ b, found = some b → known b) fun _ => True

theorem findBooking_finds : Finds id txs known (Call.await (Op.findBooking id)) m :=
  .await trivial trivial fun _ hshows b hb => hshows rfl b (congrArg Except.ok hb)

theorem completeBooking_finds (id paymentTransactionId : String) :
    Finds id [.completeBooking] known (completeBooking id paymentTransactionId) m := by
  refine .bind (.await trivial trivial fun found hfound => ?_)
  cases found with
  | none => exact .throw trivial
  | some saga =>
      have hid : saga.bookingId = id := hfound saga rfl
      subst hid
      dsimp only
      split
      · exact findBooking_finds
      · refine .bind (.remember ?_)
        have hwrites := completeBody_writes (m := { m with saga := saga }) paymentTransactionId
        refine .andThen (transaction_stays hwrites (by simp) rfl)
          (fun _ _ => trivial) fun _ m' hid => ?_
        refine .andThen (seatLock_local (SeatLock.releaseSeats_sends _ _) hid).acts
          (fun _ _ => trivial) fun _ _ _ => findBooking_finds

theorem cancelBooking_finds (id reason : String) :
    Finds id [.compensate] known (cancelBooking id reason) m := by
  refine .bind (.await trivial trivial fun found hfound => ?_)
  cases found with
  | none => exact .throw trivial
  | some saga =>
      refine .bind (.remember (.andThen (compensate_stays reason (by simp) (hfound saga rfl))
        (fun _ _ => trivial) fun _ _ _ => findBooking_finds))

/-- The transaction that inserts a row inserts it for the user of the saga. -/
theorem createBookingBody_stores :
    Local m.saga.bookingId (createBookingBody m.saga) { m with writes := [] } fun _ m' =>
      m'.saga.bookingId = m.saga.bookingId ∧ Shape .createBooking m.saga.bookingId m'.writes ∧
        ∀ s, .saveSaga s ∈ m'.writes → s.payload = m.saga.payload := by
  have hpayload : ColumnKeeping SagaState.payload m.saga.payload (createBookingBody m.saga)
      { m with writes := [] } := createBookingBody_column payload_fixed ⟨rfl, by simp⟩
  have hboth := hpayload.and createBookingBody_writes fun _ _ _ => trivial
  exact (hboth.of_good (fun _ h => h.2) fun _ _ h => h).mono
    (fun _ _ h => ⟨h.2.1, h.2.2, h.1.2⟩) fun _ h => h.2

end Calls

/-! ## The row of the booking -/

/-- The status in which a transaction leaves the row of its booking, if it writes the row. -/
def Tx.outcome : Tx → Option BookingStatus
  | .createBooking => some .initiated
  | .lockSeats => none
  | .reserveFlightSeats => some .pending
  | .completeBooking => some .booked
  | .compensate => some .cancelled

section Rows

variable {w : World} {id : String} {tx : Tx} {writes : List Write} {b b' : Booking}

/-- A row that is there keeps its user, and takes the status of the transaction. -/
theorem shape_row (h : Shape tx id writes) (hinsert : tx ≠ .createBooking)
    (hb : w.booking id = some b) :
    ∃ b', (applyAll writes w).booking id = some b' ∧ b'.userId = b.userId ∧
      (b' = b ∨ tx.outcome = some b'.status) := by
  have hmodify : ∀ change : BookingChange,
      Table.find Booking.bookingReference id
        (Table.modify Booking.bookingReference id change.apply w.bookings) =
          some (change.apply b) := by
    intro change
    exact (Table.find_modify_self fun r hr => (change.apply_bookingReference r).trans hr).trans
      (congrArg (Option.map change.apply) hb)
  cases h with
  | createBooking s now eventId hstatus => exact absurd rfl hinsert
  | lockSeats s hstatus => exact ⟨b, hb, rfl, .inl rfl⟩
  | reserveFlightSeats s eventId hstatus => exact ⟨_, hmodify .pending, rfl, .inr rfl⟩
  | completeBooking s confirmId confirmedId paymentTransactionId now hstatus =>
      exact ⟨_, hmodify (.booked paymentTransactionId now), rfl, .inr rfl⟩
  | compensate s releaseId reason now hstatus hrelease =>
      refine ⟨BookingChange.apply (.cancelled reason now) b, ?_, rfl, .inr rfl⟩
      cases releaseId <;> exact hmodify (.cancelled reason now)

/-- A row that is not there yet is inserted for the user of the saga. -/
theorem shape_insert (h : Shape .createBooking id writes)
    (hunique : writes.all (Write.unique w) = true) {payload : CreateBookingDto}
    (hpayload : ∀ s, .saveSaga s ∈ writes → s.payload = payload) :
    w.booking id = none ∧ ∃ b, (applyAll writes w).booking id = some b ∧
      b.userId = payload.userId ∧ Tx.createBooking.outcome = some b.status := by
  cases h with
  | createBooking s now eventId hstatus =>
      have hfresh : Table.find Booking.bookingReference s.bookingId w.bookings = none := by
        simpa [Write.unique, newBooking] using hunique
      refine ⟨hfresh, newBooking s now, ?_, ?_, rfl⟩
      · exact Table.find_insert.trans (by rw [hfresh, Option.none_or]; exact if_pos rfl)
      · rw [← hpayload s (by simp)]
        rfl

theorem perform_shows {choice : Choice} {w' : World} {op : Op} {r : Except Exception op.Ret}
    {known : Booking → Prop} (hknown : ∀ b, w.booking id = some b → known b)
    (h : performWith choice op w = some (r, w')) : op.Shows id known r := by
  cases op with
  | findBooking ref =>
      rintro rfl b hb
      rcases performWith_cases h with ⟨e, -, hr, -⟩ | ⟨-, h⟩
      · rw [hr] at hb
        cases hb
      · cases h
        exact hknown b (Except.ok.inj hb)
  | _ => exact perform_replies h

theorem perform_committed {choice : Choice} {w' : World}
    (h : performWith choice (.commit tx id writes) w = some (.ok (), w')) :
    writes.all (Write.unique w) = true ∧ w' = applyAll writes w := by
  rcases performWith_cases h with ⟨e, -, hr, -⟩ | ⟨-, h⟩
  · cases hr
  · simp only [Op.perform] at h
    split at h
    · rename_i hunique
      cases h
      exact ⟨hunique, rfl⟩
    · cases h

end Rows

end FlightBookings.Booking
