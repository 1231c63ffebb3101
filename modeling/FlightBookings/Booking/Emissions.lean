import FlightBookings.Booking.Compensation
import FlightBookings.Booking.Agreement

/-! # The events of the outbox

A call draws an identifier for each event that it stores, and reserves the seats
of no booking but its own, once. No two events of the outbox therefore share an
identifier, and no booking has two events that reserve its seats, however the
calls interleave.
-/

namespace FlightBookings.Booking

open Await

def Write.event : Write → Option OutboxEvent
  | .insertEvent e => some e
  | _ => none

def events (writes : List Write) : List OutboxEvent := writes.filterMap Write.event

def eventIds (writes : List Write) : List String := (events writes).map OutboxEvent.eventId

/-- The step that a transaction gives to the saga it saves, if it moves it on. -/
def Tx.step : Tx → Option Nat
  | .createBooking => some 1
  | .lockSeats => some 2
  | .reserveFlightSeats => some 3
  | .completeBooking => some 6
  | .compensate => none

def Write.saved : Write → Option SagaState
  | .saveSaga s => some s
  | _ => none

def Stepped (tx : Tx) (writes : List Write) : Prop :=
  ∀ s ∈ writes.filterMap Write.saved, ∀ n ∈ tx.step, s.currentStep = n

/-- The identifiers that a call drew since it last committed, the newest one first, the booking
whose saga it inserted, whether the row of that booking is stored, and whether its seats may be
reserved already. -/
structure Emitter where
  drawn : List String
  own : Option String
  stored : Bool
  reserved : Bool

def Emitter.blank : Emitter := ⟨[], none, false, false⟩

def Emitter.advance : (op : Op) → Except Exception op.Ret → Emitter → Emitter
  | .uuid, .ok u, k => { k with drawn := u :: k.drawn }
  | .insertSaga s, .ok _, k => { k with own := some s.bookingId, stored := false, reserved := false }
  | .commit tx _ _, .ok _, k =>
      { k with
        drawn := []
        stored := k.stored || tx = .createBooking
        reserved := k.reserved || tx = .reserveFlightSeats }
  | .commit tx _ _, .error _, k =>
      { k with drawn := [], reserved := k.reserved || tx = .reserveFlightSeats }
  | _, _, k => k

/-- A call inserts the saga of an identifier that it drew, stores events under identifiers that it
drew, in their order, and reserves the seats of the booking of this saga, after its row was
stored, and once. -/
def Emitter.Permits (k : Emitter) : Op → Prop
  | .insertSaga s => s.bookingId ∈ k.drawn ∧ s.status = .initiated ∧ s.currentStep = 0
  | .commit tx id writes => Shape tx id writes ∧ (eventIds writes).reverse.Sublist k.drawn ∧
      (tx = .createBooking → k.own = some id) ∧
      (tx = .reserveFlightSeats → k.own = some id ∧ k.stored = true ∧ k.reserved = false) ∧
      Stepped tx writes
  | _ => True

/-! ## What a call emits -/

section Calls

variable {α : Type} {m : Memory} {k k₀ : Emitter} {tx : Tx} {id : String} {op : Op}

abbrev Emitting (c : Call α) (m : Memory) (k : Emitter) (Q : α → Memory → Emitter → Prop)
    (E : Memory → Emitter → Prop) : Prop :=
  c.Ensures (tracked (fun op k => Emitter.Permits k op) Op.Replies Emitter.advance) m k Q E

/-- Nothing but the identifiers drawn is new. -/
structure Alike (k₀ k : Emitter) : Prop where
  own : k.own = k₀.own
  stored : k.stored = k₀.stored
  reserved : k.reserved = k₀.reserved

/-- The events of the transaction so far carry identifiers that the call drew. -/
structure Tallied (k₀ : Emitter) (m : Memory) (k : Emitter) : Prop extends Alike k₀ k where
  drawn : (eventIds m.writes).reverse.Sublist k.drawn

/-- A part of the body of a transaction. -/
abbrev Tallying (k₀ : Emitter) (c : Call α) (m : Memory) (k : Emitter) : Prop :=
  Emitting c m k (fun _ => Tallied k₀) (Tallied k₀)

theorem within_permits (k : Emitter) (hop : op.Within id) : k.Permits op := by
  cases op with
  | insertSaga s => exact hop.elim
  | commit tx id writes => exact hop.elim
  | _ => trivial

theorem await_emitting {Q : op.Ret → Memory → Emitter → Prop} {E : Memory → Emitter → Prop}
    (hop : k.Permits op) (hE : ∀ e, E m (Emitter.advance op (.error e) k))
    (hQ : ∀ a, op.Replies (.ok a) → Q a m (Emitter.advance op (.ok a) k)) :
    Emitting (Call.await op) m k Q E := by
  refine ⟨hop, fun r hr => ?_⟩
  cases r with
  | ok a => exact hQ a hr
  | error e => exact hE e

theorem Alike.within (h : Alike k₀ k) (hop : op.Within id) (r : Except Exception op.Ret) :
    Alike k₀ (Emitter.advance op r k) := by
  cases op with
  | insertSaga s => exact hop.elim
  | commit tx id writes => exact hop.elim
  | uuid =>
      cases r with
      | error e => exact h
      | ok u => exact ⟨h.own, h.stored, h.reserved⟩
  | _ => exact h

theorem Tallied.within (h : Tallied k₀ m k) (hop : op.Within id) (r : Except Exception op.Ret) :
    Tallied k₀ m (Emitter.advance op r k) := by
  refine ⟨h.toAlike.within hop r, ?_⟩
  cases op with
  | insertSaga s => exact hop.elim
  | commit tx id writes => exact hop.elim
  | uuid =>
      cases r with
      | error e => exact h.drawn
      | ok u => exact h.drawn.cons u
  | _ => exact h.drawn

theorem await_tallying (hop : op.Within id) (h : Tallied k₀ m k) :
    Tallying k₀ (Call.await op) m k :=
  await_emitting (within_permits k hop) (fun _ => h.within hop _) fun _ _ => h.within hop _

theorem eventIds_append (writes : List Write) (write : Write) :
    eventIds (writes ++ [write]) =
      eventIds writes ++ (write.event.map OutboxEvent.eventId).toList := by
  rw [eventIds, events, List.filterMap_append]
  cases hevent : write.event <;> simp [eventIds, events, hevent]

theorem statement_tallying {write : Write} (hwrite : write.event = none) (h : Tallied k₀ m k) :
    Tallying k₀ (statement tx write) m k := by
  have hwithin : (Op.sql tx write).Within "" := trivial
  refine .seq (await_tallying hwithin h) fun _ m k h => .remember ⟨h.toAlike, ?_⟩
  rw [eventIds_append, hwrite, Option.map_none, Option.toList_none, List.append_nil]
  exact h.drawn

theorem saveSaga_tallying (h : Tallied k₀ m k) : Tallying k₀ (saveSaga tx) m k :=
  .bind (.memory (statement_tallying rfl h))

theorem setSaga_tallying {f : SagaState → SagaState} (h : Tallied k₀ m k) :
    Tallying k₀ (setSaga f) m k :=
  .remember ⟨h.toAlike, h.drawn⟩

/-- The event takes the identifier that is drawn for it. -/
theorem storeEvent_tallying {aggregateId : String} {body : EventBody} (h : Tallied k₀ m k) :
    Tallying k₀ (storeEvent tx aggregateId body) m k := by
  refine .bind (await_emitting trivial (fun _ => h) fun u _ => ?_)
  have halike : Alike k₀ { k with drawn := u :: k.drawn } := ⟨h.own, h.stored, h.reserved⟩
  refine .bind (await_emitting trivial (fun _ => ⟨halike, h.drawn.cons u⟩)
    fun _ _ => .remember ⟨halike, ?_⟩)
  rw [eventIds_append, Write.event, Option.map_some, Option.toList_some, List.reverse_append,
    List.reverse_singleton, List.singleton_append]
  exact h.drawn.cons_cons u

/-- A call that changes no table keeps what its operations keep. -/
theorem local_emitting {c : Call α} {Q : α → Memory → Prop} {E : Memory → Prop}
    {R : Emitter → Prop} (hR : ∀ op r k, op.Within id → R k → R (Emitter.advance op r k))
    (hc : c.Emits (Op.Within id) Op.Replies m Q E) (hk : R k) :
    Emitting c m k (fun a m' k' => Q a m' ∧ R k') fun m' k' => E m' ∧ R k' := by
  refine hc.frame ?_ hk
  intro op k Q hop hk hnext
  exact ⟨within_permits k hop, fun r hr => hnext r _ hr (hR op r k hop hk)⟩

theorem seatLock_tallying {c : SeatLock.Call Memory α} (hc : SeatLock.Sends id c m)
    (h : Tallied k₀ m k) : Tallying k₀ (seatLock c) m k := by
  have hlocal := local_emitting (R := Tallied k₀ m) (fun op r k hop hk => hk.within hop r)
    (seatLock_same hc) h
  refine hlocal.mono (fun _ m' k' hm => ?_) fun m' k' hm => ?_
  · obtain ⟨rfl, hk⟩ := hm
    exact hk
  · obtain ⟨rfl, hk⟩ := hm
    exact hk

theorem dateNow_tallying (h : Tallied k₀ m k) : Tallying k₀ dateNow m k := by
  have hwithin : (Op.redis .dateNow).Within "" := trivial
  exact await_tallying hwithin h

theorem createBookingBody_tallying {saga : SagaState} (h : Tallied k₀ m k) :
    Tallying k₀ (createBookingBody saga) m k := by
  refine .seq (dateNow_tallying h) fun now m k h => ?_
  refine .seq (statement_tallying rfl h) fun _ m k h => ?_
  refine .seq (setSaga_tallying h) fun _ m k h => ?_
  exact .seq (saveSaga_tallying h) fun _ m k h => storeEvent_tallying h

theorem lockSeatsBody_tallying {lockKey : String} (h : Tallied k₀ m k) :
    Tallying k₀ (lockSeatsBody lockKey) m k :=
  .seq (setSaga_tallying h) fun _ _ _ h => saveSaga_tallying h

theorem reserveFlightSeatsBody_tallying {saga : SagaState} (h : Tallied k₀ m k) :
    Tallying k₀ (reserveFlightSeatsBody saga) m k := by
  refine .seq (storeEvent_tallying h) fun _ m k h => ?_
  refine .seq (setSaga_tallying h) fun _ m k h => ?_
  exact .seq (saveSaga_tallying h) fun _ m k h => statement_tallying rfl h

theorem completeBody_tallying {bookingId paymentTransactionId : String} (h : Tallied k₀ m k) :
    Tallying k₀ (completeBody bookingId paymentTransactionId) m k := by
  refine .bind (.memory (.seq (storeEvent_tallying h) fun _ m k h => ?_))
  refine .seq (dateNow_tallying h) fun now m k h => ?_
  refine .seq (statement_tallying rfl h) fun _ m k h => ?_
  refine .seq (setSaga_tallying h) fun _ m k h => ?_
  exact .seq (saveSaga_tallying h) fun _ m k h => storeEvent_tallying h

theorem compensateBody_tallying {message : String} (h : Tallied k₀ m k) :
    Tallying k₀ (compensateBody message) m k := by
  refine .seq (setSaga_tallying h) fun _ m k h => ?_
  refine .seq (saveSaga_tallying h) fun _ m k h => .bind (.memory ?_)
  refine .seq (.whenever (fun _ => storeEvent_tallying h) fun _ => h) fun _ m' k h => ?_
  refine .seq (.whenever (fun _ => seatLock_tallying (SeatLock.releaseSeats_sends _ _) h) fun _ => h)
    fun _ m' k h => ?_
  refine .seq (dateNow_tallying h) fun now m' k h => ?_
  refine .seq (statement_tallying rfl h) fun _ m' k h => ?_
  exact .seq (setSaga_tallying h) fun _ m' k h => saveSaga_tallying h

/-! ## Transactions -/

/-- The body of a transaction, with the step that it gives to its saga. -/
abbrev Stepping (tx : Tx) (id : String) (body : Call Unit) (m : Memory) : Prop :=
  Local id body { m with writes := [] } fun _ m =>
    m.saga.bookingId = id ∧ Shape tx id m.writes ∧ Stepped tx m.writes

theorem compensateBody_steps (message : String) :
    Stepping .compensate m.saga.bookingId (compensateBody message) m := by
  have hnone : ∀ writes, Stepped .compensate writes := fun _ _ _ n hn => absurd hn (Option.not_mem_none n)
  exact (compensateBody_writes message).mono (fun _ m' h => ⟨h.1, h.2, hnone m'.writes⟩) fun _ h => h

theorem createBookingBody_steps :
    Stepping .createBooking m.saga.bookingId (createBookingBody m.saga) m := by
  refine .bind (dateNow_local rfl fun now => .bind (statement_local rfl ?_))
  refine .bind (setSaga_local (.bind (saveSaga_local rfl ?_)))
  refine storeEvent_local rfl fun eventId => ⟨rfl, ?_, by simp [Stepped, Write.saved, Tx.step]⟩
  exact Shape.createBooking { m.saga with currentStep := 1, status := .initiated } now eventId rfl

theorem lockSeatsBody_steps (lockKey : String) :
    Stepping .lockSeats m.saga.bookingId (lockSeatsBody lockKey) m := by
  refine .bind (setSaga_local (saveSaga_local rfl ⟨rfl, ?_, by simp [Stepped, Write.saved, Tx.step]⟩))
  exact Shape.lockSeats
    { m.saga with currentStep := 2, status := .seatsLocked, lockKey := some lockKey } rfl

theorem reserveFlightSeatsBody_steps :
    Stepping .reserveFlightSeats m.saga.bookingId (reserveFlightSeatsBody m.saga) m := by
  refine .bind (storeEvent_local rfl fun eventId => .bind (setSaga_local ?_))
  refine .bind (saveSaga_local rfl (statement_local rfl ⟨rfl, ?_, by simp [Stepped, Write.saved, Tx.step]⟩))
  exact Shape.reserveFlightSeats { m.saga with currentStep := 3, status := .flightReserved }
    eventId rfl

theorem completeBody_steps (paymentTransactionId : String) :
    Stepping .completeBooking m.saga.bookingId
      (completeBody m.saga.bookingId paymentTransactionId) m := by
  refine .bind (.memory (.bind (storeEvent_local rfl fun confirmId => ?_)))
  refine .bind (dateNow_local rfl fun now => .bind (statement_local rfl ?_))
  refine .bind (setSaga_local (.bind (saveSaga_local rfl ?_)))
  refine storeEvent_local rfl fun confirmedId => ⟨rfl, ?_, by simp [Stepped, Write.saved, Tx.step]⟩
  exact Shape.completeBooking { m.saga with currentStep := 6, status := .bookingConfirmed }
    confirmId confirmedId paymentTransactionId now rfl

/-- What the call may do in a transaction of the booking. -/
structure Emitter.Grants (k : Emitter) (tx : Tx) (id : String) : Prop where
  create : tx = .createBooking → k.own = some id
  reserve : tx = .reserveFlightSeats → k.own = some id ∧ k.stored = true ∧ k.reserved = false

/-- What the commit of a transaction leaves to the call. -/
structure AfterCommit (k₀ : Emitter) (tx : Tx) (id : String) (m : Memory) (k : Emitter) : Prop where
  booking : m.saga.bookingId = id
  own : k.own = k₀.own
  stored : k.stored = (k₀.stored || tx = .createBooking)
  reserved : k.reserved = (k₀.reserved || tx = .reserveFlightSeats)

theorem transaction_emitting {body : Call Unit} (hwrites : Stepping tx id body m)
    (htallies : ∀ k', Tallied k { m with writes := [] } k' →
      Tallying k body { m with writes := [] } k')
    (hgrants : k.Grants tx id) (hid : m.saga.bookingId = id) :
    Emitting (transaction tx body) m k (fun _ => AfterCommit k tx id)
      fun m' _ => m'.saga.bookingId = id := by
  refine .bind (await_emitting trivial (fun _ => hid) fun _ _ => .bind (.remember ?_))
  have hstart : Tallied k { m with writes := [] } k := ⟨⟨rfl, rfl, rfl⟩, List.nil_sublist _⟩
  have hshape := local_emitting (k := k) (R := fun _ => True) (fun _ _ _ _ _ => trivial) hwrites trivial
  refine .andThen (Call.Ensures.both (htallies k hstart) hshape) (fun m' k' h => h.2.1)
    fun _ m' k' h => .bind (.memory ?_)
  obtain ⟨htally, ⟨hid', hshape', hsteps⟩, -⟩ := h
  subst hid'
  refine await_emitting ⟨hshape', htally.drawn, fun htx => ?_, fun htx => ?_, hsteps⟩ (fun _ => rfl)
    fun _ _ => ⟨rfl, htally.own, ?_, ?_⟩
  · rw [htally.own]
    exact hgrants.create htx
  · rw [htally.own, htally.stored, htally.reserved]
    exact hgrants.reserve htx
  · rw [Emitter.advance, htally.stored]
  · rw [Emitter.advance, htally.reserved]

/-! ## The entry points -/

/-- Of the rest of a call nothing more needs to be known. -/
abbrev Emits (c : Call α) (m : Memory) (k : Emitter) : Prop :=
  Emitting c m k (fun _ _ _ => True) fun _ _ => True

theorem await_emits (hop : k.Permits op) : Emits (Call.await op) m k :=
  await_emitting hop (fun _ => trivial) fun _ _ => trivial

/-- The transactions other than those that store a row or reserve its seats. -/
theorem plain_emitting {body : Call Unit} (hwrites : Stepping tx id body m)
    (htallies : ∀ k', Tallied k { m with writes := [] } k' →
      Tallying k body { m with writes := [] } k')
    (hcreate : tx ≠ .createBooking) (hreserve : tx ≠ .reserveFlightSeats)
    (hid : m.saga.bookingId = id) :
    Emitting (transaction tx body) m k (fun _ => AfterCommit k tx id)
      fun m' _ => m'.saga.bookingId = id :=
  transaction_emitting hwrites htallies
    ⟨fun htx => absurd htx hcreate, fun htx => absurd htx hreserve⟩ hid

theorem compensate_emits (message : String) : Emits (compensate message) m k := by
  refine .bind (.memory ?_)
  split
  · exact .pure trivial
  · have htx := plain_emitting (k := k) (compensateBody_steps message (m := m))
      (fun _ h => compensateBody_tallying h) nofun nofun rfl
    exact .tryCatch (htx.mono (fun _ _ _ _ => trivial) fun _ _ _ => trivial)
      fun _ _ _ _ => .pure trivial

theorem compensating_emitting {body : Call Unit} {Q : Unit → Memory → Emitter → Prop}
    {E : Memory → Emitter → Prop} (h : Emitting body m k Q E) :
    Emitting (compensating body) m k Q fun _ _ => True :=
  .tryCatch h fun e _ _ _ => .seq (compensate_emits e.message) fun _ _ _ _ => .throw trivial

/-- The call runs the saga of its own booking, whose seats it has not reserved yet. -/
structure Runs (id : String) (m : Memory) (k : Emitter) : Prop where
  booking : m.saga.bookingId = id
  own : k.own = some id
  reserved : k.reserved = false

theorem executeStep1_emitting (hm : Runs id m k) (hstep : m.saga.currentStep = 0) :
    Emitting executeStep1_CreateBooking m k (fun _ m' k' => Runs id m' k' ∧ k'.stored = true)
      fun _ _ => True := by
  refine .bind (.memory ?_)
  rw [if_neg (by omega)]
  obtain ⟨rfl, hown, hreserved⟩ := hm
  refine (transaction_emitting createBookingBody_steps (fun _ h => createBookingBody_tallying h)
    ⟨fun _ => hown, nofun⟩ rfl).mono (fun _ m' k' h => ?_) fun _ _ _ => trivial
  refine ⟨⟨h.booking, h.own.trans hown, ?_⟩, ?_⟩
  · rw [h.reserved, hreserved]
    rfl
  · rw [h.stored]
    exact Bool.or_true _

theorem executeStep2_emitting (hm : Runs id m k) (hstored : k.stored = true) :
    Emitting executeStep2_LockSeats m k (fun _ m' k' => Runs id m' k' ∧ k'.stored = true)
      fun _ _ => True := by
  refine .bind (.memory ?_)
  split
  · exact .pure ⟨hm, hstored⟩
  · refine compensating_emitting (E := fun _ _ => True) ?_
    obtain ⟨rfl, hown, hreserved⟩ := hm
    have hlock := seatLock_same (m := m) (SeatLock.lockSeats_sends m.saga.payload.flightId
      (m.saga.payload.seatNumbers.getD []) m.saga.bookingId m.saga.payload.userId)
    refine .andThen (local_emitting (R := Alike k) (fun op r k hop hk => hk.within hop r) hlock
      ⟨rfl, rfl, rfl⟩) (fun _ _ _ => trivial) fun locked m' k' h => ?_
    obtain ⟨rfl, halike⟩ := h
    split
    · refine (plain_emitting (lockSeatsBody_steps locked.lockKey)
        (fun _ h => lockSeatsBody_tallying h) nofun nofun rfl).mono (fun _ m' k'' h => ?_)
        fun _ _ _ => trivial
      refine ⟨⟨h.booking, (h.own.trans halike.own).trans hown, ?_⟩, ?_⟩
      · rw [h.reserved, halike.reserved, hreserved]
        rfl
      · rw [h.stored, halike.stored, hstored]
        rfl
    · exact .throw trivial

theorem executeStep3_emits (hm : Runs id m k) (hstored : k.stored = true) :
    Emits executeStep3_ReserveFlightSeats m k := by
  refine .bind (.memory ?_)
  split
  · exact .pure trivial
  · obtain ⟨rfl, hown, hreserved⟩ := hm
    refine compensating_emitting ((transaction_emitting reserveFlightSeatsBody_steps
      (fun _ h => reserveFlightSeatsBody_tallying h)
      ⟨nofun, fun _ => ⟨hown, hstored, hreserved⟩⟩ rfl).mono (fun _ _ _ _ => trivial)
      fun _ _ h => h)

theorem findExistingSaga_emits (key : Option String) : Emits (findExistingSaga key) m k := by
  unfold findExistingSaga
  split
  · split
    · exact .pure trivial
    · exact await_emits trivial
  · exact .pure trivial

theorem executeBookingSaga_emits (dto : CreateBookingDto) (key : Option String) :
    Emits (executeBookingSaga dto key) m k := by
  refine .seq (findExistingSaga_emits key) fun found m k _ => ?_
  cases found with
  | some saga => exact await_emits trivial
  | none =>
      refine .seq (await_emits trivial) fun sagaId m k _ => ?_
      refine .bind (await_emitting trivial (fun _ => trivial) fun bookingId _ => ?_)
      refine .bind (await_emitting ⟨List.mem_cons_self, rfl, rfl⟩ (fun _ => trivial) fun _ _ =>
        .bind (.remember ?_))
      refine .andThen (executeStep1_emitting (⟨rfl, rfl, rfl⟩ : Runs bookingId _ _) rfl)
        (fun _ _ h => h) fun _ m k h => ?_
      refine .andThen (executeStep2_emitting h.1 h.2) (fun _ _ h => h) fun _ m k h => ?_
      exact .seq (executeStep3_emits h.1 h.2) fun _ _ _ _ => await_emits trivial

theorem findSaga_emitting {bookingId : String} :
    Emitting (Call.await (Op.findSaga bookingId)) m k
      (fun found _ _ => ∀ s : SagaState, found = some s → s.bookingId = bookingId)
      fun _ _ => True :=
  await_emitting trivial (fun _ => trivial) fun _ hfound s hs => hfound s (congrArg _ hs)

theorem completeBooking_emits (bookingId paymentTransactionId : String) :
    Emits (completeBooking bookingId paymentTransactionId) m k := by
  refine .andThen findSaga_emitting (fun _ _ h => h) fun found m k hfound => ?_
  cases found with
  | none => exact .throw trivial
  | some saga =>
      have hid : saga.bookingId = bookingId := hfound saga rfl
      subst hid
      dsimp only
      split
      · exact await_emits trivial
      · refine .bind (.remember ?_)
        refine .andThen (plain_emitting (completeBody_steps paymentTransactionId)
          (fun _ h => completeBody_tallying h) nofun nofun rfl) (fun _ _ _ => trivial)
          fun _ m' k' hm => ?_
        have hrelease := seatLock_same (m := m')
          (SeatLock.releaseSeats_sends saga.payload.flightId saga.bookingId)
        exact .andThen (local_emitting (R := fun _ => True) (fun _ _ _ _ _ => trivial) hrelease
          trivial) (fun _ _ _ => trivial) fun _ _ _ _ => await_emits trivial

theorem cancelBooking_emits (bookingId reason : String) :
    Emits (cancelBooking bookingId reason) m k := by
  refine .seq (await_emits trivial) fun found m k _ => ?_
  cases found with
  | none => exact .throw trivial
  | some saga =>
      exact .bind (.remember (.seq (compensate_emits reason) fun _ _ _ _ => await_emits trivial))

theorem cleanupExpiredBookings_emits : Emits cleanupExpiredBookings m k := by
  refine .tryCatch (.seq (await_emits trivial) fun now m k _ => ?_) fun _ _ _ _ => .pure trivial
  refine .seq (await_emits trivial) fun expiredBookings m k _ => ?_
  refine .forM (fun _ _ _ => True) (fun booking _ m k _ => ?_) _ trivial
  exact .tryCatch (.seq (cancelBooking_emits _ _) fun _ _ _ _ => .pure trivial)
    fun _ _ _ _ => .pure trivial

theorem request_emits (request : Request) :
    (service.program request).wp
      (tracked (fun op k => Emitter.Permits k op) Op.Replies Emitter.advance) (fun _ _ => True)
      Emitter.blank := by
  have hemits : Emits request.call Memory.blank Emitter.blank := by
    cases request with
    | executeBookingSaga dto key =>
        exact .seq (executeBookingSaga_emits dto key) fun _ _ _ _ => .pure trivial
    | completeBooking id paymentTransactionId =>
        exact .seq (completeBooking_emits id paymentTransactionId) fun _ _ _ _ => .pure trivial
    | cancelBooking id reason =>
        exact .seq (cancelBooking_emits id reason) fun _ _ _ _ => .pure trivial
    | cleanupExpiredBookings =>
        exact .seq cleanupExpiredBookings_emits fun _ _ _ _ => .pure trivial
    | wait ms => exact .seq (await_emits trivial) fun _ _ _ _ => .pure trivial
  exact Program.wp_mono (fun _ _ _ => trivial) hemits

end Calls

/-! ## What a commit stores -/

section Steps

variable {w w' : World} {tx : Tx} {id id' : String} {writes : List Write} {choice : Choice} {op : Op}
variable {r : Except Exception op.Ret} {past : List Event} {k : Emitter} {i : Nat}

theorem applyAll_outbox (writes : List Write) (w : World) :
    (applyAll writes w).outbox = w.outbox ++ events writes := by
  unfold applyAll
  induction writes generalizing w with
  | nil => exact (List.append_nil _).symm
  | cons write writes ih =>
      rw [List.foldl_cons, ih]
      cases write with
      | insertEvent e => exact List.append_assoc w.outbox [e] (events writes)
      | _ => rfl

/-- A transaction stores an event that reserves the seats of its booking if it is the one that
reserves them, and no other such event. -/
theorem shape_events (h : Shape tx id writes) : ∀ e ∈ events writes, e.aggregateId = id ∧
    (e.body.isReserve = true → tx = .reserveFlightSeats) := by
  cases h with
  | compensate s releaseId reason now hstatus hrelease =>
      cases releaseId <;> simp [events, Write.event, EventBody.isReserve]
  | _ => simp [events, Write.event, EventBody.isReserve]

theorem shape_reserves (h : Shape .reserveFlightSeats id writes) (w : World) :
    reserves (applyAll writes w) id = reserves w id + 1 := by
  cases h with
  | reserveFlightSeats s eventId hstatus =>
      simp [reserves, applyAll, Write.apply, EventBody.isReserve]

theorem shape_reserves_of_ne (h : Shape tx id writes) (hne : tx = .reserveFlightSeats → id' ≠ id)
    (w : World) : reserves (applyAll writes w) id' = reserves w id' := by
  have hnone : (events writes).countP (fun e => e.aggregateId = id' && e.body.isReserve) = 0 := by
    rw [List.countP_eq_zero]
    intro e he hcount
    simp only [Bool.and_eq_true, decide_eq_true_eq] at hcount
    obtain ⟨haggregate, hreserve⟩ := shape_events h e he
    exact hne (hreserve hcount.2) (hcount.1.symm.trans haggregate)
  rw [reserves, applyAll_outbox, List.countP_append, hnone, Nat.add_zero]
  rfl

/-! ## Steps -/

/-- What a call goes by is so. -/
structure Emitter.Sound (w : World) (k : Emitter) : Prop where
  nodup : k.drawn.Nodup
  drawn : ∀ u ∈ k.drawn, u ∈ w.issued ∧ (∀ e ∈ w.outbox, e.eventId ≠ u) ∧ reserves w u = 0
  own : ∀ id, k.own = some id → id ∈ w.issued ∧
    (k.stored = true → (w.booking id).isSome) ∧ (k.reserved = false → reserves w id = 0)

/-- What belongs to one call belongs to no other one. -/
structure Emitter.Apart (k k' : Emitter) : Prop where
  drawn : ∀ u ∈ k.drawn, u ∉ k'.drawn ∧ k'.own ≠ some u
  own : ∀ id, k.own = some id → k'.own ≠ some id

abbrev emitterOf (past : List Event) (i : Nat) : Option Emitter :=
  service.trace (fun _ => Emitter.blank) Emitter.advance i past

/-- The events of the outbox, and what the calls know of their own. -/
structure Emitted (past : List Event) (w : World) : Prop where
  issued : ∀ e ∈ w.outbox, e.eventId ∈ w.issued
  unique : (w.outbox.map OutboxEvent.eventId).Nodup
  aggregates : ∀ e ∈ w.outbox, e.body.isReserve = true →
    e.aggregateId ∈ w.issued ∧ (w.booking e.aggregateId).isSome
  once : ∀ id, reserves w id ≤ 1
  calls : ∀ i k, emitterOf past i = some k → k.Sound w
  apart : ∀ i j k k', i ≠ j → emitterOf past i = some k → emitterOf past j = some k' → k.Apart k'

theorem emitted_init {now : Nat} : Emitted [] (World.init now) where
  issued _ he := absurd he List.not_mem_nil
  unique := List.nodup_nil
  aggregates _ he := absurd he List.not_mem_nil
  once _ := Nat.zero_le _
  calls _ _ hk := by cases hk
  apart _ _ _ _ _ hk := by cases hk

theorem Emitted.started (h : Emitted past w) (request : Request) :
    Emitted (past ++ [.started w i request]) w where
  issued := h.issued
  unique := h.unique
  aggregates := h.aggregates
  once := h.once
  calls j k hk := by
    rcases System.trace_started_cases hk with ⟨-, rfl⟩ | ⟨-, hold⟩
    · exact ⟨List.nodup_nil, fun _ hu => absurd hu List.not_mem_nil, nofun⟩
    · exact h.calls j k hold
  apart j j' k k' hne hk hk' := by
    rcases System.trace_started_cases hk with ⟨rfl, rfl⟩ | ⟨-, hold⟩
    · exact ⟨fun _ hu => absurd hu List.not_mem_nil, nofun⟩
    · rcases System.trace_started_cases hk' with ⟨-, rfl⟩ | ⟨-, hold'⟩
      · exact ⟨fun _ _ => ⟨List.not_mem_nil, nofun⟩, fun _ _ => nofun⟩
      · exact h.apart j j' k k' hne hold hold'

/-- A step that stores no event and inserts no saga. -/
theorem Emitter.Sound.same (h : k.Sound w) (hissued : ∀ u ∈ w.issued, u ∈ w'.issued)
    (houtbox : w'.outbox = w.outbox) (hbookings : w'.bookings = w.bookings) : k.Sound w' where
  nodup := h.nodup
  drawn u hu := by
    obtain ⟨hmem, hevents, hreserves⟩ := h.drawn u hu
    refine ⟨hissued u hmem, houtbox ▸ hevents, ?_⟩
    rw [reserves, houtbox]
    exact hreserves
  own id hid := by
    obtain ⟨hmem, hstored, hreserves⟩ := h.own id hid
    refine ⟨hissued id hmem, fun hk => ?_, fun hk => ?_⟩
    · rw [World.booking, hbookings]
      exact hstored hk
    · rw [reserves, houtbox]
      exact hreserves hk

/-- What another call commits leaves what this one goes by. -/
theorem Emitter.Sound.beside {k' : Emitter} (h : k.Sound w) (hapart : k.Apart k')
    (hshape : Shape tx id writes) (hevents : (eventIds writes).reverse.Sublist k'.drawn)
    (hreserve : tx = .reserveFlightSeats → k'.own = some id) : k.Sound (applyAll writes w) where
  nodup := h.nodup
  drawn u hu := by
    obtain ⟨hmem, hfresh, hreserves⟩ := h.drawn u hu
    obtain ⟨hnot, hown⟩ := hapart.drawn u hu
    refine ⟨?_, fun e he heq => ?_, ?_⟩
    · rwa [applyAll_issued]
    · rw [applyAll_outbox] at he
      rcases List.mem_append.mp he with hold | hnew
      · exact hfresh e hold heq
      · have hid : e.eventId ∈ (eventIds writes).reverse :=
          List.mem_reverse.mpr (List.mem_map_of_mem hnew)
        exact hnot (heq ▸ hevents.subset hid)
    · have hother : tx = .reserveFlightSeats → u ≠ id := fun htx heq => hown (heq ▸ hreserve htx)
      rw [shape_reserves_of_ne hshape hother]
      exact hreserves
  own id' hid' := by
    obtain ⟨hmem, hstored, hreserves⟩ := h.own id' hid'
    refine ⟨?_, fun hk => applyAll_booking (hstored hk), fun hk => ?_⟩
    · rwa [applyAll_issued]
    · have hother : tx = .reserveFlightSeats → id' ≠ id := fun htx heq =>
        hapart.own id' hid' (heq ▸ hreserve htx)
      rw [shape_reserves_of_ne hshape hother]
      exact hreserves hk

/-- What its own commit leaves to a call. -/
theorem Emitter.Sound.commits (h : k.Sound w) (hpermits : k.Permits (.commit tx id writes)) :
    (Emitter.advance (.commit tx id writes) (.ok ()) k).Sound (applyAll writes w) where
  nodup := List.nodup_nil
  drawn _ hu := absurd hu List.not_mem_nil
  own id' hid' := by
    obtain ⟨hshape, -, hcreate, hreserve, -⟩ := hpermits
    obtain ⟨hmem, hstored, hreserves⟩ := h.own id' hid'
    refine ⟨?_, fun hk => ?_, fun hk => ?_⟩
    · rwa [applyAll_issued]
    · simp only [Emitter.advance, Bool.or_eq_true, decide_eq_true_eq] at hk
      rcases hk with hold | rfl
      · exact applyAll_booking (hstored hold)
      · have hsame : id' = id := Option.some.inj (hid'.symm.trans (hcreate rfl))
        subst hsame
        exact createBooking_booking hshape
    · simp only [Emitter.advance, Bool.or_eq_false_iff, decide_eq_false_iff_not] at hk
      rw [shape_reserves_of_ne hshape fun htx => absurd htx hk.2]
      exact hreserves hk.1

/-- What a call comes to own, or to have drawn, is its own already or fresh. -/
theorem Emitter.Apart.advance {k' : Emitter} (h : k.Apart k') (h' : k'.Apart k)
    (hpermits : k.Permits op) (hk' : k'.Sound w) (hperform : performWith choice op w = some (r, w')) :
    (Emitter.advance op r k).Apart k' ∧ k'.Apart (Emitter.advance op r k) := by
  cases op with
  | uuid =>
      cases r with
      | error e => exact ⟨h, h'⟩
      | ok u =>
          have hfresh := (perform_uuid hperform).1
          have hdrawn : u ∉ k'.drawn := fun hu => hfresh (hk'.drawn u hu).1
          have hown : k'.own ≠ some u := fun hu => hfresh (hk'.own u hu).1
          refine ⟨⟨fun v hv => ?_, h.own⟩, ⟨fun v hv => ⟨fun hmem => ?_, (h'.drawn v hv).2⟩, h'.own⟩⟩
          · rcases List.mem_cons.mp hv with rfl | hold
            · exact ⟨hdrawn, hown⟩
            · exact h.drawn v hold
          · rcases List.mem_cons.mp hmem with rfl | hold
            · exact hdrawn hv
            · exact (h'.drawn v hv).1 hold
  | insertSaga s =>
      cases r with
      | error e => exact ⟨h, h'⟩
      | ok u =>
          have hmine : s.bookingId ∈ k.drawn := hpermits.1
          obtain ⟨hdrawn, hown⟩ := h.drawn s.bookingId hmine
          refine ⟨⟨h.drawn, fun id hid => ?_⟩, ⟨fun v hv => ⟨(h'.drawn v hv).1, ?_⟩, fun id hid => ?_⟩⟩
          · cases hid
            exact hown
          · rintro ⟨⟩
            exact hdrawn hv
          · rintro ⟨⟩
            exact hown hid
  | commit tx id writes =>
      cases r with
      | error e =>
          exact ⟨⟨fun _ hu => absurd hu List.not_mem_nil, h.own⟩,
            ⟨fun v hv => ⟨List.not_mem_nil, (h'.drawn v hv).2⟩, h'.own⟩⟩
      | ok u =>
          exact ⟨⟨fun _ hu => absurd hu List.not_mem_nil, h.own⟩,
            ⟨fun v hv => ⟨List.not_mem_nil, (h'.drawn v hv).2⟩, h'.own⟩⟩
  | _ => exact ⟨h, h'⟩

theorem reserves_eq_zero (h : ∀ e ∈ w.outbox, e.body.isReserve = true → e.aggregateId ≠ id) :
    reserves w id = 0 := by
  rw [reserves, List.countP_eq_zero]
  intro e he hcount
  simp only [Bool.and_eq_true, decide_eq_true_eq] at hcount
  exact h e he hcount.2 hcount.1

/-- What a call learns from its own step is so. -/
theorem Emitted.learns (hinv : Emitted past w) (h : k.Sound w) (hpermits : k.Permits op)
    (hperform : performWith choice op w = some (r, w')) : (Emitter.advance op r k).Sound w' := by
  rcases performWith_cases hperform with ⟨e, -, rfl, rfl⟩ | ⟨-, hop⟩
  · cases op with
    | commit tx id writes =>
        refine ⟨List.nodup_nil, fun _ hu => absurd hu List.not_mem_nil, fun id' hid' => ?_⟩
        obtain ⟨hmem, hstored, hreserves⟩ := h.own id' hid'
        exact ⟨hmem, hstored, fun hk => hreserves (Bool.or_eq_false_iff.mp hk).1⟩
    | _ => exact h
  cases op with
  | uuid =>
      simp only [Op.perform] at hop
      split at hop
      · cases hop
      · rename_i hfresh
        cases hop
        have hsame : k.Sound { w with issued := choice.uuid :: w.issued } :=
          h.same (fun _ => List.mem_cons_of_mem _) rfl rfl
        refine ⟨List.nodup_cons.mpr ⟨fun hu => hfresh (h.drawn _ hu).1, h.nodup⟩,
          List.forall_mem_cons.mpr ⟨⟨List.mem_cons_self, fun e he heq => ?_, ?_⟩, hsame.drawn⟩,
          hsame.own⟩
        · exact hfresh (heq ▸ hinv.issued e he)
        · exact reserves_eq_zero fun e he hreserve heq =>
            hfresh (heq ▸ (hinv.aggregates e he hreserve).1)
  | insertSaga s =>
      cases hop
      have hsame : k.Sound { w with sagas := w.sagas ++ [s] } := h.same (fun _ hu => hu) rfl rfl
      refine ⟨h.nodup, hsame.drawn, fun id hid => ?_⟩
      cases hid
      obtain ⟨hmem, -, hreserves⟩ := hsame.drawn s.bookingId hpermits.1
      exact ⟨hmem, fun hstored => absurd hstored Bool.false_ne_true, fun _ => hreserves⟩
  | commit tx id writes =>
      simp only [Op.perform] at hop
      split at hop
      · cases hop
        exact h.commits hpermits
      · cases hop
        refine ⟨List.nodup_nil, fun _ hu => absurd hu List.not_mem_nil, fun id' hid' => ?_⟩
        obtain ⟨hmem, hstored, hreserves⟩ := h.own id' hid'
        exact ⟨hmem, hstored, fun hk => hreserves (Bool.or_eq_false_iff.mp hk).1⟩
  | _ =>
      cases hop
      exact h.same (fun _ hu => hu) rfl rfl

/-- What another call does leaves what this one goes by. -/
theorem Emitter.Sound.after {k' : Emitter} (h : k.Sound w) (hapart : k.Apart k')
    (hpermits : k'.Permits op) (hperform : performWith choice op w = some (r, w')) : k.Sound w' := by
  have hissued := perform_issued hperform
  rcases perform_tables hperform with ⟨-, hbookings, houtbox, -⟩ | ⟨s, -, -, rfl⟩ |
    ⟨tx, id, writes, rfl, -, -, rfl⟩
  · exact h.same hissued houtbox hbookings
  · exact h.same hissued rfl rfl
  · exact h.beside hapart hpermits.1 hpermits.2.1 fun htx => (hpermits.2.2.2.1 htx).1

/-- The tables after the step of a call. -/
theorem Emitted.tables (hinv : Emitted past w) (hk : k.Sound w) (hpermits : k.Permits op)
    (hperform : performWith choice op w = some (r, w')) :
    (∀ e ∈ w'.outbox, e.eventId ∈ w'.issued) ∧ (w'.outbox.map OutboxEvent.eventId).Nodup ∧
      (∀ e ∈ w'.outbox, e.body.isReserve = true →
        e.aggregateId ∈ w'.issued ∧ (w'.booking e.aggregateId).isSome) ∧
      ∀ id, reserves w' id ≤ 1 := by
  have hissued := perform_issued hperform
  rcases perform_tables hperform with ⟨-, hbookings, houtbox, -⟩ | ⟨s, -, -, rfl⟩ |
    ⟨tx, id, writes, rfl, -, -, rfl⟩
  · rw [houtbox]
    refine ⟨fun e he => hissued _ (hinv.issued e he), hinv.unique, fun e he hreserve => ?_, fun id => ?_⟩
    · obtain ⟨hmem, hstored⟩ := hinv.aggregates e he hreserve
      exact ⟨hissued _ hmem, by rw [World.booking, hbookings]; exact hstored⟩
    · rw [reserves, houtbox]
      exact hinv.once id
  · exact ⟨hinv.issued, hinv.unique, hinv.aggregates, hinv.once⟩
  · obtain ⟨hshape, hdrawn, -, hreserve, -⟩ := hpermits
    have hnew : ∀ e ∈ events writes, e.eventId ∈ k.drawn := fun e he =>
      hdrawn.subset (List.mem_reverse.mpr (List.mem_map_of_mem he))
    rw [applyAll_outbox, applyAll_issued]
    refine ⟨List.forall_mem_append.mpr ⟨hinv.issued, fun e he => (hk.drawn _ (hnew e he)).1⟩, ?_,
      List.forall_mem_append.mpr ⟨fun e he hbody => ?_, fun e he hbody => ?_⟩, fun id' => ?_⟩
    · rw [List.map_append, List.nodup_append]
      refine ⟨hinv.unique, List.nodup_reverse.mp (hdrawn.nodup hk.nodup), fun u hu v hv heq => ?_⟩
      obtain ⟨e, he, rfl⟩ := List.mem_map.mp hu
      obtain ⟨e', he', rfl⟩ := List.mem_map.mp hv
      exact (hk.drawn _ (hnew e' he')).2.1 e he heq
    · obtain ⟨hmem, hstored⟩ := hinv.aggregates e he hbody
      exact ⟨hmem, applyAll_booking hstored⟩
    · obtain ⟨haggregate, htx⟩ := shape_events hshape e he
      obtain ⟨hown, hstored, -⟩ := hreserve (htx hbody)
      obtain ⟨hmem, hrow, -⟩ := hk.own id hown
      rw [haggregate]
      exact ⟨hmem, applyAll_booking (hrow hstored)⟩
    · by_cases hsame : tx = .reserveFlightSeats ∧ id' = id
      · obtain ⟨rfl, rfl⟩ := hsame
        obtain ⟨hown, -, hreserved⟩ := hreserve rfl
        exact Nat.le_of_eq ((shape_reserves hshape w).trans
          (congrArg Nat.succ ((hk.own id' hown).2.2 hreserved)))
      · rw [shape_reserves_of_ne hshape fun htx heq => hsame ⟨htx, heq⟩]
        exact hinv.once id'

theorem Emitted.performed (hinv : Emitted past w) (hi : emitterOf past i = some k)
    (hpermits : k.Permits op) (hperform : performWith choice op w = some (r, w')) :
    Emitted (past ++ [.performed w i choice op w']) w' := by
  have hk := hinv.calls i k hi
  obtain ⟨hissued, hunique, haggregates, honce⟩ := hinv.tables hk hpermits hperform
  refine ⟨hissued, hunique, haggregates, honce, fun j kj hj => ?_, fun j j' kj kj' hne hj hj' => ?_⟩
  · rcases System.trace_performed_cases hperform hi hj with ⟨rfl, rfl⟩ | ⟨hji, hold⟩
    · exact hinv.learns hk hpermits hperform
    · exact (hinv.calls j kj hold).after (hinv.apart j i kj k hji hold hi) hpermits hperform
  · rcases System.trace_performed_cases hperform hi hj with ⟨rfl, rfl⟩ | ⟨hji, hold⟩
    · rcases System.trace_performed_cases hperform hi hj' with ⟨rfl, -⟩ | ⟨hji', hold'⟩
      · exact absurd rfl hne
      · have happly := Emitter.Apart.advance (hinv.apart j j' k kj' hne hi hold')
          (hinv.apart j' j kj' k (Ne.symm hne) hold' hi) hpermits (hinv.calls j' kj' hold') hperform
        exact happly.1
    · rcases System.trace_performed_cases hperform hi hj' with ⟨rfl, rfl⟩ | ⟨hji', hold'⟩
      · have happly := Emitter.Apart.advance (hinv.apart j' j k kj (Ne.symm hne) hi hold)
          (hinv.apart j j' kj k hne hold hi) hpermits (hinv.calls j kj hold) hperform
        exact happly.2
      · exact hinv.apart j j' kj kj' hne hold hold'

end Steps

/-! ## Runs -/

section Runs

variable {now : Nat} {ms : List (Move Request Choice)} {es : List Event} {P : ServicePool}

theorem emitted_run (hrun : service.run ms (Pool.init (World.init now)) = some (es, P)) :
    Emitted es P.state := by
  have htracks : service.Tracks Emitted (fun _ => Emitter.blank) (fun _ op k => Emitter.Permits k op)
      (fun _ => Op.Replies) Emitter.advance (fun _ _ _ => True) ([] ++ es) P ∧ ∀ e ∈ es, True := by
    refine System.run_tracked ?_ ?_ hrun (fun _ _ => trivial) (System.tracks_init emitted_init)
    · intro past w i request _ hinv _
      exact ⟨request_emits request, hinv.started request, trivial⟩
    · intro past w i choice op r w' k hk hpermits hinv hperform _
      exact ⟨perform_replies hperform, hinv.performed hk hpermits hperform, trivial⟩
  exact htracks.1.inv

theorem nodup_aggregates {w : World} (h : ∀ id, reserves w id ≤ 1) :
    ((w.outbox.filter fun e => e.body.isReserve).map OutboxEvent.aggregateId).Nodup := by
  rw [List.nodup_iff_count_le_one]
  intro id
  have hcount : ((w.outbox.filter fun e => e.body.isReserve).map OutboxEvent.aggregateId).count id =
      reserves w id := by
    rw [List.count, List.countP_map, List.countP_filter]
    refine List.countP_congr fun e _ => ?_
    simp
  rw [hcount]
  exact h id

/-- The row of the booking that an event is about has as many seats, on the same flight. -/
theorem seats_row {e : OutboxEvent} {p : SeatsPayload} {b : Booking}
    (hrun : service.run ms (Pool.init (World.init now)) = some (es, P)) (he : e ∈ P.state.outbox)
    (hp : e.body.seatsPayload = some p) (hb : P.state.booking e.aggregateId = some b) :
    p.flightId = b.flightId ∧ p.seatCount = b.noOfSeats := by
  have hinv := recorded_run hrun
  obtain ⟨hmem, href⟩ := Table.mem_of_find hb
  obtain ⟨dto, hdto, hflight, -, hcount⟩ := hinv.tables.events e he p hp
  obtain ⟨dto', hdto', hflight', -, hcount'⟩ := hinv.tables.rows b hmem
  rw [href] at hdto'
  have hsame : dto' = dto := congrArg Prod.snd (List.inj_on_of_nodup_map hinv.unique hdto' hdto rfl)
  subst hsame
  exact ⟨hflight.trans hflight'.symm, hcount.trans hcount'.symm⟩

theorem reserve_row {e : OutboxEvent} {p : SeatsPayload}
    (hrun : service.run ms (Pool.init (World.init now)) = some (es, P)) (he : e ∈ P.state.outbox)
    (hp : e.body = .reserveSeats p) : ∃ b, P.state.booking e.aggregateId = some b ∧
      p.flightId = b.flightId ∧ p.seatCount = b.noOfSeats := by
  have hstored := ((emitted_run hrun).aggregates e he (by rw [hp]; rfl)).2
  obtain ⟨b, hb⟩ := Option.isSome_iff_exists.mp hstored
  exact ⟨b, hb, seats_row hrun he (by rw [hp]; rfl) hb⟩

/-- What the outbox says of the bookings. -/
structure WellStored (w : World) : Prop where
  distinct : (w.outbox.map OutboxEvent.eventId).Nodup
  backed : ∀ e ∈ w.outbox, ∀ p, e.body = .reserveSeats p → ∃ b, w.booking e.aggregateId = some b ∧
    p.flightId = b.flightId ∧ p.seatCount = b.noOfSeats
  once : ∀ e ∈ w.outbox, ∀ e' ∈ w.outbox, e.body.isReserve = true → e'.body.isReserve = true →
    e.aggregateId = e'.aggregateId → e = e'

/-- In every run the events of the outbox have identifiers of their own, and a booking has at most
one event that reserves seats: as many as its row asks for, on the flight of the row. -/
theorem outbox_wellStored (hrun : service.run ms (Pool.init (World.init now)) = some (es, P)) :
    WellStored P.state where
  distinct := (emitted_run hrun).unique
  backed _ he _ hp := reserve_row hrun he hp
  once _ he _ he' hreserve hreserve' hsame :=
    List.inj_on_of_nodup_map (nodup_aggregates (emitted_run hrun).once)
      (List.mem_filter.mpr ⟨he, hreserve⟩) (List.mem_filter.mpr ⟨he', hreserve'⟩) hsame

theorem outbox_wellStored_reserved :
    ∃ es P, service.run reserved (Pool.init (World.init 0)) = some (es, P) ∧
      (∃ e ∈ P.state.outbox, e.body.isReserve = true) ∧ WellStored P.state := by
  have hrun : (service.run reserved (Pool.init (World.init 0))).any (fun result =>
      result.2.state.outbox.any fun e => e.body.isReserve) = true := by decide
  obtain ⟨es, P, hrun, hafter⟩ := System.exists_run hrun
  exact ⟨es, P, hrun, List.any_eq_true.mp hafter, outbox_wellStored hrun⟩

end Runs

end FlightBookings.Booking
