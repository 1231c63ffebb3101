import FlightBookings.Booking.Saga

/-! # What the transactions of the saga write

Every transaction that any entry point comes to commit has one of five shapes,
and all its statements are about one booking.
-/

namespace FlightBookings.Booking

open Await

/-- The statements of each transaction, in their order, for the booking of the saga row that
it saves. -/
inductive Shape : Tx → String → List Write → Prop where
  | createBooking (s : SagaState) (now : Nat) (eventId : String) (hstatus : s.status = .initiated) :
      Shape .createBooking s.bookingId
        [.insertBooking (newBooking s now), .saveSaga s,
          .insertEvent ⟨eventId, s.bookingId, .bookingCreated s.bookingId s.payload.userId⟩]
  | lockSeats (s : SagaState) (hstatus : s.status = .seatsLocked) :
      Shape .lockSeats s.bookingId [.saveSaga s]
  | reserveFlightSeats (s : SagaState) (eventId : String) (hstatus : s.status = .flightReserved) :
      Shape .reserveFlightSeats s.bookingId
        [.insertEvent ⟨eventId, s.bookingId, .reserveSeats (seatsPayload s)⟩, .saveSaga s,
          .updateBooking s.bookingId .pending]
  | completeBooking (s : SagaState) (confirmId confirmedId paymentTransactionId : String)
      (now : Nat) (hstatus : s.status = .bookingConfirmed) :
      Shape .completeBooking s.bookingId
        [.insertEvent ⟨confirmId, s.bookingId, .confirmSeats (seatsPayload s)⟩,
          .updateBooking s.bookingId (.booked paymentTransactionId now), .saveSaga s,
          .insertEvent ⟨confirmedId, s.bookingId, .bookingConfirmed s.bookingId s.payload.userId⟩]
  | compensate (s : SagaState) (releaseId : Option String) (reason : String) (now : Nat)
      (hstatus : s.status = .compensated) (hrelease : releaseId.isSome ↔ 3 ≤ s.currentStep) :
      Shape .compensate s.bookingId
        (.saveSaga { s with status := .compensating } ::
          (releaseId.toList.map fun eventId =>
            .insertEvent ⟨eventId, s.bookingId, .releaseSeats (seatsPayload s)⟩) ++
          [.updateBooking s.bookingId (.cancelled reason now), .saveSaga s])

/-- The transaction of the payment that a statement books with. -/
def Write.bookedWith : Write → Option String
  | .updateBooking _ (.booked paymentTransactionId _) => some paymentTransactionId
  | _ => none

/-- The booking that an operation completes, and the transaction of the payment. -/
def Op.completion : Op → Option (String × String)
  | .commit .completeBooking id writes => (writes.findSome? Write.bookedWith).map fun tx => (id, tx)
  | _ => none

def Op.Shaped : Op → Prop
  | .commit tx bookingId writes => Shape tx bookingId writes
  | .insertSaga s => s.status = .initiated ∧ s.currentStep = 0
  | _ => True

/-- A saga is found under the booking that it was looked up with. -/
def Op.Replies : (op : Op) → Except Exception op.Ret → Prop
  | .findSaga bookingId, r => ∀ s : SagaState, r = .ok (some s) → s.bookingId = bookingId
  | _, _ => True

/-- The operations that change no table, and of Redis the keys of one booking. -/
def Op.Within (id : String) : Op → Prop
  | .redis op => op.Sent id
  | .insertSaga _ => False
  | .commit _ _ _ => False
  | _ => True

/-- A call that changes no table, and keeps to one booking. -/
abbrev Local {α : Type} (id : String) (c : Call α) (m : Memory) (Q : α → Memory → Prop) : Prop :=
  c.Emits (Op.Within id) Op.Replies m Q fun m => m.saga.bookingId = id

/-- The body of a transaction, from no statements to all those of its shape. -/
abbrev Writes (tx : Tx) (id : String) (body : Call Unit) (m : Memory) : Prop :=
  Local id body { m with writes := [] } fun _ m => m.saga.bookingId = id ∧ Shape tx id m.writes

/-! ## Statements -/

section Statements

variable {m : Memory} {tx : Tx} {id : String} {Q : Unit → Memory → Prop}

theorem seatLock_local {α : Type} {c : SeatLock.Call Memory α} (h : SeatLock.Sends id c m)
    (hid : m.saga.bookingId = id) : Local id (seatLock c) m fun _ m' => m' = m := by
  have hredis : c.Emits (fun op => (Op.redis op).Within id) (fun _ _ => True) m
      (fun _ m' => m' = m) fun m => m.saga.bookingId = id := by
    refine (h m rfl).mono (fun _ _ h => h) ?_
    intro m' hm
    rw [hm, hid]
  exact .lift hredis

theorem dateNow_local {Q : Nat → Memory → Prop} (hid : m.saga.bookingId = id)
    (h : ∀ now, Q now m) : Local id dateNow m Q :=
  .await trivial hid fun now _ => h now

theorem setSaga_local {f : SagaState → SagaState} (h : Q () { m with saga := f m.saga }) :
    Local id (setSaga f) m Q :=
  .remember h

theorem statement_local {write : Write} (hid : m.saga.bookingId = id)
    (h : Q () { m with writes := m.writes ++ [write] }) : Local id (statement tx write) m Q :=
  .bind (.await trivial hid fun _ _ => .remember h)

theorem saveSaga_local (hid : m.saga.bookingId = id)
    (h : Q () { m with writes := m.writes ++ [.saveSaga m.saga] }) : Local id (saveSaga tx) m Q :=
  .bind (.memory (statement_local hid h))

theorem storeEvent_local {aggregateId : String} {body : EventBody} (hid : m.saga.bookingId = id)
    (h : ∀ eventId, Q () { m with
      writes := m.writes ++ [.insertEvent ⟨eventId, aggregateId, body⟩] }) :
    Local id (storeEvent tx aggregateId body) m Q :=
  .bind (.await trivial hid fun eventId _ => statement_local hid (h eventId))

theorem releaseEvent_local {p : Prop} [Decidable p] {aggregateId : String} {body : EventBody}
    (hid : m.saga.bookingId = id) :
    Local id (Call.whenever p (storeEvent tx aggregateId body)) m fun _ m' =>
      ∃ eventId : Option String, (eventId.isSome ↔ p) ∧
        m' = { m with
          writes := m.writes ++
            eventId.toList.map fun eventId => .insertEvent ⟨eventId, aggregateId, body⟩ } := by
  refine .whenever (fun hp => storeEvent_local hid fun eventId => ?_) fun hp => ?_
  · exact ⟨some eventId, by simp [hp], rfl⟩
  · exact ⟨none, by simp [hp], by simp⟩

end Statements

/-! ## The bodies of the transactions -/

section Bodies

variable {m : Memory}

theorem compensateBody_writes (message : String) :
    Writes .compensate m.saga.bookingId (compensateBody message) m := by
  refine .bind (setSaga_local (.bind (saveSaga_local rfl (.bind (.memory ?_)))))
  refine .andThen (releaseEvent_local rfl) (fun _ h => h) fun _ m' h => ?_
  obtain ⟨releaseId, hrelease, rfl⟩ := h
  refine .andThen (Call.Emits.whenever
    (fun _ => seatLock_local (SeatLock.releaseSeats_sends _ _) rfl) fun _ => rfl)
    (fun _ h => h) fun _ m' h => ?_
  subst h
  refine .bind (dateNow_local rfl fun now => .bind (statement_local rfl ?_))
  refine .bind (setSaga_local (saveSaga_local rfl ⟨rfl, ?_⟩))
  have hshape := Shape.compensate
    { m.saga with status := .compensated, errorMessage := some message } releaseId
    s!"Saga failed: {message}" now rfl hrelease
  simpa [seatsPayload] using hshape

theorem createBookingBody_writes :
    Writes .createBooking m.saga.bookingId (createBookingBody m.saga) m := by
  refine .bind (dateNow_local rfl fun now => .bind (statement_local rfl ?_))
  refine .bind (setSaga_local (.bind (saveSaga_local rfl ?_)))
  refine storeEvent_local rfl fun eventId => ⟨rfl, ?_⟩
  exact Shape.createBooking { m.saga with currentStep := 1, status := .initiated } now eventId rfl

theorem lockSeatsBody_writes (lockKey : String) :
    Writes .lockSeats m.saga.bookingId (lockSeatsBody lockKey) m := by
  refine .bind (setSaga_local (saveSaga_local rfl ⟨rfl, ?_⟩))
  exact Shape.lockSeats
    { m.saga with currentStep := 2, status := .seatsLocked, lockKey := some lockKey } rfl

theorem reserveFlightSeatsBody_writes :
    Writes .reserveFlightSeats m.saga.bookingId (reserveFlightSeatsBody m.saga) m := by
  refine .bind (storeEvent_local rfl fun eventId => .bind (setSaga_local ?_))
  refine .bind (saveSaga_local rfl (statement_local rfl ⟨rfl, ?_⟩))
  exact Shape.reserveFlightSeats { m.saga with currentStep := 3, status := .flightReserved }
    eventId rfl

theorem completeBody_completes (paymentTransactionId : String) :
    Local m.saga.bookingId (completeBody m.saga.bookingId paymentTransactionId)
      { m with writes := [] } fun _ m' => m'.saga.bookingId = m.saga.bookingId ∧
        Shape .completeBooking m.saga.bookingId m'.writes ∧
        (Op.commit .completeBooking m.saga.bookingId m'.writes).completion =
          some (m.saga.bookingId, paymentTransactionId) := by
  refine .bind (.memory (.bind (storeEvent_local rfl fun confirmId => ?_)))
  refine .bind (dateNow_local rfl fun now => .bind (statement_local rfl ?_))
  refine .bind (setSaga_local (.bind (saveSaga_local rfl ?_)))
  refine storeEvent_local rfl fun confirmedId => ⟨rfl, ?_, rfl⟩
  exact Shape.completeBooking { m.saga with currentStep := 6, status := .bookingConfirmed }
    confirmId confirmedId paymentTransactionId now rfl

theorem completeBody_writes (paymentTransactionId : String) :
    Writes .completeBooking m.saga.bookingId
      (completeBody m.saga.bookingId paymentTransactionId) m :=
  (completeBody_completes paymentTransactionId).mono (fun _ _ h => ⟨h.1, h.2.1⟩) fun _ h => h

end Bodies

/-! ## The entry points -/

/-- What every entry point respects: it holds of the operations that change no table, of a new saga,
and of the commit of every transaction. -/
structure Respected (good : Op → Prop) : Prop where
  within : ∀ id op, op.Within id → good op
  insertSaga : ∀ s : SagaState, s.status = .initiated → s.currentStep = 0 → good (.insertSaga s)
  lockSeats : ∀ s : SagaState, s.status = .seatsLocked → s.currentStep = 2 →
    good (.commit .lockSeats s.bookingId [.saveSaga s])
  commit : ∀ tx id writes, tx ≠ .lockSeats → Shape tx id writes → good (.commit tx id writes)

/-- What every entry point but the completion of a booking respects. -/
structure RespectedApart (good : Op → Prop) : Prop where
  within : ∀ id op, op.Within id → good op
  insertSaga : ∀ s : SagaState, s.status = .initiated → s.currentStep = 0 → good (.insertSaga s)
  lockSeats : ∀ s : SagaState, s.status = .seatsLocked → s.currentStep = 2 →
    good (.commit .lockSeats s.bookingId [.saveSaga s])
  commit : ∀ tx id writes, tx ≠ .lockSeats → tx ≠ .completeBooking → Shape tx id writes →
    good (.commit tx id writes)

theorem Respected.apart {good : Op → Prop} (h : Respected good) : RespectedApart good where
  within := h.within
  insertSaga := h.insertSaga
  lockSeats := h.lockSeats
  commit tx id writes htx _ := h.commit tx id writes htx

theorem respected_shaped : Respected Op.Shaped where
  within id op hop := by
    cases op with
    | insertSaga s => cases hop
    | commit tx id writes => cases hop
    | _ => trivial
  insertSaga _ hstatus hstep := ⟨hstatus, hstep⟩
  lockSeats s hstatus _ := .lockSeats s hstatus
  commit _ _ _ _ hshape := hshape

section EntryPoints

variable {m : Memory} {id : String} {good : Op → Prop}

/-- Of most calls nothing needs to be known but what they await. -/
abbrev Keeps {α : Type} (good : Op → Prop) (c : Call α) (m : Memory) : Prop :=
  c.Emits good Op.Replies m (fun _ _ => True) fun _ => True

/-- The body of a transaction whose commit is good. -/
abbrev Commits (good : Op → Prop) (tx : Tx) (id : String) (body : Call Unit) (m : Memory) : Prop :=
  Local id body { m with writes := [] } fun _ m =>
    m.saga.bookingId = id ∧ good (.commit tx id m.writes)

theorem Writes.commits {tx : Tx} {body : Call Unit} (hgood : RespectedApart good) (hlock : tx ≠ .lockSeats)
    (hcomplete : tx ≠ .completeBooking) (h : Writes tx id body m) : Commits good tx id body m :=
  h.mono (fun _ _ hm => ⟨hm.1, hgood.commit tx id _ hlock hcomplete hm.2⟩) fun _ h => h

theorem lockSeatsBody_commits (hgood : RespectedApart good) (lockKey : String) :
    Commits good .lockSeats m.saga.bookingId (lockSeatsBody lockKey) m := by
  refine .bind (setSaga_local (saveSaga_local rfl ⟨rfl, ?_⟩))
  exact hgood.lockSeats
    { m.saga with currentStep := 2, status := .seatsLocked, lockKey := some lockKey } rfl rfl

theorem Local.keeps {α : Type} {c : Call α} {Q : α → Memory → Prop} (hgood : RespectedApart good)
    (h : Local id c m Q) : c.Emits good Op.Replies m Q fun _ => True :=
  (h.of_good (hgood.within id) fun _ _ h => h).mono (fun _ _ h => h) fun _ _ => trivial

theorem seatLock_keeps {α : Type} {c : SeatLock.Call Memory α} (hgood : RespectedApart good)
    (h : SeatLock.Sends id c m) : Keeps good (seatLock c) m := by
  have hredis : c.Emits (fun op => good (Op.redis op)) (fun _ _ => True) m (fun _ _ => True)
      fun _ => True :=
    ((h m rfl).of_good (fun op hop => hgood.within id (.redis op) hop) fun _ _ h => h).mono
      (fun _ _ _ => trivial) fun _ _ => trivial
  exact .lift hredis

/-- A transaction commits what its body wrote. -/
theorem transaction_keeps {tx : Tx} {body : Call Unit} (hgood : RespectedApart good)
    (h : Commits good tx id body m) : Keeps good (transaction tx body) m := by
  refine .bind (.await (hgood.within id _ trivial) trivial fun _ _ => ?_)
  refine .bind (.remember (.andThen (h.keeps hgood) (fun _ h => h) fun _ m' hm => ?_))
  obtain ⟨hid, hcommit⟩ := hm
  subst hid
  exact .bind (.memory (.await hcommit trivial fun _ _ => trivial))

theorem swallow_keeps {c : Call PUnit} (h : Keeps good c m) :
    Keeps good (tryCatch c fun _ => pure ⟨⟩) m :=
  .tryCatch h fun _ _ _ => .pure trivial

theorem compensate_keeps (hgood : RespectedApart good) (message : String) :
    Keeps good (compensate message) m := by
  refine .bind (.memory ?_)
  split
  · exact .pure trivial
  · exact swallow_keeps (transaction_keeps hgood
      ((compensateBody_writes message).commits hgood nofun nofun))

theorem compensating_keeps (hgood : RespectedApart good) {body : Call Unit} (h : Keeps good body m) :
    Keeps good (compensating body) m :=
  .tryCatch h fun e _ _ => .seq (compensate_keeps hgood e.message) fun _ _ _ => .throw trivial

theorem executeStep1_keeps (hgood : RespectedApart good) : Keeps good executeStep1_CreateBooking m := by
  refine .bind (.memory ?_)
  split
  · exact .pure trivial
  · exact transaction_keeps hgood (createBookingBody_writes.commits hgood nofun nofun)

theorem executeStep2_keeps (hgood : RespectedApart good) : Keeps good executeStep2_LockSeats m := by
  refine .bind (.memory ?_)
  split
  · exact .pure trivial
  · refine compensating_keeps hgood ?_
    have hlock := seatLock_local (m := m) (SeatLock.lockSeats_sends m.saga.payload.flightId
      (m.saga.payload.seatNumbers.getD []) m.saga.bookingId m.saga.payload.userId) rfl
    refine .andThen (hlock.keeps hgood) (fun _ h => h) fun locked m' _ => ?_
    split
    · exact transaction_keeps hgood (lockSeatsBody_commits hgood locked.lockKey)
    · exact .throw trivial

theorem executeStep3_keeps (hgood : RespectedApart good) :
    Keeps good executeStep3_ReserveFlightSeats m := by
  refine .bind (.memory ?_)
  split
  · exact .pure trivial
  · exact compensating_keeps hgood
      (transaction_keeps hgood (reserveFlightSeatsBody_writes.commits hgood nofun nofun))

theorem findExistingSaga_keeps (hgood : RespectedApart good) (key : Option String) :
    Keeps good (findExistingSaga key) m := by
  unfold findExistingSaga
  split
  · split
    · exact .pure trivial
    · exact .await (hgood.within "" _ trivial) trivial fun _ _ => trivial
  · exact .pure trivial

theorem executeBookingSaga_keeps (hgood : RespectedApart good) (dto : CreateBookingDto)
    (key : Option String) : Keeps good (executeBookingSaga dto key) m := by
  refine .seq (findExistingSaga_keeps hgood key) fun existing m _ => ?_
  cases existing with
  | some saga => exact .await (hgood.within "" _ trivial) trivial fun _ _ => trivial
  | none =>
      refine .bind (.await (hgood.within "" _ trivial) trivial fun sagaId _ => ?_)
      refine .bind (.await (hgood.within "" _ trivial) trivial fun bookingId _ => ?_)
      refine .bind (.await (hgood.insertSaga _ rfl rfl) trivial fun _ _ => .bind (.remember ?_))
      refine .seq (executeStep1_keeps hgood) fun _ m _ => ?_
      refine .seq (executeStep2_keeps hgood) fun _ m _ => ?_
      refine .seq (executeStep3_keeps hgood) fun _ m _ => ?_
      exact .await (hgood.within "" _ trivial) trivial fun _ _ => trivial

/-- A completion keeps to what its transaction commits. -/
theorem completeBooking_keeps (hgood : RespectedApart good) {bookingId paymentTransactionId : String}
    (hbody : ∀ m : Memory, m.saga.bookingId = bookingId →
      Commits good .completeBooking bookingId (completeBody bookingId paymentTransactionId) m) :
    Keeps good (completeBooking bookingId paymentTransactionId) m := by
  refine .bind (.await (hgood.within "" _ trivial) trivial fun found hfound => ?_)
  cases found with
  | none => exact .throw trivial
  | some saga =>
      have hid : SagaState.bookingId saga = bookingId := hfound saga rfl
      dsimp only
      split
      · exact .await (hgood.within "" _ trivial) trivial fun _ _ => trivial
      · refine .bind (.remember (.seq (transaction_keeps hgood (hbody ⟨saga, m.writes⟩ hid))
          fun _ m _ => ?_))
        refine .seq (seatLock_keeps hgood (SeatLock.releaseSeats_sends _ bookingId)) fun _ m _ => ?_
        exact .await (hgood.within "" _ trivial) trivial fun _ _ => trivial

theorem cancelBooking_keeps (hgood : RespectedApart good) (bookingId reason : String) :
    Keeps good (cancelBooking bookingId reason) m := by
  refine .bind (.await (hgood.within "" _ trivial) trivial fun found _ => ?_)
  cases found with
  | none => exact .throw trivial
  | some saga =>
      refine .bind (.remember (.seq (compensate_keeps hgood reason) fun _ _ _ => ?_))
      exact .await (hgood.within "" _ trivial) trivial fun _ _ => trivial

theorem cleanupExpiredBookings_keeps (hgood : RespectedApart good) :
    Keeps good cleanupExpiredBookings m := by
  refine swallow_keeps (.bind (.await (hgood.within "" _ trivial) trivial fun now _ => ?_))
  refine .bind (.await (hgood.within "" _ trivial) trivial fun expiredBookings _ => ?_)
  refine .forM (fun booking m _ => ?_) _ trivial
  exact swallow_keeps (.seq (cancelBooking_keeps hgood _ _) fun _ _ _ => .pure trivial)

theorem request_keeps (hgood : Respected good) (request : Request) :
    Keeps good request.call m := by
  have hapart := hgood.apart
  cases request with
  | executeBookingSaga dto key =>
      exact .seq (executeBookingSaga_keeps hapart dto key) fun _ _ _ => .pure trivial
  | completeBooking id paymentTransactionId =>
      have hbody : ∀ m : Memory, m.saga.bookingId = id →
          Commits good .completeBooking id (completeBody id paymentTransactionId) m := by
        intro m hid
        subst hid
        exact (completeBody_writes paymentTransactionId).mono
          (fun _ _ h => ⟨h.1, hgood.commit _ _ _ nofun h.2⟩) fun _ h => h
      exact .seq (completeBooking_keeps hapart hbody) fun _ _ _ => .pure trivial
  | cancelBooking id reason =>
      exact .seq (cancelBooking_keeps hapart id reason) fun _ _ _ => .pure trivial
  | cleanupExpiredBookings =>
      exact .seq (cleanupExpiredBookings_keeps hapart) fun _ _ _ => .pure trivial
  | wait ms => exact .bind (.await (hgood.within "" _ trivial) trivial fun _ _ => .pure trivial)

theorem request_shaped (request : Request) : Keeps Op.Shaped request.call m :=
  request_keeps respected_shaped request

end EntryPoints

/-! ## What an operation changes -/

variable {choice : Choice} {op : Op} {w w' : World} {r : Except Exception op.Ret} {tx : Tx}

theorem performWith_cases (h : performWith choice op w = some (r, w')) :
    (∃ e, choice.fails = some e ∧ r = .error e ∧ w' = w) ∨
      ((op.fallible = true → choice.fails = none) ∧
        op.perform choice.uuid w = some (r, w')) := by
  unfold performWith at h
  cases hfails : choice.fails with
  | none =>
      rw [hfails] at h
      exact .inr ⟨fun _ => rfl, h⟩
  | some e =>
      rw [hfails] at h
      cases hfallible : op.fallible with
      | true =>
          simp only [hfallible, if_true, Option.some.injEq, Prod.mk.injEq] at h
          exact .inl ⟨e, rfl, h.1.symm, h.2.symm⟩
      | false =>
          simp only [hfallible, Bool.false_eq_true, if_false] at h
          exact .inr ⟨nofun, h⟩

/-- The tables change when a saga is inserted and when a transaction commits, and then only. -/
theorem perform_tables (h : performWith choice op w = some (r, w')) :
    (w'.sagas = w.sagas ∧ w'.bookings = w.bookings ∧ w'.outbox = w.outbox ∧
      ∀ tx id writes, op = .commit tx id writes → choice.fails = none →
        writes.all (Write.unique w) = false) ∨
    (∃ s, op = .insertSaga s ∧ choice.fails = none ∧ w' = { w with sagas := w.sagas ++ [s] }) ∨
    (∃ tx id writes, op = .commit tx id writes ∧ choice.fails = none ∧
      writes.all (Write.unique w) = true ∧ w' = applyAll writes w) := by
  rcases performWith_cases h with ⟨e, hfails, -, rfl⟩ | ⟨hfails, h⟩
  · refine .inl ⟨rfl, rfl, rfl, ?_⟩
    intro tx id writes _ hnone
    rw [hfails] at hnone
    cases hnone
  cases op with
  | insertSaga s =>
      cases h
      exact .inr (.inl ⟨s, rfl, hfails rfl, rfl⟩)
  | commit tx id writes =>
      simp only [Op.perform] at h
      split at h
      · rename_i hunique
        cases h
        exact .inr (.inr ⟨tx, id, writes, rfl, hfails rfl, hunique, rfl⟩)
      · rename_i hunique
        cases h
        refine .inl ⟨rfl, rfl, rfl, ?_⟩
        intro tx' id' writes' hop _
        cases hop
        exact Bool.eq_false_iff.mpr hunique
  | uuid =>
      simp only [Op.perform] at h
      split at h
      · cases h
      · cases h
        exact .inl ⟨rfl, rfl, rfl, fun _ _ _ hop => by cases hop⟩
  | _ =>
      cases h
      exact .inl ⟨rfl, rfl, rfl, fun _ _ _ hop => by cases hop⟩

/-- A commit fails and leaves the tables, or applies all the statements of its transaction. -/
theorem perform_commit {id : String} {writes : List Write} {r : Except Exception Unit}
    (h : performWith choice (.commit tx id writes) w = some (r, w')) :
    (∃ e, r = .error e ∧ w' = w) ∨
      (choice.fails = none ∧ r = .ok () ∧ w' = applyAll writes w) := by
  rcases performWith_cases h with ⟨e, -, hr, hw⟩ | ⟨hfails, h⟩
  · exact .inl ⟨e, hr, hw⟩
  · simp only [Op.perform] at h
    split at h
    · cases h
      exact .inr ⟨hfails rfl, rfl, rfl⟩
    · cases h
      exact .inl ⟨duplicateKey, rfl, rfl⟩

theorem applyAll_issued (writes : List Write) (w : World) :
    (applyAll writes w).issued = w.issued := by
  unfold applyAll
  induction writes generalizing w with
  | nil => rfl
  | cons write writes ih =>
      have happly : (write.apply w).issued = w.issued := by
        cases write <;> rfl
      exact (ih (write.apply w)).trans happly

theorem applyAll_redis (writes : List Write) (w : World) :
    (applyAll writes w).redis = w.redis := by
  unfold applyAll
  induction writes generalizing w with
  | nil => rfl
  | cons write writes ih =>
      have happly : (write.apply w).redis = w.redis := by
        cases write <;> rfl
      exact (ih (write.apply w)).trans happly

theorem perform_issued (h : performWith choice op w = some (r, w')) :
    ∀ u ∈ w.issued, u ∈ w'.issued := by
  intro u hu
  rcases performWith_cases h with ⟨e, -, -, rfl⟩ | ⟨-, h⟩
  · exact hu
  cases op with
  | uuid =>
      simp only [Op.perform] at h
      split at h
      · cases h
      · cases h
        exact List.mem_cons_of_mem _ hu
  | commit tx id writes =>
      simp only [Op.perform] at h
      split at h
      · cases h
        rwa [applyAll_issued]
      · cases h
        exact hu
  | _ =>
      cases h
      exact hu

/-! ## What a committed transaction leaves -/

/-- The status that a transaction gives to the saga it saves. -/
def Tx.status : Tx → SagaStatus
  | .createBooking => .initiated
  | .lockSeats => .seatsLocked
  | .reserveFlightSeats => .flightReserved
  | .completeBooking => .bookingConfirmed
  | .compensate => .compensated

/-- The transaction that stores an event. -/
def EventBody.storedBy : EventBody → Tx
  | .bookingCreated _ _ => .createBooking
  | .reserveSeats _ => .reserveFlightSeats
  | .confirmSeats _ => .completeBooking
  | .releaseSeats _ => .compensate
  | .bookingConfirmed _ _ => .completeBooking

variable {id id' : String} {writes : List Write}

theorem shape_saga (h : Shape tx id writes) (w : World) :
    ∃ s, (applyAll writes w).saga id = some s ∧ s.status = tx.status := by
  cases h with
  | createBooking s now eventId hstatus => exact ⟨s, Table.find_upsert_self, hstatus⟩
  | lockSeats s hstatus => exact ⟨s, Table.find_upsert_self, hstatus⟩
  | reserveFlightSeats s eventId hstatus => exact ⟨s, Table.find_upsert_self, hstatus⟩
  | completeBooking s confirmId confirmedId paymentTransactionId now hstatus =>
      exact ⟨s, Table.find_upsert_self, hstatus⟩
  | compensate s releaseId reason now hstatus hrelease =>
      refine ⟨s, ?_, hstatus⟩
      cases releaseId <;> exact Table.find_upsert_self

theorem shape_saga_of_ne (h : Shape tx id writes) (hne : id' ≠ id) (w : World) :
    (applyAll writes w).saga id' = w.saga id' := by
  cases h with
  | createBooking s now eventId hstatus => exact Table.find_upsert_of_ne hne
  | lockSeats s hstatus => exact Table.find_upsert_of_ne hne
  | reserveFlightSeats s eventId hstatus => exact Table.find_upsert_of_ne hne
  | completeBooking s confirmId confirmedId paymentTransactionId now hstatus =>
      exact Table.find_upsert_of_ne hne
  | compensate s releaseId reason now hstatus hrelease =>
      have hsaved : Table.find SagaState.bookingId id' (Table.upsert SagaState.bookingId s
          (Table.upsert SagaState.bookingId { s with status := .compensating } w.sagas)) =
          w.saga id' :=
        (Table.find_upsert_of_ne hne).trans (Table.find_upsert_of_ne hne)
      cases releaseId <;> exact hsaved

theorem shape_booking_of_ne (h : Shape tx id writes) (hne : id' ≠ id) (w : World) :
    (applyAll writes w).booking id' = w.booking id' := by
  have hmodify : ∀ change : BookingChange,
      Table.find Booking.bookingReference id'
        (Table.modify Booking.bookingReference id change.apply w.bookings) = w.booking id' := by
    intro change
    refine Table.find_modify_of_ne ?_ hne
    intro b hb
    rw [BookingChange.apply_bookingReference, hb]
  cases h with
  | createBooking s now eventId hstatus =>
      have hother : ¬(newBooking s now).bookingReference = id' := Ne.symm hne
      exact Table.find_insert.trans (by rw [if_neg hother, Option.or_none])
  | lockSeats s hstatus => rfl
  | reserveFlightSeats s eventId hstatus => exact hmodify .pending
  | completeBooking s confirmId confirmedId paymentTransactionId now hstatus =>
      exact hmodify (.booked paymentTransactionId now)
  | compensate s releaseId reason now hstatus hrelease =>
      cases releaseId <;> exact hmodify (.cancelled reason now)

/-- A transaction appends its own events, for its own booking; a compensation at most one. -/
theorem shape_outbox (h : Shape tx id writes) (w : World) :
    ∃ events, (applyAll writes w).outbox = w.outbox ++ events ∧
      (∀ e ∈ events, OutboxEvent.aggregateId e = id ∧ e.body.storedBy = tx) ∧
      (tx = .compensate → events.length ≤ 1) := by
  cases h with
  | createBooking s now eventId hstatus =>
      exact ⟨_, rfl, by simp [EventBody.storedBy], nofun⟩
  | lockSeats s hstatus => exact ⟨[], (List.append_nil _).symm, by simp, nofun⟩
  | reserveFlightSeats s eventId hstatus =>
      exact ⟨_, rfl, by simp [EventBody.storedBy], nofun⟩
  | completeBooking s confirmId confirmedId paymentTransactionId now hstatus =>
      refine ⟨_, List.append_assoc _ _ _, ?_, nofun⟩
      simp [EventBody.storedBy]
  | compensate s releaseId reason now hstatus hrelease =>
      cases releaseId with
      | none => exact ⟨[], (List.append_nil _).symm, by simp, by simp⟩
      | some eventId => exact ⟨_, rfl, by simp [EventBody.storedBy], by simp⟩

theorem shape_outbox_of_ne (h : Shape tx id writes) (hne : id' ≠ id) (w : World)
    (p : EventBody → Bool) :
    ((applyAll writes w).outbox.countP fun e => e.aggregateId = id' && p e.body) =
      w.outbox.countP fun e => e.aggregateId = id' && p e.body := by
  obtain ⟨events, houtbox, hevents, -⟩ := shape_outbox h w
  have hnone : (events.countP fun e => e.aggregateId = id' && p e.body) = 0 := by
    rw [List.countP_eq_zero]
    intro e he
    have hid := (hevents e he).1
    simp [hid, Ne.symm hne]
  rw [houtbox, List.countP_append, hnone, Nat.add_zero]

theorem perform_replies (h : performWith choice op w = some (r, w')) : op.Replies r := by
  rcases performWith_cases h with ⟨e, -, rfl, -⟩ | ⟨-, h⟩
  · cases op with
    | findSaga id =>
        intro s hs
        cases hs
    | _ => trivial
  · cases op with
    | findSaga id =>
        cases h
        intro s hs
        exact (Table.mem_of_find (Except.ok.inj hs)).2
    | _ => trivial

end FlightBookings.Booking
