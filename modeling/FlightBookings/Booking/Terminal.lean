import FlightBookings.Booking.Identifiers

/-! # Cancelled bookings

In a serial run every call finds the saga row as the previous call left it, so
the guard of the compensation still holds when its transaction commits. The
completion has no such guard: a cancelled booking is final exactly in the serial
runs without a completion of a cancelled booking.
-/

namespace FlightBookings.Booking

open Await

/-- The saga is compensated and the booking cancelled. -/
def Terminal (w : World) (id : String) : Prop :=
  (∃ s ∈ w.saga id, s.status = .compensated) ∧ ∃ b ∈ w.booking id, b.status = .cancelled

instance (w : World) (id : String) : Decidable (Terminal w id) :=
  inferInstanceAs (Decidable (_ ∧ _))

def EventBody.isConfirmation : EventBody → Bool
  | .confirmSeats _ => true
  | .bookingConfirmed _ _ => true
  | _ => false

def confirmations (w : World) (id : String) : Nat :=
  w.outbox.countP fun e => e.aggregateId = id && e.body.isConfirmation

structure StaysCancelled (id : String) (e : Event) : Prop where
  terminal : Terminal e.after id
  paymentStatus : (e.after.booking id).map Booking.paymentStatus =
    (e.before.booking id).map Booking.paymentStatus
  confirmations : confirmations e.after id = confirmations e.before id

/-- What is cancelled stays cancelled, unpaid as it was, and nothing is confirmed for it. -/
def Frozen (id : String) (e : Event) : Prop := Terminal e.before id → StaysCancelled id e

def AllFrozen (e : Event) : Prop := ∀ id, Frozen id e

/-- No completion commits for a cancelled booking. -/
def NoLateCompletion : Event → Prop
  | .performed w _ choice (.commit .completeBooking id _) _ =>
      choice.fails = none → ¬Terminal w id
  | _ => True

/-! ## What a serial call knows of the tables -/

/-- The saga of the booking is not compensated. -/
def Open (id : String) (w : World) : Prop := ∀ s ∈ w.saga id, s.status ≠ .compensated

/-- The tables are the same. -/
structure SameTables (w w' : World) : Prop where
  sagas : w'.sagas = w.sagas
  bookings : w'.bookings = w.bookings
  outbox : w'.outbox = w.outbox

variable {id id' : String} {w w' w'' : World} {tx : Tx} {writes : List Write}
variable {i : Nat} {choice : Choice} {op : Op}

theorem not_terminal_of_open (h : Open id w) : ¬Terminal w id := by
  intro hterminal
  obtain ⟨⟨s, hs, hcompensated⟩, -⟩ := hterminal
  exact h s hs hcompensated

/-- An operation that leaves the rows of a booking alone. -/
theorem frozen_of_rows {e : Event} (hsaga : e.after.saga id = e.before.saga id)
    (hbooking : e.after.booking id = e.before.booking id)
    (hconfirmations : confirmations e.after id = confirmations e.before id) : Frozen id e := by
  intro hterminal
  refine ⟨?_, congrArg _ hbooking, hconfirmations⟩
  rw [Terminal, hsaga, hbooking]
  exact hterminal

theorem SameTables.refl (w : World) : SameTables w w := ⟨rfl, rfl, rfl⟩

theorem SameTables.trans (h : SameTables w w') (h' : SameTables w' w'') : SameTables w w'' :=
  ⟨h'.sagas.trans h.sagas, h'.bookings.trans h.bookings, h'.outbox.trans h.outbox⟩

theorem SameTables.saga (h : SameTables w w') (id : String) : w'.saga id = w.saga id := by
  rw [World.saga, h.sagas]

theorem SameTables.isOpen (h : SameTables w w') (hopen : Open id w) : Open id w' := by
  unfold Open
  rw [h.saga]
  exact hopen

theorem SameTables.frozen (h : SameTables w w') : AllFrozen (.performed w i choice op w') := by
  intro id
  refine frozen_of_rows (h.saga id) ?_ ?_
  · simp only [Event.after, Event.before, World.booking, h.bookings]
  · simp only [Event.after, Event.before, confirmations, h.outbox]

theorem within_sameTables {r : Except Exception op.Ret} (hop : op.Within id)
    (h : performWith choice op w = some (r, w')) : SameTables w w' := by
  rcases perform_tables h with ⟨hsagas, hbookings, houtbox, -⟩ | ⟨s, rfl, -, -⟩ |
    ⟨tx, id, writes, rfl, -, -, -⟩
  · exact ⟨hsagas, hbookings, houtbox⟩
  · exact hop.elim
  · exact hop.elim

theorem commit_frozen (h : Shape tx id writes) (hterminal : ¬Terminal w id) :
    AllFrozen (.performed w i choice op (applyAll writes w)) := by
  intro id' hid'
  have hne : id' ≠ id := fun heq => hterminal (heq ▸ hid')
  exact frozen_of_rows (shape_saga_of_ne h hne w) (shape_booking_of_ne h hne w)
    (shape_outbox_of_ne h hne w EventBody.isConfirmation) hid'

/-! ## The rules of a serial call -/

/-- The condition on a serial run, whose identifiers are known to be handed out. -/
def Timely (e : Event) : Prop := NoLateCompletion e ∧ BeforeOwned e

/-- A call that runs alone, in a run without late completions. -/
abbrev Alone {α : Type} (i : Nat) (c : Call α) (m : Memory) (w : World)
    (Q : α → Memory → World → Prop) (E : Memory → World → Prop) : Prop :=
  c.Ensures (service.alone Timely AllFrozen i) m w Q E

/-- Of the rest of a call nothing more needs to be known. -/
abbrev Freezes {α : Type} (i : Nat) (c : Call α) (m : Memory) (w : World) : Prop :=
  Alone i c m w (fun _ _ _ => True) fun _ _ => True

variable {m : Memory}

theorem Local.alone {α : Type} {c : Call α} {Q : α → Memory → Prop} (h : Local id c m Q) :
    Alone i c m w (fun a m' w' => Q a m' ∧ SameTables w w')
      fun m' w' => m'.saga.bookingId = id ∧ SameTables w w' := by
  refine h.frame ?_ (SameTables.refl w)
  intro op w₁ Q hop hw₁ hnext choice r w₂ hperform _
  have hsame := within_sameTables hop hperform
  exact ⟨hsame.frozen, hnext r w₂ (perform_replies hperform) (hw₁.trans hsame)⟩

theorem plain_alone {Q : op.Ret → Memory → World → Prop} {E : Memory → World → Prop}
    (hop : op.Plain) (hE : ∀ w', SameTables w w' → E m w')
    (h : ∀ choice a w', BeforeOwned (.performed w i choice op w') →
      performWith choice op w = some (.ok a, w') → SameTables w w' → Q a m w') :
    Alone i (Call.await op) m w Q E := by
  intro choice r w' hperform hallows
  have hsame := within_sameTables (hop "") hperform
  refine ⟨hsame.frozen, ?_⟩
  cases r with
  | ok a => exact h choice a w' hallows.2 hperform hsame
  | error e => exact hE w' hsame

theorem plain_freezes (hop : op.Plain) : Freezes i (Call.await op) m w :=
  plain_alone hop (fun _ _ => trivial) fun _ _ _ _ _ _ => trivial

theorem commit_alone (hshape : Shape tx id writes) (htx : tx = .completeBooking ∨ Open id w) :
    Alone i (Call.await (Op.commit tx id writes)) m w
      (fun _ m' w' => m' = m ∧ (tx ≠ .compensate → Open id w'))
      fun m' w' => m' = m ∧ SameTables w w' := by
  intro choice r w' hperform hallows
  rcases perform_commit hperform with ⟨e, rfl, rfl⟩ | ⟨hfails, rfl, rfl⟩
  · exact ⟨(SameTables.refl _).frozen, rfl, SameTables.refl _⟩
  · have hterminal : ¬Terminal w id := by
      rcases htx with rfl | hopen
      · exact hallows.1 hfails
      · exact not_terminal_of_open hopen
    refine ⟨commit_frozen hshape hterminal, rfl, fun htx s hs => ?_⟩
    obtain ⟨s', hs', hstatus⟩ := shape_saga hshape w
    have heq : s' = s := Option.some.inj (hs'.symm.trans hs)
    rw [← heq, hstatus]
    cases tx <;> simp_all [Tx.status]

/-- What a call keeps between its transactions. -/
structure Holds (id : String) (m : Memory) (w : World) : Prop where
  bookingId : m.saga.bookingId = id
  isOpen : Open id w

theorem transaction_alone {body : Call Unit} (h : Writes tx id body m)
    (hid : m.saga.bookingId = id) (htx : tx = .completeBooking ∨ Open id w) :
    Alone i (transaction tx body) m w
      (fun _ m' w' => m'.saga.bookingId = id ∧ (tx ≠ .compensate → Open id w'))
      fun m' w' => m'.saga.bookingId = id ∧ SameTables w w' := by
  refine .bind (plain_alone (fun _ => trivial) (fun w' hw => ⟨hid, hw⟩) fun _ _ w₁ _ _ hw₁ => ?_)
  refine .bind (.remember (.andThen h.alone ?_ ?_))
  · intro m₂ w₂ hbody
    exact ⟨hbody.1, hw₁.trans hbody.2⟩
  · intro _ m₂ w₂ hbody
    obtain ⟨⟨hid₂, hshape⟩, hw₂⟩ := hbody
    have hsame := hw₁.trans hw₂
    have htx₂ : tx = .completeBooking ∨ Open id w₂ := htx.imp_right hsame.isOpen
    subst hid₂
    refine .bind (.memory ((commit_alone hshape htx₂).mono ?_ ?_))
    · intro _ m₃ w₃ hcommit
      obtain ⟨rfl, hcommit⟩ := hcommit
      exact ⟨rfl, hcommit⟩
    · intro m₃ w₃ hcommit
      obtain ⟨rfl, hw₃⟩ := hcommit
      exact ⟨rfl, hsame.trans hw₃⟩

/-! ## The entry points -/

section EntryPoints

theorem compensate_freezes (message : String) (hid : m.saga.bookingId = id)
    (hopen : m.saga.status ≠ .compensated → Open id w) : Freezes i (compensate message) m w := by
  refine .bind (.memory ?_)
  split
  · exact .pure trivial
  · rename_i hstatus
    subst hid
    have htx := transaction_alone (i := i) (compensateBody_writes (m := m) message) rfl
      (.inr (hopen hstatus))
    exact .tryCatch (htx.mono (fun _ _ _ _ => trivial) fun _ _ h => h) fun _ _ _ _ => .pure trivial

theorem compensating_alone {body : Call Unit}
    (h : Alone i body m w (fun _ => Holds id) (Holds id)) :
    Alone i (compensating body) m w (fun _ => Holds id) fun _ _ => True := by
  refine .tryCatch h fun e m' w' hw' => ?_
  exact .seq (compensate_freezes e.message hw'.bookingId fun _ => hw'.isOpen)
    fun _ _ _ _ => .throw trivial

theorem step_alone {body : Call Unit} (h : Writes tx id body m) (htx : tx ≠ .compensate)
    (hw : Holds id m w) :
    Alone i (transaction tx body) m w (fun _ => Holds id) (Holds id) := by
  refine (transaction_alone h hw.bookingId (.inr hw.isOpen)).mono ?_ ?_
  · intro _ m' w' hdone
    exact ⟨hdone.1, hdone.2 htx⟩
  · intro m' w' hfailed
    exact ⟨hfailed.1, hfailed.2.isOpen hw.isOpen⟩

theorem executeStep1_alone (hw : Holds id m w) :
    Alone i executeStep1_CreateBooking m w (fun _ => Holds id) fun _ _ => True := by
  refine .bind (.memory ?_)
  split
  · exact .pure hw
  · have hid := hw.bookingId
    subst hid
    exact (step_alone createBookingBody_writes nofun hw).mono (fun _ _ _ h => h)
      fun _ _ _ => trivial

theorem executeStep2_alone (hw : Holds id m w) :
    Alone i executeStep2_LockSeats m w (fun _ => Holds id) fun _ _ => True := by
  refine .bind (.memory ?_)
  split
  · exact .pure hw
  · refine compensating_alone ?_
    have hid := hw.bookingId
    subst hid
    have hlock := seatLock_local (m := m) (SeatLock.lockSeats_sends m.saga.payload.flightId
      (m.saga.payload.seatNumbers.getD []) m.saga.bookingId m.saga.payload.userId) rfl
    refine .andThen hlock.alone ?_ ?_
    · intro m' w' hfailed
      exact ⟨hfailed.1, hfailed.2.isOpen hw.isOpen⟩
    · intro locked m' w' hlocked
      obtain ⟨rfl, hsame⟩ := hlocked
      have hw' : Holds m'.saga.bookingId m' w' := ⟨rfl, hsame.isOpen hw.isOpen⟩
      split
      · exact step_alone (lockSeatsBody_writes locked.lockKey) nofun hw'
      · exact .throw hw'

theorem executeStep3_alone (hw : Holds id m w) :
    Alone i executeStep3_ReserveFlightSeats m w (fun _ => Holds id) fun _ _ => True := by
  refine .bind (.memory ?_)
  split
  · exact .pure hw
  · have hid := hw.bookingId
    subst hid
    exact compensating_alone (step_alone reserveFlightSeatsBody_writes nofun hw)

theorem insertSaga_frozen {s : SagaState} :
    AllFrozen (.performed w i choice op { w with sagas := w.sagas ++ [s] }) := by
  intro id hterminal
  obtain ⟨s', hs', -⟩ := hterminal.1
  have hfind : Table.find SagaState.bookingId id w.sagas = some s' := hs'
  have hinsert : Table.find SagaState.bookingId id (w.sagas ++ [s]) = some s' := by
    rw [Table.find_insert, hfind, Option.some_or]
  exact frozen_of_rows (hinsert.trans hfind.symm) rfl rfl hterminal

/-- The saga of a new booking is open. -/
theorem insertSaga_alone {s : SagaState} (hfresh : w.saga s.bookingId = none)
    (hstatus : s.status = .initiated) :
    Alone i (Call.await (Op.insertSaga s)) m w (fun _ _ w' => Open s.bookingId w')
      fun _ _ => True := by
  intro choice r w' hperform _
  rcases performWith_cases hperform with ⟨e, -, rfl, rfl⟩ | ⟨-, h⟩
  · exact ⟨(SameTables.refl _).frozen, trivial⟩
  · cases h
    refine ⟨insertSaga_frozen, fun s' hs' => ?_⟩
    have hs' : Table.find SagaState.bookingId s.bookingId (w.sagas ++ [s]) = some s' := hs'
    have hfresh : Table.find SagaState.bookingId s.bookingId w.sagas = none := hfresh
    rw [Table.find_insert, hfresh, if_pos rfl, Option.none_or, Option.some.injEq] at hs'
    rw [← hs', hstatus]
    decide

/-- No saga has the identifier of a new booking yet. -/
theorem uuid_alone :
    Alone i (Call.await Op.uuid) m w (fun u _ w' => w'.saga u = none) fun _ _ => True := by
  refine plain_alone (fun _ => trivial) (fun _ _ => trivial) fun choice u w' howned hdraw hsame => ?_
  cases hfind : w'.saga u with
  | none => rfl
  | some s =>
      rw [hsame.saga] at hfind
      exact absurd (howned.sagas u s hfind) (perform_uuid hdraw).1

theorem findExistingSaga_freezes (key : Option String) : Freezes i (findExistingSaga key) m w := by
  unfold findExistingSaga
  split
  · split
    · exact .pure trivial
    · exact plain_freezes fun _ => trivial
  · exact .pure trivial

theorem executeBookingSaga_freezes (dto : CreateBookingDto) (key : Option String) :
    Freezes i (executeBookingSaga dto key) m w := by
  refine .seq (findExistingSaga_freezes key) fun existing m w _ => ?_
  cases existing with
  | some saga => exact plain_freezes fun _ => trivial
  | none =>
      refine .seq (plain_freezes fun _ => trivial) fun sagaId m w _ => ?_
      refine .andThen uuid_alone (fun _ _ h => h) fun bookingId m w hnone => ?_
      refine .andThen (insertSaga_alone hnone rfl) (fun _ _ h => h) fun _ m w hopen => ?_
      refine .bind (.remember ?_)
      have hw : Holds bookingId { m with saga := newSaga sagaId bookingId dto key } w := ⟨rfl, hopen⟩
      refine .andThen (executeStep1_alone hw) (fun _ _ h => h) fun _ m w hw => ?_
      refine .andThen (executeStep2_alone hw) (fun _ _ h => h) fun _ m w hw => ?_
      refine .andThen (executeStep3_alone hw) (fun _ _ h => h) fun _ m w _ => ?_
      exact plain_freezes fun _ => trivial

/-- What a lookup found is the saga row. -/
theorem findSaga_alone {bookingId : String} :
    Alone i (Call.await (Op.findSaga bookingId)) m w (fun found _ w' => w'.saga bookingId = found)
      fun _ _ => True := by
  refine plain_alone (fun _ => trivial) (fun _ _ => trivial) fun choice found w' _ hperform _ => ?_
  rcases performWith_cases hperform with ⟨e, -, hr, -⟩ | ⟨-, hperform⟩
  · cases hr
  · cases hperform
    rfl

theorem completeBooking_freezes (bookingId paymentTransactionId : String) :
    Freezes i (completeBooking bookingId paymentTransactionId) m w := by
  refine .andThen findSaga_alone (fun _ _ h => h) fun found m w hfound => ?_
  cases found with
  | none => exact .throw trivial
  | some saga =>
      obtain ⟨-, rfl⟩ := Table.mem_of_find hfound
      dsimp only
      split
      · exact plain_freezes fun _ => trivial
      · refine .bind (.remember ?_)
        have htx := transaction_alone (i := i) (w := w) (completeBody_writes (m := { m with saga })
          paymentTransactionId) rfl (.inl rfl)
        refine .andThen htx (fun _ _ _ => trivial) fun _ m w hdone => ?_
        have hrelease := seatLock_local (m := m)
          (SeatLock.releaseSeats_sends saga.payload.flightId saga.bookingId) hdone.1
        refine .andThen hrelease.alone (fun _ _ _ => trivial) fun _ m w _ => ?_
        exact plain_freezes fun _ => trivial

theorem cancelBooking_freezes (bookingId reason : String) :
    Freezes i (cancelBooking bookingId reason) m w := by
  refine .andThen findSaga_alone (fun _ _ h => h) fun found m w hfound => ?_
  cases found with
  | none => exact .throw trivial
  | some saga =>
      have hopen : saga.status ≠ .compensated → Open bookingId w := by
        intro hstatus s hs
        have heq : saga = s := Option.some.inj (hfound.symm.trans hs)
        rwa [← heq]
      have hid : saga.bookingId = bookingId := (Table.mem_of_find hfound).2
      refine .bind (.remember (.seq (compensate_freezes reason hid hopen) fun _ m w _ => ?_))
      exact plain_freezes fun _ => trivial

theorem cleanupExpiredBookings_freezes : Freezes i cleanupExpiredBookings m w := by
  refine .tryCatch (.seq (plain_freezes fun _ => trivial) fun now m w _ => ?_) fun _ _ _ _ =>
    .pure trivial
  refine .seq (plain_freezes fun _ => trivial) fun expiredBookings m w _ => ?_
  refine .forM (fun _ _ _ => True) (fun booking m w _ _ => ?_) _ trivial
  exact .tryCatch (.seq (cancelBooking_freezes _ _) fun _ _ _ _ => .pure trivial)
    fun _ _ _ _ => .pure trivial

theorem request_freezes (request : Request) : Freezes i request.call m w := by
  cases request with
  | executeBookingSaga dto key =>
      exact .seq (executeBookingSaga_freezes dto key) fun _ _ _ _ => .pure trivial
  | completeBooking id paymentTransactionId =>
      exact .seq (completeBooking_freezes id paymentTransactionId) fun _ _ _ _ => .pure trivial
  | cancelBooking id reason =>
      exact .seq (cancelBooking_freezes id reason) fun _ _ _ _ => .pure trivial
  | cleanupExpiredBookings =>
      exact .seq cleanupExpiredBookings_freezes fun _ _ _ _ => .pure trivial
  | wait ms => exact .seq (plain_freezes fun _ => trivial) fun _ _ _ _ => .pure trivial

end EntryPoints

/-! ## Serial runs -/

variable {ms : List (Move Request Choice)} {es : List Event}
variable {P : ServicePool}

theorem allFrozen_of_noLateCompletion {now : Nat}
    (hrun : service.run ms (Pool.init (World.init now)) = some (es, P))
    (hserial : service.serial ms (Pool.init (World.init now)) = true)
    (hallows : ∀ e ∈ es, NoLateCompletion e) : ∀ e ∈ es, AllFrozen e := by
  have htimely : ∀ e ∈ es, Timely e := fun e he => ⟨hallows e he, (owned_run hrun).2 e he⟩
  have hstarted : ∀ (w : World) (i : Nat) (request : Request), True →
      Timely (.started w i request) →
      (service.program request).wp (service.alone Timely AllFrozen i) (fun _ _ => True) w ∧
        AllFrozen (.started w i request) := by
    intro w i request _ _
    exact ⟨(request_freezes request).program, fun id => frozen_of_rows rfl rfl rfl⟩
  exact (System.run_serial hstarted hrun hserial htimely rfl trivial).2

theorem noLateCompletion_of_allFrozen {now : Nat}
    (hrun : service.run ms (Pool.init (World.init now)) = some (es, P))
    (hfrozen : ∀ e ∈ es, AllFrozen e) : ∀ e ∈ es, NoLateCompletion e := by
  have hstarted : ∀ (w : World) (i : Nat) (request : Request), True →
      AllFrozen (.started w i request) →
      (service.program request).Emits Op.Shaped Op.Replies ∧
        NoLateCompletion (.started w i request) := by
    intro w i request _ _
    exact ⟨(request_shaped request).program, trivial⟩
  suffices hperform : ∀ (w : World) (i : Nat) (choice : Choice) (op : Op)
      (r : Except Exception op.Ret) (w' : World), op.Shaped → True →
      service.perform i choice op w = some (r, w') → AllFrozen (.performed w i choice op w') →
      op.Replies r ∧ True ∧ NoLateCompletion (.performed w i choice op w') from
    (System.run_ops hstarted hperform hrun hfrozen trivial (by simp [Pool.init])).2
  intro w i choice op r w' hshaped _ h hfrozen
  refine ⟨perform_replies h, trivial, ?_⟩
  rcases perform_tables h with ⟨-, -, -, hcommit⟩ | ⟨s, rfl, -, -⟩ | ⟨tx, id, writes, rfl, -, -, rfl⟩
  · cases op with
    | commit tx id writes =>
        cases tx with
        | completeBooking =>
            intro hfails
            have hunique := hcommit _ _ _ rfl hfails
            cases hshaped
            simp [Write.unique] at hunique
        | _ => trivial
    | _ => trivial
  · trivial
  · cases tx with
    | completeBooking =>
        intro _ hterminal
        obtain ⟨s, hs, hstatus⟩ := shape_saga hshaped w
        obtain ⟨s', hs', hcompensated⟩ := (hfrozen id hterminal).terminal.1
        have heq : s = s' := Option.some.inj (hs.symm.trans hs')
        rw [← heq, hstatus] at hcompensated
        cases hcompensated
    | _ => trivial

/-- Cancellation is final in a serial run exactly when no completion commits after it. -/
theorem cancellation_terminal_iff {now : Nat}
    (hrun : service.run ms (Pool.init (World.init now)) = some (es, P))
    (hserial : service.serial ms (Pool.init (World.init now)) = true) :
    (∀ e ∈ es, AllFrozen e) ↔ ∀ e ∈ es, NoLateCompletion e :=
  ⟨noLateCompletion_of_allFrozen hrun, allFrozen_of_noLateCompletion hrun hserial⟩

/-- A booking that is cancelled, cancelled again, and then met by the cleanup. -/
theorem cancellation_terminal_serial :
    ∃ es P, service.run
        (reserved ++ .start (.cancelBooking "a1" "r") :: succeeds 1 "c" 14 ++
          .start (.cancelBooking "a1" "r") :: succeeds 2 "d" 2 ++
          .start .cleanupExpiredBookings :: succeeds 3 "e" 2)
        (Pool.init (World.init 0)) = some (es, P) ∧
      ((∀ e ∈ es, AllFrozen e) ↔ ∀ e ∈ es, NoLateCompletion e) := by
  have hrun : (service.run
      (reserved ++ .start (.cancelBooking "a1" "r") :: succeeds 1 "c" 14 ++
        .start (.cancelBooking "a1" "r") :: succeeds 2 "d" 2 ++
        .start .cleanupExpiredBookings :: succeeds 3 "e" 2)
      (Pool.init (World.init 0))).any (fun result => result.2.idle) = true := by decide +kernel
  obtain ⟨es, P, hrun, -⟩ := System.exists_run hrun
  exact ⟨es, P, hrun, cancellation_terminal_iff hrun (by decide +kernel)⟩

/-- A payment that arrives after the cancellation books the cancelled booking. -/
theorem cancelled_then_booked :
    ¬∀ now ms es P, service.run ms (Pool.init (World.init now)) = some (es, P) →
      service.serial ms (Pool.init (World.init now)) = true → ∀ e ∈ es, AllFrozen e := by
  intro h
  have hrun : (service.run
      (reserved ++ .start (.cancelBooking "a1" "r") :: succeeds 1 "c" 14 ++
        .start (.completeBooking "a1" "t") :: succeeds 2 "d" 12)
      (Pool.init (World.init 0))).any (fun result =>
        result.2.idle && result.1.any fun e => Terminal e.before "a1" ∧ ¬Terminal e.after "a1") =
      true := by decide +kernel
  obtain ⟨es, P, hrun, hlate⟩ := System.exists_run hrun
  have hlate : ∃ e ∈ es, Terminal e.before "a1" ∧ ¬Terminal e.after "a1" := by
    simpa using (Bool.and_eq_true_iff.mp hlate).2
  obtain ⟨e, he, hbefore, hafter⟩ := hlate
  exact hafter (h 0 _ es P hrun (by decide +kernel) e he "a1" hbefore).terminal

end FlightBookings.Booking
