import FlightBookings.Booking.Cancellation

/-! # Completions that are tried again

A completion commits its transaction and then releases the seat locks. When a
release fails, the completion throws, and the next try returns before it comes to
the release. Tries that take turns leave a complete booking as long as no command
of a release fails on a live key of it.
-/

namespace FlightBookings.Booking

open Await

/-! ## What a completion leaves -/

/-- The events of one type that the outbox holds for a booking. -/
def stored (w : World) (bookingId eventType : String) : Nat :=
  w.outbox.countP fun e => e.aggregateId = bookingId && e.body.eventType = eventType

structure Completed (id : String) (w : World) : Prop where
  confirmSeats : stored w id "flight.confirm-seats" = 1
  bookingConfirmed : stored w id "booking.confirmed" = 1
  booking : ∃ b, w.booking id = some b ∧ b.status = .booked ∧ b.paymentStatus = .completed ∧
    b.expiresAt = none
  clear : Clear id w.redis

/-- The booking key lists the seats of all other keys of the booking, and outlives them. -/
def Covered (id : String) (flightId : Int) (r : SeatLock.Redis) : Prop :=
  ∀ (k : SeatLock.Key) (e : SeatLock.Value k × Nat), r.live k = some e → owner k e.1 = id →
    k = .booking flightId id ∨ ∃ seat data deadline, k = .seat flightId seat ∧
      r.live (.booking flightId id) = some (data, deadline) ∧
      seat ∈ SeatLock.BookingData.seats data ∧ e.2 ≤ deadline

/-- What a completion needs to find. -/
structure Completable (id : String) (flightId : Int) (w : World) : Prop where
  booking : ∃ b, w.booking id = some b
  confirmSeats : stored w id "flight.confirm-seats" = 0
  bookingConfirmed : stored w id "booking.confirmed" = 0
  covered : Covered id flightId w.redis

/-! ## Tries -/

def Request.isWait : Request → Bool
  | .wait _ => true
  | _ => false

/-- A completion of the booking is started, or time passes. -/
def Event.tries (id : String) : Event → Bool
  | .started _ _ (.completeBooking bookingId _) => bookingId = id
  | .started _ _ request => request.isWait
  | .performed _ _ _ _ _ => true

/-- A command of a release fails on a live key of the booking. -/
def Event.leavesKey (id : String) : Event → Bool
  | .performed w _ c (.redis (.get key)) _ => c.fails.isSome && holds id w.redis key
  | .performed w _ c (.redis (.del key _)) _ => c.fails.isSome && holds id w.redis key
  | _ => false

/-! ## Assertions that last -/

section Assertions

/-- The saga is at its third step, and its completion has not committed. -/
structure Pending (id : String) (saga : SagaState) (w : World) : Prop
    extends Completable id saga.payload.flightId w where
  row : w.saga id = some saga
  status : saga.status = .flightReserved

/-- The completion has committed. -/
structure Committed (id : String) (w : World) : Prop where
  saga : ∃ s, w.saga id = some s ∧ s.status = .bookingConfirmed
  confirmSeats : stored w id "flight.confirm-seats" = 1
  bookingConfirmed : stored w id "booking.confirmed" = 1
  booking : ∃ b, w.booking id = some b ∧ b.status = .booked ∧ b.paymentStatus = .completed ∧
    b.expiresAt = none

/-- Time passes, and nothing else that the tables and the keys would show. -/
structure Passing (w w' : World) : Prop where
  tables : SameTables w w'
  redis : ∃ ms, w'.redis = w.redis.wait ms

variable {id : String} {flightId : Int} {saga : SagaState} {w w' w'' : World}
variable {r : SeatLock.Redis} {ms : Nat}

theorem Passing.refl (w : World) : Passing w w := ⟨.refl w, 0, rfl⟩

theorem Passing.trans (h : Passing w w') (h' : Passing w' w'') : Passing w w'' := by
  obtain ⟨ms, hms⟩ := h.redis
  obtain ⟨ms', hms'⟩ := h'.redis
  exact ⟨h.tables.trans h'.tables, ms + ms', by rw [hms', hms, Keyspace.wait_wait]⟩

theorem Passing.of_same (htables : SameTables w w') (hredis : w'.redis = w.redis) : Passing w w' :=
  ⟨htables, 0, hredis⟩

theorem SameTables.booking (h : SameTables w w') (id : String) : w'.booking id = w.booking id := by
  rw [World.booking, h.bookings]

theorem SameTables.stored (h : SameTables w w') (id eventType : String) :
    stored w' id eventType = stored w id eventType := by
  rw [Booking.stored, h.outbox, Booking.stored]

theorem stored_append {eventType : String} {events : List OutboxEvent}
    (houtbox : w'.outbox = w.outbox ++ events) :
    stored w' id eventType = stored w id eventType +
      events.countP fun e => e.aggregateId = id && e.body.eventType = eventType := by
  rw [stored, houtbox, List.countP_append, stored]

theorem Clear.wait (h : Clear id r) : Clear id (r.wait ms) :=
  fun k v hv => h k v (Keyspace.get_of_wait hv)

theorem Left.wait {seats : List String} (h : Left id flightId seats r) :
    Left id flightId seats (r.wait ms) :=
  fun k v hv => h k v (Keyspace.get_of_wait hv)

/-- The booking key goes last. -/
theorem Covered.wait (h : Covered id flightId r) : Covered id flightId (r.wait ms) := by
  intro k e he howner
  have hlate : (r.wait ms).now < e.2 := Keyspace.live_lt he
  rcases h k e (Keyspace.live_wait he) howner with hkey | ⟨seat, data, deadline, hkey, hdata, hmem, hle⟩
  · exact .inl hkey
  · refine .inr ⟨seat, data, deadline, hkey, ?_, hmem, hle⟩
    have hlate : r.now + ms < deadline := Nat.lt_of_lt_of_le hlate hle
    rw [Keyspace.live_wait_eq, hdata]
    simp [Option.filter, hlate]

theorem Covered.clear (h : Covered id flightId r) (hnone : r.get (.booking flightId id) = none) :
    Clear id r := by
  intro k v hv howner
  obtain ⟨deadline, hlive⟩ := Keyspace.get_eq_some.mp hv
  rcases h k _ hlive howner with rfl | ⟨seat, data, deadline', -, hdata, -⟩
  · rw [hnone] at hv
    cases hv
  · rw [Keyspace.get_eq_none, hdata] at hnone
    cases hnone

theorem Covered.left {data : SeatLock.BookingData} (h : Covered id flightId r)
    (hdata : r.get (.booking flightId id) = some data) : Left id flightId data.seats r := by
  intro k v hv howner
  obtain ⟨deadline, hlive⟩ := Keyspace.get_eq_some.mp hv
  obtain ⟨deadline', hbooking⟩ := Keyspace.get_eq_some.mp hdata
  rcases h k _ hlive howner with hkey | ⟨seat, data', deadline'', hkey, hdata', hmem, -⟩
  · exact .inl hkey
  · rw [hbooking, Option.some.injEq, Prod.mk.injEq] at hdata'
    exact .inr ⟨seat, hdata'.1 ▸ hmem, hkey⟩

/-- A granted lock is one. -/
theorem covered_lockAll {userId : Int} {ttl timestamp : Nat} {seats : List String} (httl : 0 < ttl)
    (hclear : Clear id r) :
    Covered id flightId (SeatLock.lockAll flightId id userId ttl timestamp seats r) := by
  have hmine : (SeatLock.lockAll flightId id userId ttl timestamp seats r).live
      (.booking flightId id) =
        some (⟨flightId, seats, userId, timestamp⟩, r.now + ttl * 1000) := by
    rw [SeatLock.lockAll, Keyspace.live_setex_self httl, SeatLock.foldl_lockSeat_now]
  intro k e he howner
  have hget := Keyspace.get_eq_some.mpr ⟨e.2, he⟩
  cases k with
  | booking f b =>
      rw [SeatLock.lockAll_booking httl] at hget
      split at hget
      · rename_i heq
        exact .inl (by rw [heq.1, heq.2])
      · exact absurd howner (hclear _ _ hget)
  | seat f seat =>
      rw [SeatLock.lockAll_seat httl] at he
      split at he
      · rename_i heq
        rw [Option.some.injEq] at he
        exact .inr ⟨seat, _, _, by rw [heq.1], hmine, heq.2, he ▸ Nat.le_refl _⟩
      · exact absurd howner (hclear (.seat f seat) e.1 (Keyspace.get_eq_some.mpr ⟨e.2, he⟩))

theorem Completed.pass (h : Completed id w) (hpass : Passing w w') : Completed id w' := by
  obtain ⟨ms, hredis⟩ := hpass.redis
  have htables := hpass.tables
  exact ⟨(htables.stored _ _).trans h.confirmSeats, (htables.stored _ _).trans h.bookingConfirmed,
    htables.booking id ▸ h.booking, hredis ▸ h.clear.wait⟩

theorem Pending.pass (h : Pending id saga w) (hpass : Passing w w') : Pending id saga w' := by
  obtain ⟨ms, hredis⟩ := hpass.redis
  have htables := hpass.tables
  exact ⟨⟨htables.booking id ▸ h.booking, (htables.stored _ _).trans h.confirmSeats,
    (htables.stored _ _).trans h.bookingConfirmed, hredis ▸ h.covered.wait⟩,
    (htables.saga id).trans h.row, h.status⟩

theorem Committed.same (h : Committed id w) (htables : SameTables w w') : Committed id w' :=
  ⟨htables.saga id ▸ h.saga, (htables.stored _ _).trans h.confirmSeats,
    (htables.stored _ _).trans h.bookingConfirmed, htables.booking id ▸ h.booking⟩

theorem Committed.completed (h : Committed id w) (hclear : Clear id w.redis) : Completed id w :=
  ⟨h.confirmSeats, h.bookingConfirmed, h.booking, hclear⟩

theorem Pending.not_completed (h : Pending id saga w) : ¬Completed id w := by
  intro hcompleted
  have hone := hcompleted.confirmSeats
  rw [h.confirmSeats] at hone
  cases hone

/-- The commit of a completion. -/
theorem Pending.commit {writes : List Write} (h : Pending id saga w)
    (hshape : Shape .completeBooking id writes) : Committed id (applyAll writes w) := by
  have hsaga := shape_saga hshape w
  obtain ⟨b, hb⟩ := h.booking
  cases hshape with
  | completeBooking s confirmId confirmedId paymentTransactionId now hstatus =>
      refine ⟨hsaga, ?_, ?_, (BookingChange.booked paymentTransactionId now).apply b, ?_, rfl, rfl, rfl⟩
      · rw [stored_append (List.append_assoc _ _ _), h.confirmSeats]
        simp [EventBody.eventType]
      · rw [stored_append (List.append_assoc _ _ _), h.bookingConfirmed]
        simp [EventBody.eventType]
      · have hself : ∀ row : Booking, row.bookingReference = s.bookingId →
            ((BookingChange.booked paymentTransactionId now).apply row).bookingReference =
              s.bookingId := by
          intro row hrow
          rw [BookingChange.apply_bookingReference, hrow]
        exact (Table.find_modify_self hself).trans (congrArg _ hb)

end Assertions

/-! ## The rules of a try -/

section Rules

def Lasts (id : String) : Event → Prop
  | .performed w _ _ _ w' => Completed id w → Completed id w'
  | .started _ _ _ => True

/-- The event of a try in whose release no command fails on a live key. -/
def Spares (id : String) (e : Event) : Prop :=
  Event.tries id e = true ∧ Event.leavesKey id e = false

/-- A try while no other one runs. -/
abbrev Try {α : Type} (id : String) (i : Nat) (c : Call α) (m : Memory) (w : World)
    (Q : α → Memory → World → Prop) (E : Memory → World → Prop) : Prop :=
  c.Ensures (service.amid Passing (Spares id) (Lasts id) i) m w Q E

/-- The operations that change neither a table nor a key. -/
def Op.still : Op → Bool
  | .redis .dateNow => true
  | .redis (.get _) => true
  | .redis .exec => true
  | .uuid => true
  | .findSaga _ => true
  | .findBooking _ => true
  | .begin _ => true
  | .sql _ _ => true
  | _ => false

variable {id : String} {flightId : Int} {saga : SagaState} {i : Nat} {m : Memory} {w w' : World}
variable {op : Op} {choice : Choice} {A : World → Prop}

theorem still_passing {r : Except Exception op.Ret} (hop : op.still = true)
    (h : performWith choice op w = some (r, w')) : Passing w w' := by
  rcases performWith_cases h with ⟨e, -, -, rfl⟩ | ⟨-, h⟩
  · exact .refl _
  cases op with
  | redis op =>
      cases op with
      | dateNow | get key | exec =>
          cases h
          exact .of_same ⟨rfl, rfl, rfl⟩ rfl
      | _ => cases hop
  | uuid =>
      simp only [Op.perform] at h
      split at h
      · cases h
      · cases h
        exact .of_same ⟨rfl, rfl, rfl⟩ rfl
  | findSaga id | findBooking id | begin tx =>
      cases h
      exact .refl _
  | sql tx write =>
      cases h
      exact .refl _
  | _ => cases hop

/-- The rule for an assertion that time does not make false. -/
theorem op_try {Q : op.Ret → Memory → World → Prop} {E : Memory → World → Prop}
    (hA : ∀ w w', Passing w w' → A w → A w') (hw : A w)
    (hlasts : ∀ w choice r w', A w → performWith choice op w = some (r, w') →
      Completed id w → Completed id w')
    (hok : ∀ w choice a w', A w → performWith choice op w = some (.ok a, w') → Q a m w')
    (herror : ∀ w choice e w', A w → performWith choice op w = some (.error e, w') →
      Event.leavesKey id (.performed w i choice op w') = false → E m w') :
    Try id i (Call.await op) m w Q E := by
  intro w₁ hpass choice r w₂ hperform hallows
  have hw₁ := hA w w₁ hpass hw
  refine ⟨hlasts w₁ choice r w₂ hw₁ hperform, ?_⟩
  cases r with
  | ok a => exact hok w₁ choice a w₂ hw₁ hperform
  | error e => exact herror w₁ choice e w₂ hw₁ hperform hallows.2

theorem still_try {Q : op.Ret → Memory → World → Prop} {E : Memory → World → Prop}
    (hop : op.still = true) (hA : ∀ w w', Passing w w' → A w → A w') (hw : A w)
    (hE : ∀ w, A w → E m w)
    (h : ∀ w choice a w', A w → A w' → performWith choice op w = some (.ok a, w') → Q a m w') :
    Try id i (Call.await op) m w Q E := by
  refine op_try hA hw ?_ ?_ ?_
  · intro w choice r w' _ hperform hcompleted
    exact hcompleted.pass (still_passing hop hperform)
  · intro w choice a w' hw hperform
    exact h w choice a w' hw (hA _ _ (still_passing hop hperform) hw) hperform
  · intro w choice e w' hw hperform _
    exact hE w' (hA _ _ (still_passing hop hperform) hw)

theorem findSaga_try {bookingId : String} {Q : Option SagaState → Memory → World → Prop}
    {E : Memory → World → Prop} (hA : ∀ w w', Passing w w' → A w → A w') (hw : A w)
    (hE : ∀ w, A w → E m w) (h : ∀ w, A w → Q (w.saga bookingId) m w) :
    Try id i (Call.await (Op.findSaga bookingId)) m w Q E := by
  refine still_try rfl hA hw hE fun w choice found w' _ hw' hperform => ?_
  rcases performWith_cases hperform with ⟨e, -, herror, -⟩ | ⟨-, hfound⟩
  · cases herror
  · cases hfound
    exact h _ hw'

theorem findBooking_try {bookingReference : String} {Q : Option Booking → Memory → World → Prop}
    {E : Memory → World → Prop} (hA : ∀ w w', Passing w w' → A w → A w') (hw : A w)
    (hE : ∀ w, A w → E m w) (h : ∀ found w, A w → Q found m w) :
    Try id i (Call.await (Op.findBooking bookingReference)) m w Q E :=
  still_try rfl hA hw hE fun _ _ found _ _ hw' _ => h found _ hw'

end Rules

/-! ## The transaction -/

section Transaction

variable {id : String} {saga : SagaState} {i : Nat} {m : Memory} {w : World}

theorem completeBody_still (bookingId paymentTransactionId : String) :
    Keeps (fun op => op.still = true) (completeBody bookingId paymentTransactionId) m := by
  have hop : ∀ (op : Op) (m : Memory), op.still = true →
      Keeps (fun op => op.still = true) (Call.await op) m :=
    fun _ _ h => .await h trivial fun _ _ => trivial
  have hstatement : ∀ (write : Write) (m : Memory),
      Keeps (fun op => op.still = true) (statement .completeBooking write) m :=
    fun _ m => .seq (hop _ m rfl) fun _ _ _ => .remember trivial
  have hevent : ∀ (body : EventBody) (m : Memory),
      Keeps (fun op => op.still = true) (storeEvent .completeBooking bookingId body) m :=
    fun _ m => .seq (hop _ m rfl) fun _ m _ => hstatement _ m
  have hsave : ∀ m : Memory, Keeps (fun op => op.still = true) (saveSaga .completeBooking) m :=
    fun m => .bind (.memory (hstatement _ m))
  refine .bind (.memory (.seq (hevent _ m) fun _ m _ => .seq (hop _ m rfl) fun now m _ => ?_))
  refine .seq (hstatement _ m) fun _ m _ => .bind (.remember ?_)
  exact .seq (hsave _) fun _ m _ => hevent _ m

theorem completeTx_try (paymentTransactionId : String) (hm : m.saga = saga)
    (hw : Pending id saga w) :
    Try id i (transaction .completeBooking (completeBody id paymentTransactionId)) m w
      (fun _ _ w => Committed id w ∧ Covered id saga.payload.flightId w.redis)
      fun _ w => Pending id saga w := by
  have hpass : ∀ w w', Passing w w' → Pending id saga w → Pending id saga w' :=
    fun _ _ hpass h => h.pass hpass
  have hid : saga.bookingId = id := (Table.mem_of_find hw.row).2
  subst hm
  have hbody : (completeBody id paymentTransactionId).Emits
      (fun op => op.Within id ∧ op.still = true) Op.Replies { m with writes := [] }
      (fun _ m' => (m'.saga.bookingId = id ∧ Shape .completeBooking id m'.writes) ∧ True)
      fun m' => m'.saga.bookingId = id ∧ True := by
    subst hid
    exact Call.Emits.and (completeBody_writes paymentTransactionId) (completeBody_still _ _)
      fun _ _ h => h
  refine .bind (still_try rfl hpass hw (fun _ h => h) fun _ _ _ w₁ _ hw₁ _ => .bind (.remember ?_))
  refine .andThen (hbody.frame ?_ hw₁) (fun _ _ h => h.2) fun _ m₂ w₂ h₂ => ?_
  · intro op w Q hop hw hnext w₁ hpassing choice r w₂ hperform _
    have hstill := still_passing hop.2 hperform
    refine ⟨fun h => h.pass hstill, hnext r w₂ (perform_replies hperform) ?_⟩
    exact (hw.pass hpassing).pass hstill
  · obtain ⟨⟨⟨hid₂, hshape⟩, -⟩, hw₂⟩ := h₂
    rw [← hid₂] at hshape
    refine .bind (.memory (op_try hpass hw₂ ?_ ?_ ?_))
    · exact fun _ _ _ _ hw _ h => absurd h hw.not_completed
    · intro w choice _ w' hw hperform
      rcases perform_commit hperform with ⟨e, herror, -⟩ | ⟨-, -, rfl⟩
      · cases herror
      · rw [hid₂] at hshape
        exact ⟨hw.commit hshape, by rw [applyAll_redis]; exact hw.covered⟩
    · intro w choice e w' hw hperform _
      rcases perform_commit hperform with ⟨e', -, rfl⟩ | ⟨-, hok, -⟩
      · exact hw
      · cases hok

end Transaction

/-! ## The release -/

section Release

variable {id : String} {flightId : Int} {i : Nat} {m : Memory} {w w' : World}
variable {r : SeatLock.Redis} {A : World → Prop}

/-- The completion has committed, and nothing of the booking is locked any more. -/
structure Released (id : String) (w : World) : Prop where
  committed : Committed id w
  clear : Clear id w.redis

/-- A release that still has to delete the keys of some seats. -/
structure Releasing (id : String) (flightId : Int) (seats : List String) (w : World) : Prop where
  committed : Committed id w
  left : Left id flightId seats w.redis

theorem Released.pass (h : Released id w) (hpass : Passing w w') : Released id w' := by
  obtain ⟨ms, hredis⟩ := hpass.redis
  exact ⟨h.committed.same hpass.tables, hredis ▸ h.clear.wait⟩

theorem Releasing.pass {seats : List String} (h : Releasing id flightId seats w)
    (hpass : Passing w w') : Releasing id flightId seats w' := by
  obtain ⟨ms, hredis⟩ := hpass.redis
  exact ⟨h.committed.same hpass.tables, hredis ▸ h.left.wait⟩

theorem Clear.del {key : SeatLock.Key} (h : Clear id r) : Clear id (r.del key) :=
  fun k v hv => h k v (Keyspace.get_of_del hv)

/-- A key that is none of the booking need not be deleted. -/
theorem left_skip {seat : String} {seats : List String} (h : Left id flightId (seat :: seats) r)
    (hother : holds id r (.seat flightId seat) = false) : Left id flightId seats r := by
  intro k v hv howner
  rcases h k v hv howner with hkey | ⟨seat', hmem, rfl⟩
  · exact .inl hkey
  · rcases List.mem_cons.mp hmem with rfl | hmem
    · have hholds := holds_eq_true.mpr ⟨v, hv, howner⟩
      rw [hother] at hholds
      cases hholds
    · exact .inr ⟨seat', hmem, rfl⟩

theorem get_booking_of_not_holds (h : holds id r (.booking flightId id) = false) :
    r.get (.booking flightId id) = none := by
  cases hdata : r.get (.booking flightId id) with
  | none => rfl
  | some data =>
      have hholds : holds id r (.booking flightId id) = true := holds_eq_true.mpr ⟨data, hdata, rfl⟩
      rw [h] at hholds
      cases hholds

/-- The commands of the seat locks, as operations of the booking service. -/
abbrev TryRedis {α : Type} (id : String) (i : Nat) (c : SeatLock.Call Memory α) (m : Memory)
    (w : World) (Q : α → Memory → World → Prop) (E : Memory → World → Prop) : Prop :=
  c.Ensures (Spec.comap Op.redis (fun _ r => r)
    (service.amid Passing (Spares id) (Lasts id) i)) m w Q E

theorem get_try {key : SeatLock.Key} {Q : Option (SeatLock.Value key) → Memory → World → Prop}
    {E : Memory → World → Prop} (hA : ∀ w w', Passing w w' → A w → A w') (hw : A w)
    (hE : ∀ w, A w → holds id w.redis key = false → E m w)
    (h : ∀ w, A w → Q (w.redis.get key) m w) :
    TryRedis id i (Call.await (SeatLock.Op.get key)) m w Q E := by
  have key : Try id i (Call.await (Op.redis (.get key))) m w Q E := by
    refine op_try hA hw ?_ ?_ ?_
    · intro w choice r w' _ hperform hcompleted
      exact hcompleted.pass (still_passing rfl hperform)
    · intro w choice a w' hw hperform
      rcases performWith_cases hperform with ⟨e, -, herror, -⟩ | ⟨-, hget⟩
      · cases herror
      · cases hget
        exact h w hw
    · intro w choice e w' hw hperform hspares
      rcases performWith_cases hperform with ⟨e, hfails, -, rfl⟩ | ⟨-, hget⟩
      · rw [Event.leavesKey, hfails] at hspares
        exact hE _ hw hspares
      · cases hget
  exact key

/-- A command that deletes a key, whose own error is not looked at. -/
theorem del_try {key : SeatLock.Key} {bookingId : String} {Q : PUnit → Memory → World → Prop}
    {E : Memory → World → Prop} (hA : ∀ w w', Passing w w' → A w → A w') (hw : A w)
    (hskip : ∀ w, A w → holds id w.redis key = false → Q ⟨⟩ m w)
    (h : ∀ w, A w → Q ⟨⟩ m { w with redis := w.redis.del key }) :
    TryRedis id i (SeatLock.pipelined (.del key bookingId)) m w Q E := by
  have hdel : Try id i (Call.await (Op.redis (.del key bookingId))) m w (fun _ => Q ⟨⟩) (Q ⟨⟩) := by
    refine op_try hA hw ?_ ?_ ?_
    · intro w choice r w' _ hperform hcompleted
      rcases performWith_cases hperform with ⟨e, -, -, rfl⟩ | ⟨-, hdel⟩
      · exact hcompleted
      · cases hdel
        exact ⟨hcompleted.confirmSeats, hcompleted.bookingConfirmed, hcompleted.booking,
          hcompleted.clear.del⟩
    · intro w choice a w' hw hperform
      rcases performWith_cases hperform with ⟨e, -, herror, -⟩ | ⟨-, hdel⟩
      · cases herror
      · cases hdel
        exact h w hw
    · intro w choice e w' hw hperform hspares
      rcases performWith_cases hperform with ⟨e, hfails, -, rfl⟩ | ⟨-, hdel⟩
      · rw [Event.leavesKey, hfails] at hspares
        exact hskip _ hw hspares
      · cases hdel
  have hcommand : TryRedis id i (do let _ ← Call.await (SeatLock.Op.del key bookingId); pure ⟨⟩) m w
      Q (Q ⟨⟩) :=
    .bind hdel
  exact .tryCatch hcommand fun _ _ _ h => .pure h

theorem exec_try (hw : Released id w) :
    TryRedis id i (Call.await SeatLock.Op.exec) m w (fun _ _ w => Released id w)
      fun _ w => Released id w := by
  have key : Try id i (Call.await (Op.redis .exec)) m w (fun _ _ w => Released id w)
      fun _ w => Released id w :=
    still_try rfl (fun _ _ hpass h => Released.pass h hpass) hw (fun _ h => h)
      fun _ _ _ _ _ h _ => h
  exact key

theorem releaseSeats_try (hw : Committed id w) (hcovered : Covered id flightId w.redis) :
    TryRedis id i (SeatLock.releaseSeats flightId id) m w (fun _ _ w => Released id w)
      fun _ w => Released id w := by
  let covered (w : World) : Prop := Committed id w ∧ Covered id flightId w.redis
  have hpass : ∀ w w', Passing w w' → covered w → covered w' := by
    intro w w' hpass h
    obtain ⟨ms, hredis⟩ := hpass.redis
    exact ⟨h.1.same hpass.tables, hredis ▸ h.2.wait⟩
  refine .bind (get_try hpass ⟨hw, hcovered⟩ ?_ ?_)
  · exact fun w hw hgone => ⟨hw.1, hw.2.clear (get_booking_of_not_holds hgone)⟩
  intro w hw
  cases hdata : w.redis.get (.booking flightId id) with
  | none => exact .pure ⟨hw.1, hw.2.clear hdata⟩
  | some data =>
      let inv (seats : List String) (_ : Memory) (w : World) : Prop :=
        Releasing id flightId seats w
      refine .andThen (.forM inv ?_ (SeatLock.BookingData.seats data) ⟨hw.1, hw.2.left hdata⟩)
        (fun _ _ h => h) fun _ m₁ w₁ h₁ => ?_
      · intro seat seats m₁ w₁ h₁
        refine del_try (fun _ _ hpass h => Releasing.pass h hpass) h₁ ?_ ?_
        · exact fun w hw hother => ⟨hw.committed, left_skip hw.left hother⟩
        · exact fun w hw => ⟨hw.committed.same ⟨rfl, rfl, rfl⟩, left_del hw.left⟩
      · refine .bind (del_try (fun _ _ hpass h => Releasing.pass h hpass) h₁ ?_ ?_)
        · intro w hw hgone
          refine exec_try ⟨hw.committed, fun k v hv howner => ?_⟩
          rcases hw.left k v hv howner with rfl | ⟨seat, hmem, -⟩
          · rw [get_booking_of_not_holds hgone] at hv
            cases hv
          · cases hmem
        · exact fun w hw => exec_try ⟨hw.committed.same ⟨rfl, rfl, rfl⟩, clear_del hw.left⟩

end Release

/-! ## Runs -/

section Runs

variable {id : String} {saga : SagaState} {i : Nat} {m : Memory} {w : World}

/-- What the tries leave for each other. -/
def Retriable (id : String) (saga : SagaState) (w : World) : Prop :=
  Pending id saga w ∨ Released id w

theorem Retriable.pass {w' : World} (h : Retriable id saga w) (hpass : Passing w w') :
    Retriable id saga w' :=
  h.imp (fun h => h.pass hpass) fun h => h.pass hpass

theorem completeBooking_try (paymentTransactionId : String) (hw : Retriable id saga w) :
    Try id i (completeBooking id paymentTransactionId) m w (fun _ _ w => Released id w)
      fun _ w => Retriable id saga w := by
  have hreleased : ∀ w w', Passing w w' → Released id w → Released id w' :=
    fun _ _ hpass h => h.pass hpass
  refine .bind (findSaga_try (fun _ _ hpass h => Retriable.pass h hpass) hw (fun _ h => h) ?_)
  intro w hw
  rcases hw with hpending | hdone
  · rw [hpending.row]
    dsimp only
    rw [if_neg (by rw [hpending.status]; decide)]
    refine .bind (.remember (.andThen (completeTx_try paymentTransactionId rfl hpending) ?_ ?_))
    · exact fun _ _ h => .inl h
    · intro _ m₁ w₁ h₁
      refine .andThen (.lift (releaseSeats_try h₁.1 h₁.2)) (fun _ _ h => .inr h) fun _ m₂ w₂ h₂ => ?_
      exact findBooking_try hreleased h₂ (fun _ h => .inr h) fun _ _ h => h
  · obtain ⟨s, hs, hstatus⟩ := hdone.committed.saga
    rw [hs]
    dsimp only
    rw [if_pos hstatus]
    exact findBooking_try hreleased hdone (fun _ h => .inr h) fun _ _ h => h

theorem request_try (paymentTransactionId : String) (hw : Retriable id saga w) :
    Try id i (Request.completeBooking id paymentTransactionId).call m w
      (fun _ _ w => Released id w) fun _ w => Retriable id saga w :=
  .andThen (completeBooking_try paymentTransactionId hw) (fun _ _ h => h) fun _ _ _ h => .pure h

/-- A completion that resolves has completed the booking. -/
def Resolves (id : String) (result : Except Exception Reply × Memory) (w : World) : Prop :=
  ∀ booking, result.1 = .ok (.booking booking) → Completed id w

theorem passing_wait : service.Passes Passing Request.isWait (fun op => ∃ ms, op = .redis (.wait ms))
    (Spares id) (Lasts id) (Resolves id) where
  refl := .refl
  trans _ _ _ := .trans
  performed w i choice op r w' hop hperform _ := by
    obtain ⟨ms, rfl⟩ := hop
    have hpass : Passing w w' := by
      rcases performWith_cases hperform with ⟨e, -, -, rfl⟩ | ⟨-, hwait⟩
      · exact .refl _
      · cases hwait
        exact ⟨⟨rfl, rfl, rfl⟩, ms, rfl⟩
    exact ⟨hpass, fun h => h.pass hpass⟩
  started _ _ _ _ := trivial
  program request hwait := by
    cases request with
    | wait ms =>
        refine ⟨⟨ms, rfl⟩, fun r _ => ?_⟩
        cases r with
        | error e => exact fun _ _ h => by cases h
        | ok a => exact fun _ _ h => by cases h
    | _ => cases hwait

/-- Completions of one booking, one after the other. Once one of them resolves the booking is
complete, if what a completion needs is there at the start and no command of a release fails on a
live key of the booking. -/
theorem completed_of_resolved {w : World} {ms : List (Move Request Choice)} {es : List Event}
    {P : ServicePool} {booking : Option Booking} (hsaga : w.saga id = some saga)
    (hstatus : saga.status = .flightReserved) (hready : Completable id saga.payload.flightId w)
    (hrun : service.run ms (Pool.init w) = some (es, P))
    (hturn : service.inTurn Request.isWait ms (Pool.init w) = true)
    (htries : ∀ e ∈ es, Event.tries id e = true)
    (hkeys : ∀ e ∈ es, Event.leavesKey id e = false)
    (hresolved : answer P i = some (.ok (.booking booking))) : Completed id P.state := by
  obtain ⟨m, hdone⟩ := answer_eq_some hresolved
  have hstart : Retriable id saga w := .inl ⟨hready, hsaga, hstatus⟩
  have hspares : ∀ e ∈ es, Spares id e := fun e he => ⟨htries e he, hkeys e he⟩
  have hdelivers := System.run_delivers (R := Passing) passing_wait
    (fun _ _ hpass h => Retriable.pass h hpass) ?_ ?_ ?_ hrun hturn hspares
    (System.delivers_init hstart)
  · exact hdelivers.1.done i _ hdone booking rfl
  · exact fun result w w' hpass h booking hresult => (h booking hresult).pass hpass
  · exact fun result w i choice op w' hlasts h booking hresult => hlasts (h booking hresult)
  · intro w i request hwait hw hspares
    refine ⟨?_, trivial⟩
    cases request with
    | completeBooking bookingId paymentTransactionId =>
        obtain rfl : bookingId = id := of_decide_eq_true hspares.1
        refine Program.wp_mono ?_ (request_try (m := Memory.blank) paymentTransactionId hw)
        intro result w' hresult
        rcases result with ⟨e | reply, m'⟩
        · exact ⟨hresult, fun _ h => by cases h⟩
        · exact ⟨.inr hresult, fun _ _ => hresult.committed.completed hresult.clear⟩
    | wait ms => cases hwait
    | _ => cases hspares.1

/-- Two tries with time between them, of which the first one fails at its operation `k`. -/
def twoTries (k : Nat) : List (Move Request Choice) :=
  .start (.completeBooking "a1" "t") :: (oneFailure k (k + 1)).map (.run 0) ++
    .start (.wait 5000) :: succeeds 1 "w" 1 ++ .start (.completeBooking "a1" "t") :: succeeds 2 "b" 2

/-- What can be seen of a completion that is tried twice after the first three steps of its saga,
and resolves the second time. -/
structure Retried (k : Nat) (es es' : List Event) (P P' : ServicePool) (saga : SagaState)
    (booking : Option Booking) : Prop where
  reserved : service.run reserved (Pool.init (World.init 0)) = some (es, P)
  idle : P.idle = true
  row : P.state.saga "a1" = some saga
  status : saga.status = .flightReserved
  flightId : saga.payload.flightId = 7
  covered : Covered "a1" 7 P.state.redis
  run : service.run (twoTries k) (Pool.init P.state) = some (es', P')
  inTurn : service.inTurn Request.isWait (twoTries k) (Pool.init P.state) = true
  tries : ∀ e ∈ es', Event.tries "a1" e = true
  resolved : answer P' 2 = some (.ok (.booking booking))

def retried (k : Nat) (check : World → List Event → World → Bool) : Bool :=
  (service.run reserved (Pool.init (World.init 0))).any fun first =>
    (service.run (twoTries k) (Pool.init first.2.state)).any fun result =>
      (first.2.idle && (first.2.state.saga "a1").any (fun saga =>
        saga.status = .flightReserved && saga.payload.flightId = 7)) &&
      (service.inTurn Request.isWait (twoTries k) (Pool.init first.2.state) &&
        result.1.all (Event.tries "a1")) &&
      (answer result.2 2 == some (.ok (.booking (result.2.state.booking "a1"))) &&
        check first.2.state result.1 result.2.state)

theorem reserved_redis :
    (service.run reserved (Pool.init (World.init 0))).map (fun first => first.2.state.redis) =
      some (SeatLock.lockAll 7 "a1" 1 SeatLock.LOCK_TTL 0 ["1A"] (Keyspace.empty 0)) := rfl

theorem retried_spec {k : Nat} {check : World → List Event → World → Bool}
    (h : retried k check = true) :
    ∃ es es' P P' saga booking, Retried k es es' P P' saga booking ∧
      check P.state es' P'.state = true := by
  obtain ⟨es, P, hreserved, hfirst⟩ := System.exists_run h
  obtain ⟨es', P', hrun, hresult⟩ := System.exists_run hfirst
  simp only [Bool.and_eq_true, Option.any_eq_true, decide_eq_true_eq, beq_iff_eq,
    List.all_eq_true] at hresult
  obtain ⟨⟨⟨hidle, saga, hsaga, hstatus, hflight⟩, hturn, htries⟩, hresolved, hcheck⟩ := hresult
  have hredis := reserved_redis
  rw [hreserved, Option.map_some, Option.some.injEq] at hredis
  have hclear : Clear "a1" (Keyspace.empty 0) := fun _ _ hv => by cases hv
  have hcovered : Covered "a1" 7 P.state.redis := hredis ▸ covered_lockAll (by decide) hclear
  exact ⟨es, es', P, P', saga, _, ⟨hreserved, hidle, hsaga, hstatus, hflight, hcovered, hrun, hturn,
    htries, hresolved⟩, hcheck⟩

/-- The reply to the release of the first try is lost. -/
theorem completed_of_resolved_later :
    ∃ es es' P P' saga booking, Retried 13 es es' P P' saga booking ∧ Completed "a1" P'.state := by
  have hretried : retried 13 (fun w es _ => (w.booking "a1").isSome &&
      stored w "a1" "flight.confirm-seats" = 0 && stored w "a1" "booking.confirmed" = 0 &&
      es.all fun e => !Event.leavesKey "a1" e) = true := by decide +kernel
  obtain ⟨es, es', P, P', saga, booking, h, hcheck⟩ := retried_spec hretried
  simp only [Bool.and_eq_true, decide_eq_true_eq, List.all_eq_true, Bool.not_eq_true'] at hcheck
  obtain ⟨⟨⟨hbooking, hconfirm⟩, hconfirmed⟩, hkeys⟩ := hcheck
  have hready : Completable "a1" saga.payload.flightId P.state :=
    ⟨Option.isSome_iff_exists.mp hbooking, hconfirm, hconfirmed, h.flightId ▸ h.covered⟩
  exact ⟨es, es', P, P', saga, booking, h,
    completed_of_resolved h.row h.status hready h.run h.inTurn h.tries hkeys h.resolved⟩

/-- The release of the first try cannot read the booking key, and the second one does not come to
its release. -/
theorem resolved_not_completed :
    ¬∀ (now : Nat) (ms₀ : List (Move Request Choice)) (es₀ : List Event) (P₀ : ServicePool)
      (id : String) (saga : SagaState) (ms : List (Move Request Choice)) (es : List Event)
      (P : ServicePool) (i : Nat) (booking : Option Booking),
      service.run ms₀ (Pool.init (World.init now)) = some (es₀, P₀) → P₀.idle = true →
      P₀.state.saga id = some saga → saga.status = .flightReserved →
      service.run ms (Pool.init P₀.state) = some (es, P) →
      service.inTurn Request.isWait ms (Pool.init P₀.state) = true →
      (∀ e ∈ es, Event.tries id e = true) → answer P i = some (.ok (.booking booking)) →
        Completed id P.state := by
  intro h
  have hretried : retried 10 (fun _ _ w => holds "a1" w.redis (.seat 7 "1A")) = true := by
    decide +kernel
  obtain ⟨es, es', P, P', saga, booking, hretry, hheld⟩ := retried_spec hretried
  have hcompleted := h 0 _ es P "a1" saga _ es' P' 2 booking hretry.reserved hretry.idle
    hretry.row hretry.status hretry.run hretry.inTurn hretry.tries hretry.resolved
  obtain ⟨v, hv, howner⟩ := holds_eq_true.mp hheld
  exact hcompleted.clear _ v hv howner

end Runs

end FlightBookings.Booking
