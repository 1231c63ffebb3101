import FlightBookings.Booking.Transactions

/-! # Identifiers

The identifier of a new booking is one that no row, event or Redis key of the
booking service carries yet, in every interleaving of its calls. What each call
assumes of the others is only that no identifier is taken back.
-/

namespace FlightBookings.Booking

open Await

/-- The booking of a Redis key. -/
def owner : (k : SeatLock.Key) → SeatLock.Value k → String
  | .seat _ _, lock => SeatLock.SeatData.bookingId lock
  | .booking _ bookingId, _ => bookingId

/-- Whatever carries an identifier carries one that was handed out. -/
structure Owned (w : World) : Prop where
  sagas : ∀ id s, w.saga id = some s → id ∈ w.issued
  bookings : ∀ id b, w.booking id = some b → id ∈ w.issued
  outbox : ∀ e ∈ w.outbox, OutboxEvent.aggregateId e ∈ w.issued
  keys : ∀ k v, w.redis.get k = some v → owner k v ∈ w.issued

/-- Each call owns the identifier that it drew or found, whatever the others do. -/
def ownership : Contract Request Op Choice World where
  inv := Owned
  rely _ w w' := ∀ u ∈ w.issued, u ∈ w'.issued
  allows _ := True
  owes
    | .started _ _ _ => True
    | .performed w _ _ _ w' => Owned w ∧ ∀ u ∈ w.issued, u ∈ w'.issued

theorem ownership_lawful : ownership.Lawful where
  refl _ _ _ h := h
  trans _ _ _ _ h h' u hu := h' u (h u hu)
  compatible _ _ _ _ _ _ _ _ howes := howes.2
  started _ _ _ := trivial

variable {id : String} {w w' : World} {tx : Tx} {writes : List Write}
variable {choice : Choice} {op : Op}

/-! ## Operations -/

theorem owned_init (now : Nat) : Owned (World.init now) where
  sagas _ _ hs := by cases hs
  bookings _ _ hb := by cases hb
  outbox _ he := by cases he
  keys _ _ hv := by cases hv

/-- The keys that an operation for a booking leaves are old ones, or keys of the booking. -/
theorem redis_sent {op : SeatLock.Op} {r : SeatLock.Redis} {k : SeatLock.Key}
    {v : SeatLock.Value k} (hop : op.Sent id) (h : (op.perform r).2.get k = some v) :
    r.get k = some v ∨ owner k v = id := by
  cases op with
  | wait ms => exact .inl (Keyspace.get_of_wait h)
  | del key b => exact .inl (Keyspace.get_of_del h)
  | expire key seconds b => exact .inl (Keyspace.get_of_expire h)
  | eval flightId b userId seconds timestamp seats =>
      obtain ⟨rfl, hseconds⟩ := hop
      rcases SeatLock.luaScript_cases flightId b userId seconds timestamp seats r with
        ⟨-, hrefused⟩ | ⟨-, hgranted, -⟩
      · rw [SeatLock.Op.perform, hrefused] at h
        exact .inl h
      · rw [SeatLock.Op.perform, hgranted] at h
        cases k with
        | seat f seat =>
            rw [Keyspace.get, SeatLock.lockAll_seat hseconds] at h
            split at h
            · cases h
              exact .inr rfl
            · exact .inl h
        | booking f b' =>
            rw [SeatLock.lockAll_booking hseconds] at h
            split at h
            · rename_i heq
              exact .inr heq.2
            · exact .inl h
  | _ => exact .inl h

theorem owned_issue {issued : List String} (hw : Owned w) (h : ∀ u ∈ w.issued, u ∈ issued) :
    Owned { w with issued } where
  sagas id s hs := h id (hw.sagas id s hs)
  bookings id b hb := h id (hw.bookings id b hb)
  outbox e he := h _ (hw.outbox e he)
  keys k v hv := h _ (hw.keys k v hv)

theorem owned_insertSaga {s : SagaState} (hw : Owned w) (hid : s.bookingId ∈ w.issued) :
    Owned { w with sagas := w.sagas ++ [s] } where
  sagas id s' hs' := by
    have hs' := Table.find_insert.symm.trans hs'
    rcases Option.or_eq_some_iff.mp hs' with hold | ⟨-, hnew⟩
    · exact hw.sagas id s' hold
    · by_cases hsame : s.bookingId = id
      · exact hsame ▸ hid
      · rw [if_neg hsame] at hnew
        cases hnew
  bookings := hw.bookings
  outbox := hw.outbox
  keys := hw.keys

theorem owned_commit (h : Shape tx id writes) (hw : Owned w) (hid : id ∈ w.issued) :
    Owned (applyAll writes w) where
  sagas id' s hs := by
    rw [applyAll_issued]
    by_cases hsame : id' = id
    · exact hsame ▸ hid
    · rw [shape_saga_of_ne h hsame] at hs
      exact hw.sagas id' s hs
  bookings id' b hb := by
    rw [applyAll_issued]
    by_cases hsame : id' = id
    · exact hsame ▸ hid
    · rw [shape_booking_of_ne h hsame] at hb
      exact hw.bookings id' b hb
  outbox e he := by
    obtain ⟨events, houtbox, hevents, -⟩ := shape_outbox h w
    rw [applyAll_issued]
    rw [houtbox] at he
    rcases List.mem_append.mp he with hold | hnew
    · exact hw.outbox e hold
    · exact (hevents e hnew).1 ▸ hid
  keys k v hv := by
    rw [applyAll_redis] at hv
    rw [applyAll_issued]
    exact hw.keys k v hv

/-- The operations on behalf of no booking at all. -/
abbrev Op.Plain (op : Op) : Prop := ∀ id, op.Within id

theorem owned_within (hop : op.Within id) (hid : op.Plain ∨ id ∈ w.issued) (hw : Owned w)
    {r : Except Exception op.Ret} (h : performWith choice op w = some (r, w')) : Owned w' := by
  rcases performWith_cases h with ⟨e, -, -, rfl⟩ | ⟨-, h⟩
  · exact hw
  cases op with
  | redis op =>
      cases h
      refine ⟨hw.sagas, hw.bookings, hw.outbox, ?_⟩
      intro k v hv
      rcases hid with hplain | hid
      · -- an operation that acts for every booking leaves no key of a booking of its own
        rcases redis_sent (hplain "") hv with hold | hempty
        · exact hw.keys k v hold
        · rcases redis_sent (hplain "a") hv with hold | hletter
          · exact hw.keys k v hold
          · exact absurd (hempty.symm.trans hletter) (by decide)
      · rcases redis_sent hop hv with hold | hnew
        · exact hw.keys k v hold
        · exact hnew ▸ hid
  | uuid =>
      simp only [Op.perform] at h
      split at h
      · cases h
      · cases h
        exact owned_issue hw fun u hu => List.mem_cons_of_mem _ hu
  | insertSaga s => exact hop.elim
  | commit tx id writes => exact hop.elim
  | _ =>
      cases h
      exact hw

theorem perform_uuid {u : String} (h : performWith choice .uuid w = some (.ok u, w')) :
    u ∉ w.issued ∧ u ∈ w'.issued := by
  rcases performWith_cases h with ⟨e, -, hr, -⟩ | ⟨-, h⟩
  · cases hr
  · simp only [Op.perform] at h
    split at h
    · cases h
    · rename_i hfresh
      cases h
      exact ⟨hfresh, List.mem_cons_self⟩

/-! ## Calls -/

section Calls

variable {i : Nat} {m : Memory}

abbrev Owning {α : Type} (i : Nat) (c : Call α) (m : Memory) (w : World)
    (Q : α → Memory → World → Prop) (E : Memory → World → Prop) : Prop :=
  c.Ensures (ownership.spec service i) m w Q E

/-- The call holds the saga of a booking of its own. -/
def Mine (id : String) (m : Memory) (w : World) : Prop := m.saga.bookingId = id ∧ id ∈ w.issued

/-- Of the rest of a call nothing more needs to be known. -/
abbrev Owns {α : Type} (i : Nat) (c : Call α) (m : Memory) (w : World) : Prop :=
  Owning i c m w (fun _ _ _ => True) fun _ _ => True

theorem Local.owning {α : Type} {c : Call α} {Q : α → Memory → Prop} (h : Local id c m Q)
    (hid : id ∈ w.issued) :
    Owning i c m w (fun a m' w' => Q a m' ∧ id ∈ w'.issued) (Mine id) := by
  refine h.frame ?_ hid
  intro op w Q hop hid hnext w₁ hw₁ hrely choice r w₂ hperform _
  have hid₁ : id ∈ w₁.issued := hrely id hid
  have hissued := perform_issued hperform
  exact ⟨owned_within hop (.inr hid₁) hw₁ hperform, ⟨hw₁, hissued⟩,
    hnext r w₂ (perform_replies hperform) (hissued id hid₁)⟩

theorem plain_owning {Q : op.Ret → Memory → World → Prop} {E : Memory → World → Prop}
    (hop : op.Plain) (hE : ∀ w', E m w')
    (h : ∀ choice a w₁ w', Owned w₁ → (∀ u ∈ w.issued, u ∈ w₁.issued) →
      performWith choice op w₁ = some (.ok a, w') → Q a m w') :
    Owning i (Call.await op) m w Q E := by
  intro w₁ hw₁ hrely choice r w' hperform _
  refine ⟨owned_within (hop "") (.inl hop) hw₁ hperform, ⟨hw₁, perform_issued hperform⟩, ?_⟩
  cases r with
  | ok a => exact h choice a w₁ w' hw₁ hrely hperform
  | error e => exact hE w'

theorem plain_owns (hop : op.Plain) : Owns i (Call.await op) m w :=
  plain_owning hop (fun _ => trivial) fun _ _ _ _ _ _ _ => trivial

theorem commit_owning (hshape : Shape tx id writes) (hm : Mine id m w) :
    Owning i (Call.await (Op.commit tx id writes)) m w (fun _ => Mine id) (Mine id) := by
  intro w₁ hw₁ hrely choice r w' hperform _
  have hid₁ : id ∈ w₁.issued := hrely id hm.2
  have hm' : Mine id m w' := ⟨hm.1, perform_issued hperform id hid₁⟩
  refine ⟨?_, ⟨hw₁, perform_issued hperform⟩, ?_⟩
  · rcases perform_commit hperform with ⟨e, rfl, rfl⟩ | ⟨-, rfl, rfl⟩
    · exact hw₁
    · exact owned_commit hshape hw₁ hid₁
  · cases r with
    | ok _ => exact hm'
    | error e => exact hm'

theorem transaction_owning {body : Call Unit} (h : Writes tx id body m) (hm : Mine id m w) :
    Owning i (transaction tx body) m w (fun _ => Mine id) (Mine id) := by
  have hbegin : Local id (Call.await (Op.begin tx)) m fun _ m' => m' = m :=
    .await trivial hm.1 fun _ _ => rfl
  refine .andThen (hbegin.owning hm.2) (fun _ _ h => h) fun _ m₁ w₁ h₁ => ?_
  obtain ⟨rfl, hid₁⟩ := h₁
  refine .bind (.remember (.andThen (h.owning hid₁) (fun _ _ h => h) fun _ m₂ w₂ h₂ => ?_))
  obtain ⟨⟨rfl, hshape⟩, hid₂⟩ := h₂
  exact .bind (.memory (commit_owning hshape ⟨rfl, hid₂⟩))

theorem compensate_owning (message : String) (hm : Mine id m w) :
    Owns i (compensate message) m w := by
  obtain ⟨rfl, hid⟩ := hm
  refine .bind (.memory ?_)
  split
  · exact .pure trivial
  · have htx := transaction_owning (i := i) (compensateBody_writes message) ⟨rfl, hid⟩
    exact .tryCatch (htx.mono (fun _ _ _ _ => trivial) fun _ _ h => h) fun _ _ _ _ => .pure trivial

theorem compensating_owning {body : Call Unit}
    (h : Owning i body m w (fun _ => Mine id) (Mine id)) :
    Owning i (compensating body) m w (fun _ => Mine id) fun _ _ => True :=
  .tryCatch h fun e _ _ hm => .seq (compensate_owning e.message hm) fun _ _ _ _ => .throw trivial

theorem executeStep1_owning (hm : Mine id m w) :
    Owning i executeStep1_CreateBooking m w (fun _ => Mine id) fun _ _ => True := by
  obtain ⟨rfl, hid⟩ := hm
  refine .bind (.memory ?_)
  split
  · exact .pure ⟨rfl, hid⟩
  · exact (transaction_owning createBookingBody_writes ⟨rfl, hid⟩).mono (fun _ _ _ h => h)
      fun _ _ _ => trivial

theorem executeStep2_owning (hm : Mine id m w) :
    Owning i executeStep2_LockSeats m w (fun _ => Mine id) fun _ _ => True := by
  obtain ⟨rfl, hid⟩ := hm
  refine .bind (.memory ?_)
  split
  · exact .pure ⟨rfl, hid⟩
  · refine compensating_owning ?_
    have hlock := seatLock_local (m := m) (SeatLock.lockSeats_sends m.saga.payload.flightId
      (m.saga.payload.seatNumbers.getD []) m.saga.bookingId m.saga.payload.userId) rfl
    refine .andThen (hlock.owning hid) (fun _ _ h => h) fun locked m' w' h' => ?_
    obtain ⟨rfl, hid'⟩ := h'
    split
    · exact transaction_owning (lockSeatsBody_writes locked.lockKey) ⟨rfl, hid'⟩
    · exact .throw ⟨rfl, hid'⟩

theorem executeStep3_owning (hm : Mine id m w) :
    Owning i executeStep3_ReserveFlightSeats m w (fun _ => Mine id) fun _ _ => True := by
  obtain ⟨rfl, hid⟩ := hm
  refine .bind (.memory ?_)
  split
  · exact .pure ⟨rfl, hid⟩
  · exact compensating_owning (transaction_owning reserveFlightSeatsBody_writes ⟨rfl, hid⟩)

theorem findExistingSaga_owns (key : Option String) : Owns i (findExistingSaga key) m w := by
  unfold findExistingSaga
  split
  · split
    · exact .pure trivial
    · exact plain_owns fun _ => trivial
  · exact .pure trivial

theorem uuid_owning :
    Owning i (Call.await Op.uuid) m w (fun u _ w' => u ∈ w'.issued) fun _ _ => True :=
  plain_owning (fun _ => trivial) (fun _ => trivial) fun _ _ _ _ _ _ hdraw => (perform_uuid hdraw).2

theorem insertSaga_owning {s : SagaState} (hid : s.bookingId ∈ w.issued) :
    Owning i (Call.await (Op.insertSaga s)) m w (fun _ _ w' => s.bookingId ∈ w'.issued)
      fun _ _ => True := by
  intro w₁ hw₁ hrely choice r w' hperform _
  have hid₁ : s.bookingId ∈ w₁.issued := hrely _ hid
  refine ⟨?_, ⟨hw₁, perform_issued hperform⟩, ?_⟩
  · rcases performWith_cases hperform with ⟨e, -, rfl, rfl⟩ | ⟨-, h⟩
    · exact hw₁
    · cases h
      exact owned_insertSaga hw₁ hid₁
  · cases r with
    | ok _ => exact perform_issued hperform _ hid₁
    | error e => trivial

theorem executeBookingSaga_owns (dto : CreateBookingDto) (key : Option String) :
    Owns i (executeBookingSaga dto key) m w := by
  refine .seq (findExistingSaga_owns key) fun existing m w _ => ?_
  cases existing with
  | some saga => exact plain_owns fun _ => trivial
  | none =>
      refine .seq (plain_owns fun _ => trivial) fun sagaId m w _ => ?_
      refine .andThen uuid_owning (fun _ _ h => h) fun bookingId m w hid => ?_
      refine .andThen (insertSaga_owning hid) (fun _ _ h => h) fun _ m w hid => ?_
      refine .bind (.remember ?_)
      have hm : Mine bookingId { m with saga := newSaga sagaId bookingId dto key } w := ⟨rfl, hid⟩
      refine .andThen (executeStep1_owning hm) (fun _ _ h => h) fun _ m w hm => ?_
      refine .andThen (executeStep2_owning hm) (fun _ _ h => h) fun _ m w hm => ?_
      refine .andThen (executeStep3_owning hm) (fun _ _ h => h) fun _ m w _ => ?_
      exact plain_owns fun _ => trivial

/-- The saga that a lookup finds is one of the booking that was looked up. -/
theorem findSaga_owning {bookingId : String} :
    Owning i (Call.await (Op.findSaga bookingId)) m w
      (fun found _ w' => ∀ s : SagaState, found = some s →
        s.bookingId = bookingId ∧ bookingId ∈ w'.issued) fun _ _ => True := by
  refine plain_owning (fun _ => trivial) (fun _ => trivial) fun choice found w₁ w' hw₁ _ h s hs => ?_
  subst hs
  rcases performWith_cases h with ⟨e, -, hr, -⟩ | ⟨-, h⟩
  · cases hr
  · simp only [Op.perform, Option.some.injEq, Prod.mk.injEq, Except.ok.injEq] at h
    exact ⟨(Table.mem_of_find h.1).2, h.2 ▸ hw₁.sagas bookingId s h.1⟩

theorem completeBooking_owns (bookingId paymentTransactionId : String) :
    Owns i (completeBooking bookingId paymentTransactionId) m w := by
  refine .andThen findSaga_owning (fun _ _ h => h) fun found m w hfound => ?_
  cases found with
  | none => exact .throw trivial
  | some saga =>
      obtain ⟨rfl, hid⟩ := hfound saga rfl
      dsimp only
      split
      · exact plain_owns fun _ => trivial
      · refine .bind (.remember ?_)
        have hm : Mine saga.bookingId { m with saga } w := ⟨rfl, hid⟩
        refine .andThen (transaction_owning (completeBody_writes paymentTransactionId) hm)
          (fun _ _ _ => trivial) fun _ m w hm => ?_
        have hrelease := seatLock_local (m := m)
          (SeatLock.releaseSeats_sends saga.payload.flightId saga.bookingId) hm.1
        refine .andThen (hrelease.owning hm.2) (fun _ _ _ => trivial) fun _ m w _ => ?_
        exact plain_owns fun _ => trivial

theorem cancelBooking_owns (bookingId reason : String) :
    Owns i (cancelBooking bookingId reason) m w := by
  refine .andThen findSaga_owning (fun _ _ h => h) fun found m w hfound => ?_
  cases found with
  | none => exact .throw trivial
  | some saga =>
      refine .bind (.remember (.seq (compensate_owning reason (hfound saga rfl)) ?_))
      intro _ m w _
      exact plain_owns fun _ => trivial

theorem cleanupExpiredBookings_owns : Owns i cleanupExpiredBookings m w := by
  refine .tryCatch (.seq (plain_owns fun _ => trivial) fun now m w _ => ?_) fun _ _ _ _ =>
    .pure trivial
  refine .seq (plain_owns fun _ => trivial) fun expiredBookings m w _ => ?_
  refine .forM (fun _ _ _ => True) (fun booking _ m w _ => ?_) _ trivial
  exact .tryCatch (.seq (cancelBooking_owns _ _) fun _ _ _ _ => .pure trivial)
    fun _ _ _ _ => .pure trivial

theorem request_owns (request : Request) : Owns i request.call m w := by
  cases request with
  | executeBookingSaga dto key =>
      exact .seq (executeBookingSaga_owns dto key) fun _ _ _ _ => .pure trivial
  | completeBooking id paymentTransactionId =>
      exact .seq (completeBooking_owns id paymentTransactionId) fun _ _ _ _ => .pure trivial
  | cancelBooking id reason =>
      exact .seq (cancelBooking_owns id reason) fun _ _ _ _ => .pure trivial
  | cleanupExpiredBookings =>
      exact .seq cleanupExpiredBookings_owns fun _ _ _ _ => .pure trivial
  | wait ms => exact .seq (plain_owns fun _ => trivial) fun _ _ _ _ => .pure trivial

end Calls

/-! ## Runs -/

/-- Every operation meets a world in which all identifiers were handed out. -/
def BeforeOwned : Event → Prop
  | .started _ _ _ => True
  | .performed w _ _ _ _ => Owned w

theorem owned_run {now : Nat} {ms : List (Move Request Choice)} {es : List Event}
    {P : ServicePool}
    (hrun : service.run ms (Pool.init (World.init now)) = some (es, P)) :
    Owned P.state ∧ ∀ e ∈ es, BeforeOwned e := by
  have hstart : ∀ (w : World) (i : Nat) (request : Request), ownership.inv w →
      ownership.allows (.started w i request) →
      (service.program request).wp (ownership.spec service i) (fun _ _ => True) w := by
    intro w i request _ _
    exact (request_owns request).program
  have hinit : ownership.Meets service (fun _ _ _ => True) (Pool.init (World.init now)) :=
    ⟨owned_init now, by simp [Pool.init]⟩
  obtain ⟨hmeets, howes⟩ := Contract.run_meets ownership_lawful (fun _ _ _ _ _ h => h) hstart hrun
    (fun _ _ => trivial) hinit
  refine ⟨hmeets.1, fun e he => ?_⟩
  have howed := howes e he
  cases e with
  | started w i request => trivial
  | performed w i choice op w' => exact howed.1

end FlightBookings.Booking
