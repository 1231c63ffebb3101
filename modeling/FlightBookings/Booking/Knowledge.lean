import FlightBookings.Booking.Columns

/-! # What a call knows of the sagas

The calls of the booking service save the sagas that they read or inserted, and no operation
changes the idempotency key of a saga. What a call was told of sagas and booking rows therefore
stays so, whatever the other calls do.
-/

namespace FlightBookings.Booking

open Await

variable {key : String} {id ref : String} {w w' : World} {tx : Tx} {writes : List Write}
variable {choice : Choice} {op : Op} {i j : Nat}

/-! ## The keys of the saga rows -/

/-- The bookings of the saga rows, each with its idempotency key. -/
def World.keys (w : World) : List (String × Option String) :=
  w.sagas.map fun s => (s.bookingId, s.idempotencyKey)

theorem mem_keys {key : Option String} :
    (id, key) ∈ w.keys ↔ ∃ s ∈ w.sagas, s.bookingId = id ∧ s.idempotencyKey = key := by
  simp [World.keys]

theorem applyAll_keys (hids : (w.keys.map Prod.fst).Nodup)
    (h : ∀ s, .saveSaga s ∈ writes → (s.bookingId, s.idempotencyKey) ∈ w.keys) :
    (applyAll writes w).keys = w.keys :=
  applyAll_column hids h

theorem idempotencyKey_fixed : Fixed SagaState.idempotencyKey := fun _ _ _ _ _ => rfl

/-- Rows of bookings are inserted and updated, and never deleted. -/
theorem applyAll_booking (h : (w.booking ref).isSome) :
    ((applyAll writes w).booking ref).isSome := by
  unfold applyAll
  induction writes generalizing w with
  | nil => exact h
  | cons write writes ih =>
      refine ih ?_
      cases write with
      | insertBooking b =>
          obtain ⟨row, hrow⟩ := Option.isSome_iff_exists.mp h
          have hfind : Table.find Booking.bookingReference ref w.bookings = some row := hrow
          show (Table.find Booking.bookingReference ref (w.bookings ++ [b])).isSome
          rw [Table.find_insert, hfind]
          rfl
      | updateBooking ref' change =>
          have hself : ∀ r : Booking, r.bookingReference = ref' →
              (change.apply r).bookingReference = ref' := by
            intro r hr
            rw [BookingChange.apply_bookingReference, hr]
          show (Table.find Booking.bookingReference ref
            (Table.modify Booking.bookingReference ref' change.apply w.bookings)).isSome
          by_cases heq : ref = ref'
          · subst heq
            rw [Table.find_modify_self hself, Option.isSome_map]
            exact h
          · rw [Table.find_modify_of_ne hself heq]
            exact h
      | _ => exact h

theorem createBooking_booking (h : Shape .createBooking id writes) :
    ((applyAll writes w).booking id).isSome := by
  cases h with
  | createBooking s now eventId hstatus =>
      have hkey : (newBooking s now).bookingReference = s.bookingId := rfl
      show (Table.find Booking.bookingReference s.bookingId
        (w.bookings ++ [newBooking s now])).isSome
      rw [Table.find_insert, if_pos hkey, Option.isSome_or]
      simp

/-! ## What a call knows -/

/-- Whether its request carries the key, the identifier that it drew last, the sagas that it read
or inserted, bookings whose rows are there, and the row of one of these that it read last. -/
structure Progress where
  asks : Bool
  drawn : Option String
  known : List (String × Option String)
  stored : List String
  read : Option (String × Option Booking)

def Request.asks (key : String) : Request → Bool
  | .executeBookingSaga _ key' => key' = some key
  | _ => false

def Request.progress (key : String) (request : Request) : Progress :=
  ⟨request.asks key, none, [], [], none⟩

def Progress.advance (key : String) :
    (op : Op) → Except Exception op.Ret → Progress → Progress
  | .uuid, .ok u, k => { k with drawn := some u }
  | .findSagaByKey key', .ok (some s), k =>
      { k with
        known := (s.bookingId, s.idempotencyKey) :: k.known
        stored := if key' = key then s.bookingId :: k.stored else k.stored }
  | .findSaga _, .ok (some s), k =>
      { k with known := (s.bookingId, s.idempotencyKey) :: k.known }
  | .insertSaga s, .ok _, k =>
      { k with drawn := none, known := (s.bookingId, s.idempotencyKey) :: k.known }
  | .commit .createBooking id _, .ok _, k => { k with stored := id :: k.stored }
  | .findBooking ref, .ok found, k =>
      if ref ∈ k.stored then { k with read := some (ref, found) } else k
  | _, _, k => k

/-- A call inserts the saga of the identifier that it drew, and saves sagas that it knows. -/
def Progress.Permits (k : Progress) : Op → Prop
  | .insertSaga s => k.drawn = some s.bookingId
  | .commit tx id writes => Shape tx id writes ∧
      ∀ s, .saveSaga s ∈ writes → (s.bookingId, s.idempotencyKey) ∈ k.known
  | _ => True

/-- A lookup finds a row of what was looked up. -/
def Op.Finds : (op : Op) → Except Exception op.Ret → Prop
  | .findSagaByKey key, r => ∀ s : SagaState, r = .ok (some s) → s.idempotencyKey = some key
  | op, r => op.Replies r

/-! ## Calls -/

section Calls

variable {m : Memory} {k k₀ : Progress} {ky : Option String}

/-- The saga in memory, and all sagas that the transaction saves, have the key. -/
def Kept (ky : Option String) (m : Memory) : Prop :=
  m.saga.idempotencyKey = ky ∧ ∀ s, .saveSaga s ∈ m.writes → s.idempotencyKey = ky

abbrev Keeping {α : Type} (ky : Option String) (c : Call α) (m : Memory) : Prop :=
  c.Emits (fun _ => True) (fun _ _ => True) m (fun _ => Kept ky) (Kept ky)

/-- The seat locks leave the memory of the call alone, also when they throw. -/
theorem seatLock_same {α : Type} {c : SeatLock.Call Memory α} (h : SeatLock.Sends id c m) :
    (seatLock c).Emits (Op.Within id) Op.Replies m (fun _ m' => m' = m) fun m' => m' = m := by
  have hredis : c.Emits (fun op => (Op.redis op).Within id) (fun _ _ => True) m
      (fun _ m' => m' = m) fun m' => m' = m := h m rfl
  exact .lift hredis

theorem createBookingBody_kept {saga : SagaState} (hm : Kept ky m) :
    Keeping ky (createBookingBody saga) m :=
  createBookingBody_column idempotencyKey_fixed hm

theorem lockSeatsBody_kept {lockKey : String} (hm : Kept ky m) :
    Keeping ky (lockSeatsBody lockKey) m :=
  lockSeatsBody_column idempotencyKey_fixed hm

theorem reserveFlightSeatsBody_kept {saga : SagaState} (hm : Kept ky m) :
    Keeping ky (reserveFlightSeatsBody saga) m :=
  reserveFlightSeatsBody_column idempotencyKey_fixed hm

theorem completeBody_kept {bookingId paymentTransactionId : String} (hm : Kept ky m) :
    Keeping ky (completeBody bookingId paymentTransactionId) m :=
  completeBody_column idempotencyKey_fixed hm

theorem compensateBody_kept {message : String} (hm : Kept ky m) :
    Keeping ky (compensateBody message) m :=
  compensateBody_column idempotencyKey_fixed hm

/-! What a call knows of the tables grows with its operations. -/

structure Grown (k k' : Progress) : Prop where
  known : k.known ⊆ k'.known
  stored : k.stored ⊆ k'.stored

theorem Grown.refl (k : Progress) : Grown k k := ⟨fun _ h => h, fun _ h => h⟩

theorem Grown.trans {k' k'' : Progress} (h : Grown k k') (h' : Grown k' k'') : Grown k k'' :=
  ⟨fun _ hp => h'.known (h.known hp), fun _ hid => h'.stored (h.stored hid)⟩

theorem advance_grown (op : Op) (r : Except Exception op.Ret) (k : Progress) :
    Grown k (Progress.advance key op r k) := by
  unfold Progress.advance
  split
  · exact ⟨fun _ h => h, fun _ h => h⟩
  · refine ⟨List.subset_cons_self _ _, ?_⟩
    dsimp only
    split
    · exact List.subset_cons_self _ _
    · exact fun _ h => h
  · exact ⟨List.subset_cons_self _ _, fun _ h => h⟩
  · exact ⟨List.subset_cons_self _ _, fun _ h => h⟩
  · exact ⟨fun _ h => h, List.subset_cons_self _ _⟩
  · split
    · exact ⟨fun _ h => h, fun _ h => h⟩
    · exact .refl k
  · exact .refl k

theorem Op.Finds.replies {op : Op} {r : Except Exception op.Ret} (h : op.Finds r) :
    op.Replies r := by
  cases op with
  | findSagaByKey key => trivial
  | _ => exact h

theorem permits_within (k : Progress) (hop : op.Within id) : k.Permits op := by
  cases op with
  | insertSaga s => exact hop.elim
  | commit tx id writes => exact hop.elim
  | _ => trivial

abbrev Knowing {α : Type} (key : String) (c : Call α) (m : Memory) (k : Progress)
    (Q : α → Memory → Progress → Prop) (E : Memory → Progress → Prop) : Prop :=
  c.Ensures (tracked (fun op k => Progress.Permits k op) Op.Finds (Progress.advance key)) m k Q E

theorem await_knowing {Q : op.Ret → Memory → Progress → Prop} {E : Memory → Progress → Prop}
    (hop : k.Permits op) (hE : ∀ e, E m (Progress.advance key op (.error e) k))
    (hQ : ∀ a, op.Finds (.ok a) → Q a m (Progress.advance key op (.ok a) k)) :
    Knowing key (Call.await op) m k Q E := by
  refine ⟨hop, fun r hr => ?_⟩
  cases r with
  | ok a => exact hQ a hr
  | error e => exact hE e

theorem local_knowing {α : Type} {c : Call α} {good : Op → Prop} {Q : α → Memory → Prop}
    {E : Memory → Prop} (hgood : ∀ op, good op → op.Within id) (h : c.Emits good Op.Replies m Q E)
    (hk : Grown k₀ k) :
    Knowing key c m k (fun a m' k' => Q a m' ∧ Grown k₀ k') fun m' k' => E m' ∧ Grown k₀ k' := by
  refine h.frame ?_ hk
  intro op k' Q hop hk' hnext
  exact ⟨permits_within k' (hgood op hop), fun r hr =>
    hnext r _ hr.replies (hk'.trans (advance_grown op r k'))⟩

/-- The call holds the saga of the booking, with its key, and knows what it knew before. -/
structure Follows (id : String) (ky : Option String) (k₀ : Progress) (m : Memory)
    (k : Progress) : Prop where
  booking : m.saga.bookingId = id
  key : m.saga.idempotencyKey = ky
  grown : Grown k₀ k

theorem transaction_knowing {body : Call Unit} (hwrites : Writes tx id body m)
    (hkept : ∀ m, Kept ky m → Keeping ky body m) (hm : Follows id ky k₀ m k)
    (hknown : (id, ky) ∈ k₀.known) :
    Knowing key (transaction tx body) m k
      (fun _ m' k' => Follows id ky k₀ m' k' ∧ (tx = .createBooking → id ∈ k'.stored))
      (Follows id ky k₀) := by
  refine .bind (await_knowing trivial
    (fun e => ⟨hm.booking, hm.key, hm.grown.trans (advance_grown _ _ k)⟩) fun _ _ => ?_)
  refine .bind (.remember ?_)
  have hboth := (hkept { m with writes := [] } ⟨hm.key, by simp⟩).and hwrites fun _ _ _ => trivial
  refine .andThen (local_knowing (fun op hop => hop.2) hboth
    (hm.grown.trans (advance_grown (.begin tx) _ k))) (fun m' k' h => ⟨h.1.2, h.1.1.1, h.2⟩)
    fun _ m' k' h => ?_
  obtain ⟨⟨⟨hkey, hsaved⟩, hid, hshape⟩, hgrown⟩ := h
  refine .bind (.memory ?_)
  subst hid
  refine await_knowing ⟨hshape, fun s hs => ?_⟩
    (fun e => ⟨rfl, hkey, hgrown.trans (advance_grown _ _ k')⟩)
    fun _ _ => ⟨⟨rfl, hkey, hgrown.trans (advance_grown _ _ k')⟩, fun htx => ?_⟩
  · rw [shape_saved hshape hs, hsaved s hs]
    exact hgrown.known hknown
  · subst htx
    exact List.mem_cons_self

/-- Of the rest of a call nothing more needs to be known. -/
abbrev Knows {α : Type} (key : String) (c : Call α) (m : Memory) (k : Progress) : Prop :=
  Knowing key c m k (fun _ _ _ => True) fun _ _ => True

theorem await_knows (hop : k.Permits op) : Knows key (Call.await op) m k :=
  await_knowing hop (fun _ => trivial) fun _ _ => trivial

theorem compensate_knows (message : String) (hm : Follows id ky k₀ m k)
    (hknown : (id, ky) ∈ k₀.known) : Knows key (compensate message) m k := by
  refine .bind (.memory ?_)
  split
  · exact .pure trivial
  · obtain ⟨rfl, hkey, hgrown⟩ := hm
    have htx : Knows key (transaction .compensate (compensateBody message)) m k :=
      (transaction_knowing (compensateBody_writes message) (fun _ => compensateBody_kept)
        ⟨rfl, hkey, hgrown⟩ hknown).mono (fun _ _ _ _ => trivial) fun _ _ _ => trivial
    exact .tryCatch htx fun _ _ _ _ => .pure trivial

theorem compensating_knowing {body : Call Unit} (hknown : (id, ky) ∈ k₀.known)
    (h : Knowing key body m k (fun _ => Follows id ky k₀) (Follows id ky k₀)) :
    Knowing key (compensating body) m k (fun _ => Follows id ky k₀) fun _ _ => True :=
  .tryCatch h fun e _ _ hm =>
    .seq (compensate_knows e.message hm hknown) fun _ _ _ _ => .throw trivial

/-- The first step leaves the row of the booking. -/
theorem executeStep1_knowing (hm : Follows id ky k₀ m k) (hknown : (id, ky) ∈ k₀.known)
    (hstep : m.saga.currentStep = 0) :
    Knowing key executeStep1_CreateBooking m k
      (fun _ m' k' => Follows id ky k₀ m' k' ∧ id ∈ k'.stored) fun _ _ => True := by
  refine .bind (.memory ?_)
  rw [if_neg (by omega)]
  obtain ⟨rfl, hkey, hgrown⟩ := hm
  exact (transaction_knowing createBookingBody_writes (fun _ => createBookingBody_kept)
    ⟨rfl, hkey, hgrown⟩ hknown).mono (fun _ _ _ h => ⟨h.1, h.2 rfl⟩) fun _ _ _ => trivial

theorem executeStep2_knowing (hm : Follows id ky k₀ m k) (hknown : (id, ky) ∈ k₀.known) :
    Knowing key executeStep2_LockSeats m k (fun _ => Follows id ky k₀) fun _ _ => True := by
  refine .bind (.memory ?_)
  split
  · exact .pure hm
  · obtain ⟨rfl, hkey, hgrown⟩ := hm
    refine compensating_knowing hknown ?_
    have hlock := seatLock_same (m := m) (SeatLock.lockSeats_sends m.saga.payload.flightId
      (m.saga.payload.seatNumbers.getD []) m.saga.bookingId m.saga.payload.userId)
    refine .andThen (local_knowing (fun _ hop => hop) hlock hgrown)
      (fun m' k' h => ⟨by rw [h.1], by rw [h.1, hkey], h.2⟩) fun locked m' k' h => ?_
    obtain ⟨rfl, hgrown⟩ := h
    split
    · exact (transaction_knowing (lockSeatsBody_writes locked.lockKey)
        (fun _ => lockSeatsBody_kept) ⟨rfl, hkey, hgrown⟩ hknown).mono
          (fun _ _ _ h => h.1) fun _ _ h => h
    · exact .throw ⟨rfl, hkey, hgrown⟩

theorem executeStep3_knowing (hm : Follows id ky k₀ m k) (hknown : (id, ky) ∈ k₀.known) :
    Knowing key executeStep3_ReserveFlightSeats m k (fun _ => Follows id ky k₀)
      fun _ _ => True := by
  refine .bind (.memory ?_)
  split
  · exact .pure hm
  · obtain ⟨rfl, hkey, hgrown⟩ := hm
    refine compensating_knowing hknown ?_
    exact (transaction_knowing reserveFlightSeatsBody_writes
      (fun _ => reserveFlightSeatsBody_kept) ⟨rfl, hkey, hgrown⟩ hknown).mono
        (fun _ _ _ h => h.1) fun _ _ h => h

/-- The row that the call read last is one of a booking that it knows to be there. -/
def Reads (key : String) (booking : Option Booking) (k : Progress) : Prop :=
  ∃ ref, k.read = some (ref, booking) ∧ (ref, some key) ∈ k.known

theorem findBooking_reads (hknown : (id, some key) ∈ k.known) (hstored : id ∈ k.stored) :
    Knowing key (Call.await (Op.findBooking id)) m k (fun booking _ => Reads key booking)
      fun _ _ => True := by
  refine await_knowing trivial (fun _ => trivial) fun booking _ => ?_
  rw [Progress.advance, if_pos hstored]
  exact ⟨id, rfl, hknown⟩

theorem findExistingSaga_knowing (ky : Option String) :
    Knowing key (findExistingSaga ky) m k
      (fun found _ k' => ∀ s : SagaState, found = some s → ky = some key →
        (s.bookingId, some key) ∈ k'.known ∧ s.bookingId ∈ k'.stored) fun _ _ => True := by
  unfold findExistingSaga
  split
  · rename_i key'
    split
    · exact .pure (by simp)
    · refine await_knowing trivial (fun _ => trivial) fun found hfound s hs hky => ?_
      cases hky
      subst hs
      have hkey : s.idempotencyKey = some key := hfound s rfl
      refine ⟨hkey ▸ List.mem_cons_self, ?_⟩
      simp [Progress.advance]
  · exact .pure (by simp)

theorem executeBookingSaga_knowing (dto : CreateBookingDto) (ky : Option String) :
    Knowing key (executeBookingSaga dto ky) m k
      (fun booking _ k' => ky = some key → Reads key booking k') fun _ _ => True := by
  refine .andThen (findExistingSaga_knowing ky) (fun _ _ h => h) fun found m k hfound => ?_
  cases found with
  | some saga =>
      by_cases hky : ky = some key
      · obtain ⟨hknown, hstored⟩ := hfound saga rfl hky
        exact (findBooking_reads hknown hstored).mono (fun _ _ _ h _ => h) fun _ _ h => h
      · exact await_knowing trivial (fun _ => trivial) fun _ _ hky' => absurd hky' hky
  | none =>
      refine .seq (await_knows trivial) fun sagaId m k _ => ?_
      refine .bind (await_knowing trivial (fun _ => trivial) fun bookingId _ => ?_)
      refine .bind (await_knowing rfl (fun _ => trivial) fun _ _ => .bind (.remember ?_))
      refine .andThen (executeStep1_knowing
        (⟨rfl, rfl, .refl _⟩ : Follows bookingId ky _ _ _) List.mem_cons_self rfl) (fun _ _ h => h) fun _ m k h => ?_
      obtain ⟨hm, hstored⟩ := h
      have hknown : (bookingId, ky) ∈ k.known := hm.grown.known List.mem_cons_self
      refine .andThen (executeStep2_knowing ⟨hm.booking, hm.key, .refl k⟩ hknown)
        (fun _ _ h => h) fun _ m k' hm => ?_
      refine .andThen (executeStep3_knowing hm hknown) (fun _ _ h => h) fun _ m k'' hm => ?_
      by_cases hky : ky = some key
      · subst hky
        exact (findBooking_reads (hm.grown.known hknown) (hm.grown.stored hstored)).mono
          (fun _ _ _ h _ => h) fun _ _ h => h
      · exact await_knowing trivial (fun _ => trivial) fun _ _ hky' => absurd hky' hky

/-- The saga that a call finds is one it knows from then on. -/
theorem findSaga_knowing {bookingId : String} :
    Knowing key (Call.await (Op.findSaga bookingId)) m k
      (fun found _ k' => ∀ s : SagaState, found = some s →
        s.bookingId = bookingId ∧ (bookingId, s.idempotencyKey) ∈ k'.known) fun _ _ => True := by
  refine await_knowing trivial (fun _ => trivial) fun found hfound s hs => ?_
  subst hs
  have hid : s.bookingId = bookingId := hfound s rfl
  exact ⟨hid, hid ▸ List.mem_cons_self⟩

theorem completeBooking_knows (bookingId paymentTransactionId : String) :
    Knows key (completeBooking bookingId paymentTransactionId) m k := by
  refine .andThen findSaga_knowing (fun _ _ h => h) fun found m k hfound => ?_
  cases found with
  | none => exact .throw trivial
  | some saga =>
      obtain ⟨rfl, hknown⟩ := hfound saga rfl
      dsimp only
      split
      · exact await_knows trivial
      · refine .bind (.remember ?_)
        refine .andThen (transaction_knowing (completeBody_writes paymentTransactionId)
          (fun _ => completeBody_kept) ⟨rfl, rfl, .refl k⟩ hknown) (fun _ _ _ => trivial)
          fun _ m' k' hm => ?_
        have hrelease := seatLock_same (m := m')
          (SeatLock.releaseSeats_sends saga.payload.flightId saga.bookingId)
        refine .andThen (local_knowing (fun _ hop => hop) hrelease (.refl k'))
          (fun _ _ _ => trivial) fun _ _ _ _ => await_knows trivial

theorem cancelBooking_knows (bookingId reason : String) :
    Knows key (cancelBooking bookingId reason) m k := by
  refine .andThen findSaga_knowing (fun _ _ h => h) fun found m k hfound => ?_
  cases found with
  | none => exact .throw trivial
  | some saga =>
      obtain ⟨rfl, hknown⟩ := hfound saga rfl
      refine .bind (.remember (.seq (compensate_knows reason ⟨rfl, rfl, .refl k⟩ hknown) ?_))
      exact fun _ _ _ _ => await_knows trivial

theorem cleanupExpiredBookings_knows : Knows key cleanupExpiredBookings m k := by
  refine .tryCatch (.seq (await_knows trivial) fun now m k _ => ?_) fun _ _ _ _ => .pure trivial
  refine .seq (await_knows trivial) fun expiredBookings m k _ => ?_
  refine .forM (fun _ _ _ => True) (fun booking _ m k _ => ?_) _ trivial
  exact .tryCatch (.seq (cancelBooking_knows _ _) fun _ _ _ _ => .pure trivial)
    fun _ _ _ _ => .pure trivial

/-- What a call that is done has read for its reply, if its request carries the key. -/
def Returned (key : String) (r : Except Exception Reply × Memory) (k : Progress) : Prop :=
  k.asks = true → ∀ booking, r.1 = .ok (.booking booking) → Reads key booking k

theorem advance_asks (op : Op) (r : Except Exception op.Ret) (k : Progress) :
    (Progress.advance key op r k).asks = k.asks := by
  unfold Progress.advance
  split
  case h_6 =>
    split <;> rfl
  all_goals rfl

theorem unasked (request : Request) (hasks : request.asks key = false)
    (h : Knows key request.call Memory.blank (request.progress key)) :
    (service.program request).wp
      (tracked (fun op k => Progress.Permits k op) Op.Finds (Progress.advance key)) (Returned key)
      (request.progress key) := by
  refine Program.wp_mono ?_ (Program.wp_tracked_keeps advance_asks h)
  intro r k hr hasked
  rw [hr.2] at hasked
  exact absurd (hasks.symm.trans hasked) Bool.false_ne_true

theorem request_returns (request : Request) :
    (service.program request).wp
      (tracked (fun op k => Progress.Permits k op) Op.Finds (Progress.advance key)) (Returned key)
      (request.progress key) := by
  cases request with
  | executeBookingSaga dto ky =>
      have hcall : Knowing key (Request.call (.executeBookingSaga dto ky)) Memory.blank
          (Request.progress key (.executeBookingSaga dto ky))
          (fun reply _ k' => ky = some key → ∀ booking, reply = .booking booking →
            Reads key booking k') fun _ _ => True := by
        refine .andThen (executeBookingSaga_knowing dto ky) (fun _ _ h => h) fun found m k h => ?_
        refine .pure fun hky booking hreply => ?_
        cases hreply
        exact h hky
      refine Program.wp_mono ?_ (Program.wp_tracked_keeps advance_asks hcall)
      intro r k hr hasked booking hreply
      have hky : ky = some key := by
        rw [hr.2] at hasked
        exact of_decide_eq_true hasked
      rcases r with ⟨e | reply, m⟩
      · cases hreply
      · exact hr.1 hky booking (Except.ok.inj hreply)
  | completeBooking id paymentTransactionId =>
      refine unasked (.completeBooking id paymentTransactionId) rfl ?_
      exact .seq (completeBooking_knows id paymentTransactionId) fun _ _ _ _ => .pure trivial
  | cancelBooking id reason =>
      refine unasked (.cancelBooking id reason) rfl ?_
      exact .seq (cancelBooking_knows id reason) fun _ _ _ _ => .pure trivial
  | cleanupExpiredBookings =>
      refine unasked .cleanupExpiredBookings rfl ?_
      exact .seq cleanupExpiredBookings_knows fun _ _ _ _ => .pure trivial
  | wait ms =>
      refine unasked (.wait ms) rfl ?_
      exact .seq (await_knows trivial) fun _ _ _ _ => .pure trivial

end Calls

end FlightBookings.Booking
