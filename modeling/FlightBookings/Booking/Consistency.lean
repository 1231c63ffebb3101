import FlightBookings.Booking.Release
import FlightBookings.Booking.DoubleBooking
import FlightBookings.Booking.Terminal

/-! # The rows of a booking fit together

The saga row, the booking row and the release events of a booking are changed by
the same transactions. What they say of each other holds in every run, however
its calls interleave.
-/

namespace FlightBookings.Booking

open Await

/-- What the rows of one booking say of each other. -/
structure Consistent (id : String) (w : World) : Prop where
  saga : ∀ b, w.booking id = some b → ∃ s, w.saga id = some s
  cancelled : ∀ s b, w.saga id = some s → w.booking id = some b → s.status = .compensated →
    b.status = .cancelled
  released : ∀ s, w.saga id = some s → 3 ≤ s.currentStep →
    (s.status = .compensated ∨ ∃ b, w.booking id = some b ∧ b.status = .cancelled) →
    releases w id ≠ 0
  unpaid : ∀ b, w.booking id = some b → b.paymentStatus = .pending →
    b.status = .initiated ∨ b.status = .pending ∨ b.status = .cancelled

/-- A good operation, with the step of the saga that the second transaction saves. -/
def Op.Staged : Op → Prop
  | .commit tx id writes =>
      Shape tx id writes ∧ (tx = .lockSeats → ∀ s, .saveSaga s ∈ writes → s.currentStep = 2)
  | .insertSaga s => s.status = .initiated ∧ s.currentStep = 0
  | _ => True

theorem respected_staged : Respected Op.Staged where
  within id op hop := by
    cases op with
    | insertSaga s => cases hop
    | commit tx id writes => cases hop
    | _ => trivial
  insertSaga _ hstatus hstep := ⟨hstatus, hstep⟩
  lockSeats s hstatus hstep := by
    refine ⟨.lockSeats s hstatus, fun _ s' hmem => ?_⟩
    cases List.mem_singleton.mp hmem
    exact hstep
  commit tx id writes htx hshape := ⟨hshape, fun heq => absurd heq htx⟩

variable {id id' : String} {w w' : World} {tx : Tx} {writes : List Write}

/-- The rows that a consistent booking is about. -/
theorem Consistent.of_rows (h : Consistent id w) (hsaga : w'.saga id = w.saga id)
    (hbooking : w'.booking id = w.booking id) (hreleases : releases w' id = releases w id) :
    Consistent id w' where
  saga := by
    rw [hsaga, hbooking]
    exact h.saga
  cancelled := by
    rw [hsaga, hbooking]
    exact h.cancelled
  released := by
    rw [hsaga, hbooking, hreleases]
    exact h.released
  unpaid := by
    rw [hbooking]
    exact h.unpaid

theorem Consistent.of_tables (h : Consistent id w) (htables : SameTables w w') : Consistent id w' :=
  h.of_rows (by rw [World.saga, htables.sagas]) (by rw [World.booking, htables.bookings])
    (by rw [releases, htables.outbox, releases])

theorem consistent_init (now : Nat) : Consistent id (World.init now) where
  saga _ hb := by cases hb
  cancelled _ _ hs := by cases hs
  released _ hs := by cases hs
  unpaid _ hb := by cases hb

theorem Consistent.insertSaga (h : Consistent id w) {s : SagaState} (hstatus : s.status = .initiated)
    (hstep : s.currentStep = 0) : Consistent id { w with sagas := w.sagas ++ [s] } := by
  have hfind : ∀ s', Table.find SagaState.bookingId id (w.sagas ++ [s]) = some s' →
      w.saga id = some s' ∨ s' = s := by
    intro s' hs'
    rw [Table.find_insert] at hs'
    cases hold : Table.find SagaState.bookingId id w.sagas with
    | some old =>
        rw [hold, Option.some_or] at hs'
        exact .inl (hold.trans hs')
    | none =>
        rw [hold, Option.none_or] at hs'
        split at hs'
        · exact .inr (Option.some.inj hs').symm
        · cases hs'
  refine ⟨fun b hb => ?_, fun s' b hs' hb hcompensated => ?_, fun s' hs' hle hend => ?_, h.unpaid⟩
  · obtain ⟨s', hs'⟩ := h.saga b hb
    have hfind : Table.find SagaState.bookingId id w.sagas = some s' := hs'
    refine ⟨s', ?_⟩
    show Table.find SagaState.bookingId id (w.sagas ++ [s]) = some s'
    rw [Table.find_insert, hfind, Option.some_or]
  · rcases hfind s' hs' with hold | rfl
    · exact h.cancelled s' b hold hb hcompensated
    · rw [hstatus] at hcompensated
      cases hcompensated
  · rcases hfind s' hs' with hold | rfl
    · exact h.released s' hold hle hend
    · omega

/-- The rows of a booking whose saga row is known. -/
theorem Consistent.of_saga {s : SagaState} (hsaga : w.saga id = some s)
    (hcancelled : s.status = .compensated → ∀ b, w.booking id = some b → b.status = .cancelled)
    (hreleased : 3 ≤ s.currentStep →
      (s.status = .compensated ∨ ∃ b, w.booking id = some b ∧ b.status = .cancelled) →
      releases w id ≠ 0)
    (hunpaid : ∀ b, w.booking id = some b → b.paymentStatus = .pending →
      b.status = .initiated ∨ b.status = .pending ∨ b.status = .cancelled) : Consistent id w := by
  have heq : ∀ s', w.saga id = some s' → s' = s := by
    intro s' hs'
    rw [hsaga, Option.some.injEq] at hs'
    exact hs'.symm
  refine ⟨fun _ _ => ⟨s, hsaga⟩, fun s' b hs' hb hstatus => ?_, fun s' hs' hle hend => ?_, hunpaid⟩
  · rw [heq s' hs'] at hstatus
    exact hcancelled hstatus b hb
  · rw [heq s' hs'] at hle hend
    exact hreleased hle hend

/-- A booking row after a partial update. -/
theorem booking_modify {change : BookingChange} {b : Booking}
    (h : Table.find Booking.bookingReference id
      (Table.modify Booking.bookingReference id change.apply w.bookings) = some b) :
    ∃ old, w.booking id = some old ∧ b = change.apply old := by
  have hself : ∀ r : Booking, r.bookingReference = id → (change.apply r).bookingReference = id := by
    intro r hr
    rw [BookingChange.apply_bookingReference, hr]
  rw [Table.find_modify_self hself] at h
  obtain ⟨old, hold, heq⟩ := Option.map_eq_some_iff.mp h
  exact ⟨old, hold, heq.symm⟩

/-- What the transactions leave of the booking that they are about. -/
theorem Consistent.commit_self (hw : Consistent id w) (h : Shape tx id writes)
    (hstep : tx = .lockSeats → ∀ s, .saveSaga s ∈ writes → s.currentStep = 2)
    (hunique : writes.all (Write.unique w) = true) : Consistent id (applyAll writes w) := by
  cases h with
  | createBooking s now eventId hstatus =>
      have hnone : Table.find Booking.bookingReference s.bookingId w.bookings = none := by
        simp only [List.all_cons, Write.unique, Bool.and_eq_true] at hunique
        exact Option.isNone_iff_eq_none.mp hunique.1
      have hbooking : ∀ b, Table.find Booking.bookingReference s.bookingId
          (w.bookings ++ [newBooking s now]) = some b → b.status = .initiated := by
        intro b hb
        have hkey : (newBooking s now).bookingReference = s.bookingId := rfl
        rw [Table.find_insert, hnone, Option.none_or, if_pos hkey, Option.some.injEq] at hb
        rw [← hb]
        rfl
      refine .of_saga Table.find_upsert_self (fun hcompensated => ?_) (fun _ hend => ?_)
        fun b hb _ => .inl (hbooking b hb)
      · rw [hstatus] at hcompensated
        cases hcompensated
      · rcases hend with hcompensated | ⟨b, hb, hcancelled⟩
        · rw [hstatus] at hcompensated
          cases hcompensated
        · rw [hbooking b hb] at hcancelled
          cases hcancelled
  | lockSeats s hstatus =>
      have htwo : s.currentStep = 2 := hstep rfl s (List.mem_singleton.mpr rfl)
      refine .of_saga Table.find_upsert_self (fun hcompensated => ?_) (fun hle => by omega) hw.unpaid
      rw [hstatus] at hcompensated
      cases hcompensated
  | reserveFlightSeats s eventId hstatus =>
      have hbooking : ∀ b, Table.find Booking.bookingReference s.bookingId
          (Table.modify Booking.bookingReference s.bookingId BookingChange.pending.apply
            w.bookings) = some b → b.status = .pending := by
        intro b hb
        obtain ⟨old, -, rfl⟩ := booking_modify hb
        rfl
      refine .of_saga Table.find_upsert_self (fun hcompensated => ?_) (fun _ hend => ?_)
        fun b hb _ => .inr (.inl (hbooking b hb))
      · rw [hstatus] at hcompensated
        cases hcompensated
      · rcases hend with hcompensated | ⟨b, hb, hcancelled⟩
        · rw [hstatus] at hcompensated
          cases hcompensated
        · rw [hbooking b hb] at hcancelled
          cases hcancelled
  | completeBooking s confirmId confirmedId paymentTransactionId now hstatus =>
      have hbooking : ∀ b, Table.find Booking.bookingReference s.bookingId
          (Table.modify Booking.bookingReference s.bookingId
            (BookingChange.booked paymentTransactionId now).apply w.bookings) = some b →
          b.status = .booked ∧ b.paymentStatus = .completed := by
        intro b hb
        obtain ⟨old, -, rfl⟩ := booking_modify hb
        exact ⟨rfl, rfl⟩
      refine .of_saga Table.find_upsert_self (fun hcompensated => ?_) (fun _ hend => ?_)
        fun b hb hpending => ?_
      · rw [hstatus] at hcompensated
        cases hcompensated
      · rcases hend with hcompensated | ⟨b, hb, hcancelled⟩
        · rw [hstatus] at hcompensated
          cases hcompensated
        · rw [(hbooking b hb).1] at hcancelled
          cases hcancelled
      · rw [(hbooking b hb).2] at hpending
        cases hpending
  | compensate s releaseId reason now hstatus hrelease =>
      have hbooking : ∀ b, Table.find Booking.bookingReference s.bookingId
          (Table.modify Booking.bookingReference s.bookingId
            (BookingChange.cancelled reason now).apply w.bookings) = some b →
          b.status = .cancelled := by
        intro b hb
        obtain ⟨old, -, rfl⟩ := booking_modify hb
        rfl
      have hreleased : 3 ≤ s.currentStep → releases (applyAll (.saveSaga
          { s with status := .compensating } :: (releaseId.toList.map fun eventId =>
            .insertEvent ⟨eventId, s.bookingId, .releaseSeats (seatsPayload s)⟩) ++
          [.updateBooking s.bookingId (.cancelled reason now), .saveSaga s]) w) s.bookingId ≠ 0 := by
        intro hle
        obtain ⟨eventId, rfl⟩ := Option.isSome_iff_exists.mp (hrelease.mpr hle)
        have hcount : releases { w with outbox := w.outbox ++
            [⟨eventId, s.bookingId, .releaseSeats (seatsPayload s)⟩] } s.bookingId =
            releases w s.bookingId + 1 := by
          rw [releases_append rfl]
          simp [EventBody.isRelease]
        show releases { w with outbox := w.outbox ++
          [⟨eventId, s.bookingId, .releaseSeats (seatsPayload s)⟩] } s.bookingId ≠ 0
        omega
      cases releaseId with
      | none =>
          exact .of_saga Table.find_upsert_self (fun _ => hbooking) (fun hle _ => hreleased hle)
            fun b hb _ => .inr (.inr (hbooking b hb))
      | some eventId =>
          exact .of_saga Table.find_upsert_self (fun _ => hbooking) (fun hle _ => hreleased hle)
            fun b hb _ => .inr (.inr (hbooking b hb))

theorem Consistent.commit_of_ne (hw : Consistent id w) (h : Shape tx id' writes) (hne : id ≠ id') :
    Consistent id (applyAll writes w) :=
  hw.of_rows (shape_saga_of_ne h hne w) (shape_booking_of_ne h hne w)
    (shape_outbox_of_ne h hne w EventBody.isRelease)

/-- The rows of every booking, under the unique index on the references. -/
structure AllConsistent (w : World) : Prop where
  unique : UniqueReferences w
  rows : ∀ id, Consistent id w

theorem AllConsistent.of_tables (h : AllConsistent w) (htables : SameTables w w') :
    AllConsistent w' where
  unique := by
    rw [UniqueReferences, htables.bookings]
    exact h.unique
  rows id := (h.rows id).of_tables htables

theorem AllConsistent.commit (hw : AllConsistent w) (h : Shape tx id writes)
    (hstep : tx = .lockSeats → ∀ s, .saveSaga s ∈ writes → s.currentStep = 2)
    (hunique : writes.all (Write.unique w) = true) : AllConsistent (applyAll writes w) where
  unique := shape_unique h hw.unique hunique
  rows id' := by
    by_cases hid : id' = id
    · subst hid
      exact (hw.rows id').commit_self h hstep hunique
    · exact (hw.rows id').commit_of_ne h hid

theorem AllConsistent.perform {choice : Choice} {op : Op} {r : Except Exception op.Ret}
    (hw : AllConsistent w) (hop : op.Staged) (h : performWith choice op w = some (r, w')) :
    AllConsistent w' := by
  rcases perform_tables h with ⟨hsagas, hbookings, houtbox, -⟩ | ⟨s, rfl, -, rfl⟩ |
    ⟨tx, id, writes, rfl, -, hunique, rfl⟩
  · exact hw.of_tables ⟨hsagas, hbookings, houtbox⟩
  · exact ⟨hw.unique, fun id => (hw.rows id).insertSaga hop.1 hop.2⟩
  · exact hw.commit hop.1 hop.2 hunique

/-- The rows fit together in every run. -/
theorem consistent_run {now : Nat} {ms : List (Move Request Choice)} {es : List Event}
    {P : ServicePool} (hrun : service.run ms (Pool.init (World.init now)) = some (es, P)) :
    AllConsistent P.state := by
  have hinit : AllConsistent (World.init now) := ⟨List.nodup_nil, fun _ => consistent_init now⟩
  have hstarted : ∀ (w : World) (i : Nat) (request : Request), AllConsistent w → True →
      (service.program request).Emits Op.Staged Op.Replies ∧ True := by
    intro w i request _ _
    exact ⟨(request_keeps respected_staged request).program, trivial⟩
  have hperform : ∀ (w : World) (i : Nat) (choice : Choice) (op : Op)
      (r : Except Exception op.Ret) (w' : World), op.Staged → AllConsistent w →
      service.perform i choice op w = some (r, w') → True →
      op.Replies r ∧ AllConsistent w' ∧ True := by
    intro w i choice op r w' hop hw h _
    exact ⟨perform_replies h, hw.perform hop h, trivial⟩
  exact (@System.run_ops _ _ _ _ _ _ service _ _ _ _ Op.Staged Op.Replies AllConsistent
    (fun _ => True) (fun _ => True) hstarted hperform hrun (fun _ _ => trivial) hinit
    (by simp [Pool.init])).1

end FlightBookings.Booking
