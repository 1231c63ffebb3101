import FlightBookings.Booking.Knowledge

/-! # The booking row and its inventory events

The row and the events of a booking are derived from the payload of its saga,
in four places. The payload never changes, so all of them agree on the flight
and on the number of seats; the row alone takes its class from the preference
of the request.
-/

namespace FlightBookings.Booking

open Await

/-- The payload of an event that changes the inventory of a flight. -/
def EventBody.seatsPayload : EventBody → Option SeatsPayload
  | .reserveSeats payload => some payload
  | .confirmSeats payload => some payload
  | .releaseSeats payload => some payload
  | .bookingCreated _ _ => none
  | .bookingConfirmed _ _ => none

/-- A request that asks for a class explicitly, or whose preference does not name another one
than the default. -/
def NamesOneClass (dto : CreateBookingDto) : Prop :=
  orElse dto.seatClass "" ≠ "" ∨
    toUpperCase (orElse dto.seatPreference "") ∉ ["PREMIUM_ECONOMY", "BUSINESS", "FIRST_CLASS"]

instance (dto : CreateBookingDto) : Decidable (NamesOneClass dto) :=
  inferInstanceAs (Decidable (_ ∨ _))

theorem orElse_default {value : Option String} (h : orElse value "" = "") (fallback : String) :
    orElse value fallback = fallback := by
  cases value with
  | none => rfl
  | some s =>
      by_cases hs : s = ""
      · simp [orElse, hs]
      · simp [orElse, hs] at h

/-- The events carry the class of the row exactly if the request names one class. -/
theorem class_agrees_iff (dto : CreateBookingDto) :
    orElse dto.seatClass "ECONOMY" = resolvedSeatClass dto ↔ NamesOneClass dto := by
  unfold resolvedSeatClass NamesOneClass
  by_cases hclass : orElse dto.seatClass "" = ""
  · rw [if_pos hclass, orElse_default hclass]
    generalize toUpperCase (orElse dto.seatPreference "") = preference
    by_cases hother : preference ∈ ["PREMIUM_ECONOMY", "BUSINESS", "FIRST_CLASS"]
    · have hne : "ECONOMY" ≠ preference := by
        rintro rfl
        revert hother
        decide
      have hnamed : preference ∈ seatClasses := List.mem_cons_of_mem _ hother
      simp only [if_pos hnamed, hclass, hother, hne, ne_eq, not_true_eq_false, or_self]
    · have hrow : (if preference ∈ seatClasses then preference else "ECONOMY") = "ECONOMY" := by
        split
        · rename_i hnamed
          cases List.mem_cons.mp hnamed with
          | inl heconomy => exact heconomy
          | inr hnamed => exact absurd hnamed hother
        · rfl
      exact ⟨fun _ => .inr hother, fun _ => hrow.symm⟩
  · rw [if_neg hclass]
    exact ⟨fun _ => .inl hclass, fun _ => rfl⟩

/-! ## What the tables say of a request -/

/-- The row of a booking is the one of a request, by the saga rows `requests`. -/
def RowFits (requests : List (String × CreateBookingDto)) (b : Booking) : Prop :=
  ∃ dto, (b.bookingReference, dto) ∈ requests ∧ b.flightId = dto.flightId ∧
    b.seatClass = resolvedSeatClass dto ∧ b.noOfSeats = seatCount dto

def EventFits (requests : List (String × CreateBookingDto)) (e : OutboxEvent) : Prop :=
  ∀ p, e.body.seatsPayload = some p → ∃ dto, (e.aggregateId, dto) ∈ requests ∧
    p.flightId = dto.flightId ∧ p.seatClass = orElse dto.seatClass "ECONOMY" ∧
    p.seatCount = seatCount dto

structure TablesFit (requests : List (String × CreateBookingDto)) (w : World) : Prop where
  rows : ∀ b ∈ w.bookings, RowFits requests b
  events : ∀ e ∈ w.outbox, EventFits requests e

def Write.Fits (requests : List (String × CreateBookingDto)) : Write → Prop
  | .insertBooking b => RowFits requests b
  | .insertEvent e => EventFits requests e
  | _ => True

variable {requests : List (String × CreateBookingDto)} {id : String} {w w' : World} {tx : Tx}
variable {writes : List Write} {choice : Choice} {op : Op} {i : Nat} {m : Memory}

theorem rowFits_apply {b : Booking} (h : RowFits requests b) (change : BookingChange) :
    RowFits requests (change.apply b) := by
  obtain ⟨dto, hmem, hflight, hclass, hcount⟩ := h
  refine ⟨dto, ?_, ?_, ?_, ?_⟩
  · rw [BookingChange.apply_bookingReference]
    exact hmem
  · rw [BookingChange.apply_flightId]
    exact hflight
  · cases change <;> exact hclass
  · cases change <;> exact hcount

theorem tablesFit_apply {write : Write} (hw : TablesFit requests w) (h : write.Fits requests) :
    TablesFit requests (write.apply w) := by
  cases write with
  | insertBooking b =>
      refine ⟨?_, hw.events⟩
      intro b' hb'
      cases List.mem_append.mp hb' with
      | inl hold => exact hw.rows b' hold
      | inr hnew => exact List.mem_singleton.mp hnew ▸ h
  | saveSaga s => exact ⟨hw.rows, hw.events⟩
  | updateBooking ref change =>
      refine ⟨?_, hw.events⟩
      intro b hb
      obtain ⟨b', hb', ⟨-, rfl⟩ | ⟨-, rfl⟩⟩ := Table.mem_modify.mp hb
      · exact rowFits_apply (hw.rows b' hb') change
      · exact hw.rows b hb'
  | insertEvent e =>
      refine ⟨hw.rows, ?_⟩
      intro e' he'
      cases List.mem_append.mp he' with
      | inl hold => exact hw.events e' hold
      | inr hnew => exact List.mem_singleton.mp hnew ▸ h

theorem tablesFit_applyAll (hw : TablesFit requests w)
    (h : ∀ write ∈ writes, write.Fits requests) : TablesFit requests (applyAll writes w) := by
  unfold applyAll
  induction writes generalizing w with
  | nil => exact hw
  | cons write writes ih =>
      exact ih (tablesFit_apply hw (h write List.mem_cons_self))
        fun write' hmem => h write' (List.mem_cons_of_mem _ hmem)

theorem TablesFit.mono {requests' : List (String × CreateBookingDto)} (h : TablesFit requests w)
    (hsub : requests ⊆ requests') (hbookings : w'.bookings = w.bookings)
    (houtbox : w'.outbox = w.outbox) : TablesFit requests' w' where
  rows b hb := by
    obtain ⟨dto, hmem, hfits⟩ := h.rows b (hbookings ▸ hb)
    exact ⟨dto, hsub hmem, hfits⟩
  events e he p hp := by
    obtain ⟨dto, hmem, hfits⟩ := h.events e (houtbox ▸ he) p hp
    exact ⟨dto, hsub hmem, hfits⟩

theorem seatsPayload_fits {s : SagaState} {eventId : String} {body : EventBody}
    (h : (s.bookingId, s.payload) ∈ requests) (hbody : body.seatsPayload = some (seatsPayload s)) :
    EventFits requests ⟨eventId, s.bookingId, body⟩ := by
  intro p hp
  cases hbody.symm.trans hp
  exact ⟨s.payload, h, rfl, rfl, rfl⟩

theorem plain_fits {eventId : String} {body : EventBody} (hbody : body.seatsPayload = none) :
    EventFits requests ⟨eventId, id, body⟩ := by
  intro p hp
  cases hbody.symm.trans hp

/-- The transactions write what fits the payload of the saga that they save. -/
theorem shape_fits (h : Shape tx id writes)
    (hsaved : ∀ s, .saveSaga s ∈ writes → (s.bookingId, s.payload) ∈ requests) :
    ∀ write ∈ writes, write.Fits requests := by
  cases h with
  | createBooking s now eventId hstatus =>
      have hs := hsaved s (by simp)
      simp only [List.forall_mem_cons, Write.Fits]
      exact ⟨⟨s.payload, hs, rfl, rfl, rfl⟩, trivial, plain_fits rfl, by simp⟩
  | lockSeats s hstatus => simp [Write.Fits]
  | reserveFlightSeats s eventId hstatus =>
      have hs := hsaved s (by simp)
      simp only [List.forall_mem_cons, Write.Fits]
      exact ⟨seatsPayload_fits hs rfl, trivial, trivial, by simp⟩
  | completeBooking s confirmId confirmedId paymentTransactionId now hstatus =>
      have hs := hsaved s (by simp)
      simp only [List.forall_mem_cons, Write.Fits]
      exact ⟨seatsPayload_fits hs rfl, trivial, trivial, plain_fits rfl, by simp⟩
  | compensate s releaseId reason now hstatus hrelease =>
      have hs := hsaved s (by simp)
      cases releaseId with
      | none => simp [Write.Fits]
      | some eventId =>
          simp only [Option.toList_some, List.map_cons, List.map_nil, List.cons_append,
            List.nil_append, List.forall_mem_cons, Write.Fits]
          exact ⟨trivial, seatsPayload_fits hs rfl, trivial, trivial, by simp⟩

/-! ## What a call goes by -/

/-- The request of a call, the identifier that it drew last, and the sagas that it read or
inserted, each with its payload. -/
structure Account where
  asked : Option CreateBookingDto
  drawn : Option String
  known : List (String × CreateBookingDto)

def Request.asked : Request → Option CreateBookingDto
  | .executeBookingSaga dto _ => some dto
  | _ => none

def Request.account (request : Request) : Account := ⟨request.asked, none, []⟩

def Account.advance : (op : Op) → Except Exception op.Ret → Account → Account
  | .uuid, .ok u, k => { k with drawn := some u }
  | .findSaga _, .ok (some s), k => { k with known := (s.bookingId, s.payload) :: k.known }
  | .insertSaga s, .ok _, k =>
      { k with drawn := none, known := (s.bookingId, s.payload) :: k.known }
  | _, _, k => k

/-- A call inserts the saga of its request, under the identifier that it drew, and saves sagas
with the payload that it knows. -/
def Account.Permits (k : Account) : Op → Prop
  | .insertSaga s => k.asked = some s.payload ∧ k.drawn = some s.bookingId
  | .commit tx id writes => Shape tx id writes ∧
      ∀ s, .saveSaga s ∈ writes → (s.bookingId, s.payload) ∈ k.known
  | _ => True

section Calls

variable {k : Account} {dto : CreateBookingDto}

abbrev Accounting {α : Type} (c : Call α) (m : Memory) (k : Account)
    (Q : α → Memory → Account → Prop) (E : Memory → Account → Prop) : Prop :=
  c.Ensures (tracked (fun op k => Account.Permits k op) Op.Replies Account.advance) m k Q E

theorem advance_asked (op : Op) (r : Except Exception op.Ret) (k : Account) :
    (Account.advance op r k).asked = k.asked := by
  unfold Account.advance
  split <;> rfl

theorem advance_known (op : Op) (r : Except Exception op.Ret) (k : Account) :
    k.known ⊆ (Account.advance op r k).known := by
  unfold Account.advance
  split
  · exact fun _ h => h
  · exact List.subset_cons_self _ _
  · exact List.subset_cons_self _ _
  · exact fun _ h => h

theorem account_within (k : Account) (hop : op.Within id) : k.Permits op := by
  cases op with
  | insertSaga s => exact hop.elim
  | commit tx id writes => exact hop.elim
  | _ => trivial

theorem await_accounting {Q : op.Ret → Memory → Account → Prop} {E : Memory → Account → Prop}
    (hop : k.Permits op) (hE : ∀ e, E m (Account.advance op (.error e) k))
    (hQ : ∀ a, op.Replies (.ok a) → Q a m (Account.advance op (.ok a) k)) :
    Accounting (Call.await op) m k Q E := by
  refine ⟨hop, fun r hr => ?_⟩
  cases r with
  | ok a => exact hQ a hr
  | error e => exact hE e

/-- What no operation takes from an account is kept by a call that changes no table. -/
theorem local_accounting {α : Type} {c : Call α} {good : Op → Prop} {Q : α → Memory → Prop}
    {E : Memory → Prop} {keeps : Account → Prop} (hgood : ∀ op, good op → op.Within id)
    (hkeeps : ∀ op r k, keeps k → keeps (Account.advance op r k))
    (h : c.Emits good Op.Replies m Q E) (hk : keeps k) :
    Accounting c m k (fun a m' k' => Q a m' ∧ keeps k') fun m' k' => E m' ∧ keeps k' := by
  refine h.frame ?_ hk
  intro op k' Q hop hk' hnext
  exact ⟨account_within k' (hgood op hop), fun r hr => hnext r _ hr (hkeeps op r k' hk')⟩

/-- The call holds the saga of the booking, with a payload that it knows. -/
structure Carries (id : String) (dto : CreateBookingDto) (m : Memory) (k : Account) : Prop where
  booking : m.saga.bookingId = id
  payload : m.saga.payload = dto
  known : (id, dto) ∈ k.known

theorem Carries.advance (h : Carries id dto m k) (op : Op) (r : Except Exception op.Ret) :
    Carries id dto m (Account.advance op r k) :=
  ⟨h.booking, h.payload, advance_known op r k h.known⟩

theorem known_keeps (op : Op) (r : Except Exception op.Ret) (k : Account)
    (h : (id, dto) ∈ k.known) : (id, dto) ∈ (Account.advance op r k).known :=
  advance_known op r k h

theorem transaction_accounting {body : Call Unit} (hwrites : Writes tx id body m)
    (hkept : ∀ m, KeepsColumn SagaState.payload dto m → ColumnKeeping SagaState.payload dto body m)
    (hm : Carries id dto m k) :
    Accounting (transaction tx body) m k (fun _ => Carries id dto) (Carries id dto) := by
  refine .bind (await_accounting trivial (fun e => hm.advance _ _) fun _ _ => ?_)
  refine .bind (.remember ?_)
  have hboth := (hkept { m with writes := [] } ⟨hm.payload, by simp⟩).and hwrites fun _ _ _ => trivial
  refine .andThen (local_accounting (fun op hop => hop.2) known_keeps hboth
    (hm.advance (.begin tx) _).known) (fun m' k' h => ⟨h.1.2, h.1.1.1, h.2⟩) fun _ m' k' h => ?_
  obtain ⟨⟨⟨hpayload, hsaved⟩, hid, hshape⟩, hknown⟩ := h
  have hm' : Carries id dto m' k' := ⟨hid, hpayload, hknown⟩
  refine .bind (.memory ?_)
  subst hid
  refine await_accounting ⟨hshape, fun s hs => ?_⟩ (fun e => hm'.advance _ _)
    fun _ _ => hm'.advance _ _
  rw [shape_saved hshape hs, hsaved s hs]
  exact hknown

/-- Of the rest of a call nothing more needs to be known. -/
abbrev Accounts {α : Type} (c : Call α) (m : Memory) (k : Account) : Prop :=
  Accounting c m k (fun _ _ _ => True) fun _ _ => True

theorem await_accounts (hop : k.Permits op) : Accounts (Call.await op) m k :=
  await_accounting hop (fun _ => trivial) fun _ _ => trivial

theorem payload_fixed : Fixed SagaState.payload := fun _ _ _ _ _ => rfl

theorem compensate_accounts (message : String) (hm : Carries id dto m k) :
    Accounts (compensate message) m k := by
  refine .bind (.memory ?_)
  split
  · exact .pure trivial
  · obtain ⟨rfl, hpayload, hknown⟩ := hm
    have htx : Accounts (transaction .compensate (compensateBody message)) m k :=
      (transaction_accounting (compensateBody_writes message)
        (fun _ => compensateBody_column payload_fixed) ⟨rfl, hpayload, hknown⟩).mono
          (fun _ _ _ _ => trivial) fun _ _ _ => trivial
    exact .tryCatch htx fun _ _ _ _ => .pure trivial

theorem compensating_accounting {body : Call Unit}
    (h : Accounting body m k (fun _ => Carries id dto) (Carries id dto)) :
    Accounting (compensating body) m k (fun _ => Carries id dto) fun _ _ => True :=
  .tryCatch h fun e _ _ hm => .seq (compensate_accounts e.message hm) fun _ _ _ _ => .throw trivial

theorem executeStep1_accounting (hm : Carries id dto m k) :
    Accounting executeStep1_CreateBooking m k (fun _ => Carries id dto) fun _ _ => True := by
  refine .bind (.memory ?_)
  split
  · exact .pure hm
  · obtain ⟨rfl, hpayload, hknown⟩ := hm
    exact (transaction_accounting createBookingBody_writes
      (fun _ => createBookingBody_column payload_fixed) ⟨rfl, hpayload, hknown⟩).mono
        (fun _ _ _ h => h) fun _ _ _ => trivial

theorem executeStep2_accounting (hm : Carries id dto m k) :
    Accounting executeStep2_LockSeats m k (fun _ => Carries id dto) fun _ _ => True := by
  refine .bind (.memory ?_)
  split
  · exact .pure hm
  · obtain ⟨rfl, rfl, hknown⟩ := hm
    refine compensating_accounting ?_
    have hlock := seatLock_same (m := m) (SeatLock.lockSeats_sends m.saga.payload.flightId
      (m.saga.payload.seatNumbers.getD []) m.saga.bookingId m.saga.payload.userId)
    refine .andThen (local_accounting (fun _ hop => hop) known_keeps hlock hknown)
      (fun m' k' h => ⟨by rw [h.1], by rw [h.1], h.2⟩) fun locked m' k' h => ?_
    obtain ⟨rfl, hknown⟩ := h
    split
    · exact transaction_accounting (lockSeatsBody_writes locked.lockKey)
        (fun _ => lockSeatsBody_column payload_fixed) ⟨rfl, rfl, hknown⟩
    · exact .throw ⟨rfl, rfl, hknown⟩

theorem executeStep3_accounting (hm : Carries id dto m k) :
    Accounting executeStep3_ReserveFlightSeats m k (fun _ => Carries id dto) fun _ _ => True := by
  refine .bind (.memory ?_)
  split
  · exact .pure hm
  · obtain ⟨rfl, hpayload, hknown⟩ := hm
    exact compensating_accounting (transaction_accounting reserveFlightSeatsBody_writes
      (fun _ => reserveFlightSeatsBody_column payload_fixed) ⟨rfl, hpayload, hknown⟩)

theorem asked_keeps {asked : Option CreateBookingDto} (op : Op) (r : Except Exception op.Ret)
    (k : Account) (h : k.asked = asked) : (Account.advance op r k).asked = asked :=
  (advance_asked op r k).trans h

theorem findExistingSaga_accounting (key : Option String) (h : k.asked = some dto) :
    Accounting (findExistingSaga key) m k (fun _ _ k' => k'.asked = some dto) fun _ _ => True := by
  unfold findExistingSaga
  split
  · split
    · exact .pure h
    · exact await_accounting trivial (fun _ => trivial) fun _ _ => asked_keeps _ _ k h
  · exact .pure h

theorem executeBookingSaga_accounts (key : Option String) (h : k.asked = some dto) :
    Accounts (executeBookingSaga dto key) m k := by
  refine .andThen (findExistingSaga_accounting key h) (fun _ _ h => h) fun found m k h => ?_
  cases found with
  | some saga => exact await_accounts trivial
  | none =>
      refine .bind (await_accounting trivial (fun _ => trivial) fun sagaId _ => ?_)
      refine .bind (await_accounting trivial (fun _ => trivial) fun bookingId _ => ?_)
      refine .bind (await_accounting ⟨h, rfl⟩ (fun _ => trivial) fun _ _ => .bind (.remember ?_))
      refine .andThen (executeStep1_accounting
        (⟨rfl, rfl, List.mem_cons_self⟩ : Carries bookingId dto _ _)) (fun _ _ h => h)
        fun _ m k hm => ?_
      refine .andThen (executeStep2_accounting hm) (fun _ _ h => h) fun _ m k hm => ?_
      exact .andThen (executeStep3_accounting hm) (fun _ _ h => h) fun _ _ _ _ =>
        await_accounts trivial

/-- The saga that a call finds is one it knows from then on. -/
theorem findSaga_accounting {bookingId : String} :
    Accounting (Call.await (Op.findSaga bookingId)) m k
      (fun found _ k' => ∀ s : SagaState, found = some s →
        s.bookingId = bookingId ∧ (bookingId, s.payload) ∈ k'.known) fun _ _ => True := by
  refine await_accounting trivial (fun _ => trivial) fun found hfound s hs => ?_
  subst hs
  have hid : s.bookingId = bookingId := hfound s rfl
  exact ⟨hid, hid ▸ List.mem_cons_self⟩

theorem completeBooking_accounts (bookingId paymentTransactionId : String) :
    Accounts (completeBooking bookingId paymentTransactionId) m k := by
  refine .andThen findSaga_accounting (fun _ _ h => h) fun found m k hfound => ?_
  cases found with
  | none => exact .throw trivial
  | some saga =>
      obtain ⟨rfl, hknown⟩ := hfound saga rfl
      dsimp only
      split
      · exact await_accounts trivial
      · refine .bind (.remember ?_)
        refine .andThen (transaction_accounting (completeBody_writes paymentTransactionId)
          (fun _ => completeBody_column payload_fixed) ⟨rfl, rfl, hknown⟩) (fun _ _ _ => trivial)
          fun _ m' k' hm => ?_
        have hrelease := seatLock_same (m := m')
          (SeatLock.releaseSeats_sends saga.payload.flightId saga.bookingId)
        exact .andThen (local_accounting (fun _ hop => hop) known_keeps hrelease hm.known)
          (fun _ _ _ => trivial) fun _ _ _ _ => await_accounts trivial

theorem cancelBooking_accounts (bookingId reason : String) :
    Accounts (cancelBooking bookingId reason) m k := by
  refine .andThen findSaga_accounting (fun _ _ h => h) fun found m k hfound => ?_
  cases found with
  | none => exact .throw trivial
  | some saga =>
      obtain ⟨rfl, hknown⟩ := hfound saga rfl
      refine .bind (.remember (.seq (compensate_accounts reason ⟨rfl, rfl, hknown⟩) ?_))
      exact fun _ _ _ _ => await_accounts trivial

theorem cleanupExpiredBookings_accounts : Accounts cleanupExpiredBookings m k := by
  refine .tryCatch (.seq (await_accounts trivial) fun now m k _ => ?_) fun _ _ _ _ => .pure trivial
  refine .seq (await_accounts trivial) fun expiredBookings m k _ => ?_
  refine .forM (fun _ _ _ => True) (fun booking _ m k _ => ?_) _ trivial
  exact .tryCatch (.seq (cancelBooking_accounts _ _) fun _ _ _ _ => .pure trivial)
    fun _ _ _ _ => .pure trivial

theorem request_accounts (request : Request) :
    (service.program request).wp
      (tracked (fun op k => Account.Permits k op) Op.Replies Account.advance) (fun _ _ => True)
      request.account := by
  have haccounts : Accounts request.call Memory.blank request.account := by
    cases request with
    | executeBookingSaga dto key =>
        exact .seq (executeBookingSaga_accounts key rfl) fun _ _ _ _ => .pure trivial
    | completeBooking id paymentTransactionId =>
        exact .seq (completeBooking_accounts id paymentTransactionId) fun _ _ _ _ => .pure trivial
    | cancelBooking id reason =>
        exact .seq (cancelBooking_accounts id reason) fun _ _ _ _ => .pure trivial
    | cleanupExpiredBookings =>
        exact .seq cleanupExpiredBookings_accounts fun _ _ _ _ => .pure trivial
    | wait ms => exact .seq (await_accounts trivial) fun _ _ _ _ => .pure trivial
  exact Program.wp_mono (fun _ _ _ => trivial) haccounts

end Calls

/-! ## Steps -/

section Steps

variable {past : List Event} {k : Account} {r : Except Exception op.Ret}

abbrev World.payloads (w : World) : List (String × CreateBookingDto) := w.column SagaState.payload

def Requested (past : List Event) (dto : CreateBookingDto) : Prop :=
  ∃ w i key, .started w i (.executeBookingSaga dto key) ∈ past

theorem Requested.later {dto : CreateBookingDto} {e : Event} (h : Requested past dto) :
    Requested (past ++ [e]) dto := by
  obtain ⟨w, i, key, hmem⟩ := h
  exact ⟨w, i, key, List.mem_append_left _ hmem⟩

/-- What a call goes by is so. -/
structure Accurate (past : List Event) (w : World) (k : Account) : Prop where
  asked : ∀ dto, k.asked = some dto → Requested past dto
  drawn : ∀ u, k.drawn = some u → u ∈ w.issued ∧ ∀ p ∈ w.payloads, p.1 ≠ u
  known : k.known ⊆ w.payloads

/-- The payloads of the sagas, what the calls know of them, and what the tables say of them. -/
structure Recorded (past : List Event) (w : World) : Prop where
  issued : ∀ p ∈ w.payloads, p.1 ∈ w.issued
  unique : (w.payloads.map Prod.fst).Nodup
  requested : ∀ p ∈ w.payloads, Requested past p.2
  tables : TablesFit w.payloads w
  calls : ∀ i k, service.trace Request.account Account.advance i past = some k → Accurate past w k
  apart : ∀ i j k k' u, service.trace Request.account Account.advance i past = some k →
    service.trace Request.account Account.advance j past = some k' →
    k.drawn = some u → k'.drawn = some u → i = j

theorem recorded_init {now : Nat} : Recorded [] (World.init now) where
  issued _ hp := absurd hp List.not_mem_nil
  unique := List.nodup_nil
  requested _ hp := absurd hp List.not_mem_nil
  tables := ⟨by simp [World.init], by simp [World.init]⟩
  calls _ _ hk := by cases hk
  apart _ _ _ _ _ hk := by cases hk

theorem Recorded.started (h : Recorded past w) (request : Request) :
    Recorded (past ++ [.started w i request]) w where
  issued := h.issued
  unique := h.unique
  requested p hp := (h.requested p hp).later
  tables := h.tables
  calls j k hk := by
    rcases System.trace_started_cases hk with ⟨-, rfl⟩ | ⟨-, hold⟩
    · refine ⟨fun dto hasked => ?_, by simp [Request.account], by simp [Request.account]⟩
      cases request with
      | executeBookingSaga dto' key =>
          cases hasked
          exact ⟨w, i, key, by simp⟩
      | _ => cases hasked
    · have hk := h.calls j k hold
      exact ⟨fun dto hasked => (hk.asked dto hasked).later, hk.drawn, hk.known⟩
  apart j j' k k' u hk hk' hu hu' := by
    rcases System.trace_started_cases hk with ⟨-, rfl⟩ | ⟨-, hold⟩
    · cases hu
    · rcases System.trace_started_cases hk' with ⟨-, rfl⟩ | ⟨-, hold'⟩
      · cases hu'
      · exact h.apart j j' k k' u hold hold' hu hu'

theorem payloads_insert (w : World) (s : SagaState) :
    World.payloads { w with sagas := w.sagas ++ [s] } =
      w.payloads ++ [(s.bookingId, s.payload)] := by
  simp [World.column]

/-- The payloads stay, or those of one inserted saga join them. -/
theorem perform_payloads (hinv : Recorded past w) (hpermits : k.Permits op)
    (hk : Accurate past w k) (h : performWith choice op w = some (r, w')) :
    (w'.payloads = w.payloads ∧ TablesFit w.payloads w') ∨
      ∃ s, op = .insertSaga s ∧ w' = { w with sagas := w.sagas ++ [s] } := by
  rcases perform_tables h with ⟨hsagas, hbookings, houtbox, -⟩ | ⟨s, hs, -, hw'⟩ |
    ⟨tx, id, writes, rfl, -, -, rfl⟩
  · refine .inl ⟨?_, hinv.tables.mono (fun _ h => h) hbookings houtbox⟩
    rw [World.payloads, World.column, hsagas]
    rfl
  · exact .inr ⟨s, hs, hw'⟩
  · have hsaved : ∀ s, .saveSaga s ∈ writes → (s.bookingId, s.payload) ∈ w.payloads :=
      fun s hs => hk.known (hpermits.2 s hs)
    exact .inl ⟨applyAll_column hinv.unique hsaved,
      tablesFit_applyAll hinv.tables (shape_fits hpermits.1 hsaved)⟩

theorem Accurate.later (h : Accurate past w k) (e : Event) : Accurate (past ++ [e]) w k :=
  ⟨fun dto hasked => (h.asked dto hasked).later, h.drawn, h.known⟩

theorem Accurate.mono (h : Accurate past w k) (hissued : ∀ u ∈ w.issued, u ∈ w'.issued)
    (hpayloads : w.payloads ⊆ w'.payloads)
    (hdrawn : ∀ u, k.drawn = some u → ∀ p ∈ w'.payloads, p ∈ w.payloads ∨ p.1 ≠ u) :
    Accurate past w' k where
  asked := h.asked
  drawn u hu := by
    obtain ⟨hmem, hfresh⟩ := h.drawn u hu
    refine ⟨hissued u hmem, fun p hp => ?_⟩
    rcases hdrawn u hu p hp with hold | hnew
    · exact hfresh p hold
    · exact hnew
  known _ hp := hpayloads (h.known hp)

theorem account_error (op : Op) (e : Exception) (k : Account) :
    Account.advance op (.error e) k = k := by
  cases op <;> rfl

theorem Accurate.learn {s : SagaState} (h : Accurate past w k) (hs : s ∈ w.sagas) :
    Accurate past w { k with known := (s.bookingId, s.payload) :: k.known } where
  asked := h.asked
  drawn := h.drawn
  known := List.cons_subset.mpr ⟨mem_column.mpr ⟨s, hs, rfl, rfl⟩, h.known⟩

/-- What a call learns from its own step is so. -/
theorem Recorded.learns (hinv : Recorded past w) (hk : Accurate past w k)
    (hpermits : k.Permits op) (h : performWith choice op w = some (r, w')) :
    Accurate past w' (Account.advance op r k) := by
  rcases performWith_cases h with ⟨e, -, rfl, rfl⟩ | ⟨-, hop⟩
  · rw [account_error]
    exact hk
  cases op with
  | uuid =>
      simp only [Op.perform] at hop
      split at hop
      · cases hop
      · rename_i hfresh
        cases hop
        refine ⟨hk.asked, fun u hu => ?_, hk.known⟩
        cases hu
        exact ⟨List.mem_cons_self, fun p hp heq => hfresh (heq ▸ hinv.issued p hp)⟩
  | findSaga id =>
      cases hop
      cases hfound : w.saga id with
      | none => exact hk
      | some s => exact hk.learn (Table.mem_of_find hfound).1
  | insertSaga s =>
      cases hop
      refine ⟨hk.asked, by simp [Account.advance], ?_⟩
      rw [payloads_insert]
      refine List.cons_subset.mpr ⟨by simp, fun p hp => ?_⟩
      exact List.mem_append_left _ (hk.known hp)
  | commit tx id writes =>
      rcases perform_payloads hinv hpermits hk h with ⟨hpayloads, -⟩ | ⟨s, hs, -⟩
      · have hadvance : Account.advance (.commit tx id writes) r k = k := by
          cases r <;> rfl
        rw [hadvance]
        refine hk.mono (perform_issued h) (fun p hp => hpayloads ▸ hp) fun u _ p hp => ?_
        exact .inl (hpayloads ▸ hp)
      · cases hs
  | redis op =>
      cases hop
      exact ⟨hk.asked, hk.drawn, hk.known⟩
  | findSagaByKey key =>
      cases hop
      exact hk
  | _ =>
      cases hop
      exact hk

theorem account_drawn {u : String} (h : performWith choice op w = some (r, w'))
    (hu : (Account.advance op r k).drawn = some u) : k.drawn = some u ∨ u ∉ w.issued := by
  unfold Account.advance at hu
  split at hu
  · cases hu
    exact .inr (perform_uuid h).1
  · exact .inl hu
  · cases hu
  · exact .inl hu

theorem Recorded.performed (hinv : Recorded past w)
    (hi : service.trace Request.account Account.advance i past = some k)
    (hpermits : k.Permits op) (h : performWith choice op w = some (r, w')) :
    Recorded (past ++ [.performed w i choice op w']) w' := by
  have hk := hinv.calls i k hi
  have hissued := perform_issued h
  -- a drawn identifier belongs to the one call that drew it
  have hapart : ∀ j j' kj kj' u,
      service.trace Request.account Account.advance j
        (past ++ [.performed w i choice op w']) = some kj →
      service.trace Request.account Account.advance j'
        (past ++ [.performed w i choice op w']) = some kj' →
      kj.drawn = some u → kj'.drawn = some u → j = j' := by
    intro j j' kj kj' u hj hj' hu hu'
    rcases System.trace_performed_cases h hi hj with ⟨rfl, rfl⟩ | ⟨hne, hold⟩
    · rcases System.trace_performed_cases h hi hj' with ⟨rfl, rfl⟩ | ⟨-, hold'⟩
      · rfl
      · rcases account_drawn h hu with hown | hfresh
        · exact hinv.apart j j' k kj' u hi hold' hown hu'
        · exact absurd ((hinv.calls j' kj' hold').drawn u hu').1 hfresh
    · rcases System.trace_performed_cases h hi hj' with ⟨rfl, rfl⟩ | ⟨-, hold'⟩
      · rcases account_drawn h hu' with hown | hfresh
        · exact hinv.apart j j' kj k u hold hi hu hown
        · exact absurd ((hinv.calls j kj hold).drawn u hu).1 hfresh
      · exact hinv.apart j j' kj kj' u hold hold' hu hu'
  rcases perform_payloads hinv hpermits hk h with ⟨hpayloads, htables⟩ | ⟨s, rfl, rfl⟩
  · refine ⟨?_, ?_, ?_, ?_, ?_, hapart⟩
    · exact fun p hp => hissued _ (hinv.issued p (hpayloads ▸ hp))
    · rw [hpayloads]
      exact hinv.unique
    · exact fun p hp => (hinv.requested p (hpayloads ▸ hp)).later
    · rw [hpayloads]
      exact htables
    · intro j kj hj
      rcases System.trace_performed_cases h hi hj with ⟨rfl, rfl⟩ | ⟨-, hold⟩
      · exact (hinv.learns hk hpermits h).later _
      · refine ((hinv.calls j kj hold).mono hissued (fun p hp => hpayloads ▸ hp) ?_).later _
        exact fun u _ p hp => .inl (hpayloads ▸ hp)
  · have hpayloads := payloads_insert w s
    have hown : k.asked = some s.payload ∧ k.drawn = some s.bookingId := hpermits
    have hsub : w.payloads ⊆ World.payloads { w with sagas := w.sagas ++ [s] } := by
      rw [hpayloads]
      exact List.subset_append_left _ _
    refine ⟨?_, ?_, ?_, hinv.tables.mono hsub rfl rfl, ?_, hapart⟩
    · intro p hp
      rw [hpayloads] at hp
      rcases List.mem_append.mp hp with hold | hnew
      · exact hissued _ (hinv.issued p hold)
      · rw [List.mem_singleton.mp hnew]
        exact hissued _ (hk.drawn s.bookingId hown.2).1
    · rw [hpayloads, List.map_append, List.nodup_append]
      refine ⟨hinv.unique, List.nodup_singleton _, fun id hid id' hid' hsame => ?_⟩
      obtain ⟨p, hp, rfl⟩ := List.mem_map.mp hid
      exact (hk.drawn s.bookingId hown.2).2 p hp (hsame.trans (List.mem_singleton.mp hid'))
    · intro p hp
      rw [hpayloads] at hp
      rcases List.mem_append.mp hp with hold | hnew
      · exact (hinv.requested p hold).later
      · rw [List.mem_singleton.mp hnew]
        exact (hk.asked s.payload hown.1).later
    · intro j kj hj
      rcases System.trace_performed_cases h hi hj with ⟨rfl, rfl⟩ | ⟨hne, hold⟩
      · exact (hinv.learns hk hpermits h).later _
      · refine ((hinv.calls j kj hold).mono hissued hsub fun u hu p hp => ?_).later _
        rw [hpayloads] at hp
        rcases List.mem_append.mp hp with hold' | hnew
        · exact .inl hold'
        · refine .inr fun hsame => hne ?_
          rw [List.mem_singleton.mp hnew] at hsame
          exact hinv.apart j i kj k u hold hi hu (hsame ▸ hown.2)

end Steps

/-! ## Runs -/

theorem recorded_run {now : Nat} {ms : List (Move Request Choice)} {es : List Event}
    {P : ServicePool} (hrun : service.run ms (Pool.init (World.init now)) = some (es, P)) :
    Recorded es P.state := by
  have htracks : service.Tracks Recorded Request.account (fun _ op k => Account.Permits k op)
      (fun _ => Op.Replies) Account.advance (fun _ _ _ => True) ([] ++ es) P ∧
      ∀ e ∈ es, True := by
    refine System.run_tracked ?_ ?_ hrun (fun _ _ => trivial) (System.tracks_init recorded_init)
    · intro past w i request _ hinv _
      exact ⟨request_accounts request, hinv.started request, trivial⟩
    · intro past w i choice op r w' k hk hpermits hinv hperform _
      exact ⟨perform_replies hperform, hinv.performed hk hpermits hperform, trivial⟩
  exact htracks.1.inv

/-- The event carries the flight, the class and the number of seats of the row. -/
def AgreesWith (b : Booking) (p : SeatsPayload) : Prop :=
  p.flightId = b.flightId ∧ p.seatClass = b.seatClass ∧ p.seatCount = b.noOfSeats

instance (b : Booking) (p : SeatsPayload) : Decidable (AgreesWith b p) :=
  inferInstanceAs (Decidable (_ ∧ _ ∧ _))

/-- In every run an inventory event agrees with the row of its booking exactly if the request of
the booking names one class. -/
theorem events_agree_iff {now : Nat} {ms : List (Move Request Choice)} {es : List Event}
    {P : ServicePool} {e : OutboxEvent} {p : SeatsPayload} {b : Booking}
    (hrun : service.run ms (Pool.init (World.init now)) = some (es, P))
    (he : e ∈ P.state.outbox) (hp : e.body.seatsPayload = some p)
    (hb : P.state.booking e.aggregateId = some b) :
    ∃ s, P.state.saga e.aggregateId = some s ∧ Requested es s.payload ∧
      (AgreesWith b p ↔ NamesOneClass s.payload) := by
  have hinv := recorded_run hrun
  obtain ⟨hmem, href⟩ := Table.mem_of_find hb
  obtain ⟨dto, hdto, hflight, hclass, hcount⟩ := hinv.tables.events e he p hp
  obtain ⟨dto', hdto', hflight', hclass', hcount'⟩ := hinv.tables.rows b hmem
  rw [href] at hdto'
  have hsame : dto' = dto :=
    congrArg Prod.snd (List.inj_on_of_nodup_map hinv.unique hdto' hdto rfl)
  subst hsame
  obtain ⟨s, hs, rfl⟩ := (column_find hinv.unique).mp hdto
  refine ⟨s, hs, hinv.requested _ hdto, ?_⟩
  rw [AgreesWith, hflight, hflight', hcount, hcount', hclass, hclass', class_agrees_iff]
  exact ⟨fun h => h.2.1, fun h => ⟨rfl, h, rfl⟩⟩

/-- Some inventory event of booking `a1` disagrees with the row. -/
def disagrees (w : World) : Bool :=
  (w.booking "a1").any fun b => w.outbox.any fun e =>
    e.aggregateId = "a1" && e.body.seatsPayload.any fun p => ¬AgreesWith b p

theorem events_agree_iff_reserved :
    ∃ es P e p b s, service.run reserved (Pool.init (World.init 0)) = some (es, P) ∧
      e ∈ P.state.outbox ∧ e.body.seatsPayload = some p ∧
      P.state.booking e.aggregateId = some b ∧ P.state.saga e.aggregateId = some s ∧
      (AgreesWith b p ↔ NamesOneClass s.payload) := by
  have hrun : (service.run reserved (Pool.init (World.init 0))).any (fun result =>
      result.2.state.outbox.any fun e => e.body.seatsPayload.isSome &&
        (result.2.state.booking e.aggregateId).isSome) = true := by decide
  obtain ⟨es, P, hrun, hafter⟩ := System.exists_run hrun
  obtain ⟨e, he, hevent⟩ := List.any_eq_true.mp hafter
  obtain ⟨hp, hb⟩ := Bool.and_eq_true_iff.mp hevent
  obtain ⟨p, hp⟩ := Option.isSome_iff_exists.mp hp
  obtain ⟨b, hb⟩ := Option.isSome_iff_exists.mp hb
  obtain ⟨s, hs, -, hagrees⟩ := events_agree_iff hrun he hp hb
  exact ⟨es, P, e, p, b, s, hrun, he, hp, hb, hs, hagrees⟩

/-- A preference for business class makes the row a business row, and seats are reserved in
economy class. -/
theorem preference_disagrees :
    ∃ es P e p b, service.run
        (.start (.executeBookingSaga { onlySeat with seatPreference := some "business" } none) ::
          succeeds 0 "a" 23) (Pool.init (World.init 0)) = some (es, P) ∧
      e ∈ P.state.outbox ∧ e.body.seatsPayload = some p ∧
      P.state.booking e.aggregateId = some b ∧ ¬AgreesWith b p := by
  have hrun : (service.run
      (.start (.executeBookingSaga { onlySeat with seatPreference := some "business" } none) ::
        succeeds 0 "a" 23) (Pool.init (World.init 0))).any (fun result =>
          disagrees result.2.state) = true := by decide
  obtain ⟨es, P, hrun, hafter⟩ := System.exists_run hrun
  obtain ⟨b, hb, hevents⟩ := (Option.any_eq_true _ _).mp hafter
  obtain ⟨e, he, hevent⟩ := List.any_eq_true.mp hevents
  obtain ⟨hid, hdiffers⟩ := Bool.and_eq_true_iff.mp hevent
  obtain ⟨p, hp, hne⟩ := (Option.any_eq_true _ _).mp hdiffers
  have hid : e.aggregateId = "a1" := of_decide_eq_true hid
  exact ⟨es, P, e, p, b, hrun, he, hp, hid ▸ hb, of_decide_eq_true hne⟩

end FlightBookings.Booking
