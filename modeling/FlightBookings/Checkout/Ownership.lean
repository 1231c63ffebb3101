import FlightBookings.Await.Requests
import FlightBookings.Booking.Actions
import FlightBookings.Checkout.Service

/-! # Who may change a booking

A row of the bookings is inserted for the user that asks for it, and keeps its
user. It changes when a transaction of the saga commits, in a call that its user
asked for, or a message about its payment, or the clean-up, each of which may
run some of the transactions and not the others. A call that creates a booking
changes the one that it has inserted, and the clean-up those that it was told
have expired.
-/

namespace FlightBookings.Checkout

open Await
open Booking (Memory Tx World)

/-- The operation inserts the row of the booking. -/
def Op.Makes (id : String) (w w' : World) : Op → Prop
  | .saga (.commit .createBooking id' _) => id' = id ∧ w.booking id = none ∧ ∃ b, w'.booking id = some b
  | _ => False

/-- The operation finds the booking among those that have expired. -/
def Op.FindsExpired (id : String) (choice : Choice) (w : World) : Op → Prop
  | .saga (.findExpiredBookings now) => choice.saga.fails = none ∧
      ∃ b ∈ w.bookings, b.bookingReference = id ∧ Booking.isExpired now b = true
  | _ => False

/-- What the operations of a call make known: the bookings that they insert, those that they find to have
expired, and the rows that are there meanwhile. -/
structure Basis where
  made : String → Prop
  expired : String → Prop
  present : Booking.Booking → Prop

/-- A row of the booking as it was there meanwhile, with the user as its owner. -/
def Basis.Shown (own : Basis) (id : String) (userId : Int) (b : Booking.Booking) : Prop :=
  own.present b ∧ b.bookingReference = id ∧ b.userId = userId

/-- The basis of a call holds what this operation of it makes known. -/
structure Basis.Learns (own : Basis) (choice : Choice) (op : Op) (w w' : World) : Prop where
  made : ∀ id, op.Makes id w w' → own.made id
  expired : ∀ id, op.FindsExpired id choice w → own.expired id
  present : ∀ b ∈ w.bookings, own.present b

/-- What a request may do to a booking of a user. -/
def Request.Entitled (mode : BookingPaymentMode) (own : Basis) : Request → Tx → String → Int → Prop
  | .createBooking _ userId, tx, id, owner =>
      owner = userId ∧ (tx ≠ .createBooking → own.made id) ∧ (tx = .completeBooking → mode = .localMock)
  | .completeBooking bookingId userId _, tx, id, owner =>
      tx = .completeBooking ∧ id = bookingId ∧ owner = userId
  | .cancelBooking bookingId userId _, tx, id, owner =>
      tx = .compensate ∧ id = bookingId ∧ owner = userId
  | .handlePaymentCompleted msg, tx, id, _ => tx = .completeBooking ∧ id = trim msg.bookingReference
  | .cleanupExpiredBookings, tx, id, _ => tx = .compensate ∧ own.expired id
  | .wait _, _, _, _ => False

/-- The booking is there, and it is one of the user. -/
def BelongsTo (id : String) (userId : Int) (w : World) : Prop :=
  ∃ b, w.booking id = some b ∧ b.userId = userId

/-- The booking is one of the user, who is shown a row of it. -/
def Basis.Displays (own : Basis) (w : World) (id : String) (userId : Int)
    (shows : Booking.Booking → Prop) : Prop :=
  BelongsTo id userId w ∧ ∃ b, own.Shown id userId b ∧ shows b

/-- A response repeats what it shows of a row. -/
def CreatedBooking.Shows (response : CreatedBooking) (b : Booking.Booking) : Prop :=
  response.status = b.status ∧ response.expiresAt = b.expiresAt ∧ response.totalCost = b.totalCost

def CompletedBooking.Shows (response : CompletedBooking) (b : Booking.Booking) : Prop :=
  response.status = b.status ∧ response.paymentStatus = b.paymentStatus ∧
    response.seatNumbers = b.seatNumbers

def CancelledBooking.Shows (response : CancelledBooking) (b : Booking.Booking) : Prop :=
  response.status = b.status

/-- What a request may be answered: to whom creates a booking, the one that was made for it; else the
booking that was asked for, if it is one of the user. -/
def Request.MaySee (own : Basis) (w : World) : Request → Reply → Prop
  | .createBooking _ userId, .created response =>
      own.made response.bookingId ∧ own.Displays w response.bookingId userId response.Shows
  | .completeBooking id userId _, .completed response =>
      response.bookingId = id ∧ own.Displays w id userId response.Shows
  | .cancelBooking id userId _, .cancelled response =>
      response.bookingId = id ∧ own.Displays w id userId response.Shows
  | .handlePaymentCompleted _, .done => True
  | .cleanupExpiredBookings, .done => True
  | .wait _, .done => True
  | _, _ => False

/-- No row is deleted, and none is handed to another user. -/
def Retains (w w' : World) : Prop :=
  ∀ id b, w.booking id = some b → ∃ b', w'.booking id = some b' ∧ b'.userId = b.userId

/-- Every row that an operation changes, it changes on behalf of a request that is entitled to it. -/
def Sanctioned (mode : BookingPaymentMode) (own : Basis) (request : Request) (op : Op)
    (w w' : World) : Prop :=
  ∀ id b, w'.booking id = some b → w.booking id = some b ∨
    ∃ tx writes, op = .saga (.commit tx id writes) ∧ request.Entitled mode own tx id b.userId ∧
      tx.outcome = some b.status ∧ (tx = .createBooking → w.booking id = none)

/-- What the calls of a run owe to each other, `who` being the requests that they were started with, and
`own` what their operations will have made known. -/
def authority (mode : BookingPaymentMode) (who : Nat → Request) (own : Nat → Basis) :
    Contract Request Op Choice World where
  inv _ := True
  rely _ := Retains
  allows
    | .started _ i request => who i = request
    | .performed w i choice op w' => (own i).Learns choice op w w'
  owes
    | .started _ _ _ => True
    | .performed w i _ op w' => Retains w w' ∧ Sanctioned mode (own i) (who i) op w w'

/-! ## The rows -/

section Rows

variable {mode : BookingPaymentMode} {basis : Basis} {request : Request} {w w' w'' : World}
variable {id : String} {userId : Int} {tx : Tx} {writes : List Booking.Write}

theorem Retains.refl (w : World) : Retains w w := fun _ b hb => ⟨b, hb, rfl⟩

theorem Retains.trans (h : Retains w w') (h' : Retains w' w'') : Retains w w'' := by
  intro id b hb
  obtain ⟨b', hb', huser⟩ := h id b hb
  obtain ⟨b'', hb'', huser'⟩ := h' id b' hb'
  exact ⟨b'', hb'', huser'.trans huser⟩

theorem Retains.belongs (h : Retains w w') (hw : BelongsTo id userId w) : BelongsTo id userId w' := by
  obtain ⟨b, hb, rfl⟩ := hw
  exact h id b hb

theorem Basis.Displays.mono {shows : Booking.Booking → Prop} (h : basis.Displays w id userId shows)
    (hretains : Retains w w') : basis.Displays w' id userId shows :=
  ⟨hretains.belongs h.1, h.2⟩

theorem Request.MaySee.mono {reply : Reply} (h : request.MaySee basis w reply)
    (hretains : Retains w w') : request.MaySee basis w' reply := by
  cases request with
  | createBooking dto userId =>
      cases reply with
      | created response => exact ⟨h.1, h.2.mono hretains⟩
      | _ => exact h.elim
  | completeBooking id userId paymentTransactionId =>
      cases reply with
      | completed response => exact ⟨h.1, h.2.mono hretains⟩
      | _ => exact h.elim
  | cancelBooking id userId reason =>
      cases reply with
      | cancelled response => exact ⟨h.1, h.2.mono hretains⟩
      | _ => exact h.elim
  | _ => cases reply <;> exact h

theorem BelongsTo.unique {owner : Int} (hw : BelongsTo id userId w) (hw' : BelongsTo id owner w) :
    userId = owner := by
  obtain ⟨b, hb, rfl⟩ := hw
  obtain ⟨b', hb', rfl⟩ := hw'
  cases hb.symm.trans hb'
  rfl

theorem BelongsTo.owner {b : Booking.Booking} (hw : BelongsTo id userId w) (hb : w.booking id = some b) :
    b.userId = userId :=
  BelongsTo.unique ⟨b, hb, rfl⟩ hw

theorem retains_of_same (h : w'.bookings = w.bookings) : Retains w w' := by
  intro id b hb
  refine ⟨b, ?_, rfl⟩
  rwa [World.booking, h]

theorem sanctioned_of_same {op : Op} (h : w'.bookings = w.bookings) :
    Sanctioned mode basis request op w w' := by
  intro id b hb
  refine .inl ?_
  rwa [World.booking, h] at hb

/-- A transaction that finds its row. -/
theorem commit_sanctioned (h : Booking.Shape tx id writes) (hinsert : tx ≠ .createBooking)
    (hentitled : request.Entitled mode basis tx id userId) (hw : BelongsTo id userId w) :
    Retains w (Booking.applyAll writes w) ∧
      Sanctioned mode basis request (.saga (.commit tx id writes)) w (Booking.applyAll writes w) := by
  obtain ⟨b, hb, huser⟩ := hw
  obtain ⟨b', hb', hsame, hrow⟩ := Booking.shape_row h hinsert hb
  constructor
  · intro id' old hold
    by_cases hid : id' = id
    · subst hid
      cases hb.symm.trans hold
      exact ⟨b', hb', hsame⟩
    · exact ⟨old, (Booking.shape_booking_of_ne h hid w).trans hold, rfl⟩
  · intro id' new hnew
    by_cases hid : id' = id
    · subst hid
      cases hb'.symm.trans hnew
      rcases hrow with rfl | houtcome
      · exact .inl hb
      · exact .inr ⟨tx, writes, rfl, by rwa [hsame, huser], houtcome, fun heq => absurd heq hinsert⟩
    · exact .inl ((Booking.shape_booking_of_ne h hid w).symm.trans hnew)

/-- A transaction that inserts its row. -/
theorem insert_sanctioned {payload : Booking.CreateBookingDto}
    (h : Booking.Shape .createBooking id writes)
    (hunique : writes.all (Booking.Write.unique w) = true)
    (hpayload : ∀ s, .saveSaga s ∈ writes → s.payload = payload)
    (hentitled : request.Entitled mode basis .createBooking id payload.userId) :
    Retains w (Booking.applyAll writes w) ∧
      Sanctioned mode basis request (.saga (.commit .createBooking id writes)) w
        (Booking.applyAll writes w) ∧
      w.booking id = none ∧ BelongsTo id payload.userId (Booking.applyAll writes w) := by
  obtain ⟨hfresh, b, hb, huser, houtcome⟩ := Booking.shape_insert h hunique hpayload
  refine ⟨fun id' old hold => ?_, fun id' new hnew => ?_, hfresh, b, hb, huser⟩
  · have hid : id' ≠ id := by
      intro hid
      rw [hid, hfresh] at hold
      cases hold
    exact ⟨old, (Booking.shape_booking_of_ne h hid w).trans hold, rfl⟩
  · by_cases hid : id' = id
    · subst hid
      cases hb.symm.trans hnew
      exact .inr ⟨.createBooking, writes, rfl, huser ▸ hentitled, houtcome, fun _ => hfresh⟩
    · exact .inl ((Booking.shape_booking_of_ne h hid w).symm.trans hnew)

/-- The operations that leave the bookings as they are. -/
def Op.Quiet : Op → Prop
  | .saga (.commit _ _ _) => False
  | _ => True

theorem perform_quiet {choice : Choice} {op : Op} {r : Except Exception op.Ret} (hop : op.Quiet)
    (h : performWith choice op w = some (r, w')) : w'.bookings = w.bookings := by
  cases op with
  | send request =>
      simp only [performWith] at h
      split at h <;> (cases h; rfl)
  | saga op =>
      rcases Booking.perform_tables h with ⟨-, hbookings, -⟩ | ⟨s, -, -, rfl⟩ |
        ⟨tx, id, writes, rfl, -, -, -⟩
      · exact hbookings
      · rfl
      · exact hop.elim

theorem perform_acts {choice : Booking.Choice} {op : Booking.Op} {txs : List Tx}
    {r : Except Exception op.Ret} (hop : op.For id txs) (hinsert : .createBooking ∉ txs)
    (hentitled : ∀ tx ∈ txs, request.Entitled mode basis tx id userId) (hw : BelongsTo id userId w)
    (h : Booking.performWith choice op w = some (r, w')) :
    Retains w w' ∧ Sanctioned mode basis request (.saga op) w w' := by
  rcases Booking.perform_tables h with ⟨-, hbookings, -⟩ | ⟨s, rfl, -, -⟩ |
    ⟨tx, id', writes, rfl, -, -, rfl⟩
  · exact ⟨retains_of_same hbookings, sanctioned_of_same hbookings⟩
  · exact hop.elim
  · obtain ⟨rfl, htx, hshape⟩ := hop
    exact commit_sanctioned hshape (fun heq => hinsert (heq ▸ htx)) (hentitled tx htx) hw

end Rows

/-! ## The calls -/

section Calls

variable {α : Type} {mode : BookingPaymentMode} {who : Nat → Request} {own : Nat → Basis} {i : Nat}
variable {m : Memory} {w : World} {id : String} {userId : Int} {txs : List Tx}

/-- A call of the booking service that keeps the contract. -/
abbrev Authorized (mode : BookingPaymentMode) (who : Nat → Request)
    (own : Nat → Basis) (i : Nat) (c : Call α) (m : Memory) (w : World) (Q : α → Memory → World → Prop) (E : Memory → World → Prop) : Prop :=
  c.Ensures ((authority mode who own).spec (service mode) i) m w Q E

/-- A part of it that is a call of the saga. -/
abbrev SagaAuthorized (mode : BookingPaymentMode) (who : Nat → Request)
    (own : Nat → Basis) (i : Nat) (c : Booking.Call α) (m : Memory) (w : World)
    (Q : α → Memory → World → Prop) (E : Memory → World → Prop) : Prop :=
  c.Ensures (((authority mode who own).spec (service mode) i).comap Op.saga fun _ r => r) m w Q E

theorem quiet_authorized {op : Op} {Q : op.Ret → Memory → World → Prop}
    {E : Memory → World → Prop} (hop : op.Quiet) (hE : ∀ w', Retains w w' → E m w')
    (h : ∀ choice a w₁ w', Retains w w' → w'.bookings = w₁.bookings →
      (own i).Learns choice op w₁ w' → performWith choice op w₁ = some (.ok a, w') → Q a m w') :
    Authorized mode who own i (Call.await op) m w Q E := by
  intro w₁ _ hrely choice r w' hperform hlearns
  have hsame := perform_quiet hop hperform
  have hretains := Retains.trans hrely (retains_of_same hsame)
  refine ⟨trivial, ⟨retains_of_same hsame, sanctioned_of_same hsame⟩, ?_⟩
  cases r with
  | ok a => exact h choice a w₁ w' hretains hsame hlearns hperform
  | error e => exact hE w' hretains

/-- A part of a call that is known by what it commits for a booking of the user. -/
theorem acts_authorized {c : Booking.Call α} {Q : α → Memory → Prop} {E : Memory → Prop}
    (h : Booking.Acts id txs ((own i).Shown id userId) c m Q E) (hinsert : .createBooking ∉ txs)
    (hentitled : ∀ tx ∈ txs, (who i).Entitled mode (own i) tx id userId) (hw : BelongsTo id userId w) :
    SagaAuthorized mode who own i c m w (fun a m' w' => Q a m' ∧ Retains w w')
      fun m' w' => E m' ∧ Retains w w' := by
  refine h.frame ?_ (Retains.refl w)
  intro op w' Q hop hretains hnext w₁ _ hrely choice r w₂ hperform hlearns
  have hretains₁ := Retains.trans hretains hrely
  have hw₁ := hretains₁.belongs hw
  have hacts := perform_acts hop hinsert hentitled hw₁ hperform
  have hshown : ∀ b, w₁.booking id = some b → (own i).Shown id userId b := by
    intro b hb
    obtain ⟨hmem, hid⟩ := Table.mem_of_find hb
    exact ⟨hlearns.present b hmem, hid, hw₁.owner hb⟩
  exact ⟨trivial, hacts, hnext r w₂ (Booking.perform_shows hshown hperform) (hretains₁.trans hacts.1)⟩

theorem quiet_saga_authorized {op : Booking.Op} {Q : op.Ret → Memory → World → Prop}
    {E : Memory → World → Prop} (hop : (Op.saga op).Quiet) (hE : ∀ w', Retains w w' → E m w')
    (h : ∀ choice a w₁ w', Retains w w' → w'.bookings = w₁.bookings →
      (own i).Learns choice (.saga op) w₁ w' →
        Booking.performWith choice.saga op w₁ = some (.ok a, w') → Q a m w') :
    SagaAuthorized mode who own i (Call.await op) m w Q E :=
  @quiet_authorized mode who own i m w (Op.saga op) Q E hop hE h

theorem local_authorized {c : Booking.Call α} {Q : α → Memory → Prop} (h : Booking.Local id c m Q) :
    SagaAuthorized mode who own i c m w (fun a m' w' => Q a m' ∧ Retains w w')
      fun m' w' => m'.saga.bookingId = id ∧ Retains w w' := by
  refine h.frame ?_ (Retains.refl w)
  intro op w' Q hop hretains hnext w₁ _ hrely choice r w₂ hperform _
  have hquiet : (Op.saga op).Quiet := by
    cases op with
    | commit tx id writes => exact hop.elim
    | _ => trivial
  have hsame := perform_quiet (r := r) hquiet hperform
  refine ⟨trivial, ⟨retains_of_same hsame, sanctioned_of_same hsame⟩, ?_⟩
  exact hnext r w₂ (Booking.perform_replies hperform)
    ((hretains.trans hrely).trans (retains_of_same hsame))

/-! ### The saga -/

theorem executeStep1_authorized (hstep : m.saga.currentStep = 0)
    (hentitled : (who i).Entitled mode (own i) .createBooking m.saga.bookingId m.saga.payload.userId) :
    SagaAuthorized mode who own i Booking.executeStep1_CreateBooking m w
      (fun _ m' w' => m'.saga.bookingId = m.saga.bookingId ∧ (own i).made m.saga.bookingId ∧
        BelongsTo m.saga.bookingId m.saga.payload.userId w') fun _ _ => True := by
  refine .bind (.memory ?_)
  rw [if_neg (by omega)]
  refine .bind (quiet_saga_authorized trivial (fun _ _ => trivial) fun _ _ _ w _ _ _ _ => ?_)
  refine .bind (.remember ?_)
  refine .andThen (local_authorized Booking.createBookingBody_stores) (fun _ _ _ => trivial)
    fun _ m' w hm => .bind (.memory ?_)
  obtain ⟨⟨hid, hshape, hpayload⟩, -⟩ := hm
  rw [hid]
  intro w₁ _ _ choice r w₂ hperform hlearns
  cases r with
  | ok _ =>
      obtain ⟨hunique, rfl⟩ := Booking.perform_committed hperform
      obtain ⟨hretains, hsanctioned, hfresh, hbelongs⟩ :=
        insert_sanctioned hshape hunique hpayload hentitled
      have hmade : (own i).made m.saga.bookingId :=
        hlearns.made _ ⟨rfl, hfresh, hbelongs.imp fun _ h => h.1⟩
      exact ⟨trivial, ⟨hretains, hsanctioned⟩, hid, hmade, hbelongs⟩
  | error e =>
      rcases Booking.perform_commit hperform with ⟨_, -, rfl⟩ | ⟨-, hr, -⟩
      · exact ⟨trivial, ⟨retains_of_same rfl, sanctioned_of_same rfl⟩, trivial⟩
      · cases hr

/-- A call that knows the user of the booking that it goes on with. -/
abbrev Serving (mode : BookingPaymentMode) (who : Nat → Request)
    (own : Nat → Basis) (i : Nat) (id : String) (userId : Int) (c : Booking.Call α) (m : Memory) (w : World) : Prop :=
  SagaAuthorized mode who own i c m w
    (fun _ m' w' => m'.saga.bookingId = id ∧ BelongsTo id userId w') fun _ _ => True

theorem step_serving {c : Booking.Call Unit}
    (h : Booking.Acts id txs ((own i).Shown id userId) c m (fun _ m => m.saga.bookingId = id)
      fun _ => True) (hinsert : .createBooking ∉ txs)
    (hentitled : ∀ tx ∈ txs, (who i).Entitled mode (own i) tx id userId) (hw : BelongsTo id userId w) :
    Serving mode who own i id userId c m w :=
  (acts_authorized h hinsert hentitled hw).mono (fun _ _ _ h => ⟨h.1, h.2.belongs hw⟩)
    fun _ _ _ => trivial

/-- The booking that is found is one that the call has made for the user. -/
def FoundFor (own : Basis) (userId : Int) (found : Option Booking.Booking) (w : World) : Prop :=
  ∀ b, found = some b → own.made b.bookingReference ∧ own.present b ∧ b.userId = userId ∧
    BelongsTo b.bookingReference userId w

theorem FoundFor.mono {basis : Basis} {found : Option Booking.Booking} {w' : World}
    (h : FoundFor basis userId found w) (hretains : Retains w w') :
    FoundFor basis userId found w' := by
  intro b hb
  obtain ⟨hmade, hpresent, huser, hbelongs⟩ := h b hb
  exact ⟨hmade, hpresent, huser, hretains.belongs hbelongs⟩

theorem findBooking_authorized (hmade : (own i).made id) (hw : BelongsTo id userId w) :
    SagaAuthorized mode who own i (Call.await (Booking.Op.findBooking id)) m w
      (fun found _ w' => FoundFor (own i) userId found w') fun _ _ => True := by
  refine quiet_saga_authorized trivial (fun _ _ => trivial) ?_
  intro choice found w₁ w' hretains hsame hlearns hperform b hb
  rcases Booking.performWith_cases hperform with ⟨e, -, hr, -⟩ | ⟨-, h⟩
  · cases hr
  · cases h
    obtain ⟨hmem, hid⟩ := Table.mem_of_find hb
    have hbelongs := hretains.belongs hw
    rw [hid]
    exact ⟨hmade, hlearns.present b hmem, hbelongs.owner hb, hbelongs⟩

/-- A saga that is asked for by a user leaves a booking of the user. -/
theorem executeBookingSaga_authorized {dto : Booking.CreateBookingDto}
    (hwho : who i = .createBooking dto userId) :
    SagaAuthorized mode who own i (Booking.executeBookingSaga { dto with userId } none) m w
      (fun found _ w' => FoundFor (own i) userId found w') fun _ _ => True := by
  refine .bind (.pure ?_)
  refine .bind (quiet_saga_authorized trivial (fun _ _ => trivial) fun _ sagaId _ w _ _ _ _ => ?_)
  refine .bind (quiet_saga_authorized trivial (fun _ _ => trivial) fun _ bookingId _ w _ _ _ _ => ?_)
  refine .bind (quiet_saga_authorized trivial (fun _ _ => trivial) fun _ _ _ w _ _ _ _ => ?_)
  refine .bind (.remember ?_)
  have hfirst : (who i).Entitled mode (own i) .createBooking bookingId userId := by
    rw [hwho]
    exact ⟨rfl, fun hne => absurd rfl hne, nofun⟩
  refine .andThen (executeStep1_authorized rfl hfirst) (fun _ _ h => h) fun _ m w hm => ?_
  obtain ⟨hid, hmade, hw⟩ := hm
  have hentitled : ∀ tx, tx ≠ .completeBooking →
      (who i).Entitled mode (own i) tx bookingId userId := by
    intro tx htx
    rw [hwho]
    exact ⟨rfl, fun _ => hmade, fun heq => absurd heq htx⟩
  refine .andThen (step_serving (Booking.executeStep2_acts hid) (by simp) ?_ hw)
    (fun _ _ h => h) fun _ m w hm => ?_
  · exact fun tx htx => hentitled tx (by rintro rfl; simp at htx)
  refine .andThen (step_serving (Booking.executeStep3_acts hm.1) (by simp) ?_ hm.2)
    (fun _ _ h => h) fun _ m w hm => ?_
  · exact fun tx htx => hentitled tx (by rintro rfl; simp at htx)
  exact findBooking_authorized hmade hm.2

/-- A call that leaves the rows to the users that it found, whether it returns or throws. -/
abbrev Retaining (mode : BookingPaymentMode) (who : Nat → Request) (own : Nat → Basis) (i : Nat)
    (c : Call α) (m : Memory) (w : World) (Q : α → Prop) : Prop :=
  Authorized mode who own i c m w (fun a _ w' => Q a ∧ Retains w w') fun _ w' => Retains w w'

theorem finds_retaining {c : Booking.Call (Option Booking.Booking)}
    (h : Booking.Finds id txs ((own i).Shown id userId) c m) (hinsert : .createBooking ∉ txs)
    (hentitled : ∀ tx ∈ txs, (who i).Entitled mode (own i) tx id userId) (hw : BelongsTo id userId w) :
    Retaining mode who own i (saga c) m w fun found =>
      ∀ b, found = some b → (own i).Shown id userId b :=
  .lift ((acts_authorized h hinsert hentitled hw).mono (fun _ _ _ h => h) fun _ _ h => h.2)

theorem completeBooking_retaining {paymentTransactionId : String}
    (hentitled : (who i).Entitled mode (own i) .completeBooking id userId) (hw : BelongsTo id userId w) :
    Retaining mode who own i (saga (Booking.completeBooking id paymentTransactionId)) m w fun found =>
      ∀ b, found = some b → (own i).Shown id userId b :=
  finds_retaining (Booking.completeBooking_finds id paymentTransactionId) (by simp)
    (by simpa using hentitled) hw

theorem cancelBooking_retaining {reason : String}
    (hentitled : (who i).Entitled mode (own i) .compensate id userId) (hw : BelongsTo id userId w) :
    Retaining mode who own i (saga (Booking.cancelBooking id reason)) m w fun found =>
      ∀ b, found = some b → (own i).Shown id userId b :=
  finds_retaining (Booking.cancelBooking_finds id reason) (by simp) (by simpa using hentitled) hw

theorem quiet_retaining {op : Op} (hop : op.Quiet) :
    Retaining mode who own i (Call.await op) m w fun _ => True :=
  quiet_authorized hop (fun _ h => h) fun _ _ _ _ h _ _ _ => ⟨trivial, h⟩

/-! ### The entry points -/

/-- Of the rest of a call nothing more needs to be known. -/
abbrev Authorizes (mode : BookingPaymentMode) (who : Nat → Request) (own : Nat → Basis) (i : Nat)
    (c : Call α) (m : Memory) (w : World) : Prop :=
  Authorized mode who own i c m w (fun _ _ _ => True) fun _ _ => True

theorem createPaymentIntentForBooking_retaining {booking : Booking.Booking} :
    Retaining mode who own i (createPaymentIntentForBooking mode booking userId) m w fun response =>
      response.paymentRequired = true ∨ mode = .localMock := by
  cases mode with
  | paymentService =>
      exact .andThen (quiet_retaining trivial) (fun _ _ h => h) fun _ _ _ h => .pure ⟨.inl rfl, h.2⟩
  | localMock =>
      exact .andThen (quiet_retaining trivial) (fun _ _ h => h) fun _ _ _ h => .pure ⟨.inr rfl, h.2⟩

theorem localTransactionId_retaining {paymentIntent : CreatePaymentIntentResponse} :
    Retaining mode who own i (localTransactionId paymentIntent) m w fun _ => True := by
  unfold localTransactionId
  split
  · exact .andThen (quiet_retaining trivial) (fun _ _ h => h) fun _ _ _ h => .pure h
  · exact .pure ⟨trivial, Retains.refl w⟩

theorem rollback_authorizes {reason : String}
    (hentitled : (who i).Entitled mode (own i) .compensate id userId) (hw : BelongsTo id userId w) :
    Authorizes mode who own i (rollbackBookingAfterPaymentFailure id reason) m w :=
  .tryCatch (.andThen (cancelBooking_retaining hentitled hw) (fun _ _ h => h) fun _ _ _ _ =>
    .pure trivial) fun _ _ _ _ => .pure trivial

theorem prepareBookingForPayment_authorized {dto : Booking.CreateBookingDto}
    {found : Option Booking.Booking} (hwho : who i = .createBooking dto userId)
    (hfound : FoundFor (own i) userId found w) :
    Authorized mode who own i (prepareBookingForPayment mode found userId) m w
      (fun prepared _ w' => FoundFor (own i) userId prepared.1 w') fun _ _ => True := by
  cases found with
  | none => exact .throw trivial
  | some booking =>
      obtain ⟨hmade, -, -, hw⟩ := hfound booking rfl
      refine .tryCatch ?_ fun e _ w' (hretains : Retains w w') => ?_
      · refine .andThen createPaymentIntentForBooking_retaining (fun _ _ h => h)
          fun response m w₁ h => ?_
        obtain ⟨hmode, hretains⟩ := h
        split
        · exact .pure (hfound.mono hretains)
        · rename_i hrequired
          have hentitled : (who i).Entitled mode (own i) .completeBooking booking.bookingReference
              userId := by
            rw [hwho]
            exact ⟨rfl, fun _ => hmade, fun _ => hmode.resolve_left hrequired⟩
          refine .andThen localTransactionId_retaining (fun _ _ h => hretains.trans h)
            fun txId m w₂ h => ?_
          have hretains₂ := hretains.trans h.2
          refine .andThen (completeBooking_retaining hentitled (hretains₂.belongs hw))
            (fun _ _ h => hretains₂.trans h) fun completed m w₃ h => .pure fun b hb => ?_
          obtain ⟨hpresent, hid, huser⟩ := h.1 b hb
          rw [hid]
          exact ⟨hmade, hpresent, huser, (hretains₂.trans h.2).belongs hw⟩
      · have hentitled : (who i).Entitled mode (own i) .compensate booking.bookingReference
            userId := by
          rw [hwho]
          exact ⟨rfl, fun _ => hmade, nofun⟩
        exact .andThen (rollback_authorizes hentitled (hretains.belongs hw)) (fun _ _ _ => trivial)
          fun _ _ _ _ => .throw trivial

theorem createBooking_authorized {dto : Booking.CreateBookingDto}
    (hwho : who i = .createBooking dto userId) :
    Authorized mode who own i (createBooking mode dto userId) m w
      (fun response _ w' => (own i).made response.bookingId ∧
        (own i).Displays w' response.bookingId userId response.Shows) fun _ _ => True := by
  refine .tryCatch ?_ fun _ _ _ (_ : True) => .throw trivial
  refine .andThen (.lift (executeBookingSaga_authorized hwho)) (fun _ _ _ => trivial)
    fun found m w hfound => ?_
  refine .andThen (prepareBookingForPayment_authorized hwho hfound) (fun _ _ _ => trivial)
    fun prepared m w h => ?_
  obtain ⟨finalBooking, paymentIntent⟩ := prepared
  cases finalBooking with
  | none => exact .throw trivial
  | some booking =>
      obtain ⟨hmade, hpresent, huser, hw⟩ := h booking rfl
      exact .pure ⟨hmade, hw, booking, ⟨hpresent, rfl, huser⟩, rfl, rfl, rfl⟩

/-- What a look-up finds is there, and remains. -/
theorem findByReference_authorized :
    Authorized mode who own i (findByReference id) m w
      (fun found _ w' => Retains w w' ∧ ∀ b, found = some b →
        (own i).Shown id b.userId b ∧ BelongsTo id b.userId w') fun _ _ => True := by
  refine quiet_authorized trivial (fun _ _ => trivial) ?_
  intro choice found w₁ w' hretains _ hlearns hperform
  refine ⟨hretains, fun b hb => ?_⟩
  rcases Booking.performWith_cases hperform with ⟨e, -, hr, -⟩ | ⟨-, h⟩
  · cases hr
  · cases h
    obtain ⟨hmem, hid⟩ := Table.mem_of_find hb
    exact ⟨⟨hlearns.present b hmem, hid, rfl⟩, b, hb, rfl⟩

/-- Only the user of a booking gets past the look-up. -/
theorem findOwn_authorized :
    Authorized mode who own i (findOwn id userId) m w
      (fun b _ w' => (own i).Shown id userId b ∧ BelongsTo id userId w') fun _ _ => True := by
  refine .andThen findByReference_authorized (fun _ _ h => h) fun found m w hfound => ?_
  cases found with
  | none => exact .throw trivial
  | some booking =>
      dsimp only
      split
      · exact .throw trivial
      · rename_i howner
        exact .pure (not_not.mp howner ▸ hfound.2 booking rfl)

theorem completeBookingFromPaymentEvent_authorized {paymentTransactionId : String}
    (hentitled : ∀ owner w', Retains w w' → BelongsTo id owner w' →
      (who i).Entitled mode (own i) .completeBooking id owner) :
    Authorized mode who own i (completeBookingFromPaymentEvent id paymentTransactionId) m w
      (fun response _ w' => ∀ userId, BelongsTo id userId w →
        response.bookingId = id ∧ (own i).Displays w' id userId response.Shows) fun _ _ => True := by
  unfold completeBookingFromPaymentEvent
  split
  · exact .throw trivial
  · refine .andThen findByReference_authorized (fun _ _ h => h) fun found m w' h => ?_
    obtain ⟨hretains, hfound⟩ := h
    cases found with
    | none => exact .throw trivial
    | some booking =>
        obtain ⟨-, hw⟩ := hfound booking rfl
        refine .andThen (completeBooking_retaining (hentitled _ w' hretains hw) hw)
          (fun _ _ _ => trivial) fun completed m w'' h => ?_
        cases completed with
        | none => exact .throw trivial
        | some completed =>
            refine .pure fun userId hbelongs => ?_
            have howner : booking.userId = userId := hw.unique (hretains.belongs hbelongs)
            have hshown := h.1 completed rfl
            rw [← howner]
            exact ⟨hshown.2.1, h.2.belongs hw, completed, hshown, rfl, rfl, rfl⟩

theorem completeBooking_authorized {paymentTransactionId : String}
    (hwho : who i = .completeBooking id userId paymentTransactionId) :
    Authorized mode who own i (completeBooking id userId paymentTransactionId) m w
      (fun response _ w' => response.bookingId = id ∧
        (own i).Displays w' id userId response.Shows) fun _ _ => True := by
  refine .andThen (.tryCatch findOwn_authorized fun _ _ _ _ => .throw trivial)
    (fun _ _ (h : True) => h) fun _ m w h => ?_
  refine (completeBookingFromPaymentEvent_authorized fun owner w' hretains hbelongs => ?_).mono
    (fun _ _ _ hshows => hshows userId h.2) fun _ _ h => h
  rw [hwho]
  exact ⟨rfl, rfl, hbelongs.unique (hretains.belongs h.2)⟩

theorem cancelBooking_authorized {reason : Option String}
    (hwho : who i = .cancelBooking id userId reason) :
    Authorized mode who own i (cancelBooking id userId reason) m w
      (fun response _ w' => response.bookingId = id ∧
        (own i).Displays w' id userId response.Shows) fun _ _ => True := by
  refine .tryCatch ?_ fun _ _ _ (_ : True) => .throw trivial
  refine .andThen findOwn_authorized (fun _ _ h => h) fun _ m w h => ?_
  have hw := h.2
  have hentitled : (who i).Entitled mode (own i) .compensate id userId := by
    rw [hwho]
    exact ⟨rfl, rfl, rfl⟩
  refine .andThen (cancelBooking_retaining hentitled hw) (fun _ _ _ => trivial)
    fun cancelled m w' h => ?_
  cases cancelled with
  | none => exact .throw trivial
  | some cancelled =>
      have hshown := h.1 cancelled rfl
      exact .pure ⟨hshown.2.1, h.2.belongs hw, cancelled, hshown, rfl⟩

theorem handlePaymentCompleted_authorizes {msg : Payment.PaymentCompleted}
    (hwho : who i = .handlePaymentCompleted msg) :
    Authorizes mode who own i (handlePaymentCompleted msg) m w := by
  change Authorizes mode who own i (if trim msg.bookingReference = "" then pure () else do
    let _ ← completeBookingFromPaymentEvent (trim msg.bookingReference) (transactionIdOf msg)
    pure ()) m w
  split
  · exact .pure trivial
  · refine .andThen (completeBookingFromPaymentEvent_authorized fun owner _ _ _ => ?_)
      (fun _ _ h => h) fun _ _ _ _ => .pure trivial
    rw [hwho]
    exact ⟨rfl, rfl⟩

/-- Each of the bookings that the clean-up was told of has expired and is there, and remains. -/
def AllExpired (own : Basis) (bookings : List Booking.Booking) (w : World) : Prop :=
  ∀ b ∈ bookings, own.expired b.bookingReference ∧ ∃ owner, BelongsTo b.bookingReference owner w

theorem Retains.allExpired {basis : Basis} {bookings : List Booking.Booking} {w' : World}
    (h : Retains w w') (hw : AllExpired basis bookings w) : AllExpired basis bookings w' := by
  intro b hb
  obtain ⟨hexpired, owner, howner⟩ := hw b hb
  exact ⟨hexpired, owner, h.belongs howner⟩

theorem findExpiredBookings_authorized {now : Nat} :
    SagaAuthorized mode who own i (Call.await (Booking.Op.findExpiredBookings now)) m w
      (fun found _ w' => AllExpired (own i) found w') fun _ _ => True := by
  refine quiet_saga_authorized trivial (fun _ _ => trivial) ?_
  intro choice found w₁ w' _ _ hlearns hperform b hb
  rcases Booking.performWith_cases hperform with ⟨e, -, hr, -⟩ | ⟨hfails, h⟩
  · cases hr
  · cases h
    obtain ⟨hmem, hexpired⟩ := List.mem_filter.mp hb
    refine ⟨hlearns.expired _ ⟨hfails rfl, b, hmem, rfl, hexpired⟩, ?_⟩
    cases hrow : w₁.booking b.bookingReference with
    | none => exact absurd rfl (Table.find_eq_none.mp hrow b hmem)
    | some row => exact ⟨row.userId, row, hrow, rfl⟩

theorem cleanup_authorized (hwho : who i = .cleanupExpiredBookings) :
    SagaAuthorized mode who own i Booking.cleanupExpiredBookings m w (fun _ _ _ => True)
      fun _ _ => True := by
  refine .tryCatch ?_ fun _ _ _ (_ : True) => .pure trivial
  refine .bind (quiet_saga_authorized trivial (fun _ _ => trivial) fun _ now _ w _ _ _ _ => ?_)
  refine .andThen findExpiredBookings_authorized (fun _ _ h => h) fun expired m w hall => ?_
  refine .mono (.forM (fun rest _ w => AllExpired (own i) rest w) ?_ expired hall)
    (fun _ _ _ _ => trivial) fun _ _ h => h
  intro b rest m w hall
  obtain ⟨hexpired, owner, hw⟩ := hall b List.mem_cons_self
  have hrest : AllExpired (own i) rest w := fun b hb => hall b (List.mem_cons_of_mem _ hb)
  have hentitled : ∀ tx ∈ [Tx.compensate],
      (who i).Entitled mode (own i) tx b.bookingReference owner := by
    rw [hwho]
    exact fun tx htx => ⟨List.mem_singleton.mp htx, hexpired⟩
  have hcancel : SagaAuthorized mode who own i
      (Booking.cancelBooking b.bookingReference Booking.expiredReason) m w
      (fun _ _ w' => AllExpired (own i) rest w') fun _ w' => AllExpired (own i) rest w' :=
    (acts_authorized (Booking.cancelBooking_finds _ _) (by simp) hentitled hw).mono
      (fun _ _ _ h => h.2.allExpired hrest) fun _ _ h => h.2.allExpired hrest
  exact .tryCatch (.andThen hcancel (fun _ _ h => h) fun _ _ _ h => .pure h) fun _ _ _ h => .pure h

/-- Every request is answered what it may be. -/
theorem request_authorized (request : Request) (hwho : who i = request) :
    Authorized mode who own i (request.call mode) m w
      (fun reply _ w' => request.MaySee (own i) w' reply) fun _ _ => True := by
  cases request with
  | createBooking dto userId =>
      exact .andThen (createBooking_authorized hwho) (fun _ _ h => h) fun _ _ _ h => .pure h
  | completeBooking bookingId userId paymentTransactionId =>
      exact .andThen (completeBooking_authorized hwho) (fun _ _ h => h) fun _ _ _ h => .pure h
  | cancelBooking bookingId userId reason =>
      exact .andThen (cancelBooking_authorized hwho) (fun _ _ h => h) fun _ _ _ h => .pure h
  | handlePaymentCompleted msg =>
      exact .andThen (handlePaymentCompleted_authorizes hwho) (fun _ _ h => h)
        fun _ _ _ _ => .pure trivial
  | cleanupExpiredBookings =>
      exact .andThen (.lift (cleanup_authorized hwho)) (fun _ _ h => h) fun _ _ _ _ => .pure trivial
  | wait ms =>
      have hwait : Retaining mode who own i (Call.await (Op.saga (.redis (.wait ms)))) m w
          fun _ => True := quiet_retaining trivial
      exact .andThen hwait (fun _ _ _ => trivial) fun _ _ _ _ => .pure trivial

end Calls

end FlightBookings.Checkout
