import FlightBookings.Booking.Extension
import FlightBookings.Checkout.Ownership
import FlightBookings.SeatLock.Availability

/-! # The endpoints of the booking service

Beside the requests that run the saga, users extend a booking and read what the
service knows: their bookings, one of them, and the locks on the seats of a
flight. Over the whole service, nobody changes a booking without being entitled
to it, and nobody is shown the booking of another user.
-/

namespace FlightBookings.Booking

/-- The members of the enumeration as they are stored. -/
def BookingStatus.value : BookingStatus → String
  | .initiated => "INITIATED"
  | .pending => "PENDING"
  | .booked => "BOOKED"
  | .cancelled => "CANCELLED"
  | .expired => "EXPIRED"
  | .refunded => "REFUNDED"

end FlightBookings.Booking

namespace FlightBookings.Checkout

open Await
open Booking (Memory Tx World)

/-! ## The service -/

/-- The row of an update is named by its booking reference, which is unique. -/
inductive ServiceOp where
  | checkout (op : Op)
  | findByUserId (userId : Int)
  | update (bookingReference : String) (expiresAt : Nat)

abbrev ServiceOp.Ret : ServiceOp → Type
  | .checkout op => op.Ret
  | .findByUserId _ => List Booking.Booking
  | .update _ _ => Unit

/-- The rows of a user come newest first. -/
def ServiceOp.performWith (choice : Choice) :
    (op : ServiceOp) → World → Option (Except Exception op.Ret × World)
  | .checkout op, w => Checkout.performWith choice op w
  | .findByUserId userId, w =>
      match choice.saga.fails with
      | some e => some (.error e, w)
      | none => some (.ok (w.bookings.filter fun b => b.userId = userId).reverse, w)
  | .update ref expiresAt, w =>
      match choice.saga.fails with
      | some e => some (.error e, w)
      | none => some (.ok (), w.updateExpiresAt ref expiresAt)

abbrev ServiceCall (α : Type) := Await.Call ServiceOp ServiceOp.Ret Exception Unit α

def getMyBookings (userId : Int) (status : Option String) : ServiceCall (List Booking.Booking) := do
  let bookings : List Booking.Booking ← Call.await (ServiceOp.findByUserId userId)
  pure (bookings.filter fun b => orElse status "" = "" || b.status.value = orElse status "")

def getBooking (bookingId : String) (userId : Int) : Call Booking.Booking := findOwn bookingId userId

deriving instance DecidableEq for Request

inductive ServiceRequest where
  | checkout (request : Request)
  | extendBooking (bookingId : String) (userId : Int)
  | getMyBookings (userId : Int) (status : Option String)
  | getBooking (bookingId : String) (userId : Int)
  | checkSeatAvailability (flightId : Int) (seats : String)
deriving DecidableEq

inductive ServiceReply where
  | checkout (reply : Reply)
  | extended (extension : Booking.Extension)
  | bookings (bookings : List Booking.Booking)
  | booking (booking : Booking.Booking)
  | availability (availability : SeatLock.FlightAvailability)
deriving DecidableEq

abbrev ServiceProgram (α : Type) := Program ServiceOp (fun op => Except Exception op.Ret) α

def replying {α L : Type} (reply : α → ServiceReply) (p : ServiceProgram (Except Exception α × L)) :
    ServiceProgram (Except Exception ServiceReply) :=
  p.bind fun r => .done (r.1.map reply)

def ofCheckout {α : Type} (p : Program Op (fun op => Except Exception op.Ret) α) : ServiceProgram α :=
  p.lift ServiceOp.checkout fun _ r => r

def ofRedis {α : Type} (p : Program SeatLock.Op (fun op => Except Exception op.Ret) α) :
    ServiceProgram α :=
  p.lift (fun op => .checkout (.saga (.redis op))) fun _ r => r

def extensionOp : Booking.ExtensionOp → ServiceOp
  | .redis op => .checkout (.saga (.redis op))
  | .findByReference ref => .checkout (.saga (.findBooking ref))
  | .update ref expiresAt => .update ref expiresAt

def extensionRet : (op : Booking.ExtensionOp) →
    Except Exception (extensionOp op).Ret → Except Exception op.Ret
  | .redis _, r => r
  | .findByReference _, r => r
  | .update _ _, r => r

def ServiceRequest.program (mode : BookingPaymentMode) :
    ServiceRequest → ServiceProgram (Except Exception ServiceReply)
  | .checkout request => replying .checkout (ofCheckout (request.call mode Memory.blank))
  | .extendBooking bookingId userId =>
      replying .extended ((Booking.extendBooking bookingId userId ()).lift extensionOp extensionRet)
  | .getMyBookings userId status => replying .bookings (Checkout.getMyBookings userId status ())
  | .getBooking bookingId userId =>
      replying .booking (ofCheckout (Checkout.getBooking bookingId userId Memory.blank))
  | .checkSeatAvailability flightId seats =>
      replying .availability (ofRedis (SeatLock.checkSeatAvailability flightId seats ()))

def bookingService (mode : BookingPaymentMode) :
    System ServiceRequest ServiceOp (fun op => Except Exception op.Ret) Choice
      (Except Exception ServiceReply) World where
  perform _ choice op w := op.performWith choice w
  program request := request.program mode

abbrev ServiceEvent := Await.Event ServiceRequest ServiceOp Choice World

/-! ## What is promised -/

/-- The call has inserted the row of the booking. -/
def Made (es : List ServiceEvent) (i : Nat) (id : String) : Prop :=
  ∃ w choice op w', .performed w i choice (.checkout op) w' ∈ es ∧ op.Makes id w w'

/-- The call has found the booking among those that had expired. -/
def FoundExpired (es : List ServiceEvent) (i : Nat) (id : String) : Prop :=
  ∃ w choice op w', .performed w i choice (.checkout op) w' ∈ es ∧ op.FindsExpired id choice w

/-- The row was there at an operation of the call. -/
def Present (es : List ServiceEvent) (i : Nat) (b : Booking.Booking) : Prop :=
  ∃ w choice op w', .performed w i choice op w' ∈ es ∧ b ∈ w.bookings

/-- What the events show of a call. A prefix of a run is a run as well, so that what entitles a call to a
change is among the events up to the change. -/
def basisOf (es : List ServiceEvent) (i : Nat) : Basis := ⟨Made es i, FoundExpired es i, Present es i⟩

/-- A request may leave this row where the world was `w`: by a transaction that it is entitled to, which
inserts the row if it creates the booking, or with a new deadline for a booking of its user. -/
def ServiceRequest.Changes (mode : BookingPaymentMode) (own : Basis) (id : String) (w : World)
    (b : Booking.Booking) : ServiceRequest → ServiceOp → Prop
  | .checkout request, .checkout (.saga (.commit tx id' _)) =>
      id' = id ∧ request.Entitled mode own tx id b.userId ∧ tx.outcome = some b.status ∧
        (tx = .createBooking → w.booking id = none)
  | .extendBooking id' userId, .update id'' expiresAt =>
      id' = id ∧ id'' = id ∧ b.userId = userId ∧
        ∃ old, w.booking id = some old ∧ b = Booking.setExpiresAt expiresAt old
  | _, _ => False

/-- What a request may be answered. -/
def ServiceRequest.MaySee (own : Basis) (w : World) : ServiceRequest → ServiceReply → Prop
  | .checkout request, .checkout reply => request.MaySee own w reply
  | .extendBooking id userId, .extended extension =>
      extension.bookingId = id ∧ BelongsTo id userId w
  | .getMyBookings userId _, .bookings bookings =>
      ∀ b ∈ bookings, own.present b ∧ b.userId = userId
  | .getBooking id userId, .booking b => own.Shown id userId b
  | .checkSeatAvailability flightId _, .availability availability => availability.flightId = flightId
  | _, _ => False

/-- Every row that an operation changes is one that the request may change so. -/
def Permitted (mode : BookingPaymentMode) (own : Basis) (request : ServiceRequest) (op : ServiceOp)
    (w w' : World) : Prop :=
  ∀ id b, w'.booking id = some b → w.booking id = some b ∨ request.Changes mode own id w b op

/-- The basis of a call holds what this operation of the service makes known. -/
structure Informs (own : Basis) (choice : Choice) (op : ServiceOp) (w w' : World) : Prop where
  present : ∀ b ∈ w.bookings, own.present b
  checkout : ∀ op', op = .checkout op' → own.Learns choice op' w w'

/-- The contract of the calls of the whole service. -/
def conduct (mode : BookingPaymentMode) (who : Nat → ServiceRequest) (own : Nat → Basis) :
    Contract ServiceRequest ServiceOp Choice World where
  inv _ := True
  rely _ := Retains
  allows
    | .started _ i request => who i = request
    | .performed w i choice op w' => Informs (own i) choice op w w'
  owes
    | .started _ _ _ => True
    | .performed w i _ op w' => Retains w w' ∧ Permitted mode (own i) (who i) op w w'

theorem conduct_lawful {mode : BookingPaymentMode} {who : Nat → ServiceRequest} {own : Nat → Basis} :
    (conduct mode who own).Lawful where
  refl _ w := Retains.refl w
  trans _ _ _ _ := Retains.trans
  compatible _ _ _ _ _ _ _ _ howes := howes.1
  started _ _ _ := trivial

/-! ## The calls -/

section Calls

variable {α L : Type} {mode : BookingPaymentMode} {who : Nat → ServiceRequest} {own : Nat → Basis}
variable {i : Nat} {w w' : World} {id : String} {userId : Int}

/-- The request of a call, as far as it is one to run the saga. -/
def ServiceRequest.request : ServiceRequest → Request
  | .checkout request => request
  | _ => .wait 0

theorem Sanctioned.permitted {basis : Basis} {request : ServiceRequest} {op : Op}
    (h : Sanctioned mode basis request.request op w w') :
    Permitted mode basis request (.checkout op) w w' := by
  intro id b hb
  rcases h id b hb with hsame | ⟨tx, writes, rfl, hentitled, houtcome, hfresh⟩
  · exact .inl hsame
  · cases request with
    | checkout request => exact .inr ⟨rfl, hentitled, houtcome, hfresh⟩
    | _ => exact hentitled.elim

abbrev conductSpec (mode : BookingPaymentMode) (who : Nat → ServiceRequest) (own : Nat → Basis) (i : Nat) :
    Spec ServiceOp (fun op => Except Exception op.Ret) World :=
  (conduct mode who own).spec (bookingService mode) i

/-- What keeps the contract of the saga keeps that of the whole service. -/
theorem ofCheckout_conducted {p : Program Op (fun op => Except Exception op.Ret) α}
    {post : α → World → Prop}
    (h : p.wp ((authority mode (fun j => (who j).request) own).spec (service mode) i) post w) :
    (ofCheckout p).wp (conductSpec mode who own i) post w := by
  rw [ofCheckout, Program.wp_lift]
  refine Program.wp_of_spec ?_ h
  intro op w Q hspec w₁ _ hrely choice r w₂ hperform hinforms
  obtain ⟨-, ⟨hretains, hsanctioned⟩, hQ⟩ :=
    hspec w₁ trivial hrely choice r w₂ hperform (hinforms.checkout op rfl)
  exact ⟨trivial, ⟨hretains, hsanctioned.permitted⟩, hQ⟩

theorem replying_conducted {reply : α → ServiceReply} {p : ServiceProgram (Except Exception α × L)}
    {Q : α → World → Prop}
    (hp : p.wp (conductSpec mode who own i) (fun r w' => ∀ a, r.1 = .ok a → Q a w') w)
    (hQ : ∀ a w', Q a w' → (who i).MaySee (own i) w' (reply a)) :
    (replying reply p).wp (conductSpec mode who own i)
      (fun r w' => ∀ answer, r = .ok answer → (who i).MaySee (own i) w' answer) w := by
  rw [replying, Program.wp_bind]
  refine Program.wp_mono ?_ hp
  intro r w' hr answer hanswer
  rcases r with ⟨e | a, l⟩
  · cases hanswer
  · cases hanswer
    exact hQ a w' (hr a rfl)

/-- The operations that leave the bookings as they are. -/
def ServiceOp.Quiet : ServiceOp → Prop
  | .checkout op => op.Quiet
  | .findByUserId _ => True
  | .update _ _ => False

theorem service_quiet {choice : Choice} {op : ServiceOp} {r : Except Exception op.Ret}
    (hop : op.Quiet) (h : op.performWith choice w = some (r, w')) : w'.bookings = w.bookings := by
  cases op with
  | checkout op => exact perform_quiet hop h
  | findByUserId userId =>
      simp only [ServiceOp.performWith] at h
      split at h <;> (cases h; rfl)
  | update ref expiresAt => exact hop.elim

theorem quiet_conducted {op : ServiceOp} {Q : Except Exception op.Ret → World → Prop}
    (hop : op.Quiet) (h : ∀ choice r w₁ w', Retains w w' → (∀ b ∈ w₁.bookings, (own i).present b) →
      op.performWith choice w₁ = some (r, w') → Q r w') : conductSpec mode who own i op w Q := by
  intro w₁ _ hrely choice r w' hperform hinforms
  have hsame := service_quiet hop hperform
  refine ⟨trivial, ⟨retains_of_same hsame, fun id b hb => .inl ?_⟩,
    h choice r w₁ w' (hrely.trans (retains_of_same hsame)) hinforms.present hperform⟩
  rwa [World.booking, hsame] at hb

/-- A program over the operations of Redis leaves the rows alone. -/
theorem redis_conducted {c : SeatLock.Call L α} {l : L} {Q : α → L → Prop} {E : L → Prop}
    (h : c.Emits (fun _ => True) (fun _ _ => True) l Q E) :
    c.Ensures ((conductSpec mode who own i).comap (fun op => .checkout (.saga (.redis op)))
      fun _ r => r) l w (fun a l w' => Q a l ∧ Retains w w') fun l w' => E l ∧ Retains w w' := by
  refine h.frame ?_ (Retains.refl w)
  intro op w' Q _ hretains hnext
  exact quiet_conducted trivial fun _ r _ w₂ hretains₂ _ _ =>
    hnext r w₂ trivial (hretains.trans hretains₂)

/-- The update of the deadline of a booking of the user. -/
theorem update_conducted {expiresAt : Nat} {Q : Except Exception Unit → World → Prop}
    (hwho : who i = .extendBooking id userId) (hw : BelongsTo id userId w)
    (h : ∀ r w', Retains w w' → Q r w') : conductSpec mode who own i (.update id expiresAt) w Q := by
  intro w₁ _ hrely choice r w' hperform _
  suffices hrow : Retains w₁ w' ∧ Permitted mode (own i) (who i) (.update id expiresAt) w₁ w' from
    ⟨trivial, hrow, h r w' (hrely.trans hrow.1)⟩
  change ServiceOp.performWith choice (.update id expiresAt) w₁ = some (r, w') at hperform
  simp only [ServiceOp.performWith] at hperform
  split at hperform
  · cases hperform
    exact ⟨Retains.refl w₁, fun _ _ hb => .inl hb⟩
  · cases hperform
    obtain ⟨old, hold, huser⟩ := hrely.belongs hw
    have hkey : ∀ b : Booking.Booking, b.bookingReference = id →
        (Booking.setExpiresAt expiresAt b).bookingReference = id := fun _ hb => hb
    have hself : (w₁.updateExpiresAt id expiresAt).booking id =
        some (Booking.setExpiresAt expiresAt old) :=
      (Table.find_modify_self hkey).trans
        (congrArg (Option.map (Booking.setExpiresAt expiresAt)) hold)
    have hother : ∀ id', id' ≠ id →
        (w₁.updateExpiresAt id expiresAt).booking id' = w₁.booking id' :=
      fun id' hne => Table.find_modify_of_ne hkey hne
    constructor
    · intro id' b hb
      by_cases hid : id' = id
      · subst hid
        cases hold.symm.trans hb
        exact ⟨_, hself, rfl⟩
      · exact ⟨b, (hother id' hid).trans hb, rfl⟩
    · intro id' b hb
      by_cases hid : id' = id
      · subst hid
        cases hself.symm.trans hb
        rw [hwho]
        exact .inr ⟨rfl, rfl, huser, old, hold, rfl⟩
      · exact .inl ((hother id' hid).symm.trans hb)

/-- Nothing is asked of the operations. -/
theorem any_emits {Op' : Type} {Ret : Op' → Type} (c : Await.Call Op' Ret Exception L α) (l : L) :
    c.Emits (fun _ => True) (fun _ _ => True) l (fun _ _ => True) fun _ => True := by
  refine Program.wp_mono (fun r _ _ => ?_) (Program.wp_tracked_true (c l) ())
  cases r.1 <;> trivial

theorem extendBooking_conducted (hwho : who i = .extendBooking id userId) :
    (Booking.extendBooking id userId).Ensures
      ((conductSpec mode who own i).comap extensionOp extensionRet) () w
      (fun extension _ w' => extension.bookingId = id ∧ BelongsTo id userId w') fun _ _ => True := by
  refine .tryCatch ?_ fun _ _ _ (_ : True) => .throw trivial
  have hfind : (Call.await (Booking.ExtensionOp.findByReference id) :
      Await.Call _ _ Exception Unit _).Ensures
      ((conductSpec mode who own i).comap extensionOp extensionRet) () w
      (fun found _ w' => ∀ b, found = some b → BelongsTo id b.userId w') fun _ _ => True := by
    refine quiet_conducted trivial ?_
    intro choice r w₁ w' _ _ hperform
    cases r with
    | error e => trivial
    | ok found =>
        intro b hb
        rcases Booking.performWith_cases hperform with ⟨e, -, hr, -⟩ | ⟨-, h⟩
        · cases hr
        · cases h
          exact ⟨b, hb, rfl⟩
  refine .andThen hfind (fun _ _ h => h) fun found l w hfound => ?_
  cases found with
  | none => exact .throw trivial
  | some booking =>
      dsimp only
      split
      · exact .throw trivial
      · rename_i howner
        have hw : BelongsTo id userId w := not_not.mp howner ▸ hfound booking rfl
        refine .andThen (.lift (redis_conducted (any_emits _ l))) (fun _ _ _ => trivial)
          fun extended l w' h => ?_
        cases extended with
        | false => exact .throw trivial
        | true =>
            have hbelongs := h.2.belongs hw
            have hnow : (Call.await (Booking.ExtensionOp.redis .dateNow) :
                Await.Call _ _ Exception Unit _).Ensures
                ((conductSpec mode who own i).comap extensionOp extensionRet) l w'
                (fun _ _ w'' => BelongsTo id userId w'') fun _ _ => True := by
              refine quiet_conducted trivial ?_
              intro choice r w₁ w'' hretains _ _
              cases r with
              | error e => trivial
              | ok now => exact hretains.belongs hbelongs
            refine .andThen hnow (fun _ _ h => h) fun now l w'' hw'' => ?_
            refine .bind (update_conducted hwho hw'' fun r w₃ hretains => ?_)
            cases r with
            | error e => trivial
            | ok _ => exact .pure ⟨rfl, hretains.belongs hw''⟩

theorem getMyBookings_conducted {status : Option String} :
    (getMyBookings userId status).Ensures (conductSpec mode who own i) () w
      (fun bookings _ _ => ∀ b ∈ bookings, (own i).present b ∧ Booking.Booking.userId b = userId)
      fun _ _ => True := by
  refine .bind (quiet_conducted trivial ?_)
  intro choice r w₁ w' _ hpresent hperform
  cases r with
  | error e => trivial
  | ok bookings =>
      refine .pure fun b hb => ?_
      change ServiceOp.performWith choice (.findByUserId userId) w₁ = some (.ok bookings, w')
        at hperform
      simp only [ServiceOp.performWith] at hperform
      split at hperform
      · cases hperform
      · cases hperform
        have hmem := List.mem_filter.mp (List.mem_reverse.mp (List.mem_filter.mp hb).1)
        exact ⟨hpresent b hmem.1, of_decide_eq_true hmem.2⟩

theorem ensures_ok {Op' : Type} {Ret : Op' → Type} {spec : Spec Op' (fun op => Except Exception (Ret op)) World}
    [spec.Monotone] {c : Await.Call Op' Ret Exception L α} {l : L} {Q : α → World → Prop}
    (h : c.Ensures spec l w (fun a _ w' => Q a w') fun _ _ => True) :
    (c l).wp spec (fun r w' => ∀ a, r.1 = .ok a → Q a w') w := by
  refine Program.wp_mono (fun r _ hr a ha => ?_) h
  rcases r with ⟨e | a', l⟩
  · cases ha
  · cases ha
    exact hr

/-- Every request of the service keeps the contract, and is answered what it may be. -/
theorem program_conducted (request : ServiceRequest) (hwho : who i = request) :
    (request.program mode).wp (conductSpec mode who own i)
      (fun r w' => ∀ answer, r = .ok answer → (who i).MaySee (own i) w' answer) w := by
  cases request with
  | checkout request =>
      have hrequest : Authorized mode (fun j => (who j).request) own i (request.call mode)
          Memory.blank w (fun reply _ w' => request.MaySee (own i) w' reply) fun _ _ => True :=
        request_authorized request (congrArg ServiceRequest.request hwho)
      refine replying_conducted (ofCheckout_conducted (ensures_ok hrequest)) fun reply w' h => ?_
      rw [hwho]
      exact h
  | extendBooking bookingId userId =>
      have hp : ((Booking.extendBooking bookingId userId ()).lift extensionOp extensionRet).wp
          (conductSpec mode who own i) (fun r w' => ∀ a, r.1 = .ok a →
            a.bookingId = bookingId ∧ BelongsTo bookingId userId w') w := by
        rw [Program.wp_lift]
        exact ensures_ok (extendBooking_conducted hwho)
      refine replying_conducted hp fun extension w' h => ?_
      rw [hwho]
      exact h
  | getMyBookings userId status =>
      refine replying_conducted (ensures_ok getMyBookings_conducted) fun bookings w' h => ?_
      rw [hwho]
      exact h
  | getBooking id userId =>
      have hp : Authorized mode (fun j => (who j).request) own i (Checkout.getBooking id userId)
          Memory.blank w (fun b _ w' => (own i).Shown id userId b ∧ BelongsTo id userId w')
          fun _ _ => True := findOwn_authorized
      refine replying_conducted (ofCheckout_conducted (ensures_ok hp)) fun booking w' h => ?_
      rw [hwho]
      exact h.1
  | checkSeatAvailability flightId seats =>
      have hemits : (SeatLock.checkSeatAvailability (L := Unit) flightId seats).Emits
          (fun _ => True) (fun _ _ => True) () (fun availability _ => availability.flightId = flightId)
          fun _ => True :=
        .andThen (any_emits _ _) (fun _ h => h) fun _ _ _ => .pure rfl
      have hp : (ofRedis (SeatLock.checkSeatAvailability flightId seats ())).wp
          (conductSpec mode who own i) (fun r _ => ∀ a, r.1 = .ok a → a.flightId = flightId) w := by
        rw [ofRedis, Program.wp_lift]
        exact ensures_ok ((redis_conducted hemits).mono (fun _ _ _ h => h.1) fun _ _ _ => trivial)
      refine replying_conducted hp fun availability w' h => ?_
      rw [hwho]
      exact h

/-- What a request may be answered stays so. -/
theorem ServiceRequest.MaySee.mono {basis : Basis} {request : ServiceRequest} {answer : ServiceReply}
    (h : request.MaySee basis w answer) (hretains : Retains w w') : request.MaySee basis w' answer := by
  cases request with
  | checkout request =>
      cases answer with
      | checkout reply => exact Request.MaySee.mono h hretains
      | _ => exact h.elim
  | extendBooking id userId =>
      cases answer with
      | extended extension => exact ⟨h.1, hretains.belongs h.2⟩
      | _ => exact h.elim
  | _ => cases answer <;> exact h

end Calls

/-! ## Runs -/

section Runs

variable {mode : BookingPaymentMode} {ms : List (Move ServiceRequest Choice)}
variable {es : List ServiceEvent} {w₀ : World}
variable {P : Pool ServiceOp (fun op => Except Exception op.Ret) (Except Exception ServiceReply) World}

/-- No booking is deleted or handed to another user, and every row that changes is changed by a call
that was asked to. -/
def Rightful (mode : BookingPaymentMode) (es : List ServiceEvent) : ServiceEvent → Prop
  | .started _ _ _ => True
  | .performed w i _ op w' => Retains w w' ∧ ∀ id b, w'.booking id = some b →
      w.booking id = some b ∨
        ∃ s request, .started s i request ∈ es ∧ request.Changes mode (basisOf es i) id w b op

/-- The run of the contract. -/
theorem conduct_run (hrun : (bookingService mode).run ms (Pool.init w₀) = some (es, P)) :
    ∃ who, (∀ i request, (∃ s, .started s i request ∈ es) → who i = request) ∧
      (∀ i, (∃ s, .started s i (who i) ∈ es) ∨ who i = .getMyBookings 0 none) ∧
      (conduct mode who (basisOf es)).Meets (bookingService mode)
        (fun i r w => ∀ answer, r = .ok answer → (who i).MaySee (basisOf es i) w answer) P ∧
      ∀ e ∈ es, (conduct mode who (basisOf es)).owes e := by
  refine Contract.run_requests (fun _ => conduct_lawful) ?_ ?_
    (fun _ _ _ request _ hwho => program_conducted request hwho) hrun fun _ => trivial
  · intro who e he hgiven
    cases e with
    | started w i request => exact hgiven
    | performed w i choice op w' =>
        refine ⟨fun b hb => ⟨w, choice, op, w', he, hb⟩, ?_⟩
        rintro op' rfl
        exact ⟨fun id h => ⟨w, choice, op', w', he, h⟩, fun id h => ⟨w, choice, op', w', he, h⟩,
          fun b hb => ⟨w, choice, _, w', he, hb⟩⟩
  · exact fun who i r w w' hretains h answer hanswer => (h answer hanswer).mono hretains

theorem rightful_of_run (hrun : (bookingService mode).run ms (Pool.init w₀) = some (es, P)) :
    ∀ e ∈ es, Rightful mode es e := by
  obtain ⟨who, -, hstarted, -, howes⟩ := conduct_run hrun
  intro e he
  cases e with
  | started w i request => trivial
  | performed w i c op w' =>
      obtain ⟨hretains, hpermitted⟩ := howes _ he
      refine ⟨hretains, fun id b hb => (hpermitted id b hb).imp_right fun hchanges => ?_⟩
      rcases hstarted i with ⟨s, hs⟩ | hidle
      · exact ⟨s, who i, hs, hchanges⟩
      · rw [hidle] at hchanges
        exact hchanges.elim

theorem seen_of_run (hrun : (bookingService mode).run ms (Pool.init w₀) = some (es, P)) {i : Nat}
    {answer : ServiceReply} (hdone : P.calls[i]? = some (.done (.ok answer))) {s : World}
    {request : ServiceRequest} (hs : .started s i request ∈ es) :
    request.MaySee (basisOf es i) P.state answer := by
  obtain ⟨who, hwho, -, hmeets, -⟩ := conduct_run hrun
  have hsees : (who i).MaySee (basisOf es i) P.state answer := hmeets.2 i _ hdone answer rfl
  rwa [hwho i request ⟨s, hs⟩] at hsees

end Runs

/-- The next `n` operations of a call succeed, each ready to draw an identifier of its own. -/
def proceeds (call : Nat) (name : String) (n : Nat) : List (Move ServiceRequest Choice) :=
  (List.range n).map fun k => .run call ⟨⟨none, s!"{name}{k}"⟩, ⟨none, none, none⟩⟩

/-- A user books a seat, which another one cannot see. Its user extends the booking, lists it and
cancels it. -/
def confinedRun : List (Move ServiceRequest Choice) :=
  .start (.checkout (.createBooking Booking.onlySeat 1)) :: proceeds 0 "a" 24 ++
    .start (.getBooking "a1" 2) :: proceeds 1 "b" 1 ++
    .start (.extendBooking "a1" 1) :: proceeds 2 "c" 9 ++
    .start (.getMyBookings 1 (some "PENDING")) :: proceeds 3 "d" 1 ++
    .start (.checkout (.cancelBooking "a1" 1 none)) :: proceeds 4 "e" 15

end FlightBookings.Checkout
