import FlightBookings.Await.Pair
import FlightBookings.Checkout.Completions
import FlightBookings.Payment.Messages

/-! # No ticket without payment

The booking service and the payment service side by side, every interleaving of
their calls included. The booking service takes the word of a client for a
payment, and looks neither at the amount that a message announces nor at what
has become of the payment since. Where the word is good, the amount is that of
the booking, and the payment stands, what is booked is paid.
-/

namespace FlightBookings.Checkout

open Await
open Booking (World)

abbrev JointEvent :=
  PairEvent Request Op Choice World Payment.Request Payment.Op Payment.Choice Payment.World

abbrev JointMove := PairMove Request Choice Payment.Request Payment.Choice

abbrev JointPools :=
  Pools Op (fun op => Except Exception op.Ret) (Except Exception Reply × Booking.Memory) World
    Payment.Op (fun op => Except Exception op.Ret)
    (Except Exception (Option Payment.ResponseBody) × Unit) Payment.World

/-- The two services. A message is delivered any number of times after it was published; the intents
that the booking service asks for are among the requests of the payment service. -/
def checkout : Pair Request Op (fun op => Except Exception op.Ret) Choice
    (Except Exception Reply × Booking.Memory) World Payment.Request Payment.Op
    (fun op => Except Exception op.Ret) Payment.Choice
    (Except Exception (Option Payment.ResponseBody) × Unit) Payment.World where
  first := service .paymentService
  second := Payment.service
  admits
    | .handlePaymentCompleted msg, w => decide (msg ∈ w.published)
    | _, _ => true

def start (now now' : Nat) : JointPools :=
  ⟨Pool.init (World.init now), Pool.init (Payment.World.init now')⟩

/-! ## What is asked of a run -/

/-- The payment service holds the payment of a booking. -/
def Paid (w : Payment.World) (id : String) (cost : Nat) : Prop :=
  ∃ p ∈ w.db.payments, p.status = .confirmed ∧ p.reference = some (.text id) ∧ p.amount = cost

/-- A booking that becomes booked, or paid, is paid for. -/
def Funded : JointEvent → Prop
  | .first e w => ∀ id b, Reaches e.before e.after id b → Paid w id b.totalCost
  | .second _ _ => True

/-- A message announces a transaction for a booking. -/
def Announces (r : String × String) (msg : Payment.PaymentCompleted) : Prop :=
  msg.bookingReference = r.1 ∧ transactionIdOf msg = r.2

instance (r : String × String) (msg : Payment.PaymentCompleted) : Decidable (Announces r msg) :=
  inferInstanceAs (Decidable (_ ∧ _))

/-- The message is about the cost of the booking, and its payment is still confirmed. -/
def Stands (w : Payment.World) (cost : Nat) (msg : Payment.PaymentCompleted) : Prop :=
  msg.amount = cost ∧ ∀ p ∈ w.db.payment msg.paymentId, p.status = .confirmed

instance (w : Payment.World) (cost : Nat) (msg : Payment.PaymentCompleted) :
    Decidable (Stands w cost msg) :=
  inferInstanceAs (Decidable (_ ∧ _))

/-- A completion that commits was announced by a message that stands. -/
def Backed : JointEvent → Prop
  | .first (.performed w _ c op _) v => c.saga.fails = none → ∀ r ∈ op.completion,
      ∀ b ∈ w.booking r.1, ∃ msg ∈ v.published, Announces r msg ∧ Stands v b.totalCost msg
  | _ => True

instance : DecidablePred Backed
  | .first (.performed _ _ _ _ _) _ => inferInstanceAs (Decidable (_ → _))
  | .first (.started _ _ _) _ => .isTrue trivial
  | .second _ _ => .isTrue trivial

/-! ## Runs -/

variable {now now' : Nat} {ms : List JointMove} {es : List JointEvent} {P : JointPools}

theorem perform_replies {choice : Choice} {op : Op} {w w' : World} {r : Except Exception op.Ret}
    (h : performWith choice op w = some (r, w')) : op.Replies r := by
  cases op with
  | send request => trivial
  | saga op => exact Booking.perform_replies h

/-- What a row that becomes booked, or paid, says of the operation. -/
def Completed : JointEvent → Prop
  | .first (.performed w _ c op w') _ => ∀ id b, Reaches w w' id b → c.saga.fails = none ∧
      (∃ paymentTransactionId, op.completion = some (id, paymentTransactionId)) ∧
      ∃ old, w.booking id = some old ∧ b.totalCost = old.totalCost
  | _ => True

theorem start_serves {P : Request → Payment.World → Prop} :
    ∀ p ∈ (start now now').first.calls, Pair.Serves
      (fun request : Request => Op.Serves request.completion) Op.Replies P
      (start now now').second.state p :=
  fun _ hp => absurd hp List.not_mem_nil

theorem completed_of_run (hrun : checkout.run ms (start now now') = some (es, P)) :
    ∀ e ∈ es, Completed e := by
  refine Pair.run_serves ?_ ?_ ?_ hrun (fun _ _ => trivial) (start_serves (P := fun _ _ => True))
  · exact fun w i request v _ _ => ⟨(request_keeps request).program, trivial, trivial⟩
  · intro request w i c op r w' v hserves _ hperform _
    exact ⟨perform_replies hperform, fun id b => reaches_of_perform hserves hperform⟩
  · exact fun _ _ => ⟨fun _ _ => trivial, trivial⟩

/-- In a run of the two services whose completions are backed, every booking that becomes booked, or
paid, is paid for. -/
theorem booked_funded (hrun : checkout.run ms (start now now') = some (es, P))
    (hbacked : ∀ e ∈ es, Backed e) : ∀ e ∈ es, Funded e := by
  intro e he
  cases e with
  | second e w => trivial
  | first e v =>
      intro id b hreaches
      cases e with
      | started w i request => exact absurd hreaches (not_reaches_of_same rfl)
      | performed w i c op w' =>
          obtain ⟨hok, ⟨paymentTransactionId, hcompletion⟩, old, hold, hcost⟩ :=
            completed_of_run hrun _ he id b hreaches
          obtain ⟨msg, hmsg, hannounces, hamount, hconfirmed⟩ :=
            hbacked _ he hok _ hcompletion old hold
          obtain ⟨ms₂, es₂, Q, hrun₂, rfl⟩ := Pair.beside_of_mem hrun he
          obtain ⟨p, hp, hsame, hreference⟩ := Payment.published_stored hrun₂ msg hmsg
          refine ⟨p, (Table.mem_of_find hp).1, hconfirmed p hp, ?_, ?_⟩
          · rw [hreference, hannounces.1]
          · rw [hsame, hamount, hcost]

/-! ## Two runs -/

def ticket : Booking.CreateBookingDto :=
  { userId := 1, flightId := 7, seatNumbers := some ["1A"], totalCost := some 100 }

/-- The next `n` operations of a call succeed, and the payment service replies with this payment. -/
def goes (call : Nat) (name : String) (n : Nat) : List JointMove :=
  (List.range n).map fun k => .inl (.run call ⟨⟨none, s!"{name}{k}"⟩, ⟨some "p4", none, none⟩⟩)

/-- The intent that the booking service asks for. -/
def intent : Payment.CreatePaymentIntentDto :=
  { bookingId := 1, bookingReference := some "a1", userId := 1, amount := 100
    metadata := some [("bookingReference", .text "a1")], positive := Nat.zero_lt_succ 99 }

/-- A client books a ticket, and the payment service creates the payment that is asked for. The
booking is `a1`, the payment `p4`. -/
def awaitingPayment : List JointMove :=
  .inl (.start (.createBooking ticket 1)) :: goes 0 "a" 23 ++
    .inr (.start (.createPaymentIntent intent (some "booking:a1"))) ::
    (Payment.succeeds 0 "p" "requires_confirmation" 8).map .inr ++ goes 0 "b" 1

def announcement : Payment.PaymentCompleted where
  paymentId := "p4"
  bookingId := 1
  bookingReference := "a1"
  userId := 1
  amount := 100
  currency := "USD"
  gateway := "stripe"
  gatewayPaymentId := "pi"
  gatewayTransactionId := some "pi"
  status := .confirmed
  confirmedAt := some 0

/-- The payment is confirmed, and its message is delivered. -/
def delivered : List JointMove :=
  awaitingPayment ++ .inr (.start (.confirmPaymentIntent "p4" none (some "c"))) ::
    (Payment.succeeds 1 "q" "succeeded" 13).map .inr ++
    .inl (.start (.handlePaymentCompleted announcement)) :: goes 1 "d" 16

theorem booked_funded_delivered :
    ∃ es P, checkout.run delivered (start 0 0) = some (es, P) ∧
      (∃ b ∈ P.first.state.booking "a1", b.status = .booked) ∧ ∀ e ∈ es, Funded e := by
  have hrun : (checkout.run delivered (start 0 0)).any (fun result =>
      (result.2.first.state.booking "a1").any (fun b => b.status = .booked) &&
      result.1.all fun e => decide (Backed e)) = true := by decide +kernel
  obtain ⟨es, P, hrun, hafter⟩ := Pair.exists_run hrun
  obtain ⟨hbooked, hbacked⟩ := Bool.and_eq_true_iff.mp hafter
  rw [Option.any_eq_true] at hbooked
  obtain ⟨b, hb, hstatus⟩ := hbooked
  refine ⟨es, P, hrun, ⟨b, hb, of_decide_eq_true hstatus⟩, booked_funded hrun fun e he => ?_⟩
  exact of_decide_eq_true (List.all_eq_true.mp hbacked e he)

/-- A booking is booked while the payment service holds no confirmed payment. -/
def unpaid (id : String) : JointEvent → Bool
  | .first e v =>
      (e.before.booking id).all (fun b => b.status ≠ .booked) &&
        (e.after.booking id).any (fun b => b.status = .booked) &&
        v.db.payments.all fun p => p.status ≠ .confirmed
  | .second _ _ => false

theorem not_funded_of_unpaid {e : JointEvent} {id : String} (h : unpaid id e = true) :
    ¬Funded e := by
  intro hfunded
  cases e with
  | second e w => cases h
  | first e v =>
      simp only [unpaid, Bool.and_eq_true, Option.all_eq_true, Option.any_eq_true,
        List.all_eq_true, decide_eq_true_eq] at h
      obtain ⟨⟨hbefore, b, hb, hstatus⟩, hnone⟩ := h
      obtain ⟨p, hp, hconfirmed, -⟩ := hfunded id b ⟨hb, .inl ⟨hstatus, hbefore⟩⟩
      exact hnone p hp hconfirmed

/-- The client completes the booking itself, and the payment is not made. -/
theorem booked_unpaid :
    ¬∀ now now' ms es P, checkout.run ms (start now now') = some (es, P) → ∀ e ∈ es, Funded e := by
  intro h
  have hrun : (checkout.run (awaitingPayment ++
      .inl (.start (.completeBooking "a1" 1 "tx")) :: goes 1 "d" 17) (start 0 0)).any (fun result =>
        result.1.any (unpaid "a1")) = true := by decide +kernel
  obtain ⟨es, P, hrun, hunpaid⟩ := Pair.exists_run hrun
  obtain ⟨e, he, hevent⟩ := List.any_eq_true.mp hunpaid
  exact not_funded_of_unpaid hevent (h 0 0 _ es P hrun e he)

/-! ## Requests that are honest -/

def Announced (w : Payment.World) (r : String × String) : Prop :=
  ∃ msg ∈ w.published, Announces r msg

/-- A client names a transaction that was announced for the booking, a message has no blanks around
its reference, and what was announced stands when a completion commits. -/
def Honest : JointEvent → Prop
  | .first (.started _ _ (.completeBooking bookingId _ paymentTransactionId)) v =>
      Announced v (bookingId, paymentTransactionId)
  | .first (.started _ _ (.handlePaymentCompleted msg)) _ =>
      trim msg.bookingReference = msg.bookingReference
  | .first (.performed w _ _ op _) v => ∀ r ∈ op.completion, ∀ b ∈ w.booking r.1,
      ∀ msg ∈ v.published, Announces r msg → Stands v b.totalCost msg
  | _ => True

instance (w : Payment.World) (r : String × String) : Decidable (Announced w r) :=
  inferInstanceAs (Decidable (∃ msg ∈ _, _))

instance : DecidablePred Honest
  | .first (.started _ _ request) v => by cases request <;> unfold Honest <;> infer_instance
  | .first (.performed _ _ _ _ _) _ => inferInstanceAs (Decidable (∀ _ ∈ _, _))
  | .second _ _ => .isTrue trivial

theorem published_stays {m : Move Payment.Request Payment.Choice} {Q Q' : Payment.ServicePool}
    {e : Payment.Event} (h : Payment.service.move m Q = some (e, Q')) :
    ∀ msg ∈ Q.state.published, msg ∈ Q'.state.published := by
  rcases System.move_cases h with ⟨request, -, -, rfl⟩ | ⟨i, c, op, next, r, w, -, -, hperform, -, rfl⟩
  · exact fun _ hmem => hmem
  · cases Payment.performs_of_perform hperform with
    | passed reply hop hdb hjournal hpublished => exact fun _ hmem => hpublished ▸ hmem
    | publish message => exact fun _ hmem => List.mem_append_left _ hmem
    | _ => exact fun _ hmem => hmem

/-- Nothing but a request of a client or a message completes a booking, and it completes the one that
it names, for the transaction that it names. -/
theorem backed_of_honest (hrun : checkout.run ms (start now now') = some (es, P))
    (hhonest : ∀ e ∈ es, Honest e) : ∀ e ∈ es, Backed e := by
  let needs (request : Request) (v : Payment.World) : Prop :=
    ∀ r, request.completion = some r → Announced v r
  refine Pair.run_serves ?_ ?_ ?_ hrun hhonest (start_serves (P := needs))
  · intro w i request v hadmits hallows
    refine ⟨(request_keeps request).program, fun r hr => ?_, trivial⟩
    cases request with
    | completeBooking bookingId userId paymentTransactionId =>
        cases hr
        exact hallows
    | handlePaymentCompleted msg =>
        cases hr
        exact ⟨msg, of_decide_eq_true hadmits, hallows.symm, rfl⟩
    | _ => cases hr
  · intro request w i c op r w' v hserves hneeds hperform hallows
    refine ⟨perform_replies hperform, fun _ named hnamed b hb => ?_⟩
    have hasked : request.completion = some named := by
      cases op with
      | send request => cases hnamed
      | saga op => exact hserves.2 named hnamed
    obtain ⟨msg, hmsg, hannounces⟩ := hneeds named hasked
    exact ⟨msg, hmsg, hannounces, hallows named hnamed b hb msg hmsg hannounces⟩
  · intro m Q e Q' w hmove _
    refine ⟨fun request hneeds r hr => ?_, trivial⟩
    obtain ⟨msg, hmem, hannounces⟩ := hneeds r hr
    exact ⟨msg, published_stays hmove msg hmem, hannounces⟩

theorem backed_of_honest_delivered :
    ∃ es P, checkout.run delivered (start 0 0) = some (es, P) ∧
      (∃ b ∈ P.first.state.booking "a1", b.status = .booked) ∧ ∀ e ∈ es, Backed e := by
  have hrun : (checkout.run delivered (start 0 0)).any (fun result =>
      (result.2.first.state.booking "a1").any (fun b => b.status = .booked) &&
      result.1.all fun e => decide (Honest e)) = true := by decide +kernel
  obtain ⟨es, P, hrun, hafter⟩ := Pair.exists_run hrun
  obtain ⟨hbooked, hhonest⟩ := Bool.and_eq_true_iff.mp hafter
  rw [Option.any_eq_true] at hbooked
  obtain ⟨b, hb, hstatus⟩ := hbooked
  refine ⟨es, P, hrun, ⟨b, hb, of_decide_eq_true hstatus⟩, backed_of_honest hrun fun e he => ?_⟩
  exact of_decide_eq_true (List.all_eq_true.mp hhonest e he)

end FlightBookings.Checkout
