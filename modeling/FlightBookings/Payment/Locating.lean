import FlightBookings.Payment.Webhook

/-! # The payment that an event is about

The adapter of Stripe takes the identifier of the object of an event for that of the payment intent.
The object of an event about a charge is the charge, which names its intent in a field of its own.
-/

namespace FlightBookings.Payment.Webhook

open Await

/-! ## Events of Stripe -/

/-- The object of an event, with the fields that are read of it. -/
inductive StripeObject where
  | paymentIntent (id : String) (lastPaymentError : Option String)
  | charge (id : String) (intent : Option String)
deriving DecidableEq

def StripeObject.id : StripeObject → String
  | .paymentIntent id _ => id
  | .charge id _ => id

/-- `data['last_payment_error']?.message` -/
def StripeObject.lastPaymentError : StripeObject → Option String
  | .paymentIntent _ lastPaymentError => lastPaymentError
  | .charge _ _ => none

/-- The payment intent that the object is, or that the charge belongs to. -/
def StripeObject.intent : StripeObject → Option String
  | .paymentIntent id _ => some id
  | .charge _ intent => intent

def StripeObject.isCharge : StripeObject → Bool
  | .paymentIntent _ _ => false
  | .charge _ _ => true

structure StripeEvent where
  id : String
  type : String
  object : StripeObject
deriving DecidableEq

/-- What `verifyWebhook` of the Stripe provider makes of a verified event. -/
def StripeEvent.adapted (e : StripeEvent) : WebhookEvent where
  id := e.id
  type := e.type
  paymentIntentId := some e.object.id
  lastPaymentError := e.object.lastPaymentError

def handleStripeWebhook (verified : Option StripeEvent) : Call Unit :=
  handleWebhook .stripe (verified.map StripeEvent.adapted)

/-- The types of Stripe's events that the switch of `processWebhookEvent` names. -/
def stripeTypes : List String :=
  ["payment_intent.succeeded", "payment_intent.payment_failed", "charge.refunded"]

/-- The shape of such an event as Stripe documents it. -/
def StripeEvent.Documented (e : StripeEvent) : Prop :=
  e.type ∈ stripeTypes ∧ (e.object.isCharge = true ↔ e.type = "charge.refunded") ∧ e.object.id ≠ ""

/-! ## A delivery by itself -/

/-- An operation of a call that runs by itself, so that it never waits for another one. -/
def performAlone (i : Nat) (env : Op → Payment.World → Choice) (op : Payment.Op)
    (pw : Payment.World) : Except Exception op.Ret × Payment.World :=
  (Payment.performWith i (env (.payment op) pw) op pw).getD (.error constraintViolation, pw)

def alone (i : Nat) (env : Op → Payment.World → Choice) (op : Op) (w : World) :
    Except Exception op.Ret × World :=
  (performWith i (env op w.payments) op w).getD (.error constraintViolation, w)

/-- What an event of its type does to a payment. -/
def transition (e : StripeEvent) (p : Payment) : Payment.Call ResponseBody :=
  if e.type = "payment_intent.succeeded" then
    confirmPaymentIntent p.id (some p.gatewayPaymentId)
      (some s!"webhook:{Gateway.stripe.getGatewayName}:{e.id}")
  else if e.type = "payment_intent.payment_failed" then do
    let reason := orElse e.object.lastPaymentError "Payment failed according to webhook event"
    let failed : Payment :=
      { p with
        status := .failed
        failureReason := some (orElse (some reason) "Payment failed according to gateway webhook") }
    auto (.updatePayment p.id failed.toPaymentState)
    pure (.payment failed)
  else refreshRefundedStatus p.id

/-- How the delivery answers when its transition ends so. -/
def answerTo {α : Type} : Except Exception α → Except Exception Unit
  | .ok _ => .ok ()
  | .error _ => .error (.badRequest "Webhook verification failed")

/-- The delivery of an event does to the payments what its transition does to this one, and fails
only if that fails. -/
def Applied (i : Nat) (env : Op → Payment.World → Choice) (w : World) (e : StripeEvent)
    (p : Payment) : Prop :=
  let handled := (handleStripeWebhook (some e)).run (alone i env) () w
  let applied := (transition e p).run (performAlone i env) () w.payments
  handled.1.1 = answerTo applied.1.1 ∧ handled.2.payments = applied.2

/-- Nothing fails, no transaction is open, and the event was not processed before. -/
structure Ready (env : Op → Payment.World → Choice) (w : World) (e : StripeEvent) : Prop where
  unfailing : ∀ op pw, (env op pw).fails = none
  pending : w.pending = []
  journal : w.payments.journal = []
  fresh : ∀ row, w.event ⟨"stripe", e.id⟩ = some row → row.status ≠ .processed

/-- The payment of a payment intent. -/
def paymentOf (w : World) (intent : String) : Option Payment :=
  Table.find Payment.gatewayPaymentId intent w.payments.db.payments

variable {i : Nat} {env : Op → Payment.World → Choice} {w w' : World} {e : StripeEvent}
variable {p : Payment}

theorem payment_run {α : Type} (c : Payment.Call α) (l : Unit) :
    (payment c).run (alone i env) l w =
      ((c.run (performAlone i env) l w.payments).1,
        { w with payments := (c.run (performAlone i env) l w.payments).2 }) := by
  unfold payment
  rw [Call.run_lift]
  unfold Call.run
  generalize c l = program
  induction program generalizing w with
  | done result => rfl
  | await op next ih =>
      rw [Program.eval, ih, Program.eval]
      have hop : alone i env (.payment op) w =
          ((performAlone i env op w.payments).1,
            { w with payments := (performAlone i env op w.payments).2 }) := by
        change ((Payment.performWith i (env (.payment op) w.payments) op w.payments).map _).getD _ = _
        unfold performAlone
        cases Payment.performWith i (env (.payment op) w.payments) op w.payments <;> rfl
      rw [hop]

theorem alone_eq (hquiet : ∀ op pw, (env op pw).fails = none) (op : Op) :
    alone i env op w =
      (Op.perform i (env op w.payments) op w).getD (.error constraintViolation, w) := by
  unfold alone performWith
  cases op <;> simp [hquiet]

theorem performAlone_eq (hquiet : ∀ op pw, (env op pw).fails = none) (op : Payment.Op)
    (pw : Payment.World) :
    performAlone i env op pw =
      (Payment.Op.perform i (env (.payment op) pw) op pw).getD (.error constraintViolation, pw) := by
  simp [performAlone, Payment.performWith, hquiet]

/-- The row of an event that comes for the first time. -/
def receivedEvent (e : StripeEvent) (now : Nat) : WebhookEventEntity where
  status := .received
  processedAt := none
  lastError := none
  ref := ⟨"stripe", e.id⟩
  eventType := e.type
  gatewayPaymentId := some e.object.id
  receivedAt := now

/-- The delivery gets the row of its event, which is not processed yet. -/
theorem record_run (hw : Ready env w e) :
    ∃ row w', (transaction (recordEvent ⟨"stripe", e.id⟩ e.adapted)).run (alone i env) () w =
        ((.ok row, ()), w') ∧ w'.payments = w.payments ∧ row.status ≠ .processed := by
  cases hfound : w.event ⟨"stripe", e.id⟩ with
  | some row =>
      refine ⟨row, w, ?_, rfl, hw.fresh row hfound⟩
      have hclosed : { w with pending := [] } = w := by rw [← hw.pending]
      simp [transaction, recordEvent, alone_eq hw.unfailing, Op.perform, hfound, hw.pending, hclosed]
  | none =>
      refine ⟨receivedEvent e w.payments.now,
        ⟨w.payments, w.events ++ [receivedEvent e w.payments.now], []⟩, ?_, rfl, by simp [receivedEvent]⟩
      simp [transaction, recordEvent, dateNow, payment_run, performAlone_eq hw.unfailing,
        alone_eq hw.unfailing, Op.perform, Payment.Op.perform, World.blocks, hfound, hw.pending,
        StripeEvent.adapted, receivedEvent]

/-- Saving the row leaves the payments alone. -/
theorem saveEvent_run (hquiet : ∀ op pw, (env op pw).fails = none) (row : WebhookEventEntity) :
    ∃ w', (saveEvent row).run (alone i env) () w = ((.ok ⟨⟩, ()), w') ∧
      w'.payments = w.payments := by
  by_cases hsame : w.event row.ref = some row
  · exact ⟨w, by simp [saveEvent, alone_eq hquiet, Op.perform, hsame], rfl⟩
  · refine ⟨(Op.perform i (env (.updateEvent row.ref row.toWebhookEventState) w.payments)
      (.updateEvent row.ref row.toWebhookEventState) w).get rfl |>.2, ?_, rfl⟩
    simp [saveEvent, alone_eq hquiet, Op.perform, hsame]

/-- What is left of a delivery besides its processing does not touch the payments. -/
theorem handle_run (hw : Ready env w e) :
    ∃ w', w'.payments = w.payments ∧
      ((handleStripeWebhook (some e)).run (alone i env) () w).1.1 =
        answerTo ((processWebhookEvent "stripe" e.adapted).run (alone i env) () w').1.1 ∧
      ((handleStripeWebhook (some e)).run (alone i env) () w).2.payments =
        ((processWebhookEvent "stripe" e.adapted).run (alone i env) () w').2.payments := by
  obtain ⟨row, w', hrecord, hpayments, hstatus⟩ := @record_run i env w e hw
  have hname : Gateway.getByName "stripe" = .ok .stripe := by decide +kernel
  have hid : e.adapted.id = e.id := rfl
  refine ⟨w', hpayments, ?_⟩
  cases hprocess : (processWebhookEvent "stripe" e.adapted).run (alone i env) () w' with
  | mk result w₂ =>
      rcases result with ⟨error | done, l⟩
      · simp [handleStripeWebhook, handleWebhook, Gateway.getGatewayName, hname, verifyWebhook,
          hid, hrecord, hstatus, hprocess, answerTo]
      · obtain ⟨w₃, hsave, hsaved⟩ := @saveEvent_run i env w₂ hw.unfailing
          { row with status := .processed, processedAt := some w₂.payments.now, lastError := none }
        simp [handleStripeWebhook, handleWebhook, Gateway.getGatewayName, hname, verifyWebhook,
          hid, hrecord, hstatus, hprocess, answerTo, dateNow, payment_run, performAlone_eq hw.unfailing,
          Payment.Op.perform, hsave, hsaved]

section Payments

variable {pw : Payment.World} {gatewayPaymentId : String}

/-- The look-up finds the payment of an intent, and changes nothing. -/
theorem findByGatewayId_run (hquiet : ∀ op pw, (env op pw).fails = none) (hidle : pw.journal = []) :
    (findByGatewayId gatewayPaymentId).run (performAlone i env) () pw =
      (((Table.find Payment.gatewayPaymentId gatewayPaymentId pw.db.payments).elim
        (.error (paymentNotFoundByGatewayId gatewayPaymentId)) .ok, ()), pw) := by
  have hclosed : { pw with journal := [] } = pw := by rw [← hidle]
  cases hfound : Table.find Payment.gatewayPaymentId gatewayPaymentId pw.db.payments <;>
    simp [findByGatewayId, auto, performAlone_eq hquiet, Payment.Op.perform, Payment.World.blocks,
      hidle, Journal.others, Query.violates, Query.read, Query.write, hfound, hclosed]

theorem discard_run (c : Payment.Call ResponseBody) (w' : World) :
    (do
      let _ ← payment c
      pure () : Call Unit).run (alone i env) () w' =
      ((((c.run (performAlone i env) () w'.payments).1.1.map fun _ => ()),
        (c.run (performAlone i env) () w'.payments).1.2),
        { w' with payments := (c.run (performAlone i env) () w'.payments).2 }) := by
  rw [Call.run_bind, payment_run]
  rcases c.run (performAlone i env) () w'.payments with ⟨⟨error | body, l⟩, pw'⟩ <;> rfl

/-- The request that the switch makes for an event. -/
def requested (e : StripeEvent) : Payment.Call ResponseBody :=
  if e.type = "payment_intent.succeeded" then
    confirmPaymentByGatewayId e.object.id
      (some s!"webhook:{Gateway.stripe.getGatewayName}:{e.id}")
  else if e.type = "payment_intent.payment_failed" then
    markPaymentFailedByGatewayId e.object.id
      (some (orElse e.object.lastPaymentError "Payment failed according to webhook event"))
  else refreshRefundedStatusByGatewayId e.object.id

theorem process_eq (hdocumented : e.Documented) :
    processWebhookEvent "stripe" e.adapted = (do
      let _ ← payment (requested e)
      pure ()) := by
  obtain ⟨htype, -, hid⟩ := hdocumented
  have hnamed : orElse (some e.object.id) "" = e.object.id := by simp [orElse]
  simp only [stripeTypes, List.mem_cons, List.not_mem_nil, or_false] at htype
  rcases htype with htype | htype | htype <;>
    simp [processWebhookEvent, StripeEvent.adapted, hnamed, hid, htype, requested,
      Gateway.getGatewayName]

/-- With the payment found, the request goes on as the transition. -/
theorem requested_found (hquiet : ∀ op pw, (env op pw).fails = none) (hidle : pw.journal = [])
    (hfound : Table.find Payment.gatewayPaymentId e.object.id pw.db.payments = some p) :
    (requested e).run (performAlone i env) () pw =
      (transition e p).run (performAlone i env) () pw := by
  have hpayment : p.gatewayPaymentId = e.object.id := (Table.mem_of_find hfound).2
  have hfind := @findByGatewayId_run i env pw e.object.id hquiet hidle
  rw [hfound] at hfind
  unfold requested transition
  by_cases hsucceeded : e.type = "payment_intent.succeeded"
  · rw [if_pos hsucceeded, if_pos hsucceeded, confirmPaymentByGatewayId, Call.run_bind, hfind,
      hpayment]
    rfl
  · rw [if_neg hsucceeded, if_neg hsucceeded]
    by_cases hfailed : e.type = "payment_intent.payment_failed"
    · rw [if_pos hfailed, if_pos hfailed, markPaymentFailedByGatewayId, Call.run_bind, hfind]
      rfl
    · rw [if_neg hfailed, if_neg hfailed, refreshRefundedStatusByGatewayId, Call.run_bind, hfind]
      rfl

theorem requested_missing (hquiet : ∀ op pw, (env op pw).fails = none) (hidle : pw.journal = [])
    (hmissing : Table.find Payment.gatewayPaymentId e.object.id pw.db.payments = none) :
    (requested e).run (performAlone i env) () pw =
      ((.error (paymentNotFoundByGatewayId e.object.id), ()), pw) := by
  have hfind := @findByGatewayId_run i env pw e.object.id hquiet hidle
  rw [hmissing] at hfind
  unfold requested
  split
  · rw [confirmPaymentByGatewayId, Call.run_bind, hfind]
    rfl
  · split
    · rw [markPaymentFailedByGatewayId, Call.run_bind, hfind]
      rfl
    · rw [refreshRefundedStatusByGatewayId, Call.run_bind, hfind]
      rfl

/-- The refresh of a payment that is there comes through. -/
theorem refresh_succeeds (hquiet : ∀ op pw, (env op pw).fails = none) (hidle : pw.journal = [])
    (hp : p ∈ pw.db.payments) :
    ∃ body pw', (refreshRefundedStatus p.id).run (performAlone i env) () pw =
      ((.ok body, ()), pw') := by
  cases hfound : pw.db.payment p.id with
  | none => exact absurd rfl (Table.find_eq_none.mp hfound p hp)
  | some row =>
      by_cases hnone : pw.db.refunded p.id = 0
      · have hclosed : { pw with journal := [] } = pw := by rw [← hidle]
        refine ⟨.payment row, pw, ?_⟩
        simp [refreshRefundedStatus, auto, performAlone_eq hquiet, Payment.Op.perform,
          Payment.World.blocks, hidle, Journal.others, Query.violates, Query.read, Query.write, hfound,
          hnone, hclosed]
      · simp [refreshRefundedStatus, auto, dateNow, performAlone_eq hquiet, Payment.Op.perform,
          Payment.World.blocks, hidle, Journal.others, Query.violates, Query.read, Query.write, hfound,
          hnone]

end Payments

/-! ## Deliveries and their payments -/

/-- The delivery ends as its request does, and leaves the payments as that leaves them. -/
theorem delivery_run (hready : Ready env w e) (hdocumented : e.Documented) :
    ((handleStripeWebhook (some e)).run (alone i env) () w).1.1 =
        answerTo ((requested e).run (performAlone i env) () w.payments).1.1 ∧
      ((handleStripeWebhook (some e)).run (alone i env) () w).2.payments =
        ((requested e).run (performAlone i env) () w.payments).2 := by
  obtain ⟨w', hpayments, hanswer, hleft⟩ := @handle_run i env w e hready
  rw [process_eq hdocumented, discard_run, hpayments] at hanswer hleft
  refine ⟨hanswer.trans ?_, hleft⟩
  rcases (requested e).run (performAlone i env) () w.payments with ⟨⟨error | body, l⟩, pw⟩ <;> rfl

theorem applied_of_found (hready : Ready env w e) (hdocumented : e.Documented)
    (hfound : paymentOf w e.object.id = some p) : Applied i env w e p := by
  obtain ⟨hanswer, hleft⟩ := @delivery_run i env w e hready hdocumented
  rw [requested_found hready.unfailing hready.journal hfound] at hanswer hleft
  exact ⟨hanswer, hleft⟩

theorem not_applied_of_missing {intent : String} (hready : Ready env w e)
    (hdocumented : e.Documented) (hrefunded : e.type = "charge.refunded")
    (hstored : paymentOf w intent = some p) (hmissing : paymentOf w e.object.id = none) :
    ¬Applied i env w e p := by
  rintro ⟨happlied, -⟩
  obtain ⟨hanswer, -⟩ := @delivery_run i env w e hready hdocumented
  obtain ⟨body, pw', hrefresh⟩ := @refresh_succeeds i env p w.payments hready.unfailing
    hready.journal (Table.mem_of_find hstored).1
  have htransition : transition e p = refreshRefundedStatus p.id := by
    simp [transition, hrefunded]
  rw [requested_missing hready.unfailing hready.journal hmissing] at hanswer
  rw [hanswer, htransition, hrefresh] at happlied
  cases happlied

/-- An event of Stripe that is about a payment takes its effect on it just when it is not about a
refunded charge. Nothing is stored under the identifier of a charge. -/
theorem event_applied_iff {intent : String} (hready : Ready env w e) (hdocumented : e.Documented)
    (hintent : e.object.intent = some intent) (hstored : paymentOf w intent = some p)
    (hcharge : e.object.isCharge = true → paymentOf w e.object.id = none) :
    Applied i env w e p ↔ e.type ≠ "charge.refunded" := by
  obtain ⟨htype, hshape, hid⟩ := id hdocumented
  constructor
  · intro happlied hrefunded
    exact not_applied_of_missing hready hdocumented hrefunded hstored
      (hcharge (hshape.mpr hrefunded)) happlied
  · intro hother
    refine applied_of_found hready hdocumented ?_
    cases hobject : e.object with
    | charge id ofIntent =>
        rw [hobject] at hshape
        exact absurd (hshape.mp rfl) hother
    | paymentIntent id lastPaymentError =>
        rw [hobject] at hintent
        rwa [← Option.some.inj hintent] at hstored

/-! ## A refund that Stripe reports -/

/-- A payment that was captured. -/
def storedPayment : Payment where
  id := "p"
  bookingId := 1
  userId := 1
  amount := 100
  currency := "USD"
  paymentMethod := some .card
  gateway := "stripe"
  gatewayPaymentId := "pi_1"
  clientSecret := none
  correlationId := "c"
  status := .confirmed
  failureCode := none
  failureReason := none
  confirmedAt := some 5
  refundedAt := none
  metadata := []

def withPayment : World := { World.init 10 with payments.db.payments := [storedPayment] }

/-- No operation fails. -/
def steady (_ : Op) (_ : Payment.World) : Choice :=
  ⟨none, "u", ⟨"pi_1", 100, "usd", "succeeded", none, none⟩, ⟨"re_1", 100, "succeeded"⟩⟩

theorem ready_withPayment (e : StripeEvent) : Ready steady withPayment e where
  unfailing _ _ := rfl
  pending := rfl
  journal := rfl
  fresh _ h := by cases h

def failedIntent : StripeEvent := ⟨"evt_1", "payment_intent.payment_failed", .paymentIntent "pi_1" none⟩

theorem failedIntent_documented : failedIntent.Documented := by
  simp [StripeEvent.Documented, failedIntent, stripeTypes, StripeObject.isCharge, StripeObject.id]

theorem failedIntent_applied : Applied 0 steady withPayment failedIntent storedPayment := by
  have hcharge : failedIntent.object.isCharge = true → paymentOf withPayment "pi_1" = none := by
    intro h
    cases h
  exact (event_applied_iff (ready_withPayment failedIntent) failedIntent_documented rfl rfl
    hcharge).mpr (by decide)

def refundedCharge : StripeEvent := ⟨"evt_2", "charge.refunded", .charge "ch_1" (some "pi_1")⟩

/-- The refund of a charge is looked up under the identifier of the charge. -/
theorem refunded_charge_not_applied :
    ¬∀ (i : Nat) (env : Op → Payment.World → Choice) (w : World) (e : StripeEvent) (intent : String)
        (p : Payment), Ready env w e → e.Documented → e.object.intent = some intent →
      paymentOf w intent = some p → (e.object.isCharge = true → paymentOf w e.object.id = none) →
        Applied i env w e p := by
  intro h
  have hdocumented : refundedCharge.Documented := by
    simp [StripeEvent.Documented, refundedCharge, stripeTypes, StripeObject.isCharge,
      StripeObject.id]
  exact not_applied_of_missing (ready_withPayment refundedCharge) hdocumented rfl
    (show paymentOf withPayment "pi_1" = some storedPayment from rfl) rfl
    (h 0 steady withPayment refundedCharge "pi_1" storedPayment (ready_withPayment refundedCharge)
      hdocumented rfl rfl fun _ => rfl)

end FlightBookings.Payment.Webhook
