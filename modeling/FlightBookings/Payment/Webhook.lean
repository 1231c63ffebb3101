import FlightBookings.Payment.Service

/-! # Webhooks of the payment gateways

A delivery is verified, recorded in a transaction of its own under the gateway
and the identifier of its event, processed, and marked as processed. A delivery
whose event is recorded already goes on with the row that it finds.
-/

namespace FlightBookings.Payment.Webhook

open Await

/-! ## Data -/

inductive WebhookEventStatus where
  | received
  | processed
  | failed
deriving DecidableEq

/-- What a gateway verifies, with the one field of `data` that is read: the message of its
`last_payment_error`. -/
structure WebhookEvent where
  id : String
  type : String
  paymentIntentId : Option String
  lastPaymentError : Option String
deriving DecidableEq

/-- The columns of the unique index on the webhook events, which a row is found by. -/
structure EventRef where
  gateway : String
  eventId : String
deriving DecidableEq

structure WebhookEventState where
  status : WebhookEventStatus
  processedAt : Option Nat
  lastError : Option String
deriving DecidableEq

structure WebhookEventEntity extends WebhookEventState where
  ref : EventRef
  eventType : String
  gatewayPaymentId : Option String
  receivedAt : Nat
deriving DecidableEq

/-- The payment service, the committed webhook events, and the rows that open transactions have
inserted. -/
structure World where
  payments : Payment.World
  events : List WebhookEventEntity
  pending : List (Nat × WebhookEventEntity)

namespace World

def init (now : Nat) : World := ⟨.init now, [], []⟩

abbrev event (w : World) (ref : EventRef) : Option WebhookEventEntity :=
  Table.find WebhookEventEntity.ref ref w.events

/-- Another open transaction has inserted a row under the same index. -/
def blocks (w : World) (i : Nat) (ref : EventRef) : Bool :=
  w.pending.any fun entry => entry.1 ≠ i && entry.2.ref = ref

end World

/-! ## Operations -/

inductive Op where
  | payment (op : Payment.Op)
  | begin
  | findEvent (ref : EventRef)
  | insertEvent (event : WebhookEventEntity)
  | commit
  | rollback
  | reloadEvent (ref : EventRef)
  | updateEvent (ref : EventRef) (state : WebhookEventState)
deriving DecidableEq

abbrev Op.Ret : Op → Type
  | .payment op => op.Ret
  | .begin => Unit
  | .findEvent _ => Option WebhookEventEntity
  | .insertEvent _ => Unit
  | .commit => Unit
  | .rollback => Unit
  | .reloadEvent _ => Option WebhookEventEntity
  | .updateEvent _ _ => Unit

/-- What a failed rollback leaves open the database rolls back. -/
def Op.fallible : Op → Bool
  | .rollback => false
  | _ => true

/-- An operation of call `i` that succeeds, or violates the unique index, or waits for another
transaction. -/
def Op.perform (i : Nat) (choice : Choice) :
    (op : Op) → World → Option (Except Exception op.Ret × World)
  | .payment op, w =>
      (Payment.performWith i choice op w.payments).map fun result =>
        (result.1, { w with payments := result.2 })
  | .begin, w => some (.ok (), w)
  | .findEvent ref, w => some (.ok (w.event ref), w)
  | .insertEvent event, w =>
      if w.blocks i event.ref then none
      else if (w.event event.ref).isSome then some (.error constraintViolation, w)
      else some (.ok (), { w with pending := w.pending ++ [(i, event)] })
  | .commit, w =>
      some (.ok (),
        { w with
          events := w.events ++ (w.pending.filter fun entry => entry.1 = i).map Prod.snd
          pending := w.pending.filter fun entry => entry.1 ≠ i })
  | .rollback, w =>
      some (.ok (), { w with pending := w.pending.filter fun entry => entry.1 ≠ i })
  | .reloadEvent ref, w => some (.ok (w.event ref), w)
  | .updateEvent ref state, w =>
      some (.ok (),
        { w with
          events := Table.modify WebhookEventEntity.ref ref
            (fun event => { event with toWebhookEventState := state }) w.events })

def performWith (i : Nat) (choice : Choice) (op : Op) (w : World) :
    Option (Except Exception op.Ret × World) :=
  match op, choice.fails with
  | .payment op, _ => Op.perform i choice (.payment op) w
  | op, some e => if op.fallible then some (.error e, w) else op.perform i choice w
  | op, none => op.perform i choice w

/-! ## Deliveries -/

abbrev Call (α : Type) := Await.Call Op Op.Ret Exception Unit α

def payment {α : Type} (c : Payment.Call α) : Call α := c.lift Op.payment fun _ r => r

/-- `dataSource.transaction` -/
def transaction {α : Type} (body : Call α) : Call α :=
  tryCatch
    (do
      Call.await Op.begin
      let result ← body
      Call.await Op.commit
      pure result)
    fun error => do
      Call.await Op.rollback
      throw error

/-- The check of a signature; `none` stands for a payload that is not verified. -/
def verifyWebhook (gateway : Gateway) (verified : Option WebhookEvent) : Call WebhookEvent :=
  match gateway with
  | .stripe => Call.ofExcept (verified.elim (.error (.error "No signatures found")) .ok)
  | .paypal => payment (Gateway.unsupported "verifyWebhook")

/-- The row of an event, which is created when there is none. -/
def recordEvent (ref : EventRef) (event : WebhookEvent) : Call WebhookEventEntity := do
  let existing : Option WebhookEventEntity ← Call.await (Op.findEvent ref)
  match existing with
  | some existing => pure existing
  | none => do
      let now ← payment dateNow
      let created : WebhookEventEntity :=
        { ref
          eventType := event.type
          gatewayPaymentId := event.paymentIntentId
          status := .received
          receivedAt := now
          processedAt := none
          lastError := none }
      Call.await (Op.insertEvent created)
      pure created

def processWebhookEvent (gatewayName : String) (event : WebhookEvent) : Call Unit := do
  let gatewayPaymentId := orElse event.paymentIntentId ""
  if gatewayPaymentId = "" then pure ()
  else if event.type = "payment_intent.succeeded" ∨ event.type = "checkout.order.approved" then do
    let _ ← payment (confirmPaymentByGatewayId gatewayPaymentId
      (some s!"webhook:{gatewayName}:{event.id}"))
    pure ()
  else if event.type = "payment_intent.payment_failed" ∨ event.type = "checkout.order.failed" then do
    let _ ← payment (markPaymentFailedByGatewayId gatewayPaymentId
      (some (orElse event.lastPaymentError "Payment failed according to webhook event")))
    pure ()
  else if event.type = "charge.refunded" ∨ event.type = "payment.refunded" then do
    let _ ← payment (refreshRefundedStatusByGatewayId gatewayPaymentId)
    pure ()
  else pure ()

/-- `save` of a row that was found or created: it writes the columns where the row differs. -/
def saveEvent (event : WebhookEventEntity) : Call PUnit := do
  let row : Option WebhookEventEntity ← Call.await (Op.reloadEvent event.ref)
  Call.whenever (row ≠ some event)
    (Call.await (Op.updateEvent event.ref event.toWebhookEventState))

def handleWebhook (gateway : Gateway) (verified : Option WebhookEvent) : Call Unit :=
  tryCatch
    (do
      let provider ← Call.ofExcept (Gateway.getByName gateway.getGatewayName)
      let event ← verifyWebhook provider verified
      let webhookEvent ← transaction (recordEvent ⟨gateway.getGatewayName, event.id⟩ event)
      if webhookEvent.status = .processed then pure ()
      else do
        processWebhookEvent gateway.getGatewayName event
        let now ← payment dateNow
        saveEvent
          { webhookEvent with status := .processed, processedAt := some now, lastError := none })
    fun _ => throw (Exception.badRequest "Webhook verification failed")

/-! ## The service -/

/-- The deliveries of the gateways, and the other requests to the payment service. -/
inductive Request where
  | deliver (gateway : Gateway) (verified : Option WebhookEvent)
  | other (request : Payment.Request)

def Request.call : Request → Call (Option ResponseBody)
  | .deliver gateway verified => do
      handleWebhook gateway verified
      pure none
  | .other request => payment request.call

def service : System Request Op (fun op => Except Exception op.Ret) Choice
    (Except Exception (Option ResponseBody) × Unit) World where
  perform i choice op w := performWith i choice op w
  program request := request.call ()

abbrev Event := Await.Event Request Op Choice World

abbrev ServicePool :=
  Pool Op (fun op => Except Exception op.Ret) (Except Exception (Option ResponseBody) × Unit) World

end FlightBookings.Payment.Webhook
