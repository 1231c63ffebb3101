import FlightBookings.Await.Pool
import FlightBookings.Payment.Gateway

/-! # The payment service

Payment intents, their confirmation, refunds, and the transitions that webhooks
ask for. Every request that changes money claims an idempotency key inside its
transaction and completes it there; when the request fails, its key is marked
as failed outside of it.
-/

namespace FlightBookings.Payment

open Await

/-! ## Transactions -/

def sql (q : Query) : Call q.Ret := Call.await (Op.sql q)

def auto (q : Query) : Call q.Ret := Call.await (Op.auto q)

def dateNow : Call Nat := Call.await Op.dateNow

def uuid : Call String := Call.await Op.uuid

/-- `dataSource.transaction` -/
def transaction {α : Type} (body : Call α) : Call α :=
  tryCatch
    (do
      Call.await Op.begin
      let result ← body
      Call.await Op.commit
      pure result)
    fun error => do
      Call.await Op.rollback
      throw error

/-! ## Idempotency keys -/

/-- `idempotencyKey || randomUUID()` -/
def safeKeyOf (idempotencyKey : Option String) : Call String :=
  match idempotencyKey with
  | some key => if key = "" then uuid else pure key
  | none => uuid

def newKey (k : KeyRef) (requestHash : Payload) : IdempotencyKey where
  ref := k
  requestHash := requestHash
  status := .processing
  resourceType := none
  resourceId := none
  responseCode := none
  responseBody := none
  lastError := none

/-- `save` of a record that was found: it writes the columns of the record where the row has
changed since. -/
def saveFound (record : IdempotencyKey) : Call PUnit := do
  let row : Option IdempotencyKey ← sql (.reloadKey record.ref)
  Call.whenever (row ≠ some record) (sql (.updateKey record.ref record.toKeyState))

/-- The response stored under a key, or the key claimed for the request. `reused` and
`processing` are the texts for a key that was used for something else and for one in use. -/
def claimIdempotency (k : KeyRef) (requestHash : Payload) (reused processing : String) :
    Call (Option ResponseBody) := do
  let existing : Option IdempotencyKey ← sql (.findKey k)
  match existing with
  | some record =>
      if record.requestHash ≠ requestHash then throw (Exception.conflict reused)
      else if record.status = .completed ∧ record.responseBody.isSome then
        pure record.responseBody
      else if record.status = .processing then throw (Exception.conflict processing)
      else do
        saveFound record
        pure none
  | none => do
      sql (.insertKey (newKey k requestHash))
      pure none

def ResponseBody.id : ResponseBody → String
  | .payment p => p.id
  | .refund r => r.id

def ResponseBody.resourceType : ResponseBody → String
  | .payment _ => "payment"
  | .refund _ => "refund"

def completedState (body : ResponseBody) (responseCode : Nat) (lastError : Option String) :
    KeyState where
  status := .completed
  resourceType := some body.resourceType
  resourceId := some body.id
  responseCode := some responseCode
  responseBody := some body
  lastError := lastError

def completeIdempotency (k : KeyRef) (payment : Payment) : Call Unit :=
  sql (.updateKey k (completedState (.payment payment) 200 none))

def failedState (record : IdempotencyKey) (error : Exception) : KeyState :=
  { record.toKeyState with
    status := .failed
    lastError := some error.message
    responseCode := some 500 }

def markIdempotencyAsFailed (k : KeyRef) (error : Exception) : Call Unit := do
  let record : Option IdempotencyKey ← auto (.findKey k)
  match record with
  | none => pure ()
  | some record => auto (.updateKey k (failedState record error))

def markingFailed {α : Type} (k : KeyRef) (body : Call α) : Call α :=
  tryCatch body fun error => do
    markIdempotencyAsFailed k error
    throw error

def paymentReused (safeKey : String) : String :=
  s!"Idempotency key {safeKey} was reused with a different payload"

def paymentProcessing (safeKey : String) : String :=
  s!"Request with idempotency key {safeKey} is already processing"

def refundReused (safeKey : String) : String :=
  s!"Idempotency key {safeKey} was reused with a different refund request"

def refundProcessing (safeKey : String) : String :=
  s!"Refund request with idempotency key {safeKey} is already processing"

/-! ## Payment intents -/

def mapGatewayIntentStatus (status : String) : PaymentStatus :=
  if status = "succeeded" then .confirmed
  else if status.startsWith "requires_" then .requiresAction
  else if status = "processing" then .processing
  else .pending

def paymentMetadata (dto : CreatePaymentIntentDto) : Metadata :=
  let metadata := dto.metadata.getD []
  match dto.bookingReference with
  | some reference =>
      if reference = "" then metadata else metadata.set "bookingReference" (.text reference)
  | none => metadata

def newPayment (id : String) (dto : CreatePaymentIntentDto) (safeKey : String)
    (gateway : Gateway) (intent : StripeIntent) : Payment where
  id := id
  bookingId := dto.bookingId
  userId := dto.userId
  amount := dto.amount
  currency := toUpperCase (orElse dto.currency "USD")
  paymentMethod := dto.paymentMethod
  gateway := gateway.getGatewayName
  gatewayPaymentId := intent.id
  status := mapGatewayIntentStatus intent.status
  clientSecret := intent.clientSecret
  correlationId := safeKey
  failureCode := none
  failureReason := none
  confirmedAt := none
  refundedAt := none
  metadata := (paymentMetadata dto).set "gatewayIntentId" (.text intent.id)

def createPaymentIntentBody (dto : CreatePaymentIntentDto) (safeKey : String)
    (gateway : Gateway) : Call ResponseBody := do
  let k : KeyRef := ⟨.createPaymentIntent, safeKey⟩
  let existing ← claimIdempotency k (.createPaymentIntent dto) (paymentReused safeKey)
    (paymentProcessing safeKey)
  match existing with
  | some response => pure response
  | none => do
      let intent ← gateway.createPaymentIntent dto.amount (orElse dto.currency "USD")
        (paymentMetadata dto)
      let id ← uuid
      let payment := newPayment id dto safeKey gateway intent
      sql (.insertPayment payment)
      completeIdempotency k payment
      pure (.payment payment)

def createPaymentIntent (dto : CreatePaymentIntentDto) (idempotencyKey : Option String) :
    Call ResponseBody := do
  let safeKey ← safeKeyOf idempotencyKey
  let gateway ← Call.ofExcept (Gateway.resolve dto.paymentMethod dto.gatewayOverride)
  markingFailed ⟨.createPaymentIntent, safeKey⟩
    (transaction (createPaymentIntentBody dto safeKey gateway))

/-! ## Confirmation -/

def PaymentStatus.settled : PaymentStatus → Bool
  | .confirmed => true
  | .partiallyRefunded => true
  | .refunded => true
  | _ => false

def paymentNotFound (paymentId : String) : Exception :=
  .notFound s!"Payment {paymentId} not found"

/-- `value || null` -/
def nonEmpty (value : Option String) : Option String :=
  match value with
  | some s => if s = "" then none else some s
  | none => none

/-- The columns of a payment after its capture. -/
def capturedState (payment : Payment) (result : PaymentResult) (now : Nat) : PaymentState where
  status := if result.success then .confirmed else .failed
  failureCode := nonEmpty result.failureCode
  failureReason := nonEmpty result.errorMessage
  confirmedAt := if result.success then some now else payment.confirmedAt
  refundedAt := payment.refundedAt
  metadata := payment.metadata.set "lastConfirmationResult"
    (.confirmation result.status result.transactionId)

def paymentEntry (payment : Payment) (referenceId : String) (occurredAt : Nat)
    (accountCode : String) (direction : LedgerDirection) (description : String) : LedgerEntry where
  paymentId := payment.id
  refundId := none
  bookingId := payment.bookingId
  accountCode := accountCode
  entryType := .payment
  direction := direction
  amount := payment.amount
  currency := payment.currency
  referenceType := "payment"
  referenceId := referenceId
  description := description
  occurredAt := occurredAt
  gateway := payment.gateway

def paymentEntries (payment : Payment) (referenceId : String) (occurredAt : Nat) :
    List LedgerEntry :=
  [paymentEntry payment referenceId occurredAt "asset:gateway_clearing" .debit
      "Customer payment captured",
    paymentEntry payment referenceId occurredAt "liability:customer_funds" .credit
      "Customer funds liability recorded"]

/-- `time || new Date()` -/
def orNow (time : Option Nat) : Call Nat :=
  match time with
  | some time => pure time
  | none => dateNow

def createPaymentLedgerEntries (payment : Payment) (referenceId : String) : Call PUnit := do
  let existing : Nat ← sql (.countEntries (.ofPayment payment.id))
  if 0 < existing then pure ⟨⟩
  else do
    let occurredAt ← orNow payment.confirmedAt
    sql (.insertEntries (paymentEntries payment referenceId occurredAt))

/-- The response, and the payment with its transaction when this call captured it. -/
def confirmPaymentIntentBody (paymentId : String) (gatewayPaymentId : Option String)
    (safeKey : String) : Call (ResponseBody × Option (Payment × String)) := do
  let k : KeyRef := ⟨.confirmPayment paymentId, safeKey⟩
  let existing ← claimIdempotency k (.confirmPayment paymentId gatewayPaymentId)
    (paymentReused safeKey) (paymentProcessing safeKey)
  match existing with
  | some response => pure (response, none)
  | none => do
      let found : Option Payment ← sql (.findPayment paymentId)
      match found with
      | none => throw (paymentNotFound paymentId)
      | some payment =>
          if payment.status.settled then do
            completeIdempotency k payment
            pure (.payment payment, none)
          else do
            let gateway ← Call.ofExcept (Gateway.getByName payment.gateway)
            let result ← gateway.capturePayment (orElse gatewayPaymentId payment.gatewayPaymentId)
            let now ← dateNow
            let saved := { payment with toPaymentState := capturedState payment result now }
            sql (.updatePayment payment.id saved.toPaymentState)
            Call.whenever (result.success = true)
              (createPaymentLedgerEntries saved result.transactionId)
            completeIdempotency k saved
            pure (.payment saved,
              if result.success then some (saved, result.transactionId) else none)

def getBookingReference (payment : Payment) : Option String :=
  match payment.metadata.get "bookingReference" with
  | some (.text reference) => if trim reference = "" then none else some reference
  | _ => none

def lastTransactionId (payment : Payment) : Option String :=
  match payment.metadata.get "lastConfirmationResult" with
  | some (.confirmation _ transactionId) => some transactionId
  | _ => none

def paymentCompleted (payment : Payment) (gatewayTransactionId bookingReference : String) :
    PaymentCompleted where
  paymentId := payment.id
  bookingId := payment.bookingId
  bookingReference := bookingReference
  userId := payment.userId
  amount := payment.amount
  currency := payment.currency
  gateway := payment.gateway
  gatewayPaymentId := payment.gatewayPaymentId
  gatewayTransactionId :=
    if gatewayTransactionId = "" then lastTransactionId payment else some gatewayTransactionId
  status := payment.status
  confirmedAt := payment.confirmedAt

def publishPaymentCompletedEvent (payment : Payment) (gatewayTransactionId : String) : Call Unit :=
  match getBookingReference payment with
  | none => pure ()
  | some reference =>
      Call.await (Op.publish (paymentCompleted payment gatewayTransactionId reference))

def confirmPaymentIntent (paymentId : String) (gatewayPaymentId idempotencyKey : Option String) :
    Call ResponseBody := do
  let safeKey ← safeKeyOf idempotencyKey
  markingFailed ⟨.confirmPayment paymentId, safeKey⟩ do
    let (response, confirmed) ←
      transaction (confirmPaymentIntentBody paymentId gatewayPaymentId safeKey)
    match confirmed with
    | some (payment, transactionId) => publishPaymentCompletedEvent payment transactionId
    | none => pure ()
    pure response

def paymentNotFoundByGatewayId (gatewayPaymentId : String) : Exception :=
  .notFound s!"Payment for gateway reference {gatewayPaymentId} not found"

def findByGatewayId (gatewayPaymentId : String) : Call Payment := do
  let found : Option Payment ← auto (.findPaymentByGatewayId gatewayPaymentId)
  match found with
  | none => throw (paymentNotFoundByGatewayId gatewayPaymentId)
  | some payment => pure payment

def confirmPaymentByGatewayId (gatewayPaymentId : String) (idempotencyKey : Option String) :
    Call ResponseBody := do
  let payment ← findByGatewayId gatewayPaymentId
  confirmPaymentIntent payment.id (some gatewayPaymentId) idempotencyKey

def markPaymentFailedByGatewayId (gatewayPaymentId : String) (reason : Option String) :
    Call ResponseBody := do
  let payment ← findByGatewayId gatewayPaymentId
  let saved : Payment :=
    { payment with
      status := .failed
      failureReason := some (orElse reason "Payment failed according to gateway webhook") }
  auto (.updatePayment payment.id saved.toPaymentState)
  pure (.payment saved)

/-- The columns of a payment of which `total` is refunded. -/
def refundedState (payment : Payment) (total now : Nat) : PaymentState :=
  { payment.toPaymentState with
    status := if payment.amount ≤ total then .refunded else .partiallyRefunded
    refundedAt := if payment.amount ≤ total then some now else none }

def refreshRefundedStatus (paymentId : String) : Call ResponseBody := do
  let found : Option Payment ← auto (.findPayment paymentId)
  match found with
  | none => throw (paymentNotFound paymentId)
  | some payment => do
      let refundedAmount : Nat ← auto (.refundTotal paymentId)
      if refundedAmount = 0 then pure (.payment payment)
      else do
        let now ← dateNow
        let saved := { payment with toPaymentState := refundedState payment refundedAmount now }
        auto (.updatePayment payment.id saved.toPaymentState)
        pure (.payment saved)

def refreshRefundedStatusByGatewayId (gatewayPaymentId : String) : Call ResponseBody := do
  let payment ← findByGatewayId gatewayPaymentId
  refreshRefundedStatus payment.id

/-! ## Refunds -/

def notRefundable (paymentId : String) : Exception :=
  .badRequest s!"Payment {paymentId} is not in a refundable state"

def exceedsBalance (amount : Nat) (refundableAmount : Int) : Exception :=
  .badRequest s!"Refund amount ({amount}) exceeds refundable balance ({refundableAmount})"

def newRefund (id : String) (dto : CreateRefundDto) (payment : Payment) (safeKey : String)
    (result : RefundResult) (now : Nat) : Refund where
  id := id
  paymentId := payment.id
  bookingId := dto.bookingId
  amount := dto.amount
  reason := dto.reason
  idempotencyKey := safeKey
  status := if result.success then .succeeded else .failed
  gatewayRefundId := nonEmpty (some result.refundId)
  failureReason := nonEmpty result.errorMessage
  processedAt := if result.success then some now else none

def refundEntry (payment : Payment) (refund : Refund) (occurredAt : Nat) (accountCode : String)
    (direction : LedgerDirection) (description : String) : LedgerEntry where
  paymentId := payment.id
  refundId := some refund.id
  bookingId := refund.bookingId
  accountCode := accountCode
  entryType := .refund
  direction := direction
  amount := refund.amount
  currency := payment.currency
  referenceType := "refund"
  referenceId := orElse refund.gatewayRefundId refund.id
  description := description
  occurredAt := occurredAt
  gateway := payment.gateway

def refundEntries (payment : Payment) (refund : Refund) (occurredAt : Nat) : List LedgerEntry :=
  [refundEntry payment refund occurredAt "liability:customer_funds" .debit
      "Customer liability reduced for refund",
    refundEntry payment refund occurredAt "asset:gateway_clearing" .credit
      "Cash movement recorded for refund"]

def createRefundLedgerEntries (payment : Payment) (refund : Refund) : Call PUnit := do
  let existing : Nat ← sql (.countEntries (.ofRefund refund.id))
  if 0 < existing then pure ⟨⟩
  else do
    let occurredAt ← orNow refund.processedAt
    sql (.insertEntries (refundEntries payment refund occurredAt))

def createRefundBody (dto : CreateRefundDto) (safeKey : String) : Call ResponseBody := do
  let k : KeyRef := ⟨.refund dto.paymentId, safeKey⟩
  let existing ← claimIdempotency k (.refund dto) (refundReused safeKey) (refundProcessing safeKey)
  match existing with
  | some response => pure response
  | none => do
      let found : Option Payment ← sql (.findPayment dto.paymentId)
      match found with
      | none => throw (paymentNotFound dto.paymentId)
      | some payment =>
          if payment.status ≠ .confirmed ∧ payment.status ≠ .partiallyRefunded then
            throw (notRefundable payment.id)
          else do
            let alreadyRefunded : Nat ← sql (.refundTotal payment.id)
            let refundableAmount : Int := (payment.amount : Int) - alreadyRefunded
            if refundableAmount < dto.amount then
              throw (exceedsBalance dto.amount refundableAmount)
            else do
              let gateway ← Call.ofExcept (Gateway.getByName payment.gateway)
              let result ← gateway.refundPayment payment.gatewayPaymentId dto.amount dto.reason
              let id ← uuid
              let now ← dateNow
              let refund := newRefund id dto payment safeKey result now
              sql (.insertRefund refund)
              Call.whenever (result.success = true) do
                let saved :=
                  { payment with
                    toPaymentState := refundedState payment (alreadyRefunded + dto.amount) now }
                sql (.updatePayment payment.id saved.toPaymentState)
                createRefundLedgerEntries saved refund
              sql (.updateKey k (completedState (.refund refund)
                (if result.success then 200 else 422) (nonEmpty result.errorMessage)))
              pure (.refund refund)

def createRefund (dto : CreateRefundDto) (idempotencyKey : Option String) :
    Call ResponseBody := do
  let safeKey ← safeKeyOf idempotencyKey
  markingFailed ⟨.refund dto.paymentId, safeKey⟩ (transaction (createRefundBody dto safeKey))

/-! ## The service -/

inductive Request where
  | createPaymentIntent (dto : CreatePaymentIntentDto) (idempotencyKey : Option String)
  | confirmPaymentIntent (paymentId : String) (gatewayPaymentId idempotencyKey : Option String)
  | confirmPaymentByGatewayId (gatewayPaymentId : String) (idempotencyKey : Option String)
  | markPaymentFailedByGatewayId (gatewayPaymentId : String) (reason : Option String)
  | refreshRefundedStatus (paymentId : String)
  | refreshRefundedStatusByGatewayId (gatewayPaymentId : String)
  | createRefund (dto : CreateRefundDto) (idempotencyKey : Option String)
  | wait (ms : Nat)

def responding (c : Call ResponseBody) : Call (Option ResponseBody) := do
  let response ← c
  pure (some response)

def Request.call : Request → Call (Option ResponseBody)
  | .createPaymentIntent dto key => responding (Payment.createPaymentIntent dto key)
  | .confirmPaymentIntent id gatewayPaymentId key =>
      responding (Payment.confirmPaymentIntent id gatewayPaymentId key)
  | .confirmPaymentByGatewayId gatewayPaymentId key =>
      responding (Payment.confirmPaymentByGatewayId gatewayPaymentId key)
  | .markPaymentFailedByGatewayId gatewayPaymentId reason =>
      responding (Payment.markPaymentFailedByGatewayId gatewayPaymentId reason)
  | .refreshRefundedStatus id => responding (Payment.refreshRefundedStatus id)
  | .refreshRefundedStatusByGatewayId gatewayPaymentId =>
      responding (Payment.refreshRefundedStatusByGatewayId gatewayPaymentId)
  | .createRefund dto key => responding (Payment.createRefund dto key)
  | .wait ms => do
      Call.await (Op.wait ms)
      pure none

def service : System Request Op (fun op => Except Exception op.Ret) Choice
    (Except Exception (Option ResponseBody) × Unit) World where
  perform i choice op w := performWith i choice op w
  program request := request.call ()

abbrev Event := Await.Event Request Op Choice World

abbrev ServicePool :=
  Pool Op (fun op => Except Exception op.Ret) (Except Exception (Option ResponseBody) × Unit) World

/-- The next `n` operations of a call succeed, and Stripe reports this payment intent, and the
refund of the call with the same status. -/
def answered (call : Nat) (name : String) (intent : StripeIntent) (n : Nat) :
    List (Move Request Choice) :=
  (List.range n).map fun k => .run call
    { fails := none
      uuid := s!"{name}{k}"
      intent := intent
      refund := ⟨s!"re-{name}", 100, intent.status⟩ }

def succeeds (call : Nat) (name status : String) (n : Nat) : List (Move Request Choice) :=
  answered call name ⟨"pi", 100, "usd", status, none, none⟩ n

/-- The next operation of a call fails. -/
def failing (call : Nat) : Move Request Choice :=
  .run call
    { fails := some (.error "connection lost")
      uuid := ""
      intent := ⟨"", 0, "", "", none, none⟩
      refund := ⟨"", 0, ""⟩ }

def fare : CreatePaymentIntentDto :=
  { bookingId := 1, bookingReference := some "BK-1", userId := 2, amount := 100
    positive := by decide }

/-- A payment that is created. Its identifier is `a4`. -/
def created : List (Move Request Choice) :=
  .start (.createPaymentIntent fare (some "k")) :: succeeds 0 "a" "requires_confirmation" 8

/-- The payment is confirmed by the client. -/
def confirmed : List (Move Request Choice) :=
  created ++ .start (.confirmPaymentIntent "a4" none (some "c")) :: succeeds 1 "b" "succeeded" 13

def partRefund : CreateRefundDto :=
  { paymentId := "a4", bookingId := 1, amount := 60, positive := by decide }

/-- A part of the payment is refunded. -/
def partlyRefunded : List (Move Request Choice) :=
  confirmed ++ .start (.createRefund partRefund (some "r")) :: succeeds 2 "c" "succeeded" 14

end FlightBookings.Payment
