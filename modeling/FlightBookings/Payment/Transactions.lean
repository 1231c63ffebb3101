import FlightBookings.Payment.Service

/-! # What the transactions of the payment service do

Every transaction that comes to be committed starts by claiming the idempotency
key of its request, or finds the response that is stored under it, and ends by
storing its response. The entries in between have one of five shapes.
-/

namespace FlightBookings.Payment

open Await

/-! ## The keys of a request -/

/-- The key that a request is handled under is the one it carries, if it carries one. -/
def Carries (idempotencyKey : Option String) (key : String) : Prop :=
  ∀ s, idempotencyKey = some s → s ≠ "" → key = s

def Request.Names : Request → KeyRef → Prop
  | .createPaymentIntent _ idempotencyKey, k =>
      k.scope = .createPaymentIntent ∧ Carries idempotencyKey k.idempotencyKey
  | .confirmPaymentIntent paymentId _ idempotencyKey, k =>
      k.scope = .confirmPayment paymentId ∧ Carries idempotencyKey k.idempotencyKey
  | .confirmPaymentByGatewayId _ idempotencyKey, k =>
      (∃ paymentId, k.scope = .confirmPayment paymentId) ∧
        Carries idempotencyKey k.idempotencyKey
  | .createRefund dto idempotencyKey, k =>
      k.scope = .refund dto.paymentId ∧ Carries idempotencyKey k.idempotencyKey
  | _, _ => False

/-- The requests that confirm a payment, with the gateway reference that they name. -/
def Request.Confirms : Request → Option String → Prop
  | .confirmPaymentIntent _ gatewayPaymentId _, named => named = gatewayPaymentId
  | .confirmPaymentByGatewayId gatewayPaymentId _, named => named = some gatewayPaymentId
  | _, _ => False

/-! ## Logs -/

/-- A record whose response is replayed. -/
def IdempotencyKey.Final (record : IdempotencyKey) : Prop :=
  record.status = .completed ∧ record.responseBody.isSome = true

instance (record : IdempotencyKey) : Decidable record.Final := by
  unfold IdempotencyKey.Final
  infer_instance

/-- The entries with which a transaction claims a key: it is new, or its last use has failed. -/
inductive Claim (k : KeyRef) : List Entry → Prop where
  | fresh {record : IdempotencyKey} (href : record.ref = k)
      (hprocessing : record.status = .processing) :
      Claim k [.query (.findKey k) none, .query (.insertKey record) ()]
  | kept {record : IdempotencyKey} {row : Option IdempotencyKey} (href : record.ref = k)
      (hopen : ¬record.Final) (hidle : record.status ≠ .processing) :
      Claim k [.query (.findKey k) (some record), .query (.reloadKey k) row]
  | restored {record : IdempotencyKey} {row : Option IdempotencyKey} (href : record.ref = k)
      (hopen : ¬record.Final) (hidle : record.status ≠ .processing) :
      Claim k [.query (.findKey k) (some record), .query (.reloadKey k) row,
        .query (.updateKey k record.toKeyState) ()]

def Entry.isRefund : Entry → Bool
  | .stripe (.refund _ _ _) _ => true
  | _ => false

/-- An answer of Stripe to anything but a refund. -/
def Entry.isAnswer : Entry → Bool
  | .stripe (.refund _ _ _) _ => false
  | .stripe _ _ => true
  | .query _ _ => false

/-- The answers of Stripe that a capture got, and the result that it made of them. -/
inductive Captured (gatewayPaymentId : String) : List Entry → PaymentResult → Prop where
  | retrieved {before : List Entry} {intent : StripeIntent}
      (hbefore : before.all Entry.isAnswer = true) :
      Captured gatewayPaymentId (before ++ [.stripe (.retrieve gatewayPaymentId) intent])
        (Gateway.captured intent)
  | failed {answers : List Entry} {error : Exception}
      (hanswers : answers.all Entry.isAnswer = true) :
      Captured gatewayPaymentId answers (Gateway.captureFailed gatewayPaymentId error)

/-- The answer of Stripe that a refund got, and the result that it made of it. -/
inductive Refunded (transactionId : String) (amount : Nat) (reason : Option String) :
    List Entry → RefundResult → Prop where
  | answered {refund : StripeRefund} :
      Refunded transactionId amount reason
        [.stripe (.refund transactionId amount reason) refund]
        { success := refund.status = "succeeded"
          refundId := refund.id
          amount := refund.amount
          status := refund.status
          errorMessage := none }
  | failed {error : Exception} :
      Refunded transactionId amount reason []
        { success := false
          refundId := ""
          amount
          status := "failed"
          errorMessage := some error.message }

def completedEntry (k : KeyRef) (payment : Payment) : Entry :=
  .query (.updateKey k (completedState (.payment payment) 200 none)) ()

def replayedLog (k : KeyRef) (record : IdempotencyKey) : List Entry :=
  [.query (.findKey k) (some record)]

def createdLog (k : KeyRef) (dto : CreatePaymentIntentDto) (intent : StripeIntent) (id : String) :
    List Entry :=
  [.stripe (.create dto.amount (toLowerCase (orElse dto.currency "USD")) (paymentMetadata dto))
      intent,
    .query (.insertPayment (newPayment id dto k.idempotencyKey .stripe intent)) (),
    completedEntry k (newPayment id dto k.idempotencyKey .stripe intent)]

def settledLog (k : KeyRef) (paymentId : String) (payment : Payment) : List Entry :=
  [.query (.findPayment paymentId) (some payment), completedEntry k payment]

def ledgerLog (filter : EntryFilter) (n : Nat) (entries : List LedgerEntry) : List Entry :=
  .query (.countEntries filter) n ::
    if 0 < n then [] else [.query (.insertEntries entries) ()]

abbrev Payment.after (payment : Payment) (state : PaymentState) : Payment :=
  { payment with toPaymentState := state }

def confirmedLog (k : KeyRef) (paymentId : String) (payment : Payment) (answers : List Entry)
    (result : PaymentResult) (now n : Nat) : List Entry :=
  .query (.findPayment paymentId) (some payment) :: answers ++
    .query (.updatePayment payment.id (capturedState payment result now)) () ::
    (if result.success then
      ledgerLog (.ofPayment payment.id) n
        (paymentEntries (payment.after (capturedState payment result now)) result.transactionId now)
    else []) ++
    [completedEntry k (payment.after (capturedState payment result now))]

def refundedLog (k : KeyRef) (dto : CreateRefundDto) (payment : Payment) (total : Nat)
    (answers : List Entry) (result : RefundResult) (id : String) (now n : Nat) : List Entry :=
  .query (.findPayment dto.paymentId) (some payment) :: .query (.refundTotal payment.id) total ::
    answers ++
    .query (.insertRefund (newRefund id dto payment k.idempotencyKey result now)) () ::
    (if result.success then
      .query (.updatePayment payment.id (refundedState payment (total + dto.amount) now)) () ::
      ledgerLog (.ofRefund id) n
        (refundEntries (payment.after (refundedState payment (total + dto.amount) now))
          (newRefund id dto payment k.idempotencyKey result now) now)
    else []) ++
    [.query (.updateKey k
      (completedState (.refund (newRefund id dto payment k.idempotencyKey result now))
        (if result.success then 200 else 422) (nonEmpty result.errorMessage))) ()]

/-- The transactions that a request comes to commit. -/
inductive Shape (request : Request) : List Entry → Prop where
  | replayed {k : KeyRef} {record : IdempotencyKey} (hnames : request.Names k)
      (href : record.ref = k) (hfinal : record.Final) : Shape request (replayedLog k record)
  | created {k : KeyRef} {claim : List Entry} {dto : CreatePaymentIntentDto}
      {idempotencyKey : Option String} {intent : StripeIntent} {id : String}
      (hnames : request.Names k) (hclaim : Claim k claim)
      (hrequest : request = .createPaymentIntent dto idempotencyKey) :
      Shape request (claim ++ createdLog k dto intent id)
  | settled {k : KeyRef} {claim : List Entry} {paymentId : String} {payment : Payment}
      (hnames : request.Names k) (hclaim : Claim k claim)
      (hscope : k.scope = .confirmPayment paymentId) (hid : payment.id = paymentId)
      (hsettled : payment.status.settled = true) :
      Shape request (claim ++ settledLog k paymentId payment)
  | confirmed {k : KeyRef} {claim : List Entry} {paymentId : String} {payment : Payment}
      {named : Option String} {answers : List Entry} {result : PaymentResult} {now n : Nat}
      (hnames : request.Names k) (hclaim : Claim k claim)
      (hscope : k.scope = .confirmPayment paymentId) (hid : payment.id = paymentId)
      (hunsettled : payment.status.settled = false) (hconfirms : request.Confirms named)
      (hcaptured : Captured (orElse named payment.gatewayPaymentId) answers result) :
      Shape request (claim ++ confirmedLog k paymentId payment answers result now n)
  | refunded {k : KeyRef} {claim : List Entry} {dto : CreateRefundDto}
      {idempotencyKey : Option String} {payment : Payment} {total : Nat} {answers : List Entry}
      {result : RefundResult} {id : String} {now n : Nat}
      (hnames : request.Names k) (hclaim : Claim k claim)
      (hrequest : request = .createRefund dto idempotencyKey) (hid : payment.id = dto.paymentId)
      (hrefundable : payment.status = .confirmed ∨ payment.status = .partiallyRefunded)
      (hbalance : total + dto.amount ≤ payment.amount)
      (hanswered : Refunded payment.gatewayPaymentId dto.amount dto.reason answers result) :
      Shape request (claim ++ refundedLog k dto payment total answers result id now n)

/-! ## What a call knows -/

/-- The request of a call, the rows that it read outside its transaction since it last changed any,
what its open transaction has done, its committed transaction, and the messages of it that the
broker accepted and that it did not. -/
structure CallLog where
  request : Request
  seen : List Entry
  pending : List Entry
  committed : Option (List Entry)
  sent : List PaymentCompleted
  undelivered : List PaymentCompleted

def CallLog.start (request : Request) : CallLog := ⟨request, [], [], none, [], []⟩

def Query.isRead : Query → Bool
  | .findKey _ => true
  | .reloadKey _ => true
  | .findPayment _ => true
  | .findPaymentByGatewayId _ => true
  | .refundTotal _ => true
  | .countEntries _ => true
  | _ => false

def advance : (op : Op) → Except Exception op.Ret → CallLog → CallLog
  | .sql q, .ok reply, t => { t with pending := t.pending ++ [.query q reply] }
  | .stripe op, .ok reply, t => { t with pending := t.pending ++ [.stripe op reply] }
  | .commit, .ok _, t => { t with seen := [], pending := [], committed := some t.pending }
  | .rollback, .ok _, t => { t with pending := [] }
  | .auto q, .ok reply, t =>
      { t with seen := if q.isRead then t.seen ++ [.query q reply] else [] }
  | .publish message, .ok _, t => { t with sent := t.sent ++ [message] }
  | .publish message, .error _, t => { t with undelivered := t.undelivered ++ [message] }
  | _, _, t => t

/-- A message that announces the capture of a transaction. -/
inductive Announces (request : Request) : List Entry → PaymentCompleted → Prop where
  | confirmed {k : KeyRef} {claim : List Entry} {paymentId : String} {payment : Payment}
      {answers : List Entry} {result : PaymentResult} {now n : Nat} {reference : String}
      (hnames : request.Names k) (hclaim : Claim k claim)
      (hscope : k.scope = .confirmPayment paymentId) (hid : payment.id = paymentId)
      (hsuccess : result.success = true)
      (hreference : getBookingReference (payment.after (capturedState payment result now)) =
        some reference) :
      Announces request (claim ++ confirmedLog k paymentId payment answers result now n)
        (paymentCompleted (payment.after (capturedState payment result now)) result.transactionId
          reference)

/-- The two changes of a payment outside a transaction: a failure that a webhook reports, and the
status that its refunds give it. -/
inductive Reported (seen : List Entry) : String → PaymentState → Prop where
  | failed {gatewayPaymentId : String} {reason : Option String} {payment : Payment}
      (hfound : .query (.findPaymentByGatewayId gatewayPaymentId) (some payment) ∈ seen) :
      Reported seen payment.id
        { payment.toPaymentState with
          status := .failed
          failureReason := some (orElse reason "Payment failed according to gateway webhook") }
  | refunded {paymentId : String} {payment : Payment} {total now : Nat}
      (hfound : .query (.findPayment paymentId) (some payment) ∈ seen)
      (hid : payment.id = paymentId)
      (htotal : .query (.refundTotal paymentId) total ∈ seen) (hpositive : 0 < total) :
      Reported seen payment.id (refundedState payment total now)

/-- What a call may do with what it knows. -/
def Op.Legal : Op → CallLog → Prop
  | .begin, t => t.pending = [] ∧ t.committed = none
  | .sql (.findKey k), t => t.pending = [] ∧ t.request.Names k
  | .sql (.insertKey record), t =>
      t.pending = [.query (.findKey record.ref) none] ∧ record.status = .processing
  | .sql (.findPayment _), t => ∃ k, Claim k t.pending
  | .sql (.countEntries (.ofPayment id)), t =>
      (∃ state, .query (.updatePayment id state) () ∈ t.pending) ∧
        ∀ entries, .query (.insertEntries entries) () ∉ t.pending
  | .stripe _, t => ∃ k claim rest, t.request.Names k ∧ Claim k claim ∧
      t.pending = claim ++ rest ∧ ∀ entry ∈ rest, entry.isRefund = false
  | .commit, t => Shape t.request t.pending ∧ t.committed = none
  | .auto (.updateKey _ state), t => t.pending = [] ∧ state.status = .failed
  | .auto (.updatePayment id state), t => t.pending = [] ∧ Reported t.seen id state
  | .auto (.findKey _), t => t.pending = []
  | .auto (.findPayment _), t => t.pending = []
  | .auto (.findPaymentByGatewayId _), t => t.pending = []
  | .auto (.refundTotal _), t => t.pending = []
  | .auto _, _ => False
  | .publish message, t =>
      t.pending = [] ∧ ∃ log, t.committed = some log ∧ Announces t.request log message
  | _, _ => True

/-- A row is found under the key that it was looked up with. -/
def Query.Answers : (q : Query) → q.Ret → Prop
  | .findKey k, found => ∀ record : IdempotencyKey, found = some record → record.ref = k
  | .findPayment id, found => ∀ payment : Payment, found = some payment → payment.id = id
  | _, _ => True

def Op.Replies : (op : Op) → Except Exception op.Ret → Prop
  | .sql q, .ok reply => q.Answers reply
  | .auto q, .ok reply => q.Answers reply
  | .rollback, .error _ => False
  | _, _ => True

/-- What a confirmation that resolves has to show for its response. -/
inductive Outcome (sent : List PaymentCompleted) : List Entry → ResponseBody → Prop where
  | replayed {k : KeyRef} {record : IdempotencyKey} {body : ResponseBody}
      (hfinal : record.Final) (hbody : record.responseBody = some body) :
      Outcome sent (replayedLog k record) body
  | settled {k : KeyRef} {claim : List Entry} {paymentId : String} {payment : Payment}
      (hclaim : Claim k claim) (hid : payment.id = paymentId)
      (hsettled : payment.status.settled = true) :
      Outcome sent (claim ++ settledLog k paymentId payment) (.payment payment)
  | confirmed {k : KeyRef} {claim : List Entry} {paymentId : String} {payment : Payment}
      {answers : List Entry} {result : PaymentResult} {now n : Nat}
      (hclaim : Claim k claim) (hid : payment.id = paymentId)
      (hsent : ∀ reference, result.success = true →
        getBookingReference (payment.after (capturedState payment result now)) = some reference →
        paymentCompleted (payment.after (capturedState payment result now)) result.transactionId
          reference ∈ sent) :
      Outcome sent (claim ++ confirmedLog k paymentId payment answers result now n)
        (.payment (payment.after (capturedState payment result now)))

/-- What a call knows when it is done. -/
structure Resolved (r : Except Exception (Option ResponseBody)) (t : CallLog) : Prop where
  closed : t.pending = []
  concludes : ∀ named body, t.request.Confirms named → r = .ok (some body) →
    ∃ log, t.committed = some log ∧ Outcome t.sent log body
  announces : ∀ named log, t.request.Confirms named → t.committed = some log →
    t.undelivered = [] → ∃ body, Outcome t.sent log body

end FlightBookings.Payment
