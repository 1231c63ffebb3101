import Mathlib.Algebra.GroupWithZero.Nat
import Mathlib.Algebra.Ring.Int.Defs
import FlightBookings.Common
import FlightBookings.Await.Program
import FlightBookings.Store.Journal
import FlightBookings.Store.Table

/-! # The database of the payment service

The rows that payments, refunds and their idempotency keys are stored in, and
the statements that read and change them. What an open transaction does stays in
a journal: its statements see the committed rows and its own, and take effect
when it commits.
-/

namespace FlightBookings.Payment

inductive PaymentStatus where
  | pending
  | requiresAction
  | processing
  | confirmed
  | failed
  | partiallyRefunded
  | refunded
  | canceled
deriving DecidableEq

inductive RefundStatus where
  | pending
  | processing
  | succeeded
  | failed
  | canceled
deriving DecidableEq

inductive IdempotencyKeyStatus where
  | processing
  | completed
  | failed
deriving DecidableEq

inductive LedgerEntryType where
  | payment
  | refund
deriving DecidableEq

inductive LedgerDirection where
  | debit
  | credit
deriving DecidableEq

inductive PaymentMethod where
  | card
  | applePay
  | googlePay
  | paypal
  | crypto
deriving DecidableEq

/-! ## Metadata -/

/-- The values of a payment's metadata: the two kinds that the service reads back, and any
other JSON. -/
inductive MetadataValue where
  | text (value : String)
  | confirmation (status transactionId : String)
  | json (value : String)
deriving DecidableEq

abbrev Metadata := List (String × MetadataValue)

namespace Metadata

def get (key : String) (metadata : Metadata) : Option MetadataValue := metadata.lookup key

/-- `{ ...metadata, [key]: value }` -/
def set (key : String) (value : MetadataValue) (metadata : Metadata) : Metadata :=
  metadata.filter (fun entry => entry.1 ≠ key) ++ [(key, value)]

end Metadata

/-! ## Requests -/

structure CreatePaymentIntentDto where
  bookingId : Int
  bookingReference : Option String := none
  userId : Int
  amount : Nat
  currency : Option String := some "USD"
  paymentMethod : Option PaymentMethod := some .card
  gatewayOverride : Option String := none
  metadata : Option Metadata := none
  positive : 0 < amount
deriving DecidableEq

structure CreateRefundDto where
  paymentId : String
  bookingId : Int
  amount : Nat
  reason : Option String := none
  positive : 0 < amount
deriving DecidableEq

/-- What `requestHash` is computed from. Two payloads have the same hash when they are equal. -/
inductive Payload where
  | createPaymentIntent (dto : CreatePaymentIntentDto)
  | confirmPayment (paymentId : String) (gatewayPaymentId : Option String)
  | refund (dto : CreateRefundDto)
deriving DecidableEq

/-! ## Rows -/

/-- The columns of a payment that change after its creation. -/
structure PaymentState where
  status : PaymentStatus
  failureCode : Option String
  failureReason : Option String
  confirmedAt : Option Nat
  refundedAt : Option Nat
  metadata : Metadata
deriving DecidableEq

structure Payment extends PaymentState where
  id : String
  bookingId : Int
  userId : Int
  amount : Nat
  currency : String
  paymentMethod : Option PaymentMethod
  gateway : String
  gatewayPaymentId : String
  clientSecret : Option String
  correlationId : String
deriving DecidableEq

structure Refund where
  id : String
  paymentId : String
  bookingId : Int
  amount : Nat
  reason : Option String
  idempotencyKey : String
  status : RefundStatus
  gatewayRefundId : Option String
  failureReason : Option String
  processedAt : Option Nat
deriving DecidableEq

structure LedgerEntry where
  paymentId : String
  refundId : Option String
  bookingId : Int
  accountCode : String
  entryType : LedgerEntryType
  direction : LedgerDirection
  amount : Nat
  currency : String
  referenceType : String
  referenceId : String
  description : String
  occurredAt : Nat
  gateway : String
deriving DecidableEq

/-- The operation that an idempotency key is for. -/
inductive Scope where
  | createPaymentIntent
  | confirmPayment (paymentId : String)
  | refund (paymentId : String)
deriving DecidableEq

/-- The columns of the unique index on the idempotency keys, which a record is found by. -/
structure KeyRef where
  scope : Scope
  idempotencyKey : String
deriving DecidableEq

/-- The entity that a request created, as its response holds it. -/
inductive ResponseBody where
  | payment (payment : Payment)
  | refund (refund : Refund)
deriving DecidableEq

/-- The columns of an idempotency key that change after its creation. -/
structure KeyState where
  status : IdempotencyKeyStatus
  resourceType : Option String
  resourceId : Option String
  responseCode : Option Nat
  responseBody : Option ResponseBody
  lastError : Option String
deriving DecidableEq

structure IdempotencyKey extends KeyState where
  ref : KeyRef
  requestHash : Payload
deriving DecidableEq

/-- The committed rows. -/
structure Database where
  payments : List Payment
  refunds : List Refund
  ledger : List LedgerEntry
  keys : List IdempotencyKey
deriving DecidableEq

namespace Database

def empty : Database := ⟨[], [], [], []⟩

abbrev payment (db : Database) (id : String) : Option Payment := Table.find Payment.id id db.payments

abbrev key (db : Database) (k : KeyRef) : Option IdempotencyKey :=
  Table.find IdempotencyKey.ref k db.keys

/-- `SUM(refunds.amount)` over the refunds of a payment that succeeded. -/
def refunded (db : Database) (paymentId : String) : Nat :=
  ((db.refunds.filter fun r => r.paymentId = paymentId && r.status = .succeeded).map
    Refund.amount).sum

end Database

/-! ## Statements -/

/-- The two conditions under which ledger entries are counted before new ones are stored. -/
inductive EntryFilter where
  | ofPayment (paymentId : String)
  | ofRefund (refundId : String)
deriving DecidableEq

def EntryFilter.selects : EntryFilter → LedgerEntry → Bool
  | .ofPayment id, entry => entry.paymentId = id && entry.entryType = .payment
  | .ofRefund id, entry => entry.refundId = some id && entry.entryType = .refund

inductive Query where
  | findKey (k : KeyRef)
  | reloadKey (k : KeyRef)
  | findPayment (id : String)
  | findPaymentByGatewayId (gatewayPaymentId : String)
  | refundTotal (paymentId : String)
  | countEntries (filter : EntryFilter)
  | insertKey (record : IdempotencyKey)
  | updateKey (k : KeyRef) (state : KeyState)
  | insertPayment (payment : Payment)
  | updatePayment (id : String) (state : PaymentState)
  | insertRefund (refund : Refund)
  | insertEntries (entries : List LedgerEntry)
deriving DecidableEq

namespace Query

abbrev Ret : Query → Type
  | .findKey _ => Option IdempotencyKey
  | .reloadKey _ => Option IdempotencyKey
  | .findPayment _ => Option Payment
  | .findPaymentByGatewayId _ => Option Payment
  | .refundTotal _ => Nat
  | .countEntries _ => Nat
  | .insertKey _ => Unit
  | .updateKey _ _ => Unit
  | .insertPayment _ => Unit
  | .updatePayment _ _ => Unit
  | .insertRefund _ => Unit
  | .insertEntries _ => Unit

def read : (q : Query) → Database → q.Ret
  | .findKey k, db => db.key k
  | .reloadKey k, db => db.key k
  | .findPayment id, db => db.payment id
  | .findPaymentByGatewayId gatewayPaymentId, db =>
      Table.find Payment.gatewayPaymentId gatewayPaymentId db.payments
  | .refundTotal paymentId, db => db.refunded paymentId
  | .countEntries filter, db => db.ledger.countP filter.selects
  | .insertKey _, _ => ()
  | .updateKey _ _, _ => ()
  | .insertPayment _, _ => ()
  | .updatePayment _ _, _ => ()
  | .insertRefund _, _ => ()
  | .insertEntries _, _ => ()

def write : Query → Database → Database
  | .insertKey record, db => { db with keys := db.keys ++ [record] }
  | .updateKey k state, db =>
      { db with
        keys := Table.modify IdempotencyKey.ref k (fun r => { r with toKeyState := state }) db.keys }
  | .insertPayment p, db => { db with payments := db.payments ++ [p] }
  | .updatePayment id state, db =>
      { db with
        payments :=
          Table.modify Payment.id id (fun p => { p with toPaymentState := state }) db.payments }
  | .insertRefund r, db => { db with refunds := db.refunds ++ [r] }
  | .insertEntries entries, db => { db with ledger := db.ledger ++ entries }
  | _, db => db

/-- The unique indexes, and the columns that may not be null. -/
def violates : Query → Database → Bool
  | .insertKey record, db => (db.key record.ref).isSome
  | .insertPayment p, db =>
      p.paymentMethod.isNone || db.payments.any fun other =>
        other.id = p.id || other.gatewayPaymentId = p.gatewayPaymentId
  | .insertRefund r, db => db.refunds.any fun other =>
      other.id = r.id || (r.gatewayRefundId.isSome && other.gatewayRefundId = r.gatewayRefundId)
  | _, _ => false

/-- Whether a statement has to wait for one of another open transaction, which holds the row
or the value of a unique index. -/
def contends : Query → Query → Bool
  | .insertKey record, .insertKey held => record.ref = held.ref
  | .updateKey k _, .updateKey held _ => k = held
  | .insertPayment p, .insertPayment held => p.gatewayPaymentId = held.gatewayPaymentId
  | .updatePayment id _, .updatePayment held _ => id = held
  | .insertRefund r, .insertRefund held =>
      r.gatewayRefundId.isSome && r.gatewayRefundId = held.gatewayRefundId
  | _, _ => false

end Query

/-! ## Stripe -/

/-- A payment intent as Stripe reports it. -/
structure StripeIntent where
  id : String
  amount : Nat
  currency : String
  status : String
  clientSecret : Option String
  lastPaymentError : Option (Option String × Option String)
deriving DecidableEq

/-- A refund as Stripe reports it. -/
structure StripeRefund where
  id : String
  amount : Nat
  status : String
deriving DecidableEq

/-- The calls of the Stripe client. -/
inductive StripeOp where
  | create (amount : Nat) (currency : String) (metadata : Metadata)
  | retrieve (id : String)
  | confirm (id : String)
  | capture (id : String)
  | refund (paymentIntent : String) (amount : Nat) (reason : Option String)
deriving DecidableEq

abbrev StripeOp.Ret : StripeOp → Type
  | .create _ _ _ => StripeIntent
  | .retrieve _ => StripeIntent
  | .confirm _ => Unit
  | .capture _ => Unit
  | .refund _ _ _ => StripeRefund

/-! ## Open transactions -/

/-- What a transaction has done: a statement with its reply, or an answer that it got from
Stripe in between. -/
inductive Entry where
  | query (q : Query) (reply : q.Ret)
  | stripe (op : StripeOp) (reply : op.Ret)

namespace Entry

def write : Entry → Database → Database
  | .query q _, db => q.write db
  | .stripe _ _, db => db

def holds (q : Query) : Entry → Bool
  | .query held _ => q.contends held
  | .stripe _ _ => false

end Entry

/-- The effect of a transaction. -/
def applyAll (entries : List Entry) (db : Database) : Database :=
  entries.foldl (fun db entry => entry.write db) db

/-! ## The world -/

/-- The message on the exchange `payment.events`. -/
structure PaymentCompleted where
  paymentId : String
  bookingId : Int
  bookingReference : String
  userId : Int
  amount : Nat
  currency : String
  gateway : String
  gatewayPaymentId : String
  gatewayTransactionId : Option String
  status : PaymentStatus
  confirmedAt : Option Nat
deriving DecidableEq

/-- The clock, the identifiers that were handed out, the committed rows, what the open
transactions have done, and the messages that the broker accepted. -/
structure World where
  now : Nat
  issued : List String
  db : Database
  journal : List (Nat × Entry)
  published : List PaymentCompleted

namespace World

def init (now : Nat) : World := ⟨now, [], .empty, [], []⟩

/-- What the transaction of call `i` sees. -/
def view (w : World) (i : Nat) : Database := applyAll (Journal.entries i w.journal) w.db

def blocks (w : World) (i : Nat) (q : Query) : Bool :=
  (Journal.others i w.journal).any (Entry.holds q)

end World

/-! ## Operations -/

/-- The operations that the service awaits: `sql` in its open transaction, `auto` outside. -/
inductive Op where
  | dateNow
  | wait (ms : Nat)
  | uuid
  | begin
  | sql (query : Query)
  | commit
  | rollback
  | auto (query : Query)
  | stripe (op : StripeOp)
  | publish (message : PaymentCompleted)
deriving DecidableEq

abbrev Op.Ret : Op → Type
  | .dateNow => Nat
  | .wait _ => Unit
  | .uuid => String
  | .begin => Unit
  | .sql q => q.Ret
  | .commit => Unit
  | .rollback => Unit
  | .auto q => q.Ret
  | .stripe op => op.Ret
  | .publish _ => Unit

/-- The clock and the draws of an identifier do not fail, and what a failed rollback leaves open
the database rolls back. -/
def Op.fallible : Op → Bool
  | .dateNow => false
  | .wait _ => false
  | .uuid => false
  | .rollback => false
  | _ => true

/-- What the environment decides for one operation: the error with which it fails, if it does,
the identifier that it draws, and the answers of Stripe. -/
structure Choice where
  fails : Option Exception
  uuid : String
  intent : StripeIntent
  refund : StripeRefund

def StripeOp.answer (choice : Choice) : (op : StripeOp) → op.Ret
  | .create _ _ _ => choice.intent
  | .retrieve _ => choice.intent
  | .confirm _ => ()
  | .capture _ => ()
  | .refund _ _ _ => choice.refund

def constraintViolation : Exception :=
  .error "duplicate key value violates unique constraint"

/-- An operation of call `i` that succeeds, or violates a constraint, or waits for another
transaction. -/
def Op.perform (i : Nat) (choice : Choice) :
    (op : Op) → World → Option (Except Exception op.Ret × World)
  | .dateNow, w => some (.ok w.now, w)
  | .wait ms, w => some (.ok (), { w with now := w.now + ms })
  | .uuid, w =>
      if choice.uuid ∈ w.issued then none
      else some (.ok choice.uuid, { w with issued := choice.uuid :: w.issued })
  | .begin, w => some (.ok (), w)
  | .sql q, w =>
      if w.blocks i q then none
      else if q.violates (w.view i) then some (.error constraintViolation, w)
      else
        let reply := q.read (w.view i)
        some (.ok reply, { w with journal := Journal.add i (.query q reply) w.journal })
  | .commit, w =>
      some (.ok (), { w with db := w.view i, journal := Journal.drop i w.journal })
  | .rollback, w => some (.ok (), { w with journal := Journal.drop i w.journal })
  | .auto q, w =>
      if w.blocks i q then none
      else if q.violates w.db then some (.error constraintViolation, w)
      else some (.ok (q.read w.db), { w with db := q.write w.db })
  | .stripe op, w =>
      some (.ok (op.answer choice),
        { w with journal := Journal.add i (.stripe op (op.answer choice)) w.journal })
  | .publish message, w => some (.ok (), { w with published := w.published ++ [message] })

/-- A failing operation leaves the world as it was. -/
def performWith (i : Nat) (choice : Choice) (op : Op) (w : World) :
    Option (Except Exception op.Ret × World) :=
  match choice.fails with
  | some e => if op.fallible then some (.error e, w) else op.perform i choice w
  | none => op.perform i choice w

end FlightBookings.Payment
