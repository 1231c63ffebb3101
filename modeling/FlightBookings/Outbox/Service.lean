import FlightBookings.Await.Pool
import FlightBookings.Common
import FlightBookings.Store.Table

/-! # The outbox of the booking service

Events are stored as rows and published to the broker by passes over the rows
that are pending. A pass marks a row in three separate writes around its
message, any of which can fail, and the worker can crash in front of each of
them.
-/

namespace FlightBookings.Outbox

open Await

inductive OutboxEventStatus where
  | pending
  | processing
  | published
  | failed
deriving DecidableEq

/-- The columns that change after an event is stored. -/
structure OutboxState where
  status : OutboxEventStatus
  retryCount : Nat
  lastError : Option String
deriving DecidableEq

structure OutboxEvent extends OutboxState where
  id : Nat
  eventId : String
  aggregateType : String
  aggregateId : String
  eventType : String
  payload : String
  maxRetries : Nat
  createdAt : Nat
deriving DecidableEq

/-- The columns of an event that the code sets when it stores one. -/
structure NewEvent where
  eventId : String
  aggregateType : String
  aggregateId : String
  eventType : String
  payload : String
deriving DecidableEq

/-- The columns that an update sets: a status, and a retry count and an error if it names them. -/
structure Columns where
  status : OutboxEventStatus
  retryCount : Option Nat := none
  lastError : Option String := none
deriving DecidableEq

def Columns.apply (columns : Columns) (event : OutboxEvent) : OutboxEvent :=
  { event with
    status := columns.status
    retryCount := columns.retryCount.getD event.retryCount
    lastError := columns.lastError.or event.lastError }

/-- The messages on the exchanges `booking.events` and `booking.dlq`. -/
inductive Message where
  | event (routingKey payload eventId : String)
  | deadLetter (routingKey payload originalEventId failureReason : String) (retryCount : Nat)
deriving DecidableEq

/-- The clock of the identifiers, the identifiers that were drawn, the committed events, the messages
that the broker accepted, and the calls that died with their worker. -/
structure World where
  nextId : Nat
  issued : List String
  rows : List OutboxEvent
  accepted : List Message
  crashed : List Nat

/-- The events that are there at the start. -/
def World.of (nextId : Nat) (rows : List OutboxEvent) : World :=
  ⟨nextId, rows.map OutboxEvent.eventId, rows, [], []⟩

def World.init : World := .of 1 []

/-! ## Operations -/

inductive Op where
  | uuid
  | insert (event : NewEvent)
  | find
  | update (id : Nat) (columns : Columns)
  | publish (message : Message)
deriving DecidableEq

abbrev Op.Ret : Op → Type
  | .uuid => String
  | .insert _ => OutboxEvent
  | .find => List OutboxEvent
  | .update _ _ => Unit
  | .publish _ => Unit

/-- The draws of an identifier do not fail. -/
def Op.fallible : Op → Bool
  | .uuid => false
  | _ => true

/-- What the environment decides for one operation: whether the worker dies in front of it, the
error with which it fails, if it does, the identifier that it draws, the time that the database
gives to a new event, and the order of events that were stored at the same time. -/
structure Choice where
  crashes : Bool
  fails : Option Exception
  uuid : String
  createdAt : Nat
  batch : List OutboxEvent

def batchSize : Nat := 100

/-- A result of the query for pending events, oldest first, at most a hundred of them. -/
structure Selects (rows batch : List OutboxEvent) : Prop where
  distinct : batch.Nodup
  pending : ∀ event ∈ batch, event ∈ rows ∧ event.status = .pending
  ordered : batch.Pairwise fun event later => event.createdAt ≤ later.createdAt
  bounded : batch.length ≤ batchSize
  oldest : ∀ other ∈ rows, other.status = .pending → other ∉ batch →
    batch.length = batchSize ∧ ∀ event ∈ batch, event.createdAt ≤ other.createdAt

instance (rows batch : List OutboxEvent) : Decidable (Selects rows batch) :=
  decidable_of_iff (batch.Nodup ∧ (∀ event ∈ batch, event ∈ rows ∧ event.status = .pending) ∧
      (batch.Pairwise fun event later => event.createdAt ≤ later.createdAt) ∧
      batch.length ≤ batchSize ∧ ∀ other ∈ rows, other.status = .pending → other ∉ batch →
        batch.length = batchSize ∧ ∀ event ∈ batch, event.createdAt ≤ other.createdAt)
    ⟨fun ⟨distinct, pending, ordered, bounded, oldest⟩ =>
      ⟨distinct, pending, ordered, bounded, oldest⟩,
    fun ⟨distinct, pending, ordered, bounded, oldest⟩ =>
      ⟨distinct, pending, ordered, bounded, oldest⟩⟩

/-- The row that an insertion stores, with its default columns. -/
def NewEvent.row (event : NewEvent) (id createdAt : Nat) : OutboxEvent where
  id := id
  eventId := event.eventId
  aggregateType := event.aggregateType
  aggregateId := event.aggregateId
  eventType := event.eventType
  payload := event.payload
  status := .pending
  retryCount := 0
  maxRetries := 3
  lastError := none
  createdAt := createdAt

def World.updated (w : World) (id : Nat) (columns : Columns) : List OutboxEvent :=
  Table.modify OutboxEvent.id id columns.apply w.rows

/-- An operation that succeeds. -/
def Op.perform (choice : Choice) : (op : Op) → World → Option (op.Ret × World)
  | .uuid, w =>
      if choice.uuid ∈ w.issued then none
      else some (choice.uuid, { w with issued := choice.uuid :: w.issued })
  | .insert event, w =>
      let row := event.row w.nextId choice.createdAt
      some (row, { w with nextId := w.nextId + 1, rows := w.rows ++ [row] })
  | .find, w => if Selects w.rows choice.batch then some (choice.batch, w) else none
  | .update id columns, w => some ((), { w with rows := w.updated id columns })
  | .publish message, w => some ((), { w with accepted := w.accepted ++ [message] })

/-- An operation of call `i`: the calls of a dead worker do nothing more, and an operation that
fails changes nothing. -/
def performWith (i : Nat) (choice : Choice) (op : Op) (w : World) :
    Option (Except Exception op.Ret × World) :=
  if i ∈ w.crashed then none
  else if choice.crashes then
    some (.error (.error "worker crashed"), { w with crashed := i :: w.crashed })
  else
    match choice.fails with
    | some e =>
        if op.fallible then some (.error e, w)
        else (op.perform choice w).map fun r => (.ok r.1, r.2)
    | none => (op.perform choice w).map fun r => (.ok r.1, r.2)

/-! ## The service -/

abbrev Call (α : Type) := Await.Call Op Op.Ret Exception Unit α

def storeEvent (aggregateType aggregateId eventType payload : String) : Call OutboxEvent := do
  let eventId ← Call.await Op.uuid
  Call.await (Op.insert { eventId, aggregateType, aggregateId, eventType, payload })

def update (id : Nat) (columns : Columns) : Call Unit := Call.await (Op.update id columns)

def publish (message : Message) : Call Unit := Call.await (Op.publish message)

def moveToDeadLetterQueue (event : OutboxEvent) (error : Exception) : Call Unit := do
  update event.id
    { status := .failed, lastError := some s!"Max retries exceeded: {error.message}" }
  tryCatch
    (publish (.deadLetter event.eventType event.payload event.eventId error.message
      event.retryCount))
    fun _ => pure ()

def publishEvent (event : OutboxEvent) : Call PUnit :=
  tryCatch
    (do
      update event.id { status := .processing }
      publish (.event event.eventType event.payload event.eventId)
      update event.id { status := .published })
    fun error => do
      let newRetryCount := event.retryCount + 1
      update event.id
        { status := .pending, retryCount := some newRetryCount, lastError := some error.message }
      Call.whenever (event.maxRetries ≤ newRetryCount) (moveToDeadLetterQueue event error)

def publishPendingEvents : Call PUnit :=
  tryCatch
    (do
      let pendingEvents : List OutboxEvent ← Call.await Op.find
      pendingEvents.forM publishEvent)
    fun _ => pure ⟨⟩

inductive Request where
  | storeEvent (aggregateType aggregateId eventType payload : String)
  | publishPendingEvents

def Request.call : Request → Call (Option OutboxEvent)
  | .storeEvent aggregateType aggregateId eventType payload => do
      let event ← Outbox.storeEvent aggregateType aggregateId eventType payload
      pure (some event)
  | .publishPendingEvents => do
      Outbox.publishPendingEvents
      pure none

def service : System Request Op (fun op => Except Exception op.Ret) Choice
    (Except Exception (Option OutboxEvent) × Unit) World where
  perform i choice op w := performWith i choice op w
  program request := request.call ()

abbrev Event := Await.Event Request Op Choice World

abbrev ServicePool :=
  Pool Op (fun op => Except Exception op.Ret) (Except Exception (Option OutboxEvent) × Unit) World

end FlightBookings.Outbox
