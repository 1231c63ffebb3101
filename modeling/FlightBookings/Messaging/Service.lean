import FlightBookings.Await.Pool
import Mathlib.Logic.Function.Basic

/-! # Acknowledged messages

The queue of the authentication service. A message is handed to a consumer, which
acknowledges it or sends it to the retry queue, from where it comes back after a
while with the number of its rounds in a header. A message of a consumer whose
connection is lost goes back at once. When too many messages wait, one of them is
pushed out of the queue, to the retry queue or for good.
-/

namespace FlightBookings.Messaging

open Await

/-! ## The broker -/

inductive Place where
  | queued
  | delivered (tag : Nat)
  | retrying
  /-- In the retry queue, without having failed. -/
  | overflown
  | removed
  | dropped
deriving DecidableEq

structure Message where
  place : Place
  /-- How often it has come back from the retry queue. -/
  rounds : Nat
deriving DecidableEq

structure Broker where
  message : Nat → Option Message
  published : Nat
  tags : Nat
  /-- `x-max-length` -/
  maxLength : Nat

namespace Broker

def empty (maxLength : Nat) : Broker := ⟨fun _ => none, 0, 0, maxLength⟩

def put (b : Broker) (m : Nat) (msg : Message) : Broker :=
  { b with message := Function.update b.message m (some msg) }

@[simp] theorem put_self (b : Broker) (m : Nat) (msg : Message) :
    (b.put m msg).message m = some msg := Function.update_self ..

theorem put_of_ne {m m' : Nat} (b : Broker) (msg : Message) (h : m' ≠ m) :
    (b.put m msg).message m' = b.message m' := Function.update_of_ne h ..

end Broker

/-- What a consumer is handed: the message, the tag to acknowledge it by, and the count of
`x-death[0]`, or zero without that header. -/
structure Delivery where
  message : Nat
  tag : Nat
  retryCount : Nat
deriving DecidableEq

/-- What a callback can throw: an `HttpException`, or anything else. -/
inductive Failure where
  | http (status : Nat)
  | other
deriving DecidableEq

def Failure.isClientError : Failure → Bool
  | .http status => 400 ≤ status && status < 500
  | .other => false

/-! ## Operations -/

inductive Op where
  | publish
  | take (message : Nat)
  | callback (message : Nat)
  | ack (message tag : Nat)
  | nack (message tag : Nat)
  | expire (message : Nat)
  | overflow (message : Nat)
  | disconnect (message : Nat)
deriving DecidableEq

abbrev Op.Ret : Op → Type
  | .take _ => Option Delivery
  | _ => Unit

/-- The message waits in the queue. -/
def Broker.waits (b : Broker) (m : Nat) : Bool :=
  (b.message m).any fun msg => msg.place = .queued

/-- The length of the queue, which leaves out what is with a consumer. -/
def Broker.length (b : Broker) : Nat := (List.range b.published).countP b.waits

/-- The message waits in a queue that is too long. -/
def Broker.overflows (b : Broker) (m : Nat) : Bool := b.waits m && b.maxLength < b.length

/-- The message is with the consumer that was handed it under this tag. -/
def Broker.held (b : Broker) (m tag : Nat) : Bool :=
  (b.message m).any fun msg => msg.place = .delivered tag

def Broker.isDelivered (b : Broker) (m : Nat) : Bool :=
  (b.message m).any fun msg =>
    match msg.place with
    | .delivered _ => true
    | _ => false

/-- The message with another place. -/
def Broker.move (b : Broker) (m : Nat) (place : Place) : Broker :=
  match b.message m with
  | some msg => b.put m { msg with place }
  | none => b

/-- What the environment decides for a step: how the callback ends, and whether the broker keeps a
message that goes round without being rejected. -/
abbrev Choice := Except Failure Unit

/-- A channel throws when it is to acknowledge what it does not hold any more. The broker drops a message
that comes to a queue for a second time and was not rejected in between. Which ones those are is left
open, but they have been pushed out of the queue. -/
def Op.perform (choice : Choice) : (op : Op) → Broker → Except Failure op.Ret × Broker
  | .publish, b => (.ok (), { b.put b.published ⟨.queued, 0⟩ with published := b.published + 1 })
  | .take m, b =>
      match b.message m with
      | some msg =>
          if msg.place = .queued then
            (.ok (some ⟨m, b.tags, msg.rounds⟩),
              { b.put m { msg with place := .delivered b.tags } with tags := b.tags + 1 })
          else (.ok none, b)
      | none => (.ok none, b)
  | .callback _, b => (choice, b)
  | .ack m tag, b => if b.held m tag then (.ok (), b.move m .removed) else (.error .other, b)
  | .nack m tag, b => if b.held m tag then (.ok (), b.move m .retrying) else (.error .other, b)
  | .expire m, b =>
      match b.message m with
      | some msg =>
          if msg.place = .retrying then (.ok (), b.put m ⟨.queued, msg.rounds + 1⟩)
          else if msg.place = .overflown then
            let kept := if choice.isOk then ⟨.queued, msg.rounds + 1⟩ else ⟨.dropped, msg.rounds⟩
            (.ok (), b.put m kept)
          else (.ok (), b)
      | none => (.ok (), b)
  | .overflow m, b =>
      (.ok (), if b.overflows m then b.move m (if choice.isOk then .overflown else .dropped) else b)
  | .disconnect m, b => (.ok (), if b.isDelivered m then b.move m .queued else b)

abbrev Call (α : Type) := Await.Call Op Op.Ret Failure Unit α

/-! ## The consumer -/

/-- What is done about an error: a client error will not go away, and neither will one that came in
the last round. -/
def settleFailed (maxRetries : Nat) (delivery : Delivery) (error : Failure) : Call Unit := do
  if error.isClientError then
    Call.await (Op.ack delivery.message delivery.tag)
  else if maxRetries ≤ delivery.retryCount then
    Call.await (Op.ack delivery.message delivery.tag)
  else
    Call.await (Op.nack delivery.message delivery.tag)
  throw error

/-- `RmqHelper.handleAck`. An acknowledgement that throws is handled as an error of the callback. -/
def handleAck (maxRetries : Nat) (delivery : Delivery) : Call Unit :=
  tryCatch
    (do
      Call.await (Op.callback delivery.message)
      Call.await (Op.ack delivery.message delivery.tag))
    (settleFailed maxRetries delivery)

/-- A message is published, handed to a consumer, comes back from the retry queue, is pushed out of the
queue, or loses its consumer. -/
inductive Request where
  | publish
  | deliver (message : Nat)
  | expire (message : Nat)
  | overflow (message : Nat)
  | disconnect (message : Nat)
deriving DecidableEq

def Request.call (maxRetries : Nat) : Request → Call Unit
  | .publish => Call.await Op.publish
  | .deliver message => do
      let delivery : Option Delivery ← Call.await (Op.take message)
      match delivery with
      | some delivery => handleAck maxRetries delivery
      | none => pure ()
  | .expire message => Call.await (Op.expire message)
  | .overflow message => Call.await (Op.overflow message)
  | .disconnect message => Call.await (Op.disconnect message)

/-- Every message may be retried `maxRetries` times; the source allows three. -/
def queue (maxRetries : Nat) : System Request Op (fun op => Except Failure op.Ret) Choice
    (Except Failure Unit × Unit) Broker where
  perform _ choice op b := some (op.perform choice b)
  program request := request.call maxRetries ()

abbrev Event := Await.Event Request Op Choice Broker

end FlightBookings.Messaging
