import FlightBookings.Payment.Service

/-! # What the requests of the payment service await

Payments are inserted by the creation of an intent, and are changed outside a transaction by the
reports of webhooks. Whatever holds of the other operations holds of all that the requests come to
await besides.
-/

namespace FlightBookings.Payment

open Await

/-- Every operation but those that insert a payment or change one outside a transaction. -/
def Op.Usual : Op → Prop
  | .sql (.insertPayment _) => False
  | .auto (.insertPayment _) => False
  | .auto (.updatePayment _ _) => False
  | _ => True

def Admits (good : Op → Prop) : Prop := ∀ op : Op, op.Usual → good op

/-- A call whose operations are all good. -/
abbrev Awaits {α : Type} (good : Op → Prop) (c : Call α) : Prop :=
  c.Emits good (fun _ _ => True) () (fun _ _ => True) fun _ => True

variable {α β : Type} {good : Op → Prop} {k : KeyRef}

theorem await_awaits {op : Op} (h : good op) : Awaits good (Call.await op) :=
  .await h trivial fun _ _ => trivial

theorem bind_awaits {c : Call β} {next : β → Call α} (hc : Awaits good c)
    (hnext : ∀ b, Awaits good (next b)) : Awaits good (c >>= next) :=
  .andThen hc (fun _ _ => trivial) fun b _ _ => hnext b

/-! ## Transactions and their keys -/

theorem transaction_awaits (hgood : Admits good) {body : Call α} (h : Awaits good body) :
    Awaits good (transaction body) := by
  have hdone : Awaits good (do
      Call.await Op.begin
      let result ← body
      Call.await Op.commit
      pure result) :=
    bind_awaits (await_awaits (hgood _ trivial)) fun _ => bind_awaits h fun _ =>
      bind_awaits (await_awaits (hgood _ trivial)) fun _ => .pure trivial
  exact .tryCatch hdone fun _ _ _ =>
    bind_awaits (await_awaits (hgood _ trivial)) fun _ => .throw trivial

theorem safeKeyOf_awaits (hgood : Admits good) (idempotencyKey : Option String) :
    Awaits good (safeKeyOf idempotencyKey) := by
  unfold safeKeyOf
  cases idempotencyKey with
  | none => exact await_awaits (hgood _ trivial)
  | some key =>
      dsimp only
      split
      · exact await_awaits (hgood _ trivial)
      · exact .pure trivial

theorem claimIdempotency_awaits (hgood : Admits good) {hash : Payload}
    {reused processing : String} : Awaits good (claimIdempotency k hash reused processing) := by
  refine bind_awaits (await_awaits (hgood _ trivial)) fun existing => ?_
  cases existing with
  | none => exact bind_awaits (await_awaits (hgood _ trivial)) fun _ => .pure trivial
  | some record =>
      dsimp only
      split
      · exact .throw trivial
      · split
        · exact .pure trivial
        · split
          · exact .throw trivial
          · refine bind_awaits ?_ fun _ => .pure trivial
            exact bind_awaits (await_awaits (hgood _ trivial)) fun _ =>
              .whenever (fun _ => await_awaits (hgood _ trivial)) fun _ => trivial

theorem markingFailed_awaits (hgood : Admits good) {body : Call α} (h : Awaits good body) :
    Awaits good (markingFailed k body) := by
  refine .tryCatch h fun error _ _ => bind_awaits ?_ fun _ => .throw trivial
  refine bind_awaits (await_awaits (hgood _ trivial)) fun record => ?_
  cases record with
  | none => exact .pure trivial
  | some record => exact await_awaits (hgood _ trivial)

theorem orNow_awaits (hgood : Admits good) (time : Option Nat) : Awaits good (orNow time) := by
  unfold orNow
  split
  · exact .pure trivial
  · exact await_awaits (hgood _ trivial)

/-! ## Confirmations -/

theorem capturePayment_awaits (hgood : Admits good) {gateway : Gateway}
    {gatewayPaymentId : String} : Awaits good (gateway.capturePayment gatewayPaymentId) := by
  cases gateway with
  | paypal => exact .throw trivial
  | stripe =>
      refine .tryCatch ?_ fun _ _ (_ : True) => .pure trivial
      refine bind_awaits (await_awaits (hgood _ trivial)) fun intent => ?_
      refine bind_awaits (.whenever (fun _ => await_awaits (hgood _ trivial)) fun _ => trivial)
        fun _ => ?_
      refine bind_awaits (.whenever (fun _ => await_awaits (hgood _ trivial)) fun _ => trivial)
        fun _ => ?_
      exact bind_awaits (await_awaits (hgood _ trivial)) fun _ => .pure trivial

theorem createPaymentLedgerEntries_awaits (hgood : Admits good) {payment : Payment}
    {referenceId : String} : Awaits good (createPaymentLedgerEntries payment referenceId) := by
  refine bind_awaits (await_awaits (hgood _ trivial)) fun existing => ?_
  split
  · exact .pure trivial
  · exact bind_awaits (orNow_awaits hgood _) fun _ => await_awaits (hgood _ trivial)

theorem confirmPaymentIntent_awaits (hgood : Admits good) (paymentId : String)
    (named idempotencyKey : Option String) :
    Awaits good (confirmPaymentIntent paymentId named idempotencyKey) := by
  refine bind_awaits (safeKeyOf_awaits hgood idempotencyKey) fun safeKey => ?_
  refine markingFailed_awaits hgood (bind_awaits (transaction_awaits hgood ?_) fun r => ?_)
  · refine bind_awaits (claimIdempotency_awaits hgood) fun existing => ?_
    cases existing with
    | some response => exact .pure trivial
    | none =>
        refine bind_awaits (await_awaits (hgood _ trivial)) fun found => ?_
        cases found with
        | none => exact .throw trivial
        | some payment =>
            dsimp only
            split
            · exact bind_awaits (await_awaits (hgood _ trivial)) fun _ => .pure trivial
            · refine bind_awaits (.ofExcept trivial fun _ _ => trivial) fun gateway => ?_
              refine bind_awaits (capturePayment_awaits hgood) fun result => ?_
              refine bind_awaits (await_awaits (hgood _ trivial)) fun now => ?_
              refine bind_awaits (await_awaits (hgood _ trivial)) fun _ => ?_
              refine bind_awaits (.whenever (fun _ => createPaymentLedgerEntries_awaits hgood)
                fun _ => trivial) fun _ => ?_
              exact bind_awaits (await_awaits (hgood _ trivial)) fun _ => .pure trivial
  · obtain ⟨response, confirmed⟩ := r
    cases confirmed with
    | none => exact .bind (.pure (.pure trivial))
    | some confirmed =>
        refine bind_awaits ?_ fun _ => .pure trivial
        dsimp only [publishPaymentCompletedEvent]
        split
        · exact .pure trivial
        · exact await_awaits (hgood _ trivial)

/-! ## Webhooks -/

theorem findByGatewayId_awaits (hgood : Admits good) (gatewayPaymentId : String) :
    Awaits good (findByGatewayId gatewayPaymentId) := by
  refine bind_awaits (await_awaits (hgood _ trivial)) fun found => ?_
  cases found with
  | none => exact .throw trivial
  | some payment => exact .pure trivial

theorem markPaymentFailedByGatewayId_awaits (hgood : Admits good)
    (hupdate : ∀ id state, good (.auto (.updatePayment id state))) (gatewayPaymentId : String)
    (reason : Option String) : Awaits good (markPaymentFailedByGatewayId gatewayPaymentId reason) :=
  bind_awaits (findByGatewayId_awaits hgood gatewayPaymentId) fun _ =>
    bind_awaits (await_awaits (hupdate _ _)) fun _ => .pure trivial

theorem refreshRefundedStatus_awaits (hgood : Admits good)
    (hupdate : ∀ id payment total now,
      good (.auto (.updatePayment id (refundedState payment total now)))) (paymentId : String) :
    Awaits good (refreshRefundedStatus paymentId) := by
  refine bind_awaits (await_awaits (hgood _ trivial)) fun found => ?_
  cases found with
  | none => exact .throw trivial
  | some payment =>
      refine bind_awaits (await_awaits (hgood _ trivial)) fun total => ?_
      split
      · exact .pure trivial
      · refine bind_awaits (await_awaits (hgood _ trivial)) fun now => ?_
        exact bind_awaits (await_awaits (hupdate _ _ _ _)) fun _ => .pure trivial

/-! ## Refunds -/

theorem refundPayment_awaits (hgood : Admits good) {gateway : Gateway} {transactionId : String}
    {amount : Nat} {reason : Option String} :
    Awaits good (gateway.refundPayment transactionId amount reason) := by
  cases gateway with
  | paypal => exact .throw trivial
  | stripe =>
      exact .tryCatch (bind_awaits (await_awaits (hgood _ trivial)) fun _ => .pure trivial)
        fun _ _ _ => .pure trivial

theorem createRefund_awaits (hgood : Admits good) (dto : CreateRefundDto)
    (idempotencyKey : Option String) : Awaits good (createRefund dto idempotencyKey) := by
  refine bind_awaits (safeKeyOf_awaits hgood idempotencyKey) fun safeKey => ?_
  refine markingFailed_awaits hgood (transaction_awaits hgood ?_)
  refine bind_awaits (claimIdempotency_awaits hgood) fun existing => ?_
  cases existing with
  | some response => exact .pure trivial
  | none =>
      refine bind_awaits (await_awaits (hgood _ trivial)) fun found => ?_
      cases found with
      | none => exact .throw trivial
      | some payment =>
          dsimp only
          split
          · exact .throw trivial
          refine bind_awaits (await_awaits (hgood _ trivial)) fun total => ?_
          split
          · exact .throw trivial
          refine bind_awaits (.ofExcept trivial fun _ _ => trivial) fun gateway => ?_
          refine bind_awaits (refundPayment_awaits hgood) fun result => ?_
          refine bind_awaits (await_awaits (hgood _ trivial)) fun id => ?_
          refine bind_awaits (await_awaits (hgood _ trivial)) fun now => ?_
          refine bind_awaits (await_awaits (hgood _ trivial)) fun _ => ?_
          refine bind_awaits (.whenever (fun _ => ?_) fun _ => trivial) fun _ =>
            bind_awaits (await_awaits (hgood _ trivial)) fun _ => .pure trivial
          refine bind_awaits (await_awaits (hgood _ trivial)) fun _ => ?_
          refine bind_awaits (await_awaits (hgood _ trivial)) fun existing => ?_
          split
          · exact .pure trivial
          · exact bind_awaits (orNow_awaits hgood _) fun _ => await_awaits (hgood _ trivial)

end FlightBookings.Payment
