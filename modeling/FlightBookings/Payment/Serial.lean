import FlightBookings.Payment.History

/-! # The rows that a call changes while no other call runs

Payments, refunds and ledger entries change in five ways, and each of them
starts from the rows as they are at that moment.
-/

namespace FlightBookings.Payment

open Await

/-- The payment that an entry inserts. -/
def Entry.inserts : Entry → Option Payment
  | .query (.insertPayment payment) _ => some payment
  | _ => none

/-- The payment that a commit creates. -/
def Event.creates : Event → Option Payment
  | .performed w i c .commit _ =>
      if c.fails.isNone then (Journal.entries i w.journal).findSome? Entry.inserts else none
  | _ => none

/-- The payment that is saved as failed, for a webhook that reports so. -/
def Event.reportsFailed : Event → Option String
  | .performed _ _ c (.auto (.updatePayment id state)) _ =>
      if c.fails.isNone && state.status = .failed then some id else none
  | _ => none

/-- The columns of a payment that a webhook reports as failed. -/
def failedPayment (payment : Payment) (reason : Option String) : PaymentState :=
  { payment.toPaymentState with
    status := .failed
    failureReason := some (orElse reason "Payment failed according to gateway webhook") }

/-- A change of the rows, by the payment that it creates and the payment that it saves as failed. -/
inductive RowStep (db : Database) : Option Payment → Option String → Database → Prop where
  | kept {db' : Database} (hpayments : db'.payments = db.payments)
      (hrefunds : db'.refunds = db.refunds) (hledger : db'.ledger = db.ledger) :
      RowStep db none none db'
  | created {payment : Payment} {keys : List IdempotencyKey}
      (hnew : ∀ other ∈ db.payments, other.id ≠ payment.id) (hpositive : 0 < payment.amount)
      (hstatus : payment.status.settled = true → payment.status = .confirmed) :
      RowStep db (some payment) none { db with payments := db.payments ++ [payment], keys }
  | captured {payment : Payment} {result : PaymentResult} {now n : Nat} {keys : List IdempotencyKey}
      (hfound : db.payment payment.id = some payment)
      (hunsettled : payment.status.settled = false)
      (hcount : result.success = true →
        n = db.ledger.countP (EntryFilter.ofPayment payment.id).selects) :
      RowStep db none none
        { db with
          payments := db.updated payment.id (capturedState payment result now)
          ledger := db.ledger ++ capturedEntries payment result now n, keys }
  | refunded {dto : CreateRefundDto} {payment : Payment} {result : RefundResult} {id key : String}
      {now n : Nat} {keys : List IdempotencyKey} (hfound : db.payment payment.id = some payment)
      (hrefundable : payment.status = .confirmed ∨ payment.status = .partiallyRefunded)
      (hbalance : db.refunded payment.id + dto.amount ≤ payment.amount)
      (hnew : ∀ other ∈ db.refunds, other.id ≠ id)
      (hcount : result.success = true → n = db.ledger.countP (EntryFilter.ofRefund id).selects) :
      RowStep db none none
        { payments :=
            db.refundedPayments payment result (db.refunded payment.id + dto.amount) now
          refunds := db.refunds ++ [newRefund id dto payment key result now]
          ledger := db.ledger ++ refundedEntries payment (newRefund id dto payment key result now)
            result (db.refunded payment.id + dto.amount) now n
          keys }
  | failed {payment : Payment} {reason : Option String}
      (hfound : db.payment payment.id = some payment) :
      RowStep db none (some payment.id)
        { db with payments := db.updated payment.id (failedPayment payment reason) }
  | refreshed {payment : Payment} {now : Nat} (hfound : db.payment payment.id = some payment)
      (hpositive : 0 < db.refunded payment.id) :
      RowStep db none none
        { db with
          payments := db.updated payment.id
            (refundedState payment (db.refunded payment.id) now) }

/-! ## Which logs create a payment -/

variable {k : KeyRef} {claim answers log log' : List Entry}

theorem inserts_append (h : log.findSome? Entry.inserts = none)
    (h' : log'.findSome? Entry.inserts = none) : (log ++ log').findSome? Entry.inserts = none := by
  rw [List.findSome?_append, h, h']
  rfl

theorem inserts_of_claim (h : Claim k claim) : claim.findSome? Entry.inserts = none := by
  cases h <;> rfl

theorem inserts_of_answers (h : answers.all Entry.isAnswer = true) :
    answers.findSome? Entry.inserts = none := by
  refine List.findSome?_eq_none_iff.mpr fun entry hentry => ?_
  have hanswer := List.all_eq_true.mp h entry hentry
  cases entry with
  | query q reply => cases hanswer
  | stripe op reply => rfl

theorem inserts_of_ledgerLog {filter : EntryFilter} {n : Nat} {entries : List LedgerEntry} :
    (ledgerLog filter n entries).findSome? Entry.inserts = none := by
  unfold ledgerLog
  split <;> rfl

theorem inserts_of_confirmed {paymentId gatewayPaymentId : String} {payment : Payment}
    {result : PaymentResult} {now n : Nat} (hclaim : Claim k claim)
    (hcaptured : Captured gatewayPaymentId answers result) :
    (claim ++ confirmedLog k paymentId payment answers result now n).findSome? Entry.inserts =
      none := by
  refine inserts_append (inserts_of_claim hclaim) (inserts_append (inserts_append ?_ ?_) rfl)
  · show answers.findSome? Entry.inserts = none
    exact inserts_of_answers hcaptured.answers
  · show List.findSome? Entry.inserts (if result.success = true then _ else _) = none
    split
    · exact inserts_of_ledgerLog
    · rfl

theorem inserts_of_refunded {transactionId : String} {amount : Nat} {reason : Option String}
    {dto : CreateRefundDto} {payment : Payment} {total : Nat} {result : RefundResult} {id : String}
    {now n : Nat} (hclaim : Claim k claim)
    (hanswered : Refunded transactionId amount reason answers result) :
    (claim ++ refundedLog k dto payment total answers result id now n).findSome? Entry.inserts =
      none := by
  refine inserts_append (inserts_of_claim hclaim) (inserts_append (inserts_append ?_ ?_) rfl)
  · cases hanswered <;> rfl
  · show List.findSome? Entry.inserts (if result.success = true then _ else _) = none
    split
    · show (ledgerLog (.ofRefund id) _ _).findSome? Entry.inserts = none
      exact inserts_of_ledgerLog
    · rfl

/-! ## One operation -/

theorem mapGatewayIntentStatus_settled {status : String}
    (h : (mapGatewayIntentStatus status).settled = true) :
    mapGatewayIntentStatus status = .confirmed := by
  unfold mapGatewayIntentStatus at h ⊢
  split
  · rfl
  · rename_i hstatus
    rw [if_neg hstatus] at h
    split at h
    · cases h
    · split at h <;> cases h

variable {past : List Event} {w w' : World} {i : Nat} {c : Choice} {t : CallLog} {op : Op}
variable {r : Except Exception op.Ret}

/-- A committed transaction that would get its replies again. -/
theorem rows_of_shape {request : Request} {log : List Entry} {db : Database}
    (hshape : Shape request log) (hreplays : Replays log db) :
    RowStep db (log.findSome? Entry.inserts) none (applyAll log db) := by
  cases hshape with
  | replayed hnames href hfinal => exact .kept rfl rfl rfl
  | @created k claim dto idempotencyKey intent id hnames hclaim hrequest =>
      obtain ⟨keys, hkeys⟩ := applyAll_created hclaim dto intent id db
      have hvalid := replays_created hclaim hreplays
      rw [hkeys]
      simp only [List.findSome?_append, inserts_of_claim hclaim, createdLog, Option.none_or]
      refine .created ?_ dto.positive mapGatewayIntentStatus_settled
      intro other hother heq
      simp only [Query.violates, Bool.or_eq_false_iff, List.any_eq_false] at hvalid
      have hfresh := hvalid.2 other hother
      simp [heq] at hfresh
  | @settled k claim paymentId payment hnames hclaim hscope hid hsettled =>
      obtain ⟨keys, hkeys⟩ := applyAll_settled hclaim paymentId payment db
      rw [hkeys]
      simp only [List.findSome?_append, inserts_of_claim hclaim, settledLog, completedEntry]
      exact .kept rfl rfl rfl
  | @confirmed k claim paymentId payment named answers result now n hnames hclaim hscope hid
      hunsettled hconfirms hcaptured =>
      obtain ⟨keys, hkeys⟩ := applyAll_confirmed hclaim hcaptured paymentId payment now n db
      obtain ⟨hfound, hcount⟩ := replays_confirmed hclaim hcaptured hreplays
      rw [hkeys, inserts_of_confirmed hclaim hcaptured]
      exact .captured (hid ▸ hfound) hunsettled hcount
  | @refunded k claim dto idempotencyKey payment total answers result id now n hnames hclaim
      hrequest hid hrefundable hbalance hanswered =>
      obtain ⟨keys, hkeys⟩ := applyAll_refunded hclaim hanswered dto payment total id now n db
      obtain ⟨hfound, htotal, hnew, hcount⟩ := replays_refunded hclaim hanswered hreplays
      rw [hkeys, inserts_of_refunded hclaim hanswered]
      subst htotal
      exact .refunded (hid ▸ hfound) hrefundable hbalance hnew hcount

theorem rows_of_auto (hids : (w.db.payments.map Payment.id).Nodup)
    (h : SerialStep past i c op r w w' t) {q : Query} (hop : op = .auto q) (hok : c.fails = none) :
    RowStep w.db none (Event.reportsFailed (.performed w i c op w')) (q.write w.db) := by
  subst hop
  have hlegal : (Op.auto q).Legal t := h.legal
  cases q with
  | updateKey k state => exact .kept rfl rfl rfl
  | updatePayment id state =>
      cases hlegal.2 with
      | @failed gatewayPaymentId reason payment hfound =>
          have hread : some payment = Table.find Payment.gatewayPaymentId _ w.db.payments :=
            h.seen hfound
          have hmem := (Table.mem_of_find hread.symm).1
          have hcolumns : Event.reportsFailed (.performed w i c (.auto (.updatePayment payment.id
              (failedPayment payment reason))) w') = some payment.id := by
            simp [Event.reportsFailed, hok, failedPayment]
          exact hcolumns ▸ .failed (Table.find_of_mem hids hmem)
      | @refunded paymentId payment total now hfound hid htotal hpositive =>
          have hread : some payment = w.db.payment paymentId := h.seen hfound
          have hsum : total = w.db.refunded paymentId := h.seen htotal
          subst hid hsum
          have hcolumns : Event.reportsFailed (.performed w i c (.auto (.updatePayment payment.id
              (refundedState payment (w.db.refunded payment.id) now))) w') = none := by
            unfold Event.reportsFailed refundedState
            dsimp only
            split <;> simp
          exact hcolumns ▸ .refreshed hread.symm hpositive
  | findKey k => exact .kept rfl rfl rfl
  | findPayment id => exact .kept rfl rfl rfl
  | findPaymentByGatewayId id => exact .kept rfl rfl rfl
  | refundTotal id => exact .kept rfl rfl rfl
  | _ => exact hlegal.elim

/-- An operation that fails reports no payment as failed. -/
theorem reportsFailed_of_cause
    (hcause : c.fails = none → ∃ q db, (op = .sql q ∨ op = .auto q) ∧ q.violates db = true) :
    Event.reportsFailed (.performed w i c op w') = none := by
  cases op with
  | auto q =>
      cases q with
      | updatePayment id state =>
          cases hfails : c.fails with
          | none =>
              obtain ⟨q, db, hop, hviolates⟩ := hcause hfails
              rcases hop with hop | hop
              · cases hop
              · cases hop
                cases hviolates
          | some e => simp [Event.reportsFailed, hfails]
      | _ => rfl
  | _ => rfl

theorem creates_of_cause {e : Exception} (h : Performs i c w op (.error e) w') :
    Event.creates (.performed w i c op w') = none := by
  cases h with
  | failed _ hop hcause =>
      cases op with
      | commit =>
          cases hfails : c.fails with
          | none =>
              obtain ⟨q, db, hcommit, -⟩ := hcause hfails
              rcases hcommit with hcommit | hcommit <;> cases hcommit
          | some e => simp [Event.creates, hfails]
      | _ => rfl

/-- What an operation does to the rows while no other call runs. -/
theorem SerialStep.rows (h : SerialStep past i c op r w w' t)
    (hids : (w.db.payments.map Payment.id).Nodup) :
    RowStep w.db (Event.creates (.performed w i c op w'))
      (Event.reportsFailed (.performed w i c op w')) w'.db := by
  have hperforms := h.performs
  cases hperforms with
  | failed e hop hcause =>
      rw [reportsFailed_of_cause hcause, creates_of_cause h.performs]
      exact .kept rfl rfl rfl
  | passed _ hop hdb =>
      cases op with
      | dateNow => exact hdb ▸ .kept rfl rfl rfl
      | wait ms => exact hdb ▸ .kept rfl rfl rfl
      | uuid => exact hdb ▸ .kept rfl rfl rfl
      | begin => exact hdb ▸ .kept rfl rfl rfl
      | _ => cases hop
  | sql q => exact .kept rfl rfl rfl
  | stripe op => exact .kept rfl rfl rfl
  | commit hok =>
      have hcreates : Event.creates (.performed w i c .commit
          { w with db := w.view i, journal := Journal.drop i w.journal }) =
          t.pending.findSome? Entry.inserts := by
        rw [← h.own]
        simp [Event.creates, hok]
      have hview : w.view i = applyAll t.pending w.db := by rw [World.view, h.own]
      rw [hcreates]
      change RowStep w.db _ none (w.view i)
      rw [hview]
      exact rows_of_shape h.legal.1 h.replays
  | rollback => exact .kept rfl rfl rfl
  | auto q hok => exact rows_of_auto hids h rfl hok
  | publish message => exact .kept rfl rfl rfl

end FlightBookings.Payment
