import FlightBookings.Payment.Transactions

/-! # The rows that a transaction changes

The effect of each of the transactions on the committed rows, and what its
replies say about the rows it started from when nothing else changed them in
the meantime.
-/

namespace FlightBookings.Payment

variable {db : Database} {log log' claim κ : List Entry} {k k' : KeyRef} {entry : Entry}

@[simp] theorem applyAll_nil : applyAll [] db = db := rfl

@[simp] theorem applyAll_cons : applyAll (entry :: log) db = applyAll log (entry.write db) := rfl

@[simp] theorem applyAll_append : applyAll (log ++ log') db = applyAll log' (applyAll log db) := by
  simp [applyAll]

/-- What the entries leave alone, their log leaves alone. -/
theorem applyAll_frame {β : Type} {f : Database → β}
    (h : ∀ entry ∈ log, ∀ db, f (entry.write db) = f db) : f (applyAll log db) = f db := by
  induction log generalizing db with
  | nil => rfl
  | cons entry log ih =>
      have hlog : f (applyAll log (entry.write db)) = f (entry.write db) :=
        ih fun entry' hmem => h entry' (by simp [hmem])
      rw [applyAll_cons, hlog, h entry (by simp)]

theorem applyAll_claim (h : Claim k claim) (db : Database) :
    ∃ keys, applyAll claim db = { db with keys } := by
  cases h <;> exact ⟨_, rfl⟩

theorem applyAll_answers (h : κ.all Entry.isAnswer = true) : applyAll κ db = db := by
  have hwrite : ∀ entry ∈ κ, ∀ db, id (entry.write db) = id db := by
    intro entry hentry db
    have hanswer := List.all_eq_true.mp h entry hentry
    cases entry with
    | query q reply => cases hanswer
    | stripe op reply => rfl
  exact applyAll_frame (f := id) hwrite

theorem Captured.answers {gatewayPaymentId : String} {result : PaymentResult}
    (h : Captured gatewayPaymentId κ result) : κ.all Entry.isAnswer = true := by
  cases h with
  | retrieved hbefore => simp [hbefore, Entry.isAnswer]
  | failed hanswers => exact hanswers

theorem Captured.applyAll {gatewayPaymentId : String} {result : PaymentResult}
    (h : Captured gatewayPaymentId κ result) : applyAll κ db = db :=
  applyAll_answers h.answers

theorem Refunded.applyAll {transactionId : String} {amount : Nat} {reason : Option String}
    {result : RefundResult} (h : Refunded transactionId amount reason κ result) :
    applyAll κ db = db := by
  cases h <;> rfl

/-! ## The effect of a transaction -/

theorem applyAll_created (hclaim : Claim k claim) (dto : CreatePaymentIntentDto)
    (intent : StripeIntent) (id : String) (db : Database) :
    ∃ keys, applyAll (claim ++ createdLog k dto intent id) db =
      { db with
        payments := db.payments ++ [newPayment id dto k.idempotencyKey .stripe intent], keys } := by
  obtain ⟨keys, hkeys⟩ := applyAll_claim hclaim db
  rw [applyAll_append, hkeys]
  exact ⟨_, rfl⟩

theorem applyAll_settled (hclaim : Claim k claim) (paymentId : String) (payment : Payment)
    (db : Database) :
    ∃ keys, applyAll (claim ++ settledLog k paymentId payment) db = { db with keys } := by
  obtain ⟨keys, hkeys⟩ := applyAll_claim hclaim db
  rw [applyAll_append, hkeys]
  exact ⟨_, rfl⟩

/-- The payments after one of them got new columns. -/
def Database.updated (db : Database) (id : String) (state : PaymentState) : List Payment :=
  Table.modify Payment.id id (fun p => p.after state) db.payments

/-- The ledger entries that a capture stores when it counted `n` before. -/
def capturedEntries (payment : Payment) (result : PaymentResult) (now n : Nat) :
    List LedgerEntry :=
  if result.success = true ∧ n = 0 then
    paymentEntries (payment.after (capturedState payment result now)) result.transactionId now
  else []

theorem applyAll_ledgerLog {filter : EntryFilter} {n : Nat} {entries : List LedgerEntry} :
    applyAll (ledgerLog filter n entries) db =
      { db with ledger := db.ledger ++ if n = 0 then entries else [] } := by
  cases n with
  | zero => rfl
  | succ n =>
      simp only [ledgerLog, Nat.zero_lt_succ, if_true, applyAll_cons, applyAll_nil,
        Nat.succ_ne_zero, if_false, List.append_nil]
      rfl

theorem applyAll_confirmed (hclaim : Claim k claim) {gatewayPaymentId : String}
    {result : PaymentResult} (hcaptured : Captured gatewayPaymentId κ result) (paymentId : String)
    (payment : Payment) (now n : Nat) (db : Database) :
    ∃ keys, applyAll (claim ++ confirmedLog k paymentId payment κ result now n) db =
      { db with
        payments := db.updated payment.id (capturedState payment result now)
        ledger := db.ledger ++ capturedEntries payment result now n, keys } := by
  obtain ⟨keys, hkeys⟩ := applyAll_claim hclaim db
  have hanswers : applyAll κ { db with keys } = { db with keys } := hcaptured.applyAll
  have hreads : applyAll (.query (.findPayment paymentId) (some payment) :: κ)
      { db with keys } = { db with keys } := hanswers
  rw [applyAll_append, hkeys, confirmedLog, applyAll_append, applyAll_append, hreads, applyAll_cons,
    applyAll_cons]
  by_cases hsuccess : result.success = true
  · rw [if_pos hsuccess, applyAll_ledgerLog]
    have hentries : capturedEntries payment result now n = if n = 0 then
        paymentEntries (payment.after (capturedState payment result now)) result.transactionId now
        else [] := by
      simp only [capturedEntries, hsuccess, true_and]
    rw [hentries]
    exact ⟨_, rfl⟩
  · rw [if_neg hsuccess]
    have hnone : capturedEntries payment result now n = [] := if_neg fun h => hsuccess h.1
    rw [hnone, List.append_nil]
    exact ⟨_, rfl⟩

/-- The payments after a refund of one of them. -/
def Database.refundedPayments (db : Database) (payment : Payment) (result : RefundResult)
    (total now : Nat) : List Payment :=
  if result.success = true then db.updated payment.id (refundedState payment total now)
  else db.payments

/-- The ledger entries that a refund stores when it counted `n` before. -/
def refundedEntries (payment : Payment) (refund : Refund) (result : RefundResult)
    (total now n : Nat) : List LedgerEntry :=
  if result.success = true ∧ n = 0 then
    refundEntries (payment.after (refundedState payment total now)) refund now
  else []

theorem applyAll_refunded (hclaim : Claim k claim) {transactionId : String} {amount : Nat}
    {reason : Option String} {result : RefundResult}
    (hanswered : Refunded transactionId amount reason κ result) (dto : CreateRefundDto)
    (payment : Payment) (total : Nat) (id : String) (now n : Nat) (db : Database) :
    ∃ keys, applyAll (claim ++ refundedLog k dto payment total κ result id now n) db =
      { payments := db.refundedPayments payment result (total + dto.amount) now
        refunds := db.refunds ++ [newRefund id dto payment k.idempotencyKey result now]
        ledger := db.ledger ++ refundedEntries payment
          (newRefund id dto payment k.idempotencyKey result now) result (total + dto.amount) now n
        keys } := by
  obtain ⟨keys, hkeys⟩ := applyAll_claim hclaim db
  have hanswers : applyAll κ { db with keys } = { db with keys } := hanswered.applyAll
  have hreads : applyAll (.query (.findPayment dto.paymentId) (some payment) ::
      .query (.refundTotal payment.id) total :: κ) { db with keys } = { db with keys } := hanswers
  rw [applyAll_append, hkeys, refundedLog, applyAll_append, applyAll_append, hreads, applyAll_cons,
    applyAll_cons]
  by_cases hsuccess : result.success = true
  · simp only [hsuccess, if_true, applyAll_cons, applyAll_ledgerLog, Database.refundedPayments,
      refundedEntries, true_and]
    exact ⟨_, rfl⟩
  · simp only [hsuccess, if_false, Database.refundedPayments, refundedEntries, false_and,
      List.append_nil, Bool.false_eq_true]
    exact ⟨_, rfl⟩

/-! ## Rows under their keys -/

theorem payment_updated {id id' : String} {state : PaymentState} :
    Table.find Payment.id id' (db.updated id state) =
      if id' = id then (db.payment id).map fun p => p.after state else db.payment id' := by
  by_cases h : id' = id
  · subst h
    rw [if_pos rfl]
    exact Table.find_modify_self fun _ h => h
  · rw [if_neg h]
    exact Table.find_modify_of_ne (fun _ h => h) h

/-- A payment that was found, after it got new columns. -/
theorem payment_updated_found {payment : Payment} {id : String} {state : PaymentState}
    (h : db.payment payment.id = some payment) :
    Table.find Payment.id id (db.updated payment.id state) =
      if id = payment.id then some (payment.after state) else db.payment id := by
  rw [payment_updated, h]
  rfl

/-- A payment that exists keeps all but the columns of its state. -/
theorem payment_write (entry : Entry) {id : String} {p : Payment} (h : db.payment id = some p) :
    ∃ state, (entry.write db).payment id = some (p.after state) := by
  cases entry with
  | stripe op reply => exact ⟨_, h⟩
  | query q reply =>
      cases q with
      | insertPayment payment =>
          refine ⟨p.toPaymentState, ?_⟩
          show Table.find Payment.id id (db.payments ++ [payment]) = some p
          rw [Table.find_insert, show Table.find Payment.id id db.payments = some p from h]
          rfl
      | updatePayment id' state =>
          show ∃ _, Table.find Payment.id id (db.updated id' state) = _
          rw [payment_updated]
          by_cases heq : id = id'
          · rw [if_pos heq, ← heq, h]
            exact ⟨state, rfl⟩
          · rw [if_neg heq]
            exact ⟨_, h⟩
      | _ => exact ⟨_, h⟩

theorem payment_applyAll (log : List Entry) {id : String} {p : Payment}
    (h : db.payment id = some p) :
    ∃ state, (applyAll log db).payment id = some (p.after state) := by
  induction log generalizing db p with
  | nil => exact ⟨_, h⟩
  | cons entry log ih =>
      obtain ⟨state, hstate⟩ := payment_write entry h
      obtain ⟨state', hstate'⟩ := ih hstate
      exact ⟨state', hstate'⟩

theorem ids_updated {id : String} {state : PaymentState} :
    (db.updated id state).map Payment.id = db.payments.map Payment.id :=
  Table.map_key_modify fun _ h => h

theorem payment_inserted {payment : Payment} {id : String}
    (h : ∀ other ∈ db.payments, other.id ≠ payment.id) :
    Table.find Payment.id id (db.payments ++ [payment]) =
      if id = payment.id then some payment else db.payment id := by
  rw [Table.find_insert]
  by_cases hid : payment.id = id
  · subst hid
    rw [Table.find_eq_none.mpr h, if_pos rfl, if_pos rfl]
    rfl
  · rw [if_neg hid, if_neg (Ne.symm hid), Option.or_none]

theorem refunded_congr {db' : Database} (h : db'.refunds = db.refunds) (id : String) :
    db'.refunded id = db.refunded id := by
  rw [Database.refunded, h, Database.refunded]

theorem refunded_append {db' : Database} {refund : Refund}
    (h : db'.refunds = db.refunds ++ [refund]) (id : String) :
    db'.refunded id = db.refunded id +
      if refund.paymentId = id ∧ refund.status = .succeeded then refund.amount else 0 := by
  rw [Database.refunded, h, List.filter_append, List.map_append, List.sum_append]
  by_cases hrefund : refund.paymentId = id ∧ refund.status = .succeeded
  · simp [Database.refunded, hrefund.1, hrefund.2]
  · have hfilter : (decide (refund.paymentId = id) && decide (refund.status = .succeeded)) =
        false := by
      simpa using hrefund
    simp [Database.refunded, hrefund, hfilter]

/-! ## Replies that are still right -/

def Entry.AnsweredBy : Entry → Database → Prop
  | .query q reply, db => q.violates db = false ∧ reply = q.read db
  | .stripe _ _, _ => True

/-- The entries would get the same replies again, in their order. -/
def Replays : List Entry → Database → Prop
  | [], _ => True
  | entry :: log, db => entry.AnsweredBy db ∧ Replays log (entry.write db)

theorem replays_append : Replays (log ++ log') db ↔ Replays log db ∧ Replays log' (applyAll log db) := by
  induction log generalizing db with
  | nil => simp [Replays]
  | cons entry log ih =>
      simp only [List.cons_append, Replays, ih, applyAll_cons, and_assoc]

/-- The record that a claim found. -/
theorem replays_claim (h : Claim k claim) (hreplays : Replays claim db) :
    ∀ record, db.key k = some record → ¬record.Final := by
  intro record hrecord hfinal
  cases h with
  | fresh href hprocessing =>
      have hnone : none = db.key k := hreplays.1.2
      rw [hrecord] at hnone
      cases hnone
  | kept href hopen hidle =>
      have hsome : some _ = db.key k := hreplays.1.2
      rw [hrecord, Option.some.injEq] at hsome
      exact hopen (hsome ▸ hfinal)
  | restored href hopen hidle =>
      have hsome : some _ = db.key k := hreplays.1.2
      rw [hrecord, Option.some.injEq] at hsome
      exact hopen (hsome ▸ hfinal)

theorem replays_created (hclaim : Claim k claim) {dto : CreatePaymentIntentDto}
    {intent : StripeIntent} {id : String}
    (h : Replays (claim ++ createdLog k dto intent id) db) :
    (Query.insertPayment (newPayment id dto k.idempotencyKey .stripe intent)).violates db =
      false := by
  obtain ⟨keys, hkeys⟩ := applyAll_claim hclaim db
  have hlog := (replays_append.mp h).2
  rw [hkeys] at hlog
  exact hlog.2.1.1

theorem replays_confirmed (hclaim : Claim k claim) {paymentId gatewayPaymentId : String}
    {payment : Payment} {result : PaymentResult} {now n : Nat}
    (hcaptured : Captured gatewayPaymentId κ result)
    (h : Replays (claim ++ confirmedLog k paymentId payment κ result now n) db) :
    db.payment paymentId = some payment ∧
      (result.success = true → n = db.ledger.countP (EntryFilter.ofPayment payment.id).selects) := by
  obtain ⟨keys, hkeys⟩ := applyAll_claim hclaim db
  have hanswers : applyAll κ { db with keys } = { db with keys } := hcaptured.applyAll
  have hlog := (replays_append.mp h).2
  rw [hkeys] at hlog
  have hpayment : some payment = ({ db with keys } : Database).payment paymentId := hlog.1.2
  refine ⟨hpayment.symm, fun hsuccess => ?_⟩
  have hrest := (replays_append.mp ((replays_append.mp hlog.2).1)).2
  change Replays _ (applyAll κ { db with keys }) at hrest
  rw [hanswers, if_pos hsuccess] at hrest
  exact hrest.2.1.2

theorem replays_refunded (hclaim : Claim k claim) {dto : CreateRefundDto} {payment : Payment}
    {total : Nat} {result : RefundResult} {id : String} {now n : Nat} {transactionId : String}
    {amount : Nat} {reason : Option String}
    (hanswered : Refunded transactionId amount reason κ result)
    (h : Replays (claim ++ refundedLog k dto payment total κ result id now n) db) :
    db.payment dto.paymentId = some payment ∧ total = db.refunded payment.id ∧
      (∀ refund ∈ db.refunds, refund.id ≠ id) ∧
      (result.success = true → n = db.ledger.countP (EntryFilter.ofRefund id).selects) := by
  obtain ⟨keys, hkeys⟩ := applyAll_claim hclaim db
  have hanswers : applyAll κ { db with keys } = { db with keys } := hanswered.applyAll
  have hlog := (replays_append.mp h).2
  rw [hkeys] at hlog
  have hpayment : some payment = ({ db with keys } : Database).payment dto.paymentId := hlog.1.2
  have htotal : total = ({ db with keys } : Database).refunded payment.id := hlog.2.1.2
  have hrest := (replays_append.mp ((replays_append.mp hlog.2.2).1)).2
  change Replays _ (applyAll κ { db with keys }) at hrest
  rw [hanswers] at hrest
  refine ⟨hpayment.symm, htotal, ?_, fun hsuccess => ?_⟩
  · have hfree : (db.refunds.any fun other => other.id = id || _) = false := hrest.1.1
    intro refund hmem heq
    have hrefund := List.any_eq_false.mp hfree refund hmem
    simp [heq] at hrefund
  · have hledger := hrest.2
    rw [if_pos hsuccess] at hledger
    exact hledger.2.1.2

end FlightBookings.Payment
