import FlightBookings.Payment.Rows

/-! # The requests of the payment service follow the protocol

Every operation that a request comes to await is legal for what the call then
knows, whatever the replies were before.
-/

namespace FlightBookings.Payment

open Await

/-- A call that only does what is legal, from what it knows at its start. -/
abbrev Follows {α : Type} (c : Call α) (t : CallLog) (Q : α → Unit → CallLog → Prop)
    (E : Unit → CallLog → Prop) : Prop :=
  c.Ensures (tracked Op.Legal Op.Replies advance) () t Q E

variable {t : CallLog} {κ claim : List Entry} {k : KeyRef} {α : Type}

def CallLog.within (t : CallLog) (κ : List Entry) : CallLog := { t with pending := κ }

@[simp] theorem CallLog.within_request : (t.within κ).request = t.request := rfl
@[simp] theorem CallLog.within_pending : (t.within κ).pending = κ := rfl
@[simp] theorem CallLog.within_committed : (t.within κ).committed = t.committed := rfl

theorem CallLog.within_self (h : t.pending = κ) : t.within κ = t := by
  subst h
  rfl

/-- The body of a transaction that has already done `κ`. -/
abbrev Body (c : Call α) (t : CallLog) (κ : List Entry) (Q : α → Unit → CallLog → Prop) : Prop :=
  Follows c (t.within κ) Q fun _ t' => ∃ κ', t' = t.within κ'

theorem await_follows {op : Op} {Q : op.Ret → Unit → CallLog → Prop} {E : Unit → CallLog → Prop}
    (hlegal : op.Legal t) (hok : ∀ a, op.Replies (.ok a) → Q a () (advance op (.ok a) t))
    (herror : ∀ e, op.Replies (.error e) → E () (advance op (.error e) t)) :
    Follows (Call.await op) t Q E := by
  refine ⟨hlegal, ?_⟩
  intro r hr
  cases r with
  | ok a => exact hok a hr
  | error e => exact herror e hr

theorem uuid_follows {Q : String → Unit → CallLog → Prop} {E : Unit → CallLog → Prop}
    (hE : E () t) (h : ∀ id, Q id () t) : Follows uuid t Q E :=
  await_follows trivial (fun id _ => h id) fun _ _ => hE

theorem dateNow_follows {Q : Nat → Unit → CallLog → Prop} {E : Unit → CallLog → Prop}
    (hE : E () t) (h : ∀ now, Q now () t) : Follows dateNow t Q E :=
  await_follows trivial (fun now _ => h now) fun _ _ => hE

theorem auto_follows {q : Query} {Q : q.Ret → Unit → CallLog → Prop} {E : Unit → CallLog → Prop}
    (hlegal : (Op.auto q).Legal t) (hE : E () t)
    (h : ∀ reply, q.Answers reply →
      Q reply () { t with seen := if q.isRead then t.seen ++ [.query q reply] else [] }) :
    Follows (auto q) t Q E :=
  await_follows hlegal h fun _ _ => hE

theorem sql_body {q : Query} {Q : q.Ret → Unit → CallLog → Prop}
    (hlegal : (Op.sql q).Legal (t.within κ))
    (h : ∀ reply, q.Answers reply → Q reply () (t.within (κ ++ [.query q reply]))) :
    Body (sql q) t κ Q :=
  await_follows hlegal h fun _ _ => ⟨κ, rfl⟩

theorem stripe_body {op : StripeOp} {Q : op.Ret → Unit → CallLog → Prop}
    (hlegal : (Op.stripe op).Legal (t.within κ))
    (h : ∀ reply, Q reply () (t.within (κ ++ [.stripe op reply]))) :
    Body (Call.await (Op.stripe op)) t κ Q :=
  await_follows hlegal (fun reply _ => h reply) fun _ _ => ⟨κ, rfl⟩

/-! ## Idempotency keys -/

theorem safeKeyOf_follows {E : Unit → CallLog → Prop} (idempotencyKey : Option String)
    (hE : E () t) :
    Follows (safeKeyOf idempotencyKey) t (fun key _ t' => t' = t ∧ Carries idempotencyKey key)
      E := by
  cases idempotencyKey with
  | none => exact uuid_follows hE fun _ => ⟨rfl, nofun⟩
  | some key =>
      unfold safeKeyOf
      by_cases hkey : key = ""
      · subst hkey
        refine uuid_follows hE fun id => ⟨rfl, ?_⟩
        intro s hs hne
        cases hs
        exact absurd rfl hne
      · dsimp only
        rw [if_neg hkey]
        exact .pure ⟨rfl, fun s hs _ => Option.some.inj hs⟩

theorem claimIdempotency_body {hash : Payload} {reused processing : String}
    (hnames : t.request.Names k) :
    Body (claimIdempotency k hash reused processing) t [] fun existing _ t' =>
      match existing with
      | some body => ∃ record : IdempotencyKey, record.ref = k ∧ record.Final ∧
          record.responseBody = some body ∧ t' = t.within (replayedLog k record)
      | none => ∃ claim, Claim k claim ∧ t' = t.within claim := by
  have hfind : (Op.sql (.findKey k)).Legal (t.within []) := ⟨rfl, hnames⟩
  refine .bind (sql_body hfind fun existing hexisting => ?_)
  cases existing with
  | none =>
      have hinsert : (Op.sql (.insertKey (newKey k hash))).Legal
          (t.within [.query (.findKey k) none]) := ⟨rfl, rfl⟩
      refine .bind (sql_body hinsert fun _ _ => .pure ?_)
      exact ⟨_, .fresh rfl rfl, rfl⟩
  | some record =>
      have href : record.ref = k := hexisting record rfl
      dsimp only
      split
      · exact .throw ⟨_, rfl⟩
      · split
        · rename_i hfinal
          refine .pure ?_
          obtain ⟨body, hbody⟩ := Option.isSome_iff_exists.mp hfinal.2
          rw [hbody]
          exact ⟨record, href, hfinal, hbody, rfl⟩
        · rename_i hopen
          split
          · exact .throw ⟨_, rfl⟩
          · rename_i hidle
            subst href
            refine .bind (.bind (sql_body trivial fun row _ => .whenever (fun _ => ?_) fun _ => ?_))
            · refine sql_body trivial fun _ _ => .pure ?_
              exact ⟨_, .restored rfl hopen hidle, rfl⟩
            · refine .pure ?_
              exact ⟨_, .kept rfl hopen hidle, rfl⟩

/-- What a call leaves that throws: no open transaction, and a committed one only when the broker
did not take its message. -/
def Aborted (t : CallLog) : Prop := t.pending = [] ∧ (t.committed = none ∨ t.undelivered ≠ [])

theorem markingFailed_follows {body : Call α} {Q : α → Unit → CallLog → Prop}
    (h : Follows body t Q fun _ => Aborted) :
    Follows (markingFailed k body) t Q fun _ => Aborted := by
  refine .tryCatch h fun e _ t' haborted => .bind (.bind ?_)
  have hfind : (Op.auto (.findKey k)).Legal t' := haborted.1
  refine auto_follows hfind haborted fun record _ => ?_
  cases record with
  | none => exact .pure (.throw haborted)
  | some record =>
      have hupdate : (Op.auto (.updateKey k (failedState record e))).Legal
          { t' with seen := t'.seen ++ [.query (.findKey k) (some record)] } :=
        ⟨haborted.1, rfl⟩
      exact auto_follows hupdate haborted fun _ _ => .throw haborted

/-- What a transaction that commits leaves to its call. -/
def CallLog.closed (t : CallLog) (κ : List Entry) : CallLog :=
  { t with seen := [], pending := [], committed := some κ }

theorem transaction_follows {body : Call α} {R : α → List Entry → Prop} (hpending : t.pending = [])
    (hcommitted : t.committed = none)
    (h : Body body t [] fun a _ t' => ∃ κ, t' = t.within κ ∧ Shape t.request κ ∧ R a κ) :
    Follows (transaction body) t
      (fun a _ t' => ∃ κ, t' = t.closed κ ∧ Shape t.request κ ∧ R a κ) fun _ t' => t' = t := by
  have hself : t.within [] = t := CallLog.within_self hpending
  have hbody : Follows (do Call.await Op.begin; let a ← body; Call.await Op.commit; pure a) t
      (fun a _ t' => ∃ κ, t' = t.closed κ ∧ Shape t.request κ ∧ R a κ)
      fun _ t' => ∃ κ, t' = t.within κ := by
    refine .bind (await_follows ⟨hpending, hcommitted⟩ ?_ fun _ _ => ⟨[], hself.symm⟩)
    intro _ _
    rw [Body, hself] at h
    refine .andThen h (fun _ _ h => h) fun a _ t' ht' => ?_
    obtain ⟨κ, rfl, hshape, hR⟩ := ht'
    refine .bind (await_follows ⟨hshape, hcommitted⟩ ?_ fun _ _ => ⟨κ, rfl⟩)
    intro _ _
    exact .pure ⟨κ, rfl, hshape, hR⟩
  refine .tryCatch hbody fun e _ t' ht' => ?_
  obtain ⟨κ, rfl⟩ := ht'
  refine .bind (await_follows trivial ?_ fun _ h => h.elim)
  intro _ _
  exact .throw hself

/-! ## Payment intents -/

theorem stripe_legal (op : StripeOp) {rest : List Entry} (hnames : t.request.Names k)
    (hclaim : Claim k claim) (hrest : ∀ entry ∈ rest, entry.isRefund = false) :
    (Op.stripe op).Legal (t.within (claim ++ rest)) :=
  ⟨k, claim, rest, hnames, hclaim, rfl, hrest⟩

theorem stripe_legal_claim (op : StripeOp) (hnames : t.request.Names k) (hclaim : Claim k claim) :
    (Op.stripe op).Legal (t.within claim) :=
  ⟨k, claim, [], hnames, hclaim, (List.append_nil claim).symm, fun _ h => by cases h⟩

theorem createPaymentIntentBody_body {dto : CreatePaymentIntentDto} {idempotencyKey : Option String}
    {safeKey : String} {gateway : Gateway}
    (hrequest : t.request = .createPaymentIntent dto idempotencyKey)
    (hkey : Carries idempotencyKey safeKey) :
    Body (createPaymentIntentBody dto safeKey gateway) t [] fun _ _ t' =>
      ∃ κ, t' = t.within κ ∧ Shape t.request κ ∧ True := by
  have hnames : t.request.Names ⟨.createPaymentIntent, safeKey⟩ := by
    rw [hrequest]
    exact ⟨rfl, hkey⟩
  refine .andThen (claimIdempotency_body hnames) (fun _ _ h => h) fun existing _ t₁ h₁ => ?_
  cases existing with
  | some body =>
      obtain ⟨record, href, hfinal, -, rfl⟩ := h₁
      exact .pure ⟨_, rfl, .replayed hnames href hfinal, trivial⟩
  | none =>
      obtain ⟨claim, hclaim, rfl⟩ := h₁
      cases gateway with
      | paypal => exact .bind (.throw ⟨_, rfl⟩)
      | stripe =>
          refine .bind (stripe_body (stripe_legal_claim _ hnames hclaim) fun intent => ?_)
          refine .bind (uuid_follows ⟨_, rfl⟩ fun id => ?_)
          refine .bind (sql_body trivial fun _ _ => .bind (sql_body trivial fun _ _ => .pure ?_))
          refine ⟨claim ++ createdLog _ dto intent id, ?_, .created hnames hclaim hrequest, trivial⟩
          simp [createdLog, completedEntry]

/-! ## Confirmation -/

theorem isRefund_of_isAnswer {entry : Entry} (h : entry.isAnswer = true) :
    entry.isRefund = false := by
  cases entry with
  | query q reply => rfl
  | stripe op reply =>
      cases op with
      | refund transactionId amount reason => cases h
      | _ => rfl

theorem capturePayment_body {gateway : Gateway} {gatewayPaymentId : String} {rest : List Entry}
    (hnames : t.request.Names k) (hclaim : Claim k claim)
    (hrest : ∀ entry ∈ rest, entry.isRefund = false) :
    Body (gateway.capturePayment gatewayPaymentId) t (claim ++ rest) fun result _ t' =>
      ∃ answers, t' = t.within (claim ++ (rest ++ answers)) ∧
        Captured gatewayPaymentId answers result := by
  cases gateway with
  | paypal => exact .throw ⟨_, rfl⟩
  | stripe =>
      let E (_ : Unit) (t' : CallLog) : Prop :=
        ∃ answers, t' = t.within (claim ++ (rest ++ answers)) ∧ answers.all Entry.isAnswer = true
      have hstripe : ∀ (op : StripeOp) (answers : List Entry) (Q : op.Ret → Unit → CallLog → Prop),
          answers.all Entry.isAnswer = true →
          (∀ reply, Q reply () (t.within (claim ++ (rest ++ (answers ++ [.stripe op reply]))))) →
          Follows (Call.await (Op.stripe op)) (t.within (claim ++ (rest ++ answers))) Q E := by
        intro op answers Q hanswers h
        refine await_follows (stripe_legal op hnames hclaim ?_) (fun reply _ => ?_)
          fun _ _ => ⟨answers, rfl, hanswers⟩
        · intro entry hentry
          rcases List.mem_append.mp hentry with hold | hnew
          · exact hrest entry hold
          · exact isRefund_of_isAnswer (List.all_eq_true.mp hanswers entry hnew)
        · have hreply := h reply
          rw [← List.append_assoc rest, ← List.append_assoc claim] at hreply
          exact hreply
      have hcapture : Follows (do
          let paymentIntent : StripeIntent ← Call.await (Op.stripe (.retrieve gatewayPaymentId))
          Call.whenever (paymentIntent.status = "requires_confirmation") <|
            Call.await (Op.stripe (.confirm gatewayPaymentId))
          Call.whenever (paymentIntent.status = "requires_capture") <|
            Call.await (Op.stripe (.capture gatewayPaymentId))
          let updated : StripeIntent ← Call.await (Op.stripe (.retrieve gatewayPaymentId))
          pure (Gateway.captured updated)) (t.within (claim ++ (rest ++ [])))
          (fun result _ t' => ∃ answers, t' = t.within (claim ++ (rest ++ answers)) ∧
            Captured gatewayPaymentId answers result) E := by
        have hlast : ∀ answers, answers.all Entry.isAnswer = true →
            Follows (do
              let updated : StripeIntent ← Call.await (Op.stripe (.retrieve gatewayPaymentId))
              pure (Gateway.captured updated)) (t.within (claim ++ (rest ++ answers)))
              (fun result _ t' => ∃ answers, t' = t.within (claim ++ (rest ++ answers)) ∧
                Captured gatewayPaymentId answers result) E := by
          intro answers hanswers
          refine .bind (hstripe _ answers _ hanswers fun updated => .pure ?_)
          exact ⟨_, rfl, .retrieved hanswers⟩
        have hcaptured : ∀ (status : String) answers, answers.all Entry.isAnswer = true →
            Follows (do
              Call.whenever (status = "requires_capture") <|
                Call.await (Op.stripe (.capture gatewayPaymentId))
              let updated : StripeIntent ← Call.await (Op.stripe (.retrieve gatewayPaymentId))
              pure (Gateway.captured updated)) (t.within (claim ++ (rest ++ answers)))
              (fun result _ t' => ∃ answers, t' = t.within (claim ++ (rest ++ answers)) ∧
                Captured gatewayPaymentId answers result) E := by
          intro status answers hanswers
          refine .bind (.whenever (fun _ => ?_) fun _ => hlast _ hanswers)
          refine hstripe _ answers _ hanswers fun reply => hlast _ ?_
          simp [hanswers, Entry.isAnswer]
        refine .bind (hstripe _ [] _ rfl fun intent => ?_)
        refine .bind (.whenever (fun _ => ?_) fun _ => hcaptured _ _ rfl)
        exact hstripe _ _ _ rfl fun reply => hcaptured _ _ rfl
      rw [List.append_nil] at hcapture
      refine .tryCatch hcapture fun e _ t' ht' => ?_
      obtain ⟨answers, rfl, hanswers⟩ := ht'
      exact .pure ⟨answers, rfl, .failed hanswers⟩

/-- No ledger entries yet. -/
def NoEntries (κ : List Entry) : Prop := ∀ entries, .query (.insertEntries entries) () ∉ κ

theorem noEntries_append {κ' : List Entry} (h : NoEntries κ) (h' : NoEntries κ') :
    NoEntries (κ ++ κ') := by
  intro entries hmem
  rcases List.mem_append.mp hmem with hold | hnew
  · exact h entries hold
  · exact h' entries hnew

theorem noEntries_claim (h : Claim k claim) : NoEntries claim := by
  intro entries hmem
  cases h <;> simp at hmem

theorem noEntries_answers (h : κ.all Entry.isAnswer = true) : NoEntries κ := by
  intro entries hmem
  have hanswer := List.all_eq_true.mp h _ hmem
  cases hanswer

theorem createPaymentLedgerEntries_body {payment : Payment} {referenceId : String} (now : Nat)
    (hupdated : ∃ state, .query (.updatePayment payment.id state) () ∈ κ) (hnone : NoEntries κ)
    (hconfirmedAt : payment.confirmedAt = some now) :
    Body (createPaymentLedgerEntries payment referenceId) t κ fun _ _ t' =>
      ∃ n, t' = t.within (κ ++
        ledgerLog (.ofPayment payment.id) n (paymentEntries payment referenceId now)) := by
  have hcount : (Op.sql (.countEntries (.ofPayment payment.id))).Legal (t.within κ) :=
    ⟨hupdated, hnone⟩
  refine .bind (sql_body hcount fun n _ => ?_)
  split
  · rename_i hpositive
    refine .pure ⟨n, ?_⟩
    rw [ledgerLog, if_pos hpositive]
  · rename_i hzero
    rw [hconfirmedAt]
    refine .bind (.pure (sql_body trivial fun _ _ => ⟨n, ?_⟩))
    rw [ledgerLog, if_neg hzero, List.append_assoc]
    rfl

/-- What the body of a confirmation hands on: a response that its call has to announce when it
captured the payment. -/
def Concludes (request : Request) (r : ResponseBody × Option (Payment × String))
    (κ : List Entry) : Prop :=
  match r.2 with
  | none => ∀ sent, Outcome sent κ r.1
  | some (payment, transactionId) =>
      (∀ reference, getBookingReference payment = some reference →
        Announces request κ (paymentCompleted payment transactionId reference)) ∧
      ∀ sent, (∀ reference, getBookingReference payment = some reference →
        paymentCompleted payment transactionId reference ∈ sent) → Outcome sent κ r.1

theorem confirmed_concludes {paymentId : String} {payment : Payment} {answers : List Entry}
    {result : PaymentResult} {now n : Nat} {request : Request} (hnames : request.Names k)
    (hclaim : Claim k claim) (hscope : k.scope = .confirmPayment paymentId)
    (hid : payment.id = paymentId) :
    Concludes request
      (.payment (payment.after (capturedState payment result now)),
        if result.success then
          some (payment.after (capturedState payment result now), result.transactionId)
        else none)
      (claim ++ confirmedLog k paymentId payment answers result now n) := by
  by_cases hsuccess : result.success = true
  · rw [if_pos hsuccess]
    refine ⟨fun reference hreference => ?_, fun sent hsent => ?_⟩
    · exact .confirmed hnames hclaim hscope hid hsuccess hreference
    · exact .confirmed hclaim hid fun reference _ => hsent reference
  · rw [if_neg hsuccess]
    exact fun sent => .confirmed hclaim hid fun _ h => absurd h hsuccess

theorem confirmPaymentIntentBody_body {paymentId safeKey : String} {named : Option String}
    (hnames : t.request.Names ⟨.confirmPayment paymentId, safeKey⟩)
    (hconfirms : t.request.Confirms named) :
    Body (confirmPaymentIntentBody paymentId named safeKey) t [] fun r _ t' =>
      ∃ κ, t' = t.within κ ∧ Shape t.request κ ∧ Concludes t.request r κ := by
  refine .andThen (claimIdempotency_body hnames) (fun _ _ h => h) fun existing _ t₁ h₁ => ?_
  cases existing with
  | some body =>
      obtain ⟨record, href, hfinal, hbody, rfl⟩ := h₁
      exact .pure ⟨_, rfl, .replayed hnames href hfinal, fun _ => .replayed hfinal hbody⟩
  | none =>
      obtain ⟨claim, hclaim, rfl⟩ := h₁
      have hfind : (Op.sql (.findPayment paymentId)).Legal (t.within claim) := ⟨_, hclaim⟩
      refine .bind (sql_body hfind fun found hfound => ?_)
      cases found with
      | none => exact .throw ⟨_, rfl⟩
      | some payment =>
          have hid : payment.id = paymentId := hfound payment rfl
          dsimp only
          split
          · rename_i hsettled
            refine .bind (sql_body trivial fun _ _ => .pure ?_)
            refine ⟨claim ++ settledLog _ paymentId payment, ?_,
              .settled hnames hclaim rfl hid hsettled, fun _ => .settled hclaim hid hsettled⟩
            simp [settledLog, completedEntry]
          · rename_i hunsettled
            rw [Bool.not_eq_true] at hunsettled
            refine .bind (.ofExcept (fun _ _ => ⟨_, rfl⟩) fun gateway _ => ?_)
            refine .andThen (capturePayment_body hnames hclaim (by simp [Entry.isRefund]))
              (fun _ _ h => h) fun result _ t₂ h₂ => ?_
            obtain ⟨answers, rfl, hcaptured⟩ := h₂
            refine .bind (dateNow_follows ⟨_, rfl⟩ fun now => .bind (sql_body trivial fun _ _ => ?_))
            have hshape : ∀ n, Shape t.request
                (claim ++ confirmedLog _ paymentId payment answers result now n) :=
              fun n => .confirmed hnames hclaim rfl hid hunsettled hconfirms hcaptured
            refine .bind (.whenever (fun hsuccess => ?_) fun hfailure => ?_)
            · refine .mono (createPaymentLedgerEntries_body now ?_ ?_ ?_)
                (fun _ _ t₃ h₃ => ?_) fun _ _ h => h
              · exact ⟨_, List.mem_append_right _ (List.mem_singleton_self _)⟩
              · refine noEntries_append (noEntries_append (noEntries_claim hclaim) ?_) ?_
                · exact noEntries_append (by simp [NoEntries]) (noEntries_answers hcaptured.answers)
                · simp [NoEntries]
              · simp [capturedState, hsuccess]
              · obtain ⟨n, rfl⟩ := h₃
                refine .bind (sql_body trivial fun _ _ => .pure ?_)
                refine ⟨_, ?_, hshape n, confirmed_concludes hnames hclaim rfl hid⟩
                simp [confirmedLog, completedEntry, hsuccess]
            · refine .bind (sql_body trivial fun _ _ => .pure ?_)
              refine ⟨_, ?_, hshape 0, confirmed_concludes hnames hclaim rfl hid⟩
              simp [confirmedLog, completedEntry, hfailure]

/-! ## Refunds -/

theorem refundPayment_body {gateway : Gateway} {transactionId : String} {amount : Nat}
    {reason : Option String} {rest : List Entry} (hnames : t.request.Names k)
    (hclaim : Claim k claim) (hrest : ∀ entry ∈ rest, entry.isRefund = false) :
    Body (gateway.refundPayment transactionId amount reason) t (claim ++ rest) fun result _ t' =>
      ∃ answers, t' = t.within (claim ++ rest ++ answers) ∧
        Refunded transactionId amount reason answers result := by
  cases gateway with
  | paypal => exact .throw ⟨_, rfl⟩
  | stripe =>
      have hrefund : Follows (do
          let refund : StripeRefund ← Call.await (Op.stripe (.refund transactionId amount reason))
          pure
            { success := refund.status = "succeeded"
              refundId := refund.id
              amount := refund.amount
              status := refund.status
              errorMessage := none : RefundResult }) (t.within (claim ++ rest))
          (fun result _ t' => ∃ answers, t' = t.within (claim ++ rest ++ answers) ∧
            Refunded transactionId amount reason answers result)
          fun _ t' => t' = t.within (claim ++ rest) := by
        refine .bind (await_follows (stripe_legal _ hnames hclaim hrest) ?_ fun _ _ => rfl)
        intro refund _
        exact .pure ⟨_, rfl, .answered⟩
      refine .tryCatch hrefund fun e _ t' ht' => .pure ⟨[], ?_, .failed⟩
      rw [ht', List.append_nil]

theorem createRefundLedgerEntries_body {payment : Payment} {refund : Refund} (now : Nat)
    (hprocessedAt : refund.processedAt = some now) :
    Body (createRefundLedgerEntries payment refund) t κ fun _ _ t' =>
      ∃ n, t' = t.within (κ ++
        ledgerLog (.ofRefund refund.id) n (refundEntries payment refund now)) := by
  refine .bind (sql_body trivial fun n _ => ?_)
  split
  · rename_i hpositive
    refine .pure ⟨n, ?_⟩
    rw [ledgerLog, if_pos hpositive]
  · rename_i hzero
    rw [hprocessedAt]
    refine .bind (.pure (sql_body trivial fun _ _ => ⟨n, ?_⟩))
    rw [ledgerLog, if_neg hzero, List.append_assoc]
    rfl

theorem createRefundBody_body {dto : CreateRefundDto} {idempotencyKey : Option String}
    {safeKey : String} (hrequest : t.request = .createRefund dto idempotencyKey)
    (hkey : Carries idempotencyKey safeKey) :
    Body (createRefundBody dto safeKey) t [] fun _ _ t' =>
      ∃ κ, t' = t.within κ ∧ Shape t.request κ ∧ True := by
  have hnames : t.request.Names ⟨.refund dto.paymentId, safeKey⟩ := by
    rw [hrequest]
    exact ⟨rfl, hkey⟩
  refine .andThen (claimIdempotency_body hnames) (fun _ _ h => h) fun existing _ t₁ h₁ => ?_
  cases existing with
  | some body =>
      obtain ⟨record, href, hfinal, -, rfl⟩ := h₁
      exact .pure ⟨_, rfl, .replayed hnames href hfinal, trivial⟩
  | none =>
      obtain ⟨claim, hclaim, rfl⟩ := h₁
      have hfind : (Op.sql (.findPayment dto.paymentId)).Legal (t.within claim) := ⟨_, hclaim⟩
      refine .bind (sql_body hfind fun found hfound => ?_)
      cases found with
      | none => exact .throw ⟨_, rfl⟩
      | some payment =>
          have hid : payment.id = dto.paymentId := hfound payment rfl
          dsimp only
          split
          · exact .throw ⟨_, rfl⟩
          · rename_i hstatus
            have hrefundable : payment.status = .confirmed ∨
                payment.status = .partiallyRefunded := by
              rwa [not_and_or, not_not, not_not] at hstatus
            refine .bind (sql_body trivial fun (total : Nat) _ => ?_)
            split
            · exact .throw ⟨_, rfl⟩
            · rename_i hamount
              have hbalance : total + dto.amount ≤ payment.amount := by omega
              refine .bind (.ofExcept (fun _ _ => ⟨_, rfl⟩) fun gateway _ => ?_)
              rw [List.append_assoc]
              refine .andThen (refundPayment_body hnames hclaim (by simp [Entry.isRefund]))
                (fun _ _ h => h) fun result _ t₂ h₂ => ?_
              obtain ⟨answers, rfl, hanswered⟩ := h₂
              refine .bind (uuid_follows ⟨_, rfl⟩ fun id => .bind (dateNow_follows ⟨_, rfl⟩ ?_))
              intro now
              have hshape : ∀ n, Shape t.request
                  (claim ++ refundedLog _ dto payment total answers result id now n) :=
                fun n => .refunded hnames hclaim hrequest hid hrefundable hbalance hanswered
              refine .bind (sql_body trivial fun _ _ => .bind (.whenever (fun hsuccess => ?_) ?_))
              · refine .bind (sql_body trivial fun _ _ => ?_)
                refine .mono (createRefundLedgerEntries_body now ?_)
                  (fun _ _ t₃ h₃ => ?_) fun _ _ h => h
                · simp [newRefund, hsuccess]
                · obtain ⟨n, rfl⟩ := h₃
                  refine .bind (sql_body trivial fun _ _ => .pure ?_)
                  refine ⟨_, ?_, hshape n, trivial⟩
                  simp [refundedLog, hsuccess, newRefund]
              · intro hfailure
                refine .bind (sql_body trivial fun _ _ => .pure ?_)
                refine ⟨_, ?_, hshape 0, trivial⟩
                simp [refundedLog, hfailure]

/-! ## The requests -/

/-- What a confirmation leaves when it resolves. -/
def Confirmed (t : CallLog) (body : ResponseBody) (t' : CallLog) : Prop :=
  t'.pending = [] ∧ t'.request = t.request ∧
    ∃ log, t'.committed = some log ∧ Outcome t'.sent log body

theorem confirmPaymentIntent_follows {paymentId : String} {named idempotencyKey : Option String}
    (hpending : t.pending = []) (hcommitted : t.committed = none)
    (hnames : ∀ key, Carries idempotencyKey key →
      t.request.Names ⟨.confirmPayment paymentId, key⟩)
    (hconfirms : t.request.Confirms named) :
    Follows (confirmPaymentIntent paymentId named idempotencyKey) t
      (fun body _ t' => Confirmed t body t') fun _ => Aborted := by
  have haborted : Aborted t := ⟨hpending, .inl hcommitted⟩
  refine .andThen (safeKeyOf_follows (E := fun _ => Aborted) idempotencyKey haborted)
    (fun _ _ h => h) fun key _ t₁ h₁ => ?_
  obtain ⟨rfl, hkey⟩ := h₁
  refine markingFailed_follows ?_
  refine .andThen (transaction_follows hpending hcommitted
    (confirmPaymentIntentBody_body (hnames key hkey) hconfirms)) (fun _ _ h => h ▸ haborted) ?_
  intro r _ t₂ h₂
  obtain ⟨κ, rfl, hshape, hconcludes⟩ := h₂
  obtain ⟨response, confirmed⟩ := r
  cases confirmed with
  | none => exact .bind (.pure (.pure ⟨rfl, rfl, κ, rfl, hconcludes t₁.sent⟩))
  | some confirmed =>
      obtain ⟨payment, transactionId⟩ := confirmed
      obtain ⟨hannounces, houtcome⟩ := hconcludes
      dsimp only [publishPaymentCompletedEvent]
      cases hreference : getBookingReference payment with
      | none =>
          refine .bind (.pure (.pure ⟨rfl, rfl, κ, rfl, houtcome _ fun reference h => ?_⟩))
          rw [hreference] at h
          cases h
      | some reference =>
          have hpublish : (Op.publish (paymentCompleted payment transactionId reference)).Legal
              (t₁.closed κ) := ⟨rfl, κ, rfl, hannounces reference hreference⟩
          refine .bind (await_follows hpublish (fun _ _ => .pure ⟨rfl, rfl, κ, rfl, ?_⟩)
            fun _ _ => ⟨rfl, .inr (by simp [advance])⟩)
          refine houtcome _ fun reference' h => ?_
          rw [hreference, Option.some.injEq] at h
          subst h
          exact List.mem_append_right _ (List.mem_singleton_self _)

/-- What a request that confirms nothing leaves. -/
def Through (t : CallLog) (t' : CallLog) : Prop := t'.pending = [] ∧ t'.request = t.request

theorem createPaymentIntent_follows {dto : CreatePaymentIntentDto} {idempotencyKey : Option String}
    (hrequest : t.request = .createPaymentIntent dto idempotencyKey) (hpending : t.pending = [])
    (hcommitted : t.committed = none) :
    Follows (createPaymentIntent dto idempotencyKey) t (fun _ _ t' => Through t t')
      fun _ => Aborted := by
  have haborted : Aborted t := ⟨hpending, .inl hcommitted⟩
  refine .andThen (safeKeyOf_follows (E := fun _ => Aborted) idempotencyKey haborted)
    (fun _ _ h => h) fun key _ t₁ h₁ => ?_
  obtain ⟨rfl, hkey⟩ := h₁
  refine .bind (.ofExcept (fun _ _ => haborted) fun gateway _ => markingFailed_follows ?_)
  refine .mono (transaction_follows hpending hcommitted
    (createPaymentIntentBody_body hrequest hkey)) (fun _ _ t₂ h₂ => ?_) fun _ _ h => h ▸ haborted
  obtain ⟨κ, rfl, -, -⟩ := h₂
  exact ⟨rfl, rfl⟩

theorem createRefund_follows {dto : CreateRefundDto} {idempotencyKey : Option String}
    (hrequest : t.request = .createRefund dto idempotencyKey) (hpending : t.pending = [])
    (hcommitted : t.committed = none) :
    Follows (createRefund dto idempotencyKey) t (fun _ _ t' => Through t t')
      fun _ => Aborted := by
  have haborted : Aborted t := ⟨hpending, .inl hcommitted⟩
  refine .andThen (safeKeyOf_follows (E := fun _ => Aborted) idempotencyKey haborted)
    (fun _ _ h => h) fun key _ t₁ h₁ => ?_
  obtain ⟨rfl, hkey⟩ := h₁
  refine markingFailed_follows (.mono (transaction_follows hpending hcommitted
    (createRefundBody_body hrequest hkey)) (fun _ _ t₂ h₂ => ?_) fun _ _ h => h ▸ haborted)
  obtain ⟨κ, rfl, -, -⟩ := h₂
  exact ⟨rfl, rfl⟩

theorem findByGatewayId_follows {gatewayPaymentId : String} (haborted : Aborted t) :
    Follows (findByGatewayId gatewayPaymentId) t
      (fun payment _ t' => t' = { t with seen := t.seen ++
        [.query (.findPaymentByGatewayId gatewayPaymentId) (some payment)] })
      fun _ => Aborted := by
  have hfind : (Op.auto (.findPaymentByGatewayId gatewayPaymentId)).Legal t := haborted.1
  refine .bind (auto_follows hfind haborted fun found _ => ?_)
  cases found with
  | none => exact .throw haborted
  | some payment => exact .pure rfl

theorem markPaymentFailedByGatewayId_follows {gatewayPaymentId : String} {reason : Option String}
    (haborted : Aborted t) :
    Follows (markPaymentFailedByGatewayId gatewayPaymentId reason) t (fun _ _ t' => Through t t')
      fun _ => Aborted := by
  refine .andThen (findByGatewayId_follows haborted) (fun _ _ h => h) fun payment _ t₁ h₁ => ?_
  subst h₁
  have hreported : (Op.auto (.updatePayment payment.id
      { payment.toPaymentState with
        status := .failed
        failureReason :=
          some (orElse reason "Payment failed according to gateway webhook") })).Legal
      { t with seen := t.seen ++
        [.query (.findPaymentByGatewayId gatewayPaymentId) (some payment)] } :=
    ⟨haborted.1, .failed (List.mem_append_right _ (List.mem_singleton_self _))⟩
  exact .bind (auto_follows hreported haborted fun _ _ => .pure ⟨haborted.1, rfl⟩)

theorem refreshRefundedStatus_follows {paymentId : String} (haborted : Aborted t) :
    Follows (refreshRefundedStatus paymentId) t (fun _ _ t' => Through t t')
      fun _ => Aborted := by
  have hfind : (Op.auto (.findPayment paymentId)).Legal t := haborted.1
  refine .bind (auto_follows hfind haborted fun found hfound => ?_)
  cases found with
  | none => exact .throw haborted
  | some payment =>
      have hid : payment.id = paymentId := hfound payment rfl
      let t₁ : CallLog := { t with seen := t.seen ++ [.query (.findPayment paymentId) (some payment)] }
      have htotal : (Op.auto (.refundTotal paymentId)).Legal t₁ := haborted.1
      refine .bind (auto_follows htotal haborted fun (total : Nat) _ => ?_)
      split
      · exact .pure ⟨haborted.1, rfl⟩
      · rename_i hzero
        refine .bind (dateNow_follows haborted fun now => .bind ?_)
        have hreported : (Op.auto (.updatePayment payment.id (refundedState payment total now))).Legal
            { t₁ with seen := t₁.seen ++ [.query (.refundTotal paymentId) total] } := by
          refine ⟨haborted.1, .refunded ?_ hid ?_ (Nat.pos_of_ne_zero hzero)⟩
          · exact List.mem_append_left _ (List.mem_append_right _ (List.mem_singleton_self _))
          · exact List.mem_append_right _ (List.mem_singleton_self _)
        exact auto_follows hreported haborted fun _ _ => .pure ⟨haborted.1, rfl⟩

theorem confirmPaymentByGatewayId_follows {gatewayPaymentId : String}
    {idempotencyKey : Option String}
    (hrequest : t.request = .confirmPaymentByGatewayId gatewayPaymentId idempotencyKey)
    (hpending : t.pending = []) (hcommitted : t.committed = none) :
    Follows (confirmPaymentByGatewayId gatewayPaymentId idempotencyKey) t
      (fun body _ t' => Confirmed t body t') fun _ => Aborted := by
  refine .andThen (findByGatewayId_follows ⟨hpending, .inl hcommitted⟩) (fun _ _ h => h) fun payment _ t₁ h₁ => ?_
  subst h₁
  refine confirmPaymentIntent_follows hpending hcommitted (fun key hkey => ?_) ?_
  · change t.request.Names _
    rw [hrequest]
    exact ⟨⟨_, rfl⟩, hkey⟩
  · change t.request.Confirms _
    rw [hrequest]
    rfl

theorem responding_follows {c : Call ResponseBody} {Q : ResponseBody → CallLog → Prop}
    (h : Follows c t (fun body _ t' => Q body t') fun _ => Aborted)
    (hresolved : ∀ body t', Q body t' → Resolved (.ok (some body)) t') :
    Follows (responding c) t (fun r _ t' => Resolved (.ok r) t') fun _ => Aborted :=
  .andThen h (fun _ _ h => h) fun body _ t' h' => .pure (hresolved body t' h')

theorem resolved_of_through {r : Except Exception (Option ResponseBody)} {t' : CallLog}
    (h : Through t t') (hconfirms : ∀ named, ¬t.request.Confirms named) : Resolved r t' := by
  rw [← h.2] at hconfirms
  exact ⟨h.1, fun named _ hnamed => absurd hnamed (hconfirms named),
    fun named _ hnamed => absurd hnamed (hconfirms named)⟩

theorem resolved_of_confirmed {body : ResponseBody} {t' : CallLog} (h : Confirmed t body t') :
    Resolved (.ok (some body)) t' := by
  obtain ⟨hpending, -, log, hcommitted, houtcome⟩ := h
  refine ⟨hpending, ?_, ?_⟩
  · intro named body' _ hbody
    cases hbody
    exact ⟨log, hcommitted, houtcome⟩
  · intro named log' _ hlog _
    rw [hcommitted, Option.some.injEq] at hlog
    exact ⟨body, hlog ▸ houtcome⟩

theorem resolved_of_aborted {e : Exception} (h : Aborted t) : Resolved (.error e) t := by
  refine ⟨h.1, ?_, ?_⟩
  · intro named body _ hbody
    cases hbody
  · intro named log _ hlog hdelivered
    rcases h.2 with hnone | hlost
    · rw [hnone] at hlog
      cases hlog
    · exact absurd hdelivered hlost

theorem responding_through {c : Call ResponseBody}
    (h : Follows c t (fun _ _ t' => Through t t') fun _ => Aborted)
    (hconfirms : ∀ named, ¬t.request.Confirms named) :
    Follows (responding c) t (fun r _ t' => Resolved (.ok r) t') fun _ => Aborted :=
  responding_follows h fun _ _ h => resolved_of_through h hconfirms

theorem responding_confirmed {c : Call ResponseBody}
    (h : Follows c t (fun body _ t' => Confirmed t body t') fun _ => Aborted) :
    Follows (responding c) t (fun r _ t' => Resolved (.ok r) t') fun _ => Aborted :=
  responding_follows h fun _ _ h => resolved_of_confirmed h

theorem request_follows (request : Request) :
    (service.program request).wp (tracked Op.Legal Op.Replies advance)
      (fun r t => Resolved r.1 t) (CallLog.start request) := by
  suffices h : Follows request.call (CallLog.start request) (fun r _ t' => Resolved (.ok r) t')
      fun _ => Aborted by
    refine Program.wp_mono ?_ h
    intro r t' hr
    rcases r with ⟨e | a, l⟩
    · exact resolved_of_aborted hr
    · exact hr
  have haborted : Aborted (CallLog.start request) := ⟨rfl, .inl rfl⟩
  cases request with
  | createPaymentIntent dto idempotencyKey =>
      exact responding_through (createPaymentIntent_follows rfl rfl rfl) fun _ h => h
  | confirmPaymentIntent paymentId named idempotencyKey =>
      exact responding_confirmed
        (confirmPaymentIntent_follows rfl rfl (fun _ h => ⟨rfl, h⟩) rfl)
  | confirmPaymentByGatewayId gatewayPaymentId idempotencyKey =>
      exact responding_confirmed (confirmPaymentByGatewayId_follows rfl rfl rfl)
  | markPaymentFailedByGatewayId gatewayPaymentId reason =>
      exact responding_through (markPaymentFailedByGatewayId_follows haborted) fun _ h => h
  | refreshRefundedStatus paymentId =>
      exact responding_through (refreshRefundedStatus_follows haborted) fun _ h => h
  | refreshRefundedStatusByGatewayId gatewayPaymentId =>
      refine responding_through ?_ fun _ h => h
      refine .andThen (findByGatewayId_follows haborted) (fun _ _ h => h) fun payment _ t₁ h₁ => ?_
      subst h₁
      exact refreshRefundedStatus_follows haborted
  | createRefund dto idempotencyKey =>
      exact responding_through (createRefund_follows rfl rfl rfl) fun _ h => h
  | wait ms =>
      refine .bind (await_follows trivial (fun _ _ => .pure ?_) fun _ _ => haborted)
      exact ⟨rfl, fun _ _ hconfirms => hconfirms.elim, fun _ _ hconfirms => hconfirms.elim⟩

end FlightBookings.Payment
