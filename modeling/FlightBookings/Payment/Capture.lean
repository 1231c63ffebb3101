import FlightBookings.Payment.Ledger

/-! # The capture of a payment

What a transaction that changes a payment must have done, the money that a
payment is confirmed by, and confirmations of one payment that race each other.
-/

namespace FlightBookings.Payment

open Await

variable {k : KeyRef} {claim answers log : List Entry} {id : String} {state : PaymentState}

/-! ## Who changes a payment -/

/-- Entries that change no payment. -/
def KeepsPayments (log : List Entry) : Prop :=
  ∀ id state, .query (.updatePayment id state) () ∉ log

theorem keepsPayments_claim (h : Claim k claim) : KeepsPayments claim := by
  intro id state hmem
  cases h <;> simp at hmem

theorem keepsPayments_answers (h : answers.all Entry.isAnswer = true) : KeepsPayments answers := by
  intro id state hmem
  cases List.all_eq_true.mp h _ hmem

theorem keepsPayments_refunded {transactionId : String} {amount : Nat} {reason : Option String}
    {result : RefundResult} (h : Refunded transactionId amount reason answers result) :
    KeepsPayments answers := by
  intro id state hmem
  cases h <;> simp at hmem

theorem keepsPayments_ledgerLog {filter : EntryFilter} {n : Nat} {entries : List LedgerEntry} :
    KeepsPayments (ledgerLog filter n entries) := by
  intro id state hmem
  unfold ledgerLog at hmem
  split at hmem <;> simp at hmem

/-- The one change of a payment in a committed transaction. -/
inductive Update (request : Request) (log : List Entry) : String → PaymentState → Prop where
  | captured {k : KeyRef} {claim : List Entry} {paymentId : String} {payment : Payment}
      {named : Option String} {answers : List Entry} {result : PaymentResult} {now n : Nat}
      (hclaim : Claim k claim) (hid : payment.id = paymentId) (hconfirms : request.Confirms named)
      (hcaptured : Captured (orElse named payment.gatewayPaymentId) answers result)
      (hlog : log = claim ++ confirmedLog k paymentId payment answers result now n) :
      Update request log payment.id (capturedState payment result now)
  | refunded {k : KeyRef} {claim : List Entry} {dto : CreateRefundDto} {payment : Payment}
      {total : Nat} {answers : List Entry} {result : RefundResult} {id : String} {now n : Nat}
      {transactionId : String} {amount : Nat} {reason : Option String} (hclaim : Claim k claim)
      (hid : payment.id = dto.paymentId) (hsuccess : result.success = true)
      (hanswered : Refunded transactionId amount reason answers result)
      (hlog : log = claim ++ refundedLog k dto payment total answers result id now n) :
      Update request log payment.id (refundedState payment (total + dto.amount) now)

theorem mem_confirmedLog {paymentId gatewayPaymentId : String} {payment : Payment}
    {result : PaymentResult} {now n : Nat} (hclaim : Claim k claim)
    (hcaptured : Captured gatewayPaymentId answers result)
    (hmem : .query (.updatePayment id state) () ∈
      claim ++ confirmedLog k paymentId payment answers result now n) :
    id = payment.id ∧ state = capturedState payment result now := by
  have hledger : ∀ entries, .query (.updatePayment id state) () ∉
      if result.success = true then ledgerLog (.ofPayment payment.id) n entries else [] := by
    intro entries hmem
    split at hmem
    · exact keepsPayments_ledgerLog id state hmem
    · cases hmem
  simpa [confirmedLog, completedEntry, keepsPayments_claim hclaim id state,
    keepsPayments_answers hcaptured.answers id state, hledger] using hmem

theorem mem_refundedLog {dto : CreateRefundDto} {payment : Payment} {total : Nat}
    {result : RefundResult} {rid : String} {now n : Nat} {transactionId : String} {amount : Nat}
    {reason : Option String} (hclaim : Claim k claim)
    (hanswered : Refunded transactionId amount reason answers result)
    (hmem : .query (.updatePayment id state) () ∈
      claim ++ refundedLog k dto payment total answers result rid now n) :
    result.success = true ∧ id = payment.id ∧
      state = refundedState payment (total + dto.amount) now := by
  by_cases hsuccess : result.success = true
  · have hledger : ∀ entries, .query (.updatePayment id state) () ∉
        ledgerLog (.ofRefund rid) n entries := fun _ => keepsPayments_ledgerLog id state
    simpa [refundedLog, hsuccess, keepsPayments_claim hclaim id state,
      keepsPayments_refunded hanswered id state, hledger] using hmem
  · simp [refundedLog, hsuccess, keepsPayments_claim hclaim id state,
      keepsPayments_refunded hanswered id state] at hmem

theorem Shape.update {request : Request} (h : Shape request log)
    (hmem : .query (.updatePayment id state) () ∈ log) : Update request log id state := by
  cases h with
  | replayed => simp [replayedLog] at hmem
  | created hnames hclaim =>
      simp [createdLog, completedEntry, keepsPayments_claim hclaim id state] at hmem
  | settled hnames hclaim =>
      simp [settledLog, completedEntry, keepsPayments_claim hclaim id state] at hmem
  | confirmed hnames hclaim hscope hid hunsettled hconfirms hcaptured =>
      obtain ⟨rfl, rfl⟩ := mem_confirmedLog hclaim hcaptured hmem
      exact .captured hclaim hid hconfirms hcaptured rfl
  | refunded hnames hclaim hrequest hid hrefundable hbalance hanswered =>
      obtain ⟨hsuccess, rfl, rfl⟩ := mem_refundedLog hclaim hanswered hmem
      exact .refunded hclaim hid hsuccess hanswered rfl

/-! ## The money that confirms a payment -/

/-- The transaction that an event commits, with its call. -/
def Event.commits : Event → Option (Nat × List Entry)
  | .performed w i c .commit _ =>
      if c.fails.isNone then some (i, Journal.entries i w.journal) else none
  | _ => none

def Entry.setsStatus (id : String) (status : PaymentStatus) : Entry → Bool
  | .query (.updatePayment id' state) _ => id' = id && state.status = status
  | _ => false

/-- A transaction that saves a payment as confirmed. -/
def SetsConfirmed (log : List Entry) (id : String) : Prop :=
  log.any (Entry.setsStatus id .confirmed) = true

theorem setsStatus_iff {status : PaymentStatus} : log.any (Entry.setsStatus id status) = true ↔
    ∃ state, .query (.updatePayment id state) () ∈ log ∧ state.status = status := by
  rw [List.any_eq_true]
  constructor
  · intro h
    obtain ⟨entry, hmem, hsets⟩ := h
    unfold Entry.setsStatus at hsets
    split at hsets
    · simp only [Bool.and_eq_true, decide_eq_true_eq] at hsets
      obtain ⟨rfl, hstatus⟩ := hsets
      exact ⟨_, hmem, hstatus⟩
    · cases hsets
  · intro h
    obtain ⟨state, hmem, hstatus⟩ := h
    exact ⟨_, hmem, by simp [Entry.setsStatus, hstatus]⟩

/-- A payment intent that Stripe was asked for, with its answer. -/
def Entry.retrieves : Entry → Option (String × StripeIntent)
  | .stripe (.retrieve id) intent => some (id, intent)
  | _ => none

@[simp] theorem retrieves_query {q : Query} {reply : q.Ret} :
    (Entry.query q reply).retrieves = none := rfl

@[simp] theorem retrieves_retrieve {id : String} {intent : StripeIntent} :
    (Entry.stripe (.retrieve id) intent).retrieves = some (id, intent) := rfl

/-- The payment intent that a transaction captured, with the answer that it made its result of. -/
def captureOf (log : List Entry) : Option (String × StripeIntent) :=
  (log.filterMap Entry.retrieves).getLast?

/-- What was captured is the payment's own intent, with success, its amount and its currency. -/
def OwnMoney (db : Database) (log : List Entry) (id : String) : Prop :=
  ∃ p intent, db.payment id = some p ∧ captureOf log = some (p.gatewayPaymentId, intent) ∧
    (Gateway.captured intent).success = true ∧ (Gateway.captured intent).amount = p.amount ∧
    (Gateway.captured intent).currency = p.currency

/-- The gateway reference of a confirmation. -/
def Request.gatewayPaymentId : Request → Option String
  | .confirmPaymentIntent _ gatewayPaymentId _ => gatewayPaymentId
  | .confirmPaymentByGatewayId gatewayPaymentId _ => some gatewayPaymentId
  | _ => none

/-- The request names no reference but the payment's own, and Stripe's last answer has the amount
and the currency of the payment. -/
def NamesOwn (db : Database) (request : Request) (log : List Entry) (id : String) : Prop :=
  ∃ p, db.payment id = some p ∧
    orElse request.gatewayPaymentId p.gatewayPaymentId = p.gatewayPaymentId ∧
    ∀ asked intent, captureOf log = some (asked, intent) →
      intent.amount = p.amount ∧ toUpperCase intent.currency = p.currency

theorem gatewayPaymentId_of_confirms {request : Request} {named : Option String}
    (h : request.Confirms named) : request.gatewayPaymentId = named := by
  cases request with
  | confirmPaymentIntent => exact h.symm
  | confirmPaymentByGatewayId => exact h.symm
  | _ => exact h.elim

theorem retrieves_claim (h : Claim k claim) : claim.filterMap Entry.retrieves = [] := by
  cases h <;> rfl

theorem retrieves_ledgerLog {filter : EntryFilter} {n : Nat} {entries : List LedgerEntry} :
    (ledgerLog filter n entries).filterMap Entry.retrieves = [] := by
  unfold ledgerLog
  split <;> rfl

/-- The capture of a transaction that ended with success. -/
theorem captureOf_confirmed {paymentId gatewayPaymentId : String} {payment : Payment}
    {result : PaymentResult} {now n : Nat} (hclaim : Claim k claim)
    (hcaptured : Captured gatewayPaymentId answers result) (hsuccess : result.success = true) :
    ∃ intent, captureOf (claim ++ confirmedLog k paymentId payment answers result now n) =
      some (gatewayPaymentId, intent) ∧ result = Gateway.captured intent := by
  cases hcaptured with
  | failed => cases hsuccess
  | @retrieved before intent hbefore =>
      refine ⟨intent, ?_, rfl⟩
      have hretrieves : (claim ++ confirmedLog k paymentId payment
          (before ++ [.stripe (.retrieve gatewayPaymentId) intent]) (Gateway.captured intent) now
          n).filterMap Entry.retrieves =
          before.filterMap Entry.retrieves ++ [(gatewayPaymentId, intent)] := by
        simp [confirmedLog, completedEntry, List.filterMap_cons, retrieves_claim hclaim, hsuccess,
          retrieves_ledgerLog]
      rw [captureOf, hretrieves, List.getLast?_concat]

theorem refundedState_ne_confirmed {payment : Payment} {total now : Nat} :
    (refundedState payment total now).status ≠ .confirmed := by
  unfold refundedState
  dsimp only
  split <;> simp

theorem capturedState_confirmed {payment : Payment} {result : PaymentResult} {now : Nat} :
    (capturedState payment result now).status = .confirmed ↔ result.success = true := by
  unfold capturedState
  by_cases h : result.success = true <;> simp [h]

/-- A transaction that saves a payment as confirmed used the payment's own money exactly when its
request and Stripe's answer are about that payment. -/
theorem ownMoney_iff {past : List Event} {i : Nat} {c : Choice} {w w' : World} {t : CallLog}
    {r : Except Exception Unit} (h : Step past i c .commit r w w' t) (hsets : SetsConfirmed t.pending id) :
    OwnMoney w.db t.pending id ↔ NamesOwn w.db t.request t.pending id := by
  obtain ⟨state, hmem, hstatus⟩ := setsStatus_iff.mp hsets
  cases h.legal.1.update hmem with
  | refunded => exact absurd hstatus refundedState_ne_confirmed
  | @captured k claim paymentId payment named answers result now n hclaim hid hconfirms hcaptured
      hlog =>
      have hsuccess := capturedState_confirmed.mp hstatus
      have hread : .query (.findPayment paymentId) (some payment) ∈ Journal.entries i w.journal := by
        rw [h.own, hlog]
        simp [confirmedLog]
      obtain ⟨state, hpayment⟩ := h.sound.reads i paymentId payment hread
      obtain ⟨intent, hcapture, hresult⟩ : ∃ intent,
          captureOf t.pending = some (orElse named payment.gatewayPaymentId, intent) ∧
            result = Gateway.captured intent := by
        rw [hlog]
        exact captureOf_confirmed hclaim hcaptured hsuccess
      subst hid
      rw [hresult] at hsuccess
      constructor
      · intro hown
        obtain ⟨p, intent', hp, hcapture', -, hamount, hcurrency⟩ := hown
        rw [hpayment, Option.some.injEq] at hp
        subst hp
        rw [hcapture, Option.some.injEq, Prod.mk.injEq] at hcapture'
        obtain ⟨hasked, rfl⟩ := hcapture'
        refine ⟨_, hpayment, ?_, fun asked intent' h => ?_⟩
        · rw [gatewayPaymentId_of_confirms hconfirms]
          exact hasked
        · rw [hcapture, Option.some.injEq, Prod.mk.injEq] at h
          obtain ⟨-, rfl⟩ := h
          exact ⟨hamount, hcurrency⟩
      · intro hnames
        obtain ⟨p, hp, hreference, hanswer⟩ := hnames
        rw [hpayment, Option.some.injEq] at hp
        subst hp
        obtain ⟨hamount, hcurrency⟩ := hanswer _ _ hcapture
        rw [gatewayPaymentId_of_confirms hconfirms] at hreference
        exact ⟨_, intent, hpayment, hreference ▸ hcapture, hsuccess, hamount, hcurrency⟩

/-- The account of the past transactions that saved a payment as confirmed. -/
def Accounted (past : List Event) : Prop :=
  ∀ e ∈ past, ∀ i log id, e.commits = some (i, log) → SetsConfirmed log id →
    ∃ t, logOf past i = some t ∧
      (OwnMoney e.before.db log id ↔ NamesOwn e.before.db t.request log id)

variable {past : List Event} {i : Nat} {c : Choice} {op : Op} {r : Except Exception op.Ret}
variable {w w' : World} {t : CallLog}

theorem accounted_started {request : Request} (hfresh : ∀ j, i ≤ j → logOf past j = none)
    (h : Accounted past) : Accounted (past ++ [.started w i request]) := by
  intro e he j log id hcommits hsets
  rcases List.mem_append.mp he with hold | hnew
  · obtain ⟨t, hlog, hiff⟩ := h e hold j log id hcommits hsets
    exact ⟨t, logOf_started hfresh hlog, hiff⟩
  · cases List.mem_singleton.mp hnew
    cases hcommits

/-- An event that commits is a commit that succeeded. -/
theorem Step.commits (h : Step past i c op r w w' t) {j : Nat}
    (hcommits : Event.commits (.performed w i c op w') = some (j, log)) :
    op = .commit ∧ c.fails = none ∧ j = i ∧ log = t.pending := by
  cases op with
  | commit =>
      simp only [Event.commits] at hcommits
      split at hcommits
      · rename_i hok
        simp only [Option.some.injEq, Prod.mk.injEq] at hcommits
        exact ⟨rfl, Option.isNone_iff_eq_none.mp hok, hcommits.1.symm,
          hcommits.2.symm.trans h.own⟩
      · cases hcommits
  | _ => cases hcommits

theorem accounted_performed (hstep : Step past i c op r w w' t) (h : Accounted past) :
    Accounted (past ++ [.performed w i c op w']) := by
  intro e he j log id hcommits hsets
  rcases List.mem_append.mp he with hold | hnew
  · obtain ⟨t', hlog, hiff⟩ := h e hold j log id hcommits hsets
    obtain ⟨t'', hlog', hrequest⟩ := hstep.request_stays hlog
    exact ⟨t'', hlog', hrequest ▸ hiff⟩
  · cases List.mem_singleton.mp hnew
    obtain ⟨rfl, -, rfl, rfl⟩ := hstep.commits hcommits
    refine ⟨_, hstep.log_self, ?_⟩
    rw [advance_request]
    exact ownMoney_iff hstep hsets

variable {now : Nat} {ms : List (Move Request Choice)} {es : List Event} {P : ServicePool}

/-- A payment is confirmed by its own money exactly when the request names no other reference and
Stripe's answer has the amount and the currency of the payment. -/
theorem confirmed_by_own_money_iff
    (hrun : service.run ms (Pool.init (World.init now)) = some (es, P)) {e : Event} (he : e ∈ es)
    {s : World} {request : Request} (hcommits : e.commits = some (i, log))
    (hsets : SetsConfirmed log id) (hrequest : .started s i request ∈ es) :
    OwnMoney e.before.db log id ↔ NamesOwn e.before.db request log id := by
  have hP : Remembers (fun past _ => Accounted past) [] (Pool.init (World.init now)) :=
    remembers_init _ fun _ h => by cases h
  have hhistory : Remembers (fun past _ => Accounted past) ([] ++ es) P := by
    refine (run_history _ (fun _ => True) (fun _ => True) ?_ ?_ hrun (fun _ _ => trivial) hP).1
    · exact fun past w i request hfresh _ h _ => ⟨accounted_started hfresh h, trivial⟩
    · exact fun past i c op r w w' t hstep h _ => ⟨accounted_performed hstep h, trivial⟩
  obtain ⟨t, hlog, hiff⟩ := hhistory.inv.2 e he i log id hcommits hsets
  obtain ⟨t', hlog', hrequest'⟩ := hhistory.inv.1.requests i s request hrequest
  have hsame : t = t' := Option.some.inj (hlog.symm.trans hlog')
  rw [← hrequest', ← hsame]
  exact hiff

/-- The start of a call that confirms the payment `a4`. -/
def Event.confirms (call : Nat) (key : String) : Event → Bool
  | .started _ i (.confirmPaymentIntent id none (some key')) =>
      i = call && id = "a4" && key' = key
  | _ => false

theorem Event.started_of_confirms {call : Nat} {key : String} {e : Event}
    (h : e.confirms call key = true) :
    ∃ w, e = .started w call (.confirmPaymentIntent "a4" none (some key)) := by
  unfold Event.confirms at h
  split at h
  · simp only [Bool.and_eq_true, decide_eq_true_eq] at h
    obtain ⟨⟨rfl, rfl⟩, rfl⟩ := h
    exact ⟨_, rfl⟩
  · cases h

/-- The payment of `confirmed` is confirmed by its own intent. -/
theorem confirmed_by_own_money :
    ∃ (es : List Event) (P : ServicePool) (e : Event) (log : List Entry) (s : World),
      service.run confirmed (Pool.init (World.init 0)) = some (es, P) ∧ e ∈ es ∧
      e.commits = some (1, log) ∧ SetsConfirmed log "a4" ∧
      .started s 1 (.confirmPaymentIntent "a4" none (some "c")) ∈ es ∧
      (OwnMoney e.before.db log "a4" ↔
        NamesOwn e.before.db (.confirmPaymentIntent "a4" none (some "c")) log "a4") := by
  have hrun : (service.run confirmed (Pool.init (World.init 0))).any (fun result =>
      (result.1.any fun (e : Event) => e.commits.any fun tx =>
        tx.1 = 1 && tx.2.any (Entry.setsStatus "a4" .confirmed)) &&
      result.1.any (Event.confirms 1 "c")) = true := by decide +kernel
  obtain ⟨es, P, hrun, hevents⟩ := System.exists_run hrun
  rw [Bool.and_eq_true, List.any_eq_true, List.any_eq_true] at hevents
  obtain ⟨⟨e, he, hcommits⟩, e', he', hstarted⟩ := hevents
  rw [Option.any_eq_true] at hcommits
  obtain ⟨⟨i, log⟩, hlog, hsets⟩ := hcommits
  simp only [Bool.and_eq_true, decide_eq_true_eq] at hsets
  obtain ⟨rfl, hsets⟩ := hsets
  obtain ⟨s, rfl⟩ := Event.started_of_confirms hstarted
  exact ⟨es, P, e, log, s, hrun, he, hlog, hsets, he',
    confirmed_by_own_money_iff hrun he hlog hsets he'⟩

def dearFare : CreatePaymentIntentDto := { fare with amount := 500, positive := by decide }

/-- A payment of 500 is confirmed by another intent, over 100. -/
theorem confirmed_by_other_money :
    ∃ (es : List Event) (P : ServicePool) (e : Event) (log : List Entry),
      service.run
        (.start (.createPaymentIntent dearFare (some "k")) ::
            succeeds 0 "a" "requires_confirmation" 8 ++
          .start (.confirmPaymentIntent "a4" (some "cheap") (some "c")) ::
            answered 1 "b" ⟨"cheap", 100, "usd", "succeeded", none, none⟩ 13)
        (Pool.init (World.init 0)) = some (es, P) ∧ e ∈ es ∧ e.commits = some (1, log) ∧
      SetsConfirmed log "a4" ∧ ¬OwnMoney e.before.db log "a4" := by
  have hrun : (service.run
      (.start (.createPaymentIntent dearFare (some "k")) ::
          succeeds 0 "a" "requires_confirmation" 8 ++
        .start (.confirmPaymentIntent "a4" (some "cheap") (some "c")) ::
          answered 1 "b" ⟨"cheap", 100, "usd", "succeeded", none, none⟩ 13)
      (Pool.init (World.init 0))).any (fun result => result.1.any fun (e : Event) =>
        (e.before.db.payment "a4").all (fun p => p.gatewayPaymentId = "pi") &&
        e.commits.any fun tx => tx.1 = 1 && tx.2.any (Entry.setsStatus "a4" .confirmed) &&
          (captureOf tx.2).all fun capture => capture.1 = "cheap") = true := by decide +kernel
  obtain ⟨es, P, hrun, hevents⟩ := System.exists_run hrun
  obtain ⟨e, he, hevent⟩ := List.any_eq_true.mp hevents
  rw [Bool.and_eq_true] at hevent
  obtain ⟨hpayment, hcommits⟩ := hevent
  rw [Option.any_eq_true] at hcommits
  obtain ⟨⟨i, log⟩, hlog, hsets⟩ := hcommits
  simp only [Bool.and_eq_true, decide_eq_true_eq] at hsets
  obtain ⟨⟨rfl, hsets⟩, hcapture⟩ := hsets
  refine ⟨es, P, e, log, hrun, he, hlog, hsets, fun hown => ?_⟩
  obtain ⟨p, intent, hp, hcaptured, -⟩ := hown
  rw [hp, Option.all_some, decide_eq_true_eq] at hpayment
  rw [hcaptured, hpayment] at hcapture
  simp at hcapture

end FlightBookings.Payment
