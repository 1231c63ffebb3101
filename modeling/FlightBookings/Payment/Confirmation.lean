import FlightBookings.Payment.Capture

/-! # Confirmations that race each other

The row lock of a payment is taken before its ledger entries are counted, so
that its capture is recorded once however its confirmations interleave. Nothing
of the kind protects its status, which each of them checked before it asked
Stripe.
-/

namespace FlightBookings.Payment

open Await

variable {past : List Event} {i j : Nat} {c : Choice} {op : Op} {r : Except Exception op.Ret}
variable {w w' : World} {t : CallLog} {log : List Entry} {id : String}

/-! ## One pair of entries -/

/-- The entries of type PAYMENT for a payment. -/
def paymentEntriesOf (ledger : List LedgerEntry) (id : String) : List LedgerEntry :=
  ledger.filter (EntryFilter.ofPayment id).selects

/-- One debit and one credit, or nothing. -/
def AtMostOnePair (entries : List LedgerEntry) : Prop :=
  entries = [] ∨ ∃ payment referenceId occurredAt,
    entries = paymentEntries payment referenceId occurredAt

/-- Whoever has counted the entries of a payment holds its row, and the count is still right. -/
structure Recorded (w : World) : Prop where
  pairs : ∀ id, AtMostOnePair (paymentEntriesOf w.db.ledger id)
  locked : ∀ i id n, .query (.countEntries (.ofPayment id)) n ∈ Journal.entries i w.journal →
    ∃ state, .query (.updatePayment id state) () ∈ Journal.entries i w.journal
  counted : ∀ i id n, .query (.countEntries (.ofPayment id)) n ∈ Journal.entries i w.journal →
    n = w.db.ledger.countP (EntryFilter.ofPayment id).selects

theorem paymentEntriesOf_append {ledger entries : List LedgerEntry} :
    paymentEntriesOf (ledger ++ entries) id =
      paymentEntriesOf ledger id ++ paymentEntriesOf entries id := by
  simp [paymentEntriesOf]

theorem paymentEntriesOf_captured {payment : Payment} {result : PaymentResult} {now n : Nat} :
    paymentEntriesOf (capturedEntries payment result now n) id =
      if id = payment.id then capturedEntries payment result now n else [] := by
  unfold capturedEntries
  by_cases hentries : result.success = true ∧ n = 0
  · rw [if_pos hentries]
    by_cases hid : id = payment.id
    · simp [paymentEntriesOf, paymentEntries, paymentEntry, EntryFilter.selects, hid]
    · simp [paymentEntriesOf, paymentEntries, paymentEntry, EntryFilter.selects, Ne.symm hid, hid]
  · simp [paymentEntriesOf, hentries]

theorem paymentEntriesOf_refunded {payment : Payment} {refund : Refund} {result : RefundResult}
    {total now n : Nat} :
    paymentEntriesOf (refundedEntries payment refund result total now n) id = [] := by
  unfold refundedEntries
  split <;> simp [paymentEntriesOf, refundEntries, refundEntry, EntryFilter.selects]

/-- What a transaction adds to the entries of a payment: nothing, or the pair of its capture when
it holds the payment's row and found none. -/
theorem paymentEntriesOf_commit {request : Request} (h : Shape request log) (db : Database) :
    paymentEntriesOf (applyAll log db).ledger id = paymentEntriesOf db.ledger id ∨
      ((∃ state, .query (.updatePayment id state) () ∈ log) ∧
        .query (.countEntries (.ofPayment id)) 0 ∈ log ∧
        ∃ payment referenceId occurredAt, paymentEntriesOf (applyAll log db).ledger id =
          paymentEntriesOf db.ledger id ++ paymentEntries payment referenceId occurredAt) := by
  cases h with
  | replayed => exact .inl rfl
  | @created k claim dto idempotencyKey intent rid hnames hclaim =>
      obtain ⟨keys, hkeys⟩ := applyAll_created hclaim dto intent rid db
      rw [hkeys]
      exact .inl rfl
  | @settled k claim paymentId payment hnames hclaim =>
      obtain ⟨keys, hkeys⟩ := applyAll_settled hclaim paymentId payment db
      rw [hkeys]
      exact .inl rfl
  | @confirmed k claim paymentId payment named answers result now n hnames hclaim hscope hid
      hunsettled hconfirms hcaptured =>
      obtain ⟨keys, hkeys⟩ := applyAll_confirmed hclaim hcaptured paymentId payment now n db
      rw [hkeys]
      show paymentEntriesOf (db.ledger ++ _) id = _ ∨ _
      rw [paymentEntriesOf_append, paymentEntriesOf_captured]
      by_cases hentries : id = payment.id ∧ result.success = true ∧ n = 0
      · obtain ⟨rfl, hsuccess, rfl⟩ := hentries
        right
        refine ⟨⟨capturedState payment result now, ?_⟩, ?_, ?_⟩
        · simp [confirmedLog]
        · simp [confirmedLog, hsuccess, ledgerLog]
        · refine ⟨payment.after (capturedState payment result now), result.transactionId, now, ?_⟩
          rw [if_pos rfl, capturedEntries, if_pos ⟨hsuccess, rfl⟩]
      · left
        by_cases hid : id = payment.id
        · rw [if_pos hid, capturedEntries, if_neg (fun h => hentries ⟨hid, h⟩), List.append_nil]
        · rw [if_neg hid, List.append_nil]
  | @refunded k claim dto idempotencyKey payment total answers result rid now n hnames hclaim
      hrequest hid hrefundable hbalance hanswered =>
      obtain ⟨keys, hkeys⟩ := applyAll_refunded hclaim hanswered dto payment total rid now n db
      rw [hkeys]
      left
      show paymentEntriesOf (db.ledger ++ _) id = _
      rw [paymentEntriesOf_append, paymentEntriesOf_refunded, List.append_nil]

theorem ledger_applyAll {db : Database} (h : ∀ entries, .query (.insertEntries entries) () ∉ log) :
    (applyAll log db).ledger = db.ledger := by
  refine applyAll_frame fun entry hentry db => ?_
  cases entry with
  | stripe op reply => rfl
  | query q reply =>
      cases q with
      | insertEntries entries => exact absurd hentry (h entries)
      | _ => rfl

theorem countP_paymentEntriesOf {ledger : List LedgerEntry} :
    ledger.countP (EntryFilter.ofPayment id).selects = (paymentEntriesOf ledger id).length :=
  List.countP_eq_length_filter

/-- The ledger changes at commits only. -/
theorem Step.ledger (h : Step past i c op r w w' t) :
    w'.db.ledger = w.db.ledger ∨ (op = .commit ∧ w'.db = applyAll t.pending w.db ∧
      Journal.entries i w'.journal = []) := by
  have hlegal := h.legal
  have hown := h.own
  cases h.performs with
  | passed _ hop hdb => exact .inl (congrArg Database.ledger hdb)
  | commit =>
      right
      refine ⟨rfl, ?_, Journal.entries_drop_self⟩
      rw [← hown]
      rfl
  | auto q =>
      left
      cases q with
      | insertEntries entries => exact hlegal.elim
      | _ => rfl
  | _ => exact .inl rfl

/-- The entries of a payment change only when the call that holds its row commits the pair. -/
theorem Step.pair (h : Step past i c op r w w' t) (id : String) :
    paymentEntriesOf w'.db.ledger id = paymentEntriesOf w.db.ledger id ∨
      ((∃ state, .query (.updatePayment id state) () ∈ Journal.entries i w.journal) ∧
        .query (.countEntries (.ofPayment id)) 0 ∈ Journal.entries i w.journal ∧
        Journal.entries i w'.journal = [] ∧
        ∃ payment referenceId occurredAt, paymentEntriesOf w'.db.ledger id =
          paymentEntriesOf w.db.ledger id ++ paymentEntries payment referenceId occurredAt) := by
  rcases h.ledger with hledger | hcommit
  · exact .inl (congrArg (paymentEntriesOf · id) hledger)
  · obtain ⟨rfl, hdb, hnil⟩ := hcommit
    rw [h.own, hdb]
    rcases paymentEntriesOf_commit h.legal.1 w.db with hsame | hpair
    · exact .inl hsame
    · exact .inr ⟨hpair.1, hpair.2.1, hnil, hpair.2.2⟩

/-- What a call counts of a payment, it counts once it has changed its row. -/
theorem Step.counts (h : Step past i c op r w w' t) {n : Nat}
    (hmem : .query (.countEntries (.ofPayment id)) n ∈ Journal.entries i w'.journal) :
    .query (.countEntries (.ofPayment id)) n ∈ Journal.entries i w.journal ∨
      ((∃ state, .query (.updatePayment id state) () ∈ Journal.entries i w.journal) ∧
        n = w.db.ledger.countP (EntryFilter.ofPayment id).selects) := by
  have hlegal := h.legal
  have hown := h.own
  cases h.performs with
  | passed _ hop hdb hjournal => exact .inl (hjournal ▸ hmem)
  | sql q =>
      rw [Journal.entries_add_self] at hmem
      rcases List.mem_append.mp hmem with hmem | hmem
      · exact .inl hmem
      · right
        rw [List.mem_singleton] at hmem
        cases q with
        | countEntries filter =>
            simp only [Entry.query.injEq, Query.countEntries.injEq] at hmem
            obtain ⟨rfl, hread⟩ := hmem
            have hledger : (w.view i).ledger = w.db.ledger := by
              rw [World.view, hown]
              exact ledger_applyAll hlegal.2
            have hcount : n = (w.view i).ledger.countP (EntryFilter.ofPayment id).selects :=
              eq_of_heq hread
            rw [hledger] at hcount
            exact ⟨hown ▸ hlegal.1, hcount⟩
        | _ => cases hmem
  | stripe op =>
      rw [Journal.entries_add_self] at hmem
      rcases List.mem_append.mp hmem with hmem | hmem
      · exact .inl hmem
      · cases List.mem_singleton.mp hmem
  | commit =>
      rw [Journal.entries_drop_self] at hmem
      cases hmem
  | rollback =>
      rw [Journal.entries_drop_self] at hmem
      cases hmem
  | _ => exact .inl hmem

/-- A call whose transaction is still open has all the entries that it had. -/
theorem Step.keeps_entries (h : Step past i c op r w w' t) {x entry : Entry}
    (hopen : x ∈ Journal.entries j w'.journal) (hmem : entry ∈ Journal.entries j w.journal) :
    entry ∈ Journal.entries j w'.journal := by
  by_cases hj : j = i
  · subst hj
    cases h.performs with
    | passed _ hop hdb hjournal => exact hjournal ▸ hmem
    | sql q =>
        rw [Journal.entries_add_self]
        exact List.mem_append_left _ hmem
    | stripe op =>
        rw [Journal.entries_add_self]
        exact List.mem_append_left _ hmem
    | commit =>
        rw [Journal.entries_drop_self] at hopen
        cases hopen
    | rollback =>
        rw [Journal.entries_drop_self] at hopen
        cases hopen
    | _ => exact hmem
  · rwa [h.others hj]

theorem Recorded.step (hinv : Recorded w) (h : Step past i c op r w w' t) : Recorded w' := by
  have hlocked : ∀ j id n, .query (.countEntries (.ofPayment id)) n ∈ Journal.entries j w'.journal →
      (∃ state, .query (.updatePayment id state) () ∈ Journal.entries j w.journal) ∧
        n = w.db.ledger.countP (EntryFilter.ofPayment id).selects := by
    intro j id n hmem
    by_cases hj : j = i
    · subst hj
      rcases h.counts hmem with hold | hnew
      · exact ⟨hinv.locked j id n hold, hinv.counted j id n hold⟩
      · exact hnew
    · rw [h.others hj] at hmem
      exact ⟨hinv.locked j id n hmem, hinv.counted j id n hmem⟩
  refine ⟨fun id => ?_, fun j id n hmem => ?_, fun j id n hmem => ?_⟩
  · rcases h.pair id with hsame | hpair
    · rw [hsame]
      exact hinv.pairs id
    · obtain ⟨-, hcount, -, payment, referenceId, occurredAt, hentries⟩ := hpair
      have hnone := hinv.counted i id 0 hcount
      rw [countP_paymentEntriesOf, eq_comm, List.length_eq_zero_iff] at hnone
      rw [hentries, hnone]
      exact .inr ⟨payment, referenceId, occurredAt, rfl⟩
  · obtain ⟨⟨state, hupdate⟩, -⟩ := hlocked j id n hmem
    exact ⟨state, h.keeps_entries hmem hupdate⟩
  · obtain ⟨⟨state, hupdate⟩, hcount⟩ := hlocked j id n hmem
    rw [countP_paymentEntriesOf] at hcount ⊢
    rcases h.pair id with hsame | hpair
    · rw [hsame]
      exact hcount
    · -- the call that commits the pair holds the row, which the call that counts holds too
      obtain ⟨⟨state', hupdate'⟩, -, hnil, -⟩ := hpair
      by_cases hj : j = i
      · subst hj
        rw [hnil] at hmem
        cases hmem
      · have hfree := h.sound.exclusive j i _ _ _ _ hj hupdate hupdate'
        simp [Query.contends] at hfree

/-! ## One announcement -/

/-- The call that offers the broker a message, and the payment that the message is about. -/
def Event.publishes : Event → Option (Nat × String)
  | .performed _ i _ (.publish message) _ => some (i, message.paymentId)
  | _ => none

/-- A confirmation is committed whose payment was settled in the meantime. -/
def Event.recaptures (e : Event) : Bool :=
  e.commits.any fun tx => tx.2.any fun entry => match entry with
    | .query (.updatePayment id state) _ =>
        (state.status = .confirmed || state.status = .failed) &&
          (e.before.db.payment id).any fun p => p.status.settled
    | _ => false

def Settled (db : Database) (id : String) : Prop :=
  ∃ p, db.payment id = some p ∧ p.status.settled = true

/-- A call has committed the capture of a payment. -/
def HasCaptured (past : List Event) (i : Nat) (id : String) : Prop :=
  ∃ t log, logOf past i = some t ∧ t.committed = some log ∧ SetsConfirmed log id

/-- Each payment is captured by one call, and what is captured is settled. -/
structure CapturedOnce (past : List Event) (w : World) : Prop where
  settled : ∀ i id, HasCaptured past i id → Settled w.db id
  once : ∀ i j id, HasCaptured past i id → HasCaptured past j id → i = j
  announced : ∀ e ∈ past, ∀ i id, e.publishes = some (i, id) → HasCaptured past i id

theorem advance_committed (hlegal : op.Legal t) (h : t.committed = some log) :
    (advance op r t).committed = some log := by
  cases op with
  | commit =>
      have hnone := hlegal.2
      rw [h] at hnone
      cases hnone
  | auto q => cases r <;> exact h
  | _ => cases r <;> exact h

theorem HasCaptured.stays (hcaptured : HasCaptured past j id) (h : Step past i c op r w w' t) :
    HasCaptured (past ++ [.performed w i c op w']) j id := by
  obtain ⟨t', log, hlog, hcommitted, hsets⟩ := hcaptured
  by_cases hj : j = i
  · subst hj
    rw [h.log, Option.some.injEq] at hlog
    subst hlog
    exact ⟨_, log, h.log_self, advance_committed h.legal hcommitted, hsets⟩
  · exact ⟨t', log, (logOf_performed_of_ne hj).trans hlog, hcommitted, hsets⟩

/-- A capture is old, or is committed just now. -/
theorem HasCaptured.cases (h : Step past i c op r w w' t)
    (hcaptured : HasCaptured (past ++ [.performed w i c op w']) j id) :
    HasCaptured past j id ∨ (j = i ∧ op = .commit ∧ SetsConfirmed t.pending id ∧
      c.fails = none ∧ w'.db = applyAll t.pending w.db) := by
  obtain ⟨t', log, hlog, hcommitted, hsets⟩ := hcaptured
  by_cases hj : j = i
  · subst hj
    rw [h.log_self, Option.some.injEq] at hlog
    subst hlog
    have hold : t.committed = some log → HasCaptured past j id :=
      fun hcommitted => ⟨t, log, h.log, hcommitted, hsets⟩
    have hown := h.own
    cases h.performs with
    | failed e =>
        refine .inl (hold ?_)
        cases op <;> exact hcommitted
    | passed _ hop =>
        rw [advance_local hop] at hcommitted
        exact .inl (hold hcommitted)
    | commit hok =>
        right
        cases hcommitted
        refine ⟨rfl, rfl, hsets, hok, ?_⟩
        rw [← hown]
        rfl
    | _ => exact .inl (hold hcommitted)
  · rw [logOf_performed_of_ne hj] at hlog
    exact .inl ⟨t', log, hlog, hcommitted, hsets⟩

theorem not_settled_of_recaptures {e : Event} (h : e.recaptures = false)
    (hcommits : e.commits = some (i, log)) {state : PaymentState}
    (hmem : .query (.updatePayment id state) () ∈ log)
    (hstatus : state.status = .confirmed ∨ state.status = .failed) :
    ¬Settled e.before.db id := by
  intro hsettled
  obtain ⟨p, hp, hsettled⟩ := hsettled
  rw [Event.recaptures, hcommits, Option.any_some, List.any_eq_false] at h
  have hentry := h _ hmem
  simp [hp, hsettled, hstatus] at hentry

theorem capturedState_cases {payment : Payment} {result : PaymentResult} {now : Nat} :
    (capturedState payment result now).status = .confirmed ∨
      (capturedState payment result now).status = .failed := by
  unfold capturedState
  by_cases h : result.success = true <;> simp [h]

/-- A transaction that captures no settled payment leaves the settled ones settled. -/
theorem settled_commit {request : Request} {db : Database} (h : Shape request log)
    (hcaptures : ∀ id state, .query (.updatePayment id state) () ∈ log →
      state.status = .confirmed ∨ state.status = .failed → ¬Settled db id)
    (hsettled : Settled db id) : Settled (applyAll log db) id := by
  obtain ⟨p, hp, hstatus⟩ := hsettled
  cases h with
  | replayed => exact ⟨p, hp, hstatus⟩
  | @created k claim dto idempotencyKey intent rid hnames hclaim =>
      obtain ⟨keys, hkeys⟩ := applyAll_created hclaim dto intent rid db
      rw [hkeys]
      refine ⟨p, ?_, hstatus⟩
      show Table.find Payment.id id (db.payments ++ _) = some p
      rw [Table.find_insert, show Table.find Payment.id id db.payments = some p from hp]
      rfl
  | @settled k claim paymentId payment hnames hclaim =>
      obtain ⟨keys, hkeys⟩ := applyAll_settled hclaim paymentId payment db
      rw [hkeys]
      exact ⟨p, hp, hstatus⟩
  | @confirmed k claim paymentId payment named answers result now n hnames hclaim hscope hid
      hunsettled hconfirms hcaptured =>
      obtain ⟨keys, hkeys⟩ := applyAll_confirmed hclaim hcaptured paymentId payment now n db
      rw [hkeys]
      have hne : id ≠ payment.id := by
        intro heq
        refine hcaptures payment.id (capturedState payment result now) ?_ capturedState_cases
          (heq ▸ ⟨p, hp, hstatus⟩)
        simp [confirmedLog]
      refine ⟨p, ?_, hstatus⟩
      rw [Database.payment, payment_updated, if_neg hne]
      exact hp
  | @refunded k claim dto idempotencyKey payment total answers result rid now n hnames hclaim
      hrequest hid hrefundable hbalance hanswered =>
      obtain ⟨keys, hkeys⟩ := applyAll_refunded hclaim hanswered dto payment total rid now n db
      rw [hkeys]
      show ∃ p, Table.find Payment.id id (db.refundedPayments payment result _ now) = some p ∧ _
      unfold Database.refundedPayments
      split
      · rw [payment_updated]
        by_cases heq : id = payment.id
        · rw [if_pos heq, ← heq, hp]
          exact ⟨_, rfl, refundedState_status.1⟩
        · rw [if_neg heq]
          exact ⟨p, hp, hstatus⟩
      · exact ⟨p, hp, hstatus⟩

/-- A step that neither captures nor fails a settled payment leaves the settled ones settled. -/
theorem Step.settled (h : Step past i c op r w w' t)
    (hcaptures : Event.recaptures (.performed w i c op w') = false)
    (hfails : Event.failsSettled (.performed w i c op w') = false) (hsettled : Settled w.db id) :
    Settled w'.db id := by
  have hlegal := h.legal
  have hown := h.own
  cases h.performs with
  | passed _ hop hdb => exact hdb ▸ hsettled
  | commit hok =>
      show Settled (w.view i) id
      rw [World.view, hown]
      refine settled_commit hlegal.1 (fun id state hmem hstatus => ?_) hsettled
      have hcommits : Event.commits (.performed w i c .commit
          { w with db := w.view i, journal := Journal.drop i w.journal }) = some (i, t.pending) := by
        simp [Event.commits, hok, hown]
      exact not_settled_of_recaptures hcaptures hcommits hmem hstatus
  | auto q hok =>
      obtain ⟨p, hp, hstatus⟩ := hsettled
      cases q with
      | updatePayment id' state =>
          show ∃ p, Table.find Payment.id id (w.db.updated id' state) = some p ∧ _
          rw [payment_updated]
          by_cases heq : id = id'
          · subst heq
            rw [if_pos rfl, hp]
            cases hlegal.2 with
            | failed hfound =>
                simp [Event.failsSettled, failsSettled, Event.reportsFailed, hok, Event.before, hp,
                  hstatus] at hfails
            | refunded => exact ⟨_, rfl, refundedState_status.1⟩
          · rw [if_neg heq]
            exact ⟨p, hp, hstatus⟩
      | insertPayment payment => exact hlegal.elim
      | _ => exact ⟨p, hp, hstatus⟩
  | _ => exact hsettled

/-- A payment that a transaction saves as confirmed is settled when it commits. -/
theorem Step.settles {r : Except Exception Unit} (h : Step past i c .commit r w w' t) (hsets : SetsConfirmed t.pending id)
    (hdb : w'.db = applyAll t.pending w.db) : Settled w'.db id := by
  obtain ⟨state, hmem, hstatus⟩ := setsStatus_iff.mp hsets
  cases h.legal.1.update hmem with
  | refunded => exact absurd hstatus refundedState_ne_confirmed
  | @captured k claim paymentId payment named answers result now n hclaim hid hconfirms hcaptured
      hlog =>
      have hread : .query (.findPayment paymentId) (some payment) ∈ Journal.entries i w.journal := by
        rw [h.own, hlog]
        simp [confirmedLog]
      obtain ⟨state, hpayment⟩ := h.sound.reads i paymentId payment hread
      obtain ⟨keys, hkeys⟩ := applyAll_confirmed hclaim hcaptured paymentId payment now n w.db
      subst hid
      rw [hdb, hlog, hkeys]
      show ∃ p, Table.find Payment.id payment.id (w.db.updated payment.id _) = some p ∧ _
      rw [payment_updated, if_pos rfl, hpayment]
      refine ⟨_, rfl, ?_⟩
      show (capturedState payment result now).status.settled = true
      rw [hstatus]
      rfl

/-- A message is offered by the call that captured the payment. -/
theorem Step.publishes (h : Step past i c op r w w' t)
    (hpublishes : Event.publishes (.performed w i c op w') = some (j, id)) :
    HasCaptured past j id := by
  cases op with
  | publish message =>
      simp only [Event.publishes, Option.some.injEq, Prod.mk.injEq] at hpublishes
      obtain ⟨rfl, rfl⟩ := hpublishes
      obtain ⟨-, log, hcommitted, hannounces⟩ := h.legal
      refine ⟨t, log, h.log, hcommitted, ?_⟩
      cases hannounces with
      | @confirmed k claim paymentId payment answers result now n reference hnames hclaim hscope hid
          hsuccess hreference =>
          refine setsStatus_iff.mpr ⟨capturedState payment result now, ?_,
            capturedState_confirmed.mpr hsuccess⟩
          show Entry.query (.updatePayment payment.id _) () ∈ _
          simp [confirmedLog]
  | _ => cases hpublishes

theorem CapturedOnce.step (hinv : CapturedOnce past w) (h : Step past i c op r w w' t)
    (hcaptures : Event.recaptures (.performed w i c op w') = false)
    (hfails : Event.failsSettled (.performed w i c op w') = false) :
    CapturedOnce (past ++ [.performed w i c op w']) w' := by
  have hcaptured : ∀ {j id}, HasCaptured (past ++ [.performed w i c op w']) j id →
      HasCaptured past j id ∨ (j = i ∧ ¬HasCaptured past i id ∧ ¬Settled w.db id ∧
        Settled w'.db id) := by
    intro j id hcaptured
    rcases hcaptured.cases h with hold | ⟨rfl, rfl, hsets, hok, hdb⟩
    · exact .inl hold
    · refine .inr ⟨rfl, ?_, ?_, h.settles hsets hdb⟩
      · intro hbefore
        obtain ⟨t', log, hlog, hcommitted, -⟩ := hbefore
        rw [h.log, Option.some.injEq] at hlog
        subst hlog
        have hnone := h.legal.2
        rw [hcommitted] at hnone
        cases hnone
      · obtain ⟨state, hmem, hstatus⟩ := setsStatus_iff.mp hsets
        have hcommits : Event.commits (.performed w j c .commit w') = some (j, t.pending) := by
          simp [Event.commits, hok, h.own]
        exact not_settled_of_recaptures hcaptures hcommits hmem (.inl hstatus)
  refine ⟨fun j id hnew => ?_, fun j j' id hj hj' => ?_, fun e he j id hpublishes => ?_⟩
  · rcases hcaptured hnew with hold | ⟨-, -, -, hsettled⟩
    · exact h.settled hcaptures hfails (hinv.settled j id hold)
    · exact hsettled
  · rcases hcaptured hj with hold | ⟨rfl, -, hunsettled, -⟩
    · rcases hcaptured hj' with hold' | ⟨rfl, -, hunsettled, -⟩
      · exact hinv.once j j' id hold hold'
      · exact absurd (hinv.settled j id hold) hunsettled
    · rcases hcaptured hj' with hold' | ⟨rfl, -, -, -⟩
      · exact absurd (hinv.settled j' id hold') hunsettled
      · rfl
  · rcases List.mem_append.mp he with hold | hnew
    · exact (hinv.announced e hold j id hpublishes).stays h
    · cases List.mem_singleton.mp hnew
      exact (h.publishes hpublishes).stays h

theorem capturedOnce_started {request : Request} (hfresh : ∀ j, i ≤ j → logOf past j = none)
    (hinv : CapturedOnce past w) : CapturedOnce (past ++ [.started w i request]) w := by
  have hback : ∀ {j id}, HasCaptured (past ++ [.started w i request]) j id →
      HasCaptured past j id := by
    intro j id hcaptured
    obtain ⟨t, log, hlog, hcommitted, hsets⟩ := hcaptured
    by_cases hj : j = i
    · subst hj
      rw [logOf, System.trace_started_self, Option.some.injEq] at hlog
      subst hlog
      cases hcommitted
    · exact ⟨t, log, (System.trace_started_of_ne hj).symm.trans hlog, hcommitted, hsets⟩
  refine ⟨fun j id hnew => hinv.settled j id (hback hnew),
    fun j j' id hj hj' => hinv.once j j' id (hback hj) (hback hj'),
    fun e he j id hpublishes => ?_⟩
  rcases List.mem_append.mp he with hold | hnew
  · obtain ⟨t, log, hlog, hcaptured⟩ := hinv.announced e hold j id hpublishes
    exact ⟨t, log, logOf_started hfresh hlog, hcaptured⟩
  · cases List.mem_singleton.mp hnew
    cases hpublishes

/-! ## Whole runs -/

/-- At most one call offers the broker a message about each payment. -/
def AnnouncedOnce (es : List Event) : Prop :=
  ∀ e ∈ es, ∀ e' ∈ es, ∀ i j id, e.publishes = some (i, id) → e'.publishes = some (j, id) → i = j

variable {now : Nat} {ms : List (Move Request Choice)} {es : List Event} {P : ServicePool}

theorem recorded_init : Recorded (World.init now) :=
  ⟨fun _ => .inl rfl, nofun, nofun⟩

theorem not_captured_init : ¬HasCaptured [] i id := by
  intro h
  obtain ⟨t, log, hlog, -⟩ := h
  have hnone : logOf [] i = none := rfl
  rw [hnone] at hlog
  cases hlog

theorem capturedOnce_init : CapturedOnce [] (World.init now) where
  settled _ _ h := absurd h not_captured_init
  once _ _ _ h := absurd h not_captured_init
  announced _ h := by cases h

/-- However confirmations interleave, each payment has one pair of entries at most; and where no
confirmation is committed, and no failure reported, on a payment that is settled already, at most
one call announces it. -/
theorem capture_recorded_once (hrun : service.run ms (Pool.init (World.init now)) = some (es, P)) :
    (∀ e ∈ es, ∀ id, AtMostOnePair (paymentEntriesOf e.after.db.ledger id)) ∧
      ((∀ e ∈ es, e.recaptures = false ∧ e.failsSettled = false) → AnnouncedOnce es) := by
  constructor
  · refine (run_history (fun _ w => Recorded w) (fun _ => True)
      (fun e => ∀ id, AtMostOnePair (paymentEntriesOf e.after.db.ledger id)) ?_ ?_ hrun
      (fun _ _ => trivial) (remembers_init _ recorded_init)).2
    · exact fun past w i request _ _ hinv _ => ⟨hinv, hinv.pairs⟩
    · intro past i c op r w w' t hstep hinv _
      have hinv' : Recorded w' := hinv.step hstep
      exact ⟨hinv', hinv'.pairs⟩
  · intro hobeys
    have hhistory : Remembers CapturedOnce ([] ++ es) P := by
      refine (run_history CapturedOnce (fun e => e.recaptures = false ∧ e.failsSettled = false)
        (fun _ => True) ?_ ?_ hrun hobeys (remembers_init _ capturedOnce_init)).1
      · exact fun past w i request hfresh _ hinv _ => ⟨capturedOnce_started hfresh hinv, trivial⟩
      · exact fun past i c op r w w' t hstep hinv h => ⟨hinv.step hstep h.1 h.2, trivial⟩
    have hinv : CapturedOnce es P.state := hhistory.inv.2
    intro e he e' he' i j id hpublishes hpublishes'
    exact hinv.once i j id (hinv.announced e he i id hpublishes)
      (hinv.announced e' he' j id hpublishes')

/-- The client confirms, then a webhook. -/
def confirmedTwice : List (Move Request Choice) :=
  confirmed ++ .start (.confirmPaymentByGatewayId "pi" (some "d")) :: succeeds 2 "c" "succeeded" 7

theorem capture_recorded_once_serial :
    ∃ (es : List Event) (P : ServicePool),
      service.run confirmedTwice (Pool.init (World.init 0)) = some (es, P) ∧
      (∀ e ∈ es, ∀ id, AtMostOnePair (paymentEntriesOf e.after.db.ledger id)) ∧
      AnnouncedOnce es := by
  have hrun : (service.run confirmedTwice (Pool.init (World.init 0))).any (fun result =>
      result.1.all fun (e : Event) => !e.recaptures && !e.failsSettled) = true := by
    decide +kernel
  obtain ⟨es, P, hrun, hobeys⟩ := System.exists_run hrun
  obtain ⟨hpairs, honce⟩ := capture_recorded_once hrun
  refine ⟨es, P, hrun, hpairs, honce fun e he => ?_⟩
  have hevent := List.all_eq_true.mp hobeys e he
  simpa only [Bool.and_eq_true, Bool.not_eq_true'] using hevent

/-- The client and a webhook confirm the same payment: both see it unsettled, both capture it, and
both announce it. -/
def racing : List (Move Request Choice) :=
  created ++ .start (.confirmPaymentIntent "a4" none (some "c")) ::
    .start (.confirmPaymentByGatewayId "pi" (some "d")) ::
    succeeds 1 "b" "succeeded" 7 ++ succeeds 2 "c" "succeeded" 8 ++
    succeeds 1 "b" "succeeded" 6 ++ succeeds 2 "c" "succeeded" 5

theorem announced_twice :
    ∃ (es : List Event) (P : ServicePool),
      service.run racing (Pool.init (World.init 0)) = some (es, P) ∧ ¬AnnouncedOnce es := by
  have hrun : (service.run racing (Pool.init (World.init 0))).any (fun result =>
      (result.1.any fun (e : Event) => e.publishes = some (1, "a4")) &&
      result.1.any fun (e : Event) => e.publishes = some (2, "a4")) = true := by decide +kernel
  obtain ⟨es, P, hrun, hevents⟩ := System.exists_run hrun
  simp only [Bool.and_eq_true, List.any_eq_true, decide_eq_true_eq] at hevents
  obtain ⟨⟨e, he, hpublishes⟩, e', he', hpublishes'⟩ := hevents
  refine ⟨es, P, hrun, fun honce => ?_⟩
  cases honce e he e' he' 1 2 "a4" hpublishes hpublishes'

end FlightBookings.Payment
