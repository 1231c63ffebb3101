import FlightBookings.Payment.Confirmation
import FlightBookings.Payment.Refunds

/-! # Confirmed payments are announced

A confirmation that resolves has captured the payment itself, or it relies on a
capture before it: it read a payment that was confirmed, or a response that was
stored. What was captured before is announced once its call is through.
-/

namespace FlightBookings.Payment

open Await

variable {past : List Event} {i j : Nat} {c : Choice} {op : Op} {r : Except Exception op.Ret}
variable {w w' : World} {t : CallLog} {log : List Entry} {id : String} {p : Payment}
variable {k : KeyRef} {db : Database} {request : Request}

/-! ## What is owed -/

/-- A confirmed payment for a booking. -/
def Payment.Owed (p : Payment) : Prop :=
  p.status = .confirmed ∧ (getBookingReference p).isSome = true

instance (p : Payment) : Decidable p.Owed := by
  unfold Payment.Owed
  infer_instance

/-- A transaction that saves a payment as confirmed, for a booking. -/
def Owing (log : List Entry) (id : String) : Prop :=
  ∃ (payment : Payment) (state : PaymentState),
    .query (.updatePayment id state) () ∈ log ∧ (payment.after state).Owed

def HasOwing (past : List Event) (i : Nat) (id : String) : Prop :=
  ∃ t log, logOf past i = some t ∧ t.committed = some log ∧ Owing log id

def Announced (w : World) (id : String) : Prop :=
  ∃ message ∈ w.published, message.paymentId = id

/-- A transaction has read a payment, or a stored response that shows it. -/
def Recalls (log : List Entry) (p : Payment) : Prop :=
  (∃ id, .query (.findPayment id) (some p) ∈ log) ∨
    ∃ k record, .query (.findKey k) (some record) ∈ log ∧ record.Final ∧
      record.responseBody = some (.payment p)

/-- The transaction of a call, committed or open. -/
def CallLog.transaction (t : CallLog) : List Entry := t.committed.getD t.pending

/-- The broker does not take a message. -/
def Event.loses : Event → Bool
  | .performed _ _ c (.publish _) _ => c.fails.isSome
  | _ => false

/-- A payment for a booking is created as confirmed. -/
def Event.createsConfirmed (e : Event) : Bool :=
  e.commits.any fun tx => tx.2.any fun entry => match entry with
    | .query (.insertPayment payment) _ => decide payment.Owed
    | _ => false

/-- Every capture is announced once its call is through, and what shows a payment as confirmed goes
back to a capture. -/
structure Announcing (past : List Event) (w : World) : Prop where
  accepted : ∀ i t, logOf past i = some t → ∀ message ∈ t.sent, message ∈ w.published
  delivered : ∀ i t, logOf past i = some t → t.undelivered = []
  shaped : ∀ i t log, logOf past i = some t → t.committed = some log → Shape t.request log
  closed : ∀ i id, HasOwing past i id → Announced w id ∨ ∀ j, i < j → logOf past j = none
  payments : ∀ id p, w.db.payment id = some p → p.Owed → ∃ i, HasOwing past i id
  keys : ∀ k record p, w.db.key k = some record → record.Final →
    record.responseBody = some (.payment p) → p.Owed →
    Announced w p.id ∨ ∃ i, HasOwing past i p.id
  recalled : ∀ i t, logOf past i = some t → ∀ p, Recalls t.transaction p → p.Owed →
    Announced w p.id

/-! ## Committed transactions -/

/-- Where a committed transaction leaves a confirmed payment, it was there before or is saved
by it. -/
theorem owed_commit (h : Shape request log)
    (hcreates : ∀ payment, .query (.insertPayment payment) () ∈ log → ¬payment.Owed)
    (hpayment : (applyAll log db).payment id = some p) (howed : p.Owed) :
    db.payment id = some p ∨ Owing log id := by
  cases h with
  | replayed => exact .inl hpayment
  | @created k claim dto idempotencyKey intent rid hnames hclaim =>
      obtain ⟨keys, hkeys⟩ := applyAll_created hclaim dto intent rid db
      rw [hkeys, Database.payment, Table.find_insert] at hpayment
      rcases Option.or_eq_some_iff.mp hpayment with hold | ⟨-, hnew⟩
      · exact .inl hold
      · split at hnew
        · cases hnew
          exact absurd howed (hcreates _ (by simp [createdLog]))
        · cases hnew
  | @settled k claim paymentId payment hnames hclaim =>
      obtain ⟨keys, hkeys⟩ := applyAll_settled hclaim paymentId payment db
      rw [hkeys] at hpayment
      exact .inl hpayment
  | @confirmed k claim paymentId payment named answers result now n hnames hclaim hscope hid
      hunsettled hconfirms hcaptured =>
      obtain ⟨keys, hkeys⟩ := applyAll_confirmed hclaim hcaptured paymentId payment now n db
      rw [hkeys, Database.payment, payment_updated] at hpayment
      split at hpayment
      · rename_i heq
        obtain ⟨found, hfound, rfl⟩ := Option.map_eq_some_iff.mp hpayment
        exact .inr ⟨found, capturedState payment result now, by simp [heq, confirmedLog], howed⟩
      · exact .inl hpayment
  | @refunded k claim dto idempotencyKey payment total answers result rid now n hnames hclaim
      hrequest hid hrefundable hbalance hanswered =>
      obtain ⟨keys, hkeys⟩ := applyAll_refunded hclaim hanswered dto payment total rid now n db
      rw [hkeys, Database.payment] at hpayment
      change Table.find Payment.id id (db.refundedPayments payment result _ now) = some p
        at hpayment
      unfold Database.refundedPayments at hpayment
      split at hpayment
      · rw [payment_updated] at hpayment
        split at hpayment
        · obtain ⟨found, hfound, rfl⟩ := Option.map_eq_some_iff.mp hpayment
          exact absurd howed.1 refundedState_ne_confirmed
        · exact .inl hpayment
      · exact .inl hpayment

/-- The payment of a response that a transaction stores. -/
inductive Shows (log : List Entry) : Payment → Prop where
  | created {payment : Payment} (hmem : .query (.insertPayment payment) () ∈ log) :
      Shows log payment
  | read {id : String} {payment : Payment} (hmem : .query (.findPayment id) (some payment) ∈ log) :
      Shows log payment
  | saved {payment : Payment} {state : PaymentState}
      (hmem : .query (.updatePayment payment.id state) () ∈ log) :
      Shows log (payment.after state)

/-- A committed transaction has replayed a response, or stores one that it can show. -/
theorem Shape.response (h : Shape request log) :
    (∃ k record, log = replayedLog k record) ∨
      ∃ k rest body code error, keyOf log = some k ∧
        log = rest ++ [.query (.updateKey k (completedState body code error)) ()] ∧
        ∀ payment, body = .payment payment → Shows log payment := by
  cases h with
  | replayed => exact .inl ⟨_, _, rfl⟩
  | @created k claim dto idempotencyKey intent rid hnames hclaim =>
      refine .inr ⟨k, _, _, _, _, keyOf_claim hclaim,
        (List.append_assoc claim [_, _] [completedEntry k _]).symm, ?_⟩
      intro payment hpayment
      cases hpayment
      exact .created (by simp [createdLog])
  | @settled k claim paymentId payment hnames hclaim =>
      refine .inr ⟨k, _, _, _, _, keyOf_claim hclaim,
        (List.append_assoc claim [_] [completedEntry k payment]).symm, ?_⟩
      intro payment' hpayment
      cases hpayment
      exact .read (List.mem_append_right _ List.mem_cons_self)
  | @confirmed k claim paymentId payment named answers result now n hnames hclaim =>
      refine .inr ⟨k, _, _, _, _, keyOf_claim hclaim, (List.append_assoc _ _ _).symm, ?_⟩
      intro payment' hpayment
      cases hpayment
      exact .saved (by simp [confirmedLog])
  | @refunded k claim dto idempotencyKey payment total answers result rid now n hnames hclaim =>
      refine .inr ⟨k, _, _, _, _, keyOf_claim hclaim, (List.append_assoc _ _ _).symm, ?_⟩
      intro payment' hpayment
      cases hpayment

/-- The completed record that a committed transaction leaves under a key. -/
theorem shows_commit (h : Shape request log) {record : IdempotencyKey}
    (hrecord : (applyAll log db).key k = some record)
    (hbody : record.responseBody = some (.payment p)) :
    db.key k = some record ∨ Shows log p := by
  obtain ⟨k', hkey, hwrites⟩ := h.writesOnly
  by_cases heq : k = k'
  · subst heq
    rcases h.response with ⟨k', record', rfl⟩ | ⟨k', rest, body, code, error, hkey', hlog, hshows⟩
    · exact .inl hrecord
    · rw [hkey, Option.some.injEq] at hkey'
      subst hkey'
      right
      refine hshows p ?_
      rw [hlog, applyAll_append] at hrecord
      have hupdated : (applyAll [.query (.updateKey k (completedState body code error)) ()]
          (applyAll rest db)).key k = _ := key_updated.trans (if_pos rfl)
      rw [hupdated] at hrecord
      obtain ⟨found, -, rfl⟩ := Option.map_eq_some_iff.mp hrecord
      exact Option.some.inj hbody
  · rw [key_applyAll hwrites heq] at hrecord
    exact .inl hrecord

/-- A committed transaction changes at most one payment, once. -/
theorem Shape.update_unique (h : Shape request log) {id' : String} {state state' : PaymentState}
    (hmem : .query (.updatePayment id state) () ∈ log)
    (hmem' : .query (.updatePayment id' state') () ∈ log) : id = id' ∧ state = state' := by
  cases h with
  | replayed => simp [replayedLog] at hmem
  | created hnames hclaim =>
      simp [createdLog, completedEntry, keepsPayments_claim hclaim id state] at hmem
  | settled hnames hclaim =>
      simp [settledLog, completedEntry, keepsPayments_claim hclaim id state] at hmem
  | confirmed hnames hclaim hscope hid hunsettled hconfirms hcaptured =>
      obtain ⟨rfl, rfl⟩ := mem_confirmedLog hclaim hcaptured hmem
      obtain ⟨rfl, rfl⟩ := mem_confirmedLog hclaim hcaptured hmem'
      exact ⟨rfl, rfl⟩
  | refunded hnames hclaim hrequest hid hrefundable hbalance hanswered =>
      obtain ⟨-, rfl, rfl⟩ := mem_refundedLog hclaim hanswered hmem
      obtain ⟨-, rfl, rfl⟩ := mem_refundedLog hclaim hanswered hmem'
      exact ⟨rfl, rfl⟩

/-- A confirmation that is through has announced what it captured. -/
theorem announced_of_outcome {sent : List PaymentCompleted} {body : ResponseBody}
    (h : Outcome sent log body) (hshape : Shape request log) (howing : Owing log id) :
    ∃ message ∈ sent, message.paymentId = id := by
  obtain ⟨payment', state, hmem, hconfirmed, hreference⟩ := howing
  cases h with
  | replayed => simp [replayedLog] at hmem
  | settled hclaim =>
      simp [settledLog, completedEntry, keepsPayments_claim hclaim id state] at hmem
  | @confirmed k claim paymentId payment answers result now n hclaim hid hsent =>
      have hsaved : .query (.updatePayment payment.id (capturedState payment result now)) () ∈
          claim ++ confirmedLog k paymentId payment answers result now n := by
        simp [confirmedLog]
      obtain ⟨rfl, rfl⟩ := hshape.update_unique hmem hsaved
      obtain ⟨reference, hreference⟩ := Option.isSome_iff_exists.mp hreference
      exact ⟨_, hsent reference (capturedState_confirmed.mp hconfirmed) hreference, rfl⟩

/-- A confirmation that captures is one that confirms. -/
theorem confirms_of_owing (h : Shape request log) (howing : Owing log id) :
    ∃ named, request.Confirms named := by
  obtain ⟨payment, state, hmem, hconfirmed, -⟩ := howing
  cases h.update hmem with
  | captured hclaim hid hconfirms => exact ⟨_, hconfirms⟩
  | refunded => exact absurd hconfirmed refundedState_ne_confirmed

/-! ## One operation -/

theorem Announced.mono (h : Announced w id)
    (hpublished : ∀ message ∈ w.published, message ∈ w'.published) : Announced w' id := by
  obtain ⟨message, hmem, hid⟩ := h
  exact ⟨message, hpublished message hmem, hid⟩

theorem Step.published (h : Step past i c op r w w' t) :
    ∀ message ∈ w.published, message ∈ w'.published := by
  intro message hmem
  cases h.performs with
  | passed _ hop hdb hjournal hpublished => exact hpublished ▸ hmem
  | publish message' => exact List.mem_append_left _ hmem
  | _ => exact hmem

theorem HasOwing.stays (howing : HasOwing past j id) (h : Step past i c op r w w' t) :
    HasOwing (past ++ [.performed w i c op w']) j id := by
  obtain ⟨t', log, hlog, hcommitted, howing⟩ := howing
  by_cases hj : j = i
  · subst hj
    rw [h.log, Option.some.injEq] at hlog
    subst hlog
    exact ⟨_, log, h.log_self, advance_committed h.legal hcommitted, howing⟩
  · exact ⟨t', log, (logOf_performed_of_ne hj).trans hlog, hcommitted, howing⟩

/-- What a call has committed, it commits just now, or had committed before. -/
theorem Step.committed_cases (h : Step past i c op r w w' t)
    (hcommitted : (advance op r t).committed = some log) :
    t.committed = some log ∨
      (op = .commit ∧ c.fails = none ∧ log = t.pending ∧ t.committed = none) := by
  have hlegal := h.legal
  cases h.performs with
  | failed e =>
      left
      cases op <;> exact hcommitted
  | passed _ hop =>
      rw [advance_local hop] at hcommitted
      exact .inl hcommitted
  | commit hok => exact .inr ⟨rfl, hok, (Option.some.inj hcommitted).symm, hlegal.2⟩
  | _ => exact .inl hcommitted

theorem HasOwing.cases (h : Step past i c op r w w' t)
    (howing : HasOwing (past ++ [.performed w i c op w']) j id) :
    HasOwing past j id ∨ (j = i ∧ op = .commit ∧ Owing t.pending id) := by
  obtain ⟨t', log, hlog, hcommitted, howing⟩ := howing
  by_cases hj : j = i
  · subst hj
    rw [h.log_self, Option.some.injEq] at hlog
    subst hlog
    rcases h.committed_cases hcommitted with hold | ⟨rfl, -, rfl, -⟩
    · exact .inl ⟨t, log, h.log, hold, howing⟩
    · exact .inr ⟨rfl, rfl, howing⟩
  · rw [logOf_performed_of_ne hj] at hlog
    exact .inl ⟨t', log, hlog, hcommitted, howing⟩

/-- What was captured before the newest call began is announced. -/
theorem Announcing.announced_of_owing (hinv : Announcing past w)
    (h : SerialStep past i c op r w w' t) (hcommitted : t.committed = none)
    (howing : ∃ j, HasOwing past j id) : Announced w id := by
  obtain ⟨j, howing⟩ := howing
  rcases hinv.closed j id howing with hannounced | hnewest
  · exact hannounced
  · obtain ⟨t', log, hlog, hcommitted', -⟩ := howing
    rcases Nat.lt_trichotomy i j with hlt | rfl | hgt
    · rw [h.newest j hlt] at hlog
      cases hlog
    · rw [h.log, Option.some.injEq] at hlog
      subst hlog
      rw [hcommitted] at hcommitted'
      cases hcommitted'
    · have hnone := hnewest i hgt
      rw [h.log] at hnone
      cases hnone

/-- What an operation adds to what its call has recalled. -/
theorem Step.recalls (h : Step past i c op r w w' t)
    (hrecalls : Recalls (advance op r t).transaction p) :
    Recalls t.transaction p ∨ (t.committed = none ∧
      ((∃ id, w.db.payment id = some p) ∨
        ∃ k record, w.db.key k = some record ∧ record.Final ∧
          record.responseBody = some (.payment p))) := by
  have hlegal := h.legal
  have hown := h.own
  have hadds : ∀ entry, Recalls (({ t with pending := t.pending ++ [entry] } : CallLog).transaction) p →
      Recalls t.transaction p ∨ (t.committed = none ∧ Recalls [entry] p) := by
    intro entry hrecalls
    cases hcommitted : t.committed with
    | some log =>
        left
        simpa [CallLog.transaction, hcommitted] using hrecalls
    | none =>
        simp only [CallLog.transaction, hcommitted, Option.getD_none] at hrecalls ⊢
        rcases hrecalls with ⟨id, hmem⟩ | ⟨k, record, hmem, hstored⟩
        · rcases List.mem_append.mp hmem with hold | hnew
          · exact .inl (.inl ⟨id, hold⟩)
          · exact .inr ⟨trivial, .inl ⟨id, hnew⟩⟩
        · rcases List.mem_append.mp hmem with hold | hnew
          · exact .inl (.inr ⟨k, record, hold, hstored⟩)
          · exact .inr ⟨trivial, .inr ⟨k, record, hnew, hstored⟩⟩
  cases h.performs with
  | failed e =>
      left
      cases op <;> exact hrecalls
  | passed _ hop =>
      rw [advance_local hop] at hrecalls
      exact .inl hrecalls
  | sql q =>
      rcases hadds _ hrecalls with hold | ⟨hcommitted, hnew⟩
      · exact .inl hold
      · refine .inr ⟨hcommitted, ?_⟩
        rcases hnew with ⟨id, hmem⟩ | ⟨k, record, hmem, hstored⟩
        · rw [List.mem_singleton] at hmem
          cases q with
          | findPayment id' =>
              simp only [Entry.query.injEq, Query.findPayment.injEq] at hmem
              obtain ⟨rfl, hread⟩ := hmem
              obtain ⟨k, hclaim⟩ := hlegal
              obtain ⟨keys, hkeys⟩ := applyAll_claim hclaim w.db
              have hview : w.view i = { w.db with keys } := by rw [World.view, hown, hkeys]
              have hfound : some p = (w.view i).payment id := eq_of_heq hread
              rw [hview] at hfound
              exact .inl ⟨id, hfound.symm⟩
          | _ => cases hmem
        · rw [List.mem_singleton] at hmem
          cases q with
          | findKey k' =>
              simp only [Entry.query.injEq, Query.findKey.injEq] at hmem
              obtain ⟨rfl, hread⟩ := hmem
              have hview : w.view i = w.db := by
                rw [World.view, hown, hlegal.1]
                rfl
              have hfound : some record = (w.view i).key k := eq_of_heq hread
              rw [hview] at hfound
              exact .inr ⟨k, record, hfound.symm, hstored⟩
          | _ => cases hmem
  | stripe op =>
      rcases hadds _ hrecalls with hold | ⟨-, ⟨id, hmem⟩ | ⟨k, record, hmem, -⟩⟩
      · exact .inl hold
      · cases List.mem_singleton.mp hmem
      · cases List.mem_singleton.mp hmem
  | commit =>
      left
      have hnone : t.committed = none := hlegal.2
      simpa [advance, CallLog.transaction, hnone] using hrecalls
  | rollback =>
      left
      cases hcommitted : t.committed with
      | some log => simpa [advance, CallLog.transaction, hcommitted] using hrecalls
      | none => simp [advance, CallLog.transaction, hcommitted, Recalls] at hrecalls
  | _ => exact .inl hrecalls

/-- No commit creates a payment as confirmed. -/
theorem not_owed_of_creates {r : Except Exception Unit} (h : Step past i c .commit r w w' t)
    (hok : c.fails = none)
    (hcreates : Event.createsConfirmed (.performed w i c .commit w') = false) :
    ∀ payment, .query (.insertPayment payment) () ∈ t.pending → ¬payment.Owed := by
  intro payment hmem howed
  have hcommits : Event.commits (.performed w i c .commit w') = some (i, t.pending) := by
    simp [Event.commits, hok, h.own]
  rw [Event.createsConfirmed, hcommits, Option.any_some, List.any_eq_false] at hcreates
  have hentry := hcreates _ hmem
  simp [howed] at hentry

/-- Where a confirmed payment for a booking comes from. -/
theorem Step.payments (h : Step past i c op r w w' t)
    (hcreates : Event.createsConfirmed (.performed w i c op w') = false)
    (hpayment : w'.db.payment id = some p) (howed : p.Owed) :
    w.db.payment id = some p ∨ HasOwing (past ++ [.performed w i c op w']) i id := by
  have hlegal := h.legal
  have hown := h.own
  have hlog := h.log_self
  cases h.performs with
  | passed _ hop hdb => exact .inl (hdb ▸ hpayment)
  | commit hok =>
      change (w.view i).payment id = some p at hpayment
      rw [World.view, hown] at hpayment
      have hnone := not_owed_of_creates h hok hcreates
      rcases owed_commit hlegal.1 hnone hpayment howed with hold | howing
      · exact .inl hold
      · exact .inr ⟨_, t.pending, hlog, rfl, howing⟩
  | auto q =>
      left
      cases q with
      | updatePayment id' state =>
          change Table.find Payment.id id (w.db.updated id' state) = some p at hpayment
          rw [payment_updated] at hpayment
          split at hpayment
          · obtain ⟨found, -, rfl⟩ := Option.map_eq_some_iff.mp hpayment
            cases hlegal.2 with
            | failed => cases howed.1
            | refunded => exact absurd howed.1 refundedState_ne_confirmed
          · exact hpayment
      | insertPayment payment => exact hlegal.elim
      | _ => exact hpayment
  | _ => exact .inl hpayment

/-- Where a stored response that shows a confirmed payment comes from. -/
theorem Step.keys (h : Step past i c op r w w' t)
    (hcreates : Event.createsConfirmed (.performed w i c op w') = false) {record : IdempotencyKey}
    (hrecord : w'.db.key k = some record) (hfinal : record.Final)
    (hbody : record.responseBody = some (.payment p)) (howed : p.Owed) :
    w.db.key k = some record ∨ HasOwing (past ++ [.performed w i c op w']) i p.id ∨
      Recalls t.transaction p := by
  have hlegal := h.legal
  have hown := h.own
  have hlog := h.log_self
  cases h.performs with
  | passed _ hop hdb => exact .inl (hdb ▸ hrecord)
  | commit hok =>
      change (w.view i).key k = some record at hrecord
      rw [World.view, hown] at hrecord
      have hpending : t.transaction = t.pending := by
        have hnone : t.committed = none := hlegal.2
        simp [CallLog.transaction, hnone]
      rcases shows_commit hlegal.1 hrecord hbody with hold | hshows
      · exact .inl hold
      · right
        cases hshows with
        | created hmem => exact absurd howed (not_owed_of_creates h hok hcreates p hmem)
        | read hmem => exact .inr (hpending ▸ .inl ⟨_, hmem⟩)
        | @saved payment state hmem =>
            exact .inl ⟨_, t.pending, hlog, rfl, payment, state, hmem, howed⟩
  | auto q =>
      left
      cases q with
      | insertKey record' => exact hlegal.elim
      | updateKey k' state =>
          rw [key_updated] at hrecord
          split at hrecord
          · obtain ⟨found, -, rfl⟩ := Option.map_eq_some_iff.mp hrecord
            have hstatus : state.status = .completed := hfinal.1
            rw [hlegal.2] at hstatus
            cases hstatus
          · exact hrecord
      | _ => exact hrecord
  | _ => exact .inl hrecord

theorem Announcing.step (hinv : Announcing past w) (h : SerialStep past i c op r w w' t)
    (hloses : Event.loses (.performed w i c op w') = false)
    (hcreates : Event.createsConfirmed (.performed w i c op w') = false) :
    Announcing (past ++ [.performed w i c op w']) w' := by
  have hmono : ∀ {id}, Announced w id → Announced w' id := fun hannounced =>
    hannounced.mono h.published
  refine ⟨fun j t' hlog => ?_, fun j t' hlog => ?_, fun j t' log hlog hcommitted => ?_,
    fun j id howing => ?_, fun id p hpayment howed => ?_,
    fun k record p hrecord hfinal hbody howed => ?_, fun j t' hlog p hrecalls howed => ?_⟩
  · by_cases hj : j = i
    · subst hj
      rw [h.log_self, Option.some.injEq] at hlog
      subst hlog
      have hold : ∀ message ∈ t.sent, message ∈ w'.published := fun message hmem =>
        h.published message (hinv.accepted j t h.log message hmem)
      cases h.performs with
      | failed e => cases op <;> exact hold
      | passed _ hop =>
          rw [advance_local hop]
          exact hold
      | publish message =>
          intro message' hmem
          rcases List.mem_append.mp hmem with hmem | hmem
          · exact hold message' hmem
          · exact List.mem_append_right _ hmem
      | _ => exact hold
    · rw [logOf_performed_of_ne hj] at hlog
      exact fun message hmem => h.published message (hinv.accepted j t' hlog message hmem)
  · by_cases hj : j = i
    · subst hj
      rw [h.log_self, Option.some.injEq] at hlog
      subst hlog
      have hold : t.undelivered = [] := hinv.delivered j t h.log
      cases h.performs with
      | failed e hop hcause =>
          cases op with
          | publish message =>
              have hok : c.fails = none := by simpa [Event.loses] using hloses
              obtain ⟨q, db, hop, -⟩ := hcause hok
              rcases hop with hop | hop <;> cases hop
          | _ => exact hold
      | passed _ hop =>
          rw [advance_local hop]
          exact hold
      | _ => exact hold
    · rw [logOf_performed_of_ne hj] at hlog
      exact hinv.delivered j t' hlog
  · by_cases hj : j = i
    · subst hj
      rw [h.log_self, Option.some.injEq] at hlog
      subst hlog
      rw [advance_request]
      rcases h.committed_cases hcommitted with hold | ⟨rfl, -, rfl, -⟩
      · exact hinv.shaped j t log h.log hold
      · exact h.legal.1
    · rw [logOf_performed_of_ne hj] at hlog
      exact hinv.shaped j t' log hlog hcommitted
  · rcases howing.cases h.toStep with hold | ⟨rfl, -, -⟩
    · rcases hinv.closed j id hold with hannounced | hnewest
      · exact .inl (hmono hannounced)
      · refine .inr fun j' hj' => ?_
        have hne : j' ≠ i := by
          intro heq
          subst heq
          have hnone := hnewest j' hj'
          rw [h.log] at hnone
          cases hnone
        rw [logOf_performed_of_ne hne]
        exact hnewest j' hj'
    · refine .inr fun j' hj' => ?_
      rw [logOf_performed_of_ne (by omega)]
      exact h.newest j' hj'
  · rcases h.payments hcreates hpayment howed with hold | hnew
    · obtain ⟨j, howing⟩ := hinv.payments id p hold howed
      exact ⟨j, howing.stays h.toStep⟩
    · exact ⟨i, hnew⟩
  · rcases h.keys hcreates hrecord hfinal hbody howed with hold | hnew | hrecalls
    · rcases hinv.keys k record p hold hfinal hbody howed with hannounced | ⟨j, howing⟩
      · exact .inl (hmono hannounced)
      · exact .inr ⟨j, howing.stays h.toStep⟩
    · exact .inr ⟨i, hnew⟩
    · exact .inl (hmono (hinv.recalled i t h.log p hrecalls howed))
  · by_cases hj : j = i
    · subst hj
      rw [h.log_self, Option.some.injEq] at hlog
      subst hlog
      refine hmono ?_
      rcases h.recalls hrecalls with hold | ⟨hcommitted, ⟨id, hpayment⟩ | hstored⟩
      · exact hinv.recalled j t h.log p hold howed
      · have hid : p.id = id := (Table.mem_of_find hpayment).2
        exact hid ▸ hinv.announced_of_owing h hcommitted (hinv.payments id p hpayment howed)
      · obtain ⟨k, record, hrecord, hfinal, hbody⟩ := hstored
        rcases hinv.keys k record p hrecord hfinal hbody howed with hannounced | howing
        · exact hannounced
        · exact hinv.announced_of_owing h hcommitted howing
    · rw [logOf_performed_of_ne hj] at hlog
      exact hmono (hinv.recalled j t' hlog p hrecalls howed)

/-- A call that is through has announced what it captured. -/
theorem Announcing.announced_of_done (hinv : Announcing past w) (howing : HasOwing past i id)
    (hdone : ∀ t, logOf past i = some t → ∃ r, Resolved r t) : Announced w id := by
  obtain ⟨t, log, hlog, hcommitted, howing⟩ := howing
  obtain ⟨r, hresolved⟩ := hdone t hlog
  have hshape : Shape t.request log := hinv.shaped i t log hlog hcommitted
  obtain ⟨named, hconfirms⟩ := confirms_of_owing hshape howing
  obtain ⟨body, houtcome⟩ :=
    hresolved.announces named log hconfirms hcommitted (hinv.delivered i t hlog)
  obtain ⟨message, hmem, hid⟩ := announced_of_outcome houtcome hshape howing
  exact ⟨message, hinv.accepted i t hlog message hmem, hid⟩

theorem announcing_started (hfresh : ∀ j, i ≤ j → logOf past j = none) (hinv : Announcing past w)
    (hdone : ∀ j t, logOf past j = some t → ∃ r, Resolved r t) :
    Announcing (past ++ [.started w i request]) w := by
  have hlogs : ∀ {j t}, logOf (past ++ [.started w i request]) j = some t →
      logOf past j = some t ∨ t = CallLog.start request := by
    intro j t hlog
    by_cases hj : j = i
    · subst hj
      rw [logOf, System.trace_started_self, Option.some.injEq] at hlog
      exact .inr hlog.symm
    · exact .inl ((System.trace_started_of_ne hj).symm.trans hlog)
  have howings : ∀ {j id}, HasOwing past j id →
      HasOwing (past ++ [.started w i request]) j id := by
    intro j id howing
    obtain ⟨t, log, hlog, howing⟩ := howing
    exact ⟨t, log, logOf_started hfresh hlog, howing⟩
  refine ⟨fun j t hlog => ?_, fun j t hlog => ?_, fun j t log hlog hcommitted => ?_,
    fun j id howing => ?_, fun id p hpayment howed => ?_,
    fun k record p hrecord hfinal hbody howed => ?_, fun j t hlog p hrecalls howed => ?_⟩
  · rcases hlogs hlog with hold | rfl
    · exact hinv.accepted j t hold
    · exact fun message hmem => absurd hmem List.not_mem_nil
  · rcases hlogs hlog with hold | rfl
    · exact hinv.delivered j t hold
    · rfl
  · rcases hlogs hlog with hold | rfl
    · exact hinv.shaped j t log hold hcommitted
    · cases hcommitted
  · left
    obtain ⟨t, log, hlog, hcommitted, howing⟩ := howing
    rcases hlogs hlog with hold | rfl
    · exact hinv.announced_of_done ⟨t, log, hold, hcommitted, howing⟩ (hdone j)
    · cases hcommitted
  · obtain ⟨j, howing⟩ := hinv.payments id p hpayment howed
    exact ⟨j, howings howing⟩
  · refine (hinv.keys k record p hrecord hfinal hbody howed).imp_right fun hkey => ?_
    obtain ⟨j, howing⟩ := hkey
    exact ⟨j, howings howing⟩
  · rcases hlogs hlog with hold | rfl
    · exact hinv.recalled j t hold p hrecalls howed
    · simp [Recalls, CallLog.transaction, CallLog.start] at hrecalls

/-! ## Whole runs -/

variable {now : Nat} {ms : List (Move Request Choice)} {es : List Event} {P : ServicePool}

theorem logOf_init : logOf [] i = none := rfl

theorem announcing_init : Announcing [] (World.init now) := by
  have hlogs : ∀ {i t}, ¬logOf [] i = some t := by
    intro i t hlog
    rw [logOf_init] at hlog
    cases hlog
  refine ⟨fun i t hlog => absurd hlog hlogs, fun i t hlog => absurd hlog hlogs,
    fun i t log hlog => absurd hlog hlogs, fun i id howing => ?_, fun id p hpayment => ?_,
    fun k record p hrecord => ?_, fun i t hlog => absurd hlog hlogs⟩
  · obtain ⟨t, log, hlog, -⟩ := howing
    exact absurd hlog hlogs
  · cases hpayment
  · cases hrecord

/-- While one request runs at a time, a confirmation that resolves with a confirmed payment for a
booking has it announced, as long as the broker takes every message and no payment is created as
confirmed. -/
theorem confirmed_payment_announced
    (hrun : service.run ms (Pool.init (World.init now)) = some (es, P))
    (hserial : service.serial ms (Pool.init (World.init now)) = true)
    (hannounces : ∀ e ∈ es, e.loses = false ∧ e.createsConfirmed = false) {named : Option String}
    (hstarted : .started w i request ∈ es) (hconfirms : request.Confirms named)
    (hdone : P.calls[i]? = some (.done (.ok (some (.payment p)), ())))
    (hstatus : p.status = .confirmed) {reference : String}
    (hreference : getBookingReference p = some reference) :
    ∃ message ∈ P.state.published, message.paymentId = p.id := by
  have howed : p.Owed := ⟨hstatus, Option.isSome_iff_exists.mpr ⟨reference, hreference⟩⟩
  have hhistory := (run_serial_history Announcing
    (fun e => e.loses = false ∧ e.createsConfirmed = false) (fun _ => True) announcing_init ?_ ?_
    hrun hserial hannounces).1
  · have hinv : Announcing es P.state := hhistory.inv.2.2
    obtain ⟨t, hlog, hrequest⟩ := hhistory.inv.1.requests i w request hstarted
    obtain ⟨t', hlog', hwp⟩ := hhistory.calls i _ hdone
    have hsame : t = t' := Option.some.inj (hlog.symm.trans hlog')
    subst hsame hrequest
    have hresolved : Resolved (.ok (some (.payment p))) t := hwp
    obtain ⟨log, hcommitted, houtcome⟩ := hresolved.concludes named _ hconfirms rfl
    have htransaction : t.transaction = log := by simp [CallLog.transaction, hcommitted]
    have hrecalled : Recalls log p → Announced P.state p.id := fun hrecalls =>
      hinv.recalled i t hlog p (htransaction ▸ hrecalls) howed
    cases houtcome with
    | replayed hfinal hbody => exact hrecalled (.inr ⟨_, _, List.mem_singleton_self _, hfinal, hbody⟩)
    | settled hclaim => exact hrecalled (.inl ⟨_, List.mem_append_right _ List.mem_cons_self⟩)
    | confirmed hclaim hid hsent =>
        have hmem := hsent reference (capturedState_confirmed.mp hstatus) hreference
        exact ⟨_, hinv.accepted i t hlog _ hmem, rfl⟩
  · exact fun past w i request hfresh hinv hdone _ =>
      ⟨announcing_started hfresh hinv hdone, trivial⟩
  · exact fun past i c op r w w' t hstep hinv h => ⟨hinv.step hstep h.1 h.2, trivial⟩

/-- The client confirms again, under a new key. -/
def confirmedAgain : List (Move Request Choice) :=
  confirmed ++ .start (.confirmPaymentIntent "a4" none (some "d")) :: succeeds 2 "c" "succeeded" 6

/-- The payment that a confirmation has resolved with. -/
def resolvedWith (P : ServicePool) (i : Nat) : Option Payment :=
  match P.calls[i]? with
  | some (.done (.ok (some (.payment p)), ())) => some p
  | _ => none

theorem resolvedWith_eq_some (h : resolvedWith P i = some p) :
    P.calls[i]? = some (.done (.ok (some (.payment p)), ())) := by
  unfold resolvedWith at h
  split at h
  · rename_i p' hcall
    cases h
    exact hcall
  · cases h

theorem confirmed_payment_announced_again :
    ∃ (es : List Event) (P : ServicePool) (p : Payment),
      service.run confirmedAgain (Pool.init (World.init 0)) = some (es, P) ∧
      P.calls[2]? = some (.done (.ok (some (.payment p)), ())) ∧ p.status = .confirmed ∧
      ∃ message ∈ P.state.published, message.paymentId = p.id := by
  have hrun : (service.run confirmedAgain (Pool.init (World.init 0))).any (fun result =>
      (result.1.all fun (e : Event) => !e.loses && !e.createsConfirmed) &&
      result.1.any (Event.confirms 2 "d") &&
      (resolvedWith result.2 2).any fun p =>
        p.status = .confirmed && getBookingReference p = some "BK-1") = true := by decide +kernel
  obtain ⟨es, P, hrun, hafter⟩ := System.exists_run hrun
  simp only [Bool.and_eq_true] at hafter
  obtain ⟨⟨hannounces, hstarted⟩, hresolved⟩ := hafter
  rw [Option.any_eq_true] at hresolved
  obtain ⟨p, hdone, hpayment⟩ := hresolved
  simp only [Bool.and_eq_true, decide_eq_true_eq] at hpayment
  obtain ⟨e, he, hstarted⟩ := List.any_eq_true.mp hstarted
  have hdone := resolvedWith_eq_some hdone
  refine ⟨es, P, p, hrun, hdone, hpayment.1, ?_⟩
  obtain ⟨s, rfl⟩ := Event.started_of_confirms hstarted
  refine confirmed_payment_announced hrun (by decide +kernel) (fun e he => ?_) he rfl hdone
    hpayment.1 hpayment.2
  have hevent := List.all_eq_true.mp hannounces e he
  simpa only [Bool.and_eq_true, Bool.not_eq_true'] using hevent

/-- The broker does not take the message of a confirmation; a confirmation under a new key finds the
payment confirmed. -/
def lostMessage : List (Move Request Choice) :=
  created ++ .start (.confirmPaymentIntent "a4" none (some "c")) :: succeeds 1 "b" "succeeded" 12 ++
    failing 1 :: succeeds 1 "b" "succeeded" 2 ++
    .start (.confirmPaymentIntent "a4" none (some "d")) :: succeeds 2 "c" "succeeded" 6

theorem confirmed_without_message :
    ∃ (es : List Event) (P : ServicePool) (p : Payment),
      service.run lostMessage (Pool.init (World.init 0)) = some (es, P) ∧
      service.serial lostMessage (Pool.init (World.init 0)) = true ∧
      P.calls[2]? = some (.done (.ok (some (.payment p)), ())) ∧ p.status = .confirmed ∧
      getBookingReference p = some "BK-1" ∧
      ¬∃ message ∈ P.state.published, message.paymentId = p.id := by
  have hrun : (service.run lostMessage (Pool.init (World.init 0))).any (fun result =>
      result.2.state.published.isEmpty &&
      (resolvedWith result.2 2).any fun p =>
        p.status = .confirmed && getBookingReference p = some "BK-1") = true := by decide +kernel
  obtain ⟨es, P, hrun, hafter⟩ := System.exists_run hrun
  simp only [Bool.and_eq_true, List.isEmpty_iff] at hafter
  obtain ⟨hempty, hresolved⟩ := hafter
  rw [Option.any_eq_true] at hresolved
  obtain ⟨p, hdone, hpayment⟩ := hresolved
  simp only [Bool.and_eq_true, decide_eq_true_eq] at hpayment
  refine ⟨es, P, p, hrun, by decide +kernel, resolvedWith_eq_some hdone, hpayment.1, hpayment.2, ?_⟩
  rw [hempty]
  exact fun ⟨message, hmem, _⟩ => List.not_mem_nil hmem

end FlightBookings.Payment
