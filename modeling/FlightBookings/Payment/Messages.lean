import FlightBookings.Payment.Identifiers

/-! # What the messages announce

A message names a stored payment, with the amount and the booking reference of
its row, in every run. The amount of a row never changes, and whatever writes
the metadata of a payment writes back the booking reference that it has read.
-/

namespace FlightBookings.Payment

open Await

/-- What the metadata say of the booking that is paid. -/
def PaymentState.reference (state : PaymentState) : Option MetadataValue :=
  state.metadata.get "bookingReference"

/-- The row of the payment has its amount and its booking reference. -/
def Database.Keeps (db : Database) (p : Payment) : Prop :=
  ∃ row, db.payment p.id = some row ∧ row.amount = p.amount ∧ row.reference = p.reference

/-- The payment that a message is about. -/
def Database.Stores (db : Database) (message : PaymentCompleted) : Prop :=
  ∃ row, db.payment message.paymentId = some row ∧ row.amount = message.amount ∧
    row.reference = some (.text message.bookingReference)

/-- The payments that a call has read, each under the key that it looked for. -/
inductive CallLog.Read (t : CallLog) (p : Payment) : Prop where
  | seen {id : String} (h : .query (.findPayment id) (some p) ∈ t.seen)
  | named {gatewayPaymentId : String}
      (h : .query (.findPaymentByGatewayId gatewayPaymentId) (some p) ∈ t.seen)
  | pending {id : String} (h : .query (.findPayment id) (some p) ∈ t.pending)
  | committed {id : String} {log : List Entry} (hlog : t.committed = some log)
      (h : .query (.findPayment id) (some p) ∈ log)

structure Sourced (past : List Event) (w : World) : Prop where
  reads : ∀ i t, logOf past i = some t → ∀ p, t.Read p → w.db.Keeps p
  published : ∀ message ∈ w.published, w.db.Stores message

variable {db db' : Database} {p : Payment} {message : PaymentCompleted} {id : String}
variable {state : PaymentState}

/-! ## Metadata -/

theorem Metadata.get_set_of_ne {key key' : String} {value : MetadataValue} {metadata : Metadata}
    (h : key' ≠ key) : (metadata.set key value).get key' = metadata.get key' := by
  have hskip : (key' == key) = false := beq_false_of_ne h
  simp only [Metadata.get, Metadata.set]
  induction metadata with
  | nil =>
      rw [List.filter_nil, List.nil_append, List.lookup_cons, hskip]
  | cons entry metadata ih =>
      obtain ⟨key₁, value₁⟩ := entry
      by_cases hkey : key₁ = key
      · subst hkey
        rw [List.filter_cons_of_neg (by simp), ih, List.lookup_cons, hskip]
      · rw [List.filter_cons_of_pos (by simpa using hkey), List.cons_append, List.lookup_cons, ih,
          List.lookup_cons]

theorem captured_reference {result : PaymentResult} {now : Nat} :
    (capturedState p result now).reference = p.reference :=
  Metadata.get_set_of_ne (by decide)

theorem reference_of_getBookingReference {reference : String}
    (h : getBookingReference p = some reference) : p.reference = some (.text reference) := by
  unfold getBookingReference at h
  split at h
  · rename_i text hget
    split at h
    · cases h
    · cases h
      exact hget
  · cases h

/-! ## Rows that stay -/

theorem keeps_of_find (h : db.payment id = some p) : db.Keeps p := by
  obtain ⟨-, hid⟩ := Table.mem_of_find h
  exact ⟨p, hid ▸ h, rfl, rfl⟩

theorem Database.Keeps.stores (h : db.Keeps p) (hid : message.paymentId = p.id)
    (hamount : message.amount = p.amount)
    (hreference : p.reference = some (.text message.bookingReference)) : db.Stores message := by
  obtain ⟨row, hrow, hsame, href⟩ := h
  exact ⟨row, hid ▸ hrow, hsame.trans hamount.symm, href.trans hreference⟩

/-- Rows are added and never lost, and keep their amount and their booking reference. -/
def Database.Extends (db db' : Database) : Prop :=
  ∀ id row, db.payment id = some row → ∃ row', db'.payment id = some row' ∧
    row'.amount = row.amount ∧ row'.reference = row.reference

theorem extends_of_payments (h : db'.payments = db.payments) : db.Extends db' :=
  fun _ row hrow => ⟨row, (congrArg (Table.find Payment.id _) h).trans hrow, rfl, rfl⟩

theorem Database.Extends.keeps (h : db.Extends db') (hp : db.Keeps p) : db'.Keeps p := by
  obtain ⟨row, hrow, hamount, hreference⟩ := hp
  obtain ⟨row', hrow', hamount', hreference'⟩ := h p.id row hrow
  exact ⟨row', hrow', hamount'.trans hamount, hreference'.trans hreference⟩

theorem Database.Extends.stores (h : db.Extends db') (hstores : db.Stores message) :
    db'.Stores message := by
  obtain ⟨row, hrow, hamount, hreference⟩ := hstores
  obtain ⟨row', hrow', hamount', hreference'⟩ := h message.paymentId row hrow
  exact ⟨row', hrow', hamount'.trans hamount, hreference'.trans hreference⟩

theorem extends_insert (h : db'.payments = db.payments ++ [p]) : db.Extends db' := by
  intro id row hrow
  refine ⟨row, ?_, rfl, rfl⟩
  rw [Database.payment, h, Table.find_insert, show Table.find Payment.id id db.payments = _ from hrow,
    Option.some_or]

/-- A payment gets the columns that were made of what a call has read of it. -/
theorem extends_updated (h : db'.payments = db.updated p.id state) (hkeeps : db.Keeps p)
    (hreference : state.reference = p.reference) : db.Extends db' := by
  intro id row hrow
  rw [Database.payment, h, payment_updated]
  by_cases hid : id = p.id
  · subst hid
    obtain ⟨read, hread, -, hsame⟩ := hkeeps
    have heq : row = read := Option.some.inj (hrow.symm.trans hread)
    subst heq
    refine ⟨row.after state, ?_, rfl, hreference.trans hsame.symm⟩
    rw [if_pos rfl, hrow]
    rfl
  · exact ⟨row, by rw [if_neg hid, hrow], rfl, rfl⟩

/-! ## One operation -/

variable {past : List Event} {w w' : World} {i : Nat} {c : Choice} {t : CallLog} {op : Op}
variable {r : Except Exception op.Ret}

theorem Shape.extends {request : Request} {log : List Entry} (h : Shape request log)
    (hreads : ∀ id p, .query (.findPayment id) (some p) ∈ log → db.Keeps p) :
    db.Extends (applyAll log db) := by
  cases h with
  | replayed hnames href hfinal => exact extends_of_payments rfl
  | @created k claim dto key intent id hnames hclaim hrequest =>
      obtain ⟨keys, hdb⟩ := applyAll_created hclaim dto intent id db
      exact extends_insert (by rw [hdb])
  | @settled k claim paymentId payment hnames hclaim hscope hid hsettled =>
      obtain ⟨keys, hdb⟩ := applyAll_settled hclaim paymentId payment db
      exact extends_of_payments (by rw [hdb])
  | @confirmed k claim paymentId payment named answers result now n hnames hclaim hscope hid
      hunsettled hconfirms hcaptured =>
      obtain ⟨keys, hdb⟩ := applyAll_confirmed hclaim hcaptured paymentId payment now n db
      have hread : db.Keeps payment := hreads paymentId payment (by simp [confirmedLog])
      exact extends_updated (by rw [hdb]) hread captured_reference
  | @refunded k claim dto key payment total answers result id now n hnames hclaim hrequest hid
      hrefundable hbalance hanswered =>
      obtain ⟨keys, hdb⟩ := applyAll_refunded hclaim hanswered dto payment total id now n db
      have hread : db.Keeps payment := hreads dto.paymentId payment (by simp [refundedLog])
      by_cases hsuccess : result.success = true
      · have hpayments : (applyAll (claim ++ refundedLog k dto payment total answers result id now n)
            db).payments = db.updated payment.id (refundedState payment (total + dto.amount) now) := by
          rw [hdb, Database.refundedPayments, if_pos hsuccess]
        exact extends_updated hpayments hread rfl
      · refine extends_of_payments ?_
        rw [hdb, Database.refundedPayments, if_neg hsuccess]

theorem Step.extends (h : Step past i c op r w w' t) (hinv : Sourced past w) :
    w.db.Extends w'.db := by
  have hreads := hinv.reads i t h.log
  have hlegal := h.legal
  have hown := h.own
  cases h.performs with
  | passed reply hop hdb => exact extends_of_payments (by rw [hdb])
  | commit hok =>
      rw [World.view, hown]
      exact hlegal.1.extends fun id p hmem => hreads p (.pending hmem)
  | auto q hok =>
      cases q with
      | updatePayment id state =>
          obtain ⟨-, hreported⟩ := hlegal
          cases hreported with
          | failed hfound => exact extends_updated rfl (hreads _ (.named hfound)) rfl
          | refunded hfound => exact extends_updated rfl (hreads _ (.seen hfound)) rfl
      | insertPayment p => exact hlegal.elim
      | _ => exact extends_of_payments rfl
  | _ => exact extends_of_payments rfl

/-- An operation that adds nothing to what a call has read. -/
theorem CallLog.Read.of_same {t' : CallLog} (h : t'.Read p) (hseen : t'.seen = t.seen)
    (hpending : t'.pending = t.pending) (hcommitted : t'.committed = t.committed) : t.Read p := by
  cases h with
  | seen hmem => exact .seen (hseen ▸ hmem)
  | named hmem => exact .named (hseen ▸ hmem)
  | pending hmem => exact .pending (hpending ▸ hmem)
  | committed hlog hmem => exact .committed (hcommitted ▸ hlog) hmem

/-- The reply to a lookup is a row. -/
theorem found_of_eq {q : Query} {db : Database}
    (h : Entry.query (.findPayment id) (some p) = .query q (q.read db)) :
    q = .findPayment id ∧ db.payment id = some p := by
  cases q with
  | findPayment id' =>
      simp only [Entry.query.injEq, Query.findPayment.injEq] at h
      obtain ⟨rfl, hreply⟩ := h
      exact ⟨rfl, (eq_of_heq hreply).symm⟩
  | _ => cases h

theorem named_of_eq {q : Query} {db : Database} {gatewayPaymentId : String}
    (h : Entry.query (.findPaymentByGatewayId gatewayPaymentId) (some p) = .query q (q.read db)) :
    p ∈ db.payments := by
  cases q with
  | findPaymentByGatewayId gatewayPaymentId' =>
      simp only [Entry.query.injEq, Query.findPaymentByGatewayId.injEq] at h
      obtain ⟨rfl, hreply⟩ := h
      exact (Table.mem_of_find (eq_of_heq hreply).symm).1
  | _ => cases h

/-- What a call has read before, or has just found among the rows. -/
theorem Step.read_cases (h : Step past i c op r w w' t) (hnodup : w.paymentIds.Nodup)
    (hread : (advance op r t).Read p) : t.Read p ∨ w.db.Keeps p := by
  have hlegal := h.legal
  have hown := h.own
  cases h.performs with
  | failed e => exact .inl (by cases op <;> exact hread.of_same rfl rfl rfl)
  | passed reply hop =>
      rw [advance_local hop] at hread
      exact .inl hread
  | sql q =>
      cases hread with
      | seen hmem => exact .inl (.seen hmem)
      | named hmem => exact .inl (.named hmem)
      | committed hlog hmem => exact .inl (.committed hlog hmem)
      | pending hmem =>
          rcases List.mem_append.mp hmem with hold | hnew
          · exact .inl (.pending hold)
          · obtain ⟨rfl, hfound⟩ := found_of_eq (List.mem_singleton.mp hnew)
            obtain ⟨k, hclaim⟩ := hlegal
            obtain ⟨keys, hview⟩ := applyAll_claim hclaim w.db
            rw [World.view, hown, hview] at hfound
            exact .inr (keeps_of_find hfound)
  | stripe op =>
      cases hread with
      | seen hmem => exact .inl (.seen hmem)
      | named hmem => exact .inl (.named hmem)
      | committed hlog hmem => exact .inl (.committed hlog hmem)
      | pending hmem =>
          rcases List.mem_append.mp hmem with hold | hnew
          · exact .inl (.pending hold)
          · cases List.mem_singleton.mp hnew
  | commit =>
      cases hread with
      | seen hmem => cases hmem
      | named hmem => cases hmem
      | pending hmem => cases hmem
      | committed hlog hmem =>
          cases hlog
          exact .inl (.pending hmem)
  | rollback =>
      cases hread with
      | seen hmem => exact .inl (.seen hmem)
      | named hmem => exact .inl (.named hmem)
      | pending hmem => cases hmem
      | committed hlog hmem => exact .inl (.committed hlog hmem)
  | auto q =>
      have hseen : ∀ entry ∈ (advance (.auto q) (.ok (q.read w.db)) t).seen,
          entry ∈ t.seen ∨ entry = .query q (q.read w.db) := by
        intro entry hentry
        simp only [advance] at hentry
        split at hentry
        · exact (List.mem_append.mp hentry).imp_right List.mem_singleton.mp
        · cases hentry
      cases hread with
      | seen hmem =>
          rcases hseen _ hmem with hold | hnew
          · exact .inl (.seen hold)
          · exact .inr (keeps_of_find (found_of_eq hnew).2)
      | named hmem =>
          rcases hseen _ hmem with hold | hnew
          · exact .inl (.named hold)
          · exact .inr (keeps_of_find (Table.find_of_mem hnodup (named_of_eq hnew)))
      | pending hmem => exact .inl (.pending hmem)
      | committed hlog hmem => exact .inl (.committed hlog hmem)
  | publish message => exact .inl (hread.of_same rfl rfl rfl)

/-- A message is about a payment that its call has read and captured. -/
theorem Step.stores (h : Step past i c op r w w' t) (hinv : Sourced past w)
    (hmessage : message ∈ w'.published) : w.db.Stores message := by
  have hlegal := h.legal
  cases h.performs with
  | passed reply hop hdb hjournal hpublished => exact hinv.published message (hpublished ▸ hmessage)
  | publish sent =>
      rcases List.mem_append.mp hmessage with hold | hnew
      · exact hinv.published message hold
      · obtain rfl := List.mem_singleton.mp hnew
        obtain ⟨-, log, hlog, hannounces⟩ := hlegal
        cases hannounces with
        | @confirmed k claim paymentId payment answers result now n reference hnames hclaim hscope
            hid hsuccess hreference =>
            have hmem : .query (.findPayment paymentId) (some payment) ∈
                claim ++ confirmedLog k paymentId payment answers result now n := by
              simp [confirmedLog]
            have hread : t.Read payment := .committed hlog hmem
            refine (hinv.reads i t h.log payment hread).stores rfl rfl ?_
            exact captured_reference.symm.trans (reference_of_getBookingReference hreference)
  | _ => exact hinv.published message hmessage

theorem Sourced.step (hinv : Sourced past w) (h : Step past i c op r w w' t)
    (hnodup : w.paymentIds.Nodup) : Sourced (past ++ [.performed w i c op w']) w' := by
  have hextends := h.extends hinv
  refine ⟨fun j t' hlog p hread => hextends.keeps ?_, fun message hmem => ?_⟩
  · by_cases hj : j = i
    · subst hj
      rw [h.log_self, Option.some.injEq] at hlog
      subst hlog
      exact (h.read_cases hnodup hread).elim (hinv.reads j t h.log p) id
    · rw [logOf_performed_of_ne hj] at hlog
      exact hinv.reads j t' hlog p hread
  · exact hextends.stores (h.stores hinv hmem)

/-! ## Runs -/

theorem Sourced.started {request : Request} (hinv : Sourced past w) :
    Sourced (past ++ [.started w i request]) w := by
  refine ⟨fun j t hlog p hread => ?_, hinv.published⟩
  by_cases hj : j = i
  · subst hj
    rw [logOf, System.trace_started_self, Option.some.injEq] at hlog
    subst hlog
    cases hread with
    | seen hmem => cases hmem
    | named hmem => cases hmem
    | pending hmem => cases hmem
    | committed hcommitted => cases hcommitted
  · exact hinv.reads j t ((System.trace_started_of_ne hj).symm.trans hlog) p hread

theorem sourced_init {now : Nat} : Sourced [] (World.init now) where
  reads _ _ hlog := by cases hlog
  published _ hmem := by cases hmem

/-- In every run, a message that was published names a stored payment with its amount and its booking
reference. -/
theorem published_stored {now : Nat} {ms : List (Move Request Choice)} {es : List Event}
    {P : ServicePool} (hrun : service.run ms (Pool.init (World.init now)) = some (es, P)) :
    ∀ message ∈ P.state.published, P.state.db.Stores message := by
  have hhistory : Remembers Sourced ([] ++ es) P := by
    refine (run_history Sourced (fun e => e.before.paymentIds.Nodup) (fun _ => True) ?_ ?_ hrun
      (distinct_run hrun).2 (remembers_init _ sourced_init)).1
    · exact fun past w i request _ _ hinv _ => ⟨hinv.started, trivial⟩
    · exact fun past i c op r w w' t hstep hinv hnodup => ⟨hinv.step hstep hnodup, trivial⟩
  exact hhistory.inv.2.published

end FlightBookings.Payment
