import FlightBookings.Payment.Capture

/-! # Refunds

The ceiling on the refunds of a payment while refunds interleave, and how often
the gateway accepts a refund under one idempotency key.
-/

namespace FlightBookings.Payment

open Await

variable {past : List Event} {i : Nat} {c : Choice} {op : Op} {r : Except Exception op.Ret}
variable {w w' : World} {t : CallLog} {log : List Entry} {db : Database}

/-! ## The ceiling -/

/-- What was paid, and nothing for a payment that does not exist. -/
def Database.paid (db : Database) (id : String) : Nat := (db.payment id).elim 0 Payment.amount

/-- The refunds of each payment that succeeded stay within its amount. -/
def WithinPaid (db : Database) : Prop := ∀ id, db.refunded id ≤ db.paid id

/-- A transaction that pays back. -/
def PaysBack (log : List Entry) : Bool :=
  log.any fun entry => match entry with
    | .query (.insertRefund refund) _ => refund.status = .succeeded
    | _ => false

/-- A refund is committed although more of its payment is refunded than the sum that its balance
was computed from. -/
def Event.outdated (e : Event) : Bool :=
  e.commits.any fun tx => PaysBack tx.2 && tx.2.any fun entry => match entry with
    | .query (.refundTotal id) total => total < e.before.db.refunded id
    | _ => false

theorem paid_of_payment {id : String} {payment : Payment} {state : PaymentState}
    (h : db.payment id = some (payment.after state)) : db.paid id = payment.amount := by
  rw [Database.paid, h]
  rfl

theorem paid_mono (log : List Entry) (db : Database) (id : String) :
    db.paid id ≤ (applyAll log db).paid id := by
  unfold Database.paid
  cases hpayment : db.payment id with
  | none => exact Nat.zero_le _
  | some payment =>
      obtain ⟨state, hstate⟩ := payment_applyAll log hpayment
      rw [hstate]
      exact Nat.le_refl _

/-- A committed transaction leaves the refunds alone, or adds one that was within the balance. -/
theorem refunds_commit {request : Request} (h : Shape request log) (db : Database) :
    (applyAll log db).refunds = db.refunds ∨
      ∃ payment refund total, (applyAll log db).refunds = db.refunds ++ [refund] ∧
        .query (.findPayment payment.id) (some payment) ∈ log ∧
        .query (.refundTotal payment.id) total ∈ log ∧
        .query (.insertRefund refund) () ∈ log ∧
        refund.paymentId = payment.id ∧ total + refund.amount ≤ payment.amount := by
  cases h with
  | replayed => exact .inl rfl
  | @created k claim dto idempotencyKey intent rid hnames hclaim =>
      obtain ⟨keys, hkeys⟩ := applyAll_created hclaim dto intent rid db
      rw [hkeys]
      exact .inl rfl
  | @settled k claim paymentId payment hnames hclaim =>
      obtain ⟨keys, hkeys⟩ := applyAll_settled hclaim paymentId payment db
      rw [hkeys]
      exact .inl rfl
  | @confirmed k claim paymentId payment named answers result now n hnames hclaim hscope hid
      hunsettled hconfirms hcaptured =>
      obtain ⟨keys, hkeys⟩ := applyAll_confirmed hclaim hcaptured paymentId payment now n db
      rw [hkeys]
      exact .inl rfl
  | @refunded k claim dto idempotencyKey payment total answers result rid now n hnames hclaim
      hrequest hid hrefundable hbalance hanswered =>
      obtain ⟨keys, hkeys⟩ := applyAll_refunded hclaim hanswered dto payment total rid now n db
      right
      refine ⟨payment, newRefund rid dto payment k.idempotencyKey result now, total, ?_, ?_, ?_, ?_,
        rfl, hbalance⟩
      · rw [hkeys]
      · simp [refundedLog, hid]
      · simp [refundedLog]
      · simp [refundedLog]

theorem withinPaid_commit {request : Request} (h : Shape request log) (hinv : WithinPaid db)
    (hreads : ∀ id payment, .query (.findPayment id) (some payment) ∈ log →
      ∃ state, db.payment id = some (payment.after state))
    (hcurrent : PaysBack log = true → ∀ id total, .query (.refundTotal id) total ∈ log →
      db.refunded id ≤ total) : WithinPaid (applyAll log db) := by
  intro id
  have hpaid : db.paid id ≤ (applyAll log db).paid id := paid_mono log db id
  have hbefore : db.refunded id ≤ db.paid id := hinv id
  rcases refunds_commit h db with hsame | ⟨payment, refund, total, hadded, hfound, htotal, hinsert,
    hid, hbalance⟩
  · rw [refunded_congr hsame]
    omega
  · rw [refunded_append hadded]
    split
    · rename_i hrefund
      obtain ⟨rfl, hstatus⟩ := hrefund
      have hpays : PaysBack log = true := by
        refine List.any_eq_true.mpr ⟨_, hinsert, ?_⟩
        simpa using hstatus
      have hsum : db.refunded payment.id ≤ total := hcurrent hpays payment.id total htotal
      obtain ⟨state, hpayment⟩ := hreads payment.id payment hfound
      have hamount : db.paid payment.id = payment.amount := paid_of_payment hpayment
      rw [hid] at hpaid hbefore ⊢
      omega
    · omega

theorem WithinPaid.step (hinv : WithinPaid w.db) (h : Step past i c op r w w' t)
    (hcurrent : Event.outdated (.performed w i c op w') = false) : WithinPaid w'.db := by
  have hlegal := h.legal
  have hown := h.own
  cases h.performs with
  | passed _ hop hdb => exact hdb ▸ hinv
  | commit hok =>
      show WithinPaid (w.view i)
      rw [World.view, hown]
      refine withinPaid_commit hlegal.1 hinv (fun id payment hmem => ?_) fun hpays id total hmem => ?_
      · exact h.sound.reads i id payment (hown ▸ hmem)
      · have hcommits : Event.commits (.performed w i c .commit
            { w with db := w.view i, journal := Journal.drop i w.journal }) = some (i, t.pending) := by
          simp [Event.commits, hok, hown]
        rw [Event.outdated, hcommits, Option.any_some, hpays, Bool.true_and, List.any_eq_false]
          at hcurrent
        have hentry := hcurrent _ hmem
        simp only [decide_eq_true_eq, Nat.not_lt] at hentry
        exact hentry
  | auto q =>
      intro id
      have hpaid : w.db.paid id ≤ (applyAll [.query q (q.read w.db)] w.db).paid id :=
        paid_mono [.query q (q.read w.db)] w.db id
      have hrefunds : (q.write w.db).refunds = w.db.refunds := by
        cases q with
        | insertRefund refund => exact hlegal.elim
        | _ => rfl
      rw [refunded_congr hrefunds]
      exact Nat.le_trans (hinv id) hpaid
  | _ => exact hinv

variable {now : Nat} {ms : List (Move Request Choice)} {es : List Event} {P : ServicePool}

theorem withinPaid_init : WithinPaid (World.init now).db := fun _ => Nat.le_refl 0

/-- However refunds interleave, they stay within what was paid as long as each is committed before
another one that it has not counted. -/
theorem refunds_within_amount
    (hrun : service.run ms (Pool.init (World.init now)) = some (es, P))
    (hcurrent : ∀ e ∈ es, e.outdated = false) :
    ∀ e ∈ es, ∀ id payment, e.after.db.payment id = some payment →
      e.after.db.refunded id ≤ payment.amount := by
  have hsteps : ∀ e ∈ es, WithinPaid e.after.db := by
    refine (run_history (fun _ w => WithinPaid w.db) (fun e => e.outdated = false)
      (fun e => WithinPaid e.after.db) ?_ ?_ hrun hcurrent (remembers_init _ withinPaid_init)).2
    · exact fun past w i request _ _ hinv _ => ⟨hinv, hinv⟩
    · intro past i c op r w w' t hstep hinv hallows
      have hinv' : WithinPaid w'.db := hinv.step hstep hallows
      exact ⟨hinv', hinv'⟩
  intro e he id payment hpayment
  have hwithin := hsteps e he id
  rwa [Database.paid, hpayment] at hwithin

theorem refunds_within_amount_part :
    ∃ (es : List Event) (P : ServicePool),
      service.run partlyRefunded (Pool.init (World.init 0)) = some (es, P) ∧
      P.state.db.refunded "a4" = 60 ∧
      ∀ e ∈ es, ∀ id payment, e.after.db.payment id = some payment →
        e.after.db.refunded id ≤ payment.amount := by
  have hrun : (service.run partlyRefunded (Pool.init (World.init 0))).any (fun result =>
      (result.1.all fun (e : Event) => !e.outdated) && result.2.state.db.refunded "a4" = 60) =
        true := by decide +kernel
  obtain ⟨es, P, hrun, hevents⟩ := System.exists_run hrun
  simp only [Bool.and_eq_true, List.all_eq_true, Bool.not_eq_true', decide_eq_true_eq] at hevents
  exact ⟨es, P, hrun, hevents.2, refunds_within_amount hrun hevents.1⟩

/-- Two refunds of 60 that both see that nothing of the 100 is refunded yet. -/
def refundedTogether : List (Move Request Choice) :=
  confirmed ++ .start (.createRefund partRefund (some "r")) ::
    .start (.createRefund partRefund (some "s")) ::
    succeeds 2 "c" "succeeded" 6 ++ succeeds 3 "d" "succeeded" 6 ++
    succeeds 2 "c" "succeeded" 8 ++ succeeds 3 "d" "succeeded" 8

theorem refunded_beyond_amount :
    ∃ (es : List Event) (P : ServicePool),
      service.run refundedTogether (Pool.init (World.init 0)) = some (es, P) ∧
      ¬∀ e ∈ es, ∀ id payment, e.after.db.payment id = some payment →
        e.after.db.refunded id ≤ payment.amount := by
  have hrun : (service.run refundedTogether (Pool.init (World.init 0))).any (fun result =>
      result.1.any fun (e : Event) =>
        (e.after.db.payment "a4").any fun payment => payment.amount < e.after.db.refunded "a4") =
        true := by decide +kernel
  obtain ⟨es, P, hrun, hevents⟩ := System.exists_run hrun
  obtain ⟨e, he, hbeyond⟩ := List.any_eq_true.mp hevents
  rw [Option.any_eq_true] at hbeyond
  obtain ⟨payment, hpayment, hlt⟩ := hbeyond
  refine ⟨es, P, hrun, fun hwithin => ?_⟩
  have hle := hwithin e he "a4" payment hpayment
  rw [decide_eq_true_eq] at hlt
  omega

/-! ## One refund for each key -/

/-- The key that an open transaction has looked up. -/
def keyOf : List Entry → Option KeyRef
  | .query (.findKey k) _ :: _ => some k
  | _ => none

/-- A refund that Stripe has accepted. -/
def Entry.isAccepted : Entry → Bool
  | .stripe (.refund _ _ _) refund => refund.status = "succeeded"
  | _ => false

/-- Stripe accepts a refund under a key. -/
def Event.accepts (k : KeyRef) : Event → Bool
  | .performed w i c (.stripe (.refund _ _ _)) _ =>
      c.fails.isNone && c.refund.status = "succeeded" &&
        keyOf (Journal.entries i w.journal) = some k
  | _ => false

/-- A transaction is rolled back in which Stripe has accepted a refund under a key. -/
def Event.forgets (k : KeyRef) : Event → Bool
  | .performed w i _ .rollback _ =>
      keyOf (Journal.entries i w.journal) = some k &&
        (Journal.entries i w.journal).any Entry.isAccepted
  | _ => false

/-- A completed key is overwritten. -/
def Event.reopens (k : KeyRef) : Event → Bool
  | .performed w _ c (.auto (.updateKey k' _)) _ =>
      c.fails.isNone && k' = k && (w.db.key k).any fun record => decide record.Final
  | _ => false

/-- Stripe accepts at most one refund under a key. -/
def AcceptedOnce (k : KeyRef) (es : List Event) : Prop := es.countP (Event.accepts k) ≤ 1

/-- The key that an entry writes. -/
def Entry.writesKey : Entry → Option KeyRef
  | .query (.insertKey record) _ => some record.ref
  | .query (.updateKey k _) _ => some k
  | _ => none

variable {k k' : KeyRef} {claim answers : List Entry} {entry : Entry}

theorem key_updated {state : KeyState} : ((Query.updateKey k' state).write db).key k =
    if k = k' then (db.key k).map fun record => { record with toKeyState := state }
    else db.key k := by
  by_cases h : k = k'
  · subst h
    rw [if_pos rfl]
    exact Table.find_modify_self fun _ h => h
  · rw [if_neg h]
    exact Table.find_modify_of_ne (fun _ h => h) h

theorem key_write (entry : Entry) (db : Database) (h : entry.writesKey ≠ some k) :
    (entry.write db).key k = db.key k := by
  cases entry with
  | stripe op reply => rfl
  | query q reply =>
      cases q with
      | insertKey record =>
          have hne : record.ref ≠ k := fun heq => h (congrArg some heq)
          show Table.find IdempotencyKey.ref k (db.keys ++ [record]) = _
          rw [Table.find_insert, if_neg hne, Option.or_none]
      | updateKey k' state =>
          have hne : k ≠ k' := fun heq => h (congrArg some heq.symm)
          exact key_updated.trans (if_neg hne)
      | _ => rfl

/-- Entries that write no key but `k`. -/
def WritesOnly (k : KeyRef) (log : List Entry) : Prop :=
  ∀ entry ∈ log, ∀ k', entry.writesKey = some k' → k' = k

theorem writesOnly_append {log' : List Entry} (h : WritesOnly k log) (h' : WritesOnly k log') :
    WritesOnly k (log ++ log') := by
  intro entry hmem
  rcases List.mem_append.mp hmem with hold | hnew
  · exact h entry hold
  · exact h' entry hnew

theorem writesOnly_cons (h : ∀ k', entry.writesKey = some k' → k' = k) (h' : WritesOnly k log) :
    WritesOnly k (entry :: log) := by
  intro entry' hmem
  rcases List.mem_cons.mp hmem with rfl | htail
  · exact h
  · exact h' entry' htail

theorem writesOnly_nil : WritesOnly k [] := fun _ hmem => absurd hmem List.not_mem_nil

theorem writesOnly_claim (h : Claim k claim) : WritesOnly k claim := by
  cases h with
  | fresh href =>
      refine writesOnly_cons nofun (writesOnly_cons (fun k' hwrites => ?_) writesOnly_nil)
      exact (Option.some.inj hwrites).symm.trans href
  | kept => exact writesOnly_cons nofun (writesOnly_cons nofun writesOnly_nil)
  | restored =>
      refine writesOnly_cons nofun (writesOnly_cons nofun (writesOnly_cons ?_ writesOnly_nil))
      exact fun k' hwrites => (Option.some.inj hwrites).symm

theorem writesOnly_answers (h : ∀ q reply, .query q reply ∉ answers) : WritesOnly k answers := by
  intro entry hmem k' hwrites
  cases entry with
  | query q reply => exact absurd hmem (h q reply)
  | stripe op reply => cases hwrites

theorem Captured.no_query {gatewayPaymentId : String} {result : PaymentResult}
    (h : Captured gatewayPaymentId answers result) (q : Query) (reply : q.Ret) :
    .query q reply ∉ answers := by
  intro hmem
  have hanswer := List.all_eq_true.mp h.answers _ hmem
  cases hanswer

theorem Refunded.no_query {transactionId : String} {amount : Nat} {reason : Option String}
    {result : RefundResult} (h : Refunded transactionId amount reason answers result) (q : Query)
    (reply : q.Ret) : .query q reply ∉ answers := by
  cases h <;> simp

theorem writesOnly_ledgerLog {filter : EntryFilter} {n : Nat} {entries : List LedgerEntry} :
    WritesOnly k (ledgerLog filter n entries) := by
  unfold ledgerLog
  split
  · exact writesOnly_cons nofun writesOnly_nil
  · exact writesOnly_cons nofun (writesOnly_cons nofun writesOnly_nil)

theorem writesOnly_completed {state : KeyState} :
    WritesOnly k [.query (.updateKey k state) ()] :=
  writesOnly_cons (fun _ hwrites => (Option.some.inj hwrites).symm) writesOnly_nil

theorem writesOnly_confirmed {paymentId gatewayPaymentId : String} {payment : Payment}
    {result : PaymentResult} {now n : Nat} (hcaptured : Captured gatewayPaymentId answers result) :
    WritesOnly k (confirmedLog k paymentId payment answers result now n) := by
  refine writesOnly_append (writesOnly_append (writesOnly_cons nofun ?_) (writesOnly_cons nofun ?_))
    writesOnly_completed
  · exact writesOnly_answers hcaptured.no_query
  · split
    · exact writesOnly_ledgerLog
    · exact writesOnly_nil

theorem writesOnly_refunded {transactionId : String} {amount : Nat} {reason : Option String}
    {dto : CreateRefundDto} {payment : Payment} {total : Nat} {result : RefundResult} {id : String}
    {now n : Nat} (hanswered : Refunded transactionId amount reason answers result) :
    WritesOnly k (refundedLog k dto payment total answers result id now n) := by
  refine writesOnly_append (writesOnly_append (writesOnly_cons nofun (writesOnly_cons nofun ?_))
    (writesOnly_cons nofun ?_)) writesOnly_completed
  · exact writesOnly_answers hanswered.no_query
  · split
    · exact writesOnly_cons nofun writesOnly_ledgerLog
    · exact writesOnly_nil

theorem keyOf_claim {rest : List Entry} (h : Claim k claim) : keyOf (claim ++ rest) = some k := by
  cases h <;> rfl

/-- A transaction writes no key but the one that it looked up. -/
theorem Shape.writesOnly {request : Request} (h : Shape request log) :
    ∃ k, keyOf log = some k ∧ WritesOnly k log := by
  cases h with
  | @replayed k => exact ⟨k, rfl, writesOnly_cons nofun writesOnly_nil⟩
  | created hnames hclaim =>
      refine ⟨_, keyOf_claim hclaim, writesOnly_append (writesOnly_claim hclaim) ?_⟩
      exact writesOnly_cons nofun (writesOnly_cons nofun writesOnly_completed)
  | settled hnames hclaim =>
      refine ⟨_, keyOf_claim hclaim, writesOnly_append (writesOnly_claim hclaim) ?_⟩
      exact writesOnly_cons nofun writesOnly_completed
  | confirmed hnames hclaim hscope hid hunsettled hconfirms hcaptured =>
      exact ⟨_, keyOf_claim hclaim,
        writesOnly_append (writesOnly_claim hclaim) (writesOnly_confirmed hcaptured)⟩
  | refunded hnames hclaim hrequest hid hrefundable hbalance hanswered =>
      exact ⟨_, keyOf_claim hclaim,
        writesOnly_append (writesOnly_claim hclaim) (writesOnly_refunded hanswered)⟩

theorem key_applyAll (h : WritesOnly k' log) (hne : k ≠ k') (db : Database) :
    (applyAll log db).key k = db.key k := by
  refine applyAll_frame (f := fun db => db.key k) fun entry hmem db => ?_
  refine key_write entry db fun hwrites => ?_
  exact hne (h entry hmem k hwrites)

theorem key_isSome_write (entry : Entry) (h : (db.key k).isSome = true) :
    ((entry.write db).key k).isSome = true := by
  cases entry with
  | stripe op reply => exact h
  | query q reply =>
      cases q with
      | insertKey record =>
          show (Table.find IdempotencyKey.ref k (db.keys ++ [record])).isSome = true
          rw [Table.find_insert, Option.isSome_or, h, Bool.true_or]
      | updateKey k' state =>
          show (((Query.updateKey k' state).write db).key k).isSome = true
          rw [key_updated]
          split
          · rw [Option.isSome_map]
            exact h
          · exact h
      | _ => exact h

theorem key_isSome_applyAll (log : List Entry) (h : (db.key k).isSome = true) :
    ((applyAll log db).key k).isSome = true := by
  induction log generalizing db with
  | nil => exact h
  | cons entry log ih => exact ih (key_isSome_write entry h)

/-- The record that a transaction has claimed exists for it. -/
theorem key_isSome_claim (h : Claim k claim)
    (hfound : (∃ record, .query (.insertKey record) () ∈ claim) ∨ (db.key k).isSome = true) :
    ((applyAll claim db).key k).isSome = true := by
  cases h with
  | @fresh record href =>
      show (Table.find IdempotencyKey.ref k (db.keys ++ [record])).isSome = true
      rw [Table.find_insert, if_pos href, Option.isSome_or]
      exact Bool.or_true _
  | kept =>
      rcases hfound with ⟨record, hinsert⟩ | hsome
      · simp at hinsert
      · exact key_isSome_applyAll _ hsome
  | restored =>
      rcases hfound with ⟨record, hinsert⟩ | hsome
      · simp at hinsert
      · exact key_isSome_applyAll _ hsome

theorem found_of_replays (h : Claim k claim) (hreplays : Replays claim db) :
    (∃ record, .query (.insertKey record) () ∈ claim) ∨ (db.key k).isSome = true := by
  have hfound : ∀ record, some record = db.key k → (db.key k).isSome = true := by
    intro record hrecord
    rw [← hrecord]
    rfl
  cases h with
  | @fresh record href => exact .inl ⟨record, by simp⟩
  | kept => exact .inr (hfound _ hreplays.1.2)
  | restored => exact .inr (hfound _ hreplays.1.2)

/-- A committed transaction has replayed a response, or claimed its key and completed it. -/
theorem Shape.claims {request : Request} (h : Shape request log) :
    (∃ k record, log = replayedLog k record) ∨
      ∃ k claim rest state, keyOf log = some k ∧ Claim k claim ∧
        log = claim ++ rest ++ [.query (.updateKey k state) ()] ∧
        state.status = .completed ∧ state.responseBody.isSome = true := by
  cases h with
  | replayed => exact .inl ⟨_, _, rfl⟩
  | @created k claim dto idempotencyKey intent id hnames hclaim =>
      refine .inr ⟨_, _, _, completedState _ _ _, keyOf_claim hclaim, hclaim,
        (List.append_assoc claim [_, _] [completedEntry k _]).symm, rfl, rfl⟩
  | @settled k claim paymentId payment hnames hclaim =>
      refine .inr ⟨_, _, _, completedState _ _ _, keyOf_claim hclaim, hclaim,
        (List.append_assoc claim [_] [completedEntry k payment]).symm, rfl, rfl⟩
  | confirmed hnames hclaim =>
      exact .inr ⟨_, _, _, completedState _ _ _, keyOf_claim hclaim, hclaim,
        (List.append_assoc _ _ _).symm, rfl, rfl⟩
  | refunded hnames hclaim =>
      exact .inr ⟨_, _, _, completedState _ _ _, keyOf_claim hclaim, hclaim,
        (List.append_assoc _ _ _).symm, rfl, rfl⟩

/-- The record of a key that a transaction has claimed and completed. -/
theorem final_of_claim {state : KeyState} (hclaimed : ((applyAll claim db).key k).isSome = true)
    (hcompleted : state.status = .completed) (hbody : state.responseBody.isSome = true)
    (rest : List Entry) : ∃ record,
      (applyAll (claim ++ rest ++ [.query (.updateKey k state) ()]) db).key k = some record ∧
        record.Final := by
  rw [applyAll_append, applyAll_append]
  obtain ⟨record, hrecord⟩ := Option.isSome_iff_exists.mp (key_isSome_applyAll rest hclaimed)
  exact ⟨_, key_updated.trans ((if_pos rfl).trans (congrArg _ hrecord)), hcompleted, hbody⟩

theorem not_accepted_claim (h : Claim k claim) : claim.any Entry.isAccepted = false := by
  cases h <;> rfl

/-- A refund that Stripe accepted is stored under its key when its transaction is committed. -/
theorem final_commit {request : Request} (h : Shape request log) (hkey : keyOf log = some k)
    (haccepted : log.any Entry.isAccepted = true) (hreplays : Replays log db) :
    ∃ record, (applyAll log db).key k = some record ∧ record.Final := by
  rcases h.claims with ⟨k', record, rfl⟩ |
    ⟨k', claim, rest, state, hkey', hclaim, rfl, hcompleted, hbody⟩
  · cases haccepted
  · rw [hkey, Option.some.injEq] at hkey'
    subst hkey'
    rw [List.append_assoc] at hreplays
    have hfound := found_of_replays hclaim (replays_append.mp hreplays).1
    exact final_of_claim (key_isSome_claim hclaim hfound) hcompleted hbody rest

/-- No transaction changes a completed key. -/
theorem final_stays {request : Request} (h : Shape request log) (hreplays : Replays log db)
    {record : IdempotencyKey} (hrecord : db.key k = some record) (hfinal : record.Final) :
    (applyAll log db).key k = some record := by
  obtain ⟨k', hkey, hwrites⟩ := h.writesOnly
  by_cases heq : k = k'
  · subst heq
    rcases h.claims with ⟨k', record', rfl⟩ |
      ⟨k', claim, rest, state, hkey', hclaim, rfl, -, -⟩
    · exact hrecord
    · rw [hkey, Option.some.injEq] at hkey'
      subst hkey'
      rw [List.append_assoc] at hreplays
      exact absurd hfinal (replays_claim hclaim (replays_append.mp hreplays).1 record hrecord)
  · rw [key_applyAll hwrites heq, hrecord]

/-- The open transaction of a call holds a refund that Stripe accepted under a key. -/
def HoldsAccepted (k : KeyRef) (w : World) (i : Nat) : Prop :=
  keyOf (Journal.entries i w.journal) = some k ∧
    (Journal.entries i w.journal).any Entry.isAccepted = true

/-- A key under which Stripe accepted a refund is completed, or about to be. -/
structure Spent (k : KeyRef) (past : List Event) (w : World) : Prop where
  once : past.countP (Event.accepts k) ≤ 1
  blocked : past.countP (Event.accepts k) = 1 →
    (∃ record, w.db.key k = some record ∧ record.Final) ∨ ∃ i, HoldsAccepted k w i

theorem keyOf_append (h : keyOf log = some k) (entry : Entry) :
    keyOf (log ++ [entry]) = some k := by
  cases log with
  | nil => cases h
  | cons head tail =>
      cases head with
      | stripe op reply => cases h
      | query q reply =>
          cases q with
          | findKey k' => exact h
          | _ => cases h

/-- Stripe is asked for a refund while nothing blocks the key. -/
theorem SerialStep.fresh {op : StripeOp} {r : Except Exception op.Ret}
    (h : SerialStep past i c (.stripe op) r w w' t)
    (hkey : keyOf (Journal.entries i w.journal) = some k) :
    (∀ record, w.db.key k = some record → ¬record.Final) ∧ ∀ j, ¬HoldsAccepted k w j := by
  have hown := h.own
  have hreplays := h.replays
  obtain ⟨k', claim, rest, hnames, hclaim, hpending, hrest⟩ := h.legal
  rw [hpending] at hown hreplays
  rw [hown, keyOf_claim hclaim, Option.some.injEq] at hkey
  subst hkey
  refine ⟨replays_claim hclaim (replays_append.mp hreplays).1, fun j hholds => ?_⟩
  by_cases hj : j = i
  · subst hj
    have haccepted := hholds.2
    rw [hown, List.any_append, not_accepted_claim hclaim, Bool.false_or] at haccepted
    obtain ⟨entry, hmem, haccepted⟩ := List.any_eq_true.mp haccepted
    have hother := hrest entry hmem
    cases entry with
    | query q reply => cases haccepted
    | stripe op reply =>
        cases op with
        | refund transactionId amount reason => cases hother
        | _ => cases haccepted
  · have hkey := hholds.1
    rw [h.others_nil hj] at hkey
    cases hkey

/-- A completed key stays completed while nothing reopens it. -/
theorem SerialStep.final (h : SerialStep past i c op r w w' t)
    (hkept : Event.reopens k (.performed w i c op w') = false) {record : IdempotencyKey}
    (hrecord : w.db.key k = some record) (hfinal : record.Final) :
    w'.db.key k = some record := by
  have hlegal := h.legal
  have hreplays := h.replays
  have hown := h.own
  cases h.performs with
  | passed _ hop hdb => exact hdb ▸ hrecord
  | commit =>
      show (w.view i).key k = some record
      rw [World.view, hown]
      exact final_stays hlegal.1 hreplays hrecord hfinal
  | auto q hok =>
      cases q with
      | insertKey record' => exact hlegal.elim
      | updateKey k' state =>
          have hne : k ≠ k' := by
            intro heq
            subst heq
            simp [Event.reopens, hok, hrecord, hfinal] at hkept
          exact (key_updated.trans (if_neg hne)).trans hrecord
      | _ => exact hrecord
  | _ => exact hrecord

/-- An accepted refund stays in its transaction until this is committed. -/
theorem SerialStep.holds (h : SerialStep past i c op r w w' t)
    (hkept : Event.forgets k (.performed w i c op w') = false) {j : Nat}
    (hholds : HoldsAccepted k w j) :
    (∃ record, w'.db.key k = some record ∧ record.Final) ∨ ∃ j, HoldsAccepted k w' j := by
  have hlegal := h.legal
  have hreplays := h.replays
  have hown := h.own
  have hj : j = i := by
    by_cases hj : j = i
    · exact hj
    · have hkey := hholds.1
      rw [h.others_nil hj] at hkey
      cases hkey
  subst hj
  have hadds : ∀ entry journal, journal = Journal.add j entry w.journal →
      keyOf (Journal.entries j journal) = some k ∧
        (Journal.entries j journal).any Entry.isAccepted = true := by
    intro entry journal hjournal
    rw [hjournal, Journal.entries_add_self, List.any_append, hholds.2]
    exact ⟨keyOf_append hholds.1 entry, rfl⟩
  cases h.performs with
  | passed _ hop hdb hjournal =>
      right
      refine ⟨j, ?_⟩
      unfold HoldsAccepted
      rw [hjournal]
      exact hholds
  | sql q => exact .inr ⟨j, hadds _ _ rfl⟩
  | stripe op => exact .inr ⟨j, hadds _ _ rfl⟩
  | commit =>
      left
      obtain ⟨hkey, haccepted⟩ := hholds
      rw [hown] at hkey haccepted
      show ∃ record, (w.view j).key k = some record ∧ record.Final
      rw [World.view, hown]
      exact final_commit hlegal.1 hkey haccepted hreplays
  | rollback =>
      rw [Event.forgets, hholds.1, hholds.2] at hkept
      simp at hkept
  | _ => exact .inr ⟨j, hholds⟩

/-- Stripe accepts the refund of a call. -/
theorem SerialStep.accepts (h : SerialStep past i c op r w w' t)
    (haccepts : Event.accepts k (.performed w i c op w') = true) :
    (∀ record, w.db.key k = some record → ¬record.Final) ∧ (∀ j, ¬HoldsAccepted k w j) ∧
      HoldsAccepted k w' i := by
  cases op with
  | stripe op =>
      cases op with
      | refund transactionId amount reason =>
          simp only [Event.accepts, Bool.and_eq_true, decide_eq_true_eq, Option.isNone_iff_eq_none]
            at haccepts
          obtain ⟨⟨hok, hstatus⟩, hkey⟩ := haccepts
          obtain ⟨hopen, hnone⟩ := h.fresh hkey
          refine ⟨hopen, hnone, ?_⟩
          cases h.performs with
          | failed e hop hcause =>
              obtain ⟨q, db, hop, -⟩ := hcause hok
              rcases hop with hop | hop <;> cases hop
          | passed _ hop => cases hop
          | stripe =>
              unfold HoldsAccepted
              rw [Journal.entries_add_self, List.any_append]
              refine ⟨keyOf_append hkey _, ?_⟩
              simp [Entry.isAccepted, StripeOp.answer, hstatus]
      | _ => cases haccepts
  | _ => cases haccepts

theorem Spent.step (hinv : Spent k past w) (h : SerialStep past i c op r w w' t)
    (hforgets : Event.forgets k (.performed w i c op w') = false)
    (hreopens : Event.reopens k (.performed w i c op w') = false) :
    Spent k (past ++ [.performed w i c op w']) w' := by
  have hcount : (past ++ [Await.Event.performed w i c op w']).countP (Event.accepts k) =
      past.countP (Event.accepts k) +
        if Event.accepts k (.performed w i c op w') = true then 1 else 0 := by
    rw [List.countP_append, List.countP_singleton]
  by_cases haccepts : Event.accepts k (.performed w i c op w') = true
  · obtain ⟨hopen, hnone, hholds⟩ := h.accepts haccepts
    have hzero : past.countP (Event.accepts k) = 0 := by
      have honce := hinv.once
      have hne : past.countP (Event.accepts k) ≠ 1 := by
        intro hone
        rcases hinv.blocked hone with ⟨record, hrecord, hfinal⟩ | ⟨j, hj⟩
        · exact hopen record hrecord hfinal
        · exact hnone j hj
      omega
    refine ⟨?_, fun _ => .inr ⟨i, hholds⟩⟩
    exact Nat.le_of_eq (by rw [hcount, hzero, if_pos haccepts])
  · rw [if_neg haccepts, Nat.add_zero] at hcount
    refine ⟨hcount ▸ hinv.once, fun hone => ?_⟩
    rw [hcount] at hone
    rcases hinv.blocked hone with ⟨record, hrecord, hfinal⟩ | ⟨j, hj⟩
    · exact .inl ⟨record, h.final hreopens hrecord hfinal, hfinal⟩
    · exact h.holds hforgets hj

theorem spent_init : Spent k [] (World.init now) := ⟨Nat.zero_le 1, nofun⟩

/-- While one request runs at a time, Stripe accepts one refund for each key as long as no
transaction in which it has accepted one is rolled back and no completed key is overwritten. -/
theorem refund_accepted_once
    (hrun : service.run ms (Pool.init (World.init now)) = some (es, P))
    (hserial : service.serial ms (Pool.init (World.init now)) = true)
    (hkept : ∀ e ∈ es, e.forgets k = false ∧ e.reopens k = false) : AcceptedOnce k es := by
  have hhistory := (run_serial_history (Spent k)
    (fun e => e.forgets k = false ∧ e.reopens k = false) (fun _ => True) spent_init ?_ ?_ hrun
    hserial hkept).1
  · exact hhistory.inv.2.2.once
  · intro past w i request hfresh hinv hdone hallows
    have hcount : (past ++ [Await.Event.started w i request]).countP (Event.accepts k) =
        past.countP (Event.accepts k) := by
      rw [List.countP_append, List.countP_singleton]
      rfl
    exact ⟨⟨hcount ▸ hinv.once, fun hone => hinv.blocked (hcount ▸ hone)⟩, trivial⟩
  · exact fun past i c op r w w' t hstep hinv h => ⟨hinv.step hstep h.1 h.2, trivial⟩

/-- The refund is asked for again under its key. -/
def askedAgain : List (Move Request Choice) :=
  partlyRefunded ++ .start (.createRefund partRefund (some "r")) :: succeeds 3 "d" "succeeded" 3

theorem refund_accepted_once_again :
    ∃ (es : List Event) (P : ServicePool),
      service.run askedAgain (Pool.init (World.init 0)) = some (es, P) ∧
      AcceptedOnce ⟨.refund "a4", "r"⟩ es := by
  have hrun : (service.run askedAgain (Pool.init (World.init 0))).any (fun result =>
      result.1.all fun (e : Event) =>
        !e.forgets ⟨.refund "a4", "r"⟩ && !e.reopens ⟨.refund "a4", "r"⟩) = true := by
    decide +kernel
  obtain ⟨es, P, hrun, hkept⟩ := System.exists_run hrun
  refine ⟨es, P, hrun, refund_accepted_once hrun (by decide +kernel) fun e he => ?_⟩
  have hevent := List.all_eq_true.mp hkept e he
  simpa only [Bool.and_eq_true, Bool.not_eq_true'] using hevent

/-- The transaction of a refund that Stripe accepted fails to commit, and its retry is accepted
too. -/
def refundedAgain : List (Move Request Choice) :=
  confirmed ++ .start (.createRefund partRefund (some "r")) :: succeeds 2 "c" "succeeded" 13 ++
    failing 2 :: succeeds 2 "c" "succeeded" 2 ++
    .start (.createRefund partRefund (some "r")) :: succeeds 3 "d" "succeeded" 14

theorem refund_accepted_twice :
    ∃ (es : List Event) (P : ServicePool),
      service.run refundedAgain (Pool.init (World.init 0)) = some (es, P) ∧
      service.serial refundedAgain (Pool.init (World.init 0)) = true ∧
      ¬AcceptedOnce ⟨.refund "a4", "r"⟩ es := by
  have hrun : (service.run refundedAgain (Pool.init (World.init 0))).any (fun result =>
      result.1.countP (Event.accepts ⟨.refund "a4", "r"⟩) = 2) = true := by decide +kernel
  obtain ⟨es, P, hrun, hcount⟩ := System.exists_run hrun
  refine ⟨es, P, hrun, by decide +kernel, fun honce => ?_⟩
  rw [AcceptedOnce, of_decide_eq_true hcount] at honce
  omega

end FlightBookings.Payment
