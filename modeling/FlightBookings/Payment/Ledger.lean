import FlightBookings.Payment.Status

/-! # The ledger and the state of a payment

What the ledger owes a customer is what was captured less what was refunded. Two
operations change the status of a payment without an entry: its creation, when
Stripe reports the intent as succeeded at once, and a webhook that reports a
failure.
-/

namespace FlightBookings.Payment

open Await

/-! ## Balances -/

/-- What an entry adds to the funds of the customer. -/
def LedgerEntry.credit (entry : LedgerEntry) : Int :=
  if entry.accountCode = "liability:customer_funds" then
    match entry.direction with
    | .credit => entry.amount
    | .debit => -entry.amount
  else 0

def balanceOf (ledger : List LedgerEntry) (paymentId : String) : Int :=
  ((ledger.filter fun entry => entry.paymentId = paymentId).map LedgerEntry.credit).sum

/-- The net credit balance of the account `liability:customer_funds` for a payment. -/
def Database.balance (db : Database) (paymentId : String) : Int := balanceOf db.ledger paymentId

def capturesOf (ledger : List LedgerEntry) (paymentId : String) : Nat :=
  ledger.countP (EntryFilter.ofPayment paymentId).selects

/-- The books agree with the states of the payments. -/
def Reconciles (db : Database) : Prop :=
  ∀ id p, db.payment id = some p →
    db.balance id = if p.status.settled then (p.amount : Int) - db.refunded id else 0

variable {ledger entries : List LedgerEntry} {id : String}

theorem balanceOf_append : balanceOf (ledger ++ entries) id = balanceOf ledger id + balanceOf entries id := by
  simp [balanceOf]

theorem capturesOf_append :
    capturesOf (ledger ++ entries) id = capturesOf ledger id + capturesOf entries id := by
  simp [capturesOf]

/-- Entries of another payment do not count. -/
theorem balanceOf_others (h : ∀ entry ∈ entries, entry.paymentId ≠ id) : balanceOf entries id = 0 := by
  have hfilter : entries.filter (fun entry => entry.paymentId = id) = [] :=
    List.filter_eq_nil_iff.mpr fun entry hentry => by simpa using h entry hentry
  rw [balanceOf, hfilter]
  rfl

theorem capturesOf_others (h : ∀ entry ∈ entries, entry.paymentId ≠ id) : capturesOf entries id = 0 := by
  refine List.countP_eq_zero.mpr fun entry hentry => ?_
  simp [EntryFilter.selects, h entry hentry]

variable {payment : Payment} {now n total : Nat}

theorem mem_capturedEntries {result : PaymentResult} {entry : LedgerEntry}
    (h : entry ∈ capturedEntries payment result now n) :
    entry.paymentId = payment.id ∧ entry.refundId = none := by
  unfold capturedEntries at h
  split at h
  · simp only [paymentEntries, List.mem_cons, List.not_mem_nil, or_false] at h
    rcases h with h | h <;> subst h <;> exact ⟨rfl, rfl⟩
  · cases h

theorem mem_refundedEntries {result : RefundResult} {refund : Refund} {entry : LedgerEntry}
    (h : entry ∈ refundedEntries payment refund result total now n) :
    entry.paymentId = payment.id ∧ entry.refundId = some refund.id := by
  unfold refundedEntries at h
  split at h
  · simp only [refundEntries, List.mem_cons, List.not_mem_nil, or_false] at h
    rcases h with h | h <;> subst h <;> exact ⟨rfl, rfl⟩
  · cases h

theorem balanceOf_captured {result : PaymentResult} :
    balanceOf (capturedEntries payment result now n) payment.id =
      if result.success = true ∧ n = 0 then (payment.amount : Int) else 0 := by
  unfold capturedEntries
  split <;> simp [balanceOf, paymentEntries, paymentEntry, LedgerEntry.credit]

theorem capturesOf_captured {result : PaymentResult} :
    capturesOf (capturedEntries payment result now n) payment.id =
      if result.success = true ∧ n = 0 then 2 else 0 := by
  unfold capturedEntries
  split <;> simp [capturesOf, paymentEntries, paymentEntry, EntryFilter.selects]

theorem balanceOf_refunded {result : RefundResult} {refund : Refund} :
    balanceOf (refundedEntries payment refund result total now n) payment.id =
      if result.success = true ∧ n = 0 then -(refund.amount : Int) else 0 := by
  unfold refundedEntries
  split <;> simp [balanceOf, refundEntries, refundEntry, LedgerEntry.credit]

theorem capturesOf_refunded {result : RefundResult} {refund : Refund} :
    capturesOf (refundedEntries payment refund result total now n) payment.id = 0 := by
  unfold refundedEntries
  split <;> simp [capturesOf, refundEntries, refundEntry, EntryFilter.selects]

/-! ## The books -/

/-- The figures of a payment: either its money was never captured, or it was once, and what is left
of it is what the customer is owed. -/
inductive Booked (amount : Nat) (settled : Bool) (captures refunded : Nat) (balance : Int) :
    Prop where
  | unpaid (hsettled : settled = false) (hcaptures : captures = 0) (hrefunded : refunded = 0)
      (hbalance : balance = 0) : Booked amount settled captures refunded balance
  | paid (hcaptures : 0 < captures) (hrefunded : refunded ≤ amount)
      (hbalance : balance = (amount : Int) - refunded)
      (hunsettled : settled = false → refunded = amount) :
      Booked amount settled captures refunded balance

def Figures (db : Database) (p : Payment) : Prop :=
  Booked p.amount p.status.settled (capturesOf db.ledger p.id) (db.refunded p.id) (db.balance p.id)

structure Books (db : Database) : Prop where
  ids : (db.payments.map Payment.id).Nodup
  figures : ∀ id p, db.payment id = some p → Figures db p
  bare : ∀ id, db.payment id = none → (∀ entry ∈ db.ledger, entry.paymentId ≠ id) ∧
    ∀ refund ∈ db.refunds, refund.paymentId ≠ id
  refs : ∀ entry ∈ db.ledger, ∀ refundId, entry.refundId = some refundId →
    ∃ refund ∈ db.refunds, refund.id = refundId

/-- A webhook reports a payment as failed whose money is captured and not all refunded. -/
def failsOwing (db : Database) (failed : Option String) : Bool :=
  (failed.bind db.payment).any fun p => p.status.settled && db.refunded p.id ≠ p.amount

/-- The changes of a status that the books do not follow. -/
def unbooked (db : Database) (created : Option Payment) (failed : Option String) : Bool :=
  created.any (fun p => p.status = .confirmed) || failsOwing db failed

def Event.unbooked (e : Event) : Bool := Payment.unbooked e.before.db e.creates e.reportsFailed

variable {db db' : Database} {created : Option Payment} {failed : Option String}

theorem Books.reconciles (h : Books db) : Reconciles db := by
  intro id p hp
  have hid : p.id = id := (Table.mem_of_find hp).2
  subst hid
  cases h.figures p.id p hp with
  | unpaid hsettled hcaptures hrefunded hbalance => simp [hsettled, hbalance]
  | paid hcaptures hrefunded hbalance hunsettled =>
      rw [hbalance]
      split
      · rfl
      · rename_i hsettled
        rw [hunsettled (by simpa using hsettled)]
        omega

theorem refunded_bare {paymentId : String} (h : ∀ refund ∈ db.refunds, refund.paymentId ≠ paymentId) :
    db.refunded paymentId = 0 := by
  have hfilter : db.refunds.filter
      (fun r => r.paymentId = paymentId && r.status = .succeeded) = [] :=
    List.filter_eq_nil_iff.mpr fun refund hrefund => by simp [h refund hrefund]
  rw [Database.refunded, hfilter]
  rfl

/-- The figures of a payment that a step does not touch. -/
theorem figures_frame {p : Payment} {q : String} (h : Figures db p) (hne : p.id ≠ q)
    (hledger : db'.ledger = db.ledger ++ entries)
    (hentries : ∀ entry ∈ entries, entry.paymentId = q)
    (hrefunded : db'.refunded p.id = db.refunded p.id) : Figures db' p := by
  have hothers : ∀ entry ∈ entries, entry.paymentId ≠ p.id := by
    intro entry hentry heq
    exact hne (heq.symm.trans (hentries entry hentry))
  have hbalance : db'.balance p.id = db.balance p.id := by
    rw [Database.balance, hledger, balanceOf_append, balanceOf_others hothers, Int.add_zero]
    rfl
  have hcaptures : capturesOf db'.ledger p.id = capturesOf db.ledger p.id := by
    rw [hledger, capturesOf_append, capturesOf_others hothers, Nat.add_zero]
  unfold Figures
  rw [hbalance, hcaptures, hrefunded]
  exact h

theorem figures_captured {result : PaymentResult} (h : Figures db payment)
    (hunsettled : payment.status.settled = false)
    (hcount : result.success = true → n = capturesOf db.ledger payment.id)
    (hledger : db'.ledger = db.ledger ++ capturedEntries payment result now n)
    (hrefunds : db'.refunds = db.refunds) :
    Figures db' (payment.after (capturedState payment result now)) := by
  have hrefunded : db'.refunded payment.id = db.refunded payment.id := refunded_congr hrefunds _
  have hbalance : db'.balance payment.id =
      db.balance payment.id + if result.success = true ∧ n = 0 then (payment.amount : Int) else 0 := by
    rw [Database.balance, hledger, balanceOf_append, balanceOf_captured]
    rfl
  have hcaptures : capturesOf db'.ledger payment.id =
      capturesOf db.ledger payment.id + if result.success = true ∧ n = 0 then 2 else 0 := by
    rw [hledger, capturesOf_append, capturesOf_captured]
  show Booked payment.amount _ (capturesOf db'.ledger payment.id) (db'.refunded payment.id)
    (db'.balance payment.id)
  rw [hbalance, hcaptures, hrefunded]
  cases h with
  | unpaid hsettled hnone hzero hbare =>
      rw [hnone, hzero, hbare]
      by_cases hsuccess : result.success = true
      · have hn : n = 0 := (hcount hsuccess).trans hnone
        rw [if_pos ⟨hsuccess, hn⟩, if_pos ⟨hsuccess, hn⟩]
        refine .paid (by omega) (by omega) (by simp) ?_
        intro h
        simp [capturedState, hsuccess, PaymentStatus.settled] at h
      · rw [if_neg fun h => hsuccess h.1, if_neg fun h => hsuccess h.1]
        exact .unpaid (by simp [capturedState, hsuccess, PaymentStatus.settled]) rfl rfl rfl
  | paid hsome hle howed hall =>
      -- what was captured before is refunded, and is not captured again
      have hno : ¬(result.success = true ∧ n = 0) := fun h => by
        have hn := hcount h.1
        omega
      rw [if_neg hno, if_neg hno, Int.add_zero, Nat.add_zero]
      exact .paid hsome hle howed fun _ => hall hunsettled

theorem figures_refunded {dto : CreateRefundDto} {result : RefundResult} {rid key : String}
    {p : Payment} (h : Figures db payment) (hid : p.id = payment.id)
    (hamount : p.amount = payment.amount) (hrefundable : payment.status.settled = true)
    (hsettled : p.status.settled = true)
    (hbalance : db.refunded payment.id + dto.amount ≤ payment.amount)
    (hn : result.success = true → n = 0)
    (hledger : db'.ledger = db.ledger ++ refundedEntries payment
      (newRefund rid dto payment key result now) result total now n)
    (hrefunds : db'.refunds = db.refunds ++ [newRefund rid dto payment key result now]) :
    Figures db' p := by
  have hsum : db'.refunded payment.id =
      db.refunded payment.id + if result.success = true then dto.amount else 0 := by
    rw [refunded_append hrefunds]
    by_cases hsuccess : result.success = true <;> simp [newRefund, hsuccess]
  have howed : db'.balance payment.id =
      db.balance payment.id + if result.success = true then -(dto.amount : Int) else 0 := by
    rw [Database.balance, hledger, balanceOf_append, balanceOf_refunded]
    by_cases hsuccess : result.success = true
    · rw [if_pos ⟨hsuccess, hn hsuccess⟩, if_pos hsuccess]
      rfl
    · rw [if_neg fun h => hsuccess h.1, if_neg hsuccess]
      rfl
  have hcaptures : capturesOf db'.ledger payment.id = capturesOf db.ledger payment.id := by
    rw [hledger, capturesOf_append, capturesOf_refunded, Nat.add_zero]
  unfold Figures
  rw [hid, hamount, hsettled, hsum, howed, hcaptures]
  cases h with
  | unpaid hunsettled =>
      rw [hrefundable] at hunsettled
      cases hunsettled
  | paid hsome hle hbefore hall =>
      rw [hbefore]
      by_cases hsuccess : result.success = true
      · rw [if_pos hsuccess, if_pos hsuccess]
        exact .paid hsome hbalance (by omega) (by simp)
      · rw [if_neg hsuccess, if_neg hsuccess]
        exact .paid hsome (by omega) (by omega) (by simp)

/-- Ledger entries and refunds are only ever added, for payments that exist. -/
theorem RowStep.grows (h : RowStep db created failed db') :
    ∃ entries refunds, db'.ledger = db.ledger ++ entries ∧ db'.refunds = db.refunds ++ refunds ∧
      (∀ entry ∈ entries, (db.payment entry.paymentId).isSome ∧
        ∀ refundId, entry.refundId = some refundId → ∃ refund ∈ refunds, refund.id = refundId) ∧
      ∀ refund ∈ refunds, (db.payment refund.paymentId).isSome := by
  cases h with
  | kept hpayments hrefunds hledger => exact ⟨[], [], by simp [hledger], by simp [hrefunds], nofun, nofun⟩
  | captured hfound =>
      refine ⟨_, [], rfl, by simp, fun entry hentry => ?_, nofun⟩
      obtain ⟨hpayment, hrefund⟩ := mem_capturedEntries hentry
      rw [hpayment, hfound, hrefund]
      exact ⟨rfl, nofun⟩
  | refunded hfound =>
      refine ⟨_, _, rfl, rfl, fun entry hentry => ?_, fun refund hrefund => ?_⟩
      · obtain ⟨hpayment, hrefund⟩ := mem_refundedEntries hentry
        rw [hpayment, hfound, hrefund]
        refine ⟨rfl, fun refundId heq => ⟨_, List.mem_singleton_self _, ?_⟩⟩
        exact Option.some.inj heq
      · rw [List.mem_singleton.mp hrefund]
        exact Option.isSome_iff_exists.mpr ⟨_, hfound⟩
  | _ => exact ⟨[], [], by simp, by simp, nofun, nofun⟩

/-- A refund that is new has no entries yet. -/
theorem countP_new_refund (hrefs : ∀ entry ∈ db.ledger, ∀ refundId, entry.refundId = some refundId →
      ∃ refund ∈ db.refunds, refund.id = refundId)
    (hnew : ∀ other ∈ db.refunds, other.id ≠ id) :
    db.ledger.countP (EntryFilter.ofRefund id).selects = 0 := by
  refine List.countP_eq_zero.mpr fun entry hentry hselects => ?_
  have hrefund : entry.refundId = some id := by
    simp only [EntryFilter.selects, Bool.and_eq_true, decide_eq_true_eq] at hselects
    exact hselects.1
  obtain ⟨refund, hmem, heq⟩ := hrefs entry hentry id hrefund
  exact hnew refund hmem heq

/-- The figures of a payment that keeps its row while neither entries nor refunds are added. -/
theorem figures_congr {p p' : Payment} (h : Figures db p) (hid : p'.id = p.id)
    (hamount : p'.amount = p.amount) (hsettled : p'.status.settled = p.status.settled)
    (hledger : db'.ledger = db.ledger) (hrefunds : db'.refunds = db.refunds) : Figures db' p' := by
  unfold Figures Database.balance
  rw [hid, hamount, hsettled, hledger, refunded_congr hrefunds]
  exact h

/-- The figures of a payment after a step that the books follow. -/
theorem Books.figures_step (hinv : Books db) (h : RowStep db created failed db')
    (hcond : failsOwing db failed = false) {p p' : Payment} (hp : db.payment p.id = some p)
    (hp' : db'.payment p.id = some p') : Figures db' p' := by
  have hfigures : Figures db p := hinv.figures p.id p hp
  cases h with
  | kept hpayments hrefunds hledger =>
      rw [Database.payment, hpayments, ← Database.payment, hp, Option.some.injEq] at hp'
      subst hp'
      exact figures_congr hfigures rfl rfl rfl hledger hrefunds
  | created hnew =>
      rw [Database.payment, payment_inserted hnew, if_neg (hnew p (Table.mem_of_find hp).1), hp,
        Option.some.injEq] at hp'
      subst hp'
      exact figures_congr hfigures rfl rfl rfl rfl rfl
  | @captured payment result now n keys hfound hunsettled hcount =>
      rw [Database.payment, payment_updated_found hfound] at hp'
      by_cases heq : p.id = payment.id
      · rw [if_pos heq, Option.some.injEq] at hp'
        rw [heq, hfound, Option.some.injEq] at hp
        subst hp hp'
        exact figures_captured hfigures hunsettled hcount rfl rfl
      · rw [if_neg heq, hp, Option.some.injEq] at hp'
        subst hp'
        exact figures_frame hfigures heq rfl (fun entry h => (mem_capturedEntries h).1) rfl
  | @refunded dto payment result rid key now n keys hfound hrefundable hbalance hnew hcount =>
      have hn : result.success = true → n = 0 := fun h =>
        (hcount h).trans (countP_new_refund hinv.refs hnew)
      rw [Database.payment, Database.refundedPayments] at hp'
      by_cases heq : p.id = payment.id
      · rw [heq, hfound, Option.some.injEq] at hp
        subst hp
        have hsettled : payment.status.settled = true := by
          rcases hrefundable with h | h <;> rw [h] <;> rfl
        by_cases hsuccess : result.success = true
        · rw [if_pos hsuccess, payment_updated_found hfound, if_pos rfl, Option.some.injEq] at hp'
          subst hp'
          exact figures_refunded hfigures rfl rfl hsettled refundedState_status.1 hbalance hn rfl rfl
        · rw [if_neg hsuccess, ← Database.payment, hfound, Option.some.injEq] at hp'
          subst hp'
          exact figures_refunded hfigures rfl rfl hsettled hsettled hbalance hn rfl rfl
      · have hsame : p' = p := by
          split at hp'
          · rw [payment_updated_found hfound, if_neg heq, hp, Option.some.injEq] at hp'
            exact hp'.symm
          · rw [← Database.payment, hp, Option.some.injEq] at hp'
            exact hp'.symm
        subst hsame
        refine figures_frame hfigures heq rfl (fun entry h => (mem_refundedEntries h).1) ?_
        rw [refunded_append rfl, if_neg, Nat.add_zero]
        intro h
        exact heq h.1.symm
  | @failed payment reason hfound =>
      rw [Database.payment, payment_updated_found hfound] at hp'
      by_cases heq : p.id = payment.id
      · rw [if_pos heq, Option.some.injEq] at hp'
        rw [heq, hfound, Option.some.injEq] at hp
        subst hp hp'
        have hall : payment.status.settled = true → db.refunded payment.id = payment.amount := by
          intro hsettled
          simpa [failsOwing, hfound, hsettled] using hcond
        show Booked payment.amount false (capturesOf db.ledger payment.id) (db.refunded payment.id)
          (db.balance payment.id)
        cases hfigures with
        | unpaid hsettled hcaptures hrefunded hbalance =>
            exact .unpaid rfl hcaptures hrefunded hbalance
        | paid hcaptures hrefunded hbalance hunsettled =>
            refine .paid hcaptures hrefunded hbalance fun _ => ?_
            cases hsettled : payment.status.settled with
            | true => exact hall hsettled
            | false => exact hunsettled hsettled
      · rw [if_neg heq, hp, Option.some.injEq] at hp'
        subst hp'
        exact figures_congr hfigures rfl rfl rfl rfl rfl
  | @refreshed payment now hfound hpositive =>
      rw [Database.payment, payment_updated_found hfound] at hp'
      by_cases heq : p.id = payment.id
      · rw [if_pos heq, Option.some.injEq] at hp'
        rw [heq, hfound, Option.some.injEq] at hp
        subst hp hp'
        have hsettled : (refundedState payment (db.refunded payment.id) now).status.settled = true :=
          refundedState_status.1
        show Booked payment.amount _ (capturesOf db.ledger payment.id) (db.refunded payment.id)
          (db.balance payment.id)
        rw [hsettled]
        cases hfigures with
        | unpaid hunsettled hcaptures hrefunded hbalance => omega
        | paid hcaptures hrefunded hbalance hunsettled =>
            exact .paid hcaptures hrefunded hbalance (by simp)
      · rw [if_neg heq, hp, Option.some.injEq] at hp'
        subst hp'
        exact figures_congr hfigures rfl rfl rfl rfl rfl

theorem Books.step (hinv : Books db) (h : RowStep db created failed db')
    (hcond : unbooked db created failed = false) : Books db' := by
  rw [unbooked, Bool.or_eq_false_iff] at hcond
  obtain ⟨entries, refunds, hledger, hrefunds, hentries, hpayments⟩ := h.grows
  have hbare : ∀ id, db.payment id = none → (∀ entry ∈ db'.ledger, entry.paymentId ≠ id) ∧
      ∀ refund ∈ db'.refunds, refund.paymentId ≠ id := by
    intro id hnone
    rw [hledger, hrefunds]
    refine ⟨fun entry hentry heq => ?_, fun refund hrefund heq => ?_⟩
    · rcases List.mem_append.mp hentry with hold | hnew
      · exact (hinv.bare id hnone).1 entry hold heq
      · have hsome := (hentries entry hnew).1
        rw [heq, hnone] at hsome
        cases hsome
    · rcases List.mem_append.mp hrefund with hold | hnew
      · exact (hinv.bare id hnone).2 refund hold heq
      · have hsome := hpayments refund hnew
        rw [heq, hnone] at hsome
        cases hsome
  refine ⟨ids_nodup h hinv.ids, ?_, ?_, ?_⟩
  · intro id p' hp'
    cases hp : db.payment id with
    | none =>
        -- a payment that is created has no figures, and the condition keeps it unsettled
        obtain ⟨hcreated, -, hstatus⟩ := h.appears hp hp'
        have hid : p'.id = id := (Table.mem_of_find hp').2
        subst hid
        have hunsettled : p'.status.settled = false := by
          rw [hcreated] at hcond
          have hne : p'.status ≠ .confirmed := by simpa using hcond.1
          rw [← Bool.not_eq_true]
          exact fun h => hne (hstatus h)
        exact .unpaid hunsettled (capturesOf_others (hbare p'.id hp).1)
          (refunded_bare (hbare p'.id hp).2) (balanceOf_others (hbare p'.id hp).1)
    | some p =>
        have hid : p.id = id := (Table.mem_of_find hp).2
        subst hid
        exact hinv.figures_step h hcond.2 hp hp'
  · intro id hnone
    refine hbare id ?_
    cases hp : db.payment id with
    | none => rfl
    | some p =>
        obtain ⟨p', hp', -⟩ := h.moves hp
        rw [hnone] at hp'
        cases hp'
  · intro entry hentry refundId heq
    rw [hledger] at hentry
    rw [hrefunds]
    rcases List.mem_append.mp hentry with hold | hnew
    · obtain ⟨refund, hmem, hrefund⟩ := hinv.refs entry hold refundId heq
      exact ⟨refund, List.mem_append_left _ hmem, hrefund⟩
    · obtain ⟨refund, hmem, hrefund⟩ := (hentries entry hnew).2 refundId heq
      exact ⟨refund, List.mem_append_right _ hmem, hrefund⟩

theorem booked_of_reconciles (hinv : Books db) (h : RowStep db created failed db')
    (hreconciles : Reconciles db') : unbooked db created failed = false := by
  cases h with
  | @created payment keys hnew hpositive hstatus =>
      have hnone : db.payment payment.id = none := Table.find_eq_none.mpr hnew
      have hbalance := hreconciles payment.id payment
        ((payment_inserted hnew).trans (if_pos rfl))
      have hzero : db.balance payment.id = 0 := balanceOf_others (hinv.bare payment.id hnone).1
      have hrefunded : db.refunded payment.id = 0 := refunded_bare (hinv.bare payment.id hnone).2
      have hne : payment.status ≠ .confirmed := by
        intro heq
        rw [heq] at hbalance
        change db.balance payment.id = (payment.amount : Int) - db.refunded payment.id at hbalance
        omega
      simp [unbooked, failsOwing, hne]
  | @failed payment reason hfound =>
      have hbalance := hreconciles payment.id (payment.after (failedPayment payment reason))
        ((payment_updated_found hfound).trans (if_pos rfl))
      change db.balance payment.id = 0 at hbalance
      cases hinv.figures payment.id payment hfound with
      | unpaid hsettled => simp [unbooked, failsOwing, hfound, hsettled]
      | paid hcaptures hrefunded howed hunsettled =>
          have hall : db.refunded payment.id = payment.amount := by omega
          simp [unbooked, failsOwing, hfound, hall]
  | _ => rfl

theorem books_init {now : Nat} : Books (World.init now).db :=
  ⟨List.nodup_nil, fun _ _ h => (by cases h), fun _ _ => ⟨nofun, nofun⟩, nofun⟩

variable {ms : List (Move Request Choice)} {es : List Event} {P : ServicePool}

/-- In a serial run the books agree with the states of the payments exactly when no payment is
created as confirmed and no webhook reports a payment as failed for which the customer is owed
something. -/
theorem ledger_reconciles_iff {now : Nat}
    (hrun : service.run ms (Pool.init (World.init now)) = some (es, P))
    (hserial : service.serial ms (Pool.init (World.init now)) = true) :
    (∀ e ∈ es, Reconciles e.after.db) ↔ ∀ e ∈ es, e.unbooked = false := by
  constructor
  · intro hreconciles
    refine (run_serial_history (fun _ w => Books w.db) (fun e => Reconciles e.after.db) _
      books_init ?_ ?_ hrun hserial hreconciles).2
    · intro past w i request _ hinv _ _
      exact ⟨hinv, rfl⟩
    · intro past i c op r w w' t hstep hinv hsafe
      have hrows := hstep.rows hinv.ids
      have hbooked := booked_of_reconciles hinv hrows hsafe
      exact ⟨hinv.step hrows hbooked, hbooked⟩
  · intro hbooked
    refine (run_serial_history (fun _ w => Books w.db) (fun e => e.unbooked = false) _
      books_init ?_ ?_ hrun hserial hbooked).2
    · intro past w i request _ hinv _ _
      exact ⟨hinv, hinv.reconciles⟩
    · intro past i c op r w w' t hstep hinv hallows
      have hinv' : Books w'.db := hinv.step (hstep.rows hinv.ids) hallows
      exact ⟨hinv', hinv'.reconciles⟩

/-- A payment that is confirmed and refunded in part. -/
theorem ledger_reconciles_refunded :
    ∃ (es : List Event) (P : ServicePool),
      service.run partlyRefunded (Pool.init (World.init 0)) = some (es, P) ∧
      ((∀ e ∈ es, Reconciles e.after.db) ↔ ∀ e ∈ es, e.unbooked = false) := by
  have hrun : (service.run partlyRefunded (Pool.init (World.init 0))).any
      (fun result => result.2.idle) = true := by decide +kernel
  obtain ⟨es, P, hrun, -⟩ := System.exists_run hrun
  exact ⟨es, P, hrun, ledger_reconciles_iff hrun (by decide +kernel)⟩

/-- Stripe reports a new intent as succeeded: the payment is confirmed, without entries. -/
theorem created_without_entries :
    ∃ (es : List Event) (P : ServicePool),
      service.run (.start (.createPaymentIntent fare (some "k")) :: succeeds 0 "a" "succeeded" 8)
        (Pool.init (World.init 0)) = some (es, P) ∧
      service.serial (.start (.createPaymentIntent fare (some "k")) ::
        succeeds 0 "a" "succeeded" 8) (Pool.init (World.init 0)) = true ∧
      ¬∀ e ∈ es, Reconciles e.after.db := by
  have hrun : (service.run
      (.start (.createPaymentIntent fare (some "k")) :: succeeds 0 "a" "succeeded" 8)
      (Pool.init (World.init 0))).any (fun result => result.1.any fun e =>
        (e.after.db.payment "a4").any (fun p => p.status.settled && p.amount = 100) &&
        e.after.db.balance "a4" = 0 && e.after.db.refunded "a4" = 0) = true := by decide +kernel
  obtain ⟨es, P, hrun, hmissing⟩ := System.exists_run hrun
  refine ⟨es, P, hrun, by decide +kernel, fun hreconciles => ?_⟩
  obtain ⟨e, he, hmissing⟩ := List.any_eq_true.mp hmissing
  simp only [Bool.and_eq_true, Option.any_eq_true, decide_eq_true_eq] at hmissing
  obtain ⟨⟨⟨p, hp, hsettled, hamount⟩, hbalance⟩, hrefunded⟩ := hmissing
  have howed := hreconciles e he "a4" p hp
  rw [hsettled, if_pos rfl, hbalance, hrefunded, hamount] at howed
  omega

end FlightBookings.Payment
