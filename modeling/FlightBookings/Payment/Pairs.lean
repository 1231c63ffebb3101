import FlightBookings.Payment.Ledger

/-! # Double entry

Every capture and every refund that succeeded stands in the ledger as one debit
and one credit of its amount, and nothing else does.
-/

namespace FlightBookings.Payment

open Await

/-- The entries that a filter selects. -/
def entriesOf (ledger : List LedgerEntry) (filter : EntryFilter) : List LedgerEntry :=
  ledger.filter filter.selects

/-- One debit and one credit, both of the amount. -/
def IsPair (amount : Nat) (entries : List LedgerEntry) : Prop :=
  ∃ debit credit, entries = [debit, credit] ∧
    debit.direction = .debit ∧ debit.amount = amount ∧
    credit.direction = .credit ∧ credit.amount = amount

/-- The debits or the credits of a payment in a currency. -/
def totalOf (direction : LedgerDirection) (paymentId currency : String)
    (ledger : List LedgerEntry) : Nat :=
  ((ledger.filter fun entry => entry.direction = direction && entry.paymentId = paymentId &&
    entry.currency = currency).map LedgerEntry.amount).sum

/-- The structure of the ledger. -/
structure DoubleEntry (db : Database) : Prop where
  payments : ∀ p ∈ db.payments, entriesOf db.ledger (.ofPayment p.id) = [] ∨
    IsPair p.amount (entriesOf db.ledger (.ofPayment p.id))
  refunds : ∀ refund ∈ db.refunds, refund.status = .succeeded →
    IsPair refund.amount (entriesOf db.ledger (.ofRefund refund.id))
  others : ∀ id, (∀ refund ∈ db.refunds, refund.id = id → refund.status ≠ .succeeded) →
    entriesOf db.ledger (.ofRefund id) = []
  totals : ∀ id currency,
    totalOf .debit id currency db.ledger = totalOf .credit id currency db.ledger

/-! ## What a step posts -/

/-- The entries and the refunds that a step adds. -/
inductive Posting (db : Database) : List LedgerEntry → List Refund → Prop where
  | nothing : Posting db [] []
  | capture {payment : Payment} {referenceId : String} {now : Nat}
      (hfound : db.payment payment.id = some payment)
      (hnone : entriesOf db.ledger (.ofPayment payment.id) = []) :
      Posting db (paymentEntries payment referenceId now) []
  | refused {refund : Refund} (hstatus : refund.status ≠ .succeeded)
      (hnew : ∀ other ∈ db.refunds, other.id ≠ refund.id) : Posting db [] [refund]
  | refund {payment : Payment} {refund : Refund} {now : Nat}
      (hfound : db.payment payment.id = some payment) (hstatus : refund.status = .succeeded)
      (hnew : ∀ other ∈ db.refunds, other.id ≠ refund.id) :
      Posting db (refundEntries payment refund now) [refund]

variable {db db' : Database} {created : Option Payment} {failed : Option String}
variable {ledger entries : List LedgerEntry} {refunds : List Refund}

theorem entriesOf_eq_nil {filter : EntryFilter} :
    entriesOf ledger filter = [] ↔ ledger.countP filter.selects = 0 := by
  rw [entriesOf, List.countP_eq_length_filter, List.length_eq_zero_iff]

theorem RowStep.posts (h : RowStep db created failed db')
    (hrefs : ∀ entry ∈ db.ledger, ∀ refundId, entry.refundId = some refundId →
      ∃ refund ∈ db.refunds, refund.id = refundId) :
    ∃ entries refunds, db'.ledger = db.ledger ++ entries ∧
      db'.refunds = db.refunds ++ refunds ∧ Posting db entries refunds := by
  cases h with
  | kept hpayments hrefunds hledger =>
      exact ⟨[], [], by simp [hledger], by simp [hrefunds], .nothing⟩
  | @captured payment result now n keys hfound hunsettled hcount =>
      by_cases hpost : result.success = true ∧ n = 0
      · have hentries : capturedEntries payment result now n =
            paymentEntries payment result.transactionId now := if_pos hpost
        have hnone : entriesOf db.ledger (.ofPayment payment.id) = [] :=
          entriesOf_eq_nil.mpr ((hcount hpost.1).symm.trans hpost.2)
        exact ⟨_, [], rfl, by simp, hentries ▸ .capture hfound hnone⟩
      · have hentries : capturedEntries payment result now n = [] := if_neg hpost
        exact ⟨_, [], rfl, by simp, hentries ▸ .nothing⟩
  | @refunded dto payment result id key now n keys hfound hrefundable hbalance hnew hcount =>
      by_cases hsuccess : result.success = true
      · have hn : n = 0 := (hcount hsuccess).trans (countP_new_refund hrefs hnew)
        have hentries : refundedEntries payment (newRefund id dto payment key result now) result
            (db.refunded payment.id + dto.amount) now n =
              refundEntries payment (newRefund id dto payment key result now) now :=
          if_pos ⟨hsuccess, hn⟩
        have hstatus : (newRefund id dto payment key result now).status = .succeeded := by
          simp [newRefund, hsuccess]
        exact ⟨_, _, rfl, rfl, hentries ▸ .refund hfound hstatus hnew⟩
      · have hentries : refundedEntries payment (newRefund id dto payment key result now) result
            (db.refunded payment.id + dto.amount) now n = [] := if_neg fun h => hsuccess h.1
        have hstatus : (newRefund id dto payment key result now).status ≠ .succeeded := by
          simp [newRefund, hsuccess]
        exact ⟨_, _, rfl, rfl, hentries ▸ .refused hstatus hnew⟩
  | _ => exact ⟨[], [], by simp, by simp, .nothing⟩

theorem entriesOf_append {filter : EntryFilter} :
    entriesOf (ledger ++ entries) filter = entriesOf ledger filter ++ entriesOf entries filter := by
  simp [entriesOf]

theorem totalOf_append {direction : LedgerDirection} {id currency : String} :
    totalOf direction id currency (ledger ++ entries) =
      totalOf direction id currency ledger + totalOf direction id currency entries := by
  simp [totalOf]

theorem isPair_paymentEntries {payment : Payment} {referenceId : String} {now : Nat} :
    IsPair payment.amount
      (entriesOf (paymentEntries payment referenceId now) (.ofPayment payment.id)) := by
  have hall : entriesOf (paymentEntries payment referenceId now) (.ofPayment payment.id) =
      paymentEntries payment referenceId now := by
    simp [entriesOf, paymentEntries, paymentEntry, EntryFilter.selects]
  rw [hall]
  exact ⟨_, _, rfl, rfl, rfl, rfl, rfl⟩

theorem isPair_refundEntries {payment : Payment} {refund : Refund} {now : Nat} :
    IsPair refund.amount (entriesOf (refundEntries payment refund now) (.ofRefund refund.id)) := by
  have hall : entriesOf (refundEntries payment refund now) (.ofRefund refund.id) =
      refundEntries payment refund now := by
    simp [entriesOf, refundEntries, refundEntry, EntryFilter.selects]
  rw [hall]
  exact ⟨_, _, rfl, rfl, rfl, rfl, rfl⟩

/-- A posting debits what it credits. -/
theorem Posting.balanced (h : Posting db entries refunds) (id currency : String) :
    totalOf .debit id currency entries = totalOf .credit id currency entries := by
  cases h with
  | nothing => rfl
  | refused => rfl
  | @capture payment =>
      by_cases hsame : payment.id = id ∧ payment.currency = currency
      · simp [totalOf, paymentEntries, paymentEntry, hsame.1, hsame.2]
      · have hone : (payment.id = id && payment.currency = currency) = false := by simpa using hsame
        simp [totalOf, paymentEntries, paymentEntry, Bool.and_assoc, hone]
  | @refund payment refund =>
      by_cases hsame : payment.id = id ∧ payment.currency = currency
      · simp [totalOf, refundEntries, refundEntry, hsame.1, hsame.2]
      · have hone : (payment.id = id && payment.currency = currency) = false := by simpa using hsame
        simp [totalOf, refundEntries, refundEntry, Bool.and_assoc, hone]

theorem Posting.ofPayment (h : Posting db entries refunds) {p : Payment}
    (hp : db.payment p.id = some p) :
    entriesOf entries (.ofPayment p.id) = [] ∨
      (entriesOf db.ledger (.ofPayment p.id) = [] ∧
        IsPair p.amount (entriesOf entries (.ofPayment p.id))) := by
  cases h with
  | nothing => exact .inl rfl
  | refused => exact .inl rfl
  | @capture payment referenceId now hfound hnone =>
      by_cases hid : payment.id = p.id
      · rw [hid, hp, Option.some.injEq] at hfound
        subst hfound
        exact .inr ⟨hnone, isPair_paymentEntries⟩
      · exact .inl (by simp [entriesOf, paymentEntries, paymentEntry, EntryFilter.selects, hid])
  | refund => exact .inl (by simp [entriesOf, refundEntries, refundEntry, EntryFilter.selects])

/-- The entries of a payment that is not there are not added to. -/
theorem Posting.ofPayment_none (h : Posting db entries refunds) {id : String}
    (hnone : db.payment id = none) : ∀ entry ∈ entries, entry.paymentId ≠ id := by
  intro entry hentry heq
  cases h with
  | nothing => cases hentry
  | refused => cases hentry
  | @capture payment referenceId now hfound =>
      have hid : entry.paymentId = payment.id := by
        simp only [paymentEntries, List.mem_cons, List.not_mem_nil, or_false] at hentry
        rcases hentry with rfl | rfl <;> rfl
      rw [← hid, heq, hnone] at hfound
      cases hfound
  | @refund payment refund now hfound =>
      have hid : entry.paymentId = payment.id := by
        simp only [refundEntries, List.mem_cons, List.not_mem_nil, or_false] at hentry
        rcases hentry with rfl | rfl <;> rfl
      rw [← hid, heq, hnone] at hfound
      cases hfound

/-- Only a refund that is new and succeeded gets entries. -/
theorem Posting.ofRefund (h : Posting db entries refunds) {id : String}
    (hold : (∃ other ∈ db.refunds, other.id = id) ∨
      ∀ refund ∈ refunds, refund.id = id → refund.status ≠ .succeeded) :
    entriesOf entries (.ofRefund id) = [] := by
  cases h with
  | nothing => rfl
  | refused => rfl
  | capture => simp [entriesOf, paymentEntries, paymentEntry, EntryFilter.selects]
  | @refund payment refund now hfound hstatus hnew =>
      have hne : refund.id ≠ id := by
        intro heq
        rcases hold with ⟨other, hother, hid⟩ | hnone
        · exact hnew other hother (hid.trans heq.symm)
        · exact hnone refund (List.mem_singleton_self refund) heq hstatus
      simp [entriesOf, refundEntries, refundEntry, EntryFilter.selects, hne]

/-! ## The invariant -/

structure Ledgered (db : Database) : Prop extends DoubleEntry db where
  ids : (db.payments.map Payment.id).Nodup
  bare : ∀ id, db.payment id = none → ∀ entry ∈ db.ledger, entry.paymentId ≠ id
  refs : ∀ entry ∈ db.ledger, ∀ refundId, entry.refundId = some refundId →
    ∃ refund ∈ db.refunds, refund.id = refundId

theorem entriesOf_bare {id : String} (h : ∀ entry ∈ ledger, entry.paymentId ≠ id) :
    entriesOf ledger (.ofPayment id) = [] := by
  refine List.filter_eq_nil_iff.mpr fun entry hentry => ?_
  simp [EntryFilter.selects, h entry hentry]

theorem Moves.amount {total : Nat} {p p' : Payment} (h : Moves failed total p p') :
    p'.id = p.id ∧ p'.amount = p.amount := by
  cases h <;> exact ⟨rfl, rfl⟩

theorem Posting.refs (h : Posting db entries refunds) :
    ∀ entry ∈ entries, ∀ refundId, entry.refundId = some refundId →
      ∃ refund ∈ refunds, refund.id = refundId := by
  intro entry hentry refundId heq
  cases h with
  | nothing => cases hentry
  | refused => cases hentry
  | capture =>
      simp only [paymentEntries, List.mem_cons, List.not_mem_nil, or_false] at hentry
      rcases hentry with rfl | rfl <;> cases heq
  | @refund payment refund =>
      simp only [refundEntries, List.mem_cons, List.not_mem_nil, or_false] at hentry
      rcases hentry with rfl | rfl <;> exact ⟨refund, by simp, Option.some.inj heq⟩

theorem Ledgered.step (hinv : Ledgered db) (h : RowStep db created failed db') : Ledgered db' := by
  obtain ⟨entries, refunds, hledger, hrefunds, hposting⟩ := h.posts hinv.refs
  have hbare : ∀ id, db.payment id = none → ∀ entry ∈ db'.ledger, entry.paymentId ≠ id := by
    intro id hnone entry hentry
    rw [hledger] at hentry
    rcases List.mem_append.mp hentry with hold | hnew
    · exact hinv.bare id hnone entry hold
    · exact hposting.ofPayment_none hnone entry hnew
  have hids : (db'.payments.map Payment.id).Nodup := ids_nodup h hinv.ids
  refine ⟨⟨?_, ?_, ?_, ?_⟩, hids, ?_, ?_⟩
  · intro p' hmem
    have hp' : db'.payment p'.id = some p' := Table.find_of_mem hids hmem
    cases hp : db.payment p'.id with
    | none => exact .inl (entriesOf_bare (hbare p'.id hp))
    | some p =>
        obtain ⟨p'', hp'', hmoves⟩ := h.moves hp
        rw [hp', Option.some.injEq] at hp''
        subst hp''
        obtain ⟨hid, hamount⟩ := hmoves.amount
        rw [hid] at hp
        rw [hid, hamount, hledger, entriesOf_append]
        have hbefore := hinv.payments p (Table.mem_of_find hp).1
        rcases hposting.ofPayment hp with hnone | ⟨hfirst, hpair⟩
        · rw [hnone, List.append_nil]
          exact hbefore
        · rw [hfirst, List.nil_append]
          exact .inr hpair
  · intro refund hmem hstatus
    rw [hledger, entriesOf_append]
    rw [hrefunds] at hmem
    rcases List.mem_append.mp hmem with hold | hnew
    · rw [hposting.ofRefund (.inl ⟨refund, hold, rfl⟩), List.append_nil]
      exact hinv.refunds refund hold hstatus
    · cases hposting with
      | nothing => cases hnew
      | capture => cases hnew
      | refused hfailed =>
          cases List.mem_singleton.mp hnew
          exact absurd hstatus hfailed
      | @refund payment refund' now hfound hsucceeded hfresh =>
          cases List.mem_singleton.mp hnew
          rw [entriesOf_eq_nil.mpr (countP_new_refund hinv.refs hfresh), List.nil_append]
          exact isPair_refundEntries
  · intro id hnone
    rw [hrefunds] at hnone
    have hold : entriesOf db.ledger (.ofRefund id) = [] :=
      hinv.others id fun refund hmem => hnone refund (List.mem_append_left _ hmem)
    have hnew : entriesOf entries (.ofRefund id) = [] :=
      hposting.ofRefund (.inr fun refund hmem => hnone refund (List.mem_append_right _ hmem))
    rw [hledger, entriesOf_append, hold, hnew]
    rfl
  · intro id currency
    rw [hledger, totalOf_append, totalOf_append, hinv.totals, hposting.balanced]
  · intro id hnone
    refine hbare id ?_
    cases hp : db.payment id with
    | none => rfl
    | some p =>
        obtain ⟨p', hp', -⟩ := h.moves hp
        rw [hnone] at hp'
        cases hp'
  · intro entry hentry refundId heq
    rw [hledger] at hentry
    rw [hrefunds]
    rcases List.mem_append.mp hentry with hold | hnew
    · obtain ⟨refund, hmem, hid⟩ := hinv.refs entry hold refundId heq
      exact ⟨refund, List.mem_append_left _ hmem, hid⟩
    · obtain ⟨refund, hmem, hid⟩ := hposting.refs entry hnew refundId heq
      exact ⟨refund, List.mem_append_right _ hmem, hid⟩

theorem ledgered_init {now : Nat} : Ledgered (World.init now).db where
  payments _ hmem := absurd hmem List.not_mem_nil
  refunds _ hmem := absurd hmem List.not_mem_nil
  others _ _ := rfl
  totals _ _ := rfl
  ids := List.nodup_nil
  bare _ _ _ hmem := absurd hmem List.not_mem_nil
  refs _ hmem := absurd hmem List.not_mem_nil

/-- In a serial run, whatever fails, the ledger is made of the pairs of the captures and of the
refunds that succeeded. -/
theorem ledger_structure {now : Nat} {ms : List (Move Request Choice)} {es : List Event}
    {P : ServicePool} (hrun : service.run ms (Pool.init (World.init now)) = some (es, P))
    (hserial : service.serial ms (Pool.init (World.init now)) = true) :
    ∀ e ∈ es, DoubleEntry e.after.db := by
  refine (run_serial_history (fun _ w => Ledgered w.db) (fun _ => True) _ ledgered_init ?_ ?_ hrun
    hserial fun _ _ => trivial).2
  · intro past w i request _ hinv _ _
    exact ⟨hinv, hinv.toDoubleEntry⟩
  · intro past i c op r w w' t hstep hinv _
    have hinv' : Ledgered w'.db := hinv.step (hstep.rows hinv.ids)
    exact ⟨hinv', hinv'.toDoubleEntry⟩

/-- A payment that is confirmed and refunded in part has four entries. -/
theorem ledger_structure_refunded :
    ∃ (es : List Event) (P : ServicePool),
      service.run partlyRefunded (Pool.init (World.init 0)) = some (es, P) ∧
      P.state.db.ledger.length = 4 ∧ ∀ e ∈ es, DoubleEntry e.after.db := by
  have hrun : (service.run partlyRefunded (Pool.init (World.init 0))).any
      (fun result => result.2.state.db.ledger.length = 4) = true := by decide +kernel
  obtain ⟨es, P, hrun, hlength⟩ := System.exists_run hrun
  exact ⟨es, P, hrun, of_decide_eq_true hlength, ledger_structure hrun (by decide +kernel)⟩

end FlightBookings.Payment
