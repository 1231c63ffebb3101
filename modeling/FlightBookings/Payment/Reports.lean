import FlightBookings.Payment.Database

/-! # Ledger reports

A report lists the newest entries of the ledger that satisfy some filters. The statement applies the
lower bound of the time and cuts the list off; the upper bound is applied to what it returns.
-/

namespace FlightBookings.Payment

/-! ## Cutting off and filtering -/

section Cut

variable {α : Type} {rows : List α} {n : Nat} {p q : α → Bool}

theorem filter_take_iff : (rows.take n).filter p = (rows.filter p).take n ↔
    (∀ x ∈ rows.take n, p x = true) ∨ ∀ x ∈ rows.drop n, p x = false := by
  have hsplit : rows.filter p = (rows.take n).filter p ++ (rows.drop n).filter p := by
    rw [← List.filter_append, List.take_append_drop]
  have hshort : ((rows.take n).filter p).length ≤ n :=
    Nat.le_trans (List.length_filter_le _ _) (List.length_take_le _ _)
  rw [hsplit, List.take_append, List.take_of_length_le hshort]
  constructor
  · intro h
    rw [or_iff_not_imp_left]
    intro hsome
    have hroom : ((rows.take n).filter p).length < n := by
      have hlt : ((rows.take n).filter p).length < (rows.take n).length :=
        Nat.lt_of_le_of_ne (List.length_filter_le _ _)
          fun heq => hsome (List.length_filter_eq_length_iff.mp heq)
      exact Nat.lt_of_lt_of_le hlt (List.length_take_le _ _)
    have hnil := List.append_right_eq_self.mp h.symm
    rcases List.take_eq_nil_iff.mp hnil with hzero | hnone
    · exact absurd hzero (Nat.sub_ne_zero_of_lt hroom)
    · intro x hx
      simpa using List.filter_eq_nil_iff.mp hnone x hx
  · rintro (hall | hnone)
    · have hkept : (rows.take n).filter p = rows.take n := List.filter_eq_self.mpr hall
      rw [hkept]
      by_cases hlength : n ≤ rows.length
      · rw [List.length_take_of_le hlength, Nat.sub_self, List.take_zero, List.append_nil]
      · rw [List.drop_eq_nil_of_le (Nat.le_of_lt (Nat.lt_of_not_le hlength)), List.filter_nil,
          List.take_nil, List.append_nil]
    · have hrest : (rows.drop n).filter p = [] :=
        List.filter_eq_nil_iff.mpr fun x hx => by rw [hnone x hx]; exact Bool.false_ne_true
      rw [hrest, List.take_nil, List.append_nil]

/-- To filter the first rows by a part of a condition is to take the first ones that satisfy it
exactly when the other part rejects none of them, and the cut loses no row. -/
theorem filter_take_iff_of_imp (hpq : ∀ x, p x = true → q x = true) :
    (rows.take n).filter q = (rows.filter p).take n ↔
      (∀ x ∈ rows.take n, q x = true → p x = true) ∧
        ((∀ x ∈ rows.take n, p x = true) ∨ ∀ x ∈ rows.drop n, p x = false) := by
  have hsame (h : ∀ x ∈ rows.take n, q x = true → p x = true) :
      (rows.take n).filter q = (rows.take n).filter p :=
    List.filter_congr fun x hx => Bool.eq_iff_iff.mpr ⟨h x hx, hpq x⟩
  constructor
  · intro h
    have himp : ∀ x ∈ rows.take n, q x = true → p x = true := by
      intro x hx hq
      have hmem : x ∈ (rows.filter p).take n := h ▸ List.mem_filter.mpr ⟨hx, hq⟩
      exact (List.mem_filter.mp (List.mem_of_mem_take hmem)).2
    exact ⟨himp, filter_take_iff.mp ((hsame himp).symm.trans h)⟩
  · intro h
    exact (hsame h.1).trans (filter_take_iff.mpr h.2)

end Cut

/-! ## Entries and queries -/

structure LedgerRow where
  id : String
  paymentId : Option String
  refundId : Option String
  bookingId : Int
  accountCode : String
  entryType : LedgerEntryType
  direction : LedgerDirection
  amount : Int
  currency : String
  referenceType : String
  referenceId : String
  description : Option String
  occurredAt : Int
  createdAt : Int
deriving DecidableEq

def LedgerEntryType.text : LedgerEntryType → String
  | .payment => "payment"
  | .refund => "refund"

/-- A limit, where there is one, is at least 1. -/
structure QueryLedgerEntriesDto where
  bookingId : Option Int := none
  paymentId : Option String := none
  entryType : Option String := none
  «from» : Option String := none
  «to» : Option String := none
  limit : Option Nat := some 50
  limit_min : ∀ n ∈ limit, 1 ≤ n

def LedgerEntryType.ofText (text : String) : Option LedgerEntryType :=
  [.payment, .refund].find? fun entryType => entryType.text = text

/-- The type of the column `entry_type`: the enumeration of the entity, or the `varchar` of the
migration. -/
inductive EntryTypeColumn where
  | enumeration
  | varchar
deriving DecidableEq

/-- An enumeration is compared with its own members only. -/
def EntryTypeColumn.reads : EntryTypeColumn → String → Bool
  | .enumeration, text => (LedgerEntryType.ofText text).isSome
  | .varchar, _ => true

/-- How texts are read: a date by `new Date(text).getTime()`, unless it is an invalid one, and a UUID
by the database, which refuses any other text. Nothing is assumed about either, nor about how the
table was made. -/
structure Readings where
  date : String → Option Int
  uuid : String → Option String
  entryType : EntryTypeColumn

/-- The integers that a column of type `integer` is compared with. -/
def isInt4 (n : Int) : Bool := -2147483648 ≤ n && n ≤ 2147483647

def invalidInput : Exception := .error "invalid input for the type of the column"

/-- A text for which `if (text)` holds. -/
def givenText (value : Option String) : Option String := value.filter fun s => s ≠ ""

/-- A number for which `if (number)` holds. -/
def givenNumber (value : Option Int) : Option Int := value.filter fun n => n ≠ 0

def newestFirst (a b : LedgerRow) : Bool :=
  b.occurredAt < a.occurredAt || (b.occurredAt = a.occurredAt && b.createdAt ≤ a.createdAt)

/-- The ledger in the order of the report. -/
def inOrder (ledger : List LedgerRow) : List LedgerRow := ledger.mergeSort newestFirst

/-- The report is a list of the ledger from the newest entry to the oldest. -/
theorem inOrder_spec (ledger : List LedgerRow) :
    (inOrder ledger).Perm ledger ∧
      (inOrder ledger).Pairwise fun a b =>
        b.occurredAt < a.occurredAt ∨ (b.occurredAt = a.occurredAt ∧ b.createdAt ≤ a.createdAt) := by
  refine ⟨List.mergeSort_perm _ _, ?_⟩
  have htrans : ∀ a b c, newestFirst a b = true → newestFirst b c = true → newestFirst a c = true := by
    simp only [newestFirst, Bool.or_eq_true, Bool.and_eq_true, decide_eq_true_iff]
    omega
  have htotal : ∀ a b, (newestFirst a b || newestFirst b a) = true := by
    simp only [newestFirst, Bool.or_eq_true, Bool.and_eq_true, decide_eq_true_iff]
    omega
  refine (List.pairwise_mergeSort htrans htotal ledger).imp fun h => ?_
  simpa only [newestFirst, Bool.or_eq_true, Bool.and_eq_true, decide_eq_true_iff] using h

section Reports

variable (readings : Readings)

def since (text : String) (row : LedgerRow) : Bool :=
  (readings.date text).any fun lower => lower ≤ row.occurredAt

/-- Nothing is less than the time of an invalid date, or equal to it. -/
def upTo (text : String) (row : LedgerRow) : Bool :=
  (readings.date text).any fun upper => row.occurredAt ≤ upper

def ofPaymentText (text : String) (row : LedgerRow) : Bool :=
  (readings.uuid text).any fun id => row.paymentId = some id

/-- Whether the database can read the parameters of the statement. -/
def readable (query : QueryLedgerEntriesDto) : Bool :=
  (givenNumber query.bookingId).all isInt4 &&
    (givenText query.paymentId).all (fun s => (readings.uuid s).isSome) &&
    (givenText query.entryType).all readings.entryType.reads &&
    (givenText query.from).all (fun s => (readings.date s).isSome) &&
    query.limit.getD 50 < 2 ^ 63

/-- The conditions of the statement. -/
def QueryLedgerEntriesDto.selects (query : QueryLedgerEntriesDto) (row : LedgerRow) : Bool :=
  (givenNumber query.bookingId).all (fun n => row.bookingId = n) &&
    (givenText query.paymentId).all (fun s => ofPaymentText readings s row) &&
    (givenText query.entryType).all (fun s => row.entryType.text = s) &&
    (givenText query.from).all (fun s => since readings s row)

/-- `query.limit || 50` -/
def QueryLedgerEntriesDto.take (query : QueryLedgerEntriesDto) : Nat := query.limit.getD 50

def getLedgerEntries (query : QueryLedgerEntriesDto) (ledger : List LedgerRow) :
    Except Exception (List LedgerRow) := do
  if !readable readings query then
    throw invalidInput
  let entries := ((inOrder ledger).filter (query.selects readings)).take query.take
  match givenText query.to with
  | none => return entries
  | some upper => return entries.filter (upTo readings upper)

/-! ## Exact reports -/

/-- An entry satisfies every filter that is given. -/
def QueryLedgerEntriesDto.satisfiedBy (query : QueryLedgerEntriesDto) (row : LedgerRow) : Bool :=
  query.bookingId.all (fun n => row.bookingId = n) &&
    query.paymentId.all (fun s => ofPaymentText readings s row) &&
    query.entryType.all (fun s => row.entryType.text = s) &&
    query.from.all (fun s => since readings s row) &&
    query.to.all (fun s => upTo readings s row)

/-- The report holds the newest entries that satisfy every filter, as many as were asked for. -/
def Exact (query : QueryLedgerEntriesDto) (ledger : List LedgerRow) : Prop :=
  getLedgerEntries readings query ledger =
    .ok (((inOrder ledger).filter (query.satisfiedBy readings)).take query.take)

/-- The entries that the statement selects, before it cuts them off. -/
def selected (query : QueryLedgerEntriesDto) (ledger : List LedgerRow) : List LedgerRow :=
  (inOrder ledger).filter (query.selects readings)

/-- The filter that is left for what the statement returns. -/
def notLater (query : QueryLedgerEntriesDto) (row : LedgerRow) : Bool :=
  (givenText query.to).all fun s => upTo readings s row

variable {readings} {query : QueryLedgerEntriesDto} {ledger : List LedgerRow} {row : LedgerRow}

theorem all_filter {α : Type} {value : Option α} {keep test : α → Bool}
    (h : value.all test = true) : (value.filter keep).all test = true := by
  cases value with
  | none => rfl
  | some a =>
      rw [Option.filter_some]
      split
      · exact h
      · rfl

theorem selects_of_satisfiedBy (h : query.satisfiedBy readings row = true) :
    query.selects readings row = true := by
  simp only [QueryLedgerEntriesDto.satisfiedBy, Bool.and_eq_true] at h
  obtain ⟨⟨⟨⟨hbooking, hpayment⟩, hentry⟩, hfrom⟩, -⟩ := h
  simp only [QueryLedgerEntriesDto.selects, Bool.and_eq_true]
  exact ⟨⟨⟨all_filter hbooking, all_filter hpayment⟩, all_filter hentry⟩, all_filter hfrom⟩

theorem notLater_of_satisfiedBy (h : query.satisfiedBy readings row = true) :
    notLater readings query row = true := by
  simp only [QueryLedgerEntriesDto.satisfiedBy, Bool.and_eq_true] at h
  exact all_filter h.2

theorem getLedgerEntries_readable (h : readable readings query = true) :
    getLedgerEntries readings query ledger =
      .ok (((selected readings query ledger).take query.take).filter (notLater readings query)) := by
  unfold getLedgerEntries notLater
  rw [h]
  cases givenText query.to with
  | none =>
      simp only [Option.all_none, List.filter_true]
      rfl
  | some upper => rfl

theorem getLedgerEntries_unreadable (h : readable readings query = false) :
    getLedgerEntries readings query ledger = .error invalidInput := by
  unfold getLedgerEntries
  rw [h]
  rfl

end Reports

/-! ## A late entry -/

def entryAt (id : String) (at_ : Int) : LedgerRow :=
  { id := id
    paymentId := none
    refundId := none
    bookingId := 1
    accountCode := "asset:gateway_clearing"
    entryType := .payment
    direction := .debit
    amount := 100
    currency := "USD"
    referenceType := "payment"
    referenceId := "p1"
    description := none
    occurredAt := at_
    createdAt := at_ }

/-- One entry up to the first millisecond is asked for. -/
def earlyQuery : QueryLedgerEntriesDto where
  «to» := some "1970-01-01T00:00:00.001Z"
  limit := some 1
  limit_min := by simp

end FlightBookings.Payment
