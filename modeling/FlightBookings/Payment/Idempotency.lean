import FlightBookings.Payment.Refunds

/-! # Completed keys

A completed key keeps its record, and the calls under it replay its response or
report a conflict, as long as no error path overwrites the record and no two
transactions retry the key at a time.
-/

namespace FlightBookings.Payment

open Await

variable {past : List Event} {i j : Nat} {c : Choice} {op : Op} {r : Except Exception op.Ret}
variable {w w' : World} {t : CallLog} {log rest claim : List Entry} {db : Database} {k k' : KeyRef}

/-! ## Retries -/

/-- The key that an open transaction has found without a response. -/
def retryOf : List Entry → Option KeyRef
  | .query (.findKey k) (some record) :: _ => if record.Final then none else some k
  | _ => none

/-- A call looks up a key without a response while another open transaction retries it. -/
def Event.retriesTogether (k : KeyRef) : Event → Bool
  | .performed w i c (.sql (.findKey k')) _ =>
      c.fails.isNone && k' = k && (w.db.key k).any (fun record => !decide record.Final) &&
        w.journal.any fun entry =>
          entry.1 ≠ i && retryOf (Journal.entries entry.1 w.journal) = some k
  | _ => false

def Unfinished (db : Database) (k : KeyRef) : Prop :=
  ∃ record, db.key k = some record ∧ ¬record.Final

/-- Whoever has claimed the key finds it as he left it: it does not exist, or it has no response and
nobody else retries it. -/
structure Claimed (k : KeyRef) (w : World) : Prop where
  fresh : ∀ i record, .query (.insertKey record) () ∈ Journal.entries i w.journal →
    record.ref = k → w.db.key k = none
  retried : ∀ i, retryOf (Journal.entries i w.journal) = some k → Unfinished w.db k
  alone : ∀ i j, retryOf (Journal.entries i w.journal) = some k →
    retryOf (Journal.entries j w.journal) = some k → i = j

/-- A claim starts with an insertion or a retry. -/
theorem Claim.cases (h : Claim k claim) :
    (∃ record, .query (.insertKey record) () ∈ claim ∧ record.ref = k) ∨
      ∀ rest, retryOf (claim ++ rest) = some k := by
  cases h with
  | @fresh record href => exact .inl ⟨record, by simp, href⟩
  | kept href hopen => exact .inr fun rest => if_neg hopen
  | restored href hopen => exact .inr fun rest => if_neg hopen

theorem retryOf_append (h : log ≠ []) (entry : Entry) : retryOf (log ++ [entry]) = retryOf log := by
  cases log with
  | nil => exact absurd rfl h
  | cons head tail =>
      cases head with
      | stripe op reply => rfl
      | query q reply =>
          cases q with
          | findKey k' => cases reply <;> rfl
          | _ => rfl

/-- A transaction that writes the key has claimed it. -/
theorem Claimed.unfinished (hinv : Claimed k w) {request : Request} (h : Shape request log)
    (hown : Journal.entries i w.journal = log)
    (hwrites : (applyAll log db).key k ≠ db.key k) :
    keyOf log = some k ∧ ((w.db.key k = none ∧
      ∃ record, .query (.insertKey record) () ∈ log ∧ record.ref = k) ∨
        (Unfinished w.db k ∧ retryOf log = some k)) := by
  obtain ⟨k', hkey, honly⟩ := h.writesOnly
  have heq : k = k' := by
    by_cases heq : k = k'
    · exact heq
    · exact absurd (key_applyAll honly heq db) hwrites
  subst heq
  refine ⟨hkey, ?_⟩
  rcases h.claims with ⟨k', record, rfl⟩ | ⟨k', claim, rest, state, hkey', hclaim, hlog, -, -⟩
  · exact absurd rfl hwrites
  · rw [hkey, Option.some.injEq] at hkey'
    rw [List.append_assoc] at hlog
    subst hkey' hlog
    rcases hclaim.cases with ⟨record, hinsert, href⟩ | hretry
    · have hmem := List.mem_append_left (rest ++ [.query (.updateKey k state) ()]) hinsert
      exact .inl ⟨hinv.fresh i record (hown ▸ hmem) href, record, hmem, href⟩
    · exact .inr ⟨hinv.retried i (hown ▸ hretry _), hretry _⟩

/-- A retry is old, or starts with a look at the record as it is. -/
theorem Step.retries (h : Step past i c op r w w' t)
    (hretry : retryOf (Journal.entries j w'.journal) = some k) :
    retryOf (Journal.entries j w.journal) = some k ∨
      (j = i ∧ op = .sql (.findKey k) ∧ c.fails = none ∧ Unfinished w.db k) := by
  by_cases hj : j = i
  · subst hj
    have hlegal := h.legal
    have hown := h.own
    have hadds : ∀ entry, Journal.entries j w.journal ≠ [] →
        retryOf (Journal.entries j (Journal.add j entry w.journal)) = some k →
        retryOf (Journal.entries j w.journal) = some k := by
      intro entry hne hretry
      rwa [Journal.entries_add_self, retryOf_append hne] at hretry
    cases h.performs with
    | passed _ hop hdb hjournal => exact .inl (hjournal ▸ hretry)
    | sql q hok =>
        by_cases hnil : Journal.entries j w.journal = []
        · right
          have hview : w.view j = w.db := by
            rw [World.view, hnil]
            rfl
          rw [Journal.entries_add_self, hnil, hview] at hretry
          cases q with
          | findKey k' =>
              cases hfound : w.db.key k' with
              | none =>
                  simp only [Query.read, hfound, List.nil_append, retryOf] at hretry
                  cases hretry
              | some record =>
                  simp only [Query.read, hfound, List.nil_append, retryOf] at hretry
                  split at hretry
                  · cases hretry
                  · rename_i hopen
                    cases hretry
                    exact ⟨rfl, rfl, hok, record, hfound, hopen⟩
          | _ => cases hretry
        · exact .inl (hadds _ hnil hretry)
    | stripe op =>
        by_cases hnil : Journal.entries j w.journal = []
        · rw [Journal.entries_add_self, hnil] at hretry
          cases hretry
        · exact .inl (hadds _ hnil hretry)
    | commit =>
        rw [Journal.entries_drop_self] at hretry
        cases hretry
    | rollback =>
        rw [Journal.entries_drop_self] at hretry
        cases hretry
    | _ => exact .inl hretry
  · rw [h.others hj] at hretry
    exact .inl hretry

/-- The record of a key changes when a transaction is committed that has claimed it, or when its
last use is marked as failed. -/
theorem Step.key_cases (h : Step past i c op r w w' t) (k : KeyRef) :
    w'.db.key k = w.db.key k ∨
      (op = .commit ∧ Shape t.request t.pending ∧ w'.db = applyAll t.pending w.db ∧
        Journal.entries i w'.journal = []) ∨
      ∃ state, op = .auto (.updateKey k state) ∧ c.fails = none ∧ state.status = .failed ∧
        w'.db.key k = (w.db.key k).map fun record => { record with toKeyState := state } := by
  have hlegal := h.legal
  have hown := h.own
  cases h.performs with
  | passed _ hop hdb => exact .inl (congrArg (Database.key · k) hdb)
  | commit =>
      right
      left
      refine ⟨rfl, hlegal.1, ?_, Journal.entries_drop_self⟩
      rw [← hown]
      rfl
  | auto q hok =>
      cases q with
      | insertKey record => exact hlegal.elim
      | updateKey k' state =>
          by_cases heq : k = k'
          · subst heq
            exact .inr (.inr ⟨state, rfl, hok, hlegal.2, key_updated.trans (if_pos rfl)⟩)
          · exact .inl (key_updated.trans (if_neg heq))
      | _ => exact .inl rfl
  | _ => exact .inl rfl

theorem unfinished_failed {state : KeyState} (hstate : state.status = .failed)
    (h : Unfinished db k)
    (hkey : w'.db.key k = (db.key k).map fun record => { record with toKeyState := state }) :
    Unfinished w'.db k := by
  obtain ⟨record, hrecord, -⟩ := h
  rw [hrecord] at hkey
  refine ⟨_, hkey, fun hfinal => ?_⟩
  have hcompleted : state.status = .completed := hfinal.1
  rw [hstate] at hcompleted
  cases hcompleted

/-- Where a key does not exist, only its owner can insert it. -/
theorem Claimed.fresh_after (hinv : Claimed k w) (h : Step past i c op r w w' t)
    {record : IdempotencyKey} (hmem : .query (.insertKey record) () ∈ Journal.entries j w'.journal)
    (href : record.ref = k) : w'.db.key k = none := by
  have hbefore : w.db.key k = none := by
    by_cases hj : j = i
    · subst hj
      have hlegal := h.legal
      have hown := h.own
      cases h.performs with
      | passed _ hop hdb hjournal => exact hinv.fresh j record (hjournal ▸ hmem) href
      | sql q hok hfree hvalid =>
          rw [Journal.entries_add_self] at hmem
          rcases List.mem_append.mp hmem with hold | hnew
          · exact hinv.fresh j record hold href
          · rw [List.mem_singleton] at hnew
            cases q with
            | insertKey record' =>
                cases hnew
                have hview : w.view j = w.db := by
                  rw [World.view, hown, hlegal.1]
                  rfl
                rw [hview, Query.violates, href] at hvalid
                simpa using hvalid
            | _ => cases hnew
      | stripe op =>
          rw [Journal.entries_add_self] at hmem
          rcases List.mem_append.mp hmem with hold | hnew
          · exact hinv.fresh j record hold href
          · cases List.mem_singleton.mp hnew
      | commit =>
          rw [Journal.entries_drop_self] at hmem
          cases hmem
      | rollback =>
          rw [Journal.entries_drop_self] at hmem
          cases hmem
      | _ => exact hinv.fresh j record hmem href
    · rw [h.others hj] at hmem
      exact hinv.fresh j record hmem href
  rcases h.key_cases k with hsame | ⟨rfl, hshape, hdb, hnil⟩ | ⟨state, -, -, -, hkey⟩
  · rw [hsame, hbefore]
  · have hj : j ≠ i := by
      intro heq
      subst heq
      rw [hnil] at hmem
      cases hmem
    rw [h.others hj] at hmem
    by_cases hwrites : (applyAll t.pending w.db).key k = w.db.key k
    · rw [hdb, hwrites, hbefore]
    · obtain ⟨-, ⟨-, record', hinsert, href'⟩ | ⟨⟨found, hfound, -⟩, -⟩⟩ :=
        hinv.unfinished hshape h.own hwrites
      · have hfree := h.sound.exclusive j i _ _ _ _ hj hmem (h.own ▸ hinsert)
        simp [Query.contends, href, href'] at hfree
      · rw [hbefore] at hfound
        cases hfound
  · rw [hkey, hbefore]
    rfl

theorem Claimed.step (hinv : Claimed k w) (h : Step past i c op r w w' t)
    (halone : Event.retriesTogether k (.performed w i c op w') = false) : Claimed k w' := by
  refine ⟨fun j record => hinv.fresh_after h, fun j hretry => ?_, fun j j' hj hj' => ?_⟩
  · have hbefore : Unfinished w.db k := by
      rcases h.retries hretry with hold | ⟨-, -, -, hopen⟩
      · exact hinv.retried j hold
      · exact hopen
    rcases h.key_cases k with hsame | ⟨rfl, hshape, hdb, hnil⟩ | ⟨state, -, -, hstatus, hkey⟩
    · rw [Unfinished, hsame]
      exact hbefore
    · by_cases hwrites : (applyAll t.pending w.db).key k = w.db.key k
      · rw [Unfinished, hdb, hwrites]
        exact hbefore
      · have hj : j ≠ i := by
          intro heq
          subst heq
          rw [hnil] at hretry
          cases hretry
        rw [h.others hj] at hretry
        obtain ⟨-, ⟨hnone, -⟩ | ⟨-, hretry'⟩⟩ := hinv.unfinished hshape h.own hwrites
        · obtain ⟨record, hrecord, -⟩ := hbefore
          rw [hnone] at hrecord
          cases hrecord
        · exact absurd (hinv.alone j i hretry (h.own ▸ hretry')) hj
    · exact unfinished_failed hstatus hbefore hkey
  · have hnew : ∀ {j j'}, retryOf (Journal.entries j w.journal) = some k → j' = i →
        op = .sql (.findKey k) → c.fails = none → Unfinished w.db k → j = j' := by
      intro j j' hold hj' hop hok hopen
      subst hj' hop
      by_cases hne : j = j'
      · exact hne
      · obtain ⟨record, hrecord, hopen⟩ := hopen
        obtain ⟨entry, hentry⟩ : ∃ entry, entry ∈ Journal.entries j w.journal := by
          refine List.exists_mem_of_ne_nil _ fun hnil => ?_
          rw [hnil] at hold
          cases hold
        have hmem : (j, entry) ∈ w.journal := Journal.mem_entries.mp hentry
        have htogether : (w.journal.any fun entry =>
            entry.1 ≠ j' && retryOf (Journal.entries entry.1 w.journal) = some k) = true :=
          List.any_eq_true.mpr ⟨_, hmem, by simp [hne, hold]⟩
        simp only [Event.retriesTogether, hok, hrecord, htogether, Option.any_some, hopen] at halone
        simp at halone
    rcases h.retries hj with hold | ⟨hi, hop, hok, hopen⟩
    · rcases h.retries hj' with hold' | ⟨hi, hop, hok, hopen⟩
      · exact hinv.alone j j' hold hold'
      · exact hnew hold hi hop hok hopen
    · rcases h.retries hj' with hold' | ⟨hi', -, -, -⟩
      · exact (hnew hold' hi hop hok hopen).symm
      · rw [hi, hi']

/-- What a claim has found is still so. -/
theorem Claimed.still (hinv : Claimed k w) (hclaim : Claim k claim)
    (hentries : Journal.entries i w.journal = claim ++ rest) :
    (∀ record, w.db.key k = some record → ¬record.Final) ∧
      ((∃ record, .query (.insertKey record) () ∈ claim) ∨ (w.db.key k).isSome = true) := by
  rcases hclaim.cases with ⟨record', hinsert, href⟩ | hretry
  · have hmem : .query (.insertKey record') () ∈ Journal.entries i w.journal := by
      rw [hentries]
      exact List.mem_append_left _ hinsert
    have hnone : w.db.key k = none := hinv.fresh i record' hmem href
    refine ⟨fun record hrecord => ?_, .inl ⟨record', hinsert⟩⟩
    rw [hnone] at hrecord
    cases hrecord
  · have hretries : retryOf (Journal.entries i w.journal) = some k := by
      rw [hentries]
      exact hretry rest
    obtain ⟨found, hfound, hopen⟩ := hinv.retried i hretries
    refine ⟨fun record hrecord => ?_, .inr (hfound ▸ rfl)⟩
    rw [hfound, Option.some.injEq] at hrecord
    exact hrecord ▸ hopen

/-- A completed key keeps its record. -/
theorem Claimed.final (hinv : Claimed k w) (h : Step past i c op r w w' t)
    (hkept : Event.reopens k (.performed w i c op w') = false) {record : IdempotencyKey}
    (hrecord : w.db.key k = some record) (hfinal : record.Final) :
    w'.db.key k = some record := by
  rcases h.key_cases k with hsame | ⟨rfl, hshape, hdb, -⟩ | ⟨state, rfl, hok, -, -⟩
  · rw [hsame, hrecord]
  · by_cases hwrites : (applyAll t.pending w.db).key k = w.db.key k
    · rw [hdb, hwrites, hrecord]
    · obtain ⟨-, ⟨hnone, -⟩ | ⟨⟨found, hfound, hopen⟩, -⟩⟩ :=
        hinv.unfinished hshape h.own hwrites
      · rw [hnone] at hrecord
        cases hrecord
      · rw [hrecord, Option.some.injEq] at hfound
        exact absurd (hfound ▸ hfinal) hopen
  · simp [Event.reopens, hok, hrecord, hfinal] at hkept

/-! ## What is created under a key -/

/-- The number of payments or refunds that were created under a key. -/
def Database.created (db : Database) (k : KeyRef) : Nat :=
  match k.scope with
  | .createPaymentIntent => (db.payments.map Payment.correlationId).count k.idempotencyKey
  | .confirmPayment _ => 0
  | .refund paymentId =>
      db.refunds.countP fun refund =>
        refund.paymentId = paymentId && refund.idempotencyKey = k.idempotencyKey

theorem created_congr {db' : Database}
    (hpayments : db'.payments.map Payment.correlationId = db.payments.map Payment.correlationId)
    (hrefunds : db'.refunds = db.refunds) (k : KeyRef) : db'.created k = db.created k := by
  unfold Database.created
  rw [hpayments, hrefunds]

theorem correlationId_updated {id : String} {state : PaymentState} :
    (db.updated id state).map Payment.correlationId = db.payments.map Payment.correlationId := by
  rw [Database.updated, Table.modify, List.map_map]
  refine List.map_congr_left fun payment _ => ?_
  by_cases hid : payment.id = id <;> simp [hid]

/-- A transaction creates what its request asks for under the key that it has looked up. -/
theorem created_commit {request : Request} (h : Shape request log) (db : Database) (k : KeyRef) :
    (applyAll log db).created k = db.created k ∨
      (keyOf log = some k ∧ (applyAll log db).created k = db.created k + 1 ∧
        ∀ k' record, log ≠ replayedLog k' record) := by
  have hreplayed : ∀ {k claim rest}, Claim k claim → ∀ k' record,
      claim ++ rest ≠ replayedLog k' record := by
    intro k claim rest hclaim k' record heq
    cases hclaim <;> simp [replayedLog] at heq
  cases h with
  | replayed => exact .inl rfl
  | @created k' claim dto idempotencyKey intent id hnames hclaim hrequest =>
      obtain ⟨keys, hkeys⟩ := applyAll_created hclaim dto intent id db
      subst hrequest
      rw [hkeys]
      obtain ⟨scope, idempotencyKey⟩ := k
      cases scope with
      | createPaymentIntent =>
          by_cases hkey : k'.idempotencyKey = idempotencyKey
          · right
            have heq : k' = ⟨.createPaymentIntent, idempotencyKey⟩ := by
              cases k'
              simp only [KeyRef.mk.injEq]
              exact ⟨hnames.1, hkey⟩
            refine ⟨(keyOf_claim hclaim).trans (congrArg some heq), ?_, hreplayed hclaim⟩
            simp [Database.created, newPayment, hkey]
          · left
            simp [Database.created, newPayment, hkey]
      | _ => exact .inl rfl
  | @settled k' claim paymentId payment hnames hclaim =>
      obtain ⟨keys, hkeys⟩ := applyAll_settled hclaim paymentId payment db
      rw [hkeys]
      exact .inl rfl
  | @confirmed k' claim paymentId payment named answers result now n hnames hclaim hscope hid
      hunsettled hconfirms hcaptured =>
      obtain ⟨keys, hkeys⟩ := applyAll_confirmed hclaim hcaptured paymentId payment now n db
      rw [hkeys]
      refine .inl (created_congr ?_ ?_ k)
      · exact correlationId_updated
      · rfl
  | @refunded k' claim dto idempotencyKey payment total answers result id now n hnames hclaim
      hrequest hid hrefundable hbalance hanswered =>
      obtain ⟨keys, hkeys⟩ := applyAll_refunded hclaim hanswered dto payment total id now n db
      subst hrequest
      rw [hkeys]
      have hpayments : (db.refundedPayments payment result (total + dto.amount) now).map
          Payment.correlationId = db.payments.map Payment.correlationId := by
        unfold Database.refundedPayments
        split
        · exact correlationId_updated
        · rfl
      obtain ⟨scope, idempotencyKey⟩ := k
      cases scope with
      | refund paymentId =>
          by_cases hkey : payment.id = paymentId ∧ k'.idempotencyKey = idempotencyKey
          · right
            have heq : k' = ⟨.refund paymentId, idempotencyKey⟩ := by
              obtain ⟨scope, key⟩ := k'
              simp only [KeyRef.mk.injEq]
              exact ⟨hnames.1.trans (by rw [← hid, hkey.1]), hkey.2⟩
            refine ⟨(keyOf_claim hclaim).trans (congrArg some heq), ?_, hreplayed hclaim⟩
            simp [Database.created, newRefund, hkey.1, hkey.2]
          · left
            have hother : (payment.id = paymentId && k'.idempotencyKey = idempotencyKey) =
                false := by
              simpa using hkey
            simp [Database.created, newRefund, hother]
      | createPaymentIntent =>
          left
          simp only [Database.created, hpayments]
      | confirmPayment paymentId => exact .inl rfl

/-- What was created under a key, its record holds. -/
structure CreatedOnce (k : KeyRef) (w : World) : Prop where
  once : w.db.created k ≤ 1
  final : w.db.created k = 1 → ∃ record, w.db.key k = some record ∧ record.Final

theorem CreatedOnce.step (hinv : CreatedOnce k w) (hclaimed : Claimed k w)
    (h : Step past i c op r w w' t)
    (hkept : Event.reopens k (.performed w i c op w') = false) : CreatedOnce k w' := by
  have hsame : w'.db.created k = w.db.created k → CreatedOnce k w' := by
    intro heq
    refine ⟨heq ▸ hinv.once, fun hone => ?_⟩
    obtain ⟨record, hrecord, hfinal⟩ := hinv.final (heq ▸ hone)
    exact ⟨record, hclaimed.final h hkept hrecord hfinal, hfinal⟩
  have hlegal := h.legal
  have hown := h.own
  cases h.performs with
  | passed _ hop hdb => exact hsame (congrArg (Database.created · k) hdb)
  | commit =>
      have hview : w.view i = applyAll t.pending w.db := by rw [World.view, hown]
      rcases created_commit hlegal.1 w.db k with heq | ⟨hkey, hmore, hreplayed⟩
      · refine hsame ?_
        show (w.view i).created k = _
        rw [hview, heq]
      · -- the claim found the key without a response, so nothing was created under it
        rcases hlegal.1.claims with ⟨k', record, hlog⟩ |
          ⟨k', claim, rest, state, hkey', hclaim, hlog, hcompleted, hbody⟩
        · exact absurd hlog (hreplayed k' record)
        · rw [hkey, Option.some.injEq] at hkey'
          subst hkey'
          have hentries : Journal.entries i w.journal =
              claim ++ (rest ++ [.query (.updateKey k state) ()]) := by
            rw [hown, hlog, List.append_assoc]
          obtain ⟨hopen, hfound⟩ := hclaimed.still hclaim hentries
          have hzero : w.db.created k = 0 := by
            have honce := hinv.once
            have hne : w.db.created k ≠ 1 := by
              intro hone
              obtain ⟨record, hrecord, hfinal⟩ := hinv.final hone
              exact hopen record hrecord hfinal
            omega
          refine ⟨?_, fun _ => ?_⟩
          · show (w.view i).created k ≤ 1
            exact Nat.le_of_eq (by rw [hview, hmore, hzero])
          · show ∃ record, (w.view i).key k = some record ∧ record.Final
            rw [hview, hlog]
            exact final_of_claim (key_isSome_claim hclaim hfound) hcompleted hbody rest
  | auto q =>
      refine hsame ?_
      cases q with
      | updatePayment id state =>
          refine created_congr ?_ ?_ k
          · exact correlationId_updated
          · rfl
      | insertPayment payment => exact hlegal.elim
      | insertRefund refund => exact hlegal.elim
      | _ => rfl
  | _ => exact hsame rfl

/-! ## The answers under a completed key -/

/-- The key, the payload and the text for a reused key of the requests that carry a key. -/
def Request.keyed : Request → Option (KeyRef × Payload × String)
  | .createPaymentIntent dto (some key) =>
      if key = "" then none
      else some (⟨.createPaymentIntent, key⟩, .createPaymentIntent dto, paymentReused key)
  | .confirmPaymentIntent paymentId gatewayPaymentId (some key) =>
      if key = "" then none
      else some (⟨.confirmPayment paymentId, key⟩, .confirmPayment paymentId gatewayPaymentId,
        paymentReused key)
  | .createRefund dto (some key) =>
      if key = "" then none
      else some (⟨.refund dto.paymentId, key⟩, .refund dto, refundReused key)
  | _ => none

/-- The processor that a payment is requested with is one of the registry. -/
def Request.resolves : Request → Bool
  | .createPaymentIntent dto _ => (Gateway.resolve dto.paymentMethod dto.gatewayOverride).isOk
  | _ => true

/-- The stored response for the same payload, a conflict for another one. -/
inductive Answers {α : Type} (record : IdempotencyKey) (payload : Payload) (reused : String)
    (respond : ResponseBody → α) : Except Exception α → Prop where
  | replayed {body : ResponseBody} (hpayload : payload = record.requestHash)
      (hbody : record.responseBody = some body) :
      Answers record payload reused respond (.ok (respond body))
  | reused (hpayload : payload ≠ record.requestHash) :
      Answers record payload reused respond (.error (.conflict reused))

def Op.asksGateway : Op → Bool
  | .stripe _ => true
  | _ => false

/-- A transaction that looks up the key finds this record. -/
def Finds (record : IdempotencyKey) : (op : Op) → Except Exception op.Ret → Prop
  | .sql (.findKey k), .ok found => k = record.ref → found = some record
  | _, _ => True

def noteError (op : Op) (r : Except Exception op.Ret) (failed : Bool) : Bool :=
  match r with
  | .ok _ => failed
  | .error _ => true

variable {record : IdempotencyKey} {payload : Payload} {reused : String} {α β : Type}

/-- A call that never asks the gateway, and whose result is as it should unless one of its
operations has failed. -/
abbrev Yields (record : IdempotencyKey) (c : Call α) (A : Except Exception α → Prop) : Prop :=
  ∀ failed, c.wp (tracked (fun op _ => op.asksGateway = false) (Finds record) noteError)
    (fun r _ failed' => (failed = true → failed' = true) ∧
      (A r ∨ (failed' = true ∧ ∃ e, r = .error e))) () failed

theorem Yields.pure {A : Except Exception α → Prop} {a : α} (h : A (.ok a)) :
    Yields record (Pure.pure a) A := fun _ => ⟨id, .inl h⟩

theorem Yields.throw {A : Except Exception α → Prop} {e : Exception} (h : A (.error e)) :
    Yields record (MonadExcept.throw e) A := fun _ => ⟨id, .inl h⟩

theorem Yields.await (op : Op) (hop : op.asksGateway = false) :
    Yields record (Call.await op) fun r => Finds record op r ∧ ∃ a, r = .ok a := by
  intro failed
  refine ⟨hop, fun r hr => ?_⟩
  cases r with
  | ok a => exact ⟨id, .inl ⟨hr, a, rfl⟩⟩
  | error e => exact ⟨fun _ => rfl, .inr ⟨rfl, e, rfl⟩⟩

theorem Yields.bind {c : Call β} {next : β → Call α} {B : Except Exception β → Prop}
    {A : Except Exception α → Prop} (hc : Yields record c B)
    (hnext : ∀ b, B (.ok b) → Yields record (next b) A)
    (herror : ∀ e, B (.error e) → A (.error e)) : Yields record (c >>= next) A := by
  intro failed
  rw [Call.wp_bind]
  refine Call.wp_mono (hc failed) fun r _ failed' h => ?_
  cases r with
  | ok b =>
      have hb : B (.ok b) := by
        rcases h.2 with hb | ⟨-, e, he⟩
        · exact hb
        · cases he
      refine Call.wp_mono (hnext b hb failed') fun r _ failed'' h' => ?_
      exact ⟨fun hfailed => h'.1 (h.1 hfailed), h'.2⟩
  | error e =>
      refine ⟨h.1, ?_⟩
      rcases h.2 with he | hfailed
      · exact .inl (herror e he)
      · exact .inr ⟨hfailed.1, e, rfl⟩

/-- A handler that throws its error again. -/
theorem Yields.rethrow {c : Call α} {handler : Exception → Call α} {A : Except Exception α → Prop}
    (hc : Yields record c A) (hhandler : ∀ e, Yields record (handler e) fun r => r = .error e) :
    Yields record (tryCatch c handler) A := by
  intro failed
  rw [Call.wp_tryCatch]
  refine Call.wp_mono (hc failed) fun r _ failed' h => ?_
  cases r with
  | ok a => exact h
  | error e =>
      refine Call.wp_mono (hhandler e failed') fun r _ failed'' h' => ?_
      refine ⟨fun hfailed => h'.1 (h.1 hfailed), ?_⟩
      rcases h'.2 with rfl | hfailed
      · rcases h.2 with he | ⟨hfailed, -⟩
        · exact .inl he
        · exact .inr ⟨h'.1 hfailed, e, rfl⟩
      · exact .inr hfailed

theorem yields_op (op : Op) (hop : op.asksGateway = false) :
    Yields record (Call.await op) fun r => ∃ a, r = .ok a := by
  intro failed
  refine Call.wp_mono (Yields.await op hop failed) fun r _ failed' h => ?_
  exact ⟨h.1, h.2.imp And.right id⟩

theorem yields_transaction {body : Call α} {A : Except Exception α → Prop}
    (h : Yields record body A) : Yields record (transaction body) A := by
  have hok : ∀ {op : Op} {e : Exception}, ¬∃ a : op.Ret, Except.error e = .ok a := by
    intro op e hok
    obtain ⟨a, ha⟩ := hok
    cases ha
  refine .rethrow (.bind (yields_op .begin rfl) (fun _ _ => .bind h (fun a ha => ?_) fun e he => he)
    fun e he => absurd he hok) fun e => ?_
  · exact .bind (yields_op .commit rfl) (fun _ _ => .pure ha) fun e he => absurd he hok
  · exact .bind (yields_op .rollback rfl) (fun _ _ => .throw rfl) fun e' he => absurd he hok

theorem yields_markingFailed {body : Call α} {A : Except Exception α → Prop}
    (h : Yields record body A) : Yields record (markingFailed k body) A := by
  have hok : ∀ {op : Op} {e : Exception}, ¬∃ a : op.Ret, Except.error e = .ok a := by
    intro op e hok
    obtain ⟨a, ha⟩ := hok
    cases ha
  refine .rethrow h fun e => ?_
  have hmark : Yields record (markIdempotencyAsFailed k e) fun r => r = .ok () := by
    refine .bind (yields_op (.auto (.findKey k)) rfl) (fun found _ => ?_)
      fun e' he => absurd he hok
    cases found with
    | none => exact .pure rfl
    | some found =>
        intro failed
        refine Call.wp_mono (yields_op (.auto (.updateKey k (failedState found e))) rfl failed)
          fun r _ failed' h => ?_
        refine ⟨h.1, h.2.imp (fun hr => ?_) id⟩
        obtain ⟨a, rfl⟩ := hr
        rfl
  exact .bind hmark (fun _ _ => .throw rfl) fun e' he => by cases he

/-- A completed key is claimed by nobody. -/
theorem yields_claim {processing : String} (hfinal : record.Final) (href : record.ref = k) :
    Yields record (claimIdempotency k payload reused processing)
      (Answers record payload reused some) := by
  obtain ⟨body, hbody⟩ := Option.isSome_iff_exists.mp hfinal.2
  subst href
  refine .bind (Yields.await (.sql (.findKey record.ref)) rfl) (fun found hfound => ?_)
    fun e he => ?_
  · have hrecord : found = some record := hfound.1 rfl
    subst hrecord
    dsimp only
    split
    · rename_i hother
      exact .throw (.reused fun heq => hother heq.symm)
    · rename_i hsame
      have hstored : record.status = .completed ∧ record.responseBody.isSome = true := hfinal
      rw [if_pos hstored, hbody]
      exact .pure (.replayed (not_not.mp hsame).symm hbody)
  · obtain ⟨-, a, ha⟩ := he
    cases ha

/-- What a call makes of an answer. -/
theorem Yields.answer {c : Call β} {next : β → Call α} {given : ResponseBody → β}
    {respond : ResponseBody → α} (hc : Yields record c (Answers record payload reused given))
    (hnext : ∀ body, next (given body) = Pure.pure (respond body)) :
    Yields record (c >>= next) (Answers record payload reused respond) := by
  refine .bind hc (fun b hb => ?_) fun e he => ?_
  · cases hb with
    | replayed hpayload hbody =>
        rw [hnext]
        exact .pure (.replayed hpayload hbody)
  · cases he with
    | reused hpayload => exact .reused hpayload

theorem safeKeyOf_some {key : String} (h : key ≠ "") : safeKeyOf (some key) = Pure.pure key := by
  simp [safeKeyOf, h]

theorem createPaymentIntent_yields {dto : CreatePaymentIntentDto} {key : String}
    (hfinal : record.Final) (href : record.ref = ⟨.createPaymentIntent, key⟩) (hkey : key ≠ "")
    (hresolves : (Gateway.resolve dto.paymentMethod dto.gatewayOverride).isOk = true) :
    Yields record (createPaymentIntent dto (some key))
      (Answers record (.createPaymentIntent dto) (paymentReused key) id) := by
  unfold createPaymentIntent
  rw [safeKeyOf_some hkey]
  cases hgateway : Gateway.resolve dto.paymentMethod dto.gatewayOverride with
  | error e => simp [hgateway, Except.isOk, Except.toBool] at hresolves
  | ok gateway =>
      have hbody : Yields record (createPaymentIntentBody dto key gateway)
          (Answers record (.createPaymentIntent dto) (paymentReused key) id) :=
        .answer (yields_claim hfinal href) fun body => rfl
      exact yields_markingFailed (yields_transaction hbody)

theorem confirmPaymentIntent_yields {paymentId key : String} {gatewayPaymentId : Option String}
    (hfinal : record.Final) (href : record.ref = ⟨.confirmPayment paymentId, key⟩)
    (hkey : key ≠ "") :
    Yields record (confirmPaymentIntent paymentId gatewayPaymentId (some key))
      (Answers record (.confirmPayment paymentId gatewayPaymentId) (paymentReused key) id) := by
  unfold confirmPaymentIntent
  rw [safeKeyOf_some hkey]
  have hbody : Yields record (confirmPaymentIntentBody paymentId gatewayPaymentId key)
      (Answers record (.confirmPayment paymentId gatewayPaymentId) (paymentReused key)
        fun body => (body, none)) :=
    .answer (yields_claim hfinal href) fun body => rfl
  exact yields_markingFailed (.answer (yields_transaction hbody) fun body => rfl)

theorem createRefund_yields {dto : CreateRefundDto} {key : String} (hfinal : record.Final)
    (href : record.ref = ⟨.refund dto.paymentId, key⟩) (hkey : key ≠ "") :
    Yields record (createRefund dto (some key))
      (Answers record (.refund dto) (refundReused key) id) := by
  unfold createRefund
  rw [safeKeyOf_some hkey]
  have hbody : Yields record (createRefundBody dto key)
      (Answers record (.refund dto) (refundReused key) id) :=
    .answer (yields_claim hfinal href) fun body => rfl
  exact yields_markingFailed (yields_transaction hbody)

theorem keyed_some {key : String} {found : KeyRef × Payload × String}
    (h : (if key = "" then none else some found) = some (k, payload, reused)) :
    key ≠ "" ∧ found = (k, payload, reused) := by
  split at h
  · cases h
  · rename_i hkey
    exact ⟨hkey, Option.some.inj h⟩

/-- The requests under a completed key. -/
theorem request_yields {request : Request} (hfinal : record.Final) (href : record.ref = k)
    (hkeyed : request.keyed = some (k, payload, reused)) (hresolves : request.resolves = true) :
    Yields record request.call (Answers record payload reused some) := by
  cases request with
  | createPaymentIntent dto idempotencyKey =>
      cases idempotencyKey with
      | none => cases hkeyed
      | some key =>
          obtain ⟨hkey, hfound⟩ := keyed_some hkeyed
          cases hfound
          exact .answer (createPaymentIntent_yields hfinal href hkey hresolves) fun _ => rfl
  | confirmPaymentIntent paymentId gatewayPaymentId idempotencyKey =>
      cases idempotencyKey with
      | none => cases hkeyed
      | some key =>
          obtain ⟨hkey, hfound⟩ := keyed_some hkeyed
          cases hfound
          exact .answer (confirmPaymentIntent_yields hfinal href hkey) fun _ => rfl
  | createRefund dto idempotencyKey =>
      cases idempotencyKey with
      | none => cases hkeyed
      | some key =>
          obtain ⟨hkey, hfound⟩ := keyed_some hkeyed
          cases hfound
          exact .answer (createRefund_yields hfinal href hkey) fun _ => rfl
  | _ => cases hkeyed

/-! ## Whole runs -/

def Event.asksGateway (i : Nat) : Event → Bool
  | .performed _ j _ op _ => j = i && op.asksGateway
  | _ => false

/-- An operation of a call fails, or violates a constraint. -/
def Event.errs (i : Nat) : Event → Bool
  | .performed w j c op _ => j = i && match performWith j c op w with
      | some (.error _, _) => true
      | _ => false
  | _ => false

/-- A completed key keeps its record, and the call `i` under it gets its answer from it, without
the gateway and, unless one of its operations fails, as the payload demands. -/
structure Finality (k : KeyRef) (record : IdempotencyKey) (payload : Payload) (reused : String)
    (i : Nat) (es : List Event) (P : ServicePool) : Prop where
  kept : ∀ e ∈ es, e.after.db.key k = some record
  noGateway : ∀ e ∈ es, e.asksGateway i = false
  answered : ∀ r, P.calls[i]? = some (.done (r, ())) →
    (∃ e ∈ es, e.errs i = true) ∨ Answers record payload reused some r
  once : ∀ e ∈ es, e.after.db.created k ≤ 1

/-- What holds of an event while a key is completed. -/
def Undisturbed (k : KeyRef) (record : IdempotencyKey) (e : Event) : Prop :=
  e.before.db.key k = some record ∧ e.after.db.key k = some record ∧
    e.after.db.created k ≤ 1 ∧
    ∀ s i c s', e = .performed s i c (.sql (.findKey k)) s' → Journal.entries i s.journal = []

variable {now : Nat} {ms ms' : List (Move Request Choice)} {es es' : List Event}
variable {P P' : ServicePool} {request : Request}

structure KeyInv (k : KeyRef) (w : World) : Prop where
  claimed : Claimed k w
  once : CreatedOnce k w

theorem not_retries_init : retryOf (Journal.entries i (World.init now).journal) ≠ some k := by
  have hnone : retryOf (Journal.entries i (World.init now).journal) = none := rfl
  rw [hnone]
  exact Option.some_ne_none k |>.symm

theorem keyInv_init : KeyInv k (World.init now) where
  claimed :=
    { fresh := fun _ _ hmem => absurd hmem List.not_mem_nil
      retried := fun _ hretry => absurd hretry not_retries_init
      alone := fun _ _ hretry => absurd hretry not_retries_init }
  once := by
    have hnone : (World.init now).db.created k = 0 := by
      unfold Database.created
      cases k.scope <;> rfl
    exact ⟨by omega, fun hone => by omega⟩

theorem KeyInv.step (hinv : KeyInv k w) (h : Step past i c op r w w' t)
    (hkept : Event.reopens k (.performed w i c op w') = false)
    (halone : Event.retriesTogether k (.performed w i c op w') = false) : KeyInv k w' :=
  ⟨hinv.claimed.step h halone, hinv.once.step hinv.claimed h hkept⟩

/-- While nothing disturbs a completed key, it stays as it is. -/
theorem run_undisturbed (hrun : service.run ms P = some (es, P'))
    (hP : Remembers (fun _ w => KeyInv k w) past P) (hrecord : P.state.db.key k = some record)
    (hfinal : record.Final)
    (hkept : ∀ e ∈ es, e.reopens k = false ∧ e.retriesTogether k = false) :
    ∀ e ∈ es, Undisturbed k record e := by
  have hP' : Remembers (fun _ w => KeyInv k w ∧ w.db.key k = some record) past P :=
    ⟨⟨hP.inv.1, hP.inv.2, hrecord⟩, hP.calls, hP.known⟩
  refine (run_history (fun _ w => KeyInv k w ∧ w.db.key k = some record)
    (fun e => e.reopens k = false ∧ e.retriesTogether k = false) (Undisturbed k record) ?_ ?_ hrun
    hkept hP').2
  · intro past w i request _ _ hinv _
    refine ⟨hinv, hinv.2, hinv.2, hinv.1.once.once, ?_⟩
    intro s i c s' h
    cases h
  · intro past i c op r w w' t hstep hinv hallows
    have hinv' : KeyInv k w' := hinv.1.step hstep hallows.1 hallows.2
    have hsame : w'.db.key k = some record := hinv.1.claimed.final hstep hallows.1 hinv.2 hfinal
    refine ⟨⟨hinv', hsame⟩, hinv.2, hsame, hinv'.once.once, ?_⟩
    intro s j c s' h
    cases h
    have hown := hstep.own
    rwa [hstep.legal.1] at hown

theorem finds_error {e : Exception} : Finds record op (.error e) := by
  cases op with
  | sql q => cases q <;> trivial
  | _ => trivial

theorem finds_local {reply : op.Ret} (hop : op.isLocal = true) : Finds record op (.ok reply) := by
  cases op with
  | sql q => cases hop
  | _ => trivial

/-- The record that a transaction finds under an undisturbed key. -/
theorem finds_undisturbed (h : service.perform i c op w = some (r, w'))
    (hevent : Undisturbed record.ref record (.performed w i c op w')) : Finds record op r := by
  cases performs_of_perform h with
  | failed e => exact finds_error
  | passed reply hop => exact finds_local hop
  | sql q =>
      cases q with
      | findKey k' =>
          intro hk
          subst hk
          obtain ⟨hkey, -, -, hempty⟩ := hevent
          have hnil : Journal.entries i w.journal = [] := hempty w i c _ rfl
          have hview : w.view i = w.db := by
            rw [World.view, hnil]
            rfl
          rw [hview]
          exact hkey
      | _ => trivial
  | _ => trivial

/-- A call that is started under a completed key. -/
theorem run_answered {p : Program Op (fun op => Except Exception op.Ret)
      (Except Exception (Option ResponseBody) × Unit)}
    (hcall : P.calls[i]? = some p)
    (hwp : p.wp (tracked (fun op _ => op.asksGateway = false) (Finds record) noteError)
      (fun r failed => failed = true ∨ Answers record payload reused some r.1) false)
    (hrun : service.run ms P = some (es, P')) (href : record.ref = k)
    (hevents : ∀ e ∈ es, Undisturbed k record e) :
    (∀ e ∈ es, e.asksGateway i = false) ∧
      ∀ r, P'.calls[i]? = some (.done (r, ())) →
        (∃ e ∈ es, e.errs i = true) ∨ Answers record payload reused some r := by
  let R (failed : Bool) (es : List Event) : Prop := failed = true → ∃ e ∈ es, e.errs i = true
  have hR : R false [] := fun h => absurd h Bool.false_ne_true
  have hcan : ∀ s c op s' r, .performed s i c op s' ∈ es →
      service.perform i c op s = some (r, s') → Finds record op r := by
    intro s c op s' r hmem hperform
    exact finds_undisturbed hperform (href ▸ hevents _ hmem)
  have hother : ∀ past failed (e : Event), R failed past → R failed (past ++ [e]) := by
    intro past failed e h hfailed
    obtain ⟨e', he', herrs⟩ := h hfailed
    exact ⟨e', List.mem_append_left _ he', herrs⟩
  have hown : ∀ past failed s c op r s', service.perform i c op s = some (r, s') →
      R failed past → R (noteError op r failed) (past ++ [.performed s i c op s']) := by
    intro past failed s c op r s' hperform h
    cases r with
    | ok a => exact hother past failed _ h
    | error e =>
        refine fun _ => ⟨_, List.mem_append_right _ (List.mem_singleton_self _), ?_⟩
        change performWith i c op s = some (.error e, s') at hperform
        simp [Event.errs, hperform]
  obtain ⟨hgood, p', failed, hp', hwp', hfailed⟩ :=
    System.run_call hother hown hcall hwp hrun hcan hR
  refine ⟨fun e he => ?_, fun r hdone => ?_⟩
  · cases e with
    | started => rfl
    | performed s j c op s' =>
        by_cases hj : j = i
        · subst hj
          obtain ⟨-, hop⟩ := hgood s c op s' he
          simp [Event.asksGateway, hop]
        · simp [Event.asksGateway, hj]
  · rw [hdone, Option.some.injEq] at hp'
    subst hp'
    exact hwp'.imp_left hfailed

/-- A completed key is final as long as no error path overwrites its record and no two transactions
retry it together. A call with another payload is on such a path before it throws the conflict: as long
as the record stays, it ends only by an operation that fails. -/
theorem completed_key_final (hrun : service.run ms (Pool.init (World.init now)) = some (es, P))
    (hrecord : P.state.db.key k = some record) (hfinal : record.Final)
    (hnext : service.run (.start request :: ms') P = some (es', P'))
    (hkeyed : request.keyed = some (k, payload, reused)) (hresolves : request.resolves = true)
    (hkept : ∀ e ∈ es ++ es', e.reopens k = false ∧ e.retriesTogether k = false) :
    Finality k record payload reused P.calls.length es' P' := by
  have href : record.ref = k := (Table.mem_of_find hrecord).2
  have hP : Remembers (fun _ w => KeyInv k w) ([] ++ es) P := by
    refine (run_history (fun _ w => KeyInv k w)
      (fun e => e.reopens k = false ∧ e.retriesTogether k = false) (fun _ => True) ?_ ?_ hrun
      (fun e he => hkept e (List.mem_append_left _ he)) (remembers_init _ keyInv_init)).1
    · exact fun past w i request _ _ hinv _ => ⟨hinv, trivial⟩
    · exact fun past i c op r w w' t hstep hinv h => ⟨hinv.step hstep h.1 h.2, trivial⟩
  have hevents : ∀ e ∈ es', Undisturbed k record e :=
    run_undisturbed hnext hP hrecord hfinal fun e he => hkept e (List.mem_append_right _ he)
  obtain ⟨e, Q, es₁, hmove, hrun₁, rfl⟩ := System.run_cons hnext
  rcases System.move_cases hmove with ⟨request', hm, rfl, rfl⟩ | ⟨_, _, _, _, _, _, hm, -⟩
  · cases hm
    have hcall : (P.calls ++ [service.program request])[P.calls.length]? =
        some (request.call ()) := List.getElem?_concat_length
    have hwp : (request.call ()).wp
        (tracked (fun op _ => op.asksGateway = false) (Finds record) noteError)
        (fun r failed => failed = true ∨ Answers record payload reused some r.1) false := by
      refine Program.wp_mono ?_ (request_yields hfinal href hkeyed hresolves false)
      intro r failed h
      exact h.2.symm.imp_left And.left
    obtain ⟨hgateway, hanswered⟩ := run_answered (P := ⟨P.state, _⟩) hcall hwp hrun₁ href
      fun e he => hevents e (List.mem_cons_of_mem _ he)
    refine ⟨fun e he => (hevents e he).2.1, fun e he => ?_, fun r hdone => ?_,
      fun e he => (hevents e he).2.2.1⟩
    · rcases List.mem_cons.mp he with rfl | htail
      · rfl
      · exact hgateway e htail
    · refine (hanswered r hdone).imp_left fun herrs => ?_
      obtain ⟨e, he, herrs⟩ := herrs
      exact ⟨e, List.mem_cons_of_mem _ he, herrs⟩
  · cases hm

/-- The key of a payment that is created. -/
def fareKey : KeyRef := ⟨.createPaymentIntent, "k"⟩

theorem completed_key_final_replayed :
    ∃ (es es' : List Event) (P P' : ServicePool) (record : IdempotencyKey),
      service.run created (Pool.init (World.init 0)) = some (es, P) ∧
      service.run (.start (.createPaymentIntent fare (some "k")) ::
        succeeds 1 "b" "requires_confirmation" 3) P = some (es', P') ∧
      P'.idle = true ∧ P.state.db.key fareKey = some record ∧ record.Final ∧
      Finality fareKey record (.createPaymentIntent fare) (paymentReused "k") P.calls.length
        es' P' := by
  have hrun : (service.run created (Pool.init (World.init 0))).any (fun result =>
      (result.1.all fun (e : Event) => !e.reopens fareKey && !e.retriesTogether fareKey) &&
      (result.2.state.db.key fareKey).any (fun record => decide record.Final) &&
      (service.run (.start (.createPaymentIntent fare (some "k")) ::
        succeeds 1 "b" "requires_confirmation" 3) result.2).any fun result' =>
          (result'.1.all fun (e : Event) => !e.reopens fareKey && !e.retriesTogether fareKey) &&
          result'.2.idle) = true := by decide +kernel
  obtain ⟨es, P, hrun, hafter⟩ := System.exists_run hrun
  simp only [Bool.and_eq_true] at hafter
  obtain ⟨⟨hkept, hrecord⟩, hnext⟩ := hafter
  rw [Option.any_eq_true] at hrecord
  obtain ⟨record, hrecord, hfinal⟩ := hrecord
  have hfinal : record.Final := of_decide_eq_true hfinal
  obtain ⟨es', P', hnext, hafter⟩ := System.exists_run hnext
  simp only [Bool.and_eq_true] at hafter
  refine ⟨es, es', P, P', record, hrun, hnext, hafter.2, hrecord, hfinal,
    completed_key_final hrun hrecord hfinal hnext rfl (by decide +kernel) fun e he => ?_⟩
  rcases List.mem_append.mp he with hold | hnew
  · have hevent := List.all_eq_true.mp hkept e hold
    simpa only [Bool.and_eq_true, Bool.not_eq_true'] using hevent
  · have hevent := List.all_eq_true.mp hafter.1 e hnew
    simpa only [Bool.and_eq_true, Bool.not_eq_true'] using hevent

/-- Another payload under a completed key is refused, and its error path marks the key as failed. -/
theorem completed_key_reopened :
    ∃ (es es' : List Event) (P P' : ServicePool) (record : IdempotencyKey),
      service.run created (Pool.init (World.init 0)) = some (es, P) ∧
      P.state.db.key fareKey = some record ∧ record.Final ∧
      service.run (.start (.createPaymentIntent dearFare (some "k")) ::
        succeeds 1 "b" "requires_confirmation" 5) P = some (es', P') ∧
      ¬Finality fareKey record (.createPaymentIntent dearFare) (paymentReused "k") P.calls.length
        es' P' := by
  have hrun : (service.run created (Pool.init (World.init 0))).any (fun result =>
      (result.2.state.db.key fareKey).any (fun record => decide record.Final) &&
      (service.run (.start (.createPaymentIntent dearFare (some "k")) ::
        succeeds 1 "b" "requires_confirmation" 5) result.2).any fun result' =>
          result'.1.any fun (e : Event) =>
            (e.after.db.key fareKey).any fun record => !decide record.Final) = true := by
    decide +kernel
  obtain ⟨es, P, hrun, hafter⟩ := System.exists_run hrun
  simp only [Bool.and_eq_true] at hafter
  obtain ⟨hrecord, hnext⟩ := hafter
  rw [Option.any_eq_true] at hrecord
  obtain ⟨record, hrecord, hfinal⟩ := hrecord
  have hfinal : record.Final := of_decide_eq_true hfinal
  obtain ⟨es', P', hnext, hafter⟩ := System.exists_run hnext
  refine ⟨es, es', P, P', record, hrun, hrecord, hfinal, hnext, fun h => ?_⟩
  obtain ⟨e, he, hopen⟩ := List.any_eq_true.mp hafter
  rw [h.kept e he] at hopen
  simp [hfinal] at hopen

end FlightBookings.Payment
