import FlightBookings.Payment.Protocol

/-! # Runs of the payment service

What an operation can do to the world, and the rules for runs: a call knows what
its open transaction has done, and two open transactions never hold the same row.
-/

namespace FlightBookings.Payment

open Await

/-- The operations that touch neither rows nor messages. -/
def Op.isLocal : Op → Bool
  | .dateNow => true
  | .wait _ => true
  | .uuid => true
  | .begin => true
  | _ => false

/-- Everything that an operation of call `i` can do. -/
inductive Performs (i : Nat) (c : Choice) (w : World) :
    (op : Op) → Except Exception op.Ret → World → Prop where
  | failed {op : Op} (e : Exception) (hop : op ≠ .rollback)
      (hcause : c.fails = none → ∃ q db, (op = .sql q ∨ op = .auto q) ∧ q.violates db = true) :
      Performs i c w op (.error e) w
  | passed {op : Op} (reply : op.Ret) {w' : World} (hop : op.isLocal = true) (hdb : w'.db = w.db)
      (hjournal : w'.journal = w.journal) (hpublished : w'.published = w.published) :
      Performs i c w op (.ok reply) w'
  | sql (q : Query) (hok : c.fails = none) (hfree : w.blocks i q = false)
      (hvalid : q.violates (w.view i) = false) :
      Performs i c w (.sql q) (.ok (q.read (w.view i)))
        { w with journal := Journal.add i (.query q (q.read (w.view i))) w.journal }
  | stripe (op : StripeOp) (hok : c.fails = none) :
      Performs i c w (.stripe op) (.ok (op.answer c))
        { w with journal := Journal.add i (.stripe op (op.answer c)) w.journal }
  | commit (hok : c.fails = none) :
      Performs i c w .commit (.ok ())
        { w with db := w.view i, journal := Journal.drop i w.journal }
  | rollback : Performs i c w .rollback (.ok ()) { w with journal := Journal.drop i w.journal }
  | auto (q : Query) (hok : c.fails = none) (hfree : w.blocks i q = false)
      (hvalid : q.violates w.db = false) :
      Performs i c w (.auto q) (.ok (q.read w.db)) { w with db := q.write w.db }
  | publish (message : PaymentCompleted) (hok : c.fails = none) :
      Performs i c w (.publish message) (.ok ())
        { w with published := w.published ++ [message] }

theorem performs_perform {i : Nat} {c : Choice} {op : Op} {w w' : World}
    {r : Except Exception op.Ret} (hok : c.fails = none ∨ op.fallible = false)
    (h : op.perform i c w = some (r, w')) : Performs i c w op r w' := by
  have hfails : op.fallible = true → c.fails = none := by
    intro hop
    rcases hok with hnone | hsafe
    · exact hnone
    · rw [hop] at hsafe
      cases hsafe
  cases op with
  | dateNow =>
      cases h
      exact .passed _ rfl rfl rfl rfl
  | wait ms =>
      cases h
      exact .passed _ rfl rfl rfl rfl
  | uuid =>
      simp only [Op.perform] at h
      split at h
      · cases h
      · cases h
        exact .passed _ rfl rfl rfl rfl
  | begin =>
      cases h
      exact .passed _ rfl rfl rfl rfl
  | sql q =>
      simp only [Op.perform] at h
      split at h
      · cases h
      · rename_i hfree
        split at h
        · rename_i hviolates
          cases h
          exact .failed _ (by simp) fun _ => ⟨q, _, .inl rfl, hviolates⟩
        · rename_i hvalid
          cases h
          exact .sql q (hfails rfl) (by simpa using hfree) (by simpa using hvalid)
  | commit =>
      cases h
      exact .commit (hfails rfl)
  | rollback =>
      cases h
      exact .rollback
  | auto q =>
      simp only [Op.perform] at h
      split at h
      · cases h
      · rename_i hfree
        split at h
        · rename_i hviolates
          cases h
          exact .failed _ (by simp) fun _ => ⟨q, _, .inr rfl, hviolates⟩
        · rename_i hvalid
          cases h
          exact .auto q (hfails rfl) (by simpa using hfree) (by simpa using hvalid)
  | stripe op =>
      cases h
      exact .stripe op (hfails rfl)
  | publish message =>
      cases h
      exact .publish message (hfails rfl)

theorem performs_of_perform {i : Nat} {c : Choice} {op : Op} {w w' : World}
    {r : Except Exception op.Ret} (h : service.perform i c op w = some (r, w')) :
    Performs i c w op r w' := by
  change performWith i c op w = some (r, w') at h
  unfold performWith at h
  split at h
  · rename_i e hfails
    split at h
    · rename_i hfallible
      simp only [Option.some.injEq, Prod.mk.injEq] at h
      obtain ⟨rfl, rfl⟩ := h
      refine .failed e (fun hop => ?_) fun hnone => ?_
      · subst hop
        cases hfallible
      · rw [hfails] at hnone
        cases hnone
    · rename_i hsafe
      exact performs_perform (.inr (by simpa using hsafe)) h
  · rename_i hfails
    exact performs_perform (.inl hfails) h

/-- A row is found under the key that it is looked up with. -/
theorem answers_read (q : Query) (db : Database) : q.Answers (q.read db) := by
  cases q with
  | findKey k => exact fun record h => (Table.mem_of_find h).2
  | findPayment id => exact fun payment h => (Table.mem_of_find h).2
  | _ => trivial

theorem Performs.replies {i : Nat} {c : Choice} {op : Op} {w w' : World}
    {r : Except Exception op.Ret} (h : Performs i c w op r w') : op.Replies r := by
  cases h with
  | failed e hop =>
      cases op with
      | rollback => exact absurd rfl hop
      | _ => trivial
  | passed reply hop =>
      cases op with
      | dateNow => trivial
      | wait ms => trivial
      | uuid => trivial
      | begin => trivial
      | _ => cases hop
  | sql q => exact answers_read q _
  | auto q => exact answers_read q _
  | _ => trivial

/-! ## What the calls know -/

/-- What call `i` knows after the events of the past. -/
abbrev logOf (past : List Event) (i : Nat) : Option CallLog :=
  service.trace CallLog.start advance i past

/-- What the open transaction of a call has done, as far as it knows. -/
def pendingOf (past : List Event) (i : Nat) : List Entry :=
  ((logOf past i).map CallLog.pending).getD []

/-- The journal is what the calls know of it, no two transactions hold the same row, and a payment
that a transaction has read still differs at most in the columns of its state. -/
structure Sound (past : List Event) (w : World) : Prop where
  linked : ∀ i, Journal.entries i w.journal = pendingOf past i
  exclusive : ∀ i j q r q' r', i ≠ j → .query q r ∈ Journal.entries i w.journal →
    .query q' r' ∈ Journal.entries j w.journal → q.contends q' = false
  reads : ∀ i id p, .query (.findPayment id) (some p) ∈ Journal.entries i w.journal →
    ∃ state, w.db.payment id = some (p.after state)
  requests : ∀ i s request, .started s i request ∈ past →
    ∃ t, logOf past i = some t ∧ t.request = request

theorem contends_symm {q q' : Query} (h : q.contends q' = false) : q'.contends q = false := by
  cases q with
  | insertKey record =>
      cases q' with
      | insertKey held => simpa [Query.contends, eq_comm (a := held.ref)] using h
      | _ => rfl
  | updateKey k state =>
      cases q' with
      | updateKey held state' => simpa [Query.contends, eq_comm (a := held)] using h
      | _ => rfl
  | insertPayment p =>
      cases q' with
      | insertPayment held => simpa [Query.contends, eq_comm (a := held.gatewayPaymentId)] using h
      | _ => rfl
  | updatePayment id state =>
      cases q' with
      | updatePayment held state' => simpa [Query.contends, eq_comm (a := held)] using h
      | _ => rfl
  | insertRefund refund =>
      cases q' with
      | insertRefund held =>
          simp only [Query.contends, Bool.and_eq_false_iff, decide_eq_false_iff_not] at h ⊢
          rcases h with hnone | hne
          · by_cases heq : held.gatewayRefundId = refund.gatewayRefundId
            · exact .inl (heq ▸ hnone)
            · exact .inr heq
          · exact .inr (Ne.symm hne)
      | _ => rfl
  | _ => cases q' <;> rfl

/-- Calls may start from any rows when no transaction is open. -/
theorem sound_idle {w : World} (hidle : w.journal = []) : Sound [] w where
  linked _ := by
    rw [hidle]
    rfl
  exclusive _ _ _ _ _ _ _ h := by
    rw [hidle] at h
    cases h
  reads _ _ _ h := by
    rw [hidle] at h
    cases h
  requests _ _ _ h := by cases h

variable {past : List Event} {w w' : World} {i : Nat} {c : Choice} {t : CallLog}

theorem logOf_started {request : Request} (hfresh : ∀ j, i ≤ j → logOf past j = none) {j : Nat}
    {t : CallLog} (hlog : logOf past j = some t) :
    logOf (past ++ [.started w i request]) j = some t := by
  have hj : j ≠ i := by
    intro heq
    rw [hfresh j (by omega)] at hlog
    cases hlog
  exact (System.trace_started_of_ne hj).trans hlog

theorem sound_started {request : Request} (hfresh : ∀ j, i ≤ j → logOf past j = none)
    (h : Sound past w) : Sound (past ++ [.started w i request]) w := by
  refine ⟨fun j => ?_, h.exclusive, h.reads, fun j s request' hmem => ?_⟩
  · rw [h.linked j, pendingOf, pendingOf]
    by_cases hj : j = i
    · subst hj
      rw [hfresh j (Nat.le_refl j), logOf, System.trace_started_self]
      rfl
    · rw [logOf, logOf, System.trace_started_of_ne hj]
  · rcases List.mem_append.mp hmem with hold | hnew
    · obtain ⟨t, hlog, hrequest⟩ := h.requests j s request' hold
      exact ⟨t, logOf_started hfresh hlog, hrequest⟩
    · cases List.mem_singleton.mp hnew
      exact ⟨_, System.trace_started_self, rfl⟩

section Performed

variable {op : Op} {r : Except Exception op.Ret}

theorem logOf_performed_self (hlog : logOf past i = some t)
    (h : service.perform i c op w = some (r, w')) :
    logOf (past ++ [.performed w i c op w']) i = some (advance op r t) := by
  rw [logOf, System.trace_performed_self h, show service.trace CallLog.start advance i past = _ from hlog]
  rfl

theorem logOf_performed_of_ne {j : Nat} (hj : j ≠ i) :
    logOf (past ++ [.performed w i c op w']) j = logOf past j :=
  System.trace_performed_of_ne hj

theorem pendingOf_performed_of_ne {j : Nat} (hj : j ≠ i) :
    pendingOf (past ++ [.performed w i c op w']) j = pendingOf past j := by
  rw [pendingOf, logOf_performed_of_ne hj, pendingOf]

theorem pendingOf_eq (hlog : logOf past i = some t) : pendingOf past i = t.pending := by
  rw [pendingOf, hlog]
  rfl

theorem not_blocks {q q' : Query} {r' : q'.Ret} {j : Nat} (hfree : w.blocks i q = false) (hj : j ≠ i)
    (hmem : .query q' r' ∈ Journal.entries j w.journal) : q.contends q' = false := by
  have hother : .query q' r' ∈ Journal.others i w.journal :=
    Journal.mem_others.mpr ⟨j, hj, Journal.mem_entries.mp hmem⟩
  have hholds := List.any_eq_false.mp hfree _ hother
  simpa [Entry.holds] using hholds

theorem advance_local (hop : op.isLocal = true) (reply : op.Ret) :
    advance op (.ok reply) t = t := by
  cases op with
  | dateNow => rfl
  | wait ms => rfl
  | uuid => rfl
  | begin => rfl
  | _ => cases hop

/-- An operation that fails changes nothing of what a call knows but the messages it lost. -/
theorem advance_error {e : Exception} : (advance op (.error e) t).pending = t.pending := by
  cases op <;> rfl

theorem advance_request {r : Except Exception op.Ret} : (advance op r t).request = t.request := by
  cases op <;> cases r <;> rfl

theorem Op.Legal.pending_eq_nil {q : Query} (h : (Op.auto q).Legal t) : t.pending = [] := by
  cases q with
  | findKey k => exact h
  | findPayment id => exact h
  | findPaymentByGatewayId id => exact h
  | refundTotal id => exact h
  | updateKey k state => exact h.1
  | updatePayment id state => exact h.1
  | _ => exact h.elim

/-- The entries of the other calls stay, and the call's own entries are those it knows of. -/
theorem Performs.entries (h : Performs i c w op r w')
    (hown : Journal.entries i w.journal = t.pending) :
    Journal.entries i w'.journal = (advance op r t).pending ∧
      ∀ j, j ≠ i → Journal.entries j w'.journal = Journal.entries j w.journal := by
  cases h with
  | failed e => exact ⟨hown.trans advance_error.symm, fun _ _ => rfl⟩
  | passed reply hop hdb hjournal =>
      rw [hjournal, advance_local hop]
      exact ⟨hown, fun _ _ => rfl⟩
  | sql q =>
      refine ⟨?_, fun j hj => Journal.entries_add_of_ne hj⟩
      rw [Journal.entries_add_self, hown]
      rfl
  | stripe op =>
      refine ⟨?_, fun j hj => Journal.entries_add_of_ne hj⟩
      rw [Journal.entries_add_self, hown]
      rfl
  | commit => exact ⟨Journal.entries_drop_self, fun j hj => Journal.entries_drop_of_ne hj⟩
  | rollback => exact ⟨Journal.entries_drop_self, fun j hj => Journal.entries_drop_of_ne hj⟩
  | auto q => exact ⟨hown, fun _ _ => rfl⟩
  | publish message => exact ⟨hown, fun _ _ => rfl⟩

/-- An operation of call `i`, which knows `t`. -/
structure Step (past : List Event) (i : Nat) (c : Choice) (op : Op) (r : Except Exception op.Ret)
    (w w' : World) (t : CallLog) : Prop where
  log : logOf past i = some t
  legal : op.Legal t
  sound : Sound past w
  performed : service.perform i c op w = some (r, w')

namespace Step

theorem performs (h : Step past i c op r w w' t) : Performs i c w op r w' :=
  performs_of_perform h.performed

theorem own (h : Step past i c op r w w' t) : Journal.entries i w.journal = t.pending := by
  rw [h.sound.linked i, pendingOf_eq h.log]

theorem log_self (h : Step past i c op r w w' t) :
    logOf (past ++ [.performed w i c op w']) i = some (advance op r t) :=
  logOf_performed_self h.log h.performed

/-- What the request of a call was, the call knows ever after. -/
theorem request_stays (h : Step past i c op r w w' t) {j : Nat} {t' : CallLog}
    (hlog : logOf past j = some t') :
    ∃ t'', logOf (past ++ [.performed w i c op w']) j = some t'' ∧ t''.request = t'.request := by
  by_cases hj : j = i
  · subst hj
    rw [h.log, Option.some.injEq] at hlog
    subst hlog
    exact ⟨_, h.log_self, advance_request⟩
  · exact ⟨t', (logOf_performed_of_ne hj).trans hlog, rfl⟩

theorem self (h : Step past i c op r w w' t) :
    Journal.entries i w'.journal = (advance op r t).pending :=
  (h.performs.entries h.own).1

theorem others (h : Step past i c op r w w' t) {j : Nat} (hj : j ≠ i) :
    Journal.entries j w'.journal = Journal.entries j w.journal :=
  (h.performs.entries h.own).2 j hj

/-- Only a statement adds to what a transaction holds, and only one that was not blocked. -/
theorem free (h : Step past i c op r w w' t) {j : Nat} {q q' : Query} {reply : q.Ret}
    {reply' : q'.Ret} (hj : j ≠ i) (hmem : .query q reply ∈ Journal.entries i w'.journal)
    (hmem' : .query q' reply' ∈ Journal.entries j w.journal) : q.contends q' = false := by
  have hold : .query q reply ∈ Journal.entries i w.journal → q.contends q' = false :=
    fun hmem => h.sound.exclusive i j q reply q' reply' (Ne.symm hj) hmem hmem'
  cases h.performs with
  | failed e => exact hold hmem
  | passed _ hop hdb hjournal => exact hold (hjournal ▸ hmem)
  | sql q₁ hok hunblocked =>
      rw [Journal.entries_add_self] at hmem
      rcases List.mem_append.mp hmem with hmem | hmem
      · exact hold hmem
      · cases List.mem_singleton.mp hmem
        exact not_blocks hunblocked hj hmem'
  | stripe op =>
      rw [Journal.entries_add_self] at hmem
      rcases List.mem_append.mp hmem with hmem | hmem
      · exact hold hmem
      · cases List.mem_singleton.mp hmem
  | commit =>
      rw [Journal.entries_drop_self] at hmem
      cases hmem
  | rollback =>
      rw [Journal.entries_drop_self] at hmem
      cases hmem
  | auto q₁ => exact hold hmem
  | publish message => exact hold hmem

theorem db_cases (h : Step past i c op r w w' t) :
    ∃ entries, w'.db = applyAll entries w.db := by
  cases h.performs with
  | passed _ hop hdb => exact ⟨[], hdb⟩
  | commit => exact ⟨_, rfl⟩
  | auto q => exact ⟨[.query q (q.read w.db)], rfl⟩
  | _ => exact ⟨[], rfl⟩

/-- A transaction reads a payment before it changes any. -/
theorem reads_after (h : Step past i c op r w w' t) {j : Nat} {id : String} {p : Payment}
    (hmem : .query (.findPayment id) (some p) ∈ Journal.entries j w'.journal) :
    ∃ state, w'.db.payment id = some (p.after state) := by
  have hold : .query (.findPayment id) (some p) ∈ Journal.entries j w.journal →
      ∃ state, w'.db.payment id = some (p.after state) := by
    intro hmem
    obtain ⟨state, hstate⟩ := h.sound.reads j id p hmem
    obtain ⟨entries, hdb⟩ := h.db_cases
    obtain ⟨state', hstate'⟩ := payment_applyAll entries hstate
    exact ⟨state', hdb ▸ hstate'⟩
  by_cases hj : j = i
  · subst hj
    cases h.performs with
    | passed _ hop hdb hjournal => exact hold (hjournal ▸ hmem)
    | sql q =>
        rw [Journal.entries_add_self] at hmem
        rcases List.mem_append.mp hmem with hmem | hmem
        · exact hold hmem
        · rw [List.mem_singleton] at hmem
          cases q with
          | findPayment id' =>
              obtain ⟨k, hclaim⟩ := h.legal
              obtain ⟨keys, hkeys⟩ := applyAll_claim hclaim w.db
              have hview : w.view j = { w.db with keys } := by rw [World.view, h.own, hkeys]
              simp only [Entry.query.injEq, Query.findPayment.injEq] at hmem
              obtain ⟨rfl, hread⟩ := hmem
              have hfound : some p = (w.view j).payment id := eq_of_heq hread
              rw [hview] at hfound
              exact ⟨p.toPaymentState, hfound.symm⟩
          | _ => cases hmem
    | stripe op =>
        rw [Journal.entries_add_self] at hmem
        rcases List.mem_append.mp hmem with hmem | hmem
        · exact hold hmem
        · cases List.mem_singleton.mp hmem
    | commit =>
        rw [Journal.entries_drop_self] at hmem
        cases hmem
    | rollback =>
        rw [Journal.entries_drop_self] at hmem
        cases hmem
    | _ => exact hold hmem
  · rw [h.others hj] at hmem
    exact hold hmem

theorem sound_after (h : Step past i c op r w w' t) :
    Sound (past ++ [.performed w i c op w']) w' := by
  refine ⟨fun j => ?_, ?_, fun j id p => h.reads_after, fun j s request hmem => ?_⟩
  · by_cases hj : j = i
    · subst hj
      rw [h.self, pendingOf_eq h.log_self]
    · rw [h.others hj, h.sound.linked j, pendingOf_performed_of_ne hj]
  · intro j j' q reply q' reply' hne hmem hmem'
    by_cases hj : j = i
    · subst hj
      rw [h.others (Ne.symm hne)] at hmem'
      exact h.free (Ne.symm hne) hmem hmem'
    · rw [h.others hj] at hmem
      by_cases hj' : j' = i
      · subst hj'
        exact contends_symm (h.free hj hmem' hmem)
      · rw [h.others hj'] at hmem'
        exact h.sound.exclusive j j' q reply q' reply' hne hmem hmem'
  · rcases List.mem_append.mp hmem with hold | hnew
    · obtain ⟨t', hlog, hrequest⟩ := h.sound.requests j s request hold
      obtain ⟨t'', hlog', hsame⟩ := h.request_stays hlog
      exact ⟨t'', hlog', hsame.trans hrequest⟩
    · cases List.mem_singleton.mp hnew

end Step

end Performed

/-! ## Rules for runs -/

/-- The invariant holds, and each call follows the protocol from what it knows. -/
abbrev Remembers (inv : List Event → World → Prop) (past : List Event) (P : ServicePool) : Prop :=
  service.Tracks (fun past w => Sound past w ∧ inv past w) CallLog.start (fun _ => Op.Legal)
    (fun _ => Op.Replies) advance (fun _ r t => Resolved r.1 t) past P

section Runs

variable (inv : List Event → World → Prop) (allows owes : Event → Prop)
variable {ms : List (Move Request Choice)} {P P' : ServicePool} {es : List Event}

theorem remembers_init {now : Nat} (h : inv [] (World.init now)) :
    Remembers inv [] (Pool.init (World.init now)) :=
  System.tracks_init ⟨sound_idle rfl, h⟩

theorem run_history
    (hstarted : ∀ past w i request, (∀ j, i ≤ j → logOf past j = none) → Sound past w →
      inv past w → allows (.started w i request) →
      inv (past ++ [.started w i request]) w ∧ owes (.started w i request))
    (hperform : ∀ past i c op r w w' t, Step past i c op r w w' t → inv past w →
      allows (.performed w i c op w') →
      inv (past ++ [.performed w i c op w']) w' ∧ owes (.performed w i c op w'))
    (hrun : service.run ms P = some (es, P')) (hobeys : ∀ e ∈ es, allows e)
    (hP : Remembers inv past P) : Remembers inv (past ++ es) P' ∧ ∀ e ∈ es, owes e := by
  refine System.run_tracked ?_ ?_ hrun hobeys hP
  · intro past w i request hfresh hinv hallows
    have hsound : Sound (past ++ [.started w i request]) w :=
      sound_started hfresh hinv.1
    obtain ⟨hinv', howes⟩ := hstarted past w i request hfresh hinv.1 hinv.2 hallows
    exact ⟨request_follows request, ⟨hsound, hinv'⟩, howes⟩
  · intro past w i c op r w' t hlog hlegal hinv hperformed hallows
    have hstep : Step past i c op r w w' t := ⟨hlog, hlegal, hinv.1, hperformed⟩
    obtain ⟨hinv', howes⟩ := hperform past i c op r w w' t hstep hinv.2 hallows
    exact ⟨hstep.performs.replies, ⟨hstep.sound_after, hinv'⟩, howes⟩

end Runs

/-! ## Serial runs -/

/-- What holds while one call runs at a time: the replies that its open transaction got, and those
to its reads outside of one, are still right. -/
structure Current (past : List Event) (w : World) : Prop where
  replays : ∀ i, Replays (Journal.entries i w.journal) w.db
  seen : ∀ i t, logOf past i = some t → (∀ j, i < j → logOf past j = none) →
    ∀ q reply, .query q reply ∈ t.seen → reply = q.read w.db

/-- An operation of call `i` while all other calls are done, of which none is newer. -/
structure SerialStep (past : List Event) (i : Nat) (c : Choice) (op : Op)
    (r : Except Exception op.Ret) (w w' : World) (t : CallLog) : Prop
    extends Step past i c op r w w' t where
  done : ∀ j t, j ≠ i → logOf past j = some t → ∃ r, Resolved r t
  newest : ∀ j, i < j → logOf past j = none
  current : Current past w

namespace SerialStep

variable {op : Op} {r : Except Exception op.Ret}

theorem others_nil (h : SerialStep past i c op r w w' t) {j : Nat} (hj : j ≠ i) :
    Journal.entries j w.journal = [] := by
  rw [h.sound.linked j, pendingOf]
  cases hlog : logOf past j with
  | none => rfl
  | some t' =>
      obtain ⟨r', hresolved⟩ := h.done j t' hj hlog
      exact hresolved.closed

theorem journal_nil (h : SerialStep past i c op r w w' t) (hpending : t.pending = []) (j : Nat) :
    Journal.entries j w.journal = [] := by
  by_cases hj : j = i
  · subst hj
    exact h.own.trans hpending
  · exact h.others_nil hj

/-- The open transaction would get the same replies again. -/
theorem replays (h : SerialStep past i c op r w w' t) : Replays t.pending w.db := by
  rw [← h.own]
  exact h.current.replays i

theorem seen (h : SerialStep past i c op r w w' t) {q : Query} {reply : q.Ret}
    (hmem : .query q reply ∈ t.seen) : reply = q.read w.db :=
  h.current.seen i t h.log h.newest q reply hmem

theorem write_isRead {q : Query} {db : Database} (h : q.isRead = true) : q.write db = db := by
  cases q with
  | findKey k => rfl
  | reloadKey k => rfl
  | findPayment id => rfl
  | findPaymentByGatewayId id => rfl
  | refundTotal id => rfl
  | countEntries filter => rfl
  | _ => cases h

theorem seen_error {e : Exception} : (advance op (.error e) t).seen = t.seen := by
  cases op <;> rfl

theorem replays_after (h : SerialStep past i c op r w w' t) (j : Nat) :
    Replays (Journal.entries j w'.journal) w'.db := by
  by_cases hj : j = i
  · subst hj
    have hreplays : Replays (Journal.entries j w.journal) w.db := h.current.replays j
    cases h.performs with
    | failed e => exact hreplays
    | passed _ hop hdb hjournal =>
        rw [hjournal, hdb]
        exact hreplays
    | sql q hok hfree hvalid =>
        rw [Journal.entries_add_self]
        exact replays_append.mpr ⟨hreplays, ⟨hvalid, rfl⟩, trivial⟩
    | stripe op =>
        rw [Journal.entries_add_self]
        exact replays_append.mpr ⟨hreplays, trivial, trivial⟩
    | commit =>
        rw [Journal.entries_drop_self]
        trivial
    | rollback =>
        rw [Journal.entries_drop_self]
        trivial
    | auto q =>
        have hnil := h.journal_nil (Op.Legal.pending_eq_nil h.legal) j
        rw [hnil]
        trivial
    | publish message => exact hreplays
  · rw [h.others hj, h.others_nil hj]
    trivial

theorem seen_after (h : SerialStep past i c op r w w' t) {q : Query} {reply : q.Ret}
    (hmem : .query q reply ∈ (advance op r t).seen) : reply = q.read w'.db := by
  cases h.performs with
  | failed e =>
      rw [seen_error] at hmem
      exact h.seen hmem
  | passed _ hop hdb =>
      rw [advance_local hop] at hmem
      rw [hdb]
      exact h.seen hmem
  | sql q₁ => exact h.seen hmem
  | stripe op => exact h.seen hmem
  | commit => cases hmem
  | rollback => exact h.seen hmem
  | auto q₁ =>
      by_cases hread : q₁.isRead = true
      · have hwrite : q₁.write w.db = w.db := write_isRead hread
        simp only [advance, if_pos hread] at hmem
        change reply = q.read (q₁.write w.db)
        rw [hwrite]
        rcases List.mem_append.mp hmem with hold | hnew
        · exact h.seen hold
        · cases List.mem_singleton.mp hnew
          rfl
      · simp only [advance, if_neg hread] at hmem
        cases hmem
  | publish message => exact h.seen hmem

theorem current_after (h : SerialStep past i c op r w w' t) :
    Current (past ++ [.performed w i c op w']) w' := by
  refine ⟨h.replays_after, ?_⟩
  intro j t' hlog hnewest q reply hmem
  rcases Nat.lt_trichotomy j i with hlt | heq | hgt
  · have hnone := hnewest i hlt
    rw [h.log_self] at hnone
    cases hnone
  · subst heq
    rw [h.log_self, Option.some.injEq] at hlog
    subst hlog
    exact h.seen_after hmem
  · rw [logOf_performed_of_ne (by omega), h.newest j hgt] at hlog
    cases hlog

end SerialStep

theorem current_idle {w : World} (hidle : w.journal = []) : Current [] w where
  replays i := by
    rw [hidle]
    trivial
  seen _ _ h := by cases h

theorem current_started {request : Request} (hfresh : ∀ j, i ≤ j → logOf past j = none)
    (h : Current past w) : Current (past ++ [.started w i request]) w := by
  refine ⟨h.replays, ?_⟩
  intro j t hlog hnewest q reply hmem
  rcases Nat.lt_trichotomy j i with hlt | heq | hgt
  · have hnone := hnewest i hlt
    rw [logOf, System.trace_started_self] at hnone
    cases hnone
  · subst heq
    rw [logOf, System.trace_started_self, Option.some.injEq] at hlog
    subst hlog
    cases hmem
  · rw [logOf, System.trace_started_of_ne (by omega)] at hlog
    have hnone := hfresh j (by omega)
    rw [logOf, hlog] at hnone
    cases hnone

section SerialRuns

variable (inv : List Event → World → Prop) (allows owes : Event → Prop)
variable {ms : List (Move Request Choice)} {P P' : ServicePool} {es : List Event}

/-- The rule for serial runs from any rows. -/
theorem run_serial_history_from {w₀ : World} (hidle : w₀.journal = []) (hinit : inv [] w₀)
    (hstarted : ∀ past w i request, (∀ j, i ≤ j → logOf past j = none) → inv past w →
      (∀ j t, logOf past j = some t → ∃ r, Resolved r t) → allows (.started w i request) →
      inv (past ++ [.started w i request]) w ∧ owes (.started w i request))
    (hperform : ∀ past i c op r w w' t, SerialStep past i c op r w w' t → inv past w →
      allows (.performed w i c op w') →
      inv (past ++ [.performed w i c op w']) w' ∧ owes (.performed w i c op w'))
    (hrun : service.run ms (Pool.init w₀) = some (es, P'))
    (hserial : service.serial ms (Pool.init w₀) = true) (hobeys : ∀ e ∈ es, allows e) :
    Remembers (fun past w => Current past w ∧ inv past w) es P' ∧ ∀ e ∈ es, owes e := by
  have hP : Remembers (fun past w => Current past w ∧ inv past w) [] (Pool.init w₀) :=
    System.tracks_init ⟨sound_idle hidle, current_idle hidle, hinit⟩
  show Remembers _ ([] ++ es) P' ∧ _
  refine System.run_serial_tracked ?_ ?_ hrun hserial hobeys rfl hP
  · intro past w i request hfresh hinv hdone hallows
    have hsound : Sound (past ++ [.started w i request]) w :=
      sound_started hfresh hinv.1
    have hresolved : ∀ j t, logOf past j = some t → ∃ r, Resolved r t := fun j t ht => by
      obtain ⟨a, ha⟩ := hdone j t ht
      exact ⟨a.1, ha⟩
    obtain ⟨hinv', howes⟩ := hstarted past w i request hfresh hinv.2.2 hresolved hallows
    exact ⟨request_follows request, ⟨hsound, current_started hfresh hinv.2.1, hinv'⟩, howes⟩
  · intro past w i c op r w' t hlog hlegal hinv hdone hnewest hperformed hallows
    have hstep : SerialStep past i c op r w w' t :=
      { log := hlog, legal := hlegal, sound := hinv.1, performed := hperformed
        done := fun j t hj ht => by
          obtain ⟨a, ha⟩ := hdone j t hj ht
          exact ⟨a.1, ha⟩
        newest := hnewest
        current := hinv.2.1 }
    obtain ⟨hinv', howes⟩ := hperform past i c op r w w' t hstep hinv.2.2 hallows
    exact ⟨hstep.performs.replies, ⟨hstep.sound_after, hstep.current_after, hinv'⟩, howes⟩

/-- The rule for serial runs from the empty tables. -/
theorem run_serial_history {now : Nat} (hinit : inv [] (World.init now))
    (hstarted : ∀ past w i request, (∀ j, i ≤ j → logOf past j = none) → inv past w →
      (∀ j t, logOf past j = some t → ∃ r, Resolved r t) → allows (.started w i request) →
      inv (past ++ [.started w i request]) w ∧ owes (.started w i request))
    (hperform : ∀ past i c op r w w' t, SerialStep past i c op r w w' t → inv past w →
      allows (.performed w i c op w') →
      inv (past ++ [.performed w i c op w']) w' ∧ owes (.performed w i c op w'))
    (hrun : service.run ms (Pool.init (World.init now)) = some (es, P'))
    (hserial : service.serial ms (Pool.init (World.init now)) = true)
    (hobeys : ∀ e ∈ es, allows e) :
    Remembers (fun past w => Current past w ∧ inv past w) es P' ∧ ∀ e ∈ es, owes e :=
  run_serial_history_from inv allows owes rfl hinit hstarted hperform hrun hserial hobeys

end SerialRuns

end FlightBookings.Payment
