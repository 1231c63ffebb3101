import FlightBookings.Payment.Awaits
import FlightBookings.Payment.History

/-! # The identifiers of payments

A payment is inserted under an identifier that its call has drawn before. Identifiers never repeat,
so no two payments have the same one, also while the transactions that insert them are open.
-/

namespace FlightBookings.Payment

open Await

/-! ## What a call draws -/

def draw : (op : Op) → Except Exception op.Ret → List String → List String
  | .uuid, .ok id, drawn => id :: drawn
  | _, _, drawn => drawn

/-- A payment gets an identifier that its call has drawn, and is inserted in a transaction. -/
def Op.Draws : Op → List String → Prop
  | .sql (.insertPayment p), drawn => p.id ∈ drawn
  | .auto (.insertPayment _), _ => False
  | _, _ => True

abbrev Draws {α : Type} (c : Call α) (drawn : List String) : Prop :=
  c.Ensures (tracked Op.Draws (fun _ _ => True) draw) () drawn (fun _ _ _ => True) fun _ _ => True

section Calls

variable {α : Type} {drawn : List String}

theorem admits_draws : Admits fun op => ∀ drawn, op.Draws drawn := by
  intro op hop drawn
  cases op with
  | sql q =>
      cases q with
      | insertPayment p => exact hop.elim
      | _ => trivial
  | auto q =>
      cases q with
      | insertPayment p => exact hop.elim
      | _ => trivial
  | _ => trivial

theorem draws_of_awaits {c : Call α} (h : Awaits (fun op => ∀ drawn, op.Draws drawn) c) :
    Draws c drawn := by
  refine .mono (h.frame (R := fun _ => True) ?_ trivial) (fun _ _ _ _ => trivial)
    fun _ _ _ => trivial
  intro op drawn Q hop _ hnext
  exact ⟨hop drawn, fun r _ => hnext r _ trivial trivial⟩

theorem await_draws {op : Op} (hop : op.Draws drawn) : Draws (Call.await op) drawn := by
  refine ⟨hop, fun r _ => ?_⟩
  cases r <;> trivial

theorem createPaymentIntentBody_draws (dto : CreatePaymentIntentDto) (safeKey : String)
    (gateway : Gateway) : Draws (createPaymentIntentBody dto safeKey gateway) drawn := by
  refine .seq (draws_of_awaits (claimIdempotency_awaits admits_draws)) fun existing _ drawn _ => ?_
  cases existing with
  | some response => exact .pure trivial
  | none =>
      have hintent : Draws (gateway.createPaymentIntent dto.amount (orElse dto.currency "USD")
          (paymentMetadata dto)) drawn := by
        cases gateway with
        | paypal => exact .throw trivial
        | stripe => exact await_draws trivial
      refine .seq hintent fun intent _ drawn _ => ?_
      refine .bind ⟨trivial, fun id _ => ?_⟩
      cases id with
      | error e => trivial
      | ok id =>
          have hinsert : (Op.sql (.insertPayment (newPayment id dto safeKey gateway intent))).Draws
              (id :: drawn) := List.mem_cons_self
          refine .seq (await_draws hinsert) fun _ _ _ _ => ?_
          exact .seq (await_draws trivial) fun _ _ _ _ => .pure trivial

theorem createPaymentIntent_draws (dto : CreatePaymentIntentDto) (idempotencyKey : Option String) :
    Draws (createPaymentIntent dto idempotencyKey) drawn := by
  refine .seq (draws_of_awaits (safeKeyOf_awaits admits_draws idempotencyKey))
    fun safeKey _ drawn _ => ?_
  refine .bind (.ofExcept (fun _ _ => trivial) fun gateway _ => ?_)
  have hbody : Draws (transaction (createPaymentIntentBody dto safeKey gateway)) drawn := by
    have hdone : Draws (do
        Call.await Op.begin
        let result ← createPaymentIntentBody dto safeKey gateway
        Call.await Op.commit
        pure result) drawn := by
      refine .seq (await_draws trivial) fun _ _ _ _ => ?_
      refine .seq (createPaymentIntentBody_draws dto safeKey gateway) fun _ _ _ _ => ?_
      exact .seq (await_draws trivial) fun _ _ _ _ => .pure trivial
    exact .tryCatch hdone fun _ _ _ _ =>
      .seq (await_draws trivial) fun _ _ _ _ => .throw trivial
  refine .tryCatch hbody fun e _ drawn _ => ?_
  refine .seq (draws_of_awaits ?_) fun _ _ _ _ => .throw trivial
  refine bind_awaits (await_awaits (admits_draws _ trivial)) fun record => ?_
  cases record with
  | none => exact .pure trivial
  | some record => exact await_awaits (admits_draws _ trivial)

theorem request_draws (request : Request) : Draws request.call drawn := by
  have hupdate : ∀ id state drawn, (Op.auto (.updatePayment id state)).Draws drawn :=
    fun _ _ _ => trivial
  have hrefresh := refreshRefundedStatus_awaits admits_draws fun id p total now =>
    hupdate id (refundedState p total now)
  cases request with
  | createPaymentIntent dto key =>
      exact .seq (createPaymentIntent_draws dto key) fun _ _ _ _ => .pure trivial
  | confirmPaymentIntent id named key =>
      exact draws_of_awaits (bind_awaits (confirmPaymentIntent_awaits admits_draws id named key)
        fun _ => .pure trivial)
  | confirmPaymentByGatewayId gatewayPaymentId key =>
      exact draws_of_awaits (bind_awaits (bind_awaits
        (findByGatewayId_awaits admits_draws gatewayPaymentId) fun payment =>
          confirmPaymentIntent_awaits admits_draws payment.id _ key) fun _ => .pure trivial)
  | markPaymentFailedByGatewayId gatewayPaymentId reason =>
      exact draws_of_awaits (bind_awaits
        (markPaymentFailedByGatewayId_awaits admits_draws hupdate gatewayPaymentId reason)
        fun _ => .pure trivial)
  | refreshRefundedStatus id =>
      exact draws_of_awaits (bind_awaits (hrefresh id) fun _ => .pure trivial)
  | refreshRefundedStatusByGatewayId gatewayPaymentId =>
      exact draws_of_awaits (bind_awaits (bind_awaits
        (findByGatewayId_awaits admits_draws gatewayPaymentId) fun payment => hrefresh payment.id)
        fun _ => .pure trivial)
  | createRefund dto key =>
      exact draws_of_awaits (bind_awaits (createRefund_awaits admits_draws dto key)
        fun _ => .pure trivial)
  | wait ms => exact .seq (await_draws trivial) fun _ _ _ _ => .pure trivial

end Calls

/-! ## The identifiers of the rows -/

/-- The payment that an entry inserts, by its identifier. -/
def Entry.insertedId : Entry → Option String
  | .query (.insertPayment p) _ => some p.id
  | _ => none

def World.paymentIds (w : World) : List String := w.db.payments.map Payment.id

/-- The payments that the open transaction of a call has inserted. -/
def World.inserting (w : World) (i : Nat) : List String :=
  (Journal.entries i w.journal).filterMap Entry.insertedId

theorem ids_write (entry : Entry) (db : Database) :
    (entry.write db).payments.map Payment.id =
      db.payments.map Payment.id ++ entry.insertedId.toList := by
  cases entry with
  | stripe op reply => simp [Entry.write, Entry.insertedId]
  | query q reply =>
      cases q with
      | insertPayment p => simp [Entry.write, Query.write, Entry.insertedId]
      | updatePayment id state =>
          have hids : (db.updated id state).map Payment.id = db.payments.map Payment.id :=
            ids_updated
          exact hids.trans (List.append_nil _).symm
      | _ => simp [Entry.write, Query.write, Entry.insertedId]

theorem ids_applyAll (entries : List Entry) (db : Database) :
    (applyAll entries db).payments.map Payment.id =
      db.payments.map Payment.id ++ entries.filterMap Entry.insertedId := by
  induction entries generalizing db with
  | nil => simp
  | cons entry entries ih =>
      rw [applyAll_cons, ih, ids_write, List.append_assoc]
      cases hinserted : entry.insertedId <;> simp [hinserted]

theorem ids_view (w : World) (i : Nat) :
    (w.view i).payments.map Payment.id = w.paymentIds ++ w.inserting i :=
  ids_applyAll _ _

/-! ## They are distinct -/

/-- What call `i` has drawn by the events of the past. -/
def drawnOf (past : List Event) (i : Nat) : List String :=
  (service.trace (fun _ => []) draw i past).getD []

structure Distinct (past : List Event) (w : World) : Prop where
  nodup : ∀ i, (w.paymentIds ++ w.inserting i).Nodup
  issued : ∀ id ∈ w.paymentIds, id ∈ w.issued
  owned : ∀ i, ∀ id ∈ w.inserting i, id ∈ drawnOf past i
  drawn : ∀ i, ∀ id ∈ drawnOf past i, id ∈ w.issued
  apart : ∀ i j, i ≠ j → ∀ id ∈ drawnOf past i, id ∉ drawnOf past j

variable {past past' : List Event} {w w' : World} {i : Nat} {c : Choice} {op : Op}
variable {r : Except Exception op.Ret} {k : List String}

theorem Distinct.rows (h : Distinct past w) : w.paymentIds.Nodup :=
  (h.nodup 0).of_append_left

theorem distinct_init (now : Nat) : Distinct [] (World.init now) where
  nodup _ := List.nodup_nil
  issued _ h := absurd h List.not_mem_nil
  owned _ _ h := absurd h List.not_mem_nil
  drawn _ _ h := absurd h List.not_mem_nil
  apart _ _ _ _ h := absurd h List.not_mem_nil

/-- An operation that draws nothing. -/
theorem Distinct.undrawn (h : Distinct past w) (hissued : w'.issued = w.issued)
    (hdrawn : ∀ j, drawnOf past' j = drawnOf past j)
    (hnodup : ∀ j, (w'.paymentIds ++ w'.inserting j).Nodup)
    (hrows : ∀ id ∈ w'.paymentIds, id ∈ w.paymentIds ∨ ∃ j, id ∈ w.inserting j)
    (howned : ∀ j, ∀ id ∈ w'.inserting j, id ∈ drawnOf past j) : Distinct past' w' where
  nodup := hnodup
  issued id hid := by
    rw [hissued]
    rcases hrows id hid with hold | ⟨j, hnew⟩
    · exact h.issued id hold
    · exact h.drawn j id (h.owned j id hnew)
  owned j id hid := by
    rw [hdrawn]
    exact howned j id hid
  drawn j id hid := by
    rw [hissued]
    exact h.drawn j id (hdrawn j ▸ hid)
  apart j j' hne id hid := by
    rw [hdrawn]
    exact h.apart j j' hne id (hdrawn j ▸ hid)

theorem Distinct.of_same (h : Distinct past w) (hissued : w'.issued = w.issued)
    (hdrawn : ∀ j, drawnOf past' j = drawnOf past j) (hids : w'.paymentIds = w.paymentIds)
    (hinserting : ∀ j, w'.inserting j = w.inserting j) : Distinct past' w' := by
  refine h.undrawn hissued hdrawn (fun j => ?_) (fun id hid => .inl (hids ▸ hid)) fun j id hid => ?_
  · rw [hids, hinserting]
    exact h.nodup j
  · exact h.owned j id (hinserting j ▸ hid)

/-- An identifier that is drawn is new; no other operation tells a call of one. -/
theorem perform_draw (h : service.perform i c op w = some (r, w')) :
    (w'.issued = w.issued ∧ draw op r k = k) ∨
      ∃ id, id ∉ w.issued ∧ draw op r k = id :: k ∧
        w' = { w with issued := id :: w.issued } := by
  have hplain : ∀ {r : Except Exception op.Ret}, op.perform i c w = some (r, w') →
      (w'.issued = w.issued ∧ draw op r k = k) ∨
        ∃ id, id ∉ w.issued ∧ draw op r k = id :: k ∧
          w' = { w with issued := id :: w.issued } := by
    intro r h
    cases op with
    | uuid =>
        simp only [Op.perform] at h
        split at h
        · cases h
        · rename_i hfresh
          cases h
          exact .inr ⟨_, hfresh, rfl, rfl⟩
    | sql q =>
        simp only [Op.perform] at h
        split at h
        · cases h
        · split at h <;> (cases h; exact .inl ⟨rfl, rfl⟩)
    | auto q =>
        simp only [Op.perform] at h
        split at h
        · cases h
        · split at h <;> (cases h; exact .inl ⟨rfl, rfl⟩)
    | _ =>
        cases h
        exact .inl ⟨rfl, rfl⟩
  change performWith i c op w = some (r, w') at h
  unfold performWith at h
  split at h
  · split at h
    · simp only [Option.some.injEq, Prod.mk.injEq] at h
      obtain ⟨rfl, rfl⟩ := h
      exact .inl ⟨rfl, by cases op <;> rfl⟩
    · exact hplain h
  · exact hplain h

/-- A statement that inserts a payment finds no other one of its identifier. -/
theorem fresh_of_valid {p : Payment} {db : Database}
    (h : (Query.insertPayment p).violates db = false) : p.id ∉ db.payments.map Payment.id := by
  intro hmem
  obtain ⟨other, hother, hid⟩ := List.mem_map.mp hmem
  simp only [Query.violates, Bool.or_eq_false_iff] at h
  have hother' := List.any_eq_false.mp h.2 other hother
  simp [hid] at hother'

theorem Distinct.drew (h : Distinct past w) {id : String} (hfresh : id ∉ w.issued)
    (hself : drawnOf past' i = id :: drawnOf past i)
    (hothers : ∀ j, j ≠ i → drawnOf past' j = drawnOf past j) :
    Distinct past' { w with issued := id :: w.issued } where
  nodup := h.nodup
  issued id' hid' := List.mem_cons_of_mem _ (h.issued id' hid')
  owned j id' hid' := by
    have hold := h.owned j id' hid'
    by_cases hj : j = i
    · subst hj
      rw [hself]
      exact List.mem_cons_of_mem _ hold
    · rwa [hothers j hj]
  drawn j id' hid' := by
    by_cases hj : j = i
    · subst hj
      rw [hself] at hid'
      rcases List.mem_cons.mp hid' with rfl | hold
      · exact List.mem_cons_self
      · exact List.mem_cons_of_mem _ (h.drawn j id' hold)
    · rw [hothers j hj] at hid'
      exact List.mem_cons_of_mem _ (h.drawn j id' hid')
  apart j j' hne id' hid' hmem := by
    by_cases hj : j = i
    · subst hj
      rw [hself] at hid'
      rw [hothers j' (Ne.symm hne)] at hmem
      rcases List.mem_cons.mp hid' with rfl | hold
      · exact hfresh (h.drawn j' id' hmem)
      · exact h.apart j j' hne id' hold hmem
    · rw [hothers j hj] at hid'
      by_cases hj' : j' = i
      · subst hj'
        rw [hself] at hmem
        rcases List.mem_cons.mp hmem with rfl | hold
        · exact hfresh (h.drawn j id' hid')
        · exact h.apart j j' hne id' hid' hold
      · rw [hothers j' hj'] at hmem
        exact h.apart j j' hne id' hid' hmem

/-! ## One operation -/

section Step

variable {e : Entry}

theorem drawnOf_self (htrace : service.trace (fun _ => []) draw i past = some k)
    (h : service.perform i c op w = some (r, w')) :
    drawnOf (past ++ [.performed w i c op w']) i = draw op r (drawnOf past i) := by
  rw [drawnOf, System.trace_performed_self h, drawnOf, htrace]
  rfl

theorem drawnOf_of_ne {j : Nat} (hj : j ≠ i) :
    drawnOf (past ++ [.performed w i c op w']) j = drawnOf past j := by
  rw [drawnOf, System.trace_performed_of_ne hj, drawnOf]

theorem inserting_add_self (h : w'.journal = Journal.add i e w.journal) :
    w'.inserting i = w.inserting i ++ e.insertedId.toList := by
  rw [World.inserting, h, Journal.entries_add_self, World.inserting, List.filterMap_append]
  cases hinserted : e.insertedId <;> simp [hinserted]

theorem inserting_add_of_ne {j : Nat} (hj : j ≠ i) (h : w'.journal = Journal.add i e w.journal) :
    w'.inserting j = w.inserting j := by
  rw [World.inserting, h, Journal.entries_add_of_ne hj, World.inserting]

/-- A transaction that does something. -/
theorem Distinct.added (h : Distinct past w) (hissued : w'.issued = w.issued)
    (hdrawn : ∀ j, drawnOf past' j = drawnOf past j) (hids : w'.paymentIds = w.paymentIds)
    (hjournal : w'.journal = Journal.add i e w.journal)
    (hfresh : ∀ id, e.insertedId = some id →
      id ∈ drawnOf past i ∧ id ∉ w.paymentIds ++ w.inserting i) : Distinct past' w' := by
  refine h.undrawn hissued hdrawn (fun j => ?_) (fun id hid => .inl (hids ▸ hid)) fun j id hid => ?_
  · rw [hids]
    by_cases hj : j = i
    · subst hj
      rw [inserting_add_self hjournal, ← List.append_assoc]
      cases hinserted : e.insertedId with
      | none => simpa using h.nodup j
      | some id =>
          rw [Option.toList_some]
          exact List.nodup_append.mpr ⟨h.nodup j, List.nodup_singleton id,
            fun a ha b hb heq => (hfresh id hinserted).2 (List.mem_singleton.mp hb ▸ heq ▸ ha)⟩
    · rw [inserting_add_of_ne hj hjournal]
      exact h.nodup j
  · by_cases hj : j = i
    · subst hj
      rw [inserting_add_self hjournal] at hid
      rcases List.mem_append.mp hid with hold | hnew
      · exact h.owned j id hold
      · exact (hfresh id (Option.mem_toList.mp hnew)).1
    · rw [inserting_add_of_ne hj hjournal] at hid
      exact h.owned j id hid

theorem inserting_drop_self (h : w'.journal = Journal.drop i w.journal) : w'.inserting i = [] := by
  rw [World.inserting, h, Journal.entries_drop_self]
  rfl

theorem inserting_drop_of_ne {j : Nat} (hj : j ≠ i) (h : w'.journal = Journal.drop i w.journal) :
    w'.inserting j = w.inserting j := by
  rw [World.inserting, h, Journal.entries_drop_of_ne hj, World.inserting]

/-- A transaction that ends, its payments being inserted or lost. -/
theorem Distinct.ended (h : Distinct past w) (hissued : w'.issued = w.issued)
    (hdrawn : ∀ j, drawnOf past' j = drawnOf past j)
    (hids : w'.paymentIds = w.paymentIds ++ w.inserting i ∨ w'.paymentIds = w.paymentIds)
    (hjournal : w'.journal = Journal.drop i w.journal) : Distinct past' w' := by
  have hrows := List.nodup_append.mp (h.nodup i)
  refine h.undrawn hissued hdrawn (fun j => ?_) (fun id hid => ?_) fun j id hid => ?_
  · by_cases hj : j = i
    · subst hj
      rw [inserting_drop_self hjournal, List.append_nil]
      rcases hids with hids | hids
      · exact hids ▸ h.nodup j
      · exact hids ▸ hrows.1
    · rw [inserting_drop_of_ne hj hjournal]
      rcases hids with hids | hids
      · have hnodup := List.nodup_append.mp (h.nodup j)
        have happart : ∀ a ∈ w.inserting i, ∀ b ∈ w.inserting j, a ≠ b := by
          intro a ha b hb heq
          subst heq
          exact h.apart i j (Ne.symm hj) a (h.owned i a ha) (h.owned j a hb)
        rw [hids, List.append_assoc]
        refine List.nodup_append.mpr
          ⟨hrows.1, List.nodup_append.mpr ⟨hrows.2.1, hnodup.2.1, happart⟩, ?_⟩
        intro a ha b hb
        rcases List.mem_append.mp hb with hb | hb
        · exact hrows.2.2 a ha b hb
        · exact hnodup.2.2 a ha b hb
      · exact hids ▸ h.nodup j
  · rcases hids with hids | hids
    · rw [hids] at hid
      exact (List.mem_append.mp hid).imp_right fun hnew => ⟨i, hnew⟩
    · exact .inl (hids ▸ hid)
  · by_cases hj : j = i
    · subst hj
      rw [inserting_drop_self hjournal] at hid
      cases hid
    · rw [inserting_drop_of_ne hj hjournal] at hid
      exact h.owned j id hid

theorem Distinct.performed (h : Distinct past w)
    (htrace : service.trace (fun _ => []) draw i past = some k) (hgood : op.Draws k)
    (hperformed : service.perform i c op w = some (r, w')) :
    Distinct (past ++ [.performed w i c op w']) w' := by
  have hk : drawnOf past i = k := by rw [drawnOf, htrace, Option.getD_some]
  have hself := drawnOf_self htrace hperformed
  rw [hk] at hself
  rcases perform_draw (k := k) hperformed with ⟨hissued, hdraw⟩ | ⟨id, hfresh, hdraw, rfl⟩
  · have hdrawn : ∀ j, drawnOf (past ++ [.performed w i c op w']) j = drawnOf past j := by
      intro j
      by_cases hj : j = i
      · subst hj
        rw [hself, hdraw, hk]
      · exact drawnOf_of_ne hj
    cases performs_of_perform hperformed with
    | failed e => exact h.of_same rfl hdrawn rfl fun _ => rfl
    | passed reply hop hdb hjournal =>
        refine h.of_same hissued hdrawn ?_ fun j => ?_
        · rw [World.paymentIds, hdb, World.paymentIds]
        · rw [World.inserting, hjournal, World.inserting]
    | sql q hok hfree hvalid =>
        refine h.added rfl hdrawn rfl rfl fun id hid => ?_
        cases q with
        | insertPayment p =>
            cases hid
            rw [hk, ← ids_view]
            exact ⟨hgood, fresh_of_valid hvalid⟩
        | _ => cases hid
    | stripe op hok => exact h.added rfl hdrawn rfl rfl fun id hid => by cases hid
    | commit => exact h.ended rfl hdrawn (.inl (ids_view w i)) rfl
    | rollback => exact h.ended rfl hdrawn (.inr rfl) rfl
    | auto q =>
        refine h.of_same rfl hdrawn ?_ fun _ => rfl
        cases q with
        | insertPayment p => exact hgood.elim
        | updatePayment id state =>
            have hids : (w.db.updated id state).map Payment.id = w.paymentIds := ids_updated
            exact hids
        | _ => rfl
    | publish message => exact h.of_same rfl hdrawn rfl fun _ => rfl
  · exact h.drew hfresh (by rw [hself, hdraw, hk]) fun j hj => drawnOf_of_ne hj

end Step

/-! ## Runs -/

theorem drawnOf_started {request : Request}
    (hnew : service.trace (fun _ => []) draw i past = none) (j : Nat) :
    drawnOf (past ++ [.started w i request]) j = drawnOf past j := by
  by_cases hj : j = i
  · subst hj
    rw [drawnOf, System.trace_started_self, drawnOf, hnew]
    rfl
  · rw [drawnOf, System.trace_started_of_ne hj, drawnOf]

/-- In every state that a run comes through, the rows of the payments have different
identifiers. -/
theorem distinct_run {now : Nat} {ms : List (Move Request Choice)} {es : List Event}
    {P : ServicePool} (hrun : service.run ms (Pool.init (World.init now)) = some (es, P)) :
    P.state.paymentIds.Nodup ∧ ∀ e ∈ es, e.before.paymentIds.Nodup := by
  let owes (e : Event) : Prop := e.before.paymentIds.Nodup
  have htracks : service.Tracks Distinct (fun _ => []) (fun _ => Op.Draws) (fun _ _ _ => True) draw
      (fun _ _ _ => True) ([] ++ es) P ∧ ∀ e ∈ es, owes e := by
    refine System.run_tracked ?_ ?_ hrun (fun _ _ => trivial) (System.tracks_init (distinct_init now))
    · intro past w i request hnew hinv _
      refine ⟨(request_draws request).program, ?_, hinv.rows⟩
      exact hinv.of_same rfl (drawnOf_started (hnew i (Nat.le_refl i))) rfl fun _ => rfl
    · intro past w i c op r w' k htrace hgood hinv hperformed _
      exact ⟨trivial, hinv.performed htrace hgood hperformed, hinv.rows⟩
  exact ⟨htracks.1.inv.rows, htracks.2⟩

end FlightBookings.Payment
