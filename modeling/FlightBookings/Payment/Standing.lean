import FlightBookings.Payment.Awaits
import FlightBookings.Payment.Status

/-! # The status that refunds give a payment

A refund computes the status of its payment from the sum that it found and its own amount, and a refresh
computes it from the table. In a serial run both give the payment the status that the sum of its
refunds calls for.
-/

namespace FlightBookings.Payment

open Await

/-! ## Requests that refund and refresh -/

def Request.refunds : Request → Bool
  | .createRefund _ _ => true
  | _ => false

def Request.refreshes : Request → Bool
  | .refreshRefundedStatus _ => true
  | .refreshRefundedStatusByGatewayId _ => true
  | _ => false

/-- An operation that reports no payment as failed. -/
def Op.Lenient : Op → Prop
  | .auto (.updatePayment _ state) => state.status ≠ .failed
  | _ => True

abbrev Lenient {α : Type} (c : Call α) : Prop :=
  c.Emits Op.Lenient (fun _ _ => True) () (fun _ _ => True) fun _ => True

theorem admits_lenient : Admits Op.Lenient := by
  intro op hop
  cases op with
  | auto q =>
      cases q with
      | updatePayment id state => exact hop.elim
      | _ => trivial
  | _ => trivial

theorem refundedState_lenient (id : String) (payment : Payment) (total now : Nat) :
    (Op.auto (.updatePayment id (refundedState payment total now))).Lenient := by
  show (if _ then PaymentStatus.refunded else _) ≠ _
  split <;> simp

theorem request_lenient {request : Request}
    (h : request.refunds = true ∨ request.refreshes = true) :
    Lenient request.call := by
  have hrefresh := refreshRefundedStatus_awaits admits_lenient refundedState_lenient
  cases request with
  | createRefund dto key =>
      exact bind_awaits (createRefund_awaits admits_lenient dto key) fun _ => .pure trivial
  | refreshRefundedStatus id => exact bind_awaits (hrefresh id) fun _ => .pure trivial
  | refreshRefundedStatusByGatewayId gatewayPaymentId =>
      exact bind_awaits (bind_awaits (findByGatewayId_awaits admits_lenient gatewayPaymentId)
        fun payment => hrefresh payment.id) fun _ => .pure trivial
  | _ => rcases h with h | h <;> cases h

/-- Requests that refund and refresh report no payment as failed. -/
theorem reportsFailed_of_requests {ms : List (Move Request Choice)} {es : List Event} {w₀ : World}
    {P : ServicePool} (hrun : service.run ms (Pool.init w₀) = some (es, P))
    (hrequests : ∀ w i request, Event.started w i request ∈ es →
      request.refunds = true ∨ request.refreshes = true) :
    ∀ e ∈ es, e.reportsFailed = none := by
  have hallows : ∀ e ∈ es, ∀ w i request, e = Event.started w i request →
      request.refunds = true ∨ request.refreshes = true :=
    fun e he w i request heq => hrequests w i request (heq ▸ he)
  refine (@System.run_ops _ _ _ _ _ _ service _ _ _ _ Op.Lenient (fun _ _ => True)
    (fun _ => True) _ _ ?_ ?_ hrun hallows trivial (by simp [Pool.init])).2
  · intro w i request _ hrequest
    exact ⟨(request_lenient (hrequest w i request rfl)).program, rfl⟩
  · intro w i c op r w' hgood _ _ _
    refine ⟨trivial, trivial, ?_⟩
    cases op with
    | auto q =>
        cases q with
        | updatePayment id state =>
            have hstatus : state.status ≠ .failed := hgood
            simp [Event.reportsFailed, hstatus]
        | _ => rfl
    | _ => rfl

/-! ## The status that a sum calls for -/

/-- What became of a confirmed payment `p` once `total` of it is refunded. -/
structure Accords (p p' : Payment) (total : Nat) : Prop where
  amount : p'.amount = p.amount
  within : total ≤ p.amount
  unrefunded : total = 0 → p'.status = .confirmed ∧ p'.refundedAt = p.refundedAt
  partly : 0 < total → total < p.amount → p'.status = .partiallyRefunded ∧ p'.refundedAt = none
  fully : 0 < total → total = p.amount → p'.status = .refunded ∧ p'.refundedAt.isSome = true

/-- The status, and whether there is a time of the refund. -/
def Payment.standing (p : Payment) : PaymentStatus × Bool := (p.status, p.refundedAt.isSome)

section Standing

variable {p p' p'' : Payment} {total : Nat}

theorem Accords.confirmed (h : p.status = .confirmed) : Accords p p 0 where
  amount := rfl
  within := Nat.zero_le _
  unrefunded _ := ⟨h, rfl⟩
  partly h := absurd h (Nat.lt_irrefl 0)
  fully h := absurd h (Nat.lt_irrefl 0)

theorem Accords.settled (h : Accords p p' total) : p'.status.settled = true := by
  rcases Nat.eq_zero_or_pos total with hzero | hpos
  · rw [(h.unrefunded hzero).1]
    rfl
  · rcases Nat.lt_or_eq_of_le h.within with hlt | heq
    · rw [(h.partly hpos hlt).1]
      rfl
    · rw [(h.fully hpos heq).1]
      rfl

theorem accords_refundedState (hamount : p'.amount = p.amount) (hpos : 0 < total)
    (hwithin : total ≤ p.amount) (now : Nat) :
    Accords p (p'.after (refundedState p' total now)) total where
  amount := hamount
  within := hwithin
  unrefunded h := absurd hpos (by omega)
  partly _ hlt := by
    have hle : ¬p'.amount ≤ total := by omega
    simp [refundedState, hle]
  fully _ heq := by
    have hle : p'.amount ≤ total := by omega
    simp [refundedState, hle]

/-- The sum decides about the standing of a payment. -/
theorem Accords.standing_eq (h : Accords p p' total) (h' : Accords p p'' total) :
    p''.standing = p'.standing := by
  rcases Nat.eq_zero_or_pos total with hzero | hpos
  · obtain ⟨hstatus, hat⟩ := h.unrefunded hzero
    obtain ⟨hstatus', hat'⟩ := h'.unrefunded hzero
    rw [Payment.standing, Payment.standing, hstatus, hstatus', hat, hat']
  · rcases Nat.lt_or_eq_of_le h.within with hlt | heq
    · obtain ⟨hstatus, hat⟩ := h.partly hpos hlt
      obtain ⟨hstatus', hat'⟩ := h'.partly hpos hlt
      rw [Payment.standing, Payment.standing, hstatus, hstatus', hat, hat']
    · obtain ⟨hstatus, hat⟩ := h.fully hpos heq
      obtain ⟨hstatus', hat'⟩ := h'.fully hpos heq
      rw [Payment.standing, Payment.standing, hstatus, hstatus', hat, hat']

end Standing

/-- The standing of the payment `id`, which was `p`, is the one that the refunds call for. -/
def Stands (p : Payment) (id : String) (db : Database) : Prop :=
  ∃ p', db.payment id = some p' ∧ Accords p p' (db.refunded id)

variable {db db' : Database} {created : Option Payment} {p : Payment} {id : String}

theorem Stands.step (hstands : Stands p id db) (h : RowStep db created none db') :
    Stands p id db' := by
  obtain ⟨p', hp', haccords⟩ := hstands
  have hid : p'.id = id := (Table.mem_of_find hp').2
  cases h with
  | kept hpayments hrefunds =>
      refine ⟨p', ?_, ?_⟩
      · rw [Database.payment, hpayments]
        exact hp'
      · rw [refunded_congr hrefunds]
        exact haccords
  | created hnew =>
      refine ⟨p', ?_, haccords⟩
      rw [Database.payment, payment_inserted hnew, if_neg]
      · exact hp'
      · intro heq
        exact hnew p' (Table.mem_of_find hp').1 (hid.trans heq)
  | @captured payment result now n keys hfound hunsettled hcount =>
      refine ⟨p', ?_, haccords⟩
      rw [Database.payment, payment_updated_found hfound, if_neg]
      · exact hp'
      · intro heq
        rw [← heq, hp', Option.some.injEq] at hfound
        rw [← hfound, haccords.settled] at hunsettled
        cases hunsettled
  | @refunded dto payment result rid key now n keys hfound hrefundable hbalance hnew hcount =>
      by_cases heq : id = payment.id
      · subst heq
        rw [hfound, Option.some.injEq] at hp'
        subst hp'
        by_cases hsuccess : result.success = true
        · have hsum : Database.refunded
              { payments := db.refundedPayments payment result
                  (db.refunded payment.id + dto.amount) now
                refunds := db.refunds ++ [newRefund rid dto payment key result now]
                ledger := db.ledger ++ refundedEntries payment
                  (newRefund rid dto payment key result now) result
                  (db.refunded payment.id + dto.amount) now n
                keys := keys } payment.id = db.refunded payment.id + dto.amount := by
            rw [refunded_append rfl, if_pos]
            · rfl
            · simp [newRefund, hsuccess]
          refine ⟨payment.after (refundedState payment (db.refunded payment.id + dto.amount) now),
            ?_, ?_⟩
          · rw [Database.payment, Database.refundedPayments, if_pos hsuccess,
              payment_updated_found hfound, if_pos rfl]
          · rw [hsum]
            have hamount := haccords.amount
            have hpositive := dto.positive
            exact accords_refundedState hamount (by omega) (by omega) now
        · refine ⟨payment, ?_, ?_⟩
          · rw [Database.payment, Database.refundedPayments, if_neg hsuccess]
            exact hfound
          · rw [refunded_append rfl, if_neg]
            · exact haccords
            · simp [newRefund, hsuccess]
      · refine ⟨p', ?_, ?_⟩
        · rw [Database.payment, Database.refundedPayments]
          split
          · rw [payment_updated_found hfound, if_neg heq]
            exact hp'
          · exact hp'
        · rw [refunded_append rfl, if_neg]
          · exact haccords
          · intro hrefund
            exact heq hrefund.1.symm
  | @refreshed payment now hfound hpositive =>
      by_cases heq : id = payment.id
      · subst heq
        rw [hfound, Option.some.injEq] at hp'
        subst hp'
        refine ⟨payment.after (refundedState payment (db.refunded payment.id) now), ?_, ?_⟩
        · rw [Database.payment, payment_updated_found hfound, if_pos rfl]
        · exact accords_refundedState haccords.amount hpositive haccords.within now
      · refine ⟨p', ?_, haccords⟩
        rw [Database.payment, payment_updated_found hfound, if_neg heq]
        exact hp'

/-! ## Serial runs -/

/-- An operation of call `i`. -/
def Event.isOf (i : Nat) : Event → Bool
  | .performed _ j _ _ _ => i = j
  | _ => false

/-- The standing of the payment is the same before and after. -/
def Event.keepsStanding (id : String) (e : Event) : Prop :=
  (e.after.db.payment id).map Payment.standing = (e.before.db.payment id).map Payment.standing

theorem Shape.not_refreshes {request : Request} {log : List Entry} (h : Shape request log) :
    request.refreshes = false := by
  have hnames : ∃ k, request.Names k := by
    cases h with
    | replayed hnames => exact ⟨_, hnames⟩
    | created hnames => exact ⟨_, hnames⟩
    | settled hnames => exact ⟨_, hnames⟩
    | confirmed hnames => exact ⟨_, hnames⟩
    | refunded hnames => exact ⟨_, hnames⟩
  obtain ⟨k, hnames⟩ := hnames
  cases request with
  | refreshRefundedStatus paymentId => exact hnames.elim
  | refreshRefundedStatusByGatewayId gatewayPaymentId => exact hnames.elim
  | _ => rfl

variable {past : List Event} {w w' : World} {i : Nat} {c : Choice} {t : CallLog} {op : Op}
variable {r : Except Exception op.Ret}

/-- A refresh stores no refund. -/
theorem SerialStep.refunds_of_refreshes (h : SerialStep past i c op r w w' t)
    (hrefreshes : t.request.refreshes = true) : w'.db.refunds = w.db.refunds := by
  have hlegal := h.legal
  cases h.performs with
  | passed _ hop hdb => rw [hdb]
  | commit hok =>
      rw [hlegal.1.not_refreshes] at hrefreshes
      cases hrefreshes
  | auto q =>
      cases q with
      | insertRefund refund => exact hlegal.elim
      | _ => rfl
  | _ => rfl

/-- The payment stands as its refunds call for, and no refresh has changed its standing. -/
structure Settling (p : Payment) (id : String) (past : List Event) (w : World) : Prop where
  ids : (w.db.payments.map Payment.id).Nodup
  stands : Stands p id w.db
  refreshed : ∀ e ∈ past, ∀ i, e.isOf i = true →
    ∃ t, logOf past i = some t ∧ (t.request.refreshes = true → e.keepsStanding id)

theorem Settling.started (hinv : Settling p id past w) {request : Request}
    (hfresh : ∀ j, i ≤ j → logOf past j = none) :
    Settling p id (past ++ [.started w i request]) w := by
  refine ⟨hinv.ids, hinv.stands, ?_⟩
  intro e he j hof
  rcases List.mem_append.mp he with hold | hnew
  · obtain ⟨t, hlog, hkeeps⟩ := hinv.refreshed e hold j hof
    exact ⟨t, logOf_started hfresh hlog, hkeeps⟩
  · rw [List.mem_singleton.mp hnew] at hof
    cases hof

theorem Settling.performed (hinv : Settling p id past w) (h : SerialStep past i c op r w w' t)
    (hreports : Event.reportsFailed (.performed w i c op w') = none) :
    Settling p id (past ++ [.performed w i c op w']) w' := by
  have hrows := h.rows hinv.ids
  rw [hreports] at hrows
  have hstands : Stands p id w'.db := hinv.stands.step hrows
  refine ⟨ids_nodup hrows hinv.ids, hstands, ?_⟩
  intro e he j hof
  rcases List.mem_append.mp he with hold | hnew
  · obtain ⟨t', hlog, hkeeps⟩ := hinv.refreshed e hold j hof
    obtain ⟨t'', hlog', hsame⟩ := h.request_stays hlog
    exact ⟨t'', hlog', fun hrefreshes => hkeeps (hsame ▸ hrefreshes)⟩
  · rw [List.mem_singleton.mp hnew] at hof ⊢
    cases of_decide_eq_true hof
    refine ⟨_, h.log_self, fun hrefreshes => ?_⟩
    rw [advance_request] at hrefreshes
    obtain ⟨p', hp', haccords⟩ := hinv.stands
    obtain ⟨p'', hp'', haccords'⟩ := hstands
    rw [refunded_congr (h.refunds_of_refreshes hrefreshes)] at haccords'
    show (w'.db.payment id).map _ = (w.db.payment id).map _
    rw [hp', hp'', Option.map_some, Option.map_some, haccords.standing_eq haccords']

/-- From a confirmed payment of which nothing is refunded, after every operation of refunds and
refreshes that come one after the other, the payment has the status that its refunds call for, and no
refresh changes its status or whether it has a time of the refund. -/
theorem standing_follows_refunds {w₀ : World} {ms : List (Move Request Choice)} {es : List Event}
    {P : ServicePool} {p : Payment} {id : String} (hidle : w₀.journal = [])
    (hids : (w₀.db.payments.map Payment.id).Nodup) (hpayment : w₀.db.payment id = some p)
    (hconfirmed : p.status = .confirmed) (hunrefunded : w₀.db.refunded id = 0)
    (hrun : service.run ms (Pool.init w₀) = some (es, P))
    (hserial : service.serial ms (Pool.init w₀) = true)
    (hrequests : ∀ w i request, Event.started w i request ∈ es →
      request.refunds = true ∨ request.refreshes = true) :
    (∀ e ∈ es, ∃ p', e.after.db.payment id = some p' ∧ Accords p p' (e.after.db.refunded id)) ∧
    ∀ w i request, Event.started w i request ∈ es → request.refreshes = true →
      ∀ e ∈ es, e.isOf i = true → e.keepsStanding id := by
  have hinit : Settling p id [] w₀ :=
    ⟨hids, ⟨p, hpayment, hunrefunded ▸ .confirmed hconfirmed⟩, fun _ he => by cases he⟩
  obtain ⟨hremembers, hstands⟩ := run_serial_history_from (Settling p id)
    (fun e => e.reportsFailed = none) (fun e => Stands p id e.after.db) hidle hinit
    (fun past w i request hfresh hinv _ _ => ⟨hinv.started hfresh, hinv.stands⟩)
    (fun past i c op r w w' t hstep hinv hreports =>
      have hinv' := hinv.performed hstep hreports
      ⟨hinv', hinv'.stands⟩)
    hrun hserial (reportsFailed_of_requests hrun hrequests)
  refine ⟨hstands, ?_⟩
  intro w i request hstarted hrefreshes e he hof
  obtain ⟨t, hlog, hkeeps⟩ := hremembers.inv.2.2.refreshed e he i hof
  obtain ⟨t', hlog', hrequest⟩ := hremembers.inv.1.requests i w request hstarted
  rw [hlog, Option.some.injEq] at hlog'
  subst hlog'
  exact hkeeps (hrequest ▸ hrefreshes)

/-- A payment of 100 that is confirmed. -/
def confirmedPayment : Payment :=
  { id := "a4", bookingId := 1, userId := 2, amount := 100, currency := "USD"
    paymentMethod := some .card, gateway := "stripe", gatewayPaymentId := "pi", clientSecret := none
    correlationId := "k", status := .confirmed, failureCode := none, failureReason := none
    confirmedAt := some 0, refundedAt := none, metadata := [] }

/-- Refunds of 60, of 60 again, which is too much, and of 40, each of them with a refresh. -/
def refundedByParts : List (Move Request Choice) :=
  .start (.createRefund partRefund (some "r")) :: succeeds 0 "c" "succeeded" 14 ++
    .start (.refreshRefundedStatus "a4") :: succeeds 1 "d" "" 4 ++
    .start (.createRefund partRefund (some "s")) :: succeeds 2 "e" "succeeded" 7 ++
    .start (.refreshRefundedStatusByGatewayId "pi") :: succeeds 3 "f" "" 5 ++
    .start (.createRefund { partRefund with amount := 40, positive := by decide } (some "t")) ::
      succeeds 4 "g" "succeeded" 14 ++
    .start (.refreshRefundedStatus "a4") :: succeeds 5 "h" "" 4

def afterConfirmation : World :=
  { World.init 0 with db := { Database.empty with payments := [confirmedPayment] } }

/-- The request that an event starts refunds or refreshes. -/
def Event.startsRefund : Event → Bool
  | .started _ _ request => request.refunds || request.refreshes
  | _ => true

theorem standing_follows_parts :
    ∃ (es : List Event) (P : ServicePool),
      service.run refundedByParts (Pool.init afterConfirmation) = some (es, P) ∧
      P.state.db.refunded "a4" = 100 ∧
      (∀ e ∈ es, ∃ p', e.after.db.payment "a4" = some p' ∧
        Accords confirmedPayment p' (e.after.db.refunded "a4")) ∧
      ∀ w i request, Event.started w i request ∈ es → request.refreshes = true →
        ∀ e ∈ es, e.isOf i = true → e.keepsStanding "a4" := by
  have hrun : (service.run refundedByParts (Pool.init afterConfirmation)).any (fun result =>
      result.1.all Event.startsRefund && result.2.state.db.refunded "a4" = 100) = true := by
    decide +kernel
  obtain ⟨es, P, hrun, hevents⟩ := System.exists_run hrun
  rw [Bool.and_eq_true, List.all_eq_true, decide_eq_true_eq] at hevents
  have hpayment : afterConfirmation.db.payment "a4" = some confirmedPayment := by decide
  have hstands := standing_follows_refunds rfl (by decide) hpayment rfl (by decide) hrun
    (by decide +kernel) fun w i request hmem => by
      have hstarts := hevents.1 _ hmem
      rwa [Event.startsRefund, Bool.or_eq_true] at hstarts
  exact ⟨es, P, hrun, hevents.2, hstands⟩

end FlightBookings.Payment
