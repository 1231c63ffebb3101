import FlightBookings.Payment.Serial

/-! # The status of a payment

Once its money is captured a payment is confirmed, partially refunded or
refunded, and only a webhook that reports it as failed takes it back.
-/

namespace FlightBookings.Payment

open Await

/-- No payment whose money is captured goes back to a state before that, and none that is refunded
goes back to one in which it is not. -/
def Forward (db db' : Database) : Prop :=
  ∀ id p, db.payment id = some p → ∃ p', db'.payment id = some p' ∧
    (p.status.settled = true → p'.status.settled = true) ∧
    (p.status = .refunded → p'.status = .refunded)

theorem Forward.trans {db₁ db₂ db₃ : Database} (h : Forward db₁ db₂) (h' : Forward db₂ db₃) :
    Forward db₁ db₃ := by
  intro id p hp
  obtain ⟨p', hp', hsettled, hrefunded⟩ := h id p hp
  obtain ⟨p'', hp'', hsettled', hrefunded'⟩ := h' id p' hp'
  exact ⟨p'', hp'', fun h => hsettled' (hsettled h), fun h => hrefunded' (hrefunded h)⟩

/-- A webhook reports a payment as failed whose money is captured. -/
def failsSettled (db : Database) (failed : Option String) : Bool :=
  (failed.bind db.payment).any fun p => p.status.settled

def Event.failsSettled (e : Event) : Bool := Payment.failsSettled e.before.db e.reportsFailed

/-- Payments have identifiers of their own, and a payment is refunded when its refunds amount to
it. -/
structure RefundsCover (db : Database) : Prop where
  ids : (db.payments.map Payment.id).Nodup
  covers : ∀ id p, db.payment id = some p → p.status = .refunded → p.amount ≤ db.refunded id

variable {db db' : Database} {created : Option Payment} {failed : Option String}

theorem refundedState_status {payment : Payment} {total now : Nat} :
    (refundedState payment total now).status.settled = true ∧
      ((refundedState payment total now).status = .refunded ↔ payment.amount ≤ total) := by
  unfold refundedState
  by_cases h : payment.amount ≤ total
  · simp [h, PaymentStatus.settled]
  · simp [h, PaymentStatus.settled]

theorem capturedState_status {payment : Payment} {result : PaymentResult} {now : Nat} :
    (capturedState payment result now).status ≠ .refunded := by
  unfold capturedState
  dsimp only
  split <;> simp

theorem ids_nodup (h : RowStep db created failed db') (hids : (db.payments.map Payment.id).Nodup) :
    (db'.payments.map Payment.id).Nodup := by
  cases h with
  | kept hpayments => rwa [hpayments]
  | created hnew => exact Table.nodup_insert hids (Table.find_eq_none.mpr hnew)
  | captured => rwa [ids_updated]
  | refunded =>
      show ((Database.refundedPayments _ _ _ _ _).map Payment.id).Nodup
      unfold Database.refundedPayments
      split
      · rwa [ids_updated]
      · exact hids
  | failed => rwa [ids_updated]
  | refreshed => rwa [ids_updated]

/-- What a step makes of a payment, when `total` of it is refunded afterwards. -/
inductive Moves (failed : Option String) (total : Nat) (p : Payment) : Payment → Prop where
  | stays (hfailed : failed ≠ some p.id) : Moves failed total p p
  | captured {result : PaymentResult} {now : Nat} (hfailed : failed ≠ some p.id)
      (hunsettled : p.status.settled = false) :
      Moves failed total p (p.after (capturedState p result now))
  | refunded {now : Nat} (hfailed : failed ≠ some p.id) :
      Moves failed total p (p.after (refundedState p total now))
  | failed {reason : Option String} (hfailed : failed = some p.id) :
      Moves failed total p (p.after (failedPayment p reason))

theorem RowStep.moves (h : RowStep db created failed db') {id : String} {p : Payment}
    (hp : db.payment id = some p) :
    ∃ p', db'.payment id = some p' ∧ Moves failed (db'.refunded id) p p' := by
  have hid : p.id = id := (Table.mem_of_find hp).2
  subst hid
  cases h with
  | kept hpayments =>
      refine ⟨p, ?_, .stays (by simp)⟩
      rw [Database.payment, hpayments]
      exact hp
  | created hnew =>
      refine ⟨p, ?_, .stays (by simp)⟩
      rw [Database.payment, payment_inserted hnew, if_neg (hnew p (Table.mem_of_find hp).1)]
      exact hp
  | @captured payment result now n keys hfound hunsettled hcount =>
      rw [Database.payment, payment_updated_found hfound]
      by_cases heq : p.id = payment.id
      · rw [← heq, hp, Option.some.injEq] at hfound
        subst hfound
        exact ⟨_, if_pos rfl, .captured (by simp) hunsettled⟩
      · exact ⟨p, (if_neg heq).trans hp, .stays (by simp)⟩
  | @refunded dto payment result rid key now n keys hfound hrefundable hbalance hnew hcount =>
      rw [Database.payment, Database.refundedPayments]
      by_cases hsuccess : result.success = true
      · rw [if_pos hsuccess, payment_updated_found hfound]
        by_cases heq : p.id = payment.id
        · rw [← heq, hp, Option.some.injEq] at hfound
          subst hfound
          refine ⟨_, if_pos rfl, ?_⟩
          rw [refunded_append rfl, if_pos]
          · exact .refunded (by simp)
          · simp [newRefund, hsuccess]
        · exact ⟨p, (if_neg heq).trans hp, .stays (by simp)⟩
      · exact ⟨p, (congrArg _ (if_neg hsuccess)).trans hp, .stays (by simp)⟩
  | @failed payment reason hfound =>
      rw [Database.payment, payment_updated_found hfound]
      by_cases heq : p.id = payment.id
      · rw [← heq, hp, Option.some.injEq] at hfound
        subst hfound
        exact ⟨_, if_pos rfl, .failed rfl⟩
      · exact ⟨p, (if_neg heq).trans hp, .stays (by simpa using Ne.symm heq)⟩
  | @refreshed payment now hfound hpositive =>
      rw [Database.payment, payment_updated_found hfound]
      by_cases heq : p.id = payment.id
      · rw [← heq, hp, Option.some.injEq] at hfound
        subst hfound
        exact ⟨_, if_pos rfl, .refunded (by simp)⟩
      · exact ⟨p, (if_neg heq).trans hp, .stays (by simp)⟩

/-- A payment that was not there before is the one that the step creates. -/
theorem RowStep.appears (h : RowStep db created failed db') {id : String} {p : Payment}
    (hnone : db.payment id = none) (hp : db'.payment id = some p) :
    created = some p ∧ 0 < p.amount ∧ (p.status.settled = true → p.status = .confirmed) := by
  have hupdated : ∀ {payment : Payment} {state : PaymentState},
      db.payment payment.id = some payment →
      Table.find Payment.id id (db.updated payment.id state) ≠ some p := by
    intro payment state hfound h
    rw [payment_updated_found hfound, if_neg] at h
    · rw [hnone] at h
      cases h
    · intro heq
      rw [heq, hfound] at hnone
      cases hnone
  cases h with
  | kept hpayments =>
      rw [Database.payment, hpayments] at hp
      rw [Database.payment, hp] at hnone
      cases hnone
  | @created payment keys hnew hpositive hstatus =>
      rw [Database.payment, payment_inserted hnew] at hp
      split at hp
      · cases hp
        exact ⟨rfl, hpositive, hstatus⟩
      · rw [hnone] at hp
        cases hp
  | captured hfound => exact absurd hp (hupdated hfound)
  | refunded hfound =>
      rw [Database.payment, Database.refundedPayments] at hp
      split at hp
      · exact absurd hp (hupdated hfound)
      · rw [Database.payment, hp] at hnone
        cases hnone
  | failed hfound => exact absurd hp (hupdated hfound)
  | refreshed hfound => exact absurd hp (hupdated hfound)

theorem refunded_mono (h : RowStep db created failed db') (id : String) :
    db.refunded id ≤ db'.refunded id := by
  cases h with
  | kept hpayments hrefunds => exact Nat.le_of_eq (refunded_congr hrefunds id).symm
  | refunded =>
      exact Nat.le_trans (Nat.le_add_right _ _) (Nat.le_of_eq (refunded_append rfl id).symm)
  | _ => exact Nat.le_refl _

theorem RefundsCover.step (hinv : RefundsCover db) (h : RowStep db created failed db') :
    RefundsCover db' := by
  refine ⟨ids_nodup h hinv.ids, ?_⟩
  intro id p' hp' hrefunded
  cases hp : db.payment id with
  | none =>
      obtain ⟨-, -, hstatus⟩ := h.appears hp hp'
      rw [hrefunded] at hstatus
      cases hstatus rfl
  | some p =>
      have hmono : db.refunded id ≤ db'.refunded id := refunded_mono h id
      obtain ⟨p'', hp'', hmoves⟩ := h.moves hp
      rw [hp', Option.some.injEq] at hp''
      subst hp''
      cases hmoves with
      | stays => exact Nat.le_trans (hinv.covers id p' hp hrefunded) hmono
      | captured => exact absurd hrefunded capturedState_status
      | refunded => exact refundedState_status.2.mp hrefunded
      | failed => cases hrefunded

/-- A step goes forward exactly when it fails no payment whose money is captured. -/
theorem forward_iff (hinv : RefundsCover db) (h : RowStep db created failed db') :
    Forward db db' ↔ failsSettled db failed = false := by
  constructor
  · intro hforward
    cases hfailed : failed with
    | none => rfl
    | some id =>
        cases hp : db.payment id with
        | none => simp [failsSettled, hp]
        | some p =>
            have hid : p.id = id := (Table.mem_of_find hp).2
            obtain ⟨p', hp', hmoves⟩ := h.moves hp
            obtain ⟨p'', hp'', hsettled, -⟩ := hforward id p hp
            rw [hp', Option.some.injEq] at hp''
            subst hp'' hfailed
            have hunsettled : p'.status.settled = false := by
              cases hmoves with
              | failed => rfl
              | stays hne => exact absurd (congrArg some hid.symm) hne
              | captured hne => exact absurd (congrArg some hid.symm) hne
              | refunded hne => exact absurd (congrArg some hid.symm) hne
            cases hbefore : p.status.settled with
            | false => simp [failsSettled, hp, hbefore]
            | true =>
                rw [hsettled hbefore] at hunsettled
                cases hunsettled
  · intro hfails id p hp
    have hid : p.id = id := (Table.mem_of_find hp).2
    obtain ⟨p', hp', hmoves⟩ := h.moves hp
    refine ⟨p', hp', ?_⟩
    cases hmoves with
    | stays => exact ⟨fun h => h, fun h => h⟩
    | captured hfailed hunsettled =>
        refine ⟨fun h => ?_, fun h => ?_⟩
        · rw [hunsettled] at h
          cases h
        · rw [h] at hunsettled
          cases hunsettled
    | refunded =>
        refine ⟨fun _ => refundedState_status.1, fun h => refundedState_status.2.mpr ?_⟩
        exact Nat.le_trans (hinv.covers id p hp h) (refunded_mono ‹_› id)
    | failed hfailed =>
        have hunsettled : p.status.settled = false := by
          simpa [failsSettled, hfailed, hid, hp] using hfails
        refine ⟨fun h => ?_, fun h => ?_⟩
        · rw [hunsettled] at h
          cases h
        · rw [h] at hunsettled
          cases hunsettled

variable {now : Nat} {ms : List (Move Request Choice)} {es : List Event} {P : ServicePool}

theorem refundsCover_init : RefundsCover (World.init now).db :=
  ⟨List.nodup_nil, fun _ _ h => by cases h⟩

/-- In a serial run the status of a payment never moves backwards exactly when no webhook reports
a payment as failed whose money is captured. -/
theorem status_forward_iff (hrun : service.run ms (Pool.init (World.init now)) = some (es, P))
    (hserial : service.serial ms (Pool.init (World.init now)) = true) :
    System.Along (fun w w' => Forward w.db w'.db) es ↔ ∀ e ∈ es, e.failsSettled = false := by
  have htrans : ∀ w₁ w₂ w₃ : World, Forward w₁.db w₂.db → Forward w₂.db w₃.db →
      Forward w₁.db w₃.db := fun _ _ _ => Forward.trans
  rw [System.along_iff htrans hrun]
  have hevents : ∀ e ∈ es, Forward e.before.db e.after.db ↔ e.failsSettled = false := by
    refine (run_serial_history (fun _ w => RefundsCover w.db) (fun _ => True) _
      refundsCover_init ?_ ?_ hrun hserial fun _ _ => trivial).2
    · intro past w i request _ hinv _ _
      exact ⟨hinv, forward_iff hinv (.kept rfl rfl rfl)⟩
    · intro past i c op r w w' t hstep hinv _
      have hrows := hstep.rows hinv.ids
      exact ⟨hinv.step hrows, forward_iff hinv hrows⟩
  exact forall₂_congr hevents

/-- A payment that is confirmed, refunded in part and refreshed. -/
theorem status_forward_refunded :
    ∃ (es : List Event) (P : ServicePool), service.run
        (partlyRefunded ++ .start (.refreshRefundedStatusByGatewayId "pi") :: succeeds 3 "d" "" 5)
        (Pool.init (World.init 0)) = some (es, P) ∧
      (System.Along (fun w w' => Forward w.db w'.db) es ↔ ∀ e ∈ es, e.failsSettled = false) := by
  have hrun : (service.run
      (partlyRefunded ++ .start (.refreshRefundedStatusByGatewayId "pi") :: succeeds 3 "d" "" 5)
      (Pool.init (World.init 0))).any (fun result => result.2.idle) = true := by decide +kernel
  obtain ⟨es, P, hrun, -⟩ := System.exists_run hrun
  exact ⟨es, P, hrun, status_forward_iff hrun (by decide +kernel)⟩

/-- A webhook that reports the failure of an earlier attempt comes after the confirmation. -/
theorem confirmed_then_failed :
    ∃ (es : List Event) (P : ServicePool), service.run
        (confirmed ++ .start (.markPaymentFailedByGatewayId "pi" none) :: succeeds 2 "d" "" 2)
        (Pool.init (World.init 0)) = some (es, P) ∧
      service.serial
        (confirmed ++ .start (.markPaymentFailedByGatewayId "pi" none) :: succeeds 2 "d" "" 2)
        (Pool.init (World.init 0)) = true ∧
      ¬System.Along (fun w w' => Forward w.db w'.db) es := by
  have hrun : (service.run
      (confirmed ++ .start (.markPaymentFailedByGatewayId "pi" none) :: succeeds 2 "d" "" 2)
      (Pool.init (World.init 0))).any (fun result => result.1.any fun e =>
        (e.before.db.payment "a4").any (fun p => p.status.settled) &&
        !(e.after.db.payment "a4").any fun p => p.status.settled) = true := by decide +kernel
  obtain ⟨es, P, hrun, hback⟩ := System.exists_run hrun
  refine ⟨es, P, hrun, by decide +kernel, fun halong => ?_⟩
  obtain ⟨e, he, hback⟩ := List.any_eq_true.mp hback
  rw [Bool.and_eq_true, Option.any_eq_true, Bool.not_eq_true'] at hback
  obtain ⟨⟨p, hp, hsettled⟩, hunsettled⟩ := hback
  obtain ⟨p', hp', hkeeps, -⟩ := halong.1 e he "a4" p hp
  rw [hp', Option.any_some, hkeeps hsettled] at hunsettled
  cases hunsettled

end FlightBookings.Payment
