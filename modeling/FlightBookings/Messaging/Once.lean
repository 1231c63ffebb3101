import FlightBookings.Messaging.Retries

/-! # Messages that are not lost

As long as its consumers stay connected, a message that was handled is not handled
again: the call that is done with it is the last one to see it.
-/

namespace FlightBookings.Messaging

open Await

/-- There is no use in another round. -/
def Conclusive : Choice → Prop
  | .ok _ => True
  | .error e => e.isClientError = true

/-- The call has the message until it settles it, and for good if it is done with it. -/
structure Keeps (b : Broker) (k : Handling) (delivery : Delivery) : Prop where
  refused : k.refused = false
  unsettled : k.settled = false → b.held delivery.message delivery.tag = true
  settled : k.settled = true → ∀ outcome, k.outcome = some outcome → Conclusive outcome →
    ∃ msg, b.message delivery.message = some msg ∧ msg.place = .removed

/-- Messages that were not lost are with one call at a time. -/
structure Steady (maxRetries : Nat) (past : List Event) (b : Broker) : Prop where
  single : ∀ i j k k' delivery delivery', handlingOf maxRetries past i = some k →
    handlingOf maxRetries past j = some k' → k.delivery = some delivery →
      k'.delivery = some delivery' → delivery.tag = delivery'.tag → i = j
  keeps : ∀ i k delivery, handlingOf maxRetries past i = some k → k.delivery = some delivery →
    losses delivery.message past = 0 → Keeps b k delivery
  last : ∀ i m outcome, Handled past i m outcome → Conclusive outcome → losses m past = 0 →
    (handlers m past).getLast? = some i

section Steps

variable {maxRetries maxLength : Nat} {choice : Choice} {op : Op} {a : Except Failure op.Ret} {b b' : Broker}
variable {past : List Event} {i j m tag : Nat} {msg : Message} {k : Handling} {delivery : Delivery}
variable {outcome : Choice}

theorem final_of_conclusive (h : Conclusive outcome) : Handling.Final maxRetries delivery outcome := by
  cases outcome with
  | ok _ => trivial
  | error e => exact .inl h

theorem losses_eq_zero {e : Event} (h : losses m (past ++ [e]) = 0) :
    losses m past = 0 ∧ loses m e = false := by
  rw [losses_snoc] at h
  cases hloses : loses m e with
  | false => exact ⟨by omega, rfl⟩
  | true =>
      rw [hloses] at h
      simp at h

/-- A message that is gone or with a call stays so, unless it is lost or the call settles it. -/
theorem message_kept (hstep : Step b op a b') (hfresh : b.message b.published = none)
    (hmsg : b.message m = some msg)
    (haway : msg.place ≠ .queued ∧ msg.place ≠ .retrying ∧ msg.place ≠ .overflown)
    (hloses : loses m (.performed b i choice op b') = false)
    (hother : ∀ tag, msg.place = .delivered tag → op ≠ .ack m tag ∧ op ≠ .nack m tag) :
    b'.message m = some msg := by
  obtain ⟨msg', hmsg'⟩ := message_of_step hstep hmsg
  cases change_of_step hstep hmsg' with
  | kept hold => rw [hmsg', ← hold, hmsg]
  | published =>
      rw [hfresh] at hmsg
      cases hmsg
  | taken hold hplace =>
      cases hmsg.symm.trans hold
      exact absurd hplace haway.1
  | expired hold hplace =>
      cases hmsg.symm.trans hold
      exact absurd hplace (not_or.mpr haway.2)
  | dropped hold hplace =>
      cases hmsg.symm.trans hold
      exact absurd hplace haway.2.2
  | pushedOut hold hplace =>
      cases hmsg.symm.trans hold
      exact absurd hplace haway.1
  | acked hold hplace =>
      cases hmsg.symm.trans hold
      exact absurd rfl (hother _ hplace).1
  | nacked hold hplace =>
      cases hmsg.symm.trans hold
      exact absurd rfl (hother _ hplace).2
  | lost hold hplace =>
      have hdelivered : b.isDelivered m = true := Broker.isDelivered_iff.mpr ⟨_, _, hold, hplace⟩
      simp [loses, hdelivered] at hloses

theorem Keeps.mono (h : Keeps b k delivery) (hstep : Step b op a b')
    (hfresh : b.message b.published = none)
    (hloses : loses delivery.message (.performed b i choice op b') = false)
    (hother : ∀ m, op ≠ .ack m delivery.tag ∧ op ≠ .nack m delivery.tag) : Keeps b' k delivery where
  refused := h.refused
  unsettled hsettled := by
    obtain ⟨msg, hmsg, hplace⟩ := Broker.held_iff.mp (h.unsettled hsettled)
    refine Broker.held_iff.mpr ⟨msg, ?_, hplace⟩
    refine message_kept hstep hfresh hmsg (by simp [hplace]) hloses fun tag htag => ?_
    obtain rfl : delivery.tag = tag := Place.delivered.inj (hplace.symm.trans htag)
    exact hother _
  settled hsettled outcome houtcome hconclusive := by
    obtain ⟨msg, hmsg, hplace⟩ := h.settled hsettled outcome houtcome hconclusive
    refine ⟨msg, message_kept hstep hfresh hmsg (by simp [hplace]) hloses fun tag htag => ?_, hplace⟩
    rw [hplace] at htag
    cases htag

/-- What a call makes of its own step. -/
theorem Keeps.learns
    (h : ∀ delivery, k.delivery = some delivery → losses delivery.message past = 0 → Keeps b k delivery)
    (hfresh : b.message b.published = none) (hpermits : k.Permits maxRetries op)
    (hperform : op.perform choice b = (a, b'))
    (hdelivery : (Handling.advance op a k).delivery = some delivery)
    (hkept : losses delivery.message (past ++ [.performed b i choice op b']) = 0) :
    Keeps b' (Handling.advance op a k) delivery := by
  have hstep := step_of_perform hperform
  obtain ⟨hpast, hloses⟩ := losses_eq_zero hkept
  cases op with
  | publish => exact (h delivery hdelivery hpast).mono hstep hfresh hloses (by simp)
  | expire => exact (h delivery hdelivery hpast).mono hstep hfresh hloses (by simp)
  | overflow => exact (h delivery hdelivery hpast).mono hstep hfresh hloses (by simp)
  | disconnect => exact (h delivery hdelivery hpast).mono hstep hfresh hloses (by simp)
  | take m =>
      obtain rfl : k = {} := hpermits
      cases hstep with
      | takeNothing => cases hdelivery
      | take hmsg hplace =>
          cases hdelivery
          constructor
          case refused => rfl
          case unsettled => exact fun _ => Broker.held_iff.mpr ⟨_, Broker.put_self .., rfl⟩
          case settled => exact fun hsettled => by cases hsettled
  | callback m =>
      obtain ⟨delivery', rfl, rfl⟩ := hpermits
      cases hperform
      cases hdelivery
      have hkeeps := h delivery rfl hpast
      exact ⟨hkeeps.refused, hkeeps.unsettled, fun hsettled => by cases hsettled⟩
  | ack m tag =>
      obtain ⟨delivery', outcome', howns, rfl, rfl, -⟩ := hpermits
      have hsame : k.delivery = some delivery := by cases a <;> exact hdelivery
      cases howns.delivery.symm.trans hsame
      have hkeeps := h delivery hsame hpast
      have hheld := hkeeps.unsettled howns.settled
      cases hstep with
      | ackRefused hnot =>
          rw [hheld] at hnot
          cases hnot
      | ack hmsg hplace =>
          constructor
          case refused => exact hkeeps.refused
          case unsettled => exact fun hsettled => by cases hsettled
          case settled => exact fun _ _ _ _ => ⟨_, Broker.put_self .., rfl⟩
  | nack m tag =>
      obtain ⟨delivery', outcome', howns, rfl, rfl, hfinal⟩ := hpermits
      have hsame : k.delivery = some delivery := by cases a <;> exact hdelivery
      cases howns.delivery.symm.trans hsame
      have hkeeps := h delivery hsame hpast
      have hheld := hkeeps.unsettled howns.settled
      cases hstep with
      | nackRefused hnot =>
          rw [hheld] at hnot
          cases hnot
      | nack hmsg hplace =>
          constructor
          case refused => exact hkeeps.refused
          case unsettled => exact fun hsettled => by cases hsettled
          case settled =>
            intro _ outcome houtcome hconclusive
            have hnotFinal := hfinal.resolve_left (by simp [hkeeps.refused])
            cases howns.outcome.symm.trans houtcome
            exact absurd (final_of_conclusive hconclusive) hnotFinal

/-- A message is handed out under a tag of its own. -/
theorem delivery_cases {kj : Handling} (hk : handlingOf maxRetries past i = some k)
    (hpermits : k.Permits maxRetries op) (hperform : op.perform choice b = (a, b'))
    (hj : handlingOf maxRetries (past ++ [.performed b i choice op b']) j = some kj)
    (hdelivery : kj.delivery = some delivery) :
    (∃ k', handlingOf maxRetries past j = some k' ∧ k'.delivery = some delivery) ∨
      (j = i ∧ delivery.tag = b.tags) := by
  rcases System.trace_performed_cases (congrArg some hperform) hk hj with ⟨rfl, rfl⟩ | ⟨-, hold⟩
  · cases hknown : k.delivery with
    | some delivery' =>
        have hsame := Handling.advance_delivery (a := a) hpermits hknown
        exact .inl ⟨k, hk, hknown.trans (hsame.symm.trans hdelivery)⟩
    | none =>
        cases step_of_perform hperform with
        | take hmsg hplace =>
            cases hdelivery
            exact .inr ⟨rfl, rfl⟩
        | _ =>
            have hnone : k.delivery = some delivery := hdelivery
            rw [hknown] at hnone
            cases hnone
  · exact .inl ⟨kj, hold, hdelivery⟩

theorem steady_init : Steady maxRetries [] (Broker.empty maxLength) where
  single _ _ _ _ _ _ hk := by cases hk
  keeps _ _ _ hk := by cases hk
  last _ _ _ h := by
    obtain ⟨_, _, hmem⟩ := h
    cases hmem

theorem Steady.started (h : Steady maxRetries past b) (request : Request) :
    Steady maxRetries (past ++ [.started b i request]) b where
  single j j' kj kj' delivery delivery' hj hj' hdelivery hdelivery' htag := by
    rcases System.trace_started_cases hj with ⟨-, rfl⟩ | ⟨-, hold⟩
    · cases hdelivery
    · rcases System.trace_started_cases hj' with ⟨-, rfl⟩ | ⟨-, hold'⟩
      · cases hdelivery'
      · exact h.single j j' kj kj' delivery delivery' hold hold' hdelivery hdelivery' htag
  keeps j kj delivery hj hdelivery hkept := by
    rcases System.trace_started_cases hj with ⟨-, rfl⟩ | ⟨-, hold⟩
    · cases hdelivery
    · exact h.keeps j kj delivery hold hdelivery (losses_eq_zero hkept).1
  last j m outcome hhandled hconclusive hkept := by
    obtain ⟨s, s', hmem⟩ := hhandled
    rw [handlers_snoc]
    rcases List.mem_append.mp hmem with hold | hnew
    · have hlast := h.last j m outcome ⟨s, s', hold⟩ hconclusive (losses_eq_zero hkept).1
      show (handlers m past ++ []).getLast? = some j
      rwa [List.append_nil]
    · cases List.mem_singleton.mp hnew

/-- A call that is about to handle a message holds it. Nobody who is done with the message does. -/
theorem Steady.not_conclusive (h : Steady maxRetries past b) (hsound : Sound maxRetries maxLength past b)
    (hk : handlingOf maxRetries past i = some k) (hpermits : k.Permits maxRetries (.callback m))
    (hkept : losses m past = 0) (hhandled : Handled past j m outcome) : ¬Conclusive outcome := by
  intro hconclusive
  obtain ⟨delivery, rfl, rfl⟩ := hpermits
  obtain ⟨kj, delivery', hj, hdelivery', hm, houtcome⟩ := hsound.handled _ j outcome hhandled
  have hheld := (h.keeps i _ delivery hk rfl hkept).unsettled rfl
  obtain ⟨msg, hmsg, hplace⟩ := Broker.held_iff.mp hheld
  have hkeeps := h.keeps j kj delivery' hj hdelivery' (hm ▸ hkept)
  rw [← hm] at hmsg
  cases hsettled : kj.settled with
  | true =>
      obtain ⟨msg', hmsg', hremoved⟩ := hkeeps.settled hsettled outcome houtcome hconclusive
      cases hmsg.symm.trans hmsg'
      rw [hplace] at hremoved
      cases hremoved
  | false =>
      obtain ⟨msg', hmsg', hplace'⟩ := Broker.held_iff.mp (hkeeps.unsettled hsettled)
      cases hmsg.symm.trans hmsg'
      have htag := Place.delivered.inj (hplace.symm.trans hplace')
      have hsame := h.single i j _ kj delivery delivery' hk hj rfl hdelivery' htag
      subst hsame
      cases Option.some.inj (hk.symm.trans hj)
      cases houtcome

theorem Steady.performed (h : Steady maxRetries past b) (hsound : Sound maxRetries maxLength past b)
    (hk : handlingOf maxRetries past i = some k) (hpermits : k.Permits maxRetries op)
    (hperform : op.perform choice b = (a, b')) :
    Steady maxRetries (past ++ [.performed b i choice op b']) b' := by
  have hfresh := hsound.fresh _ (Nat.le_refl _)
  constructor
  case single =>
    intro j j' kj kj' delivery delivery' hj hj' hdelivery hdelivery' htag
    rcases delivery_cases hk hpermits hperform hj hdelivery with ⟨k₁, hk₁, hold⟩ | ⟨rfl, hnew⟩ <;>
      rcases delivery_cases hk hpermits hperform hj' hdelivery' with ⟨k₂, hk₂, hold'⟩ | ⟨rfl, hnew'⟩
    · exact h.single j j' k₁ k₂ delivery delivery' hk₁ hk₂ hold hold' htag
    · have hlt := (hsound.calls j k₁ delivery hk₁ hold).tag
      omega
    · have hlt := (hsound.calls j' k₂ delivery' hk₂ hold').tag
      omega
    · rfl
  case keeps =>
    intro j kj delivery hj hdelivery hkept
    rcases System.trace_performed_cases (congrArg some hperform) hk hj with ⟨rfl, rfl⟩ | ⟨hne, hold⟩
    · exact Keeps.learns (fun delivery hdelivery => h.keeps j k delivery hk hdelivery) hfresh hpermits
        hperform hdelivery hkept
    · obtain ⟨hpast, hloses⟩ := losses_eq_zero hkept
      refine (h.keeps j kj delivery hold hdelivery hpast).mono (step_of_perform hperform) hfresh
        hloses fun m => ⟨?_, ?_⟩
      · rintro rfl
        obtain ⟨delivery', _, howns, -, htag, -⟩ := hpermits
        exact hne (h.single j i kj k delivery delivery' hold hk hdelivery howns.delivery htag.symm)
      · rintro rfl
        obtain ⟨delivery', _, howns, -, htag, -⟩ := hpermits
        exact hne (h.single j i kj k delivery delivery' hold hk hdelivery howns.delivery htag.symm)
  case last =>
    intro j m outcome hhandled hconclusive hkept
    have hpast := (losses_eq_zero hkept).1
    obtain ⟨s, s', hmem⟩ := hhandled
    rw [handlers_snoc]
    rcases List.mem_append.mp hmem with hold | hnew
    · cases hhandler : handler m (.performed b i choice op b') with
      | none =>
          rw [Option.toList_none, List.append_nil]
          exact h.last j m outcome ⟨s, s', hold⟩ hconclusive hpast
      | some j' =>
          obtain ⟨-, rfl⟩ := handler_eq_some hhandler
          exact absurd hconclusive (h.not_conclusive hsound hk hpermits hpast ⟨s, s', hold⟩)
    · cases List.mem_singleton.mp hnew
      simp [handler]

end Steps

/-! ## Runs -/

section Runs

variable {maxRetries maxLength : Nat} {ms : List (Move Request Choice)} {es : List Event}
variable {P : Pool Op (fun op => Except Failure op.Ret) (Except Failure Unit × Unit) Broker}
variable {m i : Nat} {outcome : Choice}

theorem steady_run (hrun : (queue maxRetries).run ms (.init (.empty maxLength)) = some (es, P)) :
    Steady maxRetries es P.state := by
  have htracks : (queue maxRetries).Tracks
      (fun past b => Sound maxRetries maxLength past b ∧ Steady maxRetries past b) (fun _ => {})
      (fun _ op k => k.Permits maxRetries op) (fun _ _ _ => True) Handling.advance
      (fun _ _ k => k.Finished) ([] ++ es) P ∧ ∀ e ∈ es, True := by
    refine System.run_tracked ?_ ?_ hrun (fun _ _ => trivial)
      (System.tracks_init ⟨sound_init, steady_init⟩)
    · intro past b i request hnew h _
      exact ⟨Handling.request_ends request, ⟨h.1.started request (hnew i (Nat.le_refl i)),
        h.2.started request⟩, trivial⟩
    · intro past b i choice op a b' k hk hpermits h hperform _
      have hperform := Option.some.inj hperform
      exact ⟨trivial, ⟨h.1.performed hk hpermits hperform, h.2.performed h.1 hk hpermits hperform⟩,
        trivial⟩
  exact htracks.1.inv.2

/-- As long as its connection holds, the call that is done with a message is the last one to handle
it: what was handled, and what was the client's fault, does not come again. -/
theorem handled_once (hrun : (queue maxRetries).run ms (.init (.empty maxLength)) = some (es, P))
    (hhandled : Handled es i m outcome) (hconclusive : Conclusive outcome) (hkept : losses m es = 0) :
    (handlers m es).getLast? = some i :=
  (steady_run hrun).last i m outcome hhandled hconclusive hkept

end Runs

/-- A message that fails, comes back and is handled, and is not found any more. -/
def comesBack : List (Move Request Choice) :=
  [.start .publish, .run 0 (.ok ()), .start (.deliver 0), .run 1 (.ok ()), .run 1 (.error .other),
    .run 1 (.ok ()), .start (.expire 0), .run 2 (.ok ()), .start (.deliver 0), .run 3 (.ok ()),
    .run 3 (.ok ()), .run 3 (.ok ()), .start (.deliver 0), .run 4 (.ok ())]

/-- The callback of the call succeeds for the message here. -/
def succeedsFor (i m : Nat) : Event → Bool
  | .performed _ j (.ok _) (.callback m') _ => j = i && m' = m
  | _ => false

theorem handled_of_succeedsFor {es : List Event} {i m : Nat} (h : es.any (succeedsFor i m) = true) :
    Handled es i m (.ok ()) := by
  obtain ⟨e, hmem, hsucceeds⟩ := List.any_eq_true.mp h
  unfold succeedsFor at hsucceeds
  split at hsucceeds
  · simp only [Bool.and_eq_true, decide_eq_true_eq] at hsucceeds
    obtain ⟨rfl, rfl⟩ := hsucceeds
    exact ⟨_, _, hmem⟩
  · cases hsucceeds

theorem handled_once_comesBack : ∃ es P, (queue 3).run comesBack (.init (.empty 10000)) =
    some (es, P) ∧ handlers 0 es = [1, 3] ∧ (handlers 0 es).getLast? = some 3 := by
  have hrun : ((queue 3).run comesBack (.init (.empty 10000))).any (fun result =>
      handlers 0 result.1 = [1, 3] && losses 0 result.1 = 0 && result.1.any (succeedsFor 3 0)) =
      true := by
    decide +kernel
  obtain ⟨es, P, hrun, hes⟩ := System.exists_run hrun
  simp only [Bool.and_eq_true, decide_eq_true_eq] at hes
  obtain ⟨⟨hhandlers, hkept⟩, hsucceeds⟩ := hes
  exact ⟨es, P, hrun, hhandlers, handled_once hrun (handled_of_succeedsFor hsucceeds) trivial hkept⟩

end FlightBookings.Messaging
