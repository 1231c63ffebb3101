import FlightBookings.Messaging.Handling

/-! # Retries

A message is gone when it was handled, when it was the client's fault, after its
last round, or when it was pushed out of the queue. It is never with a consumer that
is not at work on it.
-/

namespace FlightBookings.Messaging

open Await

/-- These calls have failed, each of them once, and not through the client's fault. -/
structure Failing (es : List Event) (m : Nat) (js : List Nat) : Prop where
  nodup : js.Nodup
  failed : ∀ j ∈ js, ∃ error, error.isClientError = false ∧ Handled es j m (.error error)

/-- Why a message may be acknowledged. A round in which it was pushed out of the queue counts as one that
failed. -/
inductive Cause (maxRetries : Nat) (es : List Event) (m : Nat) : Prop where
  | handled (i : Nat) (h : Handled es i m (.ok ()))
  | clientError (i : Nat) (error : Failure) (hclient : error.isClientError = true)
      (h : Handled es i m (.error error))
  | exhausted (js : List Nat) (hfailing : Failing es m js) (hmost : js.length ≤ maxRetries + 1)
      (hleast : maxRetries + 1 ≤ js.length + overflows m es)

/-! ## The invariant -/

def handlingOf (maxRetries : Nat) (past : List Event) (i : Nat) : Option Handling :=
  (queue maxRetries).trace (fun _ => {}) Handling.advance i past

/-- The call is right about the message that it was handed. -/
structure Informed (past : List Event) (b : Broker) (i : Nat) (k : Handling) (delivery : Delivery) :
    Prop where
  tag : delivery.tag < b.tags
  taken : i ∈ takers delivery.message past
  own : ∀ msg, b.message delivery.message = some msg → msg.place = .delivered delivery.tag →
    delivery.retryCount = msg.rounds ∧ k.settled = false ∧ k.refused = false
  heard : ∀ outcome, k.outcome = some outcome → Handled past i delivery.message outcome

/-- The messages are where the calls have left them. -/
structure Sound (maxRetries maxLength : Nat) (past : List Event) (b : Broker) : Prop where
  fresh : ∀ m, b.published ≤ m → b.message m = none
  limit : b.maxLength = maxLength
  full : ∀ m, 0 < overflows m past → maxLength < b.published
  stays : ∀ m, m < b.published → ∃ msg, b.message m = some msg
  bounded : ∀ m, b.count Message.setbacks m ≤ maxRetries + overflows m past
  again : ∀ m msg, b.message m = some msg → msg.place = .retrying → msg.rounds < maxRetries
  outside : ∀ m msg, b.message m = some msg → msg.place.Outside → 0 < overflows m past
  held : ∀ m msg tag, b.message m = some msg → msg.place = .delivered tag →
    ∃ i k delivery, handlingOf maxRetries past i = some k ∧ k.delivery = some delivery ∧
      delivery.message = m ∧ delivery.tag = tag
  calls : ∀ i k delivery, handlingOf maxRetries past i = some k → k.delivery = some delivery →
    Informed past b i k delivery
  failed : ∀ m, ∃ js, Failing past m js ∧
    js.length + overflows m past = b.count Message.setbacks m ∧
      ∀ j ∈ js, ∃ k, handlingOf maxRetries past j = some k ∧ k.settled = true
  removed : ∀ m msg, b.message m = some msg → msg.place = .removed → Cause maxRetries past m
  turns : ∀ m, (takers m past).length + overflows m past =
    b.count Message.turns m + losses m past
  once : ∀ m, (handlers m past).Nodup
  handled : ∀ m i outcome, Handled past i m outcome → ∃ k delivery,
    handlingOf maxRetries past i = some k ∧ k.delivery = some delivery ∧ delivery.message = m ∧
      k.outcome = some outcome

section Steps

variable {maxRetries maxLength : Nat} {choice : Choice} {op : Op} {a : Except Failure op.Ret} {b b' : Broker}
variable {past : List Event} {i j m tag : Nat} {msg : Message} {k : Handling} {delivery : Delivery}
variable {outcome : Choice}

theorem Handled.mono (h : Handled past i m outcome) (e : Event) :
    Handled (past ++ [e]) i m outcome := by
  obtain ⟨s, s', hmem⟩ := h
  exact ⟨s, s', List.mem_append_left _ hmem⟩

theorem Failing.mono {js : List Nat} (h : Failing past m js) (e : Event) :
    Failing (past ++ [e]) m js where
  nodup := h.nodup
  failed j hj := by
    obtain ⟨error, hserver, hhandled⟩ := h.failed j hj
    exact ⟨error, hserver, hhandled.mono e⟩

theorem overflows_mono (e : Event) : overflows m past ≤ overflows m (past ++ [e]) := by
  rw [overflows_snoc]
  exact Nat.le_add_right _ _

theorem Cause.mono (h : Cause maxRetries past m) (e : Event) : Cause maxRetries (past ++ [e]) m := by
  cases h with
  | handled i h => exact .handled i (h.mono e)
  | clientError i error hclient h => exact .clientError i error hclient (h.mono e)
  | exhausted js hfailing hmost hleast =>
      exact .exhausted js (hfailing.mono e) hmost
        (Nat.le_trans hleast (Nat.add_le_add_left (overflows_mono e) _))

theorem mem_takers_snoc (h : i ∈ takers m past) (e : Event) : i ∈ takers m (past ++ [e]) := by
  rw [takers_snoc]
  exact List.mem_append_left _ h

theorem Informed.mono (h : Informed past b i k delivery) (hstep : Step b op a b') (e : Event) :
    Informed (past ++ [e]) b' i k delivery where
  tag := Nat.lt_of_lt_of_le h.tag (tags_mono hstep)
  taken := mem_takers_snoc h.taken e
  own msg hmsg hplace := by
    rcases (change_of_step hstep hmsg).delivered_cases hplace with hold | ⟨-, htag, -⟩
    · exact h.own msg hold hplace
    · have hlt := h.tag
      omega
  heard outcome houtcome := (h.heard outcome houtcome).mono e

/-- What else a call knows does not matter once the message is not with it any more. -/
theorem Informed.gone {k' : Handling} (h : Informed past b i k delivery)
    (houtcome : k'.outcome = k.outcome) (hgone : b.held delivery.message delivery.tag = false) :
    Informed past b i k' delivery where
  tag := h.tag
  taken := h.taken
  own msg hmsg hplace := by
    rw [Broker.held_iff.mpr ⟨msg, hmsg, hplace⟩] at hgone
    cases hgone
  heard outcome hk := h.heard outcome (houtcome ▸ hk)

/-- What a call makes of its own step. -/
theorem Informed.learns (h : ∀ delivery, k.delivery = some delivery → Informed past b i k delivery)
    (hpermits : k.Permits maxRetries op) (hperform : op.perform choice b = (a, b'))
    (hdelivery : (Handling.advance op a k).delivery = some delivery) :
    Informed (past ++ [.performed b i choice op b']) b' i (Handling.advance op a k) delivery := by
  have hstep := step_of_perform hperform
  cases op with
  | publish => exact (h delivery hdelivery).mono hstep _
  | expire => exact (h delivery hdelivery).mono hstep _
  | overflow => exact (h delivery hdelivery).mono hstep _
  | disconnect => exact (h delivery hdelivery).mono hstep _
  | take m =>
      obtain rfl : k = {} := hpermits
      cases hstep with
      | takeNothing => cases hdelivery
      | @take m msg hmsg hplace =>
          cases hdelivery
          constructor
          case tag => exact Nat.lt_succ_self _
          case taken =>
            have hwaits : b.waits m = true := Broker.waits_iff.mpr ⟨msg, hmsg, hplace⟩
            rw [takers_snoc]
            exact List.mem_append_right _ (by simp [taker, hwaits])
          case own =>
            intro msg' hmsg' _
            have hput : some { msg with place := .delivered b.tags } = some msg' :=
              (b.put_self m _).symm.trans hmsg'
            cases hput
            exact ⟨rfl, rfl, rfl⟩
          case heard => exact fun outcome houtcome => by cases houtcome
  | callback m =>
      obtain ⟨delivery', rfl, rfl⟩ := hpermits
      cases hperform
      cases hdelivery
      have hmono := (h delivery rfl).mono hstep (.performed b i choice (.callback delivery.message) b)
      constructor
      case tag => exact hmono.tag
      case taken => exact hmono.taken
      case own => exact hmono.own
      case heard =>
        intro outcome houtcome
        cases houtcome
        exact ⟨b, b, List.mem_append_right _ (List.mem_singleton_self _)⟩
  | ack m tag =>
      obtain ⟨delivery', outcome', howns, rfl, rfl, -⟩ := hpermits
      have hsame : k.delivery = some delivery := by cases a <;> exact hdelivery
      cases howns.delivery.symm.trans hsame
      refine ((h delivery hsame).mono hstep _).gone (by cases a <;> rfl) ?_
      cases hstep with
      | ack hmsg _ => simp [Broker.held]
      | ackRefused hheld => exact hheld
  | nack m tag =>
      obtain ⟨delivery', outcome', howns, rfl, rfl, -⟩ := hpermits
      have hsame : k.delivery = some delivery := by cases a <;> exact hdelivery
      cases howns.delivery.symm.trans hsame
      refine ((h delivery hsame).mono hstep _).gone (by cases a <;> rfl) ?_
      cases hstep with
      | nack hmsg _ => simp [Broker.held]
      | nackRefused hheld => exact hheld

/-- What was known of a call stays so, and its own step only adds to it. -/
theorem handlingOf_keeps {kj : Handling} (hk : handlingOf maxRetries past i = some k)
    (hpermits : k.Permits maxRetries op) (hperform : op.perform choice b = (a, b'))
    (hj : handlingOf maxRetries past j = some kj) :
    ∃ kj', handlingOf maxRetries (past ++ [.performed b i choice op b']) j = some kj' ∧
      (∀ delivery, kj.delivery = some delivery → kj'.delivery = some delivery) ∧
      (∀ outcome, kj.outcome = some outcome → kj'.outcome = some outcome) ∧
      (kj.settled = true → kj'.settled = true) := by
  by_cases heq : j = i
  · subst heq
    obtain rfl : k = kj := Option.some.inj (hk.symm.trans hj)
    exact ⟨_, System.trace_performed_some (congrArg some hperform) hk,
      fun _ => Handling.advance_delivery hpermits, fun _ => Handling.advance_outcome hpermits,
      Handling.advance_settled⟩
  · exact ⟨kj, (System.trace_performed_of_ne heq).trans hj, fun _ => id, fun _ => id, id⟩

/-- What is acknowledged is done with. -/
theorem Sound.acked (h : Sound maxRetries maxLength past b) (hk : handlingOf maxRetries past i = some k)
    (hpermits : k.Permits maxRetries (.ack m tag)) (hmsg : b.message m = some msg)
    (hplace : msg.place = .delivered tag) : k.settled = false ∧ ∃ outcome,
      Handled past i m outcome ∧ Handling.Final maxRetries ⟨m, tag, msg.rounds⟩ outcome := by
  obtain ⟨delivery, outcome, howns, rfl, rfl, hfinal⟩ := hpermits
  have hinformed := h.calls i k delivery hk howns.delivery
  obtain ⟨hrounds, hsettled, hrefused⟩ := hinformed.own msg hmsg hplace
  refine ⟨hsettled, outcome, hinformed.heard outcome howns.outcome, ?_⟩
  rw [← hrounds]
  refine hfinal.resolve_left fun htrue => ?_
  rw [hrefused] at htrue
  cases htrue

/-- What is given back has failed, and not for the last time. -/
theorem Sound.nacked (h : Sound maxRetries maxLength past b) (hk : handlingOf maxRetries past i = some k)
    (hpermits : k.Permits maxRetries (.nack m tag)) (hmsg : b.message m = some msg)
    (hplace : msg.place = .delivered tag) : k.settled = false ∧ msg.rounds < maxRetries ∧
      ∃ error, error.isClientError = false ∧ Handled past i m (.error error) := by
  obtain ⟨delivery, outcome, howns, rfl, rfl, hfinal⟩ := hpermits
  have hinformed := h.calls i k delivery hk howns.delivery
  obtain ⟨hrounds, hsettled, hrefused⟩ := hinformed.own msg hmsg hplace
  have hnotFinal : ¬Handling.Final maxRetries delivery outcome := by
    refine hfinal.resolve_left fun htrue => ?_
    rw [hrefused] at htrue
    cases htrue
  have hhandled := hinformed.heard outcome howns.outcome
  cases outcome with
  | ok _ => exact absurd trivial hnotFinal
  | error error =>
      obtain ⟨hserver, hrest⟩ := not_or.mp hnotFinal
      exact ⟨hsettled, by omega, error, Bool.eq_false_iff.mpr hserver, hhandled⟩

theorem setbacks_of_delivered (hmsg : b.message m = some msg) (hplace : msg.place = .delivered tag) :
    b.count Message.setbacks m = msg.rounds := by
  rw [Broker.count_of_message hmsg]
  simp [Message.setbacks, hplace]

/-- One more call has failed with a message that was handed to it. -/
theorem Sound.failed_again (h : Sound maxRetries maxLength past b)
    (hk : handlingOf maxRetries past i = some k) (hmsg : b.message m = some msg)
    (hplace : msg.place = .delivered tag) (hsettled : k.settled = false) {error : Failure} (hserver : error.isClientError = false)
    (hhandled : Handled past i m (.error error)) :
    ∃ js, Failing past m (i :: js) ∧ js.length + overflows m past = msg.rounds ∧
      ∀ j ∈ js, ∃ k, handlingOf maxRetries past j = some k ∧ k.settled = true := by
  obtain ⟨js, hfailing, hlength, hjs⟩ := h.failed m
  refine ⟨js, ⟨List.nodup_cons.mpr ⟨fun hmem => ?_, hfailing.nodup⟩, fun j hj => ?_⟩, ?_, hjs⟩
  · obtain ⟨k', hk', htrue⟩ := hjs i hmem
    obtain rfl : k = k' := Option.some.inj (hk.symm.trans hk')
    rw [hsettled] at htrue
    cases htrue
  · rcases List.mem_cons.mp hj with rfl | hmem
    · exact ⟨error, hserver, hhandled⟩
    · exact hfailing.failed j hmem
  · rw [hlength, setbacks_of_delivered hmsg hplace]

theorem sound_init : Sound maxRetries maxLength [] (Broker.empty maxLength) where
  fresh _ _ := rfl
  limit := rfl
  full _ hpos := by cases hpos
  stays _ hlt := by cases hlt
  bounded _ := Nat.zero_le _
  again _ _ hmsg := by cases hmsg
  outside _ _ hmsg := by cases hmsg
  held _ _ _ hmsg := by cases hmsg
  calls _ _ _ hk := by cases hk
  failed _ := ⟨[], ⟨List.nodup_nil, fun _ hj => by cases hj⟩, rfl, fun _ hj => by cases hj⟩
  removed _ _ hmsg := by cases hmsg
  turns _ := rfl
  once _ := List.nodup_nil
  handled _ _ _ h := by
    obtain ⟨_, _, hmem⟩ := h
    cases hmem

theorem Sound.started (h : Sound maxRetries maxLength past b) (request : Request)
    (hnew : handlingOf maxRetries past i = none) :
    Sound maxRetries maxLength (past ++ [.started b i request]) b := by
  have hkeeps {j : Nat} {kj : Handling} (hj : handlingOf maxRetries past j = some kj) :
      handlingOf maxRetries (past ++ [.started b i request]) j = some kj := by
    have hne : j ≠ i := by
      rintro rfl
      rw [hnew] at hj
      cases hj
    exact (System.trace_started_of_ne hne).trans hj
  have htakers (m : Nat) : takers m (past ++ [.started b i request]) = takers m past := by
    rw [takers_snoc]
    exact List.append_nil _
  have hhandlers (m : Nat) : handlers m (past ++ [.started b i request]) = handlers m past := by
    rw [handlers_snoc]
    exact List.append_nil _
  have hoverflows (m : Nat) : overflows m (past ++ [.started b i request]) = overflows m past :=
    overflows_snoc past _
  constructor
  case fresh => exact h.fresh
  case limit => exact h.limit
  case full =>
    intro m
    rw [hoverflows]
    exact h.full m
  case stays => exact h.stays
  case bounded =>
    intro m
    rw [hoverflows]
    exact h.bounded m
  case again => exact h.again
  case outside =>
    intro m
    rw [hoverflows]
    exact h.outside m
  case held =>
    intro m msg tag hmsg hplace
    obtain ⟨j, kj, delivery, hj, hrest⟩ := h.held m msg tag hmsg hplace
    exact ⟨j, kj, delivery, hkeeps hj, hrest⟩
  case calls =>
    intro j kj delivery hj hdelivery
    rcases System.trace_started_cases hj with ⟨-, rfl⟩ | ⟨-, hold⟩
    · cases hdelivery
    · have hinformed := h.calls j kj delivery hold hdelivery
      exact ⟨hinformed.tag, mem_takers_snoc hinformed.taken _, hinformed.own,
        fun outcome houtcome => (hinformed.heard outcome houtcome).mono _⟩
  case failed =>
    intro m
    rw [hoverflows]
    obtain ⟨js, hfailing, hlength, hjs⟩ := h.failed m
    refine ⟨js, hfailing.mono _, hlength, fun j hj => ?_⟩
    obtain ⟨kj, hkj, hsettled⟩ := hjs j hj
    exact ⟨kj, hkeeps hkj, hsettled⟩
  case removed => exact fun m msg hmsg hplace => (h.removed m msg hmsg hplace).mono _
  case turns =>
    intro m
    rw [htakers, hoverflows, losses_snoc]
    exact h.turns m
  case once =>
    intro m
    rw [hhandlers]
    exact h.once m
  case handled =>
    rintro m j outcome ⟨s, s', hmem⟩
    have hold : Handled past j m outcome := by
      rcases List.mem_append.mp hmem with hmem | hmem
      · exact ⟨s, s', hmem⟩
      · cases List.mem_singleton.mp hmem
    obtain ⟨kj, delivery, hkj, hrest⟩ := h.handled m j outcome hold
    exact ⟨kj, delivery, hkeeps hkj, hrest⟩

theorem Sound.performed (h : Sound maxRetries maxLength past b) (hk : handlingOf maxRetries past i = some k)
    (hpermits : k.Permits maxRetries op) (hperform : op.perform choice b = (a, b')) :
    Sound maxRetries maxLength (past ++ [.performed b i choice op b']) b' := by
  have hstep := step_of_perform hperform
  have hself : handlingOf maxRetries (past ++ [.performed b i choice op b']) i =
      some (Handling.advance op a k) := System.trace_performed_some (congrArg some hperform) hk
  have hsetbacks (m : Nat) := setbacks_step m i choice hstep (h.fresh _ (Nat.le_refl _))
  constructor
  case fresh =>
    intro m hle
    cases hmsg : b'.message m with
    | none => rfl
    | some msg =>
        have hmono := published_mono hstep
        rcases (change_of_step hstep hmsg).known with hsome | ⟨rfl, rfl⟩
        · exact absurd (h.fresh m (Nat.le_trans hmono hle)) hsome
        · cases hstep
          exact absurd hle (Nat.not_succ_le_self _)
  case limit => exact (maxLength_of_step hstep).trans h.limit
  case full =>
    intro m hpos
    refine Nat.lt_of_lt_of_le ?_ (published_mono hstep)
    rw [overflows_snoc] at hpos
    cases hpushes : pushesOut m (.performed b i choice op b') with
    | false =>
        rw [hpushes] at hpos
        exact h.full m hpos
    | true =>
        rw [← h.limit]
        exact published_of_pushesOut hpushes
  case stays =>
    intro m hlt
    rcases published_of_step hstep hlt with hold | hnew
    · obtain ⟨msg, hmsg⟩ := h.stays m hold
      exact message_of_step hstep hmsg
    · exact hnew
  case bounded =>
    intro m
    have hbefore := h.bounded m
    rw [overflows_snoc]
    rcases hsetbacks m with hsame | ⟨tag, msg, rfl, hold, hplace, hmore⟩
    · omega
    · have hlast := (h.nacked hk hpermits hold hplace).2.1
      omega
  case again =>
    intro m msg hmsg hplace
    cases change_of_step hstep hmsg with
    | kept hold => exact h.again m msg hold hplace
    | nacked hold hdelivered => exact (h.nacked hk hpermits hold hdelivered).2.1
    | published => cases hplace
    | taken => cases hplace
    | acked => cases hplace
    | expired => cases hplace
    | dropped => cases hplace
    | pushedOut _ _ _ hout => rcases hout with rfl | rfl <;> cases hplace
    | lost => cases hplace
  case outside =>
    intro m msg hmsg hplace
    cases change_of_step hstep hmsg with
    | kept hold => exact Nat.lt_of_lt_of_le (h.outside m msg hold hplace) (overflows_mono _)
    | dropped hold hoverflown =>
        exact Nat.lt_of_lt_of_le (h.outside m _ hold (.inl hoverflown)) (overflows_mono _)
    | pushedOut hold hqueued hoverflows hout => simp [overflows_snoc, pushesOut, hoverflows]
    | published => rcases hplace with h | h <;> cases h
    | taken => rcases hplace with h | h <;> cases h
    | acked => rcases hplace with h | h <;> cases h
    | nacked => rcases hplace with h | h <;> cases h
    | expired => rcases hplace with h | h <;> cases h
    | lost => rcases hplace with h | h <;> cases h
  case held =>
    intro m msg tag hmsg hplace
    rcases (change_of_step hstep hmsg).delivered_cases hplace with hold | ⟨rfl, rfl, hwaits⟩
    · obtain ⟨j, kj, delivery, hj, hdelivery, hrest⟩ := h.held m msg tag hold hplace
      obtain ⟨kj', hj', hkept, -⟩ := handlingOf_keeps hk hpermits hperform hj
      exact ⟨j, kj', delivery, hj', hkept delivery hdelivery, hrest⟩
    · cases hstep with
      | take => exact ⟨i, _, _, hself, rfl, rfl, rfl⟩
      | takeNothing hnot =>
          rw [hwaits] at hnot
          cases hnot
  case calls =>
    intro j kj delivery hj hdelivery
    rcases System.trace_performed_cases (congrArg some hperform) hk hj with ⟨rfl, rfl⟩ | ⟨-, hold⟩
    · exact Informed.learns (fun delivery hdelivery => h.calls j k delivery hk hdelivery) hpermits
        hperform hdelivery
    · exact (h.calls j kj delivery hold hdelivery).mono hstep _
  case failed =>
    intro m
    have hsettledOf {j : Nat} (hj : ∃ k, handlingOf maxRetries past j = some k ∧ k.settled = true) :
        ∃ k, handlingOf maxRetries (past ++ [.performed b i choice op b']) j = some k ∧
          k.settled = true := by
      obtain ⟨kj, hkj, hsettled⟩ := hj
      obtain ⟨kj', hkj', -, -, hkept⟩ := handlingOf_keeps hk hpermits hperform hkj
      exact ⟨kj', hkj', hkept hsettled⟩
    rcases hsetbacks m with hsame | ⟨tag, msg, rfl, hold, hplace, hmore⟩
    · obtain ⟨js, hfailing, hlength, hjs⟩ := h.failed m
      refine ⟨js, hfailing.mono _, ?_, fun j hj => hsettledOf (hjs j hj)⟩
      rw [overflows_snoc, ← Nat.add_assoc, hlength, hsame]
    · obtain ⟨hsettled, -, error, hserver, hhandled⟩ := h.nacked hk hpermits hold hplace
      obtain ⟨js, hfailing, hlength, hjs⟩ := h.failed_again hk hold hplace hsettled hserver hhandled
      have hsame : overflows m (past ++ [.performed b i choice (.nack m tag) b']) = overflows m past :=
        overflows_snoc past _
      refine ⟨i :: js, hfailing.mono _, ?_, fun j hj => ?_⟩
      · rw [hsame, List.length_cons, hmore]
        omega
      · rcases List.mem_cons.mp hj with rfl | hmem
        · refine ⟨_, hself, ?_⟩
          cases hstep with
          | nack => rfl
          | nackRefused hheld =>
              rw [Broker.held_iff.mpr ⟨msg, hold, hplace⟩] at hheld
              cases hheld
        · exact hsettledOf (hjs j hmem)
  case removed =>
    intro m msg hmsg hplace
    cases change_of_step hstep hmsg with
    | kept hold => exact (h.removed m msg hold hplace).mono _
    | published => cases hplace
    | taken => cases hplace
    | nacked => cases hplace
    | expired => cases hplace
    | dropped => cases hplace
    | pushedOut _ _ _ hout => rcases hout with rfl | rfl <;> cases hplace
    | lost => cases hplace
    | @acked m tag msg hold hdelivered =>
        obtain ⟨hsettled, outcome, hhandled, hfinal⟩ := h.acked hk hpermits hold hdelivered
        refine Cause.mono ?_ _
        cases outcome with
        | ok _ => exact .handled i hhandled
        | error error =>
            by_cases hclient : error.isClientError = true
            · exact .clientError i error hclient hhandled
            · have hlast : maxRetries ≤ msg.rounds := hfinal.resolve_left hclient
              have hbound := h.bounded m
              rw [setbacks_of_delivered hold hdelivered] at hbound
              obtain ⟨js, hfailing, hlength, -⟩ := h.failed_again hk hold hdelivered hsettled
                (Bool.eq_false_iff.mpr hclient) hhandled
              refine .exhausted (i :: js) hfailing ?_ ?_
              · rw [List.length_cons]
                omega
              · rw [List.length_cons]
                omega
  case turns =>
    intro m
    have hbefore := h.turns m
    have hturns := turns_step m i choice hstep (h.fresh _ (Nat.le_refl _))
    rw [takers_snoc, List.length_append, losses_snoc, overflows_snoc]
    omega
  case once =>
    intro m
    rw [handlers_snoc]
    cases hhandler : handler m (.performed b i choice op b') with
    | none => simpa using h.once m
    | some j =>
        obtain ⟨rfl, rfl⟩ := handler_eq_some hhandler
        refine List.nodup_append.mpr ⟨h.once m, by simp, ?_⟩
        intro j hold j' hnew heq
        rw [List.mem_singleton.mp hnew] at heq
        subst heq
        obtain ⟨outcome, hhandled⟩ := mem_handlers.mp hold
        obtain ⟨kj, -, hkj, -, -, houtcome⟩ := h.handled m j outcome hhandled
        obtain rfl : k = kj := Option.some.inj (hk.symm.trans hkj)
        obtain ⟨delivery, rfl, -⟩ := hpermits
        cases houtcome
  case handled =>
    rintro m j outcome ⟨s, s', hmem⟩
    rcases List.mem_append.mp hmem with hold | hnew
    · obtain ⟨kj, delivery, hkj, hdelivery, hm, houtcome⟩ := h.handled m j outcome ⟨s, s', hold⟩
      obtain ⟨kj', hkj', hkept, hheard, -⟩ := handlingOf_keeps hk hpermits hperform hkj
      exact ⟨kj', delivery, hkj', hkept delivery hdelivery, hm, hheard outcome houtcome⟩
    · cases List.mem_singleton.mp hnew
      cases hperform
      obtain ⟨delivery, rfl, hm⟩ := hpermits
      exact ⟨_, delivery, hself, rfl, hm, rfl⟩

end Steps

/-! ## Runs -/

/-- A call that took the message is still at work. -/
def InHand (es : List Event) (P : Pool Op (fun op => Except Failure op.Ret)
    (Except Failure Unit × Unit) Broker) (m : Nat) : Prop :=
  ∃ i p, i ∈ takers m es ∧ P.calls[i]? = some p ∧ p.isDone = false

/-- The message was pushed out of the queue. It takes more messages than the queue holds for that. -/
def PushedOut (maxLength : Nat) (es : List Event) (P : Pool Op (fun op => Except Failure op.Ret)
    (Except Failure Unit × Unit) Broker) (m : Nat) : Prop :=
  0 < overflows m es ∧ maxLength < P.state.published

/-- The message is there, and it is where it is for a reason. -/
def Placed (maxRetries maxLength : Nat) (es : List Event) (P : Pool Op (fun op => Except Failure op.Ret)
    (Except Failure Unit × Unit) Broker) (m : Nat) : Prop :=
  ∃ msg, P.state.message m = some msg ∧
    match msg.place with
    | .queued => True
    | .delivered _ => InHand es P m
    | .retrying => msg.rounds < maxRetries ∧
        ∃ js, Failing es m js ∧ js.length + overflows m es = msg.rounds + 1
    | .overflown => PushedOut maxLength es P m
    | .removed => Cause maxRetries es m
    | .dropped => PushedOut maxLength es P m

section Runs

variable {maxRetries : Nat} {ms : List (Move Request Choice)} {es : List Event}
variable {P : Pool Op (fun op => Except Failure op.Ret) (Except Failure Unit × Unit) Broker}
variable {maxLength : Nat}

theorem sound_run (hrun : (queue maxRetries).run ms (.init (.empty maxLength)) = some (es, P)) :
    (queue maxRetries).Tracks (Sound maxRetries maxLength) (fun _ => {})
      (fun _ op k => k.Permits maxRetries op) (fun _ _ _ => True) Handling.advance
      (fun _ _ k => k.Finished) es P := by
  have htracks : (queue maxRetries).Tracks (Sound maxRetries maxLength) (fun _ => {})
      (fun _ op k => k.Permits maxRetries op) (fun _ _ _ => True) Handling.advance
      (fun _ _ k => k.Finished) ([] ++ es) P ∧ ∀ e ∈ es, True := by
    refine System.run_tracked ?_ ?_ hrun (fun _ _ => trivial) (System.tracks_init sound_init)
    · intro past b i request hnew h _
      exact ⟨Handling.request_ends request, h.started request (hnew i (Nat.le_refl i)), trivial⟩
    · intro past b i choice op a b' k hk hpermits h hperform _
      exact ⟨trivial, h.performed hk hpermits (Option.some.inj hperform), trivial⟩
  exact htracks.1

/-- A message that fails is handled `maxRetries` times again at most, however often it was lost
besides. -/
theorem attempts_bounded (hrun : (queue maxRetries).run ms (.init (.empty maxLength)) = some (es, P))
    (m : Nat) : (handlers m es).length ≤ maxRetries + 1 + losses m es := by
  have hsound := (sound_run hrun).inv
  have htakers : handlers m es ⊆ takers m es := by
    intro i hi
    obtain ⟨outcome, hhandled⟩ := mem_handlers.mp hi
    obtain ⟨k, delivery, hk, hdelivery, rfl, -⟩ := hsound.handled m i outcome hhandled
    exact (hsound.calls i k delivery hk hdelivery).taken
  have hle := (hsound.once m).length_le_of_subset htakers
  have hturns : P.state.count Message.turns m ≤ maxRetries + 1 + overflows m es := by
    have hbound := hsound.bounded m
    cases hmsg : P.state.message m with
    | none => simp [Broker.count, hmsg]
    | some msg =>
        rw [Broker.count_of_message hmsg] at hbound ⊢
        have hle := msg.turns_le
        omega
  have hcount := hsound.turns m
  omega

/-- In every run no message disappears: each that was published is still to be handled, or in the hands
of a call, or it was pushed out of a queue that was too long, or it is gone because it was handled, was
the client's fault, or failed in every round that it had and in which it was not pushed out. -/
theorem messages_placed (hrun : (queue maxRetries).run ms (.init (.empty maxLength)) = some (es, P))
    (m : Nat) (hpublished : m < P.state.published) : Placed maxRetries maxLength es P m := by
  have htracks := sound_run hrun
  have hsound := htracks.inv
  have hout (msg : Message) (hmsg : P.state.message m = some msg) (hplace : msg.place.Outside) :
      PushedOut maxLength es P m :=
    ⟨hsound.outside m msg hmsg hplace, hsound.full m (hsound.outside m msg hmsg hplace)⟩
  obtain ⟨msg, hmsg⟩ := hsound.stays m hpublished
  refine ⟨msg, hmsg, ?_⟩
  cases hplace : msg.place with
  | queued => trivial
  | retrying =>
      obtain ⟨js, hfailing, hlength, -⟩ := hsound.failed m
      rw [Broker.count_of_message hmsg, Message.setbacks, hplace] at hlength
      exact ⟨hsound.again m msg hmsg hplace, js, hfailing, hlength⟩
  | overflown => exact hout msg hmsg (.inl hplace)
  | dropped => exact hout msg hmsg (.inr hplace)
  | removed => exact hsound.removed m msg hmsg hplace
  | delivered tag =>
      obtain ⟨i, k, delivery, hk, hdelivery, rfl, rfl⟩ := hsound.held m msg tag hmsg hplace
      have hinformed := hsound.calls i k delivery hk hdelivery
      obtain ⟨-, hsettled, hrefused⟩ := hinformed.own msg hmsg hplace
      have hlt := htracks.known i k hk
      obtain ⟨k', hk', hwp⟩ := htracks.calls i _ (List.getElem?_eq_getElem hlt)
      obtain rfl : k = k' := Option.some.inj (hk.symm.trans hk')
      refine ⟨i, _, hinformed.taken, List.getElem?_eq_getElem hlt, ?_⟩
      -- A call that has ended has settled its message, or was refused to.
      cases hcall : P.calls[i] with
      | await op next => rfl
      | done result =>
          rw [hcall] at hwp
          have hfinished : k.Finished := hwp
          rcases hfinished with hnone | htrue | htrue
          · rw [hnone] at hdelivery
            cases hdelivery
          · rw [hsettled] at htrue
            cases htrue
          · rw [hrefused] at htrue
            cases htrue

end Runs

/-- A message that fails every time, and is lost in between. -/
def failsForGood : List (Move Request Choice) :=
  [.start .publish, .run 0 (.ok ()), .start (.deliver 0), .run 1 (.ok ()), .run 1 (.error .other),
    .start (.disconnect 0), .run 2 (.ok ()), .run 1 (.ok ())] ++
  (List.range 4).flatMap fun n =>
    [.start (.deliver 0), .run (2 * n + 3) (.ok ()), .run (2 * n + 3) (.error .other),
      .run (2 * n + 3) (.ok ()), .start (.expire 0), .run (2 * n + 4) (.ok ())]

/-- It is handled five times, and then it is gone. -/
def goneAfterFive (result : List Event × Pool Op (fun op => Except Failure op.Ret)
    (Except Failure Unit × Unit) Broker) : Bool :=
  result.2.state.message 0 = some ⟨.removed, 3⟩ && handlers 0 result.1 = [1, 3, 5, 7, 9] &&
    result.2.state.published = 1

theorem failsForGood_goneAfterFive :
    ((queue 3).run failsForGood (.init (.empty 10000))).any goneAfterFive = true := by
  decide +kernel

theorem attempts_bounded_lost : ∃ es P, (queue 3).run failsForGood (.init (.empty 10000)) =
    some (es, P) ∧ goneAfterFive (es, P) = true ∧ (handlers 0 es).length ≤ 3 + 1 + losses 0 es := by
  obtain ⟨es, P, hrun, hgone⟩ := System.exists_run failsForGood_goneAfterFive
  exact ⟨es, P, hrun, hgone, attempts_bounded hrun 0⟩

theorem messages_placed_lost : ∃ es P, (queue 3).run failsForGood (.init (.empty 10000)) =
    some (es, P) ∧ goneAfterFive (es, P) = true ∧ Placed 3 10000 es P 0 := by
  obtain ⟨es, P, hrun, hgone⟩ := System.exists_run failsForGood_goneAfterFive
  refine ⟨es, P, hrun, hgone, messages_placed hrun 0 ?_⟩
  simp only [goneAfterFive, Bool.and_eq_true, decide_eq_true_eq] at hgone
  omega

/-- A message that never failed is pushed out by the next one, goes round and is dropped. -/
example : ((queue 3).run [.start .publish, .run 0 (.ok ()), .start .publish, .run 1 (.ok ()),
    .start (.overflow 0), .run 2 (.ok ()), .start (.expire 0), .run 3 (.error .other)]
    (.init (.empty 1))).map (fun result => result.2.state.message 0) = some (some ⟨.dropped, 0⟩) := by
  decide +kernel

end FlightBookings.Messaging
