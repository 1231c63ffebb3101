import FlightBookings.Payment.Webhook

/-! # Deliveries of one event

A delivery claims its event when it finds a row that is not processed yet, or
creates one. As long as no delivery claims an event that another one is still
busy with or has processed, an event is processed once, and no delivery changes
a payment when its event is marked as processed.
-/

namespace FlightBookings.Payment.Webhook

open Await

/-! ## What a call has done -/

/-- The request of a call, whether it has claimed its event, whether the row that it inserted is
still to be committed, and whether it has come through `processWebhookEvent`: it saves its row as
the next thing. -/
structure Progress where
  request : Request
  claims : Bool
  inserted : Bool
  completed : Bool

/-- The event that a request delivers. -/
def Request.ref : Request → Option EventRef
  | .deliver gateway (some event) => some ⟨gateway.getGatewayName, event.id⟩
  | _ => none

def Request.progress (request : Request) : Progress := ⟨request, false, false, false⟩

def advance : (op : Op) → Except Exception op.Ret → Progress → Progress
  | .findEvent _, .ok found, k =>
      { k with claims := found.any fun (row : WebhookEventEntity) => row.status ≠ .processed }
  | .insertEvent _, .ok _, k => { k with claims := true, inserted := true }
  | .commit, .ok _, k => { k with inserted := false }
  | .rollback, .ok _, k => { k with claims := false, inserted := false }
  | .reloadEvent _, _, k => { k with completed := true }
  | _, _, k => k

abbrev progressOf (past : List Event) (i : Nat) : Option Progress :=
  service.trace Request.progress advance i past

/-- What a call may do where it stands. -/
def Next (k : Progress) : Op → Prop
  | .payment op => k.request.ref = none ∨ op = .dateNow ∨ (k.claims = true ∧ k.completed = false)
  | .begin => True
  | .findEvent ref => k.request.ref = some ref ∧ k.claims = false
  | .insertEvent event => k.request.ref = some event.ref ∧ k.claims = false ∧
      k.inserted = false ∧ event.status = .received
  | .commit => k.completed = false
  | .rollback => k.completed = false
  | .reloadEvent ref => k.request.ref = some ref ∧ k.claims = true ∧ k.inserted = false ∧
      k.completed = false
  | .updateEvent ref _ => k.request.ref = some ref ∧ k.claims = true ∧ k.inserted = false ∧
      k.completed = true

def Replies : (op : Op) → Except Exception op.Ret → Prop
  | .findEvent ref, .ok found => ∀ row : WebhookEventEntity, found = some row → row.ref = ref
  | .rollback, .error _ => False
  | _, _ => True

/-! ## The requests follow it -/

section Calls

variable {k : Progress} {α : Type}

abbrev Follows (c : Call α) (k : Progress) (Q : α → Unit → Progress → Prop)
    (E : Unit → Progress → Prop) : Prop :=
  c.Ensures (tracked (fun op k => Next k op) (fun op r => Replies op r) advance) () k Q E

/-- The operations of the payment service tell a delivery nothing. -/
theorem payment_follows {c : Payment.Call α} (h : ∀ op, Next k (.payment op)) :
    Follows (payment c) k (fun _ _ k' => k' = k) fun _ k' => k' = k := by
  refine .lift ?_
  unfold Call.Ensures Call.wp
  generalize c () = p
  induction p with
  | done result =>
      rcases result with ⟨e | a, u⟩ <;> rfl
  | await op next ih => exact ⟨h op, fun r _ => ih r⟩

theorem dateNow_follows : Follows (payment dateNow) k (fun _ _ k' => k' = k) fun _ k' => k' = k :=
  ⟨.inr (.inl rfl), fun r _ => by cases r <;> rfl⟩

/-- Where a delivery stands before its event is recorded. -/
structure Progress.Fresh (k : Progress) (ref : EventRef) : Prop where
  names : k.request.ref = some ref
  claims : k.claims = false
  inserted : k.inserted = false
  completed : k.completed = false

/-- Where a delivery stands when it has got the row of its event. -/
structure Progress.Recorded (k : Progress) (ref : EventRef) (row : WebhookEventEntity) : Prop where
  names : k.request.ref = some ref
  stored : row.ref = ref
  claims : row.status ≠ .processed → k.claims = true
  completed : k.completed = false

theorem recordEvent_follows {ref : EventRef} {event : WebhookEvent} (hk : k.Fresh ref) :
    Follows (recordEvent ref event) k (fun row _ k' => k'.Recorded ref row)
      fun _ k' => k'.completed = false := by
  refine .bind ⟨⟨hk.names, hk.claims⟩, ?_⟩
  intro r hr
  cases r with
  | error e => exact hk.completed
  | ok found =>
      cases found with
      | some row =>
          refine .pure ⟨hk.names, hr row rfl, fun hstatus => ?_, hk.completed⟩
          exact decide_eq_true hstatus
      | none =>
          refine .andThen dateNow_follows (fun _ k' h => ?_) fun now _ k' h => ?_
          · subst h
            exact hk.completed
          · subst h
            refine .bind ⟨⟨hk.names, rfl, hk.inserted, rfl⟩, ?_⟩
            intro r _
            cases r with
            | error e => exact hk.completed
            | ok a => exact .pure ⟨hk.names, rfl, fun _ => rfl, hk.completed⟩

theorem transaction_follows {ref : EventRef} {event : WebhookEvent} (hk : k.Fresh ref) :
    Follows (transaction (recordEvent ref event)) k
      (fun row _ k' => k'.Recorded ref row ∧ k'.inserted = false) fun _ _ => True := by
  have hbody : Follows
      (do
        Call.await Op.begin
        let result ← recordEvent ref event
        Call.await Op.commit
        pure result) k (fun row _ k' => k'.Recorded ref row ∧ k'.inserted = false)
      fun _ k' => k'.completed = false := by
    refine .bind ⟨trivial, ?_⟩
    intro r _
    cases r with
    | error e => exact hk.completed
    | ok a =>
        refine .andThen (recordEvent_follows hk) (fun _ _ h => h) fun row _ k' hrow => ?_
        refine .bind ⟨hrow.completed, ?_⟩
        intro r _
        cases r with
        | error e => exact hrow.completed
        | ok a => exact .pure ⟨⟨hrow.names, hrow.stored, hrow.claims, hrow.completed⟩, rfl⟩
  refine .tryCatch hbody fun e _ k' hcompleted => ?_
  refine .bind ⟨hcompleted, ?_⟩
  intro r _
  cases r with
  | error e => trivial
  | ok a => exact .throw trivial

theorem processWebhookEvent_follows {gatewayName : String} {event : WebhookEvent}
    (hclaims : k.claims = true) (hcompleted : k.completed = false) :
    Follows (processWebhookEvent gatewayName event) k (fun _ _ k' => k' = k) fun _ k' => k' = k := by
  have hpayment : ∀ op, Next k (.payment op) := fun _ => .inr (.inr ⟨hclaims, hcompleted⟩)
  unfold processWebhookEvent
  dsimp only
  split
  · exact .pure rfl
  · split
    · exact .andThen (payment_follows hpayment) (fun _ _ h => h) fun _ _ _ h => .pure h
    · split
      · exact .andThen (payment_follows hpayment) (fun _ _ h => h) fun _ _ _ h => .pure h
      · split
        · exact .andThen (payment_follows hpayment) (fun _ _ h => h) fun _ _ _ h => .pure h
        · exact .pure rfl

theorem saveEvent_follows {row : WebhookEventEntity} (href : k.request.ref = some row.ref)
    (hclaims : k.claims = true) (hinserted : k.inserted = false) (hcompleted : k.completed = false) :
    Follows (saveEvent row) k (fun _ _ _ => True) fun _ _ => True := by
  refine .bind ⟨⟨href, hclaims, hinserted, hcompleted⟩, ?_⟩
  intro r _
  cases r with
  | error e => trivial
  | ok stored =>
      refine .whenever (fun _ => ?_) fun _ => trivial
      refine ⟨⟨href, hclaims, hinserted, rfl⟩, fun r _ => ?_⟩
      cases r <;> trivial

theorem handleWebhook_follows (gateway : Gateway) (verified : Option WebhookEvent) :
    Follows (handleWebhook gateway verified) (Request.deliver gateway verified).progress
      (fun _ _ _ => True) fun _ _ => True := by
  have hresolve : Gateway.getByName gateway.getGatewayName = .ok gateway := by
    cases gateway <;> decide
  refine .tryCatch (?_ : Follows _ _ (fun _ _ _ => True) fun _ _ => True) fun _ _ _ _ =>
    .throw trivial
  rw [hresolve]
  refine .bind (.ofExcept (fun _ _ => trivial) fun provider hprovider => ?_)
  cases hprovider
  cases gateway with
  | paypal => exact .bind (.lift trivial)
  | stripe =>
      cases verified with
      | none => exact .bind trivial
      | some event =>
          have hfresh : (Request.deliver .stripe (some event)).progress.Fresh
              ⟨Gateway.stripe.getGatewayName, event.id⟩ := ⟨rfl, rfl, rfl, rfl⟩
          refine .bind (.pure ?_)
          refine .andThen (transaction_follows hfresh) (fun _ _ h => h) fun row _ k hrow => ?_
          obtain ⟨hrecorded, hinserted⟩ := hrow
          by_cases hstatus : row.status = .processed
          · rw [if_pos hstatus]
            exact .pure trivial
          · rw [if_neg hstatus]
            have hclaims : k.claims = true := hrecorded.claims hstatus
            refine .andThen (processWebhookEvent_follows hclaims hrecorded.completed)
              (fun _ _ _ => trivial) fun _ _ k' h => ?_
            subst h
            refine .andThen dateNow_follows (fun _ _ _ => trivial) fun now _ k' h => ?_
            subst h
            refine saveEvent_follows ?_ hclaims hinserted hrecorded.completed
            exact hrecorded.names.trans (congrArg some hrecorded.stored.symm)

theorem request_follows (request : Request) :
    Follows request.call request.progress (fun _ _ _ => True) fun _ _ => True := by
  cases request with
  | deliver gateway verified =>
      exact .andThen (handleWebhook_follows gateway verified) (fun _ _ h => h) fun _ _ _ _ =>
        .pure trivial
  | other request =>
      have hpayment : ∀ op, Next (Request.other request).progress (.payment op) := fun _ => .inl rfl
      exact (payment_follows hpayment).mono (fun _ _ _ _ => trivial) fun _ _ _ => trivial

end Calls

/-! ## What an operation does -/

variable {past : List Event} {P : ServicePool} {w w' : World} {k k' : Progress} {op : Op}
variable {choice : Choice} {r : Except Exception op.Ret} {i : Nat} {ref : EventRef}

/-- What an operation of call `i` does to the webhook events and to the progress of the call. -/
inductive Effect (i : Nat) (choice : Choice) (w : World) (k : Progress) :
    Op → World → Progress → Prop where
  | kept {op : Op} {w' : World} (hevents : w'.events = w.events)
      (hpending : w'.pending = w.pending) : Effect i choice w k op w' k
  | found {ref : EventRef} (hnext : Next k (.findEvent ref)) (hfails : choice.fails = none) :
      Effect i choice w k (.findEvent ref) w
        { k with
          claims := (w.event ref).any fun (row : WebhookEventEntity) => row.status ≠ .processed }
  | inserted {row : WebhookEventEntity} (hnext : Next k (.insertEvent row))
      (hfree : w.blocks i row.ref = false) (hnew : w.event row.ref = none) :
      Effect i choice w k (.insertEvent row) { w with pending := w.pending ++ [(i, row)] }
        { k with claims := true, inserted := true }
  | committed (hnext : Next k .commit) :
      Effect i choice w k .commit
        { w with
          events := w.events ++ (w.pending.filter fun entry => entry.1 = i).map Prod.snd
          pending := w.pending.filter fun entry => entry.1 ≠ i }
        { k with inserted := false }
  | undone (hnext : Next k .rollback) :
      Effect i choice w k .rollback { w with pending := w.pending.filter fun entry => entry.1 ≠ i }
        { k with claims := false, inserted := false }
  | completed {ref : EventRef} (hnext : Next k (.reloadEvent ref)) :
      Effect i choice w k (.reloadEvent ref) w { k with completed := true }
  | saved {ref : EventRef} {state : WebhookEventState} (hnext : Next k (.updateEvent ref state)) :
      Effect i choice w k (.updateEvent ref state)
        { w with
          events := Table.modify WebhookEventEntity.ref ref
            (fun event => { event with toWebhookEventState := state }) w.events } k

theorem effect_of (hnext : Next k op) (h : performWith i choice op w = some (r, w')) :
    Effect i choice w k op w' (advance op r k) := by
  cases op with
  | payment op =>
      have hperform : Op.perform i choice (.payment op) w = some (r, w') := h
      obtain ⟨result, -, hresult⟩ := Option.map_eq_some_iff.mp hperform
      cases hresult
      exact .kept rfl rfl
  | insertEvent row =>
      cases hfails : choice.fails with
      | some e =>
          simp only [performWith, hfails, Op.fallible] at h
          cases h
          exact .kept rfl rfl
      | none =>
          simp only [performWith, hfails, Op.perform] at h
          split at h
          · cases h
          · rename_i hfree
            split at h
            · cases h
              exact .kept rfl rfl
            · rename_i hnew
              cases h
              exact .inserted hnext (by simpa using hfree) (by simpa using hnew)
  | _ =>
      cases hfails : choice.fails with
      | some e =>
          simp only [performWith, hfails, Op.fallible] at h
          cases h
          first
            | exact .completed hnext
            | exact .undone hnext
            | exact .kept rfl rfl
      | none =>
          simp only [performWith, hfails, Op.perform] at h
          cases h
          first
            | exact .kept rfl rfl
            | exact .found hnext hfails
            | exact .committed hnext
            | exact .undone hnext
            | exact .completed hnext
            | exact .saved hnext

theorem payments_of_performed (hop : ∀ op', op ≠ .payment op')
    (h : performWith i choice op w = some (r, w')) : w'.payments = w.payments := by
  cases op with
  | payment op => exact absurd rfl (hop op)
  | _ =>
      cases hfails : choice.fails with
      | some e =>
          simp only [performWith, hfails, Op.fallible] at h
          cases h
          rfl
      | none =>
          simp only [performWith, hfails, Op.perform] at h
          first
            | (cases h; rfl)
            | (split at h
               · cases h
               · split at h <;> cases h <;> rfl)

theorem replies_of (h : performWith i choice op w = some (r, w')) : Replies op r := by
  cases op with
  | findEvent ref =>
      cases hfails : choice.fails with
      | some e =>
          simp only [performWith, hfails, Op.fallible] at h
          cases h
          trivial
      | none =>
          simp only [performWith, hfails, Op.perform] at h
          cases h
          exact fun row hrow => (Table.mem_of_find hrow).2
  | rollback =>
      cases hfails : choice.fails with
      | some e =>
          simp only [performWith, hfails, Op.fallible, Op.perform] at h
          cases h
          trivial
      | none =>
          simp only [performWith, hfails, Op.perform] at h
          cases h
          trivial
  | _ => cases r <;> trivial

/-! ## Claims -/

/-- The call has not returned. -/
def underWay (P : ServicePool) (i : Nat) : Bool := P.calls[i]?.any fun p => !p.isDone

/-- The delivery has claimed the event, and has processed it or is still busy with it. -/
def Claims (past : List Event) (P : ServicePool) (ref : EventRef) (i : Nat) : Prop :=
  ∃ k ∈ progressOf past i, k.request.ref = some ref ∧ k.claims = true ∧
    (k.completed = true ∨ underWay P i = true)

/-- A delivery that finds the row of its event not processed finds no other one that has processed
the event or is busy with it. -/
def Vetted (past : List Event) (P : ServicePool) : Event → Prop
  | .performed w _ choice (.findEvent ref) _ => choice.fails = none →
      (w.event ref).any (fun row => decide (row.status ≠ .processed)) = true →
        ∀ i ∈ System.startedCalls past, ¬Claims past P ref i
  | _ => True

/-- The delivery that has come through `processWebhookEvent`. -/
def completes (ref : EventRef) : Event → Option Nat
  | .performed _ i _ (.reloadEvent ref') _ => if ref' = ref then some i else none
  | _ => none

def isProcessed (w : World) (ref : EventRef) : Bool :=
  (w.event ref).any fun row => decide (row.status = .processed)

/-- A delivery of an event that is marked as processed leaves the payments alone. -/
def Quiet (past : List Event) : Event → Prop
  | .performed w i _ _ w' => ∀ s request ref, .started s i request ∈ past →
      request.ref = some ref → isProcessed w ref = true → w'.payments = w.payments
  | .started _ _ _ => True

/-! ## The invariant -/

structure Deduped (past : List Event) (P : ServicePool) : Prop where
  requested : ∀ s i request, .started s i request ∈ past →
    ∃ k, progressOf past i = some k ∧ k.request = request
  pending : ∀ i row, (i, row) ∈ P.state.pending → ∃ k, progressOf past i = some k ∧
    k.request.ref = some row.ref ∧ k.claims = true ∧ k.inserted = true ∧ row.status = .received
  inserted : ∀ i k, progressOf past i = some k → k.inserted = true →
    ∃ row, (i, row) ∈ P.state.pending
  recorded : ∀ i k ref, progressOf past i = some k → k.request.ref = some ref → k.claims = true →
    k.inserted = false → (P.state.event ref).isSome = true
  sole : ∀ ref i j, Claims past P ref i → Claims past P ref j → i = j
  processed : ∀ ref, isProcessed P.state ref = true →
    ∃ i k, progressOf past i = some k ∧ k.request.ref = some ref ∧ k.claims = true ∧
      k.completed = true
  counted : ∀ ref, (past.filterMap (completes ref)).length ≤ 1
  known : ∀ ref i, i ∈ past.filterMap (completes ref) →
    ∃ k, progressOf past i = some k ∧ k.request.ref = some ref ∧ k.claims = true ∧
      k.completed = true
  quiet : System.Throughout Quiet [] past

theorem deduped_init {now : Nat} : Deduped [] (.init (World.init now)) where
  requested _ _ _ hmem := absurd hmem List.not_mem_nil
  pending _ _ hmem := absurd hmem List.not_mem_nil
  inserted _ _ hk := by cases hk
  recorded _ _ _ hk := by cases hk
  sole _ _ _ h := by
    obtain ⟨k, hk, -⟩ := h
    cases hk
  processed _ h := by cases h
  counted _ := Nat.zero_le 1
  known _ _ hmem := absurd hmem List.not_mem_nil
  quiet := trivial

theorem Effect.request (h : Effect i choice w k op w' k') : k'.request = k.request := by
  cases h <;> rfl

/-- A claim is given up only with the transaction that made it. -/
theorem Effect.claims (h : Effect i choice w k op w' k') (hk : k.claims = true)
    (hcompleted : k.completed = true) : k'.claims = true ∧ k'.completed = true := by
  cases h with
  | found hnext => exact absurd (hnext.2.symm.trans hk) Bool.false_ne_true
  | undone hnext => exact absurd (hnext.symm.trans hcompleted) Bool.false_ne_true
  | inserted => exact ⟨rfl, hcompleted⟩
  | completed => exact ⟨hk, rfl⟩
  | _ => exact ⟨hk, hcompleted⟩

theorem event_saved {ref' : EventRef} {state : WebhookEventState} :
    World.event { w with
      events := Table.modify WebhookEventEntity.ref ref'
        (fun event => { event with toWebhookEventState := state }) w.events } ref =
      if ref = ref' then (w.event ref).map fun event => { event with toWebhookEventState := state }
      else w.event ref := by
  by_cases heq : ref = ref'
  · subst heq
    rw [if_pos rfl]
    exact Table.find_modify_self fun _ h => h
  · rw [if_neg heq]
    exact Table.find_modify_of_ne (fun _ h => h) heq

theorem Effect.event (h : Effect i choice w k op w' k') (hevent : (w.event ref).isSome = true) :
    (w'.event ref).isSome = true := by
  cases h with
  | kept hevents =>
      rw [World.event, hevents]
      exact hevent
  | committed =>
      change (List.find? _ (_ ++ _)).isSome = true
      rw [List.find?_append, Option.isSome_or]
      rw [World.event, Table.find] at hevent
      simp [hevent]
  | @saved ref' state =>
      rw [event_saved]
      split
      · rwa [Option.isSome_map]
      · exact hevent
  | _ => exact hevent

section Steps

variable {next : Except Exception op.Ret → Program Op (fun op => Except Exception op.Ret)
  (Except Exception (Option ResponseBody) × Unit)}

theorem underWay_of_await (hcall : P.calls[i]? = some (.await op next)) : underWay P i = true := by
  simp [underWay, hcall, Program.isDone]

/-- A claim after a step was there before, or the step makes it. -/
theorem claims_before (hcall : P.calls[i]? = some (.await op next))
    (hk : progressOf past i = some k) (hperform : service.perform i choice op P.state = some (r, w'))
    (heffect : Effect i choice P.state k op w' (advance op r k)) {j : Nat}
    (h : Claims (past ++ [.performed P.state i choice op w']) ⟨w', P.calls.set i (next r)⟩ ref j) :
    Claims past P ref j ∨ (j = i ∧ k.request.ref = some ref ∧ k.claims = false ∧
      (advance op r k).claims = true) := by
  obtain ⟨kj, hj, href, hclaims, hbusy⟩ := h
  rcases System.trace_performed_cases hperform hk hj with ⟨rfl, rfl⟩ | ⟨hne, hj⟩
  · rw [heffect.request] at href
    cases hold : k.claims with
    | true => exact .inl ⟨k, hk, href, hold, .inr (underWay_of_await hcall)⟩
    | false => exact .inr ⟨rfl, href, rfl, hclaims⟩
  · refine .inl ⟨kj, hj, href, hclaims, hbusy.imp_right fun h => ?_⟩
    simpa [underWay, List.getElem?_set_ne (Ne.symm hne)] using h

/-- A delivery that claims its event now is the only one. -/
theorem Deduped.none_claims (hinv : Deduped past P) (hk : progressOf past i = some k)
    (heffect : Effect i choice P.state k op w' k')
    (hvetted : Vetted past P (.performed P.state i choice op w'))
    (href : k.request.ref = some ref) (hold : k.claims = false) (hnew : k'.claims = true) (j : Nat) :
    ¬Claims past P ref j := by
  intro h
  obtain ⟨kj, hj, hrefj, hclaims, hbusy⟩ := h
  cases heffect with
  | @found ref' hnext hfails =>
      have hsame := hnext.1.symm.trans href
      cases hsame
      exact hvetted hfails hnew j (System.mem_startedCalls hj) ⟨kj, hj, hrefj, hclaims, hbusy⟩
  | @inserted row hnext hfree hnone =>
      have hsame := hnext.1.symm.trans href
      cases hsame
      cases hopen : kj.inserted with
      | true =>
          obtain ⟨row', hrow'⟩ := hinv.inserted j kj hj hopen
          obtain ⟨kj', hj', hnames, -⟩ := hinv.pending j row' hrow'
          have hsame := hj.symm.trans hj'
          cases hsame
          have hrow : row'.ref = row.ref := Option.some.inj (hnames.symm.trans hrefj)
          by_cases heq : j = i
          · subst heq
            have hsame := hj.symm.trans hk
            cases hsame
            exact absurd (hold.symm.trans hclaims) Bool.false_ne_true
          · rw [World.blocks, List.any_eq_false] at hfree
            have hblocked := hfree (j, row') hrow'
            simp [heq, hrow] at hblocked
      | false =>
          have hsome := hinv.recorded j kj row.ref hj hrefj hclaims hopen
          rw [hnone] at hsome
          cases hsome
  | undone => cases hnew
  | _ => exact absurd (hold.symm.trans hnew) Bool.false_ne_true

theorem Deduped.sole_step (hinv : Deduped past P) (hcall : P.calls[i]? = some (.await op next))
    (hk : progressOf past i = some k) (hperform : service.perform i choice op P.state = some (r, w'))
    (heffect : Effect i choice P.state k op w' (advance op r k))
    (hvetted : Vetted past P (.performed P.state i choice op w')) {a b : Nat}
    (ha : Claims (past ++ [.performed P.state i choice op w']) ⟨w', P.calls.set i (next r)⟩ ref a)
    (hb : Claims (past ++ [.performed P.state i choice op w']) ⟨w', P.calls.set i (next r)⟩ ref b) :
    a = b := by
  rcases claims_before hcall hk hperform heffect ha with hold | ⟨rfl, href, hnone, hnew⟩
  · rcases claims_before hcall hk hperform heffect hb with hold' | ⟨rfl, href, hnone, hnew⟩
    · exact hinv.sole ref a b hold hold'
    · exact absurd hold (hinv.none_claims hk heffect hvetted href hnone hnew a)
  · rcases claims_before hcall hk hperform heffect hb with hold | ⟨rfl, -⟩
    · exact absurd hold (hinv.none_claims hk heffect hvetted href hnone hnew b)
    · rfl

/-- A delivery that goes on to touch the payments has claimed its event, which nobody has
processed. -/
theorem Deduped.quiet_step (hinv : Deduped past P) (hcall : P.calls[i]? = some (.await op next))
    (hk : progressOf past i = some k) (hnext : Next k op)
    (hperform : service.perform i choice op P.state = some (r, w')) :
    Quiet past (.performed P.state i choice op w') := by
  intro s request ref hstarted href hprocessed
  obtain ⟨k₁, hk₁, hrequest⟩ := hinv.requested s i request hstarted
  have hsame := hk₁.symm.trans hk
  cases hsame
  rw [← hrequest] at href
  obtain ⟨j, kj, hj, hrefj, hclaims, hcompleted⟩ := hinv.processed ref hprocessed
  cases op with
  | payment op =>
      have hresult : Op.perform i choice (.payment op) P.state = some (r, w') := hperform
      obtain ⟨result, hpayment, hresult⟩ := Option.map_eq_some_iff.mp hresult
      cases hresult
      rcases hnext with hother | rfl | ⟨hmine, hopen⟩
      · rw [hother] at href
        cases href
      · show result.2 = P.state.payments
        simp only [Payment.performWith, Payment.Op.fallible, Payment.Op.perform] at hpayment
        cases hfails : choice.fails with
        | none =>
            simp only [hfails, Option.some.injEq] at hpayment
            exact hpayment ▸ rfl
        | some e =>
            simp only [hfails, Bool.false_eq_true, if_false, Option.some.injEq] at hpayment
            exact hpayment ▸ rfl
      · have hi : Claims past P ref i := ⟨k, hk, href, hmine, .inr (underWay_of_await hcall)⟩
        have hjclaims : Claims past P ref j := ⟨kj, hj, hrefj, hclaims, .inl hcompleted⟩
        have heq : i = j := hinv.sole ref i j hi hjclaims
        subst heq
        have hsame := hj.symm.trans hk
        cases hsame
        exact absurd (hopen.symm.trans hcompleted) Bool.false_ne_true
  | _ => exact payments_of_performed (by simp) hperform

/-- The rows that other transactions have inserted stay as they are. -/
theorem Effect.pending_of_ne (h : Effect i choice w k op w' k') {j : Nat} (hj : j ≠ i)
    {row : WebhookEventEntity} : (j, row) ∈ w'.pending ↔ (j, row) ∈ w.pending := by
  cases h with
  | kept hevents hpending => rw [hpending]
  | inserted => simp [hj]
  | committed => simp [hj]
  | undone => simp [hj]
  | _ => rfl

theorem Deduped.pending_self (hinv : Deduped past P) (hk : progressOf past i = some k)
    (heffect : Effect i choice P.state k op w' k') {row : WebhookEventEntity}
    (hmem : (i, row) ∈ w'.pending) : k'.request.ref = some row.ref ∧ k'.claims = true ∧
      k'.inserted = true ∧ row.status = .received := by
  have hold : (i, row) ∈ P.state.pending → k.request.ref = some row.ref ∧ k.claims = true ∧
      k.inserted = true ∧ row.status = .received := by
    intro hmem
    obtain ⟨k₁, hk₁, hrest⟩ := hinv.pending i row hmem
    have hsame := hk₁.symm.trans hk
    cases hsame
    exact hrest
  cases heffect with
  | kept hevents hpending => exact hold (hpending ▸ hmem)
  | found hnext => exact absurd (hnext.2.symm.trans (hold hmem).2.1) Bool.false_ne_true
  | inserted hnext =>
      rcases List.mem_append.mp hmem with hbefore | hnew
      · exact absurd (hnext.2.1.symm.trans (hold hbefore).2.1) Bool.false_ne_true
      · cases List.mem_singleton.mp hnew
        exact ⟨hnext.1, rfl, rfl, hnext.2.2.2⟩
  | committed => simp at hmem
  | undone => simp at hmem
  | completed => exact hold hmem
  | saved => exact hold hmem

theorem Deduped.inserted_self (hinv : Deduped past P) (hk : progressOf past i = some k)
    (heffect : Effect i choice P.state k op w' k') (hinserted : k'.inserted = true) :
    ∃ row, (i, row) ∈ w'.pending := by
  cases heffect with
  | kept hevents hpending =>
      rw [hpending]
      exact hinv.inserted i k hk hinserted
  | @inserted row => exact ⟨row, by simp⟩
  | committed => cases hinserted
  | undone => cases hinserted
  | _ => exact hinv.inserted i k hk hinserted

theorem Deduped.recorded_self (hinv : Deduped past P) (hk : progressOf past i = some k)
    (heffect : Effect i choice P.state k op w' k') (href : k'.request.ref = some ref)
    (hclaims : k'.claims = true) (hinserted : k'.inserted = false) :
    (w'.event ref).isSome = true := by
  rw [heffect.request] at href
  have hold : k.claims = true → k.inserted = false → (w'.event ref).isSome = true :=
    fun hclaims hinserted => heffect.event (hinv.recorded i k ref hk href hclaims hinserted)
  cases heffect with
  | @found ref' hnext =>
      have hsame := hnext.1.symm.trans href
      cases hsame
      change (P.state.event ref).any _ = true at hclaims
      rw [Option.any_eq_true] at hclaims
      obtain ⟨row, hrow, -⟩ := hclaims
      exact Option.isSome_iff_exists.mpr ⟨row, hrow⟩
  | inserted => cases hinserted
  | committed =>
      cases hopen : k.inserted with
      | false => exact hold hclaims hopen
      | true =>
          -- its row is among those that become visible
          obtain ⟨row, hrow⟩ := hinv.inserted i k hk hopen
          obtain ⟨k₁, hk₁, hnames, -⟩ := hinv.pending i row hrow
          have hsame := hk₁.symm.trans hk
          cases hsame
          have hrowref : row.ref = ref := Option.some.inj (hnames.symm.trans href)
          refine List.find?_isSome.mpr ⟨row, ?_, by simpa using hrowref⟩
          refine List.mem_append_right _ (List.mem_map.mpr ⟨(i, row), ?_, rfl⟩)
          simpa using hrow
  | undone => cases hclaims
  | _ => exact hold hclaims hinserted

/-- A row is processed because it was, or because the call saves it so. -/
theorem Deduped.processed_self (hinv : Deduped past P)
    (heffect : Effect i choice P.state k op w' k') (h : isProcessed w' ref = true) :
    isProcessed P.state ref = true ∨
      (k'.request.ref = some ref ∧ k'.claims = true ∧ k'.completed = true) := by
  cases heffect with
  | kept hevents hpending =>
      rw [isProcessed, World.event, hevents] at h
      exact .inl h
  | committed =>
      rw [isProcessed, Option.any_eq_true] at h
      obtain ⟨row, hrow, hstatus⟩ := h
      have hfind : (List.find? (fun event : WebhookEventEntity => decide (event.ref = ref))
          (P.state.events ++ (P.state.pending.filter fun entry => entry.1 = i).map Prod.snd)) =
          some row := hrow
      rw [List.find?_append] at hfind
      rcases Option.or_eq_some_iff.mp hfind with hold | ⟨-, hnew⟩
      · left
        rw [isProcessed, Option.any_eq_true]
        exact ⟨row, hold, hstatus⟩
      · obtain ⟨⟨j, row'⟩, hmem, rfl⟩ := List.mem_map.mp (List.mem_of_find?_eq_some hnew)
        obtain ⟨k₁, -, -, -, -, hreceived⟩ := hinv.pending j row' (List.mem_filter.mp hmem).1
        simp [hreceived] at hstatus
  | @saved ref' state hnext =>
      by_cases heq : ref = ref'
      · subst heq
        exact .inr ⟨hnext.1, hnext.2.1, hnext.2.2.2⟩
      · rw [isProcessed, event_saved, if_neg heq] at h
        exact .inl h
  | _ => exact .inl h

/-- What was processed stays so. -/
theorem completed_after (hk : progressOf past i = some k)
    (hperform : service.perform i choice op w = some (r, w'))
    (heffect : Effect i choice w k op w' (advance op r k)) {j : Nat} {kj : Progress}
    (hj : progressOf past j = some kj) (href : kj.request.ref = some ref)
    (hclaims : kj.claims = true) (hcompleted : kj.completed = true) :
    ∃ k', progressOf (past ++ [.performed w i choice op w']) j = some k' ∧
      k'.request.ref = some ref ∧ k'.claims = true ∧ k'.completed = true := by
  by_cases heq : j = i
  · subst heq
    have hsame := hj.symm.trans hk
    cases hsame
    obtain ⟨hclaims', hcompleted'⟩ := heffect.claims hclaims hcompleted
    exact ⟨_, System.trace_performed_some hperform hk, heffect.request ▸ href, hclaims', hcompleted'⟩
  · exact ⟨kj, (System.trace_performed_of_ne heq).trans hj, href, hclaims, hcompleted⟩

theorem completes_of_performed (h : completes ref (.performed w i choice op w') = some j) :
    j = i ∧ op = .reloadEvent ref := by
  unfold completes at h
  split at h
  · rename_i ref' _ heq
    cases heq
    split at h
    · rename_i hsame
      subst hsame
      exact ⟨(Option.some.inj h).symm, rfl⟩
    · cases h
  · cases h

theorem Deduped.counted_step (hinv : Deduped past P) (hcall : P.calls[i]? = some (.await op next))
    (hk : progressOf past i = some k) (hnext : Next k op) :
    (List.filterMap (completes ref) (past ++ [.performed P.state i choice op w'])).length ≤ 1 := by
  have hbefore := hinv.counted ref
  rw [List.filterMap_append, List.length_append]
  cases hcompletes : completes ref (.performed P.state i choice op w') with
  | none => simpa [hcompletes] using hbefore
  | some j =>
      obtain ⟨rfl, rfl⟩ := completes_of_performed hcompletes
      obtain ⟨href, hclaims, -, hopen⟩ := hnext
      have hnone : past.filterMap (completes ref) = [] := by
        refine List.eq_nil_iff_forall_not_mem.mpr fun a ha => ?_
        obtain ⟨ka, hka, hrefa, hclaimsa, hcompleted⟩ := hinv.known ref a ha
        have hmine : Claims past P ref j := ⟨k, hk, href, hclaims, .inr (underWay_of_await hcall)⟩
        have heq : a = j := hinv.sole ref a j ⟨ka, hka, hrefa, hclaimsa, .inl hcompleted⟩ hmine
        subst heq
        have hsame := hka.symm.trans hk
        cases hsame
        exact absurd (hopen.symm.trans hcompleted) Bool.false_ne_true
      simp [hnone, hcompletes]

theorem Deduped.performed (hinv : Deduped past P) (hcall : P.calls[i]? = some (.await op next))
    (hk : progressOf past i = some k) (hnext : Next k op)
    (hperform : service.perform i choice op P.state = some (r, w'))
    (hvetted : Vetted past P (.performed P.state i choice op w')) :
    Deduped (past ++ [.performed P.state i choice op w']) ⟨w', P.calls.set i (next r)⟩ := by
  have heffect := effect_of hnext hperform
  have hself := System.trace_performed_some hperform hk
  refine ⟨?_, ?_, ?_, ?_, ?_, ?_, ?_, ?_, ?_⟩
  · intro s j request hmem
    rcases List.mem_append.mp hmem with hold | hnew
    · obtain ⟨kj, hj, hrequest⟩ := hinv.requested s j request hold
      by_cases heq : j = i
      · subst heq
        have hsame := hj.symm.trans hk
        cases hsame
        exact ⟨_, hself, heffect.request.trans hrequest⟩
      · exact ⟨kj, (System.trace_performed_of_ne heq).trans hj, hrequest⟩
    · cases List.mem_singleton.mp hnew
  · intro j row hmem
    by_cases heq : j = i
    · subst heq
      exact ⟨_, hself, hinv.pending_self hk heffect hmem⟩
    · obtain ⟨kj, hj, hrest⟩ := hinv.pending j row ((heffect.pending_of_ne heq).mp hmem)
      exact ⟨kj, (System.trace_performed_of_ne heq).trans hj, hrest⟩
  · intro j kj hj hinserted
    rcases System.trace_performed_cases hperform hk hj with ⟨rfl, rfl⟩ | ⟨hne, hbefore⟩
    · exact hinv.inserted_self hk heffect hinserted
    · obtain ⟨row, hrow⟩ := hinv.inserted j kj hbefore hinserted
      exact ⟨row, (heffect.pending_of_ne hne).mpr hrow⟩
  · intro j kj ref hj href hclaims hinserted
    rcases System.trace_performed_cases hperform hk hj with ⟨rfl, rfl⟩ | ⟨hne, hbefore⟩
    · exact hinv.recorded_self hk heffect href hclaims hinserted
    · exact heffect.event (hinv.recorded j kj ref hbefore href hclaims hinserted)
  · exact fun ref a b => hinv.sole_step hcall hk hperform heffect hvetted
  · intro ref hprocessed
    rcases hinv.processed_self heffect hprocessed with hold | hnew
    · obtain ⟨j, kj, hj, href, hclaims, hcompleted⟩ := hinv.processed ref hold
      exact ⟨j, completed_after hk hperform heffect hj href hclaims hcompleted⟩
    · exact ⟨i, _, hself, hnew⟩
  · exact fun ref => hinv.counted_step hcall hk hnext
  · intro ref j hmem
    rw [List.filterMap_append] at hmem
    rcases List.mem_append.mp hmem with hold | hnew
    · obtain ⟨kj, hj, href, hclaims, hcompleted⟩ := hinv.known ref j hold
      exact completed_after hk hperform heffect hj href hclaims hcompleted
    · obtain ⟨e, he, hcompletes⟩ := List.mem_filterMap.mp hnew
      rw [List.mem_singleton.mp he] at hcompletes
      obtain ⟨rfl, rfl⟩ := completes_of_performed hcompletes
      exact ⟨_, hself, hnext.1, hnext.2.1, rfl⟩
  · exact System.throughout_append.mpr
      ⟨hinv.quiet, hinv.quiet_step hcall hk hnext hperform, trivial⟩

end Steps

section Started

variable {request : Request}

theorem progressOf_of_started (hnew : progressOf past P.calls.length = none) {j : Nat} {kj : Progress}
    (hj : progressOf past j = some kj) :
    progressOf (past ++ [.started P.state P.calls.length request]) j = some kj := by
  have hne : j ≠ P.calls.length := by
    intro heq
    subst heq
    rw [hnew] at hj
    cases hj
  exact (System.trace_started_of_ne hne).trans hj

theorem claims_of_started {j : Nat}
    (h : Claims (past ++ [.started P.state P.calls.length request])
      ⟨P.state, P.calls ++ [service.program request]⟩ ref j) : Claims past P ref j := by
  obtain ⟨kj, hj, href, hclaims, hbusy⟩ := h
  rcases System.trace_started_cases hj with ⟨-, rfl⟩ | ⟨hne, hj⟩
  · cases hclaims
  · refine ⟨kj, hj, href, hclaims, hbusy.imp_right fun h => ?_⟩
    unfold underWay at h ⊢
    rcases Nat.lt_trichotomy j P.calls.length with hlt | heq | hgt
    · rwa [List.getElem?_append_left hlt] at h
    · exact absurd heq hne
    · rw [List.getElem?_eq_none (by simp; omega)] at h
      cases h

theorem Deduped.started (hinv : Deduped past P) (hnew : progressOf past P.calls.length = none) :
    Deduped (past ++ [.started P.state P.calls.length request])
      ⟨P.state, P.calls ++ [service.program request]⟩ := by
  have hlist : ∀ ref, List.filterMap (completes ref)
      (past ++ [.started P.state P.calls.length request]) = past.filterMap (completes ref) := by
    intro ref
    simp [completes]
  refine ⟨?_, ?_, ?_, ?_, ?_, ?_, ?_, ?_, ?_⟩
  · intro s j request' hmem
    rcases List.mem_append.mp hmem with hold | hlast
    · obtain ⟨kj, hj, hrequest⟩ := hinv.requested s j request' hold
      exact ⟨kj, progressOf_of_started hnew hj, hrequest⟩
    · cases List.mem_singleton.mp hlast
      exact ⟨_, System.trace_started_self, rfl⟩
  · intro j row hmem
    obtain ⟨kj, hj, hrest⟩ := hinv.pending j row hmem
    exact ⟨kj, progressOf_of_started hnew hj, hrest⟩
  · intro j kj hj hinserted
    rcases System.trace_started_cases hj with ⟨-, rfl⟩ | ⟨-, hbefore⟩
    · cases hinserted
    · exact hinv.inserted j kj hbefore hinserted
  · intro j kj ref hj href hclaims hinserted
    rcases System.trace_started_cases hj with ⟨-, rfl⟩ | ⟨-, hbefore⟩
    · cases hclaims
    · exact hinv.recorded j kj ref hbefore href hclaims hinserted
  · exact fun ref a b ha hb => hinv.sole ref a b (claims_of_started ha) (claims_of_started hb)
  · intro ref hprocessed
    obtain ⟨j, kj, hj, hrest⟩ := hinv.processed ref hprocessed
    exact ⟨j, kj, progressOf_of_started hnew hj, hrest⟩
  · intro ref
    rw [hlist]
    exact hinv.counted ref
  · intro ref j hmem
    rw [hlist] at hmem
    obtain ⟨kj, hj, hrest⟩ := hinv.known ref j hmem
    exact ⟨kj, progressOf_of_started hnew hj, hrest⟩
  · exact System.throughout_append.mpr ⟨hinv.quiet, trivial, trivial⟩

end Started

/-! ## Runs -/

/-- However deliveries and other requests interleave, where every claim is vetted an event is
processed at most once, and once it is marked as processed its deliveries leave the payments
alone. -/
theorem webhook_effects_once {now : Nat} {ms : List (Move Request Choice)} {es : List Event}
    {P : ServicePool} (hrun : service.run ms (.init (World.init now)) = some (es, P))
    (hvetted : service.Obeys Vetted [] (.init (World.init now)) ms) :
    (∀ ref, (es.filterMap (completes ref)).length ≤ 1) ∧ System.Throughout Quiet [] es := by
  have hprogram : ∀ (i : Nat) (request : Request),
      (service.program request).wp (tracked (fun op k => Next k op) (fun op r => Replies op r)
        advance) (fun _ _ => True) request.progress := by
    intro _ request
    refine Program.wp_mono ?_ (request_follows request)
    exact fun _ _ _ => trivial
  have hcan : ∀ (i : Nat) (c : Choice) (op : Op) (w : World) (r : Except Exception op.Ret)
      (w' : World), service.perform i c op w = some (r, w') → Replies op r :=
    fun _ _ _ _ _ _ h => replies_of h
  have htracks : service.Tracks (fun _ _ => True) Request.progress (fun _ op k => Next k op)
      (fun _ op r => Replies op r) advance (fun _ _ _ => True) []
      (.init (World.init now)) := System.tracks_init trivial
  have hfinal := System.run_tracked_pools hprogram hcan
    (fun _ _ _ hnew hinv _ => Deduped.started hinv hnew)
    (fun _ _ _ _ _ _ _ _ _ hcall hk hnext hperform hinv hvetted =>
      Deduped.performed hinv hcall hk hnext hperform hvetted)
    hrun hvetted htracks deduped_init
  exact ⟨hfinal.2.counted, hfinal.2.quiet⟩

/-! ## Runs of a declined payment -/

instance (past : List Event) (P : ServicePool) (ref : EventRef) (i : Nat) :
    Decidable (Claims past P ref i) :=
  inferInstanceAs (Decidable (∃ k ∈ progressOf past i, _))

instance (past : List Event) (P : ServicePool) (e : Event) : Decidable (Vetted past P e) := by
  unfold Vetted
  split <;> infer_instance

/-- The moves of other requests. -/
def aside (moves : List (Move Payment.Request Choice)) : List (Move Request Choice) :=
  moves.map fun
    | .start request => .start (.other request)
    | .run call choice => .run call choice

def declined : WebhookEvent := ⟨"evt", "payment_intent.payment_failed", some "pi", none⟩

def declinedRef : EventRef := ⟨"stripe", "evt"⟩

/-- Stripe delivers the event. -/
def delivery : Move Request Choice := .start (.deliver .stripe (some declined))

def steps (call n : Nat) : List (Move Request Choice) := aside (succeeds call "" "succeeded" n)

/-- The first delivery cannot read the payment, the second one marks it as failed, and the third one
finds its event processed. -/
def deliveredAgain : List (Move Request Choice) :=
  aside created ++ delivery :: steps 1 5 ++ aside [failing 1] ++ delivery :: steps 2 8 ++
    delivery :: steps 3 3

theorem webhook_effects_once_again :
    ∃ es P, service.run deliveredAgain (.init (World.init 0)) = some (es, P) ∧
      P.idle = true ∧ (∀ ref, (es.filterMap (completes ref)).length ≤ 1) ∧
      System.Throughout Quiet [] es := by
  have hany : (service.run deliveredAgain (.init (World.init 0))).any
      (fun result => result.2.idle && isProcessed result.2.state declinedRef) = true := by
    decide +kernel
  obtain ⟨es, P, hrun, hresult⟩ := System.exists_run hany
  simp only [Bool.and_eq_true] at hresult
  exact ⟨es, P, hrun, hresult.1, webhook_effects_once hrun (by decide +kernel)⟩

/-- The second delivery finds the event while the first one is busy with it. When it goes on, the
event is processed and the customer has paid after all. -/
def deliveredTwice : List (Move Request Choice) :=
  aside created ++ delivery :: steps 1 5 ++ delivery :: steps 2 3 ++ steps 1 5 ++
    .start (.other (.confirmPaymentIntent "a4" none (some "c"))) ::
      aside (succeeds 3 "b" "succeeded" 13) ++ steps 2 1

def delivers (es : List Event) (i : Nat) : Bool :=
  es.any fun
    | .started _ j (.deliver gateway verified) =>
        j = i ∧ gateway = .stripe ∧ verified = some declined
    | _ => false

theorem started_of_delivers {es : List Event} (h : delivers es i = true) :
    ∃ s, .started s i (.deliver .stripe (some declined)) ∈ es := by
  obtain ⟨e, he, hmatch⟩ := List.any_eq_true.mp h
  split at hmatch
  · rename_i s j gateway verified
    obtain ⟨rfl, rfl, rfl⟩ := of_decide_eq_true hmatch
    exact ⟨s, he⟩
  · cases hmatch

/-- A confirmed payment is marked as failed although the event is processed. -/
def failsPaid (i : Nat) : List Event → Bool
  | .performed w j _ _ w' :: _ => j = i && isProcessed w declinedRef &&
      (w.payments.db.payment "a4").any (fun p => decide (p.status = .confirmed)) &&
      (w'.payments.db.payment "a4").any (fun p => decide (p.status = .failed))
  | _ => false

theorem not_quiet_of_failsPaid {es es' : List Event} (hstarted : delivers es i = true)
    (h : failsPaid i es' = true) : ¬System.Throughout Quiet [] (es ++ es') := by
  intro hquiet
  obtain ⟨-, hlater⟩ := System.throughout_append.mp hquiet
  unfold failsPaid at h
  split at h
  · rename_i w j choice op w' rest
    simp only [Bool.and_eq_true, decide_eq_true_eq] at h
    obtain ⟨⟨⟨rfl, hprocessed⟩, hpaid⟩, hfailed⟩ := h
    obtain ⟨s, hmem⟩ := started_of_delivers hstarted
    have hsame : w'.payments = w.payments := hlater.1 s _ declinedRef hmem rfl hprocessed
    rw [hsame] at hfailed
    cases hpayment : w.payments.db.payment "a4" with
    | none => simp [hpayment] at hpaid
    | some p =>
        simp only [hpayment, Option.any_some, decide_eq_true_eq] at hpaid hfailed
        rw [hpaid] at hfailed
        cases hfailed
  · cases h

theorem webhook_processed_twice :
    ∃ es P, service.run (deliveredTwice ++ steps 2 3) (.init (World.init 0)) = some (es, P) ∧
      P.idle = true ∧ (es.filterMap (completes declinedRef)).length = 2 ∧
      ¬System.Throughout Quiet [] es := by
  have hany : (service.run deliveredTwice (.init (World.init 0))).any (fun result =>
      delivers result.1 2 && (service.run (steps 2 3) result.2).any fun result' =>
        result'.2.idle && failsPaid 2 result'.1 &&
          ((result.1 ++ result'.1).filterMap (completes declinedRef)).length = 2) = true := by
    decide +kernel
  obtain ⟨es, P, hrun, hresult⟩ := System.exists_run hany
  simp only [Bool.and_eq_true] at hresult
  obtain ⟨hdelivers, hany'⟩ := hresult
  obtain ⟨es', P', hrun', hresult'⟩ := System.exists_run hany'
  simp only [Bool.and_eq_true, decide_eq_true_eq] at hresult'
  exact ⟨es ++ es', P', System.run_append hrun hrun', hresult'.1.1, hresult'.2,
    not_quiet_of_failsPaid hdelivers hresult'.1.2⟩

end FlightBookings.Payment.Webhook
