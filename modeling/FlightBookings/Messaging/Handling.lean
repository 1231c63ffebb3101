import FlightBookings.Messaging.Service

/-! # Calls of a consumer

What a call knows of the message that it handles, what a run shows of a message,
and what a step does to it.
-/

namespace FlightBookings.Messaging

open Await

/-! ## The calls -/

/-- What a call of a consumer knows of the message that it handles: how its callback ended, and
whether its acknowledgement was accepted. -/
structure Handling where
  delivery : Option Delivery := none
  outcome : Option Choice := none
  settled : Bool := false
  refused : Bool := false

namespace Handling

def advance : (op : Op) → Except Failure op.Ret → Handling → Handling
  | .take _, .ok (some delivery), k => { k with delivery := some delivery }
  | .callback _, outcome, k => { k with outcome := some outcome }
  | .ack _ _, .ok _, k => { k with settled := true }
  | .ack _ _, .error _, k => { k with refused := true }
  | .nack _ _, .ok _, k => { k with settled := true }
  | .nack _ _, .error _, k => { k with refused := true }
  | _, _, k => k

/-- A message is done with: it was handled, or it is not worth another round. -/
def Final (maxRetries : Nat) (delivery : Delivery) : Choice → Prop
  | .ok _ => True
  | .error e => e.isClientError = true ∨ maxRetries ≤ delivery.retryCount

/-- The call holds the message under the tag, has heard of its callback and not settled it yet. -/
structure Owns (k : Handling) (delivery : Delivery) (outcome : Choice) : Prop where
  delivery : k.delivery = some delivery
  outcome : k.outcome = some outcome
  settled : k.settled = false

/-- A call takes a message first, and runs its callback once. It acknowledges what is done with, and
gives back the rest; once it was refused it does either. -/
def Permits (maxRetries : Nat) (op : Op) (k : Handling) : Prop :=
  match op with
  | .take _ => k = {}
  | .callback m => ∃ delivery, k = { delivery := some delivery } ∧ delivery.message = m
  | .ack m tag => ∃ delivery outcome, k.Owns delivery outcome ∧ delivery.message = m ∧
      delivery.tag = tag ∧ (k.refused = true ∨ Final maxRetries delivery outcome)
  | .nack m tag => ∃ delivery outcome, k.Owns delivery outcome ∧ delivery.message = m ∧
      delivery.tag = tag ∧ (k.refused = true ∨ ¬Final maxRetries delivery outcome)
  | _ => True

/-- A call that has taken a message has acknowledged it, or it was not its own any more. -/
def Finished (k : Handling) : Prop :=
  k.delivery = none ∨ k.settled = true ∨ k.refused = true

variable {maxRetries : Nat} {k : Handling} {delivery : Delivery} {outcome : Choice}
variable {op : Op} {a : Except Failure op.Ret}

abbrev handling (maxRetries : Nat) : Spec Op (fun op => Except Failure op.Ret) Handling :=
  tracked (Permits maxRetries) (fun _ _ => True) advance

abbrev Ends (maxRetries : Nat) (c : Call Unit) (k : Handling) : Prop :=
  c.wp (handling maxRetries) (fun _ _ k => Finished k) () k

theorem finished_ack {m tag : Nat} (r : Except Failure Unit) :
    Finished (advance (.ack m tag) r k) := by
  cases r with
  | ok _ => exact .inr (.inl rfl)
  | error _ => exact .inr (.inr rfl)

theorem finished_nack {m tag : Nat} (r : Except Failure Unit) :
    Finished (advance (.nack m tag) r k) := by
  cases r with
  | ok _ => exact .inr (.inl rfl)
  | error _ => exact .inr (.inr rfl)

theorem settleFailed_ends {error : Failure} (howns : k.Owns delivery outcome)
    (hends : k.refused = true ∨ outcome = .error error) :
    Ends maxRetries (settleFailed maxRetries delivery error) k := by
  unfold Ends settleFailed
  simp only [Call.wp_bind, Call.wp_ite, Call.wp_throw]
  split
  · rename_i hclient
    refine ⟨⟨delivery, outcome, howns, rfl, rfl, hends.imp_right fun heq => ?_⟩, ?_⟩
    · rw [heq]
      exact .inl hclient
    · rintro (_ | _) _ <;> exact finished_ack _
  · rename_i hclient
    split
    · rename_i hlast
      refine ⟨⟨delivery, outcome, howns, rfl, rfl, hends.imp_right fun heq => ?_⟩, ?_⟩
      · rw [heq]
        exact .inr hlast
      · rintro (_ | _) _ <;> exact finished_ack _
    · rename_i hlast
      refine ⟨⟨delivery, outcome, howns, rfl, rfl, hends.imp_right fun heq => ?_⟩, ?_⟩
      · rw [heq]
        exact not_or.mpr ⟨hclient, hlast⟩
      · rintro (_ | _) _ <;> exact finished_nack _

theorem handleAck_ends :
    Ends maxRetries (handleAck maxRetries delivery) { delivery := some delivery } := by
  unfold Ends handleAck
  simp only [Call.wp_bind, Call.wp_tryCatch]
  refine ⟨⟨delivery, rfl, rfl⟩, fun r _ => ?_⟩
  cases r with
  | error error => exact settleFailed_ends ⟨rfl, rfl, rfl⟩ (.inr rfl)
  | ok _ =>
      refine ⟨⟨delivery, .ok (), ⟨rfl, rfl, rfl⟩, rfl, rfl, .inr trivial⟩, fun r _ => ?_⟩
      cases r with
      | ok _ => exact finished_ack (.ok ())
      | error error => exact settleFailed_ends ⟨rfl, rfl, rfl⟩ (.inl rfl)

theorem advance_delivery (hpermits : k.Permits maxRetries op) (h : k.delivery = some delivery) :
    (advance op a k).delivery = some delivery := by
  unfold advance
  split
  · have hnothing : k = {} := hpermits
    rw [hnothing] at h
    cases h
  · exact h
  · exact h
  · exact h
  · exact h
  · exact h
  · exact h

theorem advance_outcome (hpermits : k.Permits maxRetries op) (h : k.outcome = some outcome) :
    (advance op a k).outcome = some outcome := by
  unfold advance
  split
  · exact h
  · obtain ⟨delivery, rfl, -⟩ : ∃ delivery, k = { delivery := some delivery } ∧ _ := hpermits
    cases h
  · exact h
  · exact h
  · exact h
  · exact h
  · exact h

theorem advance_settled (h : k.settled = true) : (advance op a k).settled = true := by
  unfold advance
  split <;> first | rfl | exact h

/-- Every call settles the message that it takes, or is refused to. -/
theorem request_ends (request : Request) : Ends maxRetries (request.call maxRetries) {} := by
  cases request with
  | deliver message =>
      unfold Ends Request.call
      simp only [Call.wp_bind]
      refine ⟨rfl, fun r _ => ?_⟩
      cases r with
      | error e => exact .inl rfl
      | ok found =>
          cases found with
          | none => exact .inl rfl
          | some delivery => exact handleAck_ends
  | _ => exact ⟨trivial, fun _ _ => .inl rfl⟩

end Handling

/-! ## What the runs show -/

/-- The call that takes the message here. -/
def taker (m : Nat) : Event → Option Nat
  | .performed b i _ (.take m') _ => if m' = m ∧ b.waits m = true then some i else none
  | _ => none

def takers (m : Nat) (es : List Event) : List Nat := es.filterMap (taker m)

/-- The call whose callback runs for the message here. -/
def handler (m : Nat) : Event → Option Nat
  | .performed _ i _ (.callback m') _ => if m' = m then some i else none
  | _ => none

/-- The calls that run their callback for the message. -/
def handlers (m : Nat) (es : List Event) : List Nat := es.filterMap (handler m)

/-- The message loses its consumer here. -/
def loses (m : Nat) : Event → Bool
  | .performed b _ _ (.disconnect m') _ => m' = m && b.isDelivered m
  | _ => false

def losses (m : Nat) (es : List Event) : Nat := es.countP (loses m)

/-- The message is pushed out of the queue here, which is too long. -/
def pushesOut (m : Nat) : Event → Bool
  | .performed b _ _ (.overflow m') _ => m' = m && b.overflows m
  | _ => false

def overflows (m : Nat) (es : List Event) : Nat := es.countP (pushesOut m)

/-- A call has run its callback for the message, with this outcome. -/
def Handled (es : List Event) (i m : Nat) (outcome : Choice) : Prop :=
  ∃ b b', .performed b i outcome (.callback m) b' ∈ es

/-! ## Steps -/

section Steps

variable {maxRetries : Nat} {choice : Choice} {op : Op} {a : Except Failure op.Ret} {b b' : Broker}
variable {m tag : Nat} {msg msg' : Message}

theorem Broker.waits_iff : b.waits m = true ↔ ∃ msg, b.message m = some msg ∧ msg.place = .queued := by
  simp [Broker.waits, Option.any_eq_true]

theorem Broker.held_iff :
    b.held m tag = true ↔ ∃ msg, b.message m = some msg ∧ msg.place = .delivered tag := by
  simp [Broker.held, Option.any_eq_true]

theorem Broker.isDelivered_iff : b.isDelivered m = true ↔
    ∃ msg tag, b.message m = some msg ∧ msg.place = .delivered tag := by
  rw [Broker.isDelivered, Option.any_eq_true]
  constructor
  · rintro ⟨msg, hmsg, hplace⟩
    split at hplace
    · rename_i tag heq
      exact ⟨msg, tag, hmsg, heq⟩
    · cases hplace
  · rintro ⟨msg, tag, hmsg, hplace⟩
    exact ⟨msg, hmsg, by rw [hplace]⟩

/-- Where a message is that was pushed out of the queue. -/
def Place.Outside (place : Place) : Prop := place = .overflown ∨ place = .dropped

/-- What a step does to the messages, and what it answers. -/
inductive Step (b : Broker) : (op : Op) → Except Failure op.Ret → Broker → Prop where
  | publish : Step b .publish (.ok ())
      { b.put b.published ⟨.queued, 0⟩ with published := b.published + 1 }
  | take {m : Nat} {msg : Message} (hmsg : b.message m = some msg) (hplace : msg.place = .queued) :
      Step b (.take m) (.ok (some ⟨m, b.tags, msg.rounds⟩))
        { b.put m { msg with place := .delivered b.tags } with tags := b.tags + 1 }
  | takeNothing {m : Nat} (hwaits : b.waits m = false) : Step b (.take m) (.ok none) b
  | callback {m : Nat} (outcome : Choice) : Step b (.callback m) outcome b
  | ack {m tag : Nat} {msg : Message} (hmsg : b.message m = some msg)
      (hplace : msg.place = .delivered tag) :
      Step b (.ack m tag) (.ok ()) (b.put m { msg with place := .removed })
  | ackRefused {m tag : Nat} (hheld : b.held m tag = false) :
      Step b (.ack m tag) (.error .other) b
  | nack {m tag : Nat} {msg : Message} (hmsg : b.message m = some msg)
      (hplace : msg.place = .delivered tag) :
      Step b (.nack m tag) (.ok ()) (b.put m { msg with place := .retrying })
  | nackRefused {m tag : Nat} (hheld : b.held m tag = false) :
      Step b (.nack m tag) (.error .other) b
  | expire {m : Nat} {msg : Message} (hmsg : b.message m = some msg)
      (hplace : msg.place = .retrying ∨ msg.place = .overflown) :
      Step b (.expire m) (.ok ()) (b.put m ⟨.queued, msg.rounds + 1⟩)
  | expireDropped {m : Nat} {msg : Message} (hmsg : b.message m = some msg)
      (hplace : msg.place = .overflown) : Step b (.expire m) (.ok ()) (b.put m ⟨.dropped, msg.rounds⟩)
  | expireNothing {m : Nat} : Step b (.expire m) (.ok ()) b
  | overflow {m : Nat} {msg : Message} {place : Place} (hmsg : b.message m = some msg)
      (hplace : msg.place = .queued) (hoverflows : b.overflows m = true) (hout : place.Outside) :
      Step b (.overflow m) (.ok ()) (b.put m { msg with place })
  | overflowNothing {m : Nat} (hoverflows : b.overflows m = false) : Step b (.overflow m) (.ok ()) b
  | disconnect {m tag : Nat} {msg : Message} (hmsg : b.message m = some msg)
      (hplace : msg.place = .delivered tag) :
      Step b (.disconnect m) (.ok ()) (b.put m { msg with place := .queued })
  | disconnectNothing {m : Nat} (hdelivered : b.isDelivered m = false) :
      Step b (.disconnect m) (.ok ()) b

theorem step_of_perform (h : op.perform choice b = (a, b')) : Step b op a b' := by
  cases op with
  | publish =>
      cases h
      exact .publish
  | take m =>
      simp only [Op.perform] at h
      cases hmsg : b.message m with
      | none =>
          rw [hmsg] at h
          cases h
          exact .takeNothing (by simp [Broker.waits, hmsg])
      | some msg =>
          by_cases hplace : msg.place = .queued
          · simp only [hmsg, if_pos hplace] at h
            cases h
            exact .take hmsg hplace
          · simp only [hmsg, if_neg hplace] at h
            cases h
            exact .takeNothing (by simp [Broker.waits, hmsg, hplace])
  | callback m =>
      cases h
      exact .callback choice
  | ack m tag =>
      simp only [Op.perform] at h
      by_cases hheld : b.held m tag = true
      · rw [if_pos hheld] at h
        obtain ⟨msg, hmsg, hplace⟩ := Broker.held_iff.mp hheld
        simp only [Broker.move, hmsg] at h
        cases h
        exact .ack hmsg hplace
      · rw [if_neg hheld] at h
        cases h
        exact .ackRefused (Bool.eq_false_iff.mpr hheld)
  | nack m tag =>
      simp only [Op.perform] at h
      by_cases hheld : b.held m tag = true
      · rw [if_pos hheld] at h
        obtain ⟨msg, hmsg, hplace⟩ := Broker.held_iff.mp hheld
        simp only [Broker.move, hmsg] at h
        cases h
        exact .nack hmsg hplace
      · rw [if_neg hheld] at h
        cases h
        exact .nackRefused (Bool.eq_false_iff.mpr hheld)
  | expire m =>
      simp only [Op.perform] at h
      cases hmsg : b.message m with
      | none =>
          rw [hmsg] at h
          cases h
          exact .expireNothing
      | some msg =>
          simp only [hmsg] at h
          split at h
          · rename_i hretrying
            cases h
            exact .expire hmsg (.inl hretrying)
          · split at h
            · rename_i hoverflown
              split at h <;> cases h
              · exact .expire hmsg (.inr hoverflown)
              · exact .expireDropped hmsg hoverflown
            · cases h
              exact .expireNothing
  | overflow m =>
      simp only [Op.perform] at h
      by_cases hoverflows : b.overflows m = true
      · obtain ⟨msg, hmsg, hplace⟩ := Broker.waits_iff.mp (Bool.and_eq_true_iff.mp hoverflows).1
        rw [if_pos hoverflows] at h
        simp only [Broker.move, hmsg] at h
        cases h
        exact .overflow hmsg hplace hoverflows (by split <;> simp [Place.Outside])
      · rw [if_neg hoverflows] at h
        cases h
        exact .overflowNothing (Bool.eq_false_iff.mpr hoverflows)
  | disconnect m =>
      simp only [Op.perform] at h
      by_cases hdelivered : b.isDelivered m = true
      · rw [if_pos hdelivered] at h
        obtain ⟨msg, tag, hmsg, hplace⟩ := Broker.isDelivered_iff.mp hdelivered
        simp only [Broker.move, hmsg] at h
        cases h
        exact .disconnect hmsg hplace
      · rw [if_neg hdelivered] at h
        cases h
        exact .disconnectNothing (Bool.eq_false_iff.mpr hdelivered)

/-- How a step leaves one message. -/
inductive Change (b : Broker) : Op → Nat → Message → Prop where
  | kept {op : Op} {m : Nat} {msg : Message} (hmsg : b.message m = some msg) : Change b op m msg
  | published : Change b .publish b.published ⟨.queued, 0⟩
  | taken {m : Nat} {msg : Message} (hmsg : b.message m = some msg) (hplace : msg.place = .queued) :
      Change b (.take m) m { msg with place := .delivered b.tags }
  | acked {m tag : Nat} {msg : Message} (hmsg : b.message m = some msg)
      (hplace : msg.place = .delivered tag) : Change b (.ack m tag) m { msg with place := .removed }
  | nacked {m tag : Nat} {msg : Message} (hmsg : b.message m = some msg)
      (hplace : msg.place = .delivered tag) : Change b (.nack m tag) m { msg with place := .retrying }
  | expired {m : Nat} {msg : Message} (hmsg : b.message m = some msg)
      (hplace : msg.place = .retrying ∨ msg.place = .overflown) :
      Change b (.expire m) m ⟨.queued, msg.rounds + 1⟩
  | dropped {m : Nat} {msg : Message} (hmsg : b.message m = some msg) (hplace : msg.place = .overflown) :
      Change b (.expire m) m ⟨.dropped, msg.rounds⟩
  | pushedOut {m : Nat} {msg : Message} {place : Place} (hmsg : b.message m = some msg)
      (hplace : msg.place = .queued) (hoverflows : b.overflows m = true) (hout : place.Outside) :
      Change b (.overflow m) m { msg with place }
  | lost {m tag : Nat} {msg : Message} (hmsg : b.message m = some msg)
      (hplace : msg.place = .delivered tag) :
      Change b (.disconnect m) m { msg with place := .queued }

theorem change_of_put {m' : Nat} (hchange : Change b op m' msg')
    (hmsg : (b.put m' msg').message m = some msg) : Change b op m msg := by
  by_cases heq : m = m'
  · subst heq
    rw [Broker.put_self, Option.some.injEq] at hmsg
    rwa [← hmsg]
  · rw [Broker.put_of_ne b msg' heq] at hmsg
    exact .kept hmsg

theorem change_of_step (h : Step b op a b') (hmsg : b'.message m = some msg) : Change b op m msg := by
  cases h with
  | publish => exact change_of_put .published hmsg
  | take hold hplace => exact change_of_put (.taken hold hplace) hmsg
  | ack hold hplace => exact change_of_put (.acked hold hplace) hmsg
  | nack hold hplace => exact change_of_put (.nacked hold hplace) hmsg
  | expire hold hplace => exact change_of_put (.expired hold hplace) hmsg
  | expireDropped hold hplace => exact change_of_put (.dropped hold hplace) hmsg
  | overflow hold hplace hoverflows hout =>
      exact change_of_put (.pushedOut hold hplace hoverflows hout) hmsg
  | disconnect hold hplace => exact change_of_put (.lost hold hplace) hmsg
  | takeNothing => exact .kept hmsg
  | callback => exact .kept hmsg
  | ackRefused => exact .kept hmsg
  | nackRefused => exact .kept hmsg
  | expireNothing => exact .kept hmsg
  | overflowNothing => exact .kept hmsg
  | disconnectNothing => exact .kept hmsg

/-- A message is with a consumer because it was before, or was handed out under a new tag. -/
theorem Change.delivered_cases (h : Change b op m msg) (hplace : msg.place = .delivered tag) :
    b.message m = some msg ∨ (op = .take m ∧ tag = b.tags ∧ b.waits m = true) := by
  cases h with
  | kept hmsg => exact .inl hmsg
  | taken hmsg hqueued =>
      exact .inr ⟨rfl, (Place.delivered.inj hplace).symm, Broker.waits_iff.mpr ⟨_, hmsg, hqueued⟩⟩
  | pushedOut _ _ _ hout => rcases hout with rfl | rfl <;> cases hplace
  | published => cases hplace
  | acked => cases hplace
  | nacked => cases hplace
  | expired => cases hplace
  | dropped => cases hplace
  | lost => cases hplace

/-- How often a message left the queue, but for the times when it was lost. -/
def Message.turns (msg : Message) : Nat :=
  if msg.place = .queued then msg.rounds else msg.rounds + 1

/-- How often a message was sent to the retry queue, or would have been if it had not been dropped. -/
def Message.setbacks (msg : Message) : Nat :=
  match msg.place with
  | .retrying | .overflown | .dropped => msg.rounds + 1
  | .queued | .delivered _ | .removed => msg.rounds

theorem Message.turns_le (msg : Message) : msg.turns ≤ msg.setbacks + 1 := by
  unfold Message.turns Message.setbacks
  split <;> split <;> omega

/-- Of a message that was not published yet nothing is counted. -/
def Broker.count (f : Message → Nat) (b : Broker) (m : Nat) : Nat :=
  match b.message m with
  | some msg => f msg
  | none => 0

variable {f : Message → Nat}

theorem Broker.count_of_message (h : b.message m = some msg) : b.count f m = f msg := by
  rw [Broker.count, h]

theorem Broker.count_put_self : (b.put m msg).count f m = f msg :=
  Broker.count_of_message (b.put_self m msg)

theorem Broker.count_put_of_ne {m' : Nat} (h : m ≠ m') : (b.put m' msg).count f m = b.count f m := by
  rw [Broker.count, Broker.put_of_ne b msg h, Broker.count]

theorem Broker.count_put {m' : Nat} (hmsg : b.message m' = some msg) (hsame : f msg' = f msg) :
    (b.put m' msg').count f m = b.count f m := by
  by_cases heq : m = m'
  · subst heq
    rw [Broker.count_put_self, Broker.count_of_message hmsg, hsame]
  · exact Broker.count_put_of_ne heq

theorem Broker.count_publish (hfresh : b.message b.published = none) (hzero : f ⟨.queued, 0⟩ = 0) :
    (b.put b.published ⟨.queued, 0⟩).count f m = b.count f m := by
  by_cases heq : m = b.published
  · subst heq
    rw [Broker.count_put_self, hzero, Broker.count, hfresh]
  · exact Broker.count_put_of_ne heq

theorem Broker.count_overflow {i m' : Nat} (hmsg : b.message m' = some msg)
    (hmore : f msg' = f msg + 1) (hoverflows : b.overflows m' = true) :
    (b.put m' msg').count f m = b.count f m +
      if pushesOut m (.performed b i choice (.overflow m') b') then 1 else 0 := by
  by_cases heq : m = m'
  · subst heq
    simp [Broker.count_put_self, Broker.count_of_message hmsg, hmore, pushesOut, hoverflows]
  · simp [Broker.count_put_of_ne heq, pushesOut, Ne.symm heq]

theorem pushesOut_of_not {i m' : Nat} (hoverflows : b.overflows m' = false) :
    pushesOut m (.performed b i choice (.overflow m') b') = false := by
  by_cases heq : m' = m
  · subst heq
    simp [pushesOut, hoverflows]
  · simp [pushesOut, heq]

/-- A message leaves the queue when it is handed out, and when it is pushed out. -/
theorem turns_step (m i : Nat) (choice : Choice) (h : Step b op a b')
    (hfresh : b.message b.published = none) :
    b'.count Message.turns m + (if loses m (.performed b i choice op b') then 1 else 0) =
      b.count Message.turns m + (taker m (.performed b i choice op b')).toList.length +
        if pushesOut m (.performed b i choice op b') then 1 else 0 := by
  cases h with
  | publish => exact Broker.count_publish (m := m) hfresh rfl
  | @take m' msg hmsg hplace =>
      show (b.put m' { msg with place := .delivered b.tags }).count Message.turns m = _
      simp only [taker]
      by_cases heq : m = m'
      · subst heq
        have hwaits : b.waits m = true := Broker.waits_iff.mpr ⟨msg, hmsg, hplace⟩
        simp [Broker.count, Message.turns, hmsg, hplace, hwaits, pushesOut]
      · rw [if_neg fun hboth : m' = m ∧ _ => heq hboth.1.symm]
        exact Broker.count_put_of_ne heq
  | @takeNothing m' hwaits =>
      have hnobody : taker m (.performed b i choice (.take m') b) = none := by
        refine if_neg ?_
        rintro ⟨rfl, hwaits'⟩
        rw [hwaits] at hwaits'
        cases hwaits'
      rw [hnobody]
      rfl
  | ack hmsg hplace => exact Broker.count_put hmsg (by simp [Message.turns, hplace])
  | nack hmsg hplace => exact Broker.count_put hmsg (by simp [Message.turns, hplace])
  | expire hmsg hplace =>
      exact Broker.count_put hmsg (by rcases hplace with h | h <;> simp [Message.turns, h])
  | expireDropped hmsg hplace => exact Broker.count_put hmsg (by simp [Message.turns, hplace])
  | overflow hmsg hplace hoverflows hout =>
      refine Broker.count_overflow hmsg ?_ hoverflows
      rcases hout with rfl | rfl <;> simp [Message.turns, hplace]
  | overflowNothing hoverflows =>
      rw [pushesOut_of_not hoverflows]
      rfl
  | @disconnect m' tag msg hmsg hplace =>
      show (b.put m' { msg with place := .queued }).count Message.turns m + _ = b.count Message.turns m
      simp only [loses]
      by_cases heq : m = m'
      · subst heq
        have hdelivered : b.isDelivered m = true := Broker.isDelivered_iff.mpr ⟨msg, tag, hmsg, hplace⟩
        simp [Broker.count, Message.turns, hmsg, hplace, hdelivered]
      · simp only [Ne.symm heq, decide_false, Bool.false_and]
        exact Broker.count_put_of_ne heq
  | @disconnectNothing m' hdelivered =>
      have hnothing : loses m (.performed b i choice (.disconnect m') b) = false := by
        by_cases heq : m' = m
        · subst heq
          simp [loses, hdelivered]
        · simp [loses, heq]
      rw [hnothing]
      rfl
  | callback => rfl
  | ackRefused => rfl
  | nackRefused => rfl
  | expireNothing => rfl

/-- A message is sent to the retry queue when it is given back, and when it is pushed out. -/
theorem setbacks_step (m i : Nat) (choice : Choice) (h : Step b op a b')
    (hfresh : b.message b.published = none) :
    b'.count Message.setbacks m = b.count Message.setbacks m +
        (if pushesOut m (.performed b i choice op b') then 1 else 0) ∨
      ∃ tag msg, op = .nack m tag ∧ b.message m = some msg ∧ msg.place = .delivered tag ∧
        b'.count Message.setbacks m = msg.rounds + 1 := by
  cases h with
  | publish => exact .inl (Broker.count_publish hfresh rfl)
  | take hmsg hplace => exact .inl (Broker.count_put hmsg (by simp [Message.setbacks, hplace]))
  | ack hmsg hplace => exact .inl (Broker.count_put hmsg (by simp [Message.setbacks, hplace]))
  | @nack m' tag msg hmsg hplace =>
      by_cases heq : m = m'
      · subst heq
        exact .inr ⟨tag, msg, rfl, hmsg, hplace, Broker.count_put_self⟩
      · exact .inl (Broker.count_put_of_ne heq)
  | expire hmsg hplace =>
      exact .inl (Broker.count_put hmsg (by rcases hplace with h | h <;> simp [Message.setbacks, h]))
  | expireDropped hmsg hplace =>
      exact .inl (Broker.count_put hmsg (by simp [Message.setbacks, hplace]))
  | overflow hmsg hplace hoverflows hout =>
      refine .inl (Broker.count_overflow hmsg ?_ hoverflows)
      rcases hout with rfl | rfl <;> simp [Message.setbacks, hplace]
  | overflowNothing hoverflows =>
      rw [pushesOut_of_not hoverflows]
      exact .inl rfl
  | disconnect hmsg hplace => exact .inl (Broker.count_put hmsg (by simp [Message.setbacks, hplace]))
  | takeNothing => exact .inl rfl
  | callback => exact .inl rfl
  | ackRefused => exact .inl rfl
  | nackRefused => exact .inl rfl
  | expireNothing => exact .inl rfl
  | disconnectNothing => exact .inl rfl

theorem Change.known (h : Change b op m msg) :
    b.message m ≠ none ∨ (op = .publish ∧ m = b.published) := by
  cases h with
  | published => exact .inr ⟨rfl, rfl⟩
  | kept hmsg => exact .inl (by simp [hmsg])
  | taken hmsg => exact .inl (by simp [hmsg])
  | acked hmsg => exact .inl (by simp [hmsg])
  | nacked hmsg => exact .inl (by simp [hmsg])
  | expired hmsg => exact .inl (by simp [hmsg])
  | dropped hmsg => exact .inl (by simp [hmsg])
  | pushedOut hmsg => exact .inl (by simp [hmsg])
  | lost hmsg => exact .inl (by simp [hmsg])

theorem message_of_put {m' : Nat} (h : b.message m = some msg) :
    ∃ msg'', (b.put m' msg').message m = some msg'' := by
  by_cases heq : m = m'
  · subst heq
    exact ⟨msg', b.put_self m msg'⟩
  · exact ⟨msg, (b.put_of_ne msg' heq).trans h⟩

/-- No message is forgotten. -/
theorem message_of_step (h : Step b op a b') (hmsg : b.message m = some msg) :
    ∃ msg', b'.message m = some msg' := by
  cases h <;> first | exact ⟨msg, hmsg⟩ | exact message_of_put hmsg

theorem published_of_step (h : Step b op a b') (hlt : m < b'.published) :
    m < b.published ∨ ∃ msg, b'.message m = some msg := by
  cases h with
  | publish =>
      rcases Nat.lt_succ_iff_lt_or_eq.mp hlt with hold | rfl
      · exact .inl hold
      · exact .inr ⟨_, b.put_self ..⟩
  | _ => exact .inl hlt

theorem published_mono (h : Step b op a b') : b.published ≤ b'.published := by
  cases h <;> first | exact Nat.le_refl _ | exact Nat.le_succ _

theorem tags_mono (h : Step b op a b') : b.tags ≤ b'.tags := by
  cases h <;> first | exact Nat.le_refl _ | exact Nat.le_succ _

theorem maxLength_of_step (h : Step b op a b') : b'.maxLength = b.maxLength := by
  cases h <;> rfl

theorem published_of_pushesOut {i : Nat} (h : pushesOut m (.performed b i choice op b') = true) :
    b.maxLength < b.published := by
  cases op with
  | overflow m' =>
      simp only [pushesOut, Broker.overflows, Bool.and_eq_true, decide_eq_true_eq] at h
      have hlength : b.length ≤ b.published := by
        simpa [Broker.length] using List.countP_le_length (l := List.range b.published)
      exact Nat.lt_of_lt_of_le h.2.2 hlength
  | _ => cases h

theorem takers_snoc (past : List Event) (e : Event) :
    takers m (past ++ [e]) = takers m past ++ (taker m e).toList := by
  simp only [takers, List.filterMap_append, List.filterMap_cons, List.filterMap_nil]
  cases taker m e <;> rfl

theorem handlers_snoc (past : List Event) (e : Event) :
    handlers m (past ++ [e]) = handlers m past ++ (handler m e).toList := by
  simp only [handlers, List.filterMap_append, List.filterMap_cons, List.filterMap_nil]
  cases handler m e <;> rfl

theorem handler_eq_some {i j : Nat} (h : handler m (.performed b i choice op b') = some j) :
    i = j ∧ op = .callback m := by
  cases op with
  | callback m' =>
      simp only [handler] at h
      split at h
      · rename_i heq
        exact ⟨Option.some.inj h, by rw [heq]⟩
      · cases h
  | _ => cases h

theorem mem_handlers {es : List Event} {i : Nat} :
    i ∈ handlers m es ↔ ∃ outcome, Handled es i m outcome := by
  constructor
  · intro h
    obtain ⟨e, hmem, hhandler⟩ := List.mem_filterMap.mp h
    cases e with
    | started => cases hhandler
    | performed b j choice op b' =>
        obtain ⟨rfl, rfl⟩ := handler_eq_some hhandler
        exact ⟨choice, b, b', hmem⟩
  · rintro ⟨outcome, b, b', hmem⟩
    exact List.mem_filterMap.mpr ⟨_, hmem, if_pos rfl⟩

theorem losses_snoc (past : List Event) (e : Event) :
    losses m (past ++ [e]) = losses m past + if loses m e then 1 else 0 := by
  rw [losses, List.countP_append, List.countP_singleton, losses]

theorem overflows_snoc (past : List Event) (e : Event) :
    overflows m (past ++ [e]) = overflows m past + if pushesOut m e then 1 else 0 := by
  rw [overflows, List.countP_append, List.countP_singleton, overflows]

end Steps

end FlightBookings.Messaging
