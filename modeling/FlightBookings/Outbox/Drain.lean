import FlightBookings.Await.Serial
import FlightBookings.Outbox.Order
import Mathlib

/-! # The outbox drains

A single worker makes one pass after the other, and only the broker fails. An
event that the broker refuses comes back with one retry less, so every pass with
anything to publish takes one attempt from a number that was fixed at the start.
-/

namespace FlightBookings.Outbox

open Await

/-! ## Attempts -/

/-- The broker is handed the message of an event. -/
def Event.attempts (event : OutboxEvent) : Event → Prop
  | .started _ _ _ => False
  | .performed _ _ _ op _ => op.carries event

/-- The broker does not take it. -/
def Event.refusal (event : OutboxEvent) : Event → Prop
  | .started _ _ _ => False
  | .performed _ _ c op _ => op.carries event ∧ c.fails.isSome = true

instance (event : OutboxEvent) (e : Event) : Decidable (e.attempts event) :=
  match e with
  | .started _ _ _ => inferInstanceAs (Decidable False)
  | .performed _ _ _ op _ => inferInstanceAs (Decidable (op.carries event))

instance (event : OutboxEvent) (e : Event) : Decidable (e.refusal event) :=
  match e with
  | .started _ _ _ => inferInstanceAs (Decidable False)
  | .performed _ _ _ _ _ => inferInstanceAs (Decidable (_ ∧ _))

def Event.starts : Event → Bool
  | .started _ _ _ => true
  | .performed _ _ _ _ _ => false

def attempts (es : List Event) (event : OutboxEvent) : Nat := es.countP fun e => e.attempts event

def refusals (es : List Event) (event : OutboxEvent) : Nat := es.countP fun e => e.refusal event

/-- A refusal is written in the step after it. -/
def unwritten (es : List Event) (event : OutboxEvent) : Nat :=
  if ∃ e ∈ es.getLast?, e.refusal event then 1 else 0

def passes (es : List Event) : Nat := es.countP Event.starts

/-- The attempts that the events have together. -/
def budget (events : List OutboxEvent) : Nat :=
  (events.map fun event => event.maxRetries - event.retryCount).sum

/-- Pending events with attempts left. -/
structure Waiting (nextId : Nat) (events : List OutboxEvent) : Prop where
  pending : ∀ event ∈ events, event.status = .pending
  fresh : ∀ event ∈ events, event.id < nextId
  ids : (events.map OutboxEvent.id).Nodup
  eventIds : (events.map OutboxEvent.eventId).Nodup
  retries : ∀ event ∈ events, event.retryCount < event.maxRetries

/-- The event is published or has failed. -/
def OutboxEvent.Through (row : OutboxEvent) : Prop :=
  row.status = .published ∨ row.status = .failed

/-! ## What a step adds -/

section Steps

variable {past : List Event} {event : OutboxEvent} {w w' : World} {i : Nat} {c : Choice} {e : Event}

theorem attempts_concat : attempts (past ++ [e]) event =
    attempts past event + if e.attempts event then 1 else 0 := by
  simp [attempts, List.countP_append, List.countP_singleton]

theorem refusals_concat : refusals (past ++ [e]) event =
    refusals past event + if e.refusal event then 1 else 0 := by
  simp [refusals, List.countP_append, List.countP_singleton]

theorem unwritten_concat :
    unwritten (past ++ [e]) event = if e.refusal event then 1 else 0 := by
  simp [unwritten]

theorem passes_concat : passes (past ++ [e]) = passes past + if e.starts then 1 else 0 := by
  simp [passes, List.countP_append, List.countP_singleton]

theorem Event.attempts_of_refusal (h : e.refusal event) : e.attempts event := by
  cases e with
  | started => exact h
  | performed => exact h.1

end Steps

/-! ## What has become of an event -/

variable {events : List OutboxEvent} {past past₀ : List Event} {rows : List OutboxEvent}
variable {event found row : OutboxEvent} {w w' : World} {i : Nat} {c : Choice} {e : Event}

/-- The row of an event that no pass is working on. -/
structure Standing (past : List Event) (event row : OutboxEvent) : Prop where
  is : row.Is event
  counted : row.retryCount = event.retryCount + refusals past event
  attempted : attempts past event = refusals past event + if row.status = .published then 1 else 0
  written : unwritten past event = 0
  settled : row.status ≠ .processing
  left : row.status ≠ .failed → row.retryCount < event.maxRetries
  spent : row.status = .failed → row.retryCount = event.maxRetries

/-- What is true of a row at any time. -/
structure Counts (past : List Event) (event row : OutboxEvent) : Prop where
  is : row.Is event
  counted : row.retryCount + unwritten past event = event.retryCount + refusals past event
  bounded : attempts past event + event.retryCount ≤ event.maxRetries

def Counted (events : List OutboxEvent) (past : List Event) (w : World) : Prop :=
  ∀ event ∈ events, ∃ row ∈ w.rows, Counts past event row

/-- Every event has its row, and no pass works on any. -/
structure Account (events : List OutboxEvent) (past : List Event) (rows : List OutboxEvent) : Prop where
  ids : rows.map OutboxEvent.id = events.map OutboxEvent.id
  standing : ∀ row ∈ rows, ∃ event ∈ events, Standing past event row

theorem Standing.counts (h : Standing past event row) : Counts past event row := by
  refine ⟨h.is, ?_, ?_⟩
  · rw [h.written, h.counted, Nat.add_zero]
  · have hattempted := h.attempted
    have hcounted := h.counted
    by_cases hfailed : row.status = .failed
    · have hspent := h.spent hfailed
      rw [if_neg (by rw [hfailed]; decide)] at hattempted
      omega
    · have hleft := h.left hfailed
      split at hattempted
      · omega
      · omega

theorem Standing.concat (h : Standing past event row) (hother : ¬e.attempts event) :
    Standing (past ++ [e]) event row := by
  have hkept : ¬e.refusal event := fun hrefusal => hother (Event.attempts_of_refusal hrefusal)
  refine ⟨h.is, ?_, ?_, ?_, h.settled, h.left, h.spent⟩
  · rw [refusals_concat, if_neg hkept]
    exact h.counted
  · rw [attempts_concat, refusals_concat, if_neg hother, if_neg hkept]
    exact h.attempted
  · rw [unwritten_concat, if_neg hkept]

theorem Account.concat (h : Account events past rows) (hother : ∀ event ∈ events, ¬e.attempts event) :
    Account events (past ++ [e]) rows where
  ids := h.ids
  standing row hrow := by
    obtain ⟨event, hevent, hstanding⟩ := h.standing row hrow
    exact ⟨event, hevent, hstanding.concat (hother event hevent)⟩

theorem Account.stored (h : Account events past rows) (hids : (events.map OutboxEvent.id).Nodup)
    (hevent : event ∈ events) : ∃ row ∈ rows, Standing past event row := by
  have hmem : event.id ∈ rows.map OutboxEvent.id := h.ids ▸ List.mem_map_of_mem hevent
  obtain ⟨row, hrow, hid⟩ := List.mem_map.mp hmem
  obtain ⟨event', hevent', hstanding⟩ := h.standing row hrow
  have heq : event' = event :=
    List.inj_on_of_nodup_map hids hevent' hevent (hstanding.is.id_eq.symm.trans hid)
  exact ⟨row, hrow, heq ▸ hstanding⟩

theorem Account.counted (h : Account events past w.rows) (hids : (events.map OutboxEvent.id).Nodup) :
    Counted events past w := by
  intro event hevent
  obtain ⟨row, hrow, hstanding⟩ := h.stored hids hevent
  exact ⟨row, hrow, hstanding.counts⟩

theorem Waiting.account {nextId : Nat} (h : Waiting nextId events) : Account events [] events where
  ids := rfl
  standing event hevent := by
    have hpending := h.pending event hevent
    refine ⟨event, hevent, rfl, rfl, ?_, rfl, ?_, fun _ => h.retries event hevent, fun hfailed => ?_⟩
    · rw [hpending]
      rfl
    · rw [hpending]
      decide
    · rw [hpending] at hfailed
      cases hfailed

/-! ## An event at work -/

/-- A row in the place of the one with its identifier. -/
def put (row : OutboxEvent) (rows : List OutboxEvent) : List OutboxEvent :=
  Table.modify OutboxEvent.id row.id (fun _ => row) rows

/-- A pass that began with these rows works on one event, of which `row` is the present row. -/
structure Publishing (events : List OutboxEvent) (past₀ : List Event) (rows : List OutboxEvent)
    (past : List Event) (w : World) (event row : OutboxEvent) : Prop where
  account : Account events past₀ rows
  member : event ∈ events
  rows_eq : w.rows = put row rows
  is : row.Is event
  elsewhere : ∀ other ∈ events, other.id ≠ event.id → ∀ row, Standing past₀ other row →
    Standing past other row
  passes_eq : passes past = passes past₀
  attempts_le : ∀ other ∈ events, attempts past₀ other ≤ attempts past other

/-- The step is about no event but this one. -/
def Event.mindful (e : Event) (events : List OutboxEvent) (event : OutboxEvent) : Prop :=
  e.starts = false ∧ ∀ other ∈ events, other.id ≠ event.id → ¬e.attempts other

theorem mem_put (hrow : row ∈ put found rows) : row = found ∨ row ∈ rows ∧ row.id ≠ found.id := by
  obtain ⟨row', hmem, ⟨_, rfl⟩ | ⟨hid, rfl⟩⟩ := Table.mem_modify.mp hrow
  · exact .inl rfl
  · exact .inr ⟨hmem, hid⟩

theorem Publishing.concat (h : Publishing events past₀ rows past w event row)
    (he : e.mindful events event) (hrows : w'.rows = put found rows) (his : found.Is event) :
    Publishing events past₀ rows (past ++ [e]) w' event found where
  account := h.account
  member := h.member
  rows_eq := hrows
  is := his
  elsewhere other hother hne row' hstanding :=
    (h.elsewhere other hother hne row' hstanding).concat (he.2 other hother hne)
  passes_eq := by
    rw [passes_concat, he.1]
    exact h.passes_eq
  attempts_le other hother := by
    rw [attempts_concat]
    exact Nat.le_trans (h.attempts_le other hother) (Nat.le_add_right _ _)

theorem Publishing.row_mem (h : Publishing events past₀ rows past w event row) : row ∈ w.rows := by
  have hmem : event.id ∈ rows.map OutboxEvent.id := h.account.ids ▸ List.mem_map_of_mem h.member
  obtain ⟨row', hrow', hid⟩ := List.mem_map.mp hmem
  rw [h.rows_eq]
  exact Table.mem_modify.mpr ⟨row', hrow', .inl ⟨hid.trans h.is.id_eq.symm, rfl⟩⟩

theorem Publishing.counted (h : Publishing events past₀ rows past w event row)
    (hids : (events.map OutboxEvent.id).Nodup) (hcounts : Counts past event row) :
    Counted events past w := by
  intro other hother
  by_cases hid : other.id = event.id
  · have heq : other = event := List.inj_on_of_nodup_map hids hother h.member hid
    subst heq
    exact ⟨row, h.row_mem, hcounts⟩
  · obtain ⟨row', hrow', hstanding⟩ := h.account.stored hids hother
    have hne : row'.id ≠ row.id := by
      rw [hstanding.is.id_eq, h.is.id_eq]
      exact hid
    refine ⟨row', ?_, (h.elsewhere other hother hid row' hstanding).counts⟩
    rw [h.rows_eq]
    exact Table.mem_modify.mpr ⟨row', hrow', .inr ⟨hne, rfl⟩⟩

/-- The event is through, or waits for the next pass. -/
theorem Publishing.settled (h : Publishing events past₀ rows past w event row)
    (hstanding : Standing past event row) : Account events past w.rows where
  ids := by
    rw [h.rows_eq, put, Table.map_key_modify fun _ _ => rfl]
    exact h.account.ids
  standing row' hrow' := by
    rw [h.rows_eq] at hrow'
    rcases mem_put hrow' with rfl | ⟨hmem, hne⟩
    · exact ⟨event, h.member, hstanding⟩
    · obtain ⟨other, hother, hold⟩ := h.account.standing row' hmem
      refine ⟨other, hother, h.elsewhere other hother ?_ row' hold⟩
      rw [← hold.is.id_eq, ← h.is.id_eq]
      exact hne

/-! ## The operations of a pass -/

/-- The attempts at an event, the refusals, and what is still to be written of these. -/
structure Tally (past : List Event) (event : OutboxEvent) (a f u : Nat) : Prop where
  attempted : attempts past event = a
  refused : refusals past event = f
  unwritten_eq : unwritten past event = u

section Operations

variable {a f u : Nat} {routingKey payload message : String} {id : Nat} {columns : Columns}

theorem Tally.concat {a' f' : Nat} (h : Tally past event a f u)
    (ha : (if e.attempts event then 1 else 0) = a') (hf : (if e.refusal event then 1 else 0) = f') :
    Tally (past ++ [e]) event (a + a') (f + f') f' := by
  refine ⟨?_, ?_, ?_⟩
  · rw [attempts_concat, h.attempted, ha]
  · rw [refusals_concat, h.refused, hf]
  · rw [unwritten_concat, hf]

theorem Publishing.counts (h : Publishing events past₀ rows past w event row)
    (ht : Tally past event a f u) (hcounted : row.retryCount + u = event.retryCount + f)
    (hbounded : a + event.retryCount ≤ event.maxRetries) : Counts past event row where
  is := h.is
  counted := by
    rw [ht.unwritten_eq, ht.refused]
    exact hcounted
  bounded := by
    rw [ht.attempted]
    exact hbounded

/-- The meaning of an operation for a single worker. -/
abbrev worker (events : List OutboxEvent) (i : Nat) :
    Spec Op (fun op => Except Exception op.Ret) (List Event × World) :=
  service.logged Event.brokerOnly (Counted events) i

variable {Q : Unit → Unit → List Event × World → Prop} {E : Unit → List Event × World → Prop}

theorem Publishing.update_ensures (h : Publishing events past₀ rows past w event row)
    (ht : Tally past event a f u) (hids : (events.map OutboxEvent.id).Nodup) (hid : id = row.id)
    (hcounted : (columns.apply row).retryCount = event.retryCount + f)
    (hbounded : a + event.retryCount ≤ event.maxRetries)
    (hQ : ∀ past' w', Publishing events past₀ rows past' w' event (columns.apply row) →
      Tally past' event a f 0 → Q () () (past', w')) :
    (update id columns).Ensures (worker events i) () (past, w) Q E := by
  subst hid
  intro c r w' hperform hbroker
  obtain ⟨-, hperforms⟩ := performs hperform
  obtain ⟨_, rfl⟩ := Event.ok_of_brokerOnly hbroker hperforms (fun _ => nofun)
  cases hperforms with
  | updated _ _ hfails =>
      have hrows : w.updated row.id columns = put (columns.apply row) rows := by
        rw [World.updated, h.rows_eq]
        exact Table.modify_modify fun _ _ => rfl
      have hnext : Publishing events past₀ rows
          (past ++ [.performed w i c (.update row.id columns) { w with rows := w.updated row.id columns }])
          { w with rows := w.updated row.id columns } event (columns.apply row) :=
        h.concat ⟨rfl, fun _ _ _ hcarries => hcarries⟩ hrows (h.is.apply columns)
      have htally := ht.concat (e := .performed w i c (.update row.id columns)
        { w with rows := w.updated row.id columns }) (if_neg id) (if_neg fun hno => hno.1)
      exact ⟨hnext.counted hids (hnext.counts htally hcounted hbounded), hQ _ _ hnext htally⟩

/-- The broker takes a message, or it does not; `n` says whether it is that of the event. -/
theorem Publishing.publish_ensures {message : Message} {n : Nat}
    (h : Publishing events past₀ rows past w event row) (ht : Tally past event a f u)
    (hids : (events.map OutboxEvent.id).Nodup)
    (hmindful : ∀ c w', Event.mindful (.performed w i c (.publish message) w') events event)
    (hn : (if (Op.publish message).carries event then 1 else 0) = n)
    (hcounted : row.retryCount = event.retryCount + f)
    (hbounded : a + n + event.retryCount ≤ event.maxRetries)
    (hok : ∀ past' w', Publishing events past₀ rows past' w' event row →
      Tally past' event (a + n) f 0 → Q () () (past', w'))
    (herror : ∀ past' w', Publishing events past₀ rows past' w' event row →
      Tally past' event (a + n) (f + n) n → E () (past', w')) :
    (publish message).Ensures (worker events i) () (past, w) Q E := by
  intro c r w' hperform hbroker
  obtain ⟨-, hperforms⟩ := performs hperform
  have hnext : w'.rows = w.rows → Publishing events past₀ rows
      (past ++ [.performed w i c (.publish message) w']) w' event row :=
    fun hrows => h.concat (hmindful c w') (hrows.trans h.rows_eq) h.is
  have hattempts :
      (if Event.attempts event (.performed w i c (.publish message) w') then 1 else 0) = n :=
    hn
  cases hperforms with
  | crashed _ _ hc =>
      rw [show c.crashes = false from hbroker] at hc
      cases hc
  | failed _ x hfails =>
      have hrefusal :
          (if Event.refusal event (.performed w i c (.publish message) w) then 1 else 0) = n := by
        rw [← hn]
        refine if_congr (and_iff_left ?_) rfl rfl
        rw [hfails]
        rfl
      have hsame := hnext rfl
      have htally := ht.concat hattempts hrefusal
      refine ⟨hsame.counted hids (hsame.counts htally ?_ hbounded), herror _ _ hsame htally⟩
      rw [hcounted, Nat.add_assoc]
  | published _ hfails =>
      have hnone : ¬c.fails.isSome = true := by
        rw [hfails]
        decide
      have hrefusal : (if Event.refusal event (.performed w i c (.publish message)
          { w with accepted := w.accepted ++ [message] }) then 1 else 0) = 0 :=
        if_neg fun hno => hnone hno.2
      have hsame := hnext rfl
      have htally := ht.concat hattempts hrefusal
      exact ⟨hsame.counted hids (hsame.counts htally hcounted hbounded), hok _ _ hsame htally⟩

end Operations

/-! ## An attempt -/

/-- What an attempt leaves behind: the event is through or waits again, and its attempt is counted. -/
structure Attempted (events : List OutboxEvent) (past₀ : List Event) (rows : List OutboxEvent)
    (found event : OutboxEvent) (past : List Event) (w : World) : Prop where
  account : Account events past w.rows
  kept : ∀ row ∈ rows, row.id ≠ found.id → row ∈ w.rows
  passes_eq : passes past = passes past₀
  attempts_le : ∀ other ∈ events, attempts past₀ other ≤ attempts past other
  attempts_lt : attempts past₀ event < attempts past event

theorem Publishing.attempted {a f : Nat} (h : Publishing events past₀ rows past w event row)
    (ht : Tally past event a f 0) (hid : row.id = found.id) (hlt : attempts past₀ event < a)
    (hcounted : row.retryCount = event.retryCount + f)
    (hattempted : a = f + if row.status = .published then 1 else 0)
    (hsettled : row.status ≠ .processing)
    (hleft : row.status ≠ .failed → row.retryCount < event.maxRetries)
    (hspent : row.status = .failed → row.retryCount = event.maxRetries) :
    Attempted events past₀ rows found event past w := by
  have hstanding : Standing past event row := by
    refine ⟨h.is, ?_, ?_, ht.unwritten_eq, hsettled, hleft, hspent⟩
    · rw [ht.refused]
      exact hcounted
    · rw [ht.attempted, ht.refused]
      exact hattempted
  refine ⟨h.settled hstanding, fun other hother hne => ?_, h.passes_eq, h.attempts_le, ?_⟩
  · rw [h.rows_eq]
    exact Table.mem_modify.mpr ⟨other, hother, .inr ⟨hid ▸ hne, rfl⟩⟩
  · rw [ht.attempted]
    exact hlt

/-- Only one event has the identifier of a message. -/
theorem mindful_publish {routingKey payload eventId : String}
    (heventIds : (events.map OutboxEvent.eventId).Nodup) (hevent : event ∈ events)
    (heventId : eventId = event.eventId) (c : Choice) (w' : World) :
    Event.mindful (.performed w i c (.publish (.event routingKey payload eventId)) w') events event :=
  ⟨rfl, fun _ hother hne hcarries => hne (congrArg OutboxEvent.id
    (List.inj_on_of_nodup_map heventIds hother hevent (hcarries.symm.trans heventId)))⟩

section Attempt

variable {nextId f : Nat}

/-- The error path: the event waits again, or it has failed at its last attempt. -/
theorem retry_ensures (found : OutboxEvent) (h : Publishing events past₀ rows past w event row) (hwaiting : Waiting nextId events)
    (ht : Tally past event (f + 1) (f + 1) 1) (hid : found.id = row.id)
    (hfound : found.retryCount = event.retryCount + f) (hlimit : found.maxRetries = event.maxRetries)
    (hleft : found.retryCount < event.maxRetries) (hlt : attempts past₀ event < f + 1)
    (error : Exception) :
    Call.Ensures (worker events i) (do
      update found.id (retryColumns found error.message)
      Call.whenever (found.maxRetries ≤ found.retryCount + 1) (moveToDeadLetterQueue found error))
      () (past, w) (fun _ _ t => Attempted events past₀ rows found event t.1 t.2) fun _ _ => False := by
  have hbounded : f + 1 + event.retryCount ≤ event.maxRetries := by omega
  have hwritten : ((retryColumns found error.message).apply row).retryCount =
      event.retryCount + (f + 1) := by
    show found.retryCount + 1 = _
    omega
  refine .bind (h.update_ensures ht hwaiting.ids hid hwritten hbounded fun past₁ w₁ h₁ ht₁ => ?_)
  refine .whenever (fun hlast => ?_) fun hmore => ?_
  · have hspent : found.retryCount + 1 = event.maxRetries := by omega
    refine .bind (h₁.update_ensures ht₁ hwaiting.ids hid hwritten hbounded fun past₂ w₂ h₂ ht₂ => ?_)
    have hdone : ∀ past₃ w₃, Publishing events past₀ rows past₃ w₃ event
        (Columns.apply
          { status := .failed, lastError := some s!"Max retries exceeded: {error.message}" }
          ((retryColumns found error.message).apply row)) →
        Tally past₃ event (f + 1) (f + 1) 0 → Attempted events past₀ rows found event past₃ w₃ :=
      fun past₃ w₃ h₃ ht₃ => h₃.attempted ht₃ hid.symm hlt hwritten rfl nofun (fun hno => absurd rfl hno)
        fun _ => hspent
    refine .tryCatch (h₂.publish_ensures ht₂ hwaiting.ids ?_ (if_neg id) hwritten hbounded hdone hdone)
      fun _ _ t h => .pure h
    exact fun c w' => ⟨rfl, fun _ _ _ hcarries => hcarries⟩
  · have hmore' : found.retryCount + 1 < event.maxRetries := by omega
    exact h₁.attempted ht₁ hid.symm hlt hwritten rfl nofun (fun _ => hmore') nofun

theorem OutboxEvent.Is.maxRetries_eq (h : row.Is event) : row.maxRetries = event.maxRetries := by
  rw [h]

theorem publishEvent_ensures (hwaiting : Waiting nextId events)
    (haccount : Account events past w.rows) (hmem : found ∈ w.rows) (hpending : found.status = .pending) :
    (publishEvent found).Ensures (worker events i) () (past, w)
      (fun _ _ t => ∃ event ∈ events, Attempted events past w.rows found event t.1 t.2)
      fun _ _ => False := by
  obtain ⟨event, hevent, hstanding⟩ := haccount.standing found hmem
  have hattempts : attempts past event = refusals past event := by
    have hattempted := hstanding.attempted
    rwa [if_neg (by rw [hpending]; decide), Nat.add_zero] at hattempted
  have hcounted := hstanding.counted
  have hleft : found.retryCount < event.maxRetries := hstanding.left (by rw [hpending]; decide)
  have hlt : attempts past event < refusals past event + 1 := by omega
  have hbounded : refusals past event + 1 + event.retryCount ≤ event.maxRetries := by omega
  have hids : (w.rows.map OutboxEvent.id).Nodup := haccount.ids ▸ hwaiting.ids
  have hstart : Publishing events past w.rows past w event found :=
    ⟨haccount, hevent, (Table.modify_self hids hmem).symm, hstanding.is, fun _ _ _ _ h => h, rfl,
      fun _ _ => Nat.le_refl _⟩
  have ht : Tally past event (refusals past event) (refusals past event) 0 :=
    ⟨hattempts, rfl, hstanding.written⟩
  -- the row is as it was found but for its status
  have hbody : Call.Ensures (worker events i) (do
      update found.id { status := .processing }
      publish (.event found.eventType found.payload found.eventId)
      update found.id { status := .published }) () (past, w)
      (fun _ _ t => Attempted events past w.rows found event t.1 t.2) fun _ t =>
        Publishing events past w.rows t.1 t.2 event (Columns.apply { status := .processing } found) ∧
          Tally t.1 event (refusals past event + 1) (refusals past event + 1) 1 := by
    refine .bind (hstart.update_ensures ht hwaiting.ids rfl hcounted (by omega) fun past₁ w₁ h₁ ht₁ => ?_)
    refine .bind (h₁.publish_ensures ht₁ hwaiting.ids ?_ (if_pos hstanding.is.eventId_eq) hcounted
      hbounded (fun past₂ w₂ h₂ ht₂ => ?_) fun past₂ w₂ h₂ ht₂ => ⟨h₂, ht₂⟩)
    · exact mindful_publish hwaiting.eventIds hevent hstanding.is.eventId_eq
    · exact h₂.update_ensures ht₂ hwaiting.ids rfl hcounted hbounded fun past₃ w₃ h₃ ht₃ =>
        h₃.attempted ht₃ rfl hlt hcounted rfl nofun (fun _ => hleft) nofun
  refine .mono (.tryCatch hbody fun error _ t h => ?_)
    (fun _ _ t h => ⟨event, hevent, h⟩) fun _ _ h => h
  exact retry_ensures found h.1 hwaiting h.2 rfl hcounted hstanding.is.maxRetries_eq hleft hlt error

end Attempt

/-! ## Passes -/

section Pass

variable {nextId : Nat}

/-- The attempts at all the events. -/
def total (events : List OutboxEvent) (past : List Event) : Nat := (events.map (attempts past)).sum

theorem Attempted.total_lt (h : Attempted events past rows found event past₀ w) (hevent : event ∈ events) :
    total events past < total events past₀ :=
  List.sum_lt_sum _ _ h.attempts_le ⟨event, hevent, h.attempts_lt⟩

theorem find_ensures {Q : List OutboxEvent → Unit → List Event × World → Prop}
    {E : Unit → List Event × World → Prop} (haccount : Account events past w.rows)
    (hids : (events.map OutboxEvent.id).Nodup)
    (hQ : ∀ batch past', Selects w.rows batch → Account events past' w.rows →
      passes past' = passes past → total events past ≤ total events past' →
      Q batch () (past', w)) :
    (Call.await Op.find : Call (List OutboxEvent)).Ensures (worker events i) () (past, w) Q E := by
  intro c r w' hperform hbroker
  obtain ⟨-, hperforms⟩ := performs hperform
  obtain ⟨_, rfl⟩ := Event.ok_of_brokerOnly hbroker hperforms (fun _ => nofun)
  cases hperforms with
  | found _ hselects =>
      have hafter : Account events (past ++ [.performed w i c .find w]) w.rows :=
        haccount.concat fun _ _ hcarries => hcarries
      refine ⟨hafter.counted hids, hQ _ _ hselects hafter passes_concat ?_⟩
      refine List.sum_le_sum fun event _ => ?_
      rw [attempts_concat]
      exact Nat.le_add_right _ _

/-- A pass that has begun with this batch: what it has not come to yet waits as it was found, and every
event behind it has taken an attempt. -/
structure Looping (events : List OutboxEvent) (past₀ : List Event) (batch rest : List OutboxEvent)
    (past : List Event) (w : World) : Prop where
  account : Account events past w.rows
  waiting : ∀ found ∈ rest, found ∈ w.rows ∧ found.status = .pending
  distinct : (rest.map OutboxEvent.id).Nodup
  passes_eq : passes past = passes past₀
  total_le : total events past₀ + batch.length ≤ total events past + rest.length

theorem Looping.publishEvent_ensures {batch rest : List OutboxEvent}
    (h : Looping events past₀ batch (found :: rest) past w) (hwaiting : Waiting nextId events) :
    (publishEvent found).Ensures (worker events i) () (past, w)
      (fun _ _ t => Looping events past₀ batch rest t.1 t.2) fun _ _ => False := by
  obtain ⟨hfound, hpending⟩ := h.waiting found List.mem_cons_self
  obtain ⟨hne, hdistinct⟩ := List.nodup_cons.mp h.distinct
  refine (Outbox.publishEvent_ensures hwaiting h.account hfound hpending).mono (fun _ _ t ht => ?_)
    fun _ _ hno => hno
  obtain ⟨event, hevent, hattempted⟩ := ht
  refine ⟨hattempted.account, fun other hother => ?_, hdistinct,
    hattempted.passes_eq.trans h.passes_eq, ?_⟩
  · obtain ⟨hmem, hstatus⟩ := h.waiting other (List.mem_cons_of_mem _ hother)
    refine ⟨hattempted.kept other hmem fun hid => hne ?_, hstatus⟩
    exact hid ▸ List.mem_map_of_mem hother
  · have hlt := hattempted.total_lt hevent
    have hle := h.total_le
    rw [List.length_cons] at hle
    omega

/-- What a pass leaves behind: nothing is left to publish, or there was something, of which an attempt
was made. -/
structure Passed (events : List OutboxEvent) (past₀ : List Event) (rows : List OutboxEvent)
    (past : List Event) (w : World) : Prop where
  account : Account events past w.rows
  passes_eq : passes past = passes past₀
  progress : (∀ row ∈ w.rows, row.Through) ∨
    (∃ row ∈ rows, row.status = .pending) ∧ total events past₀ < total events past

theorem Account.through (h : Account events past rows) (hrow : row ∈ rows)
    (hpending : row.status ≠ .pending) : row.Through := by
  obtain ⟨event, _, hstanding⟩ := h.standing row hrow
  cases hstatus : row.status with
  | pending => exact absurd hstatus hpending
  | processing => exact absurd hstatus hstanding.settled
  | published => exact .inl hstatus
  | failed => exact .inr hstatus

theorem Looping.passed {batch : List OutboxEvent} (h : Looping events past₀ batch [] past w)
    (hselects : Selects rows batch) (hempty : batch = [] → w.rows = rows) :
    Passed events past₀ rows past w := by
  refine ⟨h.account, h.passes_eq, ?_⟩
  cases batch with
  | nil =>
      refine .inl fun row hrow => h.account.through hrow fun hpending => ?_
      have hfull := (hselects.oldest row (hempty rfl ▸ hrow) hpending List.not_mem_nil).1
      cases hfull
  | cons first batch =>
      refine .inr ⟨⟨first, hselects.pending first List.mem_cons_self⟩, ?_⟩
      have hle := h.total_le
      rw [List.length_cons, List.length_nil] at hle
      omega

theorem publishPendingEvents_ensures (hwaiting : Waiting nextId events)
    (haccount : Account events past w.rows) :
    publishPendingEvents.Ensures (worker events i) () (past, w)
      (fun _ _ t => Passed events past w.rows t.1 t.2) fun _ _ => False := by
  have hids : (w.rows.map OutboxEvent.id).Nodup := haccount.ids ▸ hwaiting.ids
  have hbody : Call.Ensures (worker events i) (do
      let pendingEvents : List OutboxEvent ← Call.await Op.find
      pendingEvents.forM publishEvent) () (past, w)
      (fun _ _ t => Passed events past w.rows t.1 t.2) fun _ _ => False := by
    refine .bind (find_ensures haccount hwaiting.ids fun batch past₁ hselects haccount₁ hpasses hle => ?_)
    have hdistinct : (batch.map OutboxEvent.id).Nodup :=
      hselects.distinct.map_on fun a ha b hb => List.inj_on_of_nodup_map hids
        (hselects.pending a ha).1 (hselects.pending b hb).1
    have hstart : Looping events past batch batch past₁ w :=
      ⟨haccount₁, hselects.pending, hdistinct, hpasses, Nat.add_le_add_right hle _⟩
    cases batch with
    | nil => exact .pure (hstart.passed hselects fun _ => rfl)
    | cons first batch =>
        refine .mono (.forM (fun rest _ t => Looping events past (first :: batch) rest t.1 t.2)
          (fun found rest _ t h => h.publishEvent_ensures hwaiting) (first :: batch) hstart)
          (fun _ _ t h => h.passed hselects nofun) fun _ _ hno => hno
  exact .tryCatch hbody fun _ _ _ hno => hno.elim

end Pass

/-! ## Runs -/

/-- Between two passes, nothing is left to publish, or every pass has made an attempt. -/
structure Draining (events : List OutboxEvent) (past : List Event) (w : World) : Prop where
  account : Account events past w.rows
  progress : (∀ row ∈ w.rows, row.Through) ∨ passes past ≤ total events past

theorem Draining.started {nextId : Nat} {request : Request} (h : Draining events past w)
    (hwaiting : Waiting nextId events) (hbroker : Event.brokerOnly (.started w i request)) :
    Counted events (past ++ [.started w i request]) w ∧
      (service.program request).wp (worker events i) (fun _ t => Draining events t.1 t.2)
        (past ++ [.started w i request], w) := by
  have haccount : Account events (past ++ [.started w i request]) w.rows :=
    h.account.concat fun _ _ hno => hno
  refine ⟨haccount.counted hwaiting.ids, ?_⟩
  cases request with
  | storeEvent => exact hbroker.elim
  | publishPendingEvents =>
      suffices hcall : Call.Ensures (worker events i) Request.publishPendingEvents.call ()
          (past ++ [.started w i .publishPendingEvents], w) (fun _ _ t => Draining events t.1 t.2)
          fun _ t => Draining events t.1 t.2 from hcall.program
      refine .andThen (publishPendingEvents_ensures hwaiting haccount) (fun _ _ hno => hno.elim)
        fun _ _ t ht => .pure ⟨ht.account, ?_⟩
      rcases ht.progress with hthrough | ⟨hpending, hlt⟩
      · exact .inl hthrough
      · have hpasses := ht.passes_eq
        have htotal : total events (past ++ [.started w i .publishPendingEvents]) =
            total events past := by
          refine congrArg List.sum (List.map_congr_left fun event _ => ?_)
          rw [attempts_concat]
          rfl
        have hone : passes (past ++ [.started w i .publishPendingEvents]) = passes past + 1 :=
          passes_concat
        rcases h.progress with hthrough | hle
        · obtain ⟨row, hrow, hstatus⟩ := hpending
          rcases hthrough row hrow with hpublished | hfailed
          · rw [hstatus] at hpublished
            cases hpublished
          · rw [hstatus] at hfailed
            cases hfailed
        · right
          omega

/-- Whatever is left to publish has attempts left. -/
theorem Draining.through (h : Draining events past w)
    (hcounted : Counted events past w) (hpasses : budget events ≤ passes past) :
    ∀ row ∈ w.rows, row.Through := by
  intro row hrow
  rcases h.progress with hthrough | hle
  · exact hthrough row hrow
  · refine h.account.through hrow fun hpending => ?_
    obtain ⟨event, hevent, hstanding⟩ := h.account.standing row hrow
    have hattempted := hstanding.attempted
    have hstill := hstanding.counted
    have hleft := hstanding.left (by rw [hpending]; decide)
    rw [if_neg (by rw [hpending]; decide)] at hattempted
    have hlt : total events past < budget events := by
      refine List.sum_lt_sum _ _ (fun other hother => ?_) ⟨event, hevent, ?_⟩
      · obtain ⟨_, _, hcounts⟩ := hcounted other hother
        have hbounded := hcounts.bounded
        omega
      · omega
    omega

/-! ## A pass ends -/

/-- No worker has died. -/
def World.Live (w : World) : Prop := w.crashed = []

/-- The broker's decision about a message, by what has happened before. -/
def Event.answers (broker : List Event → Option Exception) (past : List Event) : Event → Prop
  | .performed _ _ c (.publish _) _ => c.fails = broker past
  | _ => True

/-- Nothing fails but the broker, and this one as it is told. -/
def Event.obeys (broker : List Event → Option Exception) (past : List Event) (e : Event) : Prop :=
  Event.brokerOnly e ∧ e.answers broker past

/-- There is a batch to be found. -/
theorem exists_selects (rows : List OutboxEvent) : ∃ batch, Selects rows batch := by
  let pending := (rows.filter fun row => row.status = .pending).dedup
  let sorted := pending.mergeSort fun row later => row.createdAt ≤ later.createdAt
  have hmem : ∀ row, row ∈ sorted ↔ row ∈ rows ∧ row.status = .pending := by
    intro row
    simp [sorted, pending]
  have hnodup : sorted.Nodup := (List.mergeSort_perm _ _).nodup_iff.mpr (List.nodup_dedup _)
  have hsorted : sorted.Pairwise fun row later => row.createdAt ≤ later.createdAt := by
    refine (List.pairwise_mergeSort (fun a b c hab hbc => ?_) (fun a b => ?_) pending).imp fun h =>
      of_decide_eq_true h
    · rw [decide_eq_true_eq] at hab hbc ⊢
      exact Nat.le_trans hab hbc
    · rw [Bool.or_eq_true, decide_eq_true_eq, decide_eq_true_eq]
      exact Nat.le_total _ _
  refine ⟨sorted.take batchSize, hnodup.sublist (List.take_sublist _ _),
    fun row hrow => (hmem row).mp (List.mem_of_mem_take hrow),
    hsorted.sublist (List.take_sublist _ _), List.length_take_le _ _,
    fun other hother hpending hno => ?_⟩
  have hparts := List.take_append_drop batchSize sorted
  have hin : other ∈ sorted := (hmem other).mpr ⟨hother, hpending⟩
  have hdrop : other ∈ sorted.drop batchSize := by
    rw [← hparts] at hin
    exact (List.mem_append.mp hin).resolve_left hno
  constructor
  · have hlength := List.length_pos_of_mem hdrop
    rw [List.length_drop] at hlength
    rw [List.length_take]
    omega
  · intro row hrow
    rw [← hparts] at hsorted
    exact (List.pairwise_append.mp hsorted).2.2 row hrow other hdrop

theorem performWith_ok {op : Op} {a : op.Ret} (hlive : i ∉ w.crashed) (hcrashes : c.crashes = false)
    (hfails : c.fails = none) (h : op.perform c w = some (a, w')) :
    performWith i c op w = some (.ok a, w') := by
  unfold performWith
  rw [if_neg hlive, if_neg (by rw [hcrashes]; decide), hfails, h]
  rfl

/-- Every operation can be performed without a failure but of the broker. -/
theorem exists_performed (broker : List Event → Option Exception) (past : List Event) (i : Nat) (op : Op)
    (w : World) (hw : w.Live) :
    ∃ c r w', performWith i c op w = some (r, w') ∧ w'.Live ∧
      Event.obeys broker past (.performed w i c op w') := by
  have hlive : i ∉ w.crashed := by
    rw [show w.crashed = [] from hw]
    exact List.not_mem_nil
  cases op with
  | uuid =>
      obtain ⟨id, hid⟩ := Infinite.exists_notMem_finset w.issued.toFinset
      rw [List.mem_toFinset] at hid
      exact ⟨{ succeeds with uuid := id }, _, _, performWith_ok hlive rfl rfl (if_neg hid), hw,
        ⟨⟨rfl, rfl⟩, trivial⟩⟩
  | insert event => exact ⟨succeeds, _, _, performWith_ok hlive rfl rfl rfl, hw, ⟨⟨rfl, rfl⟩, trivial⟩⟩
  | find =>
      obtain ⟨batch, hselects⟩ := exists_selects w.rows
      exact ⟨selecting batch, _, _, performWith_ok hlive rfl rfl (if_pos hselects), hw,
        ⟨⟨rfl, rfl⟩, trivial⟩⟩
  | update id columns =>
      exact ⟨succeeds, _, _, performWith_ok hlive rfl rfl rfl, hw, ⟨⟨rfl, rfl⟩, trivial⟩⟩
  | publish message =>
      cases hbroker : broker past with
      | none => exact ⟨succeeds, _, _, performWith_ok hlive rfl rfl rfl, hw, ⟨rfl, hbroker.symm⟩⟩
      | some error =>
          refine ⟨{ succeeds with fails := some error }, .error error, w, ?_, hw, ⟨rfl, hbroker.symm⟩⟩
          unfold performWith
          rw [if_neg hlive]
          rfl

theorem Event.crashes_of_brokerOnly {op : Op} (h : Event.brokerOnly (.performed w i c op w')) :
    c.crashes = false := by
  cases op with
  | publish message => exact h
  | uuid => exact h.1
  | insert => exact h.1
  | find => exact h.1
  | update => exact h.1

theorem not_crashed {ms : List (Move Request Choice)} {es : List Event} {P P' : ServicePool}
    (hrun : service.run ms P = some (es, P')) (hbroker : ∀ e ∈ es, Event.brokerOnly e)
    (hP : P.state.Live) : P'.state.Live := by
  suffices key : P'.state.Live ∧ ∀ e ∈ es, True from key.1
  refine System.run_induction (motive := fun P => P.state.Live) (fun {m P e P'} hmove hallows hlive => ?_)
    hrun hbroker hP
  refine ⟨?_, trivial⟩
  rcases System.move_cases hmove with ⟨request, -, rfl, rfl⟩ |
    ⟨i, c, op, next, r, w', -, -, hperform, rfl, rfl⟩
  · exact hlive
  · obtain ⟨-, hperforms⟩ := performs hperform
    cases hperforms with
    | crashed _ _ hc =>
        rw [Event.crashes_of_brokerOnly hallows] at hc
        cases hc
    | failed => exact hlive
    | drew => exact hlive
    | stored => exact hlive
    | found => exact hlive
    | updated => exact hlive
    | published => exact hlive

/-- The pass that runs can be carried through, whatever the broker decides. -/
theorem pass_completes {ms : List (Move Request Choice)} {es : List Event} {P : ServicePool}
    {nextId : Nat} (hrun : service.run ms (.init (.of nextId events)) = some (es, P))
    (hserial : service.serial ms (.init (.of nextId events)) = true)
    (hbroker : ∀ e ∈ es, Event.brokerOnly e) (broker : List Event → Option Exception) :
    ∃ i cs es' P', service.run (List.map (.run i) cs) P = some (es', P') ∧ P'.idle = true ∧
      System.Throughout (Event.obeys broker) es es' := by
  have hlive : P.state.Live := not_crashed hrun hbroker rfl
  have halone : (∃ i, System.Alone i P) ∧ ∀ e ∈ es, True := by
    refine System.serial_induction (motive := fun P => ∃ i, System.Alone i P)
      (fun {m P e P'} hmove hunhurried _ halone => ⟨?_, trivial⟩) hrun hserial hbroker rfl
      ⟨0, System.alone_of_idle rfl 0⟩
    refine (System.unhurried_of_alone hmove (fun request hm => ?_) halone).2
    subst hm
    exact hunhurried
  obtain ⟨⟨i, halone⟩, -⟩ := halone
  cases hcall : P.calls[i]? with
  | none =>
      refine ⟨i, [], [], P, rfl, List.all_eq_true.mpr fun q hq => ?_, trivial⟩
      obtain ⟨j, hj⟩ := List.mem_iff_getElem?.mp hq
      refine halone j q (fun hji => ?_) hj
      rw [hji, hcall] at hj
      cases hj
  | some p =>
      obtain ⟨cs, es', P', hrun', hidle, hes'⟩ :=
        System.run_completes (S := service) (exists_performed broker) hcall halone hlive es
      exact ⟨i, cs, es', P', hrun', hidle, hes'⟩

/-- No event is attempted more often than it has retries left, and each refusal is written in the step
after it; when no pass is running and there were as many as the events have attempts together, every
event is through. -/
theorem outbox_drains {ms : List (Move Request Choice)} {es : List Event} {P : ServicePool}
    {nextId : Nat} (hwaiting : Waiting nextId events)
    (hrun : service.run ms (.init (.of nextId events)) = some (es, P))
    (hserial : service.serial ms (.init (.of nextId events)) = true)
    (hbroker : ∀ e ∈ es, Event.brokerOnly e) :
    (∀ event ∈ events, attempts es event ≤ event.maxRetries - event.retryCount ∧
      ∃ row ∈ P.state.rows, row.Is event ∧
        row.retryCount + unwritten es event = event.retryCount + refusals es event) ∧
    (P.idle = true → (∀ event ∈ events, unwritten es event = 0) ∧
      (budget events ≤ passes es → ∀ event ∈ events, ∃ row ∈ P.state.rows, row.Is event ∧ row.Through)) ∧
    ∀ broker : List Event → Option Exception, ∃ i cs es' P',
      service.run (List.map (.run i) cs) P = some (es', P') ∧ P'.idle = true ∧
        System.Throughout (Event.obeys broker) es es' := by
  have hstart : Draining events [] (.of nextId events) := ⟨hwaiting.account, .inr (Nat.zero_le _)⟩
  obtain ⟨hcounted, hidle⟩ := System.run_serial_logged
    (fun past w i request hinv hallows => hinv.started hwaiting hallows) hrun hserial hbroker rfl
    (hstart.account.counted hwaiting.ids) hstart
  rw [List.nil_append] at hcounted hidle
  refine ⟨fun event hevent => ?_, fun hdone => ⟨fun event hevent => ?_, fun hpasses event hevent => ?_⟩,
    pass_completes hrun hserial hbroker⟩
  · obtain ⟨row, hrow, hcounts⟩ := hcounted event hevent
    have hbounded := hcounts.bounded
    exact ⟨by omega, row, hrow, hcounts.is, hcounts.counted⟩
  · obtain ⟨row, hrow, hstanding⟩ := (hidle hdone).account.stored hwaiting.ids hevent
    exact hstanding.written
  · obtain ⟨row, hrow, hstanding⟩ := (hidle hdone).account.stored hwaiting.ids hevent
    exact ⟨row, hrow, hstanding.is, (hidle hdone).through hcounted hpasses row hrow⟩

/-- An event at its last attempt. -/
def lastTry : OutboxEvent := { reserveSeats with retryCount := 2 }

theorem waiting_lastTry : Waiting 2 [lastTry] where
  pending := by decide
  fresh := by decide
  ids := by decide
  eventIds := by decide
  retries := by decide

/-- The broker takes neither the event nor the dead letter. -/
def lastRefusal : List (Move Request Choice) :=
  let no := failsWith "ECONNREFUSED"
  [.start .publishPendingEvents, .run 0 (selecting [lastTry]), .run 0 succeeds, .run 0 no,
    .run 0 succeeds, .run 0 succeeds, .run 0 no]

theorem outbox_drains_last_try :
    ∃ es P, service.run lastRefusal (.init (.of 2 [lastTry])) = some (es, P) ∧
      attempts es lastTry ≤ 1 ∧
      ∀ event ∈ [lastTry], ∃ row ∈ P.state.rows, row.Is event ∧ row.Through := by
  have hany : (service.run lastRefusal (.init (.of 2 [lastTry]))).any
      (fun result => decide (∀ e ∈ result.1, Event.brokerOnly e) &&
        (result.2.idle && decide (budget [lastTry] ≤ passes result.1))) = true := by
    decide +kernel
  obtain ⟨es, P, hrun, hresult⟩ := System.exists_run hany
  rw [Bool.and_eq_true, Bool.and_eq_true, decide_eq_true_eq, decide_eq_true_eq] at hresult
  obtain ⟨hbroker, hidle, hpasses⟩ := hresult
  obtain ⟨hbounds, hdone, -⟩ := outbox_drains waiting_lastTry hrun (by decide +kernel) hbroker
  exact ⟨es, P, hrun, (hbounds lastTry List.mem_cons_self).1, (hdone hidle).2 hpasses⟩

end FlightBookings.Outbox
