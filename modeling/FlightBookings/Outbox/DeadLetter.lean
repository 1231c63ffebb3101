import FlightBookings.Outbox.Delivery

/-! # Delivered or dead-lettered

One error path serves an event that the broker has refused and an event that it has accepted, when
the write that follows its message fails. The events that are accepted and the ones that fail stay
apart as long as no pass gives up an event that is accepted, or that another pass still has.
-/

namespace FlightBookings.Outbox

open Await

/-! ## The condition -/

/-- The events that a pass is not through with. -/
def Progress.events (k : Progress) : List OutboxEvent := k.stage.event.toList ++ k.rest

/-- The event that a pass is about to publish. -/
def Progress.attempt (k : Progress) : Option OutboxEvent :=
  match k.stage with
  | .idle => k.rest.head?
  | .claimed event => some event
  | .sent event => some event
  | _ => none

/-- The event that a pass gives up, from the failure of its last attempt on. -/
def Progress.givenUp (k : Progress) : Option OutboxEvent :=
  match k.stage with
  | .failing event => if event.maxRetries ≤ event.retryCount + 1 then some event else none
  | .returned event => some event
  | .buried event => some event
  | _ => none

/-- A pass of another live worker has this event among the ones that `events` selects. -/
def Elsewhere (past : List Event) (w : World) (i id : Nat)
    (events : Progress → List OutboxEvent) : Prop :=
  ∃ j ∈ System.startedCalls past, j ≠ i ∧ j ∉ w.crashed ∧
    ∃ k ∈ (progressOf past j).toList, ∃ event ∈ events k, event.id = id

instance (past : List Event) (w : World) (i id : Nat) (events : Progress → List OutboxEvent) :
    Decidable (Elsewhere past w i id events) :=
  inferInstanceAs (Decidable (∃ j ∈ System.startedCalls past, j ≠ i ∧ j ∉ w.crashed ∧
    ∃ k ∈ (progressOf past j).toList, ∃ event ∈ events k, event.id = id))

/-- The last attempt to publish an event fails when the broker has accepted the event or another
pass has it, or a pass selects an event that another one gives up. -/
def Event.overrules (past : List Event) : Event → Prop
  | .started _ _ _ => False
  | .performed w i c op _ =>
      c.crashes = false ∧
        ((c.fails.isSome = true ∧ ∃ k ∈ (progressOf past i).toList, ∃ event ∈ k.attempt.toList,
            event.maxRetries ≤ event.retryCount + 1 ∧
              (w.hasAccepted event.eventId ∨ Elsewhere past w i event.id Progress.events)) ∨
          (c.fails = none ∧ op = .find ∧ ∃ event ∈ c.batch,
            Elsewhere past w i event.id fun k => k.givenUp.toList))

instance (past : List Event) (e : Event) : Decidable (e.overrules past) :=
  match e with
  | .started _ _ _ => inferInstanceAs (Decidable False)
  | .performed _ _ _ _ _ => inferInstanceAs (Decidable (_ ∧ (_ ∨ _)))

/-- The step sets the status of an event to failed. -/
def Event.buries (id : Nat) : Event → Prop
  | .performed _ _ c (.update id' columns) _ =>
      id' = id ∧ columns.status = .failed ∧ c.crashes = false ∧ c.fails = none
  | _ => False

/-- The message goes to the dead letters. -/
def Message.buries (eventId : String) : Message → Prop
  | .event _ _ _ => False
  | .deadLetter _ _ originalEventId _ _ => originalEventId = eventId

instance (id : Nat) (e : Event) : Decidable (e.buries id) :=
  match e with
  | .started _ _ _ => inferInstanceAs (Decidable False)
  | .performed _ _ _ (.update _ _) _ => inferInstanceAs (Decidable (_ ∧ _ ∧ _ ∧ _))
  | .performed _ _ _ .uuid _ => inferInstanceAs (Decidable False)
  | .performed _ _ _ (.insert _) _ => inferInstanceAs (Decidable False)
  | .performed _ _ _ .find _ => inferInstanceAs (Decidable False)
  | .performed _ _ _ (.publish _) _ => inferInstanceAs (Decidable False)

instance (eventId : String) (message : Message) : Decidable (message.buries eventId) :=
  match message with
  | .event _ _ _ => inferInstanceAs (Decidable False)
  | .deadLetter _ _ _ _ _ => inferInstanceAs (Decidable (_ = _))

/-- No event that the broker has accepted was set to failed, or is among the dead letters. -/
def Exclusive (es : List Event) (w : World) : Prop :=
  ∀ row ∈ w.rows, w.hasAccepted row.eventId →
    (∀ e ∈ es, ¬e.buries row.id) ∧ ∀ message ∈ w.accepted, ¬message.buries row.eventId

instance (es : List Event) (w : World) : Decidable (Exclusive es w) :=
  inferInstanceAs (Decidable (∀ row ∈ w.rows, w.hasAccepted row.eventId →
    (∀ e ∈ es, ¬e.buries row.id) ∧ ∀ message ∈ w.accepted, ¬message.buries row.eventId))

/-! ## What one step does to a pass -/

variable {past : List Event} {i : Nat} {k : Progress} {op : Op} {event row : OutboxEvent}
variable {c : Choice} {w w' : World} {r : Except Exception op.Ret}

theorem Progress.mem_events : event ∈ k.events ↔ k.Knows event := by
  simp [Progress.events, Progress.Knows, or_comm]

theorem found_batch {batch : List OutboxEvent} {w' : World}
    (h : performWith i c .find w = some (.ok batch, w')) : c.crashes = false ∧ c.fails = none ∧
      Selects w.rows c.batch ∧ batch = c.batch := by
  unfold performWith at h
  split at h
  · cases h
  split at h
  · cases h
  rename_i hcrashes
  split at h
  · cases h
  rename_i hfails
  by_cases hselects : Selects w.rows c.batch
  · simp only [Op.perform, if_pos hselects, Option.map_some, Option.some.injEq, Prod.mk.injEq,
      Except.ok.injEq] at h
    exact ⟨by simpa using hcrashes, hfails, hselects, h.1.symm⟩
  · simp only [Op.perform, if_neg hselects, Option.map_none] at h
    cases h

theorem Progress.begin_events {marked : Bool} (k : Progress) (h : k.stage = .idle) :
    (k.begin marked).events.Sublist k.events := by
  obtain ⟨rest, stage⟩ := k
  subst h
  cases rest with
  | nil => exact List.Sublist.refl _
  | cons event rest => cases marked <;> exact List.Sublist.refl _

/-- A pass loses events as it goes, and gets new ones from its query only. -/
theorem Next.events_advance (h : Next k op) (hperform : performWith i c op w = some (r, w')) :
    (advance op r k).events.Sublist k.events ∨
      (op = .find ∧ c.crashes = false ∧ c.fails = none ∧ Selects w.rows c.batch ∧
        (advance op r k).events = c.batch) := by
  cases h with
  | uuid => exact .inl (List.Sublist.refl _)
  | insert => exact .inl (List.Sublist.refl _)
  | find =>
      cases r with
      | error e => exact .inl (List.Sublist.refl _)
      | ok batch =>
          obtain ⟨hcrashes, hfails, hselects, rfl⟩ := found_batch hperform
          exact .inr ⟨rfl, hcrashes, hfails, hselects, rfl⟩
  | claim =>
      cases r with
      | error e => exact .inl (Progress.begin_events _ rfl)
      | ok _ => exact .inl (Progress.begin_events _ rfl)
  | publish =>
      cases r with
      | error e => exact .inl (List.Sublist.refl _)
      | ok _ => exact .inl (List.Sublist.refl _)
  | mark =>
      cases r with
      | error e => exact .inl (List.Sublist.refl _)
      | ok _ => exact .inl (List.sublist_cons_self _ _)
  | retry message =>
      cases r with
      | error e => exact .inl (List.nil_sublist _)
      | ok _ =>
          -- the retry limit decides between the stages `returned` and `idle`
          simp only [advance, Progress.wrote, retryColumns]
          split
          · exact .inl (List.Sublist.refl _)
          · exact .inl (List.sublist_cons_self _ _)
  | bury message hlimit =>
      cases r with
      | error e => exact .inl (List.nil_sublist _)
      | ok _ => exact .inl (List.Sublist.refl _)
  | deadLetter message => exact .inl (List.sublist_cons_self _ _)

/-- A pass gives up an event when its last attempt fails. -/
theorem Next.givenUp_advance (h : Next k op) (hgiven : (advance op r k).givenUp = some event) :
    k.givenUp = some event ∨ (k.attempt = some event ∧ r.isOk = false ∧
      event.maxRetries ≤ event.retryCount + 1) := by
  have hfailing : ∀ {rest : List OutboxEvent} {first : OutboxEvent},
      (Progress.mk rest (.failing first)).givenUp = some event →
      first = event ∧ event.maxRetries ≤ event.retryCount + 1 := by
    intro rest first hgiven
    simp only [Progress.givenUp] at hgiven
    split at hgiven
    · cases hgiven
      exact ⟨rfl, ‹_›⟩
    · cases hgiven
  cases h with
  | uuid => cases hgiven
  | insert => cases hgiven
  | find =>
      cases r with
      | error e => cases hgiven
      | ok _ => cases hgiven
  | claim =>
      cases r with
      | error e =>
          obtain ⟨rfl, hlast⟩ := hfailing hgiven
          exact .inr ⟨rfl, rfl, hlast⟩
      | ok _ => cases hgiven
  | publish =>
      cases r with
      | error e =>
          obtain ⟨rfl, hlast⟩ := hfailing hgiven
          exact .inr ⟨rfl, rfl, hlast⟩
      | ok _ => cases hgiven
  | mark =>
      cases r with
      | error e =>
          obtain ⟨rfl, hlast⟩ := hfailing hgiven
          exact .inr ⟨rfl, rfl, hlast⟩
      | ok _ => cases hgiven
  | @retry first _ message =>
      cases r with
      | error e => cases hgiven
      | ok _ =>
          by_cases hlast : first.maxRetries ≤ first.retryCount + 1
          · simp only [advance, Progress.wrote, retryColumns, if_pos hlast] at hgiven
            refine .inl ?_
            simp only [Progress.givenUp, if_pos hlast]
            exact hgiven
          · simp only [advance, Progress.wrote, retryColumns, if_neg hlast] at hgiven
            cases hgiven
  | bury message hlimit =>
      cases r with
      | error e => cases hgiven
      | ok _ => exact .inl hgiven
  | deadLetter message => cases hgiven

/-- What a pass gives up it still has. -/
theorem Progress.mem_of_givenUp (h : k.givenUp = some event) : event ∈ k.events := by
  obtain ⟨rest, stage⟩ := k
  cases stage with
  | failing first =>
      simp only [Progress.givenUp] at h
      split at h
      · cases h
        exact List.mem_cons_self
      · cases h
  | returned => cases h; exact List.mem_cons_self
  | buried => cases h; exact List.mem_cons_self
  | storing => cases h
  | idle => cases h
  | claimed => cases h
  | sent => cases h

/-- Only the write of the status gets a pass to the dead letter. -/
theorem Next.buried_advance (h : Next k op) (hstage : (advance op r k).stage = .buried event) :
    r.isOk = true ∧ k.stage = .returned event ∧ ∃ message,
      op = .update event.id { status := .failed, lastError := some message } := by
  cases h with
  | uuid => cases hstage
  | insert => cases hstage
  | find =>
      cases r with
      | error e => cases hstage
      | ok _ => cases hstage
  | claim =>
      cases r with
      | error e => cases hstage
      | ok _ => cases hstage
  | publish =>
      cases r with
      | error e => cases hstage
      | ok _ => cases hstage
  | mark =>
      cases r with
      | error e => cases hstage
      | ok _ => cases hstage
  | retry message =>
      cases r with
      | error e => cases hstage
      | ok _ =>
          simp only [advance, Progress.wrote, retryColumns] at hstage
          split at hstage
          · cases hstage
          · cases hstage
  | bury message hlimit =>
      cases r with
      | error e => cases hstage
      | ok _ =>
          cases hstage
          exact ⟨rfl, rfl, message, rfl⟩
  | deadLetter message => cases hstage

/-- A write to an event that a pass has, from a stage in front of the dead letter. -/
theorem Next.of_update {id : Nat} {columns : Columns} (h : Next k (.update id columns)) :
    ∃ event ∈ k.events, event.id = id ∧ k.stage ≠ .buried event ∧
      (columns.status = .failed → k.stage = .returned event) := by
  cases h with
  | claim => exact ⟨_, List.mem_cons_self, rfl, by simp, by simp⟩
  | mark => exact ⟨_, List.mem_cons_self, rfl, by simp, by simp⟩
  | retry => exact ⟨_, List.mem_cons_self, rfl, by simp, by simp [retryColumns]⟩
  | bury => exact ⟨_, List.mem_cons_self, rfl, by simp, by simp⟩

/-- After the dead letter a pass goes on with the next event, even if it could not be sent. -/
theorem Next.events_of_buried (h : Next k op) (hstage : k.stage = .buried event)
    (r : Except Exception op.Ret) : (advance op r k).events = k.rest := by
  cases h with
  | deadLetter message => rfl
  | uuid => cases hstage
  | insert => cases hstage
  | find => cases hstage
  | claim => cases hstage
  | publish => cases hstage
  | mark => cases hstage
  | retry => cases hstage
  | bury => cases hstage

/-- Where the broker gets a message from. -/
theorem Next.of_publish {message : Message} (h : Next k (.publish message)) :
    (∃ event, k.stage = .claimed event ∧
        message = .event event.eventType event.payload event.eventId) ∨
      ∃ event reason, k.stage = .buried event ∧ message =
        .deadLetter event.eventType event.payload event.eventId reason event.retryCount := by
  cases h with
  | publish => exact .inl ⟨_, rfl, rfl⟩
  | deadLetter => exact .inr ⟨_, _, rfl, rfl⟩

/-! ## The invariant -/

/-- A live call has the event. -/
structure Holds (past : List Event) (w : World) (i : Nat) (k : Progress) (event : OutboxEvent) :
    Prop where
  live : i ∉ w.crashed
  progress : progressOf past i = some k
  mem : event ∈ k.events

/-- What a pass gives up, no other pass has and the broker has not accepted; what has failed, no
pass has but the one that is about to send the dead letter. -/
structure Settling (past : List Event) (w : World) : Prop where
  numbered : Numbered w
  known : ∀ i k event, progressOf past i = some k → k.Knows event → ∃ row ∈ w.rows, row.Is event
  distinct : ∀ i k, progressOf past i = some k → (k.events.map OutboxEvent.id).Nodup
  given : ∀ i k event, Holds past w i k event → k.givenUp = some event →
    ¬w.hasAccepted event.eventId ∧
      ∀ j k' other, Holds past w j k' other → other.id = event.id → j = i
  buried : ∀ i k event, Holds past w i k event → k.stage = .buried event →
    ∃ row ∈ w.rows, row.Is event ∧ row.status = .failed
  failed : ∀ row ∈ w.rows, row.status = .failed → ¬w.hasAccepted row.eventId ∧
    ∀ i k event, Holds past w i k event → event.id = row.id → k.stage = .buried event
  dead : ∀ message ∈ w.accepted, ∀ eventId, message.buries eventId →
    ∃ row ∈ w.rows, row.eventId = eventId ∧ row.status = .failed
  written : ∀ e ∈ past, ∀ id, e.buries id → ∃ row ∈ w.rows, row.id = id ∧ row.status = .failed

theorem settling_init : Settling [] World.init where
  numbered := ⟨fun _ hrow => absurd hrow List.not_mem_nil, List.nodup_nil⟩
  known _ _ _ hk := by cases hk
  distinct _ _ hk := by cases hk
  given _ _ _ hholds := by cases hholds.progress
  buried _ _ _ hholds := by cases hholds.progress
  failed _ hrow := absurd hrow List.not_mem_nil
  dead _ hmem := absurd hmem List.not_mem_nil
  written _ he := absurd he List.not_mem_nil

/-- Of two rows with one event identifier there is only one. -/
theorem row_eq_of_eventId {row' : OutboxEvent} (hunique : (w.rows.map OutboxEvent.eventId).Nodup)
    (hrow : row ∈ w.rows) (hrow' : row' ∈ w.rows) (heq : row.eventId = row'.eventId) : row = row' :=
  List.inj_on_of_nodup_map hunique hrow hrow' heq

theorem Settling.row_of_holds (h : Settling past w) (hholds : Holds past w i k event) :
    ∃ row ∈ w.rows, row.Is event :=
  h.known i k event hholds.progress (Progress.mem_events.1 hholds.mem)

/-- Two events of one identifier that a call has are one. -/
theorem Settling.eq_of_mem {other : OutboxEvent} (h : Settling past w) (hk : progressOf past i = some k)
    (hmem : event ∈ k.events) (hother : other ∈ k.events) (hid : event.id = other.id) :
    event = other :=
  List.inj_on_of_nodup_map (h.distinct i k hk) hmem hother hid

/-- Who has an event after a step had it before, or has just selected it. -/
theorem holds_cases {j : Nat} {k' : Progress} (hk : progressOf past i = some k) (hnext : Next k op)
    (hperform : performWith i c op w = some (r, w'))
    (hholds : Holds (past ++ [.performed w i c op w']) w' j k' event) :
    (j = i ∧ k' = advance op r k ∧ (Holds past w i k event ∨ (op = .find ∧ c.crashes = false ∧
          c.fails = none ∧ Selects w.rows c.batch ∧ event ∈ c.batch))) ∨
      (j ≠ i ∧ Holds past w j k' event) := by
  obtain ⟨hlive, hperforms⟩ := performs hperform
  rcases System.trace_performed_cases hperform hk hholds.progress with ⟨rfl, rfl⟩ | ⟨hne, hk'⟩
  · refine .inl ⟨rfl, rfl, ?_⟩
    rcases hnext.events_advance hperform with hsub | ⟨hop, hcrashes, hfails, hselects, hbatch⟩
    · exact .inl ⟨hlive, hk, hsub.subset hholds.mem⟩
    · exact .inr ⟨hop, hcrashes, hfails, hselects, hbatch ▸ hholds.mem⟩
  · refine .inr ⟨hne, ⟨fun hcrashed => hholds.live ?_, hk', hholds.mem⟩⟩
    cases hperforms with
    | crashed => exact List.mem_cons_of_mem _ hcrashed
    | failed => exact hcrashed
    | drew => exact hcrashed
    | stored => exact hcrashed
    | found => exact hcrashed
    | updated => exact hcrashed
    | published => exact hcrashed

theorem elsewhere_of_holds {j : Nat} {k' : Progress} {other : OutboxEvent}
    {events : Progress → List OutboxEvent} (hholds : Holds past w j k' other) (hne : j ≠ i)
    (hmem : other ∈ events k') (hid : other.id = event.id) : Elsewhere past w i event.id events :=
  ⟨j, System.mem_startedCalls hholds.progress, hne, hholds.live, k',
    by rw [hholds.progress]; exact List.mem_singleton.2 rfl, other, hmem, hid⟩

theorem not_crashes_of_live (hperform : performWith i c op w = some (r, w')) (hlive : i ∉ w'.crashed) :
    c.crashes = false := by
  refine Bool.eq_false_iff.2 fun hcrashes => ?_
  simp only [performWith, hcrashes, if_true] at hperform
  split at hperform
  · cases hperform
  · cases hperform
    exact hlive List.mem_cons_self

section Step

variable (h : Settling past w) (hunique : (w.rows.map OutboxEvent.eventId).Nodup)
variable (hk : progressOf past i = some k) (hnext : Next k op)
variable (hperform : performWith i c op w = some (r, w'))

include h hk hnext hperform

/-- A row that has failed stays as it is. -/
theorem Settling.failed_stays (hrow : row ∈ w.rows) (hstatus : row.status = .failed) :
    row ∈ w'.rows := by
  obtain ⟨hlive, hperforms⟩ := performs hperform
  cases hperforms with
  | updated id columns =>
      refine Table.mem_modify.mpr ⟨row, hrow, .inr ⟨fun hid => ?_, rfl⟩⟩
      obtain ⟨event, hmem, hevent, hstage, -⟩ := hnext.of_update
      exact hstage ((h.failed row hrow hstatus).2 i k event ⟨hlive, hk, hmem⟩ (hevent.trans hid.symm))
  | stored new => exact List.mem_append_left _ hrow
  | crashed => exact hrow
  | failed => exact hrow
  | drew => exact hrow
  | found => exact hrow
  | published => exact hrow

/-- What the broker accepts now, the pass had claimed. -/
theorem Settling.accepted_cases {eventId : String} (hacc : w'.hasAccepted eventId) :
    w.hasAccepted eventId ∨
      ∃ event, Holds past w i k event ∧ k.stage = .claimed event ∧ event.eventId = eventId := by
  obtain ⟨hlive, hperforms⟩ := performs hperform
  refine (hperforms.accepted_cases hacc).imp_right ?_
  rintro ⟨routingKey, payload, rfl, -⟩
  rcases hnext.of_publish with ⟨event, hstage, hmessage⟩ | ⟨event, reason, hstage, hmessage⟩
  · cases hmessage
    refine ⟨event, ⟨hlive, hk, ?_⟩, hstage, rfl⟩
    simp [Progress.events, hstage, Stage.event]
  · cases hmessage

theorem Settling.distinct_performed (j : Nat) (k' : Progress)
    (hk' : progressOf (past ++ [.performed w i c op w']) j = some k') :
    (k'.events.map OutboxEvent.id).Nodup := by
  rcases System.trace_performed_cases hperform hk hk' with ⟨rfl, rfl⟩ | ⟨-, hold⟩
  · rcases hnext.events_advance hperform with hsub | ⟨-, -, -, hselects, hbatch⟩
    · exact (h.distinct j k hk).sublist (hsub.map _)
    · rw [hbatch]
      refine hselects.distinct.map_on fun event hmem other hother hid => ?_
      exact List.inj_on_of_nodup_map h.numbered.ids (hselects.pending event hmem).1
        (hselects.pending other hother).1 hid
  · exact h.distinct j k' hold

/-- The event that a pass claims is not the one that failed. -/
theorem Settling.failed_not_accepted (hunique : (w.rows.map OutboxEvent.eventId).Nodup)
    (hrow : row ∈ w.rows) (hstatus : row.status = .failed) : ¬w'.hasAccepted row.eventId := by
  intro hacc
  obtain ⟨hbefore, hholders⟩ := h.failed row hrow hstatus
  rcases h.accepted_cases hk hnext hperform hacc with hold | ⟨event, hholds, hstage, heq⟩
  · exact hbefore hold
  · obtain ⟨row', hrow', his⟩ := h.row_of_holds hholds
    have hsame : row' = row := row_eq_of_eventId hunique hrow' hrow (his.eventId_eq.trans heq)
    have hburied := hholders i k event hholds (his.id_eq.symm.trans (congrArg _ hsame))
    rw [hstage] at hburied
    cases hburied

/-- The broker does not accept what a pass gives up. -/
theorem Settling.given_not_accepted {j : Nat} {k' : Progress}
    (hunique : (w.rows.map OutboxEvent.eventId).Nodup) (hholds : Holds past w j k' event)
    (hgiven : k'.givenUp = some event) : ¬w'.hasAccepted event.eventId := by
  intro hacc
  obtain ⟨hbefore, hothers⟩ := h.given j k' event hholds hgiven
  rcases h.accepted_cases hk hnext hperform hacc with hold | ⟨claimed, hclaimed, hstage, heq⟩
  · exact hbefore hold
  · obtain ⟨row, hrow, his⟩ := h.row_of_holds hclaimed
    obtain ⟨row', hrow', his'⟩ := h.row_of_holds hholds
    have hsame : row = row' := row_eq_of_eventId hunique hrow hrow'
      (his.eventId_eq.trans (heq.trans his'.eventId_eq.symm))
    have hid : claimed.id = event.id :=
      his.id_eq.symm.trans ((congrArg OutboxEvent.id hsame).trans his'.id_eq)
    obtain rfl := hothers i k claimed hclaimed hid
    obtain rfl : k' = k := Option.some.inj (hholds.progress.symm.trans hk)
    obtain rfl := h.eq_of_mem hk hclaimed.mem hholds.mem hid
    simp [Progress.givenUp, hstage] at hgiven

theorem Settling.given_performed (hunique : (w.rows.map OutboxEvent.eventId).Nodup)
    (hsafe : ¬Event.overrules past (.performed w i c op w')) (j : Nat) (k' : Progress)
    (event : OutboxEvent) (hholds : Holds (past ++ [.performed w i c op w']) w' j k' event)
    (hgiven : k'.givenUp = some event) : ¬w'.hasAccepted event.eventId ∧
      ∀ j' k'' other, Holds (past ++ [.performed w i c op w']) w' j' k'' other →
        other.id = event.id → j' = j := by
  obtain ⟨hlive, hperforms⟩ := performs hperform
  rcases System.trace_performed_cases hperform hk hholds.progress with ⟨rfl, rfl⟩ | ⟨hne, hk'⟩
  · -- the pass that gives up moves: it had given up, or its last attempt fails now
    have hothers (hbefore : ∀ j' k'' other, Holds past w j' k'' other → other.id = event.id → j' = j)
        (j' : Nat) (k'' : Progress) (other : OutboxEvent)
        (hother : Holds (past ++ [.performed w j c op w']) w' j' k'' other)
        (hid : other.id = event.id) : j' = j := by
      rcases holds_cases hk hnext hperform hother with ⟨rfl, -⟩ | ⟨-, hold⟩
      · rfl
      · exact hbefore j' k'' other hold hid
    rcases hnext.givenUp_advance hgiven with hgave | ⟨hattempt, hfailed, hlast⟩
    · have hheld : Holds past w j k event := ⟨hlive, hk, Progress.mem_of_givenUp hgave⟩
      exact ⟨h.given_not_accepted hk hnext hperform hunique hheld hgave,
        hothers (h.given j k event hheld hgave).2⟩
    · have hcrashes := not_crashes_of_live hperform hholds.live
      have hcause : c.fails.isSome = true ∧ w' = w := by
        cases hperforms with
        | crashed _ _ hc => exact absurd hcrashes (by simp [hc])
        | failed _ _ hfails => exact ⟨by rw [hfails]; rfl, rfl⟩
        | drew => cases hfailed
        | stored => cases hfailed
        | found => cases hfailed
        | updated => cases hfailed
        | published => cases hfailed
      obtain ⟨hfails, rfl⟩ := hcause
      have hfree : ¬(w'.hasAccepted event.eventId ∨
          Elsewhere past w' j event.id Progress.events) := by
        intro hbad
        refine hsafe ⟨hcrashes, .inl ⟨hfails, k, ?_, event, ?_, hlast, hbad⟩⟩
        · rw [hk]
          exact List.mem_singleton.2 rfl
        · rw [hattempt]
          exact List.mem_singleton.2 rfl
      refine ⟨fun hacc => hfree (.inl hacc), hothers fun j' k'' other hother hid => ?_⟩
      by_contra hne
      exact hfree (.inr (elsewhere_of_holds hother hne hother.mem hid))
  · -- another pass moves, which neither has the event nor may select it
    have hold : Holds past w j k' event := by
      rcases holds_cases hk hnext hperform hholds with ⟨heq, -⟩ | ⟨-, hold⟩
      · exact absurd heq hne
      · exact hold
    refine ⟨h.given_not_accepted hk hnext hperform hunique hold hgiven,
      fun j' k'' other hother hid => ?_⟩
    rcases holds_cases hk hnext hperform hother with
      ⟨rfl, rfl, hhad | ⟨hop, hcrashes, hfails, hselects, hbatch⟩⟩ | ⟨-, hhad⟩
    · exact (h.given j k' event hold hgiven).2 j' k other hhad hid
    · refine absurd ⟨hcrashes, .inr ⟨hfails, hop, other, hbatch, ?_⟩⟩ hsafe
      refine elsewhere_of_holds hold hne ?_ hid.symm
      rw [hgiven]
      exact List.mem_singleton.2 rfl
    · exact (h.given j k' event hold hgiven).2 j' k'' other hhad hid

/-- The event of a pass that writes the status `failed` has a row with it afterwards. -/
theorem Settling.row_written {columns : Columns} (hop : op = .update event.id columns)
    (hmem : event ∈ k.events) (hok : r.isOk = true) (hstatus : columns.status = .failed) :
    ∃ row ∈ w'.rows, row.Is event ∧ row.status = .failed := by
  obtain ⟨hlive, hperforms⟩ := performs hperform
  obtain ⟨row, hrow, his⟩ := h.row_of_holds ⟨hlive, hk, hmem⟩
  subst hop
  cases hperforms with
  | crashed => cases hok
  | failed => cases hok
  | updated =>
      exact ⟨columns.apply row, Table.mem_modify.mpr ⟨row, hrow, .inl ⟨his.id_eq, rfl⟩⟩,
        his.apply columns, hstatus⟩

theorem Settling.buried_performed (j : Nat) (k' : Progress) (event : OutboxEvent)
    (hholds : Holds (past ++ [.performed w i c op w']) w' j k' event)
    (hstage : k'.stage = .buried event) : ∃ row ∈ w'.rows, row.Is event ∧ row.status = .failed := by
  rcases holds_cases hk hnext hperform hholds with ⟨rfl, rfl, -⟩ | ⟨-, hold⟩
  · obtain ⟨hok, hreturned, message, hop⟩ := hnext.buried_advance hstage
    refine h.row_written hk hnext hperform hop ?_ hok rfl
    simp [Progress.events, hreturned, Stage.event]
  · obtain ⟨row, hrow, his, hstatus⟩ := h.buried j k' event hold hstage
    exact ⟨row, h.failed_stays hk hnext hperform hrow hstatus, his, hstatus⟩

theorem Settling.dead_performed (message : Message) (hmem : message ∈ w'.accepted)
    (eventId : String) (hburies : message.buries eventId) :
    ∃ row ∈ w'.rows, row.eventId = eventId ∧ row.status = .failed := by
  obtain ⟨hlive, hperforms⟩ := performs hperform
  have hcases : message ∈ w.accepted ∨ op = .publish message := by
    cases hperforms with
    | published message' =>
        rcases List.mem_append.mp hmem with hold | hnew
        · exact .inl hold
        · exact .inr (by rw [List.mem_singleton.mp hnew])
    | crashed => exact .inl hmem
    | failed => exact .inl hmem
    | drew => exact .inl hmem
    | stored => exact .inl hmem
    | found => exact .inl hmem
    | updated => exact .inl hmem
  rcases hcases with hold | rfl
  · obtain ⟨row, hrow, heq, hstatus⟩ := h.dead message hold eventId hburies
    exact ⟨row, h.failed_stays hk hnext hperform hrow hstatus, heq, hstatus⟩
  · rcases hnext.of_publish with ⟨event, -, rfl⟩ | ⟨event, reason, hstage, rfl⟩
    · exact hburies.elim
    · have hholds : Holds past w i k event :=
        ⟨hlive, hk, by simp [Progress.events, hstage, Stage.event]⟩
      obtain ⟨row, hrow, his, hstatus⟩ := h.buried i k event hholds hstage
      exact ⟨row, h.failed_stays hk hnext hperform hrow hstatus, his.eventId_eq.trans hburies, hstatus⟩

theorem Settling.written_performed (e : Event) (hmem : e ∈ past ++ [.performed w i c op w']) (id : Nat)
    (hburies : e.buries id) : ∃ row ∈ w'.rows, row.id = id ∧ row.status = .failed := by
  rcases List.mem_append.mp hmem with hold | hnew
  · obtain ⟨row, hrow, hid, hstatus⟩ := h.written e hold id hburies
    exact ⟨row, h.failed_stays hk hnext hperform hrow hstatus, hid, hstatus⟩
  · obtain rfl := List.mem_singleton.mp hnew
    cases op with
    | update id' columns =>
        obtain ⟨rfl, hstatus, hcrashes, hfails⟩ := hburies
        obtain ⟨event, hevent, rfl, -⟩ := hnext.of_update
        have hok : r.isOk = true := by
          cases (performs hperform).2 with
          | crashed _ _ hc => rw [hcrashes] at hc; cases hc
          | failed _ _ hf => rw [hfails] at hf; cases hf
          | updated => rfl
        obtain ⟨row, hrow, his, hfailed⟩ := h.row_written hk hnext hperform rfl hevent hok hstatus
        exact ⟨row, hrow, his.id_eq, hfailed⟩
    | uuid => cases hburies
    | insert => cases hburies
    | find => cases hburies
    | publish => cases hburies

/-- A row that has failed is known to the pass that buries it only. -/
theorem Settling.failed_performed (hunique : (w.rows.map OutboxEvent.eventId).Nodup)
    (row : OutboxEvent) (hrow : row ∈ w'.rows) (hstatus : row.status = .failed) :
    ¬w'.hasAccepted row.eventId ∧ ∀ j k' event,
      Holds (past ++ [.performed w i c op w']) w' j k' event → event.id = row.id →
        k'.stage = .buried event := by
  obtain ⟨hlive, hperforms⟩ := performs hperform
  rcases hperforms.row_cases hrow with hpending | ⟨hold, -⟩ | ⟨old, hold, columns, rfl, hok, rfl⟩
  · rw [hstatus] at hpending
    cases hpending
  · refine ⟨h.failed_not_accepted hk hnext hperform hunique hold hstatus,
      fun j k' event hholds hid => ?_⟩
    rcases holds_cases hk hnext hperform hholds with
      ⟨rfl, rfl, hhad | ⟨-, -, -, hselects, hbatch⟩⟩ | ⟨-, hhad⟩
    · have hburied := (h.failed row hold hstatus).2 j k event hhad hid
      have hrest : event ∈ k.rest := hnext.events_of_buried hburied r ▸ hholds.mem
      have hdistinct := h.distinct j k hk
      simp only [Progress.events, hburied, Stage.event, Option.toList_some, List.singleton_append,
        List.map_cons, List.nodup_cons] at hdistinct
      exact absurd (List.mem_map_of_mem hrest) hdistinct.1
    · obtain ⟨hbefore, hpending⟩ := hselects.pending event hbatch
      have hsame : event = row := List.inj_on_of_nodup_map h.numbered.ids hbefore hold hid
      rw [hsame, hstatus] at hpending
      cases hpending
    · exact (h.failed row hold hstatus).2 j k' event hhad hid
  · obtain ⟨event, hmem, hid, -, hreturned⟩ := hnext.of_update
    have hstage : k.stage = .returned event := hreturned hstatus
    have hgiven : k.givenUp = some event := by simp [Progress.givenUp, hstage]
    have hheld : Holds past w i k event := ⟨hlive, hk, hmem⟩
    obtain ⟨row', hrow', his⟩ := h.row_of_holds hheld
    have hsame : row' = old :=
      List.inj_on_of_nodup_map h.numbered.ids hrow' hold (his.id_eq.trans hid)
    refine ⟨?_, fun j k' other hholds hother => ?_⟩
    · have hold' : row'.eventId = old.eventId := congrArg OutboxEvent.eventId hsame
      have heventId : event.eventId = (columns.apply old).eventId :=
        his.eventId_eq.symm.trans hold'
      rw [← heventId]
      exact h.given_not_accepted hk hnext hperform hunique hheld hgiven
    · have hid' : other.id = event.id := hother.trans hid.symm
      rcases holds_cases hk hnext hperform hholds with
        ⟨rfl, rfl, hhad | ⟨hfind, -⟩⟩ | ⟨hne, hhad⟩
      · obtain rfl := h.eq_of_mem hk hhad.mem hmem hid'
        cases r with
        | error e => cases hok
        | ok _ =>
            have hcolumns : columns.status = .failed := hstatus
            simp only [advance, hcolumns, Progress.wrote, hstage]
      · cases hfind
      · exact absurd ((h.given i k event hheld hgiven).2 j k' other hhad hid') hne

theorem Settling.performed (hunique : (w.rows.map OutboxEvent.eventId).Nodup)
    (hsafe : ¬Event.overrules past (.performed w i c op w')) :
    Settling (past ++ [.performed w i c op w']) w' where
  numbered := (performs hperform).2.numbered h.numbered
  known := known_performed h.known hk hnext hperform
  distinct := h.distinct_performed hk hnext hperform
  given := h.given_performed hk hnext hperform hunique hsafe
  buried := h.buried_performed hk hnext hperform
  failed := h.failed_performed hk hnext hperform hunique
  dead := h.dead_performed hk hnext hperform
  written := h.written_performed hk hnext hperform

end Step

/-- A call that starts has nothing. -/
theorem holds_started {j : Nat} {request : Request}
    (hholds : Holds (past ++ [.started w i request]) w j k event) : Holds past w j k event := by
  rcases System.trace_started_cases hholds.progress with ⟨rfl, rfl⟩ | ⟨-, hold⟩
  · exact absurd (Progress.mem_events.1 hholds.mem) request.not_knows_progress
  · exact ⟨hholds.live, hold, hholds.mem⟩

theorem Settling.started (h : Settling past w) (request : Request) :
    Settling (past ++ [.started w i request]) w where
  numbered := h.numbered
  known j k event hk hknows := by
    rcases System.trace_started_cases hk with ⟨rfl, rfl⟩ | ⟨-, hold⟩
    · exact absurd hknows request.not_knows_progress
    · exact h.known j k event hold hknows
  distinct j k hk := by
    rcases System.trace_started_cases hk with ⟨rfl, rfl⟩ | ⟨-, hold⟩
    · cases request <;> exact List.nodup_nil
    · exact h.distinct j k hold
  given j k event hholds hgiven :=
    ⟨(h.given j k event (holds_started hholds) hgiven).1, fun j' k' other hother =>
      (h.given j k event (holds_started hholds) hgiven).2 j' k' other (holds_started hother)⟩
  buried j k event hholds := h.buried j k event (holds_started hholds)
  failed row hrow hstatus :=
    ⟨(h.failed row hrow hstatus).1, fun j k event hholds =>
      (h.failed row hrow hstatus).2 j k event (holds_started hholds)⟩
  dead := h.dead
  written e hmem id hburies := by
    rcases List.mem_append.mp hmem with hold | hnew
    · exact h.written e hold id hburies
    · obtain rfl := List.mem_singleton.mp hnew
      exact hburies.elim

theorem Settling.exclusive (h : Settling past w)
    (hunique : (w.rows.map OutboxEvent.eventId).Nodup) : Exclusive past w := by
  intro row hrow hacc
  constructor
  · intro e he hburies
    obtain ⟨row', hrow', hid, hstatus⟩ := h.written e he row.id hburies
    obtain rfl := List.inj_on_of_nodup_map h.numbered.ids hrow' hrow hid
    exact (h.failed row' hrow' hstatus).1 hacc
  · intro message hmem hburies
    obtain ⟨row', hrow', heq, hstatus⟩ := h.dead message hmem row.eventId hburies
    obtain rfl := row_eq_of_eventId hunique hrow' hrow heq
    exact (h.failed row' hrow' hstatus).1 hacc

/-! ## The identifiers of events -/

/-- The identifier that a call has drawn for an event which it has not stored. -/
def drawn : (op : Op) → Except Exception op.Ret → Option String → Option String
  | .uuid, .ok id, _ => some id
  | .insert _, .ok _, _ => none
  | _, _, id => id

def drawnBy (past : List Event) (i : Nat) : Option (Option String) :=
  service.trace (fun _ => none) drawn i past

/-- An event is stored under the identifier that was drawn for it. -/
def Names (op : Op) (id : Option String) : Prop := ∀ event, op = .insert event → id = event.eventId

/-- The call stores no event. -/
abbrev StoresNothing {α : Type} (c : Call α) : Prop :=
  c.Emits (fun op => ∀ event, op ≠ .insert event) (fun _ _ => True) () (fun _ _ => True) fun _ => True

theorem storesNothing_await {op : Op} (hop : ∀ event, op ≠ .insert event) :
    StoresNothing (Call.await op) := .await hop trivial fun _ _ => trivial

theorem storesNothing_bind {α β : Type} {c : Call α} {next : α → Call β} (hc : StoresNothing c)
    (hnext : ∀ a, StoresNothing (next a)) : StoresNothing (c >>= next) :=
  .seq hc fun a _ _ => hnext a

theorem publishEvent_storesNothing (event : OutboxEvent) : StoresNothing (publishEvent event) := by
  have hupdate (id : Nat) (columns : Columns) : StoresNothing (update id columns) :=
    storesNothing_await fun _ heq => by cases heq
  have hpublish (message : Message) : StoresNothing (publish message) :=
    storesNothing_await fun _ heq => by cases heq
  have hdead (error : Exception) : StoresNothing (moveToDeadLetterQueue event error) :=
    storesNothing_bind (hupdate _ _) fun _ => .tryCatch (hpublish _) fun _ _ _ => .pure trivial
  have hretry (error : Exception) : StoresNothing (do
      update event.id (retryColumns event error.message)
      Call.whenever (event.maxRetries ≤ event.retryCount + 1) (moveToDeadLetterQueue event error)) :=
    storesNothing_bind (hupdate _ _) fun _ => .whenever (fun _ => hdead error) fun _ => trivial
  have hbody : StoresNothing (do
      update event.id { status := .processing }
      publish (.event event.eventType event.payload event.eventId)
      update event.id { status := .published }) :=
    storesNothing_bind (hupdate _ _) fun _ => storesNothing_bind (hpublish _) fun _ => hupdate _ _
  exact .tryCatch hbody fun error _ _ => hretry error

theorem publishPendingEvents_storesNothing : StoresNothing publishPendingEvents := by
  have hbody : StoresNothing (do
      let pendingEvents : List OutboxEvent ← Call.await Op.find
      pendingEvents.forM publishEvent) :=
    storesNothing_bind (storesNothing_await fun _ heq => by cases heq) fun batch =>
      .forM (fun event _ _ => publishEvent_storesNothing event) batch trivial
  exact .tryCatch hbody fun _ _ _ => .pure trivial

theorem request_names (request : Request) :
    (service.program request).wp (tracked Names (fun _ _ => True) drawn) (fun _ _ => True) none := by
  suffices h : request.call.Ensures (tracked Names (fun _ _ => True) drawn) () none
      (fun _ _ _ => True) fun _ _ => True from h.program
  cases request with
  | storeEvent aggregateType aggregateId eventType payload =>
      refine .bind (.bind ⟨(fun _ heq => by cases heq), fun r _ => ?_⟩)
      cases r with
      | error e => trivial
      | ok id =>
          refine ⟨(fun event heq => by cases heq; rfl), fun r _ => ?_⟩
          cases r with
          | error e => trivial
          | ok event => trivial
  | publishPendingEvents =>
      have hpass : publishPendingEvents.Ensures (tracked Names (fun _ _ => True) drawn) () none
          (fun _ _ _ => True ∧ True) fun _ _ => True ∧ True := by
        refine publishPendingEvents_storesNothing.frame (fun op s Q hop _ hQ => ?_) trivial
        exact ⟨fun event heq => absurd heq (hop event), fun r _ => hQ r _ trivial trivial⟩
      exact .bind (hpass.mono (fun _ _ _ _ => .pure trivial) fun _ _ _ => trivial)

/-- The identifiers of the stored events are those that were drawn and stored, each of them once. -/
structure Identified (past : List Event) (w : World) : Prop where
  unique : (w.rows.map OutboxEvent.eventId).Nodup
  issued : ∀ row ∈ w.rows, row.eventId ∈ w.issued
  drawn : ∀ i id, drawnBy past i = some (some id) →
    id ∈ w.issued ∧ ∀ row ∈ w.rows, row.eventId ≠ id
  apart : ∀ i j id, drawnBy past i = some (some id) → drawnBy past j = some (some id) → i = j

theorem identified_init : Identified [] World.init where
  unique := List.nodup_nil
  issued _ hrow := absurd hrow List.not_mem_nil
  drawn _ _ hdrawn := by cases hdrawn
  apart _ _ _ hdrawn := by cases hdrawn

theorem Identified.started (h : Identified past w) (request : Request) :
    Identified (past ++ [.started w i request]) w := by
  have hold {j : Nat} {id : String}
      (hdrawn : drawnBy (past ++ [.started w i request]) j = some (some id)) :
      drawnBy past j = some (some id) := by
    rcases System.trace_started_cases hdrawn with ⟨-, hnone⟩ | ⟨-, hold⟩
    · cases hnone
    · exact hold
  exact ⟨h.unique, h.issued, fun j id hdrawn => h.drawn j id (hold hdrawn),
    fun j j' id hdrawn hdrawn' => h.apart j j' id (hold hdrawn) (hold hdrawn')⟩

/-- A step that draws no identifier and stores no event. -/
theorem Identified.kept {e : Event} (h : Identified past w)
    (hids : w'.rows.map OutboxEvent.eventId = w.rows.map OutboxEvent.eventId)
    (hissued : w'.issued = w.issued)
    (hdrawn : ∀ j id, drawnBy (past ++ [e]) j = some (some id) → drawnBy past j = some (some id)) :
    Identified (past ++ [e]) w' where
  unique := hids ▸ h.unique
  issued row hrow := by
    have hmem : row.eventId ∈ w.rows.map OutboxEvent.eventId := hids ▸ List.mem_map_of_mem hrow
    obtain ⟨old, hold, heq⟩ := List.mem_map.mp hmem
    rw [hissued, ← heq]
    exact h.issued old hold
  drawn j id hd := by
    obtain ⟨hmem, hfree⟩ := h.drawn j id (hdrawn j id hd)
    refine ⟨hissued ▸ hmem, fun row hrow heq => ?_⟩
    have hmem' : row.eventId ∈ w.rows.map OutboxEvent.eventId := hids ▸ List.mem_map_of_mem hrow
    obtain ⟨old, hold, heq'⟩ := List.mem_map.mp hmem'
    exact hfree old hold (heq'.trans heq)
  apart j j' id hd hd' := h.apart j j' id (hdrawn j id hd) (hdrawn j' id hd')

theorem Identified.performed {id : Option String} (h : Identified past w)
    (hid : drawnBy past i = some id) (hnames : Names op id)
    (hperform : performWith i c op w = some (r, w')) :
    Identified (past ++ [.performed w i c op w']) w' := by
  obtain ⟨-, hperforms⟩ := performs hperform
  have hkeeps (hsame : Outbox.drawn op r id = id) (j : Nat) (id' : String)
      (hd : drawnBy (past ++ [.performed w i c op w']) j = some (some id')) :
      drawnBy past j = some (some id') := by
    rcases System.trace_performed_cases hperform hid hd with ⟨rfl, heq⟩ | ⟨-, hold⟩
    · rw [hid, ← hsame, ← heq]
    · exact hold
  have herror (e : Exception) : Outbox.drawn op (.error e) id = id := by
    cases op <;> rfl
  cases hperforms with
  | crashed _ e => exact h.kept rfl rfl (hkeeps (herror e))
  | failed _ e => exact h.kept rfl rfl (hkeeps (herror e))
  | found => exact h.kept rfl rfl (hkeeps rfl)
  | updated id' columns => exact h.kept (Table.map_modify fun _ => rfl) rfl (hkeeps rfl)
  | published => exact h.kept rfl rfl (hkeeps rfl)
  | drew new hfresh =>
      have hcases {j : Nat} {id' : String}
          (hd : drawnBy (past ++ [.performed w i c .uuid { w with issued := new :: w.issued }]) j =
            some (some id')) : (j = i ∧ id' = new) ∨ (j ≠ i ∧ drawnBy past j = some (some id')) := by
        rcases System.trace_performed_cases hperform hid hd with ⟨rfl, heq⟩ | ⟨hne, hold⟩
        · exact .inl ⟨rfl, Option.some.inj heq⟩
        · exact .inr ⟨hne, hold⟩
      refine ⟨h.unique, fun row hrow => List.mem_cons_of_mem _ (h.issued row hrow),
        fun j id' hd => ?_, fun j j' id' hd hd' => ?_⟩
      · rcases hcases hd with ⟨-, rfl⟩ | ⟨-, hold⟩
        · exact ⟨List.mem_cons_self, fun row hrow heq => hfresh (heq ▸ h.issued row hrow)⟩
        · exact ⟨List.mem_cons_of_mem _ (h.drawn j id' hold).1, (h.drawn j id' hold).2⟩
      · rcases hcases hd with ⟨rfl, rfl⟩ | ⟨-, hold⟩ <;> rcases hcases hd' with ⟨rfl, heq⟩ | ⟨-, hold'⟩
        · rfl
        · exact absurd (h.drawn j' id' hold').1 hfresh
        · exact absurd (heq ▸ (h.drawn j id' hold).1) hfresh
        · exact h.apart j j' id' hold hold'
  | stored event =>
      have hmine : drawnBy past i = some (some event.eventId) := by rw [hid, hnames event rfl]
      obtain ⟨hmem, hfree⟩ := h.drawn i event.eventId hmine
      have hcases {j : Nat} {id' : String} (hd : drawnBy (past ++ [.performed w i c (.insert event)
            { w with nextId := w.nextId + 1, rows := w.rows ++ [event.row w.nextId c.createdAt] }]) j =
            some (some id')) : j ≠ i ∧ drawnBy past j = some (some id') := by
        rcases System.trace_performed_cases hperform hid hd with ⟨-, heq⟩ | hold
        · cases heq
        · exact hold
      refine ⟨Table.nodup_insert h.unique (Table.find_eq_none.mpr hfree), fun row hrow => ?_,
        fun j id' hd => ⟨(h.drawn j id' (hcases hd).2).1, fun row hrow heq => ?_⟩,
        fun j j' id' hd hd' => h.apart j j' id' (hcases hd).2 (hcases hd').2⟩
      · rcases List.mem_append.mp hrow with hold | hnew
        · exact h.issued row hold
        · rw [List.mem_singleton.mp hnew]
          exact hmem
      · rcases List.mem_append.mp hrow with hold | hnew
        · exact (h.drawn j id' (hcases hd).2).2 row hold heq
        · rw [List.mem_singleton.mp hnew] at heq
          have hsame : event.eventId = id' := heq
          exact (hcases hd).1 (h.apart j i id' (hcases hd).2 (hsame ▸ hmine))

/-- In every run each event has an identifier of its own. -/
theorem eventIds_unique {ms : List (Move Request Choice)} {es : List Event} {P : ServicePool}
    (hrun : service.run ms (.init World.init) = some (es, P)) :
    (P.state.rows.map OutboxEvent.eventId).Nodup := by
  have htracks : service.Tracks Identified (fun _ => none) (fun _ => Names) (fun _ _ _ => True) drawn
      (fun _ _ _ => True) ([] ++ es) P ∧ ∀ e ∈ es, True := by
    refine System.run_tracked ?_ ?_ hrun (fun _ _ => trivial) (System.tracks_init identified_init)
    · intro past w i request _ h _
      exact ⟨request_names request, h.started request, trivial⟩
    · intro past w i c op r w' id hid hnames h hperform _
      exact ⟨trivial, h.performed hid hnames hperform, trivial⟩
  exact htracks.1.inv.unique

/-! ## Delivered or dead-lettered, not both -/

/-- Events are only added, and so their identifiers were unique before a step. -/
theorem Performs.unique_before (h : Performs i c w op r w')
    (hunique : (w'.rows.map OutboxEvent.eventId).Nodup) :
    (w.rows.map OutboxEvent.eventId).Nodup := by
  cases h with
  | stored event =>
      rw [List.map_append] at hunique
      exact (List.nodup_append.1 hunique).1
  | updated id columns =>
      have hsame : (w.updated id columns).map OutboxEvent.eventId = w.rows.map OutboxEvent.eventId :=
        Table.map_modify fun _ => rfl
      exact hsame ▸ hunique
  | crashed => exact hunique
  | failed => exact hunique
  | drew => exact hunique
  | found => exact hunique
  | published => exact hunique

/-- Where no pass gives up an event that the broker has accepted or that another pass has, an event
that the broker has ever accepted never fails, and is not among the dead letters. -/
theorem delivered_or_dead_lettered {ms : List (Move Request Choice)} {es : List Event}
    {P : ServicePool} (hrun : service.run ms (.init World.init) = some (es, P))
    (hsafe : System.Throughout (fun past e => ¬Event.overrules past e) [] es) :
    Exclusive es P.state := by
  have htracks : service.Tracks
      (fun past w => (w.rows.map OutboxEvent.eventId).Nodup → Settling past w) Request.progress
      (fun _ op k => Next k op) (fun _ _ _ => True) advance (fun _ _ k => ∀ event, ¬k.Knows event)
      ([] ++ es) P ∧ ∀ e ∈ es, True := by
    refine System.run_tracked_throughout ?_ ?_ hrun hsafe
      (System.tracks_init fun _ => settling_init)
    · intro past w i request _ h _
      exact ⟨request_follows request, fun hunique => (h hunique).started request, trivial⟩
    · intro past w i c op r w' k hk hnext h hperform hallows
      refine ⟨trivial, fun hunique => ?_, trivial⟩
      have hbefore := (performs hperform).2.unique_before hunique
      exact (h hbefore).performed hk hnext hperform hbefore hallows
  exact (htracks.1.inv (eventIds_unique hrun)).exclusive (eventIds_unique hrun)

/-- The broker refuses an event once and takes it in the next pass. -/
def refusedOnce : List (Move Request Choice) :=
  let event : OutboxEvent :=
    (⟨"e1", "Booking", "b1", "flight.reserve-seats", "p1"⟩ : NewEvent).row 1 1
  storedAndPublished [succeeds, failsWith "ECONNREFUSED", succeeds] ++
    [.start .publishPendingEvents,
      .run 2 { succeeds with
        batch := [{ event with retryCount := 1, lastError := some "ECONNREFUSED" }] },
      .run 2 succeeds, .run 2 succeeds, .run 2 succeeds]

theorem delivered_or_dead_lettered_retried :
    ∃ es P, service.run refusedOnce (.init World.init) = some (es, P) ∧ Exclusive es P.state := by
  have hany : (service.run refusedOnce (.init World.init)).any (fun result =>
      decide (System.Throughout (fun past e => ¬Event.overrules past e) [] result.1)) = true := by
    decide +kernel
  obtain ⟨es, P, hrun, hsafe⟩ := System.exists_run hany
  exact ⟨es, P, hrun, delivered_or_dead_lettered hrun (of_decide_eq_true hsafe)⟩

/-- The broker takes an event in each of three passes, and the write that follows fails in each. -/
def unmarked : List (Move Request Choice) :=
  let event : OutboxEvent :=
    (⟨"e1", "Booking", "b1", "flight.reserve-seats", "p1"⟩ : NewEvent).row 1 1
  let pass (call retryCount : Nat) : List (Move Request Choice) :=
    [.start .publishPendingEvents,
      .run call { succeeds with
        batch := [{ event with retryCount, lastError := some "connection terminated" }] },
      .run call succeeds, .run call succeeds, .run call (failsWith "connection terminated"),
      .run call succeeds]
  storedAndPublished [succeeds, succeeds, failsWith "connection terminated", succeeds] ++
    pass 2 1 ++ pass 3 2 ++ [.run 3 succeeds, .run 3 succeeds]

theorem delivered_and_dead_lettered :
    ∃ es P, service.run unmarked (.init World.init) = some (es, P) ∧ ¬Exclusive es P.state := by
  have hany : (service.run unmarked (.init World.init)).any (fun result =>
      !decide (Exclusive result.1 result.2.state)) = true := by
    decide +kernel
  obtain ⟨es, P, hrun, hbad⟩ := System.exists_run hany
  exact ⟨es, P, hrun, by simpa using hbad⟩

end FlightBookings.Outbox
