import FlightBookings.Await.Logic
import FlightBookings.Outbox.Service

/-! # Where a pass over the outbox stands

A pass knows the events that it still has to publish, and how far it is with the
one that it publishes. That decides which operation it awaits next.
-/

namespace FlightBookings.Outbox

open Await

/-- The point of `publishEvent` that a pass has reached, with the event as the pass has found it:
its row is marked as processing, its message is accepted, the error path has begun, its row is
pending again, its row has failed. A call of `storeEvent` has nothing to do with this. -/
inductive Stage where
  | storing
  | idle
  | claimed (event : OutboxEvent)
  | sent (event : OutboxEvent)
  | failing (event : OutboxEvent)
  | returned (event : OutboxEvent)
  | buried (event : OutboxEvent)

/-- The events that a pass has not begun to publish, and its stage. -/
structure Progress where
  rest : List OutboxEvent
  stage : Stage

/-- A pass that has nothing to publish. -/
def Progress.empty : Progress := ⟨[], .idle⟩

def Request.progress : Request → Progress
  | .storeEvent _ _ _ _ => ⟨[], .storing⟩
  | .publishPendingEvents => .empty

def Stage.event : Stage → Option OutboxEvent
  | .storing => none
  | .idle => none
  | .claimed event => some event
  | .sent event => some event
  | .failing event => some event
  | .returned event => some event
  | .buried event => some event

/-- A call knows an event that it selected and is not through with. -/
def Progress.Knows (k : Progress) (event : OutboxEvent) : Prop :=
  event ∈ k.rest ∨ k.stage.event = some event

/-- The error path of an event. -/
def Progress.fail (k : Progress) : Progress :=
  match k.stage with
  | .claimed event => { k with stage := .failing event }
  | .sent event => { k with stage := .failing event }
  | _ => k

/-- The columns that the error path sets. -/
def retryColumns (event : OutboxEvent) (message : String) : Columns :=
  { status := .pending, retryCount := some (event.retryCount + 1), lastError := some message }

def Progress.begin (marked : Bool) : Progress → Progress
  | ⟨event :: rest, _⟩ => ⟨rest, if marked then .claimed event else .failing event⟩
  | k => k

/-- A pass after the status of its event was written. -/
def Progress.wrote (k : Progress) : OutboxEventStatus → Progress
  | .processing => k.begin true
  | .published => { k with stage := .idle }
  | .pending =>
      match k.stage with
      | .failing event =>
          if event.maxRetries ≤ event.retryCount + 1 then { k with stage := .returned event }
          else { k with stage := .idle }
      | _ => k
  | .failed =>
      match k.stage with
      | .returned event => { k with stage := .buried event }
      | _ => k

/-- A pass after the status of its event could not be written: the error path throws. -/
def Progress.missed (k : Progress) : OutboxEventStatus → Progress
  | .processing => k.begin false
  | .published => k.fail
  | .pending => .empty
  | .failed => .empty

def advance : (op : Op) → Except Exception op.Ret → Progress → Progress
  | .find, .ok batch, _ => ⟨batch, .idle⟩
  | .update _ columns, .ok _, k => k.wrote columns.status
  | .update _ columns, .error _, k => k.missed columns.status
  | .publish (.event _ _ _), .ok _, k =>
      match k.stage with
      | .claimed event => { k with stage := .sent event }
      | _ => k
  | .publish (.event _ _ _), .error _, k => k.fail
  | .publish (.deadLetter _ _ _ _ _), _, k => { k with stage := .idle }
  | _, _, k => k

/-- What a call may do where it stands. -/
inductive Next : Progress → Op → Prop where
  | uuid : Next ⟨[], .storing⟩ .uuid
  | insert (event : NewEvent) : Next ⟨[], .storing⟩ (.insert event)
  | find : Next .empty .find
  | claim {event : OutboxEvent} {rest : List OutboxEvent} :
      Next ⟨event :: rest, .idle⟩ (.update event.id { status := .processing })
  | publish {event : OutboxEvent} {rest : List OutboxEvent} :
      Next ⟨rest, .claimed event⟩
        (.publish (.event event.eventType event.payload event.eventId))
  | mark {event : OutboxEvent} {rest : List OutboxEvent} :
      Next ⟨rest, .sent event⟩ (.update event.id { status := .published })
  | retry {event : OutboxEvent} {rest : List OutboxEvent} (message : String) :
      Next ⟨rest, .failing event⟩ (.update event.id (retryColumns event message))
  | bury {event : OutboxEvent} {rest : List OutboxEvent} (message : String)
      (hlimit : event.maxRetries ≤ event.retryCount + 1) :
      Next ⟨rest, .returned event⟩
        (.update event.id { status := .failed, lastError := some message })
  | deadLetter {event : OutboxEvent} {rest : List OutboxEvent} (message : String) :
      Next ⟨rest, .buried event⟩
        (.publish (.deadLetter event.eventType event.payload event.eventId message
          event.retryCount))

/-! ## The requests follow it -/

abbrev Follows {α : Type} (c : Call α) (k : Progress) (Q : α → Unit → Progress → Prop)
    (E : Unit → Progress → Prop) : Prop :=
  c.Ensures (tracked (fun op k => Next k op) (fun _ _ => True) advance) () k Q E

variable {event : OutboxEvent} {rest : List OutboxEvent} {k : Progress} {α : Type}

theorem await_follows {op : Op} {Q : op.Ret → Unit → Progress → Prop} {E : Unit → Progress → Prop}
    (hnext : Next k op) (hok : ∀ a, Q a () (advance op (.ok a) k))
    (herror : ∀ e, E () (advance op (.error e) k)) : Follows (Call.await op) k Q E := by
  refine ⟨hnext, fun r _ => ?_⟩
  cases r with
  | ok a => exact hok a
  | error e => exact herror e

/-- The error path ends with the next event, or it throws. -/
theorem retry_follows (error : Exception) :
    Follows (do
      update event.id (retryColumns event error.message)
      Call.whenever (event.maxRetries ≤ event.retryCount + 1) (moveToDeadLetterQueue event error))
      ⟨rest, .failing event⟩ (fun _ _ k => k = ⟨rest, .idle⟩) fun _ k => k = .empty := by
  refine .bind (await_follows (.retry error.message) (fun _ => ?_) fun _ => rfl)
  refine .whenever (fun hlimit => ?_) fun hlimit => ?_
  · have hreturned : advance (.update event.id (retryColumns event error.message)) (.ok ())
        ⟨rest, .failing event⟩ = ⟨rest, .returned event⟩ := if_pos hlimit
    rw [hreturned]
    refine .bind (await_follows (.bury _ hlimit) (fun _ => ?_) fun _ => rfl)
    have hdead : Follows (publish (.deadLetter event.eventType event.payload event.eventId
        error.message event.retryCount)) ⟨rest, .buried event⟩ (fun _ _ k => k = ⟨rest, .idle⟩)
        fun _ k => k = ⟨rest, .idle⟩ :=
      await_follows (.deadLetter _) (fun _ => rfl) fun _ => rfl
    exact .tryCatch hdead fun _ _ _ hk => .pure hk
  · exact if_neg hlimit

theorem publishEvent_follows :
    Follows (publishEvent event) ⟨event :: rest, .idle⟩ (fun _ _ k => k = ⟨rest, .idle⟩)
      fun _ k => k = .empty := by
  have hbody : Follows (do
      update event.id { status := .processing }
      publish (.event event.eventType event.payload event.eventId)
      update event.id { status := .published }) ⟨event :: rest, .idle⟩
      (fun _ _ k => k = ⟨rest, .idle⟩) fun _ k => k = ⟨rest, .failing event⟩ := by
    refine .bind (await_follows .claim (fun _ => ?_) fun _ => rfl)
    refine .bind (await_follows .publish (fun _ => ?_) fun _ => rfl)
    exact await_follows .mark (fun _ => rfl) fun _ => rfl
  refine .tryCatch hbody fun error _ k hk => ?_
  subst hk
  exact retry_follows error

theorem publishPendingEvents_follows :
    Follows publishPendingEvents .empty (fun _ _ k => k = .empty) fun _ _ => False := by
  have hbody : Follows (do
      let pendingEvents : List OutboxEvent ← Call.await Op.find
      pendingEvents.forM publishEvent) .empty (fun _ _ k => k = .empty)
      fun _ k => k = .empty := by
    refine .bind (await_follows .find (fun batch => ?_) fun _ => rfl)
    refine .mono (.forM (fun rest _ k => k = ⟨rest, .idle⟩) (fun event rest _ k hk => ?_) batch rfl)
      (fun _ _ _ hk => hk) fun _ _ hk => hk
    subst hk
    exact publishEvent_follows
  exact .tryCatch hbody fun _ _ _ hk => .pure hk

theorem Progress.not_knows_empty : ¬Progress.empty.Knows event := by
  intro h
  rcases h with hrest | hstage
  · cases hrest
  · cases hstage

theorem Request.not_knows_progress (request : Request) : ¬request.progress.Knows event := by
  cases request with
  | storeEvent =>
      intro h
      rcases h with hrest | hstage
      · cases hrest
      · cases hstage
  | publishPendingEvents => exact Progress.not_knows_empty

/-- A request is through with all its events when it ends. -/
theorem request_follows (request : Request) :
    (service.program request).wp (tracked (fun op k => Next k op) (fun _ _ => True) advance)
      (fun _ k => ∀ event, ¬k.Knows event) request.progress := by
  suffices h : Follows request.call request.progress (fun _ _ k => ∀ event, ¬k.Knows event)
      fun _ k => ∀ event, ¬k.Knows event from h.program
  cases request with
  | storeEvent aggregateType aggregateId eventType payload =>
      have hnone : ∀ event, ¬(Progress.mk [] .storing).Knows event := fun event =>
        Request.not_knows_progress (.storeEvent aggregateType aggregateId eventType payload)
      refine .bind (.bind (await_follows .uuid (fun eventId => ?_) fun _ => hnone))
      exact await_follows (.insert _) (fun _ => .pure hnone) fun _ => hnone
  | publishPendingEvents =>
      refine .andThen publishPendingEvents_follows (fun _ _ h => h.elim) fun _ _ k hk => .pure ?_
      subst hk
      exact fun _ => Progress.not_knows_empty

/-! ## What one operation does -/

/-- An operation of call `i`, with its reply and the world that it leaves. -/
inductive Performs (i : Nat) (c : Choice) (w : World) :
    (op : Op) → Except Exception op.Ret → World → Prop where
  | crashed (op : Op) (e : Exception) (hcrashes : c.crashes = true) :
      Performs i c w op (.error e) { w with crashed := i :: w.crashed }
  | failed (op : Op) (e : Exception) (hfails : c.fails = some e) : Performs i c w op (.error e) w
  | drew (id : String) (hfresh : id ∉ w.issued) :
      Performs i c w .uuid (.ok id) { w with issued := id :: w.issued }
  | stored (event : NewEvent) (hfails : c.fails = none) :
      Performs i c w (.insert event) (.ok (event.row w.nextId c.createdAt))
        { w with nextId := w.nextId + 1, rows := w.rows ++ [event.row w.nextId c.createdAt] }
  | found (batch : List OutboxEvent) (hselects : Selects w.rows batch) (hfails : c.fails = none) :
      Performs i c w .find (.ok batch) w
  | updated (id : Nat) (columns : Columns) (hfails : c.fails = none) :
      Performs i c w (.update id columns) (.ok ()) { w with rows := w.updated id columns }
  | published (message : Message) (hfails : c.fails = none) :
      Performs i c w (.publish message) (.ok ()) { w with accepted := w.accepted ++ [message] }

theorem performs_of_perform {i : Nat} {c : Choice} {op : Op} {w w' : World} {a : op.Ret}
    (hfails : op.fallible = true → c.fails = none) (h : op.perform c w = some (a, w')) :
    Performs i c w op (.ok a) w' := by
  cases op with
  | uuid =>
      simp only [Op.perform] at h
      split at h
      · cases h
      · rename_i hfresh
        cases h
        exact .drew _ hfresh
  | insert event =>
      cases h
      exact .stored event (hfails rfl)
  | find =>
      simp only [Op.perform] at h
      split at h
      · rename_i hselects
        cases h
        exact .found _ hselects (hfails rfl)
      · cases h
  | update id columns =>
      cases h
      exact .updated id columns (hfails rfl)
  | publish message =>
      cases h
      exact .published message (hfails rfl)

theorem performs {i : Nat} {c : Choice} {op : Op} {w w' : World} {r : Except Exception op.Ret}
    (h : performWith i c op w = some (r, w')) : i ∉ w.crashed ∧ Performs i c w op r w' := by
  have hok : (op.fallible = true → c.fails = none) →
      (op.perform c w).map (fun r => ((.ok r.1 : Except Exception op.Ret), r.2)) = some (r, w') →
      Performs i c w op r w' := by
    intro hfails hmap
    obtain ⟨⟨a, w''⟩, hperform, heq⟩ := Option.map_eq_some_iff.mp hmap
    cases heq
    exact performs_of_perform hfails hperform
  unfold performWith at h
  split at h
  · cases h
  · rename_i hlive
    refine ⟨hlive, ?_⟩
    split at h
    · rename_i hcrashes
      cases h
      exact .crashed op _ hcrashes
    · split at h
      · rename_i e hfails
        split at h
        · cases h
          exact .failed op e hfails
        · rename_i hfallible
          exact hok (fun h => absurd h hfallible) h
      · rename_i hfails
        exact hok (fun _ => hfails) h

end FlightBookings.Outbox
