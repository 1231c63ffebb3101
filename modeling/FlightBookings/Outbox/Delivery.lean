import FlightBookings.Outbox.Protocol

/-! # No event of the outbox is lost

Only pending events are selected, and a pass takes an event out of them before
it publishes it. The invariant names the call that has to bring it back: every
row that is being processed without being accepted belongs to a live call.
-/

namespace FlightBookings.Outbox

open Await

/-- The broker has accepted the message of an event. -/
def World.hasAccepted (w : World) (eventId : String) : Prop :=
  ∃ routingKey payload, .event routingKey payload eventId ∈ w.accepted

instance (w : World) (eventId : String) : Decidable (w.hasAccepted eventId) :=
  decidable_of_iff (w.accepted.any fun
      | .event _ _ eventId' => eventId' = eventId
      | .deadLetter _ _ _ _ _ => false) <| by
    rw [List.any_eq_true]
    constructor
    · intro ⟨message, hmem, heq⟩
      cases message with
      | event routingKey payload eventId' =>
          rw [decide_eq_true_eq] at heq
          exact ⟨routingKey, payload, heq ▸ hmem⟩
      | deadLetter => cases heq
    · intro ⟨routingKey, payload, hmem⟩
      exact ⟨_, hmem, decide_eq_true rfl⟩

/-- The operation belongs to a publication of this event. -/
def Op.publishes : Op → OutboxEvent → Prop
  | .update id _, event => id = event.id
  | .publish (.event _ _ eventId), event => eventId = event.eventId
  | .publish (.deadLetter _ _ eventId _ _), event => eventId = event.eventId
  | _, _ => False

/-- The operation is what ends the processing of this event: its message, or the write of the
status that follows. -/
def Op.settles : Op → OutboxEvent → Prop
  | .update id columns, event =>
      id = event.id ∧ (columns.status = .published ∨ columns.status = .pending)
  | .publish (.event _ _ eventId), event => eventId = event.eventId
  | _, _ => False

instance (op : Op) (event : OutboxEvent) : Decidable (op.settles event) :=
  match op with
  | .update _ _ => inferInstanceAs (Decidable (_ ∧ _))
  | .publish (.event _ _ _) => inferInstanceAs (Decidable (_ = _))
  | .publish (.deadLetter _ _ _ _ _) => inferInstanceAs (Decidable False)
  | .uuid => inferInstanceAs (Decidable False)
  | .insert _ => inferInstanceAs (Decidable False)
  | .find => inferInstanceAs (Decidable False)

/-- The operation makes an event pending again. -/
def Op.returns : Op → Bool
  | .update _ columns => columns.status = .pending
  | _ => false

/-- The worker dies in front of an operation that ends the processing of an event which the broker
has not accepted, or the write that would make such an event pending again fails. -/
def Event.strands : Event → Prop
  | .started _ _ _ => False
  | .performed w _ c op _ =>
      (c.crashes = true ∨ c.fails.isSome = true ∧ op.returns = true) ∧
        ∃ row ∈ w.rows, op.settles row ∧ row.status = .processing ∧ ¬w.hasAccepted row.eventId

instance (e : Event) : Decidable e.strands :=
  match e with
  | .started _ _ _ => inferInstanceAs (Decidable False)
  | .performed _ _ _ _ _ => inferInstanceAs (Decidable (_ ∧ _))

/-- A call whose worker lives awaits an operation of a publication of the event. -/
def WorkedOn (P : ServicePool) (event : OutboxEvent) : Prop :=
  ∃ i op next, i ∉ P.state.crashed ∧ P.calls[i]? = some (.await op next) ∧ op.publishes event

/-! ## What a call knows -/

/-- How far call `i` is. -/
def progressOf (past : List Event) (i : Nat) : Option Progress :=
  service.trace Request.progress advance i past

/-- The event that a call processes. -/
def Progress.holds (k : Progress) : Option OutboxEvent :=
  match k.stage with
  | .claimed event => some event
  | .sent event => some event
  | .failing event => some event
  | _ => none

/-- The row is the event, up to the columns that change. -/
def OutboxEvent.Is (row event : OutboxEvent) : Prop :=
  row = { event with toOutboxState := row.toOutboxState }

variable {k : Progress} {op : Op} {event row : OutboxEvent} {c : Choice} {w w' : World}

theorem OutboxEvent.Is.apply (h : row.Is event) (columns : Columns) :
    (columns.apply row).Is event := by
  unfold OutboxEvent.Is at h
  rw [h]
  rfl

theorem OutboxEvent.Is.trans {other : OutboxEvent} (h : row.Is event) (h' : event.Is other) :
    row.Is other := by
  unfold OutboxEvent.Is at h h'
  rw [h, h']
  rfl

theorem OutboxEvent.Is.of_row {other : OutboxEvent} (h : row.Is event) (h' : row.Is other) :
    event.Is other := by
  unfold OutboxEvent.Is at h h'
  rw [h] at h'
  cases event
  cases other
  cases h'
  rfl

theorem OutboxEvent.Is.id_eq (h : row.Is event) : row.id = event.id := by
  rw [h]

theorem OutboxEvent.Is.eventId_eq (h : row.Is event) : row.eventId = event.eventId := by
  rw [h]

theorem OutboxEvent.Is.aggregateId_eq (h : row.Is event) : row.aggregateId = event.aggregateId := by
  rw [h]

theorem OutboxEvent.Is.createdAt_eq (h : row.Is event) : row.createdAt = event.createdAt := by
  rw [h]

theorem Stage.event_of_holds (h : k.holds = some event) : k.stage.event = some event := by
  obtain ⟨rest, stage⟩ := k
  cases stage with
  | claimed => exact h
  | sent => exact h
  | failing => exact h
  | storing => cases h
  | idle => cases h
  | returned => cases h
  | buried => cases h

/-- Where a call stands that holds an event. -/
theorem Next.of_holds (h : Next k op) (hk : k.holds = some event) :
    (k.stage = .claimed event ∧
        op = .publish (.event event.eventType event.payload event.eventId)) ∨
      (k.stage = .sent event ∧ op = .update event.id { status := .published }) ∨
      ∃ message, k.stage = .failing event ∧ op = .update event.id (retryColumns event message) := by
  cases h with
  | publish =>
      cases hk
      exact .inl ⟨rfl, rfl⟩
  | mark =>
      cases hk
      exact .inr (.inl ⟨rfl, rfl⟩)
  | retry message =>
      cases hk
      exact .inr (.inr ⟨message, rfl, rfl⟩)
  | uuid => cases hk
  | insert => cases hk
  | find => cases hk
  | claim => cases hk
  | bury => cases hk
  | deadLetter => cases hk

theorem Next.settles (h : Next k op) (hk : k.holds = some event) (hrow : row.Is event) :
    op.settles row := by
  rcases h.of_holds hk with ⟨-, rfl⟩ | ⟨-, rfl⟩ | ⟨_, -, rfl⟩
  · exact hrow.eventId_eq.symm
  · exact ⟨hrow.id_eq.symm, .inl rfl⟩
  · exact ⟨hrow.id_eq.symm, .inr rfl⟩

theorem Op.publishes_of_settles (h : op.settles event) : op.publishes event := by
  cases op with
  | update id columns => exact h.1
  | publish message =>
      cases message with
      | event routingKey payload eventId => exact h
      | deadLetter => exact h.elim
  | uuid => exact h.elim
  | insert => exact h.elim
  | find => exact h.elim

/-- A call that marks an event as processing knew it, and holds it from then on. -/
theorem Next.of_processing {id : Nat} {columns : Columns} (h : Next k (.update id columns))
    (hstatus : columns.status = .processing) :
    ∃ event, event.id = id ∧ k.Knows event ∧
      (advance (.update id columns) (.ok ()) k).holds = some event := by
  cases h with
  | claim => exact ⟨_, rfl, .inl List.mem_cons_self, rfl⟩
  | mark => cases hstatus
  | retry => cases hstatus
  | bury => cases hstatus

/-- Only a call that got its message through marks an event as published. -/
theorem Next.of_published {id : Nat} {columns : Columns} (h : Next k (.update id columns))
    (hstatus : columns.status = .published) : ∃ event, event.id = id ∧ k.stage = .sent event := by
  cases h with
  | mark => exact ⟨_, rfl, rfl⟩
  | claim => cases hstatus
  | retry => cases hstatus
  | bury => cases hstatus

theorem Progress.knows_begin {marked : Bool} (h : (k.begin marked).Knows event) :
    k.Knows event := by
  obtain ⟨rest, stage⟩ := k
  cases rest with
  | nil => exact h
  | cons first rest =>
      rcases h with hrest | hstage
      · exact .inl (List.mem_cons_of_mem _ hrest)
      · have hfirst : first = event := by
          cases marked with
          | true => exact Option.some.inj hstage
          | false => exact Option.some.inj hstage
        exact .inl (hfirst ▸ List.mem_cons_self)

/-- A call learns of events from its query only. -/
theorem Next.learns {i : Nat} {r : Except Exception op.Ret} (h : Next k op)
    (hperforms : Performs i c w op r w') (hknows : (advance op r k).Knows event) :
    k.Knows event ∨ event ∈ w.rows := by
  cases h with
  | uuid => exact .inl hknows
  | insert => exact .inl hknows
  | find =>
      cases hperforms with
      | crashed => exact .inl hknows
      | failed => exact .inl hknows
      | found batch hselects =>
          rcases hknows with hrest | hstage
          · exact .inr (hselects.pending event hrest).1
          · cases hstage
  | claim =>
      cases r with
      | error e =>
          have hbegin : (Progress.begin false _).Knows event := hknows
          exact .inl (Progress.knows_begin hbegin)
      | ok _ =>
          have hbegin : (Progress.begin true _).Knows event := hknows
          exact .inl (Progress.knows_begin hbegin)
  | publish =>
      cases r with
      | error e => exact .inl hknows
      | ok _ => exact .inl hknows
  | mark =>
      cases r with
      | error e => exact .inl hknows
      | ok _ =>
          rcases hknows with hrest | hstage
          · exact .inl (.inl hrest)
          · cases hstage
  | retry message =>
      cases r with
      | error e => exact absurd hknows Progress.not_knows_empty
      | ok _ =>
          -- the retry limit decides between the stages `returned` and `idle`
          simp only [advance, Progress.wrote, retryColumns] at hknows
          split at hknows
          · exact .inl hknows
          · rcases hknows with hrest | hstage
            · exact .inl (.inl hrest)
            · cases hstage
  | bury message hlimit =>
      cases r with
      | error e => exact absurd hknows Progress.not_knows_empty
      | ok _ => exact .inl hknows
  | deadLetter message =>
      rcases hknows with hrest | hstage
      · exact .inl (.inl hrest)
      · cases hstage

/-- A call stands behind a message that got through only when it did. -/
theorem Next.sent {i : Nat} {r : Except Exception op.Ret} (h : Next k op)
    (hperforms : Performs i c w op r w') (hstage : (advance op r k).stage = .sent event) :
    w'.hasAccepted event.eventId := by
  cases h with
  | uuid => cases hstage
  | insert => cases hstage
  | find =>
      cases r with
      | error e => cases hstage
      | ok _ => cases hstage
  | claim =>
      cases r with
      | error e => cases hstage
      | ok _ => cases hstage
  | publish =>
      cases hperforms with
      | crashed => cases hstage
      | failed => cases hstage
      | published =>
          cases hstage
          exact ⟨_, _, List.mem_append_right _ (List.mem_singleton.mpr rfl)⟩
  | mark =>
      cases r with
      | error e => cases hstage
      | ok _ => cases hstage
  | retry message =>
      cases r with
      | error e => cases hstage
      | ok _ =>
          simp only [advance, Progress.wrote, retryColumns] at hstage
          split at hstage
          · cases hstage
          · cases hstage
  | bury message hlimit =>
      cases r with
      | error e => cases hstage
      | ok _ => cases hstage
  | deadLetter message => cases hstage

/-! ## What stays -/

variable {i : Nat} {r : Except Exception op.Ret}

theorem Performs.hasAccepted (h : Performs i c w op r w') {eventId : String}
    (hacc : w.hasAccepted eventId) : w'.hasAccepted eventId := by
  cases h with
  | published message =>
      obtain ⟨routingKey, payload, hmem⟩ := hacc
      exact ⟨routingKey, payload, List.mem_append_left _ hmem⟩
  | crashed => exact hacc
  | failed => exact hacc
  | drew => exact hacc
  | stored => exact hacc
  | found => exact hacc
  | updated => exact hacc

/-- What the broker has accepted it had accepted before, or it is what the operation publishes. -/
theorem Performs.accepted_cases (h : Performs i c w op r w') {eventId : String}
    (hacc : w'.hasAccepted eventId) : w.hasAccepted eventId ∨
      ∃ routingKey payload, op = .publish (.event routingKey payload eventId) ∧
        c.fails = none := by
  cases h with
  | published message hfails =>
      obtain ⟨routingKey, payload, hmem⟩ := hacc
      rcases List.mem_append.mp hmem with hold | hnew
      · exact .inl ⟨routingKey, payload, hold⟩
      · exact .inr ⟨routingKey, payload, by rw [List.mem_singleton.mp hnew], hfails⟩
  | crashed => exact .inl hacc
  | failed => exact .inl hacc
  | drew => exact .inl hacc
  | stored => exact .inl hacc
  | found => exact .inl hacc
  | updated => exact .inl hacc

/-- Rows stay, with the columns that do not change. -/
theorem Performs.row_is (h : Performs i c w op r w') (hrow : row ∈ w.rows) (his : row.Is event) :
    ∃ row' ∈ w'.rows, row'.Is event := by
  cases h with
  | stored new => exact ⟨row, List.mem_append_left _ hrow, his⟩
  | updated id columns =>
      by_cases hid : row.id = id
      · have hmem : columns.apply row ∈ w.updated id columns :=
          Table.mem_modify.mpr ⟨row, hrow, .inl ⟨hid, rfl⟩⟩
        exact ⟨_, hmem, his.apply columns⟩
      · have hmem : row ∈ w.updated id columns :=
          Table.mem_modify.mpr ⟨row, hrow, .inr ⟨hid, rfl⟩⟩
        exact ⟨row, hmem, his⟩
  | crashed => exact ⟨row, hrow, his⟩
  | failed => exact ⟨row, hrow, his⟩
  | drew => exact ⟨row, hrow, his⟩
  | found => exact ⟨row, hrow, his⟩
  | published => exact ⟨row, hrow, his⟩

/-- The identifiers of the rows: each was drawn once. -/
structure Numbered (w : World) : Prop where
  fresh : ∀ row ∈ w.rows, row.id < w.nextId
  ids : (w.rows.map OutboxEvent.id).Nodup

theorem Performs.numbered (h : Performs i c w op r w') (hw : Numbered w) : Numbered w' := by
  cases h with
  | stored new =>
      refine ⟨fun row hrow => ?_, Table.nodup_insert hw.ids ?_⟩
      · show row.id < w.nextId + 1
        rcases List.mem_append.mp hrow with hold | hnew
        · have hlt := hw.fresh row hold
          omega
        · rw [List.mem_singleton.mp hnew]
          exact Nat.lt_succ_self _
      · refine Table.find_eq_none.mpr fun row hrow => ?_
        have hlt := hw.fresh row hrow
        show row.id ≠ w.nextId
        omega
  | updated id columns =>
      have hkeys : (w.updated id columns).map OutboxEvent.id = w.rows.map OutboxEvent.id :=
        Table.map_key_modify fun _ hid => hid
      refine ⟨fun row hrow => ?_, ?_⟩
      · have hmem : row.id ∈ (w.updated id columns).map OutboxEvent.id := List.mem_map_of_mem hrow
        rw [hkeys] at hmem
        obtain ⟨old, hold, hid⟩ := List.mem_map.mp hmem
        have hlt := hw.fresh old hold
        show row.id < w.nextId
        omega
      · show ((w.updated id columns).map OutboxEvent.id).Nodup
        rw [hkeys]
        exact hw.ids
  | crashed => exact ⟨hw.fresh, hw.ids⟩
  | failed => exact hw
  | drew => exact ⟨hw.fresh, hw.ids⟩
  | found => exact hw
  | published => exact ⟨hw.fresh, hw.ids⟩

/-- Where the status of a row comes from. -/
theorem Performs.row_cases (h : Performs i c w op r w') (hrow : row ∈ w'.rows) :
    row.status = .pending ∨ row ∈ w.rows ∧ (r.isOk = true → ∀ columns, op ≠ .update row.id columns) ∨
      ∃ old ∈ w.rows, ∃ columns, op = .update old.id columns ∧ r.isOk = true ∧
        row = columns.apply old := by
  cases h with
  | stored new =>
      rcases List.mem_append.mp hrow with hold | hnew
      · exact .inr (.inl ⟨hold, fun _ => nofun⟩)
      · rw [List.mem_singleton.mp hnew]
        exact .inl rfl
  | updated id columns =>
      obtain ⟨old, hold, ⟨hid, rfl⟩ | ⟨hid, rfl⟩⟩ := Table.mem_modify.mp hrow
      · exact .inr (.inr ⟨old, hold, columns, by rw [hid], rfl, rfl⟩)
      · refine .inr (.inl ⟨hold, fun _ columns' heq => ?_⟩)
        cases heq
        exact hid rfl
  | crashed => exact .inr (.inl ⟨hrow, nofun⟩)
  | failed => exact .inr (.inl ⟨hrow, nofun⟩)
  | drew => exact .inr (.inl ⟨hrow, fun _ => nofun⟩)
  | found => exact .inr (.inl ⟨hrow, fun _ => nofun⟩)
  | published => exact .inr (.inl ⟨hrow, fun _ => nofun⟩)

theorem Performs.live_of_ne (h : Performs i c w op r w') {j : Nat} (hj : j ≠ i)
    (hlive : j ∉ w.crashed) : j ∉ w'.crashed := by
  cases h with
  | crashed =>
      intro hmem
      rcases List.mem_cons.mp hmem with heq | hold
      · exact hj heq
      · exact hlive hold
  | failed => exact hlive
  | drew => exact hlive
  | stored => exact hlive
  | found => exact hlive
  | updated => exact hlive
  | published => exact hlive

/-! ## The invariant -/

theorem progressOf_self {past : List Event} (hperform : performWith i c op w = some (r, w'))
    (hk : progressOf past i = some k) :
    progressOf (past ++ [.performed w i c op w']) i = some (advance op r k) := by
  rw [progressOf, System.trace_performed_self hperform]
  exact congrArg (Option.map (advance op r)) hk

theorem progressOf_of_ne {past : List Event} {j : Nat} (hj : j ≠ i) :
    progressOf (past ++ [.performed w i c op w']) j = progressOf past j :=
  System.trace_performed_of_ne hj

/-- What holds whenever no event was stranded. -/
structure Delivering (past : List Event) (w : World) : Prop where
  numbered : Numbered w
  known : ∀ i k event, progressOf past i = some k → k.Knows event → ∃ row ∈ w.rows, row.Is event
  sent : ∀ i k event, progressOf past i = some k → k.stage = .sent event →
    w.hasAccepted event.eventId
  published : ∀ row ∈ w.rows, row.status = .published → w.hasAccepted row.eventId
  held : ∀ row ∈ w.rows, row.status = .processing → w.hasAccepted row.eventId ∨
    ∃ i k event, i ∉ w.crashed ∧ progressOf past i = some k ∧ k.holds = some event ∧ row.Is event

variable {past : List Event}

theorem delivering_of {nextId : Nat} {rows : List OutboxEvent} (hfresh : ∀ row ∈ rows, row.id < nextId)
    (hids : (rows.map OutboxEvent.id).Nodup) (hpending : ∀ row ∈ rows, row.status = .pending) :
    Delivering [] (.of nextId rows) where
  numbered := ⟨hfresh, hids⟩
  known _ _ _ hk := by cases hk
  sent _ _ _ hk := by cases hk
  published row hrow hstatus := by
    rw [hpending row hrow] at hstatus
    cases hstatus
  held row hrow hstatus := by
    rw [hpending row hrow] at hstatus
    cases hstatus

theorem delivering_init : Delivering [] World.init :=
  delivering_of (fun _ hrow => absurd hrow List.not_mem_nil) List.nodup_nil
    fun _ hrow => absurd hrow List.not_mem_nil

theorem Delivering.row_is (h : Delivering past w) (hk : progressOf past i = some k)
    (hknows : k.Knows event) (hrow : row ∈ w.rows) (hid : event.id = row.id) : row.Is event := by
  obtain ⟨row', hrow', his⟩ := h.known i k event hk hknows
  have heq : row = row' :=
    List.inj_on_of_nodup_map h.numbered.ids hrow hrow' (hid.symm.trans his.id_eq.symm)
  rw [heq]
  exact his

/-- What a call knows has a row, whoever moves. -/
theorem known_performed
    (hknown : ∀ i k event, progressOf past i = some k → k.Knows event → ∃ row ∈ w.rows, row.Is event)
    (hk : progressOf past i = some k)
    (hnext : Next k op) (hperform : performWith i c op w = some (r, w')) (j : Nat) (k' : Progress)
    (event : OutboxEvent) (hk' : progressOf (past ++ [.performed w i c op w']) j = some k')
    (hknows : k'.Knows event) : ∃ row ∈ w'.rows, row.Is event := by
  obtain ⟨-, hperforms⟩ := performs hperform
  have hold : ∃ row ∈ w.rows, row.Is event := by
    by_cases hj : j = i
    · subst hj
      rw [progressOf_self hperform hk, Option.some.injEq] at hk'
      subst hk'
      rcases hnext.learns hperforms hknows with hbefore | hrow
      · exact hknown j k event hk hbefore
      · exact ⟨event, hrow, rfl⟩
    · rw [progressOf_of_ne hj] at hk'
      exact hknown j k' event hk' hknows
  obtain ⟨row, hrow, his⟩ := hold
  exact hperforms.row_is hrow his

theorem Delivering.sent_performed (h : Delivering past w) (hk : progressOf past i = some k)
    (hnext : Next k op) (hperform : performWith i c op w = some (r, w')) (j : Nat) (k' : Progress)
    (event : OutboxEvent) (hk' : progressOf (past ++ [.performed w i c op w']) j = some k')
    (hstage : k'.stage = .sent event) : w'.hasAccepted event.eventId := by
  obtain ⟨-, hperforms⟩ := performs hperform
  by_cases hj : j = i
  · subst hj
    rw [progressOf_self hperform hk, Option.some.injEq] at hk'
    subst hk'
    exact hnext.sent hperforms hstage
  · rw [progressOf_of_ne hj] at hk'
    exact hperforms.hasAccepted (h.sent j k' event hk' hstage)

theorem Delivering.published_performed (h : Delivering past w) (hk : progressOf past i = some k)
    (hnext : Next k op) (hperforms : Performs i c w op r w') (row : OutboxEvent)
    (hrow : row ∈ w'.rows) (hstatus : row.status = .published) : w'.hasAccepted row.eventId := by
  refine hperforms.hasAccepted ?_
  rcases hperforms.row_cases hrow with hpending | ⟨hold, -⟩ | ⟨old, hold, columns, rfl, -, rfl⟩
  · rw [hpending] at hstatus
    cases hstatus
  · exact h.published row hold hstatus
  · obtain ⟨event, hid, hstage⟩ := hnext.of_published hstatus
    have his : old.Is event := h.row_is hk (.inr (by rw [hstage]; rfl)) hold hid
    have hacc := h.sent i k event hk hstage
    rw [← his.eventId_eq] at hacc
    exact hacc

/-- The call that holds a row which stays as it is keeps it, unless its message gets through. -/
theorem Delivering.holder_performed (h : Delivering past w) (hk : progressOf past i = some k)
    (hnext : Next k op) (hperforms : Performs i c w op r w') (hlive : i ∉ w.crashed)
    (hsafe : ¬Event.strands (.performed w i c op w')) (hrow : row ∈ w.rows)
    (hstatus : row.status = .processing) (hacc : ¬w.hasAccepted row.eventId)
    (hkept : r.isOk = true → ∀ columns, op ≠ .update row.id columns)
    (hholds : k.holds = some event) (his : row.Is event) :
    w'.hasAccepted row.eventId ∨ i ∉ w'.crashed ∧ (advance op r k).holds = some event := by
  have hsettles : op.settles row := hnext.settles hholds his
  have hcrashes : ¬c.crashes = true := fun hc => hsafe ⟨.inl hc, row, hrow, hsettles, hstatus, hacc⟩
  rcases hnext.of_holds hholds with ⟨hstage, rfl⟩ | ⟨hstage, rfl⟩ | ⟨message, hstage, rfl⟩
  · cases hperforms with
    | crashed _ _ hc => exact absurd hc hcrashes
    | failed =>
        refine .inr ⟨hlive, ?_⟩
        simp only [advance, Progress.fail, hstage]
        rfl
    | published =>
        rw [his.eventId_eq]
        exact .inl ⟨_, _, List.mem_append_right _ (List.mem_singleton.mpr rfl)⟩
  · have hsent := h.sent i k event hk hstage
    rw [← his.eventId_eq] at hsent
    exact absurd hsent hacc
  · cases hperforms with
    | crashed _ _ hc => exact absurd hc hcrashes
    | failed _ _ hfails =>
        have hreturns : (Op.update event.id (retryColumns event message)).returns = true := rfl
        have hsome : c.fails.isSome = true := by rw [hfails]; rfl
        exact absurd ⟨.inr ⟨hsome, hreturns⟩, row, hrow, hsettles, hstatus, hacc⟩ hsafe
    | updated => exact absurd (by rw [his.id_eq]) (hkept rfl (retryColumns event message))

/-- Every row that is being processed keeps a call that has to bring it back. -/
theorem Delivering.held_performed (h : Delivering past w) (hk : progressOf past i = some k)
    (hnext : Next k op) (hperform : performWith i c op w = some (r, w'))
    (hsafe : ¬Event.strands (.performed w i c op w')) (row : OutboxEvent) (hrow : row ∈ w'.rows)
    (hstatus : row.status = .processing) : w'.hasAccepted row.eventId ∨
      ∃ j k' event, j ∉ w'.crashed ∧ progressOf (past ++ [.performed w i c op w']) j = some k' ∧
        k'.holds = some event ∧ row.Is event := by
  obtain ⟨hlive, hperforms⟩ := performs hperform
  rcases hperforms.row_cases hrow with hpending | ⟨hold, hkept⟩ | ⟨old, hold, columns, rfl, hok, rfl⟩
  · rw [hpending] at hstatus
    cases hstatus
  · by_cases hacc : w.hasAccepted row.eventId
    · exact .inl (hperforms.hasAccepted hacc)
    · obtain ⟨j, k', event, hj, hk', hholds, his⟩ := (h.held row hold hstatus).resolve_left hacc
      by_cases hji : j = i
      · subst hji
        rw [hk, Option.some.injEq] at hk'
        subst hk'
        rcases h.holder_performed hk hnext hperforms hlive hsafe hold hstatus hacc hkept hholds his
          with hsent | ⟨hlive', hholds'⟩
        · exact .inl hsent
        · exact .inr ⟨j, _, event, hlive', progressOf_self hperform hk, hholds', his⟩
      · refine .inr ⟨j, k', event, hperforms.live_of_ne hji hj, ?_, hholds, his⟩
        rw [progressOf_of_ne hji]
        exact hk'
  · obtain ⟨event, hid, hknows, hholds⟩ := hnext.of_processing hstatus
    have his : old.Is event := h.row_is hk hknows hold hid
    cases hperforms with
    | crashed => cases hok
    | failed => cases hok
    | updated =>
        exact .inr ⟨i, _, event, hlive, progressOf_self hperform hk, hholds, his.apply columns⟩

theorem Delivering.performed (h : Delivering past w) (hk : progressOf past i = some k)
    (hnext : Next k op) (hperform : performWith i c op w = some (r, w'))
    (hsafe : ¬Event.strands (.performed w i c op w')) :
    Delivering (past ++ [.performed w i c op w']) w' where
  numbered := (performs hperform).2.numbered h.numbered
  known := known_performed h.known hk hnext hperform
  sent := h.sent_performed hk hnext hperform
  published := h.published_performed hk hnext (performs hperform).2
  held := h.held_performed hk hnext hperform hsafe

/-- A call that starts knows nothing. -/
theorem Delivering.started (h : Delivering past w) (hnew : progressOf past i = none)
    (request : Request) : Delivering (past ++ [.started w i request]) w := by
  have hself : progressOf (past ++ [.started w i request]) i = some request.progress :=
    System.trace_started_self
  have hother : ∀ j, j ≠ i → progressOf (past ++ [.started w i request]) j = progressOf past j :=
    fun j hj => System.trace_started_of_ne hj
  refine ⟨h.numbered, fun j k event hk hknows => ?_, fun j k event hk hstage => ?_, h.published,
    fun row hrow hstatus => ?_⟩
  · by_cases hj : j = i
    · subst hj
      rw [hself, Option.some.injEq] at hk
      subst hk
      exact absurd hknows request.not_knows_progress
    · rw [hother j hj] at hk
      exact h.known j k event hk hknows
  · by_cases hj : j = i
    · subst hj
      rw [hself, Option.some.injEq] at hk
      subst hk
      exact absurd (.inr (by rw [hstage]; rfl)) request.not_knows_progress
    · rw [hother j hj] at hk
      exact h.sent j k event hk hstage
  · refine (h.held row hrow hstatus).imp_right ?_
    intro hheld
    obtain ⟨j, k, event, hj, hk, hholds, his⟩ := hheld
    have hne : j ≠ i := by
      intro heq
      subst heq
      rw [hnew] at hk
      cases hk
    exact ⟨j, k, event, hj, (hother j hne).trans hk, hholds, his⟩

/-! ## Every event is delivered, failed, pending or in work -/

/-- A call that holds an event is not done, and awaits an operation of its publication. -/
theorem workedOn_of_holds {P : ServicePool} {p : Program Op (fun op => Except Exception op.Ret)
      (Except Exception (Option OutboxEvent) × Unit)}
    (hlive : i ∉ P.state.crashed) (hcall : P.calls[i]? = some p)
    (hwp : p.wp (tracked (fun op k => Next k op) (fun _ _ => True) advance)
      (fun _ k => ∀ event, ¬k.Knows event) k) (hholds : k.holds = some event) (his : row.Is event) :
    WorkedOn P row := by
  cases p with
  | done a =>
      have hnone : ¬k.Knows event := hwp event
      exact absurd (.inr (Stage.event_of_holds hholds)) hnone
  | await op next =>
      exact ⟨i, op, next, hlive, hcall, Op.publishes_of_settles (hwp.1.settles hholds his)⟩

/-- Where no step strands an event, every committed event is accepted by the broker, failed,
pending, or a live call works on it. -/
theorem events_kept {ms : List (Move Request Choice)} {es : List Event} {P : ServicePool}
    (hrun : service.run ms (.init World.init) = some (es, P))
    (hsafe : ∀ e ∈ es, ¬Event.strands e) (row : OutboxEvent) (hrow : row ∈ P.state.rows) :
    P.state.hasAccepted row.eventId ∨ row.status = .failed ∨ row.status = .pending ∨
      WorkedOn P row := by
  have htracks : service.Tracks Delivering Request.progress (fun _ op k => Next k op)
      (fun _ _ _ => True) advance (fun _ _ k => ∀ event, ¬k.Knows event) ([] ++ es) P ∧
      ∀ e ∈ es, True := by
    refine System.run_tracked ?_ ?_ hrun hsafe (System.tracks_init delivering_init)
    · intro past w i request hnew h _
      exact ⟨request_follows request, h.started (hnew i (Nat.le_refl i)) request, trivial⟩
    · intro past w i c op r w' k hk hnext h hperform hsafe
      exact ⟨trivial, h.performed hk hnext hperform hsafe, trivial⟩
  have hP := htracks.1
  cases hstatus : row.status with
  | pending => exact .inr (.inr (.inl rfl))
  | failed => exact .inr (.inl rfl)
  | published => exact .inl (hP.inv.published row hrow hstatus)
  | processing =>
      refine (hP.inv.held row hrow hstatus).imp_right fun hheld => .inr (.inr ?_)
      obtain ⟨i, k, event, hlive, hk, hholds, his⟩ := hheld
      have hlt : i < P.calls.length := hP.known i k hk
      obtain ⟨k', hk', hwp⟩ := hP.calls i _ (List.getElem?_eq_getElem hlt)
      have heq : k' = k := Option.some.inj (hk'.symm.trans hk)
      subst heq
      exact workedOn_of_holds hlive (List.getElem?_eq_getElem hlt) hwp hholds his

/-- An event, and a pass over it, with the choices for its operations after the query. -/
def storedAndPublished (choices : List Choice) : List (Move Request Choice) :=
  let choice : Choice := ⟨false, none, "e1", 1, []⟩
  let event : NewEvent := ⟨"e1", "Booking", "b1", "flight.reserve-seats", "p1"⟩
  [.start (.storeEvent "Booking" "b1" "flight.reserve-seats" "p1"), .run 0 choice, .run 0 choice,
    .start .publishPendingEvents, .run 1 { choice with batch := [event.row 1 1] }] ++
    choices.map (.run 1)

def succeeds : Choice := ⟨false, none, "", 0, []⟩

def failsWith (message : String) : Choice := ⟨false, some (.error message), "", 0, []⟩

/-- The broker does not take the message, and the event is pending again. -/
theorem events_kept_retried :
    ∃ es P, service.run (storedAndPublished [succeeds, failsWith "ECONNREFUSED", succeeds])
        (.init World.init) = some (es, P) ∧
      ∀ row ∈ P.state.rows, P.state.hasAccepted row.eventId ∨ row.status = .failed ∨
        row.status = .pending ∨ WorkedOn P row := by
  have hany : (service.run (storedAndPublished [succeeds, failsWith "ECONNREFUSED", succeeds])
      (.init World.init)).any (fun result => result.1.all fun e => !decide (Event.strands e)) =
      true := by
    decide +kernel
  obtain ⟨es, P, hrun, hsafe⟩ := System.exists_run hany
  refine ⟨es, P, hrun, events_kept hrun fun e he => ?_⟩
  simpa using List.all_eq_true.mp hsafe e he

theorem not_workedOn_of_idle {P : ServicePool} (hidle : P.idle = true) : ¬WorkedOn P row := by
  intro hwork
  obtain ⟨i, op, next, -, hcall, -⟩ := hwork
  have hdone := List.all_eq_true.mp hidle _ (List.mem_of_getElem? hcall)
  cases hdone

/-- The broker does not take the message, and the write that makes the event pending again fails
too: nothing will publish the event. -/
theorem event_stranded :
    ∃ es P, service.run (storedAndPublished
        [succeeds, failsWith "ECONNREFUSED", failsWith "connection terminated"])
        (.init World.init) = some (es, P) ∧
      ∃ row ∈ P.state.rows, ¬P.state.hasAccepted row.eventId ∧ row.status ≠ .failed ∧
        row.status ≠ .pending ∧ ¬WorkedOn P row := by
  have hany : (service.run (storedAndPublished
      [succeeds, failsWith "ECONNREFUSED", failsWith "connection terminated"])
      (.init World.init)).any (fun result => result.2.idle && decide (∃ row ∈ result.2.state.rows,
        ¬result.2.state.hasAccepted row.eventId ∧ row.status ≠ .failed ∧ row.status ≠ .pending)) =
      true := by
    decide +kernel
  obtain ⟨es, P, hrun, hstuck⟩ := System.exists_run hany
  rw [Bool.and_eq_true, decide_eq_true_eq] at hstuck
  obtain ⟨hidle, row, hrow, hacc, hfailed, hpending⟩ := hstuck
  exact ⟨es, P, hrun, row, hrow, hacc, hfailed, hpending, not_workedOn_of_idle hidle⟩

end FlightBookings.Outbox
