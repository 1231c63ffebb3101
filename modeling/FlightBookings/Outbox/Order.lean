import FlightBookings.Outbox.Delivery

/-! # The order of the events of one aggregate

A single worker makes one pass after the other, and only the broker fails. A
pass takes the oldest events first, so an event overtakes an earlier one only
when the broker has refused that one before, in the same pass.
-/

namespace FlightBookings.Outbox

open Await

/-! ## The condition -/

/-- The run is one of passes, and nothing fails but the broker. -/
def Event.brokerOnly : Event → Prop
  | .started _ _ (.storeEvent _ _ _ _) => False
  | .started _ _ .publishPendingEvents => True
  | .performed _ _ c (.publish _) _ => c.crashes = false
  | .performed _ _ c _ _ => c.crashes = false ∧ c.fails = none

instance (e : Event) : Decidable e.brokerOnly :=
  match e with
  | .started _ _ (.storeEvent _ _ _ _) => inferInstanceAs (Decidable False)
  | .started _ _ .publishPendingEvents => inferInstanceAs (Decidable True)
  | .performed _ _ _ (.publish _) _ => inferInstanceAs (Decidable (_ = _))
  | .performed _ _ _ .uuid _ => inferInstanceAs (Decidable (_ ∧ _))
  | .performed _ _ _ (.insert _) _ => inferInstanceAs (Decidable (_ ∧ _))
  | .performed _ _ _ .find _ => inferInstanceAs (Decidable (_ ∧ _))
  | .performed _ _ _ (.update _ _) _ => inferInstanceAs (Decidable (_ ∧ _))

def Op.carries : Op → OutboxEvent → Prop
  | .publish (.event _ _ eventId), event => eventId = event.eventId
  | _, _ => False

instance (op : Op) (event : OutboxEvent) : Decidable (op.carries event) :=
  match op with
  | .publish (.event _ _ _) => inferInstanceAs (Decidable (_ = _))
  | .publish (.deadLetter _ _ _ _ _) => inferInstanceAs (Decidable False)
  | .uuid => inferInstanceAs (Decidable False)
  | .insert _ => inferInstanceAs (Decidable False)
  | .find => inferInstanceAs (Decidable False)
  | .update _ _ => inferInstanceAs (Decidable False)

/-- The broker refuses an event that has attempts left. -/
def Event.refuses (event : OutboxEvent) : Event → Prop
  | .started _ _ _ => False
  | .performed w _ c op _ => c.fails.isSome = true ∧ op.carries event ∧
      ∃ row ∈ w.rows, row.id = event.id ∧ row.retryCount + 1 < row.maxRetries

def Event.takes (event : OutboxEvent) : Event → Prop
  | .started _ _ _ => False
  | .performed _ _ c op _ => c.fails = none ∧ op.carries event

instance (event : OutboxEvent) (e : Event) : Decidable (e.refuses event) :=
  match e with
  | .started _ _ _ => inferInstanceAs (Decidable False)
  | .performed _ _ _ _ _ => inferInstanceAs (Decidable (_ ∧ _))

instance (event : OutboxEvent) (e : Event) : Decidable (e.takes event) :=
  match e with
  | .started _ _ _ => inferInstanceAs (Decidable False)
  | .performed _ _ _ _ _ => inferInstanceAs (Decidable (_ ∧ _))

def Event.call : Event → Nat
  | .started _ i _ => i
  | .performed _ i _ _ _ => i

/-- In one pass, the broker refuses an event that has attempts left and takes a later one of the
same aggregate. -/
def Overtakes (events : List OutboxEvent) (e e' : Event) : Prop :=
  e.call = e'.call ∧ ∃ earlier ∈ events, ∃ event ∈ events,
    earlier.aggregateId = event.aggregateId ∧ earlier.createdAt < event.createdAt ∧
      e.refuses earlier ∧ e'.takes event

instance (events : List OutboxEvent) (e e' : Event) : Decidable (Overtakes events e e') :=
  inferInstanceAs (Decidable (_ ∧ _))

/-- The broker has accepted an event only after every earlier one of its aggregate was accepted or
had failed. -/
def InOrder (w : World) : Prop :=
  ∀ event ∈ w.rows, w.hasAccepted event.eventId → ∀ earlier ∈ w.rows,
    earlier.aggregateId = event.aggregateId → earlier.createdAt < event.createdAt →
      w.hasAccepted earlier.eventId ∨ earlier.status = .failed

instance (w : World) : Decidable (InOrder w) :=
  inferInstanceAs (Decidable (∀ event ∈ w.rows, w.hasAccepted event.eventId → ∀ earlier ∈ w.rows,
    earlier.aggregateId = event.aggregateId → earlier.createdAt < event.createdAt →
      w.hasAccepted earlier.eventId ∨ earlier.status = .failed))

/-- Pending events with the identifiers that the database gives them, in the order of their
creation. -/
structure Stored (nextId : Nat) (events : List OutboxEvent) : Prop where
  pending : ∀ event ∈ events, event.status = .pending
  fresh : ∀ event ∈ events, event.id < nextId
  ids : (events.map OutboxEvent.id).Nodup
  eventIds : (events.map OutboxEvent.eventId).Nodup
  times : events.Pairwise fun event later => event.createdAt < later.createdAt

/-! ## The invariant -/

/-- The event does not have to be waited for any more. -/
def World.Passed (w : World) (event : OutboxEvent) : Prop :=
  w.hasAccepted event.eventId ∨ ∃ row ∈ w.rows, row.id = event.id ∧ row.status = .failed

/-- The broker has refused the event in this pass. -/
def Refused (past : List Event) (i : Nat) (event : OutboxEvent) : Prop :=
  ∃ e ∈ past, e.call = i ∧ e.refuses event

/-- Where a pass stands in terms of the rows: the events that it has not begun to publish are
pending, oldest first, and before any of them come only events that are through, that the broker has
refused in this pass, or that the pass still has. -/
structure Pass (events : List OutboxEvent) (past : List Event) (i : Nat) (w : World)
    (k : Progress) : Prop where
  storing : k.stage ≠ .storing
  waiting : ∀ event ∈ k.rest, event ∈ w.rows ∧ event.status = .pending
  sorted : k.rest.Pairwise fun event later => event.createdAt < later.createdAt
  later : ∀ event, k.stage.event = some event → ∀ later ∈ k.rest,
    event.createdAt < later.createdAt
  held : ∀ event, k.holds = some event → ∃ row ∈ w.rows, row.Is event ∧
    row.status = .processing ∧ row.retryCount = event.retryCount
  refused : ∀ event, k.stage = .failing event → event.retryCount + 1 < event.maxRetries →
    Refused past i event
  buried : ∀ event, k.stage = .buried event → w.Passed event
  ahead : ∀ event, event ∈ k.rest ∨ k.stage = .claimed event → ∀ earlier ∈ events,
    earlier.aggregateId = event.aggregateId → earlier.createdAt < event.createdAt →
      w.Passed earlier ∨ Refused past i earlier ∨ ∃ known, k.Knows known ∧ known.Is earlier

structure Ordering (events : List OutboxEvent) (past : List Event) (w : World) : Prop where
  stored : ∀ event ∈ events, ∃ row ∈ w.rows, row.Is event
  rows : ∀ row ∈ w.rows, ∃ event ∈ events, row.Is event
  ordered : ∀ event ∈ events, w.hasAccepted event.eventId → ∀ earlier ∈ events,
    earlier.aggregateId = event.aggregateId → earlier.createdAt < event.createdAt →
      w.Passed earlier
  pass : ∀ i k, progressOf past i = some k → Pass events past i w k

variable {events : List OutboxEvent} {past : List Event} {i : Nat} {k : Progress} {op : Op}
variable {event row : OutboxEvent} {c : Choice} {w w' : World} {r : Except Exception op.Ret}

theorem Refused.mono {e : Event} (h : Refused past i event) : Refused (past ++ [e]) i event := by
  obtain ⟨e', hmem, hrefuses⟩ := h
  exact ⟨e', List.mem_append_left _ hmem, hrefuses⟩

theorem Refused.of_is {other : OutboxEvent} (h : Refused past i event) (his : event.Is other) :
    Refused past i other := by
  obtain ⟨e, hmem, hcall, hrefuses⟩ := h
  refine ⟨e, hmem, hcall, ?_⟩
  cases e with
  | started => exact hrefuses.elim
  | performed w j c op w' =>
      obtain ⟨hfails, hcarries, row, hrow, hid, hleft⟩ := hrefuses
      refine ⟨hfails, ?_, row, hrow, hid.trans his.id_eq, hleft⟩
      cases op with
      | publish message =>
          cases message with
          | event routingKey payload eventId => exact Eq.trans hcarries his.eventId_eq
          | deadLetter => exact hcarries.elim
      | uuid => exact hcarries.elim
      | insert => exact hcarries.elim
      | find => exact hcarries.elim
      | update => exact hcarries.elim

theorem World.Passed.of_is {other : OutboxEvent} (h : w.Passed event) (his : event.Is other) :
    w.Passed other := by
  unfold World.Passed at h
  rw [his.eventId_eq, his.id_eq] at h
  exact h

/-- A call that knows of no event is no matter. -/
theorem pass_of_not_knows (hstage : k.stage ≠ .storing) (h : ∀ event, ¬k.Knows event) :
    Pass events past i w k := by
  have hrest : k.rest = [] := List.eq_nil_iff_forall_not_mem.mpr fun event hmem => h event (.inl hmem)
  have hnone : ∀ event, k.stage.event ≠ some event := fun event heq => h event (.inr heq)
  refine ⟨hstage, ?_, ?_, fun event heq => absurd heq (hnone event), fun event hholds => ?_,
    fun event heq => ?_, fun event heq => ?_, fun event hevent => ?_⟩
  · rw [hrest]
    exact fun _ hmem => absurd hmem List.not_mem_nil
  · rw [hrest]
    exact List.Pairwise.nil
  · exact absurd (Stage.event_of_holds hholds) (hnone event)
  · exact absurd (by rw [heq]; rfl) (hnone event)
  · exact absurd (by rw [heq]; rfl) (hnone event)
  · rcases hevent with hmem | heq
    · exact absurd (.inl hmem) (h event)
    · exact absurd (by rw [heq]; rfl) (hnone event)

/-! ## What one operation of a pass does -/

/-- An operation of a pass makes no failed row anything else. -/
theorem Pass.unfailed (h : Pass events past i w k) (hw : Numbered w) (hnext : Next k op) {id : Nat}
    {columns : Columns} (hop : op = .update id columns) :
    columns.status = .failed ∨ ∀ row ∈ w.rows, row.id = id → row.status ≠ .failed := by
  have hsame : ∀ {event : OutboxEvent}, k.holds = some event → ∀ row ∈ w.rows, row.id = event.id →
      row.status ≠ .failed := by
    intro event hholds row hrow hid hfailed
    obtain ⟨row', hrow', his, hstatus, -⟩ := h.held event hholds
    rw [List.inj_on_of_nodup_map hw.ids hrow hrow' (hid.trans his.id_eq.symm), hstatus] at hfailed
    cases hfailed
  cases hnext with
  | claim =>
      cases hop
      refine .inr fun row hrow hid hfailed => ?_
      obtain ⟨hmem, hstatus⟩ := h.waiting _ List.mem_cons_self
      rw [List.inj_on_of_nodup_map hw.ids hrow hmem hid, hstatus] at hfailed
      cases hfailed
  | mark =>
      cases hop
      exact .inr (hsame rfl)
  | retry message =>
      cases hop
      exact .inr (hsame rfl)
  | bury message hlimit =>
      cases hop
      exact .inl rfl
  | uuid => cases hop
  | insert => cases hop
  | find => cases hop
  | publish => cases hop
  | deadLetter => cases hop

theorem Performs.passed (h : Performs i c w op r w')
    (hupdate : ∀ {id columns}, op = .update id columns →
      columns.status = .failed ∨ ∀ row ∈ w.rows, row.id = id → row.status ≠ .failed)
    (hpassed : w.Passed event) : w'.Passed event := by
  rcases hpassed with hacc | ⟨row, hrow, hid, hstatus⟩
  · exact .inl (h.hasAccepted hacc)
  · refine .inr ?_
    cases h with
    | updated id columns hfails =>
        by_cases hsame : row.id = id
        · rcases hupdate rfl with hfailed | hnever
          · have hmem : columns.apply row ∈ w.updated id columns :=
              Table.mem_modify.mpr ⟨row, hrow, .inl ⟨hsame, rfl⟩⟩
            exact ⟨columns.apply row, hmem, hid, hfailed⟩
          · exact absurd hstatus (hnever row hrow hsame)
        · have hmem : row ∈ w.updated id columns :=
            Table.mem_modify.mpr ⟨row, hrow, .inr ⟨hsame, rfl⟩⟩
          exact ⟨row, hmem, hid, hstatus⟩
    | stored new => exact ⟨row, List.mem_append_left _ hrow, hid, hstatus⟩
    | crashed => exact ⟨row, hrow, hid, hstatus⟩
    | failed => exact ⟨row, hrow, hid, hstatus⟩
    | drew => exact ⟨row, hrow, hid, hstatus⟩
    | found => exact ⟨row, hrow, hid, hstatus⟩
    | published => exact ⟨row, hrow, hid, hstatus⟩

/-- A row that is not written stays as it is. -/
theorem Performs.row_stays (h : Performs i c w op r w') (hrow : row ∈ w.rows)
    (hother : ∀ columns, op ≠ .update row.id columns) : row ∈ w'.rows := by
  cases h with
  | updated id columns hfails =>
      refine Table.mem_modify.mpr ⟨row, hrow, .inr ⟨fun hid => ?_, rfl⟩⟩
      subst hid
      exact hother columns rfl
  | stored new => exact List.mem_append_left _ hrow
  | crashed => exact hrow
  | failed => exact hrow
  | drew => exact hrow
  | found => exact hrow
  | published => exact hrow

/-- Only insertions bring new rows. -/
theorem Performs.row_of (h : Performs i c w op r w') (hrow : row ∈ w'.rows) :
    (∃ new, op = .insert new) ∨ ∃ old ∈ w.rows, row.Is old := by
  cases h with
  | stored new => exact .inl ⟨new, rfl⟩
  | updated id columns =>
      obtain ⟨old, hold, ⟨-, rfl⟩ | ⟨-, rfl⟩⟩ := Table.mem_modify.mp hrow
      · exact .inr ⟨old, hold, rfl⟩
      · exact .inr ⟨row, hold, rfl⟩
  | crashed => exact .inr ⟨row, hrow, rfl⟩
  | failed => exact .inr ⟨row, hrow, rfl⟩
  | drew => exact .inr ⟨row, hrow, rfl⟩
  | found => exact .inr ⟨row, hrow, rfl⟩
  | published => exact .inr ⟨row, hrow, rfl⟩

/-- The rows in front of a pass, when the pass moves on without selecting new ones. -/
theorem Pass.ahead_of {past' : List Event} {k' : Progress} (h : Pass events past i w k)
    (hpassed : ∀ event, w.Passed event → w'.Passed event)
    (hrefused : ∀ event, Refused past i event → Refused past' i event)
    (htargets : ∀ event, event ∈ k'.rest ∨ k'.stage = .claimed event →
      event ∈ k.rest ∨ k.stage = .claimed event)
    (hknown : ∀ known, k.Knows known →
      w'.Passed known ∨ Refused past' i known ∨ k'.Knows known)
    (event : OutboxEvent) (hevent : event ∈ k'.rest ∨ k'.stage = .claimed event)
    (earlier : OutboxEvent) (hearlier : earlier ∈ events)
    (haggregate : earlier.aggregateId = event.aggregateId)
    (hlt : earlier.createdAt < event.createdAt) :
    w'.Passed earlier ∨ Refused past' i earlier ∨ ∃ known, k'.Knows known ∧ known.Is earlier := by
  rcases h.ahead event (htargets event hevent) earlier hearlier haggregate hlt with
    hthrough | hno | ⟨known, hknows, his⟩
  · exact .inl (hpassed earlier hthrough)
  · exact .inr (.inl (hrefused earlier hno))
  · rcases hknown known hknows with hthrough | hno | hstill
    · exact .inl (hthrough.of_is his)
    · exact .inr (.inl (hno.of_is his))
    · exact .inr (.inr ⟨known, hstill, his⟩)

/-! ## The moves of a pass -/

variable {rest : List OutboxEvent} {stage stage' : Stage} {e : Event}

/-- The events that wait are not the one that the pass has. -/
theorem Pass.ne_of_waiting (h : Pass events past i w k) (hd : Delivering past w)
    (hk : progressOf past i = some k) (hstage : k.stage.event = some event)
    (hrow : row ∈ k.rest) : row.id ≠ event.id := by
  intro hid
  have his : row.Is event := hd.row_is hk (.inr hstage) (h.waiting row hrow).1 hid.symm
  have hlt : event.createdAt < row.createdAt := h.later event hstage row hrow
  unfold OutboxEvent.Is at his
  rw [his] at hlt
  exact Nat.lt_irrefl _ hlt

/-- The pass goes on with the event that it has. -/
theorem Pass.moves (h : Pass events past i w ⟨rest, stage⟩) (hw : Numbered w)
    (hnext : Next ⟨rest, stage⟩ op) (hperforms : Performs i c w op r w')
    (hrows : ∀ row ∈ rest, ∀ columns, op ≠ .update row.id columns)
    (hstage : ∀ event, stage.event = some event →
      w'.Passed event ∨ Refused (past ++ [e]) i event ∨ stage'.event = some event)
    (hevent : ∀ event, stage'.event = some event → stage.event = some event)
    (hstoring : stage' ≠ .storing) (hclaimed : ∀ event, stage' ≠ .claimed event)
    (hheld : ∀ event, (Progress.mk rest stage').holds = some event → ∃ row ∈ w'.rows, row.Is event ∧
      row.status = .processing ∧ row.retryCount = event.retryCount)
    (hrefused : ∀ event, stage' = .failing event → event.retryCount + 1 < event.maxRetries →
      Refused (past ++ [e]) i event)
    (hburied : ∀ event, stage' = .buried event → w'.Passed event) :
    Pass events (past ++ [e]) i w' ⟨rest, stage'⟩ where
  storing := hstoring
  waiting row hrow :=
    have ⟨hmem, hpending⟩ := h.waiting row hrow
    ⟨hperforms.row_stays hmem (hrows row hrow), hpending⟩
  sorted := h.sorted
  later event heq := h.later event (hevent event heq)
  held := hheld
  refused := hrefused
  buried := hburied
  ahead := by
    refine h.ahead_of (fun event => hperforms.passed (h.unfailed hw hnext)) (fun _ h => h.mono)
      (fun event htarget => ?_) fun known hknows => ?_
    · rcases htarget with hrest | heq
      · exact .inl hrest
      · exact absurd heq (hclaimed event)
    · rcases hknows with hrest | heq
      · exact .inr (.inr (.inl hrest))
      · exact (hstage known heq).imp_right fun h => h.imp_right .inr

theorem Ordering.eq_of_createdAt (ho : Ordering events past w) (hw : Numbered w)
    (hstored : events.Pairwise fun event later => event.createdAt < later.createdAt)
    {row' : OutboxEvent} (hrow : row ∈ w.rows) (hrow' : row' ∈ w.rows)
    (heq : row.createdAt = row'.createdAt) : row = row' := by
  obtain ⟨event, hevent, his⟩ := ho.rows row hrow
  obtain ⟨event', hevent', his'⟩ := ho.rows row' hrow'
  have htimes : (events.map OutboxEvent.createdAt).Nodup :=
    List.pairwise_map.mpr (hstored.imp Nat.ne_of_lt)
  have hsame : event = event' := by
    refine List.inj_on_of_nodup_map htimes hevent hevent' ?_
    rw [← his.createdAt_eq, ← his'.createdAt_eq]
    exact heq
  refine List.inj_on_of_nodup_map hw.ids hrow hrow' ?_
  rw [his.id_eq, his'.id_eq, hsame]

/-- A pass begins with what the query selects: what it leaves out of an aggregate is newer, or it is
through. -/
theorem Pass.found (ho : Ordering events past w) (hd : Delivering past w)
    (hstored : events.Pairwise fun event later => event.createdAt < later.createdAt)
    (hidle : ∀ i k event, progressOf past i = some k → k.holds ≠ some event)
    {batch : List OutboxEvent} (hselects : Selects w.rows batch) :
    Pass events (past ++ [e]) i w ⟨batch, .idle⟩ := by
  refine ⟨nofun, hselects.pending, ?_, nofun, nofun, nofun, nofun, ?_⟩
  · refine (hselects.distinct.and hselects.ordered).imp_of_mem fun hrow hrow' hboth => ?_
    refine Nat.lt_of_le_of_ne hboth.2 fun heq => hboth.1 ?_
    exact ho.eq_of_createdAt hd.numbered hstored (hselects.pending _ hrow).1
      (hselects.pending _ hrow').1 heq
  · intro event hevent earlier hearlier haggregate hlt
    rcases hevent with hmem | hstage
    · obtain ⟨row, hrow, his⟩ := ho.stored earlier hearlier
      cases hstatus : row.status with
      | pending =>
          by_cases hselected : row ∈ batch
          · exact .inr (.inr ⟨row, .inl hselected, his⟩)
          · have hle := (hselects.oldest row hrow hstatus hselected).2 event hmem
            rw [his.createdAt_eq] at hle
            omega
      | processing =>
          rcases hd.held row hrow hstatus with hacc | ⟨j, k, held, -, hk, hholds, -⟩
          · exact .inl (.inl (his.eventId_eq ▸ hacc))
          · exact absurd hholds (hidle j k held hk)
      | published => exact .inl (.inl (his.eventId_eq ▸ hd.published row hrow hstatus))
      | failed => exact .inl (.inr ⟨row, hrow, his.id_eq, hstatus⟩)
    · cases hstage

theorem Pass.claimed (h : Pass events past i w ⟨event :: rest, .idle⟩) (hw : Numbered w)
    (hperforms : Performs i c w (.update event.id { status := .processing }) (.ok ()) w') :
    Pass events (past ++ [e]) i w' ⟨rest, .claimed event⟩ := by
  have hsorted := List.pairwise_cons.mp h.sorted
  have hevent := h.waiting event List.mem_cons_self
  have hrows : ∀ row ∈ rest, ∀ columns,
      Op.update event.id { status := .processing } ≠ .update row.id columns := by
    intro row hrow columns heq
    have hid : event.id = row.id := by
      injection heq
    have hmem := (h.waiting row (List.mem_cons_of_mem _ hrow)).1
    have hlt := hsorted.1 row hrow
    rw [List.inj_on_of_nodup_map hw.ids hevent.1 hmem hid] at hlt
    exact Nat.lt_irrefl _ hlt
  refine ⟨nofun, fun row hrow => ?_, hsorted.2, fun event' heq => ?_, fun event' hholds => ?_, nofun,
    nofun, ?_⟩
  · obtain ⟨hmem, hpending⟩ := h.waiting row (List.mem_cons_of_mem _ hrow)
    exact ⟨hperforms.row_stays hmem (hrows row hrow), hpending⟩
  · cases heq
    exact hsorted.1
  · cases hholds
    cases hperforms with
    | updated =>
        have hmem : ({ status := .processing } : Columns).apply event ∈
            w.updated event.id { status := .processing } :=
          Table.mem_modify.mpr ⟨event, hevent.1, .inl ⟨rfl, rfl⟩⟩
        exact ⟨_, hmem, rfl, rfl, rfl⟩
  · refine h.ahead_of (fun event => hperforms.passed (h.unfailed hw .claim)) (fun _ h => h.mono)
      (fun event' htarget => ?_) fun known hknows => .inr (.inr ?_)
    · rcases htarget with hrest | heq
      · exact .inl (List.mem_cons_of_mem _ hrest)
      · cases heq
        exact .inl List.mem_cons_self
    · rcases hknows with hmem | heq
      · rcases List.mem_cons.mp hmem with heq | hrest
        · subst heq
          exact .inr rfl
        · exact .inl hrest
      · cases heq

/-- The message of the event that a pass has, sent or refused. -/
theorem Pass.published {r : Except Exception Unit}
    (h : Pass events past i w ⟨rest, .claimed event⟩) (hw : Numbered w)
    (hcrashes : c.crashes = false)
    (hperforms : Performs i c w (.publish (.event event.eventType event.payload event.eventId)) r w')
    (he : e = .performed w i c (.publish (.event event.eventType event.payload event.eventId)) w') :
    Pass events (past ++ [e]) i w'
      (advance (.publish (.event event.eventType event.payload event.eventId)) r
        ⟨rest, .claimed event⟩) := by
  have hheld := h.held event rfl
  cases hperforms with
  | crashed _ _ hc => rw [hcrashes] at hc; cases hc
  | failed _ error hfails =>
      refine h.moves hw .publish (.failed _ error hfails) (fun _ _ _ => nofun)
        (fun _ heq => .inr (.inr heq)) (fun _ heq => heq) nofun (fun _ => nofun)
        (fun event' hholds => ?_) (fun event' heq hleft => ?_) fun _ => nofun
      · cases hholds
        exact hheld
      · cases heq
        obtain ⟨row, hrow, his, -, hcount⟩ := hheld
        have hlimit : row.maxRetries = event.maxRetries := by
          unfold OutboxEvent.Is at his
          rw [his]
        have hsome : c.fails.isSome = true := by rw [hfails]; rfl
        refine ⟨e, List.mem_append_right _ (List.mem_singleton.mpr rfl), ?_⟩
        subst he
        exact ⟨rfl, hsome, rfl, row, hrow, his.id_eq, by omega⟩
  | published _ hfails =>
      refine h.moves hw .publish (.published _ hfails) (fun _ _ _ => nofun)
        (fun _ heq => .inr (.inr heq)) (fun _ heq => heq) nofun (fun _ => nofun)
        (fun event' hholds => ?_) (fun _ => nofun) fun _ => nofun
      cases hholds
      exact hheld

/-- The writes of a status that follow. -/
theorem Pass.marked (h : Pass events past i w ⟨rest, .sent event⟩) (hd : Delivering past w)
    (hk : progressOf past i = some ⟨rest, .sent event⟩)
    (hperforms : Performs i c w (.update event.id { status := .published }) (.ok ()) w') :
    Pass events (past ++ [e]) i w' ⟨rest, .idle⟩ := by
  refine h.moves hd.numbered .mark hperforms (fun row hrow columns heq => ?_) (fun event' heq => ?_)
    (fun _ => nofun) nofun (fun _ => nofun) (fun _ => nofun) (fun _ => nofun) fun _ => nofun
  · exact h.ne_of_waiting hd hk rfl hrow (Op.update.inj heq).1.symm
  · cases heq
    exact .inl (.inl (hperforms.hasAccepted (hd.sent i _ event hk rfl)))

theorem Pass.retried (h : Pass events past i w ⟨rest, .failing event⟩) (hd : Delivering past w)
    (hk : progressOf past i = some ⟨rest, .failing event⟩) {message : String}
    (hperforms : Performs i c w (.update event.id (retryColumns event message)) (.ok ()) w') :
    Pass events (past ++ [e]) i w'
      (advance (.update event.id (retryColumns event message)) (.ok ()) ⟨rest, .failing event⟩) := by
  have hrows : ∀ row ∈ rest, ∀ columns,
      Op.update event.id (retryColumns event message) ≠ .update row.id columns := by
    intro row hrow columns heq
    exact h.ne_of_waiting hd hk rfl hrow (Op.update.inj heq).1.symm
  simp only [advance, Progress.wrote, retryColumns]
  split
  · exact h.moves hd.numbered (.retry message) hperforms hrows (fun _ heq => .inr (.inr heq))
      (fun _ heq => heq) (by simp) (by simp) (by simp [Progress.holds]) (by simp) (by simp)
  · rename_i hleft
    refine h.moves hd.numbered (.retry message) hperforms hrows (fun event' heq => ?_)
      (fun _ heq => by cases heq) (by simp) (by simp) (by simp [Progress.holds]) (by simp) (by simp)
    cases heq
    exact .inr (.inl (h.refused event rfl (by omega)).mono)

theorem Pass.gaveUp (h : Pass events past i w ⟨rest, .returned event⟩) (hd : Delivering past w)
    (hk : progressOf past i = some ⟨rest, .returned event⟩) {message : String}
    (hlimit : event.maxRetries ≤ event.retryCount + 1)
    (hperforms : Performs i c w (.update event.id { status := .failed, lastError := some message })
      (.ok ()) w') :
    Pass events (past ++ [e]) i w' ⟨rest, .buried event⟩ := by
  refine h.moves hd.numbered (.bury message hlimit) hperforms (fun row hrow columns heq => ?_)
    (fun _ heq => .inr (.inr heq)) (fun _ heq => heq) nofun (fun _ => nofun) (fun _ => nofun)
    (fun _ => nofun) fun event' heq => ?_
  · exact h.ne_of_waiting hd hk rfl hrow (Op.update.inj heq).1.symm
  · cases heq
    obtain ⟨row, hrow, his⟩ := hd.known i _ event hk (.inr rfl)
    refine .inr ?_
    cases hperforms with
    | updated =>
        have hmem : ({ status := .failed, lastError := some message } : Columns).apply row ∈
            w.updated event.id { status := .failed, lastError := some message } :=
          Table.mem_modify.mpr ⟨row, hrow, .inl ⟨his.id_eq, rfl⟩⟩
        exact ⟨_, hmem, his.id_eq, rfl⟩

theorem Pass.deadLettered {r : Except Exception Unit}
    (h : Pass events past i w ⟨rest, .buried event⟩) (hw : Numbered w) {message : String}
    (hperforms : Performs i c w (.publish (.deadLetter event.eventType event.payload event.eventId
      message event.retryCount)) r w') :
    Pass events (past ++ [e]) i w' ⟨rest, .idle⟩ := by
  refine h.moves hw (.deadLetter message) hperforms (fun _ _ _ => nofun) (fun event' heq => ?_)
    (fun _ => nofun) nofun (fun _ => nofun) (fun _ => nofun) (fun _ => nofun) fun _ => nofun
  cases heq
  exact .inl (hperforms.passed (fun {id columns} heq => by cases heq) (h.buried event rfl))

theorem Event.ok_of_brokerOnly (h : Event.brokerOnly (.performed w i c op w'))
    (hperforms : Performs i c w op r w') (hop : ∀ message, op ≠ .publish message) :
    ∃ a, r = .ok a := by
  cases hperforms with
  | crashed _ _ hc =>
      cases op with
      | publish message => exact absurd rfl (hop message)
      | uuid => rw [h.1] at hc; cases hc
      | insert => rw [h.1] at hc; cases hc
      | find => rw [h.1] at hc; cases hc
      | update => rw [h.1] at hc; cases hc
  | failed _ _ hfails =>
      cases op with
      | publish message => exact absurd rfl (hop message)
      | uuid => rw [h.2] at hfails; cases hfails
      | insert => rw [h.2] at hfails; cases hfails
      | find => rw [h.2] at hfails; cases hfails
      | update => rw [h.2] at hfails; cases hfails
  | drew => exact ⟨_, rfl⟩
  | stored => exact ⟨_, rfl⟩
  | found => exact ⟨_, rfl⟩
  | updated => exact ⟨_, rfl⟩
  | published => exact ⟨_, rfl⟩

theorem Pass.performed (ho : Ordering events past w) (hd : Delivering past w)
    (hstored : events.Pairwise fun event later => event.createdAt < later.createdAt)
    (hidle : ∀ j k' event, j ≠ i → progressOf past j = some k' → ¬k'.Knows event)
    (hk : progressOf past i = some k) (hnext : Next k op)
    (hbroker : Event.brokerOnly (.performed w i c op w')) (hperforms : Performs i c w op r w') :
    Pass events (past ++ [.performed w i c op w']) i w' (advance op r k) := by
  have h := ho.pass i k hk
  cases hnext with
  | uuid => exact absurd rfl h.storing
  | insert => exact absurd rfl h.storing
  | find =>
      obtain ⟨batch, rfl⟩ := Event.ok_of_brokerOnly hbroker hperforms (fun _ => nofun)
      cases hperforms with
      | found _ hselects =>
          refine Pass.found ho hd hstored (fun j k' event hk' hholds => ?_) hselects
          by_cases hj : j = i
          · subst hj
            rw [hk, Option.some.injEq] at hk'
            subst hk'
            cases hholds
          · exact hidle j k' event hj hk' (.inr (Stage.event_of_holds hholds))
  | claim =>
      obtain ⟨_, rfl⟩ := Event.ok_of_brokerOnly hbroker hperforms (fun _ => nofun)
      exact h.claimed hd.numbered hperforms
  | publish => exact h.published hd.numbered hbroker hperforms rfl
  | mark =>
      obtain ⟨_, rfl⟩ := Event.ok_of_brokerOnly hbroker hperforms (fun _ => nofun)
      exact h.marked hd hk hperforms
  | retry message =>
      obtain ⟨_, rfl⟩ := Event.ok_of_brokerOnly hbroker hperforms (fun _ => nofun)
      exact h.retried hd hk hperforms
  | bury message hlimit =>
      obtain ⟨_, rfl⟩ := Event.ok_of_brokerOnly hbroker hperforms (fun _ => nofun)
      exact h.gaveUp hd hk hlimit hperforms
  | deadLetter message => exact h.deadLettered hd.numbered hperforms

/-! ## Runs -/

/-- What the broker takes is in its place, unless the event overtakes one that was refused. -/
theorem Ordering.taken (ho : Ordering events past w) (hk : progressOf past i = some k)
    (hnext : Next k op) (hevents : (events.map OutboxEvent.eventId).Nodup)
    (hsafe : ∀ e ∈ past, ¬Overtakes events e (.performed w i c op w'))
    {routingKey payload : String} (hevent : event ∈ events)
    (hop : op = .publish (.event routingKey payload event.eventId)) (hfails : c.fails = none)
    {earlier : OutboxEvent} (hearlier : earlier ∈ events)
    (haggregate : earlier.aggregateId = event.aggregateId)
    (hlt : earlier.createdAt < event.createdAt) : w.Passed earlier := by
  cases hnext with
  | @publish taken rest =>
      have h := ho.pass i _ hk
      have his : taken.Is event := by
        obtain ⟨row, hrow, hrowIs, -⟩ := h.held taken rfl
        obtain ⟨event', hevent', hrowIs'⟩ := ho.rows row hrow
        have htaken : taken.Is event' := hrowIs.of_row hrowIs'
        have heq : event' = event := by
          refine List.inj_on_of_nodup_map hevents hevent' hevent ?_
          rw [← htaken.eventId_eq]
          injection hop with hmessage
          injection hmessage
        exact heq ▸ htaken
      rw [← his.createdAt_eq] at hlt
      rw [← his.aggregateId_eq] at haggregate
      rcases h.ahead taken (.inr rfl) earlier hearlier haggregate hlt with
        hthrough | hno | ⟨known, hknows, hknown⟩
      · exact hthrough
      · obtain ⟨e, hmem, hcall, hrefuses⟩ := hno
        rw [his.createdAt_eq] at hlt
        rw [his.aggregateId_eq] at haggregate
        exact absurd ⟨hcall, earlier, hearlier, event, hevent, haggregate, hlt, hrefuses, hfails,
          his.eventId_eq⟩ (hsafe e hmem)
      · rw [← hknown.createdAt_eq] at hlt
        rcases hknows with hrest | hstage
        · have hlater := h.later taken rfl known hrest
          omega
        · cases hstage
          exact absurd hlt (Nat.lt_irrefl _)
  | uuid => cases hop
  | insert => cases hop
  | find => cases hop
  | claim => cases hop
  | mark => cases hop
  | retry => cases hop
  | bury => cases hop
  | deadLetter => cases hop

theorem Ordering.performed (ho : Ordering events past w) (hd : Delivering past w)
    (hstored : events.Pairwise fun event later => event.createdAt < later.createdAt)
    (hevents : (events.map OutboxEvent.eventId).Nodup)
    (hidle : ∀ j k' event, j ≠ i → progressOf past j = some k' → ¬k'.Knows event)
    (hk : progressOf past i = some k) (hnext : Next k op)
    (hbroker : Event.brokerOnly (.performed w i c op w'))
    (hsafe : ∀ e ∈ past, ¬Overtakes events e (.performed w i c op w'))
    (hperform : performWith i c op w = some (r, w')) :
    Ordering events (past ++ [.performed w i c op w']) w' := by
  obtain ⟨-, hperforms⟩ := performs hperform
  have h := ho.pass i k hk
  have hpassed : ∀ event, w.Passed event → w'.Passed event := fun event =>
    hperforms.passed (h.unfailed hd.numbered hnext)
  refine ⟨fun event hevent => ?_, fun row hrow => ?_, fun event hevent hacc earlier hearlier
    haggregate hlt => hpassed earlier ?_, fun j k' hk' => ?_⟩
  · obtain ⟨row, hrow, his⟩ := ho.stored event hevent
    exact hperforms.row_is hrow his
  · rcases hperforms.row_of hrow with ⟨new, hop⟩ | ⟨old, hold, his⟩
    · subst hop
      cases hnext
      exact absurd rfl h.storing
    · obtain ⟨event, hevent, his'⟩ := ho.rows old hold
      exact ⟨event, hevent, his.trans his'⟩
  · rcases hperforms.accepted_cases hacc with hold | ⟨routingKey, payload, hop, hfails⟩
    · exact ho.ordered event hevent hold earlier hearlier haggregate hlt
    · exact ho.taken hk hnext hevents hsafe hevent hop hfails hearlier haggregate hlt
  · by_cases hj : j = i
    · subst hj
      rw [progressOf_self hperform hk, Option.some.injEq] at hk'
      subst hk'
      exact Pass.performed ho hd hstored hidle hk hnext hbroker hperforms
    · rw [progressOf_of_ne hj] at hk'
      exact pass_of_not_knows (ho.pass j k' hk').storing fun event => hidle j k' event hj hk'

theorem Pass.mono (h : Pass events past i w k) : Pass events (past ++ [e]) i w k :=
  { h with
    refused := fun event hstage hleft => (h.refused event hstage hleft).mono
    ahead := fun event hevent earlier hearlier haggregate hlt =>
      (h.ahead event hevent earlier hearlier haggregate hlt).imp_right fun h =>
        h.imp_left Refused.mono }

theorem Ordering.started (ho : Ordering events past w) :
    Ordering events (past ++ [.started w i .publishPendingEvents]) w where
  stored := ho.stored
  rows := ho.rows
  ordered := ho.ordered
  pass j k hk := by
    by_cases hj : j = i
    · subst hj
      have hself : progressOf (past ++ [.started w j .publishPendingEvents]) j =
          some Request.publishPendingEvents.progress := System.trace_started_self
      rw [hself, Option.some.injEq] at hk
      subst hk
      exact pass_of_not_knows nofun fun _ => Request.not_knows_progress _
    · have hother : progressOf (past ++ [.started w i .publishPendingEvents]) j =
          progressOf past j := System.trace_started_of_ne hj
      rw [hother] at hk
      exact (ho.pass j k hk).mono

theorem ordering_init {nextId : Nat} : Ordering events [] (.of nextId events) where
  stored event hevent := ⟨event, hevent, rfl⟩
  rows row hrow := ⟨row, hrow, rfl⟩
  ordered event _ hacc := by
    obtain ⟨routingKey, payload, hmem⟩ := hacc
    exact absurd hmem List.not_mem_nil
  pass i k hk := by cases hk

theorem Event.not_strands (h : Event.brokerOnly (.performed w i c op w')) :
    ¬Event.strands (.performed w i c op w') := by
  intro hstrands
  rcases hstrands.1 with hcrashes | ⟨hfails, hreturns⟩
  · cases op with
    | publish message => rw [h] at hcrashes; cases hcrashes
    | uuid => rw [h.1] at hcrashes; cases hcrashes
    | insert => rw [h.1] at hcrashes; cases hcrashes
    | find => rw [h.1] at hcrashes; cases hcrashes
    | update => rw [h.1] at hcrashes; cases hcrashes
  · cases op with
    | update id columns => rw [h.2] at hfails; cases hfails
    | publish => cases hreturns
    | uuid => cases hreturns
    | insert => cases hreturns
    | find => cases hreturns

theorem Ordering.inOrder (ho : Ordering events past w) (hw : Numbered w) : InOrder w := by
  intro row hrow hacc earlier hearlier haggregate hlt
  obtain ⟨event, hevent, his⟩ := ho.rows row hrow
  obtain ⟨event', hevent', his'⟩ := ho.rows earlier hearlier
  rw [his.aggregateId_eq, his'.aggregateId_eq] at haggregate
  rw [his.createdAt_eq, his'.createdAt_eq] at hlt
  rw [his.eventId_eq] at hacc
  rcases ho.ordered event hevent hacc event' hevent' haggregate hlt with hthrough | hfailed
  · exact .inl (his'.eventId_eq ▸ hthrough)
  · obtain ⟨failed, hmem, hid, hstatus⟩ := hfailed
    rw [← List.inj_on_of_nodup_map hw.ids hmem hearlier (hid.trans his'.id_eq.symm)]
    exact .inr hstatus

/-- Where no event overtakes another one in a pass, the events of an aggregate are accepted in the
order of their creation. -/
theorem published_in_order {nextId : Nat} {ms : List (Move Request Choice)} {es : List Event}
    {P : ServicePool} (hstored : Stored nextId events)
    (hrun : service.run ms (.init (.of nextId events)) = some (es, P))
    (hserial : service.serial ms (.init (.of nextId events)) = true)
    (hbroker : ∀ e ∈ es, Event.brokerOnly e)
    (hsafe : es.Pairwise fun e e' => ¬Overtakes events e e') : InOrder P.state := by
  have htracks : service.Tracks
      (fun past w => Delivering past w ∧
        ((past.Pairwise fun e e' => ¬Overtakes events e e') → Ordering events past w))
      Request.progress (fun _ op k => Next k op) (fun _ _ _ => True) advance
      (fun _ _ k => ∀ event, ¬k.Knows event) ([] ++ es) P ∧ ∀ e ∈ es, True := by
    refine System.run_serial_tracked ?_ ?_ hrun hserial hbroker rfl (System.tracks_init
      ⟨delivering_of hstored.fresh hstored.ids hstored.pending, fun _ => ordering_init⟩)
    · intro past w i request hnew hinv hidle hallows
      have hd := hinv.1.started (hnew i (Nat.le_refl i)) request
      refine ⟨request_follows request, ⟨hd, fun hpast => ?_⟩, trivial⟩
      cases request with
      | storeEvent => exact hallows.elim
      | publishPendingEvents => exact (hinv.2 (List.pairwise_append.mp hpast).1).started
    · intro past w i c op r w' k hk hnext hinv hothers hnew hperform hallows
      have hd := hinv.1.performed hk hnext hperform (Event.not_strands hallows)
      refine ⟨trivial, ⟨hd, fun hpast => ?_⟩, trivial⟩
      obtain ⟨hbefore, -, hlast⟩ := List.pairwise_append.mp hpast
      refine (hinv.2 hbefore).performed hinv.1 hstored.times hstored.eventIds
        (fun j k' event hj hk' => ?_) hk hnext hallows
        (fun e he => hlast e he _ (List.mem_singleton.mpr rfl)) hperform
      obtain ⟨_, hnone⟩ := hothers j k' hj hk'
      exact hnone event
  exact (htracks.1.inv.2 hsafe).inOrder htracks.1.inv.1.numbered

def reserveSeats : OutboxEvent :=
  (⟨"e1", "Booking", "b1", "flight.reserve-seats", "p1"⟩ : NewEvent).row 1 1

def releaseSeats : OutboxEvent :=
  (⟨"e2", "Booking", "b1", "flight.release-seats", "p2"⟩ : NewEvent).row 2 2

theorem stored_seats : Stored 3 [reserveSeats, releaseSeats] where
  pending := by decide
  fresh := by decide
  ids := by decide
  eventIds := by decide
  times := by decide

def selecting (batch : List OutboxEvent) : Choice := { succeeds with batch }

/-- The broker refuses both events in a first pass and takes both in a second one. -/
def refusedAndTaken : List (Move Request Choice) :=
  let refused (event : OutboxEvent) : OutboxEvent :=
    { event with retryCount := 1, lastError := some "ECONNREFUSED" }
  let no := failsWith "ECONNREFUSED"
  [.start .publishPendingEvents, .run 0 (selecting [reserveSeats, releaseSeats]),
    .run 0 succeeds, .run 0 no, .run 0 succeeds, .run 0 succeeds, .run 0 no, .run 0 succeeds,
    .start .publishPendingEvents, .run 1 (selecting [refused reserveSeats, refused releaseSeats]),
    .run 1 succeeds, .run 1 succeeds, .run 1 succeeds, .run 1 succeeds, .run 1 succeeds,
    .run 1 succeeds]

theorem published_in_order_retried :
    ∃ es P, service.run refusedAndTaken (.init (.of 3 [reserveSeats, releaseSeats])) =
      some (es, P) ∧ InOrder P.state := by
  have hany : (service.run refusedAndTaken (.init (.of 3 [reserveSeats, releaseSeats]))).any
      (fun result => decide (∀ e ∈ result.1, Event.brokerOnly e) &&
        decide (result.1.Pairwise fun e e' => ¬Overtakes [reserveSeats, releaseSeats] e e')) =
      true := by
    decide +kernel
  obtain ⟨es, P, hrun, hconditions⟩ := System.exists_run hany
  rw [Bool.and_eq_true, decide_eq_true_eq, decide_eq_true_eq] at hconditions
  exact ⟨es, P, hrun, published_in_order stored_seats hrun (by decide +kernel) hconditions.1
    hconditions.2⟩

/-- The broker refuses the first event, and the same pass goes on to the second one. -/
def overtaking : List (Move Request Choice) :=
  [.start .publishPendingEvents, .run 0 (selecting [reserveSeats, releaseSeats]),
    .run 0 succeeds, .run 0 (failsWith "ECONNREFUSED"), .run 0 succeeds, .run 0 succeeds,
    .run 0 succeeds]

theorem release_overtakes_reserve :
    Stored 3 [reserveSeats, releaseSeats] ∧
      service.serial overtaking (.init (.of 3 [reserveSeats, releaseSeats])) = true ∧
      ∃ es P, service.run overtaking (.init (.of 3 [reserveSeats, releaseSeats])) = some (es, P) ∧
        (∀ e ∈ es, Event.brokerOnly e) ∧ ¬InOrder P.state := by
  have hany : (service.run overtaking (.init (.of 3 [reserveSeats, releaseSeats]))).any
      (fun result => decide (∀ e ∈ result.1, Event.brokerOnly e) &&
        !decide (InOrder result.2.state)) = true := by
    decide +kernel
  obtain ⟨es, P, hrun, hresult⟩ := System.exists_run hany
  rw [Bool.and_eq_true, decide_eq_true_eq, Bool.not_eq_true', decide_eq_false_iff_not] at hresult
  exact ⟨stored_seats, by decide +kernel, es, P, hrun, hresult⟩

end FlightBookings.Outbox
