import FlightBookings.Outbox.Delivery

/-! # Cleaning the outbox

Every night the events that were published more than a week ago are deleted,
while passes may still be at work on what they selected long before. An event
leaves the table only after the broker has accepted it, whatever fails.
-/

namespace FlightBookings.Outbox

open Await

/-! ## The service with its cleanup -/

/-- The outbox, and when each of its rows was last marked as published. -/
structure DatedWorld where
  world : World
  publishedAt : Nat → Option Nat

def DatedWorld.init : DatedWorld := ⟨World.init, fun _ => none⟩

inductive ServiceOp where
  | outbox (op : Op)
  | now
  | delete (publishedBefore : Nat)

abbrev ServiceOp.Ret : ServiceOp → Type
  | .outbox op => op.Ret
  | .now => Nat
  | .delete _ => Nat

/-- The environment also tells the time. -/
structure ServiceChoice extends Choice where
  now : Nat

/-- The write that marks a row as published dates it. -/
def DatedWorld.dated (w : DatedWorld) (now : Nat) : Op → Nat → Option Nat
  | .update id columns, row =>
      if columns.status = .published ∧ row = id then some now else w.publishedAt row
  | _, row => w.publishedAt row

/-- A row without a date is not older than any. -/
def DatedWorld.expired (w : DatedWorld) (publishedBefore : Nat) (row : OutboxEvent) : Bool :=
  row.status = .published && (w.publishedAt row.id).any fun at' => at' < publishedBefore

def DatedWorld.deleted (w : DatedWorld) (publishedBefore : Nat) : World :=
  { w.world with rows := w.world.rows.filter fun row => !w.expired publishedBefore row }

/-- An operation of call `i`: a deletion is subject to what befalls the others. -/
def ServiceOp.performWith (i : Nat) (choice : ServiceChoice) :
    (op : ServiceOp) → DatedWorld → Option (Except Exception op.Ret × DatedWorld)
  | .outbox op, w =>
      (Outbox.performWith i choice.toChoice op w.world).map fun r =>
        (r.1, ⟨r.2, if r.1.isOk then w.dated choice.now op else w.publishedAt⟩)
  | .now, w => some (.ok choice.now, w)
  | .delete publishedBefore, w =>
      if i ∈ w.world.crashed then none
      else if choice.crashes then
        some (.error (.error "worker crashed"),
          { w with world := { w.world with crashed := i :: w.world.crashed } })
      else
        match choice.fails with
        | some e => some (.error e, w)
        | none =>
            some (.ok (w.world.rows.countP (w.expired publishedBefore)),
              { w with world := w.deleted publishedBefore })

abbrev ServiceCall (α : Type) := Await.Call ServiceOp ServiceOp.Ret Exception Unit α

/-- The day a week before a time depends on the time zone of the worker. -/
def cleanupOldEvents (sevenDaysAgo : Nat → Nat) : ServiceCall Nat := do
  let now ← Call.await ServiceOp.now
  Call.await (ServiceOp.delete (sevenDaysAgo now))

inductive ServiceRequest where
  | outbox (request : Request)
  | cleanupOldEvents

def ServiceRequest.call (sevenDaysAgo : Nat → Nat) : ServiceRequest → ServiceCall (Option OutboxEvent)
  | .outbox request => request.call.lift ServiceOp.outbox fun _ r => r
  | .cleanupOldEvents => do
      let _ ← Outbox.cleanupOldEvents sevenDaysAgo
      pure none

def outboxService (sevenDaysAgo : Nat → Nat) :
    System ServiceRequest ServiceOp (fun op => Except Exception op.Ret) ServiceChoice
      (Except Exception (Option OutboxEvent) × Unit) DatedWorld where
  perform i choice op w := op.performWith i choice w
  program request := request.call sevenDaysAgo ()

abbrev ServiceEvent := Await.Event ServiceRequest ServiceOp ServiceChoice DatedWorld

/-! ## What a call knows -/

def ServiceRequest.progress : ServiceRequest → Progress
  | .outbox request => request.progress
  | .cleanupOldEvents => .empty

def ServiceOp.advance : (op : ServiceOp) → Except Exception op.Ret → Progress → Progress
  | .outbox op, r, k => Outbox.advance op r k
  | .now, _, k => k
  | .delete _, _, k => k

/-- The cleanup stands nowhere. -/
def ServiceOp.Follows (k : Progress) : ServiceOp → Prop
  | .outbox op => Next k op
  | .now => True
  | .delete _ => True

theorem ServiceRequest.not_knows_progress {event : OutboxEvent} (request : ServiceRequest) :
    ¬request.progress.Knows event := by
  cases request with
  | outbox request => exact request.not_knows_progress
  | cleanupOldEvents => exact Progress.not_knows_empty

theorem serviceRequest_follows (sevenDaysAgo : Nat → Nat) (request : ServiceRequest) :
    ((outboxService sevenDaysAgo).program request).wp
      (tracked (fun op k => op.Follows k) (fun _ _ => True) ServiceOp.advance)
      (fun _ _ => True) request.progress := by
  cases request with
  | outbox request =>
      have hlift : (Program.lift ServiceOp.outbox (fun _ r => r) (request.call ())).wp
          (tracked (fun op k => op.Follows k) (fun _ _ => True) ServiceOp.advance)
          (fun _ _ => True) request.progress := by
        rw [Program.wp_lift]
        exact Program.wp_mono (fun _ _ _ => trivial) (request_follows request)
      exact hlift
  | cleanupOldEvents =>
      refine ⟨trivial, fun now _ => ?_⟩
      cases now with
      | error e => trivial
      | ok now =>
          refine ⟨trivial, fun affected _ => ?_⟩
          cases affected <;> trivial

def serviceProgress (sevenDaysAgo : Nat → Nat) (past : List ServiceEvent) (i : Nat) :
    Option Progress :=
  (outboxService sevenDaysAgo).trace ServiceRequest.progress ServiceOp.advance i past

/-! ## What one operation does -/

/-- No row can pass for the event but its own. -/
structure World.Identifies (w : World) (event : OutboxEvent) : Prop where
  drawn : event.id < w.nextId
  own : ∀ row ∈ w.rows, row.id = event.id → row.Is event

section Steps

variable {i : Nat} {c : Choice} {op : Op} {r : Except Exception op.Ret} {w w' : World}
variable {event row : OutboxEvent}

theorem Performs.nextId_le (h : Performs i c w op r w') : w.nextId ≤ w'.nextId := by
  cases h with
  | stored event =>
      show w.nextId ≤ w.nextId + 1
      omega
  | crashed => exact Nat.le_refl _
  | failed => exact Nat.le_refl _
  | drew => exact Nat.le_refl _
  | found => exact Nat.le_refl _
  | updated => exact Nat.le_refl _
  | published => exact Nat.le_refl _

/-- A row was there before, or it is new. -/
theorem Performs.row_origin (h : Performs i c w op r w') (hrow : row ∈ w'.rows) :
    (∃ old ∈ w.rows, row.Is old) ∨ w.nextId ≤ row.id := by
  cases h with
  | stored event =>
      rcases List.mem_append.mp hrow with hold | hnew
      · exact .inl ⟨row, hold, rfl⟩
      · rw [List.mem_singleton.mp hnew]
        exact .inr (Nat.le_refl _)
  | updated id columns =>
      obtain ⟨old, hold, ⟨-, rfl⟩ | ⟨-, rfl⟩⟩ := Table.mem_modify.mp hrow
      · have hself : old.Is old := rfl
        exact .inl ⟨old, hold, hself.apply columns⟩
      · exact .inl ⟨row, hold, rfl⟩
  | crashed => exact .inl ⟨row, hrow, rfl⟩
  | failed => exact .inl ⟨row, hrow, rfl⟩
  | drew => exact .inl ⟨row, hrow, rfl⟩
  | found => exact .inl ⟨row, hrow, rfl⟩
  | published => exact .inl ⟨row, hrow, rfl⟩

theorem Numbered.identifies (h : Numbered w) (hevent : event ∈ w.rows) : w.Identifies event where
  drawn := h.fresh event hevent
  own row hrow hid := by
    have heq : row = event := List.inj_on_of_nodup_map h.ids hrow hevent hid
    rw [heq]
    rfl

theorem Performs.identifies (h : Performs i c w op r w') (hw : w.Identifies event) :
    w'.Identifies event where
  drawn := Nat.lt_of_lt_of_le hw.drawn h.nextId_le
  own row hrow hid := by
    have hdrawn := hw.drawn
    rcases h.row_origin hrow with ⟨old, hold, his⟩ | hnew
    · exact his.trans (hw.own old hold (his.id_eq.symm.trans hid))
    · omega

/-- Only a row that is accepted is marked as published. -/
theorem Performs.published_accepted {k : Progress} (h : Performs i c w op r w') (hnext : Next k op)
    (hknown : ∀ event, k.Knows event → w.Identifies event)
    (hsent : ∀ event, k.stage = .sent event → w.hasAccepted event.eventId)
    (hpublished : ∀ row ∈ w.rows, row.status = .published → w.hasAccepted row.eventId)
    (hrow : row ∈ w'.rows) (hstatus : row.status = .published) : w'.hasAccepted row.eventId := by
  refine h.hasAccepted ?_
  rcases h.row_cases hrow with hpending | ⟨hold, -⟩ | ⟨old, hold, columns, rfl, -, rfl⟩
  · rw [hpending] at hstatus
    cases hstatus
  · exact hpublished row hold hstatus
  · obtain ⟨event, hid, hstage⟩ := hnext.of_published hstatus
    have hknows : k.Knows event := .inr (by rw [hstage]; rfl)
    have his : old.Is event := (hknown event hknows).own old hold hid.symm
    have hacc := hsent event hstage
    rw [← his.eventId_eq] at hacc
    exact hacc

end Steps

/-! ## The runs -/

/-- The table still has the event, or the broker has accepted it. -/
def World.Keeps (w : World) (event : OutboxEvent) : Prop :=
  (∃ row ∈ w.rows, row.Is event) ∨ w.hasAccepted event.eventId

variable {sevenDaysAgo : Nat → Nat} {past : List ServiceEvent} {w w' : DatedWorld}
variable {i : Nat} {c : ServiceChoice} {k : Progress}

/-- What the calls know of the events is true of the table, and what is published is accepted. -/
structure Retaining (sevenDaysAgo : Nat → Nat) (past : List ServiceEvent) (w : DatedWorld) : Prop where
  numbered : Numbered w.world
  known : ∀ i k event, serviceProgress sevenDaysAgo past i = some k → k.Knows event →
    w.world.Identifies event
  sent : ∀ i k event, serviceProgress sevenDaysAgo past i = some k → k.stage = .sent event →
    w.world.hasAccepted event.eventId
  published : ∀ row ∈ w.world.rows, row.status = .published → w.world.hasAccepted row.eventId
  kept : ∀ e ∈ past, ∀ row ∈ e.after.world.rows, w.world.Keeps row

theorem retaining_init : Retaining sevenDaysAgo [] DatedWorld.init where
  numbered := ⟨fun _ hrow => absurd hrow List.not_mem_nil, List.nodup_nil⟩
  known _ _ _ hk := by cases hk
  sent _ _ _ hk := by cases hk
  published _ hrow := absurd hrow List.not_mem_nil
  kept _ he := absurd he List.not_mem_nil

theorem World.Keeps.of_mem {w : World} {row : OutboxEvent} (h : row ∈ w.rows) : w.Keeps row :=
  .inl ⟨row, h, rfl⟩

/-- What was kept so far stays kept, and the rows that are there are. -/
theorem kept_snoc {e : ServiceEvent} (hkeeps : ∀ event, w.world.Keeps event → w'.world.Keeps event)
    (h : ∀ e ∈ past, ∀ row ∈ e.after.world.rows, w.world.Keeps row) (hafter : e.after = w') :
    ∀ e' ∈ past ++ [e], ∀ row ∈ e'.after.world.rows, w'.world.Keeps row := by
  intro e' he' row hrow
  rcases List.mem_append.mp he' with hold | hlast
  · exact hkeeps row (h e' hold row hrow)
  · rw [List.mem_singleton.mp hlast, hafter] at hrow
    exact .of_mem hrow

theorem Performs.keeps {op : Op} {r : Except Exception op.Ret} {choice : Choice} {w w' : World}
    {event : OutboxEvent} (h : Performs i choice w op r w') (hkeeps : w.Keeps event) :
    w'.Keeps event := by
  rcases hkeeps with ⟨row, hrow, his⟩ | hacc
  · exact .inl (h.row_is hrow his)
  · exact .inr (h.hasAccepted hacc)

theorem Retaining.started (h : Retaining sevenDaysAgo past w) (request : ServiceRequest) :
    Retaining sevenDaysAgo (past ++ [.started w i request]) w where
  numbered := h.numbered
  known j k event hk hknows := by
    rcases System.trace_started_cases hk with ⟨-, rfl⟩ | ⟨-, hold⟩
    · exact absurd hknows request.not_knows_progress
    · exact h.known j k event hold hknows
  sent j k event hk hstage := by
    rcases System.trace_started_cases hk with ⟨-, rfl⟩ | ⟨-, hold⟩
    · have hknows : request.progress.Knows event := .inr (by rw [hstage]; rfl)
      exact absurd hknows request.not_knows_progress
    · exact h.sent j k event hold hstage
  published := h.published
  kept := kept_snoc (fun _ hkeeps => hkeeps) h.kept rfl

/-- An operation that has nothing to do with a publication removes published rows at most. -/
structure Trims (w w' : World) : Prop where
  nextId : w'.nextId = w.nextId
  accepted : w'.accepted = w.accepted
  subset : w'.rows.Sublist w.rows
  removed : ∀ row ∈ w.rows, row ∉ w'.rows → row.status = .published

theorem trims_refl (w : World) (crashed : List Nat) : Trims w { w with crashed := crashed } where
  nextId := rfl
  accepted := rfl
  subset := List.Sublist.refl _
  removed _ hrow hnot := absurd hrow hnot

theorem trims_deleted (w : DatedWorld) (publishedBefore : Nat) :
    Trims w.world (w.deleted publishedBefore) where
  nextId := rfl
  accepted := rfl
  subset := List.filter_sublist
  removed row hrow hnot := by
    have hexpired : w.expired publishedBefore row = true := by
      by_contra hkept
      exact hnot (List.mem_filter.mpr ⟨hrow, by simp [hkept]⟩)
    simp only [DatedWorld.expired, Bool.and_eq_true, decide_eq_true_eq] at hexpired
    exact hexpired.1

theorem trims_of_delete {publishedBefore : Nat} {r : Except Exception Nat}
    (h : (ServiceOp.delete publishedBefore).performWith i c w = some (r, w')) :
    Trims w.world w'.world := by
  simp only [ServiceOp.performWith] at h
  split at h
  · cases h
  · split at h
    · cases h
      exact trims_refl w.world _
    · split at h
      · cases h
        exact trims_refl w.world w.world.crashed
      · cases h
        exact trims_deleted w publishedBefore

theorem Trims.hasAccepted {w w' : World} (h : Trims w w') {eventId : String}
    (hacc : w.hasAccepted eventId) : w'.hasAccepted eventId := by
  unfold World.hasAccepted
  rw [h.accepted]
  exact hacc

theorem Trims.numbered {w w' : World} (h : Trims w w') (hw : Numbered w) : Numbered w' where
  fresh row hrow := by
    have hlt := hw.fresh row (h.subset.subset hrow)
    have hsame := h.nextId
    omega
  ids := hw.ids.sublist (h.subset.map OutboxEvent.id)

/-- The identifier of a row that is gone is not drawn again. -/
theorem Trims.identifies {w w' : World} {event : OutboxEvent} (h : Trims w w')
    (hw : w.Identifies event) : w'.Identifies event where
  drawn := by
    have hdrawn := hw.drawn
    have hsame := h.nextId
    omega
  own row hrow hid := hw.own row (h.subset.subset hrow) hid

theorem Trims.keeps {w w' : World} {event : OutboxEvent} (h : Trims w w')
    (hpublished : ∀ row ∈ w.rows, row.status = .published → w.hasAccepted row.eventId)
    (hkeeps : w.Keeps event) : w'.Keeps event := by
  rcases hkeeps with ⟨row, hrow, his⟩ | hacc
  · by_cases hstays : row ∈ w'.rows
    · exact .inl ⟨row, hstays, his⟩
    · have hacc := hpublished row hrow (h.removed row hrow hstays)
      rw [his.eventId_eq] at hacc
      exact .inr (h.hasAccepted hacc)
  · exact .inr (h.hasAccepted hacc)

theorem Retaining.trimmed (h : Retaining sevenDaysAgo past w) {op : ServiceOp}
    {r : Except Exception op.Ret} (hk : serviceProgress sevenDaysAgo past i = some k)
    (hperform : op.performWith i c w = some (r, w')) (hstays : op.advance r k = k)
    (htrims : Trims w.world w'.world) :
    Retaining sevenDaysAgo (past ++ [.performed w i c op w']) w' := by
  have hbefore : ∀ j kj, serviceProgress sevenDaysAgo (past ++ [.performed w i c op w']) j =
      some kj → serviceProgress sevenDaysAgo past j = some kj := by
    intro j kj hj
    rcases System.trace_performed_cases hperform hk hj with ⟨rfl, rfl⟩ | ⟨-, hold⟩
    · rw [hstays]
      exact hk
    · exact hold
  constructor
  case numbered => exact htrims.numbered h.numbered
  case known =>
    intro j kj event hj hknows
    exact htrims.identifies (h.known j kj event (hbefore j kj hj) hknows)
  case sent =>
    intro j kj event hj hstage
    exact htrims.hasAccepted (h.sent j kj event (hbefore j kj hj) hstage)
  case published =>
    intro row hrow hstatus
    exact htrims.hasAccepted (h.published row (htrims.subset.subset hrow) hstatus)
  case kept => exact kept_snoc (fun _ => htrims.keeps h.published) h.kept rfl

theorem Retaining.performed (h : Retaining sevenDaysAgo past w) {op : Op}
    {r : Except Exception op.Ret} (hk : serviceProgress sevenDaysAgo past i = some k)
    (hnext : Next k op) (hperform : (ServiceOp.outbox op).performWith i c w = some (r, w')) :
    Retaining sevenDaysAgo (past ++ [.performed w i c (.outbox op) w']) w' := by
  have hperforms : Performs i c.toChoice w.world op r w'.world := by
    obtain ⟨⟨r', world⟩, hsucceeds, heq⟩ := Option.map_eq_some_iff.mp hperform
    cases heq
    exact (performs hsucceeds).2
  constructor
  case numbered => exact hperforms.numbered h.numbered
  case known =>
    intro j kj event hj hknows
    rcases System.trace_performed_cases hperform hk hj with ⟨rfl, rfl⟩ | ⟨-, hold⟩
    · rcases hnext.learns hperforms hknows with hbefore | hrow
      · exact hperforms.identifies (h.known j k event hk hbefore)
      · exact hperforms.identifies (h.numbered.identifies hrow)
    · exact hperforms.identifies (h.known j kj event hold hknows)
  case sent =>
    intro j kj event hj hstage
    rcases System.trace_performed_cases hperform hk hj with ⟨rfl, rfl⟩ | ⟨-, hold⟩
    · exact hnext.sent hperforms hstage
    · exact hperforms.hasAccepted (h.sent j kj event hold hstage)
  case published =>
    intro row hrow hstatus
    exact hperforms.published_accepted hnext (fun event => h.known i k event hk)
      (fun event => h.sent i k event hk) h.published hrow hstatus
  case kept => exact kept_snoc (fun _ => hperforms.keeps) h.kept rfl

/-- In every run, whatever fails, every event that the table ever held is still there, or the broker
has accepted it. -/
theorem events_retained {ms : List (Move ServiceRequest ServiceChoice)} {es : List ServiceEvent}
    {P : Pool ServiceOp (fun op => Except Exception op.Ret)
      (Except Exception (Option OutboxEvent) × Unit) DatedWorld}
    (hrun : (outboxService sevenDaysAgo).run ms (.init DatedWorld.init) = some (es, P)) :
    ∀ e ∈ es, ∀ row ∈ e.after.world.rows, P.state.world.Keeps row := by
  have htracks : (outboxService sevenDaysAgo).Tracks (Retaining sevenDaysAgo)
      ServiceRequest.progress (fun _ op k => op.Follows k) (fun _ _ _ => True) ServiceOp.advance
      (fun _ _ _ => True) ([] ++ es) P ∧ ∀ e ∈ es, True := by
    refine System.run_tracked ?_ ?_ hrun (fun _ _ => trivial) (System.tracks_init retaining_init)
    · intro past w i request _ h _
      exact ⟨serviceRequest_follows sevenDaysAgo request, h.started request, trivial⟩
    · intro past w i c op r w' k hk hfollows h hperform _
      suffices hinv : Retaining sevenDaysAgo (past ++ [.performed w i c op w']) w' from
        ⟨trivial, hinv, trivial⟩
      cases op with
      | outbox op => exact h.performed hk hfollows hperform
      | now =>
          have htrims : Trims w.world w'.world := by
            cases hperform
            exact trims_refl w.world w.world.crashed
          exact h.trimmed hk hperform rfl htrims
      | delete publishedBefore => exact h.trimmed hk hperform rfl (trims_of_delete hperform)
  exact htracks.1.inv.kept

/-- An event is stored and published on the first day, and the table is cleaned on the ninth. -/
def cleaned : List (Move ServiceRequest ServiceChoice) :=
  let day := 86400000
  let choice : ServiceChoice := ⟨⟨false, none, "e1", 1, []⟩, day⟩
  let event : NewEvent := ⟨"e1", "Booking", "b1", "flight.reserve-seats", "p1"⟩
  [.start (.outbox (.storeEvent "Booking" "b1" "flight.reserve-seats" "p1")), .run 0 choice,
    .run 0 choice, .start (.outbox .publishPendingEvents),
    .run 1 { choice with batch := [event.row 1 1] }, .run 1 choice, .run 1 choice, .run 1 choice,
    .start .cleanupOldEvents, .run 2 { choice with now := 9 * day },
    .run 2 { choice with now := 9 * day }]

theorem events_retained_cleaned :
    ∃ es P, (outboxService fun now => now - 7 * 86400000).run cleaned (.init DatedWorld.init) =
        some (es, P) ∧
      (P.state.world.rows = [] ∧ ∃ e ∈ es, e.after.world.rows ≠ []) ∧
      ∀ e ∈ es, ∀ row ∈ e.after.world.rows, P.state.world.Keeps row := by
  have hrun : ((outboxService fun now => now - 7 * 86400000).run cleaned
      (.init DatedWorld.init)).any (fun result => decide (result.2.state.world.rows = []) &&
        result.1.any fun e => decide (e.after.world.rows ≠ [])) = true := by decide +kernel
  obtain ⟨es, P, hrun, hafter⟩ := System.exists_run hrun
  rw [Bool.and_eq_true, decide_eq_true_eq, List.any_eq_true] at hafter
  obtain ⟨hempty, e, he, hheld⟩ := hafter
  exact ⟨es, P, hrun, ⟨hempty, e, he, of_decide_eq_true hheld⟩, events_retained hrun⟩

end FlightBookings.Outbox
