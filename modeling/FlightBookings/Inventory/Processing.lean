import FlightBookings.Inventory.Service

/-! # Exactly-once processing

The transaction of an event commits at most once, together with the row that
marks the event as processed, and no count becomes negative. A release of a
flight that does not exist commits as well, and changes no count.
-/

namespace FlightBookings.Inventory

open Await

/-- What the claim about the handlers assumes of a delivery. -/
def Delivery.WellFormed (d : Delivery) : Prop :=
  0 < d.msg.seatCount ∧ (getSeatField d.msg.seatClass).isSome

instance : DecidablePred Delivery.WellFormed := fun d =>
  inferInstanceAs (Decidable (0 < d.msg.seatCount ∧ (getSeatField d.msg.seatClass).isSome = true))

/-- The delivery whose transaction commits. -/
def committed : Event → Option Delivery
  | .performed w _ none (.transaction kind msg) _ =>
      match (transactionOf kind msg).run w with
      | .ok _ => some ⟨kind, msg⟩
      | .error _ => none
  | _ => none

/-- A transaction of the event commits. -/
def commits (eventId : String) (e : Event) : Bool :=
  (committed e).any fun d => d.msg.eventId = eventId

/-- The event changes the inventory. -/
def changes (eventId : String) (e : Event) : Bool :=
  commits eventId e && e.before.flights ≠ e.after.flights

/-- The rows that mark the event as processed. -/
def marks (eventId : String) (w : World) : Nat :=
  w.processedEvents.countP fun p => p.eventId = eventId

/-- The primary key of the flights and the unique index of the processed events. -/
structure World.Keyed (w : World) : Prop where
  flights : (w.flights.map Flight.id).Nodup
  processedEvents : (w.processedEvents.map ProcessedEvent.eventId).Nodup

/-- The count of the flight is not below zero, if the flight is there. -/
def World.Nonneg (w : World) (id : Int) (field : SeatField) : Prop :=
  ∀ f ∈ w.flights, f.id = id → 0 ≤ f.available field

/-! ## What a transaction does -/

/-- The flights that the transaction of a message leaves. -/
inductive Applies (msg : FlightSeatEvent) (w : World) : Kind → List Flight → Prop where
  | reserve {field : SeatField} {flight : Flight} (hfield : getSeatField msg.seatClass = some field)
      (hflight : w.flight msg.flightId = some flight)
      (henough : msg.seatCount ≤ flight.available field) :
      Applies msg w .reserve
        (Table.modify Flight.id msg.flightId (fun f => f.add (-msg.seatCount) field) w.flights)
  | confirm : Applies msg w .confirm w.flights
  | release {field : SeatField} (hfield : getSeatField msg.seatClass = some field) :
      Applies msg w .release
        (Table.modify Flight.id msg.flightId (fun f => f.add msg.seatCount field) w.flights)

/-- A transaction that commits. -/
structure Applied (d : Delivery) (w w' : World) : Prop where
  unprocessed : w.processed d.msg.eventId = none
  flights : Applies d.msg w d.kind w'.flights
  marked : ∃ p : ProcessedEvent, p.eventId = d.msg.eventId ∧
    w'.processedEvents = w.processedEvents ++ [p]

variable {w w' : World} {msg : FlightSeatEvent} {kind : Kind} {d : Delivery} {eventId : String}

theorem saveProcessedEvent_ok {p : ProcessedEvent} {u : Unit}
    (h : (saveProcessedEvent p).run w = .ok (u, w')) : w.processed p.eventId = none ∧
      w' = { w with processedEvents := w.processedEvents ++ [p] } := by
  cases hfind : w.processed p.eventId with
  | some old =>
      have hrun : (saveProcessedEvent p).run w =
          .error (.error "duplicate key value violates unique constraint") := by
        simp only [saveProcessedEvent, StateT.run_bind, StateT.run_get, pure_bind, hfind]
        rfl
      rw [hrun] at h
      cases h
  | none =>
      have hrun : (saveProcessedEvent p).run w =
          .ok ((), { w with processedEvents := w.processedEvents ++ [p] }) := by
        simp only [saveProcessedEvent, StateT.run_bind, StateT.run_get, pure_bind, hfind]
        rfl
      rw [hrun] at h
      cases h
      exact ⟨rfl, rfl⟩

/-- An update of the flights, followed by the row of the event. -/
theorem increment_ok {field : Option SeatField} {flightId n : Int} {p : ProcessedEvent} {u : Unit}
    (h : (do increment flightId field n; saveProcessedEvent p : Transaction Unit).run w =
      .ok (u, w')) :
    ∃ f, field = some f ∧ w.processed p.eventId = none ∧
      w' = ⟨Table.modify Flight.id flightId (fun flight => flight.add n f) w.flights,
        w.processedEvents ++ [p]⟩ := by
  cases field with
  | none => cases h
  | some f =>
      have hsave : (saveProcessedEvent p).run
          ⟨Table.modify Flight.id flightId (fun flight => flight.add n f) w.flights,
            w.processedEvents⟩ = .ok (u, w') := h
      obtain ⟨hnone, rfl⟩ := saveProcessedEvent_ok hsave
      exact ⟨f, rfl, hnone, rfl⟩

theorem transaction_ok {u : Unit} (h : (transactionOf kind msg).run w = .ok (u, w')) :
    Applied ⟨kind, msg⟩ w w' := by
  cases kind with
  | confirm =>
      obtain ⟨hnone, rfl⟩ := saveProcessedEvent_ok h
      exact ⟨hnone, .confirm, _, rfl, rfl⟩
  | release =>
      obtain ⟨field, hfield, hnone, rfl⟩ := increment_ok h
      exact ⟨hnone, .release hfield, _, rfl, rfl⟩
  | reserve =>
      cases hflight : w.flight msg.flightId with
      | none =>
          simp only [transactionOf, reserveSeats, StateT.run_bind, StateT.run_get, pure_bind,
            hflight] at h
          cases h
      | some flight =>
          cases hfield : getSeatField msg.seatClass with
          | none =>
              simp only [transactionOf, reserveSeats, StateT.run_bind, StateT.run_get, pure_bind,
                hflight, hfield] at h
              cases h
          | some field =>
              by_cases hless : flight.available field < msg.seatCount
              · simp only [transactionOf, reserveSeats, StateT.run_bind, StateT.run_get, pure_bind,
                  hflight, hfield, Option.map_some, hless, if_true] at h
                cases h
              · simp only [transactionOf, reserveSeats, StateT.run_bind, StateT.run_get, pure_bind,
                  hflight, hfield, Option.map_some, hless, if_false] at h
                have hwrites : (do
                    increment msg.flightId (some field) (-msg.seatCount)
                    saveProcessedEvent ⟨msg.eventId, "flight.reserve-seats", msg.bookingId⟩ :
                    Transaction Unit).run w = .ok (u, w') := h
                obtain ⟨field', hfield', hnone, rfl⟩ := increment_ok hwrites
                rw [Option.some.injEq] at hfield'
                subst hfield'
                have henough : msg.seatCount ≤ flight.available field := by omega
                exact ⟨hnone, .reserve hfield hflight henough, _, rfl, rfl⟩

/-! ## What an event does -/

/-- An event of a run changes nothing, or is the transaction of a delivery that was sent. -/
def Lawful (sent : Delivery → Prop) (e : Event) : Prop :=
  (committed e = none ∧ e.after = e.before) ∨
    ∃ d, committed e = some d ∧ sent d ∧ Applied d e.before e.after

/-- The transactions are those of deliveries that were sent. -/
def Op.Sent (sent : Delivery → Prop) (op : Op) : Prop :=
  ∀ kind msg, op = .transaction kind msg → sent ⟨kind, msg⟩

variable {sent : Delivery → Prop}

theorem lawful_performed {i : Nat} {fails : Option Exception} {op : Op} {r : Except Exception op.Ret}
    (hop : op.Sent sent) (h : performWith fails op w = (r, w')) :
    Lawful sent (.performed w i fails op w') := by
  cases fails with
  | some e =>
      cases h
      exact .inl ⟨rfl, rfl⟩
  | none =>
      cases op with
      | findProcessed eventId =>
          cases h
          exact .inl ⟨rfl, rfl⟩
      | transaction kind msg =>
          cases hrun : (transactionOf kind msg).run w with
          | error e =>
              have hresult : performWith none (.transaction kind msg) w = (.error e, w) := by
                simp only [performWith, Op.perform, hrun]
              rw [hresult] at h
              cases h
              exact .inl ⟨by simp only [committed, hrun], rfl⟩
          | ok result =>
              obtain ⟨u, w₁⟩ := result
              have hresult : performWith none (.transaction kind msg) w = (.ok (), w₁) := by
                simp only [performWith, Op.perform, hrun]
              rw [hresult] at h
              cases h
              exact .inr ⟨⟨kind, msg⟩, by simp only [committed, hrun], hop kind msg rfl,
                transaction_ok hrun⟩

/-- Only such deliveries come in. -/
def Receives (sent : Delivery → Prop) : Event → Prop
  | .started _ _ d => sent d
  | .performed _ _ _ _ _ => True

instance [DecidablePred sent] : DecidablePred (Receives sent)
  | .started _ _ d => inferInstanceAs (Decidable (sent d))
  | .performed _ _ _ _ _ => isTrue trivial

theorem handleSeats_emits (h : sent ⟨kind, msg⟩) :
    (handleSeats kind msg).Emits (Op.Sent sent) (fun _ _ => True) () (fun _ _ => True)
      fun _ => True := by
  refine .bind (.await nofun trivial fun alreadyProcessed _ => ?_)
  cases alreadyProcessed with
  | some p => exact .pure trivial
  | none =>
      refine .await (fun kind' msg' heq => ?_) trivial fun _ _ => trivial
      cases heq
      exact h

theorem delivery_emits (h : sent d) : (service.program d).Emits (Op.Sent sent) fun _ _ => True := by
  obtain ⟨kind, msg⟩ := d
  cases kind with
  | reserve => exact (handleSeats_emits h).program
  | confirm => exact (handleSeats_emits h).program
  | release => exact (handleSeats_emits h).program

theorem lawful_run {ms : List (Move Delivery (Option Exception))} {es : List Event}
    {w₀ : World} {P : ServicePool} (hrun : service.run ms (Pool.init w₀) = some (es, P))
    (hreceives : ∀ e ∈ es, Receives sent e) : ∀ e ∈ es, Lawful sent e := by
  have hstarted : ∀ (w : World) (i : Nat) (d : Delivery), True → Receives sent (.started w i d) →
      (service.program d).Emits (Op.Sent sent) (fun _ _ => True) ∧ Lawful sent (.started w i d) := by
    intro w i d _ hd
    exact ⟨delivery_emits hd, .inl ⟨rfl, rfl⟩⟩
  have hperform : ∀ (w : World) (i : Nat) (fails : Option Exception) (op : Op)
      (r : Except Exception op.Ret) (w' : World), op.Sent sent → True →
      service.perform i fails op w = some (r, w') → Receives sent (.performed w i fails op w') →
      True ∧ True ∧ Lawful sent (.performed w i fails op w') := by
    intro w i fails op r w' hop _ h _
    exact ⟨trivial, trivial, lawful_performed hop (Option.some.inj h)⟩
  exact (@System.run_ops _ _ _ _ _ _ service _ _ _ _ (Op.Sent sent) (fun _ _ => True)
    (fun _ => True) (Receives sent) (Lawful sent) hstarted hperform hrun hreceives trivial
    (by simp [Pool.init])).2

/-! ## What a run keeps -/

variable {e : Event}

theorem Lawful.marks (h : Lawful sent e) : marks eventId e.after =
    marks eventId e.before + if commits eventId e then 1 else 0 := by
  rcases h with ⟨hnone, hsame⟩ | ⟨d, hd, -, happlied⟩
  · simp [commits, hnone, hsame]
  · obtain ⟨p, hp, hmarked⟩ := happlied.marked
    simp [Inventory.marks, hmarked, List.countP_append, commits, hd, hp, List.countP_singleton]

theorem map_id_modify (flightId n : Int) (field : SeatField) (flights : List Flight) :
    (Table.modify Flight.id flightId (fun f => f.add n field) flights).map Flight.id =
      flights.map Flight.id :=
  Table.map_key_modify fun f hf => (Flight.add_id n f field).trans hf

theorem Applied.map_id (h : Applied d w w') : w'.flights.map Flight.id = w.flights.map Flight.id := by
  have hflights := h.flights
  generalize d.kind = kind, w'.flights = flights at hflights
  cases hflights with
  | reserve => exact map_id_modify ..
  | confirm => rfl
  | release => exact map_id_modify ..

theorem Applied.keyed (h : Applied d w w') (hw : w.Keyed) : w'.Keyed where
  flights := by
    rw [h.map_id]
    exact hw.flights
  processedEvents := by
    obtain ⟨p, hp, hmarked⟩ := h.marked
    rw [hmarked]
    exact Table.nodup_insert hw.processedEvents (hp ▸ h.unprocessed)

/-- A count of a flight stays above zero, if what is taken from it was there. -/
theorem nonneg_modify {id flightId n : Int} {field field' : SeatField} {flights : List Flight}
    (h : ∀ f ∈ flights, f.id = id → 0 ≤ f.available field')
    (hn : ∀ f ∈ flights, f.id = flightId → 0 ≤ f.available field → 0 ≤ f.available field + n) :
    ∀ f ∈ Table.modify Flight.id flightId (fun f => f.add n field) flights,
      f.id = id → 0 ≤ f.available field' := by
  intro f hf hfid
  obtain ⟨old, hmem, ⟨hid, rfl⟩ | ⟨-, rfl⟩⟩ := Table.mem_modify.mp hf
  · rw [Flight.add_id] at hfid
    rw [Flight.available_add]
    have hold := h old hmem hfid
    split
    · rename_i heq
      subst heq
      exact hn old hmem hid hold
    · omega
  · exact h f hmem hfid

/-- Each count is looked after by itself, whatever the others are. -/
theorem Applied.nonneg {id : Int} {field : SeatField} (h : Applied d w w') (hd : d.WellFormed)
    (hw : w.Keyed) (hpos : w.Nonneg id field) : w'.Nonneg id field := by
  obtain ⟨kind, msg⟩ := d
  have hcount : 0 < msg.seatCount := hd.1
  have hflights : Applies msg w kind w'.flights := h.flights
  unfold World.Nonneg
  generalize w'.flights = flights at hflights
  cases hflights with
  | confirm => exact hpos
  | release hfield => exact nonneg_modify hpos fun f _ _ hold => by omega
  | reserve hfield hflight henough =>
      rename_i field flight
      refine nonneg_modify hpos fun f hf hid _ => ?_
      have hfound : w.flight msg.flightId = some f := hid ▸ Table.find_of_mem hw.flights hf
      rw [hflight, Option.some.injEq] at hfound
      subst hfound
      omega

/-- An update that meets a row changes it. -/
theorem modify_ne {flightId n : Int} {field : SeatField} {flights : List Flight} {flight : Flight}
    (hfind : Table.find Flight.id flightId flights = some flight) (hn : n ≠ 0) :
    Table.modify Flight.id flightId (fun f => f.add n field) flights ≠ flights := by
  intro heq
  have hself : Table.find Flight.id flightId
      (Table.modify Flight.id flightId (fun f => f.add n field) flights) =
        some (flight.add n field) := by
    rw [Table.find_modify_self fun f hf => (Flight.add_id n f field).trans hf, hfind]
    rfl
  rw [heq, hfind, Option.some.injEq] at hself
  have havailable := Flight.available_add n flight field field
  rw [← hself, if_pos rfl] at havailable
  omega

/-- The only transactions that change no count are the releases of missing flights. -/
theorem Applied.changes (h : Applied d w w') (hd : d.WellFormed) (hkind : d.kind ≠ .confirm) :
    w.flights ≠ w'.flights ∨ (d.kind = .release ∧ w.flight d.msg.flightId = none) := by
  obtain ⟨kind, msg⟩ := d
  have hcount : 0 < msg.seatCount := hd.1
  have hflights : Applies msg w kind w'.flights := h.flights
  generalize w'.flights = flights at hflights
  cases hflights with
  | confirm => exact absurd rfl hkind
  | release hfield =>
      cases hflight : w.flight msg.flightId with
      | none => exact .inr ⟨rfl, rfl⟩
      | some flight => exact .inl (modify_ne hflight (by omega)).symm
  | reserve hfield hflight henough => exact .inl (modify_ne hflight (by omega)).symm

/-! ## Runs -/

theorem marks_le_one (hw : w.Keyed) : marks eventId w ≤ 1 := by
  have hcount : marks eventId w = (w.processedEvents.map ProcessedEvent.eventId).count eventId := by
    rw [marks, List.count, List.countP_map]
    refine List.countP_congr fun p _ => ?_
    simp
  rw [hcount]
  exact List.nodup_iff_count_le_one.mp hw.processedEvents eventId

/-- What a run of the handlers owes to each event id, with the state that it leaves. -/
structure ProcessedOnce (w₀ : World) (es : List Event) (w : World) : Prop where
  once : ∀ eventId, es.countP (changes eventId) ≤ 1
  marked : ∀ eventId, marks eventId w = marks eventId w₀ + es.countP (commits eventId)
  unique : ∀ eventId, marks eventId w ≤ 1
  changed : ∀ e ∈ es, ∀ d, committed e = some d → d.kind ≠ .confirm →
    changes d.msg.eventId e = true ∨ (d.kind = .release ∧ e.before.flight d.msg.flightId = none)
  nonneg : ∀ id field, w₀.Nonneg id field → w.Nonneg id field

/-- In every run, the transaction of an event commits at most once, exactly when its row is stored,
and changes the inventory by it unless it is the release of a flight that does not exist. -/
theorem processed_once {ms : List (Move Delivery (Option Exception))} {es : List Event}
    {w₀ : World} {P : ServicePool} (hw : w₀.Keyed)
    (hrun : service.run ms (Pool.init w₀) = some (es, P)) (hreceives : ∀ e ∈ es, Receives Delivery.WellFormed e) :
    ProcessedOnce w₀ es P.state := by
  have hlawful := lawful_run hrun hreceives
  let inv (w : World) : Prop := w.Keyed ∧ ∀ id field, w₀.Nonneg id field → w.Nonneg id field
  have hkeyed : inv P.state := by
    refine System.run_keeps hrun (fun e he hbefore => ?_) ⟨hw, fun _ _ h => h⟩
    rcases hlawful e he with ⟨-, hsame⟩ | ⟨d, -, hd, happlied⟩
    · rw [hsame]
      exact hbefore
    · exact ⟨happlied.keyed hbefore.1, fun id field h =>
        happlied.nonneg hd hbefore.1 (hbefore.2 id field h)⟩
  have hmarked : ∀ eventId, marks eventId P.state =
      marks eventId w₀ + es.countP (commits eventId) := fun eventId =>
    System.run_counts hrun fun e he => (hlawful e he).marks
  refine ⟨fun eventId => ?_, hmarked, fun eventId => marks_le_one hkeyed.1, ?_, hkeyed.2⟩
  · have hle : es.countP (changes eventId) ≤ es.countP (commits eventId) :=
      List.countP_mono_left fun e _ he => (Bool.and_eq_true_iff.mp he).1
    have hunique : marks eventId P.state ≤ 1 := marks_le_one hkeyed.1
    have hcount := hmarked eventId
    omega
  · intro e he d hd hkind
    rcases hlawful e he with ⟨hnone, -⟩ | ⟨d', hd', hwell, happlied⟩
    · rw [hnone] at hd
      cases hd
    · rw [hd, Option.some.injEq] at hd'
      subst hd'
      refine (happlied.changes hwell hkind).imp (fun hne => ?_) id
      simp [changes, commits, hd, hne]

/-- A flight with two economy seats. -/
def oneFlight : World := ⟨[⟨7, 2, 0, 0, 0⟩], []⟩

def seatEvent (eventId : String) (flightId seatCount : Int) : FlightSeatEvent :=
  ⟨eventId, flightId, "a1", "ECONOMY", seatCount⟩

/-- Two deliveries of one event that both look it up before either one commits. -/
theorem processed_once_twice :
    ∃ es P, service.run [.start ⟨.reserve, seatEvent "e1" 7 1⟩, .start ⟨.reserve, seatEvent "e1" 7 1⟩,
        .run 0 none, .run 1 none, .run 0 none, .run 1 none] (Pool.init oneFlight) = some (es, P) ∧
      ProcessedOnce oneFlight es P.state := by
  have hrun : (service.run [.start ⟨.reserve, seatEvent "e1" 7 1⟩,
      .start ⟨.reserve, seatEvent "e1" 7 1⟩, .run 0 none, .run 1 none, .run 0 none, .run 1 none]
      (Pool.init oneFlight)).any (fun result =>
        result.2.idle && result.1.all fun e => Receives Delivery.WellFormed e) = true := by decide +kernel
  obtain ⟨es, P, hrun, hresult⟩ := System.exists_run hrun
  have hkeyed : oneFlight.Keyed := ⟨by decide, by decide⟩
  refine ⟨es, P, hrun, processed_once hkeyed hrun ?_⟩
  simpa using (Bool.and_eq_true_iff.mp hresult).2

/-- The release of a flight that does not exist is marked as processed. -/
theorem marked_without_change :
    ¬∀ (ms : List (Move Delivery (Option Exception))) (es : List Event) (w₀ : World)
      (P : ServicePool), w₀.Keyed → service.run ms (Pool.init w₀) = some (es, P) →
      (∀ e ∈ es, Receives Delivery.WellFormed e) → ∀ eventId, marks eventId w₀ = 0 →
        (marks eventId P.state = 1 ↔ es.any (changes eventId) = true) := by
  intro h
  have hrun : (service.run [.start ⟨.release, seatEvent "e1" 9 1⟩, .run 0 none, .run 0 none]
      (Pool.init oneFlight)).any (fun result => result.1.all (fun e => Receives Delivery.WellFormed e) &&
        marks "e1" result.2.state = 1 && !result.1.any (changes "e1")) = true := by decide +kernel
  obtain ⟨es, P, hrun, hresult⟩ := System.exists_run hrun
  simp only [Bool.and_eq_true, List.all_eq_true, decide_eq_true_eq, Bool.not_eq_true'] at hresult
  obtain ⟨⟨hreceives, hmarks⟩, hchanges⟩ := hresult
  have hiff := h _ es oneFlight P ⟨by decide, by decide⟩ hrun hreceives "e1" (by decide)
  rw [hiff.mp hmarks] at hchanges
  cases hchanges

end FlightBookings.Inventory
