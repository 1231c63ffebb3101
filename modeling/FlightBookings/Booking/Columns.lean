import FlightBookings.Booking.Consistency

/-! # What no transaction changes of a saga

The bodies of the transactions change the status, the step, the lock key and
the error message of the saga that they hold. Every other column of the saga
rows keeps the value with which its row was inserted.
-/

namespace FlightBookings.Booking

open Await

/-- A column that does not depend on what the bodies of the transactions change. -/
def Fixed {β : Type} (column : SagaState → β) : Prop :=
  ∀ (s : SagaState) (status : SagaStatus) (currentStep : Nat)
    (lockKey errorMessage : Option String),
    column { s with status, currentStep, lockKey, errorMessage } = column s

/-- The bookings of the saga rows, each with its value in a column. -/
def World.column {β : Type} (w : World) (column : SagaState → β) : List (String × β) :=
  w.sagas.map fun s => (s.bookingId, column s)

variable {β : Type} {column : SagaState → β} {v : β} {id : String} {w : World} {tx : Tx}
variable {writes : List Write} {m : Memory}

/-! ## Rows -/

theorem mem_column : (id, v) ∈ w.column column ↔ ∃ s ∈ w.sagas, s.bookingId = id ∧ column s = v := by
  simp [World.column]

theorem column_find (h : ((w.column column).map Prod.fst).Nodup) :
    (id, v) ∈ w.column column ↔ ∃ s, w.saga id = some s ∧ column s = v := by
  have hids : (w.sagas.map SagaState.bookingId).Nodup := by
    simpa [World.column, Function.comp_def] using h
  rw [mem_column]
  constructor
  · rintro ⟨s, hs, rfl, hv⟩
    exact ⟨s, Table.find_of_mem hids hs, hv⟩
  · rintro ⟨s, hs, hv⟩
    obtain ⟨hmem, hid⟩ := Table.mem_of_find hs
    exact ⟨s, hmem, hid, hv⟩

/-- A row that is saved keeps the value of the one it replaces. -/
theorem upsert_column {s : SagaState} (hids : ((w.column column).map Prod.fst).Nodup)
    (h : (s.bookingId, column s) ∈ w.column column) :
    World.column { w with sagas := Table.upsert SagaState.bookingId s w.sagas } column =
      w.column column := by
  obtain ⟨s', hmem, hid, -⟩ := mem_column.mp h
  refine Table.map_upsert ⟨s', hmem, hid⟩ fun r hr heq => ?_
  have hr' : (r.bookingId, column r) ∈ w.column column := mem_column.mpr ⟨r, hr, rfl, rfl⟩
  exact List.inj_on_of_nodup_map hids hr' h heq

theorem applyAll_column (hids : ((w.column column).map Prod.fst).Nodup)
    (h : ∀ s, .saveSaga s ∈ writes → (s.bookingId, column s) ∈ w.column column) :
    (applyAll writes w).column column = w.column column := by
  unfold applyAll
  induction writes generalizing w with
  | nil => rfl
  | cons write writes ih =>
      have happly : (write.apply w).column column = w.column column := by
        cases write with
        | saveSaga s => exact upsert_column hids (h s List.mem_cons_self)
        | _ => rfl
      rw [List.foldl_cons, ih, happly]
      · rwa [happly]
      · intro s hs
        rw [happly]
        exact h s (List.mem_cons_of_mem _ hs)

/-! ## Bodies -/

/-- The saga in memory, and all sagas that the transaction saves, have the value. -/
def KeepsColumn (column : SagaState → β) (v : β) (m : Memory) : Prop :=
  column m.saga = v ∧ ∀ s, .saveSaga s ∈ m.writes → column s = v

abbrev ColumnKeeping {α : Type} (column : SagaState → β) (v : β) (c : Call α) (m : Memory) : Prop :=
  c.Emits (fun _ => True) (fun _ _ => True) m (fun _ => KeepsColumn column v) (KeepsColumn column v)

theorem await_column (op : Op) (hm : KeepsColumn column v m) :
    ColumnKeeping column v (Call.await op) m :=
  .await trivial hm fun _ _ => hm

theorem setSaga_column {f : SagaState → SagaState} (hf : ∀ s, column (f s) = column s)
    (hm : KeepsColumn column v m) : ColumnKeeping column v (setSaga f) m :=
  .remember ⟨(hf _).trans hm.1, hm.2⟩

theorem statement_column {write : Write} (hm : KeepsColumn column v m)
    (h : ∀ s, write = .saveSaga s → column s = v) :
    ColumnKeeping column v (statement tx write) m := by
  refine .seq (await_column _ hm) fun _ m hm => .remember ⟨hm.1, fun s hs => ?_⟩
  rcases List.mem_append.mp hs with hold | hnew
  · exact hm.2 s hold
  · exact h s (List.mem_singleton.mp hnew).symm

theorem saveSaga_column (hm : KeepsColumn column v m) :
    ColumnKeeping column v (saveSaga tx) m := by
  refine .bind (.memory (statement_column hm fun s hs => ?_))
  cases hs
  exact hm.1

theorem storeEvent_column {aggregateId : String} {body : EventBody}
    (hm : KeepsColumn column v m) : ColumnKeeping column v (storeEvent tx aggregateId body) m :=
  .seq (await_column _ hm) fun _ _ hm => statement_column hm (by simp)

theorem seatLock_column {c : SeatLock.Call Memory PUnit} (h : SeatLock.Sends id c m)
    (hm : KeepsColumn column v m) : ColumnKeeping column v (seatLock c) m := by
  have hredis : c.Emits (fun _ => True) (fun _ _ => True) m (fun _ => KeepsColumn column v)
      (KeepsColumn column v) :=
    ((h m rfl).of_good (fun _ _ => trivial) fun _ _ h => h).mono
      (fun _ _ heq => heq ▸ hm) fun _ heq => heq ▸ hm
  exact .lift hredis

section Bodies

variable (hcolumn : Fixed column)
include hcolumn

theorem createBookingBody_column {saga : SagaState} (hm : KeepsColumn column v m) :
    ColumnKeeping column v (createBookingBody saga) m := by
  refine .seq (await_column _ hm) fun now m hm => ?_
  refine .seq (statement_column hm (by simp)) fun _ m hm => ?_
  refine .seq (setSaga_column (fun s => hcolumn s _ _ s.lockKey s.errorMessage) hm) fun _ m hm => ?_
  exact .seq (saveSaga_column hm) fun _ m hm => storeEvent_column hm

theorem lockSeatsBody_column {lockKey : String} (hm : KeepsColumn column v m) :
    ColumnKeeping column v (lockSeatsBody lockKey) m :=
  .seq (setSaga_column (fun s => hcolumn s _ _ _ s.errorMessage) hm) fun _ _ hm =>
    saveSaga_column hm

theorem reserveFlightSeatsBody_column {saga : SagaState} (hm : KeepsColumn column v m) :
    ColumnKeeping column v (reserveFlightSeatsBody saga) m := by
  refine .seq (storeEvent_column hm) fun _ m hm => ?_
  refine .seq (setSaga_column (fun s => hcolumn s _ _ s.lockKey s.errorMessage) hm) fun _ m hm => ?_
  exact .seq (saveSaga_column hm) fun _ m hm => statement_column hm (by simp)

theorem completeBody_column {bookingId paymentTransactionId : String}
    (hm : KeepsColumn column v m) :
    ColumnKeeping column v (completeBody bookingId paymentTransactionId) m := by
  refine .bind (.memory (.seq (storeEvent_column hm) fun _ m hm => ?_))
  refine .seq (await_column _ hm) fun now m hm => ?_
  refine .seq (statement_column hm (by simp)) fun _ m hm => ?_
  refine .seq (setSaga_column (fun s => hcolumn s _ _ s.lockKey s.errorMessage) hm) fun _ m hm => ?_
  exact .seq (saveSaga_column hm) fun _ m hm => storeEvent_column hm

theorem compensateBody_column {message : String} (hm : KeepsColumn column v m) :
    ColumnKeeping column v (compensateBody message) m := by
  refine .seq (setSaga_column (fun s => hcolumn s _ s.currentStep s.lockKey _) hm) fun _ m hm => ?_
  refine .seq (saveSaga_column hm) fun _ m hm => .bind (.memory ?_)
  refine .seq (.whenever (fun _ => storeEvent_column hm) fun _ => hm) fun _ m' hm => ?_
  refine .seq (.whenever (fun _ => ?_) fun _ => hm) fun _ m hm => ?_
  · exact seatLock_column (SeatLock.releaseSeats_sends _ _) hm
  · refine .seq (await_column _ hm) fun now m hm => ?_
    refine .seq (statement_column hm (by simp)) fun _ m hm => ?_
    exact .seq (setSaga_column (fun s => hcolumn s _ s.currentStep s.lockKey s.errorMessage) hm)
      fun _ m hm => saveSaga_column hm

end Bodies

theorem shape_saved (h : Shape tx id writes) {s : SagaState} (hs : .saveSaga s ∈ writes) :
    s.bookingId = id := by
  cases h with
  | compensate s' releaseId reason now hstatus hrelease =>
      cases releaseId <;> simp at hs <;> rcases hs with rfl | rfl <;> rfl
  | _ =>
      simp at hs
      rw [hs]

end FlightBookings.Booking
