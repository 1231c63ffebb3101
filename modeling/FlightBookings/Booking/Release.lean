import FlightBookings.Booking.Transactions

/-! # Releases of flight seats

A compensation stores a release event, and its guard is a status that it read
before its transaction. As long as no transaction about a booking commits on a
saga row that is compensated already, one release event is all there ever is.
-/

namespace FlightBookings.Booking

open Await

def EventBody.isRelease : EventBody → Bool
  | .releaseSeats _ => true
  | _ => false

def releases (w : World) (bookingId : String) : Nat :=
  w.outbox.countP fun e => e.aggregateId = bookingId && e.body.isRelease

/-- No transaction about the booking commits on a compensated saga row. -/
def NotCompensated (bookingId : String) : Event → Prop
  | .performed w _ choice (.commit _ id _) _ =>
      id = bookingId → choice.fails = none → ∀ s ∈ w.saga bookingId, s.status ≠ .compensated
  | _ => True

instance (bookingId : String) : DecidablePred (NotCompensated bookingId)
  | .performed w _ choice (.commit _ id _) _ =>
      inferInstanceAs (Decidable (id = bookingId → choice.fails = none →
        ∀ s ∈ w.saga bookingId, s.status ≠ .compensated))
  | .performed _ _ _ (.redis _) _ => isTrue trivial
  | .performed _ _ _ .uuid _ => isTrue trivial
  | .performed _ _ _ (.findSagaByKey _) _ => isTrue trivial
  | .performed _ _ _ (.findSaga _) _ => isTrue trivial
  | .performed _ _ _ (.findBooking _) _ => isTrue trivial
  | .performed _ _ _ (.findExpiredBookings _) _ => isTrue trivial
  | .performed _ _ _ (.insertSaga _) _ => isTrue trivial
  | .performed _ _ _ (.begin _) _ => isTrue trivial
  | .performed _ _ _ (.sql _ _) _ => isTrue trivial
  | .started _ _ _ => isTrue trivial

/-- A released booking has a compensated saga. -/
structure ReleasedOnce (bookingId : String) (w : World) : Prop where
  once : releases w bookingId ≤ 1
  compensated : releases w bookingId ≠ 0 →
    ∃ s, w.saga bookingId = some s ∧ s.status = .compensated

variable {id bookingId : String} {tx : Tx} {writes : List Write} {w w' : World}

theorem releases_append {events : List OutboxEvent} (houtbox : w'.outbox = w.outbox ++ events) :
    releases w' bookingId = releases w bookingId +
      events.countP fun e => e.aggregateId = bookingId && e.body.isRelease := by
  rw [releases, houtbox, List.countP_append, releases]

theorem releasedOnce_commit_of_ne (h : Shape tx id writes) (hne : bookingId ≠ id)
    (hw : ReleasedOnce bookingId w) : ReleasedOnce bookingId (applyAll writes w) := by
  have hreleases : releases (applyAll writes w) bookingId = releases w bookingId :=
    shape_outbox_of_ne h hne w EventBody.isRelease
  constructor
  · rw [hreleases]
    exact hw.once
  · rw [hreleases, shape_saga_of_ne h hne]
    exact hw.compensated

theorem releasedOnce_commit_self (h : Shape tx bookingId writes) (hw : ReleasedOnce bookingId w)
    (hsaga : ∀ s ∈ w.saga bookingId, s.status ≠ .compensated) :
    ReleasedOnce bookingId (applyAll writes w) := by
  obtain ⟨events, houtbox, hevents, hlength⟩ := shape_outbox h w
  obtain ⟨s, hs, hstatus⟩ := shape_saga h w
  have hnone : releases w bookingId = 0 := by
    by_cases hzero : releases w bookingId = 0
    · exact hzero
    · obtain ⟨s', hs', hcompensated⟩ := hw.compensated hzero
      exact absurd hcompensated (hsaga s' hs')
  have hreleases : releases (applyAll writes w) bookingId =
      events.countP fun e => e.aggregateId = bookingId && e.body.isRelease := by
    rw [releases_append houtbox, hnone, Nat.zero_add]
  by_cases htx : tx = .compensate
  · refine ⟨?_, fun _ => ⟨s, hs, by rw [hstatus, htx, Tx.status]⟩⟩
    rw [hreleases]
    exact Nat.le_trans List.countP_le_length (hlength htx)
  · have hzero : releases (applyAll writes w) bookingId = 0 := by
      rw [hreleases, List.countP_eq_zero]
      intro e he hrelease
      have hstored := (hevents e he).2
      cases hbody : e.body <;> simp_all [EventBody.isRelease, EventBody.storedBy]
    exact ⟨by omega, fun h => absurd hzero h⟩

theorem releasedOnce_insertSaga {s : SagaState} (hw : ReleasedOnce bookingId w) :
    ReleasedOnce bookingId { w with sagas := w.sagas ++ [s] } := by
  refine ⟨hw.once, ?_⟩
  intro hreleased
  obtain ⟨s', hs', hcompensated⟩ := hw.compensated hreleased
  refine ⟨s', Table.find_insert.trans ?_, hcompensated⟩
  have hfind : Table.find SagaState.bookingId bookingId w.sagas = some s' := hs'
  rw [hfind, Option.some_or]

theorem releasedOnce_perform {i : Nat} {choice : Choice} {op : Op} {r : Except Exception op.Ret}
    (hshaped : op.Shaped) (hw : ReleasedOnce bookingId w)
    (h : performWith choice op w = some (r, w'))
    (hallows : NotCompensated bookingId (.performed w i choice op w')) :
    ReleasedOnce bookingId w' := by
  rcases perform_tables h with ⟨hsagas, -, houtbox, -⟩ | ⟨s, rfl, -, rfl⟩ |
    ⟨tx, id, writes, rfl, hfails, -, rfl⟩
  · have hreleases : releases w' bookingId = releases w bookingId := by
      rw [releases, houtbox, releases]
    have hsaga : w'.saga bookingId = w.saga bookingId := by
      rw [World.saga, hsagas]
    exact ⟨hreleases ▸ hw.once, by rw [hreleases, hsaga]; exact hw.compensated⟩
  · exact releasedOnce_insertSaga hw
  · by_cases hid : bookingId = id
    · subst hid
      exact releasedOnce_commit_self hshaped hw (hallows rfl hfails)
    · exact releasedOnce_commit_of_ne hshaped hid hw

/-! ## Runs -/

def ReleasedAtMostOnce (bookingId : String) (e : Event) : Prop := releases e.after bookingId ≤ 1

theorem released_at_most_once {now : Nat} {ms : List (Move Request Choice)} {es : List Event}
    {P : ServicePool} {bookingId : String}
    (hrun : service.run ms (Pool.init (World.init now)) = some (es, P))
    (hallows : ∀ e ∈ es, NotCompensated bookingId e) :
    releases P.state bookingId ≤ 1 ∧ ∀ e ∈ es, ReleasedAtMostOnce bookingId e := by
  have hstarted : ∀ (w : World) (i : Nat) (request : Request), ReleasedOnce bookingId w →
      NotCompensated bookingId (.started w i request) →
      (service.program request).Emits Op.Shaped Op.Replies ∧
        ReleasedAtMostOnce bookingId (.started w i request) := by
    intro w i request hw _
    exact ⟨(request_shaped request).program, hw.once⟩
  have hperform : ∀ (w : World) (i : Nat) (choice : Choice) (op : Op)
      (r : Except Exception op.Ret) (w' : World), op.Shaped → ReleasedOnce bookingId w →
      service.perform i choice op w = some (r, w') →
      NotCompensated bookingId (.performed w i choice op w') →
      op.Replies r ∧ ReleasedOnce bookingId w' ∧
        ReleasedAtMostOnce bookingId (.performed w i choice op w') := by
    intro w i choice op r w' hshaped hw h hallows
    have hw' := releasedOnce_perform hshaped hw h hallows
    exact ⟨perform_replies h, hw', hw'.once⟩
  have hinit : ReleasedOnce bookingId (World.init now) := ⟨Nat.zero_le 1, fun h => absurd rfl h⟩
  have key := System.run_ops hstarted hperform hrun hallows hinit (by simp [Pool.init])
  exact ⟨key.1.once, key.2⟩

/-- A booking that is cancelled twice, one call after the other. -/
theorem released_at_most_once_serial :
    ∃ es P, service.run
        (reserved ++ .start (.cancelBooking "a1" "r") :: succeeds 1 "c" 14 ++
          .start (.cancelBooking "a1" "r") :: succeeds 2 "d" 2)
        (Pool.init (World.init 0)) = some (es, P) ∧ releases P.state "a1" ≤ 1 := by
  have hrun : (service.run
      (reserved ++ .start (.cancelBooking "a1" "r") :: succeeds 1 "c" 14 ++
        .start (.cancelBooking "a1" "r") :: succeeds 2 "d" 2)
      (Pool.init (World.init 0))).any (fun result =>
        result.2.idle && result.1.all fun e => NotCompensated "a1" e) = true := by decide +kernel
  obtain ⟨es, P, hrun, hallows⟩ := System.exists_run hrun
  refine ⟨es, P, hrun, (released_at_most_once hrun ?_).1⟩
  simpa using (Bool.and_eq_true_iff.mp hallows).2

/-- Two cancellations that both read the saga before either one commits. -/
theorem released_twice :
    ¬∀ now ms es P bookingId, service.run ms (Pool.init (World.init now)) = some (es, P) →
      releases P.state bookingId ≤ 1 := by
  intro h
  have hrun : (service.run
      (reserved ++ [.start (.cancelBooking "a1" "r"), .start (.cancelBooking "a1" "r")] ++
        succeeds 1 "c" 1 ++ succeeds 2 "d" 1 ++ succeeds 1 "e" 13 ++ succeeds 2 "f" 10)
      (Pool.init (World.init 0))).any (fun result =>
        result.2.idle && releases result.2.state "a1" = 2) = true := by decide +kernel
  obtain ⟨es, P, hrun, hreleases⟩ := System.exists_run hrun
  have hle := h 0 _ es P "a1" hrun
  simp only [Bool.and_eq_true, decide_eq_true_eq] at hreleases
  omega

end FlightBookings.Booking
