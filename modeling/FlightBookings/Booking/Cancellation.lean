import FlightBookings.Booking.Consistency
import FlightBookings.Booking.Compensation

/-! # Cancellations

The compensation of a booking is a transaction that also deletes keys of Redis,
and it swallows its own errors. A cancellation by itself, in which any operation
may fail, tells the truth about what it did exactly when nothing of the
compensation failed, or when the call failed as well before it took a lock away.
-/

namespace FlightBookings.Booking

open Await

/-! ## What an observer notes -/

/-- The operations without which a compensation does not commit. The errors of the commands that
delete keys are not looked at. -/
def Op.inCompensation : Op → Bool
  | .begin .compensate => true
  | .sql .compensate _ => true
  | .commit .compensate _ _ => true
  | .redis (.get _) => true
  | .redis .exec => true
  | _ => false

/-- The key is live and one of the booking. -/
def holds (id : String) (r : SeatLock.Redis) (key : SeatLock.Key) : Bool :=
  match r.get key with
  | some v => owner key v = id
  | none => false

/-- The compensation commits. -/
def Event.commits : Event → Bool
  | .performed _ _ c (.commit .compensate _ _) _ => c.fails.isNone
  | _ => false

/-- An operation of the compensation fails. -/
def Event.breaks : Event → Bool
  | .performed _ _ c op _ => op.inCompensation && c.fails.isSome
  | _ => false

/-- The row that the call would return cannot be read. -/
def Event.losesRow : Event → Bool
  | .performed _ _ c (.findBooking _) _ => c.fails.isSome
  | _ => false

/-- A live key of the booking is deleted. -/
def Event.unlocks (id : String) : Event → Bool
  | .performed w _ c (.redis (.del key _)) _ => c.fails.isNone && holds id w.redis key
  | _ => false

/-- Which of these came so far. -/
structure Notes where
  committed : Bool
  broke : Bool
  lost : Bool
  unlocked : Bool

def Notes.blank : Notes := ⟨false, false, false, false⟩

def note (id : String) (n : Notes) (e : Event) : Notes where
  committed := n.committed || Event.commits e
  broke := n.broke || Event.breaks e
  lost := n.lost || Event.losesRow e
  unlocked := n.unlocked || Event.unlocks id e

theorem foldl_note (id : String) (es : List Event) (n : Notes) :
    es.foldl (note id) n =
      ⟨n.committed || es.any Event.commits, n.broke || es.any Event.breaks,
        n.lost || es.any Event.losesRow, n.unlocked || es.any (Event.unlocks id)⟩ := by
  induction es generalizing n with
  | nil => simp
  | cons e es ih => simp [ih, note, Bool.or_assoc]

/-! ## The rules of an observed call -/

variable {γ : Type} {allows : Event → Prop} {observe : γ → Event → γ} {g : γ}
variable {i : Nat} {id : String} {m : Memory} {w w' : World} {n : Notes} {op : Op}

theorem performWith_of_fails {c : Choice} {r : Except Exception op.Ret}
    (h : performWith c op w = some (r, w')) :
    ((op.fallible && c.fails.isSome) = true ∧ (∃ e, r = .error e) ∧ w' = w) ∨
      ((op.fallible && c.fails.isSome) = false ∧ op.perform c.uuid w = some (r, w')) := by
  unfold performWith at h
  cases hfails : c.fails with
  | none =>
      rw [hfails] at h
      exact .inr ⟨by simp, h⟩
  | some e =>
      rw [hfails] at h
      cases hfallible : op.fallible with
      | true =>
          simp only [hfallible, if_true, Option.some.injEq, Prod.mk.injEq] at h
          exact .inl ⟨rfl, ⟨e, h.1.symm⟩, h.2.symm⟩
      | false =>
          simp only [hfallible, Bool.false_eq_true, if_false] at h
          exact .inr ⟨rfl, h⟩

/-- A call that runs by itself while an observer takes notes. -/
abbrev Observed {α : Type} (allows : Event → Prop) (observe : γ → Event → γ) (i : Nat) (c : Call α)
    (m : Memory) (s : World × γ) (Q : α → Memory → World × γ → Prop)
    (E : Memory → World × γ → Prop) : Prop :=
  c.Ensures (service.observed allows observe i) m s Q E

theorem op_observed {Q : op.Ret → Memory → World × γ → Prop} {E : Memory → World × γ → Prop}
    (hfail : ∀ c : Choice, op.fallible = true → c.fails.isSome = true →
      allows (.performed w i c op w) → E m (w, observe g (.performed w i c op w)))
    (hE : ∀ c e w', op.perform (Choice.uuid c) w = some (.error e, w') →
      E m (w', observe g (.performed w i c op w')))
    (h : ∀ c a w', (op.fallible && (Choice.fails c).isSome) = false →
      allows (.performed w i c op w') → op.perform c.uuid w = some (.ok a, w') →
      Q a m (w', observe g (.performed w i c op w'))) :
    Observed allows observe i (Call.await op) m (w, g) Q E := by
  intro c r w' hperform hallows
  rcases performWith_of_fails hperform with ⟨hfails, ⟨e, rfl⟩, rfl⟩ | ⟨hfails, hsucceeds⟩
  · rw [Bool.and_eq_true] at hfails
    exact hfail c hfails.1 hfails.2 hallows
  · cases r with
    | ok a => exact h c a w' hfails hallows hsucceeds
    | error e => exact hE c e w' hsucceeds

/-! ## What a compensation keeps -/

/-- The keys of the booking that are live: fewer than before exactly if one was deleted. -/
structure Locks (id : String) (r r' : SeatLock.Redis) (unlocked : Bool) : Prop where
  shrinks : ∀ k v, r'.get k = some v → owner k v = id → r.get k = some v
  same : unlocked = false ↔ ∀ k v, r.get k = some v → owner k v = id → r'.get k = some v

/-- What holds between two points of a call, as long as nothing has committed in between. -/
structure Since (id : String) (s s' : World × Notes) : Prop where
  tables : SameTables s.1 s'.1
  committed : s'.2.committed = s.2.committed
  lost : s'.2.lost = s.2.lost
  locks : ∃ u, s'.2.unlocked = (s.2.unlocked || u) ∧ Locks id s.1.redis s'.1.redis u

variable {s s' s'' : World × Notes} {r r' r'' : SeatLock.Redis} {u u' : Bool}

theorem Locks.refl : Locks id r r false where
  shrinks _ _ h _ := h
  same := ⟨fun _ _ _ h _ => h, fun _ => rfl⟩

theorem Locks.trans (h : Locks id r r' u) (h' : Locks id r' r'' u') :
    Locks id r r'' (u || u') where
  shrinks k v hv howner := h.shrinks k v (h'.shrinks k v hv howner) howner
  same := by
    rw [Bool.or_eq_false_iff, h.same, h'.same]
    constructor
    · intro hboth k v hv howner
      exact hboth.2 k v (hboth.1 k v hv howner) howner
    · intro hall
      refine ⟨fun k v hv howner => ?_, fun k v hv howner => ?_⟩
      · exact h'.shrinks k v (hall k v hv howner) howner
      · exact hall k v (h.shrinks k v hv howner) howner

theorem holds_eq_true {key : SeatLock.Key} :
    holds id r key = true ↔ ∃ v, r.get key = some v ∧ owner key v = id := by
  unfold holds
  cases hget : r.get key with
  | none => simp
  | some v => simp

theorem Locks.del (key : SeatLock.Key) : Locks id r (r.del key) (holds id r key) where
  shrinks _ _ h _ := Keyspace.get_of_del h
  same := by
    rw [← Bool.not_eq_true, holds_eq_true]
    constructor
    · intro hno k v hv howner
      have hne : k ≠ key := by
        intro heq
        subst heq
        exact hno ⟨v, hv, howner⟩
      rw [Keyspace.get, Keyspace.live_del_of_ne hne]
      exact hv
    · intro hall hyes
      obtain ⟨v, hv, howner⟩ := hyes
      have hgone := hall key v hv howner
      simp [Keyspace.get] at hgone

theorem Since.refl : Since id s s where
  tables := SameTables.refl _
  committed := rfl
  lost := rfl
  locks := ⟨false, (Bool.or_false _).symm, Locks.refl⟩

theorem Since.trans (h : Since id s s') (h' : Since id s' s'') : Since id s s'' where
  tables := h.tables.trans h'.tables
  committed := h'.committed.trans h.committed
  lost := h'.lost.trans h.lost
  locks := by
    obtain ⟨u, hu, hlocks⟩ := h.locks
    obtain ⟨u', hu', hlocks'⟩ := h'.locks
    exact ⟨u || u', by rw [hu', hu, Bool.or_assoc], hlocks.trans hlocks'⟩

/-- An operation of the compensation failed, and so far nothing has committed. -/
structure Broken (allows : Event → Prop) (id : String) (s s' : World × Notes) : Prop where
  since : Since id s s'
  broke : s'.2.broke = true
  fails : ∃ e, allows e ∧ Event.breaks e = true

/-- A call on the way through a compensation. -/
abbrev Compensates {α : Type} (allows : Event → Prop) (id : String) (i : Nat) (c : Call α) (m : Memory)
    (s₀ s : World × Notes) (Q : α → Memory → World × Notes → Prop) : Prop :=
  Observed allows (note id) i c m s Q fun _ s' => Broken allows id s₀ s'

/-! ## The statements -/

/-- The operations of a compensation that leave the tables and the keys alone. -/
def Op.quiet : Op → Bool
  | .redis .dateNow => true
  | .redis (.get _) => true
  | .redis .exec => true
  | .uuid => true
  | .sql .compensate _ => true
  | _ => false

theorem note_quiet {c : Choice} (h : op.quiet = true) : note id n (.performed w i c op w') =
    { n with broke := n.broke || (op.inCompensation && c.fails.isSome) } := by
  have hflags : Event.commits (.performed w i c op w') = false ∧
      Event.losesRow (.performed w i c op w') = false ∧
      Event.unlocks id (.performed w i c op w') = false := by
    cases op with
    | redis op =>
        cases op with
        | dateNow => exact ⟨rfl, rfl, rfl⟩
        | get key => exact ⟨rfl, rfl, rfl⟩
        | exec => exact ⟨rfl, rfl, rfl⟩
        | _ => exact absurd h Bool.false_ne_true
    | uuid => exact ⟨rfl, rfl, rfl⟩
    | sql tx write => exact ⟨rfl, rfl, rfl⟩
    | _ => exact absurd h Bool.false_ne_true
  obtain ⟨hcommits, hloses, hunlocks⟩ := hflags
  simp only [note, hcommits, hloses, hunlocks, Bool.or_false, Event.breaks]

theorem inCompensation_of_quiet (h : op.quiet = true) : op.inCompensation = op.fallible := by
  cases op with
  | redis op =>
      cases op with
      | dateNow => rfl
      | get key => rfl
      | exec => rfl
      | _ => exact absurd h Bool.false_ne_true
  | uuid => rfl
  | sql tx write =>
      cases tx with
      | compensate => rfl
      | _ => exact absurd h Bool.false_ne_true
  | _ => exact absurd h Bool.false_ne_true

variable {s₀ : World × Notes}

theorem quiet_compensates {a : op.Ret} {Q : op.Ret → Memory → World × Notes → Prop}
    (hquiet : op.quiet = true) (hread : ∀ uuid, op.perform uuid w = some (.ok a, w))
    (hs : Since id s₀ (w, n)) (h : Q a m (w, n)) :
    Compensates allows id i (Call.await op) m s₀ (w, n) Q := by
  have hop := inCompensation_of_quiet hquiet
  refine op_observed (fun c hfallible hfails hallows => ?_) (fun c e w' hperform => ?_)
    fun c a' w' hfails _ hperform => ?_
  · have hbreaks : (op.inCompensation && c.fails.isSome) = true := by
      rw [hop, hfallible, hfails]
      rfl
    rw [note_quiet hquiet, hbreaks, Bool.or_true]
    exact ⟨⟨hs.tables, hs.committed, hs.lost, hs.locks⟩, rfl, _, hallows, hbreaks⟩
  · cases (hread _).symm.trans hperform
  · cases (hread _).symm.trans hperform
    rw [note_quiet hquiet, hop, hfails, Bool.or_false]
    exact h

theorem uuid_compensates {Q : String → Memory → World × Notes → Prop}
    (h : ∀ u, Q u m ({ w with issued := u :: w.issued }, n)) :
    Compensates allows id i (Call.await Op.uuid) m s₀ (w, n) Q := by
  refine op_observed nofun (fun c e w' hperform => ?_) fun c u w' _ _ hperform => ?_
  · simp only [Op.perform] at hperform
    split at hperform <;> cases hperform
  · simp only [Op.perform] at hperform
    split at hperform
    · cases hperform
    · cases hperform
      rw [note_quiet rfl]
      simpa [Op.inCompensation] using h c.uuid

variable {Q : Unit → Memory → World × Notes → Prop}

theorem statement_compensates {write : Write} (hs : Since id s₀ (w, n))
    (h : Q () { m with writes := m.writes ++ [write] } (w, n)) :
    Compensates allows id i (statement .compensate write) m s₀ (w, n) Q :=
  .bind (quiet_compensates rfl (fun _ => rfl) hs (.remember h))

theorem saveSaga_compensates (hs : Since id s₀ (w, n))
    (h : Q () { m with writes := m.writes ++ [.saveSaga m.saga] } (w, n)) :
    Compensates allows id i (saveSaga .compensate) m s₀ (w, n) Q :=
  .bind (.memory (statement_compensates hs h))

theorem Since.issue {issued : List String} (h : Since id s₀ (w, n)) :
    Since id s₀ ({ w with issued }, n) :=
  ⟨⟨h.tables.sagas, h.tables.bookings, h.tables.outbox⟩, h.committed, h.lost, h.locks⟩

theorem releaseEvent_compensates {p : Prop} [Decidable p] {aggregateId : String} {body : EventBody}
    (hs : Since id s₀ (w, n))
    (h : ∀ (eventId : Option String) (issued : List String), (eventId.isSome ↔ p) →
      Q () { m with writes := m.writes ++
        eventId.toList.map fun eventId => .insertEvent ⟨eventId, aggregateId, body⟩ }
        ({ w with issued }, n)) :
    Compensates allows id i (Call.whenever p (storeEvent .compensate aggregateId body)) m s₀ (w, n)
      Q := by
  refine .whenever (fun hp => .bind (uuid_compensates fun eventId => ?_)) fun hp => ?_
  · exact statement_compensates hs.issue (h (some eventId) _ (by simp [hp]))
  · have hnone := h none w.issued (by simp [hp])
    simpa using hnone

/-! ## The seat locks -/

/-- The commands of the seat locks, as operations of the booking service. -/
abbrev CompensatesRedis {α : Type} (allows : Event → Prop) (id : String) (i : Nat)
    (c : SeatLock.Call Memory α) (m : Memory) (s₀ s : World × Notes)
    (Q : α → Memory → World × Notes → Prop) : Prop :=
  c.Ensures (Spec.comap Op.redis (fun _ r => r) (service.observed allows (note id) i)) m s Q
    fun _ s' => Broken allows id s₀ s'

/-- A command that deletes a key, whose own error is not looked at. -/
theorem del_compensates {key : SeatLock.Key} {Q : PUnit → Memory → World × Notes → Prop}
    (h : ∀ w' n', Since id (w, n) (w', n') → n'.broke = n.broke → Q ⟨⟩ m (w', n')) :
    CompensatesRedis allows id i (SeatLock.pipelined (.del key id)) m s₀ (w, n) Q := by
  have hnote : ∀ c w', note id n (.performed w i c (.redis (.del key id)) w') =
      { n with unlocked := n.unlocked || (Option.isNone (Choice.fails c) && holds id w.redis key) } := by
    intro c w'
    simp [note, Event.commits, Event.breaks, Event.losesRow, Event.unlocks,
      Op.inCompensation]
  have hop : Observed allows (note id) i (Call.await (Op.redis (.del key id))) m (w, n)
      (fun _ => Q ⟨⟩) (Q ⟨⟩) := by
    refine op_observed (fun c _ hfails _ => ?_) (fun c e w' hperform => ?_)
      fun c a w' hfails _ hperform => ?_
    · rw [hnote, ← Option.not_isSome, hfails]
      refine h _ _ ⟨SameTables.refl w, rfl, rfl, false, ?_, Locks.refl⟩ rfl
      rfl
    · cases hperform
    · cases hperform
      have hnone : c.fails.isNone = true := by
        rw [← Option.not_isSome, Bool.not_eq_true']
        exact hfails
      rw [hnote, hnone]
      have hlocks : Locks id w.redis (w.redis.del key) (holds id w.redis key) := Locks.del key
      refine h { w with redis := w.redis.del key } _
        ⟨⟨rfl, rfl, rfl⟩, rfl, rfl, holds id w.redis key, ?_, hlocks⟩ rfl
      rfl
  have hawait : (Call.await (SeatLock.Op.del key id) : SeatLock.Call Memory Unit).Ensures
      (Spec.comap Op.redis (fun _ r => r) (service.observed allows (note id) i)) m (w, n)
      (fun _ => Q ⟨⟩) (Q ⟨⟩) := hop
  have hrun : (do let _ ← Call.await (SeatLock.Op.del key id); pure ⟨⟩ :
      SeatLock.Call Memory PUnit).Ensures
      (Spec.comap Op.redis (fun _ r => r) (service.observed allows (note id) i)) m (w, n) Q (Q ⟨⟩) :=
    .andThen hawait (fun _ _ h => h) fun _ _ _ h => .pure h
  exact .tryCatch hrun fun _ _ _ h => .pure h

theorem get_compensates {key : SeatLock.Key}
    {Q : Option (SeatLock.Value key) → Memory → World × Notes → Prop} (hs : Since id s₀ (w, n))
    (h : Q (w.redis.get key) m (w, n)) :
    CompensatesRedis allows id i (Call.await (SeatLock.Op.get key)) m s₀ (w, n) Q := by
  have hget : Compensates allows id i (Call.await (Op.redis (.get key))) m s₀ (w, n) Q :=
    quiet_compensates rfl (fun _ => rfl) hs h
  exact hget

theorem exec_compensates {Q : Unit → Memory → World × Notes → Prop} (hs : Since id s₀ (w, n))
    (h : Q () m (w, n)) :
    CompensatesRedis allows id i (Call.await SeatLock.Op.exec) m s₀ (w, n) Q := by
  have hexec : Compensates allows id i (Call.await (Op.redis .exec)) m s₀ (w, n) Q :=
    quiet_compensates rfl (fun _ => rfl) hs h
  exact hexec

theorem releaseSeats_compensates (flightId : Int) (hs : Since id s₀ (w, n)) :
    CompensatesRedis allows id i (SeatLock.releaseSeats flightId id) m s₀ (w, n)
      fun _ m' s' => m' = m ∧ Since id (w, n) s' ∧ s'.2.broke = n.broke := by
  refine .bind (get_compensates hs ?_)
  cases hdata : w.redis.get (.booking flightId id) with
  | none => exact .pure ⟨rfl, .refl, rfl⟩
  | some data =>
      let inv (seats : List String) (m' : Memory) (s' : World × Notes) : Prop :=
        m' = m ∧ Since id (w, n) s' ∧ s'.2.broke = n.broke
      refine .andThen (.forM inv ?_ _ ⟨rfl, .refl, rfl⟩) (fun _ _ h => h) fun _ m₁ s₁ h₁ => ?_
      · intro seat seats m₁ s₁ h₁
        obtain ⟨w₁, n₁⟩ := s₁
        obtain ⟨rfl, hsince, hbroke⟩ := h₁
        exact del_compensates fun w₂ n₂ hsince₂ hbroke₂ =>
          ⟨rfl, hsince.trans hsince₂, hbroke₂.trans hbroke⟩
      · obtain ⟨w₁, n₁⟩ := s₁
        obtain ⟨rfl, hsince, hbroke⟩ := h₁
        refine .bind (del_compensates fun w₂ n₂ hsince₂ hbroke₂ => ?_)
        have hall := hsince.trans hsince₂
        exact exec_compensates (hs.trans hall) ⟨rfl, hall, hbroke₂.trans hbroke⟩

theorem releaseLocks_compensates {p : Prop} [Decidable p] (flightId : Int)
    (hs : Since id s₀ (w, n)) :
    Compensates allows id i (Call.whenever p (seatLock (SeatLock.releaseSeats flightId id))) m s₀
      (w, n) fun _ m' s' => m' = m ∧ Since id (w, n) s' ∧ s'.2.broke = n.broke := by
  refine .whenever (fun _ => ?_) fun _ => ⟨rfl, .refl, rfl⟩
  exact .lift (releaseSeats_compensates flightId hs)

/-! ## The transaction -/

/-- The saga row that a compensation saves. -/
def compensated (saga : SagaState) (message : String) : SagaState :=
  { saga with status := .compensated, errorMessage := some message }

/-- A compensation that is ready to commit: it has written what its shape says. -/
structure Prepared (message : String) (m : Memory) (s : World × Notes) (m' : Memory)
    (s' : World × Notes) : Prop where
  saga : m'.saga = compensated m.saga message
  shape : Shape .compensate m.saga.bookingId m'.writes
  saved : ∀ w, (applyAll m'.writes w).saga m.saga.bookingId = some (compensated m.saga message)
  since : Since m.saga.bookingId s s'
  broke : s'.2.broke = s.2.broke

theorem compensateBody_compensates (message : String) (hs : Since m.saga.bookingId s₀ (w, n)) :
    Compensates allows m.saga.bookingId i (compensateBody message) { m with writes := [] } s₀ (w, n)
      fun _ m' s' => Prepared message m (w, n) m' s' := by
  refine .bind (.remember (.bind (saveSaga_compensates hs (.bind (.memory ?_)))))
  refine .bind (releaseEvent_compensates hs fun releaseId issued hrelease => ?_)
  refine .andThen (releaseLocks_compensates _ hs.issue) (fun _ _ h => h) fun _ m₂ s₂ h₂ => ?_
  obtain ⟨w₂, n₂⟩ := s₂
  obtain ⟨rfl, hsince, hbroke⟩ := h₂
  have hsince' : Since m.saga.bookingId (w, n) (w₂, n₂) := Since.refl.issue.trans hsince
  have hall := hs.trans hsince'
  refine .bind (quiet_compensates rfl (fun _ => rfl) hall ?_)
  refine .bind (statement_compensates hall (.bind (.remember (saveSaga_compensates hall ?_))))
  refine ⟨rfl, ?_, fun w' => ?_, hsince', hbroke⟩
  · have hshape := Shape.compensate (compensated m.saga message) releaseId
      s!"Saga failed: {message}" w₂.redis.now rfl hrelease
    simpa [seatsPayload, compensated, SeatLock.Op.perform] using hshape
  · have hkey : (compensated m.saga message).bookingId = m.saga.bookingId := rfl
    cases releaseId <;> exact hkey ▸ Table.find_upsert_self

/-- What a compensation leaves that runs by itself: everything of it or nothing, up to the keys. -/
inductive Outcome (allows : Event → Prop) (message : String) (saga : SagaState) (s : World × Notes) :
    World × Notes → Prop where
  | committed {w' : World} {n' : Notes} {writes : List Write}
      (hshape : Shape .compensate saga.bookingId writes)
      (hsaga : (applyAll writes w').saga saga.bookingId = some (compensated saga message))
      (htables : SameTables s.1 w') (hcommitted : n'.committed = true) (hbroke : n'.broke = s.2.broke)
      (hlost : n'.lost = s.2.lost) :
      Outcome allows message saga s (applyAll writes w', n')
  | broken {s' : World × Notes} (htables : SameTables s.1 s'.1)
      (hcommitted : s'.2.committed = s.2.committed) (hbroke : s'.2.broke = true)
      (hlost : s'.2.lost = s.2.lost)
      (hlocks : ∃ u, s'.2.unlocked = (s.2.unlocked || u) ∧
        Locks saga.bookingId s.1.redis s'.1.redis u)
      (hfails : ∃ e, allows e ∧ Event.breaks e = true) :
      Outcome allows message saga s s'

theorem begin_compensates {Q : Unit → Memory → World × Notes → Prop}
    {E : Memory → World × Notes → Prop} (h : Q () m (w, n))
    (hE : (∃ e, allows e ∧ Event.breaks e = true) → E m (w, { n with broke := true })) :
    Observed allows (note id) i (Call.await (Op.begin .compensate)) m (w, n) Q E := by
  refine op_observed (fun c _ hfails hallows => ?_) (fun c e w' hperform => ?_)
    fun c a w' hfails _ hperform => ?_
  · have hnote : note id n (.performed w i c (.begin .compensate) w) =
        { n with broke := true } := by
      simp [note, Event.commits, Event.breaks, Event.losesRow, Event.unlocks,
        Op.inCompensation, hfails]
    rw [hnote]
    exact hE ⟨_, hallows, by simp [Event.breaks, Op.inCompensation, hfails]⟩
  · cases hperform
  · cases hperform
    have hsucceeds : c.fails.isSome = false := hfails
    have hnote : note id n (.performed w i c (.begin .compensate) w) = n := by
      simp [note, Event.commits, Event.breaks, Event.losesRow, Event.unlocks,
        Op.inCompensation, hsucceeds]
    rw [hnote]
    exact h

theorem commit_compensates {writes : List Write} (hunique : writes.all (Write.unique w) = true)
    {Q : Unit → Memory → World × Notes → Prop} {E : Memory → World × Notes → Prop}
    (h : Q () m (applyAll writes w, { n with committed := true }))
    (hE : (∃ e, allows e ∧ Event.breaks e = true) → E m (w, { n with broke := true })) :
    Observed allows (note id) i (Call.await (Op.commit .compensate m.saga.bookingId writes)) m (w, n)
      Q E := by
  have hperforms : ∀ uuid, (Op.commit .compensate m.saga.bookingId writes).perform uuid w =
      some (.ok (), applyAll writes w) := fun _ => if_pos hunique
  refine op_observed (fun c _ hfails hallows => ?_) (fun c e w' hperform => ?_)
    fun c a w' hfails _ hperform => ?_
  · have hnote : note id n (.performed w i c (.commit .compensate m.saga.bookingId writes) w) =
        { n with broke := true } := by
      have hsome : c.fails.isNone = false := by rw [← Option.not_isSome, hfails]; rfl
      simp [note, Event.commits, Event.breaks, Event.losesRow, Event.unlocks,
        Op.inCompensation, hfails, hsome]
    rw [hnote]
    exact hE ⟨_, hallows, by simp [Event.breaks, Op.inCompensation, hfails]⟩
  · cases (hperforms _).symm.trans hperform
  · cases (hperforms _).symm.trans hperform
    have hsucceeds : c.fails.isSome = false := hfails
    have hnote : note id n (.performed w i c (.commit .compensate m.saga.bookingId writes)
        (applyAll writes w)) = { n with committed := true } := by
      have hnone : c.fails.isNone = true := by rw [← Option.not_isSome, hsucceeds]; rfl
      simp [note, Event.commits, Event.breaks, Event.losesRow, Event.unlocks,
        Op.inCompensation, hsucceeds, hnone]
    rw [hnote]
    exact h

/-- A compensation inserts no booking. -/
theorem compensation_unique {writes : List Write} (h : Shape .compensate id writes) :
    writes.all (Write.unique w) = true := by
  cases h with
  | compensate s releaseId reason now hstatus hrelease => cases releaseId <;> rfl

theorem compensateTx_compensates (message : String) :
    Observed allows (note m.saga.bookingId) i (transaction .compensate (compensateBody message)) m
      (w, n) (fun _ _ s' => Outcome allows message m.saga (w, n) s')
      fun _ s' => Outcome allows message m.saga (w, n) s' := by
  have hbegun : Since m.saga.bookingId (w, n) (w, n) :=
    .refl
  have hbroken : ∀ s', Broken allows m.saga.bookingId (w, n) s' →
      Outcome allows message m.saga (w, n) s' := by
    intro s' h
    exact .broken h.since.tables h.since.committed h.broke h.since.lost h.since.locks
      h.fails
  refine .bind (begin_compensates (.bind (.remember ?_)) fun hfails => ?_)
  · refine (compensateBody_compensates message hbegun).andThen (fun _ => hbroken) ?_
    intro _ m₁ s₁ h₁
    obtain ⟨w₁, n₁⟩ := s₁
    obtain ⟨-, hshape, hsaved, hsince, hbroke⟩ := h₁
    refine .bind (.memory (commit_compensates (compensation_unique hshape) ?_ fun hfails => ?_))
    · exact .committed hshape (hsaved w₁) hsince.tables rfl hbroke hsince.lost
    · exact .broken hsince.tables hsince.committed rfl hsince.lost hsince.locks hfails
  · exact .broken (SameTables.refl w) rfl rfl rfl ⟨false, (Bool.or_false _).symm, .refl⟩ hfails

/-- What `compensate` leaves of a saga that is not compensated yet. It does not throw. -/
theorem compensate_compensates (message : String) (hopen : m.saga.status ≠ .compensated) :
    Observed allows (note m.saga.bookingId) i (compensate message) m (w, n)
      (fun _ _ s' => Outcome allows message m.saga (w, n) s') fun _ _ => False := by
  refine .bind (.memory ?_)
  rw [if_neg hopen]
  exact .tryCatch (compensateTx_compensates message) fun _ _ _ h => .pure h

/-- The last read of a cancellation. -/
theorem findBooking_observed {ref : String} {Q : Option Booking → Memory → World × Notes → Prop}
    {E : Memory → World × Notes → Prop} (h : Q (w.booking ref) m (w, n))
    (hE : (∃ e, allows e ∧ Event.losesRow e = true) → E m (w, { n with lost := true })) :
    Observed allows (note id) i (Call.await (Op.findBooking ref)) m (w, n) Q E := by
  refine op_observed (fun c _ hfails hallows => ?_) (fun c e w' hperform => ?_)
    fun c a w' hfails _ hperform => ?_
  · have hnote : note id n (.performed w i c (.findBooking ref) w) = { n with lost := true } := by
      simp [note, Event.commits, Event.breaks, Event.losesRow, Event.unlocks,
        Op.inCompensation, hfails]
    rw [hnote]
    exact hE ⟨_, hallows, by simp [Event.losesRow, hfails]⟩
  · cases hperform
  · cases hperform
    have hsucceeds : c.fails.isSome = false := hfails
    have hnote : note id n (.performed w i c (.findBooking ref) w) = n := by
      simp [note, Event.commits, Event.breaks, Event.losesRow, Event.unlocks,
        Op.inCompensation, hsucceeds]
    rw [hnote]
    exact h

theorem findSaga_observed {Q : Option SagaState → Memory → World × Notes → Prop}
    {E : Memory → World × Notes → Prop} (h : Q (w.saga id) m (w, n))
    (hE : (∃ e, allows e ∧ failed e = true) → E m (w, n)) :
    Observed allows (note id) i (Call.await (Op.findSaga id)) m (w, n) Q E := by
  have hnote : ∀ c w', note id n (.performed w i c (.findSaga id) w') = n := by
    intro c w'
    simp [note, Event.commits, Event.breaks, Event.losesRow, Event.unlocks,
      Op.inCompensation]
  refine op_observed (fun c hfallible hfails hallows => ?_) (fun c e w' hperform => ?_)
    fun c a w' hfails _ hperform => ?_
  · rw [hnote]
    exact hE ⟨_, hallows, by simp [failed, hfallible, hfails]⟩
  · cases hperform
  · cases hperform
    rw [hnote]
    exact h

/-- What a cancellation leaves that runs by itself, and whether it throws. -/
inductive Cancelled (allows : Event → Prop) (id reason : String) (s : World × Notes) :
    Bool → World × Notes → Prop where
  | refused (hnone : s.1.saga id = none ∨ ∃ e, allows e ∧ failed e = true) :
      Cancelled allows id reason s true s
  | repeated {saga : SagaState} (hsaga : s.1.saga id = some saga)
      (hstatus : saga.status = .compensated) (lost : Bool) :
      Cancelled allows id reason s lost (s.1, { s.2 with lost := s.2.lost || lost })
  | tried {saga : SagaState} (hsaga : s.1.saga id = some saga) (hopen : saga.status ≠ .compensated)
      {w' : World} {n' : Notes} (houtcome : Outcome allows reason saga s (w', n')) (lost : Bool) :
      Cancelled allows id reason s lost (w', { n' with lost := n'.lost || lost })

/-- The last statement of a cancellation, which throws if the row is lost. -/
theorem returnRow_observed {ref : String} {R : Bool → World × Notes → Prop}
    (h : ∀ lost, R lost (w, { n with lost := n.lost || lost })) :
    Observed allows (note id) i (Call.await (Op.findBooking ref)) m (w, n)
      (fun _ _ s' => R false s') fun _ s' => R true s' := by
  refine findBooking_observed ?_ fun _ => ?_
  · simpa using h false
  · simpa using h true

theorem cancelBooking_observed (reason : String) :
    Observed allows (note id) i (cancelBooking id reason) m (w, n)
      (fun _ _ s' => Cancelled allows id reason (w, n) false s')
      fun _ s' => Cancelled allows id reason (w, n) true s' := by
  refine .bind (findSaga_observed ?_ fun hfails => .refused (.inr hfails))
  cases hsaga : w.saga id with
  | none => exact .throw (.refused (.inl hsaga))
  | some saga =>
      have hid : saga.bookingId = id := (Table.mem_of_find hsaga).2
      subst hid
      refine .bind (.remember ?_)
      by_cases hstatus : saga.status = .compensated
      · have hskip : Observed allows (note saga.bookingId) i (compensate reason) ⟨saga, m.writes⟩
            (w, n) (fun _ _ s' => s' = (w, n)) fun _ _ => False := by
          refine .bind (.memory ?_)
          rw [if_pos hstatus]
          exact .pure rfl
        refine .andThen hskip (fun _ _ h => h.elim) fun _ m₁ s₁ h₁ => ?_
        subst h₁
        exact returnRow_observed fun lost => .repeated hsaga hstatus lost
      · have htried : Observed allows (note saga.bookingId) i (compensate reason) ⟨saga, m.writes⟩
            (w, n) (fun _ _ s' => Outcome allows reason saga (w, n) s') fun _ _ => False :=
          compensate_compensates (m := ⟨saga, m.writes⟩) reason hstatus
        refine .andThen htried (fun _ _ h => h.elim) fun _ m₁ s₁ h₁ => ?_
        obtain ⟨w₁, n₁⟩ := s₁
        exact returnRow_observed fun lost => .tried hsaga hstatus h₁ lost

/-! ## Runs -/

/-- The rows, the outbox and the seat locks of the booking are as they were. -/
structure Unchanged (id : String) (w w' : World) : Prop where
  saga : w'.saga id = w.saga id
  booking : w'.booking id = w.booking id
  outbox : w'.outbox = w.outbox
  locks : ∀ k v, owner k v = id → (w'.redis.get k = some v ↔ w.redis.get k = some v)

/-- The reply of a cancellation tells what it did. A booking that has no row yet has none to
cancel. -/
structure Truthful (id : String) (w w' : World) (committed : Bool)
    (reply : Except Exception Reply) : Prop where
  done : (∃ a, reply = .ok a) → (∀ b, w'.booking id = some b → b.status = .cancelled) ∧
    (∃ s, w'.saga id = some s ∧ s.status = .compensated) ∧
    ∀ s, w.saga id = some s → 3 ≤ s.currentStep → releases w' id ≠ 0
  undone : (∀ s, w.saga id = some s → s.status ≠ .compensated) → committed = false →
    (∃ e, reply = .error e) ∧ Unchanged id w w'

theorem unchanged_iff (htables : SameTables w w') (hlocks : Locks id w.redis w'.redis u) :
    Unchanged id w w' ↔ u = false := by
  constructor
  · intro h
    refine hlocks.same.mpr fun k v hv howner => ?_
    exact (h.locks k v howner).mpr hv
  · intro hu
    have hkept := hlocks.same.mp hu
    refine ⟨by rw [World.saga, htables.sagas], by rw [World.booking, htables.bookings],
      htables.outbox, fun k v howner => ⟨fun hv => ?_, fun hv => ?_⟩⟩
    · exact hlocks.shrinks k v hv howner
    · exact hkept k v hv howner

variable {reason : String} {reply : Except Exception Reply} {throws : Bool}

/-- A compensated booking is what a reply without an error promises. -/
theorem truthful_compensated {committed : Bool} {saga saga' : SagaState} (hw : Consistent id w')
    (hsaga : w.saga id = some saga) (hsaga' : w'.saga id = some saga')
    (hstep : saga'.currentStep = saga.currentStep) (hstatus : saga'.status = .compensated)
    (hundone : saga.status = .compensated ∨ committed = true) :
    Truthful id w w' committed reply where
  done _ := by
    refine ⟨fun b hb => hw.cancelled saga' b hsaga' hb hstatus, ⟨saga', hsaga', hstatus⟩, ?_⟩
    intro s hs hle
    rw [hsaga, Option.some.injEq] at hs
    subst hs
    exact hw.released saga' hsaga' (by omega) (.inl hstatus)
  undone hopen hcommitted := by
    rcases hundone with hcompensated | hyes
    · exact absurd hcompensated (hopen saga hsaga)
    · rw [hcommitted] at hyes
      cases hyes

/-- A compensation that broke changed no row, so that only an error is true of it. -/
theorem truthful_broken {saga : SagaState} (hsaga : w.saga id = some saga)
    (hopen : saga.status ≠ .compensated) (htables : SameTables w w')
    (hlocks : Locks id w.redis w'.redis u) (hreply : throws = true ↔ ∃ e, reply = .error e) :
    Truthful id w w' false reply ↔ throws = true ∧ u = false := by
  constructor
  · intro h
    have hsame : ∀ s, w.saga id = some s → s.status ≠ .compensated := by
      intro s hs
      rw [hsaga, Option.some.injEq] at hs
      exact hs ▸ hopen
    obtain ⟨herror, hunchanged⟩ := h.undone hsame rfl
    exact ⟨hreply.mpr herror, (unchanged_iff htables hlocks).mp hunchanged⟩
  · intro h
    obtain ⟨e, rfl⟩ := hreply.mp h.1
    refine ⟨fun hok => ?_, fun _ _ => ⟨⟨e, rfl⟩, (unchanged_iff htables hlocks).mpr h.2⟩⟩
    obtain ⟨a, ha⟩ := hok
    cases ha

theorem Cancelled.truthful_iff {n' : Notes} (hw : Consistent id w)
    (hreply : throws = true ↔ ∃ e, reply = .error e)
    (h : Cancelled allows id reason (w, .blank) throws (w', n')) :
    Truthful id w w' n'.committed reply ↔
      n'.broke = false ∨ (n'.lost = true ∧ n'.unlocked = false) := by
  cases h with
  | refused hnone =>
      refine ⟨fun _ => .inl rfl, fun _ => ?_⟩
      obtain ⟨e, rfl⟩ := hreply.mp rfl
      refine ⟨fun hok => ?_, fun _ _ => ⟨⟨e, rfl⟩, ?_⟩⟩
      · obtain ⟨a, ha⟩ := hok
        cases ha
      · exact (unchanged_iff (SameTables.refl w) Locks.refl).mpr rfl
  | repeated hsaga hstatus lost =>
      refine ⟨fun _ => .inl rfl, fun _ => ?_⟩
      exact truthful_compensated hw hsaga hsaga rfl hstatus (.inl hstatus)
  | tried hsaga hopen houtcome lost =>
      rename_i saga n₁
      have hid : saga.bookingId = id := (Table.mem_of_find hsaga).2
      subst hid
      cases houtcome with
      | committed hshape hsaga' htables hcommitted hbroke hlost =>
          refine ⟨fun _ => .inl hbroke, fun _ => ?_⟩
          have hrows := (hw.of_tables htables).commit_self hshape nofun (compensation_unique hshape)
          exact truthful_compensated hrows hsaga hsaga' rfl rfl (.inr hcommitted)
      | broken htables hcommitted hbroke hlost hlocks hfails =>
          obtain ⟨u, hu, hlocks⟩ := hlocks
          have hiff := truthful_broken hsaga hopen htables hlocks hreply
          have hcommitted : n₁.committed = false := hcommitted
          have hlost : n₁.lost = false := hlost
          have hbroke : n₁.broke = true := hbroke
          have hu : n₁.unlocked = u := hu
          simp only [hcommitted, hlost, hbroke, hu, hiff, Bool.false_or, Bool.true_eq_false,
            false_or]

/-- A cancellation that runs by itself tells the truth exactly when no operation of its
compensation failed, or when it could not read the row to return either and had taken no lock
away. -/
theorem cancellation_truthful_iff {now : Nat} {ms : List (Move Request Choice)}
    {es es' : List Event} {P P' : ServicePool} {id reason : String} {choices : List Choice}
    {reply : Except Exception Reply} {m : Memory}
    (hrun : service.run ms (Pool.init (World.init now)) = some (es, P))
    (hcall : service.run (.start (.cancelBooking id reason) ::
      choices.map (.run P.calls.length)) P = some (es', P'))
    (hdone : P'.calls[P.calls.length]? = some (.done (reply, m))) :
    Truthful id P.state P'.state (es'.any Event.commits) reply ↔
      es'.any Event.breaks = false ∨
        (es'.any Event.losesRow = true ∧ es'.any (Event.unlocks id) = false) := by
  have hrows := (consistent_run hrun).rows id
  obtain ⟨e, Q, es₁, hmove, hrest, rfl⟩ := System.run_cons hcall
  simp only [System.move, Option.some.injEq, Prod.mk.injEq] at hmove
  obtain ⟨rfl, rfl⟩ := hmove
  have hstarted : (P.calls ++ [service.program (.cancelBooking id reason)])[P.calls.length]? =
      some (service.program (.cancelBooking id reason)) := List.getElem?_concat_length
  let post (result : Except Exception Reply × Memory) (s' : World × Notes) : Prop :=
    ∃ throws, (throws = true ↔ ∃ e, result.1 = .error e) ∧
      Cancelled (fun _ => True) id reason (P.state, .blank) throws s'
  have hcancelled : (service.program (.cancelBooking id reason)).wp
      (service.observed (fun _ => True) (note id) P.calls.length) post (P.state, .blank) := by
    have hobserved : Observed (fun _ => True) (note id) P.calls.length
        (Request.cancelBooking id reason).call Memory.blank (P.state, .blank)
        (fun _ _ s' => Cancelled (fun _ => True) id reason (P.state, .blank) false s')
        fun _ s' => Cancelled (fun _ => True) id reason (P.state, .blank) true s' :=
      .andThen (cancelBooking_observed reason) (fun _ _ h => h) fun _ _ _ h => .pure h
    refine Program.wp_mono ?_ hobserved
    intro result s' h
    rcases result with ⟨e | a, m'⟩
    · exact ⟨true, by simp, h⟩
    · exact ⟨false, by simp, h⟩
  obtain ⟨throws, hthrows, hpost⟩ := System.run_observed
    (P := ⟨P.state, P.calls ++ [service.program (.cancelBooking id reason)]⟩) hstarted hcancelled
    hrest (fun _ _ => trivial) hdone
  have hnotes := foldl_note id es₁ Notes.blank
  rw [hnotes] at hpost
  have hiff := hpost.truthful_iff hrows hthrows
  simpa [Notes.blank, Event.commits, Event.breaks, Event.losesRow, Event.unlocks] using hiff

/-- The reply of a call that has ended. -/
def answer (P : ServicePool) (i : Nat) : Option (Except Exception Reply) :=
  match P.calls[i]? with
  | some (.done (reply, _)) => some reply
  | _ => none

theorem answer_eq_some {P : ServicePool} {i : Nat} (h : answer P i = some reply) :
    ∃ m, P.calls[i]? = some (.done (reply, m)) := by
  unfold answer at h
  split at h
  · rename_i m hcall
    cases h
    exact ⟨m, hcall⟩
  · cases h

/-- A call by itself that comes to its end after other moves. -/
def endsAfter (before : List (Move Request Choice)) (request : Request) (choices : List Choice)
    (check : ServicePool → List Event → ServicePool → Except Exception Reply → Bool) : Bool :=
  (service.run before (Pool.init (World.init 0))).any fun first =>
    (service.run (.start request :: choices.map (.run first.2.calls.length)) first.2).any
      fun result => (answer result.2 first.2.calls.length).any fun reply =>
        check first.2 result.1 result.2 reply

theorem endsAfter_spec {before : List (Move Request Choice)} {request : Request}
    {choices : List Choice}
    {check : ServicePool → List Event → ServicePool → Except Exception Reply → Bool}
    (h : endsAfter before request choices check = true) :
    ∃ (es es' : List Event) (P P' : ServicePool) (reply : Except Exception Reply) (m : Memory),
      service.run before (Pool.init (World.init 0)) = some (es, P) ∧
      service.run (.start request :: choices.map (.run P.calls.length)) P = some (es', P') ∧
      P'.calls[P.calls.length]? = some (.done (reply, m)) ∧ check P es' P' reply = true := by
  obtain ⟨es, P, hrun, hfirst⟩ := System.exists_run h
  obtain ⟨es', P', hcall, hresult⟩ := System.exists_run hfirst
  obtain ⟨reply, hanswer, hcheck⟩ := (Option.any_eq_true _ _).mp hresult
  obtain ⟨m, hdone⟩ := answer_eq_some hanswer
  exact ⟨es, es', P, P', reply, m, hrun, hcall, hdone, hcheck⟩

/-- The choices of a call whose operations fail as given. -/
def failing (fails : List (Option Exception)) : List Choice := fails.map fun e => ⟨e, "u"⟩

/-- The transaction cannot begin, and the row to return cannot be read either. -/
theorem cancellation_truthful_refused :
    ∃ (es : List Event) (P P' : ServicePool) (reply : Except Exception Reply),
      service.run (.start (.cancelBooking "a1" "r") ::
        (failing [none, some (.error "down"), some (.error "down")]).map (.run P.calls.length)) P =
          some (es, P') ∧
      (P.state.saga "a1").isSome ∧ es.any Event.breaks = true ∧
      Truthful "a1" P.state P'.state (es.any Event.commits) reply := by
  have hends : endsAfter reserved (.cancelBooking "a1" "r")
      (failing [none, some (.error "down"), some (.error "down")]) (fun P es _ _ =>
        (P.state.saga "a1").isSome && es.any Event.breaks && es.any Event.losesRow &&
          !es.any (Event.unlocks "a1")) = true := by decide +kernel
  obtain ⟨es, es', P, P', reply, m, hrun, hcall, hdone, hcheck⟩ := endsAfter_spec hends
  simp only [Bool.and_eq_true, Bool.not_eq_true'] at hcheck
  obtain ⟨⟨⟨hsaga, hbreaks⟩, hlost⟩, hlocked⟩ := hcheck
  refine ⟨es', P, P', reply, hcall, hsaga, hbreaks, ?_⟩
  exact (cancellation_truthful_iff hrun hcall hdone).mpr (.inr ⟨hlost, hlocked⟩)

/-- A cancellation whose commit fails returns the booking, unchanged and without its locks. -/
theorem cancellation_not_truthful :
    ¬∀ (now : Nat) (ms : List (Move Request Choice)) (es es' : List Event) (P P' : ServicePool)
      (id reason : String) (choices : List Choice) (reply : Except Exception Reply) (m : Memory),
      service.run ms (Pool.init (World.init now)) = some (es, P) →
      service.run (.start (.cancelBooking id reason) ::
        choices.map (.run P.calls.length)) P = some (es', P') →
      P'.calls[P.calls.length]? = some (.done (reply, m)) →
        Truthful id P.state P'.state (es'.any Event.commits) reply := by
  intro h
  have hends : endsAfter reserved (.cancelBooking "a1" "r")
      (failing ((List.range 14).map fun k => if k = 12 then some (.error "down") else none))
      (fun P es P' reply =>
        (P.state.saga "a1").all (fun s => s.status ≠ .compensated) && !es.any Event.commits &&
          reply == .ok (.booking (P.state.booking "a1")) && holds "a1" P.state.redis (.seat 7 "1A") &&
          !holds "a1" P'.state.redis (.seat 7 "1A")) = true := by decide +kernel
  obtain ⟨es, es', P, P', reply, m, hrun, hcall, hdone, hcheck⟩ := endsAfter_spec hends
  simp only [Bool.and_eq_true, Bool.not_eq_true', Option.all_eq_true, decide_eq_true_eq] at hcheck
  obtain ⟨⟨⟨⟨hopen, hcommits⟩, hreply⟩, -⟩, -⟩ := hcheck
  have htruthful := h 0 reserved es es' P P' "a1" "r" _ reply m hrun hcall hdone
  obtain ⟨⟨e, herror⟩, -⟩ := htruthful.undone (fun s hs => hopen s hs) hcommits
  rw [herror] at hreply
  cases hreply

end FlightBookings.Booking
