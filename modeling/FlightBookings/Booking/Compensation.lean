import FlightBookings.Booking.Release
import FlightBookings.Booking.Terminal

/-! # Failure points of the booking saga

One operation of the second or third step of a saga fails and all others
succeed. What the compensation then leaves depends on the step that the saga in
memory had reached, which is not always the step that was stored.
-/

namespace FlightBookings.Booking

open Await

/-! ## Failure points -/

/-- The database and Redis operations of steps 2 and 3, in their order. -/
inductive Site where
  | lockGet
  | lockEval
  | beginLock
  | saveLock
  | commitLock
  | beginReserve
  | storeReserve
  | saveReserve
  | updateReserve
  | commitReserve
deriving DecidableEq

def Op.site : Op → Option Site
  | .redis (.get (.booking _ _)) => some .lockGet
  | .redis (.eval _ _ _ _ _ _) => some .lockEval
  | .begin .lockSeats => some .beginLock
  | .sql .lockSeats _ => some .saveLock
  | .commit .lockSeats _ _ => some .commitLock
  | .begin .reserveFlightSeats => some .beginReserve
  | .sql .reserveFlightSeats (.insertEvent _) => some .storeReserve
  | .sql .reserveFlightSeats (.saveSaga _) => some .saveReserve
  | .sql .reserveFlightSeats (.updateBooking _ _) => some .updateReserve
  | .commit .reserveFlightSeats _ _ => some .commitReserve
  | _ => none

def failed : Event → Bool
  | .performed _ _ choice op _ => op.fallible && choice.fails.isSome
  | .started _ _ _ => false

/-- The operation of the site fails, and no other one does. -/
def OnlyAt (site : Site) : Event → Prop
  | .performed w i choice op w' => failed (.performed w i choice op w') = true ↔ op.site = some site
  | .started _ _ _ => True

instance (site : Site) : DecidablePred (OnlyAt site)
  | .performed w i choice op w' =>
      inferInstanceAs (Decidable (failed (.performed w i choice op w') = true ↔ op.site = some site))
  | .started _ _ _ => isTrue trivial

/-- The failures after which nothing of the booking is left. The saga in memory is at step 1
while the lock is held until its transaction has begun, and at step 3 before the reservation
is stored. -/
def Site.Recovers (dto : CreateBookingDto) : Site → Prop
  | .beginLock => dto.seatNumbers.getD [] = []
  | .saveReserve => False
  | .updateReserve => False
  | .commitReserve => False
  | _ => True

/-! ## What a compensation leaves -/

def EventBody.isReserve : EventBody → Bool
  | .reserveSeats _ => true
  | _ => false

def reserves (w : World) (bookingId : String) : Nat :=
  w.outbox.countP fun e => e.aggregateId = bookingId && e.body.isReserve

/-- Redis holds no live key of the booking. -/
def Clear (id : String) (r : SeatLock.Redis) : Prop :=
  ∀ (k : SeatLock.Key) (v : SeatLock.Value k), r.get k = some v → owner k v ≠ id

structure Compensated (id : String) (w : World) : Prop where
  terminal : Terminal w id
  clear : Clear id w.redis
  events : releases w id = reserves w id

/-- The keys of the booking are those that its booking key lists. -/
def Held (id : String) (flightId : Int) (r : SeatLock.Redis) : Prop :=
  ∀ (k : SeatLock.Key) (v : SeatLock.Value k), r.get k = some v → owner k v = id →
    k = .booking flightId id ∨ ∃ seat data, k = .seat flightId seat ∧
      r.get (.booking flightId id) = some data ∧ seat ∈ SeatLock.BookingData.seats data

/-- A call that holds the saga of a new booking at step `k`, before any reservation. -/
structure Underway (id : String) (dto : CreateBookingDto) (k : Nat) (m : Memory) (w : World) :
    Prop where
  bookingId : m.saga.bookingId = id
  payload : m.saga.payload = dto
  step : m.saga.currentStep = k
  status : m.saga.status ≠ .compensated
  stored : ∃ b, w.booking id = some b
  reserves : reserves w id = 0
  releases : releases w id = 0
  held : Held id dto.flightId w.redis

variable {id : String} {dto : CreateBookingDto} {k : Nat} {flightId : Int}
variable {r : SeatLock.Redis} {w : World} {tx : Tx} {writes : List Write}

theorem held_of_clear (h : Clear id r) : Held id flightId r :=
  fun k v hv howner => absurd howner (h k v hv)

/-! ## The rules of a call with one failure -/

/-- A call that runs by itself, with the failure of one site. The flag tells whether it came. -/
abbrev Solo {α : Type} (site : Site) (i : Nat) (c : Call α) (m : Memory) (s : World × Bool)
    (Q : α → Memory → World × Bool → Prop) (E : Memory → World × Bool → Prop) : Prop :=
  c.Ensures (service.observed (fun e => OnlyAt site e ∧ BeforeOwned e) (fun b e => b || failed e) i)
    m s Q E

variable {site : Site} {i : Nat} {m : Memory} {s : World × Bool} {op : Op} {b : Bool}

theorem onlyAt_cases {choice : Choice} {r : Except Exception op.Ret} {w' : World}
    (hperform : performWith choice op w = some (r, w'))
    (honly : OnlyAt site (.performed w i choice op w')) :
    (op.site = some site ∧ failed (.performed w i choice op w') = true ∧
      ∃ e, r = .error e ∧ w' = w) ∨
    (op.site ≠ some site ∧ failed (.performed w i choice op w') = false ∧
      op.perform choice.uuid w = some (r, w')) := by
  have honly : (op.fallible && choice.fails.isSome) = true ↔ op.site = some site := honly
  change (_ ∧ (op.fallible && choice.fails.isSome) = true ∧ _) ∨
    (_ ∧ (op.fallible && choice.fails.isSome) = false ∧ _)
  cases hfailed : op.fallible && choice.fails.isSome with
  | true =>
      rw [Bool.and_eq_true] at hfailed
      obtain ⟨e, he⟩ := Option.isSome_iff_exists.mp hfailed.2
      rw [performWith, he] at hperform
      simp only [hfailed.1, if_true, Option.some.injEq, Prod.mk.injEq] at hperform
      refine .inl ⟨honly.mp ?_, rfl, e, hperform.1.symm, hperform.2.symm⟩
      simp [hfailed]
  | false =>
      refine .inr ⟨fun hsite => ?_, rfl, ?_⟩
      · rw [honly.mpr hsite] at hfailed
        cases hfailed
      · rcases performWith_cases hperform with ⟨e, hfails, -, -⟩ | ⟨-, h⟩
        · rw [hfails, Option.isSome_some, Bool.and_true] at hfailed
          rw [performWith, hfails] at hperform
          simpa [hfailed] using hperform
        · exact h

theorem op_solo {Q : op.Ret → Memory → World × Bool → Prop} {E : Memory → World × Bool → Prop}
    (hfail : op.site = some site → E m (w, true))
    (hE : op.site ≠ some site → ∀ uuid e w', op.perform uuid w = some (.error e, w') → E m (w', b))
    (h : op.site ≠ some site → ∀ uuid a w', BeforeOwned (.performed w i ⟨none, uuid⟩ op w') →
      op.perform uuid w = some (.ok a, w') → Q a m (w', b)) :
    Solo site i (Call.await op) m (w, b) Q E := by
  intro choice r w' hperform hallows
  rcases onlyAt_cases hperform hallows.1 with ⟨hsite, hfailed, e, rfl, rfl⟩ |
    ⟨hsite, hfailed, hsucceeds⟩
  · change E m (w', b || failed (.performed w' i choice op w'))
    rw [hfailed, Bool.or_true]
    exact hfail hsite
  · cases r with
    | ok a =>
        change Q a m (w', b || failed (.performed w i choice op w'))
        rw [hfailed, Bool.or_false]
        exact h hsite choice.uuid a w' hallows.2 hsucceeds
    | error e =>
        change E m (w', b || failed (.performed w i choice op w'))
        rw [hfailed, Bool.or_false]
        exact hE hsite choice.uuid e w' hsucceeds

/-- An operation that leaves the world alone when it succeeds. -/
theorem read_solo {a : op.Ret} {Q : op.Ret → Memory → World × Bool → Prop}
    {E : Memory → World × Bool → Prop} (hread : ∀ uuid, op.perform uuid w = some (.ok a, w))
    (hfail : op.site = some site → E m (w, true)) (h : op.site ≠ some site → Q a m (w, b)) :
    Solo site i (Call.await op) m (w, b) Q E := by
  refine op_solo hfail ?_ ?_
  · intro _ uuid e w' hperform
    cases (hread uuid).symm.trans hperform
  · intro hsite uuid a' w' _ hperform
    cases (hread uuid).symm.trans hperform
    exact h hsite

theorem uuid_solo {Q : String → Memory → World × Bool → Prop} {E : Memory → World × Bool → Prop}
    (h : ∀ u, Owned w → u ∉ w.issued → Q u m ({ w with issued := u :: w.issued }, b)) :
    Solo site i (Call.await Op.uuid) m (w, b) Q E := by
  refine op_solo nofun ?_ ?_
  · intro _ uuid e w' hperform
    simp only [Op.perform] at hperform
    split at hperform <;> cases hperform
  · intro _ uuid u w' howned hperform
    simp only [Op.perform] at hperform
    split at hperform
    · cases hperform
    · rename_i hfresh
      cases hperform
      exact h _ howned hfresh

section Statements

variable {Q : Unit → Memory → World × Bool → Prop} {E : Memory → World × Bool → Prop}

theorem statement_solo {write : Write} (hfail : (Op.sql tx write).site = some site → E m (w, true))
    (h : (Op.sql tx write).site ≠ some site →
      Q () { m with writes := m.writes ++ [write] } (w, b)) :
    Solo site i (statement tx write) m (w, b) Q E :=
  .bind (read_solo (fun _ => rfl) hfail fun hsite => .remember (h hsite))

theorem saveSaga_solo (hfail : (Op.sql tx (.saveSaga m.saga)).site = some site → E m (w, true))
    (h : (Op.sql tx (.saveSaga m.saga)).site ≠ some site →
      Q () { m with writes := m.writes ++ [.saveSaga m.saga] } (w, b)) :
    Solo site i (saveSaga tx) m (w, b) Q E :=
  .bind (.memory (statement_solo hfail h))

theorem storeEvent_solo {aggregateId : String} {body : EventBody}
    (hfail : ∀ eventId, (Op.sql tx (.insertEvent ⟨eventId, aggregateId, body⟩)).site = some site →
      E m ({ w with issued := eventId :: w.issued }, true))
    (h : ∀ eventId, (Op.sql tx (.insertEvent ⟨eventId, aggregateId, body⟩)).site ≠ some site →
      Q () { m with writes := m.writes ++ [.insertEvent ⟨eventId, aggregateId, body⟩] }
        ({ w with issued := eventId :: w.issued }, b)) :
    Solo site i (storeEvent tx aggregateId body) m (w, b) Q E :=
  .bind (uuid_solo fun eventId _ _ => statement_solo (hfail eventId) (h eventId))

theorem dateNow_solo {Q : Nat → Memory → World × Bool → Prop}
    (h : ∀ now, Q now m (w, b)) : Solo site i dateNow m (w, b) Q E :=
  read_solo (a := w.redis.now) (fun _ => rfl) nofun
    fun _ => h w.redis.now

theorem commit_solo (hunique : writes.all (Write.unique w) = true)
    (hfail : (Op.commit tx id writes).site = some site → E m (w, true))
    (h : (Op.commit tx id writes).site ≠ some site → Q () m (applyAll writes w, b)) :
    Solo site i (Call.await (Op.commit tx id writes)) m (w, b) Q E := by
  have hperform : ∀ uuid, (Op.commit tx id writes).perform uuid w =
      some (.ok (), applyAll writes w) := fun _ => if_pos hunique
  refine op_solo hfail ?_ ?_
  · intro _ uuid e w' h'
    cases (hperform uuid).symm.trans h'
  · intro hsite uuid a w' _ h'
    cases (hperform uuid).symm.trans h'
    exact h hsite

end Statements

/-! ## The seat locks -/

section Locks

theorem get_del {key k : SeatLock.Key} {v : SeatLock.Value k} (h : (r.del key).get k = some v) :
    k ≠ key ∧ r.get k = some v := by
  refine ⟨?_, Keyspace.get_of_del h⟩
  intro hk
  subst hk
  simp [Keyspace.get] at h

/-- What a release still has to delete. -/
def Left (id : String) (flightId : Int) (seats : List String) (r : SeatLock.Redis) : Prop :=
  ∀ (k : SeatLock.Key) (v : SeatLock.Value k), r.get k = some v → owner k v = id →
    k = .booking flightId id ∨ ∃ seat ∈ seats, k = .seat flightId seat

theorem left_del {seat : String} {seats : List String} (h : Left id flightId (seat :: seats) r) :
    Left id flightId seats (r.del (.seat flightId seat)) := by
  intro k v hv howner
  obtain ⟨hne, hold⟩ := get_del hv
  rcases h k v hold howner with hkey | ⟨seat', hmem, hkey⟩
  · exact .inl hkey
  · rcases List.mem_cons.mp hmem with rfl | hmem
    · exact absurd hkey hne
    · exact .inr ⟨seat', hmem, hkey⟩

theorem clear_del (h : Left id flightId [] r) : Clear id (r.del (.booking flightId id)) := by
  intro k v hv howner
  obtain ⟨hne, hold⟩ := get_del hv
  rcases h k v hold howner with hkey | ⟨seat, hmem, -⟩
  · exact hne hkey
  · cases hmem

/-- The commands of the seat locks, as operations of the booking service. -/
abbrev SoloRedis {α : Type} (site : Site) (i : Nat) (c : SeatLock.Call Memory α) (m : Memory)
    (s : World × Bool) (Q : α → Memory → World × Bool → Prop)
    (E : Memory → World × Bool → Prop) : Prop :=
  c.Ensures (Spec.comap Op.redis (fun _ r => r) (service.observed
    (fun e => OnlyAt site e ∧ BeforeOwned e) (fun b e => b || failed e) i)) m s Q E

theorem redis_solo {op : SeatLock.Op} {Q : op.Ret → Memory → World × Bool → Prop}
    {E : Memory → World × Bool → Prop} (hfail : (Op.redis op).site = some site → E m (w, true))
    (h : (Op.redis op).site ≠ some site →
      Q (op.perform w.redis).1 m ({ w with redis := (op.perform w.redis).2 }, b)) :
    SoloRedis site i (Call.await op) m (w, b) Q E := by
  have key : Solo site i (Call.await (Op.redis op)) m (w, b) Q E := by
    refine op_solo hfail ?_ ?_
    · intro _ uuid e w' hperform
      cases hperform
    · intro hsite uuid a w' _ hperform
      cases hperform
      exact h hsite
  exact key

theorem pipelined_solo {op : SeatLock.Op} {Q : PUnit → Memory → World × Bool → Prop}
    {E : Memory → World × Bool → Prop} (hsite : (Op.redis op).site ≠ some site)
    (h : Q ⟨⟩ m ({ w with redis := (op.perform w.redis).2 }, b)) :
    SoloRedis site i (SeatLock.pipelined op) m (w, b) Q E := by
  have hrun : SoloRedis site i (do let _ ← Call.await op; pure ⟨⟩) m (w, b) Q fun _ _ => False :=
    .bind (redis_solo hsite fun _ => .pure h)
  exact .tryCatch hrun fun _ _ _ hfalse => hfalse.elim

theorem get_solo {key : SeatLock.Key} {Q : Option (SeatLock.Value key) → Memory → World × Bool → Prop}
    {E : Memory → World × Bool → Prop} (hfail : (Op.redis (.get key)).site = some site → E m (w, true))
    (h : (Op.redis (.get key)).site ≠ some site → Q (w.redis.get key) m (w, b)) :
    SoloRedis site i (Call.await (SeatLock.Op.get key)) m (w, b) Q E :=
  redis_solo hfail h

/-- A release that finds the booking key removes everything that it lists. -/
theorem releaseSeats_solo (hsite : site ≠ .lockGet) (hheld : Held id flightId w.redis) :
    SoloRedis site i (SeatLock.releaseSeats flightId id) m (w, b)
      (fun _ m' s' => m' = m ∧ ∃ redis, s' = ({ w with redis }, b) ∧ Clear id redis)
      fun _ _ => False := by
  have hdel : ∀ key, (Op.redis (.del key id)).site ≠ some site := fun _ => nofun
  refine .bind (get_solo (fun h => hsite (Option.some.inj h).symm) fun _ => ?_)
  cases hdata : w.redis.get (.booking flightId id) with
  | none =>
      refine .pure ⟨rfl, w.redis, rfl, fun k v hv howner => ?_⟩
      rcases hheld k v hv howner with rfl | ⟨seat, data, -, hsome, -⟩
      · rw [hdata] at hv
        cases hv
      · rw [hdata] at hsome
        cases hsome
  | some data =>
      let inv (seats : List String) (m' : Memory) (s' : World × Bool) : Prop :=
        m' = m ∧ ∃ redis, s' = ({ w with redis }, b) ∧ Left id flightId seats redis
      have hstart : inv (SeatLock.BookingData.seats data) m (w, b) := by
        refine ⟨rfl, w.redis, rfl, fun k v hv howner => ?_⟩
        rcases hheld k v hv howner with hkey | ⟨seat, data', hkey, hsome, hmem⟩
        · exact .inl hkey
        · rw [hdata, Option.some.injEq] at hsome
          exact .inr ⟨seat, hsome ▸ hmem, hkey⟩
      refine .andThen (.forM inv ?_ _ hstart) (fun _ _ h => h) fun _ m₁ s₁ h₁ => ?_
      · intro seat seats m₁ s₁ h₁
        obtain ⟨rfl, redis, rfl, hleft⟩ := h₁
        exact pipelined_solo (hdel _) ⟨rfl, _, rfl, left_del hleft⟩
      · obtain ⟨rfl, redis, rfl, hleft⟩ := h₁
        refine .bind (pipelined_solo (hdel _) (redis_solo nofun fun _ => ?_))
        exact ⟨rfl, _, rfl, clear_del hleft⟩

/-- A granted lock holds the keys that its booking key lists. -/
theorem held_lockAll {userId : Int} {ttl timestamp : Nat} {seats : List String} (httl : 0 < ttl)
    (hclear : Clear id r) :
    Held id flightId (SeatLock.lockAll flightId id userId ttl timestamp seats r) ∧
      ¬Clear id (SeatLock.lockAll flightId id userId ttl timestamp seats r) := by
  have hmine : (SeatLock.lockAll flightId id userId ttl timestamp seats r).get
      (.booking flightId id) = _ := SeatLock.lockAll_booking httl flightId id
  rw [if_pos ⟨rfl, rfl⟩] at hmine
  constructor
  · intro k v hv howner
    cases k with
    | booking f b =>
        rw [SeatLock.lockAll_booking httl] at hv
        split at hv
        · rename_i heq
          exact .inl (by rw [heq.1, heq.2])
        · exact absurd howner (hclear _ _ hv)
    | seat f seat =>
        rw [Keyspace.get, SeatLock.lockAll_seat httl] at hv
        split at hv
        · rename_i heq
          exact .inr ⟨seat, _, by rw [heq.1], hmine, heq.2⟩
        · exact absurd howner (hclear (.seat f seat) v hv)
  · intro h
    exact h _ _ hmine rfl

theorem lockSeats_solo {userId : Int} {seats : List String} (hclear : Clear id w.redis) :
    SoloRedis site i (SeatLock.lockSeats flightId seats id userId) m (w, false)
      (fun r m' s' => m' = m ∧ site ≠ .lockGet ∧ ∃ redis, s' = ({ w with redis }, false) ∧
        Held id flightId redis ∧ (Clear id redis ↔ r.success = true → seats = []))
      fun m' s' => m' = m ∧ s'.1 = w ∧ (s'.2 = true → site = .lockGet ∨ site = .lockEval) := by
  have hheld : Held id flightId w.redis := held_of_clear hclear
  refine .bind (redis_solo nofun fun _ => ?_)
  refine .bind (.ofExcept (fun _ _ => ⟨rfl, rfl, nofun⟩) fun _ _ => ?_)
  refine .bind (get_solo (fun h => ⟨rfl, rfl, fun _ => .inl (Option.some.inj h).symm⟩) fun hget => ?_)
  have hsite : site ≠ .lockGet := fun h => hget (congrArg some h.symm)
  cases hdata : Keyspace.get w.redis (.booking flightId id) with
  | some data => exact absurd rfl (hclear _ _ hdata)
  | none =>
      dsimp only [SeatLock.Op.perform]
      rw [hdata]
      dsimp only
      split
      · rename_i hempty
        refine .pure ⟨rfl, hsite, w.redis, rfl, hheld, ?_⟩
        exact ⟨fun _ _ => List.isEmpty_iff.mp hempty, fun _ => hclear⟩
      · rename_i hnonempty
        have httl : 0 < SeatLock.LOCK_TTL := by decide
        refine .bind (redis_solo (fun h => ⟨rfl, rfl, fun _ => .inr (Option.some.inj h).symm⟩)
          fun _ => ?_)
        rcases SeatLock.luaScript_cases flightId id userId SeatLock.LOCK_TTL w.redis.now seats
          w.redis with ⟨hrefused, hsame⟩ | ⟨hgranted, hlocked, -⟩
        · simp only [SeatLock.Op.perform, hrefused, hsame]
          refine .bind (redis_solo nofun fun _ => ?_)
          refine .pure ⟨rfl, hsite, w.redis, rfl, hheld, ?_⟩
          exact ⟨fun _ h => Bool.noConfusion h, fun _ => hclear⟩
        · obtain ⟨hheld, hnot⟩ : Held id flightId (SeatLock.lockAll flightId id userId
              SeatLock.LOCK_TTL w.redis.now seats w.redis) ∧ ¬Clear id _ := held_lockAll httl hclear
          simp only [SeatLock.Op.perform, hgranted, hlocked]
          refine .pure ⟨rfl, hsite, _, rfl, hheld, ?_⟩
          refine ⟨fun h => absurd h hnot, fun h => ?_⟩
          rw [h rfl] at hnonempty
          exact absurd rfl hnonempty

end Locks

/-! ## The steps -/

section Steps

theorem commit_compensation {saga : SagaState} {releaseId : Option String} {reason : String}
    {now : Nat} {row : Booking} (hstatus : saga.status = .compensated)
    (hrelease : releaseId.isSome ↔ 3 ≤ saga.currentStep)
    (hwrites : writes = .saveSaga { saga with status := .compensating } ::
      (releaseId.toList.map fun eventId =>
        .insertEvent ⟨eventId, saga.bookingId, .releaseSeats (seatsPayload saga)⟩) ++
      [.updateBooking saga.bookingId (.cancelled reason now), .saveSaga saga])
    (hstored : w.booking saga.bookingId = some row) (hreserves : reserves w saga.bookingId = 0)
    (hreleases : releases w saga.bookingId = 0) :
    Compensated saga.bookingId (applyAll writes w) ↔
      saga.currentStep < 3 ∧ Clear saga.bookingId w.redis := by
  have hshape : Shape .compensate saga.bookingId writes := by
    rw [hwrites]
    exact Shape.compensate saga releaseId reason now hstatus hrelease
  have hbooking : (applyAll writes w).booking saga.bookingId =
      some ((BookingChange.cancelled reason now).apply row) := by
    have hmodify : Table.find Booking.bookingReference saga.bookingId
        (Table.modify Booking.bookingReference saga.bookingId
          (BookingChange.cancelled reason now).apply w.bookings) =
        some ((BookingChange.cancelled reason now).apply row) := by
      rw [Table.find_modify_self]
      · exact congrArg (Option.map _) hstored
      · intro b hb
        rw [BookingChange.apply_bookingReference, hb]
    subst hwrites
    cases releaseId <;> exact hmodify
  have hterminal : Terminal (applyAll writes w) saga.bookingId :=
    ⟨shape_saga hshape w, _, hbooking, rfl⟩
  have hevents : releases (applyAll writes w) saga.bookingId = releaseId.toList.length ∧
      reserves (applyAll writes w) saga.bookingId = 0 := by
    have houtbox : (applyAll writes w).outbox = w.outbox ++ releaseId.toList.map fun eventId =>
        ⟨eventId, saga.bookingId, .releaseSeats (seatsPayload saga)⟩ := by
      subst hwrites
      cases releaseId with
      | none => exact (List.append_nil _).symm
      | some eventId => rfl
    rw [releases, reserves, houtbox, List.countP_append, List.countP_append]
    rw [releases] at hreleases
    rw [reserves] at hreserves
    rw [hreleases, hreserves]
    cases releaseId <;> simp [EventBody.isRelease, EventBody.isReserve]
  have hredis := applyAll_redis writes w
  constructor
  · intro h
    have hcount := h.events
    rw [hevents.1, hevents.2] at hcount
    refine ⟨?_, hredis ▸ h.clear⟩
    cases releaseId with
    | none => simpa using hrelease
    | some eventId => cases hcount
  · intro h
    refine ⟨hterminal, by rw [hredis]; exact h.2, ?_⟩
    rw [hevents.1, hevents.2]
    cases releaseId with
    | none => rfl
    | some eventId =>
        have hstep := hrelease.mp rfl
        omega

/-- The memory and the world of a compensation that is ready to commit. -/
structure Ready (id : String) (k : Nat) (w : World) (m' : Memory) (w' : World) : Prop where
  bookingId : m'.saga.bookingId = id
  step : m'.saga.currentStep = k
  status : m'.saga.status = .compensated
  writes : ∃ (releaseId : Option String) (reason : String) (now : Nat),
    (releaseId.isSome ↔ 3 ≤ k) ∧
      m'.writes = .saveSaga { m'.saga with status := .compensating } ::
        (releaseId.toList.map fun eventId =>
          .insertEvent ⟨eventId, id, .releaseSeats (seatsPayload m'.saga)⟩) ++
        [.updateBooking id (.cancelled reason now), .saveSaga m'.saga]
  tables : SameTables w w'
  clear : Clear id w'.redis ↔ (k < 2 → Clear id w.redis)

theorem releaseEvent_solo {p : Prop} [Decidable p] {aggregateId : String} {body : EventBody} :
    Solo site i (Call.whenever p (storeEvent .compensate aggregateId body)) m (w, b)
      (fun _ m' s' => ∃ (eventId : Option String) (issued : List String), (eventId.isSome ↔ p) ∧
        s' = ({ w with issued }, b) ∧ m' = { m with
          writes := m.writes ++
            eventId.toList.map fun eventId => .insertEvent ⟨eventId, aggregateId, body⟩ })
      fun _ _ => False := by
  refine .whenever (fun hp => ?_) fun hp => ?_
  · exact storeEvent_solo nofun fun eventId _ => ⟨some eventId, _, by simp [hp], rfl, rfl⟩
  · exact ⟨none, w.issued, by simp [hp], rfl, by simp⟩

theorem releaseLocks_solo (hsite : 2 ≤ k → site ≠ .lockGet) (hheld : Held id flightId w.redis) :
    Solo site i (Call.whenever (2 ≤ k) (seatLock (SeatLock.releaseSeats flightId id))) m (w, b)
      (fun _ m' s' => m' = m ∧ ∃ redis, s' = ({ w with redis }, b) ∧
        (Clear id redis ↔ (k < 2 → Clear id w.redis)))
      fun _ _ => False := by
  refine .whenever (fun hp => ?_) fun hp => ?_
  · refine .lift ((releaseSeats_solo (hsite hp) hheld).mono ?_ fun _ _ h => h)
    intro _ m' s' hreleased
    obtain ⟨rfl, redis, rfl, hclear⟩ := hreleased
    exact ⟨rfl, redis, rfl, fun _ hlt => absurd hp (Nat.not_le.mpr hlt), fun _ => hclear⟩
  · exact ⟨rfl, w.redis, rfl, fun h _ => h, fun h => h (Nat.not_le.mp hp)⟩

theorem compensateBody_solo (message : String) (h : Underway id dto k m w)
    (hsite : 2 ≤ k → site ≠ .lockGet) :
    Solo site i (compensateBody message) { m with writes := [] } (w, b)
      (fun _ m' s' => s'.2 = b ∧ Ready id k w m' s'.1) fun _ _ => False := by
  obtain ⟨rfl, rfl, rfl, -, -, -, -, hheld⟩ := h
  refine .bind (.remember (.bind (saveSaga_solo nofun fun _ => .bind (.memory ?_))))
  refine .andThen releaseEvent_solo (fun _ _ h => h) fun _ m₁ s₁ h₁ => ?_
  obtain ⟨releaseId, issued, hrelease, rfl, rfl⟩ := h₁
  refine .andThen (releaseLocks_solo hsite hheld) (fun _ _ h => h) fun _ m₂ s₂ h₂ => ?_
  obtain ⟨rfl, redis, rfl, hclear⟩ := h₂
  refine .bind (dateNow_solo fun now => .bind (statement_solo nofun fun _ => ?_))
  refine .bind (.remember (saveSaga_solo nofun fun _ => ⟨rfl, ?_⟩))
  exact
    { bookingId := rfl
      step := rfl
      status := rfl
      writes := ⟨releaseId, s!"Saga failed: {message}", now, hrelease, by simp [seatsPayload]⟩
      tables := ⟨rfl, rfl, rfl⟩
      clear := hclear }

/-- A compensation commits, and leaves nothing of a booking whose saga in memory had not
reached step 3 and whose locks it released or never found. -/
theorem compensate_solo (message : String) (h : Underway id dto k m w)
    (hsite : 2 ≤ k → site ≠ .lockGet) :
    Solo site i (compensate message) m (w, b)
      (fun _ m' s' => s'.2 = b ∧ m'.saga.bookingId = id ∧
        (Compensated id s'.1 ↔ k < 3 ∧ (k < 2 → Clear id w.redis))) fun _ _ => False := by
  refine .bind (.memory ?_)
  rw [if_neg h.status]
  refine .tryCatch ?_ fun _ _ _ (hfalse : False) => hfalse.elim
  refine .bind (read_solo (fun _ => rfl) nofun fun _ => ?_)
  refine .bind (.remember (.andThen (compensateBody_solo message h hsite) (fun _ _ h => h) ?_))
  intro _ m₁ s₁ h₁
  obtain ⟨s₁, b₁⟩ := s₁
  obtain ⟨rfl, hready⟩ := h₁
  obtain ⟨releaseId, reason, now, hrelease, hwrites⟩ := hready.writes
  obtain ⟨row, hrow⟩ := h.stored
  have hid := hready.bookingId
  subst hid
  refine .bind (.memory (commit_solo ?_ nofun fun _ => ?_))
  · rw [hwrites]
    cases releaseId <;> rfl
  · refine ⟨rfl, rfl, ?_⟩
    rw [← hready.clear, ← hready.step]
    have hstored : s₁.booking m₁.saga.bookingId = some row := by
      rw [World.booking, hready.tables.bookings]
      exact hrow
    refine commit_compensation hready.status (hready.step ▸ hrelease) hwrites hstored ?_ ?_
    · rw [reserves, hready.tables.outbox]
      exact h.reserves
    · rw [releases, hready.tables.outbox]
      exact h.releases

/-- What a step leaves when it fails: nothing that its transaction had written, and a saga in
memory that tells how much of the rest the compensation can undo. -/
def Failed (site : Site) (id : String) (dto : CreateBookingDto) (m : Memory) (s : World × Bool) :
    Prop :=
  ∃ k, Underway id dto k m s.1 ∧ (2 ≤ k → site ≠ .lockGet) ∧
    (s.2 = true → (k < 3 ∧ (k < 2 → Clear id s.1.redis) ↔ site.Recovers dto))

/-- The claim about a rejected call. -/
def Settled (site : Site) (dto : CreateBookingDto) (m : Memory) (s : World × Bool) : Prop :=
  s.2 = true → (Compensated m.saga.bookingId s.1 ↔ site.Recovers dto)

variable (id) in
theorem compensating_solo {body : Call Unit} {Q : Unit → Memory → World × Bool → Prop}
    (h : Solo site i body m s Q (Failed site id dto)) :
    Solo site i (compensating body) m s Q (Settled site dto) := by
  refine .tryCatch h fun e m₁ s₁ hfailed => ?_
  obtain ⟨w₁, b₁⟩ := s₁
  obtain ⟨k, hunderway, hsite, hrecovers⟩ := hfailed
  refine .andThen (compensate_solo e.message hunderway hsite) (fun _ _ h => h.elim) ?_
  intro _ m₂ s₂ h₂
  obtain ⟨hflag, rfl, hcompensated⟩ := h₂
  refine .throw fun hb => hcompensated.trans (hrecovers ?_)
  rw [← hflag]
  exact hb

/-- The saga in memory moves on to the next step, whatever becomes of the transaction. -/
theorem Underway.advance {saga : SagaState} {writes' : List Write} {issued : List String} {k' : Nat}
    (h : Underway id dto k m w) (hid : saga.bookingId = m.saga.bookingId)
    (hpayload : saga.payload = m.saga.payload) (hstep : saga.currentStep = k')
    (hstatus : saga.status ≠ .compensated) :
    Underway id dto k' ⟨saga, writes'⟩ { w with issued } where
  bookingId := hid.trans h.bookingId
  payload := hpayload.trans h.payload
  step := hstep
  status := hstatus
  stored := h.stored
  reserves := h.reserves
  releases := h.releases
  held := h.held

theorem lockSeatsTx_solo {lockKey : String} (h : Underway id dto 1 m w) (hsite : site ≠ .lockGet)
    (hclear : Clear id w.redis ↔ dto.seatNumbers.getD [] = []) :
    Solo site i (transaction .lockSeats (lockSeatsBody lockKey)) m (w, false)
      (fun _ m' s' => s'.2 = false ∧ Underway id dto 2 m' s'.1) (Failed site id dto) := by
  have hmoved : ∀ writes, Underway id dto 2
      ⟨{ m.saga with currentStep := 2, status := .seatsLocked, lockKey := some lockKey }, writes⟩ w :=
    fun _ => h.advance rfl rfl rfl nofun
  refine .bind (read_solo (fun _ => rfl) (fun hbegin => ?_) fun _ => .bind (.remember ?_))
  · obtain rfl := Option.some.inj hbegin
    refine ⟨1, h, nofun, fun _ => ⟨fun hp => hclear.mp (hp.2 (by decide)), fun hp => ?_⟩⟩
    exact ⟨by decide, fun _ => hclear.mpr hp⟩
  refine .bind (.bind (.remember (saveSaga_solo (fun hsave => ?_) fun _ => .bind (.memory ?_))))
  · obtain rfl := Option.some.inj hsave
    exact ⟨2, hmoved _, fun _ => nofun, fun _ => by simp [Site.Recovers]⟩
  refine commit_solo rfl (fun hcommit => ?_) fun _ => ⟨rfl, ?_⟩
  · obtain rfl := Option.some.inj hcommit
    exact ⟨2, hmoved _, fun _ => nofun, fun _ => by simp [Site.Recovers]⟩
  · obtain ⟨hid, hpayload, hstep, hstatus, hstored, hreserves, hreleases, hheld⟩ := hmoved
      [.saveSaga { m.saga with currentStep := 2, status := .seatsLocked, lockKey := some lockKey }]
    exact ⟨hid, hpayload, hstep, hstatus, hstored, hreserves, hreleases, hheld⟩

theorem executeStep2_solo (h : Underway id dto 1 m w) (hclear : Clear id w.redis) :
    Solo site i executeStep2_LockSeats m (w, false)
      (fun _ m' s' => s'.2 = false ∧ site ≠ .lockGet ∧ Underway id dto 2 m' s'.1)
      (Settled site dto) := by
  refine .bind (.memory ?_)
  rw [if_neg (by rw [h.step]; decide)]
  refine compensating_solo id ?_
  have hid := h.bookingId
  have hpayload := h.payload
  subst hid hpayload
  refine .andThen (.lift (lockSeats_solo hclear)) ?_ ?_
  · intro m' s' hfailed
    obtain ⟨w', b'⟩ := s'
    obtain ⟨rfl, rfl, hsite⟩ := hfailed
    refine ⟨1, h, nofun, fun hb => ?_⟩
    have hrecovers : site.Recovers m'.saga.payload := by
      rcases hsite hb with rfl | rfl <;> trivial
    exact ⟨fun _ => hrecovers, fun _ => ⟨by decide, fun _ => hclear⟩⟩
  · intro locked m' s' hlocked
    obtain ⟨rfl, hsite, redis, rfl, hheld, hiff⟩ := hlocked
    have hunderway : Underway m'.saga.bookingId m'.saga.payload 1 m' { w with redis } :=
      ⟨rfl, rfl, h.step, h.status, h.stored, h.reserves, h.releases, hheld⟩
    split
    · rename_i hsuccess
      refine (lockSeatsTx_solo hunderway hsite ?_).mono (fun _ m'' s'' h'' => ?_) fun _ _ h => h
      · exact ⟨fun hc => hiff.mp hc hsuccess, fun he => hiff.mpr fun _ => he⟩
      · exact ⟨h''.1, hsite, h''.2⟩
    · exact .throw ⟨1, hunderway, nofun, nofun⟩

theorem executeStep3_solo (h : Underway id dto 2 m w) (hsite : site ≠ .lockGet) :
    Solo site i executeStep3_ReserveFlightSeats m (w, false) (fun _ _ _ => True)
      (Settled site dto) := by
  refine .bind (.memory ?_)
  rw [if_neg (by rw [h.step]; decide)]
  refine compensating_solo id ?_
  have hmoved : ∀ writes issued, Underway id dto 3
      ⟨{ m.saga with currentStep := 3, status := .flightReserved }, writes⟩ { w with issued } :=
    fun _ _ => h.advance rfl rfl rfl nofun
  refine .bind (read_solo (fun _ => rfl) (fun hbegin => ?_) fun _ => .bind (.remember (.bind ?_)))
  · obtain rfl := Option.some.inj hbegin
    exact ⟨2, h, fun _ => nofun, fun _ => by simp [Site.Recovers]⟩
  refine .bind (storeEvent_solo (fun eventId hstore => ?_) fun eventId _ => .bind (.remember ?_))
  · obtain rfl := Option.some.inj hstore
    exact ⟨2, h.advance rfl rfl h.step h.status, fun _ => nofun, fun _ => by simp [Site.Recovers]⟩
  refine .bind (saveSaga_solo (fun hsave => ?_) fun _ => statement_solo (fun hupdate => ?_) fun _ => ?_)
  · obtain rfl := Option.some.inj hsave
    exact ⟨3, hmoved _ _, fun _ => nofun, fun _ => by simp [Site.Recovers]⟩
  · obtain rfl := Option.some.inj hupdate
    exact ⟨3, hmoved _ _, fun _ => nofun, fun _ => by simp [Site.Recovers]⟩
  refine .bind (.memory (commit_solo rfl (fun hcommit => ?_) fun _ => trivial))
  obtain rfl := Option.some.inj hcommit
  exact ⟨3, hmoved _ _, fun _ => nofun, fun _ => by simp [Site.Recovers]⟩

/-- Nothing carries the identifier yet. -/
structure Fresh (id : String) (w : World) : Prop where
  booking : w.booking id = none
  outbox : ∀ e ∈ w.outbox, OutboxEvent.aggregateId e ≠ id
  clear : Clear id w.redis

theorem fresh_of_owned (hw : Owned w) (hid : id ∉ w.issued) : Fresh id w where
  booking := by
    cases hb : w.booking id with
    | none => rfl
    | some row => exact absurd (hw.bookings id row hb) hid
  outbox e he heq := hid (heq ▸ hw.outbox e he)
  clear k v hv howner := hid (howner ▸ hw.keys k v hv)

theorem executeStep1_solo (hid : m.saga.bookingId = id) (hpayload : m.saga.payload = dto)
    (hstep : m.saga.currentStep = 0) (hfresh : Fresh id w) :
    Solo site i executeStep1_CreateBooking m (w, false)
      (fun _ m' s' => s'.2 = false ∧ Underway id dto 1 m' s'.1 ∧ Clear id s'.1.redis)
      (Settled site dto) := by
  subst hid hpayload
  have hnobooking : Table.find Booking.bookingReference m.saga.bookingId w.bookings = none :=
    hfresh.booking
  refine .bind (.memory ?_)
  rw [if_neg (by rw [hstep]; decide)]
  refine .bind (read_solo (fun _ => rfl) nofun fun _ => .bind (.remember (.bind ?_)))
  refine .bind (dateNow_solo fun now => .bind (statement_solo nofun fun _ => ?_))
  refine .bind (.remember (.bind (saveSaga_solo nofun fun _ => ?_)))
  refine storeEvent_solo nofun fun eventId _ => .bind (.memory (commit_solo ?_ nofun fun _ => ?_))
  · change ((Table.find Booking.bookingReference m.saga.bookingId w.bookings).isNone && true) = true
    rw [hnobooking]
    rfl
  · have hevents : ∀ p : EventBody → Bool,
        (w.outbox.countP fun e => e.aggregateId = m.saga.bookingId && p e.body) = 0 := by
      intro p
      rw [List.countP_eq_zero]
      intro e he
      simp [hfresh.outbox e he]
    have hstored : Table.find Booking.bookingReference m.saga.bookingId
        (w.bookings ++ [newBooking m.saga now]) = some (newBooking m.saga now) := by
      have hkey : (newBooking m.saga now).bookingReference = m.saga.bookingId := rfl
      rw [Table.find_insert, hnobooking, Option.none_or, if_pos hkey]
    refine ⟨rfl, ⟨rfl, rfl, rfl, nofun, ⟨_, hstored⟩, ?_, ?_, held_of_clear hfresh.clear⟩,
      hfresh.clear⟩
    · have hcount := hevents EventBody.isReserve
      simpa [reserves, applyAll, Write.apply, EventBody.isReserve] using hcount
    · have hcount := hevents EventBody.isRelease
      simpa [releases, applyAll, Write.apply, EventBody.isRelease] using hcount

theorem insertSaga_solo {saga : SagaState} {Q : Unit → Memory → World × Bool → Prop}
    {E : Memory → World × Bool → Prop}
    (h : Q () m ({ w with sagas := w.sagas ++ [saga] }, b)) :
    Solo site i (Call.await (Op.insertSaga saga)) m (w, b) Q E := by
  refine op_solo nofun ?_ ?_
  · intro _ uuid e w' hperform
    cases hperform
  · intro _ uuid a w' _ hperform
    cases hperform
    exact h

theorem findExistingSaga_solo (key : Option String) :
    Solo site i (findExistingSaga key) m (w, b) (fun _ _ s' => s' = (w, b)) fun _ _ => False := by
  unfold findExistingSaga
  split
  · split
    · exact .pure rfl
    · exact read_solo (fun _ => rfl) nofun fun _ => rfl
  · exact .pure rfl

theorem executeBookingSaga_solo (key : Option String) :
    Solo site i (executeBookingSaga dto key) m (w, false) (fun _ _ _ => True)
      (Settled site dto) := by
  refine .andThen (findExistingSaga_solo key) (fun _ _ h => h.elim) fun existing m₁ s₁ h₁ => ?_
  subst h₁
  cases existing with
  | some saga => exact read_solo (fun _ => rfl) nofun fun _ => trivial
  | none =>
      refine .bind (uuid_solo fun sagaId _ _ => .bind (uuid_solo fun bookingId howned hnew => ?_))
      have hfresh := fresh_of_owned howned hnew
      refine .bind (insertSaga_solo (.bind (.remember ?_)))
      refine .andThen (executeStep1_solo rfl rfl rfl ⟨hfresh.booking, hfresh.outbox, hfresh.clear⟩)
        (fun _ _ h => h) fun _ m₂ s₂ h₂ => ?_
      obtain ⟨w₂, b₂⟩ := s₂
      obtain ⟨rfl, hunderway, hclear⟩ := h₂
      refine .andThen (executeStep2_solo hunderway hclear) (fun _ _ h => h) fun _ m₃ s₃ h₃ => ?_
      obtain ⟨w₃, b₃⟩ := s₃
      obtain ⟨rfl, hsite, hunderway⟩ := h₃
      refine .andThen (executeStep3_solo hunderway hsite) (fun _ _ h => h) fun _ m₄ s₄ _ => ?_
      exact read_solo (fun _ => rfl) nofun fun _ => trivial

end Steps

/-! ## Runs -/

theorem foldl_failed (es : List Event) (b : Bool) :
    es.foldl (fun b e => b || failed e) b = (b || es.any failed) := by
  induction es generalizing b with
  | nil => exact (Bool.or_false b).symm
  | cons e es ih => rw [List.foldl_cons, ih, List.any_cons, Bool.or_assoc]

/-- A booking whose creation one operation of step 2 or 3 made fail is compensated exactly for
the failures that leave the saga in memory at the step that was stored. -/
theorem compensation_exact_iff {now : Nat} {ms : List (Move Request Choice)} {es es' : List Event}
    {P P' : ServicePool}
    {dto : CreateBookingDto} {key : Option String} {choices : List Choice} {site : Site}
    {error : Exception} {m : Memory}
    (hrun : service.run ms (Pool.init (World.init now)) = some (es, P))
    (hcall : service.run (.start (.executeBookingSaga dto key) ::
      choices.map (.run P.calls.length)) P = some (es', P'))
    (hrejected : P'.calls[P.calls.length]? = some (.done (.error error, m)))
    (honly : ∀ e ∈ es', OnlyAt site e) (hfailed : es'.any failed = true) :
    Compensated m.saga.bookingId P'.state ↔ site.Recovers dto := by
  have howned := (owned_run (System.run_append hrun hcall)).2
  obtain ⟨e, Q, es₁, hmove, hrest, rfl⟩ := System.run_cons hcall
  simp only [System.move, Option.some.injEq, Prod.mk.injEq] at hmove
  obtain ⟨rfl, rfl⟩ := hmove
  have hstarted : (P.calls ++ [service.program (.executeBookingSaga dto key)])[P.calls.length]? =
      some (service.program (.executeBookingSaga dto key)) := List.getElem?_concat_length
  have hsolo : Solo site P.calls.length (Request.executeBookingSaga dto key).call Memory.blank
      (P.state, false) (fun _ _ _ => True) (Settled site dto) :=
    .andThen (executeBookingSaga_solo key) (fun _ _ h => h) fun _ _ _ _ => .pure trivial
  have hallows : ∀ e ∈ es₁, OnlyAt site e ∧ BeforeOwned e := by
    intro e he
    exact ⟨honly e (by simp [he]), howned e (by simp [he])⟩
  have hsettled : Settled site dto m (P'.state, es₁.foldl (fun b e => b || failed e) false) :=
    System.run_observed (P := ⟨P.state, P.calls ++ [service.program (.executeBookingSaga dto key)]⟩)
      hstarted hsolo hrest hallows hrejected
  refine hsettled ?_
  rw [foldl_failed]
  simpa [failed] using hfailed

/-- The choices of a call of `n` operations of which the one numbered `k` fails. -/
def oneFailure (k n : Nat) : List Choice :=
  (List.range n).map fun j => ⟨if j = k then some (.error "down") else none, s!"u{j}"⟩

/-- The first call was rejected, and only the operation of the site failed. -/
def rejectedAt (site : Site) (result : List Event × ServicePool)
    (also : Memory → World → Bool) : Bool :=
  (match result.2.calls[0]? with
    | some (Program.done (Except.error _, m)) => also m result.2.state
    | _ => false) &&
  result.1.all (fun e => OnlyAt site e) && result.1.any failed

theorem rejectedAt_spec {es : List Event} {also : Memory → World → Bool}
    {P : ServicePool}
    (h : rejectedAt site (es, P) also = true) :
    ∃ error m, P.calls[0]? = some (.done (.error error, m)) ∧ also m P.state = true ∧
      (∀ e ∈ es, OnlyAt site e) ∧ es.any failed = true := by
  simp only [rejectedAt, Bool.and_eq_true, List.all_eq_true, decide_eq_true_eq] at h
  obtain ⟨⟨hcall, honly⟩, hfailed⟩ := h
  split at hcall
  · rename_i error m hdone
    exact ⟨error, m, hdone, hcall, honly, hfailed⟩
  · cases hcall

/-- The commit of step 2 fails. -/
theorem compensation_exact_commitLock :
    ∃ (es : List Event) (error : Exception) (m : Memory) (P : ServicePool),
      service.run (.start (.executeBookingSaga onlySeat none) :: (oneFailure 15 26).map (.run 0))
        (Pool.init (World.init 0)) = some (es, P) ∧
      P.calls[0]? = some (.done (.error error, m)) ∧ Compensated m.saga.bookingId P.state := by
  have hcall : (service.run
      (.start (.executeBookingSaga onlySeat none) :: (oneFailure 15 26).map (.run 0))
      (Pool.init (World.init 0))).any (fun result =>
        rejectedAt .commitLock result fun _ _ => true) = true := by decide +kernel
  obtain ⟨es, P, hcall, hresult⟩ := System.exists_run hcall
  obtain ⟨error, m, hdone, -, honly, hfailed⟩ := rejectedAt_spec hresult
  refine ⟨es, error, m, P, hcall, hdone, ?_⟩
  have hempty : service.run [] (Pool.init (World.init 0)) = some ([], Pool.init (World.init 0)) := rfl
  exact (compensation_exact_iff hempty hcall hdone honly hfailed).mpr trivial

/-- The saga row of step 3 cannot be saved: its reservation rolls back and is released. -/
theorem compensation_not_exact :
    ¬∀ (now : Nat) (ms : List (Move Request Choice)) (es : List Event) (P : ServicePool)
      (dto : CreateBookingDto) (key : Option String) (choices : List Choice) (es' : List Event)
      (P' : ServicePool) (site : Site) (error : Exception) (m : Memory),
      service.run ms (Pool.init (World.init now)) = some (es, P) →
      service.run (.start (.executeBookingSaga dto key) ::
        choices.map (.run P.calls.length)) P = some (es', P') →
      P'.calls[P.calls.length]? = some (.done (.error error, m)) →
      (∀ e ∈ es', OnlyAt site e) → es'.any failed = true →
        Compensated m.saga.bookingId P'.state := by
  intro h
  have hcall : (service.run
      (.start (.executeBookingSaga onlySeat none) :: (oneFailure 19 32).map (.run 0))
      (Pool.init (World.init 0))).any (fun result =>
        rejectedAt .saveReserve result fun m w =>
          releases w m.saga.bookingId ≠ reserves w m.saga.bookingId) = true := by decide +kernel
  obtain ⟨es, P, hcall, hresult⟩ := System.exists_run hcall
  obtain ⟨error, m, hdone, hevents, honly, hfailed⟩ := rejectedAt_spec hresult
  have hcompensated := h 0 [] [] _ onlySeat none (oneFailure 19 32) es P .saveReserve error m rfl
    hcall hdone honly hfailed
  simp only [decide_eq_true_eq] at hevents
  exact hevents hcompensated.events

end FlightBookings.Booking
