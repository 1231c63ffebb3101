import FlightBookings.SeatLock.Locking
import FlightBookings.SeatLock.MutualExclusion

/-! # Availability queries

A query asks which keys exist, by the names as they stand between the commas. A
lock call asks what the keys record, by the names that it is given. The two
answers differ on names with blanks around them, and on locks that outlive the
expiry recorded in them.
-/

namespace FlightBookings.SeatLock

open Await

/-- `Map.prototype.set`: a known key keeps its place. -/
def mapSet (entries : List (String × Bool)) (key : String) (value : Bool) : List (String × Bool) :=
  if entries.any fun e => e.1 == key then
    entries.map fun e => if e.1 = key then (key, value) else e
  else entries ++ [(key, value)]

/-- A `get` sent in a pipeline: whether its response is not `null`, as that of a failed command
is not either. -/
def pipelinedGet {L : Type} (key : Key) : Call L Bool :=
  tryCatch (do let value ← Call.await (Op.get key); pure value.isSome) fun _ => pure true

def readLocks {L : Type} (flightId : Int) : List String → Call L (List Bool)
  | [] => pure []
  | seat :: seats => do
      let response ← pipelinedGet (.seat flightId seat)
      let rest ← readLocks flightId seats
      pure (response :: rest)

def areSeatsLocked {L : Type} (flightId : Int) (seats : List String) :
    Call L (List (String × Bool)) := do
  let responses ← readLocks flightId seats
  pure ((seats.zip responses).foldl (fun result e => mapSet result e.1 e.2) [])

structure SeatAvailability where
  seat : String
  available : Bool
deriving DecidableEq

structure FlightAvailability where
  flightId : Int
  seats : List SeatAvailability
  allAvailable : Bool
deriving DecidableEq

/-- `seats.split(',')` -/
def seatArray (seats : String) : List String :=
  (seats.toList.splitOn ',').map String.ofList

def checkSeatAvailability {L : Type} (flightId : Int) (seats : String) :
    Call L FlightAvailability := do
  let lockedSeats ← areSeatsLocked flightId (seatArray seats)
  let availability := lockedSeats.map fun e => { seat := e.1, available := !e.2 : SeatAvailability }
  pure { flightId, seats := availability, allAvailable := availability.all fun s => s.available }

variable {flightId userId : Int} {bookingId : String} {seats : List String} {r : Redis}

/-! ## The query -/

theorem mem_mapSet {entries : List (String × Bool)} {key k : String} {value v : Bool} :
    (k, v) ∈ mapSet entries key value ↔ if k = key then v = value else (k, v) ∈ entries := by
  unfold mapSet
  split
  · rename_i hknown
    obtain ⟨e, he, hkey⟩ := List.any_eq_true.mp hknown
    have hkey : e.1 = key := beq_iff_eq.mp hkey
    rw [List.mem_map]
    split
    · rename_i hk
      subst hk
      constructor
      · rintro ⟨e', -, heq⟩
        split at heq
        · cases heq
          rfl
        · rename_i hne
          cases heq
          exact absurd rfl hne
      · rintro rfl
        exact ⟨e, he, if_pos hkey⟩
    · rename_i hk
      constructor
      · rintro ⟨e', he', heq⟩
        split at heq
        · cases heq
          exact absurd rfl hk
        · exact heq ▸ he'
      · intro hmem
        exact ⟨(k, v), hmem, if_neg hk⟩
  · rename_i hnew
    have hnew : ∀ v, (key, v) ∉ entries := by
      intro v hmem
      exact hnew (List.any_eq_true.mpr ⟨(key, v), hmem, beq_self_eq_true key⟩)
    by_cases hk : k = key
    · subst hk
      simp [hnew]
    · simp [hk]

theorem mem_foldl_mapSet (locked : String → Bool) {entries : List (String × Bool)} {k : String}
    {v : Bool} :
    (k, v) ∈ (seats.map fun seat => (seat, locked seat)).foldl
        (fun result e => mapSet result e.1 e.2) entries ↔
      if k ∈ seats then v = locked k else (k, v) ∈ entries := by
  induction seats generalizing entries with
  | nil => simp
  | cons seat seats ih =>
      rw [List.map_cons, List.foldl_cons, ih, mem_mapSet]
      by_cases hrest : k ∈ seats
      · simp [hrest]
      · by_cases hk : k = seat <;> simp [hk, hrest]

theorem readLocks_run {L : Type} {timestamp : Nat} {l : L} :
    (readLocks flightId seats).run (performAt timestamp) l r =
      ((.ok (seats.map fun seat => (r.get (.seat flightId seat)).isSome), l), r) := by
  induction seats with
  | nil => rfl
  | cons seat seats ih => simp [readLocks, pipelinedGet, performAt, Op.perform, ih]

/-- The answer to a query at one instant. -/
def checkSeatAvailabilityAt (flightId : Int) (seats : String) (r : Redis) :
    Except Exception FlightAvailability :=
  ((checkSeatAvailability flightId seats).run (performAt r.now) () r).1.1

/-- The map that a query builds of its seats. -/
def lockEntries (flightId : Int) (seats : List String) (r : Redis) : List (String × Bool) :=
  (seats.map fun seat => (seat, (r.get (.seat flightId seat)).isSome)).foldl
    (fun result e => mapSet result e.1 e.2) []

theorem checkSeatAvailabilityAt_eq (flightId : Int) (query : String) (r : Redis) :
    checkSeatAvailabilityAt flightId query r =
      let availability := (lockEntries flightId (seatArray query) r).map fun e =>
        (⟨e.1, !e.2⟩ : SeatAvailability)
      .ok ⟨flightId, availability, availability.all fun s => s.available⟩ := by
  simp [checkSeatAvailabilityAt, checkSeatAvailability, areSeatsLocked, readLocks_run,
    lockEntries, List.map_prod_left_eq_zip]

/-- A query names each of its seats as it was asked for, and calls it available if there is no
key of that name. -/
theorem mem_availability {seat : String} {available : Bool} :
    (⟨seat, available⟩ : SeatAvailability) ∈ (lockEntries flightId seats r).map (fun e =>
        (⟨e.1, !e.2⟩ : SeatAvailability)) ↔
      seat ∈ seats ∧ available = (r.get (.seat flightId seat)).isNone := by
  have hentry : (⟨seat, available⟩ : SeatAvailability) ∈ (lockEntries flightId seats r).map (fun e =>
      (⟨e.1, !e.2⟩ : SeatAvailability)) ↔ (seat, !available) ∈ lockEntries flightId seats r := by
    rw [List.mem_map]
    constructor
    · rintro ⟨e, he, heq⟩
      cases heq
      rwa [Bool.not_not]
    · intro hmem
      exact ⟨_, hmem, by rw [Bool.not_not]⟩
  rw [hentry, lockEntries, mem_foldl_mapSet fun seat => (r.get (.seat flightId seat)).isSome]
  cases r.get (.seat flightId seat) <;> cases available <;> simp

theorem all_available :
    (((lockEntries flightId seats r).map fun e => (⟨e.1, !e.2⟩ : SeatAvailability)).all
        fun s => s.available) = true ↔ ∀ seat ∈ seats, r.get (.seat flightId seat) = none := by
  rw [List.all_eq_true]
  constructor
  · intro h seat hseat
    have havailable := h ⟨seat, _⟩ (mem_availability.mpr ⟨hseat, rfl⟩)
    exact Option.isNone_iff_eq_none.mp havailable
  · rintro h ⟨seat, available⟩ hmem
    obtain ⟨hseat, rfl⟩ := mem_availability.mp hmem
    exact Option.isNone_iff_eq_none.mpr (h seat hseat)

/-! ## Queries and locks -/

/-- The booking has no live key on the flight, neither of its own nor on a seat. -/
def HoldsNothing (r : Redis) (flightId : Int) (bookingId : String) : Prop :=
  r.get (.booking flightId bookingId) = none ∧
    ∀ seat, ∀ lock : SeatData, r.get (.seat flightId seat) = some lock → lock.bookingId ≠ bookingId

/-- The answer to a query and the reply to a lock call for its seats say the same. -/
structure Agrees (flightId : Int) (query : String) (bookingId : String) (userId : Int)
    (r : Redis) : Prop where
  all : ∀ reply, checkSeatAvailabilityAt flightId query r = .ok reply →
    (reply.allAvailable = true ↔ Succeeds
      (lockSeatsAt r.now flightId ((seatArray query).map trim) bookingId userId r).1)
  blame : ∀ reply, checkSeatAvailabilityAt flightId query r = .ok reply →
    ∀ seat, ⟨seat, false⟩ ∈ reply.seats → ∀ result : SeatLockResult,
      (lockSeatsAt r.now flightId ((seatArray query).map trim) bookingId userId r).1 = .ok result →
        trim seat ∈ result.failedSeats

/-- A live key of the seat has not expired by its own record. -/
def Unexpired (r : Redis) (flightId : Int) (seat : String) : Prop :=
  ∃ lock : SeatData, r.get (.seat flightId seat) = some lock ∧ r.now < lock.expiresAt

/-- What a query reads under the names as they stand is what a lock call reads under the
trimmed ones. -/
structure Reads (r : Redis) (flightId : Int) (seats : List String) : Prop where
  taken : ∀ seat ∈ seats, r.get (.seat flightId seat) ≠ none → Unexpired r flightId (trim seat)
  free : (∀ seat ∈ seats, r.get (.seat flightId seat) = none) →
    ∀ seat ∈ seats, ¬Unexpired r flightId (trim seat)

theorem heldByOther_iff (hnothing : HoldsNothing r flightId bookingId) (seat : String) :
    HeldByOther r flightId bookingId r.now seat ↔ Unexpired r flightId seat := by
  constructor
  · rintro ⟨lock, hlock, -, hlt⟩
    exact ⟨lock, hlock, hlt⟩
  · rintro ⟨lock, hlock, hlt⟩
    exact ⟨lock, hlock, hnothing.2 seat lock hlock, hlt⟩

theorem failedSeats_eq (timestamp : Nat) (userId : Int) (hvalid : validateSeatsExist seats = .ok ())
    (hne : seats ≠ []) (hgone : r.get (.booking flightId bookingId) = none) :
    ∃ result, (lockSeatsAt timestamp flightId seats bookingId userId r).1 = .ok result ∧
      result.failedSeats = seats.filter fun seat =>
        HeldByOther r flightId bookingId timestamp seat := by
  by_cases hfree : ∀ seat ∈ seats, ¬HeldByOther r flightId bookingId timestamp seat
  · rw [lockSeatsAt_granted hvalid hne hgone hfree]
    have hnone : (seats.filter fun seat =>
        HeldByOther r flightId bookingId timestamp seat) = [] := by
      rw [List.filter_eq_nil_iff]
      simpa using hfree
    exact ⟨_, rfl, hnone.symm⟩
  · rw [lockSeatsAt_refused hvalid hne hgone hfree]
    exact ⟨_, rfl, rfl⟩

theorem seatArray_ne_nil (query : String) : seatArray query ≠ [] := by
  simp [seatArray, List.splitOn_ne_nil]

section Query

variable {query : String}

theorem succeeds_trimmed (userId : Int)
    (hvalid : validateSeatsExist ((seatArray query).map trim) = .ok ())
    (hnothing : HoldsNothing r flightId bookingId) :
    Succeeds (lockSeatsAt r.now flightId ((seatArray query).map trim) bookingId userId r).1 ↔
      ∀ seat ∈ seatArray query, ¬Unexpired r flightId (trim seat) := by
  have hne : (seatArray query).map trim ≠ [] := by
    simpa using seatArray_ne_nil query
  rw [succeeds_iff hvalid hne, List.forall_mem_map]
  simp only [hnothing.1, forall_const, heldByOther_iff hnothing]

theorem failed_trimmed (userId : Int)
    (hvalid : validateSeatsExist ((seatArray query).map trim) = .ok ())
    (hnothing : HoldsNothing r flightId bookingId) {seat : String} (hseat : seat ∈ seatArray query) :
    (∀ result : SeatLockResult,
      (lockSeatsAt r.now flightId ((seatArray query).map trim) bookingId userId r).1 = .ok result →
        trim seat ∈ result.failedSeats) ↔ Unexpired r flightId (trim seat) := by
  have hne : (seatArray query).map trim ≠ [] := by
    simpa using seatArray_ne_nil query
  obtain ⟨result, hcall, hfailed⟩ :=
    failedSeats_eq r.now userId hvalid hne hnothing.1
  have hmem : trim seat ∈ result.failedSeats ↔ Unexpired r flightId (trim seat) := by
    rw [hfailed, List.mem_filter, decide_eq_true_eq, heldByOther_iff hnothing]
    exact and_iff_right (List.mem_map_of_mem hseat)
  rw [hcall, ← hmem]
  constructor
  · intro h
    exact h result rfl
  · intro h result' heq
    cases heq
    exact h

theorem agrees_of_reads (hvalid : validateSeatsExist ((seatArray query).map trim) = .ok ())
    (hnothing : HoldsNothing r flightId bookingId) (h : Reads r flightId (seatArray query)) :
    Agrees flightId query bookingId userId r := by
  have hreply := checkSeatAvailabilityAt_eq flightId query r
  constructor
  · intro reply heq
    cases hreply.symm.trans heq
    rw [succeeds_trimmed userId hvalid hnothing]
    refine all_available.trans ⟨h.free, ?_⟩
    intro hfree seat hseat
    by_contra hkey
    exact hfree seat hseat (h.taken seat hseat hkey)
  · intro reply heq seat hunavailable
    cases hreply.symm.trans heq
    obtain ⟨hseat, hkey⟩ := mem_availability.mp hunavailable
    rw [failed_trimmed userId hvalid hnothing hseat]
    apply h.taken seat hseat
    intro hnone
    rw [hnone] at hkey
    cases hkey

/-- Queries agree with lock calls of a booking that holds nothing exactly if they read the same. -/
theorem agrees_iff (hvalid : validateSeatsExist ((seatArray query).map trim) = .ok ())
    (hnothing : HoldsNothing r flightId bookingId) :
    Agrees flightId query bookingId userId r ↔ Reads r flightId (seatArray query) := by
  have hreply := checkSeatAvailabilityAt_eq flightId query r
  refine ⟨?_, agrees_of_reads hvalid hnothing⟩
  intro h
  constructor
  · intro seat hseat hkey
    rw [← failed_trimmed userId hvalid hnothing hseat]
    refine h.blame _ hreply seat (mem_availability.mpr ⟨hseat, ?_⟩)
    rwa [eq_comm, Option.isNone_eq_false_iff, Option.isSome_iff_ne_none]
  · intro hnone
    rw [← succeeds_trimmed userId hvalid hnothing]
    exact (h.all _ hreply).mp (all_available.mpr hnone)

end Query

theorem holdsNothing_lockAll {a : String} {ttl timestamp : Nat} (httl : 0 < ttl)
    (hab : a ≠ bookingId) (h : HoldsNothing r flightId bookingId) :
    HoldsNothing (lockAll flightId a userId ttl timestamp seats r) flightId bookingId := by
  constructor
  · rw [lockAll_booking httl, if_neg fun heq => hab heq.2.symm]
    exact h.1
  · intro seat lock hlock
    obtain ⟨deadline, hlive⟩ := Keyspace.get_eq_some.mp hlock
    rw [lockAll_seat httl] at hlive
    split at hlive
    · cases hlive
      exact hab
    · exact h.2 seat lock (Keyspace.get_eq_some.mpr ⟨deadline, hlive⟩)

theorem holdsNothing_empty (now : Nat) : HoldsNothing (Keyspace.empty now) flightId bookingId := by
  refine ⟨rfl, ?_⟩
  intro seat lock hlock
  cases hlock

theorem holdsNothing_oneSeat : HoldsNothing oneSeat 7 "b" :=
  holdsNothing_lockAll (by decide) (by decide) (holdsNothing_empty 0)

theorem agrees_iff_oneSeat :
    Agrees 7 "2B,1A" "b" 2 oneSeat ↔ Reads oneSeat 7 (seatArray "2B,1A") :=
  agrees_iff rfl holdsNothing_oneSeat

/-- A blank after the comma hides the lock of the seat from the query. -/
theorem query_overlooks_lock :
    HoldsNothing oneSeat 7 "b" ∧ validateSeatsExist ((seatArray "2B, 1A").map trim) = .ok () ∧
      checkSeatAvailabilityAt 7 "2B, 1A" oneSeat =
        .ok ⟨7, [⟨"2B", true⟩, ⟨" 1A", true⟩], true⟩ ∧
      (lockSeatsAt oneSeat.now 7 ((seatArray "2B, 1A").map trim) "b" 2 oneSeat).1 =
        .ok ⟨false, [], ["1A"], "", 0⟩ :=
  ⟨holdsNothing_oneSeat, rfl, rfl, rfl⟩

/-- A lock that was extended once, when the expiry that it recorded has come. -/
def outlived : Redis := ((extendLock 7 "a" 300).run (performAt 0) () oneSeat).2.wait 900000

example : checkSeatAvailabilityAt 7 "1A" outlived = .ok ⟨7, [⟨"1A", false⟩], false⟩ ∧
    Succeeds (lockSeatsAt outlived.now 7 ["1A"] "b" 2 outlived).1 := ⟨rfl, by decide⟩

/-! ## Runs -/

/-- While the records cover the deadlines, a query without blanks agrees with lock calls. -/
theorem reads_of_consistent (h : Consistent r) (hnames : ∀ seat ∈ seats, trim seat = seat) :
    Reads r flightId seats where
  taken seat hseat hkey := by
    obtain ⟨lock, hlock⟩ := Option.ne_none_iff_exists'.mp hkey
    obtain ⟨deadline, hlive⟩ := Keyspace.get_eq_some.mp hlock
    have hdeadline := h.recorded flightId seat lock deadline hlive
    have hnow : r.now < deadline := Keyspace.live_lt hlive
    rw [hnames seat hseat]
    exact ⟨lock, hlock, Nat.lt_of_lt_of_le hnow hdeadline⟩
  free hnone seat hseat := by
    rw [hnames seat hseat]
    rintro ⟨lock, hlock, -⟩
    rw [hnone seat hseat] at hlock
    cases hlock

theorem agrees_of_run {now : Nat} {ms : List (Move Request (Option Exception))}
    {es : List Event} {P : Pool Op (fun op => Except Exception op.Ret) _ Redis} {query : String}
    (hrun : service.run ms (Pool.init (Keyspace.empty now)) = some (es, P))
    (hsteady : ∀ e ∈ es, Steady e)
    (hvalid : validateSeatsExist ((seatArray query).map trim) = .ok ())
    (hnothing : HoldsNothing P.state flightId bookingId)
    (hnames : ∀ seat ∈ seatArray query, trim seat = seat) :
    Agrees flightId query bookingId userId P.state :=
  agrees_of_reads hvalid hnothing
    (reads_of_consistent (consistent_of_run hrun hsteady).1 hnames)

end FlightBookings.SeatLock
