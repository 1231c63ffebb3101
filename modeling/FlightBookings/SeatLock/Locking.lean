import FlightBookings.SeatLock.Service

/-! # What one lock call does

The script refuses the seats that another booking holds by its own record, and
then writes nothing. A booking whose key is live is answered from that key,
whatever seats it asks for, and the script tells seats apart by their raw names,
which the check of the names does not.
-/

namespace FlightBookings.SeatLock

open Await

/-- A call that runs by itself, while the clock of the service shows `timestamp`. -/
def performAt (timestamp : Nat) : (op : Op) → Redis → Except Exception op.Ret × Redis
  | .dateNow, r => (.ok timestamp, r)
  | op, r => (.ok (op.perform r).1, (op.perform r).2)

def lockSeatsAt (timestamp : Nat) (flightId : Int) (seats : List String) (bookingId : String)
    (userId : Int) (r : Redis) : Except Exception SeatLockResult × Redis :=
  let ran := (lockSeats flightId seats bookingId userId).run (performAt timestamp) () r
  (ran.1.1, ran.2)

def Succeeds (reply : Except Exception SeatLockResult) : Prop :=
  ∃ result, reply = .ok result ∧ result.success = true

/-- The seat key is live, of another booking, and not expired by its own record. -/
def HeldByOther (r : Redis) (flightId : Int) (bookingId : String) (timestamp : Nat)
    (seat : String) : Prop :=
  ∃ lock : SeatData, r.get (.seat flightId seat) = some lock ∧ lock.bookingId ≠ bookingId ∧
    timestamp < lock.expiresAt

/-- The seat key is live and of this booking. -/
def Owns (r : Redis) (flightId : Int) (bookingId seat : String) : Prop :=
  ∃ lock : SeatData, r.get (.seat flightId seat) = some lock ∧ lock.bookingId = bookingId

instance (r : Redis) (flightId : Int) (bookingId : String) (timestamp : Nat) (seat : String) :
    Decidable (HeldByOther r flightId bookingId timestamp seat) :=
  decidable_of_iff ((r.get (.seat flightId seat)).any fun lock : SeatData =>
      lock.blocks bookingId timestamp)
    (by simp [HeldByOther, SeatData.blocks, Option.any_eq_true])

instance (r : Redis) (flightId : Int) (bookingId seat : String) :
    Decidable (Owns r flightId bookingId seat) :=
  decidable_of_iff ((r.get (.seat flightId seat)).any fun lock : SeatData =>
      lock.bookingId == bookingId)
    (by simp [Owns, Option.any_eq_true])

instance (reply : Except Exception SeatLockResult) : Decidable (Succeeds reply) :=
  match reply with
  | .ok result => decidable_of_iff (result.success = true) (by simp [Succeeds])
  | .error _ => .isFalse (by simp [Succeeds])

variable {timestamp : Nat} {flightId userId : Int} {bookingId : String} {seats : List String}
variable {r : Redis}

/-! ## The script -/

theorem any_blocks (seat : String) :
    ((r.get (.seat flightId seat)).any fun lock : SeatData => lock.blocks bookingId timestamp) =
      decide (HeldByOther r flightId bookingId timestamp seat) := by
  rw [Bool.eq_iff_iff, decide_eq_true_eq]
  simp [HeldByOther, SeatData.blocks, Option.any_eq_true]

theorem luaScript_eq (ttl : Nat) :
    luaScript flightId bookingId userId ttl timestamp seats r =
      if ∀ seat ∈ seats, ¬HeldByOther r flightId bookingId timestamp seat then
        (⟨true, seats, []⟩, lockAll flightId bookingId userId ttl timestamp seats r)
      else
        (⟨false, [], seats.filter fun seat =>
          HeldByOther r flightId bookingId timestamp seat⟩, r) := by
  simp only [luaScript, any_blocks, List.isEmpty_iff, List.filter_eq_nil_iff, decide_eq_true_eq]

/-! ## The call -/

def reused (flightId : Int) (bookingId : String) (data : BookingData) : SeatLockResult where
  success := true
  lockedSeats := data.seats
  failedSeats := []
  lockKey := getBookingKey flightId bookingId
  expiresAt := data.timestamp + LOCK_TTL * 1000

def granted (timestamp : Nat) (flightId : Int) (seats : List String) (bookingId : String) :
    SeatLockResult where
  success := true
  lockedSeats := seats
  failedSeats := []
  lockKey := getBookingKey flightId bookingId
  expiresAt := timestamp + LOCK_TTL * 1000

def refused (timestamp : Nat) (flightId : Int) (seats : List String) (bookingId : String)
    (r : Redis) : SeatLockResult where
  success := false
  lockedSeats := []
  failedSeats := seats.filter fun seat => HeldByOther r flightId bookingId timestamp seat
  lockKey := ""
  expiresAt := timestamp

theorem lockSeatsAt_reused {data : BookingData} (hvalid : validateSeatsExist seats = .ok ())
    (hget : r.get (.booking flightId bookingId) = some data) :
    lockSeatsAt timestamp flightId seats bookingId userId r =
      (.ok (reused flightId bookingId data), r) := by
  simp [lockSeatsAt, lockSeats, performAt, Op.perform, hvalid, hget, reused]

theorem lockSeatsAt_granted (hvalid : validateSeatsExist seats = .ok ()) (hne : seats ≠ [])
    (hgone : r.get (.booking flightId bookingId) = none)
    (hfree : ∀ seat ∈ seats, ¬HeldByOther r flightId bookingId timestamp seat) :
    lockSeatsAt timestamp flightId seats bookingId userId r =
      (.ok (granted timestamp flightId seats bookingId),
        lockAll flightId bookingId userId LOCK_TTL timestamp seats r) := by
  simp [lockSeatsAt, lockSeats, performAt, Op.perform, hvalid, hne, hgone, luaScript_eq, if_pos hfree, granted]

theorem lockSeatsAt_refused (hvalid : validateSeatsExist seats = .ok ()) (hne : seats ≠ [])
    (hgone : r.get (.booking flightId bookingId) = none)
    (hheld : ¬∀ seat ∈ seats, ¬HeldByOther r flightId bookingId timestamp seat) :
    lockSeatsAt timestamp flightId seats bookingId userId r =
      (.ok (refused timestamp flightId seats bookingId r), r) := by
  simp [lockSeatsAt, lockSeats, performAt, Op.perform, hvalid, hne, hgone, luaScript_eq, if_neg hheld, refused]

/-! ## All or nothing -/

/-- A granted lock leaves every key alone but those of its seats and its own booking key. -/
theorem lockAll_frame {ttl : Nat} (httl : 0 < ttl) {key : Key}
    (hbooking : key ≠ .booking flightId bookingId)
    (hseats : ∀ seat ∈ seats, key ≠ .seat flightId seat) :
    (lockAll flightId bookingId userId ttl timestamp seats r).live key = r.live key := by
  cases key with
  | seat f s =>
      have hother : ¬(f = flightId ∧ s ∈ seats) := by
        rintro ⟨rfl, hmem⟩
        exact hseats s hmem rfl
      rw [lockAll_seat httl, if_neg hother]
  | booking f b =>
      rw [lockAll, Keyspace.live_setex_of_ne hbooking, foldl_lockSeat_booking]

/-- What a lock call replies and leaves, for a booking without a live key. -/
structure AllOrNothing (timestamp : Nat) (flightId : Int) (seats : List String)
    (bookingId : String) (userId : Int) (r : Redis) (result : SeatLockResult) (r' : Redis) :
    Prop where
  blame : result.success = true ↔
    ∀ seat ∈ seats, ¬HeldByOther r flightId bookingId timestamp seat
  locked : result.success = true → result.lockedSeats = seats ∧
    r'.live (.booking flightId bookingId) =
      some (⟨flightId, seats, userId, timestamp⟩, r.now + 900000) ∧
    ∀ seat ∈ seats, r'.live (.seat flightId seat) =
      some (⟨flightId, seat, bookingId, userId, timestamp, timestamp + 900000⟩, r.now + 900000)
  failed : result.success = false → r' = r ∧
    result.failedSeats = seats.filter fun seat =>
      HeldByOther r flightId bookingId timestamp seat
  frame : ∀ key, key ≠ .booking flightId bookingId →
    (∀ seat ∈ seats, key ≠ .seat flightId seat) → r'.live key = r.live key

theorem allOrNothing_granted
    (hfree : ∀ seat ∈ seats, ¬HeldByOther r flightId bookingId timestamp seat) :
    AllOrNothing timestamp flightId seats bookingId userId r
      (granted timestamp flightId seats bookingId)
      (lockAll flightId bookingId userId LOCK_TTL timestamp seats r) where
  blame := ⟨fun _ => hfree, fun _ => rfl⟩
  locked _ := by
    have httl : 0 < LOCK_TTL := by decide
    refine ⟨rfl, ?_, ?_⟩
    · rw [lockAll, Keyspace.live_setex_self httl, foldl_lockSeat_now]
      rfl
    · intro seat hseat
      rw [lockAll_seat httl, if_pos ⟨rfl, hseat⟩]
      rfl
  failed hsuccess := by cases hsuccess
  frame _ hbooking hseats := lockAll_frame (by decide) hbooking hseats

theorem allOrNothing_refused
    (hheld : ¬∀ seat ∈ seats, ¬HeldByOther r flightId bookingId timestamp seat) :
    AllOrNothing timestamp flightId seats bookingId userId r
      (refused timestamp flightId seats bookingId r) r where
  blame := by
    constructor
    · intro hsuccess
      cases hsuccess
    · intro hfree
      exact absurd hfree hheld
  locked hsuccess := by cases hsuccess
  failed _ := ⟨rfl, rfl⟩
  frame _ _ _ := rfl

/-- A booking without a live key gets all the seats that it asks for, unless another booking
holds one of them: then the reply names those seats and Redis stays as it was. -/
theorem lockSeats_all_or_nothing (hvalid : validateSeatsExist seats = .ok ()) (hne : seats ≠ [])
    (hgone : r.get (.booking flightId bookingId) = none) :
    ∃ result r', lockSeatsAt timestamp flightId seats bookingId userId r = (.ok result, r') ∧
      AllOrNothing timestamp flightId seats bookingId userId r result r' := by
  by_cases hfree : ∀ seat ∈ seats, ¬HeldByOther r flightId bookingId timestamp seat
  · exact ⟨_, _, lockSeatsAt_granted hvalid hne hgone hfree, allOrNothing_granted hfree⟩
  · exact ⟨_, _, lockSeatsAt_refused hvalid hne hgone hfree, allOrNothing_refused hfree⟩

/-- Redis after a first lock, on seat 1A. -/
def oneSeat : Redis := (lockSeatsAt 0 7 ["1A"] "a" 1 (Keyspace.empty 0)).2

theorem lockSeats_all_or_nothing_contended :
    ∃ result r', lockSeatsAt 1000 7 ["2B", "1A"] "b" 2 oneSeat = (.ok result, r') ∧
      AllOrNothing 1000 7 ["2B", "1A"] "b" 2 oneSeat result r' :=
  lockSeats_all_or_nothing rfl (by decide) (by decide)

example : (lockSeatsAt 1000 7 ["2B", "1A"] "b" 2 oneSeat).1 =
    .ok ⟨false, [], ["1A"], "", 1000⟩ := by rfl

/-! ## Two bookings -/

theorem succeeds_iff (hvalid : validateSeatsExist seats = .ok ()) (hne : seats ≠ []) :
    Succeeds (lockSeatsAt timestamp flightId seats bookingId userId r).1 ↔
      (r.get (.booking flightId bookingId) = none →
        ∀ seat ∈ seats, ¬HeldByOther r flightId bookingId timestamp seat) := by
  cases hget : r.get (.booking flightId bookingId) with
  | some data => simp [lockSeatsAt_reused hvalid hget, Succeeds, reused]
  | none =>
      by_cases hfree : ∀ seat ∈ seats, ¬HeldByOther r flightId bookingId timestamp seat
      · simpa [lockSeatsAt_granted hvalid hne hget hfree, Succeeds, granted] using hfree
      · simpa [lockSeatsAt_refused hvalid hne hget hfree, Succeeds, refused] using hfree

/-- Some seat of one list and some seat of the other are one seat to the check of the names. -/
def Overlap (seats seats' : List String) : Prop :=
  ∃ seat ∈ seats, ∃ seat' ∈ seats', toUpperCase (trim seat) = toUpperCase (trim seat')

variable {a b seat : String} {ms timestamp' : Nat} {userId' : Int} {seats' : List String}

theorem heldByOther_lockAll (hab : a ≠ b) (hlife : ms < LOCK_TTL * 1000)
    (hclock : timestamp' < timestamp + LOCK_TTL * 1000) :
    HeldByOther ((lockAll flightId a userId LOCK_TTL timestamp seats r).wait ms) flightId b
        timestamp' seat ↔
      seat ∈ seats ∨ HeldByOther (r.wait ms) flightId b timestamp' seat := by
  have httl : 0 < LOCK_TTL := by decide
  by_cases hseat : seat ∈ seats
  · refine ⟨fun _ => .inl hseat, fun _ => ?_⟩
    have hlive : ((lockAll flightId a userId LOCK_TTL timestamp seats r).wait ms).live
        (.seat flightId seat) = some (⟨flightId, seat, a, userId, timestamp,
          timestamp + LOCK_TTL * 1000⟩, r.now + LOCK_TTL * 1000) := by
      apply Keyspace.live_wait_of_lt
      · rw [lockAll_seat httl, if_pos ⟨rfl, hseat⟩]
      · rw [lockAll_now]
        exact Nat.add_lt_add_left hlife _
    exact ⟨_, Keyspace.get_eq_some.mpr ⟨_, hlive⟩, hab, hclock⟩
  · have hsame : ((lockAll flightId a userId LOCK_TTL timestamp seats r).wait ms).get
        (.seat flightId seat) = (r.wait ms).get (.seat flightId seat) := by
      apply Keyspace.get_wait_congr lockAll_now
      rw [lockAll_seat httl, if_neg fun h => hseat h.2]
    simp only [HeldByOther, hsame, hseat, false_or]

theorem booking_lockAll (hab : a ≠ b) :
    ((lockAll flightId a userId LOCK_TTL timestamp seats r).wait ms).get (.booking flightId b) =
      (r.wait ms).get (.booking flightId b) := by
  apply Keyspace.get_wait_congr lockAll_now
  apply lockAll_frame (by decide)
  · intro hkey
    cases hkey
    exact hab rfl
  · intro seat _ hkey
    cases hkey

/-- One of two calls is refused, on account of a third booking or of a seat that both of them
name with one and the same string. -/
def OneRefused (r : Redis) (flightId : Int) (a : String) (seats : List String) (timestamp : Nat)
    (ms : Nat) (b : String) (seats' : List String) (timestamp' : Nat) : Prop :=
  (r.get (.booking flightId a) = none ∧
    ∃ seat ∈ seats, HeldByOther r flightId a timestamp seat) ∨
  ((r.wait ms).get (.booking flightId b) = none ∧
    ((r.get (.booking flightId a) = none ∧ ∃ seat ∈ seats', seat ∈ seats) ∨
      ∃ seat ∈ seats', HeldByOther (r.wait ms) flightId b timestamp' seat))

/-- Of two calls for overlapping seats within the lifetime of a lock both succeed, unless one
is refused by the state before them or the two lists share the very name of a seat. -/
theorem one_lock_iff (hvalid : validateSeatsExist seats = .ok ())
    (hvalid' : validateSeatsExist seats' = .ok ()) (hab : a ≠ b) (hoverlap : Overlap seats seats')
    (hlife : ms < LOCK_TTL * 1000) (hclock : timestamp' < timestamp + LOCK_TTL * 1000) :
    ¬(Succeeds (lockSeatsAt timestamp flightId seats a userId r).1 ∧
        Succeeds (lockSeatsAt timestamp' flightId seats' b userId'
          ((lockSeatsAt timestamp flightId seats a userId r).2.wait ms)).1) ↔
      OneRefused r flightId a seats timestamp ms b seats' timestamp' := by
  obtain ⟨seat, hseat, seat', hseat', -⟩ := hoverlap
  have hne : seats ≠ [] := List.ne_nil_of_mem hseat
  have hne' : seats' ≠ [] := List.ne_nil_of_mem hseat'
  rw [succeeds_iff hvalid' hne']
  unfold OneRefused
  cases hget : r.get (.booking flightId a) with
  | some data =>
      -- the first booking is answered from its key, and nothing is written
      rw [lockSeatsAt_reused hvalid hget]
      simp [Succeeds, reused]
  | none =>
      by_cases hfree : ∀ seat ∈ seats, ¬HeldByOther r flightId a timestamp seat
      · rw [lockSeatsAt_granted hvalid hne hget hfree, booking_lockAll hab]
        have hfirst : ¬∃ seat ∈ seats, HeldByOther r flightId a timestamp seat := by
          rintro ⟨seat, hseat, hheld⟩
          exact hfree seat hseat hheld
        have hgranted : Succeeds (.ok (granted timestamp flightId seats a)) := ⟨_, rfl, rfl⟩
        simp only [hgranted, hfirst, heldByOther_lockAll hab hlife hclock, true_and, and_false,
          false_or, Classical.not_imp, Classical.not_forall, Classical.not_not, and_or_left,
          exists_or]
      · rw [lockSeatsAt_refused hvalid hne hget hfree]
        have hheld : ∃ seat ∈ seats, HeldByOther r flightId a timestamp seat := by
          simpa using hfree
        simp [Succeeds, refused, hheld]

theorem one_lock_iff_same_name :
    ¬(Succeeds (lockSeatsAt 0 7 ["1A"] "a" 1 (Keyspace.empty 0)).1 ∧
        Succeeds (lockSeatsAt 1000 7 ["2B", "1A"] "b" 2 (oneSeat.wait 1000)).1) ↔
      OneRefused (Keyspace.empty 0) 7 "a" ["1A"] 0 1000 "b" ["2B", "1A"] 1000 :=
  one_lock_iff rfl rfl (by decide) ⟨"1A", by decide, "1A", by decide, rfl⟩ (by decide) (by decide)

/-- The second booking writes the name of the seat in its own way and locks it too. -/
theorem one_seat_two_locks :
    validateSeatsExist ["1A"] = .ok () ∧ validateSeatsExist [" 1a"] = .ok () ∧
      Overlap ["1A"] [" 1a"] ∧
      Succeeds (lockSeatsAt 0 7 ["1A"] "a" 1 (Keyspace.empty 0)).1 ∧
      Succeeds (lockSeatsAt 1000 7 [" 1a"] "b" 2
        ((lockSeatsAt 0 7 ["1A"] "a" 1 (Keyspace.empty 0)).2.wait 1000)).1 :=
  ⟨rfl, rfl, ⟨"1A", by decide, " 1a", by decide, rfl⟩, by decide, by decide⟩

/-! ## The answer from the booking key -/

/-- Whenever the call succeeds, every seat that it asked for is locked for the booking and named
in the reply. -/
def MeansLocked (timestamp : Nat) (flightId : Int) (seats : List String) (bookingId : String)
    (userId : Int) (r : Redis) : Prop :=
  ∀ result r', lockSeatsAt timestamp flightId seats bookingId userId r = (.ok result, r') →
    result.success = true →
    ∀ seat ∈ seats, Owns r' flightId bookingId seat ∧ seat ∈ result.lockedSeats

theorem meansLocked_granted {result : SeatLockResult} {r' : Redis}
    (h : AllOrNothing timestamp flightId seats bookingId userId r result r')
    (hsuccess : result.success = true) (hseat : seat ∈ seats) :
    Owns r' flightId bookingId seat ∧ seat ∈ result.lockedSeats := by
  obtain ⟨hlocked, -, hkeys⟩ := h.locked hsuccess
  refine ⟨⟨_, Keyspace.get_eq_some.mpr ⟨_, hkeys seat hseat⟩, rfl⟩, ?_⟩
  rw [hlocked]
  exact hseat

/-- Success means locked exactly if the live key of the booking, if it has one, lists the seats
asked for and their own keys are still there. -/
theorem success_means_locked_iff (hvalid : validateSeatsExist seats = .ok ()) :
    MeansLocked timestamp flightId seats bookingId userId r ↔
      ∀ data : BookingData, r.get (.booking flightId bookingId) = some data →
        ∀ seat ∈ seats, seat ∈ data.seats ∧ Owns r flightId bookingId seat := by
  constructor
  · intro h data hget seat hseat
    have hseats := h _ _ (lockSeatsAt_reused hvalid hget) rfl seat hseat
    exact ⟨hseats.2, hseats.1⟩
  · intro h result r' hcall hsuccess seat hseat
    cases hget : r.get (.booking flightId bookingId) with
    | some data =>
        rw [lockSeatsAt_reused hvalid hget] at hcall
        cases hcall
        have hseats := h data hget seat hseat
        exact ⟨hseats.2, hseats.1⟩
    | none =>
        have hne : seats ≠ [] := List.ne_nil_of_mem hseat
        by_cases hfree : ∀ seat ∈ seats, ¬HeldByOther r flightId bookingId timestamp seat
        · rw [lockSeatsAt_granted hvalid hne hget hfree] at hcall
          cases hcall
          exact meansLocked_granted (allOrNothing_granted hfree) hsuccess hseat
        · rw [lockSeatsAt_refused hvalid hne hget hfree] at hcall
          cases hcall
          cases hsuccess

theorem success_means_locked_again :
    MeansLocked 1000 7 ["1A"] "a" 1 oneSeat ↔
      ∀ data : BookingData, oneSeat.get (.booking 7 "a") = some data →
        ∀ seat ∈ ["1A"], seat ∈ data.seats ∧ Owns oneSeat 7 "a" seat :=
  success_means_locked_iff rfl

/-- A booking that holds one seat and asks for another is told that it succeeded. -/
theorem success_not_locked :
    (lockSeatsAt 1000 7 ["2B"] "a" 1 (lockSeatsAt 0 7 ["1A"] "a" 1 (Keyspace.empty 0)).2).1 =
        .ok ⟨true, ["1A"], [], getBookingKey 7 "a", 900000⟩ ∧
      ¬Owns (lockSeatsAt 1000 7 ["2B"] "a" 1
        (lockSeatsAt 0 7 ["1A"] "a" 1 (Keyspace.empty 0)).2).2 7 "a" "2B" :=
  ⟨rfl, by decide⟩

end FlightBookings.SeatLock
