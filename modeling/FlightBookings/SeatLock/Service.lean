import FlightBookings.Await.Pool
import FlightBookings.Common
import FlightBookings.Store.Keyspace

/-! # The seat-lock service

Locks on the seats of a flight, kept in Redis: one key per locked seat, naming
its booking, and one key per booking, listing its seats. The service is a
program over single Redis commands, as each command is atomic and any other
call may act between two of them.
-/

namespace FlightBookings.SeatLock

open Await

/-- The keys of the service: `seat:lock:{flight}:seat` and `seat:lock:booking:{flight}:id`. -/
inductive Key where
  | seat (flightId : Int) (seat : String)
  | booking (flightId : Int) (bookingId : String)
deriving DecidableEq

/-- The JSON value of a seat key. -/
structure SeatData where
  flightId : Int
  seat : String
  bookingId : String
  userId : Int
  lockedAt : Nat
  expiresAt : Nat
deriving DecidableEq

/-- The JSON value of a booking key. -/
structure BookingData where
  flightId : Int
  seats : List String
  userId : Int
  timestamp : Nat
deriving DecidableEq

abbrev Value : Key → Type
  | .seat _ _ => SeatData
  | .booking _ _ => BookingData

abbrev Redis := Keyspace Key Value

structure SeatLockResult where
  success : Bool
  lockedSeats : List String
  failedSeats : List String
  lockKey : String
  expiresAt : Nat
deriving DecidableEq

def LOCK_TTL : Nat := 900

def getBookingKey (flightId : Int) (bookingId : String) : String :=
  s!"seat:lock:booking:\x7b{flightId}\x7d:{bookingId}"

/-! ## The lock script -/

structure LockReply where
  success : Bool
  lockedSeats : List String
  failedSeats : List String
deriving DecidableEq

/-- The lock of another booking that has not expired by its own record. -/
def SeatData.blocks (lock : SeatData) (bookingId : String) (timestamp : Nat) : Bool :=
  lock.bookingId != bookingId && timestamp < lock.expiresAt

def lockSeat (flightId : Int) (bookingId : String) (userId : Int) (ttl timestamp : Nat)
    (r : Redis) (seat : String) : Redis :=
  r.setex (.seat flightId seat) ttl
    { flightId, seat, bookingId, userId, lockedAt := timestamp,
      expiresAt := timestamp + ttl * 1000 }

/-- The writes of a script that found every seat available. -/
def lockAll (flightId : Int) (bookingId : String) (userId : Int) (ttl timestamp : Nat)
    (seats : List String) (r : Redis) : Redis :=
  (seats.foldl (lockSeat flightId bookingId userId ttl timestamp) r).setex
    (.booking flightId bookingId) ttl { flightId, seats, userId, timestamp }

/-- The Lua script, which Redis runs as one command. -/
def luaScript (flightId : Int) (bookingId : String) (userId : Int) (ttl timestamp : Nat)
    (seats : List String) (r : Redis) : LockReply × Redis :=
  let failed := seats.filter fun seat =>
    (r.get (.seat flightId seat)).any fun lock : SeatData => lock.blocks bookingId timestamp
  if failed.isEmpty then
    (⟨true, seats, []⟩, lockAll flightId bookingId userId ttl timestamp seats r)
  else
    (⟨false, [], failed⟩, r)

theorem luaScript_cases (flightId : Int) (bookingId : String) (userId : Int) (ttl timestamp : Nat)
    (seats : List String) (r : Redis) :
    ((luaScript flightId bookingId userId ttl timestamp seats r).1.success = false ∧
      (luaScript flightId bookingId userId ttl timestamp seats r).2 = r) ∨
    ((luaScript flightId bookingId userId ttl timestamp seats r).1 = ⟨true, seats, []⟩ ∧
      (luaScript flightId bookingId userId ttl timestamp seats r).2 =
        lockAll flightId bookingId userId ttl timestamp seats r ∧
      ∀ seat ∈ seats, ∀ lock : SeatData, r.get (.seat flightId seat) = some lock →
        lock.blocks bookingId timestamp = false) := by
  simp only [luaScript]
  split
  · rename_i hfailed
    refine .inr ⟨rfl, rfl, ?_⟩
    intro seat hseat lock hlock
    rw [List.isEmpty_iff, List.filter_eq_nil_iff] at hfailed
    have hfree := hfailed seat hseat
    rw [hlock] at hfree
    simpa using hfree
  · exact .inl ⟨rfl, rfl⟩

variable {flightId userId : Int} {bookingId : String} {ttl timestamp : Nat} {seats : List String}
variable {r : Redis}

theorem foldl_lockSeat_now :
    (seats.foldl (lockSeat flightId bookingId userId ttl timestamp) r).now = r.now := by
  induction seats generalizing r with
  | nil => rfl
  | cons seat seats ih => exact ih

theorem foldl_lockSeat_booking (f : Int) (b : String) :
    (seats.foldl (lockSeat flightId bookingId userId ttl timestamp) r).live (.booking f b) =
      r.live (.booking f b) := by
  induction seats generalizing r with
  | nil => rfl
  | cons seat seats ih =>
      rw [List.foldl_cons, ih]
      exact Keyspace.live_setex_of_ne (by simp)

theorem foldl_lockSeat_seat (httl : 0 < ttl) (f : Int) (s : String) :
    (seats.foldl (lockSeat flightId bookingId userId ttl timestamp) r).live (.seat f s) =
      if f = flightId ∧ s ∈ seats then
        some (⟨flightId, s, bookingId, userId, timestamp, timestamp + ttl * 1000⟩,
          r.now + ttl * 1000)
      else r.live (.seat f s) := by
  induction seats generalizing r with
  | nil => simp
  | cons seat seats ih =>
      rw [List.foldl_cons, ih]
      by_cases hrest : f = flightId ∧ s ∈ seats
      · rw [if_pos hrest, if_pos ⟨hrest.1, List.mem_cons_of_mem _ hrest.2⟩]
        rfl
      · rw [if_neg hrest]
        by_cases hkey : f = flightId ∧ s = seat
        · obtain ⟨rfl, rfl⟩ := hkey
          rw [if_pos ⟨rfl, List.mem_cons_self⟩]
          exact Keyspace.live_setex_self httl
        · have hne : ¬(f = flightId ∧ s ∈ seat :: seats) := by
            intro hmem
            cases List.mem_cons.mp hmem.2 with
            | inl hseat => exact hkey ⟨hmem.1, hseat⟩
            | inr hseats => exact hrest ⟨hmem.1, hseats⟩
          rw [if_neg hne]
          exact Keyspace.live_setex_of_ne (by simpa using hkey)

/-- A granted lock writes the keys of its seats, each naming the booking. -/
theorem lockAll_seat (httl : 0 < ttl) (f : Int) (s : String) :
    (lockAll flightId bookingId userId ttl timestamp seats r).live (.seat f s) =
      if f = flightId ∧ s ∈ seats then
        some (⟨flightId, s, bookingId, userId, timestamp, timestamp + ttl * 1000⟩,
          r.now + ttl * 1000)
      else r.live (.seat f s) := by
  rw [lockAll, Keyspace.live_setex_of_ne (by simp), foldl_lockSeat_seat httl]

/-- A granted lock writes the booking key, listing its seats. -/
theorem lockAll_booking (httl : 0 < ttl) (f : Int) (b : String) :
    (lockAll flightId bookingId userId ttl timestamp seats r).get (.booking f b) =
      if f = flightId ∧ b = bookingId then some ⟨flightId, seats, userId, timestamp⟩
      else r.get (.booking f b) := by
  by_cases hkey : f = flightId ∧ b = bookingId
  · obtain ⟨rfl, rfl⟩ := hkey
    rw [if_pos ⟨rfl, rfl⟩, Keyspace.get, lockAll, Keyspace.live_setex_self httl]
    rfl
  · rw [if_neg hkey, Keyspace.get, lockAll, Keyspace.live_setex_of_ne (by simpa using hkey),
      foldl_lockSeat_booking, Keyspace.get]

@[simp] theorem lockAll_now :
    (lockAll flightId bookingId userId ttl timestamp seats r).now = r.now :=
  foldl_lockSeat_now

/-! ## Operations -/

/-- What the service awaits: the clock and the Redis commands. `wait` is not one of them, but
the time that passes. The keys of `del` and `expire` come with the booking for which the
command is sent. -/
inductive Op where
  | dateNow
  | wait (ms : Nat)
  | get (key : Key)
  | eval (flightId : Int) (bookingId : String) (userId : Int) (ttl timestamp : Nat)
      (seats : List String)
  | ttl (key : Key)
  | del (key : Key) (bookingId : String)
  | expire (key : Key) (seconds : Int) (bookingId : String)
  | exec
deriving DecidableEq

abbrev Op.Ret : Op → Type
  | .dateNow => Nat
  | .wait _ => Unit
  | .get key => Option (Value key)
  | .eval .. => LockReply
  | .ttl _ => Int
  | .del _ _ => Unit
  | .expire _ _ _ => Unit
  | .exec => Unit

def Op.perform : (op : Op) → Redis → op.Ret × Redis
  | .dateNow, r => (r.now, r)
  | .wait ms, r => ((), r.wait ms)
  | .get key, r => (r.get key, r)
  | .eval flightId bookingId userId seconds timestamp seats, r =>
      luaScript flightId bookingId userId seconds timestamp seats r
  | .ttl key, r => (r.ttl key, r)
  | .del key _, r => ((), r.del key)
  | .expire key seconds _, r => ((), r.expire key seconds)
  | .exec, r => ((), r)

abbrev Call (L α : Type) := Await.Call Op Op.Ret Exception L α

variable {L : Type}

/-! ## The programs -/

/-- `^[1-9]\d{0,2}[A-Z]$` -/
def seatPattern (s : String) : Bool :=
  match s.toList.reverse with
  | letter :: digits =>
      letter.isUpper && digits.all Char.isDigit && digits.length ≤ 3 &&
        (digits.getLast?.any fun c => c != '0')
  | [] => false

def validateSeatsExist (seats : List String) : Except Exception Unit :=
  let normalized := (seats.map fun s => toUpperCase (trim s)).filter fun s => s != ""
  if normalized.eraseDups.length ≠ normalized.length then
    .error (.error "Duplicate seat numbers detected")
  else
    let invalid := normalized.filter fun s => !seatPattern s
    if invalid.isEmpty then .ok ()
    else .error (.error ("Invalid seat number(s): " ++ String.intercalate ", " invalid))

def lockSeats (flightId : Int) (seats : List String) (bookingId : String) (userId : Int) :
    Call L SeatLockResult := do
  let timestamp ← Call.await Op.dateNow
  Call.ofExcept (validateSeatsExist seats)
  let bookingKey := getBookingKey flightId bookingId
  let existing : Option BookingData ← Call.await (Op.get (.booking flightId bookingId))
  match existing with
  | some parsed =>
      pure
        { success := true
          lockedSeats := parsed.seats
          failedSeats := []
          lockKey := bookingKey
          expiresAt := parsed.timestamp + LOCK_TTL * 1000 }
  | none =>
      let expiresAt := timestamp + LOCK_TTL * 1000
      if seats.isEmpty then
        pure { success := true, lockedSeats := [], failedSeats := [], lockKey := bookingKey, expiresAt }
      else do
        let result ← Call.await (Op.eval flightId bookingId userId LOCK_TTL timestamp seats)
        if result.success then
          pure { success := true, lockedSeats := result.lockedSeats, failedSeats := [],
                 lockKey := bookingKey, expiresAt }
        else do
          let now ← Call.await Op.dateNow
          pure { success := false, lockedSeats := [], failedSeats := result.failedSeats,
                 lockKey := "", expiresAt := now }

/-- A command sent in a pipeline, whose own error the service does not look at. -/
def pipelined (op : Op) : Call L PUnit :=
  tryCatch (do let _ ← Call.await op; pure ⟨⟩) fun _ => pure ⟨⟩

def releaseSeats (flightId : Int) (bookingId : String) : Call L Unit := do
  let bookingData : Option BookingData ← Call.await (Op.get (.booking flightId bookingId))
  match bookingData with
  | none => pure ()
  | some data => do
      data.seats.forM fun seat => pipelined (.del (.seat flightId seat) bookingId)
      pipelined (.del (.booking flightId bookingId) bookingId)
      Call.await Op.exec

/-- The `expire` commands that `extendLock` queues while it reads the times left. -/
def queueExtensions (flightId : Int) (additionalSeconds : Int) :
    List String → Call L (List (String × Int))
  | [] => pure []
  | seat :: seats => do
      let ttl ← Call.await (Op.ttl (.seat flightId seat))
      let rest ← queueExtensions flightId additionalSeconds seats
      pure (if 0 < ttl then (seat, ttl + additionalSeconds) :: rest else rest)

def extendLock (flightId : Int) (bookingId : String) (additionalSeconds : Int) : Call L Bool := do
  let bookingData : Option BookingData ← Call.await (Op.get (.booking flightId bookingId))
  match bookingData with
  | none => pure false
  | some parsed => do
      let extensions ← queueExtensions flightId additionalSeconds parsed.seats
      let bookingTTL ← Call.await (Op.ttl (.booking flightId bookingId))
      extensions.forM fun e => pipelined (.expire (.seat flightId e.1) e.2 bookingId)
      Call.whenever (0 < bookingTTL) <|
        pipelined (.expire (.booking flightId bookingId) (bookingTTL + additionalSeconds) bookingId)
      Call.await Op.exec
      pure true

/-! ## What the programs await -/

/-- The scripts that the service sends set keys that live for a while. -/
def Op.Timed : Op → Prop
  | .eval _ _ _ seconds _ _ => 0 < seconds
  | _ => True

/-- An operation on behalf of a booking. -/
def Op.Sent (bookingId : String) : Op → Prop
  | .eval _ b _ seconds _ _ => b = bookingId ∧ 0 < seconds
  | _ => True

theorem Op.Sent.timed {bookingId : String} {op : Op} (h : op.Sent bookingId) : op.Timed := by
  cases op with
  | eval flightId b userId seconds timestamp seats => exact h.2
  | _ => trivial

/-- The programs act for their own booking, and leave the memory of their caller alone. -/
abbrev Sends {α : Type} (bookingId : String) (c : Call L α) (l : L) : Prop :=
  ∀ l', l' = l →
    c.Emits (Op.Sent bookingId) (fun _ _ => True) l' (fun _ l' => l' = l) fun l' => l' = l

variable {l : L}

theorem lockSeats_sends (flightId : Int) (seats : List String) (bookingId : String)
    (userId : Int) : Sends bookingId (lockSeats flightId seats bookingId userId) l := by
  intro l' hl
  refine .bind (.await trivial hl fun timestamp _ => ?_)
  refine .bind (.ofExcept hl fun _ _ => ?_)
  refine .bind (.await trivial hl fun existing _ => ?_)
  cases existing with
  | some parsed => exact .pure hl
  | none =>
      dsimp only
      split
      · exact .pure hl
      · have httl : 0 < LOCK_TTL := by decide
        refine .bind (.await ⟨rfl, httl⟩ hl fun result _ => ?_)
        split
        · exact .pure hl
        · exact .bind (.await trivial hl fun now _ => .pure hl)

theorem pipelined_sends {bookingId : String} (op : Op) (h : op.Sent bookingId) :
    Sends bookingId (pipelined op) l :=
  fun _ hl => .tryCatch (.bind (.await h hl fun _ _ => .pure hl)) fun _ _ hl' => .pure hl'

theorem releaseSeats_sends (flightId : Int) (bookingId : String) :
    Sends bookingId (releaseSeats flightId bookingId) l := by
  intro l' hl
  refine .bind (.await trivial hl fun data _ => ?_)
  cases data with
  | none => exact .pure hl
  | some data =>
      refine .seq (.forM (fun seat => pipelined_sends (.del (.seat flightId seat) _) trivial)
        _ hl) fun _ l' hl => ?_
      refine .seq (pipelined_sends (.del _ _) trivial l' hl) fun _ l' hl => ?_
      exact .await trivial hl fun _ _ => hl

theorem queueExtensions_sends (flightId additionalSeconds : Int) (bookingId : String)
    (seats : List String) :
    Sends bookingId (queueExtensions flightId additionalSeconds seats) l := by
  intro l' hl
  induction seats generalizing l' with
  | nil => exact .pure hl
  | cons seat seats ih =>
      refine .bind (.await trivial hl fun ttl _ => ?_)
      exact .seq (ih l' hl) fun rest l' hl => .pure hl

theorem extendLock_sends (flightId : Int) (bookingId : String) (additionalSeconds : Int) :
    Sends bookingId (extendLock flightId bookingId additionalSeconds) l := by
  intro l' hl
  refine .bind (.await trivial hl fun data _ => ?_)
  cases data with
  | none => exact .pure hl
  | some data =>
      refine .seq (queueExtensions_sends _ _ _ _ l' hl) fun extensions l' hl => ?_
      refine .bind (.await trivial hl fun bookingTTL _ => ?_)
      refine .seq (.forM (fun e : String × Int =>
        pipelined_sends (.expire (.seat flightId e.1) e.2 bookingId) trivial) _ hl)
          fun _ l' hl => ?_
      refine .seq (.whenever (fun _ => pipelined_sends (.expire _ _ _) trivial l' hl)
        fun _ => hl) fun _ l' hl => ?_
      exact .bind (.await trivial hl fun _ _ => .pure hl)

/-! ## The service -/

inductive Request where
  | lockSeats (flightId : Int) (seats : List String) (bookingId : String) (userId : Int)
  | releaseSeats (flightId : Int) (bookingId : String)
  | extendLock (flightId : Int) (bookingId : String) (additionalSeconds : Int)
  | wait (ms : Nat)

inductive Reply where
  | locked (result : SeatLockResult)
  | released
  | extended (found : Bool)
  | waited
deriving DecidableEq

def Request.call : Request → Call Unit Reply
  | .lockSeats flightId seats bookingId userId => do
      let result ← SeatLock.lockSeats flightId seats bookingId userId
      pure (.locked result)
  | .releaseSeats flightId bookingId => do
      SeatLock.releaseSeats flightId bookingId
      pure .released
  | .extendLock flightId bookingId additionalSeconds => do
      let found ← SeatLock.extendLock flightId bookingId additionalSeconds
      pure (.extended found)
  | .wait ms => do
      Call.await (Op.wait ms)
      pure .waited

/-- The choice of the environment is the error with which an operation fails, if it does. -/
def service : System Request Op (fun op => Except Exception op.Ret) (Option Exception)
    (Except Exception Reply × Unit) Redis where
  perform _ fails op r :=
    match fails with
    | some e => some (.error e, r)
    | none => some (.ok (op.perform r).1, (op.perform r).2)
  program request := request.call ()

abbrev Event := Await.Event Request Op (Option Exception) Redis

theorem request_timed (request : Request) :
    request.call.Emits Op.Timed (fun _ _ => True) () (fun _ _ => True) fun _ => True := by
  have timed : ∀ {α : Type} {bookingId : String} {c : Call Unit α} {k : α → Call Unit Reply},
      Sends bookingId c () → (∀ a, (k a).Emits Op.Timed (fun _ _ => True) () (fun _ _ => True)
        fun _ => True) →
      (c >>= k).Emits Op.Timed (fun _ _ => True) () (fun _ _ => True) fun _ => True := by
    intro α bookingId c k hc hk
    exact .seq (((hc () rfl).of_good (fun _ => Op.Sent.timed) fun _ _ h => h).mono
      (fun _ _ _ => trivial) fun _ _ => trivial) fun a _ _ => hk a
  cases request with
  | lockSeats f seats b u => exact timed (lockSeats_sends f seats b u) fun _ => .pure trivial
  | releaseSeats f b => exact timed (releaseSeats_sends f b) fun _ => .pure trivial
  | extendLock f b seconds => exact timed (extendLock_sends f b seconds) fun _ => .pure trivial
  | wait ms => exact .bind (.await trivial trivial fun _ _ => .pure trivial)

end FlightBookings.SeatLock
