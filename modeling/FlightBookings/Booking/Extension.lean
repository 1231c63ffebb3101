import FlightBookings.Booking.Saga

/-! # Extending a booking

The database gets a deadline counted from the present, and Redis gets one
counted from the time that each key has left. Time passes while the times left
are read one by one, and the first deadline of a booking lies further ahead
than an extension reaches.
-/

namespace FlightBookings.Booking

open Await

/-! ## The program -/

/-- What `extendBooking` awaits. The row is named by its booking reference, which is unique. -/
inductive ExtensionOp where
  | redis (op : SeatLock.Op)
  | findByReference (bookingReference : String)
  | update (bookingReference : String) (expiresAt : Nat)
deriving DecidableEq

abbrev ExtensionOp.Ret : ExtensionOp → Type
  | .redis op => op.Ret
  | .findByReference _ => Option Booking
  | .update _ _ => Unit

structure Extension where
  bookingId : String
  expiresAt : Nat
deriving DecidableEq

def extendBookingBody (bookingId : String) (userId : Int) :
    Await.Call ExtensionOp ExtensionOp.Ret Exception Unit Extension := do
  let found : Option Booking ← Call.await (ExtensionOp.findByReference bookingId)
  match found with
  | none => throw (Exception.notFound "Booking not found")
  | some booking =>
      if booking.userId ≠ userId then throw (Exception.badRequest "Unauthorized")
      else do
        let extended ← (SeatLock.extendLock booking.flightId bookingId 300).lift ExtensionOp.redis
          fun _ r => r
        if extended then do
          let now ← Call.await (ExtensionOp.redis .dateNow)
          let expiresAt := now + 300 * 1000
          Call.await (ExtensionOp.update bookingId expiresAt)
          pure ⟨bookingId, expiresAt⟩
        else throw (Exception.badRequest "Cannot extend booking - locks may have expired")

def extendBooking (bookingId : String) (userId : Int) :
    Await.Call ExtensionOp ExtensionOp.Ret Exception Unit Extension :=
  tryCatch (extendBookingBody bookingId userId) fun e => throw (Exception.badRequest e.message)

def setExpiresAt (expiresAt : Nat) (b : Booking) : Booking := { b with expiresAt := some expiresAt }

def World.updateExpiresAt (w : World) (bookingReference : String) (expiresAt : Nat) : World :=
  { w with
    bookings :=
      Table.modify Booking.bookingReference bookingReference (setExpiresAt expiresAt) w.bookings }

def ExtensionOp.perform : (op : ExtensionOp) → World → op.Ret × World
  | .redis op, w => ((op.perform w.redis).1, { w with redis := (op.perform w.redis).2 })
  | .findByReference ref, w => (w.booking ref, w)
  | .update ref expiresAt, w => ((), w.updateExpiresAt ref expiresAt)

/-! ## Time -/

/-- The commands of a pipeline are sent together, and Redis runs them without a pause. -/
def ExtensionOp.queued : ExtensionOp → Bool
  | .redis (.expire _ _ _) => true
  | _ => false

/-- The world, and how many operations have taken their time. -/
structure Timed where
  world : World
  step : Nat

/-- A call that runs by itself, `delay k` milliseconds going by after its operation `k`. -/
def performTimed (delay : Nat → Nat) (op : ExtensionOp) (s : Timed) :
    Except Exception op.Ret × Timed :=
  let done := op.perform s.world
  (.ok done.1,
    if op.queued then ⟨done.2, s.step⟩
    else ⟨{ done.2 with redis := done.2.redis.wait (delay s.step) }, s.step + 1⟩)

def extendBookingTimed (delay : Nat → Nat) (bookingId : String) (userId : Int) (w : World) :
    Except Exception Extension × World :=
  let ran := (extendBooking bookingId userId).run (performTimed delay) () ⟨w, 0⟩
  (ran.1.1, ran.2.world)

/-- The time from the first operation of a call to its operation `k`. -/
def elapsed (delay : Nat → Nat) : Nat → Nat
  | 0 => 0
  | k + 1 => elapsed delay k + delay k

def lockKeys (flightId : Int) (bookingId : String) (seats : List String) : List SeatLock.Key :=
  seats.map (SeatLock.Key.seat flightId) ++ [.booking flightId bookingId]

/-- The times left of the keys, the first of them read by operation `k`. -/
def readings (delay : Nat → Nat) (r : SeatLock.Redis) :
    List SeatLock.Key → Nat → List (SeatLock.Key × Int)
  | [], _ => []
  | key :: keys, k =>
      (key, (r.wait (elapsed delay k)).ttl key) :: readings delay r keys (k + 1)

/-- The extensions that follow from the times left. -/
def extensions (read : List (SeatLock.Key × Int)) : List (SeatLock.Key × Int) :=
  (read.filter fun q => 0 < q.2).map fun q => (q.1, q.2 + 300)

/-! ## The run -/

variable {delay : Nat → Nat} {w : World} {flightId userId : Int} {bookingId : String}
variable {seats : List String} {k : Nat}

/-- The world before operation `k` of a call that has not written yet. -/
def timedAt (delay : Nat → Nat) (w : World) (k : Nat) : Timed :=
  ⟨{ w with redis := w.redis.wait (elapsed delay k) }, k⟩

/-- How an operation of the lock service is performed for this call. -/
def performLock (delay : Nat → Nat) (op : SeatLock.Op) (s : Timed) :
    Except Exception op.Ret × Timed :=
  performTimed delay (.redis op) s

theorem timedAt_succ :
    (⟨{ w with redis := (w.redis.wait (elapsed delay k)).wait (delay k) }, k + 1⟩ : Timed) =
      timedAt delay w (k + 1) := by
  rw [Keyspace.wait_wait]
  rfl

theorem performLock_get (key : SeatLock.Key) :
    performLock delay (.get key) (timedAt delay w k) =
      (.ok ((w.redis.wait (elapsed delay k)).get key), timedAt delay w (k + 1)) := by
  rw [← timedAt_succ]
  rfl

theorem performLock_ttl (key : SeatLock.Key) :
    performLock delay (.ttl key) (timedAt delay w k) =
      (.ok ((w.redis.wait (elapsed delay k)).ttl key), timedAt delay w (k + 1)) := by
  rw [← timedAt_succ]
  rfl

/-- Reading the times left of the seats one by one leads to their extensions. -/
theorem queueExtensions_run {l : Unit} :
    ∃ queued, (SeatLock.queueExtensions flightId 300 seats).run (performLock delay) l
        (timedAt delay w k) = ((.ok queued, l), timedAt delay w (k + seats.length)) ∧
      (queued.map fun e => (SeatLock.Key.seat flightId e.1, e.2)) =
        extensions (readings delay w.redis (seats.map (SeatLock.Key.seat flightId)) k) := by
  induction seats generalizing k with
  | nil => exact ⟨[], rfl, rfl⟩
  | cons seat seats ih =>
      obtain ⟨rest, hrun, hrest⟩ := @ih (k + 1)
      have hstep : k + 1 + seats.length = k + (seat :: seats).length := by
        rw [List.length_cons]
        omega
      rw [hstep] at hrun
      refine ⟨_, by simp [SeatLock.queueExtensions, performLock_ttl, hrun]; rfl, ?_⟩
      by_cases hpos : 0 < (w.redis.wait (elapsed delay k)).ttl (.seat flightId seat) <;>
        simpa [readings, extensions, hpos] using hrest

theorem pipelined_run {op : SeatLock.Op} {l : Unit} {s : Timed} :
    (SeatLock.pipelined op).run (performLock delay) l s =
      ((.ok ⟨⟩, l), (performLock delay op s).2) := rfl

/-- The queued commands all run at the instant of the last reading. -/
theorem forM_expire_run (queued : List (String × Int)) {l : Unit} {s : Timed} :
    (queued.forM fun e => SeatLock.pipelined
        (.expire (.seat flightId e.1) e.2 bookingId)).run (performLock delay) l s =
      ((.ok ⟨⟩, l), ⟨{ s.world with
        redis := s.world.redis.expireAll
          (queued.map fun e => (SeatLock.Key.seat flightId e.1, e.2)) }, s.step⟩) := by
  induction queued generalizing s with
  | nil => rfl
  | cons e queued ih =>
      have hcons : (e :: queued).forM (fun e => SeatLock.pipelined (L := Unit)
          (.expire (.seat flightId e.1) e.2 bookingId)) =
        (SeatLock.pipelined (.expire (.seat flightId e.1) e.2 bookingId) >>= fun _ =>
          queued.forM fun e => SeatLock.pipelined
            (.expire (.seat flightId e.1) e.2 bookingId)) := rfl
      rw [hcons, Call.run_bind, pipelined_run]
      exact ih

theorem readings_append (r : SeatLock.Redis) (keys keys' : List SeatLock.Key) :
    readings delay r (keys ++ keys') k =
      readings delay r keys k ++ readings delay r keys' (k + keys.length) := by
  induction keys generalizing k with
  | nil => rfl
  | cons key keys ih =>
      have hstep : k + (key :: keys).length = k + 1 + keys.length := by
        rw [List.length_cons]
        omega
      rw [hstep]
      simp [readings, ih]

theorem extensions_append (read read' : List (SeatLock.Key × Int)) :
    extensions (read ++ read') = extensions read ++ extensions read' := by
  simp [extensions]

theorem extensions_cons_pos {key : SeatLock.Key} {ttl : Int} (h : 0 < ttl)
    (read : List (SeatLock.Key × Int)) :
    extensions ((key, ttl) :: read) = (key, ttl + 300) :: extensions read := by
  simp [extensions, h]

theorem extensions_cons_neg {key : SeatLock.Key} {ttl : Int} (h : ¬0 < ttl)
    (read : List (SeatLock.Key × Int)) : extensions ((key, ttl) :: read) = extensions read := by
  simp [extensions, h]

/-- The world after an extension whose first operation was number `k`. -/
def extended (delay : Nat → Nat) (w : World) (flightId : Int) (bookingId : String)
    (seats : List String) (k : Nat) : Timed :=
  let last := k + seats.length + 2
  let read := readings delay w.redis (lockKeys flightId bookingId seats) (k + 1)
  let redis := (w.redis.wait (elapsed delay last)).expireAll (extensions read)
  ⟨{ w with redis := redis.wait (delay last) }, last + 1⟩

theorem extendLock_run {data : SeatLock.BookingData} {l : Unit}
    (hget : (w.redis.wait (elapsed delay k)).get (.booking flightId bookingId) = some data) :
    (SeatLock.extendLock flightId bookingId 300).run (performLock delay) l (timedAt delay w k) =
      ((.ok true, l), extended delay w flightId bookingId data.seats k) := by
  obtain ⟨queued, hqueued, hextensions⟩ :=
    @queueExtensions_run delay w flightId data.seats (k + 1) l
  have hbooking : readings delay w.redis (lockKeys flightId bookingId data.seats) (k + 1) =
      readings delay w.redis (data.seats.map (SeatLock.Key.seat flightId)) (k + 1) ++
        [(.booking flightId bookingId, (w.redis.wait
          (elapsed delay (k + 1 + data.seats.length))).ttl (.booking flightId bookingId))] := by
    rw [lockKeys, readings_append, List.length_map]
    rfl
  have hlast : k + data.seats.length + 2 = k + 1 + data.seats.length + 1 := by omega
  simp only [SeatLock.extendLock, Call.run_bind, Call.run_await, performLock_get, hget, hqueued,
    performLock_ttl, forM_expire_run, Call.run_whenever, pipelined_run, hextensions, extended,
    hbooking, extensions_append, Keyspace.expireAll_append, hlast]
  by_cases hpos : 0 < (w.redis.wait (elapsed delay (k + 1 + data.seats.length))).ttl
      (.booking flightId bookingId)
  · rw [if_pos hpos, extensions_cons_pos hpos]
    rfl
  · rw [if_neg hpos, extensions_cons_neg hpos]
    rfl

theorem extendLock_run_none {l : Unit}
    (hget : (w.redis.wait (elapsed delay k)).get (.booking flightId bookingId) = none) :
    (SeatLock.extendLock flightId bookingId 300).run (performLock delay) l (timedAt delay w k) =
      ((.ok false, l), timedAt delay w (k + 1)) := by
  simp only [SeatLock.extendLock, Call.run_bind, Call.run_await, performLock_get, hget,
    Call.run_pure]

/-- The time at which the new deadline of the row is computed. -/
def extensionTime (delay : Nat → Nat) (w : World) (seats : List String) : Nat :=
  w.redis.now + elapsed delay (seats.length + 4)

def prolonged (delay : Nat → Nat) (w : World) (flightId : Int) (bookingId : String)
    (seats : List String) : World :=
  let s := extended delay w flightId bookingId seats 1
  let read := s.world.redis.wait (delay s.step)
  { s.world.updateExpiresAt bookingId (extensionTime delay w seats + 300000) with
    redis := read.wait (delay (s.step + 1)) }

theorem extended_now :
    (extended delay w flightId bookingId seats 1).world.redis.now = extensionTime delay w seats := by
  have hlast : 1 + seats.length + 2 = seats.length + 3 := by omega
  simp only [extended, extensionTime, Keyspace.wait, Keyspace.expireAll_now, hlast]
  exact Nat.add_assoc _ _ _

theorem lift_run {α : Type} (c : SeatLock.Call Unit α) {l : Unit} {s : Timed} :
    (c.lift ExtensionOp.redis fun _ r => r).run (performTimed delay) l s =
      c.run (performLock delay) l s :=
  Call.run_lift (performTimed delay) l s ExtensionOp.redis (fun _ r => r) c

/-- A call that succeeds has found the row of its user and the live key of the booking. -/
theorem extendBookingTimed_ok {result : Extension} {w' : World}
    (h : extendBookingTimed delay bookingId userId w = (.ok result, w')) :
    ∃ row data, w.booking bookingId = some row ∧ row.userId = userId ∧
      (w.redis.wait (elapsed delay 1)).get (.booking row.flightId bookingId) = some data ∧
      w' = prolonged delay w row.flightId bookingId data.seats := by
  have hstart : performTimed delay (.findByReference bookingId) ⟨w, 0⟩ =
      (.ok (w.booking bookingId), timedAt delay w 1) := by
    rw [← timedAt_succ]
    rfl
  unfold extendBookingTimed extendBooking extendBookingBody at h
  simp only [Call.run_tryCatch, Call.run_bind, Call.run_await, hstart] at h
  cases hrow : w.booking bookingId with
  | none =>
      simp [hrow] at h
  | some row =>
      simp only [hrow, Call.run_ite, Call.run_throw, Call.run_bind, lift_run] at h
      by_cases huser : row.userId = userId
      · rw [if_neg (by simpa using huser)] at h
        cases hget : (w.redis.wait (elapsed delay 1)).get (.booking row.flightId bookingId) with
        | none =>
            simp [extendLock_run_none hget] at h
        | some data =>
            refine ⟨row, data, rfl, huser, hget, ?_⟩
            simp only [extendLock_run hget, if_true, Call.run_await] at h
            rw [prolonged, ← extended_now]
            exact (congrArg Prod.snd h).symm
      · rw [if_pos huser] at h
        cases h

/-! ## Holds that last -/

/-- The row expires no earlier than before, and the keys of the booking, which are all there,
outlast the new deadline of the row. -/
def NeverShortens (w w' : World) (bookingId : String) : Prop :=
  ∀ before after, w.booking bookingId = some before → w'.booking bookingId = some after →
    ∃ expiresAt, after.expiresAt = some expiresAt ∧
      (∀ old, before.expiresAt = some old → old ≤ expiresAt) ∧
      ∃ (data : SeatLock.BookingData) (d : Nat),
        w'.redis.entries (.booking before.flightId bookingId) = some (data, d) ∧
        ∀ key ∈ lockKeys before.flightId bookingId data.seats, ∃ d,
          w'.redis.deadline key = some d ∧ expiresAt ≤ d

/-- The key lives until the extensions are sent, has a second left when it is read, and is
extended five minutes beyond `now` by every such reading. -/
def KeyOutlasts (now : Nat) (sent : SeatLock.Redis) (read : List (SeatLock.Key × Int))
    (key : SeatLock.Key) : Prop :=
  sent.live key ≠ none ∧ (∃ q ∈ read, q.1 = key ∧ 0 < q.2) ∧
    ∀ q ∈ read, q.1 = key → 0 < q.2 → (now : Int) ≤ sent.now + q.2 * 1000

/-- The deadline of the row is at most five minutes away when the new one is computed, and the
keys of the booking outlast the new one. -/
def Outlasts (delay : Nat → Nat) (w : World) (row : Booking) (bookingId : String)
    (seats : List String) : Prop :=
  let now := extensionTime delay w seats
  let sent := w.redis.wait (elapsed delay (seats.length + 3))
  let keys := lockKeys row.flightId bookingId seats
  (∀ old, row.expiresAt = some old → old ≤ now + 300000) ∧
    ∀ key ∈ keys, KeyOutlasts now sent (readings delay w.redis keys 2) key

theorem elapsed_mono {j k : Nat} (h : j ≤ k) : elapsed delay j ≤ elapsed delay k := by
  induction h with
  | refl => exact Nat.le_refl _
  | step _ ih => exact Nat.le_trans ih (Nat.le_add_right _ _)

theorem wait_elapsed (r : SeatLock.Redis) {j k : Nat} (h : j ≤ k) :
    r.wait (elapsed delay k) =
      (r.wait (elapsed delay j)).wait (elapsed delay k - elapsed delay j) := by
  rw [Keyspace.wait_wait, Nat.add_sub_cancel' (elapsed_mono h)]

theorem mem_readings {r : SeatLock.Redis} {keys : List SeatLock.Key} {q : SeatLock.Key × Int}
    (h : q ∈ readings delay r keys k) :
    ∃ j, k ≤ j ∧ j < k + keys.length ∧ q.2 = (r.wait (elapsed delay j)).ttl q.1 := by
  induction keys generalizing k with
  | nil => cases h
  | cons key keys ih =>
      cases List.mem_cons.mp h with
      | inl heq =>
          subst heq
          exact ⟨k, Nat.le_refl _, by simp, rfl⟩
      | inr h =>
          obtain ⟨j, hj, hlast, httl⟩ := ih h
          refine ⟨j, by omega, ?_, httl⟩
          rw [List.length_cons]
          omega

theorem exists_reading {r : SeatLock.Redis} {keys : List SeatLock.Key} {key : SeatLock.Key}
    (h : key ∈ keys) : ∃ q ∈ readings delay r keys k, q.1 = key := by
  induction keys generalizing k with
  | nil => cases h
  | cons key' keys ih =>
      cases List.mem_cons.mp h with
      | inl heq =>
          subst heq
          exact ⟨_, List.mem_cons_self, rfl⟩
      | inr h =>
          obtain ⟨q, hq, hkey⟩ := @ih (k + 1) h
          exact ⟨q, List.mem_cons_of_mem _ hq, hkey⟩

/-- A key that is read again has no more time left than before. -/
theorem readings_fall (r : SeatLock.Redis) (keys : List SeatLock.Key) :
    (readings delay r keys k).Pairwise fun q q' => q.1 = q'.1 → q'.2 ≤ q.2 := by
  induction keys generalizing k with
  | nil => exact .nil
  | cons key keys ih =>
      refine List.pairwise_cons.mpr ⟨?_, ih⟩
      intro q hq hkey
      obtain ⟨j, hj, -, httl⟩ := mem_readings hq
      have hle : k ≤ j := by omega
      rw [httl, ← hkey, wait_elapsed r hle]
      exact Keyspace.ttl_wait_le

theorem mem_extensions {read : List (SeatLock.Key × Int)} {key : SeatLock.Key} {seconds : Int} :
    (key, seconds) ∈ extensions read ↔ (key, seconds - 300) ∈ read ∧ 0 < seconds - 300 := by
  simp only [extensions, List.mem_map, List.mem_filter, decide_eq_true_eq, Prod.mk.injEq]
  constructor
  · rintro ⟨q, ⟨hq, hpos⟩, rfl, rfl⟩
    rw [Int.add_sub_cancel]
    exact ⟨hq, hpos⟩
  · rintro ⟨hq, hpos⟩
    exact ⟨_, ⟨hq, hpos⟩, rfl, Int.sub_add_cancel _ _⟩

theorem extensions_pos {read : List (SeatLock.Key × Int)} :
    ∀ q ∈ extensions read, 0 < q.2 := by
  rintro ⟨key, seconds⟩ hq
  have hpos := (mem_extensions.mp hq).2
  simp only
  omega

theorem extensions_fall {read : List (SeatLock.Key × Int)}
    (h : read.Pairwise fun q q' => q.1 = q'.1 → q'.2 ≤ q.2) :
    (extensions read).Pairwise fun q q' => q.1 = q'.1 → q'.2 ≤ q.2 := by
  rw [extensions, List.pairwise_map]
  refine (h.filter _).imp ?_
  intro q q' hle hkey
  exact Int.add_le_add_right (hle hkey) 300

/-- A key with no time left to extend when it is read is about to vanish. -/
theorem unread_short {r : SeatLock.Redis} {keys : List SeatLock.Key} {key : SeatLock.Key}
    {last : Nat} {e : SeatLock.Value key × Nat} (hkey : key ∈ keys) (hlast : k + keys.length ≤ last)
    (hunread : ∀ q ∈ extensions (readings delay r keys k), q.1 ≠ key)
    (hlive : (r.wait (elapsed delay last)).live key = some e) :
    e.2 < (r.wait (elapsed delay last)).now + 500 := by
  obtain ⟨⟨key', ttl⟩, hq, rfl⟩ := @exists_reading delay k r keys key hkey
  obtain ⟨j, -, hj, httl⟩ := mem_readings hq
  have hle : j ≤ last := by omega
  have hread : (r.wait (elapsed delay j)).live key' = some e := by
    rw [wait_elapsed r hle] at hlive
    exact Keyspace.live_wait hlive
  have hnone : (r.wait (elapsed delay j)).ttl key' ≤ 0 := by
    by_contra hpos
    have hmem : (key', ttl + 300) ∈ extensions (readings delay r keys k) := by
      rw [mem_extensions, Int.add_sub_cancel]
      simp only at httl
      exact ⟨hq, by omega⟩
    exact hunread _ hmem rfl
  have hshort := Keyspace.deadline_lt_of_ttl hread hnone
  have hmono : elapsed delay j ≤ elapsed delay last := elapsed_mono hle
  simp only [Keyspace.wait] at hshort ⊢
  omega

theorem outlasts_key_iff {r : SeatLock.Redis} {keys : List SeatLock.Key} {key : SeatLock.Key}
    {last now : Nat} (hkey : key ∈ keys) (hlast : k + keys.length ≤ last)
    (hnow : (r.wait (elapsed delay last)).now ≤ now) :
    (∃ d, ((r.wait (elapsed delay last)).expireAll
        (extensions (readings delay r keys k))).deadline key = some d ∧ now + 300000 ≤ d) ↔
      KeyOutlasts now (r.wait (elapsed delay last)) (readings delay r keys k) key := by
  have hshort : (∀ q ∈ extensions (readings delay r keys k), q.1 ≠ key) →
      ∀ e, (r.wait (elapsed delay last)).live key = some e → e.2 < now + 300000 := by
    intro hunread e hlive
    have hvanishing := unread_short hkey hlast hunread hlive
    omega
  rw [Keyspace.deadline_expireAll_iff extensions_pos (extensions_fall (readings_fall r keys))
    (by omega) hshort]
  refine and_congr_right fun _ => and_congr ?_ ?_
  · constructor
    · rintro ⟨⟨key', seconds⟩, hq, rfl⟩
      obtain ⟨hread, hpos⟩ := mem_extensions.mp hq
      exact ⟨_, hread, rfl, hpos⟩
    · rintro ⟨⟨key', ttl⟩, hq, rfl, hpos⟩
      refine ⟨(key', ttl + 300), ?_, rfl⟩
      rw [mem_extensions, Int.add_sub_cancel]
      exact ⟨hq, hpos⟩
  · constructor
    · rintro h ⟨key', ttl⟩ hq rfl hpos
      have hmem : (key', ttl + 300) ∈ extensions (readings delay r keys k) := by
        rw [mem_extensions, Int.add_sub_cancel]
        exact ⟨hq, hpos⟩
      have hfar := h _ hmem rfl
      simp only at hfar ⊢
      omega
    · rintro h ⟨key', seconds⟩ hq rfl
      obtain ⟨hread, hpos⟩ := mem_extensions.mp hq
      have hfar := h _ hread rfl hpos
      simp only at hfar ⊢
      omega

theorem deadline_prolonged (key : SeatLock.Key) :
    (prolonged delay w flightId bookingId seats).redis.deadline key =
      ((w.redis.wait (elapsed delay (seats.length + 3))).expireAll (extensions
        (readings delay w.redis (lockKeys flightId bookingId seats) 2))).deadline key := by
  have hlast : 1 + seats.length + 2 = seats.length + 3 := by omega
  simp only [prolonged, Keyspace.deadline_wait, extended, hlast]

theorem value_prolonged (key : SeatLock.Key) :
    ((prolonged delay w flightId bookingId seats).redis.entries key).map Prod.fst =
      (w.redis.entries key).map Prod.fst := by
  simp only [prolonged, extended, Keyspace.wait]
  exact Keyspace.value_expireAll extensions_pos

theorem booking_prolonged {row : Booking} (hrow : w.booking bookingId = some row) :
    (prolonged delay w flightId bookingId seats).booking bookingId =
      some (setExpiresAt (extensionTime delay w seats + 300000) row) := by
  have hrows : (prolonged delay w flightId bookingId seats).bookings =
      Table.modify Booking.bookingReference bookingId
        (setExpiresAt (extensionTime delay w seats + 300000)) w.bookings := rfl
  have hkeep : ∀ b : Booking, b.bookingReference = bookingId →
      (setExpiresAt (extensionTime delay w seats + 300000) b).bookingReference = bookingId :=
    fun _ h => h
  rw [World.booking, hrows, Table.find_modify_self hkeep]
  exact congrArg (Option.map _) hrow

theorem value_of_get {key : SeatLock.Key} {v : SeatLock.Value key} {ms : Nat}
    (h : (w.redis.wait ms).get key = some v) : (w.redis.entries key).map Prod.fst = some v := by
  obtain ⟨deadline, hlive⟩ := Keyspace.get_eq_some.mp h
  obtain ⟨hentry, -⟩ := Option.filter_eq_some_iff.mp hlive
  have hentry : w.redis.entries key = some (v, deadline) := hentry
  rw [hentry]
  rfl

theorem key_prolonged_iff {key : SeatLock.Key} (hkey : key ∈ lockKeys flightId bookingId seats) :
    (∃ d, (prolonged delay w flightId bookingId seats).redis.deadline key = some d ∧
        extensionTime delay w seats + 300000 ≤ d) ↔
      KeyOutlasts (extensionTime delay w seats)
        (w.redis.wait (elapsed delay (seats.length + 3)))
        (readings delay w.redis (lockKeys flightId bookingId seats) 2) key := by
  have hlength : 2 + (lockKeys flightId bookingId seats).length = seats.length + 3 := by
    simp only [lockKeys, List.length_append, List.length_map, List.length_singleton]
    omega
  rw [deadline_prolonged]
  refine outlasts_key_iff hkey (Nat.le_of_eq hlength) ?_
  exact Nat.add_le_add_left (Nat.le_add_right _ _) _

theorem neverShortens_prolonged {row : Booking} {data : SeatLock.BookingData}
    (hrow : w.booking bookingId = some row)
    (hget : (w.redis.wait (elapsed delay 1)).get (.booking row.flightId bookingId) = some data) :
    NeverShortens w (prolonged delay w row.flightId bookingId data.seats) bookingId ↔
      Outlasts delay w row bookingId data.seats := by
  have hafter := @booking_prolonged delay w row.flightId bookingId data.seats row hrow
  have hvalue := (@value_prolonged delay w row.flightId bookingId data.seats
    (.booking row.flightId bookingId)).trans (value_of_get hget)
  constructor
  · intro h
    obtain ⟨expiresAt, hexpires, hold, data', d, hentry, hlast⟩ := h row _ hrow hafter
    cases hexpires
    rw [hentry] at hvalue
    cases hvalue
    exact ⟨hold, fun key hkey => (key_prolonged_iff hkey).mp (hlast key hkey)⟩
  · intro h before after hbefore hafter'
    cases hrow.symm.trans hbefore
    cases hafter.symm.trans hafter'
    obtain ⟨e, hentry, rfl⟩ := Option.map_eq_some_iff.mp hvalue
    exact ⟨_, rfl, h.1, e.1, e.2, hentry, fun key hkey => (key_prolonged_iff hkey).mpr (h.2 key hkey)⟩

/-- An extension that succeeds keeps its promise exactly if the deadline of the row is near enough
and every key of the booking lasts until it is extended, and is extended far enough. -/
theorem never_shortens_iff {result : Extension} {w' : World}
    (h : extendBookingTimed delay bookingId userId w = (.ok result, w')) :
    NeverShortens w w' bookingId ↔
      ∀ (row : Booking) (data : SeatLock.BookingData), w.booking bookingId = some row →
        (w.redis.wait (elapsed delay 1)).get (.booking row.flightId bookingId) = some data →
        Outlasts delay w row bookingId data.seats := by
  obtain ⟨row, data, hrow, -, hget, rfl⟩ := extendBookingTimed_ok h
  rw [neverShortens_prolonged hrow hget]
  constructor
  · intro houtlasts row' data' hrow' hget'
    cases hrow.symm.trans hrow'
    cases hget.symm.trans hget'
    exact houtlasts
  · intro hall
    exact hall row data hrow hget

/-- Booking `a1` is extended right after its saga has reserved the seat. -/
def extendsEarly (w : World) : Bool :=
  match extendBookingTimed (fun _ => 1) "a1" 1 w with
  | (.ok _, w') =>
      ((w.booking "a1").any fun b => b.expiresAt = some 900000) &&
        (w'.booking "a1").any fun b => b.expiresAt = some 300005
  | (.error _, _) => false

theorem extendsEarly_spec {w : World} (h : extendsEarly w = true) :
    ∃ result w' before after, extendBookingTimed (fun _ => 1) "a1" 1 w = (.ok result, w') ∧
      w.booking "a1" = some before ∧ before.expiresAt = some 900000 ∧
      w'.booking "a1" = some after ∧ after.expiresAt = some 300005 := by
  unfold extendsEarly at h
  split at h
  · rename_i result w' hrun
    rw [Bool.and_eq_true] at h
    obtain ⟨before, hbefore, hold⟩ := Option.any_eq_true _ _ |>.mp h.1
    obtain ⟨after, hafter, hnew⟩ := Option.any_eq_true _ _ |>.mp h.2
    exact ⟨result, w', before, after, hrun, hbefore, by simpa using hold, hafter, by simpa using hnew⟩
  · cases h

theorem reserved_extendsEarly :
    ∃ es P, service.run reserved (Pool.init (World.init 0)) = some (es, P) ∧
      extendsEarly P.state = true := by
  have hrun : (service.run reserved (Pool.init (World.init 0))).any (fun result =>
      extendsEarly result.2.state) = true := by decide
  exact System.exists_run hrun

theorem never_shortens_iff_reserved :
    ∃ w result w', extendBookingTimed (fun _ => 1) "a1" 1 w = (.ok result, w') ∧
      (NeverShortens w w' "a1" ↔
        ∀ (row : Booking) (data : SeatLock.BookingData), w.booking "a1" = some row →
          (w.redis.wait (elapsed (fun _ => 1) 1)).get (.booking row.flightId "a1") = some data →
          Outlasts (fun _ => 1) w row "a1" data.seats) := by
  obtain ⟨es, P, -, hearly⟩ := reserved_extendsEarly
  obtain ⟨result, w', -, -, hrun, -⟩ := extendsEarly_spec hearly
  exact ⟨P.state, result, w', hrun, never_shortens_iff hrun⟩

/-- A booking that is extended in its first ten minutes expires sooner than before. -/
theorem extension_shortens :
    ∃ es P result w', service.run reserved (Pool.init (World.init 0)) = some (es, P) ∧
      extendBookingTimed (fun _ => 1) "a1" 1 P.state = (.ok result, w') ∧
      ¬NeverShortens P.state w' "a1" := by
  obtain ⟨es, P, hreserved, hearly⟩ := reserved_extendsEarly
  obtain ⟨result, w', before, after, hrun, hbefore, hold, hafter, hnew⟩ := extendsEarly_spec hearly
  refine ⟨es, P, result, w', hreserved, hrun, ?_⟩
  intro h
  obtain ⟨expiresAt, hexpires, hlate, -⟩ := h before after hbefore hafter
  rw [hnew] at hexpires
  cases hexpires
  have hle := hlate _ hold
  omega

end FlightBookings.Booking
