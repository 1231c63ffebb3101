import FlightBookings.SeatLock.Service

/-! # Mutual exclusion of seat locks

Which bookings hold a seat is read off their booking keys. An extension moves
the deadline of a seat key and leaves the expiry that the lock script compares
with, so exclusion holds on the runs whose extensions stay within the recorded
expiry, whose scripts see the present, and whose releases and extensions still
own what they touch.
-/

namespace FlightBookings.SeatLock

open Await

/-- The booking key of a booking is live and names the seat. -/
def Lists (r : Redis) (flightId : Int) (bookingId seat : String) : Prop :=
  ∃ data : BookingData, r.get (.booking flightId bookingId) = some data ∧ seat ∈ data.seats

instance (r : Redis) (flightId : Int) (b s : String) : Decidable (Lists r flightId b s) :=
  decidable_of_iff ((r.get (.booking flightId b)).any fun data : BookingData => s ∈ data.seats)
    (by simp [Lists, Option.any_eq_true])

/-- No two bookings list one seat of a flight. -/
def Exclusive (r : Redis) : Prop :=
  ∀ flightId b b' seat, Lists r flightId b seat → Lists r flightId b' seat → b = b'

/-- The booking for which a command that writes seat keys is sent. -/
def Op.bookingId : Op → Option String
  | .eval _ bookingId _ _ _ _ => some bookingId
  | .del _ bookingId => some bookingId
  | .expire _ _ bookingId => some bookingId
  | _ => none

/-- A command for one booking leaves the seat key of another one alone while the booking key
of that other one is live. -/
def Respects : Event → Prop
  | .started _ _ _ => True
  | .performed r _ _ op r' =>
      ∀ (b : String) (flightId : Int) (seat : String) (lock : SeatData), op.bookingId = some b →
        r.get (.seat flightId seat) = some lock → lock.bookingId ≠ b →
        r'.get (.seat flightId seat) ≠ some lock → r.get (.booking flightId lock.bookingId) = none

/-- What the locks promise of one command. -/
def Safe (e : Event) : Prop := Exclusive e.after ∧ Respects e

/-- What the state before a command has to grant for the locks to stay exclusive. -/
def Steady : Event → Prop
  | .performed r _ _ (.eval flightId b _ _ timestamp seats) _ =>
      timestamp = r.now ∧ ∀ seat ∈ seats, ∀ b', b' ≠ b → Lists r flightId b' seat →
        r.get (.seat flightId seat) ≠ none
  | .performed r _ _ (.del (.seat flightId seat) b) _ =>
      r.get (.seat flightId seat) ≠ none → Lists r flightId b seat
  | .performed r _ _ (.expire (.seat flightId seat) seconds b) _ =>
      ∀ lock : SeatData, r.get (.seat flightId seat) = some lock →
        Lists r flightId b seat ∧ r.now + seconds * 1000 ≤ (lock.expiresAt : Int)
  | _ => True

/-- The invariant of the lock keys. -/
structure Consistent (r : Redis) : Prop where
  exclusive : Exclusive r
  owner : ∀ flightId b seat lock, Lists r flightId b seat →
    r.get (.seat flightId seat) = some lock → SeatData.bookingId lock = b
  recorded : ∀ flightId seat lock deadline, r.live (.seat flightId seat) = some (lock, deadline) →
    deadline ≤ SeatData.expiresAt lock

/-! ## What each command preserves -/

theorem Lists.of_get {r r' : Redis} (hget : ∀ k v, r'.get k = some v → r.get k = some v)
    {flightId : Int} {b seat : String} (h : Lists r' flightId b seat) : Lists r flightId b seat := by
  obtain ⟨data, hdata, hmem⟩ := h
  exact ⟨data, hget _ _ hdata, hmem⟩

/-- Values may vanish, as long as the deadlines stay within the records. -/
theorem Consistent.of_get {r r' : Redis} (h : Consistent r)
    (hget : ∀ k v, r'.get k = some v → r.get k = some v)
    (hrecorded : ∀ flightId seat lock deadline,
      r'.live (.seat flightId seat) = some (lock, deadline) →
        deadline ≤ SeatData.expiresAt lock) : Consistent r' where
  exclusive flightId b b' seat hb hb' :=
    h.exclusive flightId b b' seat (hb.of_get hget) (hb'.of_get hget)
  owner flightId b seat lock hlists hlock :=
    h.owner flightId b seat lock (hlists.of_get hget) (hget _ _ hlock)
  recorded := hrecorded

theorem consistent_wait {r : Redis} (h : Consistent r) (ms : Nat) : Consistent (r.wait ms) :=
  h.of_get (fun _ _ => Keyspace.get_of_wait) fun flightId seat lock deadline hlive =>
    h.recorded flightId seat lock deadline (Keyspace.live_wait hlive)

theorem consistent_del {r : Redis} (h : Consistent r) (key : Key) : Consistent (r.del key) :=
  h.of_get (fun _ _ => Keyspace.get_of_del) fun flightId seat lock deadline hlive =>
    h.recorded flightId seat lock deadline (Keyspace.live_of_del hlive)

theorem consistent_expire {r : Redis} (h : Consistent r) {key : Key} {seconds : Int}
    (hrecorded : ∀ flightId seat, key = .seat flightId seat → ∀ lock : SeatData,
      r.get (.seat flightId seat) = some lock → r.now + seconds * 1000 ≤ (lock.expiresAt : Int)) :
    Consistent (r.expire key seconds) := by
  refine h.of_get (fun _ _ => Keyspace.get_of_expire) ?_
  intro flightId seat lock deadline hlive
  by_cases hkey : Key.seat flightId seat = key
  · subst hkey
    obtain ⟨before, hbefore, hdeadline⟩ := Keyspace.live_expire_self hlive
    have hbound := hrecorded flightId seat rfl lock (Keyspace.get_eq_some.mpr ⟨before, hbefore⟩)
    simp only at hdeadline
    omega
  · rw [Keyspace.live_expire_of_ne hkey] at hlive
    exact h.recorded flightId seat lock deadline hlive

section Grant

variable {r : Redis} {flightId userId : Int} {b : String} {ttl : Nat} {seats : List String}

/-- While the records cover the deadlines, a script that sees the present grants a seat only
if its key is gone or belongs to the caller. -/
theorem granted_owner (h : Consistent r) {seat : String} {lock : SeatData}
    (hfree : ∀ lock : SeatData, r.get (.seat flightId seat) = some lock →
      lock.blocks b r.now = false)
    (hlock : r.get (.seat flightId seat) = some lock) : lock.bookingId = b := by
  obtain ⟨deadline, hlive⟩ := Keyspace.get_eq_some.mp hlock
  have hnow : r.now < deadline := Keyspace.live_lt hlive
  have hrecorded := h.recorded flightId seat lock deadline hlive
  have hblocks := hfree lock hlock
  have hlt : r.now < lock.expiresAt := Nat.lt_of_lt_of_le hnow hrecorded
  simpa [SeatData.blocks, hlt] using hblocks

/-- What a booking lists after a grant: the caller its new seats, the others what they had. -/
theorem lists_lockAll (httl : 0 < ttl) {f : Int} {b' s : String} :
    Lists (lockAll flightId b userId ttl r.now seats r) f b' s ↔
      if f = flightId ∧ b' = b then s ∈ seats else Lists r f b' s := by
  unfold Lists
  rw [lockAll_booking httl]
  split <;> simp

theorem consistent_lockAll (h : Consistent r) (httl : 0 < ttl)
    (hfree : ∀ seat ∈ seats, ∀ lock : SeatData, r.get (.seat flightId seat) = some lock →
      lock.blocks b r.now = false)
    (hlisted : ∀ seat ∈ seats, ∀ b', b' ≠ b → Lists r flightId b' seat →
      r.get (.seat flightId seat) ≠ none) :
    Consistent (lockAll flightId b userId ttl r.now seats r) := by
  have hmine : ∀ seat ∈ seats, ∀ b', Lists r flightId b' seat → b' = b := by
    intro seat hseat b' hlists
    by_cases hb : b' = b
    · exact hb
    · obtain ⟨lock, hlock⟩ := Option.ne_none_iff_exists'.mp (hlisted seat hseat b' hb hlists)
      rw [← h.owner flightId b' seat lock hlists hlock]
      exact granted_owner h (hfree seat hseat) hlock
  -- after the grant, whoever lists one of the seats is the caller
  have hlists : ∀ f b' s, Lists (lockAll flightId b userId ttl r.now seats r) f b' s →
      (f = flightId ∧ s ∈ seats ∧ b' = b) ∨ (¬(f = flightId ∧ s ∈ seats) ∧ Lists r f b' s) := by
    intro f b' s hl
    rw [lists_lockAll httl] at hl
    by_cases hkey : f = flightId ∧ b' = b
    · rw [if_pos hkey] at hl
      exact .inl ⟨hkey.1, hl, hkey.2⟩
    · rw [if_neg hkey] at hl
      refine .inr ⟨?_, hl⟩
      intro hseat
      exact hkey ⟨hseat.1, hmine s hseat.2 b' (hseat.1 ▸ hl)⟩
  constructor
  · intro f b₁ b₂ s h₁ h₂
    rcases hlists f b₁ s h₁ with ⟨hf, hs, rfl⟩ | ⟨hn, h₁⟩
    · rcases hlists f b₂ s h₂ with ⟨-, -, rfl⟩ | ⟨hn, -⟩
      · rfl
      · exact absurd ⟨hf, hs⟩ hn
    · rcases hlists f b₂ s h₂ with ⟨hf, hs, -⟩ | ⟨-, h₂⟩
      · exact absurd ⟨hf, hs⟩ hn
      · exact h.exclusive f b₁ b₂ s h₁ h₂
  · intro f b' s lock hl hlock
    rw [Keyspace.get, lockAll_seat httl] at hlock
    rcases hlists f b' s hl with ⟨hf, hs, rfl⟩ | ⟨hn, hl⟩
    · rw [if_pos ⟨hf, hs⟩] at hlock
      cases hlock
      rfl
    · rw [if_neg hn] at hlock
      exact h.owner f b' s lock hl hlock
  · intro f s lock deadline hlive
    rw [lockAll_seat httl] at hlive
    by_cases hkey : f = flightId ∧ s ∈ seats
    · rw [if_pos hkey] at hlive
      cases hlive
      exact Nat.le_refl _
    · rw [if_neg hkey] at hlive
      exact h.recorded f s lock deadline hlive

end Grant

theorem consistent_perform {r : Redis} {i : Nat} {fails : Option Exception} {op : Op}
    (htimed : op.Timed) (h : Consistent r)
    (hsteady : Steady (.performed r i fails op (op.perform r).2)) :
    Consistent (op.perform r).2 := by
  cases op with
  | dateNow => exact h
  | wait ms => exact consistent_wait h ms
  | get key => exact h
  | ttl key => exact h
  | exec => exact h
  | del key b => exact consistent_del h key
  | expire key seconds b =>
      refine consistent_expire h ?_
      intro flightId seat hkey lock hlock
      subst hkey
      exact (hsteady lock hlock).2
  | eval flightId b userId seconds timestamp seats =>
      obtain ⟨rfl, hlisted⟩ := hsteady
      change Consistent (luaScript flightId b userId seconds r.now seats r).2
      rcases luaScript_cases flightId b userId seconds r.now seats r with ⟨-, hr⟩ | ⟨-, hr, hfree⟩
      · rw [hr]
        exact h
      · rw [hr]
        exact consistent_lockAll h htimed hfree hlisted

theorem respects_perform {r : Redis} {i : Nat} {fails : Option Exception} {op : Op}
    (htimed : op.Timed) (h : Consistent r)
    (hsteady : Steady (.performed r i fails op (op.perform r).2)) :
    Respects (.performed r i fails op (op.perform r).2) := by
  intro b flightId seat lock hb hlock hne hchanged
  exfalso
  cases op with
  | del key b' =>
      cases hb
      by_cases hkey : Key.seat flightId seat = key
      · subst hkey
        have hlive : r.get (.seat flightId seat) ≠ none := by simp [hlock]
        exact hne (h.owner flightId _ seat lock (hsteady hlive) hlock)
      · apply hchanged
        rw [← hlock]
        exact congrArg _ (Keyspace.live_del_of_ne hkey)
  | expire key seconds b' =>
      cases hb
      by_cases hkey : Key.seat flightId seat = key
      · subst hkey
        exact hne (h.owner flightId _ seat lock (hsteady lock hlock).1 hlock)
      · apply hchanged
        rw [← hlock]
        exact congrArg _ (Keyspace.live_expire_of_ne hkey)
  | eval f b' userId seconds timestamp seats =>
      cases hb
      obtain ⟨rfl, -⟩ := hsteady
      change (luaScript f b userId seconds r.now seats r).2.get _ ≠ _ at hchanged
      rcases luaScript_cases f b userId seconds r.now seats r with ⟨-, hr⟩ | ⟨-, hr, hfree⟩
      · rw [hr] at hchanged
        exact hchanged hlock
      · by_cases hkey : flightId = f ∧ seat ∈ seats
        · obtain ⟨rfl, hseat⟩ := hkey
          exact hne (granted_owner h (hfree seat hseat) hlock)
        · rw [hr, Keyspace.get, lockAll_seat htimed, if_neg hkey] at hchanged
          exact hchanged hlock
  | dateNow => cases hb
  | wait ms => cases hb
  | get key => cases hb
  | ttl key => cases hb
  | exec => cases hb

/-! ## Runs -/

theorem consistent_empty (now : Nat) : Consistent (Keyspace.empty now) where
  exclusive := by simp [Exclusive, Lists, Keyspace.get]
  owner := by simp [Lists, Keyspace.get]
  recorded := by simp

theorem steady_perform {r r' : Redis} {i : Nat} {fails : Option Exception} {op : Op}
    {reply : Except Exception op.Ret} (htimed : op.Timed) (h : Consistent r)
    (hperform : service.perform i fails op r = some (reply, r'))
    (hsteady : Steady (.performed r i fails op r')) :
    Consistent r' ∧ Safe (.performed r i fails op r') := by
  cases fails with
  | some e =>
      cases hperform
      refine ⟨h, h.exclusive, ?_⟩
      intro b f seat lock _ hlock _ hchanged
      exact absurd hlock hchanged
  | none =>
      cases hperform
      have h' := consistent_perform htimed h hsteady
      exact ⟨h', h'.exclusive, respects_perform htimed h hsteady⟩

theorem consistent_of_run {now : Nat} {ms : List (Move Request (Option Exception))}
    {es : List Event} {P : Pool Op (fun op => Except Exception op.Ret) _ Redis}
    (hrun : service.run ms (Pool.init (Keyspace.empty now)) = some (es, P))
    (hsteady : ∀ e ∈ es, Steady e) : Consistent P.state ∧ ∀ e ∈ es, Safe e := by
  have hstarted : ∀ (s : Redis) (i : Nat) (request : Request), Consistent s →
      Steady (.started s i request) →
      (service.program request).Emits Op.Timed (fun _ _ => True) ∧ Safe (.started s i request) := by
    intro s i request h _
    exact ⟨(request_timed request).program, h.exclusive, trivial⟩
  have hperform : ∀ (s : Redis) (i : Nat) (fails : Option Exception) (op : Op)
      (reply : Except Exception op.Ret) (s' : Redis), op.Timed → Consistent s →
      service.perform i fails op s = some (reply, s') → Steady (.performed s i fails op s') →
      True ∧ Consistent s' ∧ Safe (.performed s i fails op s') :=
    fun _ _ _ _ _ _ htimed h hperform hsteady =>
      ⟨trivial, steady_perform htimed h hperform hsteady⟩
  exact System.run_ops hstarted hperform hrun hsteady (consistent_empty now)
    (by simp [Pool.init])

/-- In a run whose commands are steady, no seat is ever listed by two live booking keys, and
no booking's command touches the seat key of another booking whose booking key lives. -/
theorem mutual_exclusion {now : Nat} {ms : List (Move Request (Option Exception))}
    {es : List Event} {P : Pool Op (fun op => Except Exception op.Ret) _ Redis}
    (hrun : service.run ms (Pool.init (Keyspace.empty now)) = some (es, P))
    (hsteady : ∀ e ∈ es, Steady e) :
    Exclusive P.state ∧ ∀ e ∈ es, Safe e := by
  obtain ⟨hconsistent, hsafe⟩ := consistent_of_run hrun hsteady
  exact ⟨hconsistent.exclusive, hsafe⟩

/-- The keys of a lock on seat 1A, as one booking sets them. -/
def held : Redis := lockAll 7 "a" 1 LOCK_TTL 0 ["1A"] (Keyspace.empty 0)

/-- Two bookings ask for one seat, and the second one is refused. -/
def contended : List (Move Request (Option Exception)) :=
  [.start (.lockSeats 7 ["1A"] "a" 1), .run 0 none, .run 0 none, .run 0 none,
    .start (.lockSeats 7 ["1A"] "b" 2), .run 1 none, .run 1 none, .run 1 none]

theorem mutual_exclusion_contended :
    ∃ es P, service.run contended (Pool.init (Keyspace.empty 0)) = some (es, P) ∧
      Exclusive P.state ∧ Lists P.state 7 "a" "1A" := by
  let es : List Event :=
    [.started (Keyspace.empty 0) 0 (.lockSeats 7 ["1A"] "a" 1),
      .performed (Keyspace.empty 0) 0 none .dateNow (Keyspace.empty 0),
      .performed (Keyspace.empty 0) 0 none (.get (.booking 7 "a")) (Keyspace.empty 0),
      .performed (Keyspace.empty 0) 0 none (.eval 7 "a" 1 LOCK_TTL 0 ["1A"]) held,
      .started held 1 (.lockSeats 7 ["1A"] "b" 2),
      .performed held 1 none .dateNow held,
      .performed held 1 none (.get (.booking 7 "b")) held,
      .performed held 1 none (.eval 7 "b" 2 LOCK_TTL 0 ["1A"]) held]
  have hsteady : ∀ e ∈ es, Steady e := by
    have hfirst : Steady (.performed (Keyspace.empty 0) 0 none
        (.eval 7 "a" 1 LOCK_TTL 0 ["1A"]) held) := by
      refine ⟨rfl, ?_⟩
      intro seat _ b' _ hlists
      obtain ⟨data, hdata, -⟩ := hlists
      cases hdata
    have hsecond : Steady (.performed held 1 none (.eval 7 "b" 2 LOCK_TTL 0 ["1A"]) held) := by
      refine ⟨rfl, ?_⟩
      intro seat hseat b' _ _
      rw [List.mem_singleton] at hseat
      subst hseat
      decide
    simp only [es, List.forall_mem_cons]
    exact ⟨trivial, trivial, trivial, hfirst, trivial, trivial, trivial, hsecond, by simp⟩
  have hrun : ∃ P, service.run contended (Pool.init (Keyspace.empty 0)) = some (es, P) ∧
      Lists P.state 7 "a" "1A" := by
    refine ⟨_, rfl, ?_⟩
    decide
  obtain ⟨P, hrun, hlists⟩ := hrun
  exact ⟨es, P, hrun, (mutual_exclusion hrun hsteady).1, hlists⟩

/-- An extended lock of seat 1A, and the same seat asked for by another booking after the
recorded expiry of the first lock. -/
def extended : List (Move Request (Option Exception)) :=
  [.start (.lockSeats 7 ["1A"] "a" 1), .run 0 none, .run 0 none, .run 0 none,
    .start (.extendLock 7 "a" 300), .run 1 none, .run 1 none, .run 1 none, .run 1 none,
    .run 1 none, .run 1 none,
    .start (.wait 900000), .run 2 none,
    .start (.lockSeats 7 ["1A"] "b" 2), .run 3 none, .run 3 none, .run 3 none]

/-- The deadline of the key moves with an extension, the expiry recorded in it does not. -/
theorem extended_not_exclusive :
    ¬∀ now ms es P, service.run ms (Pool.init (Keyspace.empty now)) = some (es, P) →
      Exclusive P.state := by
  intro h
  have hrun : (service.run extended (Pool.init (Keyspace.empty 0))).any (fun result =>
      Lists result.2.state 7 "a" "1A" && Lists result.2.state 7 "b" "1A") = true := by decide
  obtain ⟨es, P, hrun, hlists⟩ := System.exists_run hrun
  rw [Bool.and_eq_true, decide_eq_true_eq, decide_eq_true_eq] at hlists
  exact absurd (h 0 extended es P hrun 7 "a" "b" "1A" hlists.1 hlists.2) (by decide)

end FlightBookings.SeatLock
