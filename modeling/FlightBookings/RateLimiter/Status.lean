import FlightBookings.RateLimiter.Blocking
import FlightBookings.RateLimiter.Window

/-! # The status of a key

It counts the log of the key and does not ask for a block, so that it shows requests left where the
next one is refused.
-/

namespace FlightBookings.RateLimiter

open Await

/-! ## The call -/

/-- The commands of `getStatus`. -/
inductive StatusOp where
  | dateNow
  | zremrangebyscore (redisKey : String) (windowStart : Int)
  | zcard (redisKey : String)

abbrev StatusOp.Ret : StatusOp → Type
  | .dateNow => Nat
  | .zremrangebyscore _ _ => Unit
  | .zcard _ => Nat

def StatusOp.perform (clock : Nat) : (op : StatusOp) → Redis → op.Ret × Redis
  | .dateNow, r => (clock, r)
  | .zremrangebyscore redisKey windowStart, r =>
      ((), r.put (.log redisKey)
        ((r.live (.log redisKey)).map fun e => (prune windowStart e.1, e.2)))
  | .zcard redisKey, r => ((sortedSet r redisKey).length, r)

def getStatus (config : RateLimitConfig) (key : String) :
    Await.Call StatusOp StatusOp.Ret Exception Unit RateLimitInfo := do
  let now : Nat ← Call.await StatusOp.dateNow
  let windowStart : Int := now - config.duration * 1000
  let redisKey := redisKeyOf config key
  tryCatch
    (do
      Call.await (StatusOp.zremrangebyscore redisKey windowStart)
      let current : Nat ← Call.await (StatusOp.zcard redisKey)
      pure { limit := config.points
             remaining := config.points - current
             reset := (now + config.duration * 1000) / 1000 })
    fun _ => pure { limit := config.points
                    remaining := config.points
                    reset := (now + config.duration * 1000) / 1000 }

/-- The outcome of a call all of whose commands come at once, and what it leaves in Redis. -/
def undisturbed {Op : Type} {Ret : Op → Type} {α : Type}
    (perform : (op : Op) → Redis → Ret op × Redis) (call : Await.Call Op Ret Exception Unit α)
    (r : Redis) : Except Exception α × Redis :=
  let result := call.run (fun op r => (.ok (perform op r).1, (perform op r).2)) () r
  (result.1.1, result.2)

/-- `getStatus` at an instant of the caller's clock. -/
def statusAt (config : RateLimitConfig) (key : String) (clock : Nat) (r : Redis) :
    Except Exception RateLimitInfo × Redis :=
  undisturbed (StatusOp.perform clock) (getStatus config key) r

/-- `consume` at an instant of the caller's clock. -/
def consumeAt (config : RateLimitConfig) (key : String) (clock : Nat) (random : String) (r : Redis) :
    Except Exception RateLimitResult × Redis :=
  undisturbed (Command.perform ⟨0, clock, random⟩) (consumeTask config key) r

/-- The status tells whether a request would be let through, and after one that is, it shows as many
as the request was told. -/
def Predicts (config : RateLimitConfig) (key : String) (clock : Nat) (random : String) (r : Redis) :
    Prop :=
  ∃ status answer after,
    (statusAt config key clock r).1 = .ok status ∧
    (consumeAt config key clock random r).1 = .ok answer ∧
    (statusAt config key clock (consumeAt config key clock random r).2).1 = .ok after ∧
    (0 < status.remaining ↔ answer.allowed = true) ∧
    (answer.allowed = true → after.remaining = answer.info.remaining)

/-! ## What decides a request -/

/-- The entries of the log that count at an instant. -/
def countedAt (config : RateLimitConfig) (key : String) (clock : Nat) (r : Redis) :
    List (String × Nat) :=
  prune (clock - config.duration * 1000) (sortedSet r (redisKeyOf config key))

/-- A block of the key ends after the instant. -/
def blockedAt (config : RateLimitConfig) (key : String) (clock : Nat) (r : Redis) : Bool :=
  (r.get (.blocked (redisKeyOf config key))).any (clock < ·)

variable {config : RateLimitConfig} {key random : String} {clock : Nat} {r : Redis}

theorem sortedSet_eq (redisKey : String) :
    sortedSet r redisKey = ((r.live (.log redisKey)).map Prod.fst).getD [] := rfl

theorem prune_nil (windowStart : Int) : prune windowStart [] = [] := rfl

/-- What was pruned before is pruned again later. -/
theorem prune_prune {earlier later : Int} (h : earlier ≤ later) (entries : List (String × Nat)) :
    prune later (prune earlier entries) = prune later entries := by
  unfold prune
  rw [List.filter_filter]
  refine List.filter_congr fun e _ => ?_
  simp only [Bool.and_eq_left_iff_imp, decide_eq_true_eq]
  omega

/-- The log with its entries replaced by other ones. -/
theorem sortedSet_put {redisKey : String} {f : List (String × Nat) → List (String × Nat)}
    (hf : f [] = []) :
    sortedSet (r.put (.log redisKey) ((r.live (.log redisKey)).map fun e => (f e.1, e.2))) redisKey =
      f (sortedSet r redisKey) := by
  rw [sortedSet_eq, sortedSet_eq, Keyspace.live_put_map]
  cases r.live (.log redisKey) with
  | none => exact hf.symm
  | some e => rfl

theorem statusAt_eq :
    (statusAt config key clock r).1 =
      .ok ⟨config.points, config.points - (countedAt config key clock r).length,
        (clock + config.duration * 1000) / 1000, none⟩ := by
  simp only [statusAt, undisturbed, getStatus, Call.run_bind, Call.run_await, Call.run_tryCatch,
    Call.run_pure, StatusOp.perform]
  rw [sortedSet_put (prune_nil _)]
  rfl

/-- A command of `consume` at an instant of the caller's clock. -/
def performAt (clock : Nat) (random : String) (op : Op) (r : Redis) :
    Except Exception op.Ret × Redis :=
  (.ok (Command.perform ⟨0, clock, random⟩ (.basic op) r).1,
    (Command.perform ⟨0, clock, random⟩ (.basic op) r).2)

@[simp] theorem performAt_dateNow : performAt clock random .dateNow r = (.ok clock, r) := rfl

@[simp] theorem performAt_get (redisKey : String) :
    performAt clock random (.get redisKey) r = (.ok (r.get (.blocked redisKey)), r) := rfl

@[simp] theorem performAt_del (redisKey : String) :
    performAt clock random (.del redisKey) r = (.ok (), r.del (.blocked redisKey)) := rfl

@[simp] theorem performAt_eval (redisKey : String) (now : Nat) (windowStart : Int) (limit ttl : Nat) :
    performAt clock random (.eval redisKey now windowStart limit ttl) r =
      (.ok (luaScript redisKey now windowStart limit ttl random r).1,
        (luaScript redisKey now windowStart limit ttl random r).2) := rfl

@[simp] theorem performAt_setex (redisKey : String) (seconds blockedUntil : Nat) :
    performAt clock random (.setex redisKey seconds blockedUntil) r =
      (.ok (), r.setex (.blocked redisKey) seconds blockedUntil) := rfl

theorem consumeAt_eq :
    consumeAt config key clock random r =
      (((consume config key).run (performAt clock random) () r).1.1,
        ((consume config key).run (performAt clock random) () r).2) := by
  simp only [consumeAt, undisturbed, consumeTask, Call.run_lift]
  rfl

theorem consumeAt_blocked {blockedTimestamp : Nat}
    (hget : r.get (.blocked (redisKeyOf config key)) = some blockedTimestamp)
    (hlt : clock < blockedTimestamp) :
    consumeAt config key clock random r =
      (.ok ⟨false, ⟨config.points, 0, blockedTimestamp / 1000,
        some ((blockedTimestamp - clock + 999) / 1000)⟩⟩, r) := by
  simp [consumeAt_eq, consume, hget, checkBlock, hlt]

/-- What a request that no block stops finds when it comes to the script. -/
def unblocked (config : RateLimitConfig) (key : String) (r : Redis) : Redis :=
  match r.get (.blocked (redisKeyOf config key)) with
  | some _ => r.del (.blocked (redisKeyOf config key))
  | none => r

theorem unblocked_now : (unblocked config key r).now = r.now := by
  unfold unblocked
  split <;> rfl

theorem unblocked_live (redisKey : String) :
    (unblocked config key r).live (.log redisKey) = r.live (.log redisKey) := by
  unfold unblocked
  split
  · exact Keyspace.live_del_of_ne (by simp)
  · rfl

theorem unblocked_sortedSet (redisKey : String) :
    sortedSet (unblocked config key r) redisKey = sortedSet r redisKey :=
  sortedSet_of_live (unblocked_live redisKey)

/-- The request comes to the script. -/
theorem consumeAt_open {answer : RateLimitResult} {r' : Redis}
    (hopen : blockedAt config key clock r = false)
    (hwindow : (checkWindow config (redisKeyOf config key) clock).run (performAt clock random) ()
      (unblocked config key r) = ((.ok answer, ()), r')) :
    consumeAt config key clock random r = (.ok answer, r') := by
  unfold blockedAt at hopen
  unfold unblocked at hwindow
  cases hget : r.get (.blocked (redisKeyOf config key)) with
  | none =>
      rw [hget] at hwindow
      simp [consumeAt_eq, consume, hget, checkBlock, hwindow]
  | some blockedTimestamp =>
      rw [hget] at hopen hwindow
      have hge : ¬clock < blockedTimestamp := by simpa using hopen
      simp [consumeAt_eq, consume, hget, checkBlock, hge, hwindow]

theorem checkWindow_room {redisKey : String}
    (hroom : (prune (clock - config.duration * 1000) (sortedSet r redisKey)).length < config.points) :
    (checkWindow config redisKey clock).run (performAt clock random) () r =
      ((.ok ⟨true, ⟨config.points, config.points -
          ((prune (clock - config.duration * 1000) (sortedSet r redisKey)).length + 1),
          (clock + config.duration * 1000) / 1000, none⟩⟩, ()),
        r.setex (.log redisKey) (config.duration + 1) (zadd clock (member clock random)
          (prune (clock - config.duration * 1000) (sortedSet r redisKey)))) := by
  simp [checkWindow, luaScript, hroom]

theorem checkWindow_full {redisKey : String}
    (hfull : ¬(prune (clock - config.duration * 1000) (sortedSet r redisKey)).length < config.points) :
    (checkWindow config redisKey clock).run (performAt clock random) () r =
      ((.ok ⟨false, ⟨config.points, 0, (clock + config.duration * 1000) / 1000,
          some ((blockMs config + 999) / 1000)⟩⟩, ()),
        (r.put (.log redisKey) ((r.live (.log redisKey)).map fun e =>
          (prune (clock - config.duration * 1000) (sortedSet r redisKey), e.2))).setex
            (.blocked redisKey) ((blockMs config + 999) / 1000) (clock + blockMs config)) := by
  simp [checkWindow, luaScript, hfull]

/-! ## Status and requests -/

theorem length_zadd_iff {m : String} {entries : List (String × Nat)} :
    (zadd clock m entries).length = entries.length + 1 ↔ m ∉ entries.map Prod.fst := by
  rw [zadd, List.length_append, List.length_singleton, Nat.add_right_cancel_iff,
    List.length_filter_eq_length_iff]
  constructor
  · intro hother hmem
    obtain ⟨e, he, rfl⟩ := List.mem_map.mp hmem
    simpa using hother e he
  · intro hnew e he
    refine decide_eq_true fun heq => ?_
    exact hnew (List.mem_map.mpr ⟨e, he, heq⟩)

theorem length_zadd_le {m : String} {entries : List (String × Nat)} :
    (zadd clock m entries).length ≤ entries.length + 1 := by
  rw [zadd, List.length_append, List.length_singleton]
  exact Nat.succ_le_succ (List.length_filter_le _ _)

/-- An entry that is added now still counts, as do those that counted before. -/
theorem prune_zadd {windowStart : Int} {m : String} {entries : List (String × Nat)}
    (h : windowStart < clock) (hkept : prune windowStart entries = entries) :
    prune windowStart (zadd clock m entries) = zadd clock m entries := by
  unfold prune at hkept ⊢
  unfold zadd
  rw [List.filter_append, List.filter_filter]
  refine congrArg₂ (· ++ ·) (List.filter_congr fun e he => ?_) ?_
  · have hcounts := List.filter_eq_self.mp hkept e he
    rw [hcounts, Bool.true_and]
  · simpa using h

/-- After a request that was let through, the status counts the log with its entry. -/
theorem countedAt_admitted (hduration : 0 < config.duration)
    (hopen : blockedAt config key clock r = false)
    (hroom : (countedAt config key clock r).length < config.points) :
    countedAt config key clock (consumeAt config key clock random r).2 =
      zadd clock (member clock random) (countedAt config key clock r) := by
  rw [consumeAt_open hopen (checkWindow_room (by rwa [unblocked_sortedSet])), unblocked_sortedSet, countedAt,
    sortedSet_eq, Keyspace.live_setex_self (Nat.succ_pos _), Option.map_some, Option.getD_some]
  refine prune_zadd (by omega) ?_
  exact prune_prune (Int.le_refl _) _

theorem consumeAt_room (hopen : blockedAt config key clock r = false)
    (hroom : (countedAt config key clock r).length < config.points) :
    (consumeAt config key clock random r).1 =
      .ok ⟨true, ⟨config.points, config.points - ((countedAt config key clock r).length + 1),
        (clock + config.duration * 1000) / 1000, none⟩⟩ := by
  rw [consumeAt_open hopen (checkWindow_room (by rwa [unblocked_sortedSet])), unblocked_sortedSet,
    countedAt]

theorem consumeAt_full (hopen : blockedAt config key clock r = false)
    (hfull : ¬(countedAt config key clock r).length < config.points) :
    (consumeAt config key clock random r).1 =
      .ok ⟨false, ⟨config.points, 0, (clock + config.duration * 1000) / 1000,
        some ((blockMs config + 999) / 1000)⟩⟩ := by
  rw [consumeAt_open hopen (checkWindow_full (by rwa [unblocked_sortedSet]))]

theorem predicts_of_answer {answer : RateLimitResult}
    (hanswer : (consumeAt config key clock random r).1 = .ok answer) :
    Predicts config key clock random r ↔
      ((countedAt config key clock r).length < config.points ↔ answer.allowed = true) ∧
        (answer.allowed = true → config.points -
          (countedAt config key clock (consumeAt config key clock random r).2).length =
            answer.info.remaining) := by
  constructor
  · rintro ⟨status, answer', after, hstatus, hanswer', hafter, hpredicts, hagrees⟩
    rw [statusAt_eq] at hstatus hafter
    rw [hanswer] at hanswer'
    cases hstatus
    cases hanswer'
    cases hafter
    exact ⟨Nat.sub_pos_iff_lt.symm.trans hpredicts, hagrees⟩
  · rintro ⟨hpredicts, hagrees⟩
    exact ⟨_, answer, _, statusAt_eq, hanswer, statusAt_eq, Nat.sub_pos_iff_lt.trans hpredicts,
      hagrees⟩

theorem blockedAt_eq_true :
    blockedAt config key clock r = true ↔
      ∃ blockedTimestamp, r.get (.blocked (redisKeyOf config key)) = some blockedTimestamp ∧
        clock < blockedTimestamp := by
  simp [blockedAt, Option.any_eq_true]

/-- In every state of Redis and at every instant, the status of a key predicts the next request just
when its window is full, or no block of the key goes on and the request does not draw a member that
the log holds. -/
theorem status_predicts_iff (config : RateLimitConfig) (key random : String) (clock : Nat) (r : Redis)
    (hduration : 0 < config.duration) :
    Predicts config key clock random r ↔
      config.points ≤ (countedAt config key clock r).length ∨
        blockedAt config key clock r = false ∧
          member clock random ∉ (countedAt config key clock r).map Prod.fst := by
  cases hopen : blockedAt config key clock r with
  | true =>
      obtain ⟨blockedTimestamp, hget, hlt⟩ := blockedAt_eq_true.mp hopen
      rw [predicts_of_answer (congrArg Prod.fst (consumeAt_blocked hget hlt))]
      simp
  | false =>
      by_cases hroom : (countedAt config key clock r).length < config.points
      · rw [predicts_of_answer (consumeAt_room hopen hroom),
          countedAt_admitted hduration hopen hroom, ← @length_zadd_iff clock]
        have hle := @length_zadd_le clock (member clock random) (countedAt config key clock r)
        simp only [hroom, true_and, forall_const, iff_self]
        omega
      · rw [predicts_of_answer (consumeAt_full hopen hroom)]
        simp [hroom, Nat.le_of_not_lt hroom]

theorem status_predicts_empty :
    Predicts perMinute "user:1" 2005 "0.5" (Keyspace.empty 0) :=
  (status_predicts_iff perMinute "user:1" "0.5" 2005 (Keyspace.empty 0) (by decide)).mpr
    (.inr ⟨rfl, List.not_mem_nil⟩)

/-- A key is blocked for a minute. -/
def blockedOnDemand : List (Move Request Timing) :=
  [.start (.block perMinute "user:1" (some 60)), .run 0 (comes 1000 1000), .run 0 (comes 5 1005)]

/-- A second after a key was blocked, its status has all its requests left. -/
theorem blocked_key_has_requests_left :
    ¬∀ (ms : List (Move Request Timing)) (es : List Event) (P : LimiterPool) (start : Nat)
        (config : RateLimitConfig) (key random : String) (clock waited : Nat),
      limiter.run ms (.init (Keyspace.empty start)) = some (es, P) → 0 < config.points →
        0 < config.duration → 0 < config.blockDuration →
          Predicts config key clock random (P.state.wait waited) := by
  intro h
  have hany : (limiter.run blockedOnDemand (.init (Keyspace.empty 0))).any (fun result =>
      decide ((countedAt perMinute "user:1" 2005 (result.2.state.wait 1000)).length = 0) &&
        (blockedAt perMinute "user:1" 2005 (result.2.state.wait 1000))) = true := by
    decide +kernel
  obtain ⟨es, P, hrun, hblocked⟩ := System.exists_run hany
  obtain ⟨hcount, hblocked⟩ := Bool.and_eq_true_iff.mp hblocked
  have hpredicts := h blockedOnDemand es P 0 perMinute "user:1" "0.5" 2005 1000 hrun (by decide)
    (by decide) (by decide)
  obtain ⟨blockedTimestamp, hget, hlt⟩ := blockedAt_eq_true.mp hblocked
  rw [predicts_of_answer (congrArg Prod.fst (consumeAt_blocked hget hlt)),
    of_decide_eq_true hcount] at hpredicts
  exact absurd (hpredicts.1.mp (by decide)) (by simp)

end FlightBookings.RateLimiter
