import FlightBookings.RateLimiter.Status

/-! # When to come back

A refused request is told how long its key is blocked, and not when there is room in its window
again. Nobody else asks for the key until it comes back.
-/

namespace FlightBookings.RateLimiter

open Await

variable {config : RateLimitConfig} {key random : String} {clock : Nat} {r r' : Redis}

/-! ## The promise -/

/-- A request is let through. -/
def Passes (config : RateLimitConfig) (key : String) (clock : Nat) (random : String) (r : Redis) :
    Prop :=
  ∃ answer, (consumeAt config key clock random r).1 = .ok answer ∧ answer.allowed = true

/-- A request that is refused is told after how many seconds to come back, and is let through
whenever it comes then or later. -/
def Honoured (config : RateLimitConfig) (key : String) (clock : Nat) (random : String) (r : Redis) :
    Prop :=
  ∀ answer, (consumeAt config key clock random r).1 = .ok answer → answer.allowed = false →
    ∃ delay, answer.info.retryAfter = some delay ∧ ∀ later random', 1000 * delay ≤ later →
      Passes config key (clock + later) random'
        ((consumeAt config key clock random r).2.wait later)

/-- The block of the key goes on, or its window is full. -/
def turnedAway (config : RateLimitConfig) (key : String) (clock : Nat) (r : Redis) : Bool :=
  blockedAt config key clock r || config.points ≤ (countedAt config key clock r).length

/-- When the block ends that refuses a request, be it there already or set by the request. -/
def blockEnd (config : RateLimitConfig) (key : String) (clock : Nat) (r : Redis) : Nat :=
  ((r.get (.blocked (redisKeyOf config key))).filter (clock < ·)).getD (clock + blockMs config)

/-- The milliseconds to the end of the block, in whole seconds. -/
def untilBlockEnd (config : RateLimitConfig) (key : String) (clock : Nat) (r : Redis) : Nat :=
  1000 * ((blockEnd config key clock r - clock + 999) / 1000)

/-! ## The log while nobody comes -/

theorem sortedSet_wait {redisKey : String} {ms : Nat}
    {f : List (String × Nat) → List (String × Nat)} (hf : f [] = []) (hnow : r'.now = r.now)
    (hlive : r'.live (.log redisKey) = (r.live (.log redisKey)).map fun e => (f e.1, e.2)) :
    sortedSet (r'.wait ms) redisKey = f (sortedSet (r.wait ms) redisKey) := by
  rw [sortedSet_eq, sortedSet_eq, Keyspace.live_wait_eq, Keyspace.live_wait_eq, hlive, hnow]
  cases r.live (.log redisKey) with
  | none => exact hf.symm
  | some e => by_cases hlt : r.now + ms < e.2 <;> simp [Option.filter, hlt, hf]

/-- What was pruned would not count later. -/
theorem countedAt_of_pruned (hnow : r'.now = r.now)
    (hlive : r'.live (.log (redisKeyOf config key)) =
      (r.live (.log (redisKeyOf config key))).map fun e =>
        (prune (clock - config.duration * 1000) e.1, e.2)) (later : Nat) :
    countedAt config key (clock + later) (r'.wait later) =
      countedAt config key (clock + later) (r.wait later) := by
  unfold countedAt
  rw [sortedSet_wait (prune_nil _) hnow hlive]
  exact prune_prune (by omega) _

/-- As time goes by, fewer entries count. -/
theorem countedAt_wait_le {earlier later : Nat} (h : earlier ≤ later) :
    (countedAt config key (clock + later) (r.wait later)).length ≤
      (countedAt config key (clock + earlier) (r.wait earlier)).length := by
  have hwait : r.wait later = (r.wait earlier).wait (later - earlier) := by
    rw [Keyspace.wait_wait, Nat.add_sub_cancel' h]
  unfold countedAt
  rw [hwait, sortedSet_eq, sortedSet_eq, Keyspace.live_wait_eq]
  cases (r.wait earlier).live (.log (redisKeyOf config key)) with
  | none => exact Nat.zero_le _
  | some e =>
      by_cases hlt : (r.wait earlier).now + (later - earlier) < e.2
      · simp only [Option.filter, hlt, decide_true, if_true, Option.map_some, Option.getD_some]
        have hstart : ((clock + earlier : Nat) : Int) - config.duration * 1000 ≤
            (clock + later : Nat) - config.duration * 1000 := by omega
        rw [← prune_prune hstart]
        exact List.length_filter_le _ _
      · simp [Option.filter, hlt, prune]

/-! ## The refusal -/

/-- What a refusal tells, and what it leaves for later: the block that it names, and a log in which
the same entries count as without it. -/
structure Refused (config : RateLimitConfig) (key : String) (clock : Nat) (r : Redis)
    (answer : RateLimitResult) (r' : Redis) : Prop where
  allowed : answer.allowed = false
  told : answer.info.retryAfter = some ((blockEnd config key clock r - clock + 999) / 1000)
  counted : ∀ later, countedAt config key (clock + later) (r'.wait later) =
    countedAt config key (clock + later) (r.wait later)
  unblocked : ∀ later, blockEnd config key clock r ≤ clock + later →
    blockedAt config key (clock + later) (r'.wait later) = false

theorem blockedAt_wait_eq_false {later : Nat}
    (h : ∀ blockedTimestamp : Nat, r.get (.blocked (redisKeyOf config key)) = some blockedTimestamp →
      blockedTimestamp ≤ clock) :
    blockedAt config key clock (r.wait later) = false := by
  refine Bool.eq_false_iff.mpr fun hblocked => ?_
  obtain ⟨blockedTimestamp, hget, hlt⟩ := blockedAt_eq_true.mp hblocked
  have hle := h blockedTimestamp (Keyspace.get_of_wait hget)
  omega

/-- A block that goes on refuses the request by itself. -/
theorem refused_blocked {blockedTimestamp : Nat}
    (hget : r.get (.blocked (redisKeyOf config key)) = some blockedTimestamp)
    (hlt : clock < blockedTimestamp) :
    Refused config key clock r ⟨false, ⟨config.points, 0, blockedTimestamp / 1000,
      some ((blockedTimestamp - clock + 999) / 1000)⟩⟩ r := by
  have hend : blockEnd config key clock r = blockedTimestamp := by
    simp [blockEnd, hget, Option.filter, hlt]
  refine ⟨rfl, ?_, fun later => rfl, fun later hle => blockedAt_wait_eq_false ?_⟩
  · rw [hend]
  · intro blockedTimestamp' hget'
    rw [hget, Option.some.injEq] at hget'
    subst hget'
    rwa [hend] at hle

/-- A full window refuses the request, and blocks the key from now on. -/
theorem refused_full (hopen : blockedAt config key clock r = false)
    (hfull : ¬(countedAt config key clock r).length < config.points) :
    ∃ answer r', consumeAt config key clock random r = (.ok answer, r') ∧
      Refused config key clock r answer r' := by
  have hend : blockEnd config key clock r = clock + blockMs config := by
    unfold blockEnd
    unfold blockedAt at hopen
    cases hget : r.get (.blocked (redisKeyOf config key)) with
    | none => rfl
    | some blockedTimestamp =>
        rw [hget] at hopen
        simp only [Option.any_some] at hopen
        simp [Option.filter, hopen]
  refine ⟨_, _, consumeAt_open hopen (checkWindow_full (by rwa [unblocked_sortedSet])), rfl, ?_, ?_, ?_⟩
  · rw [hend, Nat.add_sub_cancel_left]
  · refine countedAt_of_pruned unblocked_now ((Keyspace.live_setex_of_ne (by simp)).trans ?_)
    rw [Keyspace.live_put_map (fun _ => _), unblocked_sortedSet, unblocked_live]
    refine Option.map_congr fun e he => ?_
    rw [sortedSet_eq, he, Option.map_some, Option.getD_some]
  · intro later hle
    refine blockedAt_wait_eq_false fun blockedTimestamp hget => ?_
    obtain rfl := Keyspace.get_of_setex hget
    rwa [hend] at hle

theorem refused_of_turnedAway (h : turnedAway config key clock r = true) :
    ∃ answer r', consumeAt config key clock random r = (.ok answer, r') ∧
      Refused config key clock r answer r' := by
  cases hopen : blockedAt config key clock r with
  | true =>
      obtain ⟨blockedTimestamp, hget, hlt⟩ := blockedAt_eq_true.mp hopen
      exact ⟨_, r, consumeAt_blocked hget hlt, refused_blocked hget hlt⟩
  | false =>
      simp only [turnedAway, hopen, Bool.false_or, decide_eq_true_eq] at h
      exact refused_full hopen (Nat.not_lt.mpr h)

/-! ## Coming back -/

theorem passes_iff_of_open (hopen : blockedAt config key clock r = false) :
    Passes config key clock random r ↔ (countedAt config key clock r).length < config.points := by
  by_cases hroom : (countedAt config key clock r).length < config.points
  · exact iff_of_true ⟨_, consumeAt_room hopen hroom, rfl⟩ hroom
  · refine iff_of_false ?_ hroom
    rintro ⟨answer, hanswer, hallowed⟩
    rw [consumeAt_full hopen hroom] at hanswer
    cases hanswer
    cases hallowed

theorem blockEnd_le (later : Nat) (h : untilBlockEnd config key clock r ≤ later) :
    blockEnd config key clock r ≤ clock + later := by
  unfold untilBlockEnd at h
  omega

theorem honoured_of_open (h : turnedAway config key clock r = false) :
    Honoured config key clock random r := by
  obtain ⟨hopen, hroom⟩ := Bool.or_eq_false_iff.mp h
  have hroom : (countedAt config key clock r).length < config.points := by simpa using hroom
  intro answer hanswer hallowed
  rw [consumeAt_room hopen hroom] at hanswer
  cases hanswer
  cases hallowed

/-- A refused request that comes back finds no block, and passes if the window has room. -/
theorem passes_after_iff {answer : RateLimitResult} {later : Nat} {random' : String}
    (hanswer : consumeAt config key clock random r = (.ok answer, r'))
    (hrefused : Refused config key clock r answer r')
    (hlater : untilBlockEnd config key clock r ≤ later) :
    Passes config key (clock + later) random' ((consumeAt config key clock random r).2.wait later) ↔
      (countedAt config key (clock + later) (r.wait later)).length < config.points := by
  rw [hanswer, passes_iff_of_open (hrefused.unblocked later (blockEnd_le later hlater)),
    hrefused.counted later]

/-- The request comes back as early as it may. -/
theorem Honoured.room (h : Honoured config key clock random r)
    (hturned : turnedAway config key clock r = true) :
    (countedAt config key (clock + untilBlockEnd config key clock r)
      (r.wait (untilBlockEnd config key clock r))).length < config.points := by
  obtain ⟨answer, r', hanswer, hrefused⟩ := @refused_of_turnedAway _ _ random _ _ hturned
  obtain ⟨delay, hdelay, hpasses⟩ := h answer (congrArg Prod.fst hanswer) hrefused.allowed
  rw [hrefused.told, Option.some.injEq] at hdelay
  subst hdelay
  exact (passes_after_iff hanswer hrefused (Nat.le_refl _)).mp (hpasses _ random (Nat.le_refl _))

/-- The promise of a refusal is kept just when the window has room in the first whole second after
the end of the block. -/
theorem retryAfter_honoured_iff (config : RateLimitConfig) (key random : String) (clock : Nat)
    (r : Redis) :
    Honoured config key clock random r ↔
      (turnedAway config key clock r = true →
        (countedAt config key (clock + untilBlockEnd config key clock r)
          (r.wait (untilBlockEnd config key clock r))).length < config.points) := by
  constructor
  · intro hhonoured hturned
    exact hhonoured.room hturned
  · intro hroom
    cases hturned : turnedAway config key clock r with
    | false => exact honoured_of_open hturned
    | true =>
        obtain ⟨answer, r', hanswer, hrefused⟩ := @refused_of_turnedAway _ _ random _ _ hturned
        intro answer' hanswer' _
        rw [hanswer, Except.ok.injEq] at hanswer'
        subst hanswer'
        refine ⟨_, hrefused.told, fun later random' hlater => ?_⟩
        exact (passes_after_iff hanswer hrefused hlater).mpr
          (Nat.lt_of_le_of_lt (countedAt_wait_le hlater) (hroom hturned))

/-! ## A short block -/

/-- One request in a minute, and a block of a second. -/
def oncePerMinute : RateLimitConfig where
  points := 1
  duration := 60
  blockDuration := 1
  keyPrefix := "ratelimit"

/-- A request that is let through, and the time up to the next one. -/
def admittedOnce : List (Move Request Timing) :=
  [.start (.consume oncePerMinute "user:1"), .run 0 (comes 5000 5000), .run 0 (comes 0 5000),
    .run 0 (comes 0 5000)]

/-- A request that comes back after the second that it was told is refused again. -/
theorem refused_after_retryAfter :
    ¬∀ (ms : List (Move Request Timing)) (es : List Event) (P : LimiterPool) (start : Nat)
        (config : RateLimitConfig) (key random : String) (clock waited : Nat),
      limiter.run ms (.init (Keyspace.empty start)) = some (es, P) → 0 < config.points →
        0 < config.duration → 0 < config.blockDuration →
          Honoured config key clock random (P.state.wait waited) := by
  intro h
  have hany : (limiter.run admittedOnce (.init (Keyspace.empty 0))).any (fun result =>
      turnedAway oncePerMinute "user:1" 5100 (result.2.state.wait 100) &&
        decide ¬(countedAt oncePerMinute "user:1"
          (5100 + untilBlockEnd oncePerMinute "user:1" 5100 (result.2.state.wait 100))
          ((result.2.state.wait 100).wait
            (untilBlockEnd oncePerMinute "user:1" 5100 (result.2.state.wait 100)))).length <
          oncePerMinute.points) = true := by
    decide +kernel
  obtain ⟨es, P, hrun, hrefused⟩ := System.exists_run hany
  obtain ⟨hturned, hfull⟩ := Bool.and_eq_true_iff.mp hrefused
  have hhonoured := h admittedOnce es P 0 oncePerMinute "user:1" "0.5" 5100 100 hrun (by decide)
    (by decide) (by decide)
  exact of_decide_eq_true hfull (hhonoured.room hturned)

end FlightBookings.RateLimiter
