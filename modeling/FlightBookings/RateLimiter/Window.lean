import FlightBookings.RateLimiter.Service

/-! # The sliding window

As long as no admitted request draws a member that the sorted set holds already,
the set counts the admitted requests of the window, and no window holds more of
them than the limit.
-/

namespace FlightBookings.RateLimiter

open Await

/-! ## Windows -/

/-- The times of the requests that were let through. -/
def admittedTimes (answers : List Answer) : List Nat :=
  answers.filterMap fun a =>
    match a.outcome with
    | .ok result => if result.allowed then some a.time else none
    | .error _ => none

/-- How many of the times lie in the window of length `1000 * duration` that ends in `t`. -/
def inWindow (duration t : Nat) (times : List Nat) : Nat :=
  times.countP fun s => t < s + 1000 * duration && s ≤ t

/-- No window holds more than the limit. -/
def Bounded (config : RateLimitConfig) (times : List Nat) : Prop :=
  ∀ t, inWindow config.duration t times ≤ config.points

/-- What the script has left in the set when it counts. -/
def keptAt (config : RateLimitConfig) (redisKey : String) (r : Redis) : List (String × Nat) :=
  prune (r.now - config.duration * 1000) (sortedSet r redisKey)

/-- The request is not blocked and there is room, but the member it draws is in the set. -/
def collides (config : RateLimitConfig) (key : String) (random : String) (r : Redis) : Bool :=
  let kept := keptAt config (redisKeyOf config key) r
  !(r.get (.blocked (redisKeyOf config key))).any (r.now < ·) && kept.length < config.points &&
    (kept.map Prod.fst).contains (member r.now random)

/-- No request of the sequence collides. -/
def neverCollides (config : RateLimitConfig) (key : String) : List Arrival → Redis → Bool
  | [], _ => true
  | a :: arrivals, r =>
      !collides config key a.choice.random (r.wait a.waited) &&
        neverCollides config key arrivals (answerTo config key r a).2

/-! ## The set counts the window -/

/-- The set of the key holds the admitted requests that a window can still reach. -/
structure Logged (config : RateLimitConfig) (redisKey : String) (times : List Nat) (r : Redis) :
    Prop where
  past : ∀ s ∈ times, s ≤ r.now
  counts : ∀ c : Int, (r.now : Int) - config.duration * 1000 ≤ c →
    times.countP (fun s : Nat => c < (s : Int)) =
      (sortedSet r redisKey).countP fun e => c < (e.2 : Int)
  deadline : ∀ e, r.live (.log redisKey) = some e →
    ∀ s ∈ times, s + (config.duration + 1) * 1000 ≤ e.2

variable {config : RateLimitConfig} {key redisKey random : String} {times : List Nat} {r r' : Redis}

theorem sortedSet_of_live {r r' : Redis} (h : r'.live (.log redisKey) = r.live (.log redisKey)) :
    sortedSet r' redisKey = sortedSet r redisKey := by
  simp only [sortedSet, Keyspace.get, h]

theorem logged_empty (now : Nat) : Logged config redisKey [] (Keyspace.empty now) where
  past _ h := absurd h List.not_mem_nil
  counts _ _ := rfl
  deadline _ _ _ h := absurd h List.not_mem_nil

/-- A change of other keys. -/
theorem Logged.of_live (h : Logged config redisKey times r) (hnow : r'.now = r.now)
    (hlive : r'.live (.log redisKey) = r.live (.log redisKey)) : Logged config redisKey times r' where
  past := by
    rw [hnow]
    exact h.past
  counts := by
    rw [hnow, sortedSet_of_live hlive]
    exact h.counts
  deadline := by
    rw [hlive]
    exact h.deadline

/-- When the set vanishes, no window reaches any of its requests. -/
theorem Logged.wait (h : Logged config redisKey times r) (ms : Nat) :
    Logged config redisKey times (r.wait ms) := by
  have hnow : (r.wait ms).now = r.now + ms := rfl
  refine ⟨fun s hs => ?_, fun c hc => ?_, fun e he s hs => ?_⟩
  · have hle := h.past s hs
    omega
  · have hc' : (r.now : Int) - config.duration * 1000 ≤ c := by omega
    cases hafter : (r.wait ms).live (.log redisKey) with
    | some e =>
        have hbefore := Keyspace.live_wait hafter
        rw [sortedSet_of_live (hafter.trans hbefore.symm)]
        exact h.counts c hc'
    | none =>
        have hempty : sortedSet (r.wait ms) redisKey = [] := by
          simp [sortedSet, Keyspace.get, hafter]
        cases hbefore : r.live (.log redisKey) with
        | none =>
            have hempty' : sortedSet r redisKey = [] := by
              simp [sortedSet, Keyspace.get, hbefore]
            rw [h.counts c hc', hempty, hempty']
        | some e =>
            have hgone : e.2 ≤ r.now + ms := by
              by_contra hlt
              have hlt' : r.now + ms < e.2 := by omega
              have hstill := Keyspace.live_wait_of_lt hbefore hlt'
              rw [hafter] at hstill
              cases hstill
            rw [hempty, List.countP_nil, List.countP_eq_zero]
            intro s hs
            have hle := h.deadline e hbefore s hs
            simp only [decide_eq_true_eq]
            omega
  · exact h.deadline e (Keyspace.live_wait he) s hs

/-- Pruning removes nothing that a window can still reach. -/
theorem countP_prune {windowStart c : Int} (hc : windowStart ≤ c) (entries : List (String × Nat)) :
    ((prune windowStart entries).countP fun e => c < (e.2 : Int)) =
      entries.countP fun e => c < (e.2 : Int) := by
  unfold prune
  rw [List.countP_filter]
  refine List.countP_congr fun e _ => ?_
  simp only [Bool.and_eq_true, decide_eq_true_eq]
  omega

theorem zadd_of_not_mem {now : Nat} {m : String} {entries : List (String × Nat)}
    (h : m ∉ entries.map Prod.fst) : zadd now m entries = entries ++ [(m, now)] := by
  have hkeep : (entries.filter fun e => e.1 ≠ m) = entries := by
    refine List.filter_eq_self.mpr fun e he => ?_
    simp only [ne_eq, decide_not, Bool.not_eq_true', decide_eq_false_iff_not]
    intro heq
    exact h (List.mem_map.mpr ⟨e, he, heq⟩)
  rw [zadd, hkeep]

theorem countP_kept (h : Logged config redisKey times r) :
    (keptAt config redisKey r).length =
      times.countP fun s : Nat => (r.now : Int) - config.duration * 1000 < (s : Int) := by
  rw [h.counts _ (Int.le_refl _), ← countP_prune (Int.le_refl _), keptAt, List.countP_eq_length.mpr]
  intro e he
  exact (List.mem_filter.mp he).2

/-- A request that is turned away only prunes the set. -/
theorem Logged.refused (h : Logged config redisKey times r) :
    Logged config redisKey times (r.put (.log redisKey)
      ((r.live (.log redisKey)).map fun e => (keptAt config redisKey r, e.2))) := by
  cases hlive : r.live (.log redisKey) with
  | none =>
      refine h.of_live rfl ?_
      rw [Option.map_none, hlive]
      exact Keyspace.live_put_self none
  | some e =>
      have hlt := Keyspace.live_lt hlive
      have hput : (r.put (.log redisKey) (some (keptAt config redisKey r, e.2))).live
          (.log redisKey) = some (keptAt config redisKey r, e.2) := by
        rw [Keyspace.live_put_self]
        simpa using hlt
      have hset : sortedSet (r.put (.log redisKey) (some (keptAt config redisKey r, e.2))) redisKey =
          keptAt config redisKey r := by
        simp only [sortedSet, Keyspace.get, hput, Option.map_some, Option.getD_some]
      refine ⟨h.past, fun c hc => ?_, fun e' he' s hs => ?_⟩
      · have hc : (r.now : Int) - config.duration * 1000 ≤ c := hc
        rw [h.counts c hc, Option.map_some, hset, keptAt, countP_prune hc]
      · rw [Option.map_some, hput, Option.some.injEq] at he'
        subst he'
        exact h.deadline e hlive s hs

/-- A request that is admitted under a new member is counted. -/
theorem Logged.admitted (h : Logged config redisKey times r)
    (hnew : member r.now random ∉ (keptAt config redisKey r).map Prod.fst) :
    Logged config redisKey (times ++ [r.now]) (r.setex (.log redisKey) (config.duration + 1)
      (zadd r.now (member r.now random) (keptAt config redisKey r))) := by
  rw [zadd_of_not_mem hnew]
  have hlive : (r.setex (.log redisKey) (config.duration + 1)
      (keptAt config redisKey r ++ [(member r.now random, r.now)])).live (.log redisKey) =
      some (keptAt config redisKey r ++ [(member r.now random, r.now)],
        r.now + (config.duration + 1) * 1000) :=
    Keyspace.live_setex_self (Nat.succ_pos _)
  refine ⟨fun s hs => ?_, fun c hc => ?_, fun e he s hs => ?_⟩
  · rcases List.mem_append.mp hs with hs | hs
    · exact h.past s hs
    · exact Nat.le_of_eq (List.mem_singleton.mp hs)
  · have hset : sortedSet (r.setex (.log redisKey) (config.duration + 1)
        (keptAt config redisKey r ++ [(member r.now random, r.now)])) redisKey =
        keptAt config redisKey r ++ [(member r.now random, r.now)] := by
      simp only [sortedSet, Keyspace.get, hlive, Option.map_some, Option.getD_some]
    have hc : (r.now : Int) - config.duration * 1000 ≤ c := hc
    rw [hset, List.countP_append, List.countP_append, keptAt]
    exact congrArg (· + _) ((h.counts c hc).trans (countP_prune hc _).symm)
  · rw [hlive, Option.some.injEq] at he
    subst he
    have hle : s ≤ r.now := by
      rcases List.mem_append.mp hs with hs | hs
      · exact h.past s hs
      · exact Nat.le_of_eq (List.mem_singleton.mp hs)
    show s + (config.duration + 1) * 1000 ≤ r.now + (config.duration + 1) * 1000
    omega

/-- A window that ends before the new request does not see it, and one that ends later lies in the
window of the new request as far as it holds requests. -/
theorem Bounded.admitted (h : Bounded config times)
    (hroom : times.countP (fun s : Nat => (r.now : Int) - config.duration * 1000 < (s : Int)) <
      config.points) : Bounded config (times ++ [r.now]) := by
  intro t
  by_cases hlt : t < r.now
  · have hsame : inWindow config.duration t (times ++ [r.now]) = inWindow config.duration t times := by
      simp [inWindow, List.countP_append, hlt]
    rw [hsame]
    exact h t
  · have hle : inWindow config.duration t times ≤
        times.countP fun s : Nat => (r.now : Int) - config.duration * 1000 < (s : Int) := by
      refine List.countP_mono_left fun s _ hs => ?_
      simp only [Bool.and_eq_true, decide_eq_true_eq] at hs ⊢
      omega
    have hone : inWindow config.duration t [r.now] ≤ 1 := List.countP_le_length
    rw [inWindow, List.countP_append]
    change inWindow config.duration t times + inWindow config.duration t [r.now] ≤ config.points
    omega

/-! ## One request -/

variable {choice : Choice} {now : Nat}

theorem await_runs {op : Op} {Q : op.Ret → Unit → Redis → Prop} {E : Unit → Redis → Prop}
    (hnone : ∀ op, choice.fails op = none)
    (h : Q (op.perform choice.random r).1 () (op.perform choice.random r).2) :
    (Call.await op : Call op.Ret).Ensures (Program.runs (performWith choice)) () r Q E := by
  have hperform : performWith choice op r =
      (.ok (op.perform choice.random r).1, (op.perform choice.random r).2) := by
    simp only [performWith, hnone op]
  rw [Call.Ensures, Call.wp_await, Program.runs, hperform]
  exact h

/-- What a request leaves: the log goes on to count the admitted requests, within the bound. -/
structure Counted (config : RateLimitConfig) (redisKey : String) (times : List Nat) (now : Nat)
    (allowed : Bool) (r' : Redis) : Prop where
  now_eq : r'.now = now
  logged : Logged config redisKey (times ++ if allowed then [now] else []) r'
  bounded : Bounded config (times ++ if allowed then [now] else [])

theorem counted_refused (hlogged : Logged config redisKey times r') (hbounded : Bounded config times)
    (hnow : r'.now = now) : Counted config redisKey times now false r' where
  now_eq := hnow
  logged := by simpa using hlogged
  bounded := by simpa using hbounded

theorem checkWindow_counts (hnone : ∀ op, choice.fails op = none)
    (hlogged : Logged config redisKey times r) (hbounded : Bounded config times)
    (hnew : (keptAt config redisKey r).length < config.points →
      member r.now choice.random ∉ (keptAt config redisKey r).map Prod.fst) :
    (checkWindow config redisKey r.now).Ensures (Program.runs (performWith choice)) () r
      (fun result _ r' => Counted config redisKey times r.now result.allowed r')
      fun _ _ => False := by
  refine .bind (await_runs hnone ?_)
  by_cases hroom : (keptAt config redisKey r).length < config.points
  · have hscript : luaScript redisKey r.now (r.now - config.duration * 1000) config.points
        (config.duration + 1) choice.random r = (⟨true, (keptAt config redisKey r).length + 1⟩,
          r.setex (.log redisKey) (config.duration + 1)
            (zadd r.now (member r.now choice.random) (keptAt config redisKey r))) := if_pos hroom
    simp only [Op.perform, hscript]
    refine .pure ⟨rfl, hlogged.admitted (hnew hroom), hbounded.admitted ?_⟩
    rw [← countP_kept hlogged]
    exact hroom
  · have hscript : luaScript redisKey r.now (r.now - config.duration * 1000) config.points
        (config.duration + 1) choice.random r = (⟨false, (keptAt config redisKey r).length⟩,
          r.put (.log redisKey)
            ((r.live (.log redisKey)).map fun e => (keptAt config redisKey r, e.2))) := if_neg hroom
    simp only [Op.perform, hscript]
    refine .bind (await_runs hnone (.pure ?_))
    refine counted_refused (hlogged.refused.of_live rfl ?_) hbounded rfl
    exact Keyspace.live_setex_of_ne nofun

theorem checkBlock_counts {blockedUntil : Option Nat} (hnone : ∀ op, choice.fails op = none)
    (hlogged : Logged config redisKey times r) (hbounded : Bounded config times)
    (hnew : blockedUntil.any (r.now < ·) = false →
      (keptAt config redisKey r).length < config.points →
      member r.now choice.random ∉ (keptAt config redisKey r).map Prod.fst) :
    (checkBlock config redisKey r.now blockedUntil).Ensures (Program.runs (performWith choice)) () r
      (fun result _ r' => Counted config redisKey times r.now result.allowed r')
      fun _ _ => False := by
  cases blockedUntil with
  | none => exact checkWindow_counts hnone hlogged hbounded (hnew rfl)
  | some blockedTimestamp =>
      by_cases hblocks : r.now < blockedTimestamp
      · rw [checkBlock, if_pos hblocks]
        exact .pure (counted_refused hlogged hbounded rfl)
      · rw [checkBlock, if_neg hblocks]
        refine .bind (await_runs hnone ?_)
        have hlive : (r.del (.blocked redisKey)).live (.log redisKey) = r.live (.log redisKey) :=
          Keyspace.live_del_of_ne nofun
        have hkept : keptAt config redisKey (r.del (.blocked redisKey)) = keptAt config redisKey r := by
          rw [keptAt, sortedSet_of_live hlive]
          rfl
        have hfresh := hnew (by simpa using hblocks)
        rw [← hkept] at hfresh
        exact checkWindow_counts (r := r.del (.blocked redisKey)) hnone (hlogged.of_live rfl hlive) hbounded
          hfresh

theorem consume_counts (hnone : ∀ op, choice.fails op = none)
    (hlogged : Logged config (redisKeyOf config key) times r) (hbounded : Bounded config times)
    (hnew : collides config key choice.random r = false) :
    (consume config key).Ensures (Program.runs (performWith choice)) () r
      (fun result _ r' => Counted config (redisKeyOf config key) times r.now result.allowed r')
      fun _ _ => False := by
  refine .bind (await_runs hnone (.tryCatch ?_ fun _ _ _ (h : False) => h.elim))
  refine .bind (await_runs hnone (checkBlock_counts hnone hlogged hbounded ?_))
  intro hopen hroom hmem
  have hopen : (r.get (.blocked (redisKeyOf config key))).any (r.now < ·) = false := hopen
  have hcollides : collides config key choice.random r = true := by
    simp only [collides, hopen, Bool.not_false, Bool.true_and, hroom, decide_true]
    exact List.contains_iff_mem.mpr hmem
  rw [hnew] at hcollides
  cases hcollides

/-! ## Runs -/

theorem answerTo_counts {a : Arrival} (hnone : ∀ op, a.choice.fails op = none)
    (hlogged : Logged config (redisKeyOf config key) times r) (hbounded : Bounded config times)
    (hnew : collides config key a.choice.random (r.wait a.waited) = false) :
    ∃ result, (answerTo config key r a).1 = ⟨r.now + a.waited, .ok result⟩ ∧
      Counted config (redisKeyOf config key) times (r.now + a.waited) result.allowed
        (answerTo config key r a).2 := by
  have hresult := Program.eval_of_wp
    (consume_counts hnone (hlogged.wait a.waited) hbounded hnew)
  unfold answerTo
  cases heval : (consume config key ()).eval (performWith a.choice) (r.wait a.waited) with
  | mk out r' =>
      rw [heval] at hresult
      rcases out with ⟨e | result, l⟩
      · exact hresult.elim
      · exact ⟨result, rfl, hresult⟩

/-- The calls before have left the log and the bound; the next calls keep both. -/
theorem consumeAll_bounded {arrivals : List Arrival}
    (hnone : ∀ a ∈ arrivals, ∀ op, a.choice.fails op = none)
    (hlogged : Logged config (redisKeyOf config key) times r) (hbounded : Bounded config times)
    (hnew : neverCollides config key arrivals r = true) :
    Bounded config (times ++ admittedTimes (consumeAll config key arrivals r).1) := by
  induction arrivals generalizing times r with
  | nil => simpa [consumeAll, admittedTimes] using hbounded
  | cons a arrivals ih =>
      simp only [neverCollides, Bool.and_eq_true, Bool.not_eq_true'] at hnew
      obtain ⟨result, hanswer, hcounted⟩ :=
        answerTo_counts (hnone a List.mem_cons_self) hlogged hbounded hnew.1
      have hrest := ih (fun b hb => hnone b (List.mem_cons_of_mem a hb)) hcounted.logged
        hcounted.bounded hnew.2
      have hadmitted : admittedTimes [(answerTo config key r a).1] =
          if result.allowed then [r.now + a.waited] else [] := by
        rw [hanswer]
        cases hallowed : result.allowed <;> simp [admittedTimes, hallowed]
      rw [← hadmitted, List.append_assoc] at hrest
      have hsplit : admittedTimes (consumeAll config key (a :: arrivals) r).1 =
          admittedTimes [(answerTo config key r a).1] ++
            admittedTimes (consumeAll config key arrivals (answerTo config key r a).2).1 := by
        rw [admittedTimes, admittedTimes, admittedTimes, ← List.filterMap_append]
        rfl
      rw [hsplit]
      exact hrest

/-- Requests that come one after the other without an error of Redis keep the bound in every
window, as long as none of them draws a member that the set holds already. -/
theorem window_bounded {now : Nat} {arrivals : List Arrival}
    (hnone : ∀ a ∈ arrivals, ∀ op, a.choice.fails op = none)
    (hnew : neverCollides config key arrivals (Keyspace.empty now) = true) :
    Bounded config (admittedTimes (consumeAll config key arrivals (Keyspace.empty now)).1) := by
  have hbounded : Bounded config [] := fun t => Nat.zero_le _
  simpa using consumeAll_bounded hnone (logged_empty now) hbounded hnew

/-- Requests in which Redis does not fail: how long after the one before each comes, and what it
draws. -/
def drawing (draws : List (Nat × String)) : List Arrival :=
  draws.map fun d => ⟨d.1, fun _ => none, d.2⟩

def twoPerSecond : RateLimitConfig := ⟨2, 1, 0, "ratelimit"⟩

theorem window_bounded_distinct :
    Bounded twoPerSecond (admittedTimes (consumeAll twoPerSecond "user"
      (drawing [(0, "0.1"), (0, "0.2"), (0, "0.3"), (1500, "0.1")]) (Keyspace.empty 5)).1) := by
  refine window_bounded (fun a ha op => ?_) (by decide +kernel)
  obtain ⟨d, -, rfl⟩ := List.mem_map.mp ha
  rfl

/-- Three requests in one millisecond that draw the same number. -/
theorem window_exceeded :
    ¬∀ (config : RateLimitConfig) (key : String) (now : Nat) (arrivals : List Arrival),
      1 ≤ config.points → 1 ≤ config.duration →
      (∀ a ∈ arrivals, ∀ op, a.choice.fails op = none) →
        Bounded config (admittedTimes (consumeAll config key arrivals (Keyspace.empty now)).1) := by
  intro h
  have hnone : ∀ a ∈ drawing [(0, "0.1"), (0, "0.1"), (0, "0.1")], ∀ op, a.choice.fails op = none := by
    intro a ha op
    obtain ⟨d, -, rfl⟩ := List.mem_map.mp ha
    rfl
  have hbounded := h twoPerSecond "user" 5 _ (by decide) (by decide) hnone 5
  have hexceeded : ¬inWindow twoPerSecond.duration 5 (admittedTimes (consumeAll twoPerSecond "user"
      (drawing [(0, "0.1"), (0, "0.1"), (0, "0.1")]) (Keyspace.empty 5)).1) ≤
        twoPerSecond.points := by decide +kernel
  exact hexceeded hbounded

end FlightBookings.RateLimiter
