import FlightBookings.Await.Pool
import FlightBookings.RateLimiter.Service

/-! # Blocked keys

The calls of the limiter run at once: every command of Redis is a step of its own, and time passes in
between. The clock that a call reads is its own and need not agree with the one by which Redis lets a
key vanish. No command fails.
-/

namespace FlightBookings.RateLimiter

open Await

/-! ## The calls -/

/-- The commands of `consume` and `block`, and the deletions of `reset` and `unblock`. -/
inductive Command where
  | basic (op : Op)
  | delLog (redisKey : String)
  | unblock (redisKey : String)
deriving DecidableEq

abbrev Command.Ret : Command → Type
  | .basic op => op.Ret
  | .delLog _ => Unit
  | .unblock _ => Unit

abbrev Task (α : Type) := Await.Call Command Command.Ret Exception Unit α

def consumeTask (config : RateLimitConfig) (key : String) : Task RateLimitResult :=
  (consume config key).lift Command.basic fun _ r => r

/-- How long a key is blocked on demand, in seconds. -/
def blockSeconds (config : RateLimitConfig) (durationSeconds : Option Nat) : Nat :=
  if durationSeconds.getD 0 ≠ 0 then durationSeconds.getD 0
  else if config.blockDuration ≠ 0 then config.blockDuration
  else config.duration

def block (config : RateLimitConfig) (key : String) (durationSeconds : Option Nat) : Task Unit := do
  let duration := blockSeconds config durationSeconds
  let now : Nat ← Call.await (Command.basic .dateNow)
  tryCatch
    (Call.await (Command.basic (.setex (redisKeyOf config key) duration (now + duration * 1000))))
    fun _ => pure ()

def unblock (config : RateLimitConfig) (key : String) : Task Unit :=
  tryCatch (Call.await (Command.unblock (redisKeyOf config key))) fun _ => pure ()

def reset (config : RateLimitConfig) (key : String) : Task Unit :=
  tryCatch
    (do
      Call.await (Command.delLog (redisKeyOf config key))
      Call.await (Command.unblock (redisKeyOf config key)))
    fun _ => pure ()

inductive Request where
  | consume (config : RateLimitConfig) (key : String)
  | block (config : RateLimitConfig) (key : String) (durationSeconds : Option Nat)
  | unblock (config : RateLimitConfig) (key : String)
  | reset (config : RateLimitConfig) (key : String)

def Request.call : Request → Task (Option RateLimitResult)
  | .consume config key => do
      let result ← consumeTask config key
      pure (some result)
  | .block config key durationSeconds => do
      RateLimiter.block config key durationSeconds
      pure none
  | .unblock config key => do
      RateLimiter.unblock config key
      pure none
  | .reset config key => do
      RateLimiter.reset config key
      pure none

/-- What the environment decides for one command: how long it takes to come, what the clock of the
caller says, and the number that the script draws. -/
structure Timing where
  waited : Nat
  clock : Nat
  random : String

def Command.perform (timing : Timing) : (cmd : Command) → Redis → cmd.Ret × Redis
  | .basic .dateNow, r => (timing.clock, r)
  | .basic op, r => op.perform timing.random r
  | .delLog redisKey, r => ((), r.del (.log redisKey))
  | .unblock redisKey, r => ((), r.del (.blocked redisKey))

def limiter : System Request Command (fun cmd => Except Exception cmd.Ret) Timing
    (Except Exception (Option RateLimitResult) × Unit) Redis where
  perform _ timing cmd r :=
    let result := cmd.perform timing (r.wait timing.waited)
    some (.ok result.1, result.2)
  program request := request.call ()

abbrev Event := Await.Event Request Command Timing Redis

abbrev LimiterPool :=
  Pool Command (fun cmd => Except Exception cmd.Ret)
    (Except Exception (Option RateLimitResult) × Unit) Redis

/-! ## What a call has seen -/

/-- The clock of a call, and its reply to the question for a block. -/
structure Seen where
  clock : Option Nat := none
  read : Option (Option Nat) := none

def observe : (cmd : Command) → Except Exception cmd.Ret → Seen → Seen
  | .basic .dateNow, .ok now, k => { k with clock := some now }
  | .basic (.get _), .ok blockedUntil, k => { k with read := some blockedUntil }
  | _, _, k => k

def seenBy (past : List Event) (i : Nat) : Option Seen :=
  limiter.trace (fun _ => {}) observe i past

def clockOf (past : List Event) (i : Nat) : Option Nat := (seenBy past i).bind Seen.clock

/-- What an event makes of the blocks of a key that were written since it was last unblocked. -/
def record (redisKey : String) (blocks : List Nat) : Event → List Nat
  | .performed _ _ _ (.basic (.setex redisKey' _ blockedUntil)) _ =>
      if redisKey' = redisKey then blockedUntil :: blocks else blocks
  | .performed _ _ _ (.unblock redisKey') _ => if redisKey' = redisKey then [] else blocks
  | _ => blocks

def blocksOf (redisKey : String) (past : List Event) : List Nat :=
  past.foldl (record redisKey) []

/-- Whether a call was let through, once it has answered. -/
def answerOf (P : LimiterPool) (i : Nat) : Option Bool :=
  match P.calls[i]? with
  | some (.done (.ok (some result), _)) => some result.allowed
  | _ => none

/-- The call that asks for a block here is not let through when its clock is in front of the end of
one that was written. -/
def Event.heeds (P : LimiterPool) (past : List Event) : Event → Prop
  | .performed _ i _ (.basic (.get redisKey)) _ =>
      ∀ T ∈ blocksOf redisKey past, ∀ now ∈ (clockOf past i).toList, now < T →
        answerOf P i ≠ some true
  | _ => True

instance (P : LimiterPool) (past : List Event) (e : Event) : Decidable (e.heeds P past) :=
  match e with
  | .started _ _ _ => inferInstanceAs (Decidable True)
  | .performed _ i _ (.basic (.get redisKey)) _ =>
      inferInstanceAs (Decidable (∀ T ∈ blocksOf redisKey past, ∀ now ∈ (clockOf past i).toList,
        now < T → answerOf P i ≠ some true))
  | .performed _ _ _ (.basic .dateNow) _ => inferInstanceAs (Decidable True)
  | .performed _ _ _ (.basic (.del _)) _ => inferInstanceAs (Decidable True)
  | .performed _ _ _ (.basic (.eval _ _ _ _ _)) _ => inferInstanceAs (Decidable True)
  | .performed _ _ _ (.basic (.setex _ _ _)) _ => inferInstanceAs (Decidable True)
  | .performed _ _ _ (.delLog _) _ => inferInstanceAs (Decidable True)
  | .performed _ _ _ (.unblock _) _ => inferInstanceAs (Decidable True)

/-- Every block lasts. -/
def Lasting (es : List Event) (P : LimiterPool) : Prop := System.Throughout (Event.heeds P) [] es

instance (es : List Event) (P : LimiterPool) : Decidable (Lasting es P) :=
  inferInstanceAs (Decidable (System.Throughout (Event.heeds P) [] es))

/-- A step by which a block can be missed before its end: it is deleted or replaced by a shorter one
while it runs, it is written with a lifetime in Redis that is too short, or it is over when a call
asks for it whose clock says that it is not. -/
def Event.lets (past : List Event) : Event → Prop
  | .performed r _ timing (.basic (.del redisKey)) _ =>
      ∃ T ∈ ((r.wait timing.waited).get (.blocked redisKey)).toList, r.now + timing.waited < T
  | .performed r _ timing (.basic (.setex redisKey seconds blockedUntil)) _ =>
      r.now + timing.waited + seconds * 1000 < blockedUntil ∨
        ∃ T ∈ ((r.wait timing.waited).get (.blocked redisKey)).toList,
          r.now + timing.waited < T ∧ blockedUntil < T
  | .performed r i timing (.basic (.get redisKey)) _ =>
      ∃ now ∈ (clockOf past i).toList,
        (∀ T ∈ ((r.wait timing.waited).get (.blocked redisKey)).toList, T ≤ now) ∧
          ∃ T ∈ blocksOf redisKey past, now < T ∧ T ≤ r.now + timing.waited
  | _ => False

instance (past : List Event) (e : Event) : Decidable (e.lets past) :=
  match e with
  | .started _ _ _ => inferInstanceAs (Decidable False)
  | .performed r _ timing (.basic (.del redisKey)) _ =>
      inferInstanceAs (Decidable (∃ T ∈ ((r.wait timing.waited).get (.blocked redisKey)).toList,
        r.now + timing.waited < T))
  | .performed r _ timing (.basic (.setex redisKey seconds blockedUntil)) _ =>
      inferInstanceAs (Decidable (r.now + timing.waited + seconds * 1000 < blockedUntil ∨
        ∃ T ∈ ((r.wait timing.waited).get (.blocked redisKey)).toList,
          r.now + timing.waited < T ∧ blockedUntil < T))
  | .performed r i timing (.basic (.get redisKey)) _ =>
      inferInstanceAs (Decidable (∃ now ∈ (clockOf past i).toList,
        (∀ T ∈ ((r.wait timing.waited).get (.blocked redisKey)).toList, T ≤ now) ∧
          ∃ T ∈ blocksOf redisKey past, now < T ∧ T ≤ r.now + timing.waited))
  | .performed _ _ _ (.basic .dateNow) _ => inferInstanceAs (Decidable False)
  | .performed _ _ _ (.basic (.eval _ _ _ _ _)) _ => inferInstanceAs (Decidable False)
  | .performed _ _ _ (.delLog _) _ => inferInstanceAs (Decidable False)
  | .performed _ _ _ (.unblock _) _ => inferInstanceAs (Decidable False)

/-! ## The calls observe before they answer -/

/-- A call reads its clock first, then asks for the block, and both only once. -/
def Asks : Command → Seen → Prop
  | .basic .dateNow, k => k = {}
  | .basic (.get _), k => k.clock.isSome = true ∧ k.read = none
  | _, _ => True

def Replies (cmd : Command) (r : Except Exception cmd.Ret) : Prop := ∃ a, r = .ok a

/-- A call is let through only if it has read no block that its clock is in front of. -/
def Heeds (r : Except Exception (Option RateLimitResult) × Unit) (k : Seen) : Prop :=
  ∀ result, r.1 = .ok (some result) → result.allowed = true →
    ∀ T, k.read = some (some T) → ∃ now, k.clock = some now ∧ T ≤ now

abbrev Observes {α : Type} (c : Call α) (k : Seen) (Q : α → Unit → Seen → Prop) : Prop :=
  c.Ensures ((tracked Asks Replies observe).comap Command.basic fun _ r => r) () k Q
    fun _ _ => False

section Calls

variable {α : Type} {k : Seen} {op : Op} {config : RateLimitConfig} {redisKey : String} {now : Nat}

theorem await_observes {Q : op.Ret → Unit → Seen → Prop} (hasks : Asks (.basic op) k)
    (h : ∀ a, Q a () (observe (.basic op) (.ok a) k)) : Observes (Call.await op) k Q := by
  refine ⟨hasks, fun r hr => ?_⟩
  obtain ⟨a, rfl⟩ := hr
  exact h a

/-- Behind the check of the block a call sees nothing more. -/
theorem checkWindow_observes :
    Observes (checkWindow config redisKey now) k fun _ _ k' => k' = k := by
  refine .bind (await_observes trivial fun reply => ?_)
  by_cases hallowed : reply.allowed = true
  · simp only [hallowed, if_true]
    exact .pure rfl
  · simp only [hallowed, if_false]
    exact .bind (await_observes trivial fun _ => .pure rfl)

theorem checkBlock_observes (blockedUntil : Option Nat) :
    Observes (checkBlock config redisKey now blockedUntil) k fun result _ k' =>
      k' = k ∧ (result.allowed = true → ∀ T, blockedUntil = some T → T ≤ now) := by
  cases blockedUntil with
  | none => exact checkWindow_observes.mono (fun _ _ _ hk => ⟨hk, by simp⟩) fun _ _ h => h
  | some T =>
      by_cases hlt : now < T
      · simp only [checkBlock, if_pos hlt]
        exact .pure ⟨rfl, by simp⟩
      · simp only [checkBlock, if_neg hlt]
        refine .bind (await_observes trivial fun _ => checkWindow_observes.mono
          (fun _ _ _ hk => ⟨hk, fun _ T' heq => ?_⟩) fun _ _ h => h)
        cases heq
        exact Nat.le_of_not_lt hlt

theorem consume_observes (key : String) :
    Observes (consume config key) {} fun result _ k => Heeds (.ok (some result), ()) k := by
  refine .bind (await_observes rfl fun now => ?_)
  refine .tryCatch (.bind (await_observes ⟨rfl, rfl⟩ fun blockedUntil => ?_))
    fun _ _ _ h => h.elim
  refine (checkBlock_observes blockedUntil).mono (fun result _ k hk => ?_) fun _ _ h => h
  obtain ⟨rfl, hheeds⟩ := hk
  intro result' hresult hallowed T hread
  cases hresult
  exact ⟨now, rfl, hheeds hallowed T (Option.some.inj hread)⟩

theorem task_observes {cmd : Command} {Q : cmd.Ret → Unit → Seen → Prop} (hasks : Asks cmd k)
    (h : ∀ a, Q a () (observe cmd (.ok a) k)) :
    (Call.await cmd : Task cmd.Ret).Ensures (tracked Asks Replies observe) () k Q
      fun _ _ => False := by
  refine ⟨hasks, fun r hr => ?_⟩
  obtain ⟨a, rfl⟩ := hr
  exact h a

/-- The answers of the other calls let nobody through. -/
theorem heeds_none {r : Except Exception (Option RateLimitResult)}
    (h : ∀ result, r ≠ .ok (some result)) : Heeds (r, ()) k :=
  fun result hresult => absurd hresult (h result)

theorem call_observes (request : Request) :
    request.call.Ensures (tracked Asks Replies observe) () {}
      (fun result _ k => Heeds (.ok result, ()) k) fun _ _ => False := by
  have hnone (l : Unit) (k : Seen) : Heeds (.ok none, l) k := heeds_none fun result h => by cases h
  cases request with
  | consume config key =>
      exact .bind ((Call.Ensures.lift (consume_observes key)).mono (fun _ _ _ h => .pure h)
        fun _ _ h => h)
  | block config key durationSeconds =>
      refine .bind (.bind (task_observes rfl fun now => ?_))
      exact .tryCatch (task_observes trivial fun _ => .pure (hnone _ _)) fun _ _ _ h => h.elim
  | unblock config key =>
      exact .bind (.tryCatch (task_observes trivial fun _ => .pure (hnone _ _)) fun _ _ _ h => h.elim)
  | reset config key =>
      refine .bind (.tryCatch (.bind (task_observes trivial fun _ => ?_)) fun _ _ _ h => h.elim)
      exact task_observes trivial fun _ => .pure (hnone _ _)

theorem request_observes (request : Request) :
    (limiter.program request).wp (tracked Asks Replies observe) Heeds {} := by
  refine Program.wp_mono ?_ (call_observes request)
  intro r k h
  rcases r with ⟨e | result, l⟩
  · exact h.elim
  · exact h

end Calls

/-! ## The invariant -/

/-- A block is over, or Redis has it or a longer one in its place. -/
def Kept (redisKey : String) (T : Nat) (r : Redis) : Prop :=
  T ≤ r.now ∨ ∃ T' deadline, r.live (.blocked redisKey) = some (T', deadline) ∧ T ≤ T' ∧ T ≤ deadline

/-- The blocks that were written are kept, and every call that has asked for one was told of it. -/
structure Guarded (past : List Event) (r : Redis) : Prop where
  blocks : ∀ redisKey, ∀ T ∈ blocksOf redisKey past, Kept redisKey T r
  reads : ∀ pre r' i timing redisKey r'' post,
    past = pre ++ .performed r' i timing (.basic (.get redisKey)) r'' :: post →
    ∃ k now reply, seenBy past i = some k ∧ clockOf pre i = some now ∧ k.clock = some now ∧
      k.read = some reply ∧ ∀ T ∈ blocksOf redisKey pre, now < T → ∃ T', reply = some T' ∧ now < T'

theorem guarded_init (r : Redis) : Guarded [] r where
  blocks _ _ hT := absurd hT List.not_mem_nil
  reads pre r' i timing redisKey r'' post hsplit := by
    have hmem : (Await.Event.performed r' i timing (Command.basic (.get redisKey)) r'' : Event) ∈ [] := by
      rw [hsplit]
      exact List.mem_append_right _ List.mem_cons_self
    cases hmem

theorem blocksOf_snoc {redisKey : String} {past : List Event} {e : Event} :
    blocksOf redisKey (past ++ [e]) = record redisKey (blocksOf redisKey past) e := by
  simp [blocksOf]

/-- An element of a list with one more at its end is that one, or stands in front of it. -/
theorem split_snoc {α : Type} {past pre post : List α} {x y : α} (h : past ++ [y] = pre ++ x :: post) :
    (past = pre ∧ y = x) ∨ ∃ post', past = pre ++ x :: post' := by
  rcases List.eq_nil_or_concat post with rfl | ⟨post', z, rfl⟩
  · have heq := List.append_inj' h rfl
    exact .inl ⟨heq.1, (List.cons.inj heq.2).1⟩
  · have hassoc : past ++ [y] = (pre ++ x :: post') ++ [z] := by simpa using h
    exact .inr ⟨post', (List.append_inj' hassoc rfl).1⟩

section Step

variable {past : List Event} {r r' : Redis} {i : Nat} {timing : Timing} {cmd : Command} {k : Seen}
variable {a : Except Exception cmd.Ret}

/-- What a command leaves of the block of a key, after the wait in front of it. -/
theorem perform_blocked {redisKey : String}
    (hset : ∀ seconds T, cmd ≠ .basic (.setex redisKey seconds T))
    (hdel : cmd ≠ .basic (.del redisKey)) (hunblock : cmd ≠ .unblock redisKey) :
    (cmd.perform timing r).2.live (.blocked redisKey) = r.live (.blocked redisKey) := by
  cases cmd with
  | basic op =>
      cases op with
      | dateNow => rfl
      | get => rfl
      | del redisKey' =>
          refine Keyspace.live_del_of_ne fun heq => hdel ?_
          cases heq
          rfl
      | eval redisKey' now windowStart limit ttl =>
          show (luaScript redisKey' now windowStart limit ttl timing.random r).2.live _ = _
          unfold luaScript
          by_cases hroom : (prune windowStart (sortedSet r redisKey')).length < limit
          · simp only [if_pos hroom]
            exact Keyspace.live_setex_of_ne fun heq => by cases heq
          · simp only [if_neg hroom]
            exact Keyspace.live_put_of_ne _ fun heq => by cases heq
      | setex redisKey' seconds T =>
          refine Keyspace.live_setex_of_ne fun heq => hset seconds T ?_
          cases heq
          rfl
  | delLog redisKey' => exact Keyspace.live_del_of_ne fun heq => by cases heq
  | unblock redisKey' =>
      refine Keyspace.live_del_of_ne fun heq => hunblock ?_
      cases heq
      rfl

theorem perform_now : (cmd.perform timing r).2.now = r.now := by
  cases cmd with
  | basic op =>
      cases op with
      | dateNow => rfl
      | get => rfl
      | del => rfl
      | eval redisKey now windowStart limit ttl =>
          show (luaScript redisKey now windowStart limit ttl timing.random r).2.now = _
          unfold luaScript
          by_cases hroom : (prune windowStart (sortedSet r redisKey)).length < limit
          · simp only [if_pos hroom, Keyspace.setex_now]
          · simp only [if_neg hroom, Keyspace.put_now]
      | setex => rfl
  | delLog => rfl
  | unblock => rfl

theorem Kept.wait {redisKey : String} {T : Nat} (h : Kept redisKey T r) (ms : Nat) :
    Kept redisKey T (r.wait ms) := by
  rcases h with hover | ⟨T', deadline, hlive, hle, hdeadline⟩
  · exact .inl (Nat.le_add_right_of_le hover)
  · by_cases hlt : r.now + ms < deadline
    · exact .inr ⟨T', deadline, Keyspace.live_wait_of_lt hlive hlt, hle, hdeadline⟩
    · exact .inl (Nat.le_trans hdeadline (Nat.le_of_not_lt hlt))

/-- A deletion that finds no running block. -/
theorem Kept.of_del {redisKey : String} {T : Nat} (h : Kept redisKey T r)
    (hover : ∀ T' ∈ (r.get (.blocked redisKey)).toList, T' ≤ r.now) :
    Kept redisKey T (r.del (.blocked redisKey)) := by
  refine .inl ?_
  rcases h with hpast | ⟨T', deadline, hlive, hle, -⟩
  · exact hpast
  · exact Nat.le_trans hle (hover T' (by simp [Keyspace.get, hlive]))

/-- A new block that lasts as long in Redis. -/
theorem kept_setex {redisKey : String} {T seconds blockedUntil : Nat}
    (hlong : blockedUntil ≤ r.now + seconds * 1000) (hle : T ≤ blockedUntil) :
    Kept redisKey T (r.setex (.blocked redisKey) seconds blockedUntil) := by
  rcases Nat.eq_zero_or_pos seconds with rfl | hpos
  · exact .inl (Nat.le_trans hle (by simpa using hlong))
  · exact .inr ⟨blockedUntil, _, Keyspace.live_setex_self hpos, hle, Nat.le_trans hle hlong⟩

/-- A new block that is not shorter than the running one. -/
theorem Kept.of_setex {redisKey : String} {T seconds blockedUntil : Nat} (h : Kept redisKey T r)
    (hlong : blockedUntil ≤ r.now + seconds * 1000)
    (hlater : ∀ T' ∈ (r.get (.blocked redisKey)).toList, r.now < T' → T' ≤ blockedUntil) :
    Kept redisKey T (r.setex (.blocked redisKey) seconds blockedUntil) := by
  rcases h with hpast | ⟨T', deadline, hlive, hle, -⟩
  · exact .inl hpast
  · by_cases hrunning : r.now < T'
    · have hafter := hlater T' (by simp [Keyspace.get, hlive]) hrunning
      exact kept_setex hlong (Nat.le_trans hle hafter)
    · exact .inl (Nat.le_trans hle (Nat.le_of_not_lt hrunning))

theorem Kept.of_live {redisKey : String} {T : Nat} (h : Kept redisKey T r) (hnow : r'.now = r.now)
    (hlive : r'.live (.blocked redisKey) = r.live (.blocked redisKey)) : Kept redisKey T r' := by
  unfold Kept
  rw [hnow, hlive]
  exact h

theorem record_other {redisKey : String} {blocks : List Nat}
    (hset : ∀ seconds T, cmd ≠ .basic (.setex redisKey seconds T))
    (hunblock : cmd ≠ .unblock redisKey) :
    record redisKey blocks (.performed r i timing cmd r') = blocks := by
  cases cmd with
  | basic op =>
      cases op with
      | setex redisKey' seconds T =>
          exact if_neg fun heq => hset seconds T (by rw [heq])
      | dateNow => rfl
      | get => rfl
      | del => rfl
      | eval => rfl
  | delLog => rfl
  | unblock redisKey' => exact if_neg fun heq => hunblock (by rw [heq])

theorem Guarded.blocks_performed (h : Guarded past r)
    (hsafe : ¬Event.lets past (.performed r i timing cmd r')) (redisKey : String) (T : Nat)
    (hT : T ∈ blocksOf redisKey (past ++ [.performed r i timing cmd r'])) :
    Kept redisKey T (cmd.perform timing (r.wait timing.waited)).2 := by
  rw [blocksOf_snoc] at hT
  have hwait (T : Nat) (hold : T ∈ blocksOf redisKey past) : Kept redisKey T (r.wait timing.waited) :=
    (h.blocks redisKey T hold).wait timing.waited
  by_cases hset : ∃ seconds blockedUntil, cmd = .basic (.setex redisKey seconds blockedUntil)
  · obtain ⟨seconds, blockedUntil, rfl⟩ := hset
    have hlong : blockedUntil ≤ (r.wait timing.waited).now + seconds * 1000 :=
      Nat.le_of_not_lt fun hlt => hsafe (.inl hlt)
    have hlater : ∀ T' ∈ ((r.wait timing.waited).get (.blocked redisKey)).toList,
        (r.wait timing.waited).now < T' → T' ≤ blockedUntil := fun T' hmem hrunning =>
      Nat.le_of_not_lt fun hlt => hsafe (.inr ⟨T', hmem, hrunning, hlt⟩)
    simp only [record, if_true, List.mem_cons] at hT
    rcases hT with rfl | hold
    · exact kept_setex hlong (Nat.le_refl T)
    · exact (hwait T hold).of_setex hlong hlater
  by_cases hdel : cmd = .basic (.del redisKey)
  · subst hdel
    refine (hwait T hT).of_del fun T' hmem => Nat.le_of_not_lt fun hlt => hsafe ⟨T', hmem, hlt⟩
  by_cases hunblock : cmd = .unblock redisKey
  · subst hunblock
    simp [record] at hT
  · rw [record_other (fun seconds T heq => hset ⟨seconds, T, heq⟩) hunblock] at hT
    exact (hwait T hT).of_live perform_now
      (perform_blocked (fun seconds T heq => hset ⟨seconds, T, heq⟩) hdel hunblock)

/-- Who has asked for the block sees nothing more. -/
theorem observe_of_read {reply : Option Nat} (hasks : Asks cmd k) (hread : k.read = some reply) :
    observe cmd a k = k := by
  cases cmd with
  | basic op =>
      cases op with
      | dateNow =>
          rw [show k = {} from hasks] at hread
          cases hread
      | get =>
          rw [hasks.2] at hread
          cases hread
      | del => rfl
      | eval => rfl
      | setex => rfl
  | delLog => rfl
  | unblock => rfl

theorem Guarded.reads_performed (h : Guarded past r) (hk : seenBy past i = some k)
    (hasks : Asks cmd k) (hperform : limiter.perform i timing cmd r = some (a, r'))
    (hsafe : ¬Event.lets past (.performed r i timing cmd r')) (pre : List Event) (s : Redis) (j : Nat)
    (timing' : Timing) (redisKey : String) (s' : Redis) (post : List Event)
    (hsplit : past ++ [.performed r i timing cmd r'] =
      pre ++ .performed s j timing' (.basic (.get redisKey)) s' :: post) :
    ∃ k' now reply, seenBy (past ++ [.performed r i timing cmd r']) j = some k' ∧
      clockOf pre j = some now ∧ k'.clock = some now ∧ k'.read = some reply ∧
      ∀ T ∈ blocksOf redisKey pre, now < T → ∃ T', reply = some T' ∧ now < T' := by
  have hself : seenBy (past ++ [.performed r i timing cmd r']) i = some (observe cmd a k) :=
    System.trace_performed_some hperform hk
  rcases split_snoc hsplit with ⟨rfl, heq⟩ | ⟨post', hpast⟩
  · cases heq
    obtain ⟨now, hclock⟩ := Option.isSome_iff_exists.1 hasks.1
    have hreply : a = .ok ((r.wait timing.waited).get (.blocked redisKey)) := by
      cases hperform
      rfl
    have hnow : clockOf past i = some now := by
      rw [clockOf, hk]
      exact hclock
    refine ⟨_, now, (r.wait timing.waited).get (.blocked redisKey), hself, hnow, ?_, ?_,
      fun T hT hlt => ?_⟩
    · rw [hreply]
      exact hclock
    · rw [hreply]
      rfl
    · by_contra hnone
      have hearlier : ∀ T' ∈ ((r.wait timing.waited).get (.blocked redisKey)).toList, T' ≤ now :=
        fun T' hmem => Nat.le_of_not_lt fun hlater => hnone ⟨T', by simpa using hmem, hlater⟩
      rcases (h.blocks redisKey T hT).wait timing.waited with hover | ⟨T', deadline, hlive, hle, -⟩
      · exact hsafe ⟨now, by simp [hnow], hearlier, T, hT, hlt, hover⟩
      · have hafter := hearlier T' (by simp [Keyspace.get, hlive])
        exact Nat.lt_irrefl now (Nat.lt_of_lt_of_le hlt (Nat.le_trans hle hafter))
  · obtain ⟨k', now, reply, hk', hclock, hmine, hread, hblocks⟩ :=
      h.reads pre s j timing' redisKey s' post' hpast
    refine ⟨k', now, reply, ?_, hclock, hmine, hread, hblocks⟩
    by_cases hj : j = i
    · subst hj
      obtain rfl : k = k' := Option.some.inj (hk.symm.trans hk')
      rw [hself, observe_of_read hasks hread]
    · exact (System.trace_performed_of_ne hj).trans hk'

theorem Guarded.performed (h : Guarded past r) (hk : seenBy past i = some k) (hasks : Asks cmd k)
    (hperform : limiter.perform i timing cmd r = some (a, r'))
    (hsafe : ¬Event.lets past (.performed r i timing cmd r')) :
    Guarded (past ++ [.performed r i timing cmd r']) r' where
  blocks redisKey T hT := by
    have hkept := h.blocks_performed hsafe redisKey T hT
    cases hperform
    exact hkept
  reads := h.reads_performed hk hasks hperform hsafe

theorem Guarded.started (h : Guarded past r) (hnew : seenBy past i = none) (request : Request) :
    Guarded (past ++ [.started r i request]) r where
  blocks redisKey T hT := by
    rw [blocksOf_snoc] at hT
    exact h.blocks redisKey T hT
  reads pre s j timing' redisKey s' post hsplit := by
    rcases split_snoc hsplit with ⟨-, heq⟩ | ⟨post', hpast⟩
    · cases heq
    · obtain ⟨k', now, reply, hk', hrest⟩ := h.reads pre s j timing' redisKey s' post' hpast
      have hj : j ≠ i := by
        rintro rfl
        rw [hnew] at hk'
        cases hk'
      exact ⟨k', now, reply, (System.trace_started_of_ne hj).trans hk', hrest⟩

end Step

/-- Who was told of a block is not let through in front of its end. -/
theorem not_allowed {es pre post : List Event} {P : LimiterPool} {s s' : Redis} {i : Nat}
    {timing : Timing} {redisKey : String} {T now : Nat}
    (htracks : limiter.Tracks Guarded (fun _ => {}) (fun _ => Asks) (fun _ => Replies) observe
      (fun _ => Heeds) es P)
    (hsplit : es = pre ++ .performed s i timing (.basic (.get redisKey)) s' :: post)
    (hT : T ∈ blocksOf redisKey pre) (hclock : clockOf pre i = some now) (hlt : now < T) :
    answerOf P i ≠ some true := by
  obtain ⟨k, now', reply, hk, hclock', hmine, hread, hblocks⟩ :=
    htracks.inv.reads pre s i timing redisKey s' post hsplit
  obtain rfl : now = now' := Option.some.inj (hclock.symm.trans hclock')
  obtain ⟨T', rfl, hafter⟩ := hblocks T hT hlt
  intro hanswer
  unfold answerOf at hanswer
  split at hanswer
  · rename_i result l hdone
    obtain ⟨k', hk', hheeds⟩ := htracks.calls i _ hdone
    obtain rfl : k = k' := Option.some.inj (hk.symm.trans hk')
    obtain ⟨now', hnow, hle⟩ := hheeds result rfl (Option.some.inj hanswer) T' hread
    rw [hmine, Option.some.injEq] at hnow
    omega
  · cases hanswer

/-- In a run in which no step lets a block be missed, a block lasts. -/
theorem blocks_last {ms : List (Move Request Timing)} {es : List Event} {r : Redis} {P : LimiterPool}
    (hrun : limiter.run ms (.init r) = some (es, P))
    (hsafe : System.Throughout (fun past e => ¬Event.lets past e) [] es) : Lasting es P := by
  have htracks : limiter.Tracks Guarded (fun _ => {}) (fun _ => Asks) (fun _ => Replies) observe
      (fun _ => Heeds) ([] ++ es) P ∧ ∀ e ∈ es, True := by
    refine System.run_tracked_throughout ?_ ?_ hrun hsafe (System.tracks_init (guarded_init r))
    · intro past r i request hnew h _
      exact ⟨request_observes request, h.started (hnew i (Nat.le_refl i)) request, trivial⟩
    · intro past r i timing cmd a r' k hk hasks h hperform hallows
      refine ⟨?_, h.performed hk hasks hperform hallows, trivial⟩
      cases hperform
      exact ⟨_, rfl⟩
  refine System.throughout_of_split fun pre e post hsplit => ?_
  rw [List.nil_append]
  cases e with
  | started => trivial
  | performed s i timing cmd s' =>
      cases cmd with
      | delLog => trivial
      | unblock => trivial
      | basic op =>
          cases op with
          | dateNow => trivial
          | del => trivial
          | eval => trivial
          | setex => trivial
          | get redisKey =>
              intro T hT now hclock hlt
              exact not_allowed htracks.1 hsplit hT (by simpa using hclock) hlt

def perMinute : RateLimitConfig where
  points := 10
  duration := 60
  blockDuration := 120
  keyPrefix := "ratelimit"

/-- A command that comes at once, or some time after the one before, on a clock that is right. -/
def comes (waited clock : Nat) : Timing := ⟨waited, clock, "0.5"⟩

/-- A key is blocked for a minute, and asked for a second later. -/
def blockedAndAsked : List (Move Request Timing) :=
  [.start (.block perMinute "user:1" (some 60)), .run 0 (comes 1000 1000), .run 0 (comes 5 1005),
    .start (.consume perMinute "user:1"), .run 1 (comes 1000 2005), .run 1 (comes 0 2005)]

theorem blocks_last_refused :
    ∃ es P, limiter.run blockedAndAsked (.init (Keyspace.empty 0)) = some (es, P) ∧
      Lasting es P := by
  have hany : (limiter.run blockedAndAsked (.init (Keyspace.empty 0))).any (fun result =>
      decide (System.Throughout (fun past e => ¬Event.lets past e) [] result.1)) = true := by
    decide +kernel
  obtain ⟨es, P, hrun, hsafe⟩ := System.exists_run hany
  exact ⟨es, P, hrun, blocks_last hrun (of_decide_eq_true hsafe)⟩

/-- A request finds a block that is just over. In front of its deletion the key is blocked again for
a minute, and the deletion removes the new block. -/
def blockedInBetween : List (Move Request Timing) :=
  [.start (.block perMinute "user:1" (some 1)), .run 0 (comes 1000 1000), .run 0 (comes 5 1005),
    .start (.consume perMinute "user:1"), .run 1 (comes 996 2001), .run 1 (comes 0 2001),
    .start (.block perMinute "user:1" (some 60)), .run 2 (comes 1 2002), .run 2 (comes 0 2002),
    .run 1 (comes 0 2002), .run 1 (comes 0 2002),
    .start (.consume perMinute "user:1"), .run 3 (comes 1 2003), .run 3 (comes 0 2003),
    .run 3 (comes 0 2003)]

theorem block_lost :
    ∃ es P, limiter.run blockedInBetween (.init (Keyspace.empty 0)) = some (es, P) ∧
      ¬Lasting es P := by
  have hany : (limiter.run blockedInBetween (.init (Keyspace.empty 0))).any (fun result =>
      !decide (Lasting result.1 result.2)) = true := by
    decide +kernel
  obtain ⟨es, P, hrun, hlost⟩ := System.exists_run hany
  exact ⟨es, P, hrun, by simpa using hlost⟩

end FlightBookings.RateLimiter
