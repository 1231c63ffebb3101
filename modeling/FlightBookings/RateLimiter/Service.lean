import FlightBookings.Common
import FlightBookings.Await.Logic
import FlightBookings.Store.Keyspace

/-! # The rate limiter

A log of the admitted requests of a key in a sorted set of Redis. The script
that counts and admits runs as one step; a request that it turns away blocks its
key for a while. A command that fails lets the request pass.
-/

namespace FlightBookings.RateLimiter

open Await

/-! ## Redis -/

/-- The sorted set of a key and the key that blocks it, by the name of the first. -/
inductive Key where
  | log (redisKey : String)
  | blocked (redisKey : String)
deriving DecidableEq

/-- A sorted set lists its members with their scores. A blocked key holds an instant. -/
abbrev Value : Key → Type
  | .log _ => List (String × Nat)
  | .blocked _ => Nat

abbrev Redis := Keyspace Key Value

/-- `ZREMRANGEBYSCORE key 0 windowStart` on the entries of a sorted set. -/
def prune (windowStart : Int) (entries : List (String × Nat)) : List (String × Nat) :=
  entries.filter fun e => windowStart < (e.2 : Int)

/-- `ZADD`: a member that is there already only gets the new score. -/
def zadd (score : Nat) (member : String) (entries : List (String × Nat)) : List (String × Nat) :=
  entries.filter (fun e => e.1 ≠ member) ++ [(member, score)]

def sortedSet (r : Redis) (redisKey : String) : List (String × Nat) :=
  (r.get (.log redisKey)).getD []

/-- The member that an admitted request adds. The script prints the time and the number that it
draws; the latter stands here as it is printed. -/
def member (now : Nat) (random : String) : String := s!"{now}:{random}"

structure ScriptReply where
  allowed : Bool
  current : Nat
deriving DecidableEq

/-- The script: prune, count, and add if there is room. Pruning leaves the deadline of the key. -/
def luaScript (redisKey : String) (now : Nat) (windowStart : Int) (limit ttl : Nat)
    (random : String) (r : Redis) : ScriptReply × Redis :=
  let kept := prune windowStart (sortedSet r redisKey)
  if kept.length < limit then
    (⟨true, kept.length + 1⟩, r.setex (.log redisKey) ttl (zadd now (member now random) kept))
  else
    (⟨false, kept.length⟩,
      r.put (.log redisKey) ((r.live (.log redisKey)).map fun e => (kept, e.2)))

/-! ## Operations -/

inductive Op where
  | dateNow
  | get (redisKey : String)
  | del (redisKey : String)
  | eval (redisKey : String) (now : Nat) (windowStart : Int) (limit ttl : Nat)
  | setex (redisKey : String) (seconds blockedUntil : Nat)
deriving DecidableEq

abbrev Op.Ret : Op → Type
  | .dateNow => Nat
  | .get _ => Option Nat
  | .del _ => Unit
  | .eval .. => ScriptReply
  | .setex .. => Unit

/-- What the environment decides for one call: the error of a command that fails, if one does,
and the number that the script draws. -/
structure Choice where
  fails : Op → Option Exception
  random : String

def Op.perform (random : String) : (op : Op) → Redis → op.Ret × Redis
  | .dateNow, r => (r.now, r)
  | .get redisKey, r => (r.get (.blocked redisKey), r)
  | .del redisKey, r => ((), r.del (.blocked redisKey))
  | .eval redisKey now windowStart limit ttl, r =>
      luaScript redisKey now windowStart limit ttl random r
  | .setex redisKey seconds blockedUntil, r =>
      ((), r.setex (.blocked redisKey) seconds blockedUntil)

/-- Reading the clock does not fail. -/
def performWith (choice : Choice) (op : Op) (r : Redis) : Except Exception op.Ret × Redis :=
  match choice.fails op with
  | some e =>
      if op = .dateNow then (.ok (op.perform choice.random r).1, r) else (.error e, r)
  | none => (.ok (op.perform choice.random r).1, (op.perform choice.random r).2)

abbrev Call (α : Type) := Await.Call Op Op.Ret Exception Unit α

/-! ## The service -/

/-- A configuration, already merged with the default one. -/
structure RateLimitConfig where
  points : Nat
  duration : Nat
  blockDuration : Nat
  keyPrefix : String

structure RateLimitInfo where
  limit : Nat
  remaining : Nat
  reset : Nat
  retryAfter : Option Nat := none
deriving DecidableEq

structure RateLimitResult where
  allowed : Bool
  info : RateLimitInfo
deriving DecidableEq

def redisKeyOf (config : RateLimitConfig) (key : String) : String := s!"{config.keyPrefix}:{key}"

/-- How long a refused request blocks its key, in milliseconds. -/
def blockMs (config : RateLimitConfig) : Nat :=
  (if config.blockDuration = 0 then config.duration else config.blockDuration) * 1000

/-- The part of `consume` behind the check of the block. -/
def checkWindow (config : RateLimitConfig) (redisKey : String) (now : Nat) : Call RateLimitResult := do
  let windowStart : Int := now - config.duration * 1000
  let result : ScriptReply ← Call.await
    (Op.eval redisKey now windowStart config.points (config.duration + 1))
  let resetTime := (now + config.duration * 1000) / 1000
  if result.allowed then
    pure { allowed := true
           info := { limit := config.points
                     remaining := config.points - result.current
                     reset := resetTime } }
  else do
    let blockDuration := blockMs config
    Call.await (Op.setex redisKey ((blockDuration + 999) / 1000) (now + blockDuration))
    pure { allowed := false
           info := { limit := config.points
                     remaining := 0
                     reset := resetTime
                     retryAfter := some ((blockDuration + 999) / 1000) } }

/-- The check of the block that was read, and what follows it. -/
def checkBlock (config : RateLimitConfig) (redisKey : String) (now : Nat) :
    Option Nat → Call RateLimitResult
  | some blockedTimestamp =>
      if now < blockedTimestamp then
        pure { allowed := false
               info := { limit := config.points
                         remaining := 0
                         reset := blockedTimestamp / 1000
                         retryAfter := some ((blockedTimestamp - now + 999) / 1000) } }
      else do
        Call.await (Op.del redisKey)
        checkWindow config redisKey now
  | none => checkWindow config redisKey now

def consume (config : RateLimitConfig) (key : String) : Call RateLimitResult := do
  let now ← Call.await Op.dateNow
  let redisKey := redisKeyOf config key
  tryCatch
    (do
      let blockedUntil : Option Nat ← Call.await (Op.get redisKey)
      checkBlock config redisKey now blockedUntil)
    fun _ => pure { allowed := true
                    info := { limit := config.points
                              remaining := config.points
                              reset := (now + config.duration * 1000) / 1000 } }

/-- One request: it comes some time after the one before, and its operations go as chosen. -/
structure Arrival where
  waited : Nat
  choice : Choice

/-- The outcome of a request and the time at which it came. -/
structure Answer where
  time : Nat
  outcome : Except Exception RateLimitResult

def answerTo (config : RateLimitConfig) (key : String) (r : Redis) (a : Arrival) : Answer × Redis :=
  let result := (consume config key ()).eval (performWith a.choice) (r.wait a.waited)
  (⟨r.now + a.waited, result.1.1⟩, result.2)

/-- The requests of a key, one after the other. -/
def consumeAll (config : RateLimitConfig) (key : String) :
    List Arrival → Redis → List Answer × Redis
  | [], r => ([], r)
  | a :: arrivals, r =>
      let (answer, r') := answerTo config key r a
      let (answers, r'') := consumeAll config key arrivals r'
      (answer :: answers, r'')

end FlightBookings.RateLimiter
