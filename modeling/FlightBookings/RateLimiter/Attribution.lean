import FlightBookings.Await.Requests
import FlightBookings.RateLimiter.Guard
import FlightBookings.RateLimiter.Status

/-! # Whose requests are counted

Every command of Redis is a step of its own, and any of them may fail. Who is
turned away has used up his own quota: the key of a client at a route is shared
with nobody.
-/

namespace FlightBookings.RateLimiter

open Await

variable (router : Router) (defaultConfig : RateLimitConfig)

/-! ## What the runs show -/

/-- The call that the script admits here under a key, and the time. -/
def admission (redisKey : String) : GuardEvent → Option (Nat × Nat)
  | .performed r i conditions (.redis (.eval redisKey' now windowStart limit ttl)) r' =>
      if redisKey' = redisKey ∧ conditions.fails (.eval redisKey' now windowStart limit ttl) = none ∧
          (luaScript redisKey' now windowStart limit ttl conditions.random
            (r.wait conditions.waited)).1.allowed = true then
        some (i, r'.now)
      else none
  | _ => none

def admissions (redisKey : String) (es : List GuardEvent) : List (Nat × Nat) :=
  es.filterMap (admission redisKey)

/-- The script has admitted a call for a client at a limited route. -/
def LetThrough (es : List GuardEvent) (client : Client) (method path : String) (i t : Nat) : Prop :=
  ∃ config, router.config defaultConfig method path = some config ∧
    (i, t) ∈ admissions (redisKeyOf config (keyOf client method path)) es

/-- A command of a call has failed. -/
def Failed (es : List GuardEvent) (i : Nat) : Prop :=
  ∃ r conditions op r', .performed r i conditions (.redis op) r' ∈ es ∧ conditions.fails op ≠ none

/-- A call has gone on to its endpoint. -/
def Reached (es : List GuardEvent) (i : Nat) : Prop :=
  ∃ r conditions r', .performed r i conditions .proceed r' ∈ es

/-- A request is turned away after as many requests of its own client at its own route have been let
through as the limit allows. -/
def BlamesOwn (es : List GuardEvent) (P : Pool GuardOp GuardReply Outcome Redis) : Prop :=
  ∀ i s request headers body, .started s i request ∈ es →
    P.calls[i]? = some (.done (.refused headers body)) →
      ∃ config, request.config router defaultConfig = some config ∧
        ∃ calls : List Nat, calls.Nodup ∧ calls.length = config.points ∧
          ∀ j ∈ calls, (∃ s' request', .started s' j request' ∈ es ∧
            request'.client = request.client ∧ request'.method = request.method ∧
              request'.path = request.path) ∧
            ∃ t, LetThrough router defaultConfig es request.client request.method request.path j t

/-! ## The calls -/

/-- What a call has been told: whether the script let it through, and that its quota was spent. -/
structure Progress where
  request : HttpRequest
  script : Option Bool := none
  spent : Bool := false
  failed : Bool := false

namespace Progress

def advance : (op : GuardOp) → GuardReply op → Progress → Progress
  | .redis (.get _), .ok (some _), k => { k with spent := true }
  | .redis (.eval _ _ _ _ _), .ok reply, k =>
      { k with script := some reply.allowed, spent := k.spent || !reply.allowed }
  | .redis _, .error _, k => { k with failed := true }
  | _, _, k => k

/-- A call is counted under this key. -/
def Owns (k : Progress) (config : RateLimitConfig) (redisKey : String) : Prop :=
  k.request.config router defaultConfig = some config ∧
    redisKey = redisKeyOf config (generateKey k.request)

/-- A call runs the script once, for its own key, and blocks its own key after it was refused. -/
def Permits (op : GuardOp) (k : Progress) : Prop :=
  match op with
  | .redis (.eval redisKey now windowStart limit ttl) => k.script = none ∧
      ∃ config, k.Owns router defaultConfig config redisKey ∧
        windowStart = (now : Int) - config.duration * 1000 ∧ limit = config.points ∧
        ttl = config.duration + 1
  | .redis (.get redisKey) => ∃ config, k.Owns router defaultConfig config redisKey
  | .redis (.setex redisKey _ _) =>
      k.spent = true ∧ ∃ config, k.Owns router defaultConfig config redisKey
  | .redis _ => True
  | .proceed => k.request.config router defaultConfig = none ∨ k.failed = true ∨ k.script = some true

/-- What the answer tells of the call. -/
def Concludes (outcome : Outcome) (k : Progress) : Prop :=
  ∀ headers body, outcome = .refused headers body →
    k.spent = true ∧ ∃ config, k.request.config router defaultConfig = some config

variable {router defaultConfig} {α : Type} {k : Progress} {config : RateLimitConfig}
variable {redisKey : String} {now : Nat} {op : Op}

abbrev watching (router : Router) (defaultConfig : RateLimitConfig) :
    Spec GuardOp GuardReply Progress :=
  tracked (Permits router defaultConfig) (fun _ _ => True) advance

/-- A command that fails leaves the call with the knowledge of it. -/
abbrev Watches (router : Router) (defaultConfig : RateLimitConfig) (request : HttpRequest) (c : Call α)
    (k : Progress) (Q : α → Unit → Progress → Prop) : Prop :=
  c.Ensures ((watching router defaultConfig).comap GuardOp.redis fun _ r => r) () k Q
    fun _ k' => k'.failed = true ∧ k'.request = request

theorem await_watches {Q : op.Ret → Unit → Progress → Prop}
    (hpermits : Permits router defaultConfig (.redis op) k)
    (h : ∀ a, Q a () (advance (.redis op) (.ok a) k)) :
    Watches router defaultConfig k.request (Call.await op) k Q := by
  refine ⟨hpermits, fun r _ => ?_⟩
  cases r with
  | ok a => exact h a
  | error e => cases op <;> exact ⟨rfl, rfl⟩

/-- A call is let through by the script or by an error, and turned away when its quota is spent. -/
def Decides (request : HttpRequest) (result : RateLimitResult) (_ : Unit) (k : Progress) : Prop :=
  k.request = request ∧ (result.allowed = true → k.failed = true ∨ k.script = some true) ∧
    (result.allowed = false → k.spent = true)

theorem decides_refused {result : RateLimitResult} {l : Unit} (hrefused : result.allowed = false)
    (hspent : k.spent = true) : Decides k.request result l k :=
  ⟨rfl, by simp [hrefused], fun _ => hspent⟩

theorem checkWindow_watches (howns : k.Owns router defaultConfig config redisKey)
    (hscript : k.script = none) : Watches router defaultConfig k.request (checkWindow config redisKey now) k
      (Decides k.request) := by
  refine .bind (await_watches ⟨hscript, config, howns, rfl, rfl, rfl⟩ fun reply => ?_)
  cases hallowed : reply.allowed with
  | true =>
      simp only [if_true]
      exact .pure ⟨rfl, fun _ => .inr (congrArg some hallowed), fun h => by cases h⟩
  | false =>
      simp only [Bool.false_eq_true, if_false]
      have hspent : (k.spent || !reply.allowed) = true := by simp [hallowed]
      exact .bind (await_watches ⟨hspent, config, howns⟩ fun _ => .pure (decides_refused rfl hspent))

theorem checkBlock_watches (howns : k.Owns router defaultConfig config redisKey)
    (hscript : k.script = none) (blockedUntil : Option Nat)
    (hspent : blockedUntil ≠ none → k.spent = true) :
    Watches router defaultConfig k.request (checkBlock config redisKey now blockedUntil) k
      (Decides k.request) := by
  cases blockedUntil with
  | none => exact checkWindow_watches howns hscript
  | some blockedTimestamp =>
      by_cases hlt : now < blockedTimestamp
      · simp only [checkBlock, if_pos hlt]
        exact .pure (decides_refused rfl (hspent (by simp)))
      · simp only [checkBlock, if_neg hlt]
        exact .bind (await_watches trivial fun _ => checkWindow_watches howns hscript)

theorem consume_watches {request : HttpRequest}
    (hconfig : request.config router defaultConfig = some config) :
    Watches router defaultConfig request (consume config (generateKey request)) ⟨request, none, false, false⟩
      (Decides request) := by
  refine .bind (await_watches trivial fun now => ?_)
  refine .tryCatch (.bind (await_watches ⟨config, hconfig, rfl⟩ fun blockedUntil => ?_)) ?_
  · cases blockedUntil with
    | none =>
        have howns : Owns router defaultConfig ⟨request, none, false, false⟩ config _ := ⟨hconfig, rfl⟩
        exact checkBlock_watches howns rfl none (by simp)
    | some blockedTimestamp =>
        have howns : Owns router defaultConfig ⟨request, none, true, false⟩ config _ := ⟨hconfig, rfl⟩
        exact checkBlock_watches howns rfl (some blockedTimestamp) fun _ => rfl
  · exact fun _ _ _ hfailed => .pure ⟨hfailed.2, fun _ => .inl hfailed.1, fun h => by cases h⟩

/-- A request goes on when it may, and is turned away only when its quota is spent. -/
theorem request_watches (request : HttpRequest) :
    (canActivate router defaultConfig request).wp (watching router defaultConfig)
      (Concludes router defaultConfig) ⟨request, none, false, false⟩ := by
  unfold canActivate
  cases hconfig : request.config router defaultConfig with
  | none => exact ⟨.inl hconfig, fun _ _ _ _ h => by cases h⟩
  | some config =>
      rw [Program.wp_bind, Program.wp_lift]
      refine Program.wp_mono ?_ (consume_watches hconfig)
      intro r k hr
      rcases r with ⟨e | result, l⟩
      · exact fun _ _ h => by cases h
      · obtain ⟨hrequest, hallowed, hrefused⟩ := hr
        cases hresult : result.allowed with
        | true =>
            change (answerWith result).wp _ _ k
            rw [answerWith, hresult, if_pos rfl]
            exact ⟨.inr (hallowed hresult), fun _ _ _ _ h => by cases h⟩
        | false =>
            change (answerWith result).wp _ _ k
            rw [answerWith, hresult, if_neg (by simp)]
            exact fun _ _ _ => ⟨hrefused hresult, config, hrequest ▸ hconfig⟩

end Progress

/-! ## The script -/

section Script

variable {redisKey random : String} {now limit ttl : Nat} {windowStart : Int} {r : Redis}

@[simp] theorem luaScript_now : (luaScript redisKey now windowStart limit ttl random r).2.now = r.now := by
  unfold luaScript
  dsimp only
  split <;> rfl

theorem luaScript_live_of_ne {k : Key} (hne : k ≠ .log redisKey) :
    (luaScript redisKey now windowStart limit ttl random r).2.live k = r.live k := by
  unfold luaScript
  dsimp only
  split
  · exact Keyspace.live_setex_of_ne hne
  · exact Keyspace.live_put_of_ne _ hne

theorem luaScript_allowed : (luaScript redisKey now windowStart limit ttl random r).1.allowed = true ↔
    (prune windowStart (sortedSet r redisKey)).length < limit := by
  unfold luaScript
  dsimp only
  split <;> simp_all

theorem luaScript_admits (hroom : (prune windowStart (sortedSet r redisKey)).length < limit)
    (httl : 0 < ttl) :
    (luaScript redisKey now windowStart limit ttl random r).2.live (.log redisKey) =
      some (zadd now (member now random) (prune windowStart (sortedSet r redisKey)),
        r.now + ttl * 1000) := by
  simp only [luaScript, if_pos hroom]
  exact Keyspace.live_setex_self httl

theorem luaScript_refuses (hfull : ¬(prune windowStart (sortedSet r redisKey)).length < limit) :
    (luaScript redisKey now windowStart limit ttl random r).2.live (.log redisKey) =
      (r.live (.log redisKey)).map fun e => (prune windowStart e.1, e.2) := by
  simp only [luaScript, if_neg hfull]
  rw [← Keyspace.live_put_map]
  congr 2
  cases hlive : r.live (.log redisKey) with
  | none => rfl
  | some e => simp [sortedSet_eq, hlive]

/-- The script adds at most the entry of the request that it admits. -/
theorem length_luaScript (httl : 0 < ttl) :
    (sortedSet (luaScript redisKey now windowStart limit ttl random r).2 redisKey).length ≤
      (sortedSet r redisKey).length +
        if (prune windowStart (sortedSet r redisKey)).length < limit then 1 else 0 := by
  have hpruned : (prune windowStart (sortedSet r redisKey)).length ≤ _ := List.length_filter_le _ _
  rw [sortedSet_eq]
  by_cases hroom : (prune windowStart (sortedSet r redisKey)).length < limit
  · rw [luaScript_admits hroom httl, if_pos hroom]
    exact Nat.le_trans length_zadd_le (Nat.succ_le_succ hpruned)
  · rw [luaScript_refuses hroom, if_neg hroom]
    rw [sortedSet_eq] at hpruned ⊢
    cases hlive : r.live (.log redisKey) with
    | none => exact Nat.zero_le _
    | some e => simpa [hlive] using hpruned

end Script

/-! ## Steps -/

section Steps

variable {router : Router} {defaultConfig : RateLimitConfig} {conditions : Conditions} {i : Nat}
variable {op : GuardOp} {a : GuardReply op} {r r' : Redis} {k : Progress} {past : List GuardEvent}
variable {config config' : RateLimitConfig} {client : Client} {method path redisKey : String}

theorem Router.plain_of_config (h : router.config defaultConfig method path = some config) :
    ':' ∉ method.toList ∧ ':' ∉ path.toList := by
  apply router.plain
  intro hnone
  simp [Router.config, hnone] at h

/-- Who is counted under the key of a client at a route is that client at that route. -/
theorem Progress.Owns.route
    (h : k.Owns router defaultConfig config' (redisKeyOf config (keyOf client method path)))
    (hconfig : router.config defaultConfig method path = some config) :
    k.request.client = client ∧ k.request.method = method ∧ k.request.path = path ∧
      config' = config := by
  obtain ⟨howns, hkey⟩ := h
  obtain ⟨hmethod, hpath⟩ := route_of_redisKey (Router.plain_of_config hconfig)
    (Router.plain_of_config howns) hkey
  subst hmethod
  subst hpath
  have hsame : config' = config := Option.some.inj (howns.symm.trans hconfig)
  subst hsame
  exact ⟨(client_of_redisKey hkey).symm, rfl, rfl, rfl⟩

/-- The operation is the script, and it runs. -/
def Runs (conditions : Conditions) : GuardOp → Prop
  | .redis (.eval redisKey now windowStart limit ttl) =>
      conditions.fails (.eval redisKey now windowStart limit ttl) = none
  | _ => False

theorem admissions_snoc (past : List GuardEvent) (e : GuardEvent) :
    admissions redisKey (past ++ [e]) = admissions redisKey past ++ (admission redisKey e).toList := by
  simp only [admissions, List.filterMap_append, List.filterMap_cons, List.filterMap_nil]
  cases admission redisKey e <;> rfl

/-- What a step makes of Redis when it is not the script. -/
theorem step_cases
    (hperform : (guarded router defaultConfig).perform i conditions op r = some (a, r')) :
    Runs conditions op ∨ r' = r.wait conditions.waited ∨
      (∃ redisKey, r' = (r.wait conditions.waited).del (.blocked redisKey)) ∨
      ∃ redisKey seconds blockedUntil, op = .redis (.setex redisKey seconds blockedUntil) ∧
        r' = (r.wait conditions.waited).setex (.blocked redisKey) seconds blockedUntil := by
  cases op with
  | proceed =>
      cases hperform
      exact .inr (.inl rfl)
  | redis op =>
      cases hfails : conditions.fails op with
      | some e =>
          right
          left
          cases op <;> simp [guarded, GuardOp.perform, performWith, hfails] at hperform <;>
            simp [← hperform.2]
      | none =>
          cases op with
          | eval => exact .inl hfails
          | dateNow =>
              cases hperform
              exact .inr (.inl rfl)
          | get =>
              simp only [guarded, GuardOp.perform, performWith, hfails] at hperform
              cases hperform
              exact .inr (.inl rfl)
          | del redisKey =>
              simp only [guarded, GuardOp.perform, performWith, hfails] at hperform
              cases hperform
              exact .inr (.inr (.inl ⟨redisKey, rfl⟩))
          | setex redisKey seconds blockedUntil =>
              simp only [guarded, GuardOp.perform, performWith, hfails] at hperform
              cases hperform
              exact .inr (.inr (.inr ⟨redisKey, seconds, blockedUntil, rfl, rfl⟩))

theorem admission_quiet (hquiet : ¬Runs conditions op) :
    admission redisKey (.performed r i conditions op r') = none := by
  cases op with
  | proceed => rfl
  | redis op =>
      cases op with
      | eval =>
          rw [admission, if_neg]
          exact fun hall => hquiet hall.2.1
      | _ => rfl

/-- Nothing but the script changes the sets, or admits anyone. -/
theorem quiet_step (hquiet : ¬Runs conditions op)
    (hperform : (guarded router defaultConfig).perform i conditions op r = some (a, r')) :
    r'.now = (r.wait conditions.waited).now ∧
      ∀ redisKey, r'.live (.log redisKey) = (r.wait conditions.waited).live (.log redisKey) := by
  rcases step_cases hperform with hruns | rfl | ⟨redisKey, rfl⟩ | ⟨redisKey, _, _, -, rfl⟩
  · exact absurd hruns hquiet
  · exact ⟨rfl, fun _ => rfl⟩
  · exact ⟨rfl, fun _ => Keyspace.live_del_of_ne (by simp)⟩
  · exact ⟨rfl, fun _ => Keyspace.live_setex_of_ne (by simp)⟩

theorem script_step {now limit ttl : Nat} {windowStart : Int} {reply : Except Exception ScriptReply}
    (hruns : conditions.fails (.eval redisKey now windowStart limit ttl) = none)
    (hperform : (guarded router defaultConfig).perform i conditions
      (.redis (.eval redisKey now windowStart limit ttl)) r = some (reply, r')) :
    reply = .ok (luaScript redisKey now windowStart limit ttl conditions.random
      (r.wait conditions.waited)).1 ∧
    r' = (luaScript redisKey now windowStart limit ttl conditions.random
      (r.wait conditions.waited)).2 := by
  simp only [guarded, GuardOp.perform, performWith, hruns, Op.perform, Option.some.injEq,
    Prod.mk.injEq] at hperform
  exact ⟨hperform.1.symm, hperform.2.symm⟩

theorem admission_script {now limit ttl : Nat} {windowStart : Int} {redisKey' : String}
    (hruns : conditions.fails (.eval redisKey' now windowStart limit ttl) = none) :
    admission redisKey (.performed r i conditions
      (.redis (.eval redisKey' now windowStart limit ttl)) r') =
        if redisKey' = redisKey ∧
            (prune windowStart (sortedSet (r.wait conditions.waited) redisKey')).length < limit then
          some (i, r'.now)
        else none := by
  simp only [admission, hruns, true_and, luaScript_allowed]

/-- The script as a request runs it. -/
abbrev scriptOp (config : RateLimitConfig) (redisKey : String) (now : Nat) : GuardOp :=
  .redis (.eval redisKey now ((now : Int) - config.duration * 1000) config.points
    (config.duration + 1))

/-! ## The invariant -/

def progressOf (router : Router) (defaultConfig : RateLimitConfig) (past : List GuardEvent) (i : Nat) :
    Option Progress :=
  (guarded router defaultConfig).trace (fun request => ⟨request, none, false, false⟩)
    Progress.advance i past

/-- The calls are right about what they were told. -/
structure Told (router : Router) (defaultConfig : RateLimitConfig) (past : List GuardEvent) (i : Nat)
    (k : Progress) : Prop where
  script : k.script = some true → ∃ config redisKey t,
    k.Owns router defaultConfig config redisKey ∧ (i, t) ∈ admissions redisKey past
  failed : k.failed = true → Failed past i
  spent : k.spent = true → ∀ config redisKey, k.Owns router defaultConfig config redisKey →
    config.points ≤ (admissions redisKey past).length

/-- The set of a key and its block come from the calls that were admitted under it, each of which was
admitted once. -/
structure Attributed (router : Router) (defaultConfig : RateLimitConfig) (past : List GuardEvent)
    (r : Redis) : Prop where
  calls : ∀ i k, progressOf router defaultConfig past i = some k → Told router defaultConfig past i k
  admitted : ∀ redisKey i t, (i, t) ∈ admissions redisKey past →
    ∃ k config, progressOf router defaultConfig past i = some k ∧ k.script = some true ∧
      k.Owns router defaultConfig config redisKey
  once : ∀ redisKey, ((admissions redisKey past).map Prod.fst).Nodup
  reached : ∀ i, Reached past i → ∃ k, progressOf router defaultConfig past i = some k ∧
    (k.request.config router defaultConfig = none ∨ k.failed = true ∨ k.script = some true)
  sets : ∀ redisKey, (sortedSet r redisKey).length ≤ (admissions redisKey past).length
  blocks : ∀ client method path config,
    router.config defaultConfig method path = some config →
      r.live (.blocked (redisKeyOf config (keyOf client method path))) ≠ none →
        config.points ≤ (admissions (redisKeyOf config (keyOf client method path)) past).length

theorem length_admissions_mono (e : GuardEvent) :
    (admissions redisKey past).length ≤ (admissions redisKey (past ++ [e])).length := by
  rw [admissions_snoc, List.length_append]
  omega

theorem Told.mono (h : Told router defaultConfig past i k) (e : GuardEvent) :
    Told router defaultConfig (past ++ [e]) i k where
  script hscript := by
    obtain ⟨config, redisKey, t, howns, hmem⟩ := h.script hscript
    refine ⟨config, redisKey, t, howns, ?_⟩
    rw [admissions_snoc]
    exact List.mem_append_left _ hmem
  failed hfailed := by
    obtain ⟨r, conditions, op, r', hmem, hfails⟩ := h.failed hfailed
    exact ⟨r, conditions, op, r', List.mem_append_left _ hmem, hfails⟩
  spent hspent config redisKey howns :=
    Nat.le_trans (h.spent hspent config redisKey howns) (length_admissions_mono e)

theorem length_sortedSet_wait (ms : Nat) :
    (sortedSet (r.wait ms) redisKey).length ≤ (sortedSet r redisKey).length := by
  rw [sortedSet_eq, sortedSet_eq, Keyspace.live_wait_eq]
  cases r.live (.log redisKey) with
  | none => exact Nat.le_refl _
  | some e => by_cases hlt : r.now + ms < e.2 <;> simp [Option.filter, hlt]

theorem length_prune (windowStart : Int) (entries : List (String × Nat)) :
    (prune windowStart entries).length ≤ entries.length :=
  List.length_filter_le _ _

theorem Progress.Owns.eq {redisKey' : String} (h : k.Owns router defaultConfig config redisKey)
    (h' : k.Owns router defaultConfig config' redisKey') : config' = config ∧ redisKey' = redisKey := by
  obtain ⟨hconfig, rfl⟩ := h
  obtain ⟨hconfig', rfl⟩ := h'
  obtain rfl : config = config' := Option.some.inj (hconfig.symm.trans hconfig')
  exact ⟨rfl, rfl⟩

/-- A block was written when the quota was spent. -/
theorem Attributed.spent_of_blocked (h : Attributed router defaultConfig past r)
    (howns : k.Owns router defaultConfig config redisKey) (hlive : r.live (.blocked redisKey) ≠ none) :
    config.points ≤ (admissions redisKey past).length := by
  obtain ⟨hconfig, rfl⟩ := howns
  exact h.blocks _ _ _ config hconfig hlive

/-- A full set was filled by the calls that were admitted. -/
theorem Attributed.spent_of_full {limit ms : Nat} {windowStart : Int}
    (h : Attributed router defaultConfig past r)
    (hfull : ¬(prune windowStart (sortedSet (r.wait ms) redisKey)).length < limit) :
    limit ≤ (admissions redisKey past).length := by
  have hpruned := length_prune windowStart (sortedSet (r.wait ms) redisKey)
  have hwait : (sortedSet (r.wait ms) redisKey).length ≤ _ := length_sortedSet_wait ms
  have hset := h.sets redisKey
  omega

theorem Told.spend (h : Told router defaultConfig past i k)
    (howns : k.Owns router defaultConfig config redisKey)
    (hspent : config.points ≤ (admissions redisKey past).length) :
    Told router defaultConfig past i { k with spent := true } where
  script := h.script
  failed := h.failed
  spent _ config' redisKey' howns' := by
    obtain ⟨rfl, rfl⟩ := howns.eq howns'
    exact hspent

/-- What the script tells a call is so. -/
theorem Attributed.learns_script {now : Nat} {reply : Except Exception ScriptReply}
    (h : Attributed router defaultConfig past r)
    (htold : Told router defaultConfig past i k) (howns : k.Owns router defaultConfig config redisKey)
    (hruns : Runs conditions (scriptOp config redisKey now))
    (hperform : (guarded router defaultConfig).perform i conditions (scriptOp config redisKey now) r =
      some (reply, r')) :
    Told router defaultConfig (past ++ [.performed r i conditions (scriptOp config redisKey now) r']) i
      (Progress.advance (scriptOp config redisKey now) reply k) := by
  have hsame := htold.mono (.performed r i conditions (scriptOp config redisKey now) r')
  obtain ⟨rfl, -⟩ := script_step hruns hperform
  have hadmission : admission redisKey
      (.performed r i conditions (scriptOp config redisKey now) r') = _ := admission_script hruns
  cases hallowed : (luaScript redisKey now ((now : Int) - config.duration * 1000) config.points
      (config.duration + 1) conditions.random (r.wait conditions.waited)).1.allowed with
  | true =>
      rw [if_pos ⟨rfl, luaScript_allowed.mp hallowed⟩] at hadmission
      simp only [Progress.advance, hallowed, Bool.not_true, Bool.or_false]
      refine ⟨fun _ => ⟨config, redisKey, r'.now, howns, ?_⟩, hsame.failed, hsame.spent⟩
      rw [admissions_snoc, hadmission]
      exact List.mem_append_right _ (List.mem_singleton.mpr rfl)
  | false =>
      have hfull := mt luaScript_allowed.mpr (Bool.eq_false_iff.mp hallowed)
      have hspent := hsame.spend howns
        (Nat.le_trans (h.spent_of_full hfull) (length_admissions_mono _))
      simp only [Progress.advance, hallowed, Bool.not_false, Bool.or_true]
      exact ⟨fun hscript => Bool.noConfusion (Option.some.inj hscript), hspent.failed, hspent.spent⟩

/-- What the own step tells a call is so. -/
theorem Attributed.learns (h : Attributed router defaultConfig past r)
    (hk : progressOf router defaultConfig past i = some k)
    (hpermits : k.Permits router defaultConfig op)
    (hperform : (guarded router defaultConfig).perform i conditions op r = some (a, r')) :
    Told router defaultConfig (past ++ [.performed r i conditions op r']) i (Progress.advance op a k) := by
  have hsame := (h.calls i k hk).mono (.performed r i conditions op r')
  cases op with
  | proceed => exact hsame
  | redis op =>
      cases hfails : conditions.fails op with
      | some e =>
          have hfailed : Failed (past ++ [.performed r i conditions (.redis op) r']) i :=
            ⟨r, conditions, op, r', List.mem_append_right past (List.mem_singleton.mpr rfl), by
              simp [hfails]⟩
          cases op with
          | dateNow =>
              cases hperform
              exact hsame
          | _ =>
              simp [guarded, GuardOp.perform, performWith, hfails] at hperform
              rw [← hperform.1]
              exact ⟨hsame.script, fun _ => hfailed, hsame.spent⟩
      | none =>
          cases op with
          | dateNow =>
              cases hperform
              exact hsame
          | get redisKey =>
              simp only [guarded, GuardOp.perform, performWith, hfails, Op.perform, Option.some.injEq,
                Prod.mk.injEq] at hperform
              rw [← hperform.1]
              cases hread : (r.wait conditions.waited).get (.blocked redisKey) with
              | none => exact hsame
              | some blockedUntil =>
                  obtain ⟨config, howns⟩ := hpermits
                  obtain ⟨deadline, hlive⟩ := Keyspace.get_eq_some.mp hread
                  have hblocked : r.live (.blocked redisKey) ≠ none := by
                    rw [Keyspace.live_wait hlive]
                    simp
                  exact hsame.spend howns
                    (Nat.le_trans (h.spent_of_blocked howns hblocked) (length_admissions_mono _))
          | eval redisKey now windowStart limit ttl =>
              obtain ⟨-, config, howns, rfl, rfl, rfl⟩ := hpermits
              exact h.learns_script (h.calls i k hk) howns hfails hperform
          | _ =>
              simp only [guarded, GuardOp.perform, performWith, hfails, Op.perform, Option.some.injEq,
                Prod.mk.injEq] at hperform
              rw [← hperform.1]
              exact hsame

namespace Progress

theorem advance_request : (advance op a k).request = k.request := by
  unfold advance
  split <;> rfl

theorem advance_failed (h : k.failed = true) : (advance op a k).failed = true := by
  unfold advance
  split <;> first | rfl | exact h

/-- A call that the script has let through does not run it again. -/
theorem advance_script (hpermits : k.Permits router defaultConfig op) (h : k.script = some true) :
    (advance op a k).script = some true := by
  unfold advance
  split
  · exact h
  · have hnone : k.script = none := hpermits.1
    rw [hnone] at h
    cases h
  · exact h
  · exact h

end Progress

/-- An admission is one of the call that moves, which has run the script. -/
theorem admission_performed {j t : Nat}
    (hperform : (guarded router defaultConfig).perform i conditions op r = some (a, r'))
    (hpermits : k.Permits router defaultConfig op)
    (h : admission redisKey (.performed r i conditions op r') = some (j, t)) :
    j = i ∧ k.script = none ∧ (Progress.advance op a k).script = some true ∧
      ∃ config, k.Owns router defaultConfig config redisKey := by
  by_cases hruns : Runs conditions op
  · cases op with
    | proceed => exact hruns.elim
    | redis op =>
        cases op with
        | eval redisKey' now windowStart limit ttl =>
            obtain ⟨rfl, -⟩ := script_step hruns hperform
            obtain ⟨hnone, config, howns, -⟩ := hpermits
            rw [admission_script hruns] at h
            split at h
            · rename_i hboth
              cases h
              refine ⟨rfl, hnone, ?_, config, hboth.1 ▸ howns⟩
              simp only [Progress.advance, luaScript_allowed.mpr hboth.2]
            · cases h
        | _ => exact hruns.elim
  · rw [admission_quiet hruns] at h
    cases h

/-- Only the command for it writes a block. -/
theorem blocked_of_step
    (hperform : (guarded router defaultConfig).perform i conditions op r = some (a, r'))
    (hlive : r'.live (.blocked redisKey) ≠ none) :
    r.live (.blocked redisKey) ≠ none ∨
      ∃ seconds blockedUntil, op = .redis (.setex redisKey seconds blockedUntil) := by
  have hwait (hlive : (r.wait conditions.waited).live (.blocked redisKey) ≠ none) :
      r.live (.blocked redisKey) ≠ none := by
    obtain ⟨e, he⟩ := Option.ne_none_iff_exists'.mp hlive
    simp [Keyspace.live_wait he]
  rcases step_cases hperform with hruns | rfl | ⟨redisKey', rfl⟩ | ⟨redisKey', _, _, rfl, rfl⟩
  · cases op with
    | proceed => exact hruns.elim
    | redis op =>
        cases op with
        | eval =>
            obtain ⟨-, rfl⟩ := script_step hruns hperform
            rw [luaScript_live_of_ne (by simp)] at hlive
            exact .inl (hwait hlive)
        | _ => exact hruns.elim
  · exact .inl (hwait hlive)
  · obtain ⟨e, he⟩ := Option.ne_none_iff_exists'.mp hlive
    refine .inl (hwait ?_)
    simp [Keyspace.live_of_del he]
  · by_cases heq : redisKey = redisKey'
    · exact .inr ⟨_, _, by rw [heq]⟩
    · rw [Keyspace.live_setex_of_ne fun hsame => heq (Key.blocked.inj hsame)] at hlive
      exact .inl (hwait hlive)

theorem sets_step
    (hperform : (guarded router defaultConfig).perform i conditions op r = some (a, r'))
    (hpermits : k.Permits router defaultConfig op) :
    (sortedSet r' redisKey).length ≤ (sortedSet r redisKey).length +
      (admission redisKey (.performed r i conditions op r')).toList.length := by
  have hwait : (sortedSet (r.wait conditions.waited) redisKey).length ≤ _ :=
    length_sortedSet_wait conditions.waited
  by_cases hruns : Runs conditions op
  · cases op with
    | proceed => exact hruns.elim
    | redis op =>
        cases op with
        | eval redisKey' now windowStart limit ttl =>
            obtain ⟨-, config, -, rfl, rfl, rfl⟩ := hpermits
            obtain ⟨-, rfl⟩ := script_step hruns hperform
            rw [admission_script hruns]
            by_cases heq : redisKey' = redisKey
            · subst heq
              refine Nat.le_trans (length_luaScript (Nat.succ_pos _)) ?_
              simp only [true_and]
              split <;> simp only [Option.toList_some, Option.toList_none, List.length_singleton,
                List.length_nil] <;> omega
            · rw [if_neg fun hboth => heq hboth.1]
              rw [sortedSet_of_live (luaScript_live_of_ne fun hsame => heq (Key.log.inj hsame).symm)]
              exact hwait
        | _ => exact hruns.elim
  · rw [sortedSet_of_live ((quiet_step hruns hperform).2 redisKey), admission_quiet hruns]
    exact hwait

theorem attributed_init (start : Nat) :
    Attributed router defaultConfig [] (Keyspace.empty start) where
  calls _ _ hk := by cases hk
  admitted _ _ _ h := absurd h List.not_mem_nil
  once _ := List.nodup_nil
  reached _ h := by
    obtain ⟨_, _, _, hmem⟩ := h
    cases hmem
  sets _ := Nat.le_refl _
  blocks _ _ _ _ _ hlive := absurd rfl hlive

theorem Attributed.started (h : Attributed router defaultConfig past r) (request : HttpRequest)
    (hnew : progressOf router defaultConfig past i = none) :
    Attributed router defaultConfig (past ++ [.started r i request]) r := by
  have hsame (redisKey : String) : admissions redisKey (past ++ [.started r i request]) =
      admissions redisKey past := (admissions_snoc _ _).trans (List.append_nil _)
  have hkeeps {j : Nat} {kj : Progress} (hj : progressOf router defaultConfig past j = some kj) :
      progressOf router defaultConfig (past ++ [.started r i request]) j = some kj := by
    have hne : j ≠ i := by
      rintro rfl
      rw [hnew] at hj
      cases hj
    exact (System.trace_started_of_ne hne).trans hj
  constructor
  case calls =>
    intro j kj hj
    rcases System.trace_started_cases hj with ⟨-, rfl⟩ | ⟨-, hold⟩
    · constructor <;> intro h <;> cases h
    · exact (h.calls j kj hold).mono _
  case admitted =>
    intro redisKey j t hmem
    rw [hsame] at hmem
    obtain ⟨kj, config, hj, hrest⟩ := h.admitted redisKey j t hmem
    exact ⟨kj, config, hkeeps hj, hrest⟩
  case once =>
    intro redisKey
    rw [hsame]
    exact h.once redisKey
  case reached =>
    rintro j ⟨s, conditions, s', hmem⟩
    have hold : Reached past j := by
      rcases List.mem_append.mp hmem with hmem | hmem
      · exact ⟨s, conditions, s', hmem⟩
      · cases List.mem_singleton.mp hmem
    obtain ⟨kj, hj, hrest⟩ := h.reached j hold
    exact ⟨kj, hkeeps hj, hrest⟩
  case sets =>
    intro redisKey
    rw [hsame]
    exact h.sets redisKey
  case blocks =>
    intro client method path config hconfig hlive
    rw [hsame]
    exact h.blocks client method path config hconfig hlive

/-- What was known of a call stays so, and its own step only adds to it. -/
theorem Attributed.keeps {j : Nat} {kj : Progress}
    (hk : progressOf router defaultConfig past i = some k)
    (hpermits : k.Permits router defaultConfig op)
    (hperform : (guarded router defaultConfig).perform i conditions op r = some (a, r'))
    (hj : progressOf router defaultConfig past j = some kj) :
    ∃ kj', progressOf router defaultConfig (past ++ [.performed r i conditions op r']) j = some kj' ∧
      kj'.request = kj.request ∧ (kj.failed = true → kj'.failed = true) ∧
        (kj.script = some true → kj'.script = some true) := by
  by_cases heq : j = i
  · subst heq
    obtain rfl : k = kj := Option.some.inj (hk.symm.trans hj)
    exact ⟨_, System.trace_performed_some hperform hk, Progress.advance_request,
      Progress.advance_failed, Progress.advance_script hpermits⟩
  · exact ⟨kj, (System.trace_performed_of_ne heq).trans hj, rfl, id, id⟩

theorem Attributed.performed (h : Attributed router defaultConfig past r)
    (hk : progressOf router defaultConfig past i = some k)
    (hpermits : k.Permits router defaultConfig op)
    (hperform : (guarded router defaultConfig).perform i conditions op r = some (a, r')) :
    Attributed router defaultConfig (past ++ [.performed r i conditions op r']) r' where
  calls j kj hj := by
    rcases System.trace_performed_cases hperform hk hj with ⟨rfl, rfl⟩ | ⟨-, hold⟩
    · exact h.learns hk hpermits hperform
    · exact (h.calls j kj hold).mono _
  admitted redisKey j t hmem := by
    rw [admissions_snoc] at hmem
    rcases List.mem_append.mp hmem with hold | hnew
    · obtain ⟨kj, config, hj, hscript, howns⟩ := h.admitted redisKey j t hold
      obtain ⟨kj', hj', hrequest, -, hkept⟩ := Attributed.keeps hk hpermits hperform hj
      refine ⟨kj', config, hj', hkept hscript, ?_⟩
      rw [Progress.Owns, hrequest]
      exact howns
    · obtain ⟨rfl, -, hscript, config, howns⟩ :=
        admission_performed hperform hpermits (Option.mem_toList.mp hnew)
      refine ⟨_, config, System.trace_performed_some hperform hk, hscript, ?_⟩
      rw [Progress.Owns, Progress.advance_request]
      exact howns
  once redisKey := by
    rw [admissions_snoc, List.map_append]
    cases hadmission : admission redisKey (.performed r i conditions op r') with
    | none => simpa using h.once redisKey
    | some admitted =>
        obtain ⟨j, t⟩ := admitted
        obtain ⟨rfl, hnone, -⟩ := admission_performed hperform hpermits hadmission
        refine List.nodup_append.mpr ⟨h.once redisKey, by simp, ?_⟩
        rintro j' hold _ hnew rfl
        obtain rfl : j' = j := List.mem_singleton.mp hnew
        obtain ⟨⟨j', t'⟩, hmem, rfl⟩ := List.mem_map.mp hold
        obtain ⟨k', config, hk', hscript, -⟩ := h.admitted redisKey j' t' hmem
        obtain rfl : k = k' := Option.some.inj (hk.symm.trans hk')
        rw [hnone] at hscript
        cases hscript
  reached j hreached := by
    obtain ⟨s, conditions', s', hmem⟩ := hreached
    rcases List.mem_append.mp hmem with hold | hnew
    · obtain ⟨kj, hj, hcases⟩ := h.reached j ⟨s, conditions', s', hold⟩
      obtain ⟨kj', hj', hrequest, hfailed, hscript⟩ := Attributed.keeps hk hpermits hperform hj
      refine ⟨kj', hj', ?_⟩
      rw [hrequest]
      exact hcases.imp_right (Or.imp hfailed hscript)
    · cases List.mem_singleton.mp hnew
      exact ⟨_, System.trace_performed_some hperform hk, hpermits⟩
  sets redisKey := by
    have hstep : (sortedSet r' redisKey).length ≤ _ := sets_step hperform hpermits
    have hbefore := h.sets redisKey
    rw [admissions_snoc, List.length_append]
    omega
  blocks client method path config hconfig hlive := by
    refine Nat.le_trans ?_ (length_admissions_mono _)
    rcases blocked_of_step hperform hlive with hbefore | ⟨seconds, blockedUntil, rfl⟩
    · exact h.blocks client method path config hconfig hbefore
    · obtain ⟨hspent, config', howns⟩ := hpermits
      obtain ⟨-, -, -, rfl⟩ := howns.route hconfig
      exact (h.calls i k hk).spent hspent config' _ howns

end Steps

/-! ## Runs -/

section Runs

variable {router : Router} {defaultConfig : RateLimitConfig} {start : Nat}
variable {ms : List (Move HttpRequest Conditions)} {es : List GuardEvent}
variable {P : Pool GuardOp GuardReply Outcome Redis} {config : RateLimitConfig}

theorem attributed_run
    (hrun : (guarded router defaultConfig).run ms (.init (Keyspace.empty start)) = some (es, P)) :
    (guarded router defaultConfig).Tracks (Attributed router defaultConfig)
      (fun request => ⟨request, none, false, false⟩)
      (fun _ op k => k.Permits router defaultConfig op) (fun _ _ _ => True) Progress.advance
      (fun _ => Progress.Concludes router defaultConfig) es P := by
  have htracks : (guarded router defaultConfig).Tracks (Attributed router defaultConfig)
      (fun request => ⟨request, none, false, false⟩)
      (fun _ op k => k.Permits router defaultConfig op) (fun _ _ _ => True) Progress.advance
      (fun _ => Progress.Concludes router defaultConfig) ([] ++ es) P ∧ ∀ e ∈ es, True := by
    refine System.run_tracked ?_ ?_ hrun (fun _ _ => trivial) (System.tracks_init (attributed_init start))
    · intro past r i request hnew h _
      exact ⟨Progress.request_watches request, h.started request (hnew i (Nat.le_refl i)), trivial⟩
    · intro past r i conditions op a r' k hk hpermits h hperform _
      exact ⟨trivial, h.performed hk hpermits hperform, trivial⟩
  exact htracks.1

/-- A call knows its request. -/
theorem requestOf_eq (i : Nat) : (guarded router defaultConfig).requestOf es i =
    (progressOf router defaultConfig es i).map Progress.request := by
  unfold progressOf System.requestOf
  refine System.trace_map ?_ ?_ i
  · exact fun _ => rfl
  · exact fun _ _ _ => Progress.advance_request

theorem progress_of_started {i : Nat} {s : Redis} {request : HttpRequest}
    (hrun : (guarded router defaultConfig).run ms (.init (Keyspace.empty start)) = some (es, P))
    (hs : .started s i request ∈ es) :
    ∃ k, progressOf router defaultConfig es i = some k ∧ k.request = request := by
  have hrequest := System.requestOf_started hrun hs
  rw [requestOf_eq] at hrequest
  exact Option.map_eq_some_iff.mp hrequest

theorem started_of_progress {i : Nat} {k : Progress}
    (hrun : (guarded router defaultConfig).run ms (.init (Keyspace.empty start)) = some (es, P))
    (hk : progressOf router defaultConfig es i = some k) : ∃ s, .started s i k.request ∈ es := by
  refine System.started_of_requestOf hrun ?_
  rw [requestOf_eq, hk, Option.map_some]

/-- In every run, whatever fails and however long it takes, nobody is turned away for the requests
of another client or of another route. -/
theorem refused_for_own
    (hrun : (guarded router defaultConfig).run ms (.init (Keyspace.empty start)) = some (es, P)) :
    BlamesOwn router defaultConfig es P := by
  intro i s request headers body hs hdone
  have htracks := attributed_run hrun
  obtain ⟨k, hk, hconcludes⟩ := htracks.calls i _ hdone
  obtain ⟨k', hk', rfl⟩ := progress_of_started hrun hs
  obtain rfl : k = k' := Option.some.inj (hk.symm.trans hk')
  obtain ⟨hspent, config, hconfig⟩ := hconcludes headers body rfl
  have henough := (htracks.inv.calls i k hk).spent hspent config _ ⟨hconfig, rfl⟩
  refine ⟨config, hconfig, ((admissions (redisKeyOf config (generateKey k.request)) es).map
    Prod.fst).take config.points, ?_, ?_, fun j hj => ?_⟩
  · exact (List.take_sublist _ _).nodup (htracks.inv.once _)
  · rw [List.length_take, List.length_map]
    exact Nat.min_eq_left henough
  · obtain ⟨⟨j', t⟩, hmem, rfl⟩ := List.mem_map.mp (List.mem_of_mem_take hj)
    obtain ⟨kj, configj, hkj, -, hownsj⟩ := htracks.inv.admitted _ j' t hmem
    obtain ⟨s', hs'⟩ := started_of_progress hrun hkj
    obtain ⟨hclient, hmethod, hpath, -⟩ := hownsj.route hconfig
    exact ⟨⟨s', kj.request, hs', hclient, hmethod, hpath⟩, t, config, hconfig, hmem⟩

end Runs

/-- A request to sign in. -/
def signIn (ip : String) : HttpRequest where
  user := none
  apiKey := none
  forwardedFor := none
  realIp := none
  ip := some ip
  remoteAddress := none
  method := "POST"
  routePath := some "/api/v1/auth/login"
  url := "/api/v1/auth/login"

/-- The steps of one call, which come a millisecond after one another on a clock that is right. -/
def stepsAt (call begins n : Nat) : List (Move HttpRequest Conditions) :=
  (List.range n).map fun k => .run call ⟨1, begins + k + 1, fun _ => none, toString call⟩

/-- Six requests from one address, one after the other, and one from another address. -/
def sixAttempts : List (Move HttpRequest Conditions) :=
  (List.range 6).flatMap (fun n => .start (signIn "10.0.0.1") :: stepsAt n (4 * n) 4) ++
    .start (signIn "10.0.0.2") :: stepsAt 6 24 4

/-- The first five go on, the sixth is turned away, and the other address is not concerned. -/
def fiveGoOn (result : List GuardEvent × Pool GuardOp GuardReply Outcome Redis) : Bool :=
  (result.2.calls.map fun
    | .done (.passed _) => some true
    | .done (.refused _ _) => some false
    | _ => none) ==
      [some true, some true, some true, some true, some true, some false, some true]

theorem refused_for_own_attempts :
    ∃ es P, (guarded gatewayRouter gatewayDefault).run sixAttempts (.init (Keyspace.empty 0)) =
      some (es, P) ∧ fiveGoOn (es, P) = true ∧ BlamesOwn gatewayRouter gatewayDefault es P := by
  have hrun : ((guarded gatewayRouter gatewayDefault).run sixAttempts
      (.init (Keyspace.empty 0))).any fiveGoOn = true := by
    decide +kernel
  obtain ⟨es, P, hrun, hfive⟩ := System.exists_run hrun
  exact ⟨es, P, hrun, hfive, refused_for_own hrun⟩

end FlightBookings.RateLimiter
