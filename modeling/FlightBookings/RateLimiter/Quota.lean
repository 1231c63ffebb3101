import FlightBookings.RateLimiter.Attribution
import FlightBookings.RateLimiter.Window

/-! # The quota of a client at a route

Between the clock that a request reads and the script that counts it other
requests pass, so that the windows are shorter than the configured ones by as
much as the two can differ.
-/

namespace FlightBookings.RateLimiter

open Await

variable (router : Router) (defaultConfig : RateLimitConfig)

/-- The script runs soon after the call has read its clock, which is not far ahead of Redis. -/
def Prompt (early late : Nat) : GuardEvent → Prop
  | .performed _ _ _ (.redis (.eval _ now _ _ _)) r' => r'.now ≤ now + late ∧ now ≤ r'.now + early
  | _ => True

/-- The member that the script draws is not in the set. -/
def DrawsNew : GuardEvent → Prop
  | .performed r _ conditions (.redis (.eval redisKey now windowStart _ _)) _ =>
      member now conditions.random ∉
        (prune windowStart (sortedSet (r.wait conditions.waited) redisKey)).map Prod.fst
  | _ => True

/-- No window that is shorter by `spread` holds more requests of a client at a route than its limit. -/
def FitsLimits (spread : Nat) (es : List GuardEvent) : Prop :=
  ∀ client method path config, router.config defaultConfig method path = some config →
    ∀ t (calls : List Nat), calls.Nodup →
      (∀ i ∈ calls, ∃ s, LetThrough router defaultConfig es client method path i s ∧
        t + spread < s + 1000 * config.duration ∧ s ≤ t) →
      calls.length ≤ config.points

/-- Requests get to their endpoints as such ones, at routes without a limit, and by errors. -/
def Accounted (es : List GuardEvent) : Prop :=
  ∀ i s request, .started s i request ∈ es → Reached es i →
    request.config router defaultConfig = none ∨ Failed es i ∨
      ∃ t, LetThrough router defaultConfig es request.client request.method request.path i t

/-! ## The set of a key -/

section Sets

/-- A time lies in the window that ends in `t`, which is shorter by `spread`. -/
def inside (duration spread t s : Nat) : Bool := t + spread < s + 1000 * duration && s ≤ t

def inShortened (duration spread t : Nat) (times : List Nat) : Nat :=
  times.countP (inside duration spread t)

/-- What the script admitted in the window that is open, the set of the key still holds. -/
structure Holds (config : RateLimitConfig) (redisKey : String) (early late : Nat) (times : List Nat)
    (r : Redis) : Prop where
  past : ∀ s ∈ times, s ≤ r.now
  counts : ∀ t, r.now ≤ t →
    times.countP (fun s => t + (early + late) < s + 1000 * config.duration) ≤
      (sortedSet r redisKey).countP fun e => t + early < e.2 + 1000 * config.duration
  deadline : ∀ e, r.live (.log redisKey) = some e → ∀ s ∈ times, s + 1000 * config.duration ≤ e.2

variable {config : RateLimitConfig} {redisKey random : String} {early late now : Nat}
variable {times : List Nat} {windowStart : Int} {r r' : Redis}

theorem holds_empty (start : Nat) : Holds config redisKey early late [] (Keyspace.empty start) where
  past _ h := absurd h List.not_mem_nil
  counts _ _ := Nat.zero_le _
  deadline _ _ _ h := absurd h List.not_mem_nil

theorem Holds.of_live (h : Holds config redisKey early late times r) (hnow : r'.now = r.now)
    (hlive : r'.live (.log redisKey) = r.live (.log redisKey)) :
    Holds config redisKey early late times r' where
  past := hnow ▸ h.past
  counts := by
    rw [hnow, sortedSet_of_live hlive]
    exact h.counts
  deadline := by
    rw [hlive]
    exact h.deadline

/-- The set does not vanish while the window reaches one of its requests. -/
theorem Holds.wait (h : Holds config redisKey early late times r) (ms : Nat) :
    Holds config redisKey early late times (r.wait ms) := by
  have hnow : (r.wait ms).now = r.now + ms := rfl
  refine ⟨fun s hs => ?_, fun t ht => ?_, fun e he => h.deadline e (Keyspace.live_wait he)⟩
  · have hle := h.past s hs
    omega
  · have hbefore := h.counts t (by omega)
    by_cases hsame : (r.wait ms).live (.log redisKey) = r.live (.log redisKey)
    · rw [sortedSet_of_live hsame]
      exact hbefore
    · have hgone : times.countP (fun s => t + (early + late) < s + 1000 * config.duration) = 0 := by
        cases hlive : r.live (.log redisKey) with
        | none =>
            rw [Keyspace.live_wait_eq, hlive] at hsame
            exact absurd rfl hsame
        | some e =>
            have hover : e.2 ≤ r.now + ms := by
              by_contra hlt
              exact hsame ((Keyspace.live_wait_of_lt hlive (by omega)).trans hlive.symm)
            rw [List.countP_eq_zero]
            intro s hs
            have hle := h.deadline e hlive s hs
            simp only [decide_eq_true_eq]
            omega
      omega

theorem countP_pruned (hstart : windowStart + 1000 * config.duration ≤ r.now + early) {t : Nat}
    (ht : r.now ≤ t) (entries : List (String × Nat)) :
    (prune windowStart entries).countP (fun e => t + early < e.2 + 1000 * config.duration) =
      entries.countP fun e => t + early < e.2 + 1000 * config.duration := by
  rw [prune, List.countP_filter]
  refine List.countP_congr fun e _ => ?_
  simp only [Bool.and_eq_true, decide_eq_true_eq]
  omega

/-- A request that is turned away only prunes the set. -/
theorem Holds.pruned (h : Holds config redisKey early late times r)
    (hstart : windowStart + 1000 * config.duration ≤ r.now + early) (hnow : r'.now = r.now)
    (hlive : r'.live (.log redisKey) =
      (r.live (.log redisKey)).map fun e => (prune windowStart e.1, e.2)) :
    Holds config redisKey early late times r' := by
  have hset : sortedSet r' redisKey = prune windowStart (sortedSet r redisKey) := by
    rw [sortedSet_eq, sortedSet_eq, hlive]
    cases r.live (.log redisKey) <;> rfl
  refine ⟨hnow ▸ h.past, fun t ht => ?_, fun e he => ?_⟩
  · rw [hnow] at ht
    rw [hset, countP_pruned hstart ht]
    exact h.counts t ht
  · rw [hlive] at he
    obtain ⟨e', hlive', rfl⟩ := Option.map_eq_some_iff.mp he
    exact h.deadline e' hlive'

/-- A request that is admitted under a new member is counted as long as the window reaches it. -/
theorem Holds.admitted (h : Holds config redisKey early late times r)
    (hstart : windowStart + 1000 * config.duration ≤ r.now + early) (hlate : r.now ≤ now + late)
    (hnew : member now random ∉ (prune windowStart (sortedSet r redisKey)).map Prod.fst)
    (hnow : r'.now = r.now)
    (hlive : r'.live (.log redisKey) =
      some (zadd now (member now random) (prune windowStart (sortedSet r redisKey)),
        r.now + (config.duration + 1) * 1000)) :
    Holds config redisKey early late (times ++ [r.now]) r' := by
  have hset : sortedSet r' redisKey =
      prune windowStart (sortedSet r redisKey) ++ [(member now random, now)] := by
    rw [sortedSet_eq, hlive, ← zadd_of_not_mem hnew]
    rfl
  refine ⟨fun s hs => ?_, fun t ht => ?_, fun e he s hs => ?_⟩
  · rw [hnow]
    rcases List.mem_append.mp hs with hs | hs
    · exact h.past s hs
    · exact Nat.le_of_eq (List.mem_singleton.mp hs)
  · rw [hnow] at ht
    have hbefore := h.counts t ht
    have hone : [r.now].countP (fun s => t + (early + late) < s + 1000 * config.duration) ≤
        [(member now random, now)].countP fun e => t + early < e.2 + 1000 * config.duration := by
      by_cases hopen : t + (early + late) < r.now + 1000 * config.duration
      · have hscore : t + early < now + 1000 * config.duration := by omega
        simp [hopen, hscore]
      · simp [hopen]
    rw [hset, List.countP_append, List.countP_append, countP_pruned hstart ht]
    omega
  · rw [hlive, Option.some.injEq] at he
    subst he
    have hle : s ≤ r.now := by
      rcases List.mem_append.mp hs with hs | hs
      · exact h.past s hs
      · exact Nat.le_of_eq (List.mem_singleton.mp hs)
    change s + 1000 * config.duration ≤ r.now + (config.duration + 1) * 1000
    omega

/-- No shortened window holds more than the limit after a request for which there was room. -/
theorem Holds.bounded (h : Holds config redisKey early late times r)
    (hbounded : ∀ t, inShortened config.duration (early + late) t times ≤ config.points)
    (hstart : windowStart + 1000 * config.duration ≤ r.now + early)
    (hroom : (prune windowStart (sortedSet r redisKey)).length < config.points) (t : Nat) :
    inShortened config.duration (early + late) t (times ++ [r.now]) ≤ config.points := by
  by_cases hlt : t < r.now
  · have hsame : inShortened config.duration (early + late) t (times ++ [r.now]) =
        inShortened config.duration (early + late) t times := by
      simp [inShortened, inside, List.countP_append, hlt]
    rw [hsame]
    exact hbounded t
  · have hopen : inShortened config.duration (early + late) t times ≤
        times.countP fun s => r.now + (early + late) < s + 1000 * config.duration := by
      refine List.countP_mono_left fun s _ hs => ?_
      simp only [inside, Bool.and_eq_true, decide_eq_true_eq] at hs ⊢
      omega
    have hheld := h.counts r.now (Nat.le_refl _)
    rw [← countP_pruned hstart (Nat.le_refl _)] at hheld
    have hall : (prune windowStart (sortedSet r redisKey)).countP
        (fun e => r.now + early < e.2 + 1000 * config.duration) ≤
          (prune windowStart (sortedSet r redisKey)).length := List.countP_le_length
    have hone : inShortened config.duration (early + late) t [r.now] ≤ 1 := List.countP_le_length
    rw [inShortened, List.countP_append]
    change inShortened config.duration (early + late) t times +
      inShortened config.duration (early + late) t [r.now] ≤ config.points
    omega

end Sets

/-! ## The limit -/

section Limit

variable {router : Router} {defaultConfig : RateLimitConfig} {conditions : Conditions} {i : Nat}
variable {op : GuardOp} {a : GuardReply op} {r r' : Redis} {k : Progress} {past : List GuardEvent}
variable {config config' : RateLimitConfig} {client : Client} {method path redisKey : String}

/-- What a key has admitted fits the limit in every shortened window, and its set knows it. -/
structure Within (config : RateLimitConfig) (redisKey : String) (early late : Nat)
    (past : List GuardEvent) (r : Redis) : Prop where
  holds : Holds config redisKey early late ((admissions redisKey past).map Prod.snd) r
  bounded : ∀ t, inShortened config.duration (early + late) t
    ((admissions redisKey past).map Prod.snd) ≤ config.points

/-- Every limited key keeps its limit. -/
def Capped (router : Router) (defaultConfig : RateLimitConfig) (early late : Nat)
    (past : List GuardEvent) (r : Redis) : Prop :=
  ∀ client method path config, router.config defaultConfig method path = some config →
    Within config (redisKeyOf config (keyOf client method path)) early late past r

variable {early late : Nat}

theorem capped_init (start : Nat) :
    Capped router defaultConfig early late [] (Keyspace.empty start) :=
  fun _ _ _ _ _ => ⟨holds_empty start, fun _ => Nat.zero_le _⟩

theorem Within.of_live {e : GuardEvent} (h : Within config redisKey early late past r) (ms : Nat)
    (hnow : r'.now = (r.wait ms).now)
    (hlive : r'.live (.log redisKey) = (r.wait ms).live (.log redisKey))
    (hnone : admission redisKey e = none) : Within config redisKey early late (past ++ [e]) r' := by
  have hsame : admissions redisKey (past ++ [e]) = admissions redisKey past := by
    rw [admissions_snoc, hnone]
    exact List.append_nil _
  exact ⟨hsame ▸ (h.holds.wait ms).of_live hnow hlive, hsame ▸ h.bounded⟩

/-- The script keeps the limit of the key for which it runs. -/
theorem Within.script {now : Nat} (h : Within config redisKey early late past r)
    (hruns : Runs conditions (scriptOp config redisKey now))
    (hafter : r' = (luaScript redisKey now ((now : Int) - config.duration * 1000) config.points
      (config.duration + 1) conditions.random (r.wait conditions.waited)).2)
    (hprompt : r'.now ≤ now + late ∧ now ≤ r'.now + early)
    (hnew : member now conditions.random ∉ (prune ((now : Int) - config.duration * 1000)
      (sortedSet (r.wait conditions.waited) redisKey)).map Prod.fst) :
    Within config redisKey early late
      (past ++ [.performed r i conditions (scriptOp config redisKey now) r']) r' := by
  have hheld := h.holds.wait conditions.waited
  have hnow : r'.now = (r.wait conditions.waited).now := by rw [hafter, luaScript_now]
  have hstart : ((now : Int) - config.duration * 1000) + 1000 * config.duration ≤
      (r.wait conditions.waited).now + early := by omega
  have hadmission : admission redisKey
      (.performed r i conditions (scriptOp config redisKey now) r') = _ := admission_script hruns
  by_cases hroom : (prune ((now : Int) - config.duration * 1000)
      (sortedSet (r.wait conditions.waited) redisKey)).length < config.points
  · rw [if_pos ⟨rfl, hroom⟩] at hadmission
    have htimes : (admissions redisKey
        (past ++ [.performed r i conditions (scriptOp config redisKey now) r'])).map Prod.snd =
          (admissions redisKey past).map Prod.snd ++ [(r.wait conditions.waited).now] := by
      rw [admissions_snoc, hadmission, Option.toList_some, List.map_append, hnow]
      rfl
    constructor
    · rw [htimes]
      refine hheld.admitted hstart (by omega) hnew hnow ?_
      rw [hafter]
      exact luaScript_admits hroom (Nat.succ_pos _)
    · intro t
      rw [htimes]
      exact hheld.bounded h.bounded hstart hroom t
  · rw [if_neg fun hboth => hroom hboth.2] at hadmission
    have hsame : admissions redisKey
        (past ++ [.performed r i conditions (scriptOp config redisKey now) r']) =
          admissions redisKey past := by
      rw [admissions_snoc, hadmission]
      exact List.append_nil _
    constructor
    · rw [hsame]
      refine hheld.pruned hstart hnow ?_
      rw [hafter]
      exact luaScript_refuses hroom
    · rw [hsame]
      exact h.bounded

theorem Capped.performed (h : Capped router defaultConfig early late past r)
    (hpermits : k.Permits router defaultConfig op)
    (hperform : (guarded router defaultConfig).perform i conditions op r = some (a, r'))
    (hprompt : Prompt early late (.performed r i conditions op r'))
    (hnew : DrawsNew (.performed r i conditions op r')) :
    Capped router defaultConfig early late (past ++ [.performed r i conditions op r']) r' := by
  intro client method path config hconfig
  have hkey := h client method path config hconfig
  by_cases hruns : Runs conditions op
  · cases op with
    | proceed => exact hruns.elim
    | redis op =>
        cases op with
        | eval redisKey' now windowStart limit ttl =>
            obtain ⟨-, hafter⟩ := script_step hruns hperform
            obtain ⟨-, config', howns, rfl, rfl, rfl⟩ := hpermits
            by_cases heq : redisKey' = redisKeyOf config (keyOf client method path)
            · subst heq
              obtain ⟨-, -, -, rfl⟩ := howns.route hconfig
              exact hkey.script hruns hafter hprompt hnew
            · refine hkey.of_live conditions.waited ?_ ?_ ?_
              · rw [hafter, luaScript_now]
              · rw [hafter]
                exact luaScript_live_of_ne fun hsame => heq (Key.log.inj hsame).symm
              · rw [admission_script hruns, if_neg fun hboth => heq hboth.1]
        | _ => exact hruns.elim
  · obtain ⟨hnow, hlive⟩ := quiet_step hruns hperform
    exact hkey.of_live conditions.waited hnow (hlive _) (admission_quiet hruns)

end Limit

/-! ## Runs -/

section Runs

variable {router : Router} {defaultConfig : RateLimitConfig} {start early late : Nat}
variable {ms : List (Move HttpRequest Conditions)} {es : List GuardEvent}
variable {P : Pool GuardOp GuardReply Outcome Redis} {config : RateLimitConfig}

theorem capped_run
    (hrun : (guarded router defaultConfig).run ms (.init (Keyspace.empty start)) = some (es, P))
    (hprompt : ∀ e ∈ es, Prompt early late e) (hnew : ∀ e ∈ es, DrawsNew e) :
    Capped router defaultConfig early late es P.state := by
  have htracks : (guarded router defaultConfig).Tracks (Capped router defaultConfig early late)
      (fun request => ⟨request, none, false, false⟩)
      (fun _ op k => k.Permits router defaultConfig op) (fun _ _ _ => True) Progress.advance
      (fun _ => Progress.Concludes router defaultConfig) ([] ++ es) P ∧ ∀ e ∈ es, True := by
    refine System.run_tracked ?_ ?_ hrun (fun e he => And.intro (hprompt e he) (hnew e he))
      (System.tracks_init (capped_init start))
    · intro past r i request _ h _
      refine ⟨Progress.request_watches request, fun client method path config hconfig => ?_, trivial⟩
      exact (h client method path config hconfig).of_live 0 rfl rfl rfl
    · intro past r i conditions op a r' k hk hpermits h hperform hallows
      exact ⟨trivial, h.performed hpermits hperform hallows.1 hallows.2, trivial⟩
  exact htracks.1.inv

/-- In every run whose scripts run promptly and draw new members, the limits hold in the windows that
are shorter by the delay. -/
theorem quota_kept
    (hrun : (guarded router defaultConfig).run ms (.init (Keyspace.empty start)) = some (es, P))
    (hprompt : ∀ e ∈ es, Prompt early late e) (hnew : ∀ e ∈ es, DrawsNew e) :
    FitsLimits router defaultConfig (early + late) es ∧ Accounted router defaultConfig es := by
  constructor
  · intro client method path config hconfig t calls hnodup hcalls
    have hbounded := (capped_run hrun hprompt hnew client method path config hconfig).bounded t
    have hsubset : calls ⊆ ((admissions (redisKeyOf config (keyOf client method path)) es).filter
        (inside config.duration (early + late) t ∘ Prod.snd)).map Prod.fst := by
      intro i hi
      obtain ⟨s, ⟨config', hconfig', hmem⟩, hopen, hle⟩ := hcalls i hi
      obtain rfl : config = config' := Option.some.inj (hconfig.symm.trans hconfig')
      refine List.mem_map.mpr ⟨(i, s), List.mem_filter.mpr ⟨hmem, ?_⟩, rfl⟩
      simp [inside, hopen, hle]
    have hlength := hnodup.length_le_of_subset hsubset
    rw [List.length_map, ← List.countP_eq_length_filter] at hlength
    rw [inShortened, List.countP_map] at hbounded
    exact Nat.le_trans hlength hbounded
  · intro i s request hs hreached
    have htracks := attributed_run hrun
    obtain ⟨k, hk, hcases⟩ := htracks.inv.reached i hreached
    obtain ⟨k', hk', rfl⟩ := progress_of_started hrun hs
    obtain rfl : k = k' := Option.some.inj (hk.symm.trans hk')
    have htold := htracks.inv.calls i k hk
    refine hcases.imp_right (Or.imp htold.failed fun hscript => ?_)
    obtain ⟨config, redisKey, t, ⟨hconfig, rfl⟩, hmem⟩ := htold.script hscript
    exact ⟨t, config, hconfig, hmem⟩

end Runs

instance (early late : Nat) : DecidablePred (Prompt early late) := fun e => by
  unfold Prompt
  split <;> infer_instance

instance : DecidablePred DrawsNew := fun e => by
  unfold DrawsNew
  split <;> infer_instance

theorem quota_kept_attempts :
    ∃ es P, (guarded gatewayRouter gatewayDefault).run sixAttempts (.init (Keyspace.empty 0)) =
        some (es, P) ∧ fiveGoOn (es, P) = true ∧
      FitsLimits gatewayRouter gatewayDefault 2 es ∧ Accounted gatewayRouter gatewayDefault es := by
  have hrun : ((guarded gatewayRouter gatewayDefault).run sixAttempts
      (.init (Keyspace.empty 0))).any (fun result => fiveGoOn result &&
        (result.1.all fun e => Prompt 0 2 e) && result.1.all fun e => DrawsNew e) = true := by
    decide +kernel
  obtain ⟨es, P, hrun, hresult⟩ := System.exists_run hrun
  simp only [Bool.and_eq_true, List.all_eq_true, decide_eq_true_eq] at hresult
  obtain ⟨⟨hfive, hprompt⟩, hnew⟩ := hresult
  exact ⟨es, P, hrun, hfive, quota_kept hrun hprompt hnew⟩

end FlightBookings.RateLimiter
