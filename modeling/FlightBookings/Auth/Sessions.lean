import FlightBookings.Auth.Protocol

/-! # What the calls do to the sessions

Every operation of a call has one of a few effects on the stored ids and on what
the call knows. A stored id is one that a call drew for a token of that session,
and no two calls drew the same id.
-/

namespace FlightBookings.Auth

open Await

/-- What an operation does to the stores and to the progress of its call. -/
inductive Effect (w : World) (k : Progress) : Op → World → Progress → Prop where
  | failed {op : Op} : Effect w k op w { k with ended := true }
  | plain {op : Op} {w' : World}
      (hget : ∀ key v, w'.redis.get key = some v → w.redis.get key = some v)
      (hissued : w'.issued = w.issued) : Effect w k op w' k
  | signsIn {email : String} {dto : SignInDto} {ip : Option String} {user : User}
      (hk : k.Untouched) (hpair : k.pair = none) (hrequest : k.request = .signIn dto ip)
      (huser : w.users.byEmail email = some user) :
      Effect w k (.findUserByEmail email) w
        { k with pair := some (user.id, dto.deviceId), validated := user.storedHash.isNone }
  | compared {password storedHash : String} {isMatch : Bool} (hk : k.Untouched)
      (hrequest : k.request.isSignIn = true) :
      Effect w k (.compare password storedHash) w
        { k with validated := isMatch, ended := !isMatch }
  | found {id : Int} {pair : Int × String} (hk : k.Untouched) (hpair : k.pair = none)
      (hrequest : k.request.refresh.isSome = true) :
      Effect w k (.findUserById id) w { k with pair := some pair }
  | read {userId : Int} {deviceId : String} {dto : RefreshTokenDto} (hk : k.Untouched)
      (hpair : k.pair = some (userId, deviceId)) (hrequest : k.request = .refreshTokens dto) :
      Effect w k (.get (.refreshToken userId deviceId)) w
        { k with
          validated := isCurrent (w.redis.get (.refreshToken userId deviceId))
            dto.refreshToken.claims.refreshTokenId }
  | deleted {userId : Int} {deviceId : String} (hk : k.MayDelete)
      (hpair : k.pair = some (userId, deviceId)) :
      Effect w k (.del (.refreshToken userId deviceId))
        { w with redis := w.redis.del (.refreshToken userId deviceId) } { k with deleted := true }
  | drew {uuid : String} (hk : k.Ready) (hdrawn : k.drawn = none) (hfresh : uuid ∉ w.issued)
      (hname : uuid ≠ "null") :
      Effect w k .randomUUID { w with issued := uuid :: w.issued } { k with drawn := some uuid }
  | inserted {userId : Int} {deviceId uuid : String} {seconds : Nat} (hk : k.Ready)
      (hpair : k.pair = some (userId, deviceId)) (hdrawn : k.drawn = some uuid)
      (hseconds : 0 < seconds) :
      Effect w k (.set (.refreshToken userId deviceId) uuid seconds)
        { w with redis := w.redis.setex (.refreshToken userId deviceId) seconds uuid }
        { k with inserted := true }
  | blacklisted {tokenId value : String} {seconds : Nat} (hdeleted : k.deleted = true)
      (hdrawn : k.drawn = none) (hended : k.ended = false) :
      Effect w k (.set (.blacklist tokenId) value seconds)
        { w with redis := w.redis.setex (.blacklist tokenId) seconds value }
        { k with ended := k.request.isSignOut }

variable {config : JwtConfig} {past : List Event} {w w' : World} {k k' : Progress} {op : Op}
variable {choice : Choice} {r : Except Exception op.Ret} {i : Nat}

/-- Everything that performing an operation can come to. -/
theorem performWith_cases (h : performWith choice op w = some (r, w')) :
    (∃ message, r = .error (.error message) ∧ w' = w) ∨
      (op.perform choice w = (r, w') ∧ (op = .randomUUID → w.draws choice.uuid = true)) := by
  by_cases hop : op = .randomUUID
  · subst hop
    simp only [performWith] at h
    split at h
    · rename_i hdraws
      exact .inr ⟨Option.some.inj h, fun _ => hdraws⟩
    · cases h
  · cases hfails : choice.fails with
    | some message =>
        have hfailed : performWith choice op w = some (.error (.error message), w) := by
          cases op <;> first | exact absurd rfl hop | simp [performWith, hfails]
        rw [hfailed] at h
        cases h
        exact .inl ⟨message, rfl, rfl⟩
    | none =>
        have hdone : performWith choice op w = some (op.perform choice w) := by
          cases op <;> first | exact absurd rfl hop | simp [performWith, hfails]
        rw [hdone] at h
        exact .inr ⟨Option.some.inj h, fun heq => absurd heq hop⟩

theorem fails_of_ok {a : op.Ret} (hop : op ≠ .randomUUID)
    (h : performWith choice op w = some (.ok a, w')) : choice.fails = none := by
  cases hfails : choice.fails with
  | none => rfl
  | some message =>
      have hr : performWith choice op w = some (.error (.error message), w) := by
        cases op <;> first | exact absurd rfl hop | simp [performWith, hfails]
      rw [hr] at h
      cases h

/-- The effect of a performed operation, if the call may do it where it stands. -/
theorem effect_of (hnext : Next k op) (h : performWith choice op w = some (r, w')) :
    Effect w k op w' (advance op r k) := by
  rcases performWith_cases h with ⟨message, rfl, rfl⟩ | ⟨hop, hdraws⟩
  · exact .failed
  cases op with
  | findUserByEmail email =>
      cases hop
      obtain ⟨huntouched, hpair⟩ := hnext
      obtain ⟨request, pair, drawn, validated, deleted, inserted, ended⟩ := k
      cases request with
      | signIn dto ip =>
          cases hfound : w.users.byEmail email with
          | none => exact .plain (fun _ _ h => h) rfl
          | some user => exact .signsIn huntouched hpair rfl hfound
      | _ => exact .plain (fun _ _ h => h) rfl
  | findUserById id =>
      obtain ⟨huntouched, hpair, dto, hrequest, -⟩ := hnext
      obtain ⟨request, pair, drawn, validated, deleted, inserted, ended⟩ := k
      cases hrequest
      simp only [Op.perform] at hop
      split at hop
      · cases hop
        exact .found huntouched hpair rfl
      · cases hop
        exact .failed
  | compare password storedHash =>
      cases hop
      exact .compared hnext.1 hnext.2
  | get key =>
      cases hop
      cases key with
      | blacklist tokenId => exact .plain (fun _ _ h => h) rfl
      | refreshToken userId deviceId =>
          obtain ⟨huntouched, hpair, -⟩ := hnext
          obtain ⟨request, pair, drawn, validated, deleted, inserted, ended⟩ := k
          cases request with
          | refreshTokens dto => exact .read huntouched hpair rfl
          | _ => exact .plain (fun _ _ h => h) rfl
  | del key =>
      cases hop
      obtain ⟨hmay, userId, deviceId, rfl, hpair⟩ := hnext
      exact .deleted hmay hpair
  | set key value seconds =>
      cases hop
      cases key with
      | refreshToken userId deviceId =>
          obtain ⟨hready, hdrawn, hpair, hseconds⟩ := hnext
          exact .inserted hready hpair hdrawn hseconds
      | blacklist tokenId =>
          obtain ⟨hdeleted, hdrawn, hended⟩ := hnext
          exact .blacklisted hdeleted hdrawn hended
  | randomUUID =>
      cases hop
      have hnew := hdraws rfl
      simp only [World.draws, Bool.and_eq_true, decide_eq_true_eq, bne_iff_ne] at hnew
      exact .drew hnext.1 hnext.2 hnew.1.1 hnew.1.2
  | saveUser dto hash =>
      simp only [Op.perform] at hop
      split at hop
      · cases hop
        exact .plain (fun _ _ h => h) rfl
      · cases hop
        exact .failed
  | verifyAccess token =>
      simp only [Op.perform] at hop
      split at hop
      · cases hop
        exact .plain (fun _ _ h => h) rfl
      · cases hop
        exact .failed
  | verifyRefresh token =>
      simp only [Op.perform] at hop
      split at hop
      · cases hop
        exact .plain (fun _ _ h => h) rfl
      · cases hop
        exact .failed
  | wait ms =>
      cases hop
      exact .plain (fun _ _ h => Keyspace.get_of_wait h) rfl
  | _ =>
      cases hop
      exact .plain (fun _ _ h => h) rfl

/-- The replies say what their operations ask for. -/
theorem answers_of (h : performWith choice op w = some (r, w')) : Answers op r := by
  rcases performWith_cases h with ⟨message, rfl, -⟩ | ⟨hop, -⟩
  · cases op <;> trivial
  · cases op with
    | findUserById id =>
        simp only [Op.perform] at hop
        split at hop
        · rename_i user huser
          cases hop
          exact (Table.mem_of_find huser).2
        · cases hop
          trivial
    | verifyRefresh token =>
        simp only [Op.perform] at hop
        split at hop
        · cases hop
          rfl
        · cases hop
          trivial
    | _ => trivial

/-! ## What every effect keeps -/

theorem Effect.request (h : Effect w k op w' k') : k'.request = k.request := by
  cases h <;> rfl

theorem Effect.issued (h : Effect w k op w' k') {x : String} (hx : x ∈ w.issued) :
    x ∈ w'.issued := by
  cases h with
  | plain hget hissued => exact hissued ▸ hx
  | drew => exact List.mem_cons_of_mem _ hx
  | _ => exact hx

/-- An id that a call has drawn it drew before, or it draws it now. -/
theorem Effect.drawn (h : Effect w k op w' k') {x : String} (hx : k'.drawn = some x) :
    k.drawn = some x ∨ (x ∉ w.issued ∧ x ∈ w'.issued) := by
  cases h with
  | drew hk hdrawn hfresh =>
      cases hx
      exact .inr ⟨hfresh, List.mem_cons_self⟩
  | _ => exact .inl hx

/-- A call that has stored its id is through with the session. -/
theorem Effect.of_inserted (h : Effect w k op w' k') (hk : k.inserted = true) :
    k'.drawn = k.drawn ∧ k'.pair = k.pair ∧ k'.inserted = true := by
  cases h with
  | signsIn huntouched => exact absurd (huntouched.inserted.symm.trans hk) Bool.false_ne_true
  | found huntouched => exact absurd (huntouched.inserted.symm.trans hk) Bool.false_ne_true
  | drew hready => exact absurd (hready.inserted.symm.trans hk) Bool.false_ne_true
  | inserted => exact ⟨rfl, rfl, rfl⟩
  | _ => exact ⟨rfl, rfl, hk⟩

/-- A stored id was there before, or the call has just stored it. -/
theorem Effect.stored (h : Effect w k op w' k') {userId : Int} {deviceId x : String}
    (hx : w'.redis.get (.refreshToken userId deviceId) = some x) :
    w.redis.get (.refreshToken userId deviceId) = some x ∨
      (k.Ready ∧ k.drawn = some x ∧ k.pair = some (userId, deviceId) ∧
        k' = { k with inserted := true }) := by
  cases h with
  | plain hget => exact .inl (hget _ _ hx)
  | deleted => exact .inl (Keyspace.get_of_del hx)
  | blacklisted =>
      rw [Keyspace.get, Keyspace.live_setex_of_ne (by simp)] at hx
      exact .inl hx
  | @inserted u d uuid seconds hready hpair hdrawn hseconds =>
      by_cases hkey : Key.refreshToken userId deviceId = .refreshToken u d
      · cases hkey
        rw [Keyspace.get, Keyspace.live_setex_self hseconds] at hx
        cases hx
        exact .inr ⟨hready, hdrawn, hpair, rfl⟩
      · rw [Keyspace.get, Keyspace.live_setex_of_ne hkey] at hx
        exact .inl hx
  | _ => exact .inl hx

/-! ## The invariant of the stored ids -/

theorem progressOf_self (hperform : performWith choice op w = some (r, w'))
    (hk : progressOf config past i = some k) :
    progressOf config (past ++ [.performed w i choice op w']) i = some (advance op r k) := by
  have hstep : progressOf config (past ++ [.performed w i choice op w']) i =
      (progressOf config past i).map (advance op r) := System.trace_performed_self hperform
  rw [hstep, hk, Option.map_some]

theorem progressOf_of_ne {j : Nat} (hj : j ≠ i) :
    progressOf config (past ++ [.performed w i choice op w']) j = progressOf config past j :=
  System.trace_performed_of_ne hj

/-- The call that moves, or one that stays where it is. -/
theorem progressOf_cases {j : Nat} {kj : Progress}
    (hperform : performWith choice op w = some (r, w')) (hk : progressOf config past i = some k)
    (hj : progressOf config (past ++ [.performed w i choice op w']) j = some kj) :
    (j = i ∧ kj = advance op r k) ∨ (j ≠ i ∧ progressOf config past j = some kj) := by
  by_cases heq : j = i
  · subst heq
    rw [progressOf_self hperform hk, Option.some.injEq] at hj
    exact .inl ⟨rfl, hj.symm⟩
  · rw [progressOf_of_ne heq] at hj
    exact .inr ⟨heq, hj⟩

theorem progressOf_started {request : Request} :
    progressOf config (past ++ [.started w i request]) i = some request.progress :=
  System.trace_started_self

theorem progressOf_started_of_ne {request : Request} {j : Nat} (hj : j ≠ i) :
    progressOf config (past ++ [.started w i request]) j = progressOf config past j :=
  System.trace_started_of_ne hj

theorem progressOf_started_cases {request : Request} {j : Nat} {kj : Progress}
    (hj : progressOf config (past ++ [.started w i request]) j = some kj) :
    (j = i ∧ kj = request.progress) ∨ (j ≠ i ∧ progressOf config past j = some kj) := by
  by_cases heq : j = i
  · subst heq
    rw [progressOf_started, Option.some.injEq] at hj
    exact .inl ⟨rfl, hj.symm⟩
  · rw [progressOf_started_of_ne heq] at hj
    exact .inr ⟨heq, hj⟩

/-- Call `i` has stored the id for a token of the session. -/
def Stored (config : JwtConfig) (past : List Event) (pair : Option (Int × String)) (x : String) :
    Prop :=
  ∃ i k, progressOf config past i = some k ∧ k.drawn = some x ∧ k.pair = pair ∧ k.inserted = true

structure Sessions (config : JwtConfig) (past : List Event) (w : World) : Prop where
  issued : ∀ i k x, progressOf config past i = some k → k.drawn = some x → x ∈ w.issued
  drawn : ∀ i j k k' x, progressOf config past i = some k → progressOf config past j = some k' →
    k.drawn = some x → k'.drawn = some x → i = j
  stored : ∀ userId deviceId x, w.redis.get (.refreshToken userId deviceId) = some x →
    Stored config past (some (userId, deviceId)) x
  requested : ∀ s i request, .started s i request ∈ past →
    ∃ k, progressOf config past i = some k ∧ k.request = request

theorem sessions_init {now : Nat} {users : UserTable} :
    Sessions config [] (World.init now users) where
  issued _ _ _ hk := by cases hk
  drawn _ _ _ _ _ hk := by cases hk
  stored _ _ _ hx := by cases hx
  requested _ _ _ hmem := absurd hmem List.not_mem_nil

section Steps

variable {pair : Option (Int × String)} {x : String}

theorem Stored.performed (h : Stored config past pair x) (hnext : Next k op)
    (hk : progressOf config past i = some k) (hperform : performWith choice op w = some (r, w')) :
    Stored config (past ++ [.performed w i choice op w']) pair x := by
  obtain ⟨j, kj, hj, hdrawn, hpair, hinserted⟩ := h
  by_cases heq : j = i
  · subst heq
    have hsame : kj = k := Option.some.inj (hj.symm.trans hk)
    subst hsame
    obtain ⟨hdrawn', hpair', hinserted'⟩ := (effect_of hnext hperform).of_inserted hinserted
    exact ⟨j, _, progressOf_self hperform hk, hdrawn'.trans hdrawn, hpair'.trans hpair, hinserted'⟩
  · exact ⟨j, kj, (progressOf_of_ne heq).trans hj, hdrawn, hpair, hinserted⟩

theorem Stored.started {request : Request} (h : Stored config past pair x)
    (hnew : progressOf config past i = none) :
    Stored config (past ++ [.started w i request]) pair x := by
  obtain ⟨j, kj, hj, hrest⟩ := h
  have hne : j ≠ i := by
    intro heq
    subst heq
    rw [hnew] at hj
    cases hj
  exact ⟨j, kj, (progressOf_started_of_ne hne).trans hj, hrest⟩

theorem Sessions.started (h : Sessions config past w) (hnew : progressOf config past i = none)
    (request : Request) : Sessions config (past ++ [.started w i request]) w := by
  have hblank : request.progress.drawn = none := rfl
  refine ⟨fun j kj x hj hx => ?_, fun j j' kj kj' x hj hj' hx hx' => ?_,
    fun userId deviceId x hx => (h.stored userId deviceId x hx).started hnew,
    fun s j request' hmem => ?_⟩
  · rcases progressOf_started_cases hj with ⟨-, rfl⟩ | ⟨-, hj⟩
    · exact absurd (hblank.symm.trans hx) (by simp)
    · exact h.issued j kj x hj hx
  · rcases progressOf_started_cases hj with ⟨-, rfl⟩ | ⟨-, hj⟩
    · exact absurd (hblank.symm.trans hx) (by simp)
    · rcases progressOf_started_cases hj' with ⟨-, rfl⟩ | ⟨-, hj'⟩
      · exact absurd (hblank.symm.trans hx') (by simp)
      · exact h.drawn j j' kj kj' x hj hj' hx hx'
  · rcases List.mem_append.mp hmem with hold | hlast
    · obtain ⟨kj, hj, hrequest⟩ := h.requested s j request' hold
      have hne : j ≠ i := by
        intro heq
        subst heq
        rw [hnew] at hj
        cases hj
      exact ⟨kj, (progressOf_started_of_ne hne).trans hj, hrequest⟩
    · cases List.mem_singleton.mp hlast
      exact ⟨_, progressOf_started, rfl⟩

theorem Sessions.performed (h : Sessions config past w) (hk : progressOf config past i = some k)
    (hnext : Next k op) (hperform : performWith choice op w = some (r, w')) :
    Sessions config (past ++ [.performed w i choice op w']) w' := by
  have heffect := effect_of hnext hperform
  refine ⟨fun j kj x hj hx => ?_, fun j j' kj kj' x hj hj' hx hx' => ?_,
    fun userId deviceId x hx => ?_, fun s j request hmem => ?_⟩
  · rcases progressOf_cases hperform hk hj with ⟨-, rfl⟩ | ⟨-, hj⟩
    · rcases heffect.drawn hx with hold | ⟨-, hissued⟩
      · exact heffect.issued (h.issued i k x hk hold)
      · exact hissued
    · exact heffect.issued (h.issued j kj x hj hx)
  · rcases progressOf_cases hperform hk hj with ⟨rfl, rfl⟩ | ⟨-, hbefore⟩
    · rcases progressOf_cases hperform hk hj' with ⟨rfl, -⟩ | ⟨-, hbefore'⟩
      · rfl
      · rcases heffect.drawn hx with hold | ⟨hfresh, -⟩
        · exact h.drawn j j' k kj' x hk hbefore' hold hx'
        · exact absurd (h.issued j' kj' x hbefore' hx') hfresh
    · rcases progressOf_cases hperform hk hj' with ⟨rfl, rfl⟩ | ⟨-, hbefore'⟩
      · rcases heffect.drawn hx' with hold | ⟨hfresh, -⟩
        · exact h.drawn j j' kj k x hbefore hk hx hold
        · exact absurd (h.issued j kj x hbefore hx) hfresh
      · exact h.drawn j j' kj kj' x hbefore hbefore' hx hx'
  · rcases heffect.stored hx with hold | ⟨-, hdrawn, hpair, hk'⟩
    · exact (h.stored userId deviceId x hold).performed hnext hk hperform
    · refine ⟨i, _, progressOf_self hperform hk, ?_, ?_, ?_⟩
      · rw [hk']
        exact hdrawn
      · rw [hk']
        exact hpair
      · rw [hk']
  · rcases List.mem_append.mp hmem with hold | hlast
    · obtain ⟨kj, hj, hrequest⟩ := h.requested s j request hold
      by_cases heq : j = i
      · subst heq
        have hsame : kj = k := Option.some.inj (hj.symm.trans hk)
        subst hsame
        exact ⟨_, progressOf_self hperform hk, heffect.request.trans hrequest⟩
      · exact ⟨kj, (progressOf_of_ne heq).trans hj, hrequest⟩
    · cases List.mem_singleton.mp hlast

end Steps

/-! ## Runs -/

/-- An invariant holds of the past, and every call has followed its progress. -/
abbrev Tracking (config : JwtConfig) (inv : List Event → World → Prop) (past : List Event)
    (P : ServicePool) : Prop :=
  (service config).Tracks inv Request.progress (fun _ op k => Next k op)
    (fun _ op r => Answers op r) advance (fun _ r k => ∀ tokens, r.1 = .ok tokens → Returns k tokens)
    past P

theorem tracking_run {cond : List Event → Event → Prop} {inv : List Event → World → Prop}
    {ms : List (Move Request Choice)} {es : List Event} {P P' : ServicePool}
    (hstarted : ∀ {past w i} (request : Request), progressOf config past i = none → inv past w →
      cond past (.started w i request) → inv (past ++ [.started w i request]) w)
    (hperformed : ∀ {past w i choice op r w' k}, progressOf config past i = some k → Next k op →
      inv past w → performWith choice op w = some (r, w') →
      cond past (.performed w i choice op w') → inv (past ++ [.performed w i choice op w']) w')
    (hrun : (service config).run ms P = some (es, P')) (hcond : System.Throughout cond past es)
    (hP : Tracking config inv past P) : Tracking config inv (past ++ es) P' := by
  have key : Tracking config inv (past ++ es) P' ∧ ∀ e ∈ es, True := by
    refine System.run_tracked_throughout ?_ ?_ hrun hcond hP
    · intro past w i request hnew hinv hallows
      refine ⟨Program.wp_mono ?_ (request_follows config request),
        hstarted request (hnew i (Nat.le_refl i)) hinv hallows, trivial⟩
      intro r k hr tokens htokens
      rcases r with ⟨e | a, u⟩
      · cases htokens
      · cases htokens
        exact hr
    · intro past w i choice op r w' k hk hnext hinv hperform hallows
      exact ⟨answers_of hperform, hperformed hk hnext hinv hperform hallows, trivial⟩
  exact key.1

end FlightBookings.Auth
