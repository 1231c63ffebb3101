import FlightBookings.Auth.Gateway
import FlightBookings.Auth.Sessions

/-! # Sessions of other users

The requests of one user can reach the session of another one only through the
body of a logout, which names a user of its own. Where no logout finds a stored
id that way, the ids and the black list entries of the other user are left to
the time.
-/

namespace FlightBookings.Auth

open Await

/-- The ids of the tokens that were signed for a user. -/
def idsOf (userId : Int) (w : World) : List String :=
  (w.refreshTokens.filter fun token => token.claims.sub = userId).map Token.id

/-- The stored ids of a user and the black list entries of the given ids are as if nothing but
time had passed. -/
structure Untouched (userId : Int) (ids : List String) (w w' : World) : Prop where
  stored : ∀ deviceId, Keyspace.Ages (.refreshToken userId deviceId) w.redis w'.redis
  listed : ∀ tokenId ∈ ids, Keyspace.Ages (.blacklist tokenId) w.redis w'.redis

theorem untouched_refl {userId : Int} {ids : List String} {w : World} : Untouched userId ids w w :=
  ⟨fun _ => Keyspace.ages_refl, fun _ _ => Keyspace.ages_refl⟩

theorem Untouched.trans {userId : Int} {ids : List String} {w w' w'' : World}
    (h : Untouched userId ids w w') (h' : Untouched userId ids w' w'') :
    Untouched userId ids w w'' where
  stored deviceId := (h.stored deviceId).trans (h'.stored deviceId)
  listed tokenId hid := (h.listed tokenId hid).trans (h'.listed tokenId hid)

/-- The credentials and the tokens of a request are those of one user; its bodies are free. -/
def GatewayRequest.OwnedBy (userId : Int) (email : String) : GatewayRequest → Prop
  | .register _ => True
  | .login body => body.email = email
  | .refresh cookies body => ∀ token, presented cookies body = some token → token.claims.sub = userId
  | .logout accessToken _ => ∀ token, accessToken = some token → token.claims.id = userId
  | .wait _ => True

/-- No stored id of the user is read. -/
def Spares (userId : Int) : Await.Event GatewayRequest Op Choice World → Prop
  | .performed w _ choice (.get (.refreshToken userId' deviceId)) _ =>
      userId' = userId → choice.fails = none → w.redis.get (.refreshToken userId' deviceId) = none
  | _ => True

/-! ## Tokens and their sessions -/

section Signed

variable {config : JwtConfig} {past : List Event} {w w' : World} {k k' : Progress} {op : Op}
variable {choice : Choice} {r : Except Exception op.Ret} {i : Nat}

theorem Effect.of_drawn (h : Effect w k op w' k') {x : String} (hk : k.drawn = some x) :
    k'.drawn = some x ∧ k'.pair = k.pair := by
  cases h with
  | signsIn huntouched => exact absurd (huntouched.drawn.symm.trans hk) (by simp)
  | found huntouched => exact absurd (huntouched.drawn.symm.trans hk) (by simp)
  | drew _ hdrawn => exact absurd (hdrawn.symm.trans hk) (by simp)
  | _ => exact ⟨hk, rfl⟩

theorem Effect.named (h : Effect w k op w' k') (hw : "null" ∉ w.issued) : "null" ∉ w'.issued := by
  cases h with
  | plain hget hissued => exact hissued ▸ hw
  | drew _ _ _ hname =>
      intro hmem
      rcases List.mem_cons.mp hmem with heq | hold
      · exact hname heq.symm
      · exact hw hold
  | _ => exact hw

/-- A token that is signed now carries the id and the session of its call. -/
theorem signed_of (hnext : Next k op) (h : performWith choice op w = some (r, w'))
    {token : RefreshToken} (htoken : token ∈ w'.refreshTokens) :
    token ∈ w.refreshTokens ∨ (k.drawn = some token.id ∧ k.pair = some token.pair) := by
  rcases performWith_cases h with ⟨message, -, rfl⟩ | ⟨hop, -⟩
  · exact .inl htoken
  · cases op with
    | signRefresh claims expiresIn =>
        cases hop
        rcases List.mem_cons.mp htoken with rfl | hold
        · exact .inr hnext.2
        · exact .inl hold
    | findUserById id =>
        simp only [Op.perform] at hop
        split at hop <;> cases hop <;> exact .inl htoken
    | saveUser dto hash =>
        simp only [Op.perform] at hop
        split at hop <;> cases hop <;> exact .inl htoken
    | verifyAccess token' =>
        simp only [Op.perform] at hop
        split at hop <;> cases hop <;> exact .inl htoken
    | verifyRefresh token' =>
        simp only [Op.perform] at hop
        split at hop <;> cases hop <;> exact .inl htoken
    | _ =>
        cases hop
        exact .inl htoken

/-- Every token was signed by the call that drew its id, for the session of that call. -/
structure Signed (config : JwtConfig) (past : List Event) (w : World) : Prop where
  sessions : Sessions config past w
  signed : ∀ token ∈ w.refreshTokens, ∃ i k, progressOf config past i = some k ∧
    k.drawn = some token.id ∧ k.pair = some token.pair
  named : "null" ∉ w.issued

theorem signed_init {now : Nat} {users : UserTable} :
    Signed config [] (World.init now users) where
  sessions := sessions_init
  signed _ htoken := absurd htoken List.not_mem_nil
  named := List.not_mem_nil

theorem Signed.started (h : Signed config past w) (hnew : progressOf config past i = none)
    (request : Request) : Signed config (past ++ [.started w i request]) w where
  sessions := h.sessions.started hnew request
  signed token htoken := by
    obtain ⟨j, k, hj, hrest⟩ := h.signed token htoken
    have hne : j ≠ i := by
      intro heq
      subst heq
      rw [hnew] at hj
      cases hj
    exact ⟨j, k, (progressOf_started_of_ne hne).trans hj, hrest⟩
  named := h.named

theorem Signed.performed (h : Signed config past w) (hk : progressOf config past i = some k)
    (hnext : Next k op) (hperform : performWith choice op w = some (r, w')) :
    Signed config (past ++ [.performed w i choice op w']) w' where
  sessions := h.sessions.performed hk hnext hperform
  signed token htoken := by
    have heffect := effect_of hnext hperform
    rcases signed_of hnext hperform htoken with hold | ⟨hdrawn, hpair⟩
    · obtain ⟨j, kj, hj, hdrawn, hpair⟩ := h.signed token hold
      by_cases heq : j = i
      · subst heq
        rw [hk, Option.some.injEq] at hj
        subst hj
        obtain ⟨hdrawn', hpair'⟩ := heffect.of_drawn hdrawn
        exact ⟨j, _, progressOf_self hperform hk, hdrawn', hpair'.trans hpair⟩
      · exact ⟨j, kj, (progressOf_of_ne heq).trans hj, hdrawn, hpair⟩
    · obtain ⟨hdrawn', hpair'⟩ := heffect.of_drawn hdrawn
      exact ⟨i, _, progressOf_self hperform hk, hdrawn', hpair'.trans hpair⟩
  named := (effect_of hnext hperform).named h.named

/-- Tokens with one id are tokens of one session. -/
theorem Signed.pair_eq (h : Signed config past w) {token token' : RefreshToken}
    (htoken : token ∈ w.refreshTokens) (htoken' : token' ∈ w.refreshTokens)
    (hid : token.id = token'.id) : token.pair = token'.pair := by
  obtain ⟨i, k, hi, hdrawn, hpair⟩ := h.signed token htoken
  obtain ⟨j, k', hj, hdrawn', hpair'⟩ := h.signed token' htoken'
  have heq : i = j := h.sessions.drawn i j k k' _ hi hj hdrawn (hid ▸ hdrawn')
  subst heq
  rw [hi, Option.some.injEq] at hj
  subst hj
  exact Option.some.inj (hpair.symm.trans hpair')

/-- An id that is stored for a session is only in tokens of that session. -/
theorem Signed.pair_of_stored (h : Signed config past w) {token : RefreshToken} {userId : Int}
    {deviceId : String} (htoken : token ∈ w.refreshTokens)
    (hget : w.redis.get (.refreshToken userId deviceId) = some token.id) :
    token.pair = (userId, deviceId) := by
  obtain ⟨i, k, hi, hdrawn, hpair⟩ := h.signed token htoken
  obtain ⟨j, k', hj, hdrawn', hpair', -⟩ := h.sessions.stored userId deviceId _ hget
  have heq : i = j := h.sessions.drawn i j k k' _ hi hj hdrawn hdrawn'
  subst heq
  rw [hi, Option.some.injEq] at hj
  subst hj
  exact Option.some.inj (hpair.symm.trans hpair')

end Signed

/-! ## What the requests of another user can do -/

/-- The ids of a user are apart from the sessions of the others, and are as they were in `w₀`. -/
structure Shielded (userId : Int) (email : String) (ids : List String) (w₀ w : World) : Prop where
  drawn : ∀ tokenId ∈ ids, tokenId ∈ w.issued
  named : "null" ∉ ids
  stored : ∀ userId' deviceId tokenId, userId' ≠ userId →
    w.redis.get (.refreshToken userId' deviceId) = some tokenId → tokenId ∉ ids
  signed : ∀ token ∈ w.refreshTokens, token.claims.sub ≠ userId → token.id ∉ ids
  other : ∃ row, w.users.byEmail email = some row ∧ row.id ≠ userId
  kept : Untouched userId ids w₀ w

/-- An operation that leaves the sessions and the ids of a user alone. -/
def Harmless (userId : Int) (ids : List String) (w : World) : Op → Prop
  | .set (.refreshToken userId' _) tokenId _ => userId' ≠ userId ∧ tokenId ∉ ids
  | .set (.blacklist tokenId) _ _ => tokenId ∉ ids
  | .del (.refreshToken userId' deviceId) =>
      userId' ≠ userId ∨ w.redis.get (.refreshToken userId' deviceId) = none
  | .del (.blacklist _) => False
  | .signRefresh claims _ => claims.refreshTokenId ∉ ids
  | .changeUsers _ => False
  | _ => True

/-- What a call of another user is told. -/
def Told (userId : Int) (email : String) (ids : List String) (w : World) :
    (op : Op) → op.Ret → Prop
  | .verifyRefresh token, claims =>
      claims = token.claims ∧ (token.claims.sub ≠ userId → token.id ∉ ids)
  | .get (.refreshToken userId' deviceId), stored =>
      (userId' ≠ userId → ∀ tokenId, stored = some tokenId → tokenId ∉ ids) ∧
        (userId' = userId → stored = none ∧ w.redis.get (.refreshToken userId deviceId) = none)
  | .randomUUID, uuid => uuid ∉ ids
  | .findUserByEmail email', found =>
      email' = email → ∀ row, found = some row → User.id row ≠ userId
  | .findUserById id, row => User.id row = id
  | _, _ => True

section Steps

variable {userId : Int} {email : String} {ids : List String} {w₀ w w' : World} {op : Op}
variable {choice : Choice} {r : Except Exception op.Ret}

/-- Stores of which the other users and the ids have nothing new. -/
theorem Shielded.of_untouched (h : Shielded userId email ids w₀ w)
    (hkept : Untouched userId ids w w') (hissued : ∀ x ∈ w.issued, x ∈ w'.issued)
    (hstored : ∀ userId' deviceId tokenId,
      w'.redis.get (.refreshToken userId' deviceId) = some tokenId →
        w.redis.get (.refreshToken userId' deviceId) = some tokenId ∨ tokenId ∉ ids)
    (hsigned : ∀ token ∈ w'.refreshTokens, token ∈ w.refreshTokens ∨ token.id ∉ ids)
    (husers : ∀ row, w.users.byEmail email = some row → w'.users.byEmail email = some row) :
    Shielded userId email ids w₀ w' ∧ Untouched userId ids w w' := by
  refine ⟨⟨fun x hx => hissued x (h.drawn x hx), h.named, fun a d x ha hget => ?_,
    fun token htoken hsub => ?_, ?_, h.kept.trans hkept⟩, hkept⟩
  · rcases hstored a d x hget with hold | hnew
    · exact h.stored a d x ha hold
    · exact hnew
  · rcases hsigned token htoken with hold | hnew
    · exact h.signed token hold hsub
    · exact hnew
  · obtain ⟨row, hrow, hid⟩ := h.other
    exact ⟨row, husers row hrow, hid⟩

/-- The case of an operation that leaves the stores alone. -/
theorem Shielded.of_redis (h : Shielded userId email ids w₀ w) (hredis : w'.redis = w.redis)
    (hissued : ∀ x ∈ w.issued, x ∈ w'.issued)
    (hsigned : ∀ token ∈ w'.refreshTokens, token ∈ w.refreshTokens ∨ token.id ∉ ids)
    (husers : ∀ row, w.users.byEmail email = some row → w'.users.byEmail email = some row) :
    Shielded userId email ids w₀ w' ∧ Untouched userId ids w w' := by
  refine h.of_untouched ⟨fun d => ?_, fun x _ => ?_⟩ hissued (fun a d x hget => ?_) hsigned husers
  · rw [hredis]
    exact Keyspace.ages_refl
  · rw [hredis]
    exact Keyspace.ages_refl
  · rw [hredis] at hget
    exact .inl hget

theorem get_setex {r : Redis} {key : Key} {seconds : Nat} {value x : String}
    (h : (r.setex key seconds value).get key = some x) : x = value := by
  obtain ⟨deadline, hlive⟩ := Keyspace.get_eq_some.mp h
  simp only [Keyspace.setex, Keyspace.live_put_self, Option.filter_eq_some_iff, Option.some.injEq,
    Prod.mk.injEq] at hlive
  exact hlive.1.1.symm

theorem Shielded.performed (h : Shielded userId email ids w₀ w) (hop : Harmless userId ids w op)
    (hperform : performWith choice op w = some (r, w')) :
    Shielded userId email ids w₀ w' ∧ Untouched userId ids w w' := by
  rcases performWith_cases hperform with ⟨message, -, rfl⟩ | ⟨hperform, -⟩
  · exact ⟨h, untouched_refl⟩
  cases op with
  | findUserById id =>
      simp only [Op.perform] at hperform
      split at hperform <;> cases hperform <;> exact ⟨h, untouched_refl⟩
  | verifyAccess token =>
      simp only [Op.perform] at hperform
      split at hperform <;> cases hperform <;> exact ⟨h, untouched_refl⟩
  | verifyRefresh token =>
      simp only [Op.perform] at hperform
      split at hperform <;> cases hperform <;> exact ⟨h, untouched_refl⟩
  | saveUser dto hash =>
      simp only [Op.perform] at hperform
      split at hperform
      · cases hperform
        refine h.of_redis rfl (fun _ h => h) (fun _ h => .inl h) fun row hrow => ?_
        change Table.find User.email email (w.users.rows ++ [_]) = some row
        rw [Table.find_insert, show Table.find User.email email w.users.rows = some row from hrow]
        rfl
      · cases hperform
        exact ⟨h, untouched_refl⟩
  | randomUUID =>
      cases hperform
      exact h.of_redis rfl (fun _ => List.mem_cons_of_mem _) (fun _ h => .inl h) fun _ h => h
  | signRefresh claims expiresIn =>
      cases hperform
      refine h.of_redis rfl (fun _ h => h) (fun token htoken => ?_) fun _ h => h
      rcases List.mem_cons.mp htoken with rfl | hold
      · exact .inr hop
      · exact .inl hold
  | set key value seconds =>
      cases hperform
      cases key with
      | refreshToken userId' deviceId' =>
          obtain ⟨hne, hid⟩ := hop
          refine h.of_untouched ⟨fun d => ?_, fun x _ => ?_⟩ (fun _ h => h) (fun a d x hget => ?_)
            (fun _ h => .inl h) fun _ h => h
          · refine Keyspace.Ages.of_live rfl (Keyspace.live_setex_of_ne ?_)
            intro heq
            cases heq
            exact hne rfl
          · exact Keyspace.Ages.of_live rfl (Keyspace.live_setex_of_ne (by simp))
          · by_cases hkey : Key.refreshToken a d = .refreshToken userId' deviceId'
            · rw [hkey] at hget
              exact .inr (get_setex hget ▸ hid)
            · rw [Keyspace.get, Keyspace.live_setex_of_ne hkey] at hget
              exact .inl hget
      | blacklist tokenId =>
          refine h.of_untouched ⟨fun d => ?_, fun x hx => ?_⟩ (fun _ h => h)
            (fun a d x hget => ?_) (fun _ h => .inl h) fun _ h => h
          · exact Keyspace.Ages.of_live rfl (Keyspace.live_setex_of_ne (by simp))
          · refine Keyspace.Ages.of_live rfl (Keyspace.live_setex_of_ne ?_)
            intro heq
            cases heq
            exact hop hx
          · rw [Keyspace.get, Keyspace.live_setex_of_ne (by simp)] at hget
            exact .inl hget
  | del key =>
      cases hperform
      cases key with
      | blacklist tokenId => exact hop.elim
      | refreshToken userId' deviceId' =>
          refine h.of_untouched ⟨fun d => ?_, fun x _ => ?_⟩ (fun _ h => h)
            (fun a d x hget => .inl (Keyspace.get_of_del hget)) (fun _ h => .inl h) fun _ h => h
          · by_cases hkey : Key.refreshToken userId d = .refreshToken userId' deviceId'
            · cases hkey
              rcases hop with hne | hgone
              · exact absurd rfl hne
              · refine Keyspace.Ages.of_live rfl ?_
                rw [Keyspace.live_del_self, Keyspace.get_eq_none.mp hgone]
            · exact Keyspace.Ages.of_live rfl (Keyspace.live_del_of_ne hkey)
          · exact Keyspace.Ages.of_live rfl (Keyspace.live_del_of_ne (by simp))
  | changeUsers users => exact hop.elim
  | wait ms =>
      cases hperform
      exact h.of_untouched ⟨fun _ => Keyspace.ages_wait, fun _ _ => Keyspace.ages_wait⟩
        (fun _ h => h) (fun _ _ _ hget => .inl (Keyspace.get_of_wait hget)) (fun _ h => .inl h)
        fun _ h => h
  | _ =>
      cases hperform
      exact h.of_redis rfl (fun _ h => h) (fun _ h => .inl h) fun _ h => h

theorem Shielded.told (h : Shielded userId email ids w₀ w) {i : Nat} {a : op.Ret}
    (hperform : performWith choice op w = some (.ok a, w'))
    (hspares : Spares userId (.performed w i choice op w')) : Told userId email ids w' op a := by
  rcases performWith_cases hperform with ⟨message, hr, -⟩ | ⟨hresult, hdraws⟩
  · cases hr
  cases op with
  | verifyRefresh token =>
      simp only [Op.perform] at hresult
      split at hresult
      · rename_i hverifies
        cases hresult
        simp only [World.verifies, Bool.and_eq_true, decide_eq_true_eq] at hverifies
        exact ⟨rfl, h.signed token hverifies.1⟩
      · cases hresult
  | get key =>
      cases hresult
      cases key with
      | blacklist tokenId => trivial
      | refreshToken userId' deviceId =>
          refine ⟨fun hne tokenId => h.stored userId' deviceId tokenId hne, fun heq => ?_⟩
          subst heq
          have hnone := hspares rfl (fails_of_ok (by simp) hperform)
          exact ⟨hnone, hnone⟩
  | randomUUID =>
      cases hresult
      have hnew := hdraws rfl
      simp only [World.draws, Bool.and_eq_true, decide_eq_true_eq] at hnew
      intro hmem
      exact hnew.1.1 (h.drawn _ hmem)
  | findUserByEmail email' =>
      cases hresult
      intro heq row hrow
      subst heq
      obtain ⟨row', hrow', hid⟩ := h.other
      rw [hrow', Option.some.injEq] at hrow
      exact hrow ▸ hid
  | findUserById id =>
      simp only [Op.perform] at hresult
      split at hresult
      · rename_i user huser
        cases hresult
        exact (Table.mem_of_find huser).2
      · cases hresult
  | _ => trivial

end Steps

/-! ## The requests -/

section Calls

variable {userId owner : Int} {email : String} {ids : List String} {w₀ w : World}
variable {config : JwtConfig} {i : Nat}

/-- Every call keeps the shield, and relies on the others to store nothing for the user. -/
def isolation (userId owner : Int) (email : String) (ids : List String) (w₀ : World) :
    Contract GatewayRequest Op Choice World where
  inv := Shielded userId email ids w₀
  rely _ w w' := ∀ deviceId, w.redis.get (.refreshToken userId deviceId) = none →
    w'.redis.get (.refreshToken userId deviceId) = none
  allows
    | .started _ _ request => request.OwnedBy owner email
    | .performed w i choice op w' => Spares userId (.performed w i choice op w')
  owes e := Untouched userId ids e.before e.after

theorem isolation_lawful : (isolation userId owner email ids w₀).Lawful where
  refl _ _ _ h := h
  trans _ _ _ _ h h' d hgone := h' d (h d hgone)
  compatible _ _ _ _ _ _ _ _ howes d hgone := (howes.stored d).gone hgone
  started _ _ _ := untouched_refl

abbrev Isolated {α : Type} (config : JwtConfig) (userId owner : Int) (email : String)
    (ids : List String) (w₀ : World) (i : Nat) (c : Call α) (w : World)
    (Q : α → Unit → World → Prop) : Prop :=
  c.Ensures ((isolation userId owner email ids w₀).spec (gateway config) i) () w Q fun _ _ => True

theorem await_isolated {op : Op} {Q : op.Ret → Unit → World → Prop}
    (hop : ∀ w', (∀ d, w.redis.get (.refreshToken userId d) = none →
      w'.redis.get (.refreshToken userId d) = none) → Harmless userId ids w' op)
    (h : ∀ a w', Told userId email ids w' op a → Q a () w') :
    Isolated config userId owner email ids w₀ i (Call.await op) w Q := by
  intro w₁ hw₁ hrely choice r w' hperform hspares
  obtain ⟨hw', hkept⟩ := Shielded.performed hw₁ (hop w₁ hrely) hperform
  refine ⟨hw', hkept, ?_⟩
  cases r with
  | ok a => exact h a w' (Shielded.told hw₁ (i := i) hperform hspares)
  | error e => trivial

theorem generateTokens_isolated {user : User} {deviceId : String} {ip : Option String}
    (huser : user.id ≠ userId) : Isolated config userId owner email ids w₀ i
      (generateTokens config user deviceId ip) w fun _ _ _ => True := by
  refine .bind (await_isolated (fun _ _ => trivial) fun tokenId w hid => ?_)
  refine .bind (await_isolated (fun _ _ => trivial) fun _ w _ => ?_)
  refine .bind (await_isolated (fun _ _ => hid) fun _ w _ => ?_)
  refine .bind (await_isolated (fun _ _ => ⟨huser, hid⟩) fun _ w _ => ?_)
  exact .bind (await_isolated (fun _ _ => trivial) fun _ w _ => .pure trivial)

theorem signIn_isolated {dto : SignInDto} {ip : Option String} (hemail : dto.email = email) :
    Isolated config userId owner email ids w₀ i (signIn config dto ip) w fun _ _ _ => True := by
  refine .bind (await_isolated (fun _ _ => trivial) fun found w hfound => ?_)
  cases found with
  | none => exact .throw trivial
  | some user =>
      have huser : user.id ≠ userId := hfound hemail user rfl
      have hchecked : Isolated config userId owner email ids w₀ i (checkPassword dto ip user) w
          fun _ _ _ => True := by
        unfold checkPassword
        split
        · refine .bind (await_isolated (fun _ _ => trivial) fun isMatch w _ => ?_)
          refine .whenever (fun _ => ?_) fun _ => trivial
          exact .bind (await_isolated (fun _ _ => trivial) fun _ _ _ => .throw trivial)
        · exact .pure trivial
      refine .andThen hchecked (fun _ _ h => h) fun _ _ w _ => ?_
      refine .andThen (generateTokens_isolated huser) (fun _ _ h => h) fun _ _ w _ => ?_
      exact .bind (await_isolated (fun _ _ => trivial) fun _ _ _ => .pure trivial)

theorem refreshTokens_isolated {dto : RefreshTokenDto}
    (hsub : dto.refreshToken.claims.sub ≠ userId) :
    Isolated config userId owner email ids w₀ i (refreshTokens config dto) w
      fun _ _ _ => True := by
  have hgiven : Isolated config userId owner email ids w₀ i (giveUpToken dto) w
      fun result _ _ => result.1.id ≠ userId := by
    refine .bind (await_isolated (fun _ _ => trivial) fun payload w hpayload => ?_)
    obtain ⟨rfl, hid⟩ := hpayload
    refine .bind (.whenever (fun _ => .throw trivial) fun _ => ?_)
    refine .bind (.bind (await_isolated (fun _ _ => trivial) fun _ w _ => .pure ?_))
    refine .bind (.whenever (fun _ => .throw trivial) fun _ => ?_)
    refine .bind (await_isolated (fun _ _ => trivial) fun user w huser => ?_)
    have hne : user.id ≠ userId := fun heq => hsub (huser.symm.trans heq)
    refine .bind (.bind (await_isolated (fun _ _ => trivial) fun stored w _ => ?_))
    split
    · exact .throw trivial
    · refine .pure (.bind (.whenever (fun _ => .throw trivial) fun _ => ?_))
      refine .bind (await_isolated (fun _ _ => .inl hne) fun _ w _ => ?_)
      exact .bind (await_isolated (fun _ _ => hid hsub) fun _ w _ => .pure hne)
  refine .andThen (.tryCatch hgiven fun _ _ _ _ => .throw trivial) (fun _ _ h => h)
    fun result _ w huser => generateTokens_isolated huser

/-- A sign-out of the user finds no stored id, and there is none any more when it deletes it. -/
theorem signOut_isolated {dto : SignOutDto} (hnull : "null" ∉ ids) :
    Isolated config userId owner email ids w₀ i (signOut dto) w fun _ _ _ => True := by
  refine .bind (await_isolated (fun _ _ => trivial) fun stored w hstored => ?_)
  obtain ⟨hother, hown⟩ := hstored
  have hid : stored.getD "null" ∉ ids := by
    cases stored with
    | none => exact hnull
    | some tokenId =>
        by_cases heq : dto.userId = userId
        · exact absurd (hown heq).1 (by simp)
        · exact hother heq tokenId rfl
  have hdel : ∀ w', (∀ d, w.redis.get (.refreshToken userId d) = none →
      w'.redis.get (.refreshToken userId d) = none) →
      Harmless userId ids w' (.del (.refreshToken dto.userId dto.deviceId)) := by
    intro w' hrely
    by_cases heq : dto.userId = userId
    · exact .inr (heq ▸ hrely dto.deviceId (hown heq).2)
    · exact .inl heq
  refine .bind (await_isolated hdel fun _ w _ => ?_)
  exact await_isolated (fun _ _ => hid) fun _ _ _ => trivial

theorem canActivate_isolated (accessToken : Option AccessToken) :
    Isolated config userId owner email ids w₀ i (canActivate accessToken) w fun _ _ _ => True := by
  cases accessToken with
  | none => exact .throw trivial
  | some token =>
      refine .tryCatch (.bind (await_isolated (fun _ _ => trivial) fun payload w _ => ?_))
        fun _ _ _ _ => .throw trivial
      refine .bind (await_isolated (fun _ _ => trivial) fun found w _ => ?_)
      split
      · exact .throw trivial
      · exact .pure trivial

theorem register_isolated (dto : SignUpDto) :
    Isolated config userId owner email ids w₀ i (register dto) w fun _ _ _ => True := by
  refine .bind (await_isolated (fun _ _ => trivial) fun found w _ => ?_)
  refine .bind (.whenever (fun _ => .throw trivial) fun _ => ?_)
  refine .bind (await_isolated (fun _ _ => trivial) fun _ w _ => ?_)
  exact .bind (await_isolated (fun _ _ => trivial) fun _ w _ => .pure trivial)

theorem request_isolated (request : GatewayRequest) (hnull : "null" ∉ ids) (hne : owner ≠ userId)
    (howned : request.OwnedBy owner email) :
    Isolated config userId owner email ids w₀ i (request.call config) w fun _ _ _ => True := by
  cases request with
  | register body =>
      exact .andThen (register_isolated body) (fun _ _ h => h) fun _ _ _ _ => .pure trivial
  | login body =>
      exact .andThen (signIn_isolated howned) (fun _ _ h => h) fun _ _ _ _ => .pure trivial
  | refresh cookies body =>
      cases hpresented : presented cookies body with
      | none =>
          simp only [GatewayRequest.call, hpresented]
          exact .throw trivial
      | some refreshToken =>
          simp only [GatewayRequest.call, hpresented]
          have hsub : refreshToken.claims.sub ≠ userId := by
            rw [howned refreshToken hpresented]
            exact hne
          have hrefresh : Isolated config userId owner email ids w₀ i
              (refreshTokens config ⟨refreshToken, some body.deviceId⟩) w fun _ _ _ => True :=
            refreshTokens_isolated hsub
          exact .andThen hrefresh (fun _ _ h => h) fun _ _ _ _ => .pure trivial
  | logout accessToken body =>
      refine .andThen (canActivate_isolated accessToken) (fun _ _ h => h) fun _ _ w _ => ?_
      exact .andThen (signOut_isolated hnull) (fun _ _ h => h) fun _ _ _ _ => .pure trivial
  | wait ms =>
      exact .bind (await_isolated (fun _ _ => trivial) fun _ _ _ => .pure trivial)

end Calls

/-! ## Runs -/

/-- The auth service has come to the state by requests of its own, none of which still runs. -/
def Reachable (config : JwtConfig) (w : World) : Prop :=
  ∃ now users ms es P, (service config).run ms (.init (World.init now users)) = some (es, P) ∧
    P.idle = true ∧ P.state = w

theorem shielded_of_reachable {config : JwtConfig} {userId owner : Int} {email : String} {row : User}
    {w : World} (h : Reachable config w) (hne : owner ≠ userId)
    (hrow : w.users.byEmail email = some row) (howner : row.id = owner) :
    Shielded userId email (idsOf userId w) w w := by
  obtain ⟨now, users, ms, es, P, hrun, -, rfl⟩ := h
  have htracks : Tracking config (Signed config) ([] ++ es) P := tracking_run
    (fun request hnew h _ => h.started hnew request)
    (fun hk hnext h hperform _ => h.performed hk hnext hperform)
    hrun (System.throughout_of_forall fun _ _ => trivial) (System.tracks_init signed_init)
  have hinv := htracks.inv
  have hids : ∀ tokenId, tokenId ∈ idsOf userId P.state → ∃ token ∈ P.state.refreshTokens,
      token.claims.sub = userId ∧ token.id = tokenId := by
    intro tokenId htokenId
    obtain ⟨token, htoken, hid⟩ := List.mem_map.mp htokenId
    obtain ⟨hmem, hsub⟩ := List.mem_filter.mp htoken
    exact ⟨token, hmem, of_decide_eq_true hsub, hid⟩
  have hdrawn : ∀ tokenId ∈ idsOf userId P.state, tokenId ∈ P.state.issued := by
    intro tokenId htokenId
    obtain ⟨token, htoken, -, rfl⟩ := hids tokenId htokenId
    obtain ⟨i, k, hk, hdrawn, -⟩ := hinv.signed token htoken
    exact hinv.sessions.issued i k _ hk hdrawn
  refine ⟨hdrawn, fun hnull => hinv.named (hdrawn _ hnull), fun a d tokenId ha hget htokenId => ?_,
    fun token htoken hsub htokenId => ?_, ⟨row, hrow, howner ▸ hne⟩, untouched_refl⟩
  · obtain ⟨token, htoken, hsub, rfl⟩ := hids tokenId htokenId
    have hpair := hinv.pair_of_stored htoken hget
    exact ha ((congrArg Prod.fst hpair).symm.trans hsub)
  · obtain ⟨token', htoken', hsub', hid⟩ := hids token.id htokenId
    have hpair := hinv.pair_eq htoken' htoken hid
    exact hsub ((congrArg Prod.fst hpair).symm.trans hsub')

/-- Where no logout with another user's token finds a stored id of the user, the ids of the user
and the black list entries of the user's tokens are left to the time. -/
theorem sessions_isolated {config : JwtConfig} {userId owner : Int} {email : String} {row : User}
    {w : World} {ms : List (Move GatewayRequest Choice)}
    {es : List (Await.Event GatewayRequest Op Choice World)} {P : ServicePool}
    (hw : Reachable config w) (hne : owner ≠ userId)
    (hrow : w.users.byEmail email = some row) (howner : row.id = owner)
    (hrun : (gateway config).run ms (.init w) = some (es, P))
    (howned : ∀ s i request, .started s i request ∈ es → request.OwnedBy owner email)
    (hspares : ∀ e ∈ es, Spares userId e) :
    Untouched userId (idsOf userId w) w P.state := by
  have hshield := shielded_of_reachable hw hne hrow howner
  have hallows : ∀ e ∈ es, (isolation userId owner email (idsOf userId w) w).allows e := by
    intro e he
    cases e with
    | started s i request => exact howned s i request he
    | performed s i choice op s' => exact hspares _ he
  have hstart : ∀ (s : World) (i : Nat) (request : GatewayRequest),
      (isolation userId owner email (idsOf userId w) w).inv s →
      (isolation userId owner email (idsOf userId w) w).allows (.started s i request) →
      ((gateway config).program request).wp
        ((isolation userId owner email (idsOf userId w) w).spec (gateway config) i)
        (fun _ _ => True) s := by
    intro s i request _ howned
    refine Program.wp_mono ?_ (request_isolated request hshield.named hne howned)
    exact fun _ _ _ => trivial
  have hmeets := Contract.run_meets isolation_lawful (fun _ _ _ _ _ h => h) hstart hrun hallows
    ⟨hshield, by simp [Pool.init]⟩
  exact hmeets.1.1.kept

/-! ## Runs of two users -/

def jane : User := ⟨2, "Jane", none, "jane@example.com", some "hash", true, false⟩

def johnAndJane : UserTable := ⟨[john, jane], 3, by decide, by decide, by decide⟩

/-- Both users sign in, John on the device `d1` and Jane on `d2`. -/
def bothSignedIn : List (Move Request Choice) :=
  .start (.signIn ⟨"john@example.com", "secret", "d1"⟩ none) ::
      List.replicate 8 (.run 0 (drawing "t1")) ++
    .start (.signIn ⟨"jane@example.com", "secret", "d2"⟩ none) ::
      List.replicate 8 (.run 1 (drawing "t2"))

/-- Jane logs out with her own access token. -/
def logsOut (userId : Int) (deviceId : String) (h : 0 < userId) :
    List (Move GatewayRequest Choice) :=
  .start (.logout (some ⟨⟨2, "jane@example.com", [.admin]⟩, 3600⟩) ⟨userId, deviceId, .api, h⟩) ::
    List.replicate 5 (.run 0 (drawing ""))

def isJanesLogout : Await.Event GatewayRequest Op Choice World → Bool
  | .started _ _ (.logout (some token) _) => token.claims.id = 2
  | .started _ _ _ => false
  | _ => true

theorem owned_of_isJanesLogout {es : List (Await.Event GatewayRequest Op Choice World)}
    (h : es.all isJanesLogout = true) :
    ∀ s i request, .started s i request ∈ es → request.OwnedBy 2 "jane@example.com" := by
  intro s i request hmem
  have hlogout := List.all_eq_true.mp h _ hmem
  unfold isJanesLogout at hlogout
  split at hlogout
  · rename_i token _ heq
    cases heq
    intro token' htoken
    cases htoken
    exact of_decide_eq_true hlogout
  · cases hlogout
  · rename_i hstarted
    exact absurd rfl (hstarted s i request)

instance (userId : Int) (e : Await.Event GatewayRequest Op Choice World) :
    Decidable (Spares userId e) := by
  unfold Spares
  split <;> infer_instance

theorem sessions_isolated_logout :
    ∃ w es P, Reachable defaultConfig w ∧
      (gateway defaultConfig).run (logsOut 2 "d2" (by decide)) (.init w) = some (es, P) ∧
      Untouched 1 (idsOf 1 w) w P.state := by
  have hany : ((service defaultConfig).run bothSignedIn (.init (World.init 0 johnAndJane))).any
      (fun result => result.2.idle && decide (result.2.state.users.byEmail "jane@example.com" = some jane) &&
        ((gateway defaultConfig).run (logsOut 2 "d2" (by decide)) (.init result.2.state)).any
          fun result' => result'.1.all isJanesLogout &&
            result'.1.all fun e => decide (Spares 1 e)) = true := by
    decide +kernel
  obtain ⟨es, P, hrun, hresult⟩ := System.exists_run hany
  simp only [Bool.and_eq_true, decide_eq_true_eq] at hresult
  obtain ⟨⟨hidle, hjane⟩, hany'⟩ := hresult
  obtain ⟨es', P', hrun', hresult'⟩ := System.exists_run hany'
  simp only [Bool.and_eq_true] at hresult'
  have hreachable : Reachable defaultConfig P.state := ⟨0, _, _, es, P, hrun, hidle, rfl⟩
  exact ⟨P.state, es', P', hreachable, hrun', sessions_isolated hreachable (by decide) hjane rfl
    hrun' (owned_of_isJanesLogout hresult'.1)
    fun e he => of_decide_eq_true (List.all_eq_true.mp hresult'.2 e he)⟩

/-- Jane logs John out. -/
theorem logged_out_by_another :
    ∃ w es P, Reachable defaultConfig w ∧ w.users.byEmail "jane@example.com" = some jane ∧
      (gateway defaultConfig).run (logsOut 1 "d1" (by decide)) (.init w) = some (es, P) ∧
      (∀ s i request, .started s i request ∈ es → request.OwnedBy jane.id "jane@example.com") ∧
      w.redis.get (.refreshToken 1 "d1") = some "t1" ∧
      P.state.redis.get (.refreshToken 1 "d1") = none ∧
      ¬Untouched 1 (idsOf 1 w) w P.state := by
  have hany : ((service defaultConfig).run bothSignedIn (.init (World.init 0 johnAndJane))).any
      (fun result => result.2.idle && decide (result.2.state.users.byEmail "jane@example.com" = some jane) &&
        decide ("t1" ∈ idsOf 1 result.2.state) &&
        decide (result.2.state.redis.get (.blacklist "t1") = none) &&
        decide (result.2.state.redis.get (.refreshToken 1 "d1") = some "t1") &&
        ((gateway defaultConfig).run (logsOut 1 "d1" (by decide)) (.init result.2.state)).any
          fun result' => result'.1.all isJanesLogout &&
            decide (result'.2.state.redis.get (.refreshToken 1 "d1") = none) &&
            decide (result'.2.state.redis.get (.blacklist "t1") = some "1")) = true := by
    decide +kernel
  obtain ⟨es, P, hrun, hresult⟩ := System.exists_run hany
  simp only [Bool.and_eq_true, decide_eq_true_eq] at hresult
  obtain ⟨⟨⟨⟨⟨hidle, hjane⟩, hid⟩, hunlisted⟩, hstored⟩, hany'⟩ := hresult
  obtain ⟨es', P', hrun', hresult'⟩ := System.exists_run hany'
  simp only [Bool.and_eq_true, decide_eq_true_eq] at hresult'
  obtain ⟨⟨hall, hgone⟩, hlisted⟩ := hresult'
  refine ⟨P.state, es', P', ⟨0, _, _, es, P, hrun, hidle, rfl⟩, hjane, hrun',
    owned_of_isJanesLogout hall, hstored, hgone, ?_⟩
  intro huntouched
  have hnone := (huntouched.listed "t1" hid).gone hunlisted
  rw [hlisted] at hnone
  cases hnone

end FlightBookings.Auth
