import FlightBookings.Auth.Sessions

/-! # Refresh tokens that are used once

A refresh reads the stored id and deletes it in two commands. A token is given
up once it is deleted, since its id is never stored again; until then every
other refresh that reads the id comes through as well.
-/

namespace FlightBookings.Auth

open Await

abbrev RefreshTokenDto.tokenId (dto : RefreshTokenDto) : String :=
  dto.refreshToken.claims.refreshTokenId

/-- The call has read the id of its token as the stored one, and has yet to delete it. -/
def Progress.Holds (k : Progress) (tokenId : String) : Prop :=
  k.validated = true ∧ k.deleted = false ∧ k.ended = false ∧
    ∃ dto ∈ k.request.refresh, dto.tokenId = tokenId

instance (k : Progress) (tokenId : String) : Decidable (k.Holds tokenId) :=
  inferInstanceAs (Decidable (_ ∧ _))

/-- No refresh reads an id as the stored one while another one holds it. -/
def Apart (config : JwtConfig) (past : List Event) : Event → Prop
  | .performed w i choice (.get (.refreshToken userId deviceId)) _ =>
      choice.fails = none → ∀ k ∈ progressOf config past i, ∀ dto ∈ k.request.refresh,
        isCurrent (w.redis.get (.refreshToken userId deviceId)) dto.tokenId = true →
          ∀ j ∈ System.startedCalls past, ∀ kj ∈ progressOf config past j, ¬kj.Holds dto.tokenId
  | _ => True

instance (config : JwtConfig) (past : List Event) (e : Event) : Decidable (Apart config past e) := by
  unfold Apart
  split <;> infer_instance

variable {config : JwtConfig} {past : List Event} {w w' : World} {k k' : Progress} {op : Op}
variable {choice : Choice} {r : Except Exception op.Ret} {i : Nat} {dto : RefreshTokenDto}

/-! ## What an operation of a refresh does -/

/-- A refresh is validated by what it reads, and by nothing else. -/
theorem Effect.validated (h : Effect w k op w' k') (hdto : k.request.refresh = some dto)
    (hk' : k'.validated = true) :
    (k.validated = true ∧ k'.pair = k.pair) ∨
      ∃ userId deviceId, op = .get (.refreshToken userId deviceId) ∧ k.Untouched ∧
        k.pair = some (userId, deviceId) ∧ w' = w ∧ k' = { k with validated := true } ∧
        isCurrent (w.redis.get (.refreshToken userId deviceId)) dto.tokenId = true := by
  cases h with
  | signsIn _ _ hrequest =>
      rw [hrequest] at hdto
      cases hdto
  | compared _ hrequest =>
      cases hkind : k.request with
      | refreshTokens dto' =>
          rw [hkind] at hrequest
          cases hrequest
      | _ =>
          rw [hkind] at hdto
          cases hdto
  | found huntouched =>
      have hfalse : k.validated = true := hk'
      rw [huntouched.validated] at hfalse
      cases hfalse
  | @read userId deviceId dto' huntouched hpair hrequest =>
      rw [hrequest] at hdto
      cases hdto
      refine .inr ⟨userId, deviceId, rfl, huntouched, hpair, rfl, ?_, hk'⟩
      have hcurrent : isCurrent (w.redis.get (.refreshToken userId deviceId)) dto.tokenId = true :=
        hk'
      rw [hcurrent]
  | _ => exact .inl ⟨hk', rfl⟩

/-- The id of the session of a call that has deleted it. -/
theorem Effect.deletes (h : Effect w k op w' k') (hk' : k'.deleted = true) :
    k.deleted = true ∨ ∃ userId deviceId, k.MayDelete ∧ k.pair = some (userId, deviceId) ∧
      w' = { w with redis := w.redis.del (.refreshToken userId deviceId) } ∧
      k' = { k with deleted := true } ∧ op = .del (.refreshToken userId deviceId) := by
  cases h with
  | @deleted userId deviceId hmay hpair =>
      exact .inr ⟨userId, deviceId, hmay, hpair, rfl, rfl, rfl⟩
  | _ => exact .inl hk'

/-- A call that has failed deletes nothing any more. -/
theorem Effect.of_ended (h : Effect w k op w' k') (hk : k.ended = true) :
    k'.ended = true ∧ k'.deleted = k.deleted := by
  cases h with
  | failed => exact ⟨rfl, rfl⟩
  | compared huntouched => exact absurd (huntouched.ended.symm.trans hk) Bool.false_ne_true
  | deleted hmay => exact absurd (hmay.ended.symm.trans hk) Bool.false_ne_true
  | blacklisted _ _ hended => exact absurd (hended.symm.trans hk) Bool.false_ne_true
  | _ => exact ⟨hk, rfl⟩

theorem fails_eq_none (hop : op ≠ .randomUUID) (h : performWith choice op w = some (r, w'))
    (hk : (advance op r k).ended = false) : choice.fails = none := by
  cases r with
  | ok a => exact fails_of_ok hop h
  | error e => cases hk

/-! ## The invariant -/

/-- What is true of the tokens that were read as the stored ones. -/
structure Used (config : JwtConfig) (past : List Event) (w : World) : Prop where
  sessions : Sessions config past w
  current : ∀ i k dto, progressOf config past i = some k → k.request.refresh = some dto →
    k.validated = true → Stored config past k.pair dto.tokenId
  spent : ∀ i k dto, progressOf config past i = some k → k.request.refresh = some dto →
    k.validated = true → k.deleted = true →
    ∀ userId deviceId, w.redis.get (.refreshToken userId deviceId) ≠ some dto.tokenId
  single : ∀ i j k k' dto dto', i ≠ j → progressOf config past i = some k →
    progressOf config past j = some k' → k.request.refresh = some dto →
    k'.request.refresh = some dto' → dto.tokenId = dto'.tokenId → k.validated = true →
    k'.validated = true → (k.ended = true ∧ k.deleted = false) ∨
      (k'.ended = true ∧ k'.deleted = false)

theorem used_init {now : Nat} {users : UserTable} : Used config [] (World.init now users) where
  sessions := sessions_init
  current _ _ _ hk := by cases hk
  spent _ _ _ hk := by cases hk
  single _ _ _ _ _ _ _ hk := by cases hk

theorem Used.started (h : Used config past w) (hnew : progressOf config past i = none)
    (request : Request) : Used config (past ++ [.started w i request]) w := by
  have hblank : request.progress.validated = false := rfl
  refine ⟨h.sessions.started hnew request, fun j kj dto hj hdto hvalid => ?_,
    fun j kj dto hj hdto hvalid => ?_,
    fun j j' kj kj' dto dto' hne hj hj' hdto hdto' hid hvalid hvalid' => ?_⟩
  · rcases progressOf_started_cases hj with ⟨-, rfl⟩ | ⟨-, hbefore⟩
    · exact absurd (hblank.symm.trans hvalid) Bool.false_ne_true
    · exact (h.current j kj dto hbefore hdto hvalid).started hnew
  · rcases progressOf_started_cases hj with ⟨-, rfl⟩ | ⟨-, hbefore⟩
    · exact absurd (hblank.symm.trans hvalid) Bool.false_ne_true
    · exact h.spent j kj dto hbefore hdto hvalid
  · rcases progressOf_started_cases hj with ⟨-, rfl⟩ | ⟨-, hbefore⟩
    · exact absurd (hblank.symm.trans hvalid) Bool.false_ne_true
    · rcases progressOf_started_cases hj' with ⟨-, rfl⟩ | ⟨-, hbefore'⟩
      · exact absurd (hblank.symm.trans hvalid') Bool.false_ne_true
      · exact h.single j j' kj kj' dto dto' hne hbefore hbefore' hdto hdto' hid hvalid hvalid'

section Performed

variable (h : Used config past w) (hk : progressOf config past i = some k) (hnext : Next k op)
variable (hperform : performWith choice op w = some (r, w'))
include h hk hnext hperform

theorem Used.current_performed {j : Nat} {kj : Progress}
    (hj : progressOf config (past ++ [.performed w i choice op w']) j = some kj)
    (hdto : kj.request.refresh = some dto) (hvalid : kj.validated = true) :
    Stored config (past ++ [.performed w i choice op w']) kj.pair dto.tokenId := by
  have heffect := effect_of hnext hperform
  rcases progressOf_cases hperform hk hj with ⟨-, rfl⟩ | ⟨-, hbefore⟩
  · rw [heffect.request] at hdto
    rcases heffect.validated hdto hvalid with ⟨hold, hpair⟩ | hread
    · rw [hpair]
      exact (h.current i k dto hk hdto hold).performed hnext hk hperform
    · obtain ⟨userId, deviceId, -, -, hpair, -, hk', hcurrent⟩ := hread
      rw [hk']
      change Stored config _ k.pair _
      rw [hpair]
      exact (h.sessions.stored userId deviceId _ (eq_of_isCurrent hcurrent)).performed hnext hk
        hperform
  · exact (h.current j kj dto hbefore hdto hvalid).performed hnext hk hperform

omit hnext hperform in
/-- The id of a token that is given up is not stored by the call that drew it a second time. -/
theorem Used.not_stored_again {pair : Option (Int × String)} {x : String}
    (hstored : Stored config past pair x) : ¬(k.Ready ∧ k.drawn = some x) := by
  intro hready
  obtain ⟨m, km, hm, hdrawn, -, hinserted⟩ := hstored
  have heq : m = i := h.sessions.drawn m i km k x hm hk hdrawn hready.2
  subst heq
  rw [hm, Option.some.injEq] at hk
  subst hk
  rw [hready.1.inserted] at hinserted
  cases hinserted

theorem Used.spent_performed {j : Nat} {kj : Progress}
    (hj : progressOf config (past ++ [.performed w i choice op w']) j = some kj)
    (hdto : kj.request.refresh = some dto) (hvalid : kj.validated = true)
    (hdeleted : kj.deleted = true) (userId : Int) (deviceId : String) :
    w'.redis.get (.refreshToken userId deviceId) ≠ some dto.tokenId := by
  intro hget
  have heffect := effect_of hnext hperform
  -- the call had validated its token before
  have hbefore : ∃ k₀, progressOf config past j = some k₀ ∧ k₀.request.refresh = some dto ∧
      k₀.validated = true ∧ (k₀.deleted = true ∨ ∃ u d, k₀.pair = some (u, d) ∧
        w' = { w with redis := w.redis.del (.refreshToken u d) }) := by
    rcases progressOf_cases hperform hk hj with ⟨rfl, rfl⟩ | ⟨-, hbefore⟩
    · rw [heffect.request] at hdto
      refine ⟨k, hk, hdto, ?_, ?_⟩
      · rcases heffect.validated hdto hvalid with ⟨hold, -⟩ | hread
        · exact hold
        · obtain ⟨_, _, -, huntouched, -, -, hk', -⟩ := hread
          have hfalse : (advance op r k).deleted = k.deleted := by rw [hk']
          rw [hfalse, huntouched.deleted] at hdeleted
          cases hdeleted
      · rcases heffect.deletes hdeleted with hold | hdel
        · exact .inl hold
        · obtain ⟨u, d, -, hpair, hw', -⟩ := hdel
          exact .inr ⟨u, d, hpair, hw'⟩
    · exact ⟨kj, hbefore, hdto, hvalid, .inl hdeleted⟩
  obtain ⟨k₀, hk₀, hdto₀, hvalid₀, hcase⟩ := hbefore
  have hcurrent := h.current j k₀ dto hk₀ hdto₀ hvalid₀
  rcases heffect.stored hget with hold | ⟨hready, hdrawn, -, -⟩
  · rcases hcase with hdeleted₀ | ⟨u, d, hpair, rfl⟩
    · exact h.spent j k₀ dto hk₀ hdto₀ hvalid₀ hdeleted₀ userId deviceId hold
    · -- the id was stored for the session of the call, where it is deleted now
      obtain ⟨m, km, hm, hdrawn, hpairm, -⟩ := hcurrent
      obtain ⟨m', km', hm', hdrawn', hpairm', -⟩ := h.sessions.stored userId deviceId _ hold
      have heq : m = m' := h.sessions.drawn m m' km km' _ hm hm' hdrawn hdrawn'
      subst heq
      rw [hm, Option.some.injEq] at hm'
      subst hm'
      rw [hpair, hpairm'] at hpairm
      cases hpairm
      simp [Keyspace.get] at hget
  · exact h.not_stored_again hk hcurrent ⟨hready, hdrawn⟩

theorem Used.single_performed (hapart : Apart config past (.performed w i choice op w'))
    {j j' : Nat} {kj kj' : Progress} {dto' : RefreshTokenDto} (hne : j ≠ j')
    (hj : progressOf config (past ++ [.performed w i choice op w']) j = some kj)
    (hj' : progressOf config (past ++ [.performed w i choice op w']) j' = some kj')
    (hdto : kj.request.refresh = some dto) (hdto' : kj'.request.refresh = some dto')
    (hid : dto.tokenId = dto'.tokenId) (hvalid : kj.validated = true)
    (hvalid' : kj'.validated = true) :
    (kj.ended = true ∧ kj.deleted = false) ∨ (kj'.ended = true ∧ kj'.deleted = false) := by
  have heffect := effect_of hnext hperform
  have hkept : k.ended = true ∧ k.deleted = false →
      (advance op r k).ended = true ∧ (advance op r k).deleted = false := by
    intro hk
    obtain ⟨hended, hdeleted⟩ := heffect.of_ended hk.1
    exact ⟨hended, hdeleted.trans hk.2⟩
  -- a call that validates its token now meets no other one that holds it
  have hother : ∀ {m : Nat} {km : Progress} {dto₁ dto₂ : RefreshTokenDto}, m ≠ i →
      progressOf config past m = some km → k.request.refresh = some dto₁ →
      km.request.refresh = some dto₂ → dto₁.tokenId = dto₂.tokenId →
      (advance op r k).validated = true → km.validated = true →
      ((advance op r k).ended = true ∧ (advance op r k).deleted = false) ∨
        (km.ended = true ∧ km.deleted = false) := by
    intro m km dto₁ dto₂ hm hkm hdto₁ hdto₂ heq hvalid₁ hvalid₂
    rcases heffect.validated hdto₁ hvalid₁ with ⟨hold, -⟩ | hread
    · exact (h.single i m k km dto₁ dto₂ (Ne.symm hm) hk hkm hdto₁ hdto₂ heq hold hvalid₂).imp_left
        hkept
    · obtain ⟨userId, deviceId, rfl, huntouched, -, -, hk', hcurrent⟩ := hread
      have hended : (advance _ r k).ended = false := by
        rw [hk']
        exact huntouched.ended
      have hfree := hapart (fails_eq_none (by simp) hperform hended) k hk dto₁ hdto₁ hcurrent m
        (System.mem_startedCalls hkm) km hkm
      have hgone : km.deleted = false := by
        cases hdel : km.deleted with
        | false => rfl
        | true =>
            have hget := eq_of_isCurrent hcurrent
            rw [heq] at hget
            exact absurd hget (h.spent m km dto₂ hkm hdto₂ hvalid₂ hdel userId deviceId)
      refine .inr ⟨?_, hgone⟩
      cases hend : km.ended with
      | true => rfl
      | false => exact absurd ⟨hvalid₂, hgone, hend, dto₂, hdto₂, heq.symm⟩ hfree
  rcases progressOf_cases hperform hk hj with ⟨rfl, rfl⟩ | ⟨hji, hbefore⟩
  · rcases progressOf_cases hperform hk hj' with ⟨rfl, -⟩ | ⟨hj'i, hbefore'⟩
    · exact absurd rfl hne
    · rw [heffect.request] at hdto
      exact hother hj'i hbefore' hdto hdto' hid hvalid hvalid'
  · rcases progressOf_cases hperform hk hj' with ⟨rfl, rfl⟩ | ⟨-, hbefore'⟩
    · rw [heffect.request] at hdto'
      exact (hother hji hbefore hdto' hdto hid.symm hvalid' hvalid).symm
    · exact h.single j j' kj kj' dto dto' hne hbefore hbefore' hdto hdto' hid hvalid hvalid'

theorem Used.performed (hapart : Apart config past (.performed w i choice op w')) :
    Used config (past ++ [.performed w i choice op w']) w' where
  sessions := h.sessions.performed hk hnext hperform
  current _ _ _ hj hdto hvalid := h.current_performed hk hnext hperform hj hdto hvalid
  spent _ _ _ hj hdto hvalid hdeleted :=
    h.spent_performed hk hnext hperform hj hdto hvalid hdeleted
  single _ _ _ _ _ _ hne hj hj' hdto hdto' hid hvalid hvalid' :=
    h.single_performed hk hnext hperform hapart hne hj hj' hdto hdto' hid hvalid hvalid'

end Performed

/-! ## Runs -/

/-- Where no refresh reads an id as the stored one while another one holds it, a token with which
one refresh has issued new tokens gets no tokens for another one. -/
theorem refresh_single_use {now : Nat} {users : UserTable} {ms : List (Move Request Choice)}
    {es : List Event} {P : ServicePool}
    (hrun : (service config).run ms (.init (World.init now users)) = some (es, P))
    (hapart : System.Throughout (Apart config) [] es) {token : RefreshToken}
    {i j : Nat} {s s' : World} {deviceId deviceId' : Option String} {tokens : Tokens}
    (hi : .started s i (.refreshTokens ⟨token, deviceId⟩) ∈ es)
    (hj : .started s' j (.refreshTokens ⟨token, deviceId'⟩) ∈ es) (hne : i ≠ j)
    (hdone : P.calls[i]? = some (.done (.ok (some tokens), ()))) (tokens' : Tokens) :
    P.calls[j]? ≠ some (.done (.ok (some tokens'), ())) := by
  intro hdone'
  have htracks : Tracking config (Used config) ([] ++ es) P := tracking_run
    (fun request hnew h _ => h.started hnew request)
    (fun hk hnext h hperform hallows => h.performed hk hnext hperform hallows)
    hrun hapart (System.tracks_init used_init)
  -- what is known of a call that has issued tokens
  have hcall : ∀ {m : Nat} {s : World} {d : Option String} {tokens : Tokens},
      .started s m (.refreshTokens ⟨token, d⟩) ∈ es →
      P.calls[m]? = some (.done (.ok (some tokens), ())) → ∃ k, progressOf config es m = some k ∧
        k.request = .refreshTokens ⟨token, d⟩ ∧ k.validated = true ∧ k.deleted = true := by
    intro m s d tokens hstarted hdone
    obtain ⟨k, hk, hrequest⟩ := htracks.inv.sessions.requested s m _ hstarted
    obtain ⟨k', hk', hpost⟩ := htracks.calls m _ hdone
    have hsame : k' = k := Option.some.inj (hk'.symm.trans hk)
    subst hsame
    obtain ⟨hvalid, -, hrefresh⟩ := hpost (some tokens) rfl
    exact ⟨k', hk, hrequest, hvalid, (hrefresh ⟨token, d⟩ (by rw [hrequest]; rfl)).1⟩
  obtain ⟨k, hk, hrequest, hvalid, hdeleted⟩ := hcall hi hdone
  obtain ⟨k', hk', hrequest', hvalid', hdeleted'⟩ := hcall hj hdone'
  rcases htracks.inv.single i j k k' ⟨token, deviceId⟩ ⟨token, deviceId'⟩ hne hk hk'
    (by rw [hrequest]; rfl) (by rw [hrequest']; rfl) rfl hvalid hvalid' with ⟨-, h⟩ | ⟨-, h⟩
  · rw [hdeleted] at h
    cases h
  · rw [hdeleted'] at h
    cases h

/-! ## Runs of two refreshes -/

/-- A sign-in on a device, which is call 0 of a run. -/
def signedIn : List (Move Request Choice) :=
  .start (.signIn ⟨"john@example.com", "secret", "d1"⟩ none) ::
    List.replicate 8 (.run 0 (drawing "t1"))

/-- One operation after the other of a call. -/
def steps (call n : Nat) (uuid : String) : List (Move Request Choice) :=
  List.replicate n (.run call (drawing uuid))

def issuesTokens (P : ServicePool) (i : Nat) : Bool :=
  match P.calls[i]? with
  | some (.done (.ok (some _), _)) => true
  | _ => false

theorem issuesTokens_iff {P : ServicePool} :
    issuesTokens P i = true ↔ ∃ tokens, P.calls[i]? = some (.done (.ok (some tokens), ())) := by
  constructor
  · intro h
    unfold issuesTokens at h
    split at h
    · rename_i tokens _ hcall
      exact ⟨tokens, hcall⟩
    · cases h
  · intro h
    obtain ⟨tokens, hcall⟩ := h
    simp only [issuesTokens, hcall]

/-- Call `i` presents the token, and leaves the device to it. -/
def presents (es : List Event) (i : Nat) (token : RefreshToken) : Bool :=
  es.any fun
    | .started _ j (.refreshTokens dto) => j = i ∧ dto = ⟨token, none⟩
    | _ => false

theorem started_of_presents {es : List Event} {token : RefreshToken}
    (h : presents es i token = true) : ∃ s, .started s i (.refreshTokens ⟨token, none⟩) ∈ es := by
  obtain ⟨e, he, hmatch⟩ := List.any_eq_true.mp h
  split at hmatch
  · rename_i s j dto
    obtain ⟨rfl, rfl⟩ := of_decide_eq_true hmatch
    exact ⟨s, he⟩
  · cases hmatch

/-- Two refreshes with one token, the second one after the first. -/
def refreshedTwice : List (Move Request Choice) :=
  signedIn ++ .start (.refreshTokens ⟨johnsToken "t1" "d1", none⟩) :: steps 1 11 "t2" ++
    .start (.refreshTokens ⟨johnsToken "t1" "d1", none⟩) :: steps 2 2 "t3"

theorem refresh_single_use_refused :
    ∃ es P, (service defaultConfig).run refreshedTwice (.init (World.init 0 johnOnly)) =
      some (es, P) ∧ ∀ tokens, P.calls[2]? ≠ some (.done (.ok (some tokens), ())) := by
  have hany : ((service defaultConfig).run refreshedTwice (.init (World.init 0 johnOnly))).any
      (fun result => decide (System.Throughout (Apart defaultConfig) [] result.1) &&
        presents result.1 1 (johnsToken "t1" "d1") && presents result.1 2 (johnsToken "t1" "d1") &&
        issuesTokens result.2 1) = true := by
    decide +kernel
  obtain ⟨es, P, hrun, hresult⟩ := System.exists_run hany
  simp only [Bool.and_eq_true, decide_eq_true_eq] at hresult
  obtain ⟨⟨⟨hapart, hi⟩, hj⟩, hissues⟩ := hresult
  obtain ⟨s, hi⟩ := started_of_presents hi
  obtain ⟨s', hj⟩ := started_of_presents hj
  obtain ⟨tokens, hdone⟩ := issuesTokens_iff.mp hissues
  exact ⟨es, P, hrun, refresh_single_use hrun hapart hi hj (by decide) hdone⟩

/-- Two refreshes with one token, which both read its id before one of them deletes it. -/
def overlapping : List (Move Request Choice) :=
  signedIn ++ .start (.refreshTokens ⟨johnsToken "t1" "d1", none⟩) :: steps 1 4 "t2" ++
    .start (.refreshTokens ⟨johnsToken "t1" "d1", none⟩) :: steps 2 4 "t3" ++ steps 1 7 "t2" ++ steps 2 7 "t3"

theorem refresh_token_used_twice :
    ∃ es P, (service defaultConfig).run overlapping (.init (World.init 0 johnOnly)) =
      some (es, P) ∧
      (∃ s, .started s 1 (.refreshTokens ⟨johnsToken "t1" "d1", none⟩) ∈ es) ∧
      (∃ s, .started s 2 (.refreshTokens ⟨johnsToken "t1" "d1", none⟩) ∈ es) ∧
      (∃ tokens, P.calls[1]? = some (.done (.ok (some tokens), ()))) ∧
      ∃ tokens, P.calls[2]? = some (.done (.ok (some tokens), ())) := by
  have hany : ((service defaultConfig).run overlapping (.init (World.init 0 johnOnly))).any
      (fun result => presents result.1 1 (johnsToken "t1" "d1") && presents result.1 2 (johnsToken "t1" "d1") &&
        issuesTokens result.2 1 && issuesTokens result.2 2) = true := by
    decide +kernel
  obtain ⟨es, P, hrun, hresult⟩ := System.exists_run hany
  simp only [Bool.and_eq_true] at hresult
  obtain ⟨⟨⟨hi, hj⟩, hissues⟩, hissues'⟩ := hresult
  exact ⟨es, P, hrun, started_of_presents hi, started_of_presents hj, issuesTokens_iff.mp hissues,
    issuesTokens_iff.mp hissues'⟩

end FlightBookings.Auth
