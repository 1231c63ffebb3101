import FlightBookings.Auth.SingleUse

/-! # Sessions that are signed out

A sign-out deletes the stored id. A refresh that has read the id before may
still store a new one afterwards: the session ends where no call is on its way
to that when the id is deleted.
-/

namespace FlightBookings.Auth

open Await

/-- The call may still store an id for the session. -/
def Progress.Pending (k : Progress) (pair : Int × String) : Prop :=
  k.pair = some pair ∧ k.inserted = false ∧ k.ended = false ∧
    (k.validated = true ∨ k.request.isSignIn = true)

instance (k : Progress) (pair : Int × String) : Decidable (k.Pending pair) :=
  inferInstanceAs (Decidable (_ ∧ _))

/-- A sign-out of the session that has deleted the id and has not returned yet. -/
def Progress.SigningOut (k : Progress) (pair : Int × String) : Prop :=
  k.request.isSignOut = true ∧ k.pair = some pair ∧ k.deleted = true ∧ k.ended = false

instance (k : Progress) (pair : Int × String) : Decidable (k.SigningOut pair) :=
  inferInstanceAs (Decidable (_ ∧ _))

def Request.signInDto : Request → Option SignInDto
  | .signIn dto _ => some dto
  | _ => none

/-- A sign-in for the session begins: it finds its user. -/
def BeginsSignIn (config : JwtConfig) (pair : Int × String) (past : List Event) : Event → Prop
  | .performed w i choice (.findUserByEmail email) _ =>
      choice.fails = none ∧ ∃ k ∈ progressOf config past i, ∃ dto ∈ k.request.signInDto,
        ∃ user ∈ w.users.byEmail email, (user.id, dto.deviceId) = pair
  | _ => False

instance (config : JwtConfig) (pair : Int × String) (past : List Event) (e : Event) :
    Decidable (BeginsSignIn config pair past e) := by
  unfold BeginsSignIn
  split <;> infer_instance

/-- Sign-out `s` deletes the id. -/
def Deletes (s : Nat) (pair : Int × String) : Event → Prop
  | .performed _ i choice (.del (.refreshToken userId deviceId)) _ =>
      i = s ∧ choice.fails = none ∧ (userId, deviceId) = pair
  | _ => False

instance (s : Nat) (pair : Int × String) (e : Event) : Decidable (Deletes s pair e) := by
  unfold Deletes
  split <;> infer_instance

/-- When sign-out `s` deletes the id, no call may still store one for the session, and until it
returns no sign-in for the session begins. -/
def Undisturbed (config : JwtConfig) (s : Nat) (pair : Int × String) (past : List Event)
    (e : Event) : Prop :=
  (Deletes s pair e → ∀ j ∈ System.startedCalls past, ∀ kj ∈ progressOf config past j,
      ¬kj.Pending pair) ∧
    (BeginsSignIn config pair past e → ∀ k ∈ progressOf config past s, ¬k.SigningOut pair)

instance (config : JwtConfig) (s : Nat) (pair : Int × String) (past : List Event) (e : Event) :
    Decidable (Undisturbed config s pair past e) :=
  inferInstanceAs (Decidable (_ ∧ _))

variable {config : JwtConfig} {past : List Event} {w w' : World} {k k' : Progress} {op : Op}
variable {choice : Choice} {r : Except Exception op.Ret} {i s : Nat} {pair : Int × String}

/-! ## A session that is over -/

/-- No id is stored for the session, and no call is about to store one. -/
structure Quiet (config : JwtConfig) (pair : Int × String) (past : List Event) (w : World) :
    Prop where
  gone : w.redis.get (.refreshToken pair.1 pair.2) = none
  idle : ∀ j k, progressOf config past j = some k → ¬k.Pending pair

/-- A call that may store an id could so before, or it is a sign-in that begins, or it has read
an id that is stored. -/
theorem Effect.pending (h : Effect w k op w' k') (hk' : k'.Pending pair) :
    k.Pending pair ∨
      (∃ email dto ip user, op = .findUserByEmail email ∧ k.request = .signIn dto ip ∧
        w.users.byEmail email = some user ∧ (user.id, dto.deviceId) = pair) ∨
      w.redis.get (.refreshToken pair.1 pair.2) ≠ none := by
  obtain ⟨hpair, hinserted, hended, hcase⟩ := hk'
  cases h with
  | failed => cases hended
  | plain => exact .inl ⟨hpair, hinserted, hended, hcase⟩
  | @signsIn email dto ip user _ _ hrequest huser =>
      exact .inr (.inl ⟨email, dto, ip, user, rfl, hrequest, huser, Option.some.inj hpair⟩)
  | compared huntouched hrequest =>
      exact .inl ⟨hpair, hinserted, huntouched.ended, .inr hrequest⟩
  | found huntouched _ hrequest =>
      rcases hcase with hvalid | hsignIn
      · have hfalse : k.validated = true := hvalid
        rw [huntouched.validated] at hfalse
        cases hfalse
      · have hsignIn : k.request.isSignIn = true := hsignIn
        cases hkind : k.request with
        | signIn dto ip =>
            rw [hkind] at hrequest
            cases hrequest
        | _ =>
            rw [hkind] at hsignIn
            cases hsignIn
  | @read userId deviceId dto _ hpair' hrequest =>
      have hsame : (userId, deviceId) = pair := Option.some.inj (hpair'.symm.trans hpair)
      subst hsame
      rcases hcase with hvalid | hsignIn
      · refine .inr (.inr ?_)
        rw [eq_of_isCurrent hvalid]
        exact Option.some_ne_none _
      · have hsignIn : k.request.isSignIn = true := hsignIn
        rw [hrequest] at hsignIn
        cases hsignIn
  | deleted hmay => exact .inl ⟨hpair, hinserted, hmay.ended, hcase⟩
  | drew hready => exact .inl ⟨hpair, hinserted, hready.ended, hcase⟩
  | inserted => cases hinserted
  | blacklisted _ _ hended' => exact .inl ⟨hpair, hinserted, hended', hcase⟩

/-- A sign-out stays with its session, and stays unvalidated. -/
theorem Effect.of_signOut (h : Effect w k op w' k') (hk : k.request.isSignOut = true) :
    k'.pair = k.pair := by
  cases h with
  | signsIn _ _ hrequest =>
      rw [hrequest] at hk
      cases hk
  | found _ _ hrequest =>
      cases hkind : k.request with
      | signOut dto =>
          rw [hkind] at hrequest
          cases hrequest
      | _ =>
          rw [hkind] at hk
          cases hk
  | _ => rfl

theorem Quiet.started (h : Quiet config pair past w) (request : Request) :
    Quiet config pair (past ++ [.started w i request]) w where
  gone := h.gone
  idle j kj hj := by
    rcases progressOf_started_cases hj with ⟨-, rfl⟩ | ⟨-, hbefore⟩
    · intro hpending
      obtain ⟨hpair, -, -, hvalid | hsignIn⟩ := hpending
      · cases hvalid
      · cases request with
        | signIn dto ip => cases hpair
        | _ => cases hsignIn
    · exact h.idle j kj hbefore

section Performed

variable (hk : progressOf config past i = some k) (hnext : Next k op)
variable (hperform : performWith choice op w = some (r, w'))
include hk hnext hperform

theorem Quiet.performed (h : Quiet config pair past w)
    (hsignIn : ¬BeginsSignIn config pair past (.performed w i choice op w')) :
    Quiet config pair (past ++ [.performed w i choice op w']) w' := by
  have heffect := effect_of hnext hperform
  refine ⟨?_, fun j kj hj hpending => ?_⟩
  · cases hget : w'.redis.get (.refreshToken pair.1 pair.2) with
    | none => rfl
    | some x =>
        rcases heffect.stored hget with hold | ⟨hready, -, hpair, -⟩
        · rw [h.gone] at hold
          cases hold
        · have hpending : k.Pending pair :=
            ⟨hpair, hready.inserted, hready.ended, .inl hready.validated⟩
          exact absurd hpending (h.idle i k hk)
  · rcases progressOf_cases hperform hk hj with ⟨rfl, rfl⟩ | ⟨-, hbefore⟩
    · rcases heffect.pending hpending with hold | ⟨email, dto, ip, user, rfl, hrequest, huser, hpair⟩ |
        hstored
      · exact h.idle j k hk hold
      · have hfails : choice.fails = none := fails_eq_none (by simp) hperform hpending.2.2.1
        exact hsignIn ⟨hfails, k, hk, dto, by rw [hrequest]; rfl, user, huser, hpair⟩
      · exact hstored h.gone
    · exact h.idle j kj hbefore hpending

/-- The deletion by a sign-out ends its session, if no call may still store an id. -/
theorem quiet_of_deletes (hpair : k.pair = some pair)
    (hbefore : k.deleted = false) (hafter : (advance op r k).deleted = true)
    (hcond : Undisturbed config i pair past (.performed w i choice op w')) :
    Quiet config pair (past ++ [.performed w i choice op w']) w' := by
  have heffect := effect_of hnext hperform
  rcases heffect.deletes hafter with hold | hdel
  · rw [hbefore] at hold
    cases hold
  · obtain ⟨userId, deviceId, hmay, hpair', hw', hk', rfl⟩ := hdel
    have hsame : (userId, deviceId) = pair := Option.some.inj (hpair'.symm.trans hpair)
    subst hsame
    have hended : (advance _ r k).ended = false := by
      rw [hk']
      exact hmay.ended
    have hfree := hcond.1 ⟨rfl, fails_eq_none (by simp) hperform hended, rfl⟩
    refine ⟨?_, fun j kj hj hpending => ?_⟩
    · rw [hw']
      simp [Keyspace.get]
    · rcases progressOf_cases hperform hk hj with ⟨rfl, rfl⟩ | ⟨-, hold⟩
      · rw [hk'] at hpending
        exact hfree j (System.mem_startedCalls hk) k hk hpending
      · exact hfree j (System.mem_startedCalls hold) kj hold hpending

end Performed

/-! ## The sign-out -/

/-- The session of sign-out `s` is over from the deletion to the return. -/
structure SigningOff (config : JwtConfig) (s : Nat) (pair : Int × String) (past : List Event)
    (w : World) : Prop where
  sessions : Sessions config past w
  pairOf : ∀ k dto, progressOf config past s = some k → k.request = .signOut dto →
    k.pair = some (dto.userId, dto.deviceId)
  ended : ∀ k, progressOf config past s = some k → k.SigningOut pair → Quiet config pair past w
  last : ∀ before w₀ choice op k, past = before ++ [.performed w₀ s choice op w] →
    progressOf config past s = some k → k.request.isSignOut = true → k.pair = some pair →
    k.deleted = true → Quiet config pair past w

theorem signingOff_init {now : Nat} {users : UserTable} :
    SigningOff config s pair [] (World.init now users) where
  sessions := sessions_init
  pairOf _ _ hk := by cases hk
  ended _ hk := by cases hk
  last _ _ _ _ _ hpast := absurd hpast.symm (by simp)

theorem SigningOff.started (h : SigningOff config s pair past w)
    (hnew : progressOf config past i = none) (request : Request) :
    SigningOff config s pair (past ++ [.started w i request]) w where
  sessions := h.sessions.started hnew request
  pairOf k dto hk hrequest := by
    rcases progressOf_started_cases hk with ⟨-, rfl⟩ | ⟨-, hbefore⟩
    · cases hrequest
      rfl
    · exact h.pairOf k dto hbefore hrequest
  ended k hk hsigningOut := by
    rcases progressOf_started_cases hk with ⟨-, rfl⟩ | ⟨-, hbefore⟩
    · exact absurd hsigningOut.2.2.1 (by simp [Request.progress])
    · exact (h.ended k hbefore hsigningOut).started request
  last before w₀ choice op k hpast := by
    have hlast := (List.append_inj' hpast rfl).2
    cases hlast

theorem SigningOff.performed (h : SigningOff config s pair past w)
    (hk : progressOf config past i = some k) (hnext : Next k op)
    (hperform : performWith choice op w = some (r, w'))
    (hcond : Undisturbed config s pair past (.performed w i choice op w')) :
    SigningOff config s pair (past ++ [.performed w i choice op w']) w' := by
  have heffect := effect_of hnext hperform
  -- an operation of the sign-out itself, after which it has deleted the id
  have hown : i = s → k.request.isSignOut = true → k.pair = some pair →
      (advance op r k).deleted = true →
      Quiet config pair (past ++ [.performed w i choice op w']) w' := by
    intro hi hsignOut hpair hdeleted
    subst hi
    cases hbefore : k.deleted with
    | false => exact quiet_of_deletes hk hnext hperform hpair hbefore hdeleted hcond
    | true =>
        have hended : k.ended = false := by
          cases op with
          | findUserByEmail => exact hnext.1.ended
          | findUserById => exact hnext.1.ended
          | compare => exact hnext.1.ended
          | verifyRefresh => exact hnext.1
          | get key =>
              cases key with
              | refreshToken => exact hnext.1.ended
              | blacklist => exact hnext
          | del => exact hnext.1.ended
          | randomUUID => exact hnext.1.ended
          | signRefresh => exact hnext.1.ended
          | set key =>
              cases key with
              | refreshToken => exact hnext.1.ended
              | blacklist => exact hnext.2.2
          | saveAudit => exact absurd (hnext.symm.trans hsignOut) Bool.false_ne_true
          | _ => exact hnext
        have hsigningOut : k.SigningOut pair := ⟨hsignOut, hpair, hbefore, hended⟩
        exact (h.ended k hk hsigningOut).performed hk hnext hperform fun hsignIn =>
          hcond.2 hsignIn k hk hsigningOut
  refine ⟨h.sessions.performed hk hnext hperform, fun ks dto hks hrequest => ?_,
    fun ks hks hsigningOut => ?_, fun before w₀ choice' op' ks hpast hks hsignOut hpair hdeleted => ?_⟩
  · rcases progressOf_cases hperform hk hks with ⟨rfl, rfl⟩ | ⟨-, hbefore⟩
    · rw [heffect.request] at hrequest
      rw [heffect.of_signOut (by rw [hrequest]; rfl)]
      exact h.pairOf k dto hk hrequest
    · exact h.pairOf ks dto hbefore hrequest
  · rcases progressOf_cases hperform hk hks with ⟨rfl, rfl⟩ | ⟨-, hbefore⟩
    · obtain ⟨hsignOut, hpair, hdeleted, -⟩ := hsigningOut
      rw [heffect.request] at hsignOut
      rw [heffect.of_signOut hsignOut] at hpair
      exact hown rfl hsignOut hpair hdeleted
    · exact (h.ended ks hbefore hsigningOut).performed hk hnext hperform fun hsignIn =>
        hcond.2 hsignIn ks hbefore hsigningOut
  · cases (List.append_inj' hpast rfl).2
    rw [progressOf_self hperform hk, Option.some.injEq] at hks
    subst hks
    rw [heffect.request] at hsignOut
    rw [heffect.of_signOut hsignOut] at hpair
    exact hown rfl hsignOut hpair hdeleted

/-! ## After the sign-out -/

/-- The session is over, and no refresh for it that is new comes through. -/
structure SignedOff (config : JwtConfig) (n : Nat) (pair : Int × String) (past : List Event)
    (w : World) : Prop where
  sessions : Sessions config past w
  quiet : Quiet config pair past w
  refused : ∀ j k, n ≤ j → progressOf config past j = some k → k.request.refresh.isSome = true →
    k.pair = some pair → k.validated = false

theorem SignedOff.started {n : Nat} (h : SignedOff config n pair past w)
    (hnew : progressOf config past i = none) (request : Request) :
    SignedOff config n pair (past ++ [.started w i request]) w where
  sessions := h.sessions.started hnew request
  quiet := h.quiet.started request
  refused j kj hj hkj hrefresh hpair := by
    rcases progressOf_started_cases hkj with ⟨-, rfl⟩ | ⟨-, hbefore⟩
    · rfl
    · exact h.refused j kj hj hbefore hrefresh hpair

theorem SignedOff.performed {n : Nat} (h : SignedOff config n pair past w)
    (hk : progressOf config past i = some k) (hnext : Next k op)
    (hperform : performWith choice op w = some (r, w'))
    (hsignIn : ¬BeginsSignIn config pair past (.performed w i choice op w')) :
    SignedOff config n pair (past ++ [.performed w i choice op w']) w' where
  sessions := h.sessions.performed hk hnext hperform
  quiet := h.quiet.performed hk hnext hperform hsignIn
  refused j kj hj hkj hrefresh hpair := by
    have heffect := effect_of hnext hperform
    rcases progressOf_cases hperform hk hkj with ⟨rfl, rfl⟩ | ⟨-, hbefore⟩
    · rw [heffect.request] at hrefresh
      obtain ⟨dto, hdto⟩ := Option.isSome_iff_exists.mp hrefresh
      cases hvalid : (advance op r k).validated with
      | false => rfl
      | true =>
          rcases heffect.validated hdto hvalid with ⟨hold, hsame⟩ | hread
          · rw [hsame] at hpair
            have hfalse := h.refused j k hj hk hrefresh hpair
            rw [hold] at hfalse
            cases hfalse
          · obtain ⟨userId, deviceId, -, -, hkpair, -, hk', hcurrent⟩ := hread
            rw [hk'] at hpair
            have hsame : (userId, deviceId) = pair := Option.some.inj (hkpair.symm.trans hpair)
            subst hsame
            have hget := eq_of_isCurrent hcurrent
            rw [h.quiet.gone] at hget
            cases hget
    · exact h.refused j kj hj hbefore hrefresh hpair

/-- Where sign-out `s` is not disturbed, a refresh for its session that is started after its return
gets no tokens until a sign-in for the session begins, whatever token it presents. -/
theorem signOut_revokes {now : Nat} {users : UserTable} {ms ms' : List (Move Request Choice)}
    {es es' : List Event} {P P' : ServicePool} {w₀ w₁ w₂ w₃ : World} {dto : SignOutDto}
    {dto' : RefreshTokenDto} {j : Nat}
    (hrun : (service config).run ms (.init (World.init now users)) =
      some (es ++ [.performed w₀ s choice op w₁], P))
    (hstarted : .started w₂ s (.signOut dto) ∈ es)
    (hreturned : P.calls[s]? = some (.done (.ok none, ())))
    (hundisturbed : System.Throughout (Undisturbed config s (dto.userId, dto.deviceId)) []
      (es ++ [.performed w₀ s choice op w₁]))
    (hrun' : (service config).run ms' P = some (es', P'))
    (hnone : System.Throughout (fun past e => ¬BeginsSignIn config (dto.userId, dto.deviceId) past e)
      (es ++ [.performed w₀ s choice op w₁]) es')
    (hrefresh : .started w₃ j (.refreshTokens dto') ∈ es')
    (hpair : (dto'.refreshToken.claims.sub, dto'.effectiveDeviceId dto'.refreshToken.claims) =
      (dto.userId, dto.deviceId)) (tokens : Tokens) :
    P'.calls[j]? ≠ some (.done (.ok (some tokens), ())) := by
  intro hdone
  have hfirst : Tracking config (SigningOff config s (dto.userId, dto.deviceId))
      ([] ++ (es ++ [.performed w₀ s choice op w₁])) P := tracking_run
    (fun request hnew h _ => h.started hnew request)
    (fun hk hnext h hperform hallows => h.performed hk hnext hperform hallows)
    hrun hundisturbed (System.tracks_init signingOff_init)
  rw [List.nil_append] at hfirst
  -- the last event is the one with which the sign-out returns
  have hquiet : Quiet config (dto.userId, dto.deviceId) (es ++ [.performed w₀ s choice op w₁])
      P.state := by
    obtain ⟨k, hk, hrequest⟩ := hfirst.inv.sessions.requested w₂ s _ (List.mem_append_left _ hstarted)
    obtain ⟨k', hk', hpost⟩ := hfirst.calls s _ hreturned
    have hsame : k' = k := Option.some.inj (hk'.symm.trans hk)
    subst hsame
    have hsignOut : k'.request.isSignOut = true := by rw [hrequest]; rfl
    have hstate : P.state = w₁ := System.run_last hrun
    rw [hstate]
    have hlast := hfirst.inv.last es w₀ choice op k'
    rw [hstate] at hlast
    exact hlast rfl hk hsignOut (hfirst.inv.pairOf k' dto hk hrequest) (hpost none rfl hsignOut).1
  have hsecond : Tracking config (SignedOff config P.calls.length (dto.userId, dto.deviceId))
      ((es ++ [.performed w₀ s choice op w₁]) ++ es') P' := by
    refine tracking_run (fun request hnew h _ => h.started hnew request)
      (fun hk hnext h hperform hallows => h.performed hk hnext hperform hallows) hrun' hnone
      ⟨⟨hfirst.inv.sessions, hquiet, fun j k hj hk => ?_⟩, hfirst.calls, hfirst.known⟩
    have hnew := hfirst.unknown hj
    exact absurd (hnew.symm.trans hk) (by simp)
  obtain ⟨k, hk, hrequest⟩ := hsecond.inv.sessions.requested w₃ j _ (List.mem_append_right _ hrefresh)
  obtain ⟨k', hk', hpost⟩ := hsecond.calls j _ hdone
  have hsame : k' = k := Option.some.inj (hk'.symm.trans hk)
  subst hsame
  have hdto : k'.request.refresh = some dto' := by rw [hrequest]; rfl
  obtain ⟨hvalid, -, hpost⟩ := hpost (some tokens) rfl
  have hnew : P.calls.length ≤ j := System.length_le_of_started hrun' hrefresh
  have hfalse := hsecond.inv.refused j k' hnew hk (by rw [hdto]; rfl)
    ((hpost dto' hdto).2.trans (congrArg some hpair))
  rw [hvalid] at hfalse
  cases hfalse

/-! ## Runs of a sign-out and a refresh -/

/-- Call `i` signs the first user out on the device of the first token. -/
def signsOut (es : List Event) (i : Nat) : Bool :=
  es.any fun
    | .started _ j (.signOut dto) => j = i ∧ dto = ⟨1, "d1"⟩
    | _ => false

theorem started_of_signsOut {es : List Event} (h : signsOut es i = true) :
    ∃ s, .started s i (.signOut ⟨1, "d1"⟩) ∈ es := by
  obtain ⟨e, he, hmatch⟩ := List.any_eq_true.mp h
  split at hmatch
  · rename_i s j dto
    obtain ⟨rfl, rfl⟩ := of_decide_eq_true hmatch
    exact ⟨s, he⟩
  · cases hmatch

def hasReturned (P : ServicePool) (i : Nat) : Bool :=
  match P.calls[i]? with
  | some (.done (.ok none, _)) => true
  | _ => false

theorem done_of_hasReturned {P : ServicePool} (h : hasReturned P i = true) :
    P.calls[i]? = some (.done (.ok none, ())) := by
  unfold hasReturned at h
  split at h
  · rename_i hcall
    exact hcall
  · cases h

def endsWith (es : List Event) (i : Nat) : Bool :=
  match es.getLast? with
  | some (.performed _ j _ _ _) => j = i
  | _ => false

theorem concat_of_endsWith {es : List Event} (h : endsWith es i = true) :
    ∃ before w₀ choice op w₁, es = before ++ [.performed w₀ i choice op w₁] := by
  unfold endsWith at h
  split at h
  · rename_i w₀ j choice op w₁ hlast
    obtain ⟨before, rfl⟩ := List.getLast?_eq_some_iff.mp hlast
    exact ⟨before, w₀, choice, op, w₁, by rw [of_decide_eq_true h]⟩
  · cases h

/-- The refresh follows the sign-out, and is refused. -/
theorem signOut_revokes_refused :
    ∃ es P es' P', (service defaultConfig).run (signedIn ++ .start (.signOut ⟨1, "d1"⟩) ::
        steps 1 3 "") (.init (World.init 0 johnOnly)) = some (es, P) ∧
      (service defaultConfig).run (.start (.refreshTokens ⟨johnsToken "t1" "d1", none⟩) :: steps 2 2 "t2") P =
        some (es', P') ∧ ∀ tokens, P'.calls[2]? ≠ some (.done (.ok (some tokens), ())) := by
  have hany : ((service defaultConfig).run (signedIn ++ .start (.signOut ⟨1, "d1"⟩) ::
      steps 1 3 "") (.init (World.init 0 johnOnly))).any (fun result =>
        endsWith result.1 1 && signsOut result.1.dropLast 1 && hasReturned result.2 1 &&
          decide (System.Throughout (Undisturbed defaultConfig 1 (1, "d1")) [] result.1) &&
          ((service defaultConfig).run (.start (.refreshTokens ⟨johnsToken "t1" "d1", none⟩) ::
            steps 2 2 "t2") result.2).any fun result' =>
              presents result'.1 2 (johnsToken "t1" "d1") && decide (System.Throughout
                (fun past e => ¬BeginsSignIn defaultConfig (1, "d1") past e) result.1 result'.1)) =
      true := by
    decide +kernel
  obtain ⟨es, P, hrun, hresult⟩ := System.exists_run hany
  simp only [Bool.and_eq_true, decide_eq_true_eq] at hresult
  obtain ⟨⟨⟨⟨hends, hsignsOut⟩, hreturned⟩, hundisturbed⟩, hany'⟩ := hresult
  obtain ⟨es', P', hrun', hresult'⟩ := System.exists_run hany'
  simp only [Bool.and_eq_true, decide_eq_true_eq] at hresult'
  obtain ⟨before, w₀, choice, op, w₁, rfl⟩ := concat_of_endsWith hends
  rw [List.dropLast_concat] at hsignsOut
  obtain ⟨w₂, hstarted⟩ := started_of_signsOut hsignsOut
  obtain ⟨w₃, hrefresh⟩ := started_of_presents hresult'.1
  exact ⟨_, P, es', P', hrun, hrun', signOut_revokes hrun hstarted (done_of_hasReturned hreturned)
    hundisturbed hrun' hresult'.2 hrefresh rfl⟩

/-- A refresh has read the stored id when the sign-out deletes it. -/
def signedOutMidway : List (Move Request Choice) :=
  signedIn ++ .start (.refreshTokens ⟨johnsToken "t1" "d1", none⟩) :: steps 1 4 "t2" ++
    .start (.signOut ⟨1, "d1"⟩) :: steps 2 3 ""

/-- The refresh goes on after the sign-out has returned, and its new token is presented. -/
def refreshedAfterwards : List (Move Request Choice) :=
  steps 1 7 "t2" ++
    .start (.refreshTokens ⟨johnsToken "t2" "d1", none⟩) :: steps 3 11 "t3"

theorem signed_out_session_refreshed :
    ∃ es P es' P', (service defaultConfig).run signedOutMidway (.init (World.init 0 johnOnly)) =
        some (es, P) ∧ (∃ s, .started s 2 (.signOut ⟨1, "d1"⟩) ∈ es) ∧
      P.calls[2]? = some (.done (.ok none, ())) ∧
      (service defaultConfig).run refreshedAfterwards P = some (es', P') ∧
      System.Throughout (fun past e => ¬BeginsSignIn defaultConfig (1, "d1") past e) es es' ∧
      (∃ s, .started s 3 (.refreshTokens ⟨johnsToken "t2" "d1", none⟩) ∈
        es') ∧ ∃ tokens, P'.calls[3]? = some (.done (.ok (some tokens), ())) := by
  have hany : ((service defaultConfig).run signedOutMidway (.init (World.init 0 johnOnly))).any
      (fun result => signsOut result.1 2 && hasReturned result.2 2 &&
        ((service defaultConfig).run refreshedAfterwards result.2).any fun result' =>
          decide (System.Throughout (fun past e => ¬BeginsSignIn defaultConfig (1, "d1") past e)
            result.1 result'.1) &&
          presents result'.1 3 (johnsToken "t2" "d1") &&
          issuesTokens result'.2 3) = true := by
    decide +kernel
  obtain ⟨es, P, hrun, hresult⟩ := System.exists_run hany
  simp only [Bool.and_eq_true] at hresult
  obtain ⟨⟨hsignsOut, hreturned⟩, hany'⟩ := hresult
  obtain ⟨es', P', hrun', hresult'⟩ := System.exists_run hany'
  simp only [Bool.and_eq_true, decide_eq_true_eq] at hresult'
  exact ⟨es, P, es', P', hrun, started_of_signsOut hsignsOut, done_of_hasReturned hreturned, hrun',
    hresult'.1.1, started_of_presents hresult'.1.2, issuesTokens_iff.mp hresult'.2⟩

end FlightBookings.Auth
