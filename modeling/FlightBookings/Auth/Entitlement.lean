import FlightBookings.Auth.SingleUse

/-! # Who gets tokens

The service looks at the row of a user once, for the stored hash. It never asks
whether the account is active or locked, and a row without a hash passes without
a comparison. Where the rows of the users that come through are good ones, and
stay so until the tokens are there, tokens are signed for entitled users only.
-/

namespace FlightBookings.Auth

open Await

/-- The account is active and not locked. -/
def Entitled (w : World) (userId : Int) : Prop :=
  ∃ user ∈ w.users.byId userId, user.isActive = true ∧ user.isLocked = false

instance (w : World) (userId : Int) : Decidable (Entitled w userId) :=
  inferInstanceAs (Decidable (∃ user ∈ _, _))

/-- What a call has learned of its user: the row that it found, whether it came through with its
checks, and whether it has stored its id or failed. -/
structure Clearance where
  request : Request
  user : Option User
  cleared : Bool
  closed : Bool

def Request.clearance (request : Request) : Clearance := ⟨request, none, false, false⟩

def Clearance.learn (k : Clearance) : (op : Op) → op.Ret → Clearance
  | .findUserByEmail _, found =>
      match k.request with
      | .signIn _ _ =>
          { k with user := found, cleared := found.any fun user => User.storedHash user |>.isNone }
      | _ => k
  | .compare _ _, isMatch => { k with cleared := isMatch }
  | .findUserById _, user => { k with user := some user }
  | .get (.refreshToken _ _), stored =>
      match k.request with
      | .refreshTokens dto => { k with cleared := isCurrent stored dto.refreshToken.id }
      | _ => k
  | .set (.refreshToken _ _) _ _, _ => { k with closed := true }
  | _, _ => k

def Clearance.advance (op : Op) (r : Except Exception op.Ret) (k : Clearance) : Clearance :=
  match r with
  | .ok a => k.learn op a
  | .error _ => { k with closed := true }

def clearanceOf (config : JwtConfig) (past : List Event) (i : Nat) : Option Clearance :=
  (service config).trace Request.clearance Clearance.advance i past

/-- The call is about to issue tokens for the user. -/
def Clearance.Issues (k : Clearance) (userId : Int) : Prop :=
  k.cleared = true ∧ k.closed = false ∧ ∃ user, k.user = some user ∧ user.id = userId

/-- What a call may do with what it has learned. -/
def Clearance.Permits (k : Clearance) : Op → Prop
  | .findUserByEmail email => ∀ dto ip, k.request = .signIn dto ip → email = dto.email
  | .findUserById _ => k.cleared = false ∧ k.request.isSignIn = false
  | .compare password storedHash => ∃ dto ip user, k.request = .signIn dto ip ∧
      k.user = some user ∧ password = dto.password ∧ user.storedHash = some storedHash
  | .get (.refreshToken userId _) => k.request.refresh.isSome = true →
      ∃ user, k.user = some user ∧ user.id = userId
  | .signAccess claims _ => k.Issues claims.id
  | .signRefresh claims _ => k.Issues claims.sub
  | .set (.refreshToken userId _) _ _ => k.Issues userId
  | _ => True

/-! ## The requests respect it -/

section Calls

variable {config : JwtConfig} {k : Clearance} {α : Type}

abbrev Respects (c : Call α) (k : Clearance) (Q : α → Unit → Clearance → Prop) : Prop :=
  c.Ensures (tracked (fun op k => Clearance.Permits k op) (fun op r => Answers op r)
    Clearance.advance) () k Q fun _ _ => True

theorem await_respects {op : Op} {Q : op.Ret → Unit → Clearance → Prop} (hpermits : k.Permits op)
    (h : ∀ a, Answers op (.ok a) → Q a () (k.learn op a)) : Respects (Call.await op) k Q := by
  refine ⟨hpermits, ?_⟩
  intro r hr
  cases r with
  | ok a => exact h a hr
  | error e => trivial

theorem generateTokens_respects {user : User} {deviceId : String} {ip : Option String}
    (huser : k.user = some user) (hcleared : k.cleared = true) (hclosed : k.closed = false) :
    Respects (generateTokens config user deviceId ip) k fun _ _ _ => True := by
  have hissues : k.Issues user.id := ⟨hcleared, hclosed, user, huser, rfl⟩
  refine .bind (await_respects trivial fun tokenId _ => ?_)
  refine .bind (await_respects hissues fun accessToken _ => ?_)
  refine .bind (await_respects hissues fun refreshToken _ => ?_)
  refine .bind (await_respects hissues fun _ _ => ?_)
  exact .bind (await_respects trivial fun _ _ => .pure trivial)

theorem checkPassword_respects {dto : SignInDto} {ip : Option String} {user : User}
    (hrequest : k.request = .signIn dto ip) (huser : k.user = some user)
    (hcleared : k.cleared = user.storedHash.isNone) (hclosed : k.closed = false) :
    Respects (checkPassword dto ip user) k fun _ _ k' =>
      k'.user = some user ∧ k'.cleared = true ∧ k'.closed = false := by
  cases hstored : user.storedHash with
  | none =>
      simp only [checkPassword, hstored]
      refine .pure ⟨huser, ?_, hclosed⟩
      rw [hcleared, hstored]
      rfl
  | some storedHash =>
      simp only [checkPassword, hstored]
      refine .bind (await_respects ⟨dto, ip, user, hrequest, huser, rfl, hstored⟩ fun isMatch _ => ?_)
      cases isMatch with
      | true => exact .whenever (fun hfalse => by cases hfalse) fun _ => ⟨huser, rfl, hclosed⟩
      | false =>
          refine .whenever (fun _ => ?_) fun hne => absurd rfl hne
          exact .bind (await_respects trivial fun _ _ => .throw trivial)

theorem signIn_respects {dto : SignInDto} {ip : Option String} :
    Respects (signIn config dto ip) (Request.signIn dto ip).clearance fun _ _ _ => True := by
  have hemail : (Request.signIn dto ip).clearance.Permits (.findUserByEmail dto.email) := by
    intro dto' ip' hrequest
    cases hrequest
    rfl
  refine .bind (await_respects hemail fun found _ => ?_)
  cases found with
  | none => exact .throw trivial
  | some user =>
      refine .andThen (checkPassword_respects rfl rfl rfl rfl) (fun _ _ h => h) fun _ _ k hk => ?_
      obtain ⟨huser, hcleared, hclosed⟩ := hk
      refine .andThen (generateTokens_respects huser hcleared hclosed) (fun _ _ h => h)
        fun _ _ k _ => ?_
      exact .bind (await_respects trivial fun _ _ => .pure trivial)

theorem giveUpToken_respects {dto : RefreshTokenDto} :
    Respects (giveUpToken dto) (Request.refreshTokens dto).clearance fun result _ k =>
      k.user = some result.1 ∧ k.cleared = true ∧ k.closed = false := by
  refine .bind (await_respects trivial fun payload hpayload => ?_)
  have hpayload : payload = dto.refreshToken.claims := hpayload
  subst hpayload
  refine .bind (.whenever (fun _ => .throw trivial) fun _ => ?_)
  refine .bind (.bind (await_respects trivial fun _ _ => .pure ?_))
  refine .bind (.whenever (fun _ => .throw trivial) fun _ => ?_)
  refine .bind (await_respects ⟨rfl, rfl⟩ fun user _ => ?_)
  refine .bind (.bind (await_respects (fun _ => ⟨user, rfl, rfl⟩) fun stored _ => ?_))
  by_cases hcurrent : orElse stored "" = "" ∨ stored ≠ some dto.refreshToken.claims.refreshTokenId
  · rw [if_pos hcurrent]
    exact .throw trivial
  · rw [if_neg hcurrent]
    have hvalid : isCurrent stored dto.refreshToken.claims.refreshTokenId = true :=
      decide_eq_true hcurrent
    refine .pure (.bind (.whenever nofun fun _ => ?_))
    refine .bind (await_respects trivial fun _ _ => ?_)
    exact .bind (await_respects trivial fun _ _ => .pure ⟨rfl, hvalid, rfl⟩)

theorem refreshTokens_respects {dto : RefreshTokenDto} :
    Respects (refreshTokens config dto) (Request.refreshTokens dto).clearance
      fun _ _ _ => True := by
  have hgiven : Respects (tryCatch (giveUpToken dto) fun error => throw error.ofRefresh)
      (Request.refreshTokens dto).clearance fun result _ k =>
        k.user = some result.1 ∧ k.cleared = true ∧ k.closed = false :=
    .tryCatch giveUpToken_respects fun _ _ _ _ => .throw trivial
  refine .andThen hgiven (fun _ _ h => h) fun result _ k hk => ?_
  obtain ⟨huser, hcleared, hclosed⟩ := hk
  exact generateTokens_respects huser hcleared hclosed

theorem request_respects (config : JwtConfig) (request : Request) :
    Respects (request.call config) request.clearance fun _ _ _ => True := by
  cases request with
  | register dto =>
      refine .bind (.bind (await_respects nofun fun found _ => ?_))
      refine .bind (.whenever (fun _ => .throw trivial) fun _ => ?_)
      refine .bind (await_respects trivial fun _ _ => ?_)
      exact .bind (await_respects trivial fun _ _ => .pure (.pure trivial))
  | signIn dto ip => exact .andThen signIn_respects (fun _ _ h => h) fun _ _ _ _ => .pure trivial
  | refreshTokens dto =>
      exact .andThen refreshTokens_respects (fun _ _ h => h) fun _ _ _ _ => .pure trivial
  | signOut dto =>
      refine .bind (.bind (await_respects nofun fun stored _ => ?_))
      refine .bind (await_respects trivial fun _ _ => ?_)
      exact await_respects trivial fun _ _ => .pure trivial
  | validateUser payload =>
      refine .bind (.bind (await_respects trivial fun found _ => ?_))
      split
      · exact .throw trivial
      · exact .pure (.pure trivial)
  | changeUsers users => exact .bind (await_respects trivial fun _ _ => .pure trivial)
  | wait ms => exact .bind (await_respects trivial fun _ _ => .pure trivial)

end Calls

/-! ## What is asked and what is promised -/

/-- The user that an operation issues tokens for. -/
def Op.issuesFor : Op → Option Int
  | .signAccess claims _ => some claims.id
  | .signRefresh claims _ => some claims.sub
  | .set (.refreshToken userId _) _ _ => some userId
  | _ => none

/-- Call `i` has found the row under the address. -/
def Found (past : List Event) (i : Nat) (email : String) (user : User) : Prop :=
  ∃ w choice w', .performed w i choice (.findUserByEmail email) w' ∈ past ∧
    w.users.byEmail email = some user

/-- Call `i` has compared the password with the stored hash of its user, and they match. -/
def Compared (past : List Event) (i : Nat) (dto : SignInDto) (userId : Int) : Prop :=
  ∃ user storedHash, Found past i dto.email user ∧ user.id = userId ∧
    user.storedHash = some storedHash ∧ ∃ w choice w',
      .performed w i choice (.compare dto.password storedHash) w' ∈ past ∧
        choice.fails = none ∧ choice.isMatch = true

/-- Tokens are issued for an entitled user, and by a sign-in after a comparison that succeeded. -/
def Entitles (past : List Event) : Event → Prop
  | .performed w i _ op _ => ∀ userId, op.issuesFor = some userId → Entitled w userId ∧
      ∀ s dto ip, .started s i (.signIn dto ip) ∈ past → Compared past i dto userId
  | .started _ _ _ => True

/-- A call comes through with its checks only where its user is entitled, a sign-in only with a
stored hash, and a change of the accounts spares the users whose tokens are under way. -/
def Vetted (config : JwtConfig) (past : List Event) : Event → Prop
  | .performed w i choice op w' => choice.fails = none →
      match op with
      | .findUserByEmail email => ∀ k ∈ clearanceOf config past i, k.request.isSignIn = true →
          ∀ user ∈ w.users.byEmail email, user.storedHash ≠ none
      | .compare _ _ => choice.isMatch = true → ∀ k ∈ clearanceOf config past i,
          ∀ user ∈ k.user, Entitled w user.id
      | .get (.refreshToken userId deviceId) => ∀ k ∈ clearanceOf config past i,
          ∀ dto ∈ k.request.refresh, isCurrent (w.redis.get (.refreshToken userId deviceId))
            dto.refreshToken.id = true → Entitled w userId
      | .changeUsers _ => ∀ j ∈ System.startedCalls past, ∀ k ∈ clearanceOf config past j,
          k.cleared = true → k.closed = false → ∀ user ∈ k.user,
            Entitled w user.id → Entitled w' user.id
      | _ => True
  | .started _ _ _ => True

/-! ## What an operation tells a call -/

variable {config : JwtConfig} {past : List Event} {w w' : World} {k k' : Clearance} {op : Op}
variable {choice : Choice} {r : Except Exception op.Ret} {i : Nat} {userId : Int}

inductive Learns (w : World) (choice : Choice) (k : Clearance) : Op → Clearance → Prop where
  | nothing {op : Op} : Learns w choice k op k
  | closes {op : Op} : Learns w choice k op { k with closed := true }
  | looks {dto : SignInDto} {ip : Option String} (hfails : choice.fails = none)
      (hrequest : k.request = .signIn dto ip) : Learns w choice k (.findUserByEmail dto.email)
        { k with
          user := w.users.byEmail dto.email
          cleared := (w.users.byEmail dto.email).any fun user => user.storedHash.isNone }
  | compares {dto : SignInDto} {ip : Option String} {user : User} {storedHash : String}
      (hfails : choice.fails = none) (hrequest : k.request = .signIn dto ip)
      (huser : k.user = some user) (hstored : user.storedHash = some storedHash) :
      Learns w choice k (.compare dto.password storedHash) { k with cleared := choice.isMatch }
  | finds {id : Int} {user : User} (hcleared : k.cleared = false)
      (hrequest : k.request.isSignIn = false) :
      Learns w choice k (.findUserById id) { k with user := some user }
  | reads {dto : RefreshTokenDto} {user : User} {deviceId : String} (hfails : choice.fails = none)
      (hrequest : k.request = .refreshTokens dto) (huser : k.user = some user) :
      Learns w choice k (.get (.refreshToken user.id deviceId))
        { k with
          cleared := isCurrent (w.redis.get (.refreshToken user.id deviceId)) dto.refreshToken.id }

theorem learns_of (hpermits : k.Permits op) (h : performWith choice op w = some (r, w')) :
    Learns w choice k op (k.advance op r) := by
  cases r with
  | error e => exact .closes
  | ok a =>
      rcases performWith_cases h with ⟨message, hr, -⟩ | ⟨hop, -⟩
      · cases hr
      cases op with
      | findUserByEmail email =>
          have hfails : choice.fails = none := fails_of_ok (by simp) h
          cases hop
          obtain ⟨request, user, cleared, closed⟩ := k
          cases request with
          | signIn dto ip =>
              have hemail : email = dto.email := hpermits dto ip rfl
              subst hemail
              exact .looks hfails rfl
          | _ => exact .nothing
      | compare password storedHash =>
          have hfails : choice.fails = none := fails_of_ok (by simp) h
          cases hop
          obtain ⟨dto, ip, user, hrequest, huser, rfl, hstored⟩ := hpermits
          exact .compares hfails hrequest huser hstored
      | findUserById id => exact .finds hpermits.1 hpermits.2
      | get key =>
          have hfails : choice.fails = none := fails_of_ok (by simp) h
          cases hop
          cases key with
          | blacklist tokenId => exact .nothing
          | refreshToken userId deviceId =>
              obtain ⟨request, user, cleared, closed⟩ := k
              cases request with
              | refreshTokens dto =>
                  obtain ⟨user, huser, rfl⟩ := hpermits rfl
                  exact .reads hfails rfl huser
              | _ => exact .nothing
      | set key value seconds =>
          cases key with
          | blacklist tokenId => exact .nothing
          | refreshToken userId deviceId => exact .closes
      | _ => exact .nothing

theorem Learns.request (h : Learns w choice k op k') : k'.request = k.request := by
  cases h <;> rfl

/-- Only a change of the accounts takes anything away from a user. -/
theorem entitled_of_performed (h : performWith choice op w = some (r, w'))
    (hop : choice.fails = none → ∀ users, op = .changeUsers users → Entitled w userId →
      Entitled w' userId) (hentitled : Entitled w userId) : Entitled w' userId := by
  rcases performWith_cases h with ⟨message, -, rfl⟩ | ⟨hperform, -⟩
  · exact hentitled
  cases op with
  | changeUsers users =>
      cases r with
      | error e => cases hperform
      | ok a => exact hop (fails_of_ok (by simp) h) users rfl hentitled
  | saveUser dto hash =>
      simp only [Op.perform] at hperform
      split at hperform
      · cases hperform
        obtain ⟨user, huser, hflags⟩ := hentitled
        refine ⟨user, ?_, hflags⟩
        change Table.find User.id userId (w.users.rows ++ [_]) = some user
        rw [Table.find_insert, show Table.find User.id userId w.users.rows = some user from huser]
        rfl
      · cases hperform
        exact hentitled
  | findUserById id =>
      simp only [Op.perform] at hperform
      split at hperform <;> cases hperform <;> exact hentitled
  | verifyAccess token =>
      simp only [Op.perform] at hperform
      split at hperform <;> cases hperform <;> exact hentitled
  | verifyRefresh token =>
      simp only [Op.perform] at hperform
      split at hperform <;> cases hperform <;> exact hentitled
  | _ =>
      cases hperform
      exact hentitled

/-! ## The invariant -/

/-- Every call that has come through has an entitled user, and a sign-in has compared the stored
hash. -/
structure Vouched (config : JwtConfig) (past : List Event) (w : World) : Prop where
  entitled : ∀ i k user, clearanceOf config past i = some k → k.user = some user →
    k.cleared = true → k.closed = false → Entitled w user.id
  found : ∀ i k dto ip user, clearanceOf config past i = some k → k.request = .signIn dto ip →
    k.user = some user → Found past i dto.email user
  compared : ∀ i k dto ip user, clearanceOf config past i = some k → k.request = .signIn dto ip →
    k.user = some user → k.cleared = true → Compared past i dto user.id
  requested : ∀ s i request, .started s i request ∈ past →
    ∃ k, clearanceOf config past i = some k ∧ k.request = request
  kept : System.Throughout Entitles [] past

theorem vouched_init {now : Nat} {users : UserTable} :
    Vouched config [] (World.init now users) where
  entitled _ _ _ hk := by cases hk
  found _ _ _ _ _ hk := by cases hk
  compared _ _ _ _ _ hk := by cases hk
  requested _ _ _ hmem := absurd hmem List.not_mem_nil
  kept := trivial

theorem Found.mono {email : String} {user : User} (h : Found past i email user) (e : Event) :
    Found (past ++ [e]) i email user := by
  obtain ⟨w, choice, w', hmem, huser⟩ := h
  exact ⟨w, choice, w', List.mem_append_left _ hmem, huser⟩

theorem Compared.mono {dto : SignInDto} (h : Compared past i dto userId) (e : Event) :
    Compared (past ++ [e]) i dto userId := by
  obtain ⟨user, storedHash, hfound, hid, hstored, w, choice, w', hmem, hmatch⟩ := h
  exact ⟨user, storedHash, hfound.mono e, hid, hstored, w, choice, w',
    List.mem_append_left _ hmem, hmatch⟩

theorem clearanceOf_started_cases {request : Request} {j : Nat} {kj : Clearance}
    (hj : clearanceOf config (past ++ [.started w i request]) j = some kj) :
    (j = i ∧ kj = request.clearance) ∨ (j ≠ i ∧ clearanceOf config past j = some kj) := by
  by_cases heq : j = i
  · subst heq
    have hself : clearanceOf config (past ++ [.started w j request]) j = some request.clearance :=
      System.trace_started_self
    rw [hself, Option.some.injEq] at hj
    exact .inl ⟨rfl, hj.symm⟩
  · exact .inr ⟨heq, (System.trace_started_of_ne heq).symm.trans hj⟩

theorem clearanceOf_self (hperform : performWith choice op w = some (r, w'))
    (hk : clearanceOf config past i = some k) :
    clearanceOf config (past ++ [.performed w i choice op w']) i = some (k.advance op r) := by
  have hstep : clearanceOf config (past ++ [.performed w i choice op w']) i =
      (clearanceOf config past i).map (Clearance.advance op r) := System.trace_performed_self hperform
  rw [hstep, hk, Option.map_some]

theorem clearanceOf_cases {j : Nat} {kj : Clearance}
    (hperform : performWith choice op w = some (r, w')) (hk : clearanceOf config past i = some k)
    (hj : clearanceOf config (past ++ [.performed w i choice op w']) j = some kj) :
    (j = i ∧ kj = k.advance op r) ∨ (j ≠ i ∧ clearanceOf config past j = some kj) := by
  by_cases heq : j = i
  · subst heq
    rw [clearanceOf_self hperform hk, Option.some.injEq] at hj
    exact .inl ⟨rfl, hj.symm⟩
  · exact .inr ⟨heq, (System.trace_performed_of_ne heq).symm.trans hj⟩

theorem Vouched.started (h : Vouched config past w) (hnew : clearanceOf config past i = none)
    (request : Request) : Vouched config (past ++ [.started w i request]) w := by
  refine ⟨fun j kj user hj huser => ?_, fun j kj dto ip user hj hrequest huser => ?_,
    fun j kj dto ip user hj hrequest huser hcleared => ?_, fun s j request' hmem => ?_,
    System.throughout_append.mpr ⟨h.kept, trivial, trivial⟩⟩
  · rcases clearanceOf_started_cases hj with ⟨-, rfl⟩ | ⟨-, hbefore⟩
    · cases huser
    · exact h.entitled j kj user hbefore huser
  · rcases clearanceOf_started_cases hj with ⟨-, rfl⟩ | ⟨-, hbefore⟩
    · cases huser
    · exact (h.found j kj dto ip user hbefore hrequest huser).mono _
  · rcases clearanceOf_started_cases hj with ⟨-, rfl⟩ | ⟨-, hbefore⟩
    · cases huser
    · exact (h.compared j kj dto ip user hbefore hrequest huser hcleared).mono _
  · rcases List.mem_append.mp hmem with hold | hlast
    · obtain ⟨kj, hj, hrequest⟩ := h.requested s j request' hold
      have hne : j ≠ i := by
        intro heq
        subst heq
        rw [hnew] at hj
        cases hj
      exact ⟨kj, (System.trace_started_of_ne hne).trans hj, hrequest⟩
    · cases List.mem_singleton.mp hlast
      exact ⟨_, System.trace_started_self, rfl⟩

section Steps

variable {dto : SignInDto} {ip : Option String} {user : User}

/-- The user of the call that moves is still the one that it came through for, or the step is
vetted. -/
theorem Vouched.entitled_self (h : Vouched config past w) (hk : clearanceOf config past i = some k)
    (hlearns : Learns w choice k op k') (hvetted : Vetted config past (.performed w i choice op w'))
    (huser : k'.user = some user) (hcleared : k'.cleared = true) (hclosed : k'.closed = false) :
    Entitled w user.id := by
  cases hlearns with
  | nothing => exact h.entitled i k user hk huser hcleared hclosed
  | closes => cases hclosed
  | looks hfails hrequest =>
      have hstored : user.storedHash ≠ none :=
        hvetted hfails k hk (by rw [hrequest]; rfl) user huser
      have huser : w.users.byEmail _ = some user := huser
      simp only [huser, Option.any_some] at hcleared
      exact absurd (Option.isNone_iff_eq_none.mp hcleared) hstored
  | compares hfails => exact hvetted hfails hcleared k hk user huser
  | finds hblank => exact absurd (hblank.symm.trans hcleared) Bool.false_ne_true
  | reads hfails hrequest hbefore =>
      have hvalid := hvetted hfails k hk _ (by rw [hrequest]; rfl) hcleared
      rw [hbefore, Option.some.injEq] at huser
      exact huser ▸ hvalid

theorem Vouched.found_self (h : Vouched config past w) (hk : clearanceOf config past i = some k)
    (hlearns : Learns w choice k op k') (hrequest : k'.request = .signIn dto ip)
    (huser : k'.user = some user) :
    Found (past ++ [.performed w i choice op w']) i dto.email user := by
  cases hlearns with
  | looks hfails hbefore =>
      have hdto := hbefore.symm.trans hrequest
      cases hdto
      exact ⟨w, choice, w', List.mem_append_right _ List.mem_cons_self, huser⟩
  | finds hblank hkind =>
      rw [show k.request = .signIn dto ip from hrequest] at hkind
      cases hkind
  | reads hfails hbefore =>
      rw [show k.request = .signIn dto ip from hrequest] at hbefore
      cases hbefore
  | _ => exact (h.found i k dto ip user hk hrequest huser).mono _

theorem Vouched.compared_self (h : Vouched config past w) (hk : clearanceOf config past i = some k)
    (hlearns : Learns w choice k op k') (hvetted : Vetted config past (.performed w i choice op w'))
    (hrequest : k'.request = .signIn dto ip) (huser : k'.user = some user)
    (hcleared : k'.cleared = true) :
    Compared (past ++ [.performed w i choice op w']) i dto user.id := by
  cases hlearns with
  | looks hfails hbefore =>
      have hstored : user.storedHash ≠ none :=
        hvetted hfails k hk (by rw [hbefore]; rfl) user huser
      have huser : w.users.byEmail _ = some user := huser
      simp only [huser, Option.any_some] at hcleared
      exact absurd (Option.isNone_iff_eq_none.mp hcleared) hstored
  | @compares dto' ip' user' storedHash hfails hbefore hfound hstored =>
      have hdto := hbefore.symm.trans hrequest
      cases hdto
      have hsame := hfound.symm.trans huser
      cases hsame
      exact ⟨user, storedHash, (h.found i k dto ip user hk hbefore hfound).mono _, rfl, hstored,
        w, choice, w', List.mem_append_right _ List.mem_cons_self, hfails, hcleared⟩
  | finds hblank => exact absurd (hblank.symm.trans hcleared) Bool.false_ne_true
  | reads hfails hbefore =>
      rw [show k.request = .signIn dto ip from hrequest] at hbefore
      cases hbefore
  | _ => exact (h.compared i k dto ip user hk hrequest huser hcleared).mono _

/-- What a call issues tokens for is what it came through for. -/
theorem Vouched.entitles (h : Vouched config past w) (hk : clearanceOf config past i = some k)
    (hpermits : k.Permits op) : Entitles past (.performed w i choice op w') := by
  intro userId hissues
  have hcall : k.Issues userId := by
    cases op with
    | signAccess claims expiresIn =>
        cases hissues
        exact hpermits
    | signRefresh claims expiresIn =>
        cases hissues
        exact hpermits
    | set key value seconds =>
        cases key with
        | refreshToken id deviceId =>
            cases hissues
            exact hpermits
        | blacklist tokenId => cases hissues
    | _ => cases hissues
  obtain ⟨hcleared, hclosed, user, huser, rfl⟩ := hcall
  refine ⟨h.entitled i k user hk huser hcleared hclosed, fun s dto ip hmem => ?_⟩
  obtain ⟨k', hk', hrequest⟩ := h.requested s i _ hmem
  have hsame := hk'.symm.trans hk
  cases hsame
  exact h.compared i k dto ip user hk hrequest huser hcleared

theorem Vouched.performed (h : Vouched config past w) (hk : clearanceOf config past i = some k)
    (hpermits : k.Permits op) (hperform : performWith choice op w = some (r, w'))
    (hvetted : Vetted config past (.performed w i choice op w')) :
    Vouched config (past ++ [.performed w i choice op w']) w' := by
  have hlearns := learns_of hpermits hperform
  refine ⟨fun j kj user hj huser hcleared hclosed => ?_,
    fun j kj dto ip user hj hrequest huser => ?_,
    fun j kj dto ip user hj hrequest huser hcleared => ?_, fun s j request hmem => ?_,
    System.throughout_append.mpr ⟨h.kept, h.entitles hk hpermits, trivial⟩⟩
  · rcases clearanceOf_cases hperform hk hj with ⟨rfl, rfl⟩ | ⟨-, hbefore⟩
    · have hnow := h.entitled_self hk hlearns hvetted huser hcleared hclosed
      refine entitled_of_performed hperform (fun hfails users hop _ => ?_) hnow
      subst hop
      generalize k.advance _ r = k' at hlearns huser hcleared hclosed
      cases hlearns with
      | nothing =>
          exact hvetted hfails _ (System.mem_startedCalls hk) k hk hcleared hclosed user huser hnow
      | closes => cases hclosed
    · have hnow := h.entitled j kj user hbefore huser hcleared hclosed
      refine entitled_of_performed hperform (fun hfails users hop _ => ?_) hnow
      subst hop
      exact hvetted hfails j (System.mem_startedCalls hbefore) kj hbefore hcleared hclosed user
        huser hnow
  · rcases clearanceOf_cases hperform hk hj with ⟨rfl, rfl⟩ | ⟨-, hbefore⟩
    · exact h.found_self hk hlearns hrequest huser
    · exact (h.found j kj dto ip user hbefore hrequest huser).mono _
  · rcases clearanceOf_cases hperform hk hj with ⟨rfl, rfl⟩ | ⟨-, hbefore⟩
    · exact h.compared_self hk hlearns hvetted hrequest huser hcleared
    · exact (h.compared j kj dto ip user hbefore hrequest huser hcleared).mono _
  · rcases List.mem_append.mp hmem with hold | hlast
    · obtain ⟨kj, hj, hrequest⟩ := h.requested s j request hold
      by_cases heq : j = i
      · subst heq
        have hsame := hj.symm.trans hk
        cases hsame
        exact ⟨_, clearanceOf_self hperform hk, hlearns.request.trans hrequest⟩
      · exact ⟨kj, (System.trace_performed_of_ne heq).trans hj, hrequest⟩
    · cases List.mem_singleton.mp hlast

end Steps

/-! ## Runs -/

/-- Where every step is vetted, tokens are issued for entitled users only, and a sign-in issues
them after the password was compared with the stored hash of its user. -/
theorem tokens_entitled {now : Nat} {users : UserTable} {ms : List (Move Request Choice)}
    {es : List Event} {P : ServicePool}
    (hrun : (service config).run ms (.init (World.init now users)) = some (es, P))
    (hvetted : System.Throughout (Vetted config) [] es) :
    System.Throughout Entitles [] es := by
  have htracks : (service config).Tracks (Vouched config) Request.clearance
      (fun _ op k => Clearance.Permits k op) (fun _ op r => Answers op r) Clearance.advance
      (fun _ _ _ => True) ([] ++ es) P ∧ ∀ e ∈ es, True := by
    refine System.run_tracked_throughout ?_ ?_ hrun hvetted (System.tracks_init vouched_init)
    · intro past w i request hnew hinv _
      refine ⟨Program.wp_mono (fun _ _ _ => trivial) (request_respects config request),
        hinv.started (hnew i (Nat.le_refl i)) request, trivial⟩
    · intro past w i choice op r w' k hk hpermits hinv hperform hvetted
      exact ⟨answers_of hperform, hinv.performed hk hpermits hperform hvetted, trivial⟩
  exact htracks.1.inv.kept

/-! ## Runs with changes of the accounts -/

instance (config : JwtConfig) (past : List Event) (e : Event) :
    Decidable (Vetted config past e) := by
  unfold Vetted
  split
  · refine @forall_prop_decidable _ _ _ fun _ => ?_
    split <;> infer_instance
  · infer_instance

/-- John, and Jane without a password, in the states of their accounts. -/
def accounts (johnLocked janeActive : Bool) : UserTable :=
  ⟨[{ john with isLocked := johnLocked },
      ⟨2, "Jane", none, "jane@example.com", none, janeActive, false⟩], 3, by simp [john],
    by simp [john], by simp [john]⟩

/-- The accounts change after John has signed in, and he refreshes his token. -/
def refreshedAfter (users : UserTable) : List (Move Request Choice) :=
  signedIn ++ .start (.changeUsers users) :: steps 1 1 "" ++
    .start (.refreshTokens ⟨johnsToken "t1" "d1", none⟩) :: steps 2 11 "t2"

/-- Jane's account is closed between the two. -/
theorem tokens_entitled_refreshed :
    ∃ es P, (service defaultConfig).run (refreshedAfter (accounts false false))
        (.init (World.init 0 (accounts false true))) = some (es, P) ∧
      (∃ tokens, P.calls[2]? = some (.done (.ok (some tokens), ()))) ∧
      System.Throughout Entitles [] es := by
  have hany : ((service defaultConfig).run (refreshedAfter (accounts false false))
      (.init (World.init 0 (accounts false true)))).any (fun result =>
        issuesTokens result.2 2 &&
          decide (System.Throughout (Vetted defaultConfig) [] result.1)) = true := by
    decide +kernel
  obtain ⟨es, P, hrun, hresult⟩ := System.exists_run hany
  simp only [Bool.and_eq_true, decide_eq_true_eq] at hresult
  exact ⟨es, P, hrun, issuesTokens_iff.mp hresult.1, tokens_entitled hrun hresult.2⟩

/-- Call `i` signs a token for a user who is not entitled to it. -/
def signsUnentitled (es : List Event) (i : Nat) : Bool :=
  es.any fun
    | .performed w j _ (.signRefresh claims _) _ => j = i ∧ ¬Entitled w claims.sub
    | _ => false

theorem not_entitles_of_signsUnentitled {es : List Event} (h : signsUnentitled es i = true) :
    ¬System.Throughout Entitles [] es := by
  intro hall
  obtain ⟨e, he, hmatch⟩ := List.any_eq_true.mp h
  obtain ⟨past, hentitles⟩ := System.exists_of_throughout hall he
  split at hmatch
  · exact (of_decide_eq_true hmatch).2 (hentitles _ rfl).1
  · cases hmatch

def compares (es : List Event) (i : Nat) : Bool :=
  es.any fun
    | .performed _ j _ (.compare _ _) _ => j = i
    | _ => false

/-- John's account is locked, he refreshes his token and signs in again; Jane signs in with any
password at all. -/
theorem tokens_for_unentitled :
    ∃ es P, (service defaultConfig).run (refreshedAfter (accounts true true) ++
          .start (.signIn ⟨"john@example.com", "secret", "d1"⟩ none) :: steps 3 8 "t3" ++
          .start (.signIn ⟨"jane@example.com", "wrong", "d2"⟩ none) :: steps 4 7 "t4")
        (.init (World.init 0 (accounts false true))) = some (es, P) ∧
      (∃ tokens, P.calls[2]? = some (.done (.ok (some tokens), ()))) ∧
      (∃ tokens, P.calls[3]? = some (.done (.ok (some tokens), ()))) ∧
      (∃ tokens, P.calls[4]? = some (.done (.ok (some tokens), ()))) ∧
      signsUnentitled es 2 = true ∧ signsUnentitled es 3 = true ∧ compares es 4 = false ∧
      ¬System.Throughout Entitles [] es := by
  have hany : ((service defaultConfig).run (refreshedAfter (accounts true true) ++
        .start (.signIn ⟨"john@example.com", "secret", "d1"⟩ none) :: steps 3 8 "t3" ++
        .start (.signIn ⟨"jane@example.com", "wrong", "d2"⟩ none) :: steps 4 7 "t4")
      (.init (World.init 0 (accounts false true)))).any (fun result =>
        issuesTokens result.2 2 && issuesTokens result.2 3 && issuesTokens result.2 4 &&
          signsUnentitled result.1 2 && signsUnentitled result.1 3 && !compares result.1 4) =
      true := by
    decide +kernel
  obtain ⟨es, P, hrun, hresult⟩ := System.exists_run hany
  simp only [Bool.and_eq_true, Bool.not_eq_true'] at hresult
  obtain ⟨⟨⟨⟨⟨hrefreshed, hsignedIn⟩, hjane⟩, hlocked⟩, hlocked'⟩, hnone⟩ := hresult
  exact ⟨es, P, hrun, issuesTokens_iff.mp hrefreshed, issuesTokens_iff.mp hsignedIn,
    issuesTokens_iff.mp hjane, hlocked, hlocked', hnone, not_entitles_of_signsUnentitled hlocked⟩

end FlightBookings.Auth
