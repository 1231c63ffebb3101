import FlightBookings.Auth.Serial

/-! # Which refresh tokens are accepted

Where the calls come one after the other, the two stores say of every session
what the history of the calls says: which token was issued last, unless the
session was signed out since. The stored id outlives its token, so that the
token decides on the expiry.
-/

namespace FlightBookings.Auth

open Await

/-- A request, with what the environment chooses for it. -/
structure Turn where
  request : Request
  choice : Choice

abbrev Answer := Except Exception (Option Tokens)

/-- The requests, one after the other, with their answers. -/
def serveAll (config : JwtConfig) : List Turn → World → List (Request × Answer) × World
  | [], w => ([], w)
  | turn :: turns, w =>
      let (response, w') := serve config turn.request turn.choice w
      let (log, w'') := serveAll config turns w'
      ((turn.request, response.1) :: log, w'')

/-- Every turn draws a UUID of its own. -/
def Fresh (config : JwtConfig) : List Turn → World → Prop
  | [], _ => True
  | turn :: turns, w => w.draws turn.choice.uuid = true ∧
      Fresh config turns (serve config turn.request turn.choice w).2

instance decidableFresh (config : JwtConfig) :
    (turns : List Turn) → (w : World) → Decidable (Fresh config turns w)
  | [], _ => .isTrue trivial
  | turn :: turns, w =>
      have := decidableFresh config turns (serve config turn.request turn.choice w).2
      inferInstanceAs (Decidable (_ ∧ _))

/-! ## The history of the sessions -/

/-- What an answered request makes of the tokens that were issued last. -/
def record (current : Int × String → Option RefreshToken) :
    Request × Answer → Int × String → Option RefreshToken
  | (.signOut dto, .ok _) => Function.update current (dto.userId, dto.deviceId) none
  | (_, .ok (some tokens)) =>
      Function.update current tokens.refreshToken.pair (some tokens.refreshToken)
  | _ => current

/-- The token that was issued last for each session, if it was not signed out since. -/
def latest (log : List (Request × Answer)) : Int × String → Option RefreshToken :=
  log.foldl record fun _ => none

/-- The stores say what the history says. -/
structure History (current : Int × String → Option RefreshToken) (w : World) : Prop where
  stored : ∀ userId deviceId, (w.redis.entries (.refreshToken userId deviceId)).map Prod.fst =
    (current (userId, deviceId)).map Token.id
  outlives : ∀ userId deviceId token entry, current (userId, deviceId) = some token →
    w.redis.entries (.refreshToken userId deviceId) = some entry → token.exp * 1000 ≤ entry.2
  unlisted : ∀ pair token, current pair = some token →
    w.redis.entries (.blacklist token.id) = none
  signed : ∀ pair token, current pair = some token → token ∈ w.refreshTokens ∧ token.pair = pair
  drawn : ∀ token ∈ w.refreshTokens, token.id ∈ w.issued
  distinct : ∀ token ∈ w.refreshTokens, ∀ token' ∈ w.refreshTokens, token.id = token'.id →
    token = token'
  listed : ∀ tokenId, w.redis.entries (.blacklist tokenId) ≠ none →
    tokenId ∈ w.issued ∨ tokenId = "null"
  named : ∀ tokenId ∈ w.issued, tokenId ≠ "null" ∧ tokenId ≠ ""

variable {config : JwtConfig} {choice : Choice} {w w' : World}
variable {current : Int × String → Option RefreshToken}

theorem history_init {now : Nat} {users : UserTable} :
    History (fun _ => none) (World.init now users) where
  stored _ _ := rfl
  outlives _ _ _ _ h := by cases h
  unlisted _ _ h := by cases h
  signed _ _ h := by cases h
  drawn _ h := absurd h List.not_mem_nil
  distinct _ h := absurd h List.not_mem_nil
  listed _ h := absurd rfl h
  named _ h := absurd h List.not_mem_nil

theorem History.congr (h : History current w) (hentries : w'.redis.entries = w.redis.entries)
    (hissued : w'.issued = w.issued) (hsigned : w'.refreshTokens = w.refreshTokens) :
    History current w' where
  stored := hentries ▸ h.stored
  outlives := hentries ▸ h.outlives
  unlisted := hentries ▸ h.unlisted
  signed := hsigned ▸ h.signed
  drawn := by
    rw [hsigned, hissued]
    exact h.drawn
  distinct := hsigned ▸ h.distinct
  listed := by
    rw [hentries, hissued]
    exact h.listed
  named := hissued ▸ h.named

/-- The token whose id is stored for a session. -/
theorem History.of_stored (h : History current w) {userId : Int} {deviceId x : String}
    (hget : w.redis.get (.refreshToken userId deviceId) = some x) :
    ∃ token, current (userId, deviceId) = some token ∧ token.id = x := by
  obtain ⟨deadline, hlive⟩ := Keyspace.get_eq_some.mp hget
  have hentry := (Option.filter_eq_some_iff.mp hlive).1
  have hstored := h.stored userId deviceId
  rw [hentry] at hstored
  exact Option.map_eq_some_iff.mp hstored.symm

/-! ## Issuing and giving up -/

/-- A session gives up its token, and the id goes on the black list. -/
theorem History.giveUp (h : History current w) {userId : Int} {deviceId x : String}
    (hother : ∀ pair token, pair ≠ (userId, deviceId) → current pair = some token → token.id ≠ x)
    (hx : x ∈ w.issued ∨ x = "null") :
    History (Function.update current (userId, deviceId) none) (w.giveUp userId deviceId x) := by
  have hlisted : ∀ tokenId, tokenId ≠ x →
      (w.giveUp userId deviceId x).redis.entries (.blacklist tokenId) =
        w.redis.entries (.blacklist tokenId) := by
    intro tokenId hne
    simp [World.giveUp, Keyspace.setex, Keyspace.put, Keyspace.del, hne]
  have hself : (w.giveUp userId deviceId x).redis.entries (.refreshToken userId deviceId) = none := by
    simp [World.giveUp, Keyspace.setex, Keyspace.put, Keyspace.del]
  have hkept : ∀ u d, (u, d) ≠ (userId, deviceId) →
      (w.giveUp userId deviceId x).redis.entries (.refreshToken u d) =
        w.redis.entries (.refreshToken u d) := by
    intro u d hne
    have hkey : Key.refreshToken u d ≠ .refreshToken userId deviceId := by
      intro heq
      cases heq
      exact hne rfl
    simp only [World.giveUp, Keyspace.setex, Keyspace.put, Keyspace.del]
    rw [Function.update_of_ne (by simp), Function.update_of_ne hkey]
  refine ⟨fun u d => ?_, fun u d token entry hcurrent hentry => ?_, fun pair token hcurrent => ?_,
    fun pair token hcurrent => ?_, h.drawn, h.distinct, fun tokenId htokenId => ?_, h.named⟩
  · by_cases hpair : (u, d) = (userId, deviceId)
    · cases hpair
      rw [hself, Function.update_self]
      rfl
    · rw [hkept u d hpair, Function.update_of_ne hpair]
      exact h.stored u d
  · by_cases hpair : (u, d) = (userId, deviceId)
    · rw [hpair, Function.update_self] at hcurrent
      cases hcurrent
    · rw [Function.update_of_ne hpair] at hcurrent
      rw [hkept u d hpair] at hentry
      exact h.outlives u d token entry hcurrent hentry
  · by_cases hpair : pair = (userId, deviceId)
    · rw [hpair, Function.update_self] at hcurrent
      cases hcurrent
    · rw [Function.update_of_ne hpair] at hcurrent
      rw [hlisted _ (hother pair token hpair hcurrent)]
      exact h.unlisted pair token hcurrent
  · by_cases hpair : pair = (userId, deviceId)
    · rw [hpair, Function.update_self] at hcurrent
      cases hcurrent
    · rw [Function.update_of_ne hpair] at hcurrent
      exact h.signed pair token hcurrent
  · by_cases heq : tokenId = x
    · rw [heq]
      exact hx
    · rw [hlisted tokenId heq] at htokenId
      exact h.listed tokenId htokenId

/-- A session gets a token with an id that was never drawn before. -/
theorem History.issue (h : History current w) (hdraws : w.draws choice.uuid = true) (user : User)
    (deviceId : String) (ip : Option String) :
    History (Function.update current (user.id, deviceId) (some (newToken config choice user deviceId w)))
      (w.issue config choice user deviceId ip) := by
  simp only [World.draws, Bool.and_eq_true, decide_eq_true_eq, bne_iff_ne] at hdraws
  obtain ⟨⟨hfresh, hnull⟩, hempty⟩ := hdraws
  have hself : (w.issue config choice user deviceId ip).redis.entries
      (.refreshToken user.id deviceId) =
        some (choice.uuid, w.redis.now + config.refreshTokenTtl * 1000) := by
    simp [World.issue, Keyspace.setex, Keyspace.put]
  have hkept : ∀ u d, (u, d) ≠ (user.id, deviceId) →
      (w.issue config choice user deviceId ip).redis.entries (.refreshToken u d) =
        w.redis.entries (.refreshToken u d) := by
    intro u d hne
    have hkey : Key.refreshToken u d ≠ .refreshToken user.id deviceId := by
      intro heq
      cases heq
      exact hne rfl
    simp only [World.issue, Keyspace.setex, Keyspace.put]
    rw [Function.update_of_ne hkey]
  have hlisted : ∀ tokenId, (w.issue config choice user deviceId ip).redis.entries
      (.blacklist tokenId) = w.redis.entries (.blacklist tokenId) := by
    intro tokenId
    simp [World.issue, Keyspace.setex, Keyspace.put]
  refine ⟨fun u d => ?_, fun u d token entry hcurrent hentry => ?_, fun pair token hcurrent => ?_,
    fun pair token hcurrent => ?_, fun token htoken => ?_, fun token htoken token' htoken' hid => ?_,
    fun tokenId htokenId => ?_, fun tokenId htokenId => ?_⟩
  · by_cases hpair : (u, d) = (user.id, deviceId)
    · cases hpair
      rw [hself, Function.update_self]
      rfl
    · rw [hkept u d hpair, Function.update_of_ne hpair]
      exact h.stored u d
  · by_cases hpair : (u, d) = (user.id, deviceId)
    · cases hpair
      rw [Function.update_self, Option.some.injEq] at hcurrent
      rw [hself, Option.some.injEq] at hentry
      subst hcurrent
      subst hentry
      simp only [newToken, World.second]
      omega
    · rw [Function.update_of_ne hpair] at hcurrent
      rw [hkept u d hpair] at hentry
      exact h.outlives u d token entry hcurrent hentry
  · rw [hlisted]
    by_cases hpair : pair = (user.id, deviceId)
    · rw [hpair, Function.update_self, Option.some.injEq] at hcurrent
      subst hcurrent
      cases hentry : w.redis.entries (.blacklist choice.uuid) with
      | none => exact hentry
      | some entry =>
          rcases h.listed choice.uuid (by simp [hentry]) with hissued | heq
          · exact absurd hissued hfresh
          · exact absurd heq hnull
    · rw [Function.update_of_ne hpair] at hcurrent
      exact h.unlisted pair token hcurrent
  · by_cases hpair : pair = (user.id, deviceId)
    · rw [hpair, Function.update_self, Option.some.injEq] at hcurrent
      subst hcurrent
      exact ⟨List.mem_cons_self, hpair.symm⟩
    · rw [Function.update_of_ne hpair] at hcurrent
      obtain ⟨hmem, heq⟩ := h.signed pair token hcurrent
      exact ⟨List.mem_cons_of_mem _ hmem, heq⟩
  · rcases List.mem_cons.mp htoken with rfl | hold
    · exact List.mem_cons_self
    · exact List.mem_cons_of_mem _ (h.drawn token hold)
  · rcases List.mem_cons.mp htoken with rfl | hold
    · rcases List.mem_cons.mp htoken' with rfl | hold'
      · rfl
      · have hmem := h.drawn token' hold'
        rw [← hid] at hmem
        exact absurd hmem hfresh
    · rcases List.mem_cons.mp htoken' with rfl | hold'
      · have hmem := h.drawn token hold
        rw [hid] at hmem
        exact absurd hmem hfresh
      · exact h.distinct token hold token' hold' hid
  · rw [hlisted] at htokenId
    exact (h.listed tokenId htokenId).imp_left (List.mem_cons_of_mem _)
  · rcases List.mem_cons.mp htokenId with rfl | hold
    · exact ⟨hnull, hempty⟩
    · exact h.named tokenId hold

/-! ## Acceptance -/

/-- The device of the request is omitted or empty, or it is the one of the token. -/
def RefreshTokenDto.DeviceMatches (dto : RefreshTokenDto) : Prop :=
  orElse dto.deviceId "" = "" ∨ orElse dto.deviceId "" = dto.refreshToken.claims.deviceId

theorem mismatches_eq_false {dto : RefreshTokenDto} :
    dto.mismatches dto.refreshToken.claims = false ↔ dto.DeviceMatches := by
  simp only [RefreshTokenDto.mismatches, decide_eq_false_iff_not, RefreshTokenDto.DeviceMatches]
  constructor
  · intro h
    by_cases hempty : orElse dto.deviceId "" = ""
    · exact .inl hempty
    · refine .inr (Decidable.of_not_not fun hne => h ⟨hempty, fun heq => hne heq.symm⟩)
  · intro h hboth
    rcases h with hempty | heq
    · exact hboth.1 hempty
    · exact hboth.2 heq.symm

theorem effectiveDeviceId_eq {dto : RefreshTokenDto} (h : dto.DeviceMatches) :
    dto.effectiveDeviceId dto.refreshToken.claims = dto.refreshToken.claims.deviceId := by
  unfold RefreshTokenDto.effectiveDeviceId
  unfold RefreshTokenDto.DeviceMatches at h
  cases hdevice : dto.deviceId with
  | none => rfl
  | some deviceId =>
      by_cases hempty : deviceId = ""
      · simp [orElse, hempty]
      · simpa [orElse, hdevice, hempty] using h

/-- The token is the last one of its session, and the request fits it. -/
structure Acceptable (current : Int × String → Option RefreshToken) (w : World)
    (dto : RefreshTokenDto) : Prop where
  signed : dto.refreshToken ∈ w.refreshTokens
  unexpired : w.second < dto.refreshToken.exp
  device : dto.DeviceMatches
  user : (w.users.byId dto.refreshToken.claims.sub).isSome = true
  current : current dto.refreshToken.pair = some dto.refreshToken

theorem verifies_iff {token : RefreshToken} : w.verifies World.refreshTokens token = true ↔
    token ∈ w.refreshTokens ∧ w.second < token.exp := by
  simp [World.verifies]

theorem accepts_iff (h : History current w) {dto : RefreshTokenDto} :
    (∃ user, Accepts w dto user) ↔ Acceptable current w dto := by
  constructor
  · intro haccepts
    obtain ⟨user, hverified, hdevice, -, hfound, hcurrent⟩ := haccepts
    obtain ⟨hsigned, hexp⟩ := verifies_iff.mp hverified
    have hmatches := mismatches_eq_false.mp hdevice
    have hid : user.id = dto.refreshToken.claims.sub := (Table.mem_of_find hfound).2
    rw [hid, effectiveDeviceId_eq hmatches] at hcurrent
    obtain ⟨token, htoken, heq⟩ := h.of_stored (eq_of_isCurrent hcurrent)
    have hsame := h.distinct token (h.signed _ token htoken).1 dto.refreshToken hsigned heq
    rw [hsame] at htoken
    exact ⟨hsigned, hexp, hmatches, by rw [hfound]; rfl, htoken⟩
  · intro hacceptable
    obtain ⟨hsigned, hexp, hmatches, hfound, hcurrent⟩ := hacceptable
    obtain ⟨user, hfound⟩ := Option.isSome_iff_exists.mp hfound
    have hid : user.id = dto.refreshToken.claims.sub := (Table.mem_of_find hfound).2
    have hunlisted := h.unlisted _ _ hcurrent
    have hstored := h.stored dto.refreshToken.claims.sub dto.refreshToken.claims.deviceId
    rw [hcurrent] at hstored
    obtain ⟨entry, hentry, hvalue⟩ := Option.map_eq_some_iff.mp hstored
    have hlong := h.outlives _ _ _ entry hcurrent hentry
    -- the entry is still there, since its token has not expired
    have hlive : w.redis.now < entry.2 := by
      have hsecond : w.redis.now / 1000 < dto.refreshToken.exp := hexp
      omega
    have hget : w.redis.get (.refreshToken dto.refreshToken.claims.sub
        dto.refreshToken.claims.deviceId) = some dto.refreshToken.id := by
      refine Keyspace.get_eq_some.mpr ⟨entry.2, Option.filter_eq_some_iff.mpr ⟨?_, ?_⟩⟩
      · rw [hentry, ← hvalue]
      · exact decide_eq_true hlive
    have hnamed := (h.named _ (h.drawn _ hsigned)).2
    refine ⟨user, verifies_iff.mpr ⟨hsigned, hexp⟩, mismatches_eq_false.mpr hmatches, ?_, hfound, ?_⟩
    · have hnone : w.redis.get (.blacklist dto.refreshToken.id) = none := by
        rw [Keyspace.get_eq_none, Keyspace.live, hunlisted]
        rfl
      change w.redis.get (.blacklist dto.refreshToken.id) ≠ some "1"
      rw [hnone]
      simp
    · rw [hid, effectiveDeviceId_eq hmatches, hget]
      simpa [isCurrent, orElse] using hnamed

/-! ## Runs -/

theorem record_kept {request : Request} {answer : Answer}
    (hanswer : ∀ tokens, answer ≠ .ok (some tokens)) (hrequest : request.isSignOut = false) :
    record current (request, answer) = current := by
  cases answer with
  | error e => cases request <;> rfl
  | ok result =>
      cases result with
      | some tokens => exact absurd rfl (hanswer tokens)
      | none =>
          cases request with
          | signOut dto => cases hrequest
          | _ => rfl

/-- The session that a request changes, if it changes one. -/
def Request.pairOf (w : World) : Request → Option (Int × String)
  | .signIn dto _ => (w.users.byEmail dto.email).map fun user => (user.id, dto.deviceId)
  | .refreshTokens dto => some dto.refreshToken.pair
  | .signOut dto => some (dto.userId, dto.deviceId)
  | _ => none

/-- A token of another session than the one that is given up has another id. -/
theorem History.ne_of_stored (h : History current w) {userId : Int} {deviceId : String}
    {pair : Int × String} {token : RefreshToken} (hpair : pair ≠ (userId, deviceId))
    (htoken : current pair = some token) :
    token.id ≠ (w.redis.get (.refreshToken userId deviceId)).getD "null" := by
  intro heq
  obtain ⟨hsigned, hself⟩ := h.signed pair token htoken
  cases hget : w.redis.get (.refreshToken userId deviceId) with
  | none =>
      rw [hget] at heq
      exact (h.named _ (h.drawn token hsigned)).1 heq
  | some x =>
      rw [hget] at heq
      obtain ⟨token', htoken', hid⟩ := h.of_stored hget
      obtain ⟨hsigned', hself'⟩ := h.signed _ token' htoken'
      have hsame := h.distinct token hsigned token' hsigned' (heq.trans hid.symm)
      rw [← hself, ← hself', hsame] at hpair
      exact hpair rfl

theorem History.turned {request : Request} {answer : Answer} (h : History current w)
    (hdraws : w.draws choice.uuid = true) (hturned : Turned config choice w request answer w') :
    History (record current (request, answer)) w' := by
  cases hturned with
  | kept hanswer hrequest _ hentries hissued hsigned =>
      rw [record_kept hanswer hrequest]
      exact h.congr hentries hissued hsigned
  | @signedIn dto ip user tokens _ _ htokens _ hredis hissued hsigned =>
      have hnew : History _ (w.issue config choice user dto.deviceId ip) :=
        h.issue hdraws user dto.deviceId ip
      have hrecord : record current (.signIn dto ip, .ok (some tokens)) =
          Function.update current (user.id, dto.deviceId)
            (some (newToken config choice user dto.deviceId w)) := by
        simp only [record, htokens]
        rfl
      rw [hrecord]
      refine hnew.congr ?_ hissued ?_
      · rw [hredis]
      · rw [hsigned, htokens]
        rfl
  | @refreshed dto user tokens haccepts htokens =>
      have hacceptable := (accepts_iff h).mp ⟨user, haccepts⟩
      have hid : user.id = dto.refreshToken.claims.sub := (Table.mem_of_find haccepts.found).2
      have hdevice := effectiveDeviceId_eq hacceptable.device
      have hpair : (user.id, dto.effectiveDeviceId dto.refreshToken.claims) =
          dto.refreshToken.pair := by
        rw [hid, hdevice]
      have hgiven : History (Function.update current
          (user.id, dto.effectiveDeviceId dto.refreshToken.claims) none)
          (w.giveUp user.id (dto.effectiveDeviceId dto.refreshToken.claims)
            dto.refreshToken.claims.refreshTokenId) := by
        refine h.giveUp (fun pair token hne htoken heq => ?_) (.inl (h.drawn _ hacceptable.signed))
        obtain ⟨hsigned, hself⟩ := h.signed pair token htoken
        have hsame := h.distinct token hsigned _ hacceptable.signed heq
        rw [hpair, ← hsame, hself] at hne
        exact hne rfl
      have hnew : History _ ((w.giveUp user.id (dto.effectiveDeviceId dto.refreshToken.claims)
          dto.refreshToken.claims.refreshTokenId).issue config choice user
            (dto.effectiveDeviceId dto.refreshToken.claims) none) := hgiven.issue hdraws user _ none
      rw [Function.update_idem] at hnew
      have hrecord : record current (.refreshTokens dto, .ok (some tokens)) =
          Function.update current (user.id, dto.effectiveDeviceId dto.refreshToken.claims)
            (some (newToken config choice user
              (dto.effectiveDeviceId dto.refreshToken.claims) w)) := by
        simp only [record, htokens]
        rfl
      rw [hrecord]
      exact hnew
  | @signedOut dto =>
      have hx : (w.redis.get (.refreshToken dto.userId dto.deviceId)).getD "null" ∈ w.issued ∨
          (w.redis.get (.refreshToken dto.userId dto.deviceId)).getD "null" = "null" := by
        cases hget : w.redis.get (.refreshToken dto.userId dto.deviceId) with
        | none => exact .inr rfl
        | some x =>
            obtain ⟨token, htoken, rfl⟩ := h.of_stored hget
            exact .inl (h.drawn token (h.signed _ token htoken).1)
      exact h.giveUp (fun pair token hne htoken => h.ne_of_stored hne htoken) hx

theorem History.serveAll (h : History current w) {turns : List Turn} (hfresh : Fresh config turns w) :
    History ((Auth.serveAll config turns w).1.foldl record current)
      (Auth.serveAll config turns w).2 := by
  induction turns generalizing current w with
  | nil => exact h
  | cons turn turns ih =>
      obtain ⟨hdraws, hrest⟩ := hfresh
      exact ih (h.turned hdraws (Auth.turned turn.request)) hrest

/-- A refresh that runs by itself issues new tokens. -/
def Succeeds (config : JwtConfig) (w : World) (dto : RefreshTokenDto) (choice : Choice) : Prop :=
  ∃ tokens, (serve config (.refreshTokens dto) choice w).1.1 = .ok (some tokens)

theorem succeeds_iff {dto : RefreshTokenDto} :
    Succeeds config w dto choice ↔ ∃ user, Accepts w dto user := by
  constructor
  · intro h
    obtain ⟨tokens, hanswer⟩ := h
    have hturned : Turned config choice w (.refreshTokens dto) _ _ := refreshTokens_turned dto
    rw [hanswer] at hturned
    generalize (serve config (.refreshTokens dto) choice w).2 = w' at hturned
    cases hturned with
    | kept hnone => exact absurd rfl (hnone tokens)
    | refreshed haccepts => exact ⟨_, haccepts⟩
  · intro h
    obtain ⟨user, haccepts⟩ := h
    simp only [Succeeds, serve, Request.call, Call.run_bind, refreshTokens_run haccepts,
      Call.run_pure]
    exact ⟨_, rfl⟩

theorem Acceptable.congr {current' : Int × String → Option RefreshToken} {dto : RefreshTokenDto}
    (hsigned : dto.refreshToken ∈ w'.refreshTokens ↔ dto.refreshToken ∈ w.refreshTokens)
    (hnow : w'.redis.now = w.redis.now) (husers : w'.users = w.users)
    (hcurrent : current' dto.refreshToken.pair = current dto.refreshToken.pair) :
    Acceptable current' w' dto ↔ Acceptable current w dto := by
  have hsecond : w'.second = w.second := congrArg (· / 1000) hnow
  constructor
  · intro h
    exact ⟨hsigned.mp h.signed, hsecond ▸ h.unexpired, h.device, husers ▸ h.user,
      hcurrent.symm.trans h.current⟩
  · intro h
    exact ⟨hsigned.mpr h.signed, hsecond.symm ▸ h.unexpired, h.device, husers.symm ▸ h.user,
      hcurrent.trans h.current⟩

theorem mem_cons_of_pair {token new : RefreshToken} {tokens : List RefreshToken}
    (hne : new.pair ≠ token.pair) : token ∈ new :: tokens ↔ token ∈ tokens := by
  rw [List.mem_cons]
  refine or_iff_right ?_
  intro heq
  rw [heq] at hne
  exact hne rfl

/-- A request for one session does not change what is acceptable for another one. -/
theorem acceptable_other {request : Request} {answer : Answer} {dto : RefreshTokenDto}
    (hturned : Turned config choice w request answer w') (hsession : request.isSession = true)
    (hother : request.pairOf w ≠ some dto.refreshToken.pair) :
    Acceptable (record current (request, answer)) w' dto ↔ Acceptable current w dto := by
  cases hturned with
  | kept hanswer hrequest hsame _ _ hsigned =>
      rw [record_kept hanswer hrequest]
      exact Acceptable.congr (by rw [hsigned]) (hsame hsession).2 (hsame hsession).1 rfl
  | @signedIn dto' ip user tokens _ huser htokens husers hredis _ hsigned =>
      have hne : tokens.refreshToken.pair ≠ dto.refreshToken.pair := by
        intro heq
        rw [htokens] at heq
        refine hother ?_
        rw [← heq, Request.pairOf, huser]
        rfl
      refine Acceptable.congr ?_ ?_ husers (Function.update_of_ne (Ne.symm hne) _ _)
      · rw [hsigned]
        exact mem_cons_of_pair hne
      · rw [hredis]
        rfl
  | @refreshed dto' user tokens haccepts htokens =>
      have hne : tokens.refreshToken.pair ≠ dto.refreshToken.pair := by
        have hid : user.id = dto'.refreshToken.claims.sub := (Table.mem_of_find haccepts.found).2
        have hdevice := effectiveDeviceId_eq (mismatches_eq_false.mp haccepts.device)
        intro heq
        refine hother ?_
        rw [← heq, htokens]
        change some (dto'.refreshToken.claims.sub, dto'.refreshToken.claims.deviceId) =
          some (user.id, dto'.effectiveDeviceId dto'.refreshToken.claims)
        rw [hid, hdevice]
      refine Acceptable.congr ?_ rfl rfl (Function.update_of_ne (Ne.symm hne) _ _)
      rw [htokens] at hne
      exact mem_cons_of_pair hne
  | @signedOut dto' =>
      have hne : dto.refreshToken.pair ≠ (dto'.userId, dto'.deviceId) := by
        intro heq
        exact hother (congrArg some heq.symm)
      exact Acceptable.congr Iff.rfl rfl rfl (Function.update_of_ne hne _ _)

/-- After any turns, a refresh is accepted exactly when its token is the last one that was issued
for its session, and a request for another session does not change that. -/
theorem refresh_accepted_iff (config : JwtConfig) {now : Nat} {users : UserTable}
    {turns : List Turn} (hfresh : Fresh config turns (World.init now users)) :
    let log := (serveAll config turns (World.init now users)).1
    let w := (serveAll config turns (World.init now users)).2
    (∀ dto choice, Succeeds config w dto choice ↔ Acceptable (latest log) w dto) ∧
      ∀ turn : Turn, w.draws turn.choice.uuid = true → turn.request.isSession = true →
        ∀ dto choice, turn.request.pairOf w ≠ some dto.refreshToken.pair →
          (Succeeds config (serve config turn.request turn.choice w).2 dto choice ↔
            Succeeds config w dto choice) := by
  intro log w
  have hhistory : History (latest log) w := History.serveAll history_init hfresh
  refine ⟨fun dto choice => succeeds_iff.trans (accepts_iff hhistory), ?_⟩
  intro turn hdraws hsession dto choice hother
  have hturned : Turned config turn.choice w turn.request _ _ := turned turn.request
  have hafter := hhistory.turned hdraws hturned
  rw [succeeds_iff, succeeds_iff, accepts_iff hhistory, accepts_iff hafter]
  exact acceptable_other hturned hsession hother

/-- John signs in on two devices, refreshes the token of the first one, and signs out of the
second one. -/
def rotated : List Turn :=
  [⟨.signIn ⟨"john@example.com", "secret", "d1"⟩ none, drawing "t1"⟩,
    ⟨.signIn ⟨"john@example.com", "secret", "d2"⟩ none, drawing "t2"⟩,
    ⟨.refreshTokens ⟨johnsToken "t1" "d1", some "d1"⟩, drawing "t3"⟩,
    ⟨.signOut ⟨1, "d2"⟩, drawing "t4"⟩]

theorem refresh_accepted_rotated :
    let w := (serveAll defaultConfig rotated (World.init 0 johnOnly)).2
    Succeeds defaultConfig w ⟨johnsToken "t3" "d1", none⟩ (drawing "t5") ∧
      ¬Succeeds defaultConfig w ⟨johnsToken "t1" "d1", none⟩ (drawing "t5") ∧
      ¬Succeeds defaultConfig w ⟨johnsToken "t2" "d2", none⟩ (drawing "t5") := by
  have hfresh : Fresh defaultConfig rotated (World.init 0 johnOnly) := by decide +kernel
  have key := (refresh_accepted_iff defaultConfig hfresh).1
  refine ⟨(key _ _).mpr ⟨?_, ?_, ?_, ?_, ?_⟩, fun h => ?_, fun h => ?_⟩
  · decide +kernel
  · decide +kernel
  · exact .inl rfl
  · decide +kernel
  · decide +kernel
  · exact absurd ((key _ _).mp h).current (by decide +kernel)
  · exact absurd ((key _ _).mp h).current (by decide +kernel)

end FlightBookings.Auth
