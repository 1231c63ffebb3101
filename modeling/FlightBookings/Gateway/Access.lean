import FlightBookings.Auth.Sessions
import FlightBookings.Await.Pair
import FlightBookings.Gateway.Service

/-! # Nobody acts for another user

The gateway, the authentication service and the booking service together, in
every interleaving of their calls. A message in the name of a user is sent after
an access token of the user was verified and his account found active, and a
booking changes in the name of a user in a call that such a message asked for.
-/

namespace FlightBookings.Checkout

/-- The user in whose name a request is made. -/
def ServiceRequest.client : ServiceRequest → Option Int
  | .checkout (.createBooking _ userId) => some userId
  | .checkout (.completeBooking _ userId _) => some userId
  | .checkout (.cancelBooking _ userId _) => some userId
  | .checkout _ => none
  | .extendBooking _ userId => some userId
  | .getMyBookings userId _ => some userId
  | .getBooking _ userId => some userId
  | .checkSeatAvailability _ _ => none

end FlightBookings.Checkout

namespace FlightBookings.Gateway

open Await
open Auth (AccessToken AccessClaims JwtConfig User)
open Checkout (ServiceRequest ServiceReply)

/-! ## What was checked -/

/-- A call had an access token of the user verified, which had been signed and had not expired. -/
def Verified (past : List Event) (i : Nat) (userId : Int) : Prop :=
  ∃ w c token w', .performed w i c (.auth (.verifyAccess token)) w' ∈ past ∧
    w.auth.verifies Auth.World.accessTokens token = true ∧ token.claims.id = userId

/-- A call found the account of the user, and found it active. -/
def FoundActive (past : List Event) (i : Nat) (userId : Int) : Prop :=
  ∃ w c email w' user, .performed w i c (.auth (.findUser userId email)) w' ∈ past ∧
    w.auth.users.byId userId = some user ∧ user.isActive = true

def Authenticated (past : List Event) (userId : Int) : Prop :=
  ∃ i, Verified past i userId ∧ FoundActive past i userId

/-- What a call of the gateway was told about the user of its access token. -/
structure Badge where
  claims : Option AccessClaims
  user : Option Int

def Badge.blank : Badge := ⟨none, none⟩

def Badge.learn (k : Badge) : (op : Auth.Op) → op.Ret → Badge
  | .verifyAccess _, claims => { k with claims := some claims }
  | .findUser _ _, found => { k with user := (found.filter User.isActive).map User.id }
  | _, _ => k

def Badge.advance : (op : Op) → Replies op → Badge → Badge
  | .auth op, .ok a, k => k.learn op a
  | .auth _, .error _, k => k
  | .send _, _, k => k

/-- A message in the name of a user is one of the user that the badge is about. -/
def Badge.Permits (k : Badge) : Op → Prop
  | .auth _ => True
  | .send message => ∀ userId, message.client = some userId →
      k.claims.map AccessClaims.id = some userId ∧ k.user = some userId

/-- A user is found under the identifier that he was looked up with. -/
def Op.Returns : (op : Op) → Replies op → Prop
  | .auth (.findUser id _), r => ∀ user : User, r = .ok (some user) → user.id = id
  | _, _ => True

/-! ## The calls -/

section Calls

variable {α : Type} {k : Badge} {config : JwtConfig}

abbrev badged : Spec Op Replies Badge := tracked (fun op k => k.Permits op) Op.Returns Badge.advance

abbrev authBadged : Spec Auth.Op (fun op => Except Auth.Exception op.Ret) Badge :=
  badged.comap Op.auth fun _ r => r

/-- The badge of a call that went through the guard is one of the user that the guard returned. -/
def Badge.Shows (k : Badge) (userId : Int) : Prop :=
  k.claims.map AccessClaims.id = some userId ∧ k.user = some userId

theorem await_badged {op : Auth.Op} {Q : op.Ret → Unit → Badge → Prop}
    (h : ∀ a, (Op.auth op).Returns (.ok a) → Q a () (k.learn op a)) :
    (Call.await op : Auth.Call op.Ret).Ensures authBadged () k Q fun _ _ => True := by
  refine ⟨trivial, fun r hr => ?_⟩
  cases r with
  | error e => trivial
  | ok a => exact h a hr

theorem validateUser_shows {claims : AccessClaims} (hk : k.claims = some claims) :
    (Auth.validateUser claims).Ensures authBadged () k (fun profile _ k => k.Shows profile.id)
      fun _ _ => True := by
  refine .bind (await_badged fun found hfound => ?_)
  split
  · exact .throw trivial
  · rename_i user hactive
    have hid : user.id = claims.id :=
      hfound user (congrArg Except.ok (Option.filter_eq_some_iff.mp hactive).1)
    refine .pure ⟨?_, ?_⟩
    · simp [Badge.learn, hk, hid]
    · simp [Badge.learn, hactive]

theorem canActivate_shows (accessToken : Option AccessToken) :
    (Auth.canActivate accessToken).Ensures authBadged () k (fun profile _ k => k.Shows profile.id)
      fun _ _ => True := by
  cases accessToken with
  | none => exact .throw trivial
  | some token =>
      refine .tryCatch (.bind (await_badged fun claims _ => ?_)) fun _ _ _ (_ : True) =>
        .throw trivial
      exact validateUser_shows rfl

theorem authenticate_shows (accessToken : Option AccessToken) :
    (authenticate accessToken).Ensures authBadged () k (fun profile _ k => k.Shows profile.id)
      fun _ _ => True :=
  .andThen (canActivate_shows accessToken) (fun _ _ h => h) fun _ _ _ _ =>
    canActivate_shows accessToken

theorem message_client {endpoint : Endpoint} {userId userId' : Int}
    (h : (endpoint.message userId).client = some userId') : userId' = userId := by
  cases endpoint with
  | checkSeatAvailability flightId seats => cases h
  | _ =>
      cases h
      rfl

theorem ofAuth_badged (c : Auth.Call α) {post : Except Auth.Exception α × Unit → Badge → Prop}
    (h : ∀ r k, post r k) : (ofAuth c).wp badged post k := by
  rw [ofAuth, Program.wp_lift]
  have htrue : (c ()).wp (tracked (fun _ _ => True) (fun _ _ => True) fun op r k =>
      Badge.advance (.auth op) r k) (fun _ _ => True) k := Program.wp_tracked_true _ k
  exact Program.wp_of_spec (fun op k Q h => ⟨trivial, fun r _ => h.2 r trivial⟩)
    (Program.wp_mono (fun r k _ => h r k) htrue)

/-- Every message that a request sends in the name of a user is backed by the badge. -/
theorem request_badged (request : Request) :
    (request.program config).wp badged (fun _ _ => True) k := by
  cases request with
  | auth request =>
      rw [Request.program, Program.wp_bind]
      exact ofAuth_badged _ fun _ _ => trivial
  | changeUsers users =>
      rw [Request.program, Program.wp_bind]
      exact ofAuth_badged _ fun _ _ => trivial
  | booking accessToken endpoint =>
      rw [Request.program, Program.wp_bind, ofAuth, Program.wp_lift]
      refine Program.wp_mono ?_ (authenticate_shows (k := k) accessToken)
      intro r k hr
      rcases r with ⟨e | user, u⟩
      · trivial
      · refine ⟨fun userId h => ?_, fun reply _ => ?_⟩
        · rw [message_client h]
          exact hr
        · cases reply <;> trivial

end Calls

/-! ## The runs of the gateway -/

section Runs

variable {config : JwtConfig} {past : List Event} {w w' : World} {choice : Choice} {i : Nat}
variable {userId : Int} {k : Badge}

def badgeOf (config : JwtConfig) (past : List Event) (i : Nat) : Option Badge :=
  (gateway config).trace (fun _ => Badge.blank) Badge.advance i past

/-- What a badge shows, the call was told. -/
structure Badge.Sound (past : List Event) (i : Nat) (k : Badge) : Prop where
  claims : ∀ claims, k.claims = some claims → Verified past i claims.id
  user : ∀ userId, k.user = some userId → FoundActive past i userId

variable {past' : List Event}

theorem Verified.mono (h : Verified past i userId) (hmore : past ⊆ past') :
    Verified past' i userId := by
  obtain ⟨w, c, token, w', hmem, htoken⟩ := h
  exact ⟨w, c, token, w', hmore hmem, htoken⟩

theorem FoundActive.mono (h : FoundActive past i userId) (hmore : past ⊆ past') :
    FoundActive past' i userId := by
  obtain ⟨w, c, email, w', user, hmem, huser⟩ := h
  exact ⟨w, c, email, w', user, hmore hmem, huser⟩

theorem Authenticated.mono (h : Authenticated past userId) (hmore : past ⊆ past') :
    Authenticated past' userId := by
  obtain ⟨i, hverified, hactive⟩ := h
  exact ⟨i, hverified.mono hmore, hactive.mono hmore⟩

theorem Badge.Sound.mono (h : k.Sound past i) (e : Event) : k.Sound (past ++ [e]) i where
  claims claims hclaims := (h.claims claims hclaims).mono (List.subset_append_left _ _)
  user userId huser := (h.user userId huser).mono (List.subset_append_left _ _)

/-- What a call learns from its own operation is so. -/
theorem Badge.Sound.learns {op : Op} {r : Replies op} (h : k.Sound past i)
    (hperform : performWith choice op w = some (r, w')) :
    (Badge.advance op r k).Sound (past ++ [.performed w i choice op w']) i := by
  have hold := h.mono (.performed w i choice op w')
  have hmem : Event.performed w i choice op w' ∈ past ++ [.performed w i choice op w'] :=
    List.mem_append_right _ (List.mem_singleton.mpr rfl)
  cases op with
  | send message => exact hold
  | auth op =>
      obtain ⟨⟨r', v⟩, hauth, heq⟩ := Option.map_eq_some_iff.mp hperform
      cases heq
      rcases Auth.performWith_cases hauth with ⟨message, rfl, -⟩ | ⟨hop, -⟩
      · exact hold
      cases op with
      | verifyAccess token =>
          simp only [Auth.Op.perform] at hop
          split at hop
          · rename_i hverifies
            cases hop
            refine ⟨fun claims hclaims => ?_, hold.user⟩
            cases hclaims
            exact ⟨w, choice, token, _, hmem, hverifies, rfl⟩
          · cases hop
            exact hold
      | findUser id email =>
          cases hop
          refine ⟨hold.claims, fun userId huser => ?_⟩
          obtain ⟨user, hfound, rfl⟩ := Option.map_eq_some_iff.mp huser
          obtain ⟨hlooked, hactive⟩ := Option.filter_eq_some_iff.mp hfound
          have hrow := (Option.filter_eq_some_iff.mp hlooked).1
          have hid : user.id = id := (Table.mem_of_find hrow).2
          subst hid
          exact ⟨w, choice, email, _, user, hmem, hrow, hactive⟩
      | _ =>
          cases r' with
          | error e => exact hold
          | ok a => exact hold

theorem perform_returns {op : Op} {r : Replies op}
    (hperform : performWith choice op w = some (r, w')) : op.Returns r := by
  cases op with
  | send message => trivial
  | auth op =>
      obtain ⟨⟨r', v⟩, hauth, heq⟩ := Option.map_eq_some_iff.mp hperform
      cases heq
      cases op with
      | findUser id email =>
          intro user hr
          rcases Auth.performWith_cases hauth with ⟨message, rfl, -⟩ | ⟨hop, -⟩
          · cases hr
          · cases hop
            have hfound := (Option.filter_eq_some_iff.mp (Except.ok.inj hr)).1
            exact (Table.mem_of_find hfound).2
      | _ => trivial

/-- Every message in the name of a user was sent after the user was authenticated. -/
structure Cleared (config : JwtConfig) (past : List Event) (w : World) : Prop where
  sent : ∀ message ∈ w.sent, ∀ userId, message.client = some userId → Authenticated past userId
  calls : ∀ i k, badgeOf config past i = some k → k.Sound past i

theorem Cleared.started (h : Cleared config past w) (request : Request) :
    Cleared config (past ++ [.started w i request]) w where
  sent message hmem userId hclient :=
    (h.sent message hmem userId hclient).mono (List.subset_append_left _ _)
  calls j k hj := by
    rcases System.trace_started_cases hj with ⟨-, rfl⟩ | ⟨-, hold⟩
    · exact { claims := fun _ h => (by cases h), user := fun _ h => (by cases h) }
    · exact (h.calls j k hold).mono _

theorem Cleared.performed {op : Op} {r : Replies op} (h : Cleared config past w)
    (hi : badgeOf config past i = some k) (hpermits : k.Permits op)
    (hperform : performWith choice op w = some (r, w')) :
    Cleared config (past ++ [.performed w i choice op w']) w' where
  sent := by
    cases op with
    | auth op =>
        obtain ⟨⟨r', v⟩, -, heq⟩ := Option.map_eq_some_iff.mp hperform
        cases heq
        exact fun message hmem userId hclient =>
          (h.sent message hmem userId hclient).mono (List.subset_append_left _ _)
    | send message =>
        cases hperform
        intro message' hmem userId hclient
        rcases List.mem_append.mp hmem with hold | hnew
        · exact (h.sent message' hold userId hclient).mono (List.subset_append_left _ _)
        · cases List.mem_singleton.mp hnew
          obtain ⟨hclaims, huser⟩ := hpermits userId hclient
          obtain ⟨claims, hsome, rfl⟩ := Option.map_eq_some_iff.mp hclaims
          have hsound := (h.calls i k hi).mono (.performed w i choice (.send message)
            { w with sent := w.sent ++ [message] })
          exact ⟨i, hsound.claims claims hsome, hsound.user _ huser⟩
  calls j kj hj := by
    rcases System.trace_performed_cases hperform hi hj with ⟨rfl, rfl⟩ | ⟨-, hold⟩
    · exact (h.calls j k hi).learns hperform
    · exact (h.calls j kj hold).mono _

theorem cleared_run {ms : List (Move Request Choice)} {es : List Event}
    {P : Pool Op Replies Response World}
    (hrun : (gateway config).run ms (Pool.init w) = some (es, P)) (hsent : w.sent = []) :
    Cleared config es P.state := by
  have hinit : Cleared config [] w := by
    refine ⟨fun message hmem => ?_, fun _ _ hk => by cases hk⟩
    rw [hsent] at hmem
    cases hmem
  have htracks : (gateway config).Tracks (Cleared config) (fun _ => Badge.blank)
      (fun _ op k => k.Permits op) (fun _ => Op.Returns) Badge.advance (fun _ _ _ => True)
      ([] ++ es) P ∧ ∀ e ∈ es, True := by
    refine System.run_tracked ?_ ?_ hrun (fun _ _ => trivial) (System.tracks_init hinit)
    · intro past s i request _ hinv _
      exact ⟨request_badged request, hinv.started request, trivial⟩
    · intro past s i c op r s' k hk hpermits hinv hperform _
      exact ⟨perform_returns hperform, hinv.performed hk hpermits hperform, trivial⟩
  exact htracks.1.inv

end Runs

/-! ## The booking service behind the gateway -/

section Behind

variable {mode : Checkout.BookingPaymentMode} {config : JwtConfig}

abbrev BehindEvent :=
  PairEvent ServiceRequest Checkout.ServiceOp Checkout.Choice Booking.World Request Op Choice World

abbrev BehindMove := PairMove ServiceRequest Checkout.Choice Request Choice

/-- The requests that come from clients. The others come from the payment service and from the
timer. -/
def fromClient : ServiceRequest → Bool
  | .checkout (.handlePaymentCompleted _) => false
  | .checkout .cleanupExpiredBookings => false
  | .checkout (.wait _) => false
  | _ => true

/-- The booking service, and the gateway with the authentication service. The booking service serves a
client when the gateway has sent it the message. -/
def behindGateway (mode : Checkout.BookingPaymentMode) (config : JwtConfig) :
    Pair ServiceRequest Checkout.ServiceOp (fun op => Except Exception op.Ret) Checkout.Choice
      (Except Exception ServiceReply) Booking.World Request Op Replies Choice Response World where
  first := Checkout.bookingService mode
  second := gateway config
  admits request w := !fromClient request || decide (request ∈ w.sent)

/-- A row that an event of the booking service changes is changed by a call that was asked to, for the
booking that it made or found to have expired before, and when a client asked, the owner of the booking
had been authenticated before. -/
def Secured (mode : Checkout.BookingPaymentMode) (past : List BehindEvent) : BehindEvent → Prop
  | .first (.performed w i _ op w') _ => ∀ id b, w'.booking id = some b → w.booking id = some b ∨
      ∃ s request v, .first (.started s i request) v ∈ past ∧
        request.Changes mode (Checkout.basisOf (past.filterMap PairEvent.first?) i) id w b op ∧
        (fromClient request = true → Authenticated (past.filterMap PairEvent.second?) b.userId)
  | _ => True

/-- A client changes the bookings of the user in whose name he asks. -/
theorem client_of_changes {request : ServiceRequest} {own : Checkout.Basis} {op : Checkout.ServiceOp}
    {id : String} {v : Booking.World} {b : Booking.Booking} (h : request.Changes mode own id v b op)
    (hclient : fromClient request = true) : request.client = some b.userId := by
  cases request with
  | checkout request =>
      cases op with
      | checkout op =>
          rcases op with op | _
          · cases op with
            | commit tx id' writes =>
                obtain ⟨-, hentitled, -⟩ := h
                cases request with
                | createBooking dto userId => exact congrArg some hentitled.1.symm
                | completeBooking bookingId userId _ => exact congrArg some hentitled.2.2.symm
                | cancelBooking bookingId userId _ => exact congrArg some hentitled.2.2.symm
                | _ => cases hclient
            | _ => exact h.elim
          · exact h.elim
      | _ => exact h.elim
  | extendBooking id' userId =>
      cases op with
      | update id'' expiresAt => exact congrArg some h.2.2.1.symm
      | _ => exact h.elim
  | _ => exact h.elim

/-- What entitles a call to a change came before the change. -/
theorem changes_before {past : List Checkout.ServiceEvent} {w w' : Booking.World} {i : Nat}
    {c : Checkout.Choice} {op : Checkout.ServiceOp} {request : ServiceRequest} {id : String}
    {b : Booking.Booking}
    (h : request.Changes mode (Checkout.basisOf (past ++ [.performed w i c op w']) i) id w b op) :
    request.Changes mode (Checkout.basisOf past i) id w b op := by
  cases request with
  | checkout request =>
      cases op with
      | checkout op =>
          rcases op with op | _
          · cases op with
            | commit tx id' writes =>
                obtain ⟨hid, hentitled, hrest⟩ := h
                refine ⟨hid, ?_, hrest⟩
                cases request with
                | createBooking dto userId =>
                    refine ⟨hentitled.1, fun htx => ?_, hentitled.2.2⟩
                    obtain ⟨w₁, c₁, op₁, w₁', hmem, hmakes⟩ := hentitled.2.1 htx
                    rcases List.mem_append.mp hmem with hold | hnew
                    · exact ⟨w₁, c₁, op₁, w₁', hold, hmakes⟩
                    · cases List.mem_singleton.mp hnew
                      cases tx with
                      | createBooking => exact absurd rfl htx
                      | _ => exact hmakes.elim
                | cleanupExpiredBookings =>
                    obtain ⟨htx, w₁, c₁, op₁, w₁', hmem, hfinds⟩ := hentitled
                    rcases List.mem_append.mp hmem with hold | hnew
                    · exact ⟨htx, w₁, c₁, op₁, w₁', hold, hfinds⟩
                    · cases List.mem_singleton.mp hnew
                      exact hfinds.elim
                | _ => exact hentitled
            | _ => exact h.elim
          · exact h.elim
      | _ => exact h.elim
  | _ => cases op <;> exact h

variable {w₀ : Booking.World} {v₀ : World} {ms : List BehindMove} {es : List BehindEvent}
variable {P : Pools Checkout.ServiceOp (fun op => Except Exception op.Ret)
  (Except Exception ServiceReply) Booking.World Op Replies Response World}

/-- A request of a client is started after its user was authenticated. -/
theorem authenticated_of_started {past rest : List BehindEvent} {s : Booking.World} {i : Nat}
    {request : ServiceRequest} {v : World} {userId : Int}
    (hrun : (behindGateway mode config).run ms ⟨Pool.init w₀, Pool.init v₀⟩ =
      some (past ++ .first (.started s i request) v :: rest, P))
    (hsent : v₀.sent = []) (hclient : fromClient request = true)
    (huser : request.client = some userId) :
    Authenticated (past.filterMap PairEvent.second?) userId := by
  obtain ⟨ms₁, m, Q, Q', hpast, -, hmove⟩ := Pair.run_split hrun
  have hcleared := cleared_run (Pair.run_second hpast) hsent
  rcases Pair.move_cases hmove with ⟨m₁, e₁, Q₁, rfl, hallows, hmove₁, heq, -⟩ | ⟨_, _, _, _, _, heq, -⟩
  · cases heq
    rcases System.move_cases hmove₁ with ⟨request', rfl, heq, -⟩ | ⟨_, _, _, _, _, _, _, _, _, heq, -⟩
    · cases heq
      have hmem : request ∈ Q.second.state.sent := by
        simpa [Pair.allows, behindGateway, hclient] using hallows
      exact hcleared.sent request hmem userId huser
    · cases heq
  · cases heq

/-- In every run of the three services: bookings change in the name of a user only after his access
token was verified and his account found active. -/
theorem changes_secured (hsent : v₀.sent = [])
    (hrun : (behindGateway mode config).run ms ⟨Pool.init w₀, Pool.init v₀⟩ = some (es, P)) :
    System.Throughout (Secured mode) [] es := by
  refine System.throughout_of_split fun past e rest heq => ?_
  rw [List.nil_append]
  cases e with
  | second e w => trivial
  | first e v =>
      cases e with
      | started w i request => trivial
      | performed w i c op w' =>
          subst heq
          obtain ⟨ms₁, m, Q, Q', hpast, hlonger, -⟩ := Pair.run_split hrun
          have hrightful := Checkout.rightful_of_run (Pair.run_first hlonger) (.performed w i c op w')
            (List.mem_filterMap.mpr
              ⟨_, List.mem_append_right past (List.mem_singleton.mpr rfl), rfl⟩)
          intro id b hb
          refine (hrightful.2 id b hb).imp_right ?_
          rintro ⟨s, request, hs, hchanges⟩
          obtain ⟨x, hx, hstarted⟩ := List.mem_filterMap.mp hs
          rcases x with ⟨e', v'⟩ | ⟨e', v'⟩
          · cases hstarted
            have hmem : .first (.started s i request) v' ∈ past := by
              rcases List.mem_append.mp hx with hmem | hmem
              · exact hmem
              · cases List.mem_singleton.mp hmem
            rw [List.filterMap_append] at hchanges
            refine ⟨s, request, v', hmem, changes_before hchanges, fun hclient => ?_⟩
            obtain ⟨past₁, past₂, rfl⟩ := List.append_of_mem hmem
            refine (authenticated_of_started hpast hsent hclient
              (client_of_changes hchanges hclient)).mono ?_
            rw [List.filterMap_append]
            exact List.subset_append_left _ _
          · cases hstarted

/-- The next `n` operations of a call of the gateway, and of one of the booking service. -/
def gatewaySteps (call : Nat) (name : String) (n : Nat) : List BehindMove :=
  (List.range n).map fun k => .inr (.run call ⟨Auth.drawing s!"{name}{k}", .ok (.checkout .done)⟩)

def bookingSteps (call : Nat) (name : String) (n : Nat) : List BehindMove :=
  (Checkout.proceeds call name n).map Sum.inl

/-- John signs in and books a seat with the access token that he was given. -/
def johnBooks : List BehindMove :=
  .inr (.start (.auth (.login ⟨"john@example.com", "secret", "phone"⟩))) :: gatewaySteps 0 "t" 8 ++
    .inr (.start (.booking (some ⟨⟨1, "john@example.com", [.admin]⟩, 3600⟩)
      (.createBooking Booking.onlySeat))) :: gatewaySteps 1 "u" 5 ++
    .inl (.start ((Endpoint.createBooking Booking.onlySeat).message 1)) :: bookingSteps 0 "a" 24

theorem changes_secured_booked :
    ∃ es P, (behindGateway .paymentService Auth.defaultConfig).run johnBooks
        ⟨Pool.init (Booking.World.init 0), Pool.init (World.init 0 Auth.johnOnly)⟩ = some (es, P) ∧
      (∃ b ∈ P.first.state.booking "a1", b.userId = 1) ∧
        System.Throughout (Secured .paymentService) [] es := by
  have hrun : ((behindGateway .paymentService Auth.defaultConfig).run johnBooks
      ⟨Pool.init (Booking.World.init 0), Pool.init (World.init 0 Auth.johnOnly)⟩).any
      (fun result => (result.2.first.state.booking "a1").any fun b => b.userId = 1) = true := by
    decide +kernel
  obtain ⟨es, P, hrun, hbooked⟩ := Pair.exists_run hrun
  rw [Option.any_eq_true] at hbooked
  obtain ⟨b, hb, huser⟩ := hbooked
  exact ⟨es, P, hrun, ⟨b, hb, of_decide_eq_true huser⟩, changes_secured rfl hrun⟩

end Behind

end FlightBookings.Gateway
