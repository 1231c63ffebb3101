import FlightBookings.Booking.Agreement

/-! # What the lock service grants to a booking

A saga asks for the seats of its request in its second step, before it reserves
any in its third one, and no other call runs the lock script. The booking key,
which stands in for the script when it is found, lists what the script granted
before.
-/

namespace FlightBookings.Booking

open Await

/-- The seats that the lock script grants to a booking, where an event is a run of the script. -/
def granted (bookingId : String) : Event → Option (List String)
  | .performed w _ choice (.redis (.eval flightId b userId ttl timestamp seats)) _ =>
      let reply := (SeatLock.luaScript flightId b userId ttl timestamp seats w.redis).1
      if b = bookingId ∧ choice.fails = none ∧ reply.success = true then some reply.lockedSeats
      else none
  | _ => none

def grants (bookingId : String) (es : List Event) : List (List String) :=
  es.filterMap (granted bookingId)

/-- The number of seats that the lock service locked for a booking. -/
def lockedCount (bookingId : String) (es : List Event) : Nat :=
  ((grants bookingId es).getLast?.getD []).length

/-! ## Quiet calls -/

/-- The operations other than the lock script and the commit of the third step. -/
def Op.Quiet : Op → Prop
  | .redis (.eval _ _ _ _ _ _) => False
  | .commit .reserveFlightSeats _ _ => False
  | _ => True

abbrev Quiet {α : Type} (c : Call α) (m : Memory) : Prop := Keeps Op.Quiet c m

section QuietCalls

variable {m : Memory} {tx : Tx} {op : Op}

theorem await_quiet (hop : op.Quiet) : Quiet (Call.await op) m :=
  .await hop trivial fun _ _ => trivial

theorem statement_quiet {write : Write} : Quiet (statement tx write) m :=
  .seq (await_quiet trivial) fun _ _ _ => .remember trivial

/-- A statement leaves the saga in memory alone. -/
theorem statement_step {write : Write} {n : Nat} (hm : m.saga.currentStep = n) :
    (statement tx write).Emits Op.Quiet Op.Replies m (fun _ m' => m'.saga.currentStep = n)
      fun _ => True :=
  .bind (.await trivial trivial fun _ _ => .remember hm)

theorem saveSaga_quiet : Quiet (saveSaga tx) m :=
  .bind (.memory statement_quiet)

theorem storeEvent_quiet {aggregateId : String} {body : EventBody} :
    Quiet (storeEvent tx aggregateId body) m :=
  .seq (await_quiet trivial) fun _ _ _ => statement_quiet

theorem setSaga_quiet {f : SagaState → SagaState} : Quiet (setSaga f) m :=
  .remember trivial

theorem releaseSeats_quiet (flightId : Int) (bookingId : String) :
    Quiet (seatLock (SeatLock.releaseSeats flightId bookingId)) m := by
  have hpipelined : ∀ (op : SeatLock.Op) (m : Memory), (Op.redis op).Quiet →
      (SeatLock.pipelined op : SeatLock.Call Memory PUnit).Emits (fun op => (Op.redis op).Quiet)
        (fun _ _ => True) m (fun _ _ => True) fun _ => True := by
    intro op m hop
    refine .tryCatch ?_ fun _ _ (_ : True) => .pure trivial
    exact .bind (.await hop trivial fun _ _ => .pure trivial)
  have hredis : (SeatLock.releaseSeats flightId bookingId : SeatLock.Call Memory PUnit).Emits
      (fun op => (Op.redis op).Quiet) (fun _ _ => True) m (fun _ _ => True) fun _ => True := by
    refine .bind (.await trivial trivial fun data _ => ?_)
    cases data with
    | none => exact .pure trivial
    | some data =>
        refine .seq (.forM (fun seat m _ => hpipelined (.del (.seat flightId seat) _) m trivial)
          _ trivial) fun _ m _ => ?_
        refine .seq (hpipelined (.del (.booking flightId bookingId) _) m trivial) fun _ m _ => ?_
        exact .await trivial trivial fun _ _ => trivial
  exact .lift hredis

theorem compensateBody_quiet (message : String) : Quiet (compensateBody message) m := by
  refine .seq setSaga_quiet fun _ m _ => .seq saveSaga_quiet fun _ m _ => .bind (.memory ?_)
  refine .seq (.whenever (fun _ => storeEvent_quiet) fun _ => trivial) fun _ m _ => ?_
  refine .seq (.whenever (fun _ => releaseSeats_quiet _ _) fun _ => trivial) fun _ m _ => ?_
  refine .seq (await_quiet trivial) fun now m _ => .seq statement_quiet fun _ m _ => ?_
  exact .seq setSaga_quiet fun _ m _ => saveSaga_quiet

theorem completeBody_quiet (bookingId paymentTransactionId : String) :
    Quiet (completeBody bookingId paymentTransactionId) m := by
  refine .bind (.memory (.seq storeEvent_quiet fun _ m _ => ?_))
  refine .seq (await_quiet trivial) fun now m _ => .seq statement_quiet fun _ m _ => ?_
  refine .seq setSaga_quiet fun _ m _ => .seq saveSaga_quiet fun _ m _ => ?_
  exact storeEvent_quiet

/-- The first step puts the saga at its first step. -/
theorem createBookingBody_quiet {saga : SagaState} :
    (createBookingBody saga).Emits Op.Quiet Op.Replies m
      (fun _ m' => m'.saga.currentStep = 1) fun _ => True := by
  refine .seq (await_quiet trivial) fun now m _ => .seq statement_quiet fun _ m _ => ?_
  refine .bind (.remember (.bind (.bind (.memory ?_))))
  refine (statement_step rfl).mono (fun _ m hm => ?_) fun _ h => h
  exact .bind (.await trivial trivial fun eventId _ => statement_step hm)

theorem reserveFlightSeatsBody_quiet {saga : SagaState} :
    Quiet (reserveFlightSeatsBody saga) m := by
  refine .seq storeEvent_quiet fun _ m _ => .seq setSaga_quiet fun _ m _ => ?_
  exact .seq saveSaga_quiet fun _ m _ => statement_quiet

theorem lockSeatsBody_quiet (lockKey : String) : Quiet (lockSeatsBody lockKey) m :=
  .seq setSaga_quiet fun _ _ _ => saveSaga_quiet

/-- A transaction but that of the third step. -/
theorem transaction_quiet {body : Call Unit} {R : Memory → Prop} (htx : tx ≠ .reserveFlightSeats)
    (h : body.Emits Op.Quiet Op.Replies { m with writes := [] } (fun _ => R) fun _ => True) :
    (transaction tx body).Emits Op.Quiet Op.Replies m (fun _ => R) fun _ => True := by
  refine .bind (.await trivial trivial fun _ _ => .bind (.remember ?_))
  refine .andThen h (fun _ h => h) fun _ m' hm => .bind (.memory ?_)
  have hcommit : (Op.commit tx m'.saga.bookingId m'.writes).Quiet := by
    cases tx with
    | reserveFlightSeats => exact absurd rfl htx
    | _ => trivial
  exact .await hcommit trivial fun _ _ => hm

theorem compensate_quiet (message : String) : Quiet (compensate message) m := by
  refine .bind (.memory ?_)
  split
  · exact .pure trivial
  · exact swallow_keeps (transaction_quiet (by simp) (compensateBody_quiet message))

theorem executeStep1_quiet (hstep : m.saga.currentStep = 0) :
    executeStep1_CreateBooking.Emits Op.Quiet Op.Replies m
      (fun _ m' => m'.saga.currentStep = 1) fun _ => True := by
  refine .bind (.memory ?_)
  rw [if_neg (by omega)]
  exact transaction_quiet (by simp) createBookingBody_quiet

theorem findExistingSaga_quiet (key : Option String) : Quiet (findExistingSaga key) m := by
  unfold findExistingSaga
  split
  · split
    · exact .pure trivial
    · exact await_quiet trivial
  · exact .pure trivial

theorem completeBooking_quiet (bookingId paymentTransactionId : String) :
    Quiet (completeBooking bookingId paymentTransactionId) m := by
  refine .seq (await_quiet trivial) fun found m _ => ?_
  cases found with
  | none => exact .throw trivial
  | some saga =>
      dsimp only
      split
      · exact await_quiet trivial
      · refine .seq setSaga_quiet fun _ m _ => ?_
        refine .seq (transaction_quiet (by simp) (completeBody_quiet _ _)) fun _ m _ => ?_
        exact .seq (releaseSeats_quiet _ _) fun _ m _ => await_quiet trivial

theorem cancelBooking_quiet (bookingId reason : String) :
    Quiet (cancelBooking bookingId reason) m := by
  refine .seq (await_quiet trivial) fun found m _ => ?_
  cases found with
  | none => exact .throw trivial
  | some saga =>
      refine .seq setSaga_quiet fun _ m _ => ?_
      exact .seq (compensate_quiet reason) fun _ m _ => await_quiet trivial

theorem cleanupExpiredBookings_quiet : Quiet cleanupExpiredBookings m := by
  refine swallow_keeps (.seq (await_quiet trivial) fun now m _ => ?_)
  refine .seq (await_quiet trivial) fun expiredBookings m _ => ?_
  refine .forM (fun booking m _ => ?_) _ trivial
  exact swallow_keeps (.seq (cancelBooking_quiet _ _) fun _ _ _ => .pure trivial)

end QuietCalls

/-! ## What a saga goes by -/

/-- What a call goes by, with the seats that the lock service told it are locked, each list under
its booking. -/
structure Holding where
  account : Account
  locks : List (String × List String)

def Request.holding (request : Request) : Holding := ⟨request.account, []⟩

/-- The replies from which a call learns of locked seats. -/
def Holding.learned : (op : Op) → Except Exception op.Ret → List (String × List String)
  | .redis (.get (.booking _ bookingId)), .ok (some data) =>
      [(bookingId, SeatLock.BookingData.seats data)]
  | .redis (.eval _ bookingId _ _ _ _), .ok reply =>
      if reply.success then [(bookingId, SeatLock.LockReply.lockedSeats reply)] else []
  | _, _ => []

def Holding.advance (op : Op) (r : Except Exception op.Ret) (k : Holding) : Holding :=
  ⟨Account.advance op r k.account, Holding.learned op r ++ k.locks⟩

/-- The script runs for the seats of a saga that the call knows, and the third step commits for
the request of the call, after its seats, if it names any, were locked. -/
def Holding.Locks (k : Holding) : Op → Prop
  | .redis (.eval _ bookingId _ ttl _ seats) =>
      0 < ttl ∧ ∃ dto, (bookingId, dto) ∈ k.account.known ∧ seats = dto.seatNumbers.getD []
  | .commit .reserveFlightSeats id writes => ∀ s, .saveSaga s ∈ writes →
      k.account.asked = some s.payload ∧
        (s.payload.seatNumbers.getD [] ≠ [] → ∃ seats, (id, seats) ∈ k.locks)
  | _ => True

def Holding.Permits (k : Holding) (op : Op) : Prop := k.account.Permits op ∧ k.Locks op

section Calls

variable {k : Holding} {m : Memory} {id : String} {dto : CreateBookingDto} {op : Op}

abbrev Granting {α : Type} (c : Call α) (m : Memory) (k : Holding)
    (Q : α → Memory → Holding → Prop) (E : Memory → Holding → Prop) : Prop :=
  c.Ensures (tracked (fun op k => Holding.Permits k op) Op.Replies Holding.advance) m k Q E

/-- Nothing that a call goes by is lost. -/
structure Retains (k k' : Holding) : Prop where
  asked : k'.account.asked = k.account.asked
  known : k.account.known ⊆ k'.account.known
  locks : k.locks ⊆ k'.locks

theorem Retains.refl (k : Holding) : Retains k k := ⟨rfl, fun _ h => h, fun _ h => h⟩

theorem Retains.trans {k' k'' : Holding} (h : Retains k k') (h' : Retains k' k'') :
    Retains k k'' :=
  ⟨h'.asked.trans h.asked, fun _ hp => h'.known (h.known hp), fun _ hl => h'.locks (h.locks hl)⟩

theorem advance_retains (op : Op) (r : Except Exception op.Ret) (k : Holding) :
    Retains k (Holding.advance op r k) :=
  ⟨advance_asked op r k.account, advance_known op r k.account, List.subset_append_right _ _⟩

theorem quiet_locks (hop : op.Quiet) : k.Locks op := by
  unfold Holding.Locks
  split
  · exact hop.elim
  · exact hop.elim
  · trivial

/-- A quiet call, from what it does in terms of its account. -/
theorem quiet_granting {α : Type} {c : Call α} {Q : α → Memory → Account → Prop}
    {E : Memory → Account → Prop} {Q' : α → Memory → Prop} {E' : Memory → Prop}
    (h : Accounting c m k.account Q E) (hquiet : c.Emits Op.Quiet Op.Replies m Q' E') :
    Granting c m k (fun a m' k' => (Q a m' k'.account ∧ Q' a m') ∧ Retains k k')
      fun m' k' => (E m' k'.account ∧ E' m') ∧ Retains k k' := by
  have hframe : c.Ensures (tracked (fun op _ => Op.Quiet op) Op.Replies Account.advance) m k.account
      (fun a m' _ => Q' a m' ∧ True) fun m' _ => E' m' ∧ True :=
    hquiet.frame (fun op s Q hop _ hnext => ⟨hop, fun r hr => hnext r _ hr trivial⟩) trivial
  have hboth := Program.wp_tracked_and (fun _ _ h => h) h hframe
  refine Program.wp_mono ?_ (Program.wp_of_tracked (R := fun account k' =>
    k'.account = account ∧ Retains k k') ?_ hboth ⟨rfl, .refl k⟩)
  · intro r k' hr
    obtain ⟨_, ⟨hpost, hpost'⟩, rfl, hretains⟩ := hr
    rcases r with ⟨e | a, m'⟩
    · exact ⟨⟨hpost, hpost'.1⟩, hretains⟩
    · exact ⟨⟨hpost, hpost'.1⟩, hretains⟩
  · intro op account k' Q hop hk' hnext
    obtain ⟨rfl, hretains⟩ := hk'
    exact ⟨⟨hop.1, quiet_locks hop.2⟩, fun r hr =>
      hnext r _ hr ⟨rfl, hretains.trans (advance_retains op r k')⟩⟩

/-- Of the rest of a call nothing more needs to be known. -/
theorem quiet_rest {α : Type} {c : Call α} (h : Accounts c m k.account) (hquiet : Quiet c m) :
    Granting c m k (fun _ _ _ => True) fun _ _ => True :=
  (quiet_granting h hquiet).mono (fun _ _ _ _ => trivial) fun _ _ _ => trivial

theorem await_granting {Q : op.Ret → Memory → Holding → Prop} {E : Memory → Holding → Prop}
    (hop : k.Permits op) (hE : ∀ e, E m (Holding.advance op (.error e) k))
    (hQ : ∀ a, op.Replies (.ok a) → Q a m (Holding.advance op (.ok a) k)) :
    Granting (Call.await op) m k Q E := by
  refine ⟨hop, fun r hr => ?_⟩
  cases r with
  | ok a => exact hQ a hr
  | error e => exact hE e

abbrev GrantingRedis {α : Type} (c : SeatLock.Call Memory α) (m : Memory) (k : Holding)
    (Q : α → Memory → Holding → Prop) (E : Memory → Holding → Prop) : Prop :=
  c.Ensures (Spec.comap Op.redis (fun _ r => r)
    (tracked (fun op k => Holding.Permits k op) Op.Replies Holding.advance)) m k Q E

theorem redis_granting {op : SeatLock.Op} {Q : op.Ret → Memory → Holding → Prop}
    {E : Memory → Holding → Prop} (hop : k.Locks (.redis op))
    (hE : ∀ e, E m (Holding.advance (.redis op) (.error e) k))
    (hQ : ∀ a, Q a m (Holding.advance (.redis op) (.ok a) k)) :
    GrantingRedis (Call.await op) m k Q E := by
  refine ⟨⟨trivial, hop⟩, fun r hr => ?_⟩
  cases r with
  | ok a => exact hQ a
  | error e => exact hE e

/-- A lock call that succeeds tells of the seats that are locked, unless it asks for none. -/
theorem lockSeats_granting {flightId userId : Int} {seats : List String}
    (hknown : (id, dto) ∈ k.account.known) (hseats : seats = dto.seatNumbers.getD []) :
    Granting (seatLock (SeatLock.lockSeats flightId seats id userId)) m k
      (fun locked m' k' => m' = m ∧ Retains k k' ∧
        (locked.success = true → seats ≠ [] → ∃ seats, (id, seats) ∈ k'.locks))
      fun m' k' => m' = m ∧ Retains k k' := by
  have hredis : GrantingRedis (SeatLock.lockSeats flightId seats id userId) m k
      (fun locked m' k' => m' = m ∧ Retains k k' ∧
        (locked.success = true → seats ≠ [] → ∃ seats, (id, seats) ∈ k'.locks))
      fun m' k' => m' = m ∧ Retains k k' := by
    refine .bind (redis_granting trivial (fun e => ⟨rfl, advance_retains _ _ k⟩) fun timestamp => ?_)
    refine .bind (.ofExcept (fun e _ => ⟨rfl, advance_retains _ _ k⟩) fun _ _ => ?_)
    have hfirst := advance_retains (.redis .dateNow) (.ok timestamp) k
    generalize Holding.advance (.redis .dateNow) (.ok timestamp) k = k₁ at hfirst
    refine .bind (redis_granting trivial (fun e => ⟨rfl, hfirst.trans (advance_retains _ _ k₁)⟩)
      fun existing => ?_)
    have hsecond := hfirst.trans
      (advance_retains (.redis (.get (.booking flightId id))) (.ok existing) k₁)
    cases existing with
    | some parsed =>
        refine .pure ⟨rfl, hsecond, fun _ _ => ?_⟩
        exact ⟨_, List.mem_cons_self⟩
    | none =>
        generalize Holding.advance (.redis (.get (.booking flightId id))) (.ok none) k₁ = k₂ at hsecond
        dsimp only
        split
        · rename_i hempty
          refine .pure ⟨rfl, hsecond, fun _ hne => ?_⟩
          exact absurd (List.isEmpty_iff.mp hempty) hne
        · have hlocks : k₂.Locks (.redis (.eval flightId id userId SeatLock.LOCK_TTL timestamp seats)) :=
            ⟨by decide, dto, hsecond.known hknown, hseats⟩
          refine .bind (redis_granting hlocks (fun e => ⟨rfl, hsecond.trans (advance_retains _ _ k₂)⟩)
            fun reply => ?_)
          have hthird := hsecond.trans (advance_retains (.redis (.eval flightId id userId
            SeatLock.LOCK_TTL timestamp seats)) (.ok reply) k₂)
          split
          · rename_i hsuccess
            refine .pure ⟨rfl, hthird, fun _ _ => ⟨reply.lockedSeats, ?_⟩⟩
            simp [Holding.advance, Holding.learned, hsuccess]
          · refine .bind (redis_granting trivial
              (fun e => ⟨rfl, hthird.trans (advance_retains _ _ _)⟩) fun now => .pure ?_)
            exact ⟨rfl, hthird.trans (advance_retains _ _ _), by simp⟩
  exact .lift hredis

/-- The call holds the saga of its own request, under an identifier that it knows. -/
structure Pursues (id : String) (dto : CreateBookingDto) (m : Memory) (k : Holding) : Prop where
  carries : Carries id dto m k.account
  asked : k.account.asked = some dto

/-- The seats of the request, if it names any, are locked. -/
def Secured (id : String) (dto : CreateBookingDto) (k : Holding) : Prop :=
  dto.seatNumbers.getD [] ≠ [] → ∃ seats, (id, seats) ∈ k.locks

theorem Secured.later {k' : Holding} (h : Secured id dto k) (hk : Retains k k') :
    Secured id dto k' := by
  intro hne
  obtain ⟨seats, hmem⟩ := h hne
  exact ⟨seats, hk.locks hmem⟩

theorem compensating_granting (id : String) (dto : CreateBookingDto) {body : Call Unit}
    {Q : Unit → Memory → Holding → Prop}
    (h : Granting body m k Q fun m' k' => Carries id dto m' k'.account) :
    Granting (compensating body) m k Q fun _ _ => True :=
  .tryCatch h fun e _ _ hm => .seq (quiet_rest (compensate_accounts e.message hm)
    (compensate_quiet e.message)) fun _ _ _ _ => .throw trivial

theorem executeStep2_granting (hm : Pursues id dto m k) (hstep : m.saga.currentStep = 1) :
    Granting executeStep2_LockSeats m k (fun _ m' k' => Pursues id dto m' k' ∧ Secured id dto k')
      fun _ _ => True := by
  obtain ⟨⟨rfl, rfl, hknown⟩, hasked⟩ := hm
  refine .bind (.memory ?_)
  rw [if_neg (by omega)]
  refine compensating_granting m.saga.bookingId m.saga.payload ?_
  refine .andThen (lockSeats_granting hknown rfl)
    (fun m' k' h => ⟨by rw [h.1], by rw [h.1], h.2.known hknown⟩) fun locked m' k' h => ?_
  obtain ⟨rfl, hretains, hlocked⟩ := h
  have hcarries : Carries m'.saga.bookingId m'.saga.payload m' k'.account :=
    ⟨rfl, rfl, hretains.known hknown⟩
  split
  · rename_i hsuccess
    have htx := transaction_accounting (lockSeatsBody_writes locked.lockKey)
      (fun _ => lockSeatsBody_column payload_fixed) hcarries
    refine (quiet_granting htx (transaction_quiet (by simp) (lockSeatsBody_quiet _))).mono
      (fun _ m'' k'' h => ⟨⟨h.1.1, ?_⟩, ?_⟩) fun _ _ h => h.1.1
    · exact h.2.asked.trans (hretains.asked.trans hasked)
    · have hsecured : Secured m'.saga.bookingId m'.saga.payload k' := hlocked hsuccess
      exact hsecured.later h.2
  · exact .throw hcarries

theorem executeStep3_granting (hm : Pursues id dto m k) (hsecured : Secured id dto k) :
    Granting executeStep3_ReserveFlightSeats m k (fun _ _ _ => True) fun _ _ => True := by
  obtain ⟨⟨rfl, rfl, hknown⟩, hasked⟩ := hm
  refine .bind (.memory ?_)
  split
  · exact .pure trivial
  · refine compensating_granting m.saga.bookingId m.saga.payload ?_
    refine .bind (await_granting ⟨trivial, trivial⟩
      (fun e => ⟨rfl, rfl, (advance_retains _ _ k).known hknown⟩) fun _ _ => ?_)
    have hbegin := advance_retains (.begin .reserveFlightSeats) (.ok ()) k
    have hkept : ColumnKeeping SagaState.payload m.saga.payload (reserveFlightSeatsBody m.saga)
        { m with writes := [] } := reserveFlightSeatsBody_column payload_fixed ⟨rfl, by simp⟩
    have hboth := hkept.and reserveFlightSeatsBody_writes fun _ _ _ => trivial
    have hbody := local_accounting (fun op hop => hop.2) known_keeps hboth (hbegin.known hknown)
    refine .bind (.remember (.andThen (quiet_granting hbody reserveFlightSeatsBody_quiet)
      (fun m' k' h => ⟨h.1.1.1.2, h.1.1.1.1.1, h.1.1.2⟩) fun _ m' k' h => ?_))
    obtain ⟨⟨⟨⟨⟨hpayload, hsaved⟩, hid, hshape⟩, hknown'⟩, -⟩, hretains⟩ := h
    have hk' := hbegin.trans hretains
    have hcarries : ∀ r, Carries m.saga.bookingId m.saga.payload m'
        (Holding.advance (.commit .reserveFlightSeats m'.saga.bookingId m'.writes) r k').account :=
      fun r => ⟨hid, hpayload, (advance_retains _ r k').known hknown'⟩
    refine .bind (.memory (await_granting ⟨⟨?_, ?_⟩, ?_⟩ (fun e => hcarries _) fun _ _ => trivial))
    · rw [hid]
      exact hshape
    · intro s hs
      rw [shape_saved hshape hs, hsaved s hs]
      exact hknown'
    · intro s hs
      rw [hsaved s hs, hid]
      exact ⟨hk'.asked.trans hasked, hsecured.later hk'⟩

theorem executeBookingSaga_granting (key : Option String) (h : k.account.asked = some dto) :
    Granting (executeBookingSaga dto key) m k (fun _ _ _ => True) fun _ _ => True := by
  refine .andThen (quiet_granting (findExistingSaga_accounting key h) (findExistingSaga_quiet key))
    (fun _ _ _ => trivial) fun found m k h => ?_
  cases found with
  | some saga => exact quiet_rest (await_accounts trivial) (await_quiet trivial)
  | none =>
      refine .bind (await_granting ⟨trivial, trivial⟩ (fun _ => trivial) fun sagaId _ => ?_)
      refine .bind (await_granting ⟨trivial, trivial⟩ (fun _ => trivial) fun bookingId _ => ?_)
      refine .bind (await_granting ⟨⟨h.1.1, rfl⟩, trivial⟩ (fun _ => trivial) fun _ _ => ?_)
      refine .bind (.remember ?_)
      refine .andThen (quiet_granting (executeStep1_accounting
        (⟨rfl, rfl, List.mem_cons_self⟩ : Carries bookingId dto _ _)) (executeStep1_quiet rfl))
        (fun _ _ _ => trivial) fun _ m' k' h' => ?_
      obtain ⟨⟨hcarries, hstep⟩, hretains⟩ := h'
      have hpursues : Pursues bookingId dto m' k' := ⟨hcarries, hretains.asked.trans h.1.1⟩
      refine .andThen (executeStep2_granting hpursues hstep) (fun _ _ h => h) fun _ m' k' h' => ?_
      refine .seq (executeStep3_granting h'.1 h'.2) fun _ _ _ _ => ?_
      exact quiet_rest (await_accounts trivial) (await_quiet trivial)

theorem request_granting (request : Request) :
    (service.program request).wp
      (tracked (fun op k => Holding.Permits k op) Op.Replies Holding.advance) (fun _ _ => True)
      request.holding := by
  have hgranting : Granting request.call Memory.blank request.holding (fun _ _ _ => True)
      fun _ _ => True := by
    cases request with
    | executeBookingSaga dto key =>
        exact .seq (executeBookingSaga_granting key rfl) fun _ _ _ _ => .pure trivial
    | completeBooking id paymentTransactionId =>
        exact .seq (quiet_rest (completeBooking_accounts id paymentTransactionId)
          (completeBooking_quiet _ _)) fun _ _ _ _ => .pure trivial
    | cancelBooking id reason =>
        exact .seq (quiet_rest (cancelBooking_accounts id reason) (cancelBooking_quiet _ _))
          fun _ _ _ _ => .pure trivial
    | cleanupExpiredBookings =>
        exact .seq (quiet_rest cleanupExpiredBookings_accounts cleanupExpiredBookings_quiet)
          fun _ _ _ _ => .pure trivial
    | wait ms =>
        exact .seq (quiet_rest (await_accounts trivial) (await_quiet trivial))
          fun _ _ _ _ => .pure trivial
  exact Program.wp_mono (fun _ _ _ => trivial) hgranting

end Calls

/-! ## Steps -/

section Steps

variable {past : List Event} {w w' : World} {i : Nat} {choice : Choice} {op : Op}
variable {r : Except Exception op.Ret} {k : Holding} {id : String} {seats : List String}

theorem mem_grants_append {e : Event} :
    seats ∈ grants id (past ++ [e]) ↔ seats ∈ grants id past ∨ granted id e = some seats := by
  rw [grants, List.filterMap_append, List.mem_append]
  simp [grants]

/-- A grant is for the seats that the script was run for. -/
theorem granted_eq_some (h : granted id (.performed w i choice op w') = some seats) :
    ∃ flightId userId ttl timestamp,
      op = .redis (.eval flightId id userId ttl timestamp seats) := by
  unfold granted at h
  split at h
  · rename_i flightId b userId ttl timestamp seats' _ heq
    cases heq
    dsimp only at h
    split at h
    · rename_i hgranted
      obtain ⟨rfl, -, hsuccess⟩ := hgranted
      rcases SeatLock.luaScript_cases flightId b userId ttl timestamp seats' w.redis with
        ⟨hrefused, -⟩ | ⟨hreply, -⟩
      · rw [hrefused] at hsuccess
        cases hsuccess
      · rw [hreply, Option.some.injEq] at h
        exact ⟨flightId, userId, ttl, timestamp, by rw [← h]⟩
    · cases h
  · cases h

/-- The booking keys that an operation leaves are old ones, but for a grant. -/
theorem redis_booking {op : SeatLock.Op} {redis : SeatLock.Redis} {flightId : Int}
    {data : SeatLock.BookingData} (htimed : op.Timed)
    (h : (op.perform redis).2.get (.booking flightId id) = some data) :
    redis.get (.booking flightId id) = some data ∨ ∃ userId ttl timestamp,
      op = .eval flightId id userId ttl timestamp data.seats ∧
        (SeatLock.luaScript flightId id userId ttl timestamp data.seats redis).1 =
          ⟨true, data.seats, []⟩ := by
  cases op with
  | wait ms => exact .inl (Keyspace.get_of_wait h)
  | del key b => exact .inl (Keyspace.get_of_del h)
  | expire key seconds b => exact .inl (Keyspace.get_of_expire h)
  | eval f b userId ttl timestamp seats =>
      rcases SeatLock.luaScript_cases f b userId ttl timestamp seats redis with
        ⟨-, hrefused⟩ | ⟨hreply, hgranted, -⟩
      · rw [SeatLock.Op.perform, hrefused] at h
        exact .inl h
      · rw [SeatLock.Op.perform, hgranted, SeatLock.lockAll_booking htimed] at h
        split at h
        · rename_i heq
          obtain ⟨rfl, rfl⟩ := heq
          cases h
          exact .inr ⟨userId, ttl, timestamp, rfl, hreply⟩
        · exact .inl h
  | _ => exact .inl h

/-- The transaction of a call's third step: for its request, whose seats were locked. -/
def Backed (past : List Event) (w : World) (i : Nat) (id : String) (writes : List Write) : Prop :=
  ∃ k dto, service.trace Request.holding Holding.advance i past = some k ∧
    k.account.asked = some dto ∧ (id, dto) ∈ w.payloads ∧
    (∀ e p, .insertEvent e ∈ writes → OutboxEvent.body e = .reserveSeats p →
      p.seatCount = seatCount dto) ∧
    (dto.seatNumbers.getD [] ≠ [] → ∃ seats, seats ∈ grants id past)

/-- What the lock service granted, what the booking keys say of it, what the calls know of it, and
what was reserved on account of it. -/
structure Entitled (past : List Event) (w : World) : Prop where
  recorded : Recorded past w
  requested : ∀ id, ∀ seats ∈ grants id past, ∃ dto, (id, dto) ∈ w.payloads ∧
    seats = dto.seatNumbers.getD []
  keys : ∀ flightId id, ∀ data : SeatLock.BookingData,
    w.redis.get (.booking flightId id) = some data → data.seats ∈ grants id past
  calls : ∀ i k, service.trace Request.holding Holding.advance i past = some k →
    ∀ l ∈ k.locks, l.2 ∈ grants l.1 past
  reserved : ∀ w₀ i choice id writes w₁,
    .performed w₀ i choice (.commit .reserveFlightSeats id writes) w₁ ∈ past →
    Backed past w i id writes

theorem entitled_init {now : Nat} : Entitled [] (World.init now) where
  recorded := recorded_init
  requested _ _ hs := absurd hs List.not_mem_nil
  keys _ _ _ hdata := by cases hdata
  calls _ _ hk := by cases hk
  reserved _ _ _ _ _ _ hmem := absurd hmem List.not_mem_nil

theorem Backed.later {j : Nat} {writes : List Write} {e : Event} (h : Backed past w j id writes)
    (hpayloads : w.payloads ⊆ w'.payloads)
    (htrace : ∀ k, service.trace Request.holding Holding.advance j past = some k →
      ∃ k', service.trace Request.holding Holding.advance j (past ++ [e]) = some k' ∧
        k'.account.asked = k.account.asked) : Backed (past ++ [e]) w' j id writes := by
  obtain ⟨k, dto, hk, hasked, hmem, hcount, hlocked⟩ := h
  obtain ⟨k', hk', hsame⟩ := htrace k hk
  refine ⟨k', dto, hk', hsame.trans hasked, hpayloads hmem, hcount, fun hne => ?_⟩
  obtain ⟨seats, hseats⟩ := hlocked hne
  exact ⟨seats, mem_grants_append.mpr (.inl hseats)⟩

theorem Entitled.started (h : Entitled past w) (request : Request)
    (hnew : ∀ j, i ≤ j → service.trace Request.holding Holding.advance j past = none) :
    Entitled (past ++ [.started w i request]) w := by
  have hgrants : ∀ id seats, seats ∈ grants id (past ++ [.started w i request]) ↔
      seats ∈ grants id past := by
    intro id seats
    rw [mem_grants_append]
    simp [granted]
  refine ⟨h.recorded.started request, fun id seats hs => h.requested id seats ((hgrants _ _).mp hs),
    fun flightId id data hdata => (hgrants _ _).mpr (h.keys flightId id data hdata), ?_, ?_⟩
  · intro j k hk l hl
    rcases System.trace_started_cases hk with ⟨-, rfl⟩ | ⟨-, hold⟩
    · exact absurd hl List.not_mem_nil
    · exact (hgrants _ _).mpr (h.calls j k hold l hl)
  · intro w₀ j choice id writes w₁ hmem
    rcases List.mem_append.mp hmem with hold | hlast
    · refine (h.reserved w₀ j choice id writes w₁ hold).later (fun _ hp => hp) fun k hk => ?_
      have hne : j ≠ i := by
        rintro rfl
        rw [hnew j (Nat.le_refl _)] at hk
        cases hk
      exact ⟨k, (System.trace_started_of_ne hne).trans hk, rfl⟩
    · cases List.mem_singleton.mp hlast

/-- A call learns of seats that were granted before or by its own step. -/
theorem learned_granted (hinv : Entitled past w) (h : performWith choice op w = some (r, w')) :
    ∀ l ∈ Holding.learned op r, l.2 ∈ grants l.1 past ∨
      granted l.1 (.performed w i choice op w') = some l.2 := by
  intro l hl
  unfold Holding.learned at hl
  split at hl
  · rename_i flightId id data
    rw [List.mem_singleton.mp hl]
    rcases performWith_cases h with ⟨e, -, hr, -⟩ | ⟨-, hop⟩
    · cases hr
    · simp only [Op.perform, SeatLock.Op.perform, Option.some.injEq, Prod.mk.injEq,
        Except.ok.injEq] at hop
      exact .inl (hinv.keys flightId id data hop.1)
  · rename_i flightId id userId ttl timestamp seats reply
    split at hl
    · rename_i hsuccess
      rw [List.mem_singleton.mp hl]
      rcases performWith_cases h with ⟨e, -, hr, -⟩ | ⟨hfails, hop⟩
      · cases hr
      · simp only [Op.perform, SeatLock.Op.perform, Option.some.injEq, Prod.mk.injEq,
          Except.ok.injEq] at hop
        obtain ⟨rfl, -⟩ := hop
        refine .inr ?_
        simp [granted, hfails rfl, hsuccess]
    · exact absurd hl List.not_mem_nil
  · exact absurd hl List.not_mem_nil

theorem perform_booking {flightId : Int} {data : SeatLock.BookingData} (hlocks : k.Locks op)
    (h : performWith choice op w = some (r, w'))
    (hdata : w'.redis.get (.booking flightId id) = some data) :
    w.redis.get (.booking flightId id) = some data ∨
      granted id (.performed w i choice op w') = some data.seats := by
  rcases performWith_cases h with ⟨e, -, -, rfl⟩ | ⟨hfails, hop⟩
  · exact .inl hdata
  cases op with
  | redis op =>
      cases hop
      have htimed : op.Timed := by
        cases op with
        | eval f b userId ttl timestamp seats => exact hlocks.1
        | _ => trivial
      rcases redis_booking htimed hdata with hold | ⟨userId, ttl, timestamp, rfl, hreply⟩
      · exact .inl hold
      · refine .inr ?_
        simp [granted, hfails rfl, hreply]
  | uuid =>
      simp only [Op.perform] at hop
      split at hop
      · cases hop
      · cases hop
        exact .inl hdata
  | commit tx id' writes =>
      simp only [Op.perform] at hop
      split at hop
      · cases hop
        rw [applyAll_redis] at hdata
        exact .inl hdata
      · cases hop
        exact .inl hdata
  | _ =>
      cases hop
      exact .inl hdata

/-- The third step reserves for the request of its call. -/
theorem permits_backed {writes : List Write} (hinv : Entitled past w)
    (hk : service.trace Request.holding Holding.advance i past = some k)
    (hpermits : k.Permits (.commit .reserveFlightSeats id writes))
    (hknown : k.account.known ⊆ w.payloads) : Backed past w i id writes := by
  obtain ⟨⟨hshape, hsaved⟩, hlocks⟩ := hpermits
  cases hshape with
  | reserveFlightSeats s eventId hstatus =>
      have hs : Write.saveSaga s ∈ [.insertEvent ⟨eventId, s.bookingId, .reserveSeats (seatsPayload s)⟩,
          .saveSaga s, .updateBooking s.bookingId .pending] := by simp
      obtain ⟨hasked, hsecured⟩ := hlocks s hs
      refine ⟨k, s.payload, hk, hasked, hknown (hsaved s hs), fun e p he hbody => ?_, fun hne => ?_⟩
      · have he : e = ⟨eventId, s.bookingId, .reserveSeats (seatsPayload s)⟩ := by simpa using he
        rw [he, EventBody.reserveSeats.injEq] at hbody
        rw [← hbody, seatsPayload]
      · obtain ⟨seats, hmem⟩ := hsecured hne
        exact ⟨seats, hinv.calls i k hk _ hmem⟩

theorem Entitled.performed (hinv : Entitled past w)
    (hk : service.trace Request.holding Holding.advance i past = some k)
    (hpermits : k.Permits op) (h : performWith choice op w = some (r, w')) :
    Entitled (past ++ [.performed w i choice op w']) w' := by
  have haccount : service.trace Request.account Account.advance i past = some k.account := by
    have hmap : service.trace Request.account Account.advance i past =
        (service.trace Request.holding Holding.advance i past).map Holding.account :=
      @System.trace_map _ _ _ _ _ _ service _ Request.account Account.advance past _ Request.holding
        Holding.advance Holding.account (fun _ => rfl) (fun _ _ _ => rfl) i
    rw [hmap, hk, Option.map_some]
  have hknown := (hinv.recorded.calls i k.account haccount).known
  have hpayloads : w.payloads ⊆ w'.payloads := by
    rcases perform_payloads hinv.recorded hpermits.1 (hinv.recorded.calls i _ haccount) h with
      ⟨hsame, -⟩ | ⟨s, -, rfl⟩
    · rw [hsame]
      exact fun _ hp => hp
    · rw [payloads_insert]
      exact List.subset_append_left _ _
  have htrace : ∀ j kj, service.trace Request.holding Holding.advance j past = some kj →
      ∃ k', service.trace Request.holding Holding.advance j
        (past ++ [.performed w i choice op w']) = some k' ∧ k'.account.asked = kj.account.asked := by
    intro j kj hj
    by_cases heq : j = i
    · subst heq
      exact ⟨_, System.trace_performed_some h hj, advance_asked op r kj.account⟩
    · exact ⟨kj, (System.trace_performed_of_ne heq).trans hj, rfl⟩
  refine ⟨hinv.recorded.performed haccount hpermits.1 h, ?_, ?_, ?_, ?_⟩
  · intro id seats hs
    rcases mem_grants_append.mp hs with hold | hnew
    · obtain ⟨dto, hmem, hseats⟩ := hinv.requested id seats hold
      exact ⟨dto, hpayloads hmem, hseats⟩
    · obtain ⟨flightId, userId, ttl, timestamp, rfl⟩ := granted_eq_some hnew
      obtain ⟨-, dto, hmem, hseats⟩ := hpermits.2
      exact ⟨dto, hpayloads (hknown hmem), hseats⟩
  · intro flightId id data hdata
    rw [mem_grants_append]
    exact (perform_booking hpermits.2 h hdata).imp (hinv.keys flightId id data) fun hnew => hnew
  · intro j kj hj l hl
    rw [mem_grants_append]
    rcases System.trace_performed_cases h hk hj with ⟨rfl, rfl⟩ | ⟨-, hold⟩
    · rcases List.mem_append.mp hl with hnew | hl
      · exact learned_granted hinv h l hnew
      · exact .inl (hinv.calls j k hk l hl)
    · exact .inl (hinv.calls j kj hold l hl)
  · intro w₀ j choice' id writes w₁ hmem
    rcases List.mem_append.mp hmem with hold | hlast
    · exact (hinv.reserved w₀ j choice' id writes w₁ hold).later hpayloads (htrace j)
    · cases List.mem_singleton.mp hlast
      exact (permits_backed hinv hk hpermits hknown).later hpayloads (htrace _)

end Steps

/-! ## Runs -/

theorem entitled_run {now : Nat} {ms : List (Move Request Choice)} {es : List Event}
    {P : ServicePool} (hrun : service.run ms (Pool.init (World.init now)) = some (es, P)) :
    Entitled es P.state := by
  have htracks : service.Tracks Entitled Request.holding (fun _ op k => Holding.Permits k op)
      (fun _ => Op.Replies) Holding.advance (fun _ _ _ => True) ([] ++ es) P ∧
      ∀ e ∈ es, True := by
    refine System.run_tracked ?_ ?_ hrun (fun _ _ => trivial) (System.tracks_init entitled_init)
    · intro past w i request hnew hinv _
      exact ⟨request_granting request, hinv.started request hnew, trivial⟩
    · intro past w i choice op r w' k hk hpermits hinv hperform _
      exact ⟨perform_replies hperform, hinv.performed hk hpermits hperform, trivial⟩
  exact htracks.1.inv

/-- A saga that completes its third step has the seats of its request locked, all of them. -/
theorem lockedCount_of_reserved {now : Nat} {ms : List (Move Request Choice)} {es : List Event}
    {P : ServicePool} {w₀ w w' : World} {i : Nat} {choice : Choice} {id : String} {e : OutboxEvent}
    {writes : List Write} {p : SeatsPayload} {dto : CreateBookingDto} {key : Option String}
    (hrun : service.run ms (Pool.init (World.init now)) = some (es, P))
    (hstart : .started w₀ i (.executeBookingSaga dto key) ∈ es)
    (hcommit : .performed w i choice (.commit .reserveFlightSeats id writes) w' ∈ es)
    (hevent : .insertEvent e ∈ writes) (hbody : e.body = .reserveSeats p) :
    p.seatCount = seatCount dto ∧ lockedCount id es = (dto.seatNumbers.getD []).length := by
  have hinv := entitled_run hrun
  obtain ⟨k, dto', hk, hasked, hmem, hcount, hlocked⟩ := hinv.reserved w i choice id writes w' hcommit
  obtain ⟨k', hk', hstarted⟩ := @System.trace_of_started _ _ _ _ _ _ service _ _ _ _ Request.holding
    Holding.advance _ (fun k => k.account.asked) (fun op r k => advance_asked op r k.account) _ hrun
    _ _ _ hstart
  have hsame : dto' = dto := by
    cases hk.symm.trans hk'
    exact Option.some.inj (hasked.symm.trans hstarted)
  subst hsame
  refine ⟨hcount e p hevent hbody, ?_⟩
  have hall : ∀ seats ∈ grants id es, seats = dto'.seatNumbers.getD [] := by
    intro seats hs
    obtain ⟨dto, hdto, hseats⟩ := hinv.requested id seats hs
    have hdto : dto = dto' :=
      congrArg Prod.snd (List.inj_on_of_nodup_map hinv.recorded.unique hdto hmem rfl)
    rw [hseats, hdto]
  unfold lockedCount
  cases hlast : (grants id es).getLast? with
  | none =>
      have hnone : grants id es = [] := List.getLast?_eq_none_iff.mp hlast
      by_cases hne : dto'.seatNumbers.getD [] = []
      · rw [hne, Option.getD_none]
      · obtain ⟨seats, hs⟩ := hlocked hne
        rw [hnone] at hs
        exact absurd hs List.not_mem_nil
  | some seats => rw [Option.getD_some, hall seats (List.mem_of_getLast? hlast)]

end FlightBookings.Booking
