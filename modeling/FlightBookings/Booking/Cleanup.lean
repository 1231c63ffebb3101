import FlightBookings.Booking.Cancellation

/-! # The cleanup of expired bookings

A cleanup cancels the bookings that it reads as expired. It reads those that are
INITIATED, and the last step of a saga makes its booking PENDING: a reserved
booking that nobody pays for is not among them.
-/

namespace FlightBookings.Booking

open Await

/-- A booking that has waited for its payment longer than it may. -/
def isOverdue (now : Nat) (b : Booking) : Bool :=
  b.paymentStatus = .pending && b.expiresAt.any fun expiresAt => expiresAt < now

/-- No overdue booking is left, and those that had reached the third step are released. -/
structure Reclaimed (now : Nat) (w w' : World) : Prop where
  closed : ∀ b ∈ w'.bookings, isOverdue now b = true → b.status ≠ .initiated ∧ b.status ≠ .pending
  released : ∀ b ∈ w'.bookings, isOverdue now b = true →
    ∀ s, w.saga b.bookingReference = some s → 3 ≤ s.currentStep → releases w' b.bookingReference ≠ 0

/-! ## One cancellation -/

/-- What a cancellation leaves in which no operation fails. -/
structure Closes (id : String) (w w' : World) : Prop where
  rows : AllConsistent w'
  cancelled : ∀ b, w'.booking id = some b → b.status = .cancelled
  others : ∀ id', id' ≠ id → w'.booking id' = w.booking id'
  steps : ∀ id' s, w.saga id' = some s →
    ∃ s', w'.saga id' = some s' ∧ s'.currentStep = s.currentStep

variable {id reason : String} {w w' w₀ : World} {n n' : Notes} {throws : Bool}
variable {allows : Event → Prop} {saga : SagaState} {now i : Nat} {m : Memory}

theorem Event.failed_of_breaks {e : Event} (h : Event.breaks e = true) : failed e = true := by
  cases e with
  | started w i request => cases h
  | performed w i c op w' =>
      have hboth : op.inCompensation = true ∧ c.fails.isSome = true := Bool.and_eq_true_iff.mp h
      have hfallible : op.fallible = true := by
        cases op with
        | redis op =>
            cases op with
            | get key => rfl
            | exec => rfl
            | _ => exact absurd hboth.1 Bool.false_ne_true
        | begin tx => rfl
        | sql tx write => rfl
        | commit tx id writes => rfl
        | _ => exact absurd hboth.1 Bool.false_ne_true
      show (op.fallible && c.fails.isSome) = true
      rw [hfallible, hboth.2]
      rfl

/-- The booking of a compensated saga is closed already. -/
theorem closes_self (hw : AllConsistent w)
    (hcancelled : ∀ b, w.booking id = some b → b.status = .cancelled) : Closes id w w where
  rows := hw
  cancelled := hcancelled
  others _ _ := rfl
  steps _ s hs := ⟨s, hs, rfl⟩

theorem closes_commit {w₁ : World} {writes : List Write} {message : String}
    (hw : AllConsistent w) (hsaga : w.saga saga.bookingId = some saga) (htables : SameTables w w₁)
    (hshape : Shape .compensate saga.bookingId writes)
    (hsaga' : (applyAll writes w₁).saga saga.bookingId = some (compensated saga message)) :
    Closes saga.bookingId w (applyAll writes w₁) := by
  have hrows : AllConsistent (applyAll writes w₁) :=
    (hw.of_tables htables).commit hshape nofun (compensation_unique hshape)
  refine ⟨hrows, fun b hb => ?_, fun id' hne => ?_, fun id' s hs => ?_⟩
  · exact (hrows.rows saga.bookingId).cancelled _ b hsaga' hb rfl
  · rw [shape_booking_of_ne hshape hne, World.booking, htables.bookings]
  · by_cases hid : id' = saga.bookingId
    · subst hid
      rw [hsaga, Option.some.injEq] at hs
      subst hs
      exact ⟨_, hsaga', rfl⟩
    · refine ⟨s, ?_, rfl⟩
      rw [shape_saga_of_ne hshape hid, World.saga, htables.sagas]
      exact hs

theorem Cancelled.closes (hnone : ∀ e, allows e → failed e = false) (hw : AllConsistent w)
    (h : Cancelled allows id reason (w, n) throws (w', n')) : Closes id w w' := by
  cases h with
  | refused hrefused =>
      refine closes_self hw fun b hb => ?_
      rcases hrefused with hsaga | ⟨e, hallows, hfailed⟩
      · obtain ⟨s, hs⟩ := (hw.rows id).saga b hb
        rw [hsaga] at hs
        cases hs
      · rw [hnone e hallows] at hfailed
        cases hfailed
  | repeated hsaga hstatus lost =>
      exact closes_self hw fun b hb => (hw.rows id).cancelled _ b hsaga hb hstatus
  | tried hsaga hopen houtcome lost =>
      rename_i saga n₁
      have hid : saga.bookingId = id := (Table.mem_of_find hsaga).2
      subst hid
      cases houtcome with
      | committed hshape hsaga' htables hcommitted hbroke hlost =>
          exact closes_commit hw hsaga htables hshape hsaga'
      | broken htables hcommitted hbroke hlost hlocks hfails =>
          obtain ⟨e, hallows, hbreaks⟩ := hfails
          have hfailed := Event.failed_of_breaks hbreaks
          rw [hnone e hallows] at hfailed
          cases hfailed

/-! ## The loop -/

/-- A call that runs by itself and in which no operation fails. -/
abbrev Unfailing {α : Type} (i : Nat) (c : Call α) (m : Memory) (w : World)
    (Q : α → Memory → World → Prop) (E : Memory → World → Prop) : Prop :=
  Observed (fun e => failed e = false) (fun u _ => u) i c m (w, ()) (fun a m s => Q a m s.1)
    fun m s => E m s.1

theorem op_unfailing {op : Op} {a : op.Ret} {Q : op.Ret → Memory → World × Unit → Prop}
    {E : Memory → World × Unit → Prop} (hread : ∀ uuid, op.perform uuid w = some (.ok a, w))
    (h : Q a m (w, ())) :
    Observed (fun e => failed e = false) (fun u _ => u) i (Call.await op) m (w, ()) Q E := by
  refine op_observed (fun c hfallible hfails hallows => ?_) (fun c e w' hperform => ?_)
    fun c a' w' _ _ hperform => ?_
  · have hfailed : failed (.performed w i c op w) = true := by simp [failed, hfallible, hfails]
    rw [hfailed] at hallows
    cases hallows
  · cases (hread _).symm.trans hperform
  · cases (hread _).symm.trans hperform
    exact h

theorem cancelBooking_unfailing (reason : String) (hw : AllConsistent w) :
    Unfailing i (cancelBooking id reason) m w (fun _ _ w' => Closes id w w')
      fun _ w' => Closes id w w' := by
  have hcloses : Observed (fun e => failed e = false) (note id) i (cancelBooking id reason) m
      (w, .blank) (fun _ _ s' => Closes id w s'.1) fun _ s' => Closes id w s'.1 :=
    .mono (cancelBooking_observed reason) (fun _ _ _ h => h.closes (fun _ he => he) hw)
      fun _ _ h => h.closes (fun _ he => he) hw
  have hforgotten : (cancelBooking id reason m).wp
      (service.observed (fun e => failed e = false) (fun (u : Unit) _ => u) i)
      (fun _ s' => Closes id w s'.1) (w, ()) :=
    System.wp_observed (fun _ _ _ _ h => h) hcloses.program
  refine Program.wp_mono (fun result s' h => ?_) hforgotten
  rcases result with ⟨e | a, m'⟩
  · exact h
  · exact h

/-- Between two cancellations: the bookings still to come are as they were read, and every other
booking that was read is closed. -/
structure Reclaiming (now : Nat) (w₀ : World) (rest : List Booking) (w : World) : Prop where
  rows : AllConsistent w
  steps : ∀ id s, w₀.saga id = some s → ∃ s', w.saga id = some s' ∧ s'.currentStep = s.currentStep
  batch : ∀ b ∈ rest, w₀.booking b.bookingReference = some b ∧ b.status = .initiated
  due : ∀ id b, w.booking id = some b → isOverdue now b = true → b.status = .initiated →
    ∃ b' ∈ rest, b'.bookingReference = id
  pending : ∀ id b, b.status = .pending → (w.booking id = some b ↔ w₀.booking id = some b)

theorem Reclaiming.closes {b : Booking} {rest : List Booking} (h : Reclaiming now w₀ (b :: rest) w)
    (hcloses : Closes b.bookingReference w w') : Reclaiming now w₀ rest w' where
  rows := hcloses.rows
  steps id s hs := by
    obtain ⟨s', hs', hstep⟩ := h.steps id s hs
    obtain ⟨s'', hs'', hstep'⟩ := hcloses.steps id s' hs'
    exact ⟨s'', hs'', hstep'.trans hstep⟩
  batch b' hb' := h.batch b' (List.mem_cons_of_mem b hb')
  due id b' hb' hoverdue hstatus := by
    have hne : id ≠ b.bookingReference := by
      intro hid
      subst hid
      rw [hcloses.cancelled b' hb'] at hstatus
      cases hstatus
    rw [hcloses.others id hne] at hb'
    obtain ⟨b'', hmem, hid⟩ := h.due id b' hb' hoverdue hstatus
    rcases List.mem_cons.mp hmem with rfl | hrest
    · exact absurd hid.symm hne
    · exact ⟨b'', hrest, hid⟩
  pending id b' hstatus := by
    by_cases hid : id = b.bookingReference
    · subst hid
      constructor
      · intro hb'
        rw [hcloses.cancelled b' hb'] at hstatus
        cases hstatus
      · intro hb'
        obtain ⟨hb, hinitiated⟩ := h.batch b List.mem_cons_self
        rw [hb, Option.some.injEq] at hb'
        rw [← hb', hinitiated] at hstatus
        cases hstatus
    · rw [hcloses.others id hid]
      exact h.pending id b' hstatus

theorem isExpired_eq (b : Booking) (h : isOverdue now b = true) (hstatus : b.status = .initiated) :
    isExpired now b = true := by
  unfold isOverdue at h
  rw [Bool.and_eq_true] at h
  simp [isExpired, hstatus, h.2]

theorem reclaiming_start (hw : AllConsistent w) :
    Reclaiming now w (w.bookings.filter (isExpired now)) w where
  rows := hw
  steps _ s hs := ⟨s, hs, rfl⟩
  batch b hb := by
    obtain ⟨hmem, hexpired⟩ := List.mem_filter.mp hb
    refine ⟨Table.find_of_mem hw.unique hmem, ?_⟩
    unfold isExpired at hexpired
    rw [Bool.and_eq_true] at hexpired
    exact of_decide_eq_true hexpired.1
  due id b hb hoverdue hstatus := by
    obtain ⟨hmem, hid⟩ := Table.mem_of_find hb
    exact ⟨b, List.mem_filter.mpr ⟨hmem, isExpired_eq b hoverdue hstatus⟩, hid⟩
  pending _ _ _ := Iff.rfl

theorem cleanupExpiredBookings_unfailing (hw : AllConsistent w) :
    Unfailing i cleanupExpiredBookings m w (fun _ _ w' => Reclaiming w.redis.now w [] w')
      fun _ _ => False := by
  have hbody : Unfailing i (do
      let now ← dateNow
      let expiredBookings : List Booking ← Call.await (Op.findExpiredBookings now)
      expiredBookings.forM fun booking =>
        tryCatch (do let _ ← cancelBooking booking.bookingReference expiredReason; pure ⟨⟩)
          fun _ => pure ⟨⟩) m w (fun _ _ w' => Reclaiming w.redis.now w [] w') fun _ _ => False := by
    refine .bind (op_unfailing (fun _ => rfl) ?_)
    refine .bind (op_unfailing (fun _ => rfl) ?_)
    refine .forM (fun rest _ (s : World × Unit) => Reclaiming w.redis.now w rest s.1) ?_ _ (reclaiming_start hw)
    intro b rest m₁ s₁ h₁
    obtain ⟨w₁, u⟩ := s₁
    have hcancel : Unfailing i (do
        let _ ← cancelBooking b.bookingReference expiredReason; pure PUnit.unit) m₁ w₁
        (fun _ _ w' => Reclaiming w.redis.now w rest w')
        fun _ w' => Reclaiming w.redis.now w rest w' :=
      .andThen (cancelBooking_unfailing expiredReason h₁.rows) (fun _ _ h => h₁.closes h)
        fun _ _ _ h => .pure (h₁.closes h)
    exact .tryCatch hcancel fun _ _ _ h => .pure h
  exact .tryCatch hbody fun _ _ _ h => h.elim

/-! ## Runs -/

/-- What the loop leaves is what was wanted, unless an overdue booking was PENDING. -/
theorem Reclaiming.reclaimed_iff (hw : AllConsistent w) (h : Reclaiming now w [] w') :
    Reclaimed now w w' ↔ ∀ b ∈ w.bookings, isOverdue now b = true → b.status ≠ .pending := by
  constructor
  · intro hreclaimed b hb hoverdue hstatus
    have hfind : w.booking b.bookingReference = some b := Table.find_of_mem hw.unique hb
    have hkept := (h.pending _ b hstatus).mpr hfind
    exact (hreclaimed.closed b (Table.mem_of_find hkept).1 hoverdue).2 hstatus
  · intro hnone
    have hclosed : ∀ b ∈ w'.bookings, isOverdue now b = true → b.status = .cancelled := by
      intro b hb hoverdue
      have hfind : w'.booking b.bookingReference = some b := Table.find_of_mem h.rows.unique hb
      have hunpaid : b.paymentStatus = .pending := by
        unfold isOverdue at hoverdue
        rw [Bool.and_eq_true] at hoverdue
        exact of_decide_eq_true hoverdue.1
      rcases (h.rows.rows _).unpaid b hfind hunpaid with hstatus | hstatus | hstatus
      · obtain ⟨b', hmem, -⟩ := h.due _ b hfind hoverdue hstatus
        cases hmem
      · have hbefore := (h.pending _ b hstatus).mp hfind
        exact absurd hstatus (hnone b (Table.mem_of_find hbefore).1 hoverdue)
      · exact hstatus
    refine ⟨fun b hb hoverdue => ?_, fun b hb hoverdue s hs hle => ?_⟩
    · rw [hclosed b hb hoverdue]
      exact ⟨nofun, nofun⟩
    · obtain ⟨s', hs', hstep⟩ := h.steps _ s hs
      have hfind : w'.booking b.bookingReference = some b := Table.find_of_mem h.rows.unique hb
      refine (h.rows.rows _).released s' hs' (by omega) (.inr ⟨b, hfind, hclosed b hb hoverdue⟩)

/-- A cleanup in which nothing fails reclaims all overdue bookings exactly when none of them had
become PENDING. -/
theorem cleanup_reclaims_iff {now : Nat} {ms : List (Move Request Choice)} {es es' : List Event}
    {P P' : ServicePool} {choices : List Choice} {reply : Except Exception Reply} {m : Memory}
    (hrun : service.run ms (Pool.init (World.init now)) = some (es, P))
    (hcall : service.run (.start .cleanupExpiredBookings ::
      choices.map (.run P.calls.length)) P = some (es', P'))
    (hdone : P'.calls[P.calls.length]? = some (.done (reply, m)))
    (hnone : ∀ e ∈ es', failed e = false) :
    Reclaimed P.state.redis.now P.state P'.state ↔
      ∀ b ∈ P.state.bookings, isOverdue P.state.redis.now b = true → b.status ≠ .pending := by
  have hrows := consistent_run hrun
  obtain ⟨e, Q, es₁, hmove, hrest, rfl⟩ := System.run_cons hcall
  simp only [System.move, Option.some.injEq, Prod.mk.injEq] at hmove
  obtain ⟨rfl, rfl⟩ := hmove
  have hstarted : (P.calls ++ [service.program .cleanupExpiredBookings])[P.calls.length]? =
      some (service.program .cleanupExpiredBookings) := List.getElem?_concat_length
  have hcleanup : Unfailing P.calls.length Request.cleanupExpiredBookings.call Memory.blank P.state
      (fun _ _ w' => Reclaiming P.state.redis.now P.state [] w')
      fun _ w' => Reclaiming P.state.redis.now P.state [] w' :=
    .andThen (cleanupExpiredBookings_unfailing hrows) (fun _ _ h => h.elim) fun _ _ _ h => .pure h
  have hreclaiming : Reclaiming P.state.redis.now P.state [] P'.state :=
    System.run_observed (P := ⟨P.state, P.calls ++ [service.program .cleanupExpiredBookings]⟩)
      hstarted hcleanup.program hrest (fun e he => hnone e (List.mem_cons_of_mem _ he)) hdone
  exact hreclaiming.reclaimed_iff hrows

/-- A saga that stopped after its first step. -/
theorem cleanup_reclaims_initiated :
    ∃ (es : List Event) (P P' : ServicePool),
      service.run (.start .cleanupExpiredBookings ::
        (failing (List.replicate 10 none)).map (.run P.calls.length)) P = some (es, P') ∧
      P.state.bookings.any (isOverdue P.state.redis.now) = true ∧
      Reclaimed P.state.redis.now P.state P'.state := by
  have hends : endsAfter (.start (.executeBookingSaga onlySeat none) :: succeeds 0 "a" 10 ++
        [.start (.wait 900001), .run 1 ⟨none, ""⟩]) .cleanupExpiredBookings
      (failing (List.replicate 10 none)) (fun P es _ _ =>
        P.state.bookings.any (isOverdue P.state.redis.now) &&
          P.state.bookings.all (fun b => b.status ≠ .pending) && es.all fun e => !failed e) =
      true := by decide +kernel
  obtain ⟨es, es', P, P', reply, m, hrun, hcall, hdone, hcheck⟩ := endsAfter_spec hends
  simp only [Bool.and_eq_true, List.all_eq_true, decide_eq_true_eq, Bool.not_eq_true'] at hcheck
  obtain ⟨⟨hoverdue, hstatus⟩, hnone⟩ := hcheck
  refine ⟨es', P, P', hcall, hoverdue, ?_⟩
  exact (cleanup_reclaims_iff hrun hcall hdone hnone).mpr fun b hb _ => hstatus b hb

/-- A reserved booking that is never paid stays PENDING for ever. -/
theorem cleanup_leaves_pending :
    ¬∀ (now : Nat) (ms : List (Move Request Choice)) (es es' : List Event) (P P' : ServicePool)
      (choices : List Choice) (reply : Except Exception Reply) (m : Memory),
      service.run ms (Pool.init (World.init now)) = some (es, P) →
      service.run (.start .cleanupExpiredBookings ::
        choices.map (.run P.calls.length)) P = some (es', P') →
      P'.calls[P.calls.length]? = some (.done (reply, m)) → (∀ e ∈ es', failed e = false) →
        Reclaimed P.state.redis.now P.state P'.state := by
  intro h
  have hends : endsAfter (reserved ++ [.start (.wait 900001), .run 1 ⟨none, ""⟩])
      .cleanupExpiredBookings (failing [none, none]) (fun P es P' _ =>
        es.all (fun e => !failed e) && P'.state.bookings.any fun b =>
          isOverdue P.state.redis.now b && b.status = .pending) = true := by decide +kernel
  obtain ⟨es, es', P, P', reply, m, hrun, hcall, hdone, hcheck⟩ := endsAfter_spec hends
  simp only [Bool.and_eq_true, List.all_eq_true, List.any_eq_true, decide_eq_true_eq,
    Bool.not_eq_true'] at hcheck
  obtain ⟨hnone, b, hb, hoverdue, hstatus⟩ := hcheck
  exact ((h 0 _ es es' P P' _ reply m hrun hcall hdone hnone).closed b hb hoverdue).2 hstatus

end FlightBookings.Booking
