import FlightBookings.Booking.Cancellation
import FlightBookings.Booking.Knowledge

/-! # The idempotency key of a booking

The key of a request is looked up by one statement and stored by another, and the saga row that
carries it is stored before the row of its booking. Where no call comes in between, a key stands
for one booking, and that is what every call under the key returns.
-/

namespace FlightBookings.Booking

open Await

variable {key : String} {id ref : String} {w w' : World} {tx : Tx} {writes : List Write}
variable {choice : Choice} {op : Op} {i j : Nat}

/-- The row of a booking that was created for a request with the key. -/
def createdFor (key : String) (w : World) (b : Booking) : Bool :=
  (b.bookingReference, some key) ∈ w.keys

/-- A lookup of the key finds sagas whose booking row is there already, and a saga with the key is
inserted while there is no other one. -/
def Unraced (key : String) : Event → Prop
  | .performed w _ choice (.findSagaByKey key') _ => key' = key → choice.fails = none →
      ∀ s ∈ w.sagas, s.idempotencyKey = some key → (w.booking s.bookingId).isSome
  | .performed w _ choice (.insertSaga s) _ => s.idempotencyKey = some key →
      choice.fails = none → ∀ s' ∈ w.sagas, s'.idempotencyKey ≠ some key
  | _ => True

/-! ## Steps -/

section Steps

variable {past : List Event} {k k' : Progress} {r : Except Exception op.Ret}

theorem finds_of (h : performWith choice op w = some (r, w')) : op.Finds r := by
  cases op with
  | findSagaByKey key =>
      intro s hs
      subst hs
      rcases performWith_cases h with ⟨e, -, hr, -⟩ | ⟨-, h⟩
      · cases hr
      · simp only [Op.perform, Option.some.injEq, Prod.mk.injEq, Except.ok.injEq] at h
        simpa using List.find?_some h.1
  | _ => exact perform_replies h

/-- What a call knows is so. -/
structure Right (w : World) (k : Progress) : Prop where
  drawn : ∀ u, k.drawn = some u → u ∈ w.issued ∧ ∀ p ∈ w.keys, p.1 ≠ u
  known : ∀ p ∈ k.known, p ∈ w.keys
  stored : ∀ id ∈ k.stored, (w.booking id).isSome
  read : ∀ ref found, k.read = some (ref, found) →
    ref ∈ k.stored ∧ ∃ b, found = some b ∧ b.bookingReference = ref

theorem Right.mono (h : Right w k) (hissued : ∀ u ∈ w.issued, u ∈ w'.issued)
    (hkeys : ∀ p ∈ w.keys, p ∈ w'.keys)
    (hbookings : ∀ id, (w.booking id).isSome → (w'.booking id).isSome)
    (hdrawn : ∀ u, k.drawn = some u → ∀ p ∈ w'.keys, p ∈ w.keys ∨ p.1 ≠ u) : Right w' k where
  drawn u hu := by
    obtain ⟨hmem, hfresh⟩ := h.drawn u hu
    refine ⟨hissued u hmem, fun p hp => ?_⟩
    rcases hdrawn u hu p hp with hold | hnew
    · exact hfresh p hold
    · exact hnew
  known p hp := hkeys p (h.known p hp)
  stored id hid := hbookings id (h.stored id hid)
  read := h.read

/-- An operation leaves the keys of the sagas, or inserts one saga. -/
theorem perform_keys (hids : (w.keys.map Prod.fst).Nodup) (hpermits : k.Permits op)
    (hk : Right w k) (h : performWith choice op w = some (r, w')) :
    w'.keys = w.keys ∨ ∃ s, op = .insertSaga s ∧ choice.fails = none ∧
      w'.keys = w.keys ++ [(s.bookingId, s.idempotencyKey)] := by
  rcases perform_tables h with ⟨hsagas, -⟩ | ⟨s, hop, hfails, rfl⟩ |
    ⟨tx, id, writes, rfl, -, -, rfl⟩
  · exact .inl (by rw [World.keys, hsagas, World.keys])
  · exact .inr ⟨s, hop, hfails, by simp [World.keys]⟩
  · exact .inl (applyAll_keys hids fun s hs => hk.known _ (hpermits.2 s hs))

theorem perform_bookings (h : performWith choice op w = some (r, w'))
    (hbooking : (w.booking ref).isSome) : (w'.booking ref).isSome := by
  rcases perform_tables h with ⟨-, hbookings, -⟩ | ⟨s, -, -, rfl⟩ | ⟨tx, id, writes, -, -, -, rfl⟩
  · rw [World.booking, hbookings]
    exact hbooking
  · exact hbooking
  · exact applyAll_booking hbooking

/-- The sagas, their keys, and what the calls know of them. -/
structure Orderly (key : String) (past : List Event) (w : World) : Prop where
  issued : ∀ p ∈ w.keys, p.1 ∈ w.issued
  unique : (w.keys.map Prod.fst).Nodup
  once : ∀ id id', (id, some key) ∈ w.keys → (id', some key) ∈ w.keys → id = id'
  calls : ∀ i k, service.trace (Request.progress key) (Progress.advance key) i past = some k →
    Right w k
  apart : ∀ i j k k' u,
    service.trace (Request.progress key) (Progress.advance key) i past = some k →
    service.trace (Request.progress key) (Progress.advance key) j past = some k' →
    k.drawn = some u → k'.drawn = some u → i = j

theorem orderly_init {now : Nat} : Orderly key [] (World.init now) where
  issued _ hp := absurd hp List.not_mem_nil
  unique := List.nodup_nil
  once _ _ hid := absurd hid List.not_mem_nil
  calls _ _ hk := by cases hk
  apart _ _ _ _ _ hk := by cases hk

theorem Orderly.started (h : Orderly key past w) (request : Request) :
    Orderly key (past ++ [.started w i request]) w where
  issued := h.issued
  unique := h.unique
  once := h.once
  calls j k hk := by
    rcases System.trace_started_cases hk with ⟨-, rfl⟩ | ⟨-, hold⟩
    · exact ⟨by simp [Request.progress], by simp [Request.progress], by simp [Request.progress],
        by simp [Request.progress]⟩
    · exact h.calls j k hold
  apart j j' k k' u hk hk' hu hu' := by
    rcases System.trace_started_cases hk with ⟨-, rfl⟩ | ⟨-, hold⟩
    · cases hu
    · rcases System.trace_started_cases hk' with ⟨-, rfl⟩ | ⟨-, hold'⟩
      · cases hu'
      · exact h.apart j j' k k' u hold hold' hu hu'

theorem advance_error (op : Op) (e : Exception) (k : Progress) :
    Progress.advance key op (.error e) k = k := by
  cases op with
  | commit tx id writes => cases tx <;> rfl
  | _ => rfl

theorem Right.learn {s : SagaState} (h : Right w k) (hs : s ∈ w.sagas) :
    Right w { k with known := (s.bookingId, s.idempotencyKey) :: k.known } where
  drawn := h.drawn
  known p hp := by
    rcases List.mem_cons.mp hp with rfl | hold
    · exact mem_keys.mpr ⟨s, hs, rfl, rfl⟩
    · exact h.known p hold
  stored := h.stored
  read := h.read

theorem Right.store (h : Right w k) (hid : (w.booking id).isSome) :
    Right w { k with stored := id :: k.stored } where
  drawn := h.drawn
  known := h.known
  stored id' hid' := by
    rcases List.mem_cons.mp hid' with rfl | hold
    · exact hid
    · exact h.stored id' hold
  read ref found hread := by
    obtain ⟨hmem, hrow⟩ := h.read ref found hread
    exact ⟨List.mem_cons_of_mem _ hmem, hrow⟩

/-- What a call learns from an unraced step is so. -/
theorem Orderly.learns (hinv : Orderly key past w)
    (hk : service.trace (Request.progress key) (Progress.advance key) i past = some k)
    (hpermits : k.Permits op) (h : performWith choice op w = some (r, w'))
    (hunraced : Unraced key (.performed w i choice op w')) :
    Right w' (Progress.advance key op r k) := by
  have hright := hinv.calls i k hk
  rcases performWith_cases h with ⟨e, -, rfl, rfl⟩ | ⟨hfails, hop⟩
  · rw [advance_error]
    exact hright
  cases op with
  | redis op =>
      cases hop
      exact ⟨hright.drawn, hright.known, hright.stored, hright.read⟩
  | uuid =>
      simp only [Op.perform] at hop
      split at hop
      · cases hop
      · rename_i hfresh
        cases hop
        refine ⟨fun u hu => ?_, hright.known, hright.stored, hright.read⟩
        cases hu
        exact ⟨List.mem_cons_self, fun p hp heq => hfresh (heq ▸ hinv.issued p hp)⟩
  | findSagaByKey key' =>
      cases hop
      cases hfound : w.sagas.find? fun s => s.idempotencyKey = some key' with
      | none => exact hright
      | some s =>
          have hmem : s ∈ w.sagas := List.mem_of_find?_eq_some hfound
          have hkey : s.idempotencyKey = some key' := by simpa using List.find?_some hfound
          by_cases heq : key' = key
          · subst heq
            have hstored := (hright.learn hmem).store (hunraced rfl (hfails rfl) s hmem hkey)
            simpa only [Progress.advance, if_pos] using hstored
          · simpa only [Progress.advance, if_neg heq] using hright.learn hmem
  | findSaga id =>
      cases hop
      cases hfound : w.saga id with
      | none => exact hright
      | some s => exact hright.learn (Table.mem_of_find hfound).1
  | findBooking ref =>
      cases hop
      by_cases hstored : ref ∈ k.stored
      · refine ⟨?_, ?_, ?_, ?_⟩ <;> simp only [Progress.advance, if_pos hstored]
        · exact hright.drawn
        · exact hright.known
        · exact hright.stored
        · intro ref' found hread
          cases hread
          obtain ⟨b, hb⟩ := Option.isSome_iff_exists.mp (hright.stored ref hstored)
          exact ⟨hstored, b, hb, (Table.mem_of_find hb).2⟩
      · simpa only [Progress.advance, if_neg hstored] using hright
  | insertSaga s =>
      cases hop
      refine ⟨by simp [Progress.advance], fun p hp => ?_, hright.stored, hright.read⟩
      rcases List.mem_cons.mp hp with rfl | hold
      · exact mem_keys.mpr ⟨s, by simp, rfl, rfl⟩
      · obtain ⟨s', hs', hid, hkey⟩ := mem_keys.mp (hright.known p hold)
        exact mem_keys.mpr ⟨s', List.mem_append_left _ hs', hid, hkey⟩
  | commit tx id writes =>
      rcases perform_commit h with ⟨e, rfl, rfl⟩ | ⟨-, rfl, rfl⟩
      · rw [advance_error]
        exact hright
      · have hkeys : (applyAll writes w).keys = w.keys :=
          applyAll_keys hinv.unique fun s hs => hright.known _ (hpermits.2 s hs)
        have hw' : Right (applyAll writes w) k := by
          refine hright.mono ?_ ?_ (fun _ => applyAll_booking) fun u _ p hp => ?_
          · exact fun u hu => by rwa [applyAll_issued]
          · exact fun p hp => by rwa [hkeys]
          · exact .inl (hkeys ▸ hp)
        cases tx with
        | createBooking => exact hw'.store (createBooking_booking hpermits.1)
        | _ => exact hw'
  | _ =>
      cases hop
      exact hright

theorem drawn_cases {u : String} (h : performWith choice op w = some (r, w'))
    (hu : (Progress.advance key op r k).drawn = some u) : k.drawn = some u ∨ u ∉ w.issued := by
  unfold Progress.advance at hu
  split at hu
  · cases hu
    exact .inr (perform_uuid h).1
  · exact .inl hu
  · exact .inl hu
  · cases hu
  · exact .inl hu
  · split at hu
    · exact .inl hu
    · exact .inl hu
  · exact .inl hu

theorem Orderly.performed (hinv : Orderly key past w)
    (hk : service.trace (Request.progress key) (Progress.advance key) i past = some k)
    (hpermits : k.Permits op) (h : performWith choice op w = some (r, w'))
    (hunraced : Unraced key (.performed w i choice op w')) :
    Orderly key (past ++ [.performed w i choice op w']) w' := by
  have hright := hinv.calls i k hk
  have hissued := perform_issued h
  have hkeys := perform_keys hinv.unique hpermits hright h
  refine ⟨fun p hp => ?_, ?_, fun id id' hid hid' => ?_, fun j kj hj => ?_,
    fun j j' kj kj' u hj hj' hu hu' => ?_⟩
  · rcases hkeys with heq | ⟨s, rfl, -, heq⟩
    · exact hissued _ (hinv.issued p (heq ▸ hp))
    · rcases List.mem_append.mp (heq ▸ hp) with hold | hnew
      · exact hissued _ (hinv.issued p hold)
      · rw [List.mem_singleton.mp hnew]
        exact hissued _ (hright.drawn s.bookingId hpermits).1
  · rcases hkeys with heq | ⟨s, rfl, -, heq⟩
    · rw [heq]
      exact hinv.unique
    · rw [heq, List.map_append, List.nodup_append]
      refine ⟨hinv.unique, List.nodup_singleton _, fun id hid id' hid' hsame => ?_⟩
      obtain ⟨p, hp, rfl⟩ := List.mem_map.mp hid
      exact (hright.drawn s.bookingId hpermits).2 p hp (hsame.trans (List.mem_singleton.mp hid'))
  · rcases hkeys with heq | ⟨s, rfl, hfails, heq⟩
    · exact hinv.once id id' (heq ▸ hid) (heq ▸ hid')
    · -- no saga carries the key when another one with it is inserted
      have hnone : s.idempotencyKey = some key → ∀ id, (id, some key) ∉ w.keys := by
        intro hkey id hid
        obtain ⟨s', hs', -, hkey'⟩ := mem_keys.mp hid
        exact hunraced hkey hfails s' hs' hkey'
      rw [heq, List.mem_append, List.mem_singleton, Prod.mk.injEq] at hid hid'
      rcases hid with hold | ⟨rfl, hkey⟩
      · rcases hid' with hold' | ⟨rfl, hkey⟩
        · exact hinv.once id id' hold hold'
        · exact absurd hold (hnone hkey.symm id)
      · rcases hid' with hold' | ⟨rfl, -⟩
        · exact absurd hold' (hnone hkey.symm id')
        · rfl
  · rcases System.trace_performed_cases h hk hj with ⟨rfl, rfl⟩ | ⟨hne, hold⟩
    · exact hinv.learns hk hpermits h hunraced
    · refine (hinv.calls j kj hold).mono hissued ?_ (fun id => perform_bookings h) ?_
      · intro p hp
        rcases hkeys with heq | ⟨s, -, -, heq⟩
        · rwa [heq]
        · rw [heq]
          exact List.mem_append_left _ hp
      · intro u hu p hp
        rcases hkeys with heq | ⟨s, rfl, -, heq⟩
        · exact .inl (heq ▸ hp)
        · rcases List.mem_append.mp (heq ▸ hp) with hold' | hnew
          · exact .inl hold'
          · refine .inr fun hsame => hne ?_
            rw [List.mem_singleton.mp hnew] at hsame
            have hown : k.drawn = some u := hsame ▸ hpermits
            exact hinv.apart j i kj k u hold hk hu hown
  · rcases System.trace_performed_cases h hk hj with ⟨rfl, rfl⟩ | ⟨hne, hold⟩
    · rcases System.trace_performed_cases h hk hj' with ⟨rfl, rfl⟩ | ⟨-, hold'⟩
      · rfl
      · rcases drawn_cases h hu with hown | hfresh
        · exact hinv.apart j j' k kj' u hk hold' hown hu'
        · exact absurd ((hinv.calls j' kj' hold').drawn u hu').1 hfresh
    · rcases System.trace_performed_cases h hk hj' with ⟨rfl, rfl⟩ | ⟨-, hold'⟩
      · rcases drawn_cases h hu' with hown | hfresh
        · exact hinv.apart j j' kj k u hold hk hu hown
        · exact absurd ((hinv.calls j kj hold).drawn u hu).1 hfresh
      · exact hinv.apart j j' kj kj' u hold hold' hu hu'

end Steps

/-! ## Runs -/

/-- One booking row at most was created for the key, and every call with the key that is done
without an error has returned it. -/
structure Idempotent (key : String) (es : List Event) (P : ServicePool) : Prop where
  once : (P.state.bookings.filter (createdFor key P.state)).length ≤ 1
  returned : ∀ w i dto booking m, .started w i (.executeBookingSaga dto (some key)) ∈ es →
    P.calls[i]? = some (.done (.ok (.booking booking), m)) →
    ∃ b, booking = some b ∧ ∃ row ∈ P.state.bookings,
      createdFor key P.state row = true ∧ row.bookingReference = b.bookingReference

/-- A key stands for one booking in every run whose steps are unraced for it. -/
theorem key_books_once {now : Nat} {ms : List (Move Request Choice)} {es : List Event}
    {P : ServicePool} (hrun : service.run ms (Pool.init (World.init now)) = some (es, P))
    (hunraced : ∀ e ∈ es, Unraced key e) : Idempotent key es P := by
  have htracks : service.Tracks (Orderly key) (Request.progress key)
      (fun _ op k => Progress.Permits k op) (fun _ => Op.Finds) (Progress.advance key)
      (fun _ => Returned key) ([] ++ es) P ∧ ∀ e ∈ es, True := by
    refine System.run_tracked ?_ ?_ hrun hunraced (System.tracks_init orderly_init)
    · intro past w i request _ hinv _
      exact ⟨request_returns request, hinv.started request, trivial⟩
    · intro past w i choice op r w' k hk hpermits hinv hperform hunraced
      exact ⟨finds_of hperform, hinv.performed hk hpermits hperform hunraced, trivial⟩
  obtain ⟨hinv, hcalls, -⟩ := htracks.1
  refine ⟨?_, fun w i dto booking m hstarted hdone => ?_⟩
  · have hsame : ∀ b ∈ P.state.bookings.filter (createdFor key P.state),
        ∀ b' ∈ P.state.bookings.filter (createdFor key P.state),
          b.bookingReference = b'.bookingReference := by
      intro b hb b' hb'
      exact hinv.once _ _ (of_decide_eq_true (List.mem_filter.mp hb).2)
        (of_decide_eq_true (List.mem_filter.mp hb').2)
    have hunique : ((P.state.bookings.filter (createdFor key P.state)).map
        Booking.bookingReference).Nodup :=
      (consistent_run hrun).unique.sublist (List.filter_sublist.map _)
    generalize P.state.bookings.filter (createdFor key P.state) = rows at hsame hunique
    match rows with
    | [] => exact Nat.zero_le 1
    | [_] => exact Nat.le_refl 1
    | b :: b' :: rest =>
        have heq := hsame b (by simp) b' (by simp)
        simp [heq] at hunique
  · obtain ⟨k, hk, hreturned⟩ := hcalls i _ hdone
    have htold : ∃ k, service.trace (Request.progress key) (Progress.advance key) i es = some k ∧
        k.asks = (Request.progress key (.executeBookingSaga dto (some key))).asks :=
      System.trace_of_started advance_asks hrun hstarted
    obtain ⟨k', hk', hasks⟩ := htold
    cases hk'.symm.trans hk
    have hasked : k.asks = true := hasks.trans (by simp [Request.progress, Request.asks])
    obtain ⟨ref, hread, hknown⟩ := hreturned hasked booking rfl
    have hright := hinv.calls i k hk
    obtain ⟨hstored, b, hb, href⟩ := hright.read ref booking hread
    obtain ⟨row, hrow⟩ := Option.isSome_iff_exists.mp (hright.stored ref hstored)
    obtain ⟨hmem, hrowref⟩ := Table.mem_of_find hrow
    refine ⟨b, hb, row, hmem, ?_, hrowref.trans href.symm⟩
    exact decide_eq_true (hrowref ▸ hright.known _ hknown)

instance (key : String) : (e : Event) → Decidable (Unraced key e) := by
  intro e
  unfold Unraced
  split <;> infer_instance

/-- A request for the seat under the key `k`. -/
abbrev seatUnderKey : Move Request Choice := .start (.executeBookingSaga onlySeat (some "k"))

/-- The start of a call with that request. -/
def Event.asksForSeat (call : Nat) : Event → Bool
  | .started _ i (.executeBookingSaga dto key) => i = call && dto = onlySeat && key = some "k"
  | _ => false

/-- The request is repeated while the first call waits for its seats. -/
theorem key_books_once_repeated :
    ∃ es P, service.run (seatUnderKey :: succeeds 0 "a" 11 ++ seatUnderKey :: succeeds 1 "b" 2 ++
        succeeds 0 "c" 13) (Pool.init (World.init 0)) = some (es, P) ∧ P.calls.length = 2 ∧
      P.idle = true ∧ P.state.bookings.length = 1 ∧ Idempotent "k" es P := by
  have hrun : (service.run (seatUnderKey :: succeeds 0 "a" 11 ++ seatUnderKey ::
      succeeds 1 "b" 2 ++ succeeds 0 "c" 13) (Pool.init (World.init 0))).any (fun result =>
        (result.1.all fun e => Unraced "k" e) && result.2.calls.length = 2 && result.2.idle &&
          result.2.state.bookings.length = 1) = true := by decide +kernel
  obtain ⟨es, P, hrun, hafter⟩ := System.exists_run hrun
  simp only [Bool.and_eq_true, List.all_eq_true, decide_eq_true_eq] at hafter
  obtain ⟨⟨⟨hunraced, hcalls⟩, hidle⟩, hrows⟩ := hafter
  exact ⟨es, P, hrun, hcalls, hidle, hrows, key_books_once hrun hunraced⟩

/-- Two calls that look the key up before either stores it create two bookings. A call that comes
after one that failed at its first step returns no booking. -/
theorem key_books_twice :
    (∃ es P, service.run (seatUnderKey :: seatUnderKey :: succeeds 0 "a" 1 ++ succeeds 1 "b" 11 ++
        succeeds 0 "c" 10) (Pool.init (World.init 0)) = some (es, P) ∧ ¬Idempotent "k" es P) ∧
    ∃ es P, service.run (seatUnderKey :: succeeds 0 "a" 4 ++
        .run 0 ⟨some (.error "down"), ""⟩ :: seatUnderKey :: succeeds 1 "b" 2)
        (Pool.init (World.init 0)) = some (es, P) ∧ ¬Idempotent "k" es P := by
  constructor
  · have hrun : (service.run (seatUnderKey :: seatUnderKey :: succeeds 0 "a" 1 ++
        succeeds 1 "b" 11 ++ succeeds 0 "c" 10) (Pool.init (World.init 0))).any (fun result =>
          (result.2.state.bookings.filter (createdFor "k" result.2.state)).length = 2) = true := by
      decide +kernel
    obtain ⟨es, P, hrun, hrows⟩ := System.exists_run hrun
    refine ⟨es, P, hrun, fun h => ?_⟩
    have hone := h.once
    have htwo : (P.state.bookings.filter (createdFor "k" P.state)).length = 2 :=
      of_decide_eq_true hrows
    omega
  · have hrun : (service.run (seatUnderKey :: succeeds 0 "a" 4 ++
        .run 0 ⟨some (.error "down"), ""⟩ :: seatUnderKey :: succeeds 1 "b" 2)
        (Pool.init (World.init 0))).any (fun result =>
          result.1.any (Event.asksForSeat 1) && answer result.2 1 == some (.ok (.booking none))) = true := by decide +kernel
    obtain ⟨es, P, hrun, hafter⟩ := System.exists_run hrun
    simp only [Bool.and_eq_true, List.any_eq_true, beq_iff_eq] at hafter
    obtain ⟨⟨e, he, hstarted⟩, hanswer⟩ := hafter
    refine ⟨es, P, hrun, fun h => ?_⟩
    unfold Event.asksForSeat at hstarted
    split at hstarted
    · rename_i w i dto key
      simp only [Bool.and_eq_true, decide_eq_true_eq] at hstarted
      obtain ⟨⟨rfl, rfl⟩, rfl⟩ := hstarted
      obtain ⟨m, hdone⟩ := answer_eq_some hanswer
      obtain ⟨b, hb, -⟩ := h.returned w 1 onlySeat none m he hdone
      cases hb
    · cases hstarted

end FlightBookings.Booking
