import FlightBookings.Await.Pool

/-! # Serial runs with their history

Where one call runs at a time, an operation can be specified together with the
events before it: what it leaves behind is said of the history and the state, in
the middle of a call as well as at its end.
-/

namespace Await.System

variable {ι Op χ ρ σ : Type} {Res : Op → Type} {S : System ι Op Res χ ρ σ}
variable {P P' : Pool Op Res ρ σ} {es past : List (Event ι Op χ σ)} {ms : List (Move ι χ)} {i : Nat}

/-- An operation of call `i` while no other call runs, with the events so far. After it `always` has to
hold. -/
def logged (S : System ι Op Res χ ρ σ) (allows : Event ι Op χ σ → Prop)
    (always : List (Event ι Op χ σ) → σ → Prop) (i : Nat) :
    Spec Op Res (List (Event ι Op χ σ) × σ) := fun op t Q =>
  ∀ c r s', S.perform i c op t.2 = some (r, s') → allows (.performed t.2 i c op s') →
    always (t.1 ++ [.performed t.2 i c op s']) s' ∧ Q r (t.1 ++ [.performed t.2 i c op s'], s')

instance (allows : Event ι Op χ σ → Prop) (always : List (Event ι Op χ σ) → σ → Prop) (i : Nat) :
    (S.logged allows always i).Monotone where
  mono _ _ _ _ hQ h c r s' hperform hallows :=
    ⟨(h c r s' hperform hallows).1, hQ r _ (h c r s' hperform hallows).2⟩

section Logged

variable {allows : Event ι Op χ σ → Prop} {always inv : List (Event ι Op χ σ) → σ → Prop}

/-- The one call that may be running ends with the invariant. -/
structure Underway (S : System ι Op Res χ ρ σ) (allows : Event ι Op χ σ → Prop)
    (always inv : List (Event ι Op χ σ) → σ → Prop) (past : List (Event ι Op χ σ))
    (P : Pool Op Res ρ σ) (i : Nat) : Prop where
  alone : Alone i P
  holds : always past P.state
  running : ∀ p, P.calls[i]? = some p →
    p.wp (S.logged allows always i) (fun _ t => inv t.1 t.2) (past, P.state)
  done : P.calls[i]? = none → inv past P.state

theorem Underway.idle (h : S.Underway allows always inv past P i) (hidle : P.idle = true) :
    inv past P.state := by
  cases hcall : P.calls[i]? with
  | none => exact h.done hcall
  | some p =>
      have hwp := h.running p hcall
      have hdone : p.isDone = true := List.all_eq_true.mp hidle p (List.mem_of_getElem? hcall)
      cases p with
      | done a => exact hwp
      | await op next => cases hdone

theorem Underway.move {m : Move ι χ} {e : Event ι Op χ σ}
    (hstarted : ∀ past s i request, inv past s → allows (.started s i request) →
      always (past ++ [.started s i request]) s ∧
        (S.program request).wp (S.logged allows always i) (fun _ t => inv t.1 t.2)
          (past ++ [.started s i request], s))
    (hmove : S.move m P = some (e, P')) (hserial : ∀ request, m = .start request → P.idle = true)
    (hallows : allows e) (h : S.Underway allows always inv past P i) :
    ∃ j, S.Underway allows always inv (past ++ [e]) P' j := by
  rcases move_cases hmove with ⟨request, rfl, rfl, rfl⟩ |
    ⟨j, c, op, next, r, s, rfl, hcall, hstep, rfl, rfl⟩
  · have hidle : P.idle = true := hserial request rfl
    obtain ⟨hafter, hwp⟩ := hstarted past P.state P.calls.length request (h.idle hidle) hallows
    refine ⟨P.calls.length, fun j q hj hq => ?_, hafter, fun p hp => ?_, fun hnone => ?_⟩
    · rcases Nat.lt_or_gt_of_ne hj with hlt | hgt
      · rw [List.getElem?_append_left hlt] at hq
        exact alone_of_idle hidle P.calls.length j q hj hq
      · have hlength : (P.calls ++ [S.program request]).length ≤ j := by
          rw [List.length_append, List.length_singleton]
          exact hgt
        rw [List.getElem?_eq_none hlength] at hq
        cases hq
    · rw [List.getElem?_concat_length, Option.some.injEq] at hp
      subst hp
      exact hwp
    · rw [List.getElem?_concat_length] at hnone
      cases hnone
  · have hji : j = i := Decidable.byContradiction fun hne => by
      have hdone := h.alone j _ hne hcall
      cases hdone
    subst hji
    have hlt : j < P.calls.length := (List.getElem?_eq_some_iff.mp hcall).1
    obtain ⟨hafter, hnext⟩ := h.running _ hcall c r s hstep hallows
    refine ⟨j, fun k q hk hq => ?_, hafter, fun p hp => ?_, fun hnone => ?_⟩
    · rw [List.getElem?_set_ne hk.symm] at hq
      exact h.alone k q hk hq
    · rw [List.getElem?_set_self hlt, Option.some.injEq] at hp
      subst hp
      exact hnext
    · rw [List.getElem?_set_self hlt] at hnone
      cases hnone

/-- A serial run whose calls keep the invariant, each from its start to its end, has it whenever no call
runs; what every operation leaves behind holds throughout. -/
theorem run_serial_logged
    (hstarted : ∀ past s i request, inv past s → allows (.started s i request) →
      always (past ++ [.started s i request]) s ∧
        (S.program request).wp (S.logged allows always i) (fun _ t => inv t.1 t.2)
          (past ++ [.started s i request], s))
    (hrun : S.run ms P = some (es, P')) (hserial : S.serial ms P = true)
    (hobeys : ∀ e ∈ es, allows e) (hidle : P.idle = true) (halways : always past P.state)
    (hinv : inv past P.state) :
    always (past ++ es) P'.state ∧ (P'.idle = true → inv (past ++ es) P'.state) := by
  have hP : ∃ i, S.Underway allows always inv past P i := by
    refine ⟨P.calls.length, alone_of_idle hidle _, halways, fun p hp => ?_, fun _ => hinv⟩
    rw [List.getElem?_eq_none (Nat.le_refl _)] at hp
    cases hp
  suffices h : ∃ i, S.Underway allows always inv (past ++ es) P' i by
    obtain ⟨i, h⟩ := h
    exact ⟨h.holds, h.idle⟩
  clear hidle halways hinv
  induction ms generalizing P es past with
  | nil =>
      simp only [run, Option.some.injEq, Prod.mk.injEq] at hrun
      obtain ⟨rfl, rfl⟩ := hrun
      rwa [List.append_nil]
  | cons m ms ih =>
      obtain ⟨e, Q, es', hmove, hrun', rfl⟩ := run_cons hrun
      obtain ⟨hstart, hserial'⟩ := serial_cons hserial hmove
      obtain ⟨i, hunderway⟩ := hP
      have hQ := hunderway.move hstarted hmove hstart (hobeys e List.mem_cons_self)
      have hrest := ih hrun' hserial' (fun e' h' => hobeys e' (List.mem_cons_of_mem e h')) hQ
      rwa [List.append_assoc, List.singleton_append] at hrest

end Logged

/-! ## Calls come to their end -/

/-- Where every operation can be performed in a way that `allows` wants, a call that runs alone can be
carried through. -/
theorem run_completes {live : σ → Prop} {allows : List (Event ι Op χ σ) → Event ι Op χ σ → Prop}
    (hperform : ∀ past i op s, live s → ∃ c r s', S.perform i c op s = some (r, s') ∧ live s' ∧
      allows past (.performed s i c op s'))
    {p : Program Op Res ρ} (hcall : P.calls[i]? = some p) (halone : Alone i P)
    (hlive : live P.state) (past : List (Event ι Op χ σ)) :
    ∃ (cs : List χ) (es : List (Event ι Op χ σ)) (P' : Pool Op Res ρ σ),
      S.run (cs.map (.run i)) P = some (es, P') ∧ P'.idle = true ∧ Throughout allows past es := by
  induction p generalizing P past with
  | done a =>
      refine ⟨[], [], P, rfl, List.all_eq_true.mpr fun q hq => ?_, trivial⟩
      obtain ⟨j, hj⟩ := List.mem_iff_getElem?.mp hq
      by_cases hji : j = i
      · subst hji
        rw [hcall, Option.some.injEq] at hj
        subst hj
        rfl
      · exact halone j q hji hj
  | await op next ih =>
      have hlt : i < P.calls.length := (List.getElem?_eq_some_iff.mp hcall).1
      obtain ⟨c, r, s, hstep, hlive', hallows⟩ := hperform past i op P.state hlive
      have hmove : S.move (.run i c) P =
          some (.performed P.state i c op s, ⟨s, P.calls.set i (next r)⟩) := by
        simp only [move, hcall, hstep]
      have hset : (P.calls.set i (next r))[i]? = some (next r) := List.getElem?_set_self hlt
      obtain ⟨cs, es, P', hrun, hidle, hes⟩ := ih r (P := ⟨s, P.calls.set i (next r)⟩) hset
        (fun j q hj hq => halone j q hj (List.getElem?_set_ne hj.symm ▸ hq)) hlive'
        (past ++ [.performed P.state i c op s])
      refine ⟨c :: cs, .performed P.state i c op s :: es, P', ?_, hidle, hallows, hes⟩
      rw [List.map_cons, run, hmove]
      simp only [hrun, Option.map_some]

end Await.System
