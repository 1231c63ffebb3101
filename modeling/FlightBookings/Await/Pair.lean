import FlightBookings.Await.Pool

/-! # Two systems side by side

Services that share no state. Every move belongs to one of them, and a request
of the first one may need something of the state that the second one is in, such
as a message that it has sent. What the runs of the second one alone keep, the
first one finds beside it.
-/

namespace Await

variable {ι Op ι' Op' : Type} {Res : Op → Type} {Res' : Op' → Type} {χ ρ σ χ' ρ' σ' : Type}

/-- The two systems, and the requests of the first one that a state of the second one admits. -/
structure Pair (ι Op : Type) (Res : Op → Type) (χ ρ σ ι' Op' : Type) (Res' : Op' → Type)
    (χ' ρ' σ' : Type) where
  first : System ι Op Res χ ρ σ
  second : System ι' Op' Res' χ' ρ' σ'
  admits : ι → σ' → Bool

structure Pools (Op : Type) (Res : Op → Type) (ρ σ Op' : Type) (Res' : Op' → Type)
    (ρ' σ' : Type) where
  first : Pool Op Res ρ σ
  second : Pool Op' Res' ρ' σ'

/-- An event of one of the systems, beside the state that the other one is in. -/
inductive PairEvent (ι Op χ σ ι' Op' χ' σ' : Type) where
  | first (event : Event ι Op χ σ) (other : σ')
  | second (event : Event ι' Op' χ' σ') (other : σ)

def PairEvent.second? : PairEvent ι Op χ σ ι' Op' χ' σ' → Option (Event ι' Op' χ' σ')
  | .first _ _ => none
  | .second e _ => some e

def PairEvent.first? : PairEvent ι Op χ σ ι' Op' χ' σ' → Option (Event ι Op χ σ)
  | .first e _ => some e
  | .second _ _ => none

abbrev PairMove (ι χ ι' χ' : Type) := Move ι χ ⊕ Move ι' χ'

namespace Pair

variable (D : Pair ι Op Res χ ρ σ ι' Op' Res' χ' ρ' σ')

/-- Whether the second system lets the first one make a move. -/
def allows (s' : σ') : Move ι χ → Bool
  | .start request => D.admits request s'
  | .run _ _ => true

def move : PairMove ι χ ι' χ' → Pools Op Res ρ σ Op' Res' ρ' σ' →
    Option (PairEvent ι Op χ σ ι' Op' χ' σ' × Pools Op Res ρ σ Op' Res' ρ' σ')
  | .inl m, P =>
      if D.allows P.second.state m then
        (D.first.move m P.first).map fun r => (.first r.1 P.second.state, { P with first := r.2 })
      else none
  | .inr m, P =>
      (D.second.move m P.second).map fun r => (.second r.1 P.first.state, { P with second := r.2 })

def run : List (PairMove ι χ ι' χ') → Pools Op Res ρ σ Op' Res' ρ' σ' →
    Option (List (PairEvent ι Op χ σ ι' Op' χ' σ') × Pools Op Res ρ σ Op' Res' ρ' σ')
  | [], P => some ([], P)
  | m :: ms, P =>
      match D.move m P with
      | some (e, P') => (run ms P').map fun r => (e :: r.1, r.2)
      | none => none

variable {D} {P P' : Pools Op Res ρ σ Op' Res' ρ' σ'} {m : PairMove ι χ ι' χ'}
variable {ms : List (PairMove ι χ ι' χ')} {e : PairEvent ι Op χ σ ι' Op' χ' σ'}
variable {es : List (PairEvent ι Op χ σ ι' Op' χ' σ')}

/-- A move is one of the first system that the second one allows, or one of the second system. -/
theorem move_cases (h : D.move m P = some (e, P')) :
    (∃ m₁ e₁ Q, m = .inl m₁ ∧ D.allows P.second.state m₁ = true ∧
      D.first.move m₁ P.first = some (e₁, Q) ∧ e = .first e₁ P.second.state ∧
      P' = { P with first := Q }) ∨
    (∃ m₂ e₂ Q, m = .inr m₂ ∧ D.second.move m₂ P.second = some (e₂, Q) ∧
      e = .second e₂ P.first.state ∧ P' = { P with second := Q }) := by
  cases m with
  | inl m₁ =>
      simp only [move] at h
      split at h
      · rename_i hallows
        obtain ⟨⟨e₁, Q⟩, hmove, heq⟩ := Option.map_eq_some_iff.mp h
        cases heq
        exact .inl ⟨m₁, e₁, Q, rfl, hallows, hmove, rfl, rfl⟩
      · cases h
  | inr m₂ =>
      obtain ⟨⟨e₂, Q⟩, hmove, heq⟩ := Option.map_eq_some_iff.mp h
      cases heq
      exact .inr ⟨m₂, e₂, Q, rfl, hmove, rfl, rfl⟩

theorem run_cons (h : D.run (m :: ms) P = some (es, P')) :
    ∃ e Q es', D.move m P = some (e, Q) ∧ D.run ms Q = some (es', P') ∧ es = e :: es' := by
  simp only [run] at h
  split at h
  · rename_i e Q hmove
    obtain ⟨⟨es', Q'⟩, hrun, heq⟩ := Option.map_eq_some_iff.mp h
    cases heq
    exact ⟨e, Q, es', hmove, hrun, rfl⟩
  · cases h

/-- The state that an event of the first system finds beside it is one that a run of the second
system leaves. -/
theorem beside_of_mem {e₁ : Event ι Op χ σ} {s' : σ'} (h : D.run ms P = some (es, P'))
    (he : .first e₁ s' ∈ es) :
    ∃ ms₂ es₂ Q, D.second.run ms₂ P.second = some (es₂, Q) ∧ Q.state = s' := by
  induction ms generalizing P es with
  | nil =>
      cases h
      cases he
  | cons m ms ih =>
      obtain ⟨e, Q, es', hmove, hrun, rfl⟩ := run_cons h
      rcases move_cases hmove with ⟨m₁, e₂, Q₁, rfl, -, -, rfl, rfl⟩ |
        ⟨m₂, e₂, Q₂, rfl, hmove₂, rfl, rfl⟩
      · rcases List.mem_cons.mp he with heq | hmem
        · cases heq
          exact ⟨[], [], P.second, rfl, rfl⟩
        · obtain ⟨ms₂, es₂, Q₃, hrun₂, hstate⟩ := ih hrun hmem
          exact ⟨ms₂, es₂, Q₃, hrun₂, hstate⟩
      · rcases List.mem_cons.mp he with heq | hmem
        · cases heq
        · obtain ⟨ms₂, es₂, Q₃, hrun₂, hstate⟩ := ih hrun hmem
          refine ⟨m₂ :: ms₂, e₂ :: es₂, Q₃, ?_, hstate⟩
          simp only [System.run, hmove₂, hrun₂, Option.map_some]

/-- A call that only does what its request is good for, and a request whose needs of the second system
stay met. -/
def Serves (good : ι → Op → Prop) (can : ∀ op, Res op → Prop) (needs : ι → σ' → Prop) (s' : σ')
    (p : Program Op Res ρ) : Prop :=
  ∃ request, p.Emits (good request) can ∧ needs request s'

/-- The rule for calls of the first system that need something of the second one. -/
theorem run_serves {good : ι → Op → Prop} {can : ∀ op, Res op → Prop} {needs : ι → σ' → Prop}
    {allows owes : PairEvent ι Op χ σ ι' Op' χ' σ' → Prop}
    (hstarted : ∀ s i request s', D.admits request s' = true →
      allows (.first (.started s i request) s') →
      (D.first.program request).Emits (good request) can ∧ needs request s' ∧
        owes (.first (.started s i request) s'))
    (hperform : ∀ request s i c op r s₁ s', good request op → needs request s' →
      D.first.perform i c op s = some (r, s₁) → allows (.first (.performed s i c op s₁) s') →
      can op r ∧ owes (.first (.performed s i c op s₁) s'))
    (hsecond : ∀ {m Q e Q' s}, D.second.move m Q = some (e, Q') → allows (.second e s) →
      (∀ request, needs request Q.state → needs request Q'.state) ∧ owes (.second e s))
    (h : D.run ms P = some (es, P')) (hobeys : ∀ e ∈ es, allows e)
    (hcalls : ∀ p ∈ P.first.calls, Serves good can needs P.second.state p) :
    ∀ e ∈ es, owes e := by
  induction ms generalizing P es with
  | nil =>
      cases h
      exact fun _ he => absurd he List.not_mem_nil
  | cons m ms ih =>
      obtain ⟨e, Q, es', hmove, hrun, rfl⟩ := run_cons h
      have hallows : allows e := hobeys e List.mem_cons_self
      suffices hstep : owes e ∧ ∀ p ∈ Q.first.calls, Serves good can needs Q.second.state p by
        have htail := ih hrun (fun e' h' => hobeys e' (List.mem_cons_of_mem _ h')) hstep.2
        exact List.forall_mem_cons.mpr ⟨hstep.1, htail⟩
      rcases move_cases hmove with ⟨m₁, e₁, Q₁, rfl, hadmits, hmove₁, rfl, rfl⟩ |
        ⟨m₂, e₂, Q₂, rfl, hmove₂, rfl, rfl⟩
      · rcases System.move_cases hmove₁ with ⟨request, rfl, rfl, rfl⟩ |
          ⟨i, c, op, next, r, s, rfl, hcall, hperformed, rfl, rfl⟩
        · obtain ⟨hprogram, hneeds, howes⟩ := hstarted _ _ request _ hadmits hallows
          refine ⟨howes, fun p hp => ?_⟩
          rcases List.mem_append.mp hp with hold | hnew
          · exact hcalls p hold
          · exact ⟨request, List.mem_singleton.mp hnew ▸ hprogram, hneeds⟩
        · obtain ⟨request, ⟨hgood, hnext⟩, hneeds⟩ := hcalls _ (List.mem_of_getElem? hcall)
          obtain ⟨hcan, howes⟩ := hperform request _ _ _ _ _ _ _ hgood hneeds hperformed hallows
          refine ⟨howes, fun p hp => ?_⟩
          rcases List.mem_or_eq_of_mem_set hp with hold | rfl
          · exact hcalls p hold
          · exact ⟨request, hnext r hcan, hneeds⟩
      · obtain ⟨hstays, howes⟩ := hsecond hmove₂ hallows
        refine ⟨howes, fun p hp => ?_⟩
        obtain ⟨request, hemits, hneeds⟩ := hcalls p hp
        exact ⟨request, hemits, hstays request hneeds⟩

/-- The second system runs as it would by itself. -/
theorem run_second (h : D.run ms P = some (es, P')) :
    D.second.run (ms.filterMap Sum.getRight?) P.second =
      some (es.filterMap PairEvent.second?, P'.second) := by
  induction ms generalizing P es with
  | nil =>
      cases h
      rfl
  | cons m ms ih =>
      obtain ⟨e, Q, es', hmove, hrun, rfl⟩ := run_cons h
      rcases move_cases hmove with ⟨m₁, e₁, Q₁, rfl, -, -, rfl, rfl⟩ |
        ⟨m₂, e₂, Q₂, rfl, hmove₂, rfl, rfl⟩
      · have hskip : (Sum.inl m₁ :: ms : List (PairMove ι χ ι' χ')).filterMap Sum.getRight? =
            ms.filterMap Sum.getRight? := rfl
        rw [hskip, ih hrun]
        rfl
      · have hhead : (Sum.inr m₂ :: ms : List (PairMove ι χ ι' χ')).filterMap Sum.getRight? =
            m₂ :: ms.filterMap Sum.getRight? := rfl
        have htail := ih hrun
        simp only [hhead, System.run, hmove₂, htail, Option.map_some]
        rfl

/-- The moves of the first system are a run of its own, too. -/
theorem run_first (h : D.run ms P = some (es, P')) :
    D.first.run (ms.filterMap Sum.getLeft?) P.first =
      some (es.filterMap PairEvent.first?, P'.first) := by
  induction ms generalizing P es with
  | nil =>
      cases h
      rfl
  | cons m ms ih =>
      obtain ⟨e, Q, es', hmove, hrun, rfl⟩ := run_cons h
      rcases move_cases hmove with ⟨m₁, e₁, Q₁, rfl, -, hmove₁, rfl, rfl⟩ |
        ⟨m₂, e₂, Q₂, rfl, -, rfl, rfl⟩
      · have hhead : (Sum.inl m₁ :: ms : List (PairMove ι χ ι' χ')).filterMap Sum.getLeft? =
            m₁ :: ms.filterMap Sum.getLeft? := rfl
        have htail := ih hrun
        simp only [hhead, System.run, hmove₁, htail, Option.map_some]
        rfl
      · have hskip : (Sum.inr m₂ :: ms : List (PairMove ι χ ι' χ')).filterMap Sum.getLeft? =
            ms.filterMap Sum.getLeft? := rfl
        rw [hskip, ih hrun]
        rfl

/-- The run up to an event, and the move that leads to the event. -/
theorem run_split {past rest : List (PairEvent ι Op χ σ ι' Op' χ' σ')}
    (h : D.run ms P = some (past ++ e :: rest, P')) :
    ∃ ms₁ m Q Q', D.run ms₁ P = some (past, Q) ∧ D.run (ms₁ ++ [m]) P = some (past ++ [e], Q') ∧
      D.move m Q = some (e, Q') := by
  induction past generalizing ms P with
  | nil =>
      cases ms with
      | nil => cases h
      | cons m ms =>
          obtain ⟨e', Q, es', hmove, -, heq⟩ := run_cons h
          cases heq
          exact ⟨[], m, P, Q, rfl, by simp only [List.nil_append, run, hmove, Option.map_some], hmove⟩
  | cons e' past ih =>
      cases ms with
      | nil => cases h
      | cons m' ms =>
          obtain ⟨e'', Q, es', hmove, hrun, heq⟩ := run_cons h
          cases heq
          obtain ⟨ms₁, m, Q₁, Q₂, hpast, hlonger, hlast⟩ := ih hrun
          refine ⟨m' :: ms₁, m, Q₁, Q₂, ?_, ?_, hlast⟩
          · simp only [run, hmove, hpast, Option.map_some]
          · simp only [List.cons_append, run, hmove, hlonger, Option.map_some]

/-- The rule for an invariant of both states. What the second system does, it does in a run of its
own. -/
theorem run_joint {good : ι → Op → Prop} {can : ∀ op, Res op → Prop} {needs : ι → σ' → Prop}
    {inv : σ → σ' → Prop} {P₀ : Pool Op' Res' ρ' σ'}
    (hstarted : ∀ request s', D.admits request s' = true →
      (D.first.program request).Emits (good request) can ∧ needs request s')
    (hperform : ∀ request s i c op r s₁ ms₂ es₂ Q, D.second.run ms₂ P₀ = some (es₂, Q) →
      good request op → needs request Q.state → D.first.perform i c op s = some (r, s₁) →
      inv s Q.state → can op r ∧ inv s₁ Q.state)
    (hsecond : ∀ ms₂ es₂ Q m e Q', D.second.run ms₂ P₀ = some (es₂, Q) →
      D.second.run (ms₂ ++ [m]) P₀ = some (es₂ ++ [e], Q') → D.second.move m Q = some (e, Q') →
      (∀ request, needs request Q.state → needs request Q'.state) ∧
        ∀ s, inv s Q.state → inv s Q'.state)
    (h : D.run ms P = some (es, P')) (hP : ∃ ms₂ es₂, D.second.run ms₂ P₀ = some (es₂, P.second))
    (hcalls : ∀ p ∈ P.first.calls, Serves good can needs P.second.state p)
    (hinv : inv P.first.state P.second.state) :
    inv P'.first.state P'.second.state := by
  induction ms generalizing P es with
  | nil =>
      cases h
      exact hinv
  | cons m ms ih =>
      obtain ⟨e, Q, es', hmove, hrun, rfl⟩ := run_cons h
      obtain ⟨ms₂, es₂, hrun₂⟩ := hP
      rcases move_cases hmove with ⟨m₁, e₁, Q₁, rfl, hadmits, hmove₁, rfl, rfl⟩ |
        ⟨m₂, e₂, Q₂, rfl, hmove₂, rfl, rfl⟩
      · rcases System.move_cases hmove₁ with ⟨request, rfl, rfl, rfl⟩ |
          ⟨i, c, op, next, r, s, rfl, hcall, hperformed, rfl, rfl⟩
        · obtain ⟨hprogram, hneeds⟩ := hstarted request _ hadmits
          refine ih hrun ⟨ms₂, es₂, hrun₂⟩ (fun p hp => ?_) hinv
          rcases List.mem_append.mp hp with hold | hnew
          · exact hcalls p hold
          · exact ⟨request, List.mem_singleton.mp hnew ▸ hprogram, hneeds⟩
        · obtain ⟨request, ⟨hgood, hnext⟩, hneeds⟩ := hcalls _ (List.mem_of_getElem? hcall)
          obtain ⟨hcan, hafter⟩ :=
            hperform request _ _ _ _ _ _ _ _ _ hrun₂ hgood hneeds hperformed hinv
          refine ih hrun ⟨ms₂, es₂, hrun₂⟩ (fun p hp => ?_) hafter
          rcases List.mem_or_eq_of_mem_set hp with hold | rfl
          · exact hcalls p hold
          · exact ⟨request, hnext r hcan, hneeds⟩
      · have hone : D.second.run [m₂] P.second = some ([e₂], Q₂) := by
          simp only [System.run, hmove₂, Option.map_some]
        have hlonger := System.run_append hrun₂ hone
        obtain ⟨hstays, hafter⟩ := hsecond _ _ _ _ _ _ hrun₂ hlonger hmove₂
        refine ih hrun ⟨_, _, hlonger⟩ (fun p hp => ?_) (hafter _ hinv)
        obtain ⟨request, hemits, hneeds⟩ := hcalls p hp
        exact ⟨request, hemits, hstays request hneeds⟩

theorem exists_run {f : List (PairEvent ι Op χ σ ι' Op' χ' σ') ×
    Pools Op Res ρ σ Op' Res' ρ' σ' → Bool} (h : (D.run ms P).any f = true) :
    ∃ es P', D.run ms P = some (es, P') ∧ f (es, P') = true := by
  cases hrun : D.run ms P with
  | none => simp [hrun] at h
  | some result => exact ⟨result.1, result.2, rfl, by simpa [hrun] using h⟩

end Pair

end Await
