import FlightBookings.Await.Pool

/-! # Contracts that know the requests

A call is started once, with one request. A contract may speak of the requests
that the calls of a run were started with, as if they were known beforehand.
-/

namespace Await

variable {ι Op : Type} {Res : Op → Type} {χ ρ σ : Type}

namespace System

variable {S : System ι Op Res χ ρ σ} {ms : List (Move ι χ)} {es : List (Event ι Op χ σ)}
variable {P : Pool Op Res ρ σ} {s₀ s : σ} {i : Nat} {request : ι}

/-- The request that a call of a run was started with. -/
def requestOf (S : System ι Op Res χ ρ σ) (es : List (Event ι Op χ σ)) (i : Nat) : Option ι :=
  S.trace id (fun _ _ request => request) i es

theorem requestOf_started (hrun : S.run ms (Pool.init s₀) = some (es, P))
    (h : .started s i request ∈ es) : S.requestOf es i = some request := by
  obtain ⟨k, htrace, hsame⟩ : ∃ k, S.requestOf es i = some k ∧ id k = id request :=
    trace_of_started (fun _ _ _ => rfl) hrun h
  exact htrace.trans (congrArg some hsame)

theorem started_of_requestOf (hrun : S.run ms (Pool.init s₀) = some (es, P))
    (h : S.requestOf es i = some request) : ∃ s, .started s i request ∈ es := by
  obtain ⟨e, he, hstarted⟩ := List.mem_filterMap.mp (mem_startedCalls h)
  cases e with
  | performed s j c op s' => cases hstarted
  | started s j request' =>
      cases hstarted
      cases (requestOf_started hrun he).symm.trans h
      exact ⟨s, he⟩

end System

namespace Contract

/-- A call is the one that a request was given to. -/
def Given (who : Nat → ι) : Event ι Op χ σ → Prop
  | .started _ i request => who i = request
  | .performed _ _ _ _ _ => True

/-- What the calls owe under a contract that speaks of their requests holds along every run, of the
requests that they were started with, if the contract allows what happens in the run. Calls that are not
started have one that asks for nothing. -/
theorem run_requests {S : System ι Op Res χ ρ σ} {K : (Nat → ι) → Contract ι Op χ σ} {idle : ι}
    {post : (Nat → ι) → Nat → ρ → σ → Prop} {s₀ : σ} {ms : List (Move ι χ)}
    {es : List (Event ι Op χ σ)} {P : Pool Op Res ρ σ} (hlawful : ∀ who, (K who).Lawful)
    (hallows : ∀ who, ∀ e ∈ es, Given who e → (K who).allows e)
    (hstable : ∀ who i a s s', (K who).rely i s s' → post who i a s → post who i a s')
    (hstart : ∀ who s i request, (K who).inv s → (K who).allows (.started s i request) →
      (S.program request).wp ((K who).spec S i) (post who i) s)
    (hrun : S.run ms (Pool.init s₀) = some (es, P)) (hinv : ∀ who, (K who).inv s₀) :
    ∃ who, (∀ i request, (∃ s, .started s i request ∈ es) → who i = request) ∧
      (∀ i, (∃ s, .started s i (who i) ∈ es) ∨ who i = idle) ∧
      (K who).Meets S (post who) P ∧ ∀ e ∈ es, (K who).owes e := by
  let who (i : Nat) : ι := (S.requestOf es i).getD idle
  have hwho : ∀ i request, (∃ s, .started s i request ∈ es) → who i = request := by
    rintro i request ⟨s, hs⟩
    change (S.requestOf es i).getD idle = request
    rw [System.requestOf_started hrun hs]
    rfl
  have hmeets := run_meets (hlawful who) (hstable who) (hstart who) hrun ?_
    ⟨hinv who, fun _ _ h => by cases h⟩
  · refine ⟨who, hwho, fun i => ?_, hmeets⟩
    cases hrequest : S.requestOf es i with
    | none => exact .inr (by simp only [who, hrequest, Option.getD_none])
    | some request =>
        obtain ⟨s, hs⟩ := System.started_of_requestOf hrun hrequest
        exact .inl ⟨s, by rwa [hwho i request ⟨s, hs⟩]⟩
  · intro e he
    refine hallows who e he ?_
    cases e with
    | started s i request => exact hwho i request ⟨s, he⟩
    | performed s i c op s' => trivial

end Contract

end Await
