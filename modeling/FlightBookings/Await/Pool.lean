import FlightBookings.Await.Logic

/-! # Pools of interleaved calls

A pool is a shared state and the calls started so far. A move starts a call or
lets one call perform the operation it awaits, with an environment choice for
everything the code does not decide. A run is a list of moves, so that closed
runs evaluate; its events are what the theorems about runs quantify over.
-/

namespace Await

variable {ι Op : Type} {Res : Op → Type} {χ ρ σ : Type}

/-- A service: how its environment performs an operation of a call (`none` while the
operation has to wait), and the program of every request. -/
structure System (ι Op : Type) (Res : Op → Type) (χ ρ σ : Type) where
  perform : (call : Nat) → (choice : χ) → (op : Op) → σ → Option (Res op × σ)
  program : ι → Program Op Res ρ

structure Pool (Op : Type) (Res : Op → Type) (ρ σ : Type) where
  state : σ
  calls : List (Program Op Res ρ)

inductive Move (ι χ : Type) where
  | start (request : ι)
  | run (call : Nat) (choice : χ)

inductive Event (ι Op χ σ : Type) where
  | started (state : σ) (call : Nat) (request : ι)
  | performed (before : σ) (call : Nat) (choice : χ) (op : Op) (after : σ)

namespace Event

def before : Event ι Op χ σ → σ
  | .started s _ _ => s
  | .performed s _ _ _ _ => s

def after : Event ι Op χ σ → σ
  | .started s _ _ => s
  | .performed _ _ _ _ s => s

end Event

def Pool.init (s : σ) : Pool Op Res ρ σ := ⟨s, []⟩

def Pool.idle (P : Pool Op Res ρ σ) : Bool := P.calls.all Program.isDone

namespace System

variable (S : System ι Op Res χ ρ σ)

def move : Move ι χ → Pool Op Res ρ σ → Option (Event ι Op χ σ × Pool Op Res ρ σ)
  | .start request, P =>
      some (.started P.state P.calls.length request,
        { P with calls := P.calls ++ [S.program request] })
  | .run i c, P =>
      match P.calls[i]? with
      | some (.await op next) =>
          match S.perform i c op P.state with
          | some (r, s) => some (.performed P.state i c op s, ⟨s, P.calls.set i (next r)⟩)
          | none => none
      | _ => none

def run : List (Move ι χ) → Pool Op Res ρ σ →
    Option (List (Event ι Op χ σ) × Pool Op Res ρ σ)
  | [], P => some ([], P)
  | m :: ms, P =>
      match S.move m P with
      | some (e, P') => (run ms P').map fun r => (e :: r.1, r.2)
      | none => none

/-- No call is started while another one is still running. -/
def serial : List (Move ι χ) → Pool Op Res ρ σ → Bool
  | [], _ => true
  | m :: ms, P =>
      (match m with
        | .start _ => P.idle
        | .run _ _ => true) &&
      match S.move m P with
      | some (_, P') => serial ms P'
      | none => true

variable {S} {P P' : Pool Op Res ρ σ} {e : Event ι Op χ σ} {es : List (Event ι Op χ σ)}
variable {m : Move ι χ} {ms : List (Move ι χ)}

/-- Everything one move can do. -/
theorem move_cases (h : S.move m P = some (e, P')) :
    (∃ request, m = .start request ∧ e = .started P.state P.calls.length request ∧
      P' = ⟨P.state, P.calls ++ [S.program request]⟩) ∨
    (∃ i c op next r s, m = .run i c ∧ P.calls[i]? = some (.await op next) ∧
      S.perform i c op P.state = some (r, s) ∧ e = .performed P.state i c op s ∧
      P' = ⟨s, P.calls.set i (next r)⟩) := by
  cases m with
  | start request =>
      simp only [move, Option.some.injEq, Prod.mk.injEq] at h
      exact .inl ⟨request, rfl, h.1.symm, h.2.symm⟩
  | run i c =>
      simp only [move] at h
      split at h
      · rename_i op next hcall
        split at h
        · rename_i r s hperform
          simp only [Option.some.injEq, Prod.mk.injEq] at h
          exact .inr ⟨i, c, op, next, r, s, rfl, hcall, hperform, h.1.symm, h.2.symm⟩
        · exact absurd h (by simp)
      · exact absurd h (by simp)

theorem run_cons {P'' : Pool Op Res ρ σ} (h : S.run (m :: ms) P = some (es, P'')) :
    ∃ e P' es', S.move m P = some (e, P') ∧ S.run ms P' = some (es', P'') ∧ es = e :: es' := by
  simp only [run] at h
  split at h
  · rename_i e P' hmove
    obtain ⟨⟨es', Q⟩, hrun, heq⟩ := Option.map_eq_some_iff.mp h
    simp only [Prod.mk.injEq] at heq
    obtain ⟨rfl, rfl⟩ := heq
    exact ⟨e, P', es', hmove, hrun, rfl⟩
  · exact absurd h (by simp)

theorem run_append {ms' : List (Move ι χ)} {es' : List (Event ι Op χ σ)} {P'' : Pool Op Res ρ σ}
    (h : S.run ms P = some (es, P')) (h' : S.run ms' P' = some (es', P'')) :
    S.run (ms ++ ms') P = some (es ++ es', P'') := by
  induction ms generalizing P es with
  | nil =>
      simp only [run, Option.some.injEq, Prod.mk.injEq] at h
      obtain ⟨rfl, rfl⟩ := h
      exact h'
  | cons m ms ih =>
      obtain ⟨e, Q, es₁, hmove, hrun, rfl⟩ := run_cons h
      simp only [List.cons_append, run, hmove, ih hrun, Option.map_some]

theorem move_states (h : S.move m P = some (e, P')) : e.before = P.state ∧ e.after = P'.state := by
  rcases move_cases h with ⟨_, -, rfl, rfl⟩ | ⟨_, _, _, _, _, _, -, -, -, rfl, rfl⟩ <;>
    exact ⟨rfl, rfl⟩

/-- A run leaves the state that its last event leaves. -/
theorem run_last {past : List (Event ι Op χ σ)} (h : S.run ms P = some (past ++ [e], P')) :
    P'.state = e.after := by
  induction ms generalizing P past with
  | nil => simp [run] at h
  | cons m ms ih =>
      obtain ⟨e', Q, es', hmove, hrun, heq⟩ := run_cons h
      cases past with
      | nil =>
          simp only [List.nil_append, List.cons.injEq] at heq
          obtain ⟨rfl, rfl⟩ := heq
          cases ms with
          | nil =>
              simp only [run, Option.some.injEq, Prod.mk.injEq, true_and] at hrun
              rw [← hrun, (move_states hmove).2]
          | cons m' ms' =>
              obtain ⟨_, _, _, -, -, hnil⟩ := run_cons hrun
              cases hnil
      | cons e₀ past =>
          simp only [List.cons_append, List.cons.injEq] at heq
          exact ih (heq.2 ▸ hrun)

/-- The calls that a run starts come after those that are there. -/
theorem length_le_of_started {s : σ} {i : Nat} {request : ι} (h : S.run ms P = some (es, P'))
    (hmem : .started s i request ∈ es) : P.calls.length ≤ i := by
  induction ms generalizing P es with
  | nil =>
      simp only [run, Option.some.injEq, Prod.mk.injEq] at h
      rw [← h.1] at hmem
      cases hmem
  | cons m ms ih =>
      obtain ⟨e, Q, es', hmove, hrun, rfl⟩ := run_cons h
      rcases move_cases hmove with ⟨request', -, rfl, rfl⟩ | ⟨j, c, op, next, r, s', -, -, -, rfl, rfl⟩
      · rcases List.mem_cons.mp hmem with heq | htail
        · cases heq
          exact Nat.le_refl _
        · have hle := ih hrun htail
          simp only [List.length_append, List.length_singleton] at hle
          omega
      · rcases List.mem_cons.mp hmem with heq | htail
        · cases heq
        · have hle := ih hrun htail
          rwa [List.length_set] at hle

/-- A run that evaluates to a pool with a property. -/
theorem exists_run {f : List (Event ι Op χ σ) × Pool Op Res ρ σ → Bool}
    (h : (S.run ms P).any f = true) : ∃ es P', S.run ms P = some (es, P') ∧ f (es, P') = true := by
  cases hrun : S.run ms P with
  | none => simp [hrun] at h
  | some result => exact ⟨result.1, result.2, rfl, by simpa [hrun] using h⟩

/-- `R` relates the states of a run to the later ones. -/
def Along (R : σ → σ → Prop) (es : List (Event ι Op χ σ)) : Prop :=
  (∀ e ∈ es, R e.before e.after) ∧ es.Pairwise fun e e' => R e.before e'.after

/-- What a transitive relation says of every event, it says of all the states that follow. -/
theorem along_iff {R : σ → σ → Prop} (htrans : ∀ a b c, R a b → R b c → R a c)
    (h : S.run ms P = some (es, P')) : Along R es ↔ ∀ e ∈ es, R e.before e.after := by
  refine ⟨And.left, fun hevents => ⟨hevents, ?_⟩⟩
  suffices hall : es.Pairwise (fun e e' => R e.before e'.after) ∧
      ∀ s, R s P.state → ∀ e ∈ es, R s e.after from hall.1
  induction ms generalizing P es with
  | nil =>
      simp only [run, Option.some.injEq, Prod.mk.injEq] at h
      obtain ⟨rfl, rfl⟩ := h
      exact ⟨List.Pairwise.nil, by simp⟩
  | cons m ms ih =>
      obtain ⟨e, Q, es', hmove, hrun, rfl⟩ := run_cons h
      obtain ⟨hbefore, hafter⟩ := move_states hmove
      have he : R e.before e.after := hevents e (by simp)
      obtain ⟨hpairs, hlater⟩ := ih hrun fun e' h' => hevents e' (by simp [h'])
      rw [← hafter] at hlater
      refine ⟨List.pairwise_cons.mpr ⟨hlater _ he, hpairs⟩, ?_⟩
      intro s hs e' he'
      have hfirst : R s e.after := htrans _ _ _ hs (hbefore ▸ he)
      rcases List.mem_cons.mp he' with heq | hmem
      · rw [heq]
        exact hfirst
      · exact hlater s hfirst e' hmem

/-- Rule of induction along a run. -/
theorem run_induction {motive : Pool Op Res ρ σ → Prop} {allows owes : Event ι Op χ σ → Prop}
    (step : ∀ {m P e P'}, S.move m P = some (e, P') → allows e → motive P →
      motive P' ∧ owes e)
    (h : S.run ms P = some (es, P')) (hobeys : ∀ e ∈ es, allows e) (hP : motive P) :
    motive P' ∧ ∀ e ∈ es, owes e := by
  induction ms generalizing P es with
  | nil =>
      simp only [run, Option.some.injEq, Prod.mk.injEq] at h
      obtain ⟨rfl, rfl⟩ := h
      exact ⟨hP, by simp⟩
  | cons m ms ih =>
      obtain ⟨e, Q, es', hmove, hrun, rfl⟩ := run_cons h
      obtain ⟨hQ, he⟩ := step hmove (hobeys e (by simp)) hP
      obtain ⟨hP', hes⟩ := ih hrun (fun e' h' => hobeys e' (by simp [h'])) hQ
      exact ⟨hP', by simpa using ⟨he, hes⟩⟩

/-- What each event keeps, a run keeps. -/
theorem run_keeps {inv : σ → Prop} (h : S.run ms P = some (es, P'))
    (hevents : ∀ e ∈ es, inv e.before → inv e.after) (hP : inv P.state) : inv P'.state := by
  induction ms generalizing P es with
  | nil =>
      simp only [run, Option.some.injEq, Prod.mk.injEq] at h
      obtain ⟨rfl, rfl⟩ := h
      exact hP
  | cons m ms ih =>
      obtain ⟨e, Q, es', hmove, hrun, rfl⟩ := run_cons h
      obtain ⟨hbefore, hafter⟩ := move_states hmove
      have hQ : inv Q.state := hafter ▸ hevents e (by simp) (hbefore ▸ hP)
      exact ih hrun (fun e' h' => hevents e' (by simp [h'])) hQ

/-- A quantity that grows by one at some events grows by their number along a run. -/
theorem run_counts {measure : σ → Nat} {weigh : Event ι Op χ σ → Bool}
    (h : S.run ms P = some (es, P'))
    (hevents : ∀ e ∈ es, measure e.after = measure e.before + if weigh e then 1 else 0) :
    measure P'.state = measure P.state + es.countP weigh := by
  induction ms generalizing P es with
  | nil =>
      simp only [run, Option.some.injEq, Prod.mk.injEq] at h
      obtain ⟨rfl, rfl⟩ := h
      simp
  | cons m ms ih =>
      obtain ⟨e, Q, es', hmove, hrun, rfl⟩ := run_cons h
      obtain ⟨hbefore, hafter⟩ := move_states hmove
      have htail := ih hrun fun e' h' => hevents e' (by simp [h'])
      have hhead := hevents e (by simp)
      rw [hbefore, hafter] at hhead
      rw [htail, hhead, List.countP_cons]
      omega

/-- Where each event keeps an invariant that makes the state safe if it meets `cond`, and leaves
an unsafe state if it does not, a run stays safe exactly when all its events meet it. -/
theorem run_iff {inv safe : σ → Prop} {cond : Event ι Op χ σ → Prop}
    (h : S.run ms P = some (es, P'))
    (hevents : ∀ e ∈ es, inv e.before → (cond e → inv e.after ∧ safe e.after) ∧
      (safe e.after → cond e)) (hP : inv P.state) :
    (∀ e ∈ es, safe e.after) ↔ ∀ e ∈ es, cond e := by
  induction ms generalizing P es with
  | nil =>
      simp only [run, Option.some.injEq, Prod.mk.injEq] at h
      obtain ⟨rfl, rfl⟩ := h
      simp
  | cons m ms ih =>
      obtain ⟨e, Q, es', hmove, hrun, rfl⟩ := run_cons h
      obtain ⟨hbefore, hafter⟩ := move_states hmove
      obtain ⟨hkeeps, hneeds⟩ := hevents e (by simp) (hbefore ▸ hP)
      have htail := fun hinv => ih hrun (fun e' h' => hevents e' (by simp [h'])) hinv
      simp only [List.mem_cons, forall_eq_or_imp]
      constructor
      · intro h
        have hinv : inv Q.state := hafter ▸ (hkeeps (hneeds h.1)).1
        exact ⟨hneeds h.1, (htail hinv).mp h.2⟩
      · intro h
        have hinv : inv Q.state := hafter ▸ (hkeeps h.1).1
        exact ⟨(hkeeps h.1).2, (htail hinv).mpr h.2⟩

/-! ## Calls with a history -/

/-- `cond` holds of every one of the events that follow the past, given what came before it. -/
def Throughout {α : Type} (cond : List α → α → Prop) : List α → List α → Prop
  | _, [] => True
  | past, e :: es => cond past e ∧ Throughout cond (past ++ [e]) es

instance {α : Type} (cond : List α → α → Prop) [∀ past e, Decidable (cond past e)] :
    (past es : List α) → Decidable (Throughout cond past es)
  | _, [] => .isTrue trivial
  | past, e :: es =>
      have := instDecidableThroughout cond (past ++ [e]) es
      inferInstanceAs (Decidable (_ ∧ _))

theorem throughout_of_forall {α : Type} {cond : α → Prop} {past es : List α}
    (h : ∀ e ∈ es, cond e) : Throughout (fun _ => cond) past es := by
  induction es generalizing past with
  | nil => trivial
  | cons e es ih => exact ⟨h e (by simp), ih fun e' h' => h e' (by simp [h'])⟩

theorem throughout_of_split {α : Type} {cond : List α → α → Prop} {past es : List α}
    (h : ∀ pre e post, es = pre ++ e :: post → cond (past ++ pre) e) : Throughout cond past es := by
  induction es generalizing past with
  | nil => trivial
  | cons e es ih =>
      refine ⟨by simpa using h [] e es rfl, ih fun pre e' post hsplit => ?_⟩
      simpa using h (e :: pre) e' post (by rw [hsplit, List.cons_append])

theorem throughout_append {α : Type} {cond : List α → α → Prop} {past es es' : List α} :
    Throughout cond past (es ++ es') ↔
      Throughout cond past es ∧ Throughout cond (past ++ es) es' := by
  induction es generalizing past with
  | nil => simp [Throughout]
  | cons e es ih => simp [Throughout, ih, and_assoc]

theorem exists_of_throughout {α : Type} {cond : List α → α → Prop} {past es : List α} {e : α}
    (h : Throughout cond past es) (he : e ∈ es) : ∃ past', cond past' e := by
  induction es generalizing past with
  | nil => cases he
  | cons e' es ih =>
      rcases List.mem_cons.mp he with rfl | hrest
      · exact ⟨past, h.1⟩
      · exact ih h.2 hrest

/-- What an event makes of what call `i` knows. -/
def retrace {κ : Type} (S : System ι Op Res χ ρ σ) (start : ι → κ)
    (advance : (op : Op) → Res op → κ → κ) (i : Nat) (k : Option κ) :
    Event ι Op χ σ → Option κ
  | .started _ j request => if j = i then some (start request) else k
  | .performed s j c op _ =>
      if j = i then
        match S.perform j c op s with
        | some (r, _) => k.map (advance op r)
        | none => k
      else k

/-- What call `i` knows after the events of the past: what its request tells it, advanced by the
replies that it got. -/
def trace {κ : Type} (S : System ι Op Res χ ρ σ) (start : ι → κ)
    (advance : (op : Op) → Res op → κ → κ) (i : Nat) (past : List (Event ι Op χ σ)) : Option κ :=
  past.foldl (S.retrace start advance i) none

section Tracked

variable {κ : Type} {inv : List (Event ι Op χ σ) → σ → Prop} {start : ι → κ}
variable {good : Nat → Op → κ → Prop} {can : Nat → ∀ op, Res op → Prop}
variable {advance : (op : Op) → Res op → κ → κ} {post : Nat → ρ → κ → Prop}
variable {allows owes : Event ι Op χ σ → Prop} {past : List (Event ι Op χ σ)}

/-- The calls that were started. -/
def startedCalls (past : List (Event ι Op χ σ)) : List Nat :=
  past.filterMap fun
    | .started _ i _ => some i
    | .performed _ _ _ _ _ => none

theorem retrace_eq_none {e : Event ι Op χ σ} {i : Nat} (h : i ∉ startedCalls [e]) :
    S.retrace start advance i none e = none := by
  cases e with
  | started s j request =>
      have hj : j ≠ i := by
        intro hj
        exact h (by simp [startedCalls, hj])
      simp only [retrace, if_neg hj]
  | performed s j c op s' =>
      simp only [retrace]
      split
      · split <;> rfl
      · rfl

/-- Only a call that was started knows anything. -/
theorem mem_startedCalls {i : Nat} {k : κ} (h : S.trace start advance i past = some k) :
    i ∈ startedCalls past := by
  by_cases hmem : i ∈ startedCalls past
  · exact hmem
  · have hnone : S.trace start advance i past = none := by
      clear h
      induction past with
      | nil => rfl
      | cons e past ih =>
          simp only [startedCalls, List.filterMap_cons] at hmem
          have he : i ∉ startedCalls [e] := by
            intro he
            simp only [startedCalls, List.filterMap_cons] at he
            split at he <;> simp_all
          have hpast : i ∉ startedCalls past := by
            intro hpast
            split at hmem
            · exact hmem hpast
            · exact hmem (List.mem_cons_of_mem _ hpast)
          rw [trace, List.foldl_cons, retrace_eq_none he]
          exact ih hpast
    rw [hnone] at h
    cases h

theorem trace_started_self {s : σ} {i : Nat} {request : ι} :
    S.trace start advance i (past ++ [.started s i request]) = some (start request) := by
  simp [trace, retrace]

theorem trace_started_of_ne {s : σ} {i j : Nat} {request : ι} (h : j ≠ i) :
    S.trace start advance j (past ++ [.started s i request]) = S.trace start advance j past := by
  simp [trace, retrace, Ne.symm h]

theorem trace_performed_self {s s' : σ} {i : Nat} {c : χ} {op : Op} {r : Res op}
    (h : S.perform i c op s = some (r, s')) :
    S.trace start advance i (past ++ [.performed s i c op s']) =
      (S.trace start advance i past).map (advance op r) := by
  simp [trace, retrace, h]

theorem trace_performed_of_ne {s s' : σ} {i j : Nat} {c : χ} {op : Op} (h : j ≠ i) :
    S.trace start advance j (past ++ [.performed s i c op s']) = S.trace start advance j past := by
  simp [trace, retrace, Ne.symm h]

theorem trace_performed_some {s s' : σ} {i : Nat} {c : χ} {op : Op} {r : Res op} {k : κ}
    (h : S.perform i c op s = some (r, s')) (hk : S.trace start advance i past = some k) :
    S.trace start advance i (past ++ [.performed s i c op s']) = some (advance op r k) := by
  rw [trace_performed_self h, hk, Option.map_some]

/-- The call that moves, or one that stays where it is. -/
theorem trace_performed_cases {s s' : σ} {i j : Nat} {c : χ} {op : Op} {r : Res op} {k kj : κ}
    (h : S.perform i c op s = some (r, s')) (hk : S.trace start advance i past = some k)
    (hj : S.trace start advance j (past ++ [.performed s i c op s']) = some kj) :
    (j = i ∧ kj = advance op r k) ∨ (j ≠ i ∧ S.trace start advance j past = some kj) := by
  by_cases heq : j = i
  · subst heq
    rw [trace_performed_some h hk, Option.some.injEq] at hj
    exact .inl ⟨rfl, hj.symm⟩
  · rw [trace_performed_of_ne heq] at hj
    exact .inr ⟨heq, hj⟩

theorem trace_started_cases {s : σ} {i j : Nat} {request : ι} {kj : κ}
    (hj : S.trace start advance j (past ++ [.started s i request]) = some kj) :
    (j = i ∧ kj = start request) ∨ (j ≠ i ∧ S.trace start advance j past = some kj) := by
  by_cases heq : j = i
  · subst heq
    rw [trace_started_self, Option.some.injEq] at hj
    exact .inl ⟨rfl, hj.symm⟩
  · rw [trace_started_of_ne heq] at hj
    exact .inr ⟨heq, hj⟩

/-- A part of what a call knows that its requests and its replies settle by themselves. -/
theorem trace_map {κ' : Type} {start' : ι → κ'} {advance' : (op : Op) → Res op → κ' → κ'}
    {f : κ' → κ} (hstart : ∀ request, f (start' request) = start request)
    (hadvance : ∀ op r k, f (advance' op r k) = advance op r (f k)) (i : Nat) :
    S.trace start advance i past = (S.trace start' advance' i past).map f := by
  have hstep : ∀ (k : Option κ') (e : Event ι Op χ σ),
      S.retrace start advance i (k.map f) e = (S.retrace start' advance' i k e).map f := by
    intro k e
    cases e with
    | started s j request =>
        simp only [retrace]
        split
        · rw [Option.map_some, hstart]
        · rfl
    | performed s j c op s' =>
        simp only [retrace]
        split
        · cases S.perform j c op s with
          | none => rfl
          | some result =>
              cases k with
              | none => rfl
              | some k => exact congrArg some (hadvance op result.1 k).symm
        · rfl
  have hfold : ∀ k : Option κ', past.foldl (S.retrace start advance i) (k.map f) =
      (past.foldl (S.retrace start' advance' i) k).map f := by
    induction past with
    | nil => exact fun _ => rfl
    | cons e past ih =>
        intro k
        rw [List.foldl_cons, List.foldl_cons, hstep, ih]
  exact hfold none

/-- The invariant holds, and every call is right about what it knows. -/
structure Tracks (S : System ι Op Res χ ρ σ) (inv : List (Event ι Op χ σ) → σ → Prop)
    (start : ι → κ) (good : Nat → Op → κ → Prop) (can : Nat → ∀ op, Res op → Prop)
    (advance : (op : Op) → Res op → κ → κ) (post : Nat → ρ → κ → Prop)
    (past : List (Event ι Op χ σ)) (P : Pool Op Res ρ σ) : Prop where
  inv : inv past P.state
  calls : ∀ (i : Nat) (p : Program Op Res ρ), P.calls[i]? = some p →
    ∃ k, S.trace start advance i past = some k ∧
      p.wp (tracked (good i) (can i) advance) (post i) k
  known : ∀ i k, S.trace start advance i past = some k → i < P.calls.length

theorem tracks_init {s : σ} (h : inv [] s) :
    S.Tracks inv start good can advance post [] (Pool.init s) where
  inv := h
  calls _ _ hp := by simp [Pool.init] at hp
  known _ _ hk := by simp [trace] at hk

theorem tracks_move
    (hstarted : ∀ request, m = .start request →
      allows (.started P.state P.calls.length request) →
      (S.program request).wp (tracked (good P.calls.length) (can P.calls.length) advance)
        (post P.calls.length) (start request) ∧
      inv (past ++ [.started P.state P.calls.length request]) P.state ∧
      owes (.started P.state P.calls.length request))
    (hperform : ∀ i c op r s k, m = .run i c →
      S.trace start advance i past = some k → good i op k →
      S.perform i c op P.state = some (r, s) → allows (.performed P.state i c op s) →
      can i op r ∧ inv (past ++ [.performed P.state i c op s]) s ∧
        owes (.performed P.state i c op s))
    (hmove : S.move m P = some (e, P')) (hallows : allows e)
    (hP : S.Tracks inv start good can advance post past P) :
    S.Tracks inv start good can advance post (past ++ [e]) P' ∧ owes e := by
  rcases move_cases hmove with ⟨request, hm, rfl, rfl⟩ |
    ⟨i, c, op, next, r, s, hm, hcall, hstep, rfl, rfl⟩
  · obtain ⟨hprogram, hinv, howes⟩ := hstarted _ hm hallows
    refine ⟨⟨hinv, ?_, ?_⟩, howes⟩
    · intro i p hp
      rcases Nat.lt_trichotomy i P.calls.length with hlt | rfl | hgt
      · rw [List.getElem?_append_left hlt] at hp
        rw [trace_started_of_ne (by omega)]
        exact hP.calls i p hp
      · simp only [List.getElem?_concat_length, Option.some.injEq] at hp
        exact ⟨start request, trace_started_self, hp ▸ hprogram⟩
      · rw [List.getElem?_eq_none (by simp; omega)] at hp
        exact absurd hp (by simp)
    · intro i k hk
      simp only [List.length_append, List.length_singleton]
      by_cases hi : i = P.calls.length
      · omega
      · rw [trace_started_of_ne hi] at hk
        have hlt := hP.known i k hk
        omega
  · obtain ⟨k, hk, hgood, hnext⟩ := hP.calls i _ hcall
    have hlt : i < P.calls.length := (List.getElem?_eq_some_iff.mp hcall).1
    obtain ⟨hcan, hinv', howes⟩ := hperform _ _ _ _ _ _ hm hk hgood hstep hallows
    refine ⟨⟨hinv', ?_, ?_⟩, howes⟩
    · intro j p hp
      by_cases hij : j = i
      · subst hij
        simp only [List.getElem?_set_self hlt, Option.some.injEq] at hp
        rw [trace_performed_self hstep, hk]
        exact ⟨advance op r k, rfl, hp ▸ hnext r hcan⟩
      · rw [List.getElem?_set_ne (Ne.symm hij)] at hp
        rw [trace_performed_of_ne hij]
        exact hP.calls j p hp
    · intro j k' hk'
      rw [List.length_set]
      by_cases hij : j = i
      · omega
      · rw [trace_performed_of_ne hij] at hk'
        exact hP.known j k' hk'

theorem Tracks.unknown (hP : S.Tracks inv start good can advance post past P) {i : Nat}
    (hi : P.calls.length ≤ i) : S.trace start advance i past = none := by
  cases hk : S.trace start advance i past with
  | none => rfl
  | some k =>
      have hlt : i < P.calls.length := hP.known i k hk
      omega

/-- Rule for calls that each keep track of what they were told, in a run whose events meet a
condition that may speak of the events before them. -/
theorem run_tracked_throughout {allows : List (Event ι Op χ σ) → Event ι Op χ σ → Prop}
    (hstarted : ∀ past s i request, (∀ j, i ≤ j → S.trace start advance j past = none) →
      inv past s → allows past (.started s i request) →
      (S.program request).wp (tracked (good i) (can i) advance) (post i) (start request) ∧
        inv (past ++ [.started s i request]) s ∧ owes (.started s i request))
    (hperform : ∀ past s i c op r s' k, S.trace start advance i past = some k → good i op k →
      inv past s → S.perform i c op s = some (r, s') → allows past (.performed s i c op s') →
      can i op r ∧ inv (past ++ [.performed s i c op s']) s' ∧ owes (.performed s i c op s'))
    (hrun : S.run ms P = some (es, P')) (hobeys : Throughout allows past es)
    (hP : S.Tracks inv start good can advance post past P) :
    S.Tracks inv start good can advance post (past ++ es) P' ∧ ∀ e ∈ es, owes e := by
  induction ms generalizing P es past with
  | nil =>
      simp only [run, Option.some.injEq, Prod.mk.injEq] at hrun
      obtain ⟨rfl, rfl⟩ := hrun
      rw [List.append_nil]
      exact ⟨hP, by simp⟩
  | cons m ms ih =>
      obtain ⟨e, Q, es', hmove, hrun', rfl⟩ := run_cons hrun
      obtain ⟨hallows, hobeys'⟩ := hobeys
      have hstep : S.Tracks inv start good can advance post (past ++ [e]) Q ∧ owes e :=
        @tracks_move _ _ _ _ _ _ S P Q e m _ _ start good can advance post (allows past) owes past
          (fun request _ => hstarted _ _ _ request (fun _ => hP.unknown) hP.inv)
          (fun i c op r s k _ hk hgood => hperform past _ i c op r s k hk hgood hP.inv)
          hmove hallows hP
      obtain ⟨hP', hes⟩ := ih hrun' hobeys' hstep.1
      rw [List.append_assoc, List.singleton_append] at hP'
      exact ⟨hP', by simpa using ⟨hstep.2, hes⟩⟩

/-- The case of a condition on single events. -/
theorem run_tracked
    (hstarted : ∀ past s i request, (∀ j, i ≤ j → S.trace start advance j past = none) →
      inv past s → allows (.started s i request) →
      (S.program request).wp (tracked (good i) (can i) advance) (post i) (start request) ∧
        inv (past ++ [.started s i request]) s ∧ owes (.started s i request))
    (hperform : ∀ past s i c op r s' k, S.trace start advance i past = some k → good i op k →
      inv past s → S.perform i c op s = some (r, s') → allows (.performed s i c op s') →
      can i op r ∧ inv (past ++ [.performed s i c op s']) s' ∧ owes (.performed s i c op s'))
    (hrun : S.run ms P = some (es, P')) (hobeys : ∀ e ∈ es, allows e)
    (hP : S.Tracks inv start good can advance post past P) :
    S.Tracks inv start good can advance post (past ++ es) P' ∧ ∀ e ∈ es, owes e :=
  run_tracked_throughout hstarted hperform hrun (throughout_of_forall hobeys) hP

/-- What no reply changes in what a call knows is what its request told it. -/
theorem trace_of_started {τ : Type} {f : κ → τ} (hf : ∀ op r k, f (advance op r k) = f k) {s₀ : σ}
    (hrun : S.run ms (Pool.init s₀) = some (es, P)) {s : σ} {i : Nat} {request : ι}
    (h : .started s i request ∈ es) :
    ∃ k, S.trace start advance i es = some k ∧ f k = f (start request) := by
  let told : List (Event ι Op χ σ) → σ → Prop := fun past _ => ∀ s i request,
    .started s i request ∈ past →
      ∃ k, S.trace start advance i past = some k ∧ f k = f (start request)
  have htracks : S.Tracks told start (fun _ _ _ => True) (fun _ _ _ => True) advance
      (fun _ _ _ => True) ([] ++ es) P ∧ ∀ e ∈ es, True := by
    refine run_tracked ?_ ?_ hrun (fun _ _ => trivial) (tracks_init ?_)
    · intro past s i request hnew htold _
      refine ⟨Program.wp_tracked_true _ _, fun s' j request' hmem => ?_, trivial⟩
      rcases List.mem_append.mp hmem with hold | hlast
      · obtain ⟨k, hk, hkept⟩ := htold s' j request' hold
        have hne : j ≠ i := by
          intro heq
          rw [hnew j (Nat.le_of_eq heq.symm)] at hk
          cases hk
        exact ⟨k, (trace_started_of_ne hne).trans hk, hkept⟩
      · cases List.mem_singleton.mp hlast
        exact ⟨_, trace_started_self, rfl⟩
    · intro past s i c op r s' k hk _ htold hperform _
      refine ⟨trivial, fun s₁ j request' hmem => ?_, trivial⟩
      rcases List.mem_append.mp hmem with hold | hlast
      · obtain ⟨kj, hj, hkept⟩ := htold s₁ j request' hold
        by_cases heq : j = i
        · subst heq
          exact ⟨_, trace_performed_some hperform hj, (hf op r kj).trans hkept⟩
        · exact ⟨kj, (trace_performed_of_ne heq).trans hj, hkept⟩
      · cases List.mem_singleton.mp hlast
    · exact fun _ _ _ hmem => absurd hmem List.not_mem_nil
  exact htracks.1.inv s i request h

/-- `cond` holds of every step, given what came before it and the pool in front of it. -/
def Obeys (S : System ι Op Res χ ρ σ)
    (cond : List (Event ι Op χ σ) → Pool Op Res ρ σ → Event ι Op χ σ → Prop) :
    List (Event ι Op χ σ) → Pool Op Res ρ σ → List (Move ι χ) → Prop
  | _, _, [] => True
  | past, P, m :: ms =>
      match S.move m P with
      | some (e, P') => cond past P e ∧ S.Obeys cond (past ++ [e]) P' ms
      | none => True

instance decidableObeys (S : System ι Op Res χ ρ σ)
    (cond : List (Event ι Op χ σ) → Pool Op Res ρ σ → Event ι Op χ σ → Prop)
    [∀ past P e, Decidable (cond past P e)] (past : List (Event ι Op χ σ))
    (P : Pool Op Res ρ σ) : (ms : List (Move ι χ)) → Decidable (S.Obeys cond past P ms)
  | [] => .isTrue trivial
  | m :: ms =>
      match h : S.move m P with
      | some (e, P') =>
          have := S.decidableObeys cond (past ++ [e]) P' ms
          decidable_of_iff (cond past P e ∧ S.Obeys cond (past ++ [e]) P' ms) (by simp [Obeys, h])
      | none => .isTrue (by simp [Obeys, h])

/-- The rule for an invariant of the pools, under a condition on the pools. -/
theorem run_tracked_pools
    {allows : List (Event ι Op χ σ) → Pool Op Res ρ σ → Event ι Op χ σ → Prop}
    {inv : List (Event ι Op χ σ) → Pool Op Res ρ σ → Prop}
    (hprogram : ∀ i request, (S.program request).wp (tracked (good i) (can i) advance) (post i)
      (start request))
    (hcan : ∀ i c op s r s', S.perform i c op s = some (r, s') → can i op r)
    (hstarted : ∀ past P request, S.trace start advance P.calls.length past = none → inv past P →
      allows past P (.started P.state P.calls.length request) →
      inv (past ++ [.started P.state P.calls.length request])
        ⟨P.state, P.calls ++ [S.program request]⟩)
    (hperform : ∀ past P i c op next r s k, P.calls[i]? = some (.await op next) →
      S.trace start advance i past = some k → good i op k → S.perform i c op P.state = some (r, s) →
      inv past P → allows past P (.performed P.state i c op s) →
      inv (past ++ [.performed P.state i c op s]) ⟨s, P.calls.set i (next r)⟩)
    (hrun : S.run ms P = some (es, P')) (hobeys : S.Obeys allows past P ms)
    (hP : S.Tracks (fun _ _ => True) start good can advance post past P) (hinv : inv past P) :
    S.Tracks (fun _ _ => True) start good can advance post (past ++ es) P' ∧ inv (past ++ es) P' := by
  induction ms generalizing P es past with
  | nil =>
      simp only [run, Option.some.injEq, Prod.mk.injEq] at hrun
      obtain ⟨rfl, rfl⟩ := hrun
      rw [List.append_nil]
      exact ⟨hP, hinv⟩
  | cons m ms ih =>
      obtain ⟨e, Q, es', hmove, hrun', rfl⟩ := run_cons hrun
      simp only [Obeys, hmove] at hobeys
      obtain ⟨hallows, hobeys'⟩ := hobeys
      have htracks : S.Tracks (fun _ _ => True) start good can advance post (past ++ [e]) Q := by
        have hstep := @tracks_move _ _ _ _ _ _ S P Q e m _ (fun _ _ => True) start good can advance
          post (fun _ => True) (fun _ => True) past
          (fun request _ _ => ⟨hprogram _ request, trivial, trivial⟩)
          (fun i c op r s k _ _ _ hperformed _ => ⟨hcan i c op _ r s hperformed, trivial, trivial⟩)
          hmove trivial hP
        exact hstep.1
      have hinv' : inv (past ++ [e]) Q := by
        rcases move_cases hmove with ⟨request, hm, rfl, rfl⟩ |
          ⟨i, c, op, next, r, s, hm, hcall, hstep, rfl, rfl⟩
        · exact hstarted past P request (hP.unknown (Nat.le_refl _)) hinv hallows
        · obtain ⟨k, hk, hgood, -⟩ := hP.calls i _ hcall
          exact hperform past P i c op next r s k hcall hk hgood hstep hinv hallows
      obtain ⟨hP', hfinal⟩ := ih hrun' hobeys' htracks hinv'
      rw [List.append_assoc, List.singleton_append] at hP' hfinal
      exact ⟨hP', hfinal⟩

end Tracked

/-- An invariant that the good operations keep holds along every run whose calls only await
good operations. -/
theorem run_ops {good : Op → Prop} {can : ∀ op, Res op → Prop} {inv : σ → Prop}
    {allows owes : Event ι Op χ σ → Prop}
    (hstarted : ∀ s i request, inv s → allows (.started s i request) →
      (S.program request).Emits good can ∧ owes (.started s i request))
    (hperform : ∀ s i c op r s', good op → inv s → S.perform i c op s = some (r, s') →
      allows (.performed s i c op s') → can op r ∧ inv s' ∧ owes (.performed s i c op s'))
    (hrun : S.run ms P = some (es, P')) (hobeys : ∀ e ∈ es, allows e) (hinv : inv P.state)
    (hcalls : ∀ p ∈ P.calls, p.Emits good can) :
    inv P'.state ∧ ∀ e ∈ es, owes e := by
  suffices step : ∀ {m P e P'}, S.move m P = some (e, P') → allows e →
      (inv P.state ∧ ∀ p ∈ P.calls, p.Emits good can) →
      (inv P'.state ∧ ∀ p ∈ P'.calls, p.Emits good can) ∧ owes e by
    obtain ⟨hP', howes⟩ := run_induction step hrun hobeys ⟨hinv, hcalls⟩
    exact ⟨hP'.1, howes⟩
  intro m P e P' hmove hallows ⟨hinv, hcalls⟩
  rcases move_cases hmove with ⟨request, -, rfl, rfl⟩ |
    ⟨i, c, op, next, r, s, -, hcall, hstep, rfl, rfl⟩
  · obtain ⟨hprogram, howes⟩ := hstarted _ _ _ hinv hallows
    refine ⟨⟨hinv, ?_⟩, howes⟩
    intro p hp
    rcases List.mem_append.mp hp with hold | hnew
    · exact hcalls p hold
    · rw [List.mem_singleton.mp hnew]
      exact hprogram
  · obtain ⟨hgood, hnext⟩ := hcalls _ (List.mem_of_getElem? hcall)
    obtain ⟨hcan, hinv', howes⟩ := hperform _ _ _ _ _ _ hgood hinv hstep hallows
    refine ⟨⟨hinv', ?_⟩, howes⟩
    intro p hp
    rcases List.mem_or_eq_of_mem_set hp with hold | rfl
    · exact hcalls p hold
    · exact hnext r hcan

/-! ## Serial runs -/

/-- No call but the one numbered `i` is running. -/
def Alone (i : Nat) (P : Pool Op Res ρ σ) : Prop :=
  ∀ (j : Nat) (q : Program Op Res ρ), j ≠ i → P.calls[j]? = some q → q.isDone = true

theorem alone_of_idle (h : P.idle = true) (i : Nat) : Alone i P :=
  fun _ q _ hq => List.all_eq_true.mp h q (List.mem_of_getElem? hq)

/-- The move of a serial run: a start while all calls are done, or a step while all others are. -/
def Unhurried : Move ι χ → Pool Op Res ρ σ → Prop
  | .start _, P => P.idle = true
  | .run i _, P => Alone i P

theorem serial_cons (h : S.serial (m :: ms) P = true) (hmove : S.move m P = some (e, P')) :
    (∀ request, m = .start request → P.idle = true) ∧ S.serial ms P' = true := by
  simp only [serial, hmove, Bool.and_eq_true] at h
  refine ⟨?_, h.2⟩
  intro request hm
  subst hm
  exact h.1

/-- Where at most one call runs, a serial move keeps it so. -/
theorem unhurried_of_alone (hmove : S.move m P = some (e, P'))
    (hserial : ∀ request, m = .start request → P.idle = true) (halone : ∃ i, Alone i P) :
    Unhurried m P ∧ ∃ i, Alone i P' := by
  rcases move_cases hmove with ⟨request, rfl, rfl, rfl⟩ |
    ⟨i, c, op, next, r, s, rfl, hcall, hstep, rfl, rfl⟩
  · have hidle : P.idle = true := hserial request rfl
    refine ⟨hidle, P.calls.length, ?_⟩
    intro j q hj hq
    rcases Nat.lt_or_gt_of_ne hj with hlt | hgt
    · rw [List.getElem?_append_left hlt] at hq
      exact List.all_eq_true.mp hidle q (List.mem_of_getElem? hq)
    · rw [List.getElem?_eq_none (by simp; omega)] at hq
      exact absurd hq (by simp)
  · obtain ⟨k, hk⟩ := halone
    have hik : i = k := by
      by_cases hne : i = k
      · exact hne
      · have hdone := hk i _ hne hcall
        simp [Program.isDone] at hdone
    subst hik
    refine ⟨hk, i, ?_⟩
    intro j q hj hq
    rw [List.getElem?_set_ne (Ne.symm hj)] at hq
    exact hk j q hj hq

/-- Rule of induction along a serial run. -/
theorem serial_induction {motive : Pool Op Res ρ σ → Prop} {allows owes : Event ι Op χ σ → Prop}
    (step : ∀ {m P e P'}, S.move m P = some (e, P') → Unhurried m P → allows e → motive P →
      motive P' ∧ owes e)
    (hrun : S.run ms P = some (es, P')) (hserial : S.serial ms P = true)
    (hobeys : ∀ e ∈ es, allows e) (hidle : P.idle = true) (hP : motive P) :
    motive P' ∧ ∀ e ∈ es, owes e := by
  have halone : ∃ i, Alone i P := ⟨0, alone_of_idle hidle 0⟩
  clear hidle
  induction ms generalizing P es with
  | nil =>
      simp only [run, Option.some.injEq, Prod.mk.injEq] at hrun
      obtain ⟨rfl, rfl⟩ := hrun
      exact ⟨hP, by simp⟩
  | cons m ms ih =>
      obtain ⟨e, Q, es', hmove, hrun', rfl⟩ := run_cons hrun
      obtain ⟨hstart, hserial'⟩ := serial_cons hserial hmove
      obtain ⟨hunhurried, hQalone⟩ := unhurried_of_alone hmove hstart halone
      obtain ⟨hQ, he⟩ := step hmove hunhurried (hobeys e (by simp)) hP
      obtain ⟨hP', hes⟩ := ih hrun' hserial' (fun e' h' => hobeys e' (by simp [h'])) hQ hQalone
      exact ⟨hP', by simpa using ⟨he, hes⟩⟩

/-- What a call that is done knows satisfies its postcondition. -/
theorem Tracks.post_of_done {κ : Type} {inv : List (Event ι Op χ σ) → σ → Prop} {start : ι → κ}
    {good : Nat → Op → κ → Prop} {can : Nat → ∀ op, Res op → Prop}
    {advance : (op : Op) → Res op → κ → κ} {post : Nat → ρ → κ → Prop}
    {past : List (Event ι Op χ σ)} (hP : S.Tracks inv start good can advance post past P)
    {i : Nat} {k : κ} (hk : S.trace start advance i past = some k)
    (hdone : ∀ p, P.calls[i]? = some p → p.isDone = true) : ∃ a, post i a k := by
  have hlt : i < P.calls.length := hP.known i k hk
  obtain ⟨k', hk', hwp⟩ := hP.calls i _ (List.getElem?_eq_getElem hlt)
  have hdone := hdone _ (List.getElem?_eq_getElem hlt)
  rw [hk, Option.some.injEq] at hk'
  subst hk'
  cases hcall : P.calls[i] with
  | done a => exact ⟨a, (hcall ▸ hwp : (Program.done a : Program Op Res ρ).wp _ _ _)⟩
  | await op next => simp [hcall, Program.isDone] at hdone

/-- No call but the last one is running. -/
def Settled (P : Pool Op Res ρ σ) : Prop :=
  ∀ (j : Nat) (q : Program Op Res ρ), P.calls[j]? = some q → j + 1 < P.calls.length →
    q.isDone = true

theorem settled_of_idle (h : P.idle = true) : Settled P :=
  fun _ q hq _ => List.all_eq_true.mp h q (List.mem_of_getElem? hq)

theorem settled_move (hmove : S.move m P = some (e, P'))
    (hserial : ∀ request, m = .start request → P.idle = true) (h : Settled P) : Settled P' := by
  rcases move_cases hmove with ⟨request, rfl, rfl, rfl⟩ |
    ⟨i, c, op, next, r, s, rfl, hcall, hstep, rfl, rfl⟩
  · intro j q hq hj
    simp only [List.length_append, List.length_singleton] at hj
    rw [List.getElem?_append_left (by omega)] at hq
    exact List.all_eq_true.mp (hserial request rfl) q (List.mem_of_getElem? hq)
  · intro j q hq hj
    rw [List.length_set] at hj
    have hne : i ≠ j := by
      intro hij
      subst hij
      have hdone := h i _ hcall hj
      simp [Program.isDone] at hdone
    rw [List.getElem?_set_ne hne] at hq
    exact h j q hq hj

/-- The rule for calls that keep track of what they were told, in a serial run: while the last call
runs the others have nothing but their postconditions. -/
theorem run_serial_tracked {κ : Type} {inv : List (Event ι Op χ σ) → σ → Prop} {start : ι → κ}
    {good : Nat → Op → κ → Prop} {can : Nat → ∀ op, Res op → Prop}
    {advance : (op : Op) → Res op → κ → κ} {post : Nat → ρ → κ → Prop}
    {allows owes : Event ι Op χ σ → Prop} {past : List (Event ι Op χ σ)}
    (hstarted : ∀ past s i request, (∀ j, i ≤ j → S.trace start advance j past = none) →
      inv past s → (∀ j k, S.trace start advance j past = some k → ∃ a, post j a k) →
      allows (.started s i request) →
      (S.program request).wp (tracked (good i) (can i) advance) (post i) (start request) ∧
        inv (past ++ [.started s i request]) s ∧ owes (.started s i request))
    (hperform : ∀ past s i c op r s' k, S.trace start advance i past = some k → good i op k →
      inv past s → (∀ j k, j ≠ i → S.trace start advance j past = some k → ∃ a, post j a k) →
      (∀ j, i < j → S.trace start advance j past = none) →
      S.perform i c op s = some (r, s') → allows (.performed s i c op s') →
      can i op r ∧ inv (past ++ [.performed s i c op s']) s' ∧ owes (.performed s i c op s'))
    (hrun : S.run ms P = some (es, P')) (hserial : S.serial ms P = true)
    (hobeys : ∀ e ∈ es, allows e) (hidle : P.idle = true)
    (hP : S.Tracks inv start good can advance post past P) :
    S.Tracks inv start good can advance post (past ++ es) P' ∧ ∀ e ∈ es, owes e := by
  have hsettled : Settled P := settled_of_idle hidle
  clear hidle
  induction ms generalizing P es past with
  | nil =>
      simp only [run, Option.some.injEq, Prod.mk.injEq] at hrun
      obtain ⟨rfl, rfl⟩ := hrun
      rw [List.append_nil]
      exact ⟨hP, by simp⟩
  | cons m ms ih =>
      obtain ⟨e, Q, es', hmove, hrun', rfl⟩ := run_cons hrun
      obtain ⟨hstart, hserial'⟩ := serial_cons hserial hmove
      have hQsettled : Settled Q := settled_move hmove hstart hsettled
      have hstep : S.Tracks inv start good can advance post (past ++ [e]) Q ∧ owes e := by
        refine tracks_move ?_ ?_ hmove (hobeys e (by simp)) hP
        · intro request hm
          refine hstarted _ _ _ request (fun _ => hP.unknown) hP.inv fun j k hk => ?_
          refine hP.post_of_done hk fun p hp => ?_
          exact List.all_eq_true.mp (hstart request hm) p (List.mem_of_getElem? hp)
        · intro i c op r s k hm hk hgood
          subst hm
          rcases move_cases hmove with ⟨request, hm, -, -⟩ | ⟨i', _, _, _, _, _, hm, hcall, -, -, -⟩
          · cases hm
          · cases hm
            -- the call that moves is running, so it is the last one
            have hlt : i < P.calls.length := (List.getElem?_eq_some_iff.mp hcall).1
            have hlast : i + 1 = P.calls.length := by
              by_cases hless : i + 1 < P.calls.length
              · have hdone := hsettled i _ hcall hless
                simp [Program.isDone] at hdone
              · omega
            refine hperform past _ i c op r s k hk hgood hP.inv (fun j k' hj hk' => ?_)
              fun j hj => hP.unknown (by omega)
            have hjlt : j < P.calls.length := hP.known j k' hk'
            exact hP.post_of_done hk' fun p hp => hsettled j p hp (by omega)
      obtain ⟨hQ, he⟩ := hstep
      obtain ⟨hP', hes⟩ := ih hrun' hserial' (fun e' h' => hobeys e' (by simp [h'])) hQ hQsettled
      rw [List.append_assoc, List.singleton_append] at hP'
      exact ⟨hP', by simpa using ⟨he, hes⟩⟩

/-- An operation of call `i` while no other call runs. -/
def alone (S : System ι Op Res χ ρ σ) (allows owes : Event ι Op χ σ → Prop) (i : Nat) :
    Spec Op Res σ := fun op s Q =>
  ∀ c r s', S.perform i c op s = some (r, s') → allows (.performed s i c op s') →
    owes (.performed s i c op s') ∧ Q r s'

instance (allows owes : Event ι Op χ σ → Prop) (i : Nat) :
    (S.alone allows owes i).Monotone where
  mono _ _ _ _ hQ h c r s' hperform hallows :=
    ⟨(h c r s' hperform hallows).1, hQ r s' (h c r s' hperform hallows).2⟩

/-- An operation of call `i` while the other calls do no more than `R`. -/
def amid (S : System ι Op Res χ ρ σ) (R : σ → σ → Prop) (allows owes : Event ι Op χ σ → Prop)
    (i : Nat) : Spec Op Res σ := fun op s Q =>
  ∀ s₁, R s s₁ → S.alone allows owes i op s₁ Q

instance (R : σ → σ → Prop) (allows owes : Event ι Op χ σ → Prop) (i : Nat) :
    (S.amid R allows owes i).Monotone where
  mono op _ Q Q' hQ h s₁ hR := Spec.Monotone.mono op s₁ Q Q' hQ (h s₁ hR)

/-- No request but a passive one is started while a call is running. -/
def inTurn (S : System ι Op Res χ ρ σ) (passive : ι → Bool) :
    List (Move ι χ) → Pool Op Res ρ σ → Bool
  | [], _ => true
  | m :: ms, P =>
      (match m with
        | .start request => passive request || P.idle
        | .run _ _ => true) &&
      match S.move m P with
      | some (_, P') => S.inTurn passive ms P'
      | none => true

section Turns

variable {R : σ → σ → Prop} {passive : ι → Bool} {quiet : Op → Prop}
variable {allows owes : Event ι Op χ σ → Prop} {inv : σ → Prop} {good : ρ → σ → Prop}

theorem inTurn_cons (h : S.inTurn passive (m :: ms) P = true) (hmove : S.move m P = some (e, P')) :
    (∀ request, m = .start request → passive request = false → P.idle = true) ∧
      S.inTurn passive ms P' = true := by
  simp only [inTurn, hmove, Bool.and_eq_true] at h
  refine ⟨?_, h.2⟩
  intro request hm hpassive
  subst hm
  simpa [hpassive] using h.1

theorem inTurn_of_serial (h : S.serial ms P = true) : S.inTurn passive ms P = true := by
  induction ms generalizing P with
  | nil => rfl
  | cons m ms ih =>
      simp only [serial, Bool.and_eq_true] at h
      simp only [inTurn, Bool.and_eq_true]
      refine ⟨?_, ?_⟩
      · cases m with
        | start request => exact Bool.or_eq_true_iff.mpr (.inr h.1)
        | run i c => rfl
      · cases hmove : S.move m P with
        | none => rfl
        | some moved =>
            rw [hmove] at h
            exact ih h.2

/-- A call that does only what is quiet, and whose result is good whatever the state is. -/
def Idles (quiet : Op → Prop) (good : ρ → σ → Prop) (p : Program Op Res ρ) : Prop :=
  p.wp (emits quiet fun _ _ => True) (fun a _ => ∀ s, good a s) ()

/-- What the passive calls do, whoever they interrupt. -/
structure Passes (S : System ι Op Res χ ρ σ) (R : σ → σ → Prop) (passive : ι → Bool)
    (quiet : Op → Prop) (allows owes : Event ι Op χ σ → Prop) (good : ρ → σ → Prop) : Prop where
  refl : ∀ s, R s s
  trans : ∀ s s' s'', R s s' → R s' s'' → R s s''
  performed : ∀ s i c op r s', quiet op → S.perform i c op s = some (r, s') →
    allows (.performed s i c op s') → R s s' ∧ owes (.performed s i c op s')
  started : ∀ s i request, passive request = true → owes (.started s i request)
  program : ∀ request, passive request = true → Idles quiet good (S.program request)

/-- The invariant holds, or the call whose turn it is will restore it. What else runs idles, and
what has ended has a good result. -/
structure Delivers (S : System ι Op Res χ ρ σ) (R : σ → σ → Prop) (quiet : Op → Prop)
    (allows owes : Event ι Op χ σ → Prop) (inv : σ → Prop) (good : ρ → σ → Prop)
    (P : Pool Op Res ρ σ) : Prop where
  turn : ∃ i, (P.calls[i]? = none → inv P.state) ∧
    (∀ p, P.calls[i]? = some p →
      p.wp (S.amid R allows owes i) (fun a s => inv s ∧ good a s) P.state) ∧
    ∀ (j : Nat) (q : Program Op Res ρ), j ≠ i → P.calls[j]? = some q → q.isDone = false →
      Idles quiet good q
  done : ∀ (i : Nat) (a : ρ), P.calls[i]? = some (.done a) → good a P.state

theorem delivers_init {s : σ} (h : inv s) :
    S.Delivers R quiet allows owes inv good (Pool.init s) where
  turn := ⟨0, fun _ => h, fun _ hp => by simp [Pool.init] at hp, fun _ _ _ hq => by
    simp [Pool.init] at hq⟩
  done _ _ h := by simp [Pool.init] at h

theorem Delivers.idle (h : S.Delivers R quiet allows owes inv good P) (hidle : P.idle = true) :
    inv P.state := by
  obtain ⟨i, hnone, hsome, -⟩ := h.turn
  cases hcall : P.calls[i]? with
  | none => exact hnone hcall
  | some p =>
      have hdone : p.isDone = true := List.all_eq_true.mp hidle p (List.mem_of_getElem? hcall)
      cases p with
      | done a => exact (hsome _ hcall).1
      | await op next => cases hdone

theorem wp_amid {τ : Type} {post : τ → σ → Prop} {i : Nat}
    (htrans : ∀ s s' s'', R s s' → R s' s'' → R s s'')
    (hpost : ∀ a s s', R s s' → post a s → post a s') {p : Program Op Res τ} {s s' : σ}
    (hR : R s s') (h : p.wp (S.amid R allows owes i) post s) :
    p.wp (S.amid R allows owes i) post s' := by
  cases p with
  | done a => exact hpost a s s' hR h
  | await op next => exact fun s₁ hR₁ => h s₁ (htrans s s' s₁ hR hR₁)

/-- A call that has just been started has the turn if its request is not a passive one. -/
theorem Delivers.start {request : ι} (hpasses : S.Passes R passive quiet allows owes good)
    (hstarted : passive request = false → inv P.state → (S.program request).wp
      (S.amid R allows owes P.calls.length) (fun a s => inv s ∧ good a s) P.state)
    (hturn : passive request = false → P.idle = true)
    (hP : S.Delivers R quiet allows owes inv good P) :
    S.Delivers R quiet allows owes inv good ⟨P.state, P.calls ++ [S.program request]⟩ := by
  have hcases : ∀ (j : Nat) (q : Program Op Res ρ),
      (P.calls ++ [S.program request])[j]? = some q →
        P.calls[j]? = some q ∨ (j = P.calls.length ∧ S.program request = q) := by
    intro j q hq
    rcases Nat.lt_trichotomy j P.calls.length with hlt | rfl | hgt
    · rw [List.getElem?_append_left hlt] at hq
      exact .inl hq
    · rw [List.getElem?_concat_length, Option.some.injEq] at hq
      exact .inr ⟨rfl, hq⟩
    · rw [List.getElem?_eq_none (by simp; omega)] at hq
      cases hq
  cases hpassive : passive request with
  | false =>
      have hidle := hturn hpassive
      have hnew := hstarted hpassive (hP.idle hidle)
      refine ⟨⟨P.calls.length, ?_, ?_, ?_⟩, ?_⟩
      · intro hnone
        rw [List.getElem?_concat_length] at hnone
        cases hnone
      · intro p hp
        rw [List.getElem?_concat_length, Option.some.injEq] at hp
        exact hp ▸ hnew
      · intro j q hj hq hrunning
        rcases hcases j q hq with hold | ⟨hlast, -⟩
        · rw [List.all_eq_true.mp hidle q (List.mem_of_getElem? hold)] at hrunning
          cases hrunning
        · exact absurd hlast hj
      · intro j a hq
        rcases hcases j _ hq with hold | ⟨-, hprogram⟩
        · exact hP.done j a hold
        · rw [hprogram] at hnew
          exact hnew.2
  | true =>
      have hidles := hpasses.program request hpassive
      refine ⟨?_, ?_⟩
      · obtain ⟨i, hnone, hsome, hothers⟩ := hP.turn
        have hquiet : ∀ (j : Nat) (q : Program Op Res ρ), (j < P.calls.length → j ≠ i) →
            (P.calls ++ [S.program request])[j]? = some q → q.isDone = false →
              Idles quiet good q := by
          intro j q hj hq hrunning
          rcases hcases j q hq with hold | ⟨-, hprogram⟩
          · exact hothers j q (hj (List.getElem?_eq_some_iff.mp hold).1) hold hrunning
          · exact hprogram ▸ hidles
        by_cases hlt : i < P.calls.length
        · refine ⟨i, ?_, ?_, fun j q hj => hquiet j q fun _ => hj⟩
          · rw [List.getElem?_append_left hlt]
            exact hnone
          · rw [List.getElem?_append_left hlt]
            exact hsome
        · -- nobody has had the turn yet
          have hinv := hnone (List.getElem?_eq_none (by omega))
          refine ⟨P.calls.length + 1, fun _ => hinv, ?_, fun j q _ => hquiet j q fun _ => by omega⟩
          intro p hp
          rw [List.getElem?_eq_none (by simp)] at hp
          cases hp
      · intro j a hq
        rcases hcases j _ hq with hold | ⟨-, hprogram⟩
        · exact hP.done j a hold
        · rw [hprogram] at hidles
          exact hidles P.state

/-- An operation belongs to the call whose turn it is, or it is quiet. -/
theorem Delivers.perform {i : Nat} {c : χ} {op : Op} {next : Res op → Program Op Res ρ} {r : Res op}
    {s : σ} (hpasses : S.Passes R passive quiet allows owes good)
    (hinv : ∀ s s', R s s' → inv s → inv s') (hgood : ∀ a s s', R s s' → good a s → good a s')
    (hkeeps : ∀ a s i c op s', owes (.performed s i c op s') → good a s → good a s')
    (hcall : P.calls[i]? = some (.await op next)) (hstep : S.perform i c op P.state = some (r, s))
    (hallows : allows (.performed P.state i c op s))
    (hP : S.Delivers R quiet allows owes inv good P) :
    S.Delivers R quiet allows owes inv good ⟨s, P.calls.set i (next r)⟩ ∧
      owes (.performed P.state i c op s) := by
  have hlt : i < P.calls.length := (List.getElem?_eq_some_iff.mp hcall).1
  have hself : (P.calls.set i (next r))[i]? = some (next r) := List.getElem?_set_self hlt
  have hother : ∀ j, j ≠ i → (P.calls.set i (next r))[j]? = P.calls[j]? :=
    fun j hj => List.getElem?_set_ne (Ne.symm hj)
  obtain ⟨k, hnone, hsome, hothers⟩ := hP.turn
  by_cases hik : i = k
  · subst hik
    obtain ⟨howes, hnext⟩ := hsome _ hcall P.state (hpasses.refl _) c r s hstep hallows
    refine ⟨⟨⟨i, ?_, ?_, ?_⟩, ?_⟩, howes⟩
    · intro hnone
      rw [hself] at hnone
      cases hnone
    · intro p hp
      rw [hself, Option.some.injEq] at hp
      exact hp ▸ hnext
    · intro j q hj hq
      rw [hother j hj] at hq
      exact hothers j q hj hq
    · intro j a hq
      by_cases hj : j = i
      · subst hj
        rw [hself, Option.some.injEq] at hq
        rw [hq] at hnext
        exact hnext.2
      · rw [hother j hj] at hq
        exact hkeeps a _ _ _ _ _ howes (hP.done j a hq)
  · obtain ⟨hquiet, hnext⟩ := hothers i _ hik hcall rfl
    obtain ⟨hR, howes⟩ := hpasses.performed _ _ _ _ _ _ hquiet hstep hallows
    have hidles : Idles quiet good (next r) := hnext r trivial
    refine ⟨⟨⟨k, ?_, ?_, ?_⟩, ?_⟩, howes⟩
    · intro hk
      rw [hother k (Ne.symm hik)] at hk
      exact hinv _ _ hR (hnone hk)
    · intro p hp
      rw [hother k (Ne.symm hik)] at hp
      refine wp_amid hpasses.trans ?_ hR (hsome p hp)
      exact fun a s s' hR h => ⟨hinv s s' hR h.1, hgood a s s' hR h.2⟩
    · intro j q hj hq hrunning
      by_cases hji : j = i
      · subst hji
        rw [hself, Option.some.injEq] at hq
        exact hq ▸ hidles
      · rw [hother j hji] at hq
        exact hothers j q hj hq hrunning
    · intro j a hq
      by_cases hji : j = i
      · subst hji
        rw [hself, Option.some.injEq] at hq
        rw [hq] at hidles
        exact hidles s
      · rw [hother j hji] at hq
        exact hgood a _ _ hR (hP.done j a hq)

/-- The rule for the results of calls that take turns. -/
theorem run_delivers (hpasses : S.Passes R passive quiet allows owes good)
    (hinv : ∀ s s', R s s' → inv s → inv s') (hgood : ∀ a s s', R s s' → good a s → good a s')
    (hkeeps : ∀ a s i c op s', owes (.performed s i c op s') → good a s → good a s')
    (hstarted : ∀ s i request, passive request = false → inv s → allows (.started s i request) →
      (S.program request).wp (S.amid R allows owes i) (fun a s => inv s ∧ good a s) s ∧
        owes (.started s i request))
    (hrun : S.run ms P = some (es, P')) (hturn : S.inTurn passive ms P = true)
    (hobeys : ∀ e ∈ es, allows e) (hP : S.Delivers R quiet allows owes inv good P) :
    S.Delivers R quiet allows owes inv good P' ∧ ∀ e ∈ es, owes e := by
  induction ms generalizing P es with
  | nil =>
      simp only [run, Option.some.injEq, Prod.mk.injEq] at hrun
      obtain ⟨rfl, rfl⟩ := hrun
      exact ⟨hP, by simp⟩
  | cons m ms ih =>
      obtain ⟨e, Q, es', hmove, hrun', rfl⟩ := run_cons hrun
      obtain ⟨hstart, hturn'⟩ := inTurn_cons hturn hmove
      have hallows : allows e := hobeys e (by simp)
      have hstep : S.Delivers R quiet allows owes inv good Q ∧ owes e := by
        rcases move_cases hmove with ⟨request, hm, rfl, rfl⟩ |
          ⟨i, c, op, next, r, s, -, hcall, hperform, rfl, rfl⟩
        · refine ⟨hP.start hpasses ?_ (hstart request hm), ?_⟩
          · exact fun hpassive hinv => (hstarted _ _ request hpassive hinv hallows).1
          · cases hpassive : passive request with
            | true => exact hpasses.started _ _ request hpassive
            | false =>
                have hidle := hP.idle (hstart request hm hpassive)
                exact (hstarted _ _ request hpassive hidle hallows).2
        · exact hP.perform hpasses hinv hgood hkeeps hcall hperform hallows
      obtain ⟨hP', hes⟩ := ih hrun' hturn' (fun e' h' => hobeys e' (by simp [h'])) hstep.1
      exact ⟨hP', by simpa using ⟨hstep.2, hes⟩⟩

end Turns

theorem run_serial {allows owes : Event ι Op χ σ → Prop} {inv : σ → Prop}
    (hstarted : ∀ s i request, inv s → allows (.started s i request) →
      (S.program request).wp (S.alone allows owes i) (fun _ s => inv s) s ∧
        owes (.started s i request))
    (hrun : S.run ms P = some (es, P')) (hserial : S.serial ms P = true)
    (hobeys : ∀ e ∈ es, allows e) (hidle : P.idle = true) (hinv : inv P.state) :
    (P'.idle = true → inv P'.state) ∧ ∀ e ∈ es, owes e := by
  let good : ρ → σ → Prop := fun _ _ => True
  -- nothing is passive, so nothing happens between the operations of a call
  have hpasses : S.Passes Eq (fun _ => false) (fun _ => False) allows owes good :=
    ⟨fun _ => rfl, fun _ _ _ => Eq.trans, fun _ _ _ _ _ _ h => h.elim, nofun, nofun⟩
  have hP : S.Delivers Eq (fun _ => False) allows owes inv good P := by
    refine ⟨⟨P.calls.length, fun _ => hinv, fun p hp => ?_, fun j q _ hq hrunning => ?_⟩,
      fun _ _ _ => trivial⟩
    · rw [List.getElem?_eq_none (Nat.le_refl _)] at hp
      cases hp
    · rw [List.all_eq_true.mp hidle q (List.mem_of_getElem? hq)] at hrunning
      cases hrunning
  have key := run_delivers hpasses (fun _ _ h hs => h ▸ hs) (fun _ _ _ _ _ => trivial)
    (fun _ _ _ _ _ _ _ _ => trivial) ?_ hrun (inTurn_of_serial hserial) hobeys hP
  · exact ⟨key.1.idle, key.2⟩
  · intro s i request _ hs hallows
    obtain ⟨hwp, howes⟩ := hstarted s i request hs hallows
    refine ⟨Program.wp_mono (fun _ _ h => ⟨h, trivial⟩) (Program.wp_of_spec ?_ hwp), howes⟩
    exact fun op s Q h s₁ hs₁ => hs₁ ▸ h

/-! ## One call by itself -/

variable {γ : Type}

/-- An operation of call `i`, of which an observer takes notes. -/
def observed (S : System ι Op Res χ ρ σ) (allows : Event ι Op χ σ → Prop)
    (observe : γ → Event ι Op χ σ → γ) (i : Nat) : Spec Op Res (σ × γ) := fun op s Q =>
  ∀ c r s', S.perform i c op s.1 = some (r, s') → allows (.performed s.1 i c op s') →
    Q r (s', observe s.2 (.performed s.1 i c op s'))

instance (allows : Event ι Op χ σ → Prop) (observe : γ → Event ι Op χ σ → γ) (i : Nat) :
    (S.observed allows observe i).Monotone where
  mono _ _ _ _ hQ h c r s' hperform hallows := hQ r _ (h c r s' hperform hallows)

/-- What a call does to the state does not depend on the notes that are taken. -/
theorem wp_observed {γ' τ : Type} {allows : Event ι Op χ σ → Prop} {observe : γ → Event ι Op χ σ → γ}
    {observe' : γ' → Event ι Op χ σ → γ'} {i : Nat} {post : τ → σ × γ → Prop}
    {post' : τ → σ × γ' → Prop} (hpost : ∀ a s g g', post a (s, g) → post' a (s, g'))
    {p : Program Op Res τ} {s : σ} {g : γ} {g' : γ'}
    (h : p.wp (S.observed allows observe i) post (s, g)) :
    p.wp (S.observed allows observe' i) post' (s, g') := by
  induction p generalizing s g g' with
  | done a => exact hpost a s g g' h
  | await op next ih =>
      intro c r s' hperform hallows
      exact ih r (h c r s' hperform hallows)

/-- A call that runs to its end while no other call moves. -/
theorem run_observed {allows : Event ι Op χ σ → Prop} {observe : γ → Event ι Op χ σ → γ} {i : Nat}
    {post : ρ → σ × γ → Prop} {p : Program Op Res ρ} {g : γ} {cs : List χ} {a : ρ}
    (hcall : P.calls[i]? = some p) (hwp : p.wp (S.observed allows observe i) post (P.state, g))
    (hrun : S.run (cs.map (.run i)) P = some (es, P')) (hobeys : ∀ e ∈ es, allows e)
    (hdone : P'.calls[i]? = some (.done a)) : post a (P'.state, es.foldl observe g) := by
  induction cs generalizing P es p g with
  | nil =>
      simp only [List.map_nil, run, Option.some.injEq, Prod.mk.injEq] at hrun
      obtain ⟨rfl, rfl⟩ := hrun
      rw [hcall, Option.some.injEq] at hdone
      subst hdone
      exact hwp
  | cons c cs ih =>
      obtain ⟨e, Q, es', hmove, hrun', rfl⟩ := run_cons hrun
      rcases move_cases hmove with ⟨request, hm, -, -⟩ |
        ⟨j, c', op, next, r, s, hm, hcall', hstep, rfl, rfl⟩
      · cases hm
      · cases hm
        rw [hcall, Option.some.injEq] at hcall'
        subst hcall'
        have hlt : i < P.calls.length := (List.getElem?_eq_some_iff.mp hcall).1
        have hnext := hwp c r s hstep (hobeys _ (by simp))
        have hset : (P.calls.set i (next r))[i]? = some (next r) := List.getElem?_set_self hlt
        change post a (P'.state, es'.foldl observe (observe g (.performed P.state i c op s)))
        exact ih (P := ⟨s, P.calls.set i (next r)⟩) hset hnext hrun'
          fun e' h' => hobeys e' (by simp [h'])

/-- One call while the others move as they like: its replies are all that its program needs to
know of them. `R` says what its state means for the events so far. -/
theorem run_call {κ : Type} {good : Op → κ → Prop} {can : ∀ op, Res op → Prop}
    {advance : (op : Op) → Res op → κ → κ} {post : ρ → κ → Prop} {i : Nat}
    {R : κ → List (Event ι Op χ σ) → Prop} {past : List (Event ι Op χ σ)} {k : κ}
    {p : Program Op Res ρ}
    (hother : ∀ past k e, R k past → R k (past ++ [e]))
    (hown : ∀ past k s c op r s', S.perform i c op s = some (r, s') → R k past →
      R (advance op r k) (past ++ [.performed s i c op s']))
    (hcall : P.calls[i]? = some p) (hwp : p.wp (tracked good can advance) post k)
    (hrun : S.run ms P = some (es, P'))
    (hcan : ∀ s c op s' r, .performed s i c op s' ∈ es → S.perform i c op s = some (r, s') →
      can op r) (hR : R k past) :
    (∀ s c op s', .performed s i c op s' ∈ es → ∃ k, good op k) ∧
      ∃ p' k', P'.calls[i]? = some p' ∧ p'.wp (tracked good can advance) post k' ∧
        R k' (past ++ es) := by
  induction ms generalizing P es p k past with
  | nil =>
      simp only [run, Option.some.injEq, Prod.mk.injEq] at hrun
      obtain ⟨rfl, rfl⟩ := hrun
      rw [List.append_nil]
      exact ⟨fun _ _ _ _ h => absurd h List.not_mem_nil, p, k, hcall, hwp, hR⟩
  | cons m ms ih =>
      obtain ⟨e, Q, es', hmove, hrun', rfl⟩ := run_cons hrun
      have hlt : i < P.calls.length := (List.getElem?_eq_some_iff.mp hcall).1
      have hcan' : ∀ s c op s' r, .performed s i c op s' ∈ es' →
          S.perform i c op s = some (r, s') → can op r :=
        fun s c op s' r hmem => hcan s c op s' r (List.mem_cons_of_mem e hmem)
      have hassoc : past ++ e :: es' = (past ++ [e]) ++ es' := by simp
      rcases move_cases hmove with ⟨request, -, rfl, rfl⟩ |
        ⟨j, c, op, next, r, s, -, hcall', hstep, rfl, rfl⟩
      · have hstill : (P.calls ++ [S.program request])[i]? = some p := by
          rw [List.getElem?_append_left hlt]
          exact hcall
        obtain ⟨hgood, p', k', hp', hwp', hR'⟩ :=
          ih (P := ⟨P.state, _⟩) hstill hwp hrun' hcan' (hother past k _ hR)
        refine ⟨fun s c op s' hmem => ?_, p', k', hp', hwp', hassoc ▸ hR'⟩
        rcases List.mem_cons.mp hmem with heq | htail
        · cases heq
        · exact hgood s c op s' htail
      · by_cases hj : j = i
        · subst hj
          rw [hcall, Option.some.injEq] at hcall'
          subst hcall'
          have hnext := hwp.2 r (hcan _ _ _ _ _ List.mem_cons_self hstep)
          have hset : (P.calls.set j (next r))[j]? = some (next r) := List.getElem?_set_self hlt
          obtain ⟨hgood, p', k', hp', hwp', hR'⟩ :=
            ih (P := ⟨s, _⟩) hset hnext hrun' hcan' (hown past k _ _ _ _ _ hstep hR)
          refine ⟨fun s c op s' hmem => ?_, p', k', hp', hwp', hassoc ▸ hR'⟩
          rcases List.mem_cons.mp hmem with heq | htail
          · cases heq
            exact ⟨k, hwp.1⟩
          · exact hgood s c op s' htail
        · have hstill : (P.calls.set j (next r))[i]? = some p := by
            rw [List.getElem?_set_ne hj]
            exact hcall
          obtain ⟨hgood, p', k', hp', hwp', hR'⟩ :=
            ih (P := ⟨s, _⟩) hstill hwp hrun' hcan' (hother past k _ hR)
          refine ⟨fun s c op s' hmem => ?_, p', k', hp', hwp', hassoc ▸ hR'⟩
          rcases List.mem_cons.mp hmem with heq | htail
          · cases heq
            exact absurd rfl hj
          · exact hgood s c op s' htail

end System

/-! ## Rely and guarantee -/

/-- What the calls of a pool assume of each other. `rely i` is what the call numbered `i`
expects of the others, `owes` what every performed operation must satisfy, and `allows`
the condition under which the runs are considered. -/
structure Contract (ι Op χ σ : Type) where
  inv : σ → Prop
  rely : Nat → σ → σ → Prop
  allows : Event ι Op χ σ → Prop
  owes : Event ι Op χ σ → Prop

namespace Contract

variable (K : Contract ι Op χ σ) (S : System ι Op Res χ ρ σ)

structure Lawful : Prop where
  refl : ∀ i s, K.rely i s s
  trans : ∀ i s₁ s₂ s₃, K.rely i s₁ s₂ → K.rely i s₂ s₃ → K.rely i s₁ s₃
  compatible : ∀ i j s c op s', i ≠ j → K.inv s → K.owes (.performed s i c op s') → K.rely j s s'
  started : ∀ s i request, K.owes (.started s i request)

/-- An operation of call `i` under the contract: the others may act first, as far as `i`
relies on them. -/
def spec (i : Nat) : Spec Op Res σ := fun op s Q =>
  ∀ s₁, K.inv s₁ → K.rely i s s₁ → ∀ c r s₂, S.perform i c op s₁ = some (r, s₂) →
    K.allows (.performed s₁ i c op s₂) →
    K.inv s₂ ∧ K.owes (.performed s₁ i c op s₂) ∧ Q r s₂

instance (i : Nat) : (K.spec S i).Monotone where
  mono _ _ _ _ hQ h s₁ hinv hrely c r s₂ hperform hallows := by
    obtain ⟨hinv', howes, hnext⟩ := h s₁ hinv hrely c r s₂ hperform hallows
    exact ⟨hinv', howes, hQ r s₂ hnext⟩

/-- The pool's state satisfies the invariant and each of its calls keeps the contract. -/
def Meets (post : Nat → ρ → σ → Prop) (P : Pool Op Res ρ σ) : Prop :=
  K.inv P.state ∧ ∀ (i : Nat) (p : Program Op Res ρ),
    P.calls[i]? = some p → p.wp (K.spec S i) (post i) P.state

variable {K S}

theorem wp_of_rely (hK : K.Lawful) {post : ρ → σ → Prop} {i : Nat}
    (stable : ∀ a s s', K.rely i s s' → post a s → post a s') {p : Program Op Res ρ} {s s' : σ}
    (hrely : K.rely i s s') (h : p.wp (K.spec S i) post s) : p.wp (K.spec S i) post s' := by
  cases p with
  | done a => exact stable a s s' hrely h
  | await op next =>
      intro s₁ hinv hrely₁
      exact h s₁ hinv (hK.trans i s s' s₁ hrely hrely₁)

theorem run_meets (hK : K.Lawful) {post : Nat → ρ → σ → Prop}
    (stable : ∀ i a s s', K.rely i s s' → post i a s → post i a s')
    (hstart : ∀ s i request, K.inv s → K.allows (.started s i request) →
      (S.program request).wp (K.spec S i) (post i) s)
    {ms : List (Move ι χ)} {P P' : Pool Op Res ρ σ} {es : List (Event ι Op χ σ)}
    (hrun : S.run ms P = some (es, P')) (hobeys : ∀ e ∈ es, K.allows e)
    (hP : K.Meets S post P) : K.Meets S post P' ∧ ∀ e ∈ es, K.owes e := by
  suffices step : ∀ {m P e P'}, S.move m P = some (e, P') → K.allows e → K.Meets S post P →
      K.Meets S post P' ∧ K.owes e from
    System.run_induction step hrun hobeys hP
  intro m P e P' hmove hallows ⟨hinv, hcalls⟩
  rcases System.move_cases hmove with ⟨request, -, rfl, rfl⟩ |
    ⟨i, c, op, next, r, s, -, hcall, hperform, rfl, rfl⟩
  · refine ⟨⟨hinv, ?_⟩, hK.started _ _ _⟩
    intro j p hp
    rcases Nat.lt_trichotomy j P.calls.length with hlt | rfl | hgt
    · rw [List.getElem?_append_left hlt] at hp
      exact hcalls j p hp
    · simp only [List.getElem?_concat_length, Option.some.injEq] at hp
      subst hp
      exact hstart _ _ _ hinv hallows
    · rw [List.getElem?_eq_none (by simp; omega)] at hp
      exact absurd hp (by simp)
  · obtain ⟨hinv', howes, hnext⟩ :=
      hcalls i _ hcall P.state hinv (hK.refl i _) c r s hperform hallows
    refine ⟨⟨hinv', ?_⟩, howes⟩
    intro j p hp
    by_cases hij : i = j
    · subst hij
      have hlt : i < P.calls.length := (List.getElem?_eq_some_iff.mp hcall).1
      simp only [List.getElem?_set_self hlt, Option.some.injEq] at hp
      exact hp ▸ hnext
    · rw [List.getElem?_set_ne hij] at hp
      exact wp_of_rely hK (stable j) (hK.compatible i j _ c op _ hij hinv howes) (hcalls j p hp)

end Contract

end Await
