import FlightBookings.Await.Program

/-! # Rules for calls

A call ensures one thing when it returns and another one when it throws, under
any meaning of its operations. The calls of which only the operations matter are
the case of a meaning without a state.
-/

namespace Await.Call

variable {Op Op₁ Op₂ : Type} {Ret : Op → Type} {Ret₁ : Op₁ → Type} {Ret₂ : Op₂ → Type}
variable {α β σ ε L : Type}

section Ensures

variable {spec : Spec Op (fun op => Except ε (Ret op)) σ} {Q Q' : α → L → σ → Prop}
variable {E E' : L → σ → Prop} {l : L} {s : σ}

def Ensures (spec : Spec Op (fun op => Except ε (Ret op)) σ) (c : Call Op Ret ε L α) (l : L)
    (s : σ) (Q : α → L → σ → Prop) (E : L → σ → Prop) : Prop :=
  c.wp spec (fun r l s => match r with
    | .ok a => Q a l s
    | .error _ => E l s) l s

theorem Ensures.pure {a : α} (h : Q a l s) :
    (Pure.pure a : Call Op Ret ε L α).Ensures spec l s Q E := h

theorem Ensures.throw {e : ε} (h : E l s) :
    (MonadExcept.throw e : Call Op Ret ε L α).Ensures spec l s Q E := h

theorem Ensures.ofExcept {x : Except ε α} (hE : ∀ e, x = .error e → E l s)
    (h : ∀ a, x = .ok a → Q a l s) :
    (Call.ofExcept x : Call Op Ret ε L α).Ensures spec l s Q E := by
  rw [Ensures, wp_ofExcept]
  cases x with
  | ok a => exact h a rfl
  | error e => exact hE e rfl

theorem Ensures.memory {Q : L → L → σ → Prop} (h : Q l l s) :
    (Call.memory : Call Op Ret ε L L).Ensures spec l s Q E := h

theorem Ensures.remember {f : L → L} {Q : Unit → L → σ → Prop} (h : Q () (f l) s) :
    (Call.remember f : Call Op Ret ε L Unit).Ensures spec l s Q E := h

theorem Ensures.whenever {p : Prop} [Decidable p] {c : Call Op Ret ε L PUnit}
    {Q : PUnit → L → σ → Prop} (hc : p → c.Ensures spec l s Q E) (hskip : ¬p → Q ⟨⟩ l s) :
    (Call.whenever p c).Ensures spec l s Q E := by
  unfold Call.whenever
  split
  · rename_i hp
    exact hc hp
  · rename_i hp
    exact Ensures.pure (hskip hp)

variable [spec.Monotone]

theorem Ensures.mono {c : Call Op Ret ε L α} (h : c.Ensures spec l s Q E)
    (hQ : ∀ a l s, Q a l s → Q' a l s) (hE : ∀ l s, E l s → E' l s) :
    c.Ensures spec l s Q' E' := by
  refine wp_mono h ?_
  intro r l s hr
  cases r with
  | ok a => exact hQ a l s hr
  | error e => exact hE l s hr

/-- What a call ensures both ways, its program ensures. -/
theorem Ensures.program {c : Call Op Ret ε L α} {R : σ → Prop}
    (h : c.Ensures spec l s (fun _ _ => R) fun _ => R) : (c l).wp spec (fun _ => R) s := by
  refine Program.wp_mono ?_ h
  intro r s hr
  rcases r with ⟨e | a, l⟩
  · exact hr
  · exact hr

theorem Ensures.bind {c : Call Op Ret ε L β} {k : β → Call Op Ret ε L α}
    (h : c.Ensures spec l s (fun b l s => (k b).Ensures spec l s Q E) E) :
    (c >>= k).Ensures spec l s Q E := by
  rw [Ensures, wp_bind]
  refine wp_mono h ?_
  intro r l s hr
  cases r with
  | ok b => exact hr
  | error e => exact hr

/-- A step whose postconditions are known already. -/
theorem Ensures.andThen {c : Call Op Ret ε L β} {k : β → Call Op Ret ε L α}
    {R : β → L → σ → Prop} (hc : c.Ensures spec l s R E') (hE : ∀ l s, E' l s → E l s)
    (hk : ∀ b l s, R b l s → (k b).Ensures spec l s Q E) : (c >>= k).Ensures spec l s Q E :=
  Ensures.bind (hc.mono hk hE)

/-- A step after which only what it also ensures when it throws needs to be known. -/
theorem Ensures.seq {c : Call Op Ret ε L β} {k : β → Call Op Ret ε L α}
    (hc : c.Ensures spec l s (fun _ => E) E)
    (hk : ∀ b l s, E l s → (k b).Ensures spec l s Q E) : (c >>= k).Ensures spec l s Q E :=
  Ensures.bind (hc.mono hk fun _ _ h => h)

theorem Ensures.tryCatch {c : Call Op Ret ε L α} {handler : ε → Call Op Ret ε L α}
    (hc : c.Ensures spec l s Q E')
    (hh : ∀ e l s, E' l s → (handler e).Ensures spec l s Q E) :
    (MonadExcept.tryCatch c handler).Ensures spec l s Q E := by
  rw [Ensures, wp_tryCatch]
  refine wp_mono hc ?_
  intro r l s hr
  cases r with
  | ok a => exact hr
  | error e => exact hh e l s hr

/-- Rule for a loop over a list, whose invariant speaks of the elements still to come. -/
theorem Ensures.forM (inv : List β → L → σ → Prop) {body : β → Call Op Ret ε L PUnit}
    (h : ∀ x xs l s, inv (x :: xs) l s → (body x).Ensures spec l s (fun _ => inv xs) E)
    (xs : List β) (hl : inv xs l s) : (xs.forM body).Ensures spec l s (fun _ => inv []) E := by
  induction xs generalizing l s with
  | nil => exact Ensures.pure hl
  | cons x xs ih => exact Ensures.bind ((h x xs l s hl).mono (fun _ l s hl => ih hl) fun _ _ h => h)

end Ensures

theorem Ensures.lift {spec : Spec Op₂ (fun op => Except ε (Ret₂ op)) σ} {f : Op₁ → Op₂}
    {g : ∀ op, Except ε (Ret₂ (f op)) → Except ε (Ret₁ op)} {c : Call Op₁ Ret₁ ε L α} {l : L}
    {s : σ} {Q : α → L → σ → Prop} {E : L → σ → Prop}
    (h : c.Ensures (spec.comap f g) l s Q E) : (c.lift f g).Ensures spec l s Q E := by
  rw [Ensures, wp_lift]
  exact h

/-- Two accounts of one call, which keeps track of its replies. -/
theorem Ensures.both {κ : Type} {good : Op → κ → Prop} {can : ∀ op, Except ε (Ret op) → Prop}
    {advance : (op : Op) → Except ε (Ret op) → κ → κ} {c : Call Op Ret ε L α} {l : L} {k : κ}
    {Q Q' : α → L → κ → Prop} {E E' : L → κ → Prop}
    (h : c.Ensures (tracked good can advance) l k Q E)
    (h' : c.Ensures (tracked good can advance) l k Q' E') :
    c.Ensures (tracked good can advance) l k (fun a l k => Q a l k ∧ Q' a l k)
      fun l k => E l k ∧ E' l k := by
  have hboth := Program.wp_tracked_and (fun _ _ h => h) h h'
  refine Program.wp_of_spec (fun op k Q hspec => ⟨hspec.1.1, hspec.2⟩) (Program.wp_mono ?_ hboth)
  intro r k hr
  rcases r with ⟨e | a, l⟩
  · exact hr
  · exact hr

/-! ## What a call awaits -/

section Emits

variable {good : Op → Prop} {can : ∀ op, Except ε (Ret op) → Prop} {Q Q' : α → L → Prop}
variable {E E' : L → Prop} {l : L}

/-- From the memory `l` the call awaits good operations only; its value and its memory satisfy
`Q` when it returns, and its memory satisfies `E` when it throws. -/
def Emits (good : Op → Prop) (can : ∀ op, Except ε (Ret op) → Prop) (c : Call Op Ret ε L α)
    (l : L) (Q : α → L → Prop) (E : L → Prop) : Prop :=
  c.Ensures (emits good can) l () (fun a l _ => Q a l) fun l _ => E l

theorem Emits.program {c : Call Op Ret ε L α} (h : c.Emits good can l Q E) :
    (c l).Emits good can :=
  Program.wp_mono (fun _ _ _ => trivial) h

theorem Emits.mono {c : Call Op Ret ε L α} (h : c.Emits good can l Q E)
    (hQ : ∀ a l, Q a l → Q' a l) (hE : ∀ l, E l → E' l) : c.Emits good can l Q' E' :=
  Ensures.mono h (fun a l _ => hQ a l) fun l _ => hE l

theorem Emits.of_good {good' : Op → Prop} {can' : ∀ op, Except ε (Ret op) → Prop}
    {c : Call Op Ret ε L α} (h : c.Emits good can l Q E) (hgood : ∀ op, good op → good' op)
    (hcan : ∀ op r, can' op r → can op r) : c.Emits good' can' l Q E := by
  refine Program.wp_of_spec ?_ h
  intro op s Q hspec
  exact ⟨hgood op hspec.1, fun r hr => hspec.2 r (hcan op r hr)⟩

/-- Two accounts of a call together. -/
theorem Emits.and {good' : Op → Prop} {can' : ∀ op, Except ε (Ret op) → Prop}
    {c : Call Op Ret ε L α} (h : c.Emits good can l Q E) (h' : c.Emits good' can' l Q' E')
    (hcan : ∀ op r, can' op r → can op r) :
    c.Emits (fun op => good op ∧ good' op) can' l (fun a l => Q a l ∧ Q' a l)
      fun l => E l ∧ E' l := by
  refine Program.wp_mono ?_ (Program.wp_tracked_and hcan h h')
  intro r _ hr
  rcases r with ⟨e | a, l⟩
  · exact hr
  · exact hr

theorem Emits.pure {a : α} (h : Q a l) :
    (Pure.pure a : Call Op Ret ε L α).Emits good can l Q E := h

theorem Emits.throw {e : ε} (h : E l) :
    (MonadExcept.throw e : Call Op Ret ε L α).Emits good can l Q E := h

theorem Emits.ofExcept {x : Except ε α} (hE : E l) (h : ∀ a, x = .ok a → Q a l) :
    (Call.ofExcept x : Call Op Ret ε L α).Emits good can l Q E :=
  Ensures.ofExcept (fun _ _ => hE) h

theorem Emits.await {op : Op} {Q : Ret op → L → Prop} (hop : good op) (hE : E l)
    (h : ∀ a, can op (.ok a) → Q a l) :
    (Call.await op : Call Op Ret ε L (Ret op)).Emits good can l Q E := by
  refine ⟨hop, ?_⟩
  intro r hr
  cases r with
  | ok a => exact h a hr
  | error e => exact hE

theorem Emits.memory {Q : L → L → Prop} (h : Q l l) :
    (Call.memory : Call Op Ret ε L L).Emits good can l Q E := h

theorem Emits.remember {f : L → L} {Q : Unit → L → Prop} (h : Q () (f l)) :
    (Call.remember f : Call Op Ret ε L Unit).Emits good can l Q E := h

theorem Emits.bind {c : Call Op Ret ε L β} {k : β → Call Op Ret ε L α}
    (h : c.Emits good can l (fun b l => (k b).Emits good can l Q E) E) :
    (c >>= k).Emits good can l Q E :=
  Ensures.bind h

theorem Emits.andThen {c : Call Op Ret ε L β} {k : β → Call Op Ret ε L α} {R : β → L → Prop}
    (hc : c.Emits good can l R E') (hE : ∀ l, E' l → E l)
    (hk : ∀ b l, R b l → (k b).Emits good can l Q E) : (c >>= k).Emits good can l Q E :=
  Ensures.andThen hc (fun l _ => hE l) fun b l _ => hk b l

theorem Emits.seq {c : Call Op Ret ε L β} {k : β → Call Op Ret ε L α}
    (hc : c.Emits good can l (fun _ => E) E) (hk : ∀ b l, E l → (k b).Emits good can l Q E) :
    (c >>= k).Emits good can l Q E :=
  Ensures.seq hc fun b l _ => hk b l

theorem Emits.tryCatch {c : Call Op Ret ε L α} {handler : ε → Call Op Ret ε L α}
    (hc : c.Emits good can l Q E') (hh : ∀ e l, E' l → (handler e).Emits good can l Q E) :
    (MonadExcept.tryCatch c handler).Emits good can l Q E :=
  Ensures.tryCatch hc fun e l _ => hh e l

theorem Emits.whenever {p : Prop} [Decidable p] {c : Call Op Ret ε L PUnit}
    {Q : PUnit → L → Prop} (hc : p → c.Emits good can l Q E) (hskip : ¬p → Q ⟨⟩ l) :
    (Call.whenever p c).Emits good can l Q E :=
  Ensures.whenever hc hskip

theorem Emits.forM {body : β → Call Op Ret ε L PUnit}
    (h : ∀ x l, E l → (body x).Emits good can l (fun _ => E) E) (xs : List β) (hl : E l) :
    (xs.forM body).Emits good can l (fun _ => E) E :=
  Ensures.forM (fun _ l _ => E l) (fun x _ l _ => h x l) xs hl

/-- A call over a smaller set of operations, whose replies are what is known of those over the larger
one. -/
theorem Emits.liftWith {good : Op₂ → Prop} {can : ∀ op, Except ε (Ret₂ op) → Prop}
    {can₁ : ∀ op, Except ε (Ret₁ op) → Prop} {f : Op₁ → Op₂}
    {g : ∀ op, Except ε (Ret₂ (f op)) → Except ε (Ret₁ op)} {c : Call Op₁ Ret₁ ε L α}
    (h : c.Emits (fun op => good (f op)) can₁ l Q E)
    (hcan : ∀ op r, can (f op) r → can₁ op (g op r)) : (c.lift f g).Emits good can l Q E := by
  rw [Emits, Ensures, wp_lift]
  refine Program.wp_of_spec ?_ h
  intro op s Q hspec
  exact ⟨hspec.1, fun r hr => hspec.2 (g op r) (hcan op r hr)⟩

theorem Emits.lift {good : Op₂ → Prop} {can : ∀ op, Except ε (Ret₂ op) → Prop} {f : Op₁ → Op₂}
    {g : ∀ op, Except ε (Ret₂ (f op)) → Except ε (Ret₁ op)} {c : Call Op₁ Ret₁ ε L α}
    (h : c.Emits (fun op => good (f op)) (fun _ _ => True) l Q E) :
    (c.lift f g).Emits good can l Q E :=
  h.liftWith fun _ _ _ => trivial

/-- A call whose operations all keep `R` keeps it, under any meaning of its operations. -/
theorem Emits.frame {spec : Spec Op (fun op => Except ε (Ret op)) σ} [spec.Monotone] {R : σ → Prop}
    (hspec : ∀ op s (Q : Except ε (Ret op) → σ → Prop), good op → R s →
      (∀ r s', can op r → R s' → Q r s') → spec op s Q)
    {c : Call Op Ret ε L α} (h : c.Emits good can l Q E) {s : σ} (hs : R s) :
    c.Ensures spec l s (fun a l s => Q a l ∧ R s) fun l s => E l ∧ R s := by
  refine Program.wp_mono ?_ (Program.wp_of_tracked (fun op _ s Q => hspec op s Q) h hs)
  intro r s hr
  obtain ⟨_, hpost, hR⟩ := hr
  rcases r with ⟨e | a, l⟩
  · exact ⟨hpost, hR⟩
  · exact ⟨hpost, hR⟩

end Emits

end Await.Call
