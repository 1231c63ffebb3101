import Mathlib.Init

/-! # Calls that await their operations

An asynchronous function is a tree of the operations it awaits. What runs
between two operations is local to the call, so the operations are its only
observable points and the only places where another call can come in between.
The weakest precondition below is parametric in the meaning of one operation:
every program logic of this library is an instance of it.
-/

namespace Await

/-- A call stopped in front of the next operation that it awaits. -/
inductive Program (Op : Type) (Res : Op → Type) (α : Type) where
  | done (value : α)
  | await (op : Op) (next : Res op → Program Op Res α)

/-- The meaning of one operation: what must hold before it for `Q` to hold of its reply
and of the state it leaves. -/
abbrev Spec (Op : Type) (Res : Op → Type) (σ : Type) : Type :=
  (op : Op) → σ → (Res op → σ → Prop) → Prop

variable {Op Op₁ Op₂ : Type} {Res : Op → Type} {Res₁ : Op₁ → Type} {Res₂ : Op₂ → Type}
variable {α β σ ε L : Type}

class Spec.Monotone (spec : Spec Op Res σ) : Prop where
  mono : ∀ op s (Q Q' : Res op → σ → Prop), (∀ r s, Q r s → Q' r s) → spec op s Q → spec op s Q'

/-- A program with a state of its own, which each operation advances by its reply: every operation
that can come to be awaited is `good`, for all replies that it `can` get. -/
def tracked (good : Op → σ → Prop) (can : ∀ op, Res op → Prop)
    (advance : (op : Op) → Res op → σ → σ) : Spec Op Res σ :=
  fun op s Q => good op s ∧ ∀ r, can op r → Q r (advance op r s)

instance (good : Op → σ → Prop) (can : ∀ op, Res op → Prop)
    (advance : (op : Op) → Res op → σ → σ) : (tracked good can advance).Monotone where
  mono _ _ _ _ hQ h := ⟨h.1, fun r hr => hQ r _ (h.2 r hr)⟩

/-- The case without such a state. -/
abbrev emits (good : Op → Prop) (can : ∀ op, Res op → Prop) : Spec Op Res Unit :=
  tracked (fun op _ => good op) can fun _ _ s => s

/-- The meaning of the operations of a smaller set in terms of those of a larger one. -/
def Spec.comap (f : Op₁ → Op₂) (g : ∀ op, Res₂ (f op) → Res₁ op) (spec : Spec Op₂ Res₂ σ) :
    Spec Op₁ Res₁ σ :=
  fun op s Q => spec (f op) s fun r s' => Q (g op r) s'

instance (f : Op₁ → Op₂) (g : ∀ op, Res₂ (f op) → Res₁ op) (spec : Spec Op₂ Res₂ σ)
    [spec.Monotone] : (spec.comap f g).Monotone where
  mono op s _ _ hQ h := Spec.Monotone.mono (f op) s _ _ (fun r s' => hQ (g op r) s') h

namespace Program

def bind : Program Op Res α → (α → Program Op Res β) → Program Op Res β
  | .done a, k => k a
  | .await op next, k => .await op fun r => (next r).bind k

/-- The same program over a larger set of operations. -/
def lift (f : Op₁ → Op₂) (g : ∀ op, Res₂ (f op) → Res₁ op) :
    Program Op₁ Res₁ α → Program Op₂ Res₂ α
  | .done a => .done a
  | .await op next => .await (f op) fun r => (next (g op r)).lift f g

def isDone : Program Op Res α → Bool
  | .done _ => true
  | .await _ _ => false

def wp (spec : Spec Op Res σ) (post : α → σ → Prop) : Program Op Res α → σ → Prop
  | .done a, s => post a s
  | .await op next, s => spec op s fun r s' => (next r).wp spec post s'

@[simp] theorem wp_done (spec : Spec Op Res σ) (post : α → σ → Prop) (a : α) (s : σ) :
    (Program.done a : Program Op Res α).wp spec post s = post a s := rfl

theorem wp_bind (spec : Spec Op Res σ) (post : β → σ → Prop) (p : Program Op Res α)
    (k : α → Program Op Res β) (s : σ) :
    (p.bind k).wp spec post s = p.wp spec (fun a s => (k a).wp spec post s) s := by
  induction p generalizing s with
  | done a => rfl
  | await op next ih => simp only [bind, wp, ih]

theorem wp_mono {spec : Spec Op Res σ} [spec.Monotone] {post post' : α → σ → Prop}
    (hpost : ∀ a s, post a s → post' a s) {p : Program Op Res α} {s : σ}
    (h : p.wp spec post s) : p.wp spec post' s := by
  induction p generalizing s with
  | done a => exact hpost a s h
  | await op next ih => exact Spec.Monotone.mono op s _ _ (fun r s hnext => ih r hnext) h

/-- A program that is right under a stronger meaning of its operations is right. -/
theorem wp_of_spec {spec spec' : Spec Op Res σ} (hspec : ∀ op s Q, spec op s Q → spec' op s Q)
    [spec.Monotone] {post : α → σ → Prop} {p : Program Op Res α} {s : σ}
    (h : p.wp spec post s) : p.wp spec' post s := by
  induction p generalizing s with
  | done a => exact h
  | await op next ih =>
      exact hspec op s _ (Spec.Monotone.mono op s _ _ (fun r s hnext => ih r hnext) h)

/-- A program that runs by itself, its operations being performed as given. -/
def eval (perform : (op : Op) → σ → Res op × σ) : Program Op Res α → σ → α × σ
  | .done a, s => (a, s)
  | .await op next, s => (next (perform op s).1).eval perform (perform op s).2

theorem eval_bind (perform : (op : Op) → σ → Res op × σ) (p : Program Op Res α)
    (k : α → Program Op Res β) (s : σ) :
    (p.bind k).eval perform s = (k (p.eval perform s).1).eval perform (p.eval perform s).2 := by
  induction p generalizing s with
  | done a => rfl
  | await op next ih => simp only [bind, eval, ih]

/-- The meaning of operations that are performed as given. -/
def runs (perform : (op : Op) → σ → Res op × σ) : Spec Op Res σ :=
  fun op s Q => Q (perform op s).1 (perform op s).2

instance (perform : (op : Op) → σ → Res op × σ) : (runs perform).Monotone where
  mono _ _ _ _ hQ h := hQ _ _ h

theorem eval_of_wp {perform : (op : Op) → σ → Res op × σ} {post : α → σ → Prop}
    {p : Program Op Res α} {s : σ} (h : p.wp (runs perform) post s) :
    post (p.eval perform s).1 (p.eval perform s).2 := by
  induction p generalizing s with
  | done a => exact h
  | await op next ih => exact ih (perform op s).1 h

theorem wp_lift (f : Op₁ → Op₂) (g : ∀ op, Res₂ (f op) → Res₁ op) (spec : Spec Op₂ Res₂ σ)
    (post : α → σ → Prop) (p : Program Op₁ Res₁ α) (s : σ) :
    (p.lift f g).wp spec post s = p.wp (spec.comap f g) post s := by
  induction p generalizing s with
  | done a => rfl
  | await op next ih => simp only [lift, wp, Spec.comap, ih]

theorem eval_lift (f : Op₁ → Op₂) (g : ∀ op, Res₂ (f op) → Res₁ op)
    (perform : (op : Op₂) → σ → Res₂ op × σ) (p : Program Op₁ Res₁ α) (s : σ) :
    (p.lift f g).eval perform s =
      p.eval (fun op s => (g op (perform (f op) s).1, (perform (f op) s).2)) s := by
  induction p generalizing s with
  | done a => rfl
  | await op next ih => simp only [lift, eval, ih]

/-- What a program does in terms of its own state, it does under every meaning of its operations
that respects a relation between that state and the actual one. -/
theorem wp_of_tracked {κ : Type} {good : Op → κ → Prop} {can : ∀ op, Res op → Prop}
    {advance : (op : Op) → Res op → κ → κ} {spec : Spec Op Res σ} {R : κ → σ → Prop}
    {post : α → κ → Prop}
    (hspec : ∀ op k s (Q : Res op → σ → Prop), good op k → R k s →
      (∀ r s', can op r → R (advance op r k) s' → Q r s') → spec op s Q)
    {p : Program Op Res α} {k : κ} {s : σ} (h : p.wp (tracked good can advance) post k)
    (hR : R k s) : p.wp spec (fun a s => ∃ k, post a k ∧ R k s) s := by
  induction p generalizing k s with
  | done a => exact ⟨k, h, hR⟩
  | await op next ih =>
      exact hspec op k s _ h.1 hR fun r s' hr hR' => ih r (h.2 r hr) hR'

/-- Two accounts of a program's operations together. -/
theorem wp_tracked_and {κ : Type} {good good' : Op → κ → Prop} {can can' : ∀ op, Res op → Prop}
    {advance : (op : Op) → Res op → κ → κ} {post post' : α → κ → Prop}
    (hcan : ∀ op r, can' op r → can op r) {p : Program Op Res α} {k : κ}
    (h : p.wp (tracked good can advance) post k)
    (h' : p.wp (tracked good' can' advance) post' k) :
    p.wp (tracked (fun op k => good op k ∧ good' op k) can' advance)
      (fun a k => post a k ∧ post' a k) k := by
  induction p generalizing k with
  | done a => exact ⟨h, h'⟩
  | await op next ih =>
      exact ⟨⟨h.1, h'.1⟩, fun r hr => ih r (h.2 r (hcan op r hr)) (h'.2 r hr)⟩

/-- What no reply changes in a program's state stays as it was. -/
theorem wp_tracked_keeps {κ τ : Type} {good : Op → κ → Prop} {can : ∀ op, Res op → Prop}
    {advance : (op : Op) → Res op → κ → κ} {post : α → κ → Prop} {f : κ → τ}
    (hf : ∀ op r k, f (advance op r k) = f k) {p : Program Op Res α} {k : κ}
    (h : p.wp (tracked good can advance) post k) :
    p.wp (tracked good can advance) (fun a k' => post a k' ∧ f k' = f k) k := by
  induction p generalizing k with
  | done a => exact ⟨h, rfl⟩
  | await op next ih =>
      refine ⟨h.1, fun r hr => ?_⟩
      have hnext := ih r (h.2 r hr)
      rwa [hf op r k] at hnext

theorem wp_tracked_true {κ : Type} {advance : (op : Op) → Res op → κ → κ}
    (p : Program Op Res α) (k : κ) :
    p.wp (tracked (fun _ _ => True) (fun _ _ => True) advance) (fun _ _ => True) k := by
  induction p generalizing k with
  | done a => trivial
  | await op next ih => exact ⟨trivial, fun r _ => ih r (advance op r k)⟩

def Emits (good : Op → Prop) (can : ∀ op, Res op → Prop) (p : Program Op Res α) : Prop :=
  p.wp (emits good can) (fun _ _ => True) ()

end Program

/-- A call with memory of its own of type `L`, which outlives the errors of type `ε` that it
throws, over operations that reply with an error or with a value of type `Ret op`. -/
def Call (Op : Type) (Ret : Op → Type) (ε L α : Type) : Type :=
  L → Program Op (fun op => Except ε (Ret op)) (Except ε α × L)

namespace Call

variable {Ret : Op → Type} {Ret₁ : Op₁ → Type} {Ret₂ : Op₂ → Type}

def pure (a : α) : Call Op Ret ε L α := fun l => .done (.ok a, l)

def throw (e : ε) : Call Op Ret ε L α := fun l => .done (.error e, l)

def bind (c : Call Op Ret ε L α) (k : α → Call Op Ret ε L β) : Call Op Ret ε L β := fun l =>
  (c l).bind fun
    | (.ok a, l) => k a l
    | (.error e, l) => .done (.error e, l)

def tryCatch (c : Call Op Ret ε L α) (handler : ε → Call Op Ret ε L α) : Call Op Ret ε L α :=
  fun l => (c l).bind fun
    | (.ok a, l) => .done (.ok a, l)
    | (.error e, l) => handler e l

instance : Monad (Call Op Ret ε L) where
  pure := Call.pure
  bind := Call.bind

instance : MonadExceptOf ε (Call Op Ret ε L) where
  throw := Call.throw
  tryCatch := Call.tryCatch

def memory : Call Op Ret ε L L := fun l => .done (.ok l, l)

def remember (f : L → L) : Call Op Ret ε L Unit := fun l => .done (.ok (), f l)

def await (op : Op) : Call Op Ret ε L (Ret op) := fun l => .await op fun r => .done (r, l)

/-- An error that a pure check of the code throws. -/
def ofExcept : Except ε α → Call Op Ret ε L α
  | .ok a => Call.pure a
  | .error e => Call.throw e

def lift (f : Op₁ → Op₂) (g : ∀ op, Except ε (Ret₂ (f op)) → Except ε (Ret₁ op))
    (c : Call Op₁ Ret₁ ε L α) : Call Op₂ Ret₂ ε L α := fun l => (c l).lift f g

/-- A statement that runs when its condition holds. -/
def whenever (p : Prop) [Decidable p] (c : Call Op Ret ε L PUnit) : Call Op Ret ε L PUnit :=
  if p then c else Call.pure ⟨⟩

def wp (spec : Spec Op (fun op => Except ε (Ret op)) σ) (post : Except ε α → L → σ → Prop)
    (c : Call Op Ret ε L α) (l : L) (s : σ) : Prop :=
  (c l).wp spec (fun r s => post r.1 r.2 s) s

variable (spec : Spec Op (fun op => Except ε (Ret op)) σ) (post : Except ε α → L → σ → Prop)
variable (l : L) (s : σ)

@[simp] theorem wp_pure (a : α) :
    wp spec post (Pure.pure a : Call Op Ret ε L α) l s = post (.ok a) l s := rfl

@[simp] theorem wp_throw (e : ε) :
    wp spec post (MonadExcept.throw e : Call Op Ret ε L α) l s = post (.error e) l s := rfl

@[simp] theorem wp_bind (post : Except ε β → L → σ → Prop) (c : Call Op Ret ε L α)
    (k : α → Call Op Ret ε L β) :
    wp spec post (c >>= k) l s =
      wp spec (fun r l s => match r with
        | .ok a => wp spec post (k a) l s
        | .error e => post (.error e) l s) c l s := by
  change ((c l).bind _).wp spec _ s = _
  rw [Program.wp_bind]
  congr 1
  funext r s
  rcases r with ⟨_ | _, _⟩ <;> rfl

@[simp] theorem wp_tryCatch (c : Call Op Ret ε L α) (handler : ε → Call Op Ret ε L α) :
    wp spec post (MonadExcept.tryCatch c handler) l s =
      wp spec (fun r l s => match r with
        | .ok a => post (.ok a) l s
        | .error e => wp spec post (handler e) l s) c l s := by
  change ((c l).bind _).wp spec _ s = _
  rw [Program.wp_bind]
  congr 1
  funext r s
  rcases r with ⟨_ | _, _⟩ <;> rfl

@[simp] theorem wp_memory (post : Except ε L → L → σ → Prop) :
    wp spec post (memory : Call Op Ret ε L L) l s = post (.ok l) l s := rfl

@[simp] theorem wp_remember (post : Except ε Unit → L → σ → Prop) (f : L → L) :
    wp spec post (remember f : Call Op Ret ε L Unit) l s = post (.ok ()) (f l) s := rfl

@[simp] theorem wp_await (op : Op) (post : Except ε (Ret op) → L → σ → Prop) :
    wp spec post (Call.await op) l s = spec op s fun r s' => post r l s' := rfl

@[simp] theorem wp_ofExcept (x : Except ε α) :
    wp spec post (ofExcept x : Call Op Ret ε L α) l s = post x l s := by
  cases x <;> rfl

@[simp] theorem wp_lift (f : Op₁ → Op₂)
    (g : ∀ op, Except ε (Ret₂ (f op)) → Except ε (Ret₁ op))
    (spec : Spec Op₂ (fun op => Except ε (Ret₂ op)) σ) (c : Call Op₁ Ret₁ ε L α) :
    wp spec post (c.lift f g) l s = wp (spec.comap f g) post c l s := by
  unfold wp Call.lift
  rw [Program.wp_lift]

@[simp] theorem wp_ite (p : Prop) [Decidable p] (c d : Call Op Ret ε L α) :
    wp spec post (if p then c else d) l s =
      if p then wp spec post c l s else wp spec post d l s := by
  split <;> rfl

@[simp] theorem wp_whenever (post : Except ε PUnit → L → σ → Prop) (p : Prop) [Decidable p]
    (c : Call Op Ret ε L PUnit) :
    wp spec post (whenever p c) l s = if p then wp spec post c l s else post (.ok ⟨⟩) l s := by
  unfold whenever
  split <;> rfl

/-- A call that runs by itself. -/
def run (perform : (op : Op) → σ → Except ε (Ret op) × σ) (c : Call Op Ret ε L α) (l : L) (s : σ) :
    (Except ε α × L) × σ :=
  (c l).eval perform s

section Run

variable (perform : (op : Op) → σ → Except ε (Ret op) × σ) (l : L) (s : σ)

@[simp] theorem run_pure (a : α) :
    run perform (Pure.pure a : Call Op Ret ε L α) l s = ((.ok a, l), s) := rfl

@[simp] theorem run_throw (e : ε) :
    run perform (MonadExcept.throw e : Call Op Ret ε L α) l s = ((.error e, l), s) := rfl

@[simp] theorem run_await (op : Op) :
    run perform (Call.await op : Call Op Ret ε L (Ret op)) l s =
      (((perform op s).1, l), (perform op s).2) := rfl

@[simp] theorem run_bind (c : Call Op Ret ε L α) (k : α → Call Op Ret ε L β) :
    run perform (c >>= k) l s =
      match run perform c l s with
      | ((.ok a, l), s) => run perform (k a) l s
      | ((.error e, l), s) => ((.error e, l), s) := by
  change ((c l).bind _).eval perform s = _
  rw [Program.eval_bind, run]
  rcases (c l).eval perform s with ⟨⟨_ | _, _⟩, _⟩ <;> rfl

@[simp] theorem run_tryCatch (c : Call Op Ret ε L α) (handler : ε → Call Op Ret ε L α) :
    run perform (MonadExcept.tryCatch c handler) l s =
      match run perform c l s with
      | ((.ok a, l), s) => ((.ok a, l), s)
      | ((.error e, l), s) => run perform (handler e) l s := by
  change ((c l).bind _).eval perform s = _
  rw [Program.eval_bind, run]
  rcases (c l).eval perform s with ⟨⟨_ | _, _⟩, _⟩ <;> rfl

@[simp] theorem run_ofExcept (x : Except ε α) :
    run perform (ofExcept x : Call Op Ret ε L α) l s = ((x, l), s) := by
  cases x <;> rfl

@[simp] theorem run_lift (f : Op₁ → Op)
    (g : ∀ op, Except ε (Ret (f op)) → Except ε (Ret₁ op)) (c : Call Op₁ Ret₁ ε L α) :
    run perform (c.lift f g) l s =
      run (fun op s => (g op (perform (f op) s).1, (perform (f op) s).2)) c l s := by
  unfold run Call.lift
  rw [Program.eval_lift]

@[simp] theorem run_ite (p : Prop) [Decidable p] (c d : Call Op Ret ε L α) :
    run perform (if p then c else d) l s =
      if p then run perform c l s else run perform d l s := by
  split <;> rfl

@[simp] theorem run_whenever (p : Prop) [Decidable p] (c : Call Op Ret ε L PUnit) :
    run perform (whenever p c) l s = if p then run perform c l s else ((.ok ⟨⟩, l), s) := by
  unfold whenever
  split <;> rfl

end Run

theorem wp_mono {spec : Spec Op (fun op => Except ε (Ret op)) σ} [spec.Monotone]
    {post post' : Except ε α → L → σ → Prop} {c : Call Op Ret ε L α} {l : L} {s : σ}
    (h : wp spec post c l s) (hpost : ∀ r l s, post r l s → post' r l s) :
    wp spec post' c l s := by
  refine Program.wp_mono ?_ h
  intro r s
  exact hpost r.1 r.2 s

end Call

end Await
