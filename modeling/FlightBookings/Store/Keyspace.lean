import Mathlib.Logic.Function.Basic

/-! # Expiring key/value stores

A store with a clock in milliseconds, where every entry carries the instant at
which it vanishes. Keys have values of their own types, so that a reader of a
key never meets a value of another kind.
-/

structure Keyspace (κ : Type) (V : κ → Type) where
  now : Nat
  entries : (k : κ) → Option (V k × Nat)

namespace Keyspace

variable {κ : Type} {V : κ → Type}

def empty (now : Nat) : Keyspace κ V := ⟨now, fun _ => none⟩

/-- The entry of a key that has not vanished: its value and its deadline. -/
def live (r : Keyspace κ V) (k : κ) : Option (V k × Nat) :=
  (r.entries k).filter fun e => r.now < e.2

def get (r : Keyspace κ V) (k : κ) : Option (V k) := (r.live k).map Prod.fst

def wait (r : Keyspace κ V) (ms : Nat) : Keyspace κ V := { r with now := r.now + ms }

/-- Seconds left, rounded to the nearest, and `-2` for a key that does not exist. -/
def ttl (r : Keyspace κ V) (k : κ) : Int :=
  match r.live k with
  | some e => ((e.2 - r.now + 500) / 1000 : Nat)
  | none => -2

variable {r : Keyspace κ V} {k k' : κ} {v : V k} {seconds : Nat} {ms : Nat} {e : V k × Nat}

@[simp] theorem live_empty (now : Nat) : (empty now : Keyspace κ V).live k = none := rfl

theorem live_lt (h : r.live k = some e) : r.now < e.2 := by
  simpa using (Option.filter_eq_some_iff.mp h).2

theorem live_wait (h : (r.wait ms).live k = some e) : r.live k = some e := by
  obtain ⟨hentry, hlt⟩ := Option.filter_eq_some_iff.mp h
  have hlt : r.now + ms < e.2 := of_decide_eq_true hlt
  exact Option.filter_eq_some_iff.mpr ⟨hentry, by simp; omega⟩

theorem live_wait_of_lt (h : r.live k = some e) (hlt : r.now + ms < e.2) :
    (r.wait ms).live k = some e := by
  obtain ⟨hentry, -⟩ := Option.filter_eq_some_iff.mp h
  exact Option.filter_eq_some_iff.mpr ⟨hentry, decide_eq_true hlt⟩

theorem get_eq_some : r.get k = some v ↔ ∃ deadline, r.live k = some (v, deadline) := by
  simp [get]

theorem get_eq_none : r.get k = none ↔ r.live k = none := by
  simp [get]

theorem get_of_wait (h : (r.wait ms).get k = some v) : r.get k = some v := by
  obtain ⟨deadline, hlive⟩ := get_eq_some.mp h
  exact get_eq_some.mpr ⟨deadline, live_wait hlive⟩

theorem live_wait_eq : (r.wait ms).live k = (r.live k).filter fun e => r.now + ms < e.2 := by
  have hentries : (r.wait ms).entries k = r.entries k := rfl
  have hnow : (r.wait ms).now = r.now + ms := rfl
  rw [live, live, hentries, hnow]
  cases r.entries k with
  | none => rfl
  | some e =>
      by_cases hlt : r.now + ms < e.2
      · have hbefore : r.now < e.2 := by omega
        simp [Option.filter, hlt, hbefore]
      · by_cases hbefore : r.now < e.2 <;> simp [Option.filter, hlt, hbefore]

/-- The entry of a key is as if nothing but time had passed. -/
def Ages (k : κ) (r r' : Keyspace κ V) : Prop :=
  ∃ ms, r'.now = r.now + ms ∧ r'.live k = (r.wait ms).live k

variable {r' r'' : Keyspace κ V}

theorem Ages.of_live (hnow : r'.now = r.now) (hlive : r'.live k = r.live k) : Ages k r r' :=
  ⟨0, hnow, hlive⟩

theorem ages_refl : Ages k r r := ⟨0, rfl, rfl⟩

theorem ages_wait : Ages k r (r.wait ms) := ⟨ms, rfl, rfl⟩

theorem Ages.trans (h : Ages k r r') (h' : Ages k r' r'') : Ages k r r'' := by
  obtain ⟨ms, hnow, hlive⟩ := h
  obtain ⟨ms', hnow', hlive'⟩ := h'
  refine ⟨ms + ms', by omega, ?_⟩
  have hentries : (r.wait (ms + ms')).entries k = ((r.wait ms).wait ms').entries k := rfl
  have hwait : (r.wait (ms + ms')).live k = ((r.wait ms).wait ms').live k := by
    rw [live, live, hentries]
    congr 2
    funext e
    change decide (r.now + (ms + ms') < e.2) = decide (r.now + ms + ms' < e.2)
    rw [Nat.add_assoc]
  rw [hlive', hwait, live_wait_eq, live_wait_eq, hlive, hnow]
  rfl

theorem get_wait_congr (hnow : r'.now = r.now) (hlive : r'.live k = r.live k) :
    (r'.wait ms).get k = (r.wait ms).get k := by
  rw [get, get, live_wait_eq, live_wait_eq, hnow, hlive]

theorem Ages.gone (h : Ages k r r') (hgone : r.get k = none) : r'.get k = none := by
  obtain ⟨ms, -, hlive⟩ := h
  rw [get_eq_none] at hgone ⊢
  rw [hlive, live_wait_eq, hgone]
  rfl

theorem wait_wait {ms' : Nat} : (r.wait ms).wait ms' = r.wait (ms + ms') := by
  simp only [wait, Nat.add_assoc]

/-- The instant at which the entry of a key vanishes, or has vanished. -/
def deadline (r : Keyspace κ V) (k : κ) : Option Nat := (r.entries k).map Prod.snd

@[simp] theorem deadline_wait : (r.wait ms).deadline k = r.deadline k := rfl

theorem deadline_of_live (h : r.live k = some e) : r.deadline k = some e.2 := by
  obtain ⟨hentry, -⟩ := Option.filter_eq_some_iff.mp h
  rw [deadline, hentry]
  rfl

theorem deadline_le_of_gone {d : Nat} (h : r.live k = none) (hd : r.deadline k = some d) :
    d ≤ r.now := by
  obtain ⟨e, hentry, rfl⟩ := Option.map_eq_some_iff.mp hd
  rw [live, hentry, Option.filter_eq_none_iff] at h
  simpa using h e rfl

theorem ttl_of_live (h : r.live k = some e) : r.ttl k = ((e.2 - r.now + 500) / 1000 : Nat) := by
  rw [ttl, h]

theorem ttl_of_gone (h : r.live k = none) : r.ttl k = -2 := by
  rw [ttl, h]

/-- The time left of a key does not grow by itself. -/
theorem ttl_wait_le : (r.wait ms).ttl k ≤ r.ttl k := by
  cases hwait : (r.wait ms).live k with
  | none =>
      rw [ttl_of_gone hwait]
      cases hlive : r.live k with
      | none => exact Int.le_of_eq (ttl_of_gone hlive).symm
      | some e =>
          rw [ttl_of_live hlive]
          omega
  | some e =>
      have hnow : (r.wait ms).now = r.now + ms := rfl
      rw [ttl_of_live hwait, ttl_of_live (live_wait hwait), hnow]
      omega

theorem deadline_lt_of_ttl (h : r.live k = some e) (httl : r.ttl k ≤ 0) : e.2 < r.now + 500 := by
  rw [ttl_of_live h] at httl
  omega

variable [DecidableEq κ]

def put (r : Keyspace κ V) (k : κ) (e : Option (V k × Nat)) : Keyspace κ V :=
  { r with entries := Function.update r.entries k e }

def setex (r : Keyspace κ V) (k : κ) (seconds : Nat) (v : V k) : Keyspace κ V :=
  r.put k (some (v, r.now + seconds * 1000))

def del (r : Keyspace κ V) (k : κ) : Keyspace κ V := r.put k none

/-- A time to live that is not positive deletes the key. -/
def expire (r : Keyspace κ V) (k : κ) (seconds : Int) : Keyspace κ V :=
  match r.live k with
  | some e => if seconds ≤ 0 then r.del k else r.put k (some (e.1, r.now + seconds.toNat * 1000))
  | none => r

@[simp] theorem put_now (e : Option (V k × Nat)) : (r.put k e).now = r.now := rfl

@[simp] theorem setex_now : (r.setex k seconds v).now = r.now := rfl

@[simp] theorem del_now : (r.del k).now = r.now := rfl

@[simp] theorem live_put_self (e : Option (V k × Nat)) :
    (r.put k e).live k = e.filter fun e => r.now < e.2 := by
  change (Function.update r.entries k e k).filter (fun e => r.now < e.2) = _
  rw [Function.update_self]

theorem live_put_of_ne (e : Option (V k × Nat)) (h : k' ≠ k) : (r.put k e).live k' = r.live k' := by
  change (Function.update r.entries k e k').filter (fun e => r.now < e.2) = _
  rw [Function.update_of_ne h, live]

/-- A new value in the place of one that has not vanished. -/
theorem live_put_map (f : V k → V k) :
    (r.put k ((r.live k).map fun e => (f e.1, e.2))).live k =
      (r.live k).map fun e => (f e.1, e.2) := by
  rw [live_put_self]
  cases hlive : r.live k with
  | none => rfl
  | some e =>
      have hlt := live_lt hlive
      simp [Option.filter, hlt]

theorem live_setex_self (h : 0 < seconds) :
    (r.setex k seconds v).live k = some (v, r.now + seconds * 1000) := by
  simp [setex, h]

theorem get_of_setex {v' : V k} (h : (r.setex k seconds v).get k = some v') : v' = v := by
  obtain ⟨deadline, hlive⟩ := get_eq_some.mp h
  rw [setex, live_put_self, Option.filter_eq_some_iff, Option.some.injEq] at hlive
  exact (congrArg Prod.fst hlive.1).symm

theorem live_setex_of_ne (h : k' ≠ k) : (r.setex k seconds v).live k' = r.live k' :=
  live_put_of_ne _ h

@[simp] theorem live_del_self : (r.del k).live k = none := by
  simp [del]

theorem live_del_of_ne (h : k' ≠ k) : (r.del k).live k' = r.live k' := live_put_of_ne _ h

@[simp] theorem expire_now (seconds : Int) : (r.expire k seconds).now = r.now := by
  unfold expire
  split
  · split <;> simp
  · rfl

/-- An extension leaves the value of its key and can only move its deadline. -/
theorem live_expire_self {seconds : Int} (h : (r.expire k seconds).live k = some e) :
    ∃ deadline, r.live k = some (e.1, deadline) ∧ (e.2 : Int) = r.now + seconds * 1000 := by
  unfold expire at h
  split at h
  · rename_i e' hlive
    split at h
    · simp at h
    · rename_i hpos
      simp only [live_put_self, Option.filter_eq_some_iff, Option.some.injEq] at h
      obtain ⟨rfl, -⟩ := h
      exact ⟨e'.2, hlive, by simp; omega⟩
  · rename_i hlive
    exact absurd (hlive ▸ h) (by simp)

theorem live_expire_of_ne {seconds : Int} (h : k' ≠ k) :
    (r.expire k seconds).live k' = r.live k' := by
  unfold expire
  split
  · split
    · exact live_del_of_ne h
    · exact live_put_of_ne _ h
  · rfl

theorem get_of_del {v : V k'} (h : (r.del k).get k' = some v) : r.get k' = some v := by
  by_cases hk : k' = k
  · subst hk
    simp [get] at h
  · rwa [get, live_del_of_ne hk] at h

theorem get_of_expire {v : V k'} {seconds : Int} (h : (r.expire k seconds).get k' = some v) :
    r.get k' = some v := by
  by_cases hk : k' = k
  · subst hk
    obtain ⟨deadline, hlive⟩ := get_eq_some.mp h
    obtain ⟨before, hbefore, -⟩ := live_expire_self hlive
    exact get_eq_some.mpr ⟨before, hbefore⟩
  · rwa [get, live_expire_of_ne hk] at h

theorem live_of_del {e : V k' × Nat} (h : (r.del k).live k' = some e) : r.live k' = some e := by
  by_cases hk : k' = k
  · subst hk
    simp at h
  · rwa [live_del_of_ne hk] at h

theorem live_expire_pos {seconds : Int} (h : r.live k = some e) (hpos : 0 < seconds) :
    (r.expire k seconds).live k = some (e.1, r.now + seconds.toNat * 1000) := by
  have hlt : r.now < r.now + seconds.toNat * 1000 := by omega
  rw [expire, h]
  simp only [if_neg (Int.not_le.mpr hpos), live_put_self]
  exact Option.filter_eq_some_iff.mpr ⟨rfl, decide_eq_true hlt⟩

theorem expire_gone {seconds : Int} (h : r.live k = none) : r.expire k seconds = r := by
  rw [expire, h]

/-- Extensions of several keys, one after the other. -/
def expireAll (r : Keyspace κ V) (qs : List (κ × Int)) : Keyspace κ V :=
  qs.foldl (fun r q => r.expire q.1 q.2) r

@[simp] theorem expireAll_now (qs : List (κ × Int)) : (r.expireAll qs).now = r.now := by
  induction qs generalizing r with
  | nil => rfl
  | cons q qs ih => exact ih.trans (expire_now q.2)

theorem expireAll_append (qs qs' : List (κ × Int)) :
    r.expireAll (qs ++ qs') = (r.expireAll qs).expireAll qs' :=
  List.foldl_append

theorem deadline_expire_of_ne {seconds : Int} (h : k' ≠ k) :
    (r.expire k seconds).deadline k' = r.deadline k' := by
  have hput : ∀ e, (r.put k e).deadline k' = r.deadline k' := by
    intro e
    simp only [deadline, put, Function.update_of_ne h]
  unfold expire
  split
  · split
    · exact hput _
    · exact hput _
  · rfl

/-- An extension leaves the values alone. -/
theorem value_expire {seconds : Int} (hpos : 0 < seconds) :
    ((r.expire k seconds).entries k').map Prod.fst = (r.entries k').map Prod.fst := by
  cases hlive : r.live k with
  | none => rw [expire_gone hlive]
  | some e =>
      obtain ⟨hentry, -⟩ := Option.filter_eq_some_iff.mp hlive
      rw [expire, hlive]
      simp only [if_neg (Int.not_le.mpr hpos), put]
      by_cases hk : k' = k
      · subst hk
        rw [Function.update_self, hentry]
        rfl
      · rw [Function.update_of_ne hk]

theorem value_expireAll {qs : List (κ × Int)} (hpos : ∀ q ∈ qs, 0 < q.2) :
    ((r.expireAll qs).entries k).map Prod.fst = (r.entries k).map Prod.fst := by
  induction qs generalizing r with
  | nil => rfl
  | cons q qs ih =>
      exact (ih fun q' hq' => hpos q' (List.mem_cons_of_mem _ hq')).trans
        (value_expire (hpos q List.mem_cons_self))

/-- A key that has vanished is not brought back. -/
theorem deadline_expireAll_gone {qs : List (κ × Int)} (h : r.live k = none) :
    (r.expireAll qs).deadline k = r.deadline k := by
  induction qs generalizing r with
  | nil => rfl
  | cons q qs ih =>
      by_cases hk : k = q.1
      · subst hk
        have hsame : r.expire q.1 q.2 = r := expire_gone h
        rw [expireAll, List.foldl_cons, hsame]
        exact ih h
      · have hlive : (r.expire q.1 q.2).live k = none := (live_expire_of_ne hk).trans h
        exact (ih hlive).trans (deadline_expire_of_ne hk)

theorem live_expireAll_of_ne {qs : List (κ × Int)} (h : ∀ q ∈ qs, q.1 ≠ k) :
    (r.expireAll qs).live k = r.live k := by
  induction qs generalizing r with
  | nil => rfl
  | cons q qs ih =>
      have hq : k ≠ q.1 := Ne.symm (h q List.mem_cons_self)
      exact (ih fun q' hq' => h q' (List.mem_cons_of_mem _ hq')).trans (live_expire_of_ne hq)

/-- A live key gets the deadline of its last extension, which is the least if the extensions
of one key do not grow. -/
theorem live_expireAll {qs : List (κ × Int)} (hpos : ∀ q ∈ qs, 0 < q.2)
    (hfall : qs.Pairwise fun q q' => q.1 = q'.1 → q'.2 ≤ q.2) (hlive : r.live k = some e)
    (hmem : ∃ q ∈ qs, q.1 = k) :
    ∃ seconds, (k, seconds) ∈ qs ∧ (∀ q ∈ qs, q.1 = k → seconds ≤ q.2) ∧
      (r.expireAll qs).live k = some (e.1, r.now + seconds.toNat * 1000) := by
  induction qs generalizing r e with
  | nil =>
      obtain ⟨q, hq, -⟩ := hmem
      cases hq
  | cons q qs ih =>
      obtain ⟨hhead, hfall⟩ := List.pairwise_cons.mp hfall
      have hpos' : ∀ q ∈ qs, 0 < q.2 := fun q' hq' => hpos q' (List.mem_cons_of_mem _ hq')
      -- the entry that the rest of the extensions finds
      obtain ⟨e', hlive', hvalue⟩ : ∃ e', (r.expire q.1 q.2).live k = some e' ∧ e'.1 = e.1 := by
        by_cases hk : q.1 = k
        · subst hk
          exact ⟨_, live_expire_pos hlive (hpos q List.mem_cons_self), rfl⟩
        · exact ⟨e, (live_expire_of_ne (Ne.symm hk)).trans hlive, rfl⟩
      by_cases hrest : ∃ q' ∈ qs, q'.1 = k
      · obtain ⟨seconds, hseconds, hleast, hfinal⟩ := ih hpos' hfall hlive' hrest
        refine ⟨seconds, List.mem_cons_of_mem _ hseconds, ?_, ?_⟩
        · intro q' hq' hk
          cases List.mem_cons.mp hq' with
          | inl heq =>
              subst heq
              exact hhead _ hseconds hk
          | inr hq' => exact hleast q' hq' hk
        · rw [hvalue, expire_now] at hfinal
          exact hfinal
      · obtain ⟨q', hq', hk⟩ := hmem
        have heq : q' = q := by
          cases List.mem_cons.mp hq' with
          | inl heq => exact heq
          | inr hq' => exact absurd ⟨q', hq', hk⟩ hrest
        subst heq hk
        refine ⟨q'.2, List.mem_cons_self, ?_, ?_⟩
        · intro q hq hk
          cases List.mem_cons.mp hq with
          | inl heq => exact Int.le_of_eq (by rw [heq])
          | inr hq => exact absurd ⟨q, hq, hk⟩ hrest
        · have hnone : ∀ q ∈ qs, q.1 ≠ q'.1 := fun q hq hk => hrest ⟨q, hq, hk⟩
          exact (live_expireAll_of_ne hnone).trans
            (live_expire_pos hlive (hpos q' List.mem_cons_self))

/-- A key outlasts an instant after the extensions if it is extended while it lives, and every
extension of it goes that far. -/
theorem deadline_expireAll_iff {qs : List (κ × Int)} {instant : Nat} (hpos : ∀ q ∈ qs, 0 < q.2)
    (hfall : qs.Pairwise fun q q' => q.1 = q'.1 → q'.2 ≤ q.2) (hnow : r.now < instant)
    (hshort : (∀ q ∈ qs, q.1 ≠ k) → ∀ e, r.live k = some e → e.2 < instant) :
    (∃ d, (r.expireAll qs).deadline k = some d ∧ instant ≤ d) ↔
      r.live k ≠ none ∧ (∃ q ∈ qs, q.1 = k) ∧
        ∀ q ∈ qs, q.1 = k → (instant : Int) ≤ r.now + q.2 * 1000 := by
  cases hlive : r.live k with
  | none =>
      rw [deadline_expireAll_gone hlive]
      constructor
      · rintro ⟨d, hd, hlate⟩
        have hbefore := deadline_le_of_gone hlive hd
        omega
      · rintro ⟨hne, -⟩
        exact absurd rfl hne
  | some e =>
      by_cases hmem : ∃ q ∈ qs, q.1 = k
      · obtain ⟨seconds, hseconds, hleast, hfinal⟩ := live_expireAll hpos hfall hlive hmem
        have hpositive := hpos _ hseconds
        rw [deadline_of_live hfinal]
        constructor
        · rintro ⟨d, heq, hlate⟩
          cases heq
          refine ⟨by simp, hmem, ?_⟩
          intro q hq hk
          have hle := hleast q hq hk
          simp only at hlate hpositive
          omega
        · rintro ⟨-, -, hall⟩
          have hlate := hall _ hseconds rfl
          refine ⟨_, rfl, ?_⟩
          simp only at hlate hpositive ⊢
          omega
      · have hnone : ∀ q ∈ qs, q.1 ≠ k := fun q hq hk => hmem ⟨q, hq, hk⟩
        have hsame : (r.expireAll qs).live k = some e := (live_expireAll_of_ne hnone).trans hlive
        rw [deadline_of_live hsame]
        constructor
        · rintro ⟨d, heq, hlate⟩
          cases heq
          exact absurd (hshort hnone e hlive) (Nat.not_lt.mpr hlate)
        · rintro ⟨-, hmem', -⟩
          exact absurd hmem' hmem

end Keyspace
