import Mathlib.Data.List.Nodup

/-! # Tables

The rows of a table, read and changed through a key of theirs.
-/

namespace Table

variable {α κ : Type} [DecidableEq κ] (key : α → κ) {k k' : κ} {f : α → α} {r r' : α}
variable {rows : List α}

def find (k : κ) (rows : List α) : Option α := rows.find? fun r => key r = k

def modify (k : κ) (f : α → α) (rows : List α) : List α :=
  rows.map fun r => if key r = k then f r else r

/-- A row replaces the one of its key, or is new. -/
def upsert (r : α) (rows : List α) : List α :=
  if (find key (key r) rows).isSome then modify key (key r) (fun _ => r) rows else rows ++ [r]

variable {key}

theorem mem_of_find (h : find key k rows = some r) : r ∈ rows ∧ key r = k :=
  ⟨List.mem_of_find?_eq_some h, by simpa using List.find?_some h⟩

theorem find_eq_none : find key k rows = none ↔ ∀ r ∈ rows, key r ≠ k := by
  simp [find]

theorem mem_modify : r ∈ modify key k f rows ↔
    ∃ r' ∈ rows, (key r' = k ∧ r = f r') ∨ (key r' ≠ k ∧ r = r') := by
  simp only [modify, List.mem_map]
  constructor
  · intro h
    obtain ⟨r', hmem, heq⟩ := h
    by_cases hkey : key r' = k
    · exact ⟨r', hmem, .inl ⟨hkey, by rw [← heq, if_pos hkey]⟩⟩
    · exact ⟨r', hmem, .inr ⟨hkey, by rw [← heq, if_neg hkey]⟩⟩
  · intro h
    obtain ⟨r', hmem, hcase⟩ := h
    refine ⟨r', hmem, ?_⟩
    rcases hcase with ⟨hkey, heq⟩ | ⟨hkey, heq⟩
    · rw [if_pos hkey, heq]
    · rw [if_neg hkey, heq]

/-- A column that a modification leaves alone. -/
theorem map_modify {β : Type} {column : α → β} (hf : ∀ r, column (f r) = column r) :
    (modify key k f rows).map column = rows.map column := by
  rw [modify, List.map_map]
  refine List.map_congr_left ?_
  intro r _
  by_cases hkey : key r = k
  · simp [hkey, hf r]
  · simp [hkey]

theorem map_key_modify (hf : ∀ r, key r = k → key (f r) = k) :
    (modify key k f rows).map key = rows.map key := by
  rw [modify, List.map_map]
  refine List.map_congr_left ?_
  intro r _
  by_cases hkey : key r = k
  · simp [hkey, hf r hkey]
  · simp [hkey]

theorem modify_modify {g : α → α} (hf : ∀ r, key r = k → key (f r) = k) :
    modify key k g (modify key k f rows) = modify key k (fun r => g (f r)) rows := by
  rw [modify, modify, modify, List.map_map]
  refine List.map_congr_left ?_
  intro r _
  by_cases hkey : key r = k
  · simp [hkey, hf r hkey]
  · simp [hkey]

/-- To write a row that is there changes nothing. -/
theorem modify_self (hrows : (rows.map key).Nodup) (h : r ∈ rows) :
    modify key (key r) (fun _ => r) rows = rows := by
  refine (List.map_congr_left fun r' hr' => ?_).trans (List.map_id rows)
  by_cases hkey : key r' = key r
  · rw [if_pos hkey, List.inj_on_of_nodup_map hrows hr' h hkey]
    rfl
  · rw [if_neg hkey]
    rfl

theorem find_modify_self (hf : ∀ r, key r = k → key (f r) = k) :
    find key k (modify key k f rows) = (find key k rows).map f := by
  induction rows with
  | nil => rfl
  | cons r rows ih =>
      by_cases hkey : key r = k
      · simp [find, modify, hkey, hf r hkey]
      · simpa [find, modify, hkey] using ih

theorem find_modify_of_ne (hf : ∀ r, key r = k → key (f r) = k) (h : k' ≠ k) :
    find key k' (modify key k f rows) = find key k' rows := by
  induction rows with
  | nil => rfl
  | cons r rows ih =>
      have ih : (rows.map fun r => if key r = k then f r else r).find? (fun r => key r = k') =
          rows.find? fun r => key r = k' := ih
      by_cases hkey : key r = k
      · have hne : ¬key r = k' := fun heq => h (heq ▸ hkey)
        have hne' : ¬key (f r) = k' := fun heq => h (heq ▸ hf r hkey)
        rw [find, modify, List.map_cons, if_pos hkey, List.find?_cons_of_neg (by simpa using hne'),
          find, List.find?_cons_of_neg (by simpa using hne)]
        exact ih
      · rw [find, modify, List.map_cons, if_neg hkey, find]
        by_cases hkey' : key r = k'
        · rw [List.find?_cons_of_pos (by simpa using hkey'),
            List.find?_cons_of_pos (by simpa using hkey')]
        · rw [List.find?_cons_of_neg (by simpa using hkey'),
            List.find?_cons_of_neg (by simpa using hkey')]
          exact ih

theorem find_insert : find key k (rows ++ [r]) =
    (find key k rows).or (if key r = k then some r else none) := by
  simp only [find, List.find?_append]
  by_cases hkey : key r = k <;> simp [hkey]

theorem find_upsert_self : find key (key r) (upsert key r rows) = some r := by
  unfold upsert
  cases hfind : find key (key r) rows with
  | none =>
      rw [Option.isSome_none, if_neg Bool.false_ne_true, find_insert, hfind, if_pos rfl]
      rfl
  | some r' =>
      rw [Option.isSome_some, if_pos rfl, find_modify_self (fun _ _ => rfl), hfind]
      rfl

theorem find_upsert_of_ne (h : k ≠ key r) : find key k (upsert key r rows) = find key k rows := by
  unfold upsert
  split
  · exact find_modify_of_ne (fun _ _ => rfl) h
  · rw [find_insert, if_neg (Ne.symm h), Option.or_none]

/-- A row that agrees with the one it replaces leaves what it agrees about. -/
theorem map_upsert {β : Type} {f : α → β} (h : ∃ r' ∈ rows, key r' = key r)
    (hf : ∀ r' ∈ rows, key r' = key r → f r' = f r) : (upsert key r rows).map f = rows.map f := by
  have hfound : (find key (key r) rows).isSome := by
    cases hfind : find key (key r) rows with
    | some r' => rfl
    | none =>
        obtain ⟨r', hmem, hkey⟩ := h
        exact absurd hkey (find_eq_none.mp hfind r' hmem)
  rw [upsert, if_pos hfound, modify, List.map_map]
  refine List.map_congr_left ?_
  intro r' hmem
  by_cases hkey : key r' = key r
  · simp [hkey, hf r' hmem hkey]
  · simp [hkey]

theorem find_of_mem (hrows : (rows.map key).Nodup) (h : r ∈ rows) :
    find key (key r) rows = some r := by
  cases hfind : find key (key r) rows with
  | none => exact absurd rfl (find_eq_none.mp hfind r h)
  | some r' =>
      have hr' := mem_of_find hfind
      rw [List.inj_on_of_nodup_map hrows hr'.1 h hr'.2]

theorem nodup_insert (hrows : (rows.map key).Nodup) (h : find key (key r) rows = none) :
    ((rows ++ [r]).map key).Nodup := by
  rw [List.map_append, List.map_singleton, List.nodup_append]
  refine ⟨hrows, List.nodup_singleton _, ?_⟩
  intro k hk k' hk' heq
  rw [List.mem_singleton] at hk'
  subst hk'
  obtain ⟨r', hmem, hkey⟩ := List.mem_map.mp hk
  exact find_eq_none.mp h r' hmem (hkey.trans heq)

/-! ## Unique columns -/

/-- The keys come from a sequence: they are unique, and none is beyond the last one given. -/
structure Numbered (key : α → Int) (last : Int) (rows : List α) : Prop where
  nodup : (rows.map key).Nodup
  bounded : ∀ r ∈ rows, key r ≤ last

section Numbered

variable {number : α → Int} {last last' n : Int}

theorem Numbered.mono (h : Numbered number last rows) (hle : last ≤ last') :
    Numbered number last' rows where
  nodup := h.nodup
  bounded r hr := Int.le_trans (h.bounded r hr) hle

theorem Numbered.insert (h : Numbered number last rows) (hnumber : number r = last + 1) :
    Numbered number (last + 1) (rows ++ [r]) where
  nodup := by
    refine nodup_insert h.nodup (find_eq_none.mpr fun r' hr' heq => ?_)
    have hle := h.bounded r' hr'
    omega
  bounded r' hr' := by
    rcases List.mem_append.mp hr' with hold | hnew
    · have hle := h.bounded r' hold
      omega
    · have hlast : number r' = last + 1 := by rw [List.mem_singleton.mp hnew, hnumber]
      omega

theorem Numbered.modify (h : Numbered number last rows) (hf : ∀ r, number r = n → number (f r) = n) :
    Numbered number last (modify number n f rows) where
  nodup := by
    rw [map_key_modify hf]
    exact h.nodup
  bounded r hr := by
    obtain ⟨r', hr', ⟨hkey, rfl⟩ | ⟨-, rfl⟩⟩ := mem_modify.mp hr
    · rw [hf r' hkey, ← hkey]
      exact h.bounded r' hr'
    · exact h.bounded r hr'

end Numbered

/-- A column stays unique if the row that is changed gets a value that no other row has. -/
theorem nodup_map_modify {β : Type} {column : α → β} (hrows : (rows.map key).Nodup)
    (hcolumn : (rows.map column).Nodup)
    (hf : ∀ r ∈ rows, key r = k → ∀ r' ∈ rows, key r' ≠ k → column r' ≠ column (f r)) :
    ((modify key k f rows).map column).Nodup := by
  have hboth := (List.pairwise_map.mp hrows).and (List.pairwise_map.mp hcolumn)
  rw [modify, List.map_map]
  refine List.pairwise_map.mpr (hboth.imp_of_mem fun {r r'} hr hr' hne => ?_)
  simp only [Function.comp_apply]
  by_cases hkey : key r = k
  · have hkey' : key r' ≠ k := fun heq => hne.1 (hkey.trans heq.symm)
    rw [if_pos hkey, if_neg hkey']
    exact (hf r hr hkey r' hr' hkey').symm
  · rw [if_neg hkey]
    by_cases hkey' : key r' = k
    · rw [if_pos hkey']
      exact hf r' hr' hkey' r hr hkey
    · rw [if_neg hkey']
      exact hne.2

theorem nodup_map_insert {β : Type} {column : α → β} (hcolumn : (rows.map column).Nodup)
    (h : ∀ r' ∈ rows, column r' ≠ column r) : ((rows ++ [r]).map column).Nodup := by
  rw [List.map_append, List.map_singleton, List.nodup_append]
  refine ⟨hcolumn, by simp, ?_⟩
  intro c hc c' hc' heq
  rw [List.mem_singleton] at hc'
  subst hc'
  obtain ⟨r', hmem, hsame⟩ := List.mem_map.mp hc
  exact h r' hmem (hsame.trans heq)

theorem find_isSome_insert (h : (find key k rows).isSome) : (find key k (rows ++ [r])).isSome := by
  rw [find_insert, Option.isSome_or, h, Bool.true_or]

theorem find_isSome_modify (hf : ∀ r, key r = k' → key (f r) = k') (h : (find key k rows).isSome) :
    (find key k (modify key k' f rows)).isSome := by
  by_cases heq : k = k'
  · subst heq
    rwa [find_modify_self hf, Option.isSome_map]
  · rwa [find_modify_of_ne hf heq]

end Table
