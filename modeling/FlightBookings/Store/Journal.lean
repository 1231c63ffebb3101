import Mathlib.Data.List.Basic

/-! # Journals

The entries of several calls in one list, in the order in which they came. Each
call owns the entries that carry its number.
-/

namespace Journal

variable {β : Type} {i j : Nat} {x y : β} {log : List (Nat × β)}

/-- The entries of call `i`. -/
def entries (i : Nat) (log : List (Nat × β)) : List β :=
  (log.filter fun entry => entry.1 = i).map Prod.snd

/-- The entries of every call but `i`. -/
def others (i : Nat) (log : List (Nat × β)) : List β :=
  (log.filter fun entry => entry.1 ≠ i).map Prod.snd

def add (i : Nat) (x : β) (log : List (Nat × β)) : List (Nat × β) := log ++ [(i, x)]

/-- What remains when call `i` is through with its entries. -/
def drop (i : Nat) (log : List (Nat × β)) : List (Nat × β) :=
  log.filter fun entry => entry.1 ≠ i

theorem mem_entries : x ∈ entries i log ↔ (i, x) ∈ log := by
  simp only [entries, List.mem_map, List.mem_filter, decide_eq_true_eq]
  constructor
  · intro h
    obtain ⟨⟨k, y⟩, ⟨hmem, hk⟩, hy⟩ := h
    cases hk
    cases hy
    exact hmem
  · intro h
    exact ⟨(i, x), ⟨h, rfl⟩, rfl⟩

theorem mem_others : x ∈ others i log ↔ ∃ j, j ≠ i ∧ (j, x) ∈ log := by
  simp only [others, List.mem_map, List.mem_filter, decide_eq_true_eq]
  constructor
  · intro h
    obtain ⟨⟨k, y⟩, ⟨hmem, hk⟩, hy⟩ := h
    cases hy
    exact ⟨k, hk, hmem⟩
  · intro h
    obtain ⟨k, hk, hmem⟩ := h
    exact ⟨(k, x), ⟨hmem, hk⟩, rfl⟩

@[simp] theorem entries_add_self : entries i (add i x log) = entries i log ++ [x] := by
  simp [entries, add]

theorem entries_add_of_ne (h : j ≠ i) : entries j (add i x log) = entries j log := by
  simp [entries, add, Ne.symm h]

@[simp] theorem entries_drop_self : entries i (drop i log) = [] := by
  simp [entries, drop, List.filter_filter]

theorem entries_drop_of_ne (h : j ≠ i) : entries j (drop i log) = entries j log := by
  rw [entries, entries, drop, List.filter_filter]
  congr 1
  refine List.filter_congr ?_
  intro entry _
  by_cases hj : entry.1 = j
  · simp [hj, h]
  · simp [hj]

end Journal
