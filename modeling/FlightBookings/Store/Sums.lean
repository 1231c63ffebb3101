import Mathlib.Algebra.BigOperators.Group.List.Basic
import Mathlib.Algebra.Order.BigOperators.Group.List
import Mathlib.Algebra.Order.Ring.Int
import Mathlib.Data.List.Nodup

/-! # Sums over rows

Two tables whose rows share keys, and a sum over the rows of each.
-/

namespace Table

variable {α β κ : Type}

/-- Each positive summand on the left has one on the right that is as large, and no other one has. -/
theorem sum_le_of_matched {key : α → κ} {key' : β → κ} {f : α → Int} {g : β → Int}
    {l : List α} {l' : List β}
    (hapart : l.Pairwise fun a a' => 0 < f a → 0 < f a' → key a ≠ key a')
    (hmatched : ∀ a ∈ l, 0 < f a → ∃ b ∈ l', key' b = key a ∧ f a ≤ g b)
    (hnonneg : ∀ b ∈ l', 0 ≤ g b) : (l.map f).sum ≤ (l'.map g).sum := by
  induction l generalizing l' with
  | nil =>
      refine List.sum_nonneg fun x hx => ?_
      obtain ⟨b, hb, rfl⟩ := List.mem_map.mp hx
      exact hnonneg b hb
  | cons a l ih =>
      rw [List.pairwise_cons] at hapart
      rw [List.map_cons, List.sum_cons]
      by_cases hpositive : 0 < f a
      · obtain ⟨b, hb, hkey, hle⟩ := hmatched a List.mem_cons_self hpositive
        obtain ⟨s, t, rfl⟩ := List.append_of_mem hb
        have htail : (l.map f).sum ≤ ((s ++ t).map g).sum := by
          refine ih hapart.2 (fun a' ha' hpositive' => ?_) fun b' hb' => hnonneg b' ?_
          · obtain ⟨b', hb', hkey', hle'⟩ := hmatched a' (List.mem_cons_of_mem a ha') hpositive'
            have hne : b' ≠ b := by
              rintro rfl
              exact hapart.1 a' ha' hpositive hpositive' (hkey.symm.trans hkey')
            refine ⟨b', ?_, hkey', hle'⟩
            simpa [hne] using hb'
          · rcases List.mem_append.mp hb' with hs | ht
            · exact List.mem_append_left _ hs
            · exact List.mem_append_right _ (List.mem_cons_of_mem b ht)
        simp only [List.map_append, List.map_cons, List.sum_append, List.sum_cons] at htail ⊢
        omega
      · have htail := ih hapart.2 (fun a' ha' => hmatched a' (List.mem_cons_of_mem a ha')) hnonneg
        omega

/-- A sum in groups. -/
theorem sum_by_key [DecidableEq κ] {key : α → κ} {f : α → Int} {l : List α}
    {keys : List κ} (hnodup : keys.Nodup) (hkeys : ∀ a ∈ l, f a ≠ 0 → key a ∈ keys) :
    (l.map f).sum = (keys.map fun k => ((l.filter fun a => key a = k).map f).sum).sum := by
  induction l with
  | nil => simp
  | cons a l ih =>
      have hgroup : ∀ k, (((a :: l).filter fun a => key a = k).map f).sum =
          ((l.filter fun a => key a = k).map f).sum + if k = key a then f a else 0 := by
        intro k
        by_cases hk : key a = k
        · simp [hk, Int.add_comm]
        · simp [hk, Ne.symm hk]
      have hone : (keys.map fun k => if k = key a then f a else 0).sum = f a := by
        rw [List.sum_map_ite_eq]
        by_cases hzero : f a = 0
        · simp [hzero]
        · simp [List.count_eq_one_of_mem hnodup (hkeys a List.mem_cons_self hzero)]
      simp only [hgroup]
      rw [List.sum_map_add, ← ih fun a' ha' => hkeys a' (List.mem_cons_of_mem a ha'), hone,
        List.map_cons, List.sum_cons]
      exact Int.add_comm ..

end Table
