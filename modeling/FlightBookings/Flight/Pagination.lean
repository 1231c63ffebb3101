import Mathlib.Data.Rat.Floor
import Mathlib.Tactic.Linarith

/-! # Pages

A listing answers with one page of its rows and says whether there is a next one. A client starts at
the first page and goes on as long as there is.
-/

namespace FlightBookings.Flight

/-! ## The response -/

/-- A number of pages. A division by zero gives no integer. -/
inductive PageCount where
  | finite (n : Int)
  | infinite
  | notANumber
deriving DecidableEq

namespace PageCount

/-- `Math.ceil(total / limit)` -/
def of (total : Nat) (limit : Int) : PageCount :=
  if limit = 0 then
    if total = 0 then .notANumber else .infinite
  else .finite ⌈(total : ℚ) / limit⌉

/-- `page < totalPages` -/
def exceeds (page : Int) : PageCount → Bool
  | .finite n => page < n
  | .infinite => true
  | .notANumber => false

theorem exceeds_of {total : Nat} {limit page : Int} (h : 0 < limit) :
    (of total limit).exceeds page = true ↔ page * limit < total := by
  have hcast : (0 : ℚ) < limit := by exact_mod_cast h
  rw [of, if_neg (Int.ne_of_gt h), exceeds, decide_eq_true_iff, Int.lt_ceil, lt_div_iff₀ hcast]
  exact_mod_cast Iff.rfl

/-- Without rows there is no page behind the first. -/
theorem exceeds_empty {limit : Int} : (of 0 limit).exceeds 1 = false := by
  unfold of
  split <;> simp [exceeds]

end PageCount

structure PaginationMeta where
  page : Int
  limit : Int
  total : Nat
  totalPages : PageCount
  hasPrevious : Bool
  hasNext : Bool
deriving DecidableEq

def PaginationMeta.new (page limit : Int) (total : Nat) : PaginationMeta :=
  { page := page
    limit := limit
    total := total
    totalPages := .of total limit
    hasPrevious := page > 1
    hasNext := (PageCount.of total limit).exceeds page }

structure PaginatedResponseDto (α : Type) where
  data : List α
  «meta» : PaginationMeta
deriving DecidableEq

def PaginatedResponseDto.create {α : Type} (data : List α) (page limit : Int) (total : Nat) :
    PaginatedResponseDto α :=
  ⟨data, .new page limit total⟩

/-! ## The rows of a page -/

section Rows

variable {α β : Type} {rows : List α} {skip take : Int}

/-- The rows at the positions from `skip` on, up to `skip + take`. -/
def between (skip take : Int) (rows : List α) : List α :=
  (rows.take (skip + take).toNat).drop skip.toNat

theorem between_map (f : α → β) : between skip take (rows.map f) = (between skip take rows).map f := by
  simp [between]

theorem between_subset {r : α} (h : r ∈ between skip take rows) : r ∈ rows :=
  List.mem_of_mem_take (List.mem_of_mem_drop h)

/-- A page that takes no row is empty. -/
theorem between_nonpos (h : take ≤ 0) : between skip take rows = [] := by
  refine List.drop_eq_nil_of_le ?_
  have hle : (skip + take).toNat ≤ skip.toNat := by omega
  exact (List.length_take_le _ _).trans hle

/-- The rows of a page and the ones behind it are the ones behind the page in front of it. -/
theorem between_append_drop (hskip : 0 ≤ skip) (htake : 0 ≤ take) :
    between skip take rows ++ rows.drop (skip + take).toNat = rows.drop skip.toNat := by
  have hsum : (skip + take).toNat = skip.toNat + take.toNat := Int.toNat_add hskip htake
  rw [between, hsum, ← List.drop_drop, List.drop_take, Nat.add_sub_cancel_left]
  exact List.take_append_drop _ _

theorem between_last (h : (rows.length : Int) ≤ skip + take) :
    between skip take rows = rows.drop skip.toNat := by
  rw [between, List.take_of_length_le (by omega)]

end Rows

/-! ## Following the pages -/

section Follow

variable {α : Type}

/-- The pages that a client sees from one on, unless its patience ends first. -/
def follow (fetch : Int → PaginatedResponseDto α) : Nat → Int → Option (List (PaginatedResponseDto α))
  | 0, _ => none
  | fuel + 1, page =>
      if (fetch page).meta.hasNext then (follow fetch fuel (page + 1)).map (fetch page :: ·)
      else some [fetch page]

/-- The pages come to an end, they hold every row once and in order, and each tells how many there
are. -/
def Partitions (fetch : Int → PaginatedResponseDto α) (rows : List α) : Prop :=
  ∃ fuel pages, follow fetch fuel 1 = some pages ∧ pages.flatMap PaginatedResponseDto.data = rows ∧
    ∀ p ∈ pages, p.meta.total = rows.length

/-- The listing of some rows by pages. -/
def paged (rows : List α) (limit page : Int) : PaginatedResponseDto α :=
  .create (between ((page - 1) * limit) limit rows) page limit rows.length

variable {rows : List α} {limit : Int}

theorem fetched_of_follow {fetch : Int → PaginatedResponseDto α} {fuel : Nat} {page : Int}
    {pages : List (PaginatedResponseDto α)} (h : follow fetch fuel page = some pages) :
    ∀ p ∈ pages, ∃ page', p = fetch page' := by
  induction fuel generalizing page pages with
  | zero => cases h
  | succ fuel ih =>
      unfold follow at h
      split at h
      · obtain ⟨rest, hrest, rfl⟩ := Option.map_eq_some_iff.mp h
        intro p hp
        rcases List.mem_cons.mp hp with rfl | hp
        · exact ⟨page, rfl⟩
        · exact ih hrest p hp
      · cases h
        intro p hp
        exact ⟨page, List.mem_singleton.mp hp⟩

/-- From a page on, a client sees the rows behind the pages in front of it. The number of rows that
are left bounds the number of pages. -/
theorem follow_paged (rows : List α) (hlimit : 1 ≤ limit) (fuel : Nat) (page : Int) (hpage : 1 ≤ page)
    (hfuel : (rows.length : Int) < page + fuel) :
    ∃ pages, follow (paged rows limit) (fuel + 1) page = some pages ∧
      pages.flatMap PaginatedResponseDto.data = rows.drop ((page - 1) * limit).toNat := by
  have hskip : 0 ≤ (page - 1) * limit := Int.mul_nonneg (by omega) (by omega)
  have hend : (page - 1) * limit + limit = page * limit := by ring
  have hgrow : page ≤ page * limit := le_mul_of_one_le_right (by omega) hlimit
  induction fuel generalizing page with
  | zero =>
      -- too few rows are left for a next page
      have hlast : ¬page * limit < rows.length := by omega
      have hnext : (paged rows limit page).meta.hasNext = false := by
        rw [← Bool.not_eq_true]
        exact fun h => hlast ((PageCount.exceeds_of (by omega)).mp h)
      refine ⟨[paged rows limit page], by simp [follow, hnext], ?_⟩
      rw [List.flatMap_singleton]
      exact between_last (by omega)
  | succ fuel ih =>
      by_cases hmore : page * limit < rows.length
      · have hnext : (paged rows limit page).meta.hasNext = true :=
          (PageCount.exceeds_of (by omega)).mpr hmore
        have hskip' : (page + 1 - 1) * limit = page * limit := by ring
        obtain ⟨pages, hpages, hdata⟩ := ih (page + 1) (by omega) (by push_cast at hfuel; omega)
          (by rw [hskip']; omega) (by ring) (le_mul_of_one_le_right (by omega) hlimit)
        refine ⟨paged rows limit page :: pages, by rw [follow, if_pos hnext, hpages]; rfl, ?_⟩
        rw [List.flatMap_cons, hdata, hskip', ← hend]
        exact between_append_drop hskip (by omega)
      · have hnext : (paged rows limit page).meta.hasNext = false := by
          rw [← Bool.not_eq_true]
          exact fun h => hmore ((PageCount.exceeds_of (by omega)).mp h)
        refine ⟨[paged rows limit page], by simp [follow, hnext], ?_⟩
        rw [List.flatMap_singleton]
        exact between_last (by omega)

theorem total_of_follow {fuel : Nat} {page : Int} {pages : List (PaginatedResponseDto α)}
    (h : follow (paged rows limit) fuel page = some pages) :
    ∀ p ∈ pages, p.meta.total = rows.length := by
  intro p hp
  obtain ⟨page', rfl⟩ := fetched_of_follow h p hp
  rfl

/-- The pages of a listing hold its rows exactly when they have room for one, or there is none. -/
theorem partitions_paged_iff : Partitions (paged rows limit) rows ↔ 1 ≤ limit ∨ rows = [] := by
  constructor
  · intro h
    obtain ⟨fuel, pages, hfollow, hdata, -⟩ := h
    rw [or_iff_not_imp_left]
    intro hlimit
    rw [← hdata, List.flatMap_eq_nil_iff]
    intro p hp
    obtain ⟨page, rfl⟩ := fetched_of_follow hfollow p hp
    exact between_nonpos (by omega)
  · rintro (hlimit | rfl)
    · obtain ⟨pages, hfollow, hdata⟩ := follow_paged rows hlimit rows.length 1
        (by omega) (by omega)
      refine ⟨rows.length + 1, pages, hfollow, ?_, total_of_follow hfollow⟩
      rw [hdata, show (1 - 1) * limit = 0 by ring]
      rfl
    · have hnext : (paged ([] : List α) limit 1).meta.hasNext = false := PageCount.exceeds_empty
      have hfollow : follow (paged ([] : List α) limit) 1 1 = some [paged [] limit 1] := by
        simp [follow, hnext]
      refine ⟨1, _, hfollow, ?_, total_of_follow hfollow⟩
      simp [paged, between, PaginatedResponseDto.create]

end Follow

end FlightBookings.Flight
