import Mathlib.Data.List.Forall2
import Mathlib.Data.List.Infix

/-! # Patterns of texts

The patterns of `LIKE` and `ILIKE`: a percent sign stands for any text, an
underscore for any character, and a backslash takes the character after it as
it is. A pattern is the same test as an equality only where none of the three
occurs in it.
-/

namespace Like

/-! ## Patterns -/

inductive Token (α : Type) where
  | one (a : α)
  | any
  | many
deriving DecidableEq

namespace Token

variable {α β : Type}

def map (f : α → β) : Token α → Token β
  | one a => one (f a)
  | any => any
  | many => many

/-- The piece of a text that a token stands for. -/
def Fits : Token α → List α → Prop
  | one a, piece => piece = [a]
  | any, piece => ∃ a, piece = [a]
  | many, _ => True

end Token

section Matching

variable {α : Type} [DecidableEq α] {ts : List (Token α)} {text : List α}

def accepts : List (Token α) → List α → Bool
  | [], text => text.isEmpty
  | .one _ :: _, [] => false
  | .one a :: ts, b :: text => a = b && accepts ts text
  | .any :: _, [] => false
  | .any :: ts, _ :: text => accepts ts text
  | .many :: ts, text => text.tails.any fun rest => accepts ts rest

/-- A pattern accepts a text that falls into pieces, one for each token. -/
theorem accepts_iff : accepts ts text = true ↔
    ∃ pieces, List.Forall₂ Token.Fits ts pieces ∧ pieces.flatten = text := by
  induction ts generalizing text with
  | nil =>
      constructor
      · intro h
        exact ⟨[], .nil, (List.isEmpty_iff.mp h).symm⟩
      · intro h
        obtain ⟨pieces, hfits, htext⟩ := h
        cases hfits
        exact List.isEmpty_iff.mpr htext.symm
  | cons t ts ih =>
      simp only [List.forall₂_cons_left_iff]
      cases t with
      | one a =>
          cases text with
          | nil => simp [accepts, Token.Fits]
          | cons b text =>
              simp only [accepts, Token.Fits, Bool.and_eq_true, decide_eq_true_eq, ih]
              constructor
              · intro h
                obtain ⟨rfl, pieces, hfits, rfl⟩ := h
                exact ⟨[a] :: pieces, ⟨[a], pieces, rfl, hfits, rfl⟩, rfl⟩
              · intro h
                obtain ⟨_, ⟨_, pieces, rfl, hfits, rfl⟩, htext⟩ := h
                rw [List.flatten_cons, List.singleton_append, List.cons.injEq] at htext
                exact ⟨htext.1, pieces, hfits, htext.2⟩
      | any =>
          cases text with
          | nil => simp [accepts, Token.Fits]
          | cons b text =>
              simp only [accepts, Token.Fits, ih]
              constructor
              · intro h
                obtain ⟨pieces, hfits, rfl⟩ := h
                exact ⟨[b] :: pieces, ⟨[b], pieces, ⟨b, rfl⟩, hfits, rfl⟩, rfl⟩
              · intro h
                obtain ⟨_, ⟨_, pieces, ⟨a, rfl⟩, hfits, rfl⟩, htext⟩ := h
                rw [List.flatten_cons, List.singleton_append, List.cons.injEq] at htext
                exact ⟨pieces, hfits, htext.2⟩
      | many =>
          simp only [accepts, List.any_eq_true, List.mem_tails, ih]
          constructor
          · intro h
            obtain ⟨rest, ⟨skipped, hskipped⟩, pieces, hfits, hrest⟩ := h
            refine ⟨skipped :: pieces, ⟨skipped, pieces, trivial, hfits, rfl⟩, ?_⟩
            rw [List.flatten_cons, hrest, hskipped]
          · intro h
            obtain ⟨_, ⟨skipped, pieces, _, hfits, rfl⟩, htext⟩ := h
            exact ⟨pieces.flatten, ⟨skipped, htext⟩, pieces, hfits, rfl⟩

/-- A pattern of characters alone accepts itself and nothing else. -/
theorem accepts_ones {cs : List α} : accepts (cs.map .one) text = true ↔ text = cs := by
  induction cs generalizing text with
  | nil => exact List.isEmpty_iff
  | cons c cs ih =>
      cases text with
      | nil => simp [accepts]
      | cons b text => simp [accepts, ih, eq_comm (a := c)]

end Matching

/-! ## The syntax of patterns -/

def Special (c : Char) : Prop := c = '%' ∨ c = '_' ∨ c = '\\'

instance (c : Char) : Decidable (Special c) := inferInstanceAs (Decidable (_ ∨ _))

def token (c : Char) : Token Char :=
  if c = '%' then .many else if c = '_' then .any else .one c

/-- The tokens of a pattern, in whose middle a backslash may have been read. No pattern ends in a
backslash. -/
def parse : (escaped : Bool) → List Char → Option (List (Token Char))
  | false, [] => some []
  | true, [] => none
  | true, c :: cs => (parse false cs).map (.one c :: ·)
  | false, c :: cs => if c = '\\' then parse true cs else (parse false cs).map (token c :: ·)

/-- A text that differs from every character of a pattern with a meaning. -/
def sample : Token Char → Char
  | .one a => a
  | .any => '%'
  | .many => '_'

theorem sample_token {c : Char} (h : c ≠ '\\') : sample (token c) = c ↔ ¬Special c := by
  unfold token
  split
  · rename_i hc
    subst hc
    decide
  · split
    · rename_i hc
      subst hc
      decide
    · simp_all [sample, Special]

theorem fits_sample (t : Token Char) : t.Fits [sample t] := by
  cases t with
  | one a => rfl
  | any => exact ⟨'%', rfl⟩
  | many => trivial

theorem accepts_sample (ts : List (Token Char)) : accepts ts (ts.map sample) = true := by
  refine accepts_iff.mpr ⟨ts.map fun t => [sample t], ?_, ?_⟩
  · rw [List.forall₂_map_right_iff]
    exact List.forall₂_same.mpr fun t _ => fits_sample t
  · rw [← List.flatMap_def]
    exact List.map_eq_flatMap.symm

theorem parse_plain {cs : List Char} (h : ∀ c ∈ cs, ¬Special c) :
    parse false cs = some (cs.map .one) := by
  induction cs with
  | nil => rfl
  | cons c cs ih =>
      obtain ⟨hc, hcs⟩ := List.forall_mem_cons.mp h
      simp only [Special, not_or] at hc
      simp [parse, token, hc, ih hcs]

theorem length_parse {escaped : Bool} {cs : List Char} {ts : List (Token Char)}
    (h : parse escaped cs = some ts) : ts.length ≤ cs.length := by
  induction cs generalizing escaped ts with
  | nil =>
      cases escaped with
      | true => cases h
      | false =>
          cases h
          exact Nat.le_refl 0
  | cons c cs ih =>
      cases escaped with
      | true =>
          obtain ⟨rest, hrest, rfl⟩ := Option.map_eq_some_iff.mp h
          exact Nat.succ_le_succ (ih hrest)
      | false =>
          rw [parse] at h
          split at h
          · exact Nat.le_succ_of_le (ih h)
          · obtain ⟨rest, hrest, rfl⟩ := Option.map_eq_some_iff.mp h
            exact Nat.succ_le_succ (ih hrest)

/-- The sample of a pattern is the pattern only where no character of it has a meaning. -/
theorem plain_of_sample {cs : List Char} {ts : List (Token Char)} (h : parse false cs = some ts)
    (hsample : ts.map sample = cs) : ∀ c ∈ cs, ¬Special c := by
  induction cs generalizing ts with
  | nil => exact fun _ => nofun
  | cons c cs ih =>
      rw [parse] at h
      split at h
      · -- an escape leaves fewer tokens than characters
        have hlength := length_parse h
        have hsame := congrArg List.length hsample
        rw [List.length_map, List.length_cons] at hsame
        omega
      · rename_i hc
        obtain ⟨rest, hrest, rfl⟩ := Option.map_eq_some_iff.mp h
        rw [List.map_cons, List.cons.injEq] at hsample
        exact List.forall_mem_cons.mpr
          ⟨(sample_token hc).mp hsample.1, ih hrest hsample.2⟩

/-! ## Patterns that ignore case -/

/-- What a database knows of the case of letters. The characters with a meaning have none. -/
structure Collation where
  lower : Char → Char
  special : ∀ c s, Special s → (lower c = s ↔ c = s)

namespace Collation

variable {collation : Collation} {text pattern : String}

def folded (collation : Collation) (s : String) : List Char := s.toList.map collation.lower

/-- The texts are equal but for the case of their letters. -/
def Same (collation : Collation) (a b : String) : Prop := collation.folded a = collation.folded b

instance (a b : String) : Decidable (collation.Same a b) := inferInstanceAs (Decidable (_ = _))

/-- The test `text ILIKE pattern`. A pattern that ends in a backslash is no pattern, and no text passes
it here. The database does not answer such a query: it fails at the first row that is compared as far as
the backslash. -/
def ilike (collation : Collation) (text pattern : String) : Bool :=
  (parse false (collation.folded pattern)).any fun ts => accepts ts (collation.folded text)

theorem special_lower {c : Char} : Special (collation.lower c) ↔ Special c := by
  unfold Special
  rw [collation.special c '%' (.inl rfl), collation.special c '_' (.inr (.inl rfl)),
    collation.special c '\\' (.inr (.inr rfl))]

theorem token_lower (c : Char) :
    token (collation.lower c) = (token c).map collation.lower := by
  unfold token
  rw [if_congr (collation.special c '%' (.inl rfl)) rfl rfl,
    if_congr (collation.special c '_' (.inr (.inl rfl))) rfl rfl]
  split
  · rfl
  · split
    · rfl
    · rfl

theorem parse_lower {escaped : Bool} {cs : List Char} :
    parse escaped (cs.map collation.lower) =
      (parse escaped cs).map (List.map (Token.map collation.lower)) := by
  induction cs generalizing escaped with
  | nil =>
      cases escaped with
      | true => rfl
      | false => rfl
  | cons c cs ih =>
      cases escaped with
      | true =>
          rw [List.map_cons, parse, parse, ih, Option.map_map, Option.map_map]
          rfl
      | false =>
          rw [List.map_cons, parse, parse, if_congr (collation.special c '\\' (.inr (.inr rfl))) rfl rfl,
            ih, ih, token_lower, apply_ite (Option.map _), Option.map_map, Option.map_map]
          rfl

theorem sample_lower (t : Token Char) :
    sample (t.map collation.lower) = collation.lower (sample t) := by
  cases t with
  | one a => rfl
  | any => exact ((collation.special '%' '%' (.inl rfl)).mpr rfl).symm
  | many => exact ((collation.special '_' '_' (.inr (.inl rfl))).mpr rfl).symm

theorem Same.length_eq {a b : String} (h : collation.Same a b) : a.length = b.length := by
  have := congrArg List.length h
  simpa [folded, String.length_toList] using this

/-- A name in which no character has a meaning. -/
def Plain (pattern : String) : Prop := ∀ c ∈ pattern.toList, ¬Special c

instance (pattern : String) : Decidable (Plain pattern) :=
  inferInstanceAs (Decidable (∀ c ∈ pattern.toList, ¬Special c))

theorem plain_folded : (∀ c ∈ collation.folded pattern, ¬Special c) ↔ Plain pattern := by
  simp only [folded, List.forall_mem_map, special_lower]
  rfl

/-- A plain pattern is the test for equality but for case. -/
theorem ilike_plain (h : Plain pattern) :
    collation.ilike text pattern = true ↔ collation.Same text pattern := by
  rw [ilike, parse_plain (plain_folded.mpr h), Option.any_some]
  exact accepts_ones

/-- A pattern that is not plain accepts another text, no longer than it is, or nothing at all. -/
theorem ilike_of_not_plain (collation : Collation) (h : ¬Plain pattern) :
    (∃ text, text.length ≤ pattern.length ∧ collation.ilike text pattern = true ∧
      ¬collation.Same text pattern) ∨ ∀ text, collation.ilike text pattern = false := by
  have hparse : parse false (collation.folded pattern) =
      (parse false pattern.toList).map (List.map (Token.map collation.lower)) := parse_lower
  cases hts : parse false pattern.toList with
  | none =>
      refine .inr fun text => ?_
      rw [ilike, hparse, hts]
      rfl
  | some ts =>
      rw [hts, Option.map_some] at hparse
      have hfolded : collation.folded (String.ofList (ts.map sample)) =
          (ts.map (Token.map collation.lower)).map sample := by
        simp [folded, sample_lower]
      refine .inl ⟨String.ofList (ts.map sample), ?_, ?_, fun hsame => h ?_⟩
      · have := length_parse hts
        simpa [String.length_toList] using this
      · rw [ilike, hparse, Option.any_some, hfolded]
        exact accepts_sample _
      · exact plain_folded.mp (plain_of_sample hparse (hfolded.symm.trans hsame))

end Collation

end Like
