import Mathlib.Algebra.BigOperators.Group.List.Basic
import Mathlib.Data.List.Basic
import Mathlib.Tactic.Ring

/-! # JSON

The values that `JSON.parse` returns and the texts that `JSON.stringify` makes of them. A string is
the list of its 16-bit units, as in JavaScript, and an object lists its members in their order.
-/

namespace FlightBookings.Logging

abbrev Units := List UInt16

/-- The units of a text all of whose characters have one. -/
def units (s : String) : Units := s.toList.map fun c => c.toNat.toUInt16

/-! ## Texts -/

def hexDigit (n : Nat) : UInt16 := if n < 10 then (48 + n).toUInt16 else (87 + n).toUInt16

/-- `\uXXXX` -/
def unicodeEscape (c : UInt16) : Units :=
  units "\\u" ++ [hexDigit (c.toNat / 4096), hexDigit (c.toNat / 256 % 16),
    hexDigit (c.toNat / 16 % 16), hexDigit (c.toNat % 16)]

def isHighSurrogate (c : UInt16) : Bool := 0xd800 ≤ c && c ≤ 0xdbff

def isLowSurrogate (c : UInt16) : Bool := 0xdc00 ≤ c && c ≤ 0xdfff

/-- A unit that does not pair with the next one. -/
def escaped (c : UInt16) : Units :=
  if c = 0x08 then units "\\b"
  else if c = 0x09 then units "\\t"
  else if c = 0x0a then units "\\n"
  else if c = 0x0c then units "\\f"
  else if c = 0x0d then units "\\r"
  else if c = 0x22 then units "\\\""
  else if c = 0x5c then units "\\\\"
  else if c < 0x20 || isHighSurrogate c || isLowSurrogate c then unicodeEscape c
  else [c]

def escapedAll : Units → Units
  | [] => []
  | [c] => escaped c
  | c :: d :: rest =>
      if isHighSurrogate c && isLowSurrogate d then c :: d :: escapedAll rest
      else escaped c ++ escapedAll (d :: rest)

def quoted (s : Units) : Units := units "\"" ++ escapedAll s ++ units "\""

/-- A number stands as it is printed. -/
inductive Scalar where
  | null
  | bool (b : Bool)
  | num (printed : Units)
  | str (s : Units)
deriving DecidableEq

def Scalar.text : Scalar → Units
  | .null => units "null"
  | .bool b => if b then units "true" else units "false"
  | .num printed => printed
  | .str s => quoted s

inductive Json where
  | scalar (s : Scalar)
  | arr (items : List Json)
  | obj (fields : List (Units × Json))

namespace Json

/-! ## Folds -/

variable {α : Type} (leaf : Scalar → α) (arr : List α → α) (obj : List (Units × α) → α)

mutual

/-- What a traversal makes of a value: of each scalar, and of the results for the members. -/
def fold : Json → α
  | .scalar s => leaf s
  | .arr items => arr (foldItems items)
  | .obj fields => obj (foldFields fields)

def foldItems : List Json → List α
  | [] => []
  | item :: items => item.fold :: foldItems items

def foldFields : List (Units × Json) → List (Units × α)
  | [] => []
  | (k, v) :: fields => (k, v.fold) :: foldFields fields

end

@[simp] theorem fold_scalar (s : Scalar) : fold leaf arr obj (.scalar s) = leaf s := by
  rw [fold]

@[simp] theorem fold_arr (items : List Json) :
    fold leaf arr obj (.arr items) = arr (items.map (fold leaf arr obj)) := by
  have hitems : foldItems leaf arr obj items = items.map (fold leaf arr obj) := by
    induction items with
    | nil => rw [foldItems, List.map_nil]
    | cons item items ih => rw [foldItems, List.map_cons, ih]
  rw [fold, hitems]

@[simp] theorem fold_obj (fields : List (Units × Json)) :
    fold leaf arr obj (.obj fields) =
      obj (fields.map fun field => (field.1, fold leaf arr obj field.2)) := by
  have hfields : foldFields leaf arr obj fields =
      fields.map fun field => (field.1, fold leaf arr obj field.2) := by
    induction fields with
    | nil => rw [foldFields, List.map_nil]
    | cons field fields ih => rw [foldFields, List.map_cons, ih]
  rw [fold, hfields]

/-- The induction over a value, through its members. -/
theorem induction {motive : Json → Prop} (scalar : ∀ s, motive (.scalar s))
    (arr : ∀ items, (∀ item ∈ items, motive item) → motive (.arr items))
    (obj : ∀ fields, (∀ field ∈ fields, motive field.2) → motive (.obj fields)) (b : Json) :
    motive b := by
  refine @Json.rec motive (fun items => ∀ item ∈ items, motive item)
    (fun fields => ∀ field ∈ fields, motive field.2) (fun field => motive field.2)
    scalar arr obj ?_ ?_ ?_ ?_ ?_ b
  · exact List.forall_mem_nil _
  · exact fun item items hitem hitems => List.forall_mem_cons.mpr ⟨hitem, hitems⟩
  · exact List.forall_mem_nil _
  · exact fun field fields hfield hfields => List.forall_mem_cons.mpr ⟨hfield, hfields⟩
  · exact fun k v hv => hv

/-! ## The text of a value -/

/-- `JSON.stringify(value)` -/
def stringify : Json → Units :=
  fold Scalar.text
    (fun items => units "[" ++ List.intercalate (units ",") items ++ units "]")
    fun fields => units "\x7b" ++
      List.intercalate (units ",") (fields.map fun field => quoted field.1 ++ units ":" ++ field.2) ++
        units "\x7d"

section Text

variable {items : List Json} {fields : List (Units × Json)} {s : Scalar}

@[simp] theorem stringify_scalar : stringify (.scalar s) = s.text := fold_scalar ..

@[simp] theorem stringify_arr :
    stringify (.arr items) =
      units "[" ++ List.intercalate (units ",") (items.map stringify) ++ units "]" :=
  fold_arr ..

@[simp] theorem stringify_obj :
    stringify (.obj fields) = units "\x7b" ++
      List.intercalate (units ",")
        (fields.map fun field => quoted field.1 ++ units ":" ++ stringify field.2) ++
          units "\x7d" := by
  rw [stringify, fold_obj, List.map_map]
  rfl

end Text

/-! ## Lengths -/

theorem length_units (s : String) : (units s).length = s.length := by
  simp [units, String.length_toList]

/-- A unit that is written as it is. -/
theorem escapedAll_replicate {c : UInt16} (hplain : escaped c = [c])
    (halone : isHighSurrogate c = false) (n : Nat) :
    escapedAll (List.replicate n c) = List.replicate n c := by
  induction n with
  | zero => rfl
  | succ n ih =>
      cases n with
      | zero => exact hplain
      | succ n =>
          rw [List.replicate_succ, List.replicate_succ, escapedAll, halone, hplain]
          rw [List.replicate_succ] at ih
          simp [ih]

/-- Texts that are longer by multiples of a number are longer together by the multiple of the sum. -/
theorem length_intercalate_map {β : Type} {f g : β → Units} {weight : β → Nat} {n : Nat}
    {members : List β} (separator : Units)
    (h : ∀ m ∈ members, (f m).length = (g m).length + n * weight m) :
    (List.intercalate separator (members.map f)).length =
      (List.intercalate separator (members.map g)).length + n * (members.map weight).sum := by
  induction members with
  | nil => rfl
  | cons m members ih =>
      obtain ⟨hm, hmembers⟩ := List.forall_mem_cons.mp h
      cases members with
      | nil => simpa using hm
      | cons m' members =>
          have hrest := ih hmembers
          simp only [List.map_cons, List.intercalate_cons_cons, List.length_append, hm,
            List.sum_cons] at hrest ⊢
          rw [hrest]
          ring

theorem length_stringify_arr {β : Type} {f g : β → Json} {weight : β → Nat} {n : Nat}
    {members : List β}
    (h : ∀ m ∈ members, (stringify (f m)).length = (stringify (g m)).length + n * weight m) :
    (stringify (.arr (members.map f))).length =
      (stringify (.arr (members.map g))).length + n * (members.map weight).sum := by
  have hmembers := length_intercalate_map (units ",") h
  simp only [stringify_arr, List.map_map, List.length_append, Function.comp_def, hmembers]
  omega

theorem length_stringify_obj {β : Type} {name : β → Units} {f g : β → Json} {weight : β → Nat}
    {n : Nat} {members : List β}
    (h : ∀ m ∈ members, (stringify (f m)).length = (stringify (g m)).length + n * weight m) :
    (stringify (.obj (members.map fun m => (name m, f m)))).length =
      (stringify (.obj (members.map fun m => (name m, g m)))).length +
        n * (members.map weight).sum := by
  have hlonger : ∀ m ∈ members, (quoted (name m) ++ units ":" ++ stringify (f m)).length =
      (quoted (name m) ++ units ":" ++ stringify (g m)).length + n * weight m := by
    intro m hm
    simp only [List.length_append, h m hm]
    omega
  have hmembers := length_intercalate_map (units ",") hlonger
  simp only [stringify_obj, List.map_map, List.length_append, Function.comp_def] at hmembers ⊢
  omega

end Json

end FlightBookings.Logging
