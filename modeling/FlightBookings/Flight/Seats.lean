import FlightBookings.Flight.Entities
import FlightBookings.SeatLock.Service
import Mathlib.Data.List.Range
import Mathlib.Data.List.Nodup

/-! # Generated seats

The seats of an airplane are generated row by row, with a column letter for each
place in a row. They are locked under labels whose form another library checks:
up to three digits and a letter of the English alphabet.
-/

namespace FlightBookings.Flight

open SeatLock

/-! ## The code -/

inductive SeatType where
  | economy
  | business
  | firstClass
  | premiumEconomy
deriving DecidableEq

/-- A seat that is not stored yet. The column is a text of one code unit. -/
structure NewSeat where
  airplaneId : Int
  row : Nat
  col : UInt16
  type : SeatType
deriving DecidableEq

structure Seat extends NewSeat where
  id : Int
deriving DecidableEq

/-- A request that has passed its checks. -/
structure BulkCreateSeatsDto where
  airplaneId : Int
  rows : Nat
  colsPerRow : Nat
  type : SeatType
  rows_min : 1 ≤ rows
  colsPerRow_min : 1 ≤ colsPerRow

/-- `String.fromCharCode`, which takes its argument modulo 65536. -/
def fromCharCode (n : Nat) : UInt16 := n.toUInt16

namespace SeatService

def getColLetter (index : Nat) : UInt16 := fromCharCode (65 + index)

def seatAt (dto : BulkCreateSeatsDto) (r c : Nat) : NewSeat where
  airplaneId := dto.airplaneId
  row := r
  col := getColLetter c
  type := dto.type

/-- The two loops, with a `push` in the inner one. -/
def seats (dto : BulkCreateSeatsDto) : List NewSeat :=
  (List.range' 1 dto.rows).foldl
    (fun seats r => (List.range dto.colsPerRow).foldl (fun seats c => seats ++ [seatAt dto r c]) seats)
    []

def bulkCreate (findById : Int → Option Airplane)
    (save : List NewSeat → Except Exception (List Seat)) (dto : BulkCreateSeatsDto) :
    Except Exception (List Seat) :=
  match findById dto.airplaneId with
  | none => .error (.badRequest s!"Airplane with ID {dto.airplaneId} not found")
  | some _ => save (seats dto)

end SeatService

/-! ## Labels -/

namespace NewSeat

def place (seat : NewSeat) : Nat × UInt16 := (seat.row, seat.col)

/-- The character of a code unit. Half of a surrogate pair is replaced where a text is encoded. -/
def character (unit : UInt16) : Char :=
  if unit.toNat.isValidChar then Char.ofNat unit.toNat else '\ufffd'

/-- The seat number under which the seat is booked. -/
def label (seat : NewSeat) : String :=
  toString seat.row ++ String.singleton (character seat.col)

end NewSeat

theorem SeatService.label_seatAt {dto : BulkCreateSeatsDto} {r c : Nat} :
    (SeatService.seatAt dto r c).label =
      toString r ++ String.singleton (NewSeat.character (SeatService.getColLetter c)) :=
  rfl

/-- As many seats as were asked for, in different places, with labels that can be locked. -/
structure Bookable (dto : BulkCreateSeatsDto) (seats : List NewSeat) : Prop where
  count : seats.length = dto.rows * dto.colsPerRow
  distinct : (seats.map NewSeat.place).Nodup
  accepted : ∀ seat ∈ seats, validateSeatsExist [seat.label] = .ok ()

/-! ## The loops -/

section Loops

variable {dto : BulkCreateSeatsDto}

theorem foldl_push {α β : Type} (f : α → β) (l : List α) (seats : List β) :
    l.foldl (fun seats a => seats ++ [f a]) seats = seats ++ l.map f := by
  induction l generalizing seats with
  | nil => simp
  | cons a l ih =>
      rw [List.foldl_cons, ih, List.map_cons, List.append_assoc, List.singleton_append]

theorem SeatService.seats_eq : SeatService.seats dto =
    (List.range' 1 dto.rows).flatMap fun r =>
      (List.range dto.colsPerRow).map (SeatService.seatAt dto r) := by
  unfold SeatService.seats
  simp only [foldl_push]
  rw [List.flatMap_eq_foldl]

theorem SeatService.mem_seats {seat : NewSeat} : seat ∈ SeatService.seats dto ↔
    ∃ r, (1 ≤ r ∧ r ≤ dto.rows) ∧ ∃ c < dto.colsPerRow, SeatService.seatAt dto r c = seat := by
  rw [SeatService.seats_eq, List.mem_flatMap]
  simp only [List.mem_map, List.mem_range, List.mem_range'_1]
  refine exists_congr fun r => and_congr_left fun _ => ?_
  omega

theorem SeatService.length_seats : (SeatService.seats dto).length = dto.rows * dto.colsPerRow := by
  rw [SeatService.seats_eq, List.length_flatMap]
  simp

/-- The column letters repeat after 65536 of them. -/
theorem SeatService.nodup_places (h : dto.colsPerRow ≤ 65536) :
    ((SeatService.seats dto).map NewSeat.place).Nodup := by
  rw [SeatService.seats_eq, List.map_flatMap]
  refine List.nodup_flatMap.mpr ⟨fun r _ => ?_, ?_⟩
  · rw [List.map_map]
    refine (List.nodup_map_iff_inj_on List.nodup_range).mpr fun c hc c' hc' heq => ?_
    rw [List.mem_range] at hc hc'
    have hcol := congrArg (fun place : Nat × UInt16 => place.2.toNat) heq
    simp [SeatService.seatAt, SeatService.getColLetter, fromCharCode, NewSeat.place] at hcol
    omega
  · refine List.Pairwise.imp (fun {r r'} hne => ?_) List.nodup_range'
    refine List.disjoint_iff_ne.mpr ?_
    intro place hplace place' hplace' heq
    obtain ⟨_, hseat, rfl⟩ := List.mem_map.mp hplace
    obtain ⟨_, hseat', rfl⟩ := List.mem_map.mp hplace'
    obtain ⟨c, _, rfl⟩ := List.mem_map.mp hseat
    obtain ⟨c', _, rfl⟩ := List.mem_map.mp hseat'
    exact hne (congrArg Prod.fst heq)

end Loops

/-! ## The form of a label -/

section Labels

variable {n : Nat} {c : Char} {s : String}

/-- The characters of which a label is made. -/
def InLabel (c : Char) : Prop := c.isDigit = true ∨ c.isUpper = true

theorem InLabel.code (h : InLabel c) : 48 ≤ c.toNat ∧ c.toNat ≤ 90 := by
  rcases h with hdigit | hupper
  · simp only [Char.isDigit, Bool.and_eq_true, decide_eq_true_eq] at hdigit
    have hlow : 48 ≤ c.val.toNat := hdigit.1
    have hhigh : c.val.toNat ≤ 57 := hdigit.2
    exact ⟨hlow, hhigh.trans (by decide)⟩
  · have hbounds : 'A'.val ≤ c.val ∧ c.val ≤ 'Z'.val := of_decide_eq_true hupper
    have hlow : 65 ≤ c.val.toNat := hbounds.1
    have hhigh : c.val.toNat ≤ 90 := hbounds.2
    exact ⟨(by decide : 48 ≤ 65).trans hlow, hhigh⟩

theorem InLabel.upperChar (h : InLabel c) : upperChar c = [c] := by
  have hcode := h.code
  have hkept : c.toUpper = c := by
    unfold Char.toUpper
    rw [dif_neg]
    intro hlower
    have hlow : 97 ≤ c.toNat := hlower.1
    omega
  unfold FlightBookings.upperChar
  split
  all_goals first | omega | rw [hkept]

theorem InLabel.not_isSpace (h : InLabel c) : isSpace c = false := by
  have hcode := h.code
  simp only [isSpace, Bool.or_eq_false_iff, Bool.and_eq_false_iff, decide_eq_false_iff_not,
    beq_eq_false_iff_ne]
  omega

theorem normalized_of_inLabel (h : ∀ c ∈ s.toList, InLabel c) : toUpperCase (trim s) = s := by
  have hdrop : ∀ l : List Char, (∀ c ∈ l, InLabel c) → l.dropWhile isSpace = l := by
    intro l hl
    cases l with
    | nil => rfl
    | cons c l => rw [List.dropWhile_cons_of_neg (by simp [(hl c List.mem_cons_self).not_isSpace])]
  have htrim : trim s = s := by
    rw [trim, hdrop _ h, hdrop _ (fun c hc => h c (List.mem_reverse.mp hc)), List.reverse_reverse,
      String.ofList_toList]
  have hupper : s.toList.flatMap upperChar = s.toList.flatMap fun c => [c] :=
    List.flatMap_congr fun c hc => (h c hc).upperChar
  rw [htrim, toUpperCase, hupper, List.flatMap_singleton', String.ofList_toList]

/-- The decimal digits of a positive number do not start with a zero. -/
theorem head_toDigits (h : 0 < n) : ∀ c ∈ (Nat.toDigits 10 n).head?, c ≠ '0' := by
  induction n using Nat.strongRecOn with
  | ind n ih =>
      rw [Nat.toDigits_eq_if (by decide)]
      split
      · intro c hc
        rw [List.head?_cons, Option.mem_some_iff] at hc
        subst hc
        rw [Ne, Nat.digitChar_eq_zero]
        exact h.ne'
      · rw [List.head?_append_of_ne_nil _ Nat.toDigits_ne_nil]
        exact ih (n / 10) (by omega) (by omega)

/-- A positive number of at most three digits and a capital letter fit the pattern. -/
theorem seatPattern_of_row (hpos : 0 < n) (hrow : n ≤ 999) (hc : c.isUpper = true) :
    seatPattern (toString n ++ String.singleton c) = true := by
  have hdigits : ∀ c ∈ Nat.toDigits 10 n, c.isDigit = true := fun c hc =>
    Nat.isDigit_of_mem_toDigits (by decide) (by decide) hc
  have hlength : (Nat.toDigits 10 n).length ≤ 3 :=
    (Nat.length_toDigits_le_iff (by decide) (by decide)).mpr (by omega)
  have htext : (toString n ++ String.singleton c).toList.reverse =
      c :: (Nat.toDigits 10 n).reverse := by
    simp
  unfold seatPattern
  rw [htext]
  simp only [Bool.and_eq_true, decide_eq_true_eq, List.length_reverse, List.all_reverse,
    List.all_eq_true, List.getLast?_reverse]
  refine ⟨⟨⟨hc, hdigits⟩, hlength⟩, ?_⟩
  have hhead := head_toDigits hpos
  cases hfirst : (Nat.toDigits 10 n).head? with
  | none => exact absurd (List.head?_eq_none_iff.mp hfirst) Nat.toDigits_ne_nil
  | some first => simpa [bne_iff_ne] using hhead first hfirst

theorem accepted_of_pattern (hchars : ∀ c ∈ s.toList, InLabel c) (h : seatPattern s = true) :
    validateSeatsExist [s] = .ok () := by
  have hne : s ≠ "" := by
    intro heq
    rw [heq] at h
    exact Bool.false_ne_true h
  have hnormalized :
      ([s].map fun s => toUpperCase (trim s)).filter (fun s => s != "") = [s] := by
    rw [List.map_singleton, normalized_of_inLabel hchars]
    exact List.filter_cons_of_pos (bne_iff_ne.mpr hne)
  have hinvalid : ([s].filter fun s => !seatPattern s) = [] :=
    List.filter_cons_of_neg (by rw [h]; decide)
  simp only [validateSeatsExist, hnormalized, hinvalid]
  rw [if_neg (by simp [List.eraseDups_cons])]
  rfl

theorem accepted_of_row (hpos : 0 < n) (hrow : n ≤ 999) (hc : c.isUpper = true) :
    validateSeatsExist [toString n ++ String.singleton c] = .ok () := by
  refine accepted_of_pattern (fun c' hc' => ?_) (seatPattern_of_row hpos hrow hc)
  simp only [Nat.toString_eq_ofList_toDigits, String.toList_append, String.toList_ofList,
    String.toList_singleton, List.mem_append, List.mem_singleton] at hc'
  rcases hc' with hdigit | rfl
  · exact .inl (Nat.isDigit_of_mem_toDigits (by decide) (by decide) hdigit)
  · exact .inr hc

/-- The first twenty-six columns have capital letters. -/
theorem isUpper_column {index : Nat} (h : index < 26) :
    (NewSeat.character (SeatService.getColLetter index)).isUpper = true := by
  have hall : ∀ index < 26,
      (NewSeat.character (SeatService.getColLetter index)).isUpper = true := by
    decide
  exact hall index h

end Labels

/-! ## Generated seats -/

section Generated

variable {findById : Int → Option Airplane} {dto : BulkCreateSeatsDto}

theorem SeatService.bookable (hrows : dto.rows ≤ 999) (hcols : dto.colsPerRow ≤ 26) :
    Bookable dto (SeatService.seats dto) where
  count := SeatService.length_seats
  distinct := SeatService.nodup_places (hcols.trans (by decide))
  accepted seat hmem := by
    obtain ⟨r, ⟨hpos, hrow⟩, c, hc, rfl⟩ := SeatService.mem_seats.mp hmem
    rw [SeatService.label_seatAt]
    exact accepted_of_row hpos (hrow.trans hrows) (isUpper_column (hc.trans_le hcols))

/-- The label of the first seat in the thousandth row is refused, and that of the twenty-seventh seat in
the first row. -/
theorem Bookable.bounds (h : Bookable dto (SeatService.seats dto)) :
    dto.rows ≤ 999 ∧ dto.colsPerRow ≤ 26 := by
  constructor
  · by_contra hrows
    have hmem : SeatService.seatAt dto 1000 0 ∈ SeatService.seats dto :=
      SeatService.mem_seats.mpr ⟨1000, ⟨by decide, by omega⟩, 0, dto.colsPerRow_min, rfl⟩
    have haccepted := h.accepted _ hmem
    rw [SeatService.label_seatAt] at haccepted
    exact absurd haccepted (by decide)
  · by_contra hcols
    have hmem : SeatService.seatAt dto 1 26 ∈ SeatService.seats dto :=
      SeatService.mem_seats.mpr ⟨1, ⟨Nat.le_refl 1, dto.rows_min⟩, 26, by omega, rfl⟩
    have haccepted := h.accepted _ hmem
    rw [SeatService.label_seatAt] at haccepted
    exact absurd haccepted (by decide)

/-- What a call hands to the repository is read off from one that takes nothing else. -/
theorem SeatService.bulkCreate_seats {seats : List NewSeat}
    (h : ∀ save, SeatService.bulkCreate findById save dto = save seats) :
    (findById dto.airplaneId).isSome = true ∧ seats = SeatService.seats dto := by
  have hsave := h fun given => if given = seats then .ok [] else .error (.error "not these seats")
  rw [if_pos rfl, SeatService.bulkCreate] at hsave
  split at hsave
  · cases hsave
  · rename_i hairplane
    rw [hairplane]
    refine ⟨rfl, ?_⟩
    by_contra hne
    rw [if_neg (Ne.symm hne)] at hsave
    cases hsave

/-- The generated seats are bookable exactly for an airplane that is there, with at most 999 rows of at
most twenty-six seats. -/
theorem bulkCreate_bookable_iff (findById : Int → Option Airplane) (dto : BulkCreateSeatsDto) :
    (∃ seats, (∀ save, SeatService.bulkCreate findById save dto = save seats) ∧
        Bookable dto seats) ↔
      (findById dto.airplaneId).isSome = true ∧ dto.rows ≤ 999 ∧ dto.colsPerRow ≤ 26 := by
  constructor
  · intro h
    obtain ⟨seats, hsaved, hbookable⟩ := h
    obtain ⟨hairplane, rfl⟩ := SeatService.bulkCreate_seats hsaved
    exact ⟨hairplane, hbookable.bounds⟩
  · intro h
    obtain ⟨hairplane, hrows, hcols⟩ := h
    obtain ⟨airplane, hairplane⟩ := Option.isSome_iff_exists.mp hairplane
    refine ⟨SeatService.seats dto, fun save => ?_, SeatService.bookable hrows hcols⟩
    rw [SeatService.bulkCreate, hairplane]

end Generated

def wideBody : Airplane where
  id := 1
  modelNumber := "A380-800"
  manufacturer := "Airbus"
  registrationNumber := none
  totalCapacity := 853
  economySeats := 853
  businessSeats := 0
  firstClassSeats := 0
  premiumEconomySeats := 0
  active := true

/-- A repository that numbers the seats. -/
def numbered (seats : List NewSeat) : Except Exception (List Seat) :=
  .ok (seats.mapIdx fun i seat => { seat with id := i + 1 })

def oneWideRow : BulkCreateSeatsDto where
  airplaneId := 1
  rows := 1
  colsPerRow := 27
  type := .economy
  rows_min := by decide
  colsPerRow_min := by decide

theorem wide_row_refused :
    ∃ seats, SeatService.bulkCreate (fun _ => some wideBody) numbered oneWideRow = .ok seats ∧
      ∃ seat ∈ seats, seat.label = "1[" ∧
        validateSeatsExist [seat.label] = .error (.error "Invalid seat number(s): 1[") := by
  refine ⟨_, rfl, ⟨⟨1, 1, 91, .economy⟩, 27⟩, by decide, by decide, by decide⟩

end FlightBookings.Flight
