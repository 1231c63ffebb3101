import FlightBookings.Await.Program

/-! # What the services share

The exceptions they throw, with their texts, and the string functions of
JavaScript that their checks use.
-/

namespace FlightBookings

inductive ExceptionKind where
  | error
  | badRequest
  | notFound
  | conflict
  | notImplemented
deriving DecidableEq

structure Exception where
  kind : ExceptionKind
  message : String
deriving DecidableEq

namespace Exception

def error (message : String) : Exception := ⟨.error, message⟩
def badRequest (message : String) : Exception := ⟨.badRequest, message⟩
def notFound (message : String) : Exception := ⟨.notFound, message⟩
def conflict (message : String) : Exception := ⟨.conflict, message⟩
def notImplemented (message : String) : Exception := ⟨.notImplemented, message⟩

end Exception

/-- The white space and line terminators that `String.prototype.trim` removes. -/
def isSpace (c : Char) : Bool :=
  let n := c.toNat
  (9 ≤ n && n ≤ 13) || n == 0x20 || n == 0xa0 || n == 0x1680 || (0x2000 ≤ n && n ≤ 0x200a) ||
    n == 0x2028 || n == 0x2029 || n == 0x202f || n == 0x205f || n == 0x3000 || n == 0xfeff

def trim (s : String) : String :=
  String.ofList ((s.toList.dropWhile isSpace).reverse.dropWhile isSpace).reverse

/-- `String.prototype.toUpperCase` on the characters whose capital form is written with
letters of the English alphabet; every other character keeps its own form here, and no
check of the services tells two such characters apart. -/
def upperChar (c : Char) : List Char :=
  match c.toNat with
  | 0x131 => ['I']
  | 0x17f => ['S']
  | 0xdf => ['S', 'S']
  | 0xfb00 => ['F', 'F']
  | 0xfb01 => ['F', 'I']
  | 0xfb02 => ['F', 'L']
  | 0xfb03 => ['F', 'F', 'I']
  | 0xfb04 => ['F', 'F', 'L']
  | 0xfb05 => ['S', 'T']
  | 0xfb06 => ['S', 'T']
  | _ => [c.toUpper]

def toUpperCase (s : String) : String := String.ofList (s.toList.flatMap upperChar)

/-- `String.prototype.toLowerCase` on the letters of the English alphabet. -/
def toLowerCase (s : String) : String := String.ofList (s.toList.map Char.toLower)

/-- `value || fallback` on a string that may be missing. -/
def orElse (value : Option String) (fallback : String) : String :=
  match value with
  | some s => if s = "" then fallback else s
  | none => fallback

end FlightBookings
