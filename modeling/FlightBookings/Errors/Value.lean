import Mathlib.Init

/-! # JavaScript values

The values that an untyped program of JavaScript passes around, as far as it only reads their
members, tests them and writes them as text.
-/

/-- A value. `inherited` is the member of that name that every object has from its prototype. -/
inductive Js where
  | undefined
  | null
  | bool (b : Bool)
  | num (n : Int)
  | str (s : String)
  | arr (items : List Js)
  | obj (fields : List (String × Js))
  | inherited (name : String)

namespace Js

/-- The members of `Object.prototype`. -/
def prototypeMembers : List String :=
  ["constructor", "__defineGetter__", "__defineSetter__", "hasOwnProperty", "__lookupGetter__",
    "__lookupSetter__", "isPrototypeOf", "propertyIsEnumerable", "toString", "valueOf", "__proto__",
    "toLocaleString"]

/-- A member of a record by its name. -/
def member (name : String) (fields : List (String × Js)) : Js :=
  match fields.find? fun field => field.1 = name with
  | some field => field.2
  | none => if name ∈ prototypeMembers then .inherited name else .undefined

/-- `value.name`, for a name that only a record can have of its own. -/
def get (name : String) : Js → Js
  | .obj fields => member name fields
  | _ => .undefined

def truthy : Js → Bool
  | .undefined => false
  | .null => false
  | .bool b => b
  | .num n => n ≠ 0
  | .str s => s ≠ ""
  | _ => true

/-- `value || fallback` -/
def or (value fallback : Js) : Js := if value.truthy then value else fallback

def isNullish : Js → Bool
  | .undefined => true
  | .null => true
  | _ => false

/-- `value ?? fallback` -/
def orNullish (value fallback : Js) : Js := if value.isNullish then fallback else value

def isArray : Js → Bool
  | .arr _ => true
  | _ => false

/-- `typeof value === 'object'` -/
def isObject : Js → Bool
  | .null => true
  | .arr _ => true
  | .obj _ => true
  | .inherited name => name = "__proto__"
  | _ => false

/-- The text of a value for which `typeof value === 'string'`. -/
def string? : Js → Option String
  | .str s => some s
  | _ => none

/-- The number of a value for which `typeof value === 'number'`. -/
def number? : Js → Option Int
  | .num n => some n
  | _ => none

/-! ## Texts -/

mutual

/-- The name of the member that `record[value]` reads. -/
def toKey : Js → String
  | .undefined => "undefined"
  | .null => "null"
  | .bool b => if b then "true" else "false"
  | .num n => toString n
  | .str s => s
  | .arr items => String.intercalate "," (joined items)
  | .obj _ => "[object Object]"
  | .inherited name =>
      if name = "__proto__" then "[object Object]"
      else "function " ++ (if name = "constructor" then "Object" else name) ++
        "() \x7b [native code] \x7d"

def joined : List Js → List String
  | [] => []
  | item :: items => (if item.isNullish then "" else item.toKey) :: joined items

end

def escaped (c : Char) : String :=
  match c.toNat with
  | 0x08 => "\\b"
  | 0x09 => "\\t"
  | 0x0a => "\\n"
  | 0x0c => "\\f"
  | 0x0d => "\\r"
  | 0x22 => "\\\""
  | 0x5c => "\\\\"
  | n =>
      if n < 0x20 then
        "\\u00" ++ (if n < 0x10 then "0" else "1") ++ String.ofList (Nat.toDigits 16 (n % 16))
      else c.toString

def quoted (s : String) : String := "\"" ++ String.join (s.toList.map escaped) ++ "\""

mutual

/-- `JSON.stringify(value)`, where it is a text. -/
def stringify? : Js → Option String
  | .undefined => none
  | .null => some "null"
  | .bool b => some (if b then "true" else "false")
  | .num n => some (toString n)
  | .str s => some (quoted s)
  | .arr items => some ("[" ++ String.intercalate "," (items? items) ++ "]")
  | .obj fields => some ("\x7b" ++ String.intercalate "," (fields? fields) ++ "\x7d")
  | .inherited name => if name = "__proto__" then some "\x7b\x7d" else none

def items? : List Js → List String
  | [] => []
  | item :: items => item.stringify?.getD "null" :: items? items

def fields? : List (String × Js) → List String
  | [] => []
  | (name, value) :: fields =>
      match value.stringify? with
      | some text => (quoted name ++ ":" ++ text) :: fields? fields
      | none => fields? fields

end

/-- `JSON.stringify(value)` -/
def stringify (value : Js) : Js := (value.stringify?.map Js.str).getD .undefined

end Js
