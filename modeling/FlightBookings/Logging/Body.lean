import FlightBookings.Logging.Json

/-! # Bodies in the log

The interceptor masks the values under sensitive names before it logs the body of a request, in four
levels of nesting. What lies deeper is logged as it came.
-/

namespace FlightBookings.Logging

open Json

/-! ## The interceptor -/

def SENSITIVE_BODY_FIELDS : List Units :=
  [units "password", units "token", units "secret", units "apiKey", units "refreshToken",
    units "accessToken", units "authorization"]

def MAX_BODY_LOG_CHARS : Nat := 2048

def isSensitive (k : Units) : Bool := SENSITIVE_BODY_FIELDS.contains k

/-- `typeof value === 'object'` -/
def isObject : Json → Bool
  | .scalar s => s = .null
  | .arr _ => true
  | .obj _ => true

/-- The members that the loop over all members adds to its record. Writing to `__proto__` sets the
prototype of the record. -/
def ownMembers (fields : List (Units × Json)) : List (Units × Json) :=
  fields.filter fun field => field.1 ≠ units "__proto__"

/-- The record that the loop fills, with the nested values treated as given. -/
def clone (f : Json → Json) (fields : List (Units × Json)) : List (Units × Json) :=
  (ownMembers fields).map fun field =>
    (field.1, if isSensitive field.1 then .scalar (.str (units "***")) else f field.2)

def sanitizeBody : Nat → Json → Json
  | _, .scalar s => .scalar s
  | 0, .arr items => .arr items
  | depth + 1, .arr items => .arr (items.map (sanitizeBody depth))
  | 0, .obj fields => .obj (clone (fun v => v) fields)
  | depth + 1, .obj fields =>
      .obj (clone (fun v => if isObject v then sanitizeBody depth v else v) fields)

def truncate (value : Units) : Units :=
  if value.length ≤ MAX_BODY_LOG_CHARS then value
  else value.take MAX_BODY_LOG_CHARS ++
    units ("...[truncated " ++ toString (value.length - MAX_BODY_LOG_CHARS) ++ " chars]")

/-- A value of JSON holds no object twice and no `bigint`, and the replacer leaves it alone. -/
def safeStringify (value : Json) : Units := stringify value

/-- `body == null` -/
def isNull : Json → Bool
  | .scalar s => s = .null
  | .arr _ => false
  | .obj _ => false

def stringifyBody (body : Json) : Option Units :=
  if isNull body then none
  else
    let serialized := safeStringify (sanitizeBody 4 body)
    if serialized = [] then none else some (truncate serialized)

/-! ## One level of the masking -/

/-- What happens to the values in a value that is masked to a depth. -/
def nested : Nat → Json → Json
  | 0 => fun v => v
  | depth + 1 => sanitizeBody depth

theorem sanitizeBody_of_not_object {depth : Nat} {v : Json} (h : isObject v = false) :
    sanitizeBody depth v = v := by
  cases v with
  | scalar s => rw [sanitizeBody]
  | arr items => cases h
  | obj fields => cases h

section Level

variable {depth : Nat} {items : List Json} {fields : List (Units × Json)} {s : Scalar}

@[simp] theorem sanitizeBody_scalar : sanitizeBody depth (.scalar s) = .scalar s := by
  rw [sanitizeBody]

@[simp] theorem sanitizeBody_arr :
    sanitizeBody depth (.arr items) = .arr (items.map (nested depth)) := by
  cases depth with
  | zero => rw [sanitizeBody, nested, List.map_id']
  | succ depth => rw [sanitizeBody, nested]

@[simp] theorem sanitizeBody_obj :
    sanitizeBody depth (.obj fields) = .obj (clone (nested depth) fields) := by
  cases depth with
  | zero => rw [sanitizeBody, nested]
  | succ depth =>
      rw [sanitizeBody, nested]
      refine congrArg (fun f => Json.obj (clone f fields)) (funext fun v => ?_)
      cases hobject : isObject v with
      | true => rfl
      | false => exact (sanitizeBody_of_not_object hobject).symm

end Level

end FlightBookings.Logging
