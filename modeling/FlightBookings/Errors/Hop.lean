import Mathlib.Tactic.IntervalCases
import FlightBookings.Errors.Filters

/-! # What crosses the hop

An error passes three translators: the filter of the service, the conversion of the gateway and the
filter of the gateway. Each stage has a lemma about what it reads of the stage before; which
exceptions keep their identity, and which errors keep their text to themselves, is read off from
the composition of the three.
-/

/-! ## Values -/

namespace Js

@[simp] theorem undefined_string? : Js.undefined.string? = none := rfl

@[simp] theorem undefined_truthy : Js.undefined.truthy = false := rfl

@[simp] theorem undefined_isArray : Js.undefined.isArray = false := rfl

theorem truthy_of_isArray {value : Js} (listed : value.isArray = true) : value.truthy = true := by
  cases value with
  | arr items => rfl
  | _ => cases listed

theorem or_of_truthy {value : Js} (truthy : value.truthy = true) (fallback : Js) :
    value.or fallback = value := if_pos truthy

theorem or_of_falsy {value : Js} (falsy : value.truthy = false) (fallback : Js) :
    value.or fallback = fallback := if_neg (by simp [falsy])

theorem or_isArray (value fallback : Js) :
    (value.or fallback).isArray = (value.isArray || (!value.truthy && fallback.isArray)) := by
  cases truthy : value.truthy with
  | true => simp [or_of_truthy truthy]
  | false =>
      have plain : value.isArray = false :=
        Bool.eq_false_iff.2 fun listed => by simp [truthy_of_isArray listed] at truthy
      simp [or_of_falsy truthy, plain]

theorem stringify_isArray (value : Js) : value.stringify.isArray = false := by
  cases text : value.stringify? <;> simp [stringify, text, isArray]

theorem get_of_not_object {value : Js} (plain : value.isObject = false) (name : String) :
    value.get name = .undefined := by
  cases value with
  | obj fields => cases plain
  | _ => rfl

theorem eq_str_of_string? {value : Js} {text : String} (read : value.string? = some text) :
    value = .str text := by
  cases value with
  | str s => exact congrArg str (Option.some.inj read)
  | _ => cases read

end Js

namespace FlightBookings.Errors

/-! ## The messages and the default codes -/

theorem getMessage_isArray (key : String) : (getMessage key).isArray = false := by
  unfold getMessage
  split <;> rfl

/-- The statuses of a client error that have a default code. -/
def CLIENT_ERROR_CODES : List (Int × String) :=
  [(400, "validation.failed"), (401, "auth.unauthorized"), (404, "resource.not_found")]

def clientErrorCode (status : Int) : Option String :=
  (CLIENT_ERROR_CODES.find? fun entry => entry.1 = status).map Prod.snd

theorem default_of_client {status : Int} (lower : 400 ≤ status) (upper : status < 500) :
    Js.member (toString status) DEFAULT_ERROR_CODES =
      ((clientErrorCode status).map Js.str).getD .undefined := by
  interval_cases status <;> rfl

theorem clientErrorCode_ne {status : Int} {code : String} (found : clientErrorCode status = some code) :
    code ≠ "" ∧ code ≠ "server.internal_error" ∧ isMessageKey code = true := by
  obtain ⟨entry, looked, rfl⟩ := Option.map_eq_some_iff.1 found
  have known : ∀ entry ∈ CLIENT_ERROR_CODES,
      entry.2 ≠ "" ∧ entry.2 ≠ "server.internal_error" ∧ isMessageKey entry.2 = true := by decide
  exact known entry (List.mem_of_find?_eq_some looked)

/-! ## The conversion and the last filter -/

section Answer

variable (context : Context) (stack : String) (payload : Js)

/-- The code that the converted exception carries. -/
def convertedCode : Option String := (rpcCode payload).filter fun code => code ≠ ""

theorem codeMember_converted :
    codeMember (rpcCode payload) =
      ((convertedCode payload).map fun code => ("code", Js.str code)).toList := by
  unfold convertedCode
  cases rpcCode payload with
  | none => rfl
  | some text => by_cases empty : text = "" <;> simp [codeMember, Option.filter, empty]

theorem errorsMember_named {errors : Js} {entry : String × Js} (listed : entry ∈ errorsMember errors) :
    entry.1 = "errors" := by
  cases errors with
  | undefined => cases listed
  | _ => exact List.mem_singleton.1 listed ▸ rfl

theorem created_code :
    (createHttpExceptionFromRpcError payload stack).response.get "code" =
      ((convertedCode payload).map Js.str).getD .undefined := by
  have unnamed : (errorsMember (rpcContent payload).errors).find?
      (fun field => decide (field.1 = "code")) = none :=
    List.find?_eq_none.2 fun entry listed => by simp [errorsMember_named listed]
  simp only [createHttpExceptionFromRpcError, codeMember_converted, Js.get, Js.member]
  cases convertedCode payload <;> simp [unnamed, Js.prototypeMembers]

theorem created_message :
    (createHttpExceptionFromRpcError payload stack).response.get "message" =
      (rpcContent payload).message := by
  simp only [createHttpExceptionFromRpcError, codeMember_converted, Js.get, Js.member]
  cases convertedCode payload <;> simp

theorem converted_string? :
    (((convertedCode payload).map Js.str).getD .undefined).string? = convertedCode payload := by
  cases convertedCode payload <;> rfl

theorem renderHttp_created :
    renderHttp (createHttpExceptionFromRpcError payload stack) =
      if (rpcContent payload).message.isArray then
        { status := rpcStatus payload
          message := getMessage "validation.failed"
          code := .str "validation.failed"
          errors := (rpcContent payload).message }
      else
        { status := rpcStatus payload
          message := responseMessage (createHttpExceptionFromRpcError payload stack).response
          code := ((convertedCode payload).map Js.str).getD .undefined
          errors :=
            let errors := (createHttpExceptionFromRpcError payload stack).response.get "errors"
            if errors.isArray then errors else .undefined } := by
  rw [← created_message stack payload]
  conv => rhs; rw [← converted_string?, ← created_code stack payload]
  rfl

/-- The answer to a payload. -/
def answer : ApiResponse :=
  globalExceptionFilter context (.http (createHttpExceptionFromRpcError payload stack))

theorem answer_status : (answer context stack payload).statusCode = rpcStatus payload := by
  simp only [answer, globalExceptionFilter, render, renderHttp_created]
  split <;> rfl

theorem answer_code :
    (answer context stack payload).code =
      if (rpcContent payload).message.isArray then .str "validation.failed"
      else ((convertedCode payload).map Js.str).getD
        (Js.member (toString (rpcStatus payload)) DEFAULT_ERROR_CODES) := by
  simp only [answer, globalExceptionFilter, render, renderHttp_created]
  split
  · rfl
  · cases convertedCode payload <;> rfl

theorem answer_message (plain : (rpcContent payload).message.isArray = false) {code : String}
    (converted : convertedCode payload = some code) (known : isMessageKey code = true) :
    (answer context stack payload).message = getMessage code := by
  have empty : code ≠ "" := by
    have := (Option.filter_eq_some_iff.1 converted).2
    simpa using this
  simp [answer, globalExceptionFilter, render, renderHttp_created, plain,
    responseMessage, created_code, converted, Js.string?, empty, known]

/-- Without a code that is a key the message is the one of the payload. -/
theorem answer_message_raw {text : String} (message : (rpcContent payload).message = .str text)
    (unknown : ∀ code, convertedCode payload = some code → isMessageKey code = false) :
    (answer context stack payload).message = .str text := by
  have plain : (rpcContent payload).message.isArray = false := by rw [message]; rfl
  have raw : responseMessage (createHttpExceptionFromRpcError payload stack).response =
      .str text := by
    unfold responseMessage
    rw [created_code, converted_string?, created_message, message]
    cases converted : convertedCode payload with
    | none => rfl
    | some code => simp [unknown code converted, Js.orNullish, Js.isNullish]
  simp [answer, globalExceptionFilter, render, renderHttp_created, plain, raw]

theorem created_errors (none : (rpcContent payload).errors = .undefined) :
    (createHttpExceptionFromRpcError payload stack).response.get "errors" = .undefined := by
  simp only [createHttpExceptionFromRpcError, codeMember_converted, none, errorsMember, Js.get,
    Js.member]
  cases convertedCode payload <;> simp [Js.prototypeMembers]

theorem answer_of_key (live : context.isProduction = true)
    (plain : (rpcContent payload).message.isArray = false)
    (errors : (rpcContent payload).errors = .undefined) {code : String}
    (converted : convertedCode payload = some code) (known : isMessageKey code = true) :
    answer context stack payload =
      { success := false
        version := context.apiVersion
        statusCode := rpcStatus payload
        code := .str code
        message := getMessage code
        errorCode := .str code
        data := .null
        timestamp := context.timestamp
        correlationId := context.correlationId
        path := context.path
        errors := .undefined } := by
  have message := answer_message context stack payload plain converted known
  unfold answer globalExceptionFilter at message ⊢
  simp only [render, renderHttp_created, plain, Bool.false_eq_true, if_false, converted,
    created_errors stack payload errors, live, if_true] at message ⊢
  rw [message]
  rfl

end Answer

/-! ## The payload of an exception -/

section Payload

variable (e : HttpException)

/-- The message of the response is a list, as the one of a validation is. -/
def HttpException.validates : Bool := (e.response.get "message").isArray

/-- The response has a list under `error` and no message that would be taken before it. -/
def HttpException.listsError : Bool :=
  !(e.response.get "message").truthy && (e.response.get "error").isArray

/-- The response has a code that is a key of the messages. -/
def HttpException.keyed : Bool :=
  (e.response.get "code").string?.any fun code => code ≠ "" && isMessageKey code

def HttpException.payload : Js := commonRpcExceptionFilter (.http e)

theorem payload_status : rpcStatus e.payload = e.status := rfl

theorem payload_message : e.payload.get "message" = e.response := rfl

theorem payload_code :
    e.payload.get "code" =
      ((e.response.get "code").or (Js.member (toString e.status) DEFAULT_RPC_ERROR_CODES)).or
        (.str "server.internal_error") := by
  have code : (Thrown.http e).code = e.response.get "code" := by
    rw [Thrown.code]
    split
    · rfl
    · exact (Js.get_of_not_object (Bool.eq_false_iff.2 ‹_›) _).symm
  rw [← code]
  rfl

theorem recordContent_isArray :
    (recordContent e.response).message.isArray =
      (!e.keyed && (e.validates || e.listsError)) := by
  have taken : (((e.response.get "message").or (e.response.get "error")).or
      e.response.stringify).isArray = (e.validates || e.listsError) := by
    rw [Js.or_isArray, Js.or_isArray, Js.stringify_isArray, Bool.and_false, Bool.or_false]
    rfl
  unfold recordContent HttpException.keyed
  cases (e.response.get "code").string? with
  | none => simpa using taken
  | some code =>
      by_cases key : (decide (code ≠ "") && isMessageKey code) = true
      · simp only [key, if_true, getMessage_isArray, Option.any_some, Bool.not_true, Bool.false_and]
      · simp only [key, Bool.false_eq_true, if_false, taken, Option.any_some, Bool.not_false,
          Bool.true_and]

/-- A response that is no record has neither a code nor a list. -/
theorem rpcContent_of_plain (plain : e.response.isObject = false) :
    (rpcContent e.payload).code = none ∧ (rpcContent e.payload).message.isArray = false := by
  have response : e.payload.get "response" = .undefined := rfl
  have error : (e.payload.get "error").string? = none := rfl
  cases text : e.response.string? with
  | some s =>
      have shape := Js.eq_str_of_string? text
      simp [rpcContent, payload_message, shape, Js.string?, Js.isArray]
  | none =>
      simp [rpcContent, payload_message, text, response, error, plain, Js.isArray]

/-- The content of the payload is read from the response, whatever its shape. -/
theorem rpcContent_payload :
    (rpcContent e.payload).code = (e.response.get "code").string? ∧
      (rpcContent e.payload).message.isArray = (!e.keyed && (e.validates || e.listsError)) := by
  cases object : e.response.isObject with
  | false =>
      simpa [HttpException.validates, HttpException.listsError, Js.get_of_not_object object]
        using rpcContent_of_plain e object
  | true =>
      have listed := recordContent_isArray e
      obtain ⟨response, status, code, errors, stack⟩ := e
      cases response with
      | null => exact ⟨rfl, rfl⟩
      | arr items => exact ⟨rfl, listed⟩
      | obj fields => exact ⟨rfl, listed⟩
      | inherited name =>
          obtain rfl : name = "__proto__" := by simpa [Js.isObject] using object
          exact ⟨rfl, listed⟩
      | _ => cases object

/-- The code that the payload gives an exception whose response has none. -/
theorem payload_code_of_falsy (lower : 400 ≤ e.status) (upper : e.status < 500)
    (missing : (e.response.get "code").truthy = false) :
    e.payload.get "code" = .str ((clientErrorCode e.status).getD "server.internal_error") := by
  rw [payload_code, Js.or_of_falsy missing,
    show DEFAULT_RPC_ERROR_CODES = DEFAULT_ERROR_CODES from rfl, default_of_client lower upper]
  cases found : clientErrorCode e.status with
  | none => rfl
  | some code =>
      exact Js.or_of_truthy (by simp [Js.truthy, (clientErrorCode_ne found).1]) _

theorem convertedCode_of_text {code : String} (named : e.response.get "code" = .str code)
    (present : code ≠ "") : convertedCode e.payload = some code := by
  have own : (rpcContent e.payload).code = some code := by
    rw [(rpcContent_payload e).1, named]
    rfl
  simp [convertedCode, rpcCode, own, present]

theorem convertedCode_of_falsy (lower : 400 ≤ e.status) (upper : e.status < 500)
    (missing : (e.response.get "code").truthy = false) :
    convertedCode e.payload = some ((clientErrorCode e.status).getD "server.internal_error") := by
  have own : (rpcContent e.payload).code = none ∨ (rpcContent e.payload).code = some "" := by
    rw [(rpcContent_payload e).1]
    cases text : (e.response.get "code").string? with
    | none => exact .inl rfl
    | some code =>
        rw [Js.eq_str_of_string? text] at missing
        exact .inr (congrArg some (by simpa [Js.truthy] using missing))
  have present : (clientErrorCode e.status).getD "server.internal_error" ≠ "" := by
    cases found : clientErrorCode e.status with
    | none => decide
    | some code => exact (clientErrorCode_ne found).1
  have read := payload_code_of_falsy e lower upper missing
  rcases own with own | own <;> simp [convertedCode, rpcCode, own, read, Js.string?, present]

/-- A code that is no text is lost, and the payload's own is no text then either. -/
theorem convertedCode_of_other (other : (e.response.get "code").string? = none)
    (present : (e.response.get "code").truthy = true) : convertedCode e.payload = none := by
  have own : (rpcContent e.payload).code = none := (rpcContent_payload e).1.trans other
  have read : e.payload.get "code" = e.response.get "code" := by
    rw [payload_code, Js.or_of_truthy present, Js.or_of_truthy present]
  simp [convertedCode, rpcCode, own, read, other]

end Payload

/-! ## The identity of an exception -/

/-- The code that an exception carries: the one of its response, or the one attached to it. -/
def HttpException.carriedCode (e : HttpException) : Option String :=
  (e.response.get "code").string?.or e.code.string?

/-- The answer of the gateway tells a client what the service has thrown. -/
structure Survives (context : Context) (stack : String) (e : HttpException) : Prop where
  status : (remoteCall context stack (.http e)).statusCode = e.status
  code : ∀ code, e.carriedCode = some code → e.validates = false →
    (remoteCall context stack (.http e)).code = .str code
  named : ¬((remoteCall context stack (.http e)).code = .str "server.internal_error" ∧
    (remoteCall context stack (.http e)).message = getMessage "server.internal_error")

/-- An exception whose identity is kept. A code in its response is kept when it is not the code of
an internal error and no list under `error` hides it. A code that is only attached is dropped, and
so has to be the one that the status or the list stands for; and where the status stands for
none, the answer would be an internal error. -/
def HttpException.Conveyed (e : HttpException) : Prop :=
  if (e.response.get "code").string? = some "" then e.validates = true
  else if (e.response.get "code").string?.isSome then
    e.response.get "code" ≠ .str "server.internal_error" ∧ (e.listsError = true → e.keyed = true)
  else
    e.validates = true ∨
      ((e.listsError = true ∨ (e.response.get "code").truthy = true ∨
          (clientErrorCode e.status).isSome = true) ∧
        ∀ code, e.code.string? = some code →
          if e.listsError then code = "validation.failed" else clientErrorCode e.status = some code)

section Identity

variable (context : Context) (stack : String) {e : HttpException}

/-- The answer to an internal error has its text for a message. -/
theorem masked_of_code (lower : 400 ≤ e.status) (upper : e.status < 500)
    (internal : (remoteCall context stack (.http e)).code = .str "server.internal_error") :
    (remoteCall context stack (.http e)).message = getMessage "server.internal_error" := by
  have plain : (rpcContent e.payload).message.isArray = false := by
    refine Bool.eq_false_iff.2 fun listed => ?_
    have code := answer_code context stack e.payload
    rw [if_pos listed] at code
    have clash := code.symm.trans internal
    simp at clash
  have code := answer_code context stack e.payload
  rw [if_neg (by simp [plain]), payload_status, default_of_client lower upper] at code
  cases converted : convertedCode e.payload with
  | some name =>
      rw [converted] at code
      have same : name = "server.internal_error" := by
        simpa using code.symm.trans internal
      subst same
      exact answer_message context stack e.payload plain converted (by decide)
  | none =>
      rw [converted] at code
      have clash := code.symm.trans internal
      cases found : clientErrorCode e.status with
      | none => simp [found] at clash
      | some name => exact absurd (by simpa [found] using clash) (clientErrorCode_ne found).2.1

theorem survives_iff_code (lower : 400 ≤ e.status) (upper : e.status < 500) :
    Survives context stack e ↔
      (∀ code, e.carriedCode = some code → e.validates = false →
        (remoteCall context stack (.http e)).code = .str code) ∧
      (remoteCall context stack (.http e)).code ≠ .str "server.internal_error" := by
  constructor
  · intro survives
    exact ⟨survives.code, fun internal =>
      survives.named ⟨internal, masked_of_code context stack lower upper internal⟩⟩
  · rintro ⟨code, named⟩
    exact ⟨answer_status context stack e.payload, code, fun both => named both.1⟩

theorem remoteCall_code_listed (unkeyed : e.keyed = false)
    (listed : e.validates = true ∨ e.listsError = true) :
    (remoteCall context stack (.http e)).code = .str "validation.failed" := by
  refine (answer_code context stack e.payload).trans (if_pos ?_)
  rw [(rpcContent_payload e).2, unkeyed]
  simpa using listed

theorem remoteCall_code_plain (lower : 400 ≤ e.status) (upper : e.status < 500)
    (plain : e.keyed = true ∨ (e.validates = false ∧ e.listsError = false)) :
    (remoteCall context stack (.http e)).code =
      ((convertedCode e.payload).map Js.str).getD
        (((clientErrorCode e.status).map Js.str).getD .undefined) := by
  refine (answer_code context stack e.payload).trans ?_
  rw [payload_status, default_of_client lower upper]
  refine if_neg ?_
  rw [(rpcContent_payload e).2]
  rcases plain with keyed | ⟨unlisted, plain⟩
  · simp [keyed]
  · simp [unlisted, plain]

theorem not_validates_of_listsError (listed : e.listsError = true) : e.validates = false := by
  have falsy : (e.response.get "message").truthy = false := by
    simpa using (Bool.and_eq_true_iff.1 listed).1
  exact Bool.eq_false_iff.2 fun array => by simp [Js.truthy_of_isArray array] at falsy

/-- An empty code is replaced by the one of the status, unless a list hides it. -/
theorem survives_empty_iff (lower : 400 ≤ e.status) (upper : e.status < 500)
    (empty : (e.response.get "code").string? = some "") :
    Survives context stack e ↔ e.validates = true := by
  have unkeyed : e.keyed = false := by simp [HttpException.keyed, empty]
  have carried : e.carriedCode = some "" := by simp [HttpException.carriedCode, empty]
  have falsy : (e.response.get "code").truthy = false := by
    rw [Js.eq_str_of_string? empty]
    rfl
  rw [survives_iff_code context stack lower upper]
  constructor
  · rintro ⟨code, -⟩
    by_contra unlisted
    have unlisted : e.validates = false := by simpa using unlisted
    have same := code "" carried unlisted
    cases listed : e.listsError with
    | true =>
        rw [remoteCall_code_listed context stack unkeyed (.inr listed)] at same
        simp at same
    | false =>
        rw [remoteCall_code_plain context stack lower upper (.inr ⟨unlisted, listed⟩),
          convertedCode_of_falsy e lower upper falsy] at same
        have none_empty : (clientErrorCode e.status).getD "server.internal_error" = "" := by
          simpa using same
        cases found : clientErrorCode e.status with
        | none => simp [found] at none_empty
        | some name => exact (clientErrorCode_ne found).1 (by simpa [found] using none_empty)
  · intro listed
    rw [remoteCall_code_listed context stack unkeyed (.inl listed)]
    exact ⟨fun _ _ unlisted => by simp [listed] at unlisted, by simp⟩

/-- A code of the response is kept, unless it is the one of an internal error or a list hides it. -/
theorem survives_text_iff (lower : 400 ≤ e.status) (upper : e.status < 500) {name : String}
    (text : (e.response.get "code").string? = some name) (present : name ≠ "") :
    Survives context stack e ↔
      name ≠ "server.internal_error" ∧ (e.listsError = true → e.keyed = true) := by
  have carried : e.carriedCode = some name := by simp [HttpException.carriedCode, text]
  have keyed : e.keyed = isMessageKey name := by simp [HttpException.keyed, text, present]
  have converted := convertedCode_of_text e (Js.eq_str_of_string? text) present
  have plain_code (plain : e.keyed = true ∨ (e.validates = false ∧ e.listsError = false)) :
      (remoteCall context stack (.http e)).code = .str name := by
    rw [remoteCall_code_plain context stack lower upper plain, converted]
    rfl
  rw [survives_iff_code context stack lower upper]
  constructor
  · rintro ⟨code, named⟩
    refine ⟨fun internal => ?_, fun listed => ?_⟩
    · exact named ((plain_code (.inl (by rw [keyed, internal]; decide))).trans (by rw [internal]))
    · by_contra unkeyed
      have unkeyed : e.keyed = false := by simpa using unkeyed
      have same := code name carried (not_validates_of_listsError listed)
      rw [remoteCall_code_listed context stack unkeyed (.inr listed)] at same
      have validation : "validation.failed" = name := by simpa using same
      rw [keyed, ← validation] at unkeyed
      exact absurd unkeyed (by decide)
  · rintro ⟨named, hidden⟩
    by_cases plain : e.keyed = true ∨ (e.validates = false ∧ e.listsError = false)
    · rw [plain_code plain]
      refine ⟨fun code same _ => ?_, by simpa using named⟩
      rw [Option.some.inj (carried.symm.trans same)]
    · have unkeyed : e.keyed = false := by simpa using fun keyed => plain (.inl keyed)
      have unlisted : e.listsError = false := by
        simpa [unkeyed] using hidden
      have listed : e.validates = true := by
        simpa [unkeyed, unlisted] using plain
      rw [remoteCall_code_listed context stack unkeyed (.inl listed)]
      exact ⟨fun _ _ unlisted => by simp [listed] at unlisted, by simp⟩

/-- Without a code in the response, the status or a list has to stand for the attached one. -/
theorem survives_uncoded_iff (lower : 400 ≤ e.status) (upper : e.status < 500)
    (uncoded : (e.response.get "code").string? = none) :
    Survives context stack e ↔
      e.validates = true ∨
        ((e.listsError = true ∨ (e.response.get "code").truthy = true ∨
            (clientErrorCode e.status).isSome = true) ∧
          ∀ code, e.code.string? = some code →
            if e.listsError then code = "validation.failed"
            else clientErrorCode e.status = some code) := by
  have unkeyed : e.keyed = false := by simp [HttpException.keyed, uncoded]
  have carried : e.carriedCode = e.code.string? := by simp [HttpException.carriedCode, uncoded]
  rw [survives_iff_code context stack lower upper, carried]
  cases validates : e.validates with
  | true => simp [remoteCall_code_listed context stack unkeyed (.inl validates)]
  | false =>
      cases listed : e.listsError with
      | true =>
          have same (code : String) : "validation.failed" = code ↔ code = "validation.failed" := eq_comm
          simp [remoteCall_code_listed context stack unkeyed (.inr listed), same]
      | false =>
          rw [remoteCall_code_plain context stack lower upper (.inr ⟨validates, listed⟩)]
          cases present : (e.response.get "code").truthy with
          | true =>
              rw [convertedCode_of_other e uncoded present]
              cases found : clientErrorCode e.status with
              | none => simp
              | some name => simp [(clientErrorCode_ne found).2.1]
          | false =>
              rw [convertedCode_of_falsy e lower upper present]
              cases found : clientErrorCode e.status with
              | none => simp
              | some name => simp [(clientErrorCode_ne found).2.1]

/-- An exception keeps its identity across the hop exactly if its code is in its response, or is the
one that the gateway makes up. -/
theorem identity_survives_iff (lower : 400 ≤ e.status) (upper : e.status < 500) :
    Survives context stack e ↔ e.Conveyed := by
  unfold HttpException.Conveyed
  cases text : (e.response.get "code").string? with
  | none => simpa using survives_uncoded_iff context stack lower upper text
  | some name =>
      by_cases empty : name = ""
      · subst empty
        simpa using survives_empty_iff context stack lower upper text
      · rw [survives_text_iff context stack lower upper text empty, Js.eq_str_of_string? text]
        simp [empty]

end Identity

/-- What registering an address a second time throws. -/
def userAlreadyExists : HttpException where
  response := .obj [("message", .str "User already exists"), ("error", .str "Conflict"),
    ("statusCode", .num 409)]
  status := 409
  code := .str "user.email.already_exists"
  stack := ""

def production : Context where
  isProduction := true
  apiVersion := "1.0"
  correlationId := ""
  path := "/auth/register"
  timestamp := ""

theorem identity_survives_not_found :
    Survives production ""
      { userAlreadyExists with status := 404, code := .str "resource.not_found" } :=
  (identity_survives_iff production "" (by decide) (by decide)).2
    (Or.inr ⟨.inr (.inr rfl), fun code same => by cases same; rfl⟩)

theorem identity_lost :
    ¬∀ (context : Context) (stack : String) (e : HttpException),
      400 ≤ e.status → e.status < 500 → Survives context stack e := by
  intro survive
  have survives := survive production "" userAlreadyExists (by decide) (by decide)
  exact survives.named ⟨rfl, rfl⟩

/-! ## The text of an error -/

/-- The body of a response, apart from its time, its path and its correlation. -/
def ApiResponse.body (response : ApiResponse) : ApiResponse :=
  { response with timestamp := "", path := "", correlationId := "" }

/-- Two errors that differ in message and stack only have the same body in production. -/
def Masked (status code errors : Js) : Prop :=
  ∀ (context context' : Context) (message message' stack stack' : String)
    (thrown thrown' : String),
    context.isProduction = true → context'.isProduction = true →
    context.apiVersion = context'.apiVersion →
    (remoteCall context thrown
        (.error { message := message, status := status, code := code, errors := errors,
                  stack := stack })).body =
      (remoteCall context' thrown'
        (.error { message := message', status := status, code := code, errors := errors,
                  stack := stack' })).body

section Text

variable (error : ErrorObject)

def ErrorObject.payload : Js := commonRpcExceptionFilter (.error error)

theorem error_content :
    ∃ text, rpcContent error.payload = { message := .str text } ∧
      (error.message ≠ "" → text = error.message) := by
  have read : error.payload.get "message" =
      (Js.str error.message).or (.str "Internal server error") := rfl
  by_cases empty : error.message = ""
  · refine ⟨"Internal server error", ?_, fun present => absurd empty present⟩
    have falsy : (Js.str error.message).truthy = false := by simp [Js.truthy, empty]
    simp [rpcContent, read, Js.or_of_falsy falsy, Js.string?]
  · refine ⟨error.message, ?_, fun _ => rfl⟩
    have truthy : (Js.str error.message).truthy = true := by simp [Js.truthy, empty]
    simp [rpcContent, read, Js.or_of_truthy truthy, Js.string?]

theorem error_converted :
    convertedCode error.payload =
      ((error.code.or (Js.member (error.status.or (.num 500)).toKey DEFAULT_RPC_ERROR_CODES)).or
        (.str "server.internal_error")).string?.filter fun code => code ≠ "" := by
  obtain ⟨text, content, -⟩ := error_content error
  unfold convertedCode rpcCode
  rw [content]
  rfl

/-- The default code of a service is a key, unless the status names what every object inherits. -/
theorem default_rpc_code (status : String) :
    (∃ name, Js.member status DEFAULT_RPC_ERROR_CODES = .inherited name ∧
        status ∈ Js.prototypeMembers) ∨
      (status ∉ Js.prototypeMembers ∧
        ∃ code, (Js.member status DEFAULT_RPC_ERROR_CODES).or (.str "server.internal_error") =
          .str code ∧ code ≠ "" ∧ isMessageKey code = true) := by
  have known : ∀ entry ∈ DEFAULT_RPC_ERROR_CODES, entry.1 ∉ Js.prototypeMembers ∧
      (entry.2.string?.any fun code => code ≠ "" && isMessageKey code) = true := by decide
  unfold Js.member
  cases found : DEFAULT_RPC_ERROR_CODES.find? fun field => field.1 = status with
  | some entry =>
      have same : entry.1 = status := by simpa using List.find?_some found
      obtain ⟨own, key⟩ := known entry (List.mem_of_find?_eq_some found)
      obtain ⟨code, text, key⟩ := (Option.any_eq_true _ _).1 key
      obtain ⟨present, key⟩ := Bool.and_eq_true_iff.1 key
      have present : code ≠ "" := by simpa using present
      refine .inr ⟨same ▸ own, code, ?_, present, key⟩
      have truthy : entry.2.truthy = true := by
        simp [Js.eq_str_of_string? text, Js.truthy, present]
      exact (Js.or_of_truthy truthy _).trans (Js.eq_str_of_string? text)
  | none =>
      by_cases inherited : status ∈ Js.prototypeMembers
      · exact .inl ⟨status, if_pos inherited, inherited⟩
      · refine .inr ⟨inherited, "server.internal_error", ?_, by decide, by decide⟩
        simp [inherited, Js.or]

/-- A code that stands for a text of the messages. -/
def KeyedBy (status code : Js) : Prop :=
  if code.truthy then ∃ key, code = .str key ∧ isMessageKey key = true
  else (status.or (.num 500)).toKey ∉ Js.prototypeMembers

theorem converted_of_keyedBy (keyed : KeyedBy error.status error.code) :
    ∃ code, convertedCode error.payload = some code ∧ isMessageKey code = true := by
  rw [error_converted]
  unfold KeyedBy at keyed
  cases truthy : error.code.truthy with
  | true =>
      rw [if_pos truthy] at keyed
      obtain ⟨key, text, known⟩ := keyed
      refine ⟨key, ?_, known⟩
      rw [Js.or_of_truthy truthy, Js.or_of_truthy truthy, text]
      have present : key ≠ "" := by simpa [text, Js.truthy] using truthy
      simp [Js.string?, present]
  | false =>
      rw [if_neg (by simp [truthy])] at keyed
      rw [Js.or_of_falsy truthy]
      rcases default_rpc_code (error.status.or (.num 500)).toKey with ⟨-, -, inherited⟩ | ⟨-, code, same, present, key⟩
      · exact absurd inherited keyed
      · exact ⟨code, by simp [same, Js.string?, present], key⟩

theorem keyedBy_of_converted {code : String} (converted : convertedCode error.payload = some code)
    (known : isMessageKey code = true) : KeyedBy error.status error.code := by
  rw [error_converted] at converted
  unfold KeyedBy
  split
  · rename_i truthy
    rw [Js.or_of_truthy truthy, Js.or_of_truthy truthy] at converted
    exact ⟨code, Js.eq_str_of_string? (Option.filter_eq_some_iff.1 converted).1, known⟩
  · rename_i falsy
    have falsy : error.code.truthy = false := by simpa using falsy
    rw [Js.or_of_falsy falsy] at converted
    rcases default_rpc_code (error.status.or (.num 500)).toKey with ⟨name, same, -⟩ | ⟨own, -⟩
    · rw [same] at converted
      cases converted
    · exact own

/-- The text of an error stays in the gateway exactly if the error has a code with a text of its
own, or has none and a status with a default. -/
theorem text_masked_iff (status code errors : Js) :
    Masked status code errors ↔ KeyedBy status code := by
  constructor
  · intro masked
    by_contra unkeyed
    let thrown (message : String) : ErrorObject :=
      { message, status, code, errors, stack := "" }
    have raw (message : String) (present : message ≠ "") :
        (remoteCall production "" (.error (thrown message))).message = .str message := by
      obtain ⟨text, content, same⟩ := error_content (thrown message)
      refine answer_message_raw _ _ (thrown message).payload ?_ fun code converted => ?_
      · rw [content]
        exact congrArg Js.str (same present)
      · exact Bool.eq_false_iff.2 fun known =>
          unkeyed (keyedBy_of_converted (thrown message) converted known)
    have same := masked production production "a" "b" "" "" "" "" rfl rfl rfl
    have texts := (raw "a" (by decide)).symm.trans
      ((congrArg ApiResponse.message same).trans (raw "b" (by decide)))
    simp at texts
  · intro keyed context context' message message' stack stack' thrown thrown' live live' version
    let first : ErrorObject := { message, status, code, errors, stack }
    let second : ErrorObject := { message := message', status, code, errors, stack := stack' }
    obtain ⟨key, converted, known⟩ := converted_of_keyedBy first keyed
    obtain ⟨text, content, -⟩ := error_content first
    obtain ⟨text', content', -⟩ := error_content second
    have one := answer_of_key context thrown first.payload live (by rw [content]; rfl)
      (by rw [content]) converted known
    have two := answer_of_key context' thrown' second.payload live' (by rw [content']; rfl)
      (by rw [content']) ((error_converted second).trans ((error_converted first).symm.trans converted))
      known
    calc (answer context thrown first.payload).body
        = (answer context' thrown' second.payload).body := by
          rw [one, two]
          simp only [ApiResponse.body, version]
          rfl

/-- The code of a driver stands for no text, and so the text of the driver is sent. -/
theorem text_leaks : ¬∀ status code errors : Js, Masked status code errors := by
  intro masked
  have same := masked .undefined (.str "ECONNREFUSED") .undefined production production
    "connect ECONNREFUSED 10.0.0.5:5432" "connect ECONNREFUSED 10.0.0.6:5432" "" "" "" "" rfl rfl rfl
  have texts := congrArg (fun response => response.message.string?) same
  exact absurd texts (by decide)

end Text

end FlightBookings.Errors
