import FlightBookings.Logging.Body

/-! # Secrets in the log

Two bodies that differ only under sensitive names are logged alike if the masking reaches every such
name. A secret that it does not reach lengthens the text, and shows even where the text is cut.
-/

namespace FlightBookings.Logging

open Json

/-! ## Secrets -/

/-- Every value under a sensitive name replaced by one text. -/
def withSecret (secret : Units) : Json → Json :=
  fold .scalar .arr fun fields => .obj (fields.map fun field =>
    (field.1, if isSensitive field.1 then .scalar (.str secret) else field.2))

/-- The bodies differ only in what they hold under sensitive names. -/
def DifferInSecrets (b b' : Json) : Prop := withSecret [] b = withSecret [] b'

/-- How many values stand under a sensitive name that do not stand under another one. -/
def secrets : Json → Nat :=
  fold (fun _ => 0) List.sum fun fields =>
    (fields.map fun field => if isSensitive field.1 then 1 else field.2).sum

/-- How many of them the masking does not reach. -/
def exposed : Nat → Json → Nat
  | _, .scalar _ => 0
  | 0, .arr items => (items.map secrets).sum
  | depth + 1, .arr items => (items.map (exposed depth)).sum
  | 0, .obj fields =>
      ((ownMembers fields).map fun field =>
        if isSensitive field.1 then 0 else secrets field.2).sum
  | depth + 1, .obj fields =>
      ((ownMembers fields).map fun field =>
        if isSensitive field.1 then 0 else exposed depth field.2).sum

/-- No object has two members of one name. -/
def Distinct : Json → Prop :=
  fold (fun _ => True) (fun items => ∀ p ∈ items, p) fun fields =>
    (fields.map Prod.fst).Nodup ∧ ∀ field ∈ fields, field.2

/-! ## Values with other secrets -/

section Fields

variable {secret : Units} {items : List Json} {fields : List (Units × Json)} {s : Scalar}

/-- A member with another secret, or with the secrets of its value replaced. -/
def fieldWithSecret (secret : Units) (field : Units × Json) : Units × Json :=
  (field.1, if isSensitive field.1 then .scalar (.str secret) else withSecret secret field.2)

@[simp] theorem withSecret_scalar : withSecret secret (.scalar s) = .scalar s :=
  fold_scalar ..

@[simp] theorem withSecret_arr : withSecret secret (.arr items) = .arr (items.map (withSecret secret)) :=
  fold_arr ..

@[simp] theorem withSecret_obj :
    withSecret secret (.obj fields) = .obj (fields.map (fieldWithSecret secret)) := by
  rw [withSecret, fold_obj, List.map_map]
  rfl

@[simp] theorem fieldWithSecret_fst (field : Units × Json) : (fieldWithSecret secret field).1 = field.1 :=
  rfl

theorem fieldWithSecret_of_sensitive {field : Units × Json} (h : isSensitive field.1 = true) :
    fieldWithSecret secret field = (field.1, .scalar (.str secret)) := by
  simp [fieldWithSecret, h]

theorem fieldWithSecret_of_plain {field : Units × Json} (h : isSensitive field.1 = false) :
    fieldWithSecret secret field = (field.1, withSecret secret field.2) := by
  simp [fieldWithSecret, h]

@[simp] theorem secrets_scalar : secrets (.scalar s) = 0 := fold_scalar ..

@[simp] theorem secrets_arr : secrets (.arr items) = (items.map secrets).sum := fold_arr ..

@[simp] theorem secrets_obj :
    secrets (.obj fields) =
      (fields.map fun field => if isSensitive field.1 then 1 else secrets field.2).sum := by
  rw [secrets, fold_obj, List.map_map]
  rfl

theorem distinct_arr : Distinct (.arr items) ↔ ∀ item ∈ items, Distinct item := by
  rw [Distinct, fold_arr, List.forall_mem_map]

theorem distinct_obj :
    Distinct (.obj fields) ↔ (fields.map Prod.fst).Nodup ∧ ∀ field ∈ fields, Distinct field.2 := by
  rw [Distinct, fold_obj, List.map_map, List.forall_mem_map]
  rfl

end Fields

theorem withSecret_withSecret (secret secret' : Units) (b : Json) :
    withSecret secret (withSecret secret' b) = withSecret secret b := by
  induction b using Json.induction with
  | scalar s => simp
  | arr items ih =>
      rw [withSecret_arr, withSecret_arr, withSecret_arr, List.map_map]
      exact congrArg Json.arr (List.map_congr_left ih)
  | obj fields ih =>
      rw [withSecret_obj, withSecret_obj, withSecret_obj, List.map_map]
      refine congrArg Json.obj (List.map_congr_left fun field hfield => ?_)
      cases hsensitive : isSensitive field.1 with
      | true => simp [fieldWithSecret, hsensitive]
      | false => simp [fieldWithSecret, hsensitive, ih field hfield]

theorem differInSecrets_withSecret (secret : Units) (b : Json) :
    DifferInSecrets b (withSecret secret b) :=
  (withSecret_withSecret [] secret b).symm

theorem secrets_withSecret (secret : Units) (b : Json) :
    secrets (withSecret secret b) = secrets b := by
  induction b using Json.induction with
  | scalar s => simp
  | arr items ih =>
      rw [withSecret_arr, secrets_arr, secrets_arr, List.map_map]
      exact congrArg List.sum (List.map_congr_left ih)
  | obj fields ih =>
      rw [withSecret_obj, secrets_obj, secrets_obj, List.map_map]
      refine congrArg List.sum (List.map_congr_left fun field hfield => ?_)
      cases hsensitive : isSensitive field.1 with
      | true => simp [hsensitive]
      | false => simp [fieldWithSecret_of_plain, hsensitive, ih field hfield]

theorem distinct_withSecret {secret : Units} {b : Json} (h : Distinct b) :
    Distinct (withSecret secret b) := by
  induction b using Json.induction with
  | scalar s => rwa [withSecret_scalar]
  | arr items ih =>
      rw [distinct_arr] at h
      rw [withSecret_arr, distinct_arr, List.forall_mem_map]
      exact fun item hitem => ih item hitem (h item hitem)
  | obj fields ih =>
      rw [distinct_obj] at h
      rw [withSecret_obj, distinct_obj, List.forall_mem_map, List.map_map]
      refine ⟨h.1, fun field hfield => ?_⟩
      cases hsensitive : isSensitive field.1 with
      | true =>
          rw [fieldWithSecret_of_sensitive hsensitive, Distinct, fold_scalar]
          trivial
      | false =>
          rw [fieldWithSecret_of_plain hsensitive]
          exact ih field hfield (h.2 field hfield)

/-- A value without secrets. -/
theorem withSecret_of_secrets (secret : Units) {b : Json} (h : secrets b = 0) :
    withSecret secret b = b := by
  induction b using Json.induction with
  | scalar s => simp
  | arr items ih =>
      rw [secrets_arr, List.sum_eq_zero_iff_forall_eq_nat, List.forall_mem_map] at h
      rw [withSecret_arr]
      refine congrArg Json.arr ((List.map_congr_left fun item hitem => ?_).trans (List.map_id _))
      exact ih item hitem (h item hitem)
  | obj fields ih =>
      rw [secrets_obj, List.sum_eq_zero_iff_forall_eq_nat, List.forall_mem_map] at h
      rw [withSecret_obj]
      refine congrArg Json.obj ((List.map_congr_left fun field hfield => ?_).trans (List.map_id _))
      have hnone := h field hfield
      cases hsensitive : isSensitive field.1 with
      | true => simp [hsensitive] at hnone
      | false =>
          rw [hsensitive] at hnone
          rw [fieldWithSecret_of_plain hsensitive, ih field hfield (by simpa using hnone)]
          rfl

/-! ## One level of the masking -/

def exposedIn : Nat → Json → Nat
  | 0 => secrets
  | depth + 1 => exposed depth

section Level

variable {depth : Nat} {items : List Json} {fields : List (Units × Json)} {s : Scalar}

@[simp] theorem exposed_scalar : exposed depth (.scalar s) = 0 := by
  rw [exposed]

@[simp] theorem exposed_arr :
    exposed depth (.arr items) = (items.map (exposedIn depth)).sum := by
  cases depth <;> rw [exposed, exposedIn]

@[simp] theorem exposed_obj :
    exposed depth (.obj fields) =
      ((ownMembers fields).map fun field =>
        if isSensitive field.1 then 0 else exposedIn depth field.2).sum := by
  cases depth <;> rw [exposed, exposedIn]

theorem ownMembers_withSecret (secret : Units) :
    ownMembers (fields.map (fieldWithSecret secret)) =
      (ownMembers fields).map (fieldWithSecret secret) := by
  rw [ownMembers, List.filter_map]
  rfl

end Level

/-- What holds of the values in a value holds of the value. -/
theorem depth_induction {motive : (Json → Json) → (Json → Nat) → Prop}
    (raw : motive (fun v => v) secrets)
    (level : ∀ depth, motive (nested depth) (exposedIn depth) →
      motive (sanitizeBody depth) (exposed depth)) (depth : Nat) :
    motive (sanitizeBody depth) (exposed depth) := by
  induction depth with
  | zero => exact level 0 raw
  | succ depth ih => exact level (depth + 1) ih

/-! ## What the masking leaves -/

/-- A member that the masking goes into. -/
theorem exposedIn_withSecret {secret : Units} {depth : Nat}
    (h : ∀ v, exposedIn depth (withSecret secret v) = exposedIn depth v) (b : Json) :
    exposed depth (withSecret secret b) = exposed depth b := by
  cases b with
  | scalar s => simp
  | arr items =>
      rw [withSecret_arr, exposed_arr, exposed_arr, List.map_map]
      exact congrArg List.sum (List.map_congr_left fun item _ => h item)
  | obj fields =>
      rw [withSecret_obj, exposed_obj, exposed_obj, ownMembers_withSecret, List.map_map]
      refine congrArg List.sum (List.map_congr_left fun field _ => ?_)
      cases hsensitive : isSensitive field.1 with
      | true => simp [hsensitive]
      | false => simp [fieldWithSecret_of_plain, hsensitive, h]

theorem exposed_withSecret (secret : Units) (depth : Nat) (b : Json) :
    exposed depth (withSecret secret b) = exposed depth b :=
  @depth_induction (fun _ weight => ∀ b, weight (withSecret secret b) = weight b)
    (secrets_withSecret secret) (fun _ => exposedIn_withSecret) depth b

/-- The masking leaves nothing of the secrets. -/
theorem sanitizeBody_withSecret (secret : Units) (depth : Nat) (b : Json) (h : exposed depth b = 0) :
    sanitizeBody depth (withSecret secret b) = sanitizeBody depth b := by
  revert b
  refine @depth_induction (fun f weight => ∀ b, weight b = 0 → f (withSecret secret b) = f b)
    (fun b => withSecret_of_secrets secret) (fun depth ih b h => ?_) depth
  cases b with
  | scalar s => simp
  | arr items =>
      rw [exposed_arr, List.sum_eq_zero_iff_forall_eq_nat, List.forall_mem_map] at h
      rw [withSecret_arr, sanitizeBody_arr, sanitizeBody_arr, List.map_map]
      exact congrArg Json.arr (List.map_congr_left fun item hitem => ih item (h item hitem))
  | obj fields =>
      rw [exposed_obj, List.sum_eq_zero_iff_forall_eq_nat, List.forall_mem_map] at h
      rw [withSecret_obj, sanitizeBody_obj, sanitizeBody_obj, clone, clone, ownMembers_withSecret,
        List.map_map]
      refine congrArg Json.obj (List.map_congr_left fun field hfield => ?_)
      have hnone := h field hfield
      cases hsensitive : isSensitive field.1 with
      | true => simp [hsensitive]
      | false =>
          rw [hsensitive] at hnone
          simp [fieldWithSecret_of_plain, hsensitive, ih field.2 (by simpa using hnone)]

/-- A secret of some length. -/
def ofLength (n : Nat) : Units := List.replicate n 0x78

theorem length_text_ofLength (n : Nat) :
    (stringify (.scalar (.str (ofLength n)))).length =
      (stringify (.scalar (.str []))).length + n := by
  have hplain : escapedAll (ofLength n) = ofLength n :=
    escapedAll_replicate (by decide +kernel) (by decide +kernel) n
  have hlength : (ofLength n).length = n := List.length_replicate
  simp only [stringify_scalar, Scalar.text, quoted, hplain, List.length_append, escapedAll,
    List.length_nil, hlength]
  omega

/-- Every secret that is written out lengthens the text. -/
def Lengthens (f : Json → Json) (weight : Json → Nat) : Prop :=
  ∀ n b, (stringify (f (withSecret (ofLength n) b))).length =
    (stringify (f (withSecret [] b))).length + n * weight b

theorem lengthens_secrets : Lengthens (fun v => v) secrets := by
  intro n b
  induction b using Json.induction with
  | scalar s => simp
  | arr items ih =>
      rw [withSecret_arr, withSecret_arr, secrets_arr]
      exact length_stringify_arr ih
  | obj fields ih =>
      rw [withSecret_obj, withSecret_obj, secrets_obj]
      refine length_stringify_obj fun field hfield => ?_
      cases hsensitive : isSensitive field.1 with
      | true => simpa using length_text_ofLength n
      | false => simpa using ih field hfield

/-- The record that the loop fills has the same members whatever the secrets are. -/
theorem clone_withSecret (f : Json → Json) (secret : Units) (fields : List (Units × Json)) :
    clone f (fields.map (fieldWithSecret secret)) =
      (ownMembers fields).map fun field =>
        (field.1, if isSensitive field.1 then .scalar (.str (units "***"))
          else f (withSecret secret field.2)) := by
  rw [clone, ownMembers_withSecret, List.map_map]
  refine List.map_congr_left fun field _ => ?_
  cases hsensitive : isSensitive field.1 <;> simp [fieldWithSecret, hsensitive]

theorem Lengthens.level {depth : Nat} (h : Lengthens (nested depth) (exposedIn depth)) :
    Lengthens (sanitizeBody depth) (exposed depth) := by
  intro n b
  cases b with
  | scalar s => simp
  | arr items =>
      rw [withSecret_arr, withSecret_arr, sanitizeBody_arr, sanitizeBody_arr, exposed_arr,
        List.map_map, List.map_map]
      exact length_stringify_arr fun item _ => h n item
  | obj fields =>
      rw [withSecret_obj, withSecret_obj, sanitizeBody_obj, sanitizeBody_obj, clone_withSecret,
        clone_withSecret, exposed_obj]
      refine length_stringify_obj fun field _ => ?_
      cases hsensitive : isSensitive field.1 with
      | true => simp
      | false => simpa using h n field.2

theorem lengthens_sanitizeBody (depth : Nat) : Lengthens (sanitizeBody depth) (exposed depth) :=
  depth_induction lengthens_secrets (fun _ => Lengthens.level) depth

/-! ## The log -/

theorem length_truncate {value : Units} (h : MAX_BODY_LOG_CHARS < value.length) :
    (toString (value.length - MAX_BODY_LOG_CHARS)).length ≤ (truncate value).length := by
  rw [truncate, if_neg (Nat.not_le.mpr h), List.length_append, length_units, String.length_append,
    String.length_append]
  omega

/-- A text that is long enough is not cut to the same log as a given one. -/
theorem truncate_ne (value : Units) :
    ∃ bound, ∀ longer : Units, bound ≤ longer.length → truncate longer ≠ truncate value := by
  refine ⟨MAX_BODY_LOG_CHARS + 10 ^ ((truncate value).length + 1), fun longer hlong heq => ?_⟩
  have hpos : 0 < 10 ^ ((truncate value).length + 1) := Nat.pow_pos (by decide)
  have hcut : MAX_BODY_LOG_CHARS < longer.length := by omega
  have hle := length_truncate hcut
  rw [heq, Nat.toString_eq_repr] at hle
  have hlt := (Nat.length_repr_le_iff (Nat.succ_pos _)).mp (Nat.le_succ_of_le hle)
  omega

theorem stringifyBody_of_exposed {b : Json} (h : exposed 4 b ≠ 0) :
    stringifyBody b = some (truncate (stringify (sanitizeBody 4 b))) := by
  have hnonempty : ∀ c (text text' : Units), units c ++ text ++ text' = [] → c = "" := by
    intro c text text' hnil
    have hlength := congrArg List.length hnil
    rw [List.length_append, List.length_append, length_units, List.length_nil] at hlength
    exact String.length_eq_zero_iff.mp (by omega)
  cases b with
  | scalar s => exact absurd exposed_scalar h
  | arr items =>
      refine (if_neg Bool.false_ne_true).trans (if_neg fun hnil => ?_)
      rw [safeStringify, sanitizeBody_arr, stringify_arr] at hnil
      exact absurd (hnonempty _ _ _ hnil) (by decide)
  | obj fields =>
      refine (if_neg Bool.false_ne_true).trans (if_neg fun hnil => ?_)
      rw [safeStringify, sanitizeBody_obj, stringify_obj] at hnil
      exact absurd (hnonempty _ _ _ hnil) (by decide)

theorem isNull_withSecret (secret : Units) (b : Json) : isNull (withSecret secret b) = isNull b := by
  cases b with
  | scalar s => rw [withSecret_scalar]
  | arr items =>
      rw [withSecret_arr]
      rfl
  | obj fields =>
      rw [withSecret_obj]
      rfl

theorem stringifyBody_withSecret {b : Json} (secret : Units) (h : exposed 4 b = 0) :
    stringifyBody (withSecret secret b) = stringifyBody b := by
  simp only [stringifyBody, isNull_withSecret, sanitizeBody_withSecret secret 4 b h]

theorem logs_alike {b b' : Json} (h : exposed 4 b = 0) (hdiffer : DifferInSecrets b b') :
    stringifyBody b = stringifyBody b' := by
  have h' : exposed 4 b' = 0 := by
    rw [← exposed_withSecret [] 4 b', ← hdiffer, exposed_withSecret, h]
  rw [← stringifyBody_withSecret [] h, ← stringifyBody_withSecret [] h', hdiffer]

/-- A long secret shows in the log. -/
theorem log_shows {b : Json} (h : exposed 4 b ≠ 0) :
    ∃ secret, stringifyBody (withSecret secret b) ≠ stringifyBody b := by
  obtain ⟨bound, hbound⟩ := truncate_ne (stringify (sanitizeBody 4 b))
  refine ⟨ofLength bound, fun heq => ?_⟩
  have h' : exposed 4 (withSecret (ofLength bound) b) ≠ 0 := by rwa [exposed_withSecret]
  rw [stringifyBody_of_exposed h, stringifyBody_of_exposed h', Option.some.injEq] at heq
  refine hbound _ ?_ heq
  rw [lengthens_sanitizeBody 4 bound b]
  have hle : bound * 1 ≤ bound * exposed 4 b := Nat.mul_le_mul_left _ (Nat.pos_of_ne_zero h)
  omega

/-- The log of a body is the same for all bodies that differ from it only in secrets just when the
masking reaches every secret. -/
theorem log_hides_secrets_iff {b : Json} (hdistinct : Distinct b) :
    (∀ b', Distinct b' → DifferInSecrets b b' → stringifyBody b = stringifyBody b') ↔
      exposed 4 b = 0 := by
  constructor
  · intro halike
    by_contra hexposed
    obtain ⟨secret, hne⟩ := log_shows hexposed
    exact hne (halike _ (distinct_withSecret hdistinct) (differInSecrets_withSecret secret b)).symm
  · intro h b' _ hdiffer
    exact logs_alike h hdiffer

/-- A body as it is sent to sign in. -/
def signInBody (password : String) : Json :=
  .obj [(units "email", .scalar (.str (units "a@b.c"))),
    (units "password", .scalar (.str (units password)))]

theorem distinct_scalar (s : Scalar) : Distinct (.scalar s) := by
  rw [Distinct, fold_scalar]
  trivial

theorem distinct_signInBody (password : String) : Distinct (signInBody password) := by
  have hnames : [units "email", units "password"].Nodup := by decide +kernel
  rw [signInBody, distinct_obj]
  exact ⟨hnames, by simp [distinct_scalar]⟩

theorem signIn_log_hides_password :
    exposed 4 (signInBody "x") = 0 ∧ ∀ b', Distinct b' → DifferInSecrets (signInBody "x") b' →
      stringifyBody (signInBody "x") = stringifyBody b' := by
  have hexposed : exposed 4 (signInBody "x") = 0 := by decide +kernel
  exact ⟨hexposed, (log_hides_secrets_iff (distinct_signInBody "x")).mpr hexposed⟩

/-- The body of a request in the value of another one, five members deep. -/
def wrapped (b : Json) : Json :=
  [units "a", units "b", units "c", units "d", units "e"].foldr (fun k v => .obj [(k, v)]) b

/-- A password that lies six members deep is logged. -/
theorem nested_password_logged :
    ¬∀ b b', Distinct b → Distinct b' → DifferInSecrets b b' → stringifyBody b = stringifyBody b' := by
  intro h
  have hdistinct : Distinct (wrapped (signInBody "x")) := by
    simp [wrapped, distinct_obj, distinct_signInBody]
  have hlogged : stringifyBody (wrapped (signInBody "x")) ≠
      stringifyBody (withSecret (units "y") (wrapped (signInBody "x"))) := by
    decide +kernel
  exact hlogged (h _ _ hdistinct (distinct_withSecret hdistinct) (differInSecrets_withSecret _ _))

end FlightBookings.Logging
