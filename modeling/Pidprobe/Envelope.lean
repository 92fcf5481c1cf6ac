/-
# The envelope

`_envelope.py`: `parse_envelope` validates the JSON text a target sent, and
`payload_of` turns the validated envelope into the payload or an exception.

`json.loads` is a parameter, because what matters here is only that it returns
some JSON value or raises `JSONDecodeError`; the standard reader is
`Json.loads`.  Every member of the decoded object is untrusted and may be a
value of any type.

`status not in _VALID_STATUSES` asks a `frozenset`, and asking takes the hash
of `status`: a list or a dict has none, and the `TypeError` is not a
`ChannelError`.  `classifies_iff` says that this is the only way the validation
fails to be a total classifier.
-/

import Pidprobe.Errors
import Pidprobe.Lib.Raises

namespace Pidprobe

/-! ## The envelope and its validation -/

/-- The two statuses of `_VALID_STATUSES`: the collector produced a payload, or the script
raised in the target. -/
inductive Status
  | ok
  | error
  deriving DecidableEq

/-- The text of a status. -/
def Status.text : Status → PyStr
  | .ok => py "ok"
  | .error => py "error"

/-- Single answer to a probe (`Envelope`). The error is meant for one status and the payload
for the other, but nothing ties them together. -/
structure Envelope where
  status : Status
  error : Option ErrorInfo
  payload : Option (List (PyStr × Json))

/-- `decoded.get(key)`, `None` being the JSON null. A member that is missing and one that is
null read the same. -/
def member (key : PyStr) (ms : List (PyStr × Json)) : Json := (Dict.get? key ms).getD .null

/-- `_UNKNOWN_ERROR_TYPE`. -/
def unknownErrorType : PyStr := py "UnknownError"

section Parse

variable [Unicode] [FloatText]

/-- `status in _VALID_STATUSES`: the hash of `status` is taken first, and only
a string can equal a member. -/
def statusIn : Json → Except PyError (Option Status)
  | .arr _ => .error (.unhashable (py "list"))
  | .obj _ => .error (.unhashable (py "dict"))
  | .str s => .ok (if s = py "ok" then some .ok else if s = py "error" then some .error else none)
  | _ => .ok none

/-- The status of an envelope: one of the two texts, or an error, which for a list or a
dictionary is a `TypeError`. -/
def parseStatus (status : Json) : Except PyError Status := do
  match ← statusIn status with
  | some s => .ok s
  | none => .error (channelError (py "envelope has an unknown status: " ++ status.repr))

/-- `str(raw_error.get(key, default))`: whatever the target sent under the key is turned
into a text. -/
def errorText (key fallback : PyStr) (ms : List (PyStr × Json)) : PyStr :=
  ((Dict.get? key ms).getD (.str fallback)).toStr

/-- `_parse_error_info`: the details are an object, or missing where the status is not
`error`. -/
def parseErrorInfo (status : Status) : Json → Except PyError (Option ErrorInfo)
  | .null =>
    if status = .error then
      .error (channelError (py "envelope has status 'error' but no error details"))
    else .ok none
  | .obj ms => .ok (some
      { type := errorText (py "type") unknownErrorType ms
        message := errorText (py "message") [] ms
        traceback := errorText (py "traceback") [] ms })
  | v => .error (channelError (py "envelope 'error' must be an object or null, got " ++ v.repr))

/-- The check of the `payload` member: a dictionary, or null, which is no payload. -/
def parsePayload : Json → Except PyError (Option (List (PyStr × Json)))
  | .null => .ok none
  | .obj ms => .ok (some ms)
  | v => .error (channelError (py "envelope 'payload' must be an object or null, got " ++ v.repr))

/-- `parse_envelope`: JSON, then an object, then the status, the error and the payload, each
with a message of its own. -/
def parseEnvelope (loads : PyStr → Except PyStr Json) (raw : PyStr) : Except PyError Envelope :=
  match loads raw with
  | .error exc => .error (channelError (py "target sent malformed JSON: " ++ exc))
  | .ok (.obj decoded) => do
    let status ← parseStatus (member (py "status") decoded)
    let error ← parseErrorInfo status (member (py "error") decoded)
    let payload ← parsePayload (member (py "payload") decoded)
    .ok ⟨status, error, payload⟩
  | .ok decoded =>
    .error (channelError (py "expected a JSON object envelope, got " ++ decoded.typeName))

end Parse

/-- The message of the branch `payload_of` marks as unreachable, since `parse_envelope` asks
for the details. -/
def noDetails (pid : ℤ) : PyStr :=
  py "target reported an error without details for pid " ++ Json.intText pid

/-- The message for a success without a payload, which `parse_envelope` lets through. -/
def noPayload (pid : ℤ) : PyStr :=
  py "target reported success without a payload for pid " ++ Json.intText pid

/-- `payload_of`: the payload of a success, and for a failure the `TargetError` that names
the action. -/
def payloadOf (pid : ℤ) (envelope : Envelope) (action : PyStr := py "snapshot") :
    Except PyError (List (PyStr × Json)) :=
  match envelope.status with
  | .error =>
    match envelope.error with
    | none => .error (channelError (noDetails pid))
    | some error => .error (.probe (.target pid error action))
  | .ok =>
    match envelope.payload with
    | none => .error (channelError (noPayload pid))
    | some payload => .ok payload

/-! ## What each check accepts -/

section Parse

variable [Unicode] [FloatText]

/-- The value of a status no check lets through and no set can be asked about: `in` raises
`TypeError` for it. -/
def Unhashable (v : Json) : Prop := (∃ xs, v = .arr xs) ∨ ∃ ms, v = .obj ms

/-- A status is parsed exactly from its own text. -/
theorem parseStatus_eq_ok {v : Json} {s : Status} : parseStatus v = .ok s ↔ v = .str s.text := by
  have hne : py "error" ≠ py "ok" := by simp
  constructor
  · intro h
    cases v with
    | str t =>
      rw [parseStatus, statusIn] at h
      split_ifs at h with hok herr
      · obtain rfl : Status.ok = s := by simpa using h
        rw [hok, Status.text]
      · obtain rfl : Status.error = s := by simpa using h
        rw [herr, Status.text]
      · simp at h
    | _ => simp [parseStatus, statusIn] at h
  · rintro rfl
    cases s <;> simp [parseStatus, statusIn, Status.text]

/-- A refused status is a `ChannelError` exactly when it has a hash; otherwise looking it up
has raised. -/
theorem parseStatus_eq_error {v : Json} {e : PyError} (h : parseStatus v = .error e) :
    (∃ m, e = channelError m) ↔ ¬Unhashable v := by
  cases v with
  | str t =>
    rw [parseStatus, statusIn] at h
    split_ifs at h <;> simp at h
    simp [Unhashable, ← h]
  | arr xs =>
    obtain rfl : PyError.unhashable _ = e := by simpa [parseStatus, statusIn] using h
    simp [Unhashable]
  | obj ms =>
    obtain rfl : PyError.unhashable _ = e := by simpa [parseStatus, statusIn] using h
    simp [Unhashable]
  | _ =>
    obtain rfl : channelError _ = e := by simpa [parseStatus, statusIn] using h
    simp [Unhashable]

/-- The `error` members that fit a status. -/
def ErrorFits (status : Status) (v : Json) : Prop :=
  (∃ ms, v = .obj ms) ∨ v = .null ∧ status ≠ .error

/-- The details are parsed exactly where they fit the status: an object always does, null
where there was no error. -/
theorem parseErrorInfo_ok {status : Status} {v : Json} :
    (∃ info, parseErrorInfo status v = .ok info) ↔ ErrorFits status v := by
  cases v with
  | null => by_cases h : status = .error <;> simp [parseErrorInfo, ErrorFits, h]
  | _ => simp [parseErrorInfo, ErrorFits]

/-- Where they do not fit, a `ChannelError` says so. -/
theorem parseErrorInfo_error {status : Status} {v : Json} {e : PyError}
    (h : parseErrorInfo status v = .error e) : ∃ m, e = channelError m := by
  cases v <;> simp only [parseErrorInfo] at h
  case null =>
    split_ifs at h
    exact ⟨_, (Except.error.inj h).symm⟩
  case obj => cases h
  all_goals exact ⟨_, (Except.error.inj h).symm⟩

/-- An envelope with status `error` carries its details. -/
theorem parseErrorInfo_isSome {v : Json} {info : Option ErrorInfo}
    (h : parseErrorInfo .error v = .ok info) : info.isSome := by
  cases v <;> simp [parseErrorInfo] at h
  simp [← h]

/-- A payload is parsed exactly from a dictionary, or from `null` as none, and is what it
was parsed from. -/
theorem parsePayload_eq_ok {v : Json} {payload : Option (List (PyStr × Json))} :
    parsePayload v = .ok payload ↔ v = payload.elim .null .obj := by
  cases v <;> cases payload <;> simp [parsePayload]

/-- Where it is neither, a `ChannelError` says so. -/
theorem parsePayload_error {v : Json} {e : PyError} (h : parsePayload v = .error e) :
    ∃ m, e = channelError m := by
  cases v <;> simp only [parsePayload] at h
  case null | obj => cases h
  all_goals exact ⟨_, (Except.error.inj h).symm⟩

/-! ## The classification -/

/-- What the validation is meant to accept: an object whose status is one of the
two strings, whose error is an object, or null unless the status is `error`, and
whose payload is an object or null. -/
def IsEnvelope (v : Json) : Prop :=
  ∃ ms, v = .obj ms ∧ ∃ status : Status, member (py "status") ms = .str status.text ∧
    ErrorFits status (member (py "error") ms) ∧
    ∃ payload : Option (List (PyStr × Json)), member (py "payload") ms = payload.elim .null .obj

/-- The decoded text is an object whose status has no hash. -/
def UnhashableStatus (loads : PyStr → Except PyStr Json) (raw : PyStr) : Prop :=
  ∃ ms, loads raw = .ok (.obj ms) ∧ Unhashable (member (py "status") ms)

variable {loads : PyStr → Except PyStr Json} {raw : PyStr}

/-- The envelope `parse_envelope` returns: the status and the payload are the
members of the object, the error member went through `_parse_error_info`. -/
theorem parseEnvelope_eq_ok {env : Envelope} :
    parseEnvelope loads raw = .ok env ↔ ∃ ms, loads raw = .ok (.obj ms) ∧
      member (py "status") ms = .str env.status.text ∧
      parseErrorInfo env.status (member (py "error") ms) = .ok env.error ∧
      member (py "payload") ms = env.payload.elim .null .obj := by
  unfold parseEnvelope
  rcases hl : loads raw with exc | v
  · simp
  cases v with
  | obj ms =>
    simp only [bind_eq_ok, parseStatus_eq_ok, parsePayload_eq_ok, Except.ok.injEq, Json.obj.injEq,
      exists_eq_left']
    constructor
    · rintro ⟨status, hs, info, hi, payload, hp, rfl⟩
      exact ⟨hs, hi, hp⟩
    · rintro ⟨hs, hi, hp⟩
      exact ⟨_, hs, _, hi, _, hp, rfl⟩
  | _ => simp

/-- An envelope is parsed exactly from a text that `json.loads` reads as one: the four
checks are passed together. -/
theorem parseEnvelope_ok :
    (∃ env, parseEnvelope loads raw = .ok env) ↔ ∃ v, loads raw = .ok v ∧ IsEnvelope v := by
  simp only [parseEnvelope_eq_ok]
  constructor
  · rintro ⟨env, ms, hl, hs, hi, hp⟩
    exact ⟨_, hl, ms, rfl, _, hs, parseErrorInfo_ok.1 ⟨_, hi⟩, _, hp⟩
  · rintro ⟨_, hl, ms, rfl, status, hs, hi, payload, hp⟩
    obtain ⟨info, hi⟩ := parseErrorInfo_ok.2 hi
    exact ⟨⟨status, info, payload⟩, ms, hl, hs, hi, hp⟩

/-- A refused text is a `ChannelError` exactly when its status could be looked
up. -/
theorem parseEnvelope_eq_error {e : PyError} (h : parseEnvelope loads raw = .error e) :
    (∃ m, e = channelError m) ↔ ¬UnhashableStatus loads raw := by
  unfold parseEnvelope at h
  unfold UnhashableStatus
  rcases hl : loads raw with exc | v <;> rw [hl] at h
  · simp [← Except.error.inj h]
  cases v with
  | obj ms =>
    have hu : UnhashableStatus loads raw ↔ Unhashable (member (py "status") ms) := by
      simp [UnhashableStatus, hl]
    simp only [Except.ok.injEq, Json.obj.injEq, exists_eq_left']
    rcases bind_eq_error.1 h with h | ⟨status, hs, h⟩
    · exact parseStatus_eq_error h
    · have hh : ¬Unhashable (member (py "status") ms) := by
        simp [parseStatus_eq_ok.1 hs, Unhashable]
      refine iff_of_true ?_ hh
      rcases bind_eq_error.1 h with h | ⟨info, -, h⟩
      · exact parseErrorInfo_error h
      rcases bind_eq_error.1 h with h | ⟨payload, -, h⟩
      · exact parsePayload_error h
      · cases h
  | _ => simp [← Except.error.inj h]

end Parse

/-! ## The payload of an envelope -/

/-- What `payload_of` is meant to do with an envelope: return the payload of a
success, raise the target's error, raise `ChannelError` for a success without a
payload, and leave its branch for an error without details alone. -/
structure PayloadContract (env : Envelope) (pid : ℤ) (action : PyStr) : Prop where
  returns : ∀ payload, payloadOf pid env action = .ok payload ↔
    env.status = .ok ∧ env.payload = some payload
  raises_target : (∃ info, payloadOf pid env action = .error (.probe (.target pid info action))) ↔
    env.status = .error
  raises_channel : (∃ m, payloadOf pid env action = .error (channelError m)) ↔
    env.status = .ok ∧ env.payload = none
  never_without_details : payloadOf pid env action ≠ .error (channelError (noDetails pid))

/-- The two messages about a missing part differ. -/
theorem noPayload_ne_noDetails (pid : ℤ) : noPayload pid ≠ noDetails pid := by
  unfold noPayload noDetails
  rw [Ne, List.append_left_inj, py_inj]
  decide

/-- Where an `error` envelope has its details, `payload_of` keeps its contract: no branch
marked unreachable is reached. -/
theorem payloadContract_of_details {env : Envelope}
    (h : env.status = .error → env.error.isSome) (pid : ℤ) (action : PyStr) :
    PayloadContract env pid action := by
  obtain ⟨status, error, payload⟩ := env
  cases status with
  | error =>
    obtain ⟨info, rfl⟩ := Option.isSome_iff_exists.1 (h rfl)
    constructor <;> simp [payloadOf]
  | ok =>
    cases payload with
    | none => constructor <;> simp [payloadOf, noPayload_ne_noDetails]
    | some payload => constructor <;> simp [payloadOf]

section Parse

variable [Unicode] [FloatText] {loads : PyStr → Except PyStr Json} {raw : PyStr}

/-- What is parsed with the status `error` has its details. -/
theorem parseEnvelope_details {env : Envelope} (h : parseEnvelope loads raw = .ok env) :
    env.status = .error → env.error.isSome := by
  intro hs
  obtain ⟨ms, -, -, hi, -⟩ := parseEnvelope_eq_ok.1 h
  exact parseErrorInfo_isSome (hs ▸ hi)

/-- What the validation is meant to be, on one text: an envelope comes back
exactly for the values `IsEnvelope` describes, every other text is a
`ChannelError`, and `payload_of` keeps its contract on what comes back. -/
structure Classifies (loads : PyStr → Except PyStr Json) (raw : PyStr) : Prop where
  accepts : (∃ env, parseEnvelope loads raw = .ok env) ↔ ∃ v, loads raw = .ok v ∧ IsEnvelope v
  refuses : ∀ e, parseEnvelope loads raw = .error e → ∃ m, e = channelError m
  payload : ∀ env, parseEnvelope loads raw = .ok env →
    ∀ (pid : ℤ) (action : PyStr), PayloadContract env pid action

/-- **Validation is a total classifier up to the status's hash.**  For every
reader and every text, `parse_envelope` and `payload_of` do what they are meant
to exactly when the text is not an object whose status is a list or an object. -/
theorem classifies_iff (loads : PyStr → Except PyStr Json) (raw : PyStr) :
    Classifies loads raw ↔ ¬UnhashableStatus loads raw := by
  constructor
  · rintro ⟨hacc, href, -⟩ hu
    rcases hp : parseEnvelope loads raw with e | env
    · exact (parseEnvelope_eq_error hp).1 (href e hp) hu
    · obtain ⟨ms, hl, hun⟩ := hu
      obtain ⟨ms', hl', hs, -, -⟩ := parseEnvelope_eq_ok.1 hp
      obtain rfl : ms = ms' := by simpa [hl] using hl'
      simp [hs, Unhashable] at hun
  · intro hu
    exact ⟨parseEnvelope_ok, fun e he => (parseEnvelope_eq_error he).2 hu,
      fun env henv pid action => payloadContract_of_details (parseEnvelope_details henv) pid action⟩

end Parse

/-- The text `{"status": [], "error": null, "payload": null}` raises
`TypeError`. -/
theorem unhashable_status_not_classified :
    ¬@Classifies Unicode.fullwidth Json.wholeFloats
      (@Json.loads Json.wholeFloats fun _ => py "Expecting value")
      (py "\x7b\"status\": [], \"error\": null, \"payload\": null\x7d") := by
  intro h
  let _ := Unicode.fullwidth
  let _ := Json.wholeFloats
  obtain ⟨m, hm⟩ := h.refuses (.unhashable (py "list"))
    (raised_eq_some.1 (by decide +kernel))
  cases hm

end Pidprobe
