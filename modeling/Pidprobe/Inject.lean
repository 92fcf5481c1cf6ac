/-
# The injected script

What the script of `_inject.py` does once it runs inside the target, whatever
collector source was rendered into it.  `collect` is the outcome of
`_pidprobe_collect()`: the object bound to `payload`, or the exception the source
raised.  `walk` is what `json.dumps` finds in an object: the JSON value it
writes, or the exception it raises.

`_pidprobe_main` answers a failure from inside an `except BaseException` block,
and building the answer asks the caught exception for the name of its type and for
its `str`, both of which the target may answer with code of its own.  What the
block itself raises escapes to the blanket handler around `_pidprobe_main`, which
swallows it: nothing is written (`answersOnce_iff`).
-/

import Pidprobe.Lib.JsonStrings
import Pidprobe.Target.Tree

namespace Pidprobe

namespace Inject

/-! ## Envelopes as the script builds them -/

/-- `{"status": "ok", "error": None, "payload": payload}`, written by the one `json.dumps`
of the `try`. -/
def okEnvelope (payload : Json) : Json :=
  .obj [(py "status", .str (py "ok")), (py "error", .null), (py "payload", payload)]

/-- The details of a failure, `typeName` being the name of its type as
`json.dumps` writes it. -/
def errorDetails (typeName : Json) (message traceback : PyStr) : Json :=
  .obj [(py "type", typeName), (py "message", .str message), (py "traceback", .str traceback)]

/-- `{"status": "error", "error": {...}, "payload": None}`. The name of the type is whatever
`json.dumps` makes of it. -/
def failureEnvelope (typeName : Json) (message traceback : PyStr) : Json :=
  .obj [(py "status", .str (py "error")), (py "error", errorDetails typeName message traceback),
    (py "payload", .null)]

/-- The dictionary a handler makes of the exception it handles. The driver and the script
have the same three lines. -/
structure Failure (ε : Type) where
  typeName : Text (Except ε Json)
  message : PyStr
  traceback : PyStr

instance {ε : Type} : Serial ε (Failure ε) where
  walk failure := do
    let typeName ← Serial.walk failure.typeName
    .ok (errorDetails typeName failure.message failure.traceback)

section

variable [FloatText] {ε π : Type} [PyException ε] [Serial ε π]

/-- The dictionary, while `exc` is being handled: the name, the message and the traceback,
in this order, each of which may raise. -/
def failureOf (exc : ε) : Except ε (Failure ε) := do
  let typeName ← PyException.typeName exc
  let message ← PyException.str exc
  let traceback ← PyException.formatExc exc
  .ok ⟨typeName, message, traceback⟩

/-- `_pidprobe_error_envelope` while `exc` is being handled, as `json.dumps` writes
it. -/
def errorEnvelope (exc : ε) : Except ε Json := do
  let failure ← failureOf exc
  let typeName ← Serial.walk failure.typeName
  .ok (failureEnvelope typeName failure.message failure.traceback)

/-- `json.dumps(value).encode("utf-8")`, which is ASCII, so encoding it never raises
(`encode_dumps`). -/
def encoded (v : Json) : List Byte := (Utf8.encode v.dumps).getD []

/-- What `_pidprobe_json.dumps({..., "payload": _pidprobe_collect()})` comes to:
the payload as JSON, or the exception the block is left with. -/
def collected (collect : Except ε π) : Except ε Json := collect >>= Serial.walk

/-- `_pidprobe_data` of `_pidprobe_main`, or what escapes from its handler. `except
BaseException` catches everything but itself. -/
def pidprobeData (collect : Except ε π) : Except ε (List Byte) :=
  match collected collect with
  | .ok payload => .ok (encoded (okEnvelope payload))
  | .error exc => do
    let envelope ← errorEnvelope exc
    .ok (encoded envelope)

/-- What the script hands to the return channel: one message, or none where an
exception escapes `_pidprobe_main`. -/
def written (collect : Except ε π) : List (List Byte) :=
  match pidprobeData collect with
  | .ok data => [data]
  | .error _ => []

/-- A payload that serialises is written under status `ok`. -/
theorem written_of_collected {collect : Except ε π} {payload : Json}
    (h : collected collect = .ok payload) : written collect = [encoded (okEnvelope payload)] := by
  rw [written, pidprobeData, h]

/-- What is written depends on the payload as JSON alone: collectors that come to the same
write the same. -/
theorem written_congr {collect collect' : Except ε π} (h : collected collect = collected collect') :
    written collect = written collect' := by
  rw [written, written, pidprobeData, pidprobeData, h]

/-! ## Encoding -/

omit [PyException ε] in
/-- `.encode("utf-8")` of a JSON text never raises. -/
theorem encode_dumps (v : Json) : Utf8.encode v.dumps = some (encoded v) := by
  rw [encoded, Utf8.encode_ascii (Json.dumps_ascii v), Option.getD_some]

/-- What the script encodes is decoded to its text again. -/
theorem decode_encoded (v : Json) : Utf8.decode (encoded v) = some v.dumps :=
  Utf8.decode_encode (encode_dumps v)

/-- Two answers have the same bytes exactly where they have the same text. -/
theorem encoded_inj {v w : Json} : encoded v = encoded w ↔ v.dumps = w.dumps := by
  constructor
  · intro h
    exact Option.some.inj (by rw [← decode_encoded v, ← decode_encoded w, h])
  · intro h
    rw [encoded, encoded, h]

/-- What the script writes is an envelope: an object, for a success as for a failure. -/
theorem pidprobeData_eq_ok {collect : Except ε π} {data : List Byte}
    (h : pidprobeData collect = .ok data) : ∃ ms, data = encoded (.obj ms) := by
  rw [pidprobeData] at h
  split at h
  · exact ⟨_, (Except.ok.inj h).symm⟩
  · obtain ⟨env, he, h⟩ := bind_eq_ok.1 h
    obtain ⟨failure, -, he⟩ := bind_eq_ok.1 he
    obtain ⟨typeName, -, he⟩ := bind_eq_ok.1 he
    obtain rfl := Except.ok.inj he
    exact ⟨_, (Except.ok.inj h).symm⟩

/-- Two failure envelopes of one exception type have the same text exactly when
their messages and their tracebacks have. -/
theorem dumps_failureEnvelope_inj {n : Json} {m t m' t' : PyStr} :
    (failureEnvelope n m t).dumps = (failureEnvelope n m' t').dumps ↔
      Json.quote m = Json.quote m' ∧ Json.quote t = Json.quote t' := by
  constructor
  · intro h
    simp only [failureEnvelope, errorDetails, Json.dumps, Json.dumpsMembers, List.append_assoc,
      List.cons_append, List.cons.injEq, List.append_cancel_left_eq, true_and] at h
    obtain ⟨hm, h⟩ := Json.quote_append_inj h
    simp only [List.append_cancel_left_eq] at h
    exact ⟨hm, (Json.quote_append_inj h).1⟩
  · rintro ⟨hm, ht⟩
    simp only [failureEnvelope, errorDetails, Json.dumps, Json.dumpsMembers, hm, ht]

/-! ## One answer -/

/-- A handler can report the exception: `type(exc).__name__` is something
`json.dumps` writes, and `str(exc)` and `traceback.format_exc()` return. -/
def Renders (exc : ε) : Prop :=
  (∃ typeName, typeNameJson exc = .ok typeName) ∧
    (∃ message, PyException.str exc = .ok message) ∧
      ∃ traceback, PyException.formatExc exc = .ok traceback

omit [FloatText] in
/-- A dictionary is made of an exception exactly where its type name, its text and its
traceback are had. -/
theorem failureOf_eq_ok {exc : ε} {failure : Failure ε} :
    failureOf exc = .ok failure ↔ PyException.typeName exc = .ok failure.typeName ∧
      PyException.str exc = .ok failure.message ∧
        PyException.formatExc exc = .ok failure.traceback := by
  simp only [failureOf, bind_eq_ok, Except.ok.injEq]
  constructor
  · rintro ⟨typeName, hn, message, hm, traceback, ht, rfl⟩
    exact ⟨hn, hm, ht⟩
  · rintro ⟨hn, hm, ht⟩
    exact ⟨_, hn, _, hm, _, ht, rfl⟩

omit [FloatText] in
/-- A dictionary that is made and written is that of an exception that renders: nothing else
in an error envelope can fail. -/
theorem renders_iff {exc : ε} : Renders exc ↔ ∃ failure v, failureOf exc = .ok failure ∧
    (Serial.walk failure.typeName : Except ε Json) = .ok v := by
  constructor
  · rintro ⟨⟨v, hv⟩, ⟨message, hm⟩, traceback, ht⟩
    obtain ⟨name, hn, hv⟩ := bind_eq_ok.1 hv
    exact ⟨⟨name, message, traceback⟩, v, failureOf_eq_ok.2 ⟨hn, hm, ht⟩, hv⟩
  · rintro ⟨failure, v, hfailure, hv⟩
    obtain ⟨hn, hm, ht⟩ := failureOf_eq_ok.1 hfailure
    exact ⟨⟨v, bind_eq_ok.2 ⟨_, hn, hv⟩⟩, ⟨_, hm⟩, _, ht⟩

omit [FloatText] in
/-- An error envelope is made exactly where they are had and the type name is something
`json` writes. -/
theorem errorEnvelope_eq_ok {exc : ε} {env : Json} :
    errorEnvelope exc = .ok env ↔ ∃ typeName message traceback,
      typeNameJson exc = .ok typeName ∧ PyException.str exc = .ok message ∧
        PyException.formatExc exc = .ok traceback ∧
        env = failureEnvelope typeName message traceback := by
  simp only [errorEnvelope, bind_eq_ok, Except.ok.injEq, failureOf_eq_ok, typeNameJson]
  constructor
  · rintro ⟨failure, ⟨hn, hm, ht⟩, v, hv, rfl⟩
    exact ⟨v, _, _, ⟨_, hn, hv⟩, hm, ht, rfl⟩
  · rintro ⟨v, message, traceback, ⟨name, hn, hv⟩, hm, ht, rfl⟩
    exact ⟨⟨name, message, traceback⟩, ⟨hn, hm, ht⟩, v, hv, rfl⟩

/-- The script writes one envelope: the payload under status `ok` where the
source completed and its payload serialises, and a failure with the type name of
the exception under status `error` otherwise. -/
def AnswersOnce (collect : Except ε π) : Prop :=
  ∃ env, written collect = [encoded env] ∧
    (∀ payload, collected collect = .ok payload → env = okEnvelope payload) ∧
    ∀ exc, collected collect = .error exc → ∃ typeName message traceback,
      typeNameJson exc = .ok typeName ∧ env = failureEnvelope typeName message traceback

/-- **One answer, unless the failure cannot be rendered.**  Whatever the
collector source does, the script answers exactly once as it should if and only
if the exception that ends the source or its serialisation, where there is one,
has a type name `json` can write, a `str` and a traceback text. -/
theorem answersOnce_iff (collect : Except ε π) :
    AnswersOnce collect ↔ ∀ exc, collected collect = .error exc → Renders exc := by
  constructor
  · rintro ⟨env, hw, -, -⟩ exc hexc
    simp only [written, pidprobeData, hexc] at hw
    rcases he : errorEnvelope exc with exc' | env'
    · simp [he] at hw
    · obtain ⟨typeName, message, traceback, hn, hm, ht, -⟩ := errorEnvelope_eq_ok.1 he
      exact ⟨⟨typeName, hn⟩, ⟨message, hm⟩, traceback, ht⟩
  · intro h
    unfold AnswersOnce written pidprobeData
    generalize collected collect = outcome at h ⊢
    rcases outcome with exc | payload
    · obtain ⟨⟨typeName, hn⟩, ⟨message, hm⟩, traceback, ht⟩ := h exc rfl
      have he := errorEnvelope_eq_ok.2 ⟨typeName, message, traceback, hn, hm, ht, rfl⟩
      refine ⟨failureEnvelope typeName message traceback, ?_, ?_, ?_⟩
      · simp [he]
      · rintro _ ⟨⟩
      · rintro _ ⟨⟩
        exact ⟨typeName, message, traceback, hn, rfl⟩
    · refine ⟨okEnvelope payload, rfl, ?_, ?_⟩
      · rintro _ ⟨⟩
        rfl
      · rintro _ ⟨⟩

end

/-- An expression whose exception has a `__str__` that raises is answered with
silence. -/
theorem unprintable_exception_not_answered :
    ¬@AnswersOnce Json.wholeFloats ExcData Json _ _
      (.error ⟨py "Unprintable", true, none, some (py "Traceback (most recent call last)")⟩) := by
  rintro ⟨env, hw, -⟩
  cases hw

end Inject
end Pidprobe
