/-
# Evaluation of one expression

The source `build_eval_source` renders (`_eval.py`), run by the injected script.
A run is what the target's interpreter does with it: the copy of
`__main__`'s namespace, and `eval(compile(EXPRESSION, ...), namespace)`.

With masking on, the value of an expression that reads as a credential name
never reaches the envelope.  An exception does: `_pidprobe_error_envelope` sends
`str(exc)` and the traceback as they are, and `int(api_key)` puts the credential
in both.  `sameAnswer_iff` says that the text of exceptions is the only route.
-/

import Pidprobe.Inject
import Pidprobe.SafeRepr

namespace Pidprobe
namespace Eval

/-- What the target does with the source: `ν` are its namespaces. Copying one may fail, and
evaluating in it may do anything. -/
structure EvalRun (ε ν α : Type) where
  /-- `dict(vars(_pidprobe_sys.modules["__main__"]))`. -/
  mainNamespace : Except ε ν
  /-- `{}`. -/
  emptyNamespace : ν
  /-- `eval(compile(expression, "<pidprobe-eval>", "eval"), namespace)`. -/
  eval : PyStr → ν → Except ε α

section

variable [Unicode] {ε ν α : Type} [PyException ε] [PyObject ε α]

omit [Unicode] [PyObject ε α] in
/-- The binding of `value`: the copy of the main module's names, or no names where the copy
raises an `Exception`. -/
def evaluated (run : EvalRun ε ν α) (expression : PyStr) : Except ε α := do
  let namespace' ← exceptException run.mainNamespace fun _ => .ok run.emptyNamespace
  run.eval expression namespace'

/-- The payload of the source: `type(value).__name__` is what a metaclass answers,
and the rendering may be an instance of a subclass of `str`. -/
structure EvalPayload (α : Type) where
  type : Text α
  result : Text α

instance : Serial ε (EvalPayload α) where
  walk payload := do
    let type ← Serial.walk payload.type
    let result ← Serial.walk payload.result
    .ok (.obj [(py "type", type), (py "result", result)])

/-- The payload, once the expression and its rendering are through: the name of the type,
and the value as `safe_repr_named` shows it. -/
def evalSource (expression : PyStr) (isMasked : Bool) (run : EvalRun ε ν α) :
    Except ε (EvalPayload α) := do
  let value ← evaluated run expression
  let type ← PyObject.typeName value
  let result ← SafeRepr.safeReprNamed expression isMasked value
  .ok ⟨type, result⟩

/-- What the script writes to the return channel for an expression: one envelope, or nothing
at all. -/
def answer [FloatText] (expression : PyStr) (isMasked : Bool) (run : EvalRun ε ν α) :
    List (List Byte) :=
  Inject.written (evalSource expression isMasked run)

omit [Unicode] [PyException ε] in
/-- `type(value).__name__` as `json.dumps` writes it. -/
def typeJson (value : α) : Except ε Json := PyObject.typeName value >>= Serial.walk

omit [Unicode] in
/-- Two evaluations end in the same kind of outcome: values of one type name, or
exceptions of one type. -/
inductive SameKind : Except ε α → Except ε α → Prop
  | value {a b : α} (h : (typeJson a : Except ε Json) = typeJson b) : SameKind (.ok a) (.ok b)
  | exception {e f : ε} (h : typeNameJson e = typeNameJson f) : SameKind (.error e) (.error f)

omit [Unicode] [PyObject ε α] in
/-- The message and the traceback of an exception as JSON spells them, where it
can be rendered. -/
def spelling (exc : ε) : Option (PyStr × PyStr) :=
  match typeNameJson exc, PyException.str exc, PyException.formatExc exc with
  | .ok _, .ok message, .ok traceback => some (Json.quote message, Json.quote traceback)
  | _, _, _ => none

/-! ## The two routes -/

/-- A value behind a secret expression is not looked at: of what it is, the payload
holds the name of its type. -/
theorem collected_value {expression : PyStr} (hs : SafeRepr.isSecretName expression = true)
    {run : EvalRun ε ν α} {a : α} (h : evaluated run expression = .ok a) :
    Inject.collected (evalSource expression true run) = typeJson a >>= fun type =>
      .ok (.obj [(py "type", type), (py "result", .str SafeRepr.maskPlaceholder)]) := by
  rw [Inject.collected, evalSource, h, ok_bind, typeJson]
  rcases PyObject.typeName a with e | type
  · rfl
  · rw [ok_bind, ok_bind, SafeRepr.safeReprNamed, if_pos ⟨rfl, hs⟩]
    rfl

/-- An evaluation that raises ends the collector source with the same exception, before
anything is serialised. -/
theorem collected_exception {expression : PyStr} {run : EvalRun ε ν α} {e : ε} {isMasked : Bool}
    (h : evaluated run expression = .error e) :
    Inject.collected (evalSource expression isMasked run) = .error e := by
  rw [Inject.collected, evalSource, h, error_bind, error_bind]

omit [Unicode] in
/-- The answer to an exception, and the spelling of the exception: the envelope shows the
name, the message and the traceback as they are. -/
theorem written_exception [FloatText] {π : Type} [Serial ε π] {collect : Except ε π} {e : ε}
    (h : Inject.collected collect = .error e) :
    (∃ typeName message traceback, typeNameJson e = .ok typeName ∧
      spelling e = some (Json.quote message, Json.quote traceback) ∧ Inject.written collect =
        [Inject.encoded (Inject.failureEnvelope typeName message traceback)]) ∨
      spelling e = none ∧ Inject.written collect = [] := by
  rcases he : Inject.errorEnvelope e with exc | env
  · have hsilent : Inject.written collect = [] := by
      rw [Inject.written, Inject.pidprobeData, h]
      simp only [he]
      rfl
    refine .inr ⟨?_, hsilent⟩
    rw [spelling]
    split
    · next typeName message traceback hn hm ht =>
      rw [Inject.errorEnvelope_eq_ok.2 ⟨typeName, message, traceback, hn, hm, ht, rfl⟩] at he
      cases he
    · rfl
  · have hanswer : Inject.written collect = [Inject.encoded env] := by
      rw [Inject.written, Inject.pidprobeData, h]
      simp only [he]
      rfl
    obtain ⟨typeName, message, traceback, hn, hm, ht, rfl⟩ := Inject.errorEnvelope_eq_ok.1 he
    exact .inl ⟨typeName, message, traceback, hn, by rw [spelling, hn, hm, ht], hanswer⟩

omit [Unicode] in
/-- Two exceptions of one type are answered alike exactly when they are spelt
alike. -/
theorem written_exception_iff [FloatText] {π : Type} [Serial ε π] {collect collect' : Except ε π}
    {e f : ε} (he : Inject.collected collect = .error e)
    (hf : Inject.collected collect' = .error f) (h : typeNameJson e = typeNameJson f) :
    Inject.written collect = Inject.written collect' ↔ spelling e = spelling f := by
  rcases written_exception he with ⟨n, m, t, hn, hs, hw⟩ | ⟨hs, hw⟩ <;>
    rcases written_exception hf with ⟨n', m', t', hn', hs', hw'⟩ | ⟨hs', hw'⟩ <;>
    rw [hs, hw, hs', hw']
  · obtain rfl := Except.ok.inj (hn.symm.trans (h.trans hn'))
    rw [List.singleton_inj, Inject.encoded_inj, Inject.dumps_failureEnvelope_inj,
      Option.some.injEq, Prod.mk.injEq]
  · simp
  · simp
  · simp

/-- **Only the text of an exception gets past the mask.**  For a secret
expression with masking on and two evaluations that end in the same kind of
outcome, the script writes the same answer if and only if they end in values, or
in exceptions whose message and traceback are spelt alike. -/
theorem sameAnswer_iff [FloatText] (expression : PyStr)
    (hs : SafeRepr.isSecretName expression = true) (run run' : EvalRun ε ν α)
    (hk : SameKind (evaluated run expression) (evaluated run' expression)) :
    answer expression true run = answer expression true run' ↔
      ∀ e f, evaluated run expression = .error e → evaluated run' expression = .error f →
        spelling e = spelling f := by
  unfold answer
  generalize hx : evaluated run expression = x, hy : evaluated run' expression = y at hk
  cases hk with
  | value h =>
    refine iff_of_true (Inject.written_congr ?_) ?_
    · rw [collected_value hs hx, collected_value hs hy, h]
    · rintro _ _ ⟨⟩
  | exception h =>
    rw [written_exception_iff (collected_exception hx) (collected_exception hy) h]
    constructor
    · rintro hsp _ _ ⟨⟩ ⟨⟩
      exact hsp
    · intro hsp
      exact hsp _ _ rfl rfl

end

/-- `int(api_key)`, where the key is no number: the message of the `ValueError` quotes it. -/
def parseKey (key : PyStr) : EvalRun ExcData Unit Tree where
  mainNamespace := .ok ()
  emptyNamespace := ()
  eval _ _ := .error (.plain (py "ValueError")
    (py "invalid literal for int() with base 10: '" ++ key ++ py "'"))

/-- `api_key` itself, bound to `key`. -/
def readKey (key : PyStr) : EvalRun ExcData Unit Tree where
  mainNamespace := .ok ()
  emptyNamespace := ()
  eval _ _ := .ok (.str key)

/-- The hypotheses are satisfiable: two values of `api_key` are two evaluations
of one kind. -/
theorem sameAnswer_iff_readKey :
    letI := Unicode.fullwidth
    letI := Json.wholeFloats
    answer (py "api_key") true (readKey (py "hunter2")) =
        answer (py "api_key") true (readKey (py "swordfish")) ↔
      ∀ e f, evaluated (readKey (py "hunter2")) (py "api_key") = .error e →
        evaluated (readKey (py "swordfish")) (py "api_key") = .error f →
        spelling e = spelling f := by
  let _ := Unicode.fullwidth
  let _ := Json.wholeFloats
  exact sameAnswer_iff (py "api_key") (by decide) _ _ (.value rfl)

/-- The answer to `int(api_key)` shows the key, with masking on: two keys have two
answers. -/
theorem masked_exception_leaks :
    letI := Unicode.fullwidth
    letI := Json.wholeFloats
    SafeRepr.isSecretName (py "int(api_key)") = true ∧
      SameKind (evaluated (parseKey (py "hunter2")) (py "int(api_key)"))
        (evaluated (parseKey (py "swordfish")) (py "int(api_key)")) ∧
      answer (py "int(api_key)") true (parseKey (py "hunter2")) ≠
        answer (py "int(api_key)") true (parseKey (py "swordfish")) := by
  let _ := Unicode.fullwidth
  let _ := Json.wholeFloats
  exact ⟨by decide, .exception rfl, by decide +kernel⟩

end Eval
end Pidprobe
