/-
# What a call gets is what its script came to

A call that returns an envelope has evaluated its own script in the target, once,
and what `payload_of` makes of the envelope is what that evaluation came to
(`payload_is_evaluated`): the payload as it is read back, or the target's own
exception.  Nothing on the way makes a success of a failure, or the reverse, on
either transport and in any order of the steps.
-/

import Pidprobe.Channel.Once
import Pidprobe.Lib.JsonLayout

namespace Pidprobe

/-! ## The two envelopes, read back -/

section

/-- A member of an envelope the target wrote, read back. -/
theorem member_reread {key : PyStr} (hkey : key.all (fun c => IsAscii c) = true)
    {ms : List (PyStr × Json)} (hms : Dict.NodupKeys ms) :
    member key (Dict.ofPairs (Json.rereadMembers ms)) = (member key ms).reread := by
  rw [List.all_eq_true] at hkey
  rw [member, member, Json.get?_reread (fun c hc => of_decide_eq_true (hkey c hc)) hms]
  cases Dict.get? key ms <;> rfl

/-- The text of a status is read back as it is. -/
theorem rereadStr_text (status : Status) : Json.rereadStr status.text = status.text := by
  have hascii : status.text.all (fun c => IsAscii c) = true := by cases status <;> decide
  rw [List.all_eq_true] at hascii
  exact Json.rereadStr_ascii fun c hc => of_decide_eq_true (hascii c hc)

/-- The two statuses are told apart by their texts. -/
theorem Status.text_inj {s t : Status} : s.text = t.text ↔ s = t := by
  cases s <;> cases t <;> decide

variable [Unicode] [FloatText] {message : PyStr → PyStr}

omit [Unicode] in
/-- What the script serialises is parsed to the value a reader makes of it. -/
theorem loads_dumps {v : Json} (hv : v.ReadsBack) :
    Json.loads message v.dumps = .ok v.reread := by
  rw [Json.loads, Json.read_dumps_of_readsBack hv]

omit [Unicode] [FloatText] in
/-- The members of an answer with a payload, by the text of its status. -/
theorem okEnvelope_eq (payload : Json) : Inject.okEnvelope payload =
    .obj [(py "status", .str Status.ok.text), (py "error", .null), (py "payload", payload)] := rfl

omit [Unicode] [FloatText] in
/-- The members of an answer with an exception. -/
theorem failureEnvelope_eq (typeName : Json) (text traceback : PyStr) :
    Inject.failureEnvelope typeName text traceback =
      .obj [(py "status", .str Status.error.text),
        (py "error", Inject.errorDetails typeName text traceback), (py "payload", .null)] := rfl

/-- An envelope the target wrote, as `parse_envelope` returns it. -/
theorem parseEnvelope_dumps {status : Status} {error payload : Json} (he : error.ReadsBack)
    (hp : payload.ReadsBack) {env : Envelope}
    (h : parseEnvelope (Json.loads message) (Json.obj [(py "status", .str status.text),
      (py "error", error), (py "payload", payload)]).dumps = .ok env) :
    env.status = status ∧ parseErrorInfo status error.reread = .ok env.error ∧
      payload.reread = env.payload.elim .null .obj := by
  have hread : (Json.obj [(py "status", .str status.text), (py "error", error),
      (py "payload", payload)]).ReadsBack := ⟨trivial, he, hp, trivial⟩
  have hkeys : Dict.NodupKeys [(py "status", Json.str status.text), (py "error", error),
      (py "payload", payload)] := by
    show [py "status", py "error", py "payload"].Nodup
    decide
  obtain ⟨ms, hms, hstatus, herror, hpayload⟩ := parseEnvelope_eq_ok.1 h
  rw [loads_dumps hread, Json.reread, Except.ok.injEq, Json.obj.injEq] at hms
  rw [← hms, member_reread (by decide) hkeys] at hstatus herror hpayload
  have hs : Json.str (Json.rereadStr status.text) = .str env.status.text := hstatus
  rw [rereadStr_text, Json.str.injEq, Status.text_inj] at hs
  exact ⟨hs.symm, hs ▸ herror, hpayload⟩

/-- A failure, as `parse_envelope` returns it: `str()` of the three members as they
are read back. -/
theorem parseErrorInfo_details (status : Status) (typeName : Json) (text traceback : PyStr) :
    parseErrorInfo status (Inject.errorDetails typeName text traceback).reread =
      .ok (some ⟨typeName.reread.toStr, Json.rereadStr text, Json.rereadStr traceback⟩) := by
  have hkeys : Dict.NodupKeys [(py "type", typeName), (py "message", .str text),
      (py "traceback", .str traceback)] := by
    show [py "type", py "message", py "traceback"].Nodup
    decide
  have hmember : ∀ key fallback, key.all (fun c => IsAscii c) = true →
      errorText key fallback (Dict.ofPairs (Json.rereadMembers [(py "type", typeName),
        (py "message", .str text), (py "traceback", .str traceback)])) =
      (((Dict.get? key [(py "type", typeName), (py "message", .str text),
        (py "traceback", .str traceback)]).map Json.reread).getD (.str fallback)).toStr := by
    intro key fallback hkey
    rw [List.all_eq_true] at hkey
    rw [errorText, Json.get?_reread (fun c hc => of_decide_eq_true (hkey c hc)) hkeys]
  rw [Inject.errorDetails, Json.reread, parseErrorInfo, hmember _ _ (by decide),
    hmember _ _ (by decide), hmember _ _ (by decide)]
  rfl

end

namespace Protocol

section

variable [FloatText] {ε π : Type} [PyException ε] [Serial ε π] {w w' : World} {s : PyStr}

/-! ## The evaluation behind an answer -/

/-- `_pidprobe_data` is bound where `_pidprobe_collect()` ends, and nowhere else. -/
theorem collect_of_produced {event : Event ε π} {data : List Byte} (hkept : Kept w)
    (h : step w event = some w') (hno : w.produced s ≠ some data)
    (hd : w'.produced s = some data) :
    ∃ outcome, event = .target s (.collect outcome) ∧ Inject.pidprobeData outcome = .ok data := by
  obtain ⟨hw, ha, -, -⟩ := hkept
  cases event with
  | handOut directory =>
    obtain ⟨-, rfl⟩ := mkdtemp_eq_some.1 h
    exact absurd hd hno
  | prober k event =>
    rw [produced_proberStep hw h] at hd
    exact absurd hd hno
  | target i event =>
    obtain ⟨⟨t, mail⟩, hstep, rfl⟩ := Option.map_eq_some_iff.1 h
    rcases eq_or_ne s i with rfl | hne
    · rw [World.produced, World.setTarget_self] at hd
      rcases targetStep_cases hw ha hstep with ⟨-, -, rfl | ⟨script, -, rfl⟩⟩ |
        ⟨task, task', ht, rfl, htask, -⟩
      · cases hd
      · cases hd
      · rw [World.produced, ht] at hno
        cases htask with
        | @collected outcome data' hs hdata =>
          obtain rfl := Option.some.inj hd
          exact ⟨outcome, rfl, hdata⟩
        | _ => exact absurd hd hno
    · rw [World.produced, World.setTarget_of_ne hne] at hd
      exact absurd hd hno

/-- What a script has produced, its collector came to in the run. -/
theorem collect_of_run {events : List (Event ε π)} {data : List Byte}
    (h : run step init events = some w) (hd : w.produced s = some data) :
    ∃ outcome, .target s (.collect outcome) ∈ events ∧
      Inject.pidprobeData outcome = .ok data := by
  obtain ⟨before, e, after, m, m', rfl, -, hm, he, -, hno, hd'⟩ :=
    run_crossing (D := fun w => w.produced s = some data)
      (fun _ _ _ hm => Kept.step hm) .init h nofun hd
  obtain ⟨outcome, rfl, hdata⟩ := collect_of_produced hm he hno hd'
  exact ⟨outcome, by simp, hdata⟩

/-- A collector that was called was called once. -/
theorem collects_of_mem {events : List (Event ε π)} {outcome : Except ε π}
    (h : run step init events = some w) (hmem : .target s (.collect outcome) ∈ events) :
    events.countP (Event.collects s) = 1 := by
  have hpos : 0 < events.countP (Event.collects s) :=
    List.countP_pos_iff.2 ⟨_, hmem, decide_eq_true rfl⟩
  have hle := (countP_collects h s).1
  omega

end

/-! ## The answer -/

/-- What `payload_of` makes of the answer to an evaluation: the value as it is
read back, where that is an object, and otherwise the target's exception, under
the name `str()` makes of what is read back for its type. -/
structure Evaluates [Unicode] [FloatText] {ε π : Type} [PyException ε] [Serial ε π] (pid : ℤ)
    (action : PyStr) (collect : Except ε π) (answer : Except PyError (List (PyStr × Json))) :
    Prop where
  value : ∀ payload, Inject.collected collect = .ok payload → payload.ReadsBack →
    (∃ ms, payload.reread = .obj ms ∧ answer = .ok ms) ∨
      payload = .null ∧ answer = .error (channelError (noPayload pid))
  failure : ∀ exc, Inject.collected collect = .error exc → ∃ typeName text traceback,
    typeNameJson exc = .ok typeName ∧ PyException.str exc = .ok text ∧
      PyException.formatExc exc = .ok traceback ∧ (typeName.ReadsBack →
        answer = .error (.probe (.target pid ⟨typeName.reread.toStr,
          Json.rereadStr text, Json.rereadStr traceback⟩ action)))

section

variable [Unicode] [FloatText] {ε π : Type} [PyException ε] [Serial ε π]
  {message : PyStr → PyStr} {w : World}

/-- The envelope a script produced is one of what its collector came to. -/
theorem evaluates_of_produced {collect : Except ε π} {v : Json} {env : Envelope} (pid : ℤ)
    (action : PyStr) (hdata : Inject.pidprobeData collect = .ok (Inject.encoded v))
    (h : parseEnvelope (Json.loads message) v.dumps = .ok env) :
    Evaluates pid action collect (payloadOf pid env action) := by
  have hnull : Json.null.ReadsBack := trivial
  rw [Inject.pidprobeData] at hdata
  obtain ⟨status, error, payload'⟩ := env
  constructor
  · intro payload hok hread
    rw [hok, Except.ok.injEq, Inject.encoded_inj] at hdata
    rw [← hdata, okEnvelope_eq] at h
    obtain ⟨rfl, -, hpayload⟩ := parseEnvelope_dumps hnull hread h
    cases payload' with
    | none => exact .inr ⟨Json.reread_eq_null.1 hpayload, rfl⟩
    | some ms => exact .inl ⟨ms, hpayload, rfl⟩
  · intro exc herr
    rw [herr] at hdata
    obtain ⟨_, henv, hdata⟩ := bind_eq_ok.1 hdata
    obtain ⟨typeName, text, traceback, hname, htext, htraceback, rfl⟩ :=
      Inject.errorEnvelope_eq_ok.1 henv
    rw [Except.ok.injEq, Inject.encoded_inj] at hdata
    rw [← hdata, failureEnvelope_eq] at h
    refine ⟨typeName, text, traceback, hname, htext, htraceback, fun hread => ?_⟩
    have hdetails : (Inject.errorDetails typeName text traceback).ReadsBack :=
      ⟨hread, trivial, trivial, trivial⟩
    obtain ⟨rfl, herror, -⟩ := parseEnvelope_dumps hdetails hnull h
    rw [parseErrorInfo_details, Except.ok.injEq] at herror
    obtain rfl := herror
    rfl

/-- **What a call gets is what its script came to.**  In every interleaving of any
number of calls with the tasks of the target, and on either transport: behind an
envelope a call returns there is one evaluation, of the call's own script, and
`payload_of` returns the value of that evaluation as it is read back, or raises
the target's exception, never one for the other. -/
theorem payload_is_evaluated {events : List (Event ε π)} (h : run step init events = some w)
    {k : ℕ} {env : Envelope} (henv : w.returned (Json.loads message) k = some env) (pid : ℤ)
    (action : PyStr) :
    ∃ s outcome, w.scriptOf k = some s ∧ .target s (.collect outcome) ∈ events ∧
      events.countP (Event.collects s) = 1 ∧
        Evaluates pid action outcome (payloadOf pid env action) := by
  obtain ⟨-, ha, he⟩ := run_keeps h
  obtain ⟨s, chunks, channel, raw, hk, -, hresult, hparse⟩ := returned_eq_some.1 henv
  have ho : (w.phase k).outcome = some (.received s chunks) := by rw [hk]; rfl
  obtain ⟨hs, data, hd, hpre⟩ := ha.received k s chunks ho
  obtain ⟨ms, rfl⟩ := he s data hd
  obtain rfl := parseEnvelope_cut (result_of_front hpre hresult).1 hparse
  obtain ⟨outcome, hmem, hdata⟩ := collect_of_run h hd
  exact ⟨s, outcome, hs, hmem, collects_of_mem h hmem,
    evaluates_of_produced pid action hdata hparse⟩

end

/-- The run of a late target: the envelope the second call returns has one evaluation
behind it, that of its own script. -/
theorem payload_is_evaluated_late_target :
    letI := Unicode.fullwidth
    letI := Json.wholeFloats
    ∃ w env s outcome, run step init lateTarget = some w ∧ w.scriptOf 1 = some s ∧
      .target s (.collect outcome) ∈ lateTarget ∧ lateTarget.countP (Event.collects s) = 1 ∧
        Evaluates 7 (py "snapshot") outcome (payloadOf 7 env) := by
  let _ := Unicode.fullwidth
  let _ := Json.wholeFloats
  have hreturned : ((run step init lateTarget).bind fun w =>
      w.returned (Json.loads fun _ => py "Expecting value") 1).isSome = true := by
    decide +kernel
  obtain ⟨env, henv⟩ := Option.isSome_iff_exists.1 hreturned
  obtain ⟨w, hrun, hw⟩ := Option.bind_eq_some_iff.1 henv
  obtain ⟨s, outcome, hs, hmem, hone, hevaluates⟩ :=
    payload_is_evaluated hrun hw 7 (py "snapshot")
  exact ⟨w, env, s, outcome, hrun, hs, hmem, hone, hevaluates⟩

end Protocol
end Pidprobe
