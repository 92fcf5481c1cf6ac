/-
# The socket transport

`UnixSocketChannel.receive` of `_channel.py`: accept one connection, collect the
bytes it sends until it closes, decode them.  A run is given by what the
operating system answers: one `AcceptStep`, and one `RecvStep` for each round of
the loop, with the two clock readings the round takes.

The target sends the bytes of one envelope and closes.  `socket_round_trip` says
that however these bytes are cut into chunks the prober gets the payload back,
and that a connection that closes early is an error; the one thing lost on the
way is the difference between a character above `U+FFFF` and the two surrogates
JSON spells it with.
-/

import Pidprobe.Deadline
import Pidprobe.Envelope
import Pidprobe.Inject
import Pidprobe.Lib.JsonPrefix

namespace Pidprobe
namespace Socket

/-! ## Receiving -/

/-- The largest timeout `settimeout` takes: `poll` counts milliseconds in an
`int`. -/
def maxTimeout : ℚ := 2147483647 / 1000

/-- `sock.settimeout(seconds)`: a negative timeout is a `ValueError`, one beyond the largest
is an `OverflowError`, zero is accepted. -/
def settimeout (seconds : ℚ) : Except PyError Unit :=
  if seconds < 0 then .error (.valueError (py "Timeout value out of range"))
  else if maxTimeout < seconds then .error .overflow
  else .ok ()

/-- What `accept` does: the timeout passes, the system reports an error, or a connection is
there. -/
inductive Accept
  | timeout
  | osError
  | connected

/-- What `recv` does; an empty chunk is the end of the stream, which `receive` takes for
the end of the answer. -/
inductive Recv
  | timeout
  | osError
  | data (chunk : List Byte)

/-- `_accept`: the readings of the clock in `is_expired` and in `remaining`, which are two,
and what the call itself does. -/
structure AcceptStep where
  expiredAt : ℚ
  armedAt : ℚ
  outcome : Accept

/-- One round of the loop of `receive`: two readings of the clock, like in `_accept`, and
what `recv` does. -/
structure RecvStep where
  expiredAt : ℚ
  armedAt : ℚ
  outcome : Recv

section Receive

variable [Rounding]

/-- The check and the `settimeout` in front of a blocking call. The time may run out between
the two readings. -/
def arm (d : Deadline) (expiredAt armedAt : ℚ) : Except PyError Unit :=
  if d.isExpired expiredAt then .error d.timeoutError else settimeout (d.remaining armedAt)

/-- `_accept`: armed, it waits for one connection; `TimeoutError` becomes the
`ProbeTimeoutError` of the deadline. -/
def accept (d : Deadline) (step : AcceptStep) : Except PyError Unit := do
  arm d step.expiredAt step.armedAt
  match step.outcome with
  | .timeout => .error d.timeoutError
  | .osError => .error .os
  | .connected => .ok ()

/-- The loop of `receive`: the chunks read, or `none` while it is still waiting. Every round
arms its own timeout. -/
def receiveChunks (d : Deadline) : List RecvStep → List (List Byte) →
    Option (Except PyError (List (List Byte)))
  | [], _ => none
  | step :: steps, chunks =>
    match arm d step.expiredAt step.armedAt with
    | .error exc => some (.error exc)
    | .ok () =>
      match step.outcome with
      | .timeout => some (.error d.timeoutError)
      | .osError => some (.error .os)
      | .data [] => some (.ok chunks)
      | .data (b :: chunk) => receiveChunks d steps (chunks ++ [b :: chunk])

/-- The end of `receive`: what the chunks say. None is a `ChannelError`; bytes that are no
UTF-8 raise `UnicodeDecodeError`. -/
def decodeChunks (chunks : List (List Byte)) : Except PyError PyStr :=
  if chunks.isEmpty then
    .error (channelError (py "target connected to the return channel but sent nothing"))
  else
    match Utf8.decode chunks.flatten with
    | some text => .ok text
    | none => .error .unicodeDecode

/-- `UnixSocketChannel.receive`, from what the clock shows and what the socket does; `none`
where it is still waiting. -/
def receive (d : Deadline) (acceptStep : AcceptStep) (steps : List RecvStep) :
    Option (Except PyError PyStr) :=
  match accept d acceptStep with
  | .error exc => some (.error exc)
  | .ok () => (receiveChunks d steps []).map fun chunks => chunks >>= decodeChunks

/-- `parse_envelope(channel.receive(deadline))`, as `execute_in_target` composes the two. -/
def receiveEnvelope [Unicode] [FloatText] (loads : PyStr → Except PyStr Json) (d : Deadline)
    (acceptStep : AcceptStep) (steps : List RecvStep) : Option (Except PyError Envelope) :=
  (receive d acceptStep steps).map fun raw => raw >>= parseEnvelope loads

/-! ## A connection within the budget -/

/-- Two readings within the budget, and the budget within what `settimeout`
takes. -/
def InTime (d : Deadline) (expiredAt armedAt : ℚ) : Prop :=
  0 < d.remaining expiredAt ∧ 0 < d.remaining armedAt ∧ d.remaining armedAt ≤ maxTimeout

instance (d : Deadline) (expiredAt armedAt : ℚ) : Decidable (InTime d expiredAt armedAt) :=
  inferInstanceAs (Decidable (_ ∧ _))

/-- The rounds read these bytes, cut into non-empty chunks, and then the
connection closes. -/
inductive Delivers (d : Deadline) : List Byte → List RecvStep → Prop
  | close {expiredAt armedAt : ℚ} (ht : InTime d expiredAt armedAt) (steps : List RecvStep) :
    Delivers d [] (⟨expiredAt, armedAt, .data []⟩ :: steps)
  | chunk {expiredAt armedAt : ℚ} (ht : InTime d expiredAt armedAt) {chunk bytes : List Byte}
    (hne : chunk ≠ []) {steps : List RecvStep} (h : Delivers d bytes steps) :
    Delivers d (chunk ++ bytes) (⟨expiredAt, armedAt, .data chunk⟩ :: steps)

/-- In time, a blocking call is armed and nothing is raised. -/
theorem arm_ok {d : Deadline} {expiredAt armedAt : ℚ} (h : InTime d expiredAt armedAt) :
    arm d expiredAt armedAt = .ok () := by
  obtain ⟨he, ha, hmax⟩ := h
  rw [arm, Deadline.isExpired, if_neg (by simpa using he), settimeout, if_neg (not_lt.2 ha.le),
    if_neg (not_lt.2 hmax)]

/-- The loop collects the bytes in order, however they are cut, and has no chunk exactly
where there is no byte. -/
theorem receiveChunks_of_delivers {d : Deadline} {bytes : List Byte} {steps : List RecvStep}
    (h : Delivers d bytes steps) (done : List (List Byte)) :
    ∃ chunks, receiveChunks d steps done = some (.ok (done ++ chunks)) ∧
      chunks.flatten = bytes ∧ (chunks = [] ↔ bytes = []) := by
  induction h generalizing done with
  | close ht steps => exact ⟨[], by rw [receiveChunks, arm_ok ht]; simp, rfl, by simp⟩
  | @chunk _ _ ht chunk bytes hne steps _ ih =>
    obtain ⟨b, rest, rfl⟩ := List.exists_cons_of_ne_nil hne
    obtain ⟨chunks, hc, rfl, -⟩ := ih (done ++ [b :: rest])
    refine ⟨(b :: rest) :: chunks, ?_, by simp, by simp⟩
    rw [receiveChunks, arm_ok ht]
    simpa using hc

/-- **However the bytes are cut, `receive` returns their text.** -/
theorem receive_of_delivers {d : Deadline} {acceptStep : AcceptStep}
    (ht : InTime d acceptStep.expiredAt acceptStep.armedAt)
    (hc : acceptStep.outcome = .connected) {bytes : List Byte} {steps : List RecvStep}
    (h : Delivers d bytes steps) (hne : bytes ≠ []) :
    receive d acceptStep steps = some (match Utf8.decode bytes with
      | some text => .ok text
      | none => .error .unicodeDecode) := by
  obtain ⟨chunks, hr, rfl, hnil⟩ := receiveChunks_of_delivers h []
  have hcne : chunks.isEmpty = false := by
    simpa [List.isEmpty_iff] using fun h => hne (hnil.1 h)
  rw [receive, accept, arm_ok ht, hc]
  simp only [ok_bind, hr, Option.map_some, List.nil_append, decodeChunks, hcne]
  rfl

/-- A connection that closes at once is reported as one that sent nothing, and not as an
empty text. -/
theorem receive_of_delivers_nil {d : Deadline} {acceptStep : AcceptStep}
    (ht : InTime d acceptStep.expiredAt acceptStep.armedAt)
    (hc : acceptStep.outcome = .connected) {steps : List RecvStep} (h : Delivers d [] steps) :
    receive d acceptStep steps = some (.error (channelError
      (py "target connected to the return channel but sent nothing"))) := by
  obtain ⟨chunks, hr, -, hnil⟩ := receiveChunks_of_delivers h []
  obtain rfl := hnil.2 rfl
  rw [receive, accept, arm_ok ht, hc]
  simp only [ok_bind, hr, Option.map_some, List.nil_append, decodeChunks]
  rfl

end Receive

/-! ## Bytes of an envelope -/

/-- An answer holds no float but those of its payload. -/
theorem okEnvelope_floatFree {payload : Json} (h : payload.FloatFree) :
    (Inject.okEnvelope payload).FloatFree := by
  refine ⟨?_, ?_, h, ?_⟩ <;> trivial

/-- The keys of an answer are three, and those of its payload are its own. -/
theorem okEnvelope_uniqueKeys {payload : Json} (h : payload.UniqueKeys) :
    (Inject.okEnvelope payload).UniqueKeys := by
  refine ⟨?_, ?_, ?_, h, ?_⟩
  · show [py "status", py "error", py "payload"].Nodup
    decide
  all_goals trivial

/-- No text of an answer but those of its payload can have a surrogate pair cut apart. -/
theorem okEnvelope_noSplitPairs {payload : Json} (h : payload.NoSplitPairs) :
    (Inject.okEnvelope payload).NoSplitPairs := by
  refine ⟨?_, ?_, ?_, ?_, ?_, h, ?_⟩
  · rw [Json.NoSplitPair]
    decide
  · rw [Json.NoSplitPairs, Json.NoSplitPair]
    decide
  · rw [Json.NoSplitPair]
    decide
  · trivial
  · rw [Json.NoSplitPair]
    decide
  · trivial

section Bytes

variable [FloatText]

/-- The first bytes of a value are the bytes of the first characters of its
text. -/
theorem decode_front {v : Json} {bytes : List Byte} (h : bytes <+: Inject.encoded v) :
    ∃ p, Utf8.decode bytes = some p ∧ p <+: v.dumps ∧ (p = v.dumps → bytes = Inject.encoded v) := by
  have henc := Inject.encode_dumps v
  rw [Utf8.encode_ascii (Json.dumps_ascii v), Option.some.injEq] at henc
  rw [← henc] at h ⊢
  obtain ⟨p, hp, rfl⟩ := List.prefix_map_iff.1 h
  refine ⟨p, ?_, hp, fun he => by rw [he]⟩
  have hascii : ∀ c ∈ p, IsAscii c := fun c hc => Json.dumps_ascii v c (hp.subset hc)
  exact Utf8.decode_encode (Utf8.encode_ascii hascii)

/-- An answer is at least one byte long. -/
theorem encoded_ne_nil (payload : Json) : Inject.encoded (Inject.okEnvelope payload) ≠ [] := by
  have h := Inject.decode_encoded (Inject.okEnvelope payload)
  intro hnil
  rw [hnil] at h
  cases h

end Bytes

/-! ## The round trip -/

section RoundTrip

variable [Unicode] [FloatText] {message : PyStr → PyStr}

/-- A success is read as a success with its payload as the reader sees it: JSON's own round
trip, inside the envelope. -/
theorem parseEnvelope_okEnvelope {ms : List (PyStr × Json)} (hf : (Json.obj ms).FloatFree)
    (hu : (Json.obj ms).UniqueKeys) (hs : (Json.obj ms).NoSplitPairs) :
    parseEnvelope (Json.loads message) (Inject.okEnvelope (.obj ms)).dumps =
      .ok ⟨.ok, none, some ms⟩ := by
  have hread : Json.loads message (Inject.okEnvelope (.obj ms)).dumps =
      .ok (Inject.okEnvelope (.obj ms)) := by
    rw [Json.loads, Json.read_dumps (okEnvelope_floatFree hf),
      Json.reread_eq_self (okEnvelope_uniqueKeys hu) (okEnvelope_noSplitPairs hs)]
  refine parseEnvelope_eq_ok.2 ⟨_, hread, ?_, ?_, ?_⟩
  · rw [member]
    rfl
  · rw [member]
    rfl
  · rw [member]
    rfl

variable [Rounding] {d : Deadline} {acceptStep : AcceptStep}

/-- **A success arrives, and nothing else passes for one.**  However the bytes of
a success are cut into chunks, the prober gets an envelope with status `ok` and
this payload where no string of the payload splits a surrogate pair; a
connection that closes earlier is a `ChannelError` whatever the payload. -/
theorem socket_round_trip {ms : List (PyStr × Json)} (hf : (Json.obj ms).FloatFree)
    (hu : (Json.obj ms).UniqueKeys) (ht : InTime d acceptStep.expiredAt acceptStep.armedAt)
    (hc : acceptStep.outcome = .connected) :
    ((Json.obj ms).NoSplitPairs → ∀ steps,
      Delivers d (Inject.encoded (Inject.okEnvelope (.obj ms))) steps →
        ∃ env, receiveEnvelope (Json.loads message) d acceptStep steps = some (.ok env) ∧
          env.status = .ok ∧ env.payload = some ms) ∧
    ∀ bytes steps, bytes <+: Inject.encoded (Inject.okEnvelope (.obj ms)) →
      bytes ≠ Inject.encoded (Inject.okEnvelope (.obj ms)) → Delivers d bytes steps →
        ∃ m, receiveEnvelope (Json.loads message) d acceptStep steps =
          some (.error (channelError m)) := by
  constructor
  · intro hs steps h
    refine ⟨⟨.ok, none, some ms⟩, ?_, rfl, rfl⟩
    rw [receiveEnvelope, receive_of_delivers ht hc h (encoded_ne_nil _), Inject.decode_encoded,
      Option.map_some, ok_bind, parseEnvelope_okEnvelope hf hu hs]
  · intro bytes steps hp hne h
    by_cases hnil : bytes = []
    · subst hnil
      refine ⟨py "target connected to the return channel but sent nothing", ?_⟩
      rw [receiveEnvelope, receive_of_delivers_nil ht hc h, Option.map_some, error_bind]
    · obtain ⟨p, hdecode, hpre, hwhole⟩ := decode_front hp
      have hstrict : Json.StrictPrefix p _ := ⟨hpre, fun he => hne (hwhole he)⟩
      refine ⟨py "target sent malformed JSON: " ++ message p, ?_⟩
      rw [receiveEnvelope, receive_of_delivers ht hc h hnil, hdecode, Option.map_some, ok_bind,
        parseEnvelope, Json.loads, Json.read_strictPrefix hstrict]

end RoundTrip

section

variable [Rounding]

/-- A budget of five seconds, and a target that answers at once. The clock shows `0` at the
start. -/
def fiveSeconds : Deadline := Deadline.start 5 none 0

/-- The target connects at once. -/
def atOnce : AcceptStep := ⟨0, 0, .connected⟩

/-- These chunks, and the end of the stream, each met at the very start of the budget. -/
def chunked (chunks : List (List Byte)) : List RecvStep :=
  chunks.map (fun chunk => ⟨0, 0, .data chunk⟩) ++ [⟨0, 0, .data []⟩]

/-- The chunks deliver their bytes where the first reading is within the
budget. -/
theorem delivers_chunked (htime : InTime fiveSeconds 0 0) {chunks : List (List Byte)}
    (h : [] ∉ chunks) : Delivers fiveSeconds chunks.flatten (chunked chunks) := by
  induction chunks with
  | nil => exact .close htime []
  | cons chunk chunks ih =>
    rw [List.mem_cons, not_or] at h
    exact .chunk htime (Ne.symm h.1) (ih h.2)

end

/-- In doubles the five seconds are all left at the start. -/
theorem inTime_fiveSeconds :
    letI := Rounding.double
    InTime fiveSeconds 0 0 := by
  decide +kernel

/-- The payload `{"k": "v"}` in two chunks, and its first byte alone, which is no envelope
and raises `ChannelError`. -/
theorem socket_round_trip_kv :
    letI := Unicode.fullwidth
    letI := Json.wholeFloats
    letI := Rounding.double
    let ms := [(py "k", Json.str (py "v"))]
    let bytes := Inject.encoded (Inject.okEnvelope (.obj ms))
    let loads := Json.loads fun _ => py "Expecting value"
    (∃ env, receiveEnvelope loads fiveSeconds atOnce
        (chunked [bytes.take 1, bytes.drop 1]) = some (.ok env) ∧
      env.status = .ok ∧ env.payload = some ms) ∧
    ∃ m, receiveEnvelope loads fiveSeconds atOnce (chunked [bytes.take 1]) =
      some (.error (channelError m)) := by
  let _ := Unicode.fullwidth
  let _ := Json.wholeFloats
  let _ := Rounding.double
  intro ms bytes loads
  have hf : (Json.obj ms).FloatFree := ⟨trivial, trivial⟩
  have hu : (Json.obj ms).UniqueKeys := ⟨List.nodup_singleton _, trivial, trivial⟩
  have hs : (Json.obj ms).NoSplitPairs := by
    refine ⟨?_, ?_, trivial⟩ <;> simp only [Json.NoSplitPairs, Json.NoSplitPair] <;> decide
  have htime : InTime fiveSeconds atOnce.expiredAt atOnce.armedAt := inTime_fiveSeconds
  have hconnected : atOnce.outcome = .connected := rfl
  obtain ⟨harrives, hcut⟩ := socket_round_trip hf hu htime hconnected
  refine ⟨harrives hs _ ?_, hcut (bytes.take 1) _ (List.take_prefix ..) ?_ ?_⟩
  · have hne : [] ∉ [bytes.take 1, bytes.drop 1] := by decide +kernel
    have h := delivers_chunked htime hne
    simpa only [List.flatten_cons, List.flatten_nil, List.append_nil, List.take_append_drop] using h
  · decide +kernel
  · have hne : [] ∉ [bytes.take 1] := by decide +kernel
    have h := delivers_chunked htime hne
    simpa using h

/-- Two characters that are the two halves of a surrogate pair come back as one
character. -/
theorem split_pair_not_received :
    letI := Unicode.fullwidth
    letI := Json.wholeFloats
    letI := Rounding.double
    let ms := [(py "k", Json.str [Utf8.code 0xD83D, Utf8.code 0xDE00])]
    ¬∃ env, receiveEnvelope (Json.loads fun _ => py "Expecting value") fiveSeconds atOnce
        (chunked [Inject.encoded (Inject.okEnvelope (.obj ms))]) = some (.ok env) ∧
      env.status = .ok ∧ env.payload = some ms := by
  let _ := Unicode.fullwidth
  let _ := Json.wholeFloats
  let _ := Rounding.double
  intro ms
  rintro ⟨env, h, -, hp⟩
  have hread : (receiveEnvelope (Json.loads fun _ => py "Expecting value") fiveSeconds atOnce
      (chunked [Inject.encoded (Inject.okEnvelope (.obj ms))])).map (fun answer =>
        answer.map fun env => env.payload.map fun payload => payload.map fun m => m.2.toStr) =
      some (.ok (some [[Utf8.code 0x1F600]])) := by decide +kernel
  rw [h, Option.map_some, Except.map, hp, Option.map_some] at hread
  have hstr : ms.map (fun m => m.2.toStr) = [[Utf8.code 0x1F600]] :=
    Option.some.inj (Except.ok.inj (Option.some.inj hread))
  exact absurd hstr (by decide)

end Socket
end Pidprobe
