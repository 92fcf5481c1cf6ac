/-
# The environment a process was started with

`process_environ` reads the block the kernel keeps: entries that end with a NUL, a
name up to the first `=`, in bytes that need not be text.  An environment of texts
is read back as it was (`environ_reads_back`); and on any block at all, however
malformed, `check_target_remote_debug` fails exactly where an entry sets the variable
CPython looks for (`remote_debug_exact`).
-/

import Pidprobe.Doctor.OnMachine

namespace Pidprobe
namespace Doctor

/-! ## Entries -/

/-- What `process_environ` makes of a chunk: nothing of an empty one, and else the texts in
front of the first `=` and behind it. -/
def readEntry (chunk : List Byte) : Option (PyStr × PyStr) :=
  if chunk = [] then none
  else some ((Records.partition equals chunk).map Utf8.decodeReplace Utf8.decodeReplace)

/-- The entries are a dictionary of the chunks that are not empty, built in their order: a
later chunk of one name replaces the value. -/
theorem parseEnviron_eq (raw : List Byte) :
    parseEnviron raw = Dict.ofPairs ((raw.splitOn nul).filterMap readEntry) := by
  rw [parseEnviron, Dict.ofPairs_filterMap]
  congr 1
  funext entries chunk
  by_cases h : chunk = []
  · rw [addEntry, readEntry, if_pos h, if_pos h]
    rfl
  · rw [addEntry, readEntry, if_neg h, if_neg h]
    rfl

/-- The bytes of an ASCII text. -/
def asciiBytes (text : PyStr) : List Byte := text.map fun c => Utf8.byte c.val

/-- A chunk that sets a name, or is the name alone. -/
def Sets (name : PyStr) (chunk : List Byte) : Prop :=
  chunk = asciiBytes name ∨ asciiBytes name ++ [equals] <+: chunk

instance (name : PyStr) : DecidablePred (Sets name) := fun _ =>
  inferInstanceAs (Decidable (_ ∨ _))

/-- A name that can be set: ASCII, so that its bytes are its own, not empty, and without
`=`. -/
structure IsName (name : PyStr) : Prop where
  ascii : ∀ c ∈ name, IsAscii c
  nonempty : name ≠ []
  plain : cp '=' ∉ name

/-- The name of a variable holds no equals sign, so the first one ends it. -/
theorem equals_notMem {name : PyStr} (h : IsName name) : equals ∉ asciiBytes name := by
  intro hmem
  obtain ⟨c, hc, heq⟩ := List.mem_map.1 hmem
  have hval : c.val = (cp '=').val := by
    have hascii : c.val < 0x80 := h.ascii c hc
    have hbyte := congrArg Fin.val heq
    rwa [Utf8.byte_val (by omega), equals, Utf8.byte_val (by decide)] at hbyte
  exact h.plain (Fin.ext hval ▸ hc)

/-- **Which chunks are read as an entry of a name**: those that begin with it and an `=`,
and the name alone. -/
theorem readEntry_name {name : PyStr} (h : IsName name) {chunk : List Byte} :
    ((readEntry chunk).any fun entry => entry.1 = name) = true ↔ Sets name chunk := by
  have hempty : ¬Sets name [] := by
    have hne : asciiBytes name ≠ [] := fun he => h.nonempty (List.map_eq_nil_iff.1 he)
    rintro (he | he)
    · exact hne he.symm
    · simp at he
  by_cases hchunk : chunk = []
  · subst hchunk
    simpa [readEntry] using hempty
  · rw [readEntry, if_neg hchunk, Option.any_some, decide_eq_true_eq, Prod.map_fst,
      Utf8.decodeReplace_eq_ascii h.ascii]
    exact Records.partition_fst_eq (equals_notMem h)

/-- **The last chunk that sets a name gives its value**, whatever bytes the other chunks
hold. -/
theorem get?_parseEnviron {name : PyStr} (h : IsName name) (raw : List Byte) :
    Dict.get? name (parseEnviron raw) = ((raw.splitOn nul).reverse.find? (Sets name ·)).map
      fun chunk => Utf8.decodeReplace (Records.partition equals chunk).2 := by
  have hfind : ∀ chunk, ((readEntry chunk).any fun entry => decide (entry.1 = name)) =
      decide (Sets name chunk) := fun chunk => by
    rw [Bool.eq_iff_iff, readEntry_name h, decide_eq_true_eq]
  rw [parseEnviron_eq, Dict.get?_ofPairs, ← List.filterMap_reverse, List.find?_filterMap]
  simp only [hfind]
  rcases hlast : (raw.splitOn nul).reverse.find? (Sets name ·) with _ | chunk
  · rfl
  · have hsets : Sets name chunk := by simpa using List.find?_some hlast
    have hne : chunk ≠ [] := by
      rintro rfl
      simpa [readEntry] using (readEntry_name h).2 hsets
    rw [Option.bind_some, readEntry, if_neg hne]
    rfl

/-! ## The round trip -/

/-- The bytes of a variable, as they are handed to `exec`; `none` where a text has no
encoding. -/
def encodeVariable (v : PyStr × PyStr) : Option (List Byte) := do
  let name ← Utf8.encode v.1
  let value ← Utf8.encode v.2
  some (name ++ equals :: value)

/-- Texts that an environment can hold: no `=` in the name, and no zero byte in either. -/
structure IsVariable (v : PyStr × PyStr) : Prop where
  plain : cp '=' ∉ v.1
  name : cp '\x00' ∉ v.1
  value : cp '\x00' ∉ v.2

/-- A variable is read back from its bytes, and the bytes hold no separator. -/
theorem readEntry_encodeVariable {v : PyStr × PyStr} (h : IsVariable v) {chunk : List Byte}
    (hchunk : encodeVariable v = some chunk) : readEntry chunk = some v ∧ nul ∉ chunk := by
  obtain ⟨name, hname, hchunk⟩ := Option.bind_eq_some_iff.1 hchunk
  obtain ⟨value, hvalue, hchunk⟩ := Option.bind_eq_some_iff.1 hchunk
  obtain rfl := Option.some.inj hchunk
  have hplain : equals ∉ name := fun hmem => h.plain (Utf8.mem_of_mem_encode hname (by decide) hmem)
  constructor
  · rw [readEntry, if_neg (by simp), Records.partition_append hplain, Prod.map_apply,
      Utf8.decodeReplace_of_decode (Utf8.decode_encode hname),
      Utf8.decodeReplace_of_decode (Utf8.decode_encode hvalue)]
  · have hne : nul ≠ equals := by decide
    rw [List.mem_append, List.mem_cons, not_or, not_or]
    exact ⟨fun hmem => h.name (Utf8.mem_of_mem_encode hname (by decide) hmem), hne,
      fun hmem => h.value (Utf8.mem_of_mem_encode hvalue (by decide) hmem)⟩

/-- Variables are read back one by one: the chunks of a block are read independently of each
other. -/
theorem filterMap_readEntry {environ : List (PyStr × PyStr)} {chunks : List (List Byte)}
    (hvars : ∀ v ∈ environ, IsVariable v) (hchunks : environ.mapM encodeVariable = some chunks) :
    chunks.filterMap readEntry = environ ∧ ∀ chunk ∈ chunks, nul ∉ chunk := by
  induction environ generalizing chunks with
  | nil =>
    obtain rfl := Option.some.inj hchunks
    simp
  | cons v environ ih =>
    obtain ⟨hv, hvars⟩ := List.forall_mem_cons.1 hvars
    rw [List.mapM_cons] at hchunks
    obtain ⟨chunk, hchunk, hchunks⟩ := Option.bind_eq_some_iff.1 hchunks
    obtain ⟨rest, hrest, hchunks⟩ := Option.bind_eq_some_iff.1 hchunks
    obtain rfl := Option.some.inj hchunks
    obtain ⟨hentry, hnul⟩ := readEntry_encodeVariable hv hchunk
    obtain ⟨hentries, hnuls⟩ := ih hvars hrest
    exact ⟨by rw [List.filterMap_cons_some hentry, hentries],
      List.forall_mem_cons.2 ⟨hnul, hnuls⟩⟩

/-- The environment block of a process, `/proc/<pid>/environ`, where it can be read. -/
def Machine.block (machine : Machine) (pid : ℤ) : Option (List Byte) :=
  machine.readBytes (procPath (Json.intText pid) (py "/environ"))

/-- **An environment is read back as it was.**  Whatever texts the variables are, and
in whatever order, a process that was started with them is reported to have been. -/
theorem environ_reads_back {environ : List (PyStr × PyStr)} {chunks : List (List Byte)}
    {machine : Machine} {pid : ℤ} (hkeys : Dict.NodupKeys environ)
    (hvars : ∀ v ∈ environ, IsVariable v) (hchunks : environ.mapM encodeVariable = some chunks)
    (hblock : machine.block pid = some (Records.frame nul chunks)) :
    machine.processEnviron pid = some environ := by
  obtain ⟨hentries, hnul⟩ := filterMap_readEntry hvars hchunks
  have hsplit : (Records.frame nul chunks).splitOn nul = chunks ++ [[]] := by
    have h := Records.splitOn_frame hnul []
    rwa [List.append_nil, List.splitOn_nil] at h
  have hlast : [([] : List Byte)].filterMap readEntry = [] := rfl
  have hparse : parseEnviron (Records.frame nul chunks) = environ := by
    rw [parseEnviron_eq, hsplit, List.filterMap_append, hentries, hlast, List.append_nil,
      Dict.ofPairs_of_nodupKeys hkeys]
  rw [Machine.processEnviron]
  exact (congrArg (Option.map parseEnviron) hblock).trans (congrArg some hparse)

/-- Two variables, one of them with an accent and an `=` in its value. -/
def someVariables : List (PyStr × PyStr) :=
  [(py "LANG", py "x=\u00e9"), (py "EMPTY", [])]

/-- A Linux machine on which one file can be read, under whatever path it is asked for. -/
def oneFile (content : List Byte) : Machine where
  platform := py "linux"
  geteuid := 1000
  readBytes _ := some content
  owner _ := none
  readlink _ := none
  completed _ := .failed
  int _ := none

/-- Variables whose values need more than a byte a character, or none at all, are read
back. -/
theorem environ_reads_back_accent : ∃ chunks, someVariables.mapM encodeVariable = some chunks ∧
    (oneFile (Records.frame nul chunks)).processEnviron 7 = some someVariables :=
  ⟨_, rfl, environ_reads_back (by decide)
    (List.forall_mem_cons.2 ⟨⟨by decide, by decide, by decide⟩,
      List.forall_mem_singleton.2 ⟨by decide, by decide, by decide⟩⟩) rfl rfl⟩

/-! ## The check -/

/-- The variable the check is about has a name that can be set. -/
theorem isName_disableVariable : IsName disableVariable where
  ascii := ascii_py (by decide)
  nonempty := disableVariable_ne_nil
  plain := by decide

section

variable [Unicode] {machine : Machine} {pid : ℤ}

/-- The platform does not depend on what happens to a machine, so the checks that run
nothing see the same one. -/
theorem isLinux_still : machine.still.isLinux = machine.isLinux := rfl

/-- Without Linux, or without the block, the check says nothing: it is skipped, not
passed. -/
theorem status_of_unread (pid : ℤ)
    (h : machine.isLinux = false ∨ machine.block pid = none) :
    (checkTargetRemoteDebug machine.still pid).status = .skipped := by
  by_cases hl : machine.isLinux = true
  · have hnone : machine.still.processEnviron pid = none :=
      congrArg (Option.map parseEnviron) (h.resolve_left (by simp [hl]))
    simp only [checkTargetRemoteDebug, isLinux_still, hl, hnone]
    rfl
  · simp [checkTargetRemoteDebug, isLinux_still, hl]

/-- What it says of a block depends on the last chunk that sets the variable: without one it
passes, and with one it fails and quotes the value. -/
theorem check_of_block {raw : List Byte} (hl : machine.isLinux = true)
    (hblock : machine.block pid = some raw) :
    match (raw.splitOn nul).reverse.find? (Sets disableVariable ·) with
    | none => (checkTargetRemoteDebug machine.still pid).status = .ok
    | some chunk => (checkTargetRemoteDebug machine.still pid).status = .fail ∧
        (checkTargetRemoteDebug machine.still pid).summary =
          py "pid " ++ Json.intText pid ++ py " was started with " ++ disableVariable ++ py "=" ++
            reprStr (Utf8.decodeReplace (Records.partition equals chunk).2) := by
  have henviron : machine.still.processEnviron pid = some (parseEnviron raw) :=
    congrArg (Option.map parseEnviron) hblock
  have hget := get?_parseEnviron isName_disableVariable raw
  rw [checkTargetRemoteDebug]
  simp only [isLinux_still, hl, henviron, hget]
  rcases (raw.splitOn nul).reverse.find? (Sets disableVariable ·) with _ | chunk
  · rfl
  · exact ⟨rfl, rfl⟩

/-- **The check on the environment is exact.**  It fails exactly where, on Linux, the
block of the process can be read and a chunk of it sets the variable or is its name
alone, whatever bytes the value and the other chunks hold, and it passes exactly
where no chunk does; a failure quotes the value of the last chunk that sets it. -/
theorem remote_debug_exact (machine : Machine) (pid : ℤ) :
    ((checkTargetRemoteDebug machine.still pid).status = .fail ↔
      machine.isLinux = true ∧ ∃ raw, machine.block pid = some raw ∧
        ∃ chunk ∈ raw.splitOn nul, Sets disableVariable chunk) ∧
    ((checkTargetRemoteDebug machine.still pid).status = .ok ↔
      machine.isLinux = true ∧ ∃ raw, machine.block pid = some raw ∧
        ∀ chunk ∈ raw.splitOn nul, ¬Sets disableVariable chunk) ∧
    ∀ raw before chunk after, machine.isLinux = true → machine.block pid = some raw →
      raw.splitOn nul = before ++ chunk :: after → Sets disableVariable chunk →
      (∀ later ∈ after, ¬Sets disableVariable later) →
        (checkTargetRemoteDebug machine.still pid).summary =
          py "pid " ++ Json.intText pid ++ py " was started with " ++ disableVariable ++ py "=" ++
            reprStr (Utf8.decodeReplace (Records.partition equals chunk).2) := by
  by_cases hl : machine.isLinux = true
  swap
  · simp [status_of_unread pid (.inl (Bool.eq_false_iff.2 hl)), hl]
  rcases hblock : machine.block pid with _ | raw
  · simp [status_of_unread pid (.inr hblock)]
  have hcheck := check_of_block hl hblock
  rcases hlast : (raw.splitOn nul).reverse.find? (Sets disableVariable ·) with _ | last
  · -- no chunk sets it
    have hnone : ∀ chunk ∈ raw.splitOn nul, ¬Sets disableVariable chunk := by
      simpa using List.find?_eq_none.1 hlast
    rw [hlast] at hcheck
    simp only at hcheck
    refine ⟨?_, ?_, ?_⟩
    · simpa [hcheck, hl] using hnone
    · simpa [hcheck, hl] using hnone
    · rintro raw' before chunk after - ⟨⟩ hsplit hsets
      exact absurd hsets (hnone chunk (hsplit ▸ by simp))
  · have hmem : last ∈ raw.splitOn nul := List.mem_reverse.1 (List.mem_of_find?_eq_some hlast)
    have hsome : ∃ chunk ∈ raw.splitOn nul, Sets disableVariable chunk :=
      ⟨last, hmem, by simpa using List.find?_some hlast⟩
    rw [hlast] at hcheck
    obtain ⟨hstatus, hsummary⟩ := hcheck
    refine ⟨?_, ?_, ?_⟩
    · simpa [hstatus, hl] using hsome
    · simpa [hstatus, hl] using hsome
    · rintro raw' before chunk after - ⟨⟩ hsplit hsets hlater
      have hafter : after.reverse.find? (Sets disableVariable ·) = none :=
        List.find?_eq_none.2 fun later h => by simpa using hlater later (List.mem_reverse.1 h)
      rw [hsplit, List.reverse_append, List.reverse_cons, List.append_assoc, List.find?_append,
        hafter, Option.none_or, List.singleton_append, List.find?_cons] at hlast
      simp only [decide_eq_true hsets, Option.some.injEq] at hlast
      rw [hsummary, hlast]

end

/-- The variable twice, the second time with a byte that is no text: it is read as the
replacement character. -/
def disabledTwice : List Byte :=
  Records.frame nul [asciiBytes disableVariable ++ equals :: asciiBytes (py "1"),
    asciiBytes disableVariable ++ equals :: [Utf8.byte 0xFF]]

/-- A block that sets the variable twice: the last one counts. -/
theorem remote_debug_exact_twice :
    letI := Unicode.fullwidth
    (checkTargetRemoteDebug (oneFile disabledTwice).still 7).status = .fail :=
  letI := Unicode.fullwidth
  (remote_debug_exact (oneFile disabledTwice) 7).1.2 ⟨rfl, disabledTwice, rfl,
    asciiBytes disableVariable ++ equals :: asciiBytes (py "1"), by decide, by decide⟩

end Doctor
end Pidprobe
