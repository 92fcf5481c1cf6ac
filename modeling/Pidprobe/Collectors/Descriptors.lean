/-
# The descriptor table during the fds collector

The snippet of `collectors/_fds.py` again, with the table it works on:
`socket_details` duplicates a descriptor, hands the duplicate to a socket object
if it can, and closes it in one of two places.  The table keeps a log of the calls
that concern it, and what each call comes to is up to the system (`System`), in
every round anew.

`socketDetails_eq` goes through the five exits: each leaves the table as it was,
and a duplicate and its closing in the log, or neither.  From it
`collect_restores` follows for the whole snippet, whatever ends it.  What it lists
is another matter: a name that reads as a number no C `int` holds makes `os.fstat`
raise `OverflowError`, which the loop does not continue after, and nothing is
listed (`fds_table_accounted_iff`).  Where the system answers as a `Fds.World`
does, the outcome is that of the model without a table (`collect_ofWorld`).
-/

import Mathlib.Data.Finset.Insert
import Mathlib.Data.Finset.Lattice.Fold
import Pidprobe.Collectors.Fds
import Pidprobe.Lib.Effect

namespace Pidprobe
namespace Fds

open Call

/-- What a call of the snippet raises: `ValueError`, `OSError`, the `OverflowError`
of a number that is no C `int`, or another `Exception`. -/
inductive Raised
  | valueError
  | osError
  | overflowError
  | exception
  deriving DecidableEq

/-- `except OSError`, around `os.dup`, `os.readlink` and the lookups of an address. -/
def Raised.isOSError : Raised → Bool
  | osError => true
  | _ => false

/-- `except (ValueError, OSError)` of the loop. An `OverflowError` is neither, and ends the
snippet. -/
def Raised.skips : Raised → Bool
  | overflowError | exception => false
  | _ => true

/-- A call that concerns the table: `fstat` with whether it succeeded, `dup` with
the duplicate it made, and `close`. -/
inductive TableEvent
  | fstat (fd : ℤ) (succeeded : Bool)
  | dup (fd duplicate : ℤ)
  | close (fd : ℤ)
  deriving DecidableEq

/-- The open descriptors, and the calls so far that asked about one of them, made one or
closed one. -/
@[ext] structure Table where
  opened : Finset ℤ
  log : List TableEvent

/-- What the snippet reads of a socket object. -/
structure SocketObject where
  /-- `sock.family.name`, and the text of a family without a name. -/
  familyName : Option PyStr
  familyText : PyStr
  typeName : Option PyStr
  typeText : PyStr
  /-- `getsockname` and `getpeername`, a value as `address` returns it. -/
  sockname : Except Raised Json
  peername : Except Raised Json

/-- What the calls of the snippet come to, given those before them. An answer may change
from one call to the next. -/
structure System where
  platform : PyStr
  isdir : PyStr → Bool
  listdir : PyStr → Except Raised (List PyStr)
  /-- `int(name)`; `none` is `ValueError`. -/
  int : PyStr → Option ℤ
  /-- `os.fstat` of a C `int`; `none` is `OSError`. -/
  fstat : List TableEvent → ℤ → Option Stat
  /-- `os.readlink`; `none` is `OSError`. -/
  readlink : List TableEvent → PyStr → Option PyStr
  isatty : List TableEvent → ℤ → Bool
  /-- `hasattr(socket, "SO_DOMAIN")`. -/
  hasSoDomain : Bool
  /-- `socket.getdefaulttimeout() is not None`. -/
  hasDefaultTimeout : List TableEvent → Bool
  /-- `os.dup`; `none` is `OSError`. -/
  dup : Table → ℤ → Option ℤ
  /-- `socket.socket(fileno=duplicate)`; `none` is an `Exception`. -/
  socket : List TableEvent → ℤ → Option SocketObject
  /-- A duplicate is a new descriptor. -/
  dup_fresh : ∀ t fd duplicate, dup t fd = some duplicate → duplicate ∉ t.opened

namespace System

variable (os : System)

/-- `fd_directory`. -/
def fdDirectory : Option PyStr :=
  if (py "linux").isPrefixOf os.platform && os.isdir linuxFdDir then some linuxFdDir
  else if os.isdir bsdFdDir then some bsdFdDir
  else none

/-- `os.fstat(fd)`; a number that is no C `int` does not get to the system, and raises
`OverflowError`. -/
def fstatCall (fd : ℤ) : Call Table Raised Stat := fun t =>
  if InCInt fd then
    match os.fstat t.log fd with
    | some info => (.ok info, { t with log := t.log ++ [.fstat fd true] })
    | none => (.error .osError, { t with log := t.log ++ [.fstat fd false] })
  else (.error .overflowError, t)

/-- The table with a duplicate, and the call that made it. -/
def opened (fd duplicate : ℤ) (t : Table) : Table :=
  ⟨insert duplicate t.opened, t.log ++ [.dup fd duplicate]⟩

/-- `os.dup(fd)`: a descriptor that was not open, or an `OSError`. -/
def dupCall (fd : ℤ) : Call Table Raised ℤ := fun t =>
  match os.dup t fd with
  | some duplicate => (.ok duplicate, opened fd duplicate t)
  | none => (.error .osError, t)

/-- `socket.socket(fileno=duplicate)`: a socket object that owns the duplicate, or any
`Exception`. -/
def socketCall (duplicate : ℤ) : Call Table Raised SocketObject := fun t =>
  match os.socket t.log duplicate with
  | some sock => (.ok sock, t)
  | none => (.error .exception, t)

/-- `os.close(fd)`, and the `close` of a socket on it; a descriptor that is open can
be closed. -/
def close (fd : ℤ) (t : Table) : Table := ⟨t.opened.erase fd, t.log ++ [.close fd]⟩

/-- `address`: an `OSError` of the lookup is an address that is not known; anything else
passes. -/
def address (lookup : Except Raised Json) : Except Raised Json :=
  match lookup with
  | .ok value => .ok value
  | .error e => if e.isOSError then .ok .null else .error e

/-- The dictionary of a socket: family and type by their names, and the two addresses. -/
def socketEntry (sock : SocketObject) : Except Raised Json := do
  let laddr ← address sock.sockname
  let raddr ← address sock.peername
  .ok (.obj [(py "family", .str (nameOr sock.familyName sock.familyText)),
    (py "type", .str (nameOr sock.typeName sock.typeText)), (py "laddr", laddr),
    (py "raddr", raddr)])

/-- `socket_details`, by the calls it makes: the duplicate is closed on every way out, by
`os.close` or by the socket object. -/
def socketDetails (fd : ℤ) : Call Table Raised Json := do
  let hasDefaultTimeout ← observe fun t => os.hasDefaultTimeout t.log
  if !os.hasSoDomain || hasDefaultTimeout then pure .null
  else
    tryElse (os.dupCall fd) Raised.isOSError (pure .null) fun duplicate =>
      tryElse (os.socketCall duplicate) (fun _ => true)
        (do
          modify (close duplicate)
          pure .null)
        fun sock =>
          tryFinally (tryExcept (lift (socketEntry sock)) (fun _ => true) fun _ => pure .null)
            (close duplicate)

/-- `describe`, by the calls it makes. `os.fstat` comes first, and what it raises ends the
entry. -/
def describe (directory name : PyStr) : Call Table Raised Entry := do
  let fd ← lift (match os.int name with
    | some fd => .ok fd
    | none => .error .valueError)
  let info ← os.fstatCall fd
  let kind := (Dict.get? (formatOf info.mode) kindByFormat).getD (py "unknown")
  let target ← observe fun t => os.readlink t.log (directory ++ py "/" ++ name)
  let isTty ← observe fun t => os.isatty t.log fd
  let socket ← (if kind = py "socket" then os.socketDetails fd else pure .null :
    Call Table Raised Json)
  pure ⟨fd, .obj ([(py "fd", .int fd), (py "kind", .str kind),
    (py "target", target.elim .null .str), (py "inode", .int info.ino),
    (py "is_tty", .bool isTty)] ++
      (if kind = py "file" then [(py "size", .int info.size)] else []) ++
      (if kind = py "socket" then [(py "socket", socket)] else []))⟩

/-- The loop over the names of the directory: an entry that raises a `ValueError` or an
`OSError` is skipped. -/
def descriptors (directory : PyStr) : List PyStr → Call Table Raised (List Entry)
  | [] => pure []
  | name :: names => do
    let entry ← tryExcept
      (do
        let entry ← os.describe directory name
        pure (some entry))
      Raised.skips fun _ => pure none
    let rest ← descriptors directory names
    pure (entry.toList ++ rest)

/-- `data` where no directory has the descriptors. -/
def unsupported : Json :=
  .obj [(py "supported", .bool false), (py "source", .null), (py "count", .int 0),
    (py "descriptors", .arr [])]

/-- `data` of a directory: its path, the number of entries and the entries. -/
def listing (directory : PyStr) (descriptors : List Json) : Json :=
  .obj [(py "supported", .bool true), (py "source", .str directory),
    (py "count", .int descriptors.length), (py "descriptors", .arr descriptors)]

/-- The snippet; its result is `data`. The entries are sorted by their descriptors behind
the loop. -/
def collect : Call Table Raised Json :=
  match os.fdDirectory with
  | none => pure unsupported
  | some directory => do
    let names ← lift (os.listdir directory)
    let descriptors ← os.descriptors directory names
    let sorted := descriptors.insertionSort fun x y => x.fd ≤ y.fd
    pure (listing directory (sorted.map Entry.json))

/-! ## Each duplicate is closed -/

/-- A duplicate and its closing, the only calls that change the table. -/
def pair (duplicated : ℤ × ℤ) : List TableEvent :=
  [.dup duplicated.1 duplicated.2, .close duplicated.2]

/-- The table after calls that leave the same descriptors open. -/
def after (t : Table) (events : List TableEvent) : Table := ⟨t.opened, t.log ++ events⟩

@[simp] theorem after_nil (t : Table) : after t [] = t := by simp [after]

@[simp] theorem after_after (t : Table) (events later : List TableEvent) :
    after (after t events) later = after t (events ++ later) := by simp [after]

variable {os}

/-- Of a C `int`, `os.fstat` returns a result or raises an `OSError`, and the log says
which. -/
theorem fstatCall_eq {fd : ℤ} (hfd : InCInt fd) (t : Table) :
    (∃ info, os.fstatCall fd t = (.ok info, after t [.fstat fd true])) ∨
      os.fstatCall fd t = (.error .osError, after t [.fstat fd false]) := by
  unfold fstatCall
  rw [if_pos hfd]
  rcases os.fstat t.log fd with _ | info
  · exact .inr rfl
  · exact .inl ⟨info, rfl⟩

/-- Of any other number it raises `OverflowError`, before the system is asked. -/
theorem fstatCall_overflow {fd : ℤ} (hfd : ¬InCInt fd) (t : Table) :
    os.fstatCall fd t = (.error .overflowError, t) := if_neg hfd

variable (os) in
/-- **The five exits.**  Nothing is duplicated, or one descriptor, which is then
closed. -/
theorem socketDetails_eq (fd : ℤ) (t : Table) :
    ∃ details, ∃ duplicated : Option (ℤ × ℤ),
      os.socketDetails fd t = (.ok details, after t (duplicated.toList.flatMap pair)) := by
  unfold socketDetails
  rw [observe_bind]
  split_ifs
  · exact ⟨.null, none, by simp [pure_eq]⟩
  rcases hdup : os.dup t fd with _ | duplicate
  · have hcall : os.dupCall fd t = (.error .osError, t) := by rw [dupCall, hdup]
    exact ⟨.null, none, by rw [tryElse_error hcall rfl]; simp [pure_eq]⟩
  have hcall : os.dupCall fd t = (.ok duplicate, opened fd duplicate t) := by rw [dupCall, hdup]
  have hclose : close duplicate (opened fd duplicate t) =
      after t ((some (fd, duplicate)).toList.flatMap pair) := by
    simp [close, opened, after, pair, Finset.erase_insert (os.dup_fresh t fd duplicate hdup)]
  rw [tryElse_ok hcall]
  rcases hsocket : os.socket (opened fd duplicate t).log duplicate with _ | sock
  · have hcall : os.socketCall duplicate (opened fd duplicate t) =
        (.error .exception, opened fd duplicate t) := by rw [socketCall, hsocket]
    refine ⟨.null, some (fd, duplicate), ?_⟩
    rw [tryElse_error hcall rfl, modify_bind, hclose, pure_eq]
  · have hcall : os.socketCall duplicate (opened fd duplicate t) =
        (.ok sock, opened fd duplicate t) := by rw [socketCall, hsocket]
    rw [tryElse_ok hcall, Call.tryFinally]
    rcases hentry : socketEntry sock with e | details
    · refine ⟨.null, some (fd, duplicate), ?_⟩
      rw [tryExcept_error (lift_eq (.error e) _) rfl, pure_eq, hclose]
    · refine ⟨details, some (fd, duplicate), ?_⟩
      rw [tryExcept_ok (lift_eq (.ok details) _), hclose]

/-! ## What is listed -/

/-- The `fstat` calls of a log: which numbers were asked about, and which of them
are open. -/
def stats (events : List TableEvent) : List (ℤ × Bool) :=
  events.filterMap fun event =>
    match event with
    | .fstat fd succeeded => some (fd, succeeded)
    | _ => none

/-- The `dup` and `close` calls of a log, which must come in pairs for the table to be
restored. -/
def duplicates (events : List TableEvent) : List TableEvent :=
  events.filter fun event =>
    match event with
    | .fstat .. => false
    | _ => true

/-- The numbers asked about in two logs, one behind the other. -/
theorem stats_append (events later : List TableEvent) :
    stats (events ++ later) = stats events ++ stats later := List.filterMap_append ..

/-- The duplicates of two logs, one behind the other. -/
theorem duplicates_append (events later : List TableEvent) :
    duplicates (events ++ later) = duplicates events ++ duplicates later := List.filter_append ..

/-- A call of `fstat` adds its number, with what it came to. -/
theorem stats_fstat (fd : ℤ) (succeeded : Bool) (events : List TableEvent) :
    stats (.fstat fd succeeded :: events) = (fd, succeeded) :: stats events := rfl

/-- A call of `fstat` is no event of a duplicate. -/
theorem duplicates_fstat (fd : ℤ) (succeeded : Bool) (events : List TableEvent) :
    duplicates (.fstat fd succeeded :: events) = duplicates events := rfl

/-- Making and closing duplicates asks about no number. -/
theorem stats_pairs (duplicated : List (ℤ × ℤ)) : stats (duplicated.flatMap pair) = [] := by
  induction duplicated with
  | nil => rfl
  | cons d duplicated ih =>
    rw [List.flatMap_cons, stats_append, ih]
    rfl

/-- A log of pairs is all about duplicates. -/
theorem duplicates_pairs (duplicated : List (ℤ × ℤ)) :
    duplicates (duplicated.flatMap pair) = duplicated.flatMap pair := by
  induction duplicated with
  | nil => rfl
  | cons d duplicated ih =>
    rw [List.flatMap_cons, duplicates_append, ih]
    rfl

/-- The `fd` of an entry. -/
def fdOf : Json → Option ℤ
  | .obj ms =>
    match Dict.get? (py "fd") ms with
    | some (.int fd) => some fd
    | _ => none
  | _ => none

variable (os) in
/-- What asking about a name comes to: no number, a number that is not open, or an entry
with the pairs of its socket. -/
inductive Described (name : PyStr) : Except Raised Entry → List TableEvent → Prop
  | notNumeric (h : os.int name = none) : Described name (.error .valueError) []
  | failed {fd : ℤ} (h : os.int name = some fd) :
      Described name (.error .osError) [.fstat fd false]
  | listed {entry : Entry} (duplicated : List (ℤ × ℤ)) (h : os.int name = some entry.fd)
      (hfd : fdOf entry.json = some entry.fd) :
      Described name (.ok entry) (.fstat entry.fd true :: duplicated.flatMap pair)

variable (os) in
/-- The name is no number, or one a C `int` holds. A directory of descriptors lists nothing
else. -/
def InRange (name : PyStr) : Prop := ∀ fd, os.int name = some fd → InCInt fd

/-- What ends a name in range, the loop continues after: it is a `ValueError` or an
`OSError`. -/
theorem Described.skips {name : PyStr} {outcome : Except Raised Entry} {events : List TableEvent}
    (h : Described os name outcome events) : ∀ e, outcome = .error e → e.skips = true := by
  rintro e rfl
  cases h <;> rfl

/-- `describe` of a name in range: whatever its calls come to, the table is left as it was
found, and the log holds one `fstat` at most and closes each duplicate it made. -/
theorem describe_eq {name : PyStr} (hname : os.InRange name) (directory : PyStr) (t : Table) :
    ∃ outcome events, os.describe directory name t = (outcome, after t events) ∧
      Described os name outcome events := by
  unfold describe
  rcases hint : os.int name with _ | fd
  · exact ⟨_, [], by rw [lift_error_bind, after_nil], .notNumeric hint⟩
  rw [lift_ok_bind]
  rcases fstatCall_eq (hname fd hint) t with ⟨info, hstat⟩ | hstat
  · rw [bind_ok hstat]
    simp only [observe_bind]
    obtain ⟨details, duplicated, hdetails⟩ : ∃ details, ∃ duplicated : List (ℤ × ℤ),
        (if (Dict.get? (formatOf info.mode) kindByFormat).getD (py "unknown") = py "socket" then
            os.socketDetails fd else pure .null) (after t [.fstat fd true]) =
          (.ok details, after (after t [.fstat fd true]) (duplicated.flatMap pair)) := by
      split_ifs
      · obtain ⟨details, duplicated, h⟩ := socketDetails_eq os fd (after t [.fstat fd true])
        exact ⟨details, duplicated.toList, h⟩
      · exact ⟨.null, [], by simp [pure_eq]⟩
    rw [bind_ok hdetails, pure_eq, after_after]
    exact ⟨_, _, rfl, .listed duplicated hint rfl⟩
  · exact ⟨_, _, bind_error hstat, .failed hint⟩

/-- A number out of range is not asked about: the `OverflowError` comes before any call. -/
theorem describe_overflow {name : PyStr} {fd : ℤ} (hint : os.int name = some fd)
    (hfd : ¬InCInt fd) (directory : PyStr) (t : Table) :
    os.describe directory name t = (.error .overflowError, t) := by
  unfold describe
  rw [hint, lift_ok_bind]
  exact bind_error (fstatCall_overflow hfd t)

/-- What the `try` of the loop makes of asking about a name; `none` is an exception
it continues after. -/
def caught (outcome : Except Raised Entry) : Except Raised (Option Entry) :=
  match outcome with
  | .ok entry => .ok (some entry)
  | .error e => if e.skips then .ok none else .error e

/-- An exception the loop continues after costs the listing one entry, and nothing else.
-/
theorem caught_eq_ok {outcome : Except Raised Entry}
    (h : ∀ e, outcome = .error e → e.skips = true) : caught outcome = .ok outcome.toOption := by
  rcases outcome with e | entry
  · exact if_pos (h e rfl)
  · rfl

/-- The `try` of the loop. -/
theorem tryExcept_describe {directory name : PyStr} {t t' : Table}
    {outcome : Except Raised Entry} (h : os.describe directory name t = (outcome, t')) :
    tryExcept
      (do
        let entry ← os.describe directory name
        pure (some entry))
      Raised.skips (fun _ => pure none) t = (caught outcome, t') := by
  rcases outcome with e | entry
  · by_cases hskips : e.skips = true
    · rw [tryExcept_error (bind_error h) hskips, caught, if_pos hskips, pure_eq]
    · rw [tryExcept_raised (bind_error h) (Bool.eq_false_of_not_eq_true hskips), caught,
        if_neg hskips]
  · rw [tryExcept_ok (a := some entry) (by rw [bind_ok h, pure_eq]), caught]

/-- The `try` of the loop, where it continues. -/
theorem tryExcept_skips {directory name : PyStr} {t t' : Table} {outcome : Except Raised Entry}
    (h : os.describe directory name t = (outcome, t'))
    (hskips : ∀ e, outcome = .error e → e.skips = true) :
    tryExcept
      (do
        let entry ← os.describe directory name
        pure (some entry))
      Raised.skips (fun _ => pure none) t = (.ok outcome.toOption, t') := by
  rw [tryExcept_describe h, caught_eq_ok hskips]

/-- The names of a directory that are numbers, in the order of the listing. -/
def numeric (os : System) (names : List PyStr) : List ℤ := names.filterMap os.int

/-- The descriptors whose `fstat` succeeded. -/
def succeeded (events : List TableEvent) : List ℤ :=
  ((stats events).filter Prod.snd).map Prod.fst

/-- **The loop over names in range**: every number is asked about once, and those
are listed whose `fstat` succeeds. -/
theorem descriptors_eq {names : List PyStr} (hnames : ∀ name ∈ names, os.InRange name)
    (directory : PyStr) (t : Table) :
    ∃ entries events, os.descriptors directory names t = (.ok entries, after t events) ∧
      (∃ duplicated : List (ℤ × ℤ), duplicates events = duplicated.flatMap pair) ∧
      (stats events).map Prod.fst = os.numeric names ∧
      entries.map Entry.fd = succeeded events ∧
      ∀ entry ∈ entries, fdOf entry.json = some entry.fd := by
  induction names generalizing t with
  | nil => exact ⟨[], [], by simp [descriptors, pure_eq], ⟨[], rfl⟩, rfl, rfl, by simp⟩
  | cons name names ih =>
    obtain ⟨hname, hnames⟩ := List.forall_mem_cons.1 hnames
    obtain ⟨outcome, events, hdescribe, h⟩ := describe_eq hname directory t
    obtain ⟨entries, later, hlater, ⟨duplicated, hduplicated⟩, hstats, hfds, hentries⟩ :=
      ih hnames (after t events)
    have heq : os.descriptors directory (name :: names) t =
        (.ok (outcome.toOption.toList ++ entries), after t (events ++ later)) := by
      rw [descriptors, bind_ok (tryExcept_skips hdescribe h.skips), bind_ok hlater, pure_eq,
        after_after]
    refine ⟨_, _, heq, ?_⟩
    cases h with
    | notNumeric hint =>
      refine ⟨⟨duplicated, hduplicated⟩, ?_, hfds, hentries⟩
      rw [List.nil_append, hstats, numeric, numeric, List.filterMap_cons, hint]
    | @failed fd hint =>
      refine ⟨⟨duplicated, hduplicated⟩, ?_, hfds, hentries⟩
      rw [numeric, List.filterMap_cons, hint]
      exact congrArg (fd :: ·) hstats
    | @listed entry made hint hfd =>
      have hstats' : stats (.fstat entry.fd true :: made.flatMap pair ++ later) =
          (entry.fd, true) :: stats later := by
        rw [List.cons_append, stats_fstat, stats_append, stats_pairs, List.nil_append]
      have hduplicates' : duplicates (.fstat entry.fd true :: made.flatMap pair ++ later) =
          (made ++ duplicated).flatMap pair := by
        rw [List.cons_append, duplicates_fstat, duplicates_append, duplicates_pairs, hduplicated,
          List.flatMap_append]
      refine ⟨⟨_, hduplicates'⟩, ?_, ?_, List.forall_mem_cons.2 ⟨hfd, hentries⟩⟩
      · rw [hstats', numeric, List.filterMap_cons, hint]
        exact congrArg (entry.fd :: ·) hstats
      · rw [succeeded, hstats']
        exact congrArg (entry.fd :: ·) hfds

/-- The `dup` and `close` calls of asking about a name: none, or a pair. -/
theorem Described.duplicates {name : PyStr} {outcome : Except Raised Entry}
    {events : List TableEvent} (h : Described os name outcome events) :
    ∃ duplicated : List (ℤ × ℤ), System.duplicates events = duplicated.flatMap pair := by
  cases h with
  | notNumeric => exact ⟨[], rfl⟩
  | failed => exact ⟨[], rfl⟩
  | listed duplicated => exact ⟨duplicated, by rw [duplicates_fstat, duplicates_pairs]⟩

/-- **The loop over a name out of range** ends there; the descriptors it duplicated
before are closed. -/
theorem descriptors_overflow {names : List PyStr} (hnames : ∃ name ∈ names, ¬os.InRange name)
    (directory : PyStr) (t : Table) :
    ∃ events, os.descriptors directory names t = (.error .overflowError, after t events) ∧
      ∃ duplicated : List (ℤ × ℤ), duplicates events = duplicated.flatMap pair := by
  induction names generalizing t with
  | nil => simp at hnames
  | cons name names ih =>
    by_cases hname : os.InRange name
    · have hrest : ∃ name ∈ names, ¬os.InRange name := by
        obtain ⟨other, hmem, hother⟩ := hnames
        rcases List.mem_cons.1 hmem with rfl | hmem
        · exact absurd hname hother
        · exact ⟨other, hmem, hother⟩
      obtain ⟨outcome, events, hdescribe, h⟩ := describe_eq hname directory t
      obtain ⟨later, hlater, duplicated, hduplicated⟩ := ih hrest (after t events)
      obtain ⟨made, hmade⟩ := h.duplicates
      refine ⟨events ++ later, ?_, made ++ duplicated, ?_⟩
      · rw [descriptors, bind_ok (tryExcept_skips hdescribe h.skips), bind_error hlater,
          after_after]
      · rw [duplicates_append, hmade, hduplicated, List.flatMap_append]
    · rw [InRange, not_forall] at hname
      obtain ⟨fd, hfd⟩ := hname
      obtain ⟨hint, hfd⟩ := Classical.not_imp.1 hfd
      refine ⟨[], ?_, [], rfl⟩
      rw [descriptors, bind_error (tryExcept_describe (describe_overflow hint hfd directory t)),
        after_nil]

/-- What the snippet lists, of the directory it found: the numbers whose `fstat` succeeded,
in order, each of them asked about once. -/
structure Lists (os : System) (events : List TableEvent) (data : Json) : Prop where
  unsupported : os.fdDirectory = none → data = unsupported
  supported : ∀ directory, os.fdDirectory = some directory → ∃ names entries,
    os.listdir directory = .ok names ∧ data = listing directory entries ∧
    ∃ fds : List ℤ, entries.map fdOf = fds.map some ∧ fds.Pairwise (· ≤ ·) ∧
      fds.Perm (succeeded events) ∧ (stats events).map Prod.fst = os.numeric names

/-- The entries come in the order of their descriptors. -/
theorem insertionSort_fds (entries : List Entry) :
    let sorted := entries.insertionSort fun x y => x.fd ≤ y.fd
    sorted.Perm entries ∧ (sorted.map Entry.fd).Pairwise (· ≤ ·) := by
  let ascending (x y : Entry) : Prop := x.fd ≤ y.fd
  have : Std.Total ascending := ⟨fun x y => le_total x.fd y.fd⟩
  have : IsTrans Entry ascending := ⟨fun x y z => le_trans⟩
  exact ⟨List.perm_insertionSort ascending entries,
    List.pairwise_map.2 (List.pairwise_insertionSort ascending entries)⟩

/-- What the snippet comes to in a table, and the calls it makes there: the table is as
before, and the duplicates are all closed. -/
def Leaves (os : System) (t : Table) (outcome : Except Raised Json) (events : List TableEvent) :
    Prop :=
  os.collect t = (outcome, after t events) ∧
    ∃ duplicated : List (ℤ × ℤ), duplicates events = duplicated.flatMap pair

/-- A directory is found and listed, with these names. Otherwise no name is ever looked
at. -/
def Reads (os : System) (names : List PyStr) : Prop :=
  ∃ directory, os.fdDirectory = some directory ∧ os.listdir directory = .ok names

/-- A listing with a name out of range ends the snippet, with the `OverflowError` that name
raises. -/
theorem leaves_overflow {names : List PyStr} (hreads : os.Reads names)
    (hnames : ∃ name ∈ names, ¬os.InRange name) (t : Table) :
    ∃ events, os.Leaves t (.error .overflowError) events := by
  obtain ⟨directory, hdirectory, hlistdir⟩ := hreads
  obtain ⟨events, heq, hduplicates⟩ := descriptors_overflow hnames directory t
  refine ⟨events, ?_, hduplicates⟩
  rw [collect, hdirectory]
  dsimp only
  rw [hlistdir, lift_ok_bind, bind_error heq]

/-- Without a directory there is nothing to list. -/
theorem leaves_unsupported (hdirectory : os.fdDirectory = none) (t : Table) :
    os.Leaves t (.ok unsupported) [] := by
  refine ⟨?_, [], rfl⟩
  rw [collect, hdirectory, after_nil]
  rfl

/-- A directory that cannot be listed ends the snippet. -/
theorem leaves_unlisted {directory : PyStr} {e : Raised}
    (hdirectory : os.fdDirectory = some directory)
    (hlistdir : os.listdir directory = .error e) (t : Table) : os.Leaves t (.error e) [] := by
  refine ⟨?_, [], rfl⟩
  rw [collect, hdirectory, after_nil]
  dsimp only
  rw [hlistdir, lift_error_bind]

/-- A listing in range is gone through to its end, and the data is what `Lists` says. -/
theorem leaves_listed {directory : PyStr} {names : List PyStr}
    (hdirectory : os.fdDirectory = some directory) (hlistdir : os.listdir directory = .ok names)
    (hnames : ∀ name ∈ names, os.InRange name) (t : Table) :
    ∃ data events, os.Leaves t (.ok data) events ∧ Lists os events data := by
  obtain ⟨entries, events, heq, hduplicates, hstats, hfds, hentries⟩ :=
    descriptors_eq hnames directory t
  obtain ⟨hperm, hsorted⟩ := insertionSort_fds entries
  let sorted := entries.insertionSort fun x y => x.fd ≤ y.fd
  have hcollect : os.collect t =
      (.ok (listing directory (sorted.map Entry.json)), after t events) := by
    rw [collect, hdirectory]
    dsimp only
    rw [hlistdir, lift_ok_bind, bind_ok heq, pure_eq]
  refine ⟨_, events, ⟨hcollect, hduplicates⟩, fun hnone => ?_, ?_⟩
  · rw [hdirectory] at hnone
    cases hnone
  · rintro directory' hsome
    obtain rfl := Option.some.inj (hdirectory.symm.trans hsome)
    refine ⟨names, sorted.map Entry.json, hlistdir, rfl, sorted.map Entry.fd, ?_, hsorted, ?_,
      hstats⟩
    · rw [List.map_map, List.map_map]
      exact List.map_congr_left fun entry hentry => hentries entry (hperm.subset hentry)
    · rw [← hfds]
      exact hperm.map Entry.fd

/-- **The table is left as it was found**, whatever ends the snippet. -/
theorem collect_restores (os : System) (t : Table) :
    ∃ outcome events, os.Leaves t outcome events := by
  rcases hdirectory : os.fdDirectory with _ | directory
  · exact ⟨_, _, leaves_unsupported hdirectory t⟩
  rcases hlistdir : os.listdir directory with e | names
  · exact ⟨_, _, leaves_unlisted hdirectory hlistdir t⟩
  by_cases hnames : ∀ name ∈ names, os.InRange name
  · obtain ⟨data, events, hleaves, -⟩ := leaves_listed hdirectory hlistdir hnames t
    exact ⟨_, events, hleaves⟩
  · push Not at hnames
    exact ⟨_, leaves_overflow ⟨directory, hdirectory, hlistdir⟩ hnames t⟩

/-- The table is left as it was found, and a listing, or its absence, is accounted
for: the numbers among its names are asked about once each, and those whose `fstat`
succeeded are listed in their order, with their count. -/
def Accounts (os : System) (t : Table) : Prop :=
  ∃ outcome events, os.Leaves t outcome events ∧
    ((os.fdDirectory = none ∨ ∃ names, os.Reads names) →
      ∃ data, outcome = .ok data ∧ Lists os events data)

/-- A name out of range leaves the listing unaccounted for: there is no data, and the names
behind it are never asked about. -/
theorem not_accounts {names : List PyStr} (hreads : os.Reads names)
    (hnames : ∃ name ∈ names, ¬os.InRange name) (t : Table) : ¬os.Accounts t := by
  rintro ⟨outcome, events, ⟨hcollect, -⟩, hlists⟩
  obtain ⟨events', hcollect', -⟩ := leaves_overflow hreads hnames t
  obtain ⟨data, rfl, -⟩ := hlists (.inr ⟨names, hreads⟩)
  cases (Prod.mk.inj (hcollect.symm.trans hcollect')).1

/-- **The table is accounted for, unless a name is too large a number.**  For every
system and every table, and whatever each call comes to, the table is left as it was
found and its listing is accounted for if and only if each name of the listing that
reads as a number reads as one a C `int` holds. -/
theorem fds_table_accounted_iff (os : System) (t : Table) :
    os.Accounts t ↔
      ∀ names, os.Reads names → ∀ name ∈ names, ∀ fd, os.int name = some fd → InCInt fd := by
  constructor
  · intro h names hreads name hname
    by_contra hrange
    exact not_accounts hreads ⟨name, hname, hrange⟩ t h
  · intro h
    rcases hdirectory : os.fdDirectory with _ | directory
    · refine ⟨_, _, leaves_unsupported hdirectory t, fun _ => ⟨_, rfl, fun _ => rfl, ?_⟩⟩
      rintro directory hsome
      cases hdirectory.symm.trans hsome
    rcases hlistdir : os.listdir directory with e | names
    · refine ⟨_, _, leaves_unlisted hdirectory hlistdir t, fun hlisting => ?_⟩
      rcases hlisting with hnone | ⟨names, directory', hsome, hnames⟩
      · cases hdirectory.symm.trans hnone
      · obtain rfl := Option.some.inj (hdirectory.symm.trans hsome)
        cases hlistdir.symm.trans hnames
    obtain ⟨data, events, hleaves, hlists⟩ :=
      leaves_listed hdirectory hlistdir (h names ⟨directory, hdirectory, hlistdir⟩) t
    exact ⟨_, events, hleaves, fun _ => ⟨data, rfl, hlists⟩⟩

/-! ## The collector without its table -/

/-- A lookup that returns a value, or raises `OSError`. -/
def lookup (value : Option Json) : Except Raised Json :=
  match value with
  | some v => .ok v
  | none => .error .osError

/-- A socket object that reads as this view: what the simpler model knows of it. -/
def ofView (view : SocketView) : SocketObject where
  familyName := view.familyName
  familyText := view.familyText
  typeName := view.typeName
  typeText := view.typeText
  sockname := lookup view.sockname
  peername := lookup view.peername

/-- There is a number no open descriptor has. -/
theorem exists_notMem (opened : Finset ℤ) : ∃ n : ℕ, (n : ℤ) ∉ opened := by
  obtain ⟨n, hn⟩ := Infinite.exists_notMem_finset (opened.image Int.toNat)
  exact ⟨n, fun hmem => hn (Finset.mem_image.2 ⟨n, hmem, Int.toNat_natCast n⟩)⟩

/-- A system that answers as a world does, whatever was called before; a duplicate
is the lowest descriptor that is not open, and its socket that of the descriptor it
was made of. -/
def ofWorld (w : World) : System where
  platform := w.platform
  isdir := w.isdir
  listdir directory := .ok (w.listdir directory)
  int := w.int
  fstat _ := w.fstat
  readlink _ := w.readlink
  isatty _ := w.isatty
  hasSoDomain := w.hasSoDomain
  hasDefaultTimeout _ := w.hasDefaultTimeout
  dup t _ := some (Nat.find (exists_notMem t.opened) : ℕ)
  socket history _ :=
    match history.getLast? with
    | some (.dup fd _) => (w.wrapped fd).map ofView
    | _ => none
  dup_fresh t _ _ h := Option.some.inj h ▸ Nat.find_spec (exists_notMem t.opened)

variable {w : World}

/-- The entry of a socket, made of what the system answers about it. -/
theorem socketEntry_ofView (view : SocketView) : socketEntry (ofView view) =
    .ok (.obj [(py "family", .str (nameOr view.familyName view.familyText)),
      (py "type", .str (nameOr view.typeName view.typeText)),
      (py "laddr", view.sockname.getD .null), (py "raddr", view.peername.getD .null)]) := by
  have haddress : ∀ value, address (lookup value) = .ok (value.getD .null) := by
    rintro (_ | v) <;> rfl
  rw [socketEntry, ofView, haddress, haddress]
  rfl

/-- Where the system answers as the model without a table says, so does `socket_details`.
-/
theorem socketDetails_ofWorld (w : World) (fd : ℤ) (t : Table) :
    ∃ t', (ofWorld w).socketDetails fd t = (.ok (Fds.socketDetails w fd), t') := by
  have hdomain : (ofWorld w).hasSoDomain = w.hasSoDomain := rfl
  have htimeout : (ofWorld w).hasDefaultTimeout t.log = w.hasDefaultTimeout := rfl
  unfold socketDetails Fds.socketDetails
  rw [observe_bind, hdomain, htimeout]
  split_ifs
  · exact ⟨t, rfl⟩
  obtain ⟨duplicate, hdup⟩ : ∃ duplicate, (ofWorld w).dup t fd = some duplicate := ⟨_, rfl⟩
  have hcall : (ofWorld w).dupCall fd t = (.ok duplicate, opened fd duplicate t) := by
    rw [dupCall, hdup]
  have hsocket : (ofWorld w).socket (opened fd duplicate t).log duplicate =
      (w.wrapped fd).map ofView := by simp [ofWorld, opened]
  rw [tryElse_ok hcall]
  rcases hview : w.wrapped fd with _ | view <;> rw [hview] at hsocket
  · have hcall : (ofWorld w).socketCall duplicate (opened fd duplicate t) =
        (.error .exception, opened fd duplicate t) := by
      rw [socketCall, hsocket]
      rfl
    exact ⟨_, by rw [tryElse_error hcall rfl, modify_bind, pure_eq]⟩
  · have hcall : (ofWorld w).socketCall duplicate (opened fd duplicate t) =
        (.ok (ofView view), opened fd duplicate t) := by
      rw [socketCall, hsocket]
      rfl
    refine ⟨close duplicate (opened fd duplicate t), ?_⟩
    rw [tryElse_ok hcall, Call.tryFinally, socketEntry_ofView, tryExcept_ok (lift_eq _ _)]

/-- Where the system answers as the model without a table says, so does `describe`, the
`OverflowError` of a large number included. -/
theorem describe_ofWorld (w : World) (directory name : PyStr) (t : Table) :
    ∃ outcome t', (ofWorld w).describe directory name t = (outcome, t') ∧
      caught outcome = Fds.describe Raised.overflowError w directory name := by
  have hint : (ofWorld w).int = w.int := rfl
  unfold Fds.describe
  rcases hw : w.int name with _ | fd
  · refine ⟨.error .valueError, t, ?_, rfl⟩
    rw [describe, hint, hw, lift_error_bind]
  by_cases hfd : InCInt fd
  swap
  · refine ⟨_, t, describe_overflow (by rw [hint, hw]) hfd directory t, ?_⟩
    dsimp only
    rw [if_neg hfd]
    rfl
  dsimp only
  rw [describe, hint, hw, if_pos hfd, lift_ok_bind]
  rcases hstat : w.fstat fd with _ | info
  · have hcall : (ofWorld w).fstatCall fd t = (.error .osError, after t [.fstat fd false]) := by
      simp only [fstatCall, ofWorld, hstat, if_pos hfd]
      rfl
    exact ⟨_, _, bind_error hcall, rfl⟩
  · have hcall : (ofWorld w).fstatCall fd t = (.ok info, after t [.fstat fd true]) := by
      simp only [fstatCall, ofWorld, hstat, if_pos hfd]
      rfl
    rw [bind_ok hcall]
    simp only [observe_bind]
    obtain ⟨details, t', hdetails, hsocket⟩ : ∃ details t',
        (if (Dict.get? (formatOf info.mode) kindByFormat).getD (py "unknown") = py "socket" then
            (ofWorld w).socketDetails fd else pure .null) (after t [.fstat fd true]) =
          (.ok details, t') ∧
        ((Dict.get? (formatOf info.mode) kindByFormat).getD (py "unknown") = py "socket" →
          details = Fds.socketDetails w fd) := by
      split_ifs
      · obtain ⟨t', h⟩ := socketDetails_ofWorld w fd (after t [.fstat fd true])
        exact ⟨_, t', h, fun _ => rfl⟩
      · exact ⟨.null, _, pure_eq _ _, fun h => absurd h ‹_›⟩
    refine ⟨_, t', bind_ok hdetails, ?_⟩
    rw [caught, Option.map_some, entryOf]
    by_cases hkind : (Dict.get? (formatOf info.mode) kindByFormat).getD (py "unknown") = py "socket"
    · rw [if_pos hkind, if_pos hkind, hsocket hkind]
      rfl
    · rw [if_neg hkind, if_neg hkind]
      rfl

/-- The loop over the names lists what the model without a table lists, and ends with the
same exception where it ends with one. -/
theorem descriptors_ofWorld (w : World) (directory : PyStr) (names : List PyStr) (t : Table) :
    ∃ t', (ofWorld w).descriptors directory names t =
      ((names.mapM (Fds.describe Raised.overflowError w directory)).map List.reduceOption, t') := by
  induction names generalizing t with
  | nil => exact ⟨t, rfl⟩
  | cons name names ih =>
    obtain ⟨outcome, t₁, hdescribe, hcaught⟩ := describe_ofWorld w directory name t
    have htry := tryExcept_describe hdescribe
    rw [hcaught] at htry
    rw [descriptors, List.mapM_cons]
    rcases hname : Fds.describe Raised.overflowError w directory name with e | entry <;>
      rw [hname] at htry
    · exact ⟨t₁, bind_error htry⟩
    obtain ⟨t₂, hrest⟩ := ih t₁
    rw [bind_ok htry, ok_bind]
    rcases hmap : names.mapM (Fds.describe Raised.overflowError w directory) with e | entries
    · rw [hmap] at hrest
      exact ⟨t₂, bind_error hrest⟩
    · rw [hmap] at hrest
      refine ⟨t₂, ?_⟩
      rw [bind_ok hrest, pure_eq]
      cases entry <;> rfl

/-- **The outcome is that of the model without a table**, for a system whose answers do not
change. -/
theorem collect_ofWorld (w : World) (t : Table) :
    ((ofWorld w).collect t).1 = fdsData .overflowError w := by
  have hdirectory : (ofWorld w).fdDirectory = Fds.fdDirectory w := rfl
  unfold collect fdsData
  rw [hdirectory]
  rcases Fds.fdDirectory w with _ | directory
  · rfl
  · obtain ⟨t', h⟩ := descriptors_ofWorld w directory (w.listdir directory) t
    have hlistdir : (ofWorld w).listdir directory = .ok (w.listdir directory) := rfl
    dsimp only
    rw [hlistdir, lift_ok_bind]
    rcases hmap : (w.listdir directory).mapM (Fds.describe Raised.overflowError w directory) with
      e | entries
    · rw [hmap] at h
      rw [bind_error h]
      rfl
    · rw [hmap] at h
      rw [bind_ok h, pure_eq, listing, List.length_map]
      rfl

end System

/-! ## A name that is too large -/

/-- A directory of the descriptors 0 and 1, with a file of another name between
them. -/
def oddDirectory : System where
  platform := py "linux"
  isdir path := path = linuxFdDir
  listdir _ := .ok [py "0", py "2147483648", py "1"]
  int name :=
    if name = py "0" then some 0 else if name = py "1" then some 1 else some 2147483648
  fstat _ fd := if 0 ≤ fd ∧ fd ≤ 1 then some ⟨0o020620, 3, 0⟩ else none
  readlink _ _ := some (py "/dev/pts/0")
  isatty _ _ := true
  hasSoDomain := true
  hasDefaultTimeout _ := false
  dup _ _ := none
  socket _ _ := none
  dup_fresh _ _ _ h := nomatch h

/-- Neither 0 nor 1 is listed: the name between them is a number beyond a C `int`. -/
theorem odd_directory_not_accounted : ¬oddDirectory.Accounts ⟨{0, 1, 2}, []⟩ := by
  have hreads : oddDirectory.Reads [py "0", py "2147483648", py "1"] :=
    ⟨linuxFdDir, by decide, rfl⟩
  have hint : oddDirectory.int (py "2147483648") = some 2147483648 := by decide
  refine System.not_accounts hreads ⟨py "2147483648", by simp, fun hrange => ?_⟩ _
  exact absurd (hrange _ hint) (by decide)

end Fds
end Pidprobe
