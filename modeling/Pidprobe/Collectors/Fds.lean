/-
# The descriptor table

The snippet of `collectors/_fds.py`: a directory is listed, each name that is a
number is asked about as a descriptor, and what is no descriptor any more drops
out.  A number no C `int` holds ends the snippet: `os.fstat` raises `OverflowError`
for it, and the loop continues after `ValueError` and `OSError` only.
-/

import Mathlib.Data.List.ReduceOption
import Mathlib.Data.List.Sort
import Pidprobe.Lib.PyValue
import Pidprobe.Lib.Raises

namespace Pidprobe
namespace Fds

/-- `LINUX_FD_DIR`. -/
def linuxFdDir : PyStr := py "/proc/self/fd"

/-- `BSD_FD_DIR`. -/
def bsdFdDir : PyStr := py "/dev/fd"

/-- `stat.S_IFMT`, the file type bits of a mode. -/
def formatOf (mode : ℕ) : ℕ := mode &&& 0o170000

/-- `KIND_BY_FORMAT`; a format that is not listed is `"unknown"`. -/
def kindByFormat : List (ℕ × PyStr) :=
  [(0o140000, py "socket"), (0o010000, py "fifo"), (0o100000, py "file"),
    (0o040000, py "directory"), (0o020000, py "char"), (0o060000, py "block"),
    (0o120000, py "symlink")]

/-- What the collector reads of `os.fstat`. -/
structure Stat where
  mode : ℕ
  ino : ℕ
  size : ℕ

/-- What the collector reads of a socket object. -/
structure SocketView where
  /-- `sock.family.name`, and the text of a family without a name. -/
  familyName : Option PyStr
  familyText : PyStr
  typeName : Option PyStr
  typeText : PyStr
  /-- `getsockname` and `getpeername` as `address` returns them; `none` is
  `OSError`. -/
  sockname : Option Json
  peername : Option Json

/-- What the collector reads of the target, for a table that the reading itself does not
change. `Collectors/Descriptors` has the calls. -/
structure World where
  platform : PyStr
  isdir : PyStr → Bool
  listdir : PyStr → List PyStr
  /-- `int(name)`; `none` is `ValueError`. -/
  int : PyStr → Option ℤ
  /-- `os.fstat` of a C `int`; `none` is `OSError`. -/
  fstat : ℤ → Option Stat
  /-- `os.readlink`; `none` is `OSError`. -/
  readlink : PyStr → Option PyStr
  isatty : ℤ → Bool
  /-- `hasattr(socket, "SO_DOMAIN")`. -/
  hasSoDomain : Bool
  /-- `socket.getdefaulttimeout() is not None`. -/
  hasDefaultTimeout : Bool
  /-- The socket on a duplicate of the descriptor, where it can be made and read. -/
  wrapped : ℤ → Option SocketView
  /-- A negative number is no descriptor. -/
  fstat_neg : ∀ fd < 0, fstat fd = none

/-- `fd_directory`: the table of Linux where the platform is Linux and has it, the BSD one
where that exists. -/
def fdDirectory (w : World) : Option PyStr :=
  if (py "linux").isPrefixOf w.platform && w.isdir linuxFdDir then some linuxFdDir
  else if w.isdir bsdFdDir then some bsdFdDir
  else none

/-- `getattr(value, "name", None) or str(value)`: an empty name counts as none. -/
def nameOr (name : Option PyStr) (text : PyStr) : PyStr :=
  match name with
  | some (c :: t) => c :: t
  | _ => text

/-- `socket_details`: nothing where the address family cannot be detected, a default timeout
is set, or wrapping fails. -/
def socketDetails (w : World) (fd : ℤ) : Json :=
  if !w.hasSoDomain || w.hasDefaultTimeout then .null
  else
    match w.wrapped fd with
    | none => .null
    | some sock =>
      .obj [(py "family", .str (nameOr sock.familyName sock.familyText)),
        (py "type", .str (nameOr sock.typeName sock.typeText)),
        (py "laddr", sock.sockname.getD .null), (py "raddr", sock.peername.getD .null)]

/-- An entry of `descriptors`, with the `fd` it is sorted by. -/
structure Entry where
  fd : ℤ
  json : Json

/-- The dictionary of a descriptor: five members, a size for a file, and the details of a
socket. -/
def entryOf (w : World) (directory name : PyStr) (fd : ℤ) (info : Stat) : Entry :=
  let kind := (Dict.get? (formatOf info.mode) kindByFormat).getD (py "unknown")
  let target := w.readlink (directory ++ py "/" ++ name)
  ⟨fd, .obj ([(py "fd", .int fd), (py "kind", .str kind),
    (py "target", target.elim .null .str), (py "inode", .int info.ino),
    (py "is_tty", .bool (w.isatty fd))] ++
      (if kind = py "file" then [(py "size", .int info.size)] else []) ++
      (if kind = py "socket" then [(py "socket", socketDetails w fd)] else []))⟩

section

variable {ε : Type} (overflow : ε)

/-- `describe`; `none` is an exception the loop continues after, and `overflow` the
one it does not, the `OverflowError` of `os.fstat`. -/
def describe (w : World) (directory name : PyStr) : Except ε (Option Entry) :=
  match w.int name with
  | none => .ok none
  | some fd =>
    if InCInt fd then .ok ((w.fstat fd).map (entryOf w directory name fd)) else .error overflow

/-- `data`. The names are those `os.listdir` found; a name that cannot be described drops
out, unless what is raised is not caught. -/
def fdsData (w : World) : Except ε Json :=
  match fdDirectory w with
  | none =>
    .ok (.obj [(py "supported", .bool false), (py "source", .null), (py "count", .int 0),
      (py "descriptors", .arr [])])
  | some directory => do
    let described ← (w.listdir directory).mapM (describe overflow w directory)
    let descriptors := described.reduceOption.insertionSort fun x y => x.fd ≤ y.fd
    .ok (.obj [(py "supported", .bool true), (py "source", .str directory),
      (py "count", .int descriptors.length),
      (py "descriptors", .arr (descriptors.map Entry.json))])

variable {overflow}

/-- **An entry of the table** is about a number that is not negative, and of one
of the kinds. -/
theorem describe_eq_some {w : World} {directory name : PyStr} {entry : Entry}
    (h : describe overflow w directory name = .ok (some entry)) :
    ∃ fd ino size kind target, 0 ≤ fd ∧ kind ∈ kindByFormat.map Prod.snd ++ [py "unknown"] ∧
      entry = ⟨fd, .obj ([(py "fd", .int fd), (py "kind", .str kind),
        (py "target", Option.elim target .null .str), (py "inode", .int ino),
        (py "is_tty", .bool (w.isatty fd))] ++
          (if kind = py "file" then [(py "size", .int size)] else []) ++
          (if kind = py "socket" then [(py "socket", socketDetails w fd)] else []))⟩ := by
  unfold describe at h
  split at h
  · cases h
  · next fd _ =>
    split_ifs at h
    obtain ⟨info, hinfo, rfl⟩ := Option.map_eq_some_iff.1 (Except.ok.inj h)
    have hfd : 0 ≤ fd := by
      by_contra hneg
      rw [w.fstat_neg fd (not_le.1 hneg)] at hinfo
      cases hinfo
    have hkind : (Dict.get? (formatOf info.mode) kindByFormat).getD (py "unknown") ∈
        kindByFormat.map Prod.snd ++ [py "unknown"] := by
      cases hget : Dict.get? (formatOf info.mode) kindByFormat with
      | none => exact List.mem_append_right _ (List.mem_singleton_self _)
      | some kind =>
        exact List.mem_append_left _ (List.mem_map_of_mem (f := Prod.snd) (Dict.mem_of_get? hget))
    exact ⟨fd, info.ino, info.size, _, _, hfd, hkind, rfl⟩

/-- The entries of a table are those of the names of its directory, or there is no
directory. -/
theorem fdsData_eq_ok {w : World} {data : Json} (h : fdsData overflow w = .ok data) :
    data = .obj [(py "supported", .bool false), (py "source", .null), (py "count", .int 0),
      (py "descriptors", .arr [])] ∨
    ∃ directory, ∃ descriptors : List Entry, data =
        .obj [(py "supported", .bool true), (py "source", .str directory),
          (py "count", .int descriptors.length),
          (py "descriptors", .arr (descriptors.map Entry.json))] ∧
      ∀ entry ∈ descriptors, ∃ name, describe overflow w directory name = .ok (some entry) := by
  unfold fdsData at h
  split at h
  · exact .inl (Except.ok.inj h).symm
  · next directory _ =>
    obtain ⟨described, hdescribed, h⟩ := bind_eq_ok.1 h
    refine .inr ⟨directory, _, (Except.ok.inj h).symm, fun entry hentry => ?_⟩
    rw [List.mem_insertionSort, List.reduceOption_mem_iff] at hentry
    obtain ⟨name, -, hname⟩ := exists_of_forall₂ (mapM_eq_ok.1 hdescribed).flip hentry
    exact ⟨name, hname⟩

end

end Fds
end Pidprobe
