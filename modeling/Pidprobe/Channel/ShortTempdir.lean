/-
# The directory of the socket

`_short_tempdir` of `_channel.py`: the temporary directory of the machine, or `/tmp`,
whichever first leaves room for the path of a socket.  Room is measured on a path
with eight characters in place of what `mkdtemp` will add.

`short_tempdir_exact` says that the path that is bound does fit, and when there is
none: only where `/tmp` is no directory is the name too long, and only a temporary
directory whose name is no text ends the probe, since `open_channel` falls back for
an `OSError` alone.
-/

import Pidprobe.Channel.Execute
import Pidprobe.Lib.PurePath
import Pidprobe.Lib.Raises
import Pidprobe.Lib.Utf8

namespace Pidprobe
namespace ShortTempdir

/-- `_MAX_SUN_PATH_BYTES`: the stricter of the two platforms' limits on the path of a
socket, its terminator included. -/
def maxSunPathBytes : ℕ := 104

/-- `_TEMPDIR_PREFIX`. -/
def tempdirPrefix : PyStr := py "pidprobe-"

/-- `_MKDTEMP_SUFFIX_BYTES`: how many characters `mkdtemp` adds to the prefix. -/
def mkdtempSuffixBytes : ℕ := 8

/-- `_SOCKET_FILENAME`. -/
def socketFilename : PyStr := py "s.sock"

/-- What `_short_tempdir` reads of the machine; `ε` is what `mkdtemp` raises. -/
structure Machine (ε : Type) where
  /-- `tempfile.gettempdir()`. -/
  gettempdir : PyStr
  /-- `Path(base).is_dir()`. -/
  isDir : PyStr → Bool
  /-- `tempfile.mkdtemp(prefix=_TEMPDIR_PREFIX, dir=base)`. -/
  mkdtemp : PyStr → Except ε PyStr

/-- What `_short_tempdir` raises: its own error, that of the encoding, or what `mkdtemp`
raises. -/
inductive Failure (ε : Type)
  /-- `OSError(errno.ENAMETOOLONG, message)`. -/
  | nameTooLong
  /-- `UnicodeEncodeError`. -/
  | unicodeEncode
  | mkdtemp (exc : ε)

/-- `projected`: the path of the socket in a directory that `mkdtemp` has yet to name, with
`x` for every character it adds. -/
def projected (base : PyStr) : PyStr :=
  (((PurePath.parse base).child
    (tempdirPrefix ++ List.replicate mkdtempSuffixBytes (cp 'x'))).child socketFilename).text

/-- `str(self._path)`: the path of the socket in the directory that was made. -/
def socketPath (directory : PyStr) : PyStr :=
  ((PurePath.parse directory).child socketFilename).text

variable {ε : Type} (m : Machine ε)

/-- The loop over the bases that are left: one that was seen or is no directory is passed
over, and one that is too long. -/
def searchFrom (seen : List PyStr) : List PyStr → Except (Failure ε) PyStr
  | [] => .error .nameTooLong
  | base :: bases =>
    if base ∈ seen ∨ ¬m.isDir base then searchFrom seen bases
    else
      match Utf8.encode (projected base) with
      | none => .error .unicodeEncode
      | some bytes =>
        if bytes.length < maxSunPathBytes then (m.mkdtemp base).mapError .mkdtemp
        else searchFrom (base :: seen) bases

/-- `_short_tempdir`: the temporary directory is tried first, and `/tmp` after it. -/
def shortTempdir : Except (Failure ε) PyStr := searchFrom m [] [m.gettempdir, py "/tmp"]

/-- `mkdtemp` makes a directory of the base, and its name is the prefix with eight
characters out of letters, digits and `_`. -/
def Machine.Names : Prop :=
  ∀ base ∈ [m.gettempdir, py "/tmp"], ∀ directory, m.mkdtemp base = .ok directory →
    ∃ suffix : PyStr, suffix.length = mkdtempSuffixBytes ∧ (∀ c ∈ suffix, IsAscii c) ∧
      PurePath.parse directory = (PurePath.parse base).child (tempdirPrefix ++ suffix)

/-- `isinstance(exc, OSError)`: the search's own error is one, that of the encoding is a
`ValueError`, and `mkdtemp`'s may be any. -/
def Failure.isOSError (isOSError : ε → Bool) : Failure ε → Bool
  | nameTooLong => true
  | unicodeEncode => false
  | mkdtemp exc => isOSError exc

/-- A probe on this machine, `AF_UNIX` included: `open_channel` fails for want of a
directory where the search does. -/
structure Machine.Runs {δ κ ρ : Type} (f : Execute.Faults (Failure ε) δ κ ρ) : Prop where
  hasAfUnix : f.hasAfUnix = true
  isOSError : ∃ isOSError, f.isOSError = Failure.isOSError isOSError
  socketDirFails : ∀ e, f.socketDirFails = some e ↔ shortTempdir m = .error e

/-! ## How long a path is -/

/-- The length of an encoded path with an ASCII name in place of `projected`'s: that of the
base, the name and `s.sock`. -/
theorem length_encode_child {path : PurePath} {bytes : List Byte}
    (h : Utf8.encode path.front = some bytes) {name : PyStr} (hname : ∀ c ∈ name, IsAscii c) :
    ∃ encoded, Utf8.encode ((path.child name).child socketFilename).text = some encoded ∧
      encoded.length = bytes.length + name.length + 7 := by
  have hrest : Utf8.encode ([PurePath.sep] ++ socketFilename) = some _ :=
    Utf8.encode_ascii (ascii_py (by decide) : ∀ c ∈ py "/s.sock", IsAscii c)
  have htext : ((path.child name).child socketFilename).text =
      path.front ++ (name ++ ([PurePath.sep] ++ socketFilename)) := by
    rw [PurePath.text_child, PurePath.front_child]
    simp
  rw [htext]
  refine ⟨_, Utf8.encode_append h (Utf8.encode_append (Utf8.encode_ascii hname) hrest), ?_⟩
  simp [socketFilename, Nat.add_assoc]
  rfl

/-- The name a directory is projected to have is ASCII. -/
theorem ascii_projectedName :
    ∀ c ∈ tempdirPrefix ++ List.replicate mkdtempSuffixBytes (cp 'x'), IsAscii c :=
  (ascii_py (by decide) : ∀ c ∈ py "pidprobe-xxxxxxxx", IsAscii c)

variable {m} {base directory : PyStr}

/-- The projected path of the socket is the base with the name of a directory behind it,
and the file in that directory. -/
theorem projected_eq (base : PyStr) :
    projected base = (PurePath.parse base).front ++
      (tempdirPrefix ++ List.replicate mkdtempSuffixBytes (cp 'x') ++ [PurePath.sep] ++
        socketFilename) := by
  rw [projected, PurePath.text_child, PurePath.front_child]
  simp

/-- No ASCII character is half of a surrogate pair. -/
theorem not_isSurrogate_of_ascii {c : CodePoint} (h : IsAscii c) : ¬Utf8.IsSurrogate c := by
  unfold IsAscii at h
  unfold Utf8.IsSurrogate
  omega

/-- A surrogate is in the projected path where it is in the base: what is added to it is
ASCII. -/
theorem encode_projected_eq_none :
    Utf8.encode (projected base) = none ↔ ∃ c ∈ base, Utf8.IsSurrogate c := by
  have hascii : ∀ c ∈ tempdirPrefix ++ List.replicate mkdtempSuffixBytes (cp 'x') ++
      [PurePath.sep] ++ socketFilename, IsAscii c :=
    (ascii_py (by decide) : ∀ c ∈ py "pidprobe-xxxxxxxx/s.sock", IsAscii c)
  rw [Utf8.encode_eq_none]
  refine exists_congr fun c => and_congr_left fun hc => ?_
  have hplain : ∀ d, ¬Utf8.IsSurrogate d → c ≠ d := by
    rintro d hd rfl
    exact hd hc
  rw [projected_eq, List.mem_append, or_iff_left fun h => not_isSurrogate_of_ascii (hascii c h) hc]
  exact PurePath.mem_front_parse (hplain _ (by decide)) (hplain _ (by decide))

/-- The directory `mkdtemp` makes of a base leaves the path as long as projected. -/
theorem length_socketPath (hnames : m.Names) (hbase : base ∈ [m.gettempdir, py "/tmp"])
    (h : m.mkdtemp base = .ok directory) {bytes : List Byte}
    (hbytes : Utf8.encode (projected base) = some bytes) :
    ∃ encoded, Utf8.encode (socketPath directory) = some encoded ∧
      encoded.length = bytes.length := by
  obtain ⟨suffix, hlen, hascii, hparse⟩ := hnames base hbase directory h
  have hfixed : ∀ c ∈ tempdirPrefix, IsAscii c := ascii_py (by decide)
  rcases hfront : Utf8.encode (PurePath.parse base).front with _ | front
  · obtain ⟨c, hc, hsurrogate⟩ := Utf8.encode_eq_none.1 hfront
    have hnone : Utf8.encode (projected base) = none := by
      rw [projected_eq, Utf8.encode_eq_none]
      exact ⟨c, List.mem_append_left _ hc, hsurrogate⟩
    cases hnone.symm.trans hbytes
  · obtain ⟨encoded, hencoded, hl⟩ :=
      length_encode_child hfront (List.forall_mem_append.2 ⟨hfixed, hascii⟩)
    obtain ⟨bytes', hbytes', hl'⟩ := length_encode_child hfront ascii_projectedName
    obtain rfl := Option.some.inj (hbytes.symm.trans hbytes')
    refine ⟨encoded, by rw [socketPath, hparse, hencoded], ?_⟩
    rw [hl, hl', List.length_append, List.length_append, hlen, List.length_replicate]

/-! ## The two bases -/

/-- A base the search passes over: a directory with a name too long, or no directory at
all. -/
def Machine.Unusable (m : Machine ε) (base : PyStr) : Prop :=
  m.isDir base = true → ∃ bytes, Utf8.encode (projected base) = some bytes ∧
    maxSunPathBytes ≤ bytes.length

/-- `/tmp` leaves room, so it is taken where it is a directory, and else there is no base
left. -/
theorem searchFrom_tmp {seen : List PyStr} (hseen : py "/tmp" ∉ seen) :
    searchFrom m seen [py "/tmp"] =
      if m.isDir (py "/tmp") then (m.mkdtemp (py "/tmp")).mapError .mkdtemp
      else .error .nameTooLong := by
  have hbytes : Utf8.encode (projected (py "/tmp")) = some _ := rfl
  rw [searchFrom]
  by_cases hdir : m.isDir (py "/tmp") = true
  · simp only [hseen, hdir, hbytes, not_true, or_self, if_true, if_false]
    exact if_pos (by decide)
  · rw [if_pos (.inr hdir), if_neg hdir]
    rfl

/-- **What `_short_tempdir` comes to**: the temporary directory of the machine is
refused, taken, or passed over for `/tmp`. -/
theorem shortTempdir_cases (m : Machine ε) :
    (m.isDir m.gettempdir = true ∧ Utf8.encode (projected m.gettempdir) = none ∧
      shortTempdir m = .error .unicodeEncode) ∨
    (∃ bytes, m.isDir m.gettempdir = true ∧ Utf8.encode (projected m.gettempdir) = some bytes ∧
      bytes.length < maxSunPathBytes ∧
      shortTempdir m = (m.mkdtemp m.gettempdir).mapError .mkdtemp) ∨
    (m.Unusable m.gettempdir ∧ shortTempdir m =
      if m.isDir (py "/tmp") then (m.mkdtemp (py "/tmp")).mapError .mkdtemp
      else .error .nameTooLong) := by
  rw [shortTempdir, searchFrom]
  by_cases hdir : m.isDir m.gettempdir = true
  swap
  · rw [if_pos (.inr hdir), searchFrom_tmp List.not_mem_nil]
    exact .inr (.inr ⟨fun h => absurd h hdir, rfl⟩)
  rw [if_neg (by simp [hdir])]
  rcases hbytes : Utf8.encode (projected m.gettempdir) with _ | bytes
  · exact .inl ⟨hdir, rfl, rfl⟩
  by_cases hlt : bytes.length < maxSunPathBytes
  · exact .inr (.inl ⟨bytes, hdir, rfl, hlt, if_pos hlt⟩)
  · -- `/tmp` is not the base that was too long, since it is not
    have hseen : py "/tmp" ∉ [m.gettempdir] := by
      intro h
      have htmp : Utf8.encode (projected (py "/tmp")) = some _ := rfl
      rw [← List.mem_singleton.1 h, htmp] at hbytes
      exact hlt (Option.some.inj hbytes ▸ by decide)
    refine .inr (.inr ⟨fun _ => ⟨bytes, hbytes, not_lt.1 hlt⟩, ?_⟩)
    exact (if_neg hlt).trans (searchFrom_tmp hseen)

/-- Without a directory `open_channel` takes the file, or raises what is no `OSError`. -/
theorem openChannel_of_error {δ κ ρ : Type} [DecidableEq δ] [DecidableEq κ]
    {f : Execute.Faults (Failure ε) δ κ ρ} (hruns : m.Runs f) {e : Failure ε}
    (h : shortTempdir m = .error e) (s : Execute.Resources δ κ) :
    Execute.openChannel f true s =
      if f.isOSError e then Execute.tempFileChannel f s else (.error e, s) := by
  have hdir : Execute.makeDir f f.socketDirFails s = (.error e, s) :=
    Execute.makeDir_some f ((hruns.socketDirFails e).2 h)
  have hchannel : Execute.unixSocketChannel f s = (.error e, s) := by
    rw [Execute.unixSocketChannel, if_pos hruns.hasAfUnix]
    exact Call.bind_error hdir
  rw [Execute.openChannel, if_pos rfl, Call.tryExcept, hchannel]

/-- **The directory of the socket, exactly.**  Whatever the machine has for a temporary
directory: the path that is bound fits a socket address with its terminator; there is
no directory for its name exactly where `/tmp` is none and the temporary directory is
none or leaves no room; a path is refused as no text exactly where the temporary
directory is one whose name has a surrogate.  In the first case `open_channel` takes
the file, in the second it raises the `UnicodeEncodeError`. -/
theorem short_tempdir_exact (hnames : m.Names) :
    (∀ directory, shortTempdir m = .ok directory → ∃ encoded,
      Utf8.encode (socketPath directory) = some encoded ∧ encoded.length + 1 ≤ maxSunPathBytes) ∧
    (shortTempdir m = .error .nameTooLong ↔
      m.Unusable m.gettempdir ∧ m.isDir (py "/tmp") = false) ∧
    (shortTempdir m = .error .unicodeEncode ↔
      m.isDir m.gettempdir = true ∧ ∃ c ∈ m.gettempdir, Utf8.IsSurrogate c) ∧
    ∀ {δ κ ρ : Type} [DecidableEq δ] [DecidableEq κ] {f : Execute.Faults (Failure ε) δ κ ρ},
      m.Runs f → ∀ s,
        (shortTempdir m = .error .nameTooLong →
          Execute.openChannel f true s = Execute.tempFileChannel f s) ∧
        (shortTempdir m = .error .unicodeEncode →
          Execute.openChannel f true s = (.error .unicodeEncode, s)) := by
  rw [← and_assoc, ← and_assoc]
  refine ⟨?_, fun hruns s => ?_⟩
  swap
  · obtain ⟨isOSError, hos⟩ := hruns.isOSError
    constructor
    · intro h
      rw [openChannel_of_error hruns h, hos]
      rfl
    · intro h
      rw [openChannel_of_error hruns h, hos]
      rfl
  rw [and_assoc]
  have hfits : ∀ {base directory bytes}, base ∈ [m.gettempdir, py "/tmp"] →
      Utf8.encode (projected base) = some bytes → bytes.length < maxSunPathBytes →
      (m.mkdtemp base).mapError Failure.mkdtemp = .ok directory → ∃ encoded,
        Utf8.encode (socketPath directory) = some encoded ∧
          encoded.length + 1 ≤ maxSunPathBytes := by
    intro base directory bytes hbase hbytes hlt h
    obtain ⟨encoded, hencoded, hlen⟩ :=
      length_socketPath hnames hbase (mapError_eq_ok.1 h) hbytes
    exact ⟨encoded, hencoded, hlen ▸ hlt⟩
  have hmkdtemp : ∀ base e, (∀ exc, e ≠ Failure.mkdtemp exc) →
      (m.mkdtemp base).mapError Failure.mkdtemp ≠ .error e := by
    intro base e he h
    obtain ⟨exc, -, rfl⟩ := mapError_eq_error.1 h
    exact he exc rfl
  have hlong : ∀ exc : ε, Failure.nameTooLong ≠ Failure.mkdtemp exc := by simp
  have htext : ∀ exc : ε, Failure.unicodeEncode ≠ Failure.mkdtemp exc := by simp
  rw [← encode_projected_eq_none]
  rcases shortTempdir_cases m with ⟨hdir, hnone, h⟩ | ⟨bytes, hdir, hbytes, hlt, h⟩ | ⟨hun, h⟩
  · have husable : ¬m.Unusable m.gettempdir := by
      intro hun
      obtain ⟨bytes, hbytes, -⟩ := hun hdir
      cases hnone.symm.trans hbytes
    simp [h, hdir, hnone, husable]
  · have husable : ¬m.Unusable m.gettempdir := by
      intro hun
      obtain ⟨bytes', hbytes', hle⟩ := hun hdir
      obtain rfl := Option.some.inj (hbytes.symm.trans hbytes')
      exact absurd hlt (not_lt.2 hle)
    rw [h]
    exact ⟨fun _ => hfits (List.mem_cons_self ..) hbytes hlt,
      iff_of_false (hmkdtemp _ _ hlong) fun h => husable h.1,
      iff_of_false (hmkdtemp _ _ htext) (by simp [hbytes])⟩
  · have hnone : ¬(m.isDir m.gettempdir = true ∧ Utf8.encode (projected m.gettempdir) = none) := by
      rintro ⟨hdir, hnone⟩
      obtain ⟨bytes, hbytes, -⟩ := hun hdir
      cases hnone.symm.trans hbytes
    have htmp : Utf8.encode (projected (py "/tmp")) = some _ := rfl
    rw [h]
    by_cases hdir : m.isDir (py "/tmp") = true
    · rw [if_pos hdir]
      exact ⟨fun _ => hfits (List.mem_cons_of_mem _ (List.mem_singleton_self _)) htmp (by decide),
        iff_of_false (hmkdtemp _ _ hlong) (by simp [hdir]),
        iff_of_false (hmkdtemp _ _ htext) hnone⟩
    · rw [if_neg hdir]
      exact ⟨by simp, iff_of_true rfl ⟨hun, Bool.eq_false_iff.2 hdir⟩,
        iff_of_false (by simp) hnone⟩

/-- A machine whose temporary directory is gone, so that the search comes to `/tmp`. -/
def goneTempdir : Machine Unit where
  gettempdir := py "/scratch"
  isDir base := base = py "/tmp"
  mkdtemp base := if base = py "/tmp" then .ok (py "/tmp/pidprobe-k2_9xq0z") else .error ()

/-- The machine names the directories it makes as `mkdtemp` does. -/
theorem names_goneTempdir : goneTempdir.Names := by
  intro base _ directory h
  have hbase : base = py "/tmp" := by
    by_contra hne
    have herror : goneTempdir.mkdtemp base = .error () := if_neg hne
    cases herror.symm.trans h
  subst hbase
  obtain rfl := Except.ok.inj h
  exact ⟨py "k2_9xq0z", rfl, ascii_py (by decide), by decide⟩

/-- Where the temporary directory is gone, the socket lies under `/tmp`, and its path
fits. -/
theorem short_tempdir_exact_tmp :
    shortTempdir goneTempdir = .ok (py "/tmp/pidprobe-k2_9xq0z") ∧
    ∃ encoded, Utf8.encode (socketPath (py "/tmp/pidprobe-k2_9xq0z")) = some encoded ∧
      encoded.length + 1 ≤ maxSunPathBytes := by
  have htmp : shortTempdir goneTempdir = .ok (py "/tmp/pidprobe-k2_9xq0z") := by
    rw [shortTempdir, searchFrom, if_pos (.inr (by decide)), searchFrom_tmp List.not_mem_nil]
    rfl
  exact ⟨htmp, (short_tempdir_exact names_goneTempdir).1 _ htmp⟩

end ShortTempdir
end Pidprobe
