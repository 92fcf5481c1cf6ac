/-
# The published schema of a snapshot

`snapshot.schema.json`, one definition for each member of `$defs`; a `$ref` is a
use of the definition.  Titles and descriptions are left out.
-/

import Pidprobe.Lib.JsonSchema

namespace Pidprobe
namespace SnapshotSchema

open Schema

/-- A list of keys. -/
def keys (names : List String) : List PyStr := names.map py

/-- `$defs/interpreter`, for the prober and for the target; only the target's has a pid. -/
def interpreter : Schema :=
  object (keys ["python_version", "implementation", "platform", "executable"])
    [(py "python_version", ofType .string), (py "implementation", ofType .string),
      (py "platform", ofType .string), (py "executable", ofType .string),
      (py "pid", ofType .integer)]

/-- `$defs/error`. -/
def error : Schema :=
  object (keys ["type", "message", "traceback"])
    [(py "type", ofType .string), (py "message", ofType .string),
      (py "traceback", ofType .string)]

/-- `$defs/collector_report`: a status out of two, a duration that is not negative, and the
error or null. -/
def collectorReport : Schema :=
  object (keys ["name", "status", "duration_ms", "error"])
    [(py "name", ofType .string), (py "status", enum [py "ok", py "error"]),
      (py "duration_ms", atLeast .number 0), (py "error", orNull error)]

/-- `$defs/meta`: who was probed, when, by which prober, how long it took, and a report for
every collector. -/
def metaSection : Schema :=
  object (keys ["pid", "captured_at", "pidprobe_version", "prober", "target", "stop_duration_ms",
      "elapsed_ms", "collectors"])
    [(py "pid", atLeast .integer 1), (py "captured_at", ofType .string),
      (py "pidprobe_version", ofType .string), (py "prober", interpreter),
      (py "target", interpreter), (py "stop_duration_ms", atLeast .number 0),
      (py "elapsed_ms", atLeast .number 0), (py "collectors", arrayOf collectorReport)]

/-- `$defs/frame`. -/
def frame : Schema :=
  object (keys ["file", "line", "function", "locals"])
    [(py "file", ofType .string), (py "line", ofType .integer), (py "function", ofType .string),
      (py "locals", orNull (keywords [ofType .object, additionalProperties (ofType .string)]))]

/-- `$defs/thread`. -/
def thread : Schema :=
  object (keys ["thread_id", "name", "daemon", "is_main", "frames", "frames_truncated"])
    [(py "thread_id", ofType .integer), (py "name", type [.string, .null]),
      (py "daemon", type [.boolean, .null]), (py "is_main", ofType .boolean),
      (py "frames", arrayOf frame), (py "frames_truncated", ofType .boolean)]

/-- `$defs/stacks`, with the threads and their frames. -/
def stacksSection : Schema :=
  object (keys ["thread_count", "max_frame_depth", "masking_enabled", "threads"])
    [(py "thread_count", atLeast .integer 0), (py "max_frame_depth", atLeast .integer 1),
      (py "masking_enabled", ofType .boolean), (py "threads", arrayOf thread)]

/-- `$defs/objects`. -/
def objectsSection : Schema :=
  object (keys ["top_n", "total_tracked", "distinct_types", "top"])
    [(py "top_n", atLeast .integer 1), (py "total_tracked", atLeast .integer 0),
      (py "distinct_types", atLeast .integer 0),
      (py "top", arrayOf (object (keys ["type", "count"])
        [(py "type", ofType .string), (py "count", atLeast .integer 0)]))]

/-- An entry of `generations`. -/
def generation : Schema :=
  object (keys ["generation"])
    [(py "generation", atLeast .integer 0), (py "collections", ofType .integer),
      (py "collected", ofType .integer), (py "uncollectable", ofType .integer),
      (py "count", ofType .integer), (py "threshold", ofType .integer)]

/-- `$defs/gc`. -/
def gcSection : Schema :=
  object (keys ["enabled", "counts", "thresholds", "generations", "garbage_count", "freeze_count"])
    [(py "enabled", ofType .boolean), (py "counts", arrayOf (ofType .integer)),
      (py "thresholds", arrayOf (ofType .integer)), (py "generations", arrayOf generation),
      (py "garbage_count", atLeast .integer 0), (py "freeze_count", atLeast .integer 0)]

/-- The member `socket` of a descriptor; `laddr` and `raddr` are any values. -/
def socket : Schema :=
  object (keys ["family", "type", "laddr", "raddr"])
    [(py "family", ofType .string), (py "type", ofType .string)]

/-- `$defs/descriptor`. The kinds are those the collector knows, and `unknown`. -/
def descriptor : Schema :=
  object (keys ["fd", "kind", "target", "inode", "is_tty"])
    [(py "fd", atLeast .integer 0),
      (py "kind", enum (keys ["socket", "fifo", "file", "directory", "char", "block", "symlink",
        "unknown"])),
      (py "target", type [.string, .null]), (py "inode", ofType .integer),
      (py "is_tty", ofType .boolean), (py "size", ofType .integer), (py "socket", orNull socket)]

/-- `$defs/fds`. -/
def fdsSection : Schema :=
  object (keys ["supported", "source", "count", "descriptors"])
    [(py "supported", ofType .boolean), (py "source", type [.string, .null]),
      (py "count", atLeast .integer 0), (py "descriptors", arrayOf descriptor)]

/-- The schema of a document: the version, the header and the four built-in sections.
Sections of plugins are not restricted. -/
def snapshot : Schema :=
  object (keys ["schema_version", "meta", "stacks", "objects", "gc", "fds"])
    [(py "schema_version", const (py "1.0")), (py "meta", metaSection),
      (py "stacks", orNull stacksSection), (py "objects", orNull objectsSection),
      (py "gc", orNull gcSection), (py "fds", orNull fdsSection)]

end SnapshotSchema
end Pidprobe
