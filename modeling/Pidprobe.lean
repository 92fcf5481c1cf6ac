import Pidprobe.Lib.Run
import Pidprobe.Collectors.Driver
import Pidprobe.Registry
import Pidprobe.Masking
import Pidprobe.Eval
import Pidprobe.Eval.Literals
import Pidprobe.Channel.Execute
import Pidprobe.Channel.Socket
import Pidprobe.Channel.Publication
import Pidprobe.Channel.Timeouts
import Pidprobe.Channel.Answers
import Pidprobe.Channel.Remote
import Pidprobe.Channel.Delivery
import Pidprobe.Channel.Polling
import Pidprobe.Channel.Expiry
import Pidprobe.Diff.Compose
import Pidprobe.Diff.Heaps
import Pidprobe.Diff.Header
import Pidprobe.Diff.Canonical
import Pidprobe.Diff.Total
import Pidprobe.Diff.Generations
import Pidprobe.Diff.Timing
import Pidprobe.Collectors.Frames
import Pidprobe.Collectors.Literals
import Pidprobe.Collectors.Durations
import Pidprobe.Collectors.Descriptors
import Pidprobe.SafeRepr.Names
import Pidprobe.SafeRepr.Total
import Pidprobe.SafeRepr.Traversal
import Pidprobe.SafeRepr.Faithful
import Pidprobe.Registry.Accounts
import Pidprobe.Registry.Order
import Pidprobe.Plugins.SqlalchemyPool
import Pidprobe.Conformance
import Pidprobe.Cli.Pids
import Pidprobe.Output
import Pidprobe.Collectors.Secrecy
import Pidprobe.Doctor.Environ
import Pidprobe.Doctor.Report
import Pidprobe.Doctor.Recorded
import Pidprobe.Doctor.Versions
import Pidprobe.EndToEnd
import Pidprobe.Channel.ShortTempdir
import Pidprobe.Cli.ExitCodes
import Pidprobe.Cli.Stdout
