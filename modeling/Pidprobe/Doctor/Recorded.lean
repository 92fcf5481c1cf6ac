/-
# Listening to discovery

`_captured_registry_warnings` of `_doctor.py`.  Discovery reports a broken plugin on
the `pidprobe.registry` logger and carries on; the doctor listens in, and turns what
it hears into a check.  `plugin_warnings_heard` says what it hears, over every
configuration of logging, and that discovery is listened to without a trace: nothing
is printed meanwhile, and the settings are back afterwards, whether discovery returned
or raised.  Code of a plugin that changes them while it is loaded is left out.
-/

import Pidprobe.Doctor
import Pidprobe.Lib.Logging

namespace Pidprobe
namespace Doctor

open Logging

/-- The level of a record: `_logger.exception` logs an `ERROR`, `_logger.warning` a
`WARNING`. -/
def recordLevel : Registry.Record → ℤ
  | .notLoaded _ _ => 40
  | .nameTaken _ => 30

/-- `_RecordingHandler`, a new object with an identity of its own; it hears warnings and
worse. -/
def recordingHandler (id : ℕ) : Handler := ⟨id, 30⟩

/-- Both kinds of record discovery makes are warnings or worse, so the recorder hears
them. -/
theorem level_le_recordLevel (id : ℕ) (record : Registry.Record) :
    (recordingHandler id).level ≤ recordLevel record := by
  cases record <;> simp [recordingHandler, recordLevel]

variable [Unicode]

/-- `_check_collector_plugins`, with the settings behind it and where the records
went. -/
def checkCollectorPluginsIn (settings : Settings Registry.Record) (id : ℕ)
    (listed : Logged Registry.Record Raised (List Collector)) :
    Except Raised Check × Settings Registry.Record × List (Destination × Registry.Record) :=
  let heeded := listening (recordingHandler id) recordLevel listed.log settings
  (listed.outcome.map fun collectors =>
    checkCollectorPlugins collectors (heard (recordingHandler id) heeded.2), heeded)

/-- Logging is not switched off: nothing keeps warnings of the logger from being
made. -/
structure IsOn (settings : Settings Registry.Record) : Prop where
  enabled : settings.own.disabled = false
  disable : settings.disable < 30
  passes : ∀ record, settings.own.passes record = true

omit [Unicode] in
/-- Where logging is not switched off, every record of discovery can be heard. -/
theorem IsOn.audible {settings : Settings Registry.Record} (h : IsOn settings)
    (record : Registry.Record) : Audible settings recordLevel record :=
  ⟨h.enabled, h.disable.trans_le (level_le_recordLevel 0 record), h.passes record⟩

/-- **Discovery is listened to without a trace.**  For every configuration of the
loggers, every outcome of discovery and everything it logs: the check is made of the
records the configuration lets be made, whatever the levels of the loggers, and of all
of them where logging is not switched off; no handler of the loggers above and no last
resort sees a record; and the settings afterwards are those before. -/
theorem plugin_warnings_heard {settings : Settings Registry.Record} {id : ℕ}
    (h : Fresh (recordingHandler id) settings)
    (listed : Logged Registry.Record Raised (List Collector)) :
    (checkCollectorPluginsIn settings id listed).1 = listed.outcome.map (fun collectors =>
      checkCollectorPlugins collectors (listed.log.filter (Audible settings recordLevel ·))) ∧
    (IsOn settings → (checkCollectorPluginsIn settings id listed).1 =
      listed.outcome.map fun collectors => checkCollectorPlugins collectors listed.log) ∧
    (checkCollectorPluginsIn settings id listed).2.1 = settings ∧
    ∀ entry ∈ (checkCollectorPluginsIn settings id listed).2.2,
      ∃ handler ∈ settings.own.handlers ++ [recordingHandler id],
        entry.1 = .handler handler.id := by
  have hlevel : (recordingHandler id).level ≠ 0 := by simp [recordingHandler]
  have hrecords : ∀ record ∈ listed.log, (recordingHandler id).level ≤ recordLevel record :=
    fun record _ => level_le_recordLevel id record
  have hheard := listening_heard h hlevel hrecords
  refine ⟨?_, fun hon => ?_, listening_settings h listed.log, listening_quiet h hlevel hrecords⟩
  · rw [checkCollectorPluginsIn, hheard]
  · have hall : listed.log.filter (Audible settings recordLevel ·) = listed.log :=
      List.filter_eq_self.2 fun record _ => decide_eq_true (hon.audible record)
    rw [checkCollectorPluginsIn, hheard, hall]

/-- Loggers as they are without any configuration: `pidprobe.registry` in front, `pidprobe`
and the root above it. -/
def defaultSettings : Settings Registry.Record where
  own := ⟨0, true, false, [], fun _ => true⟩
  above := [⟨0, true, false, [], fun _ => true⟩, ⟨30, true, false, [], fun _ => true⟩]
  disable := 0

omit [Unicode] in
/-- Two broken plugins, with logging as it is without any configuration: the check warns
about both. -/
theorem plugin_warnings_heard_default :
    letI := Unicode.fullwidth
    let listed : Logged Registry.Record Raised (List Collector) :=
      ⟨.ok [], [.notLoaded (py "pool") (py "gone:COLLECTOR"), .nameTaken (py "gc")]⟩
    (checkCollectorPluginsIn defaultSettings 7 listed).2.1 = defaultSettings ∧
      (checkCollectorPluginsIn defaultSettings 7 listed).1 =
        .ok (checkCollectorPlugins [] listed.log) := by
  let _ := Unicode.fullwidth
  intro listed
  have hfresh : Fresh (recordingHandler 7) defaultSettings := by simp [Fresh, defaultSettings]
  obtain ⟨-, hon, hsettings, -⟩ := plugin_warnings_heard hfresh listed
  exact ⟨hsettings, hon ⟨rfl, by decide, fun _ => rfl⟩⟩

end Doctor
end Pidprobe
