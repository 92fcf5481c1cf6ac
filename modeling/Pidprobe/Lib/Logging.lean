/-
# Logging

Python's `logging`, as one logger sees it: its own settings, those of the loggers
above it up to the root, and the level below which `logging.disable` drops
everything.  A record goes to the handlers of the logger and, while loggers
propagate, to those above; where a chain has no handler at all, the last resort
writes it to stderr.

A context that listens in (`listening`) adds a handler, keeps the records from the
loggers above and makes sure that records of a level are made at all.  It hears what
is logged and leaves the settings as they were (`listening_heard`,
`listening_settings`).
-/

import Mathlib.Algebra.Order.Ring.Int
import Mathlib.Data.List.Basic

namespace Pidprobe
namespace Logging

/-- A handler: what tells it from others, and the level from which on it takes records. -/
structure Handler where
  id : ℕ
  level : ℤ
  deriving DecidableEq

/-- The settings of a logger, as far as they decide where a record goes. -/
structure Logger (ρ : Type) where
  /-- 0 is `NOTSET`. -/
  level : ℤ
  propagate : Bool
  disabled : Bool
  handlers : List Handler
  /-- Whether its filters let a record through. -/
  passes : ρ → Bool

/-- A logger, the loggers above it from its parent to the root, and `manager.disable`, which
is for all of them. -/
structure Settings (ρ : Type) where
  own : Logger ρ
  above : List (Logger ρ)
  disable : ℤ

/-- Where a record goes: to a handler, or to the one that takes what no handler could. -/
inductive Destination
  | handler (id : ℕ)
  /-- `logging.lastResort`. -/
  | lastResort
  deriving DecidableEq

variable {ρ : Type}

/-- `getEffectiveLevel`: the level of the first logger that has one, from the logger up. -/
def effectiveLevel : List (Logger ρ) → ℤ
  | [] => 0
  | logger :: above => if logger.level ≠ 0 then logger.level else effectiveLevel above

/-- The handlers of a logger and of those it propagates to, its own in front. -/
def handlersOf : List (Logger ρ) → List Handler
  | [] => []
  | logger :: above => logger.handlers ++ if logger.propagate then handlersOf above else []

namespace Settings

/-- The logger, and those above it up to the root. -/
def chain (settings : Settings ρ) : List (Logger ρ) := settings.own :: settings.above

/-- `isEnabledFor`: the logger is not disabled, and the level is above what is switched off
and not below its own. -/
def isEnabledFor (settings : Settings ρ) (level : ℤ) : Bool :=
  !settings.own.disabled && decide (settings.disable < level) &&
    decide (effectiveLevel settings.chain ≤ level)

/-- `callHandlers`: the handlers that take the level; `WARNING`, 30, is the level of the
last resort. -/
def callHandlers (settings : Settings ρ) (level : ℤ) : List Destination :=
  let found := handlersOf settings.chain
  if found = [] then if 30 ≤ level then [.lastResort] else []
  else (found.filter fun handler => handler.level ≤ level).map fun handler => .handler handler.id

/-- `logger.log` of a record of a level: where it goes, once the level and the filters let
it be made. -/
def log (settings : Settings ρ) (level : ρ → ℤ) (record : ρ) : List (Destination × ρ) :=
  if settings.isEnabledFor (level record) && settings.own.passes record then
    (settings.callHandlers (level record)).map (·, record)
  else []

end Settings

/-! ## Listening in -/

/-- `logger.addHandler`, which adds no handler twice. -/
def addHandler (handler : Handler) (logger : Logger ρ) : Logger ρ :=
  if handler ∈ logger.handlers then logger
  else { logger with handlers := logger.handlers ++ [handler] }

/-- `logger.removeHandler`, of a handler that need not be there. -/
def removeHandler (handler : Handler) (logger : Logger ρ) : Logger ρ :=
  { logger with handlers := logger.handlers.erase handler }

/-- What is done in front of the body: `recorder` listens, and records from its own
level on are made. -/
def enter (recorder : Handler) (settings : Settings ρ) : Settings ρ :=
  let own := { addHandler recorder settings.own with propagate := false }
  let own :=
    if recorder.level < effectiveLevel (own :: settings.above) then
      { own with level := recorder.level }
    else own
  { settings with own }

/-- What is done behind it, whether it raised or not: the handler goes, and the two settings
come back. -/
def leave (recorder : Handler) (before settings : Settings ρ) : Settings ρ :=
  { settings with
    own := { removeHandler recorder settings.own with
      level := before.own.level
      propagate := before.own.propagate } }

/-- The context, with a body that logs these records: the settings behind it, and where the
records went. -/
def listening (recorder : Handler) (level : ρ → ℤ) (records : List ρ)
    (settings : Settings ρ) : Settings ρ × List (Destination × ρ) :=
  let inside := enter recorder settings
  (leave recorder settings inside, records.flatMap (inside.log level))

/-- What the recorder hears, in the order in which it was logged. -/
def heard (recorder : Handler) (delivered : List (Destination × ρ)) : List ρ :=
  (delivered.filter fun entry => entry.1 = .handler recorder.id).map Prod.snd

/-! ## What is heard -/

variable {settings : Settings ρ} {recorder : Handler} {level : ρ → ℤ}

/-- The handler is none of the logger's own, as one that was just made. -/
def Fresh (recorder : Handler) (settings : Settings ρ) : Prop :=
  ∀ handler ∈ settings.own.handlers, handler.id ≠ recorder.id

/-- The settings let a record be made, apart from the level of the logger, which the context
sets. -/
def Audible (settings : Settings ρ) (level : ρ → ℤ) (record : ρ) : Prop :=
  settings.own.disabled = false ∧ settings.disable < level record ∧
    settings.own.passes record = true

instance (settings : Settings ρ) (level : ρ → ℤ) : DecidablePred (Audible settings level) :=
  fun _ => inferInstanceAs (Decidable (_ ∧ _))

theorem Fresh.notMem (h : Fresh recorder settings) : recorder ∉ settings.own.handlers :=
  fun hmem => h recorder hmem rfl

/-- While the recorder listens, the level of the logger lets its records through. -/
theorem effectiveLevel_enter (hlevel : recorder.level ≠ 0) (settings : Settings ρ) :
    effectiveLevel (enter recorder settings).chain ≤ recorder.level := by
  rw [enter, Settings.chain]
  simp only
  split_ifs with h
  · rw [effectiveLevel, if_pos hlevel]
  · exact not_lt.1 h

/-- It is behind the logger's own handlers, and nothing goes further up. -/
theorem handlersOf_enter (h : Fresh recorder settings) :
    handlersOf (enter recorder settings).chain = settings.own.handlers ++ [recorder] := by
  rw [enter, addHandler, if_neg h.notMem, Settings.chain]
  simp only
  split_ifs <;> simp [handlersOf]

/-- Where a record goes while the recorder listens: to the logger's own handlers and to the
recorder. -/
theorem log_enter (h : Fresh recorder settings) (hlevel : recorder.level ≠ 0) {record : ρ}
    (hrecord : recorder.level ≤ level record) :
    (enter recorder settings).log level record =
      if Audible settings level record then
        ((settings.own.handlers ++ [recorder]).filter fun handler =>
          handler.level ≤ level record).map fun handler => (.handler handler.id, record)
      else [] := by
  have heffective : effectiveLevel (enter recorder settings).chain ≤ level record :=
    (effectiveLevel_enter hlevel settings).trans hrecord
  have howner : (enter recorder settings).own.disabled = settings.own.disabled ∧
      (enter recorder settings).own.passes = settings.own.passes ∧
      (enter recorder settings).disable = settings.disable := by
    rw [enter, addHandler, if_neg h.notMem]
    simp only
    split_ifs <;> simp
  obtain ⟨hdisabled, hpasses, hdisable⟩ := howner
  have hcalled : (enter recorder settings).callHandlers (level record) =
      ((settings.own.handlers ++ [recorder]).filter fun handler =>
        handler.level ≤ level record).map fun handler => .handler handler.id := by
    rw [Settings.callHandlers, handlersOf_enter h]
    exact if_neg (by simp)
  have henabled : ((enter recorder settings).isEnabledFor (level record) &&
      (enter recorder settings).own.passes record) = true ↔ Audible settings level record := by
    simp [Settings.isEnabledFor, hdisabled, hpasses, hdisable, heffective, Audible, and_assoc]
  rw [Settings.log, hcalled]
  simp only [henabled, List.map_map]
  rfl

theorem heard_append (recorder : Handler) (xs ys : List (Destination × ρ)) :
    heard recorder (xs ++ ys) = heard recorder xs ++ heard recorder ys := by
  rw [heard, List.filter_append, List.map_append]
  rfl

/-- One record is heard where the settings let it be made, and once. -/
theorem heard_log_enter (h : Fresh recorder settings) (hlevel : recorder.level ≠ 0) {record : ρ}
    (hrecord : recorder.level ≤ level record) :
    heard recorder ((enter recorder settings).log level record) =
      if Audible settings level record then [record] else [] := by
  rw [log_enter h hlevel hrecord]
  split_ifs
  · have hown : heard recorder ((settings.own.handlers.filter fun handler =>
        handler.level ≤ level record).map fun handler =>
          (Destination.handler handler.id, record)) = [] := by
      rw [heard, List.map_eq_nil_iff, List.filter_eq_nil_iff]
      intro entry hentry
      obtain ⟨handler, hmem, rfl⟩ := List.mem_map.1 hentry
      simpa using h handler (List.mem_filter.1 hmem).1
    rw [List.filter_append, List.map_append, heard_append, hown]
    simp [heard, hrecord]
  · rfl

/-- **What a listener hears**: every record from its level on that the settings let be
made, in order, whatever the levels of the loggers are. -/
theorem listening_heard (h : Fresh recorder settings) (hlevel : recorder.level ≠ 0)
    {records : List ρ} (hrecords : ∀ record ∈ records, recorder.level ≤ level record) :
    heard recorder (listening recorder level records settings).2 =
      records.filter (Audible settings level ·) := by
  rw [listening]
  simp only
  induction records with
  | nil => rfl
  | cons record records ih =>
    obtain ⟨hrecord, hrecords⟩ := List.forall_mem_cons.1 hrecords
    rw [List.flatMap_cons, heard_append, heard_log_enter h hlevel hrecord, ih hrecords,
      List.filter_cons]
    split_ifs <;> simp_all

/-- **Nobody else hears it** but the logger's own handlers: no handler of a logger above,
and not the last resort. -/
theorem listening_quiet (h : Fresh recorder settings) (hlevel : recorder.level ≠ 0)
    {records : List ρ} (hrecords : ∀ record ∈ records, recorder.level ≤ level record) :
    ∀ entry ∈ (listening recorder level records settings).2,
      ∃ handler ∈ settings.own.handlers ++ [recorder], entry.1 = .handler handler.id := by
  rw [listening]
  intro entry hentry
  obtain ⟨record, hmem, hentry⟩ := List.mem_flatMap.1 hentry
  rw [log_enter h hlevel (hrecords record hmem)] at hentry
  split_ifs at hentry
  · obtain ⟨handler, hhandler, rfl⟩ := List.mem_map.1 hentry
    exact ⟨handler, (List.mem_filter.1 hhandler).1, rfl⟩
  · cases hentry

/-- **The settings are left as they were**, whatever was logged in between. -/
theorem listening_settings (h : Fresh recorder settings) (records : List ρ) :
    (listening recorder level records settings).1 = settings := by
  rw [listening]
  simp only
  rw [leave, enter, addHandler, if_neg h.notMem, removeHandler]
  obtain ⟨⟨ownLevel, propagate, disabled, handlers, passes⟩, above, disable⟩ := settings
  have herase : (handlers ++ [recorder]).erase recorder = handlers := by
    rw [List.erase_append_right _ h.notMem, List.erase_cons_head, List.append_nil]
  simp only
  split_ifs <;> simp [herase]

end Logging
end Pidprobe
