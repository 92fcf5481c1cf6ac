/-
# Objects of the target

Code that runs inside the target meets objects and exceptions it knows nothing
about: their classes, their `__repr__`, their iterators are the target's.  What
the code can observe of them is collected in two classes; an object that
misbehaves is one whose observation is an exception.

Where the code expects a `str`, it may meet another object: a metaclass chooses
what `__name__` returns, and `repr` returns an instance of any subclass of `str`,
whose `__len__`, `__getitem__` and `__add__` are the target's again.  `Text` tells
the two apart, and its operations are those of `str` on the one and of the object
on the other.

`except Exception` lets an exception through that does not derive from
`Exception` (`SystemExit`, `KeyboardInterrupt`).
-/

import Pidprobe.Lib.PyRepr
import Pidprobe.Lib.Raises

namespace Pidprobe

/-- What stands where a `str` is expected: a `str` of that very class, or another
object, such as an instance of a subclass. -/
inductive Text (τ : Type)
  | plain (s : PyStr)
  | own (t : τ)
  deriving DecidableEq

/-! ## What `json` writes -/

/-- Objects `json.dumps` is called on. What they serialise as is the target's, and may be an
exception, also one of its own making. -/
class Serial (ε π : Type) where
  /-- The JSON value `json.dumps` writes for an object, or what it raises. -/
  walk : π → Except ε Json

instance {ε : Type} : Serial ε Json where
  walk := .ok

/-- Any object, given by what `json.dumps` does with it. -/
instance {ε : Type} : Serial ε (Except ε Json) where
  walk := id

/-- A `str` is written as it is. -/
instance {ε τ : Type} [Serial ε τ] : Serial ε (Text τ) where
  walk
    | .plain s => .ok (.str s)
    | .own t => Serial.walk t

/-! ## Exceptions -/

/-- What a handler can ask of an exception it caught. -/
class PyException (ε : Type) where
  /-- `isinstance(exc, Exception)`. -/
  isException : ε → Bool
  /-- `type(exc).__name__`, which a metaclass of the target may answer; an object
  that is no `str` is given by what `json.dumps` does with it. -/
  typeName : ε → Except ε (Text (Except ε Json))
  /-- `str(exc)`, which runs the target's `__str__`. -/
  str : ε → Except ε PyStr
  /-- `traceback.format_exc()` while `exc` is being handled. -/
  formatExc : ε → Except ε PyStr

section

variable {ε β : Type} [PyException ε]

/-- `try: x; except Exception as exc: handler(exc)`. What is no `Exception`, such as
`KeyboardInterrupt`, passes. -/
def exceptException (x : Except ε β) (handler : ε → Except ε β) : Except ε β :=
  match x with
  | .ok b => .ok b
  | .error exc => if PyException.isException exc then handler exc else .error exc

/-- `type(exc).__name__` as `json.dumps` writes it, where it is asked for and written in one
go. -/
def typeNameJson (exc : ε) : Except ε Json := PyException.typeName exc >>= Serial.walk

end

/-! ## Values -/

/-- The classes `isinstance` is asked about, in `_render` and for the keys of a mapping. -/
inductive Builtin
  | dict
  | list
  | tuple
  | frozenset
  | set
  | str
  deriving DecidableEq

/-- What one step of an iteration does: it yields, it stops, or it raises, which `_take` has
to survive. -/
inductive Next (ε β : Type)
  | item (b : β)
  | stop
  | raises (exc : ε)

/-- What can be observed of an object of the target. Every observation runs the target's
code, so each of them may raise. -/
class PyObject (ε : outParam Type) (α : Type) where
  /-- `isinstance(value, cls)`; the lookup of `__class__` may raise. -/
  isinstance : α → Builtin → Except ε Bool
  /-- `type(value).__name__`, which a metaclass may answer. -/
  typeName : α → Except ε (Text α)
  /-- `type(exc).__name__` where it is no `str`. -/
  nameObject : ε → α
  /-- `repr(value)`. -/
  repr : α → Except ε (Text α)
  /-- `str(value)`. -/
  str : α → Except ε PyStr
  /-- `value.lower()`, by its characters. -/
  lower : α → Except ε PyStr
  /-- Step `i` of `iter(value)`. -/
  next : α → ℕ → Next ε α
  /-- Step `i` of `iter(value.items())`. -/
  nextItem : α → ℕ → Next ε α
  /-- `first, second = value`. -/
  unpack : α → Except ε (α × α)
  /-- `len(value)`. -/
  len : α → Except ε ℕ
  /-- `value[:limit]`. -/
  head : α → ℕ → Except ε (Text α)
  /-- `value + other`. -/
  add : α → Text α → Except ε (Text α)
  /-- `text + value`, where `text` is a `str`; the object may have an `__radd__`. -/
  radd : PyStr → α → Except ε (Text α)
  /-- What `str.join` reads of an object: the characters of a `str`, of whatever
  subclass, and `TypeError` of everything else. -/
  chars : α → Except ε PyStr
  /-- What `json.dumps` writes for an object. -/
  dumps : α → Except ε Json

instance (priority := low) {ε α : Type} [PyObject ε α] : Serial ε α where
  walk := PyObject.dumps

/-! ## Operations on texts -/

namespace Text

variable {ε α : Type} [PyObject ε α]

/-- `len(text)`, for a plain `str` its length, for a text of a class of the target's what
its `__len__` answers. -/
def len : Text α → Except ε ℕ
  | plain s => .ok s.length
  | own t => PyObject.len t

/-- `text[:limit]`, which a subclass of `str` may answer with a text of any class. -/
def head : Text α → ℕ → Except ε (Text α)
  | plain s, limit => .ok (plain (s.take limit))
  | own t, limit => PyObject.head t limit

/-- `text + other`, by the class of the left operand, or by `__radd__` of the right one
where the left is a plain `str`. -/
def add : Text α → Text α → Except ε (Text α)
  | plain s, plain s' => .ok (plain (s ++ s'))
  | plain s, own t => PyObject.radd s t
  | own t, other => PyObject.add t other

/-- The characters of a text that is a `str`. -/
def chars : Text α → Except ε PyStr
  | plain s => .ok s
  | own t => PyObject.chars t

@[simp] theorem len_plain (s : PyStr) : (plain s : Text α).len = .ok s.length := rfl

@[simp] theorem head_plain (s : PyStr) (limit : ℕ) :
    (plain s : Text α).head limit = .ok (plain (s.take limit)) := rfl

@[simp] theorem add_plain (s s' : PyStr) :
    (plain s : Text α).add (plain s') = .ok (plain (s ++ s')) := rfl

@[simp] theorem chars_plain (s : PyStr) : (plain s : Text α).chars = .ok s := rfl

/-- `sep.join(texts)`, which looks at the characters of its texts and not at their
methods. -/
def joined (sep : PyStr) (texts : List (Text α)) : Except ε PyStr := do
  let parts ← texts.mapM chars
  .ok (join sep parts)

/-- What is joined of texts of the class `str` is their characters. -/
theorem joined_plain (sep : PyStr) (parts : List PyStr) :
    joined sep (parts.map (plain : PyStr → Text α)) = .ok (join sep parts) := by
  have hchars : (parts.map (plain : PyStr → Text α)).mapM chars = .ok parts := by
    rw [mapM_eq_ok, List.forall₂_map_left_iff]
    exact List.forall₂_same.2 fun _ _ => rfl
  rw [joined, hchars, ok_bind]

end Text
end Pidprobe
