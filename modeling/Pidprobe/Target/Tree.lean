/-
# Values built from containers and leaves

The objects of `Pidprobe.Target.Objects` as data: an exception is given by what
a handler can ask of it, a value by its containers and its leaves.  A leaf is an
object of some other class, known by the outcome of its `repr`; a set is given
in the order its iteration has.  All their texts are of the class `str` itself.
-/

import Pidprobe.Target.Objects

namespace Pidprobe

/-- An exception as data.  `none` stands for a `__str__`, or a `format_exc`, that
itself raises. -/
structure ExcData where
  typeName : PyStr
  isException : Bool
  message : Option PyStr
  traceback : Option PyStr
  deriving DecidableEq

namespace ExcData

/-- An exception derived from `Exception` that renders, given by its message: its class name
is a `str` and its `__str__` returns. -/
def plain (typeName message : PyStr) : ExcData where
  typeName := typeName
  isException := true
  message := some message
  traceback := some (typeName ++ py ": " ++ message ++ py "\n")

/-- What a `__str__` that fails raises. -/
def strFailed : ExcData := plain (py "RuntimeError") (py "__str__ failed")

/-- What an operator raises for an operand it does not take. -/
def unsupported : ExcData := plain (py "TypeError") (py "unsupported operand type")

instance : PyException ExcData where
  isException := isException
  typeName exc := .ok (.plain exc.typeName)
  str exc := match exc.message with
    | some message => .ok message
    | none => .error strFailed
  formatExc exc := match exc.traceback with
    | some text => .ok text
    | none => .error strFailed

end ExcData

/-- The containers with elements, in the model of values that the examples and witnesses are
about. -/
inductive Kind
  | list
  | tuple
  | frozenset
  | set
  deriving DecidableEq

/-- The class of a container. -/
def Kind.builtin : Kind → Builtin
  | .list => .list
  | .tuple => .tuple
  | .frozenset => .frozenset
  | .set => .set

/-- The name of the class. -/
def Kind.typeName : Kind → PyStr
  | .list => py "list"
  | .tuple => py "tuple"
  | .frozenset => py "frozenset"
  | .set => py "set"

/-- `repr` of a container whose elements have these texts. A tuple of one has its comma; the
empty sets have no literal. -/
def Kind.repr : Kind → List PyStr → PyStr
  | .list, texts => py "[" ++ join (py ", ") texts ++ py "]"
  | .tuple, [text] => py "(" ++ text ++ py ",)"
  | .tuple, texts => py "(" ++ join (py ", ") texts ++ py ")"
  | .frozenset, [] => py "frozenset()"
  | .frozenset, texts => py "frozenset(\x7b" ++ join (py ", ") texts ++ py "\x7d)"
  | .set, [] => py "set()"
  | .set, texts => py "\x7b" ++ join (py ", ") texts ++ py "\x7d"

/-- A value built from containers and leaves. Values of this kind are finite and have no
cycles; a leaf may still fail to render. -/
inductive Tree
  /-- An object of any other class, with the outcome of its `repr`. -/
  | leaf (typeName : PyStr) (outcome : Except ExcData PyStr)
  /-- A `str`. -/
  | str (s : PyStr)
  | seq (kind : Kind) (elems : List Tree)
  | dict (items : List (Tree × Tree))

namespace Tree

variable [Unicode]

mutual

/-- `repr(value)`, by recursion on the value; a leaf that raises makes every container
around it raise. -/
def repr : Tree → Except ExcData PyStr
  | .leaf _ outcome => outcome
  | .str s => .ok (reprStr s)
  | .seq kind xs => (reprElems xs).map kind.repr
  | .dict items => (reprItems items).map fun texts => py "\x7b" ++ join (py ", ") texts ++ py "\x7d"

/-- `repr` of each element. -/
def reprElems : List Tree → Except ExcData (List PyStr)
  | [] => .ok []
  | x :: xs => do
    let text ← repr x
    let texts ← reprElems xs
    .ok (text :: texts)

/-- `repr` of each key and value. -/
def reprItems : List (Tree × Tree) → Except ExcData (List PyStr)
  | [] => .ok []
  | (key, item) :: items => do
    let keyText ← repr key
    let itemText ← repr item
    let texts ← reprItems items
    .ok ((keyText ++ py ": " ++ itemText) :: texts)

end

omit [Unicode] in
/-- What iterating over a value yields, where it can be iterated: a dictionary its keys, a
string its characters. -/
def elems : Tree → Option (List Tree)
  | .leaf _ _ => none
  | .str s => some (s.map fun c => .str [c])
  | .seq _ xs => some xs
  | .dict items => some (items.map Prod.fst)

omit [Unicode] in
/-- Step `i` of an iteration over a list, which no other thread changes meanwhile. -/
def nextOf (xs : List Tree) (i : ℕ) : Next ExcData Tree :=
  match xs[i]? with
  | some x => .item x
  | none => .stop

instance : PyObject ExcData Tree where
  isinstance value cls := .ok (match value with
    | .leaf _ _ => false
    | .str _ => cls = .str
    | .seq kind _ => cls = kind.builtin
    | .dict _ => cls = .dict)
  typeName
    | .leaf typeName _ => .ok (.plain typeName)
    | .str _ => .ok (.plain (py "str"))
    | .seq kind _ => .ok (.plain kind.typeName)
    | .dict _ => .ok (.plain (py "dict"))
  nameObject exc := .str exc.typeName
  repr value := value.repr.map .plain
  str
    | .str s => .ok s
    | value => repr value
  lower
    | .str s => .ok (Unicode.lower s)
    | _ => .error (.plain (py "AttributeError") (py "lower"))
  next value := match value.elems with
    | some xs => nextOf xs
    | none => fun _ => .raises (.plain (py "TypeError") (py "object is not iterable"))
  nextItem
    | .dict items => nextOf (items.map fun item => .seq .tuple [item.1, item.2])
    | _ => fun _ => .raises (.plain (py "AttributeError") (py "items"))
  unpack value := match value.elems with
    | some [first, second] => .ok (first, second)
    | some _ => .error (.plain (py "ValueError") (py "wrong number of values to unpack"))
    | none => .error (.plain (py "TypeError") (py "cannot unpack non-iterable object"))
  -- a tree is never in the place of a text
  len _ := .error .unsupported
  head _ _ := .error .unsupported
  add _ _ := .error .unsupported
  radd _ _ := .error .unsupported
  chars _ := .error .unsupported
  dumps _ := .error .unsupported

end Tree
end Pidprobe
