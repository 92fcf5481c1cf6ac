/-
# `repr` of the built-in values

`repr` of a `str` and of a value `json.loads` returns.  A string is spelt
between apostrophes, or between double quotes where that saves escaping, and a
character the Unicode database does not call printable is escaped by its number.

`str` of a decoded value is the string itself for a `str` and its `repr`
otherwise.
-/

import Pidprobe.Lib.JsonRead

namespace Pidprobe

/-- `'`, which a Lean text spells by its number here. -/
def apostrophe : CodePoint := Utf8.code 0x27

/-- `width` lower-case hexadecimal digits of `n`, the most significant one first. -/
def hexText (width n : ℕ) : PyStr :=
  (List.range width).map fun i => Json.hexDigit (n / 16 ^ (width - 1 - i) % 16)

/-- The quote `repr` puts around a string: the double one where that alone saves an
escape. -/
def reprQuote (s : PyStr) : CodePoint :=
  if apostrophe ∈ s ∧ cp '"' ∉ s then cp '"' else apostrophe

/-- One character between the quotes: escaped where it is the quote or a backslash, or
cannot be printed. -/
def reprChar [Unicode] (quote c : CodePoint) : PyStr :=
  if c = quote ∨ c = cp '\\' then [cp '\\', c]
  else if c = cp '\t' then py "\\t"
  else if c = cp '\n' then py "\\n"
  else if c = cp '\r' then py "\\r"
  else if Unicode.isprintable c then [c]
  else if c.val < 0x100 then py "\\x" ++ hexText 2 c
  else if c.val < 0x10000 then py "\\u" ++ hexText 4 c
  else py "\\U" ++ hexText 8 c

/-- `repr(s)` of a string, between its quotes. -/
def reprStr [Unicode] (s : PyStr) : PyStr :=
  reprQuote s :: s.flatMap (reprChar (reprQuote s)) ++ [reprQuote s]

namespace Json

/-- `type(value).__name__`. -/
def typeName : Json → PyStr
  | .null => py "NoneType"
  | .bool _ => py "bool"
  | .int _ => py "int"
  | .float _ => py "float"
  | .str _ => py "str"
  | .arr _ => py "list"
  | .obj _ => py "dict"

/-- `repr` of a `float`, which spells infinities and NaN in lower case. -/
def floatRepr [FloatText] : PyFloat → PyStr
  | .finite q => FloatText.repr q
  | .negZero => py "-0.0"
  | .inf => py "inf"
  | .negInf => py "-inf"
  | .nan => py "nan"

variable [Unicode] [FloatText]

mutual

/-- `repr(value)`, of a value that JSON has. -/
def repr : Json → PyStr
  | .null => py "None"
  | .bool true => py "True"
  | .bool false => py "False"
  | .int n => intText n
  | .float x => floatRepr x
  | .str s => reprStr s
  | .arr xs => py "[" ++ join (py ", ") (reprElems xs) ++ py "]"
  | .obj ms => py "\x7b" ++ join (py ", ") (reprMembers ms) ++ py "\x7d"

/-- `repr` of each element. -/
def reprElems : List Json → List PyStr
  | [] => []
  | x :: xs => repr x :: reprElems xs

/-- `repr` of each key and value. -/
def reprMembers : List (PyStr × Json) → List PyStr
  | [] => []
  | (k, v) :: ms => (reprStr k ++ py ": " ++ repr v) :: reprMembers ms

end

/-- `str(value)`: a text is itself, and anything else its `repr`. -/
def toStr : Json → PyStr
  | .str s => s
  | v => repr v

end Json

/-- `format(x, "g")` of a finite `float`: all that is assumed is that its text is made of a
number's characters. -/
class GeneralText where
  general : ℚ → PyStr
  general_number : ∀ q, ∀ c ∈ general q, isNumberChar c = true

end Pidprobe
