import Scaffold.Calendar
import Scaffold.Text.Quoted

/-!
# What can be wrong with a configuration text

A text that is not a document of the format is malformed. Besides that, a scalar may have the form
of a number, a date or a character without being one. And a text may stand for something that is
no value here: a collection inside itself, a text with half a character, or an integer that is too
long to be written out again.
-/

namespace Scaffold.Yaml

inductive Fault where
  | malformed
  /-- A text marked as an integer that is none in the base its form calls for. -/
  | integer (base : Nat) (text : String)
  /-- An integer with more digits than are read. -/
  | tooLong (digits : Nat)
  /-- A text marked as a floating-point number that is none. -/
  | real (text : String)
  /-- A number in sixties with a place that counts too much for a floating-point number. -/
  | tooManyPlaces
  /-- A number without a single character. -/
  | emptyNumber
  | boolean (text : String)
  | timestamp
  | calendar (f : Calendar.Fault)
  /-- An escape beyond the last character. -/
  | codePoint
  /-- An escape that is even too large to be a number of a character. -/
  | codePointSize
  /-- What the text stands for is no value here. -/
  | unrepresentable
deriving Repr, DecidableEq, Inhabited

namespace Fault

/-- The most digits with which an integer is read or written in base ten. -/
def mostDigits : Nat :=
  4300

/-- What is said of a fault; of some nothing is said. -/
def message : Fault → String
  | .malformed => ""
  | .integer base text =>
    s!"invalid literal for int() with base {base}: {Text.Quoted.ofString text}"
  | .tooLong digits =>
    s!"Exceeds the limit ({mostDigits} digits) for integer string conversion: value has " ++
      s!"{digits} digits; use sys.set_int_max_str_digits() to increase the limit"
  | .real text => s!"could not convert string to float: {Text.Quoted.ofString text}"
  | .tooManyPlaces => "int too large to convert to float"
  | .emptyNumber => "string index out of range"
  | .boolean text => Text.Quoted.ofString text
  | .timestamp => "'NoneType' object has no attribute 'groupdict'"
  | .calendar f => f.message
  | .codePoint => "chr() arg not in range(0x110000)"
  | .codePointSize => ""
  | .unrepresentable => ""

end Fault

end Scaffold.Yaml
