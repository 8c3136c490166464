import LintBridge.Decimal.Shortest
import LintBridge.Text.Quoted

/-!
Why a JSON text or value is refused.

A `Fault` is a breach of the grammar. A `Mismatch` is a value that is not what a reader of it asks for. A
`Failure` is either one at a place of a text.
-/

set_option autoImplicit false
set_option relaxedAutoImplicit false

namespace LintBridge.Json

open LintBridge.Decimal (Binary64)

/-- A place in a text: the line, counted from one, and the number of bytes before it on that line. -/
structure Place where
  line : Nat
  column : Nat
  deriving DecidableEq, Repr

/-- A breach of the grammar, or of a limit that the reader has. -/
inductive Fault
  | endInList
  | endInObject
  | endInString
  | endInValue
  | noColon
  | noListCommaOrEnd
  | noObjectCommaOrEnd
  | noWord
  | noValue
  | badEscape
  | badNumber
  | numberOutOfRange
  | controlInString
  | keyNotString
  | loneSurrogate
  | trailingComma
  | trailingCharacters
  | cutHexEscape
  | tooDeep
  deriving DecidableEq, Repr

def Fault.message : Fault → String
  | endInList => "EOF while parsing a list"
  | endInObject => "EOF while parsing an object"
  | endInString => "EOF while parsing a string"
  | endInValue => "EOF while parsing a value"
  | noColon => "expected `:`"
  | noListCommaOrEnd => "expected `,` or `]`"
  | noObjectCommaOrEnd => "expected `,` or `\x7d`"
  | noWord => "expected ident"
  | noValue => "expected value"
  | badEscape => "invalid escape"
  | badNumber => "invalid number"
  | numberOutOfRange => "number out of range"
  | controlInString => "control character (\\u0000-\\u001F) found while parsing a string"
  | keyNotString => "key must be a string"
  | loneSurrogate => "lone leading surrogate in hex escape"
  | trailingComma => "trailing comma"
  | trailingCharacters => "trailing characters"
  | cutHexEscape => "unexpected end of hex escape"
  | tooDeep => "recursion limit exceeded"

/-- What was found where something else was asked for. -/
inductive Seen
  | null
  | bool (value : Bool)
  | integer (value : Int)
  | decimal (value : Binary64)
  | text (value : String)
  | sequence
  | map
  deriving DecidableEq, Repr

def Seen.message : Seen → String
  | null => "null"
  | bool b => "boolean `" ++ toString b ++ "`"
  | integer i => "integer `" ++ toString i ++ "`"
  | decimal x => "floating point `" ++ x.text ++ "`"
  | text s => "string " ++ Text.quoted s
  | sequence => "sequence"
  | map => "map"

/-- A value that is not what its reader asks for. -/
inductive Mismatch
  /-- A value of another kind. -/
  | kind (seen : Seen) (expected : String)
  /-- A value of the right kind that is out of bounds. -/
  | bounds (seen : Seen) (expected : String)
  /-- A list with a number of items that does not fit. -/
  | length (count : Nat) (expected : String)
  /-- A list with more items than anybody asks for. -/
  | surplus (count known : Nat)
  | missingField (key : String)
  | duplicateField (key : String)
  | unknownVariant (name : String) (known : List String)
  /-- A reason that the reader of the value words itself. -/
  | other (reason : String)
  deriving DecidableEq, Repr

/-- Names in back quotes, as a list that ends in "or" when there are just two. -/
def namesList : List String → String
  | [] => "there are no variants"
  | [a] => "expected `" ++ a ++ "`"
  | [a, b] => "expected `" ++ a ++ "` or `" ++ b ++ "`"
  | names => "expected one of " ++ String.intercalate ", " (names.map fun n => "`" ++ n ++ "`")

def Mismatch.message : Mismatch → String
  | kind seen expected => "invalid type: " ++ seen.message ++ ", expected " ++ expected
  | bounds seen expected => "invalid value: " ++ seen.message ++ ", expected " ++ expected
  | length count expected => "invalid length " ++ toString count ++ ", expected " ++ expected
  | surplus count _ => "invalid length " ++ toString count ++ ", expected fewer elements in array"
  | missingField key => "missing field `" ++ key ++ "`"
  | duplicateField key => "duplicate field `" ++ key ++ "`"
  | unknownVariant name known => "unknown variant `" ++ name ++ "`, " ++ namesList known
  | other reason => reason

def elements (n : Nat) : String := toString n ++ (if n = 1 then " element" else " elements")

/-- A mismatch as it is told of a record whose members stand among those of another one: there, too long a
list is measured against what is known of it. -/
def Mismatch.ofInner : Mismatch → Mismatch
  | surplus count known => length count (elements known ++ " in sequence")
  | m => m

inductive Cause
  | fault (fault : Fault)
  | mismatch (mismatch : Mismatch)
  deriving DecidableEq, Repr

def Cause.message : Cause → String
  | fault f => f.message
  | mismatch m => m.message

/-- Why and where a text is refused. -/
structure Failure where
  cause : Cause
  place : Place
  deriving DecidableEq, Repr

def Failure.message (f : Failure) : String :=
  f.cause.message ++ " at line " ++ toString f.place.line ++ " column " ++ toString f.place.column

end LintBridge.Json
