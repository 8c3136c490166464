import LintBridge.Text.Hidden

/-!
Quoted texts in messages: double quotes around the text, a backslash before a quote and a backslash,
short escapes for the usual controls, and the code point in braces for every other hidden character.
-/

set_option autoImplicit false
set_option relaxedAutoImplicit false

namespace LintBridge.Text

/-- A number in lower case hexadecimal digits, without leading zeros. -/
def hex (n : Nat) : String := String.ofList (Nat.toDigits 16 n)

def quoteChar (c : Char) : String :=
  if c = '"' then "\\\""
  else if c = '\\' then "\\\\"
  else if c = '\n' then "\\n"
  else if c = '\r' then "\\r"
  else if c = '\t' then "\\t"
  else if c.toNat = 0 then "\\0"
  else if isHidden c then "\\u\x7b" ++ hex c.toNat ++ "\x7d"
  else String.singleton c

def quoted (s : String) : String :=
  "\"" ++ String.join (s.toList.map quoteChar) ++ "\""

end LintBridge.Text
