import ThresholdDaemon.Text.Hidden

/-!
# Texts quoted for people

A message that shows a text of unknown content quotes it: the quote and the backslash are
escaped, the usual control characters have their short escapes, and every other character that
would not be seen is written by its code point.
-/
namespace ThresholdDaemon.Text

/-- The lower-case hexadecimal digits of a number, with no leading zero. -/
def hexadecimal (n : Nat) : List Char := Nat.toDigits 16 n

/-- A character inside quotes. -/
def quoteChar (c : Char) : List Char :=
  if c = '"' then ['\\', '"']
  else if c = '\\' then ['\\', '\\']
  else if c = '\n' then ['\\', 'n']
  else if c = '\r' then ['\\', 'r']
  else if c = '\t' then ['\\', 't']
  else if c = '\x00' then ['\\', '0']
  else if isHidden c then ['\\', 'u', '\x7b'] ++ hexadecimal c.toNat ++ ['\x7d']
  else [c]

/-- A text in quotes. -/
def quote (text : String) : String :=
  String.ofList ('"' :: text.toList.flatMap quoteChar ++ ['"'])

/-- The quote around a character on its own. -/
def apostrophe : Char := Char.ofNat 0x27

/-- A character on its own in quotes. -/
def quoteAlone (c : Char) : String :=
  let shown :=
    if c = apostrophe then ['\\', c]
    else if c = '"' then [c]
    else quoteChar c
  String.ofList (apostrophe :: shown ++ [apostrophe])

end ThresholdDaemon.Text
