import ColumnScan.Text.Printable

/-!
# Quoted text

A text between double quotes: quotes and backslashes are escaped, the four common controls have a
letter, and whatever does not show on paper is written by its number. A single quote stands as it
is.
-/

namespace ColumnScan.Text

/-- The number of a character in base sixteen, between braces. -/
def numbered (c : Char) : List Char :=
  ['\\', 'u', '\x7b'] ++ Nat.toDigits 16 c.toNat ++ ['\x7d']

/-- One character as it stands between the quotes. -/
def quoteChar (c : Char) : List Char :=
  if c = '\x00' then ['\\', '0']
  else if c = '\t' then ['\\', 't']
  else if c = '\r' then ['\\', 'r']
  else if c = '\n' then ['\\', 'n']
  else if c = '"' then ['\\', '"']
  else if c = '\\' then ['\\', '\\']
  else if isPrintable c then [c]
  else numbered c

/-- A text as it is quoted. -/
def quote (s : String) : String :=
  String.ofList ('"' :: s.toList.flatMap quoteChar ++ ['"'])

end ColumnScan.Text
