import ColumnScan.Json.Value

/-!
# JSON tokens

The words of a JSON text and how each is written: strings with short escapes for the common controls
and numbered ones for the others, numbers with a sign in front of every exponent. `Json.tokens` lists
the words of a value without any blanks between them.
-/

namespace ColumnScan.Json

/-- A word of a JSON text. -/
inductive Token where
  | openBrace
  | closeBrace
  | openBracket
  | closeBracket
  | colon
  | comma
  | null
  | bool (value : Bool)
  | number (value : Number)
  | string (value : Text)
deriving DecidableEq, Repr

/-- A control character by its number, with four digits. -/
def numberedEscape (code : Nat) : List Char :=
  let digits := Nat.toDigits 16 code
  ['\\', 'u'] ++ List.replicate (4 - digits.length) '0' ++ digits

/-- One character of a string. -/
def escapeChar (c : Char) : List Char :=
  if c = '"' then ['\\', '"']
  else if c = '\\' then ['\\', '\\']
  else if c = '\x08' then ['\\', 'b']
  else if c = '\x0c' then ['\\', 'f']
  else if c = '\n' then ['\\', 'n']
  else if c = '\r' then ['\\', 'r']
  else if c = '\t' then ['\\', 't']
  else if c.toNat < 0x20 then numberedEscape c.toNat
  else [c]

/-- What stands between the quotes; a token without text names half of a surrogate pair. -/
def escapeText : Text → List Char
  | some s => s.toList.flatMap escapeChar
  | none => numberedEscape 0xd800

/-- A number as it is written. -/
def Number.chars (n : Number) : List Char :=
  (if n.negative then ['-'] else []) ++ n.whole ++
    (if n.fraction.isEmpty then [] else '.' :: n.fraction) ++
    match n.exponent with
    | none => []
    | some (negative, digits) => 'e' :: (if negative then '-' else '+') :: digits

/-- A word as it is written. -/
def Token.chars : Token → List Char
  | .openBrace => ['\x7b']
  | .closeBrace => ['\x7d']
  | .openBracket => ['[']
  | .closeBracket => [']']
  | .colon => [':']
  | .comma => [',']
  | .null => ['n', 'u', 'l', 'l']
  | .bool true => ['t', 'r', 'u', 'e']
  | .bool false => ['f', 'a', 'l', 's', 'e']
  | .number n => n.chars
  | .string s => '"' :: escapeText s ++ ['"']

mutual

/-- The words of a value. -/
def tokens : Json → List Token
  | .null => [.null]
  | .bool b => [.bool b]
  | .number n => [.number n]
  | .string s => [.string s]
  | .array items => .openBracket :: tokensItems items
  | .object members => .openBrace :: tokensMembers members
  | .buried => []

/-- The words of the items with commas between them, and the closing bracket. -/
def tokensItems : List Json → List Token
  | [] => [.closeBracket]
  | [item] => item.tokens ++ [.closeBracket]
  | item :: rest => item.tokens ++ .comma :: tokensItems rest

/-- The words of the members with commas between them, and the closing brace. -/
def tokensMembers : List (Text × Json) → List Token
  | [] => [.closeBrace]
  | [(key, value)] => .string key :: .colon :: value.tokens ++ [.closeBrace]
  | (key, value) :: rest => .string key :: .colon :: value.tokens ++ .comma :: tokensMembers rest

end

/-- A value as a text without blanks. -/
def print (j : Json) : String := String.ofList (j.tokens.flatMap Token.chars)

end ColumnScan.Json
