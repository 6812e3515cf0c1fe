import ColumnScan.Json.Lexer

/-!
# Reading a JSON text

The words of a text are put together into a value by keeping the containers that are still open in a
stack. A text is one value and nothing else. Containers may be nested 127 deep: what is nested deeper has
to be in order all the same, but nothing of it is kept, so that a value that is skipped may be as deep as
it likes and one that is asked for may not.
-/

namespace ColumnScan.Json

/-- A container that is still open: what it holds so far, and for an object the key whose value is
being read. -/
inductive Frame where
  | array (done : List Json)
  | object (done : List (Text × Json)) (key : Text)

/-- How deep containers may be nested. -/
def maxDepth : Nat := 127

/-- What is kept of a container with these containers around it. -/
def keep (outer : List Frame) (container : Json) : Json :=
  if outer.length < maxDepth then container else .buried

mutual

/-- Reads a value; `stack` holds the containers around it, innermost first. -/
def readValue (stack : List Frame) : List Token → Option Json
  | .null :: rest => readRest stack .null rest
  | .bool b :: rest => readRest stack (.bool b) rest
  | .number n :: rest => readRest stack (.number n) rest
  | .string s :: rest => readRest stack (.string s) rest
  | .openBracket :: .closeBracket :: rest => readRest stack (keep stack (.array [])) rest
  | .openBracket :: rest => readValue (.array [] :: stack) rest
  | .openBrace :: .closeBrace :: rest => readRest stack (keep stack (.object [])) rest
  | .openBrace :: .string key :: .colon :: rest => readValue (.object [] key :: stack) rest
  | _ => none

/-- Goes on after a complete value. -/
def readRest : List Frame → Json → List Token → Option Json
  | [], value, [] => some value
  | .array done :: outer, value, .comma :: rest =>
    readValue (.array (done ++ [value]) :: outer) rest
  | .array done :: outer, value, .closeBracket :: rest =>
    readRest outer (keep outer (.array (done ++ [value]))) rest
  | .object done key :: outer, value, .comma :: .string next :: .colon :: rest =>
    readValue (.object (done ++ [(key, value)]) next :: outer) rest
  | .object done key :: outer, value, .closeBrace :: rest =>
    readRest outer (keep outer (.object (done ++ [(key, value)]))) rest
  | _, _, _ => none

end

/-- The value that a text holds. -/
def read (s : String) : Option Json := do
  let tokens ← lex s.toList
  readValue [] tokens

end ColumnScan.Json
