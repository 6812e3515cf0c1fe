import ColumnScan.Text.CaseMap.Context
import ColumnScan.Text.CaseMap.Table

/-!
# Lower and upper case of a text

Every character is mapped by the tables on its own, with one exception: a capital sigma becomes the
final small sigma when it ends a word and the ordinary one otherwise. Names of columns are compared
through `lowercase`.
-/

namespace ColumnScan.Text

/-- The capital sigma, whose lower case depends on what surrounds it. -/
def capitalSigma : Char := '\u03a3'

/-- The small sigma inside a word. -/
def smallSigma : Char := '\u03c3'

/-- The small sigma at the end of a word. -/
def finalSigma : Char := '\u03c2'

/-- Whether the first character that is not skipped has a case; the text is read away from the
sigma. -/
def meetsCased (cs : List Char) : Bool :=
  match cs.dropWhile caseIgnorable.has with
  | [] => false
  | c :: _ => cased.has c

/-- Lower case of the rest of a text, `before` holding what was passed, nearest character first. -/
def lowerFrom (before : List Char) : List Char → List Char
  | [] => []
  | c :: rest =>
    let here :=
      if c = capitalSigma then
        if meetsCased before && !meetsCased rest then [finalSigma] else [smallSigma]
      else lowerTable.apply c
    here ++ lowerFrom (c :: before) rest

/-- A text in lower case. -/
def lowercase (s : String) : String := String.ofList (lowerFrom [] s.toList)

/-- A text in upper case. -/
def uppercase (s : String) : String := String.ofList (s.toList.flatMap upperTable.apply)

/-- Whether two texts differ at most in the case of the letters a to z. -/
def equalIgnoringAsciiCase (s t : String) : Bool :=
  s.toList.map Char.toLower == t.toList.map Char.toLower

theorem equalIgnoringAsciiCase_self (s : String) : equalIgnoringAsciiCase s s = true :=
  beq_self_eq_true _

end ColumnScan.Text
