/-!
# Three-valued truth

The verdict of a predicate over a row: yes, no, or unknown when a null was compared. The connectives
are Kleene's: a conjunction is decided by one no, a disjunction by one yes, and unknown is its own
negation.
-/

namespace ColumnScan

/-- A verdict. -/
inductive Truth where
  | yes
  | no
  | unknown
deriving DecidableEq, Repr, Inhabited

namespace Truth

/-- Conjunction. -/
def conj : Truth → Truth → Truth
  | .no, _ | _, .no => .no
  | .unknown, _ | _, .unknown => .unknown
  | .yes, .yes => .yes

/-- Disjunction. -/
def disj : Truth → Truth → Truth
  | .yes, _ | _, .yes => .yes
  | .unknown, _ | _, .unknown => .unknown
  | .no, .no => .no

/-- Negation. -/
def neg : Truth → Truth
  | .yes => .no
  | .no => .yes
  | .unknown => .unknown

/-- The verdict of a decided question. -/
def ofBool (b : Bool) : Truth := if b then .yes else .no

/-- Whether the verdict is yes. -/
def isYes : Truth → Bool
  | .yes => true
  | _ => false

/-- A verdict as it is shown. -/
def text : Truth → String
  | .yes => "YES"
  | .no => "NO"
  | .unknown => "UNKNOWN"

/-- The conjunction of verdicts, yes if there is none. -/
def all (verdicts : List Truth) : Truth := verdicts.foldl conj .yes

/-- The disjunction of verdicts, no if there is none. -/
def any (verdicts : List Truth) : Truth := verdicts.foldl disj .no

end Truth

end ColumnScan
