import ColumnScan.Json.Numeric

/-!
# Records and choices in JSON

How the values of a program are found in a JSON value. A record is an object whose known members
occur at most once, unknown ones being passed over, or an array of the members in their declared
order that may stop early. A choice is the name of an alternative, or an object with that name as
its only key; an alternative without content may carry a null.
-/

namespace ColumnScan.Json

variable {α : Type}

/-- The member with this name: `none` if it occurs twice, `some none` if it is missing. -/
def member? (members : List (Text × α)) (name : String) : Option (Option α) :=
  match members.filter fun m => m.1 == some name with
  | [] => some none
  | [m] => some (some m.2)
  | _ => none

/-- The members with these names in this order; every key must have a text. -/
def membersNamed? (names : List String) (members : List (Text × α)) : Option (List (Option α)) :=
  if members.all (·.1.isSome) then names.mapM (member? members) else none

/-- The members by position; those that an array leaves off are missing. -/
def membersInOrder? (names : List String) (items : List α) : Option (List (Option α)) :=
  if items.length ≤ names.length then
    some (items.map some ++ List.replicate (names.length - items.length) none)
  else none

/-- The members of a record, in the order of the given names. -/
def record? (names : List String) : Json → Option (List (Option Json))
  | .object members => membersNamed? names members
  | .array items => membersInOrder? names items
  | _ => none

/-- The content of a choice if it is the alternative with this name. -/
def choice? (name : String) : Json → Option Json
  | .object [(some key, content)] => if key = name then some content else none
  | _ => none

/-- The name of an alternative without content. -/
def plainChoice? : Json → Option String
  | .string name => name
  | .object [(some name, .null)] => some name
  | _ => none

/-- A choice with content. -/
def choice (name : String) (content : Json) : Json := ofMembers [(name, content)]

/-- A text. -/
def toText? : Json → Option String
  | .string s => s
  | _ => none

/-- A truth value. -/
def toBool? : Json → Option Bool
  | .bool b => some b
  | _ => none

/-- An integer within bounds, both included. -/
def toIntWithin? (least greatest : Int) : Json → Option Int
  | .number n => n.toInt?.filter fun i => decide (least ≤ i) && decide (i ≤ greatest)
  | _ => none

/-- A natural number of so many bits. -/
def toNat? (bits : Nat) (j : Json) : Option Nat := (toIntWithin? 0 (twoPow bits - 1) j).map Int.toNat

/-- A floating-point number. -/
def toDouble? : Json → Option Ieee.Double
  | .number n => n.toDouble?
  | _ => none

/-- A list of values. -/
def toList? (decode : Json → Option α) : Json → Option (List α)
  | .array items => items.mapM decode
  | _ => none

/-- A value or null. -/
def toOption? (decode : Json → Option α) : Json → Option (Option α)
  | .null => some none
  | j => (decode j).map some

/-- A floating-point number; what is not finite becomes null. -/
def ofDouble (x : Ieee.Double) : Json :=
  if x.isFinite then .number (Number.ofDouble x) else .null

/-- A value or null. -/
def ofOption (encode : α → Json) : Option α → Json
  | none => .null
  | some a => encode a

end ColumnScan.Json
