import ColumnScan.Value.Native
import ColumnScan.Value.Stored

/-!
# Fingerprints

What a value contributes to a hash, as a list of marks. A composite tells its size before its
parts, a floating-point number gives its bits and a decimal its digits without needless zeros, so
that values which are the same have the same fingerprint.
-/

namespace ColumnScan

/-- One contribution to a hash. -/
inductive Mark where
  | number (value : Int)
  | text (value : String)
deriving DecidableEq, Repr

namespace Scalar

/-- The marks of a scalar without its kind. -/
def marks : Scalar → List Mark
  | .boolean b => [.number (if b then 1 else 0)]
  | .byte n => [.number n.toInt]
  | .short n => [.number n.toInt]
  | .int n => [.number n.toInt]
  | .long n => [.number n.toInt]
  | .float x => [.number x.bits.toNat]
  | .double x => [.number x.bits.toNat]
  | .string s => [.text s]
  | .binary bytes => .number bytes.length :: bytes.map fun b => .number b.toNat
  | .decimal d => [.number d.normalize.unscaled, .number d.normalize.scale]

end Scalar

/-- The fingerprint of a decimal on its own. -/
def Decimal.fingerprint (d : Decimal) : List Mark := (Scalar.decimal d).marks

namespace Native

mutual

/-- The fingerprint of a value: its kind and its content. -/
def fingerprint : Native → List Mark
  | .null => [.number 0]
  | .scalar s => .number s.rank :: s.marks
  | .date d => [.number 10, .number d.year, .number d.month, .number d.day]
  | .timestamp t =>
    [.number 11, .number t.date.year, .number t.date.month, .number t.date.day, .number t.hour,
     .number t.minute, .number t.second, .number t.nano]
  | .list items => .number 13 :: .number items.length :: fingerprintList items
  | .map entries => .number 14 :: .number entries.length :: fingerprintEntries entries

/-- The fingerprints of the items. -/
def fingerprintList : List Native → List Mark
  | [] => []
  | v :: rest => v.fingerprint ++ fingerprintList rest

/-- The fingerprints of keys and values. -/
def fingerprintEntries : List (Native × Native) → List Mark
  | [] => []
  | (k, v) :: rest => k.fingerprint ++ v.fingerprint ++ fingerprintEntries rest

end

end Native

namespace Stored

/-- The marks of a bounded text. -/
def textMarks (s : BoundedText) : List Mark := [.text s.value, .number s.limit.toNat]

mutual

/-- The fingerprint of a value: its kind and its content. -/
def fingerprint : Stored → List Mark
  | .null => [.number 0]
  | .scalar s => .number s.rank :: s.marks
  | .date days => [.number 10, .number days.toInt]
  | .timestamp nanos => [.number 11, .number nanos.toInt]
  | .char s => .number 13 :: textMarks s
  | .varchar s => .number 14 :: textMarks s
  | .struct children => .number 15 :: .number children.length :: fingerprintList children
  | .list items => .number 16 :: .number items.length :: fingerprintList items
  | .map entries => .number 17 :: .number entries.length :: fingerprintEntries entries
  | .union tag value => .number 18 :: .number tag.toNat :: value.fingerprint

/-- The fingerprints of the items. -/
def fingerprintList : List Stored → List Mark
  | [] => []
  | v :: rest => v.fingerprint ++ fingerprintList rest

/-- The fingerprints of keys and values. -/
def fingerprintEntries : List (Stored × Stored) → List Mark
  | [] => []
  | (k, v) :: rest => k.fingerprint ++ v.fingerprint ++ fingerprintEntries rest

end

end Stored

end ColumnScan
