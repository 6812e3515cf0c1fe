import ColumnScan.Decimal.Basic

/-!
# Order of decimals

Decimals are ordered as numbers. The whole parts are compared first; only if they agree are the
remainders brought to the wider scale, where they stay below ten to that scale, so no step needs
more than 128 bits.
-/

namespace ColumnScan.Decimal

/-- The whole part, cut toward zero. -/
def whole (d : Decimal) : Int := d.unscaled.tdiv (tenPow d.scale)

/-- What the whole part leaves, in units of the last place; it has the sign of the number. -/
def remainder (d : Decimal) : Int := d.unscaled.tmod (tenPow d.scale)

/-- The remainder in units of a place at or beyond the last one. -/
def remainderAt (d : Decimal) (scale : Nat) : Int := d.remainder * tenPow (scale - d.scale)

/-- The order of the numbers. -/
def cmp (a b : Decimal) : Ordering :=
  if a.scale = b.scale then compare a.unscaled b.unscaled
  else
    (compare a.whole b.whole).then
      (compare (a.remainderAt (max a.scale b.scale)) (b.remainderAt (max a.scale b.scale)))

instance : Ord Decimal := ⟨cmp⟩

theorem cmp_of_scale_eq {a b : Decimal} (h : a.scale = b.scale) :
    a.cmp b = compare a.unscaled b.unscaled := if_pos h

end ColumnScan.Decimal
