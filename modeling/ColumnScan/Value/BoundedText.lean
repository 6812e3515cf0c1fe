/-!
# Bounded text

Text with a declared largest number of characters. Making one cuts off what is too long and never
pads; the bound stays part of the value.
-/

namespace ColumnScan

/-- A text of at most `limit` characters. -/
structure BoundedText where
  value : String
  limit : UInt32
  length_le : value.length ≤ limit.toNat
deriving DecidableEq

namespace BoundedText

/-- The first `limit` characters of a text, with that bound. -/
def cut (text : String) (limit : UInt32) : BoundedText where
  value := String.ofList (text.toList.take limit.toNat)
  limit := limit
  length_le := by rw [String.length_ofList]; exact List.length_take_le ..

theorem cut_value_of_le {s : String} {n : UInt32} (h : s.length ≤ n.toNat) :
    (cut s n).value = s := by
  have h' : s.toList.take n.toNat = s.toList := List.take_of_length_le (by rw [String.length_toList]; exact h)
  simp [cut, h']

/-- By text, then by bound. -/
def cmp (a b : BoundedText) : Ordering :=
  (compare a.value b.value).then (compare a.limit.toNat b.limit.toNat)

end BoundedText

end ColumnScan
