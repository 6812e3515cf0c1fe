/-!
# Entries in the order of their keys

A map is its list of entries, ascending by key and with no two equal keys. `insert` puts one entry
in its place; an entry whose key is already there keeps the old key and takes the new value.
-/

namespace ColumnScan.Entries

variable {κ ν : Type}

/-- The entries with one more put in. -/
def insert (cmp : κ → κ → Ordering) (key : κ) (value : ν) : List (κ × ν) → List (κ × ν)
  | [] => [(key, value)]
  | (k, v) :: rest =>
    match cmp key k with
    | .lt => (key, value) :: (k, v) :: rest
    | .eq => (k, value) :: rest
    | .gt => (k, v) :: insert cmp key value rest

/-- The entries of a list of pairs, put in one after the other. -/
def ofList (cmp : κ → κ → Ordering) (pairs : List (κ × ν)) : List (κ × ν) :=
  pairs.foldl (fun entries p => insert cmp p.1 p.2 entries) []

/-- Keys strictly ascend. -/
def Ascending (cmp : κ → κ → Ordering) (entries : List (κ × ν)) : Prop :=
  entries.Pairwise fun a b => cmp a.1 b.1 = .lt

end ColumnScan.Entries
