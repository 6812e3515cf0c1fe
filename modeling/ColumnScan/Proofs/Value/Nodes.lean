import ColumnScan.Proofs.Companions
import ColumnScan.Value.Native
import ColumnScan.Value.Stored

/-!
# The values in a value

What is asked of every value inside a value, at any depth, is asked of the list of its nodes. Of
native values, `OrderedMaps` is what makes a map out of a list of entries, and `NoLeapSecond` keeps to
the times that a count of nanoseconds can tell; of stored values, `DatesInCalendar` keeps to the days
that are dates.
-/

namespace ColumnScan.Native

mutual

/-- The value and all values in it. -/
def nodes : Native → List Native
  | .list items => .list items :: nodesList items
  | .map entries => .map entries :: nodesEntries entries
  | value => [value]

/-- The items and all values in them. -/
def nodesList : List Native → List Native
  | [] => []
  | value :: rest => value.nodes ++ nodesList rest

/-- The keys and values of entries and all values in them. -/
def nodesEntries : List (Native × Native) → List Native
  | [] => []
  | (key, value) :: rest => key.nodes ++ value.nodes ++ nodesEntries rest

end

/-- The entries of every map in the value ascend strictly, as those of a map do. -/
def OrderedMaps (value : Native) : Prop :=
  ∀ entries, .map entries ∈ value.nodes → Entries.Ascending cmp entries

/-- No time in the value lies in a leap second. -/
def NoLeapSecond (value : Native) : Prop :=
  ∀ time, .timestamp time ∈ value.nodes → time.isLeapSecond = false

theorem gathers_nodes : Gathers nodes nodesList nodesEntries :=
  ⟨fun _ => eq_flatMap _, fun _ => eq_flatMap _⟩

theorem nodes_subset_list {items : List Native} {value : Native} (h : value ∈ items) :
    value.nodes ⊆ (list items).nodes :=
  List.subset_cons_of_subset _ (gathers_nodes.subset_items h)

theorem nodes_subset_map {entries : List (Native × Native)} {entry : Native × Native}
    (h : entry ∈ entries) :
    entry.1.nodes ⊆ (map entries).nodes ∧ entry.2.nodes ⊆ (map entries).nodes :=
  (gathers_nodes.subset_entries h).imp (List.subset_cons_of_subset _) (List.subset_cons_of_subset _)

end ColumnScan.Native

namespace ColumnScan.Stored

mutual

/-- The value and all values in it. -/
def nodes : Stored → List Stored
  | .struct children => .struct children :: nodesList children
  | .list items => .list items :: nodesList items
  | .map entries => .map entries :: nodesEntries entries
  | .union tag value => .union tag value :: value.nodes
  | value => [value]

/-- The items and all values in them. -/
def nodesList : List Stored → List Stored
  | [] => []
  | value :: rest => value.nodes ++ nodesList rest

/-- The keys and values of entries and all values in them. -/
def nodesEntries : List (Stored × Stored) → List Stored
  | [] => []
  | (key, value) :: rest => key.nodes ++ value.nodes ++ nodesEntries rest

end

/-- Every count of days in the value is that of a date of the calendar. -/
def DatesInCalendar (value : Stored) : Prop :=
  ∀ days, .date days ∈ value.nodes → ∃ d : Calendar.Date, d.toDays = days.toInt

theorem DatesInCalendar.of_subset {value part : Stored} (h : value.DatesInCalendar)
    (hpart : part.nodes ⊆ value.nodes) : part.DatesInCalendar :=
  fun days hm => h days (hpart hm)

theorem gathers_nodes : Gathers nodes nodesList nodesEntries :=
  ⟨fun _ => eq_flatMap _, fun _ => eq_flatMap _⟩

theorem nodes_subset_struct {children : List Stored} {value : Stored} (h : value ∈ children) :
    value.nodes ⊆ (struct children).nodes :=
  List.subset_cons_of_subset _ (gathers_nodes.subset_items h)

theorem nodes_subset_list {items : List Stored} {value : Stored} (h : value ∈ items) :
    value.nodes ⊆ (list items).nodes :=
  List.subset_cons_of_subset _ (gathers_nodes.subset_items h)

theorem nodes_subset_map {entries : List (Stored × Stored)} {entry : Stored × Stored}
    (h : entry ∈ entries) :
    entry.1.nodes ⊆ (map entries).nodes ∧ entry.2.nodes ⊆ (map entries).nodes :=
  (gathers_nodes.subset_entries h).imp (List.subset_cons_of_subset _) (List.subset_cons_of_subset _)

theorem nodes_subset_union (tag : UInt8) (value : Stored) :
    value.nodes ⊆ (union tag value).nodes :=
  List.subset_cons_self ..

end ColumnScan.Stored
