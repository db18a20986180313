import SqlClient.Column
import SqlClient.Value

/-!
# Rows

A row is a list of values together with the columns of the result set it came from.  It can be
read by position, by label, and as a map from labels to values.  A row may have fewer or more
values than columns; what has no partner is left out of the map.
-/

namespace SqlClient

/-- A fetched row. -/
structure Row where
  values : List Value
  columns : List Column
  deriving DecidableEq, Repr

namespace Row

/-- The value at a position counted from zero. -/
def get? (row : Row) (index : Nat) : Option Value := row.values[index]?

/-- The value under the first column with a label. -/
def find? (row : Row) (label : String) : Option Value :=
  (Column.indexOf? row.columns label).bind row.get?

/-- For each value whether it is NULL. -/
def nulls (row : Row) : List Bool := row.values.map Value.isNull

/-- The labels of the columns. -/
def labels (row : Row) : List String := row.columns.map Column.label

/-- An entry put into a map that is sorted by label.  An entry with the same label is
replaced. -/
def insertEntry {α : Type} (label : String) (a : α) : List (String × α) → List (String × α)
  | [] => [(label, a)]
  | (l, b) :: rest =>
    if label < l then (label, a) :: (l, b) :: rest
    else if label = l then (label, a) :: rest
    else (l, b) :: insertEntry label a rest

/-- Labels paired with what belongs to them, as a map: each label once, the last pair counts,
sorted by label. -/
def labelled {α : Type} (pairs : List (String × α)) : List (String × α) :=
  pairs.foldl (fun map (label, a) => insertEntry label a map) []

/-- The row as a map from labels to values. -/
def toMap (row : Row) : List (String × Value) := labelled (row.labels.zip row.values)

/-- The row as a map from labels to whether the value is NULL. -/
def nullMap (row : Row) : List (String × Bool) := labelled (row.labels.zip row.nulls)

end Row
end SqlClient
