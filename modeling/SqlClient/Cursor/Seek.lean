/-!
# Moves of a cursor
-/

namespace SqlClient

/-- A move of a cursor. -/
inductive Seek where
  | next
  | previous
  | first
  | last
  /-- To a row by its number from one; negative numbers count from the end. -/
  | absolute (row : Int64)
  /-- By a signed number of rows. -/
  | relative (distance : Int64)
  deriving DecidableEq, Repr

/-- The move in words. -/
def Seek.text : Seek → String
  | .next => "NEXT"
  | .previous => "PREVIOUS"
  | .first => "FIRST"
  | .last => "LAST"
  | .absolute row => "ABSOLUTE " ++ toString row.toInt
  | .relative distance => "RELATIVE " ++ toString distance.toInt

/-- Where the server stands after a move. -/
inductive SeekStatus where
  | row
  | noData
  deriving DecidableEq, Repr

end SqlClient
