import SqlClient.Error
import SqlClient.Marker.Search

/-!
# Parameter markers

A SQL text marks its parameters with `?`, or with `:` and a name of word characters.  They are what
a search for them finds, from left to right.  Quotes and comments have no meaning here.

`Marker.scan` accepts a text whose markers are all of one form and as many as the server reported
parameters.
-/

namespace SqlClient

/-- A marker in a SQL text. -/
inductive Marker where
  | positional
  | named (name : String)
  deriving DecidableEq, Repr

namespace Marker

/-- The name of a named marker. -/
def name? : Marker → Option String
  | positional => none
  | named name => some name

/-- The marker as it stands in the text. -/
def text : Marker → String
  | positional => "?"
  | named name => ":" ++ name

/-- The marker that a match stands for: what is behind a colon is a name. -/
def ofMatch (found : List Char) : Marker :=
  match found with
  | ':' :: name => named (String.ofList name)
  | _ => positional

/-- The markers of a SQL text. -/
def find (search : Search) (sql : String) : List Marker :=
  (search.find sql).map fun found => ofMatch found.toList

/-- Both forms occur. -/
def mixed (markers : List Marker) : Bool :=
  markers.any (·.name?.isSome) && markers.any (·.name?.isNone)

/-- The markers of a text with `count` parameters.  A mixture of both forms is refused first,
whatever the count. -/
def scan (search : Search) (sql : String) (count : Nat) : Except Error (List Marker) :=
  let markers := find search sql
  if mixed markers then .error .mixedMarkers
  else if count < markers.length then .error (.tooManyMarkers markers.length count)
  else if markers.length < count then .error (.missingMarkers markers.length count)
  else .ok markers

end Marker
end SqlClient
