import SqlClient.Statement
import SqlClient.Text.Visible

/-!
# Texts for diagnosis

States written out for a reader of logs, as records with named fields.
-/

namespace SqlClient.Diagnostics

/-- A record with named fields on one line. -/
def record (name : String) (fields : List (String × String)) : String :=
  let body := String.intercalate ", " (fields.map fun (field, text) => field ++ ": " ++ text)
  name ++ " \x7b " ++ body ++ " \x7d"

/-- Texts as a list in brackets. -/
def list (texts : List String) : String := "[" ++ String.intercalate ", " texts ++ "]"

/-- A text or the word for its absence. -/
def optional : Option String → String
  | some text => "Some(" ++ text ++ ")"
  | none => "None"

/-- A character as it stands between quotes.  What cannot be seen there is given by its code
point. -/
def escaped (c : Char) : String :=
  if c = '"' then "\\\""
  else if c = '\\' then "\\\\"
  else if c = '\t' then "\\t"
  else if c = '\n' then "\\n"
  else if c = '\r' then "\\r"
  else if c = '\x00' then "\\0"
  else if Text.isVisible c then String.singleton c
  else "\\u\x7b" ++ String.ofList (Nat.toDigits 16 c.toNat) ++ "\x7d"

/-- A text in quotes. -/
def quoted (s : String) : String := "\"" ++ String.join (s.toList.map escaped) ++ "\""

/-- A truth value. -/
def flag (b : Bool) : String := if b then "true" else "false"

/-- The kind of a large object. -/
def lobKind : LobKind → String
  | .binary => "Binary"
  | .character => "Character"

/-- A LOB handle with the number of its aliases. -/
def lobHandle {σ : Type} (h : LobHandle σ) : String :=
  record "LobHandle"
    [("kind", lobKind h.kind), ("open", flag h.isOpen), ("refs", toString h.aliases)]

/-- Where a cursor stands. -/
def standing : Standing → String
  | .unpositioned => "Unpositioned"
  | .onRow => "OnRow"
  | .beforeFirst => "BeforeFirst"
  | .afterLast => "AfterLast"

/-- A cursor. -/
def cursor {ρ : Type} (c : Cursor ρ) : String :=
  record "Cursor"
    [("columns", list (c.columns.map fun column => quoted column.label)),
      ("state", standing c.standing), ("closed", flag c.isClosed)]

/-- The freedom of a cursor. -/
def scrollMode : ScrollMode → String
  | .forwardOnly => "ForwardOnly"
  | .sensitive => "ScrollSensitive"
  | .insensitive => "ScrollInsensitive"

/-- How rows may be changed. -/
def concurrency : Concurrency → String
  | .readOnly => "ReadOnly"
  | .updatable => "Updatable"
  | .updatableLockOptimistic => "UpdatableLockOptimistic"

/-- Options. -/
def options (o : Options) : String :=
  record "ResultSetConfig"
    [("cursor_name", optional (o.cursorName.map quoted)),
      ("max_rows", optional (o.maxRows.map toString)),
      ("result_set_type", optional (o.scrollMode.map scrollMode)),
      ("concurrency", optional (o.concurrency.map concurrency)),
      ("fetch_size", optional (o.fetchSize.map toString))]

/-- A statement. -/
def statement (s : Statement) : String :=
  let form := s.link.map fun link => if link.parameters.isSome then "prepared" else "direct"
  record "Statement"
    [("kind", optional (form.map quoted)), ("cursor", optional (s.cursor.map cursor)),
      ("config", options s.options)]

/-- What an execution came to. -/
def execution : Scripted.Execution → String
  | .query _ => "Query(..)"
  | .update rowsAffected => record "Update" [("rows_affected", toString rowsAffected)]

end SqlClient.Diagnostics
