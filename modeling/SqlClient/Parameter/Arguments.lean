import SqlClient.Value

/-!
# Arguments

The values given to one execution of a prepared statement, by position or by name.  The place of
an argument in the list is its slot.
-/

namespace SqlClient

/-- Arguments of one execution. -/
inductive Arguments where
  /-- One value per parameter, in their order. -/
  | positional (values : List Value)
  /-- Values with the names of their markers, with or without the colon. -/
  | named (entries : List (String × Value))
  deriving DecidableEq, Repr

namespace Arguments

/-- The values, slot by slot. -/
def values : Arguments → List Value
  | positional values => values
  | named entries => entries.map (·.2)

/-- The number of arguments. -/
def size (args : Arguments) : Nat := args.values.length

/-- The value in a slot. -/
def get (args : Arguments) (slot : Nat) : Value := args.values[slot]?.getD .null

/-- The arguments with another value in a slot. -/
def set (args : Arguments) (slot : Nat) (v : Value) : Arguments :=
  match args with
  | positional values => positional (values.set slot v)
  | named entries => named (entries.modify slot fun (name, _) => (name, v))

end Arguments
end SqlClient
