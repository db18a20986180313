import SqlClient.Parameter.Arguments
import SqlClient.Parameter.Basic

/-!
# The parameters of a statement

Markers and server descriptions are paired in order.  Binding first decides which slot of the
arguments each parameter takes: the same position, or the name of its marker, where repeated
markers take repeated names in order.  Then the arguments are written into the buffers one
parameter after the other; a failure leaves those before it bound.

Outputs are all read before the first is written back, so a failure changes no argument.
-/

namespace SqlClient

/-- The parameters of a prepared statement. -/
structure Parameters where
  items : List Parameter
  /-- The statement uses names. -/
  named : Bool
  /-- The slot each parameter took in the last binding that got so far. -/
  slots : List Nat
  deriving DecidableEq, Repr

namespace Parameters

/-- The parameters of a SQL text with the descriptions the server gives. -/
def ofDescriptions (search : Marker.Search) (sql : String) (ds : List ParameterDescription) :
    Except Error Parameters := do
  let markers ← Marker.scan search sql ds.length
  let items ← (ds.zip markers).mapM fun (d, marker) => Parameter.ofDescription d (some marker)
  return { items, named := items.head?.any (·.name.isSome), slots := [] }

/-- The number of parameters. -/
def size (ps : Parameters) : Nat := ps.items.length

/-- The parameter at an index counted from zero. -/
def get? (ps : Parameters) (index : Nat) : Option Parameter := ps.items[index]?

/-- The index of the first parameter of a name. -/
def indexOf? (ps : Parameters) (name : String) : Option Nat :=
  ps.items.findIdx? (·.answersTo name)

/-- A parameter and the slot it has taken, if it has one. -/
abbrev Seat := Parameter × Option Nat

/-- Give a slot to the first parameter of a name that has none. -/
def seat (name : String) (slot : Nat) : List Seat → Option (List Seat)
  | [] => none
  | (p, taken) :: rest =>
    if taken.isNone && p.answersTo name then some ((p, some slot) :: rest)
    else (seat name slot rest).map ((p, taken) :: ·)

/-- Give the slots from `slot` on to the names in order.  The first name that finds no free
parameter is the error. -/
def seatAll (slot : Nat) (seats : List Seat) : List String → Except Error (List Seat)
  | [] => .ok seats
  | name :: names =>
    match seat name slot seats with
    | none => .error (.parameterNotFound name)
    | some seats => seatAll (slot + 1) seats names

/-- The slot of each parameter when the arguments have these names. -/
def slotsByName (items : List Parameter) (names : List String) : Except Error (List Nat) :=
  (seatAll 0 (items.map fun p => (p, none)) names).map fun seats => seats.filterMap (·.2)

/-- The slot of each parameter for these arguments.  Their number is checked first. -/
def slotsFor (ps : Parameters) (args : Arguments) : Except Error (List Nat) :=
  if args.size ≠ ps.size then .error (.argumentCount ps.size args.size ps.named)
  else
    match args with
    | .positional _ =>
      if ps.named then .error .namedArgumentsRequired else .ok (List.range ps.size)
    | .named entries => slotsByName ps.items (entries.map (·.1))

/-- Bind values to parameters from a position on. -/
def bindFrom (position : Nat) : List Parameter → List Value →
    EStateM.Result Error (List Parameter) Unit
  | p :: rest, v :: values =>
    match p.bind position v with
    | .error e => .error e (p :: rest)
    | .ok p =>
      match bindFrom (position + 1) rest values with
      | .error e rest => .error e (p :: rest)
      | .ok () rest => .ok () (p :: rest)
  | items, _ => .ok () items

/-- Bind arguments to the parameters. -/
def bind (args : Arguments) : EStateM Error Parameters Unit := fun ps =>
  match ps.slotsFor args with
  | .error e => .error e ps
  | .ok slots =>
    match bindFrom 1 ps.items (slots.map args.get) with
    | .error e items => .error e { ps with items, slots }
    | .ok () items => .ok () { ps with items, slots }

/-- What is shared with the server, parameter by parameter. -/
def bindings (ps : Parameters) : List Binding := ps.items.map (·.binding)

/-- The parameters after the server has used their bindings. -/
def withBindings (ps : Parameters) (bindings : List Binding) : Parameters :=
  { ps with items := ps.items.zipWith (fun p binding => { p with binding }) bindings }

/-- The slot and value of every output. -/
def outputs (ps : Parameters) : Except Error (List (Nat × Value)) :=
  ((ps.items.zip ps.slots).filter fun (p, _) => p.binding.mode.isOutput).mapM
    fun (p, slot) => p.output.map fun v => (slot, v)

/-- The arguments with outputs in their slots, if they have those slots. -/
def assign (args : Arguments) : List (Nat × Value) → Except Error Arguments
  | [] => .ok args
  | (slot, v) :: rest =>
    if slot < args.size then assign (args.set slot v) rest
    else .error (.slotOutOfRange slot args.size)

/-- The arguments with the outputs of the parameters written back.  Each goes to the slot its
parameter took in the last binding that got so far, which arguments bound later may not have. -/
def writeBack (ps : Parameters) (args : Arguments) : Except Error Arguments :=
  ps.outputs.bind (assign args)

/-- Write into the buffer at an index, as the server does. -/
def writeBuffer (index : Nat) (write : Binding → Except Error Buffer) :
    EStateM Error Parameters Unit := fun ps =>
  match ps.items[index]? with
  | none => .ok () ps
  | some p =>
    match write p.binding with
    | .error e => .error e ps
    | .ok buffer =>
      .ok () { ps with items := ps.items.set index { p with binding := { p.binding with buffer } } }

/-- Write a value into the buffer at an index. -/
def fill (index : Nat) (v : Value) : EStateM Error Parameters Unit :=
  writeBuffer index fun binding => binding.buffer.encode binding.host v

/-- Write bytes into the buffer at an index. -/
def fillBytes (index : Nat) (data : Bytes) : EStateM Error Parameters Unit :=
  writeBuffer index fun binding => binding.buffer.putBytes data

end Parameters
end SqlClient
