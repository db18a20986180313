import SqlClient.Bytes

/-!
# UTF-8

A reader takes one byte at a time.  Between bytes it stands either at the start of a character or
inside one, where it knows the value read so far, how many bytes are still owed and between which
bounds the next one must lie.  A byte outside the bounds is refused.

Two readings share this machine.  `decode` is strict: it gives the characters of a well-formed
byte string, and otherwise says where the first ill-formed part starts and how long it is.
`decodeLossy` never fails: every maximal ill-formed part becomes one U+FFFD.
-/

namespace SqlClient.Utf8

/-- Why bytes are not the encoding of a text. -/
inductive Fault where
  /-- The `length` bytes at `index` begin no character. -/
  | invalid (length index : Nat)
  /-- The bytes end inside the character that starts at `index`. -/
  | incomplete (index : Nat)
  deriving DecidableEq, Repr

/-- The fault in words. -/
def Fault.message : Fault → String
  | .invalid length index => s!"invalid utf-8 sequence of {length} bytes from index {index}"
  | .incomplete index => s!"incomplete utf-8 byte sequence from index {index}"

/-- Where a reader stands between two bytes. -/
inductive State where
  /-- Between characters. -/
  | start
  /-- Inside a character: `taken` bytes gave `value`, the next byte lies between `low` and
  `high`, and `owed` more bytes follow it. -/
  | inside (taken value owed : Nat) (low high : UInt8)
  deriving DecidableEq, Repr

/-- What one byte does to a reader. -/
inductive Step where
  /-- The byte completes a character. -/
  | done (c : Char)
  /-- The byte belongs to a character that is not complete yet. -/
  | more (next : State)
  /-- No character has this byte here. -/
  | refused
  deriving DecidableEq, Repr

/-- The first byte of a character. -/
def lead (b : UInt8) : Step :=
  if b < 0x80 then .done (Char.ofNat b.toNat)
  else if b < 0xC2 then .refused
  else if b < 0xE0 then .more (.inside 1 (b.toNat - 0xC0) 0 0x80 0xBF)
  else if b = 0xE0 then .more (.inside 1 0 1 0xA0 0xBF)
  else if b = 0xED then .more (.inside 1 0xD 1 0x80 0x9F)
  else if b < 0xF0 then .more (.inside 1 (b.toNat - 0xE0) 1 0x80 0xBF)
  else if b = 0xF0 then .more (.inside 1 0 2 0x90 0xBF)
  else if b < 0xF4 then .more (.inside 1 (b.toNat - 0xF0) 2 0x80 0xBF)
  else if b = 0xF4 then .more (.inside 1 4 2 0x80 0x8F)
  else .refused

/-- One byte, from any state. -/
def State.step : State → UInt8 → Step
  | .start, b => lead b
  | .inside taken value owed low high, b =>
    if low ≤ b ∧ b ≤ high then
      let value := value * 64 + (b.toNat - 0x80)
      match owed with
      | 0 => .done (Char.ofNat value)
      | owed + 1 => .more (.inside (taken + 1) value owed 0x80 0xBF)
    else
      .refused

/-- Bytes of the current character read so far. -/
def State.taken : State → Nat
  | .start => 0
  | .inside taken .. => taken

/-- Strict reading from a state.  `index` is where the current character starts and `text` holds
the characters before it, last first. -/
def decodeFrom (state : State) (index : Nat) (text : List Char) : Bytes → Except Fault (List Char)
  | [] =>
    match state with
    | .start => .ok text.reverse
    | .inside .. => .error (.incomplete index)
  | b :: rest =>
    match state.step b with
    | .done c => decodeFrom .start (index + state.taken + 1) (c :: text) rest
    | .more next => decodeFrom next index text rest
    | .refused => .error (.invalid (max 1 state.taken) index)

/-- The text a byte string encodes. -/
def decode (bytes : Bytes) : Except Fault String :=
  (decodeFrom .start 0 [] bytes).map String.ofList

/-- The character that stands for an ill-formed part. -/
def replacement : Char := '\uFFFD'

/-- Lossy reading from a state; `text` holds the characters so far, last first.  A byte refused
inside a character ends an ill-formed part and is read again as a first byte. -/
def decodeLossyFrom (state : State) (text : List Char) : Bytes → List Char
  | [] =>
    match state with
    | .start => text.reverse
    | .inside .. => (replacement :: text).reverse
  | b :: rest =>
    match state.step b with
    | .done c => decodeLossyFrom .start (c :: text) rest
    | .more next => decodeLossyFrom next text rest
    | .refused =>
      match state with
      | .start => decodeLossyFrom .start (replacement :: text) rest
      | .inside .. =>
        match lead b with
        | .done c => decodeLossyFrom .start (c :: replacement :: text) rest
        | .more next => decodeLossyFrom next (replacement :: text) rest
        | .refused => decodeLossyFrom .start (replacement :: replacement :: text) rest

/-- The text of any byte string, with U+FFFD for every maximal ill-formed part. -/
def decodeLossy (bytes : Bytes) : String :=
  String.ofList (decodeLossyFrom .start [] bytes)

/-- The bytes of a text. -/
def encode (text : String) : Bytes :=
  text.toList.flatMap String.utf8EncodeChar

/-- The number of bytes of a character. -/
def width (c : Char) : Nat := c.utf8Size

end SqlClient.Utf8
