import SqlClient.Error
import SqlClient.Text.Blank
import SqlClient.Text.Casing

/-!
# Statement options

Options say how the result sets of a statement behave.  Each may be left open; merging lets a
later setting win over an earlier one.
-/

namespace SqlClient

/-- How a cursor may move over a result set. -/
inductive ScrollMode where
  | forwardOnly
  | sensitive
  | insensitive
  deriving DecidableEq, Repr

namespace ScrollMode

/-- Every mode. -/
def all : List ScrollMode := [forwardOnly, sensitive, insensitive]

/-- The words for a mode. -/
def name : ScrollMode → String
  | forwardOnly => "FORWARD ONLY"
  | sensitive => "SCROLL SENSITIVE"
  | insensitive => "SCROLL INSENSITIVE"

/-- The mode with these words, in any case and with white space around them. -/
def read (words : String) : Except Error ScrollMode :=
  match all.find? fun mode => Text.sameName mode.name (Text.trim words) with
  | some mode => .ok mode
  | none => .error (.invalidOption (.unknownScrollMode words))

end ScrollMode

/-- How rows of a result set may be changed. -/
inductive Concurrency where
  | readOnly
  | updatable
  | updatableLockOptimistic
  deriving DecidableEq, Repr

namespace Concurrency

/-- Every level. -/
def all : List Concurrency := [readOnly, updatable, updatableLockOptimistic]

/-- The words for a level. -/
def name : Concurrency → String
  | readOnly => "READ ONLY"
  | updatable => "UPDATABLE"
  | updatableLockOptimistic => "UPDATABLE LOCK OPTIMISTIC"

/-- The level with these words, in any case and with white space around them. -/
def read (words : String) : Except Error Concurrency :=
  match all.find? fun level => Text.sameName level.name (Text.trim words) with
  | some level => .ok level
  | none => .error (.invalidOption (.unknownConcurrency words))

end Concurrency

/-- The options of a statement; those left open keep the default of the server. -/
structure Options where
  cursorName : Option String
  /-- The most rows a query gives; zero means all of them. -/
  maxRows : Option Nat
  scrollMode : Option ScrollMode
  concurrency : Option Concurrency
  /-- Rows per round trip. -/
  fetchSize : Option Nat
  deriving DecidableEq, Repr

namespace Options

/-- All options left open. -/
def empty : Options := ⟨none, none, none, none, none⟩

/-- The largest fetch size. -/
def maxFetchSize : Nat := 32767

/-- Set the fetch size, if it lies in its range. -/
def withFetchSize (options : Options) (rows : Int) : Except Error Options :=
  if 0 ≤ rows ∧ rows ≤ maxFetchSize then .ok { options with fetchSize := some rows.toNat }
  else .error (.invalidOption (.fetchSize rows maxFetchSize))

/-- Options written by a user: the words for mode and level and any number for the fetch
size. -/
structure Draft where
  cursorName : Option String
  maxRows : Option Nat
  scrollMode : Option String
  concurrency : Option String
  fetchSize : Option Int
  deriving DecidableEq, Repr

/-- The options a draft describes.  Mode, level and fetch size are checked in this order. -/
def Draft.build (draft : Draft) : Except Error Options := do
  let scrollMode ← draft.scrollMode.mapM ScrollMode.read
  let concurrency ← draft.concurrency.mapM Concurrency.read
  let options : Options :=
    { cursorName := draft.cursorName, maxRows := draft.maxRows, scrollMode, concurrency
      fetchSize := none }
  match draft.fetchSize with
  | none => return options
  | some rows => options.withFetchSize rows

/-- The options with those that `later` sets replaced. -/
def merge (options later : Options) : Options where
  cursorName := later.cursorName <|> options.cursorName
  maxRows := later.maxRows <|> options.maxRows
  scrollMode := later.scrollMode <|> options.scrollMode
  concurrency := later.concurrency <|> options.concurrency
  fetchSize := later.fetchSize <|> options.fetchSize

@[simp] theorem merge_empty (options : Options) : options.merge empty = options := rfl

@[simp] theorem empty_merge (options : Options) : empty.merge options = options := by
  rcases options with ⟨a, b, c, d, e⟩
  cases a <;> cases b <;> cases c <;> cases d <;> cases e <;> rfl

theorem merge_assoc (a b c : Options) : (a.merge b).merge c = a.merge (b.merge c) := by
  simp [merge, Option.or_assoc]

end Options
end SqlClient
