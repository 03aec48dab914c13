import LinkBus.Text.Digits

/-!
# TOML documents as trees

A document is a tree of tables. How a table came about decides how it may still grow: one opened by
a header takes no second header, one made by a dotted key grows by dotted keys only, one that only
leads to a deeper header may still be opened, and an inline table never grows.

Each operation answers `none` where TOML forbids the document.
-/

namespace LinkBus.Toml

/-- How a table came about. -/
inductive Form
  | header
  | implied
  | dotted
  | inline
  deriving DecidableEq, Repr

/-- A value of a document. -/
inductive Node
  | text (s : String)
  | integer (n : Int)
  | float
  | boolean (b : Bool)
  | dateTime
  | array (items : List Node)
  | tables (items : List (List (String × Node)))
  | table (form : Form) (entries : List (String × Node))

/-- The entries of a table: keys and values. -/
abbrev Entries := List (String × Node)

/-- Replaces the value of a key by what a function makes of it, or adds the key at the end. -/
def updateEntry (key : String) (f : Option Node → Option Node) : Entries → Option Entries
  | [] => (f none).map fun v => [(key, v)]
  | (k, v) :: rest =>
    if k = key then (f (some v)).map fun v => (k, v) :: rest
    else (updateEntry key f rest).map ((k, v) :: ·)

/-- Changes the last item of a list. -/
def updateLast {α : Type} (f : α → Option α) : List α → Option (List α)
  | [] => none
  | [a] => (f a).map ([·])
  | a :: rest => (updateLast f rest).map (a :: ·)

/-- Changes the entries found at the end of a row of header keys. Tables on the way are made where
there are none; of a list of tables the last one counts. -/
def changeAt : List String → (Entries → Option Entries) → Entries → Option Entries
  | [], f, entries => f entries
  | key :: rest, f, entries =>
    updateEntry key (fun
      | none => (changeAt rest f []).map (.table .implied)
      | some (.table form inner) =>
        if form = .inline then none else (changeAt rest f inner).map (.table form)
      | some (.tables items) => (updateLast (changeAt rest f) items).map .tables
      | some _ => none) entries

/-- Adds a value under a single key that is not taken. -/
def addFresh (key : String) (value : Node) : Entries → Option Entries :=
  updateEntry key fun
    | none => some value
    | some _ => none

/-- Adds a value under a dotted key. Tables on the way must not have been opened by a header, and
the one that takes the value must have been made by dotted keys. -/
def addDotted : (first : String) → (rest : List String) → Node → Entries → Option Entries
  | key, [], value => addFresh key value
  | key, next :: rest, value =>
    updateEntry key fun
      | none => (addDotted next rest value []).map (.table .dotted)
      | some (.table .dotted inner) => (addDotted next rest value inner).map (.table .dotted)
      | some (.table .implied inner) =>
        if rest.isEmpty then none else (addDotted next rest value inner).map (.table .implied)
      | some _ => none

/-- Opens a table by a header. It may have been implied by deeper headers before. -/
def openTable (key : String) : Entries → Option Entries :=
  updateEntry key fun
    | none => some (.table .header [])
    | some (.table .implied inner) => some (.table .header inner)
    | some _ => none

/-- Opens a further table of a list of tables. -/
def openItem (key : String) : Entries → Option Entries :=
  updateEntry key fun
    | none => some (.tables [[]])
    | some (.tables items) => some (.tables (items ++ [[]]))
    | some _ => none

end LinkBus.Toml
