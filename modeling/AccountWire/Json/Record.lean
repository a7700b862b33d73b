import AccountWire.Json.Tree

/-!
# Reading typed records

A record is read from an object, or from an array that holds its fields in the order in which the
record names them.  Members of other names are skipped, whatever they hold; a field that appears
twice makes the record unreadable.  A field that does not appear has its default, unless it is
required.

A reader first asks for the record's fields (`Tree.fields?`) and then for each of them by name, so
the order of the members cannot matter.
-/

namespace AccountWire.Json

/-- The fields of a record, as they were found. -/
abbrev Fields := List (String × Tree)

/-- The members of an object with their names interpreted. -/
def nameMembers? (ms : List (StringText × Tree)) : Option Fields :=
  ms.mapM fun (k, t) => (stringText? k).map fun name => (name, t)

/-- The fields of a record with the given names. -/
def Tree.fields? (names : List String) : Tree → Option Fields
  | .obj ms => nameMembers? ms
  | .arr items => if items.length ≤ names.length then some (names.zip items) else none
  | _ => none

/-- The text of a string. -/
def Tree.text? : Tree → Option String
  | .string t => stringText? t
  | _ => none

/-- The truth value that a tree is. -/
def Tree.flag? : Tree → Option Bool
  | .bool b => some b
  | _ => none

/-- The natural number of at most 64 bits that a tree is. -/
def Tree.count? : Tree → Option Nat
  | .number t =>
    match t.number? with
    | some (.int n _) => if 0 ≤ n then some n.toNat else none
    | _ => none
  | _ => none

/-- The items of an array, each read by `read`. -/
def Tree.items? {α : Type} (read : Tree → Option α) : Tree → Option (List α)
  | .arr items => items.mapM read
  | _ => none

namespace Fields

/-- Reads the field of a name; `none` inside when there is no such field. -/
def find? {α : Type} (fs : Fields) (name : String) (read : Tree → Option α) : Option (Option α) :=
  match fs.filter (·.1 == name) with
  | [] => some none
  | [(_, t)] => (read t).map some
  | _ => none

/-- Reads a field that has a default. -/
def get? {α : Type} (fs : Fields) (name : String) (read : Tree → Option α) (absent : α) :
    Option α :=
  (fs.find? name read).map (·.getD absent)

/-- Reads a field that must be there. -/
def require? {α : Type} (fs : Fields) (name : String) (read : Tree → Option α) : Option α :=
  (fs.find? name read).bind id

/-- Reads a text, empty when absent. -/
def text? (fs : Fields) (name : String) : Option String := fs.get? name Tree.text? ""

/-- Reads a truth value, false when absent. -/
def flag? (fs : Fields) (name : String) : Option Bool := fs.get? name Tree.flag? false

/-- Reads a natural number, zero when absent. -/
def count? (fs : Fields) (name : String) : Option Nat := fs.get? name Tree.count? 0

/-- Reads a list, empty when absent. -/
def list? {α : Type} (fs : Fields) (name : String) (read : Tree → Option α) : Option (List α) :=
  fs.get? name (Tree.items? read) []

end Fields

end AccountWire.Json
