import AccountWire.Json.Token

/-!
# The tree of a JSON text

`Tree` is the shape of a JSON text with its numbers and strings left as written, nested as deeply
as the text pleases and with the members of every object in the order of the text, repetitions
included.  It is what all readers share:

* `Json.ofTree?` makes a value of it, which limits the depth and interprets everything;
* a reader of typed records (`Json/Record`) looks only at the members that it knows.

The tree is built by a machine that takes one token at a time and keeps the arrays and objects that
are still open on a stack.
-/

namespace AccountWire.Json

/-- The shape of a JSON text. -/
inductive Tree where
  | null
  | bool (b : Bool)
  | number (t : NumberText)
  | string (t : StringText)
  | arr (items : List Tree)
  | obj (members : List (StringText × Tree))

namespace Tree

instance : Inhabited Tree := ⟨.null⟩

/-- An array or object that is still open, its contents last first. -/
inductive Open where
  | arr (items : List Tree)
  | obj (members : List (StringText × Tree))
  /-- An object that waits for the value of a member. -/
  | member (members : List (StringText × Tree)) (name : StringText)

/-- What may come next. -/
inductive State where
  /-- A value. -/
  | value (stack : List Open)
  /-- A value, or the end of the array that was just opened. -/
  | firstItem (stack : List Open)
  /-- A name, or the end of the object that was just opened. -/
  | firstName (stack : List Open)
  /-- A name. -/
  | nextName (members : List (StringText × Tree)) (stack : List Open)
  /-- A colon after a name. -/
  | colon (members : List (StringText × Tree)) (name : StringText) (stack : List Open)
  /-- A comma, or the end of the innermost array. -/
  | moreItems (items : List Tree) (stack : List Open)
  /-- A comma, or the end of the innermost object. -/
  | moreMembers (members : List (StringText × Tree)) (stack : List Open)
  /-- Nothing. -/
  | done (t : Tree)

/-- Puts a finished value into the innermost open array or object. -/
def deliver (t : Tree) : List Open → Option State
  | [] => some (.done t)
  | .arr items :: stack => some (.moreItems (t :: items) stack)
  | .member members name :: stack => some (.moreMembers ((name, t) :: members) stack)
  | .obj _ :: _ => none

/-- Takes the first token of a value. -/
def begin (stack : List Open) : Token → Option State
  | .null => deliver .null stack
  | .bool b => deliver (.bool b) stack
  | .number t => deliver (.number t) stack
  | .string t => deliver (.string t) stack
  | .openArray => some (.firstItem stack)
  | .openObject => some (.firstName stack)
  | .closeArray | .closeObject | .comma | .colon => none

/-- Takes one token. -/
def State.step : State → Token → Option State
  | .value stack, t => begin stack t
  | .firstItem stack, .closeArray => deliver (.arr []) stack
  | .firstItem stack, t => begin (.arr [] :: stack) t
  | .firstName stack, .closeObject => deliver (.obj []) stack
  | .firstName stack, .string t => some (.colon [] t stack)
  | .firstName _, _ => none
  | .nextName members stack, .string t => some (.colon members t stack)
  | .nextName .., _ => none
  | .colon members name stack, .colon => some (.value (.member members name :: stack))
  | .colon .., _ => none
  | .moreItems items stack, .comma => some (.value (.arr items :: stack))
  | .moreItems items stack, .closeArray => deliver (.arr items.reverse) stack
  | .moreItems .., _ => none
  | .moreMembers members stack, .comma => some (.nextName members stack)
  | .moreMembers members stack, .closeObject => deliver (.obj members.reverse) stack
  | .moreMembers .., _ => none
  | .done _, _ => none

/-- The state after a list of tokens. -/
def run : State → List Token → Option State
  | s, [] => some s
  | s, t :: r => do run (← s.step t) r

/-- The tree of a list of tokens. -/
def ofTokens? (ts : List Token) : Option Tree :=
  match run (.value []) ts with
  | some (.done t) => some t
  | _ => none

/-- The tree of a JSON text. -/
def ofBytes? (bs : Bytes) : Option Tree := (tokens? bs).bind ofTokens?

end Tree

/-- The deepest nesting of arrays and objects in a value. -/
def maxDepth : Nat := 127

mutual

/-- The value of a tree with at most `depth` arrays and objects around one another. -/
def ofTree? (depth : Nat) : Tree → Option Json
  | .null => some .null
  | .bool b => some (.bool b)
  | .number t => t.number?.map .num
  | .string t => (stringText? t).map .str
  | .arr items =>
    match depth with
    | 0 => none
    | depth + 1 => (ofTrees? depth items).map .arr
  | .obj members =>
    match depth with
    | 0 => none
    | depth + 1 => (ofMembers? depth members).map fun ps => .obj (Members.ofPairs ps)

/-- The values of the items of an array. -/
def ofTrees? (depth : Nat) : List Tree → Option (List Json)
  | [] => some []
  | t :: r => do
    let v ← ofTree? depth t
    let vs ← ofTrees? depth r
    some (v :: vs)

/-- The names and values of the members of an object. -/
def ofMembers? (depth : Nat) : List (StringText × Tree) → Option (List (String × Json))
  | [] => some []
  | (k, t) :: r => do
    let name ← stringText? k
    let v ← ofTree? depth t
    let vs ← ofMembers? depth r
    some ((name, v) :: vs)

end

/-- The value that a JSON text writes. -/
def ofBytes? (bs : Bytes) : Option Json := (Tree.ofBytes? bs).bind (ofTree? maxDepth)

/-- The members of the object that a JSON text writes. -/
def membersOfBytes? (bs : Bytes) : Option Members :=
  match ofBytes? bs with
  | some (.obj ms) => some ms
  | _ => none

end AccountWire.Json
