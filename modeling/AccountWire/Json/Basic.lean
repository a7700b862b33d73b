import AccountWire.Number.Binary64
import AccountWire.Text.Utf8

/-!
# JSON values

A value keeps the numbers that fit a signed or an unsigned word as integers and every other number
as a double.  The members of an object are kept in ascending order of their names, each name once;
`insert` is the one operation that adds a member.
-/

namespace AccountWire

/-- A JSON number: an integer of at most 64 bits, signed or unsigned, so from `-2 ^ 63` to below
`2 ^ 64`, or a finite double. -/
inductive Json.Number where
  | int (n : Int) (inRange : -0x8000000000000000 ≤ n ∧ n < 0x10000000000000000)
  | float (x : Binary64)
deriving DecidableEq

/-- A JSON value.  The members of an object ascend strictly by name. -/
inductive Json where
  | null
  | bool (b : Bool)
  | num (n : Json.Number)
  | str (s : String)
  | arr (items : List Json)
  | obj (members : List (String × Json))

namespace Json

instance : Inhabited Json := ⟨.null⟩

/-- The members of an object, ascending by name. -/
abbrev Members := List (String × Json)

/-- Whether two numbers are equal.  An integer never equals a double. -/
def Number.same : Number → Number → Bool
  | .int m _, .int n _ => m == n
  | .float x, .float y => x.sameNumber y
  | _, _ => false

/-- The number that a word is. -/
def Number.ofWord (n : UInt64) : Number :=
  .int n.toNat ⟨by omega, by have := n.toNat_lt; omega⟩

/-- The number of an integer, if it fits. -/
def Number.ofInt? (n : Int) : Option Number :=
  if h : -0x8000000000000000 ≤ n ∧ n < 0x10000000000000000 then some (.int n h) else none

/-- The value of a word. -/
def ofWord (n : UInt64) : Json := .num (.ofWord n)

mutual

/-- Whether two values are equal, numbers compared as numbers. -/
def same : Json → Json → Bool
  | .null, .null => true
  | .bool a, .bool b => a == b
  | .num a, .num b => a.same b
  | .str a, .str b => a == b
  | .arr a, .arr b => sameItems a b
  | .obj a, .obj b => sameMembers a b
  | _, _ => false

/-- Whether two lists of values are equal, item by item. -/
def sameItems : List Json → List Json → Bool
  | [], [] => true
  | a :: r, b :: s => same a b && sameItems r s
  | _, _ => false

/-- Whether two lists of members are equal, member by member. -/
def sameMembers : Members → Members → Bool
  | [], [] => true
  | (k, a) :: r, (l, b) :: s => k == l && same a b && sameMembers r s
  | _, _ => false

end

namespace Members

/-- Adds a member at its place; a member of the same name is replaced. -/
def insert (name : String) (v : Json) : Members → Members
  | [] => [(name, v)]
  | (k, w) :: r =>
    if name < k then (name, v) :: (k, w) :: r
    else if k < name then (k, w) :: insert name v r
    else (name, v) :: r

/-- The value of the member with a name. -/
def get? (name : String) (ms : Members) : Option Json :=
  (ms.find? (·.1 == name)).map (·.2)

/-- The members of a list of pairs, in which a later pair replaces an earlier one. -/
def ofPairs (ps : List (String × Json)) : Members :=
  ps.foldl (fun ms p => insert p.1 p.2 ms) []

/-- The members for the fields that have a value. -/
def ofPresent (fields : List (String × Option Json)) : Members :=
  ofPairs (fields.filterMap fun (name, v) => v.map (name, ·))

end Members

/-- The object with the given members. -/
def object (ps : List (String × Json)) : Json := .obj (Members.ofPairs ps)

/-- The value of an object's member; other values have no members. -/
def member? (name : String) : Json → Option Json
  | .obj ms => Members.get? name ms
  | _ => none

end Json

end AccountWire
