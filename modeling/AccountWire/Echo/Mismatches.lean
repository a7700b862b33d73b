import AccountWire.Echo.Captured
import AccountWire.Json.Printer

/-!
# Mismatches

A check of a captured request does not stop at the first thing that is wrong: each check adds the
text of its failure to a list, and the list is looked at in the end.  No check removes or changes
what was recorded before it.
-/

namespace AccountWire.Echo

/-- The failures recorded so far, in order. -/
structure Mismatches where
  failures : List String
deriving DecidableEq, Repr

namespace Mismatches

/-- No failures. -/
def empty : Mismatches := ⟨[]⟩

/-- Adds a failure. -/
def record (m : Mismatches) (failure : String) : Mismatches := ⟨m.failures ++ [failure]⟩

/-- Adds a failure unless a condition holds. -/
def check (m : Mismatches) (condition : Bool) (failure : String) : Mismatches :=
  if condition then m else m.record failure

/-- The words for a value that is not the one wanted. -/
def difference (subject got want : String) : String :=
  subject ++ " = " ++ got ++ "; want = " ++ want

/-- Compares two values and shows both. -/
def checkEq {α : Type} [BEq α] [Outline α] (m : Mismatches) (context : String) (got want : α) :
    Mismatches :=
  m.check (got == want) (difference context (outline got) (outline want))

/-- Compares the method. -/
def checkMethod (m : Mismatches) (context : String) (r : Captured) (want : String) : Mismatches :=
  m.checkEq (context ++ " Method") r.method want

/-- Compares the path. -/
def checkPath (m : Mismatches) (context : String) (r : Captured) (want : String) : Mismatches :=
  m.checkEq (context ++ " URL") r.path want

/-- Compares the query, its parameters in ascending order of their names. -/
def checkQuery (m : Mismatches) (context : String) (r : Captured) (want : String) : Mismatches :=
  m.checkEq (context ++ " query") r.canonicalQuery want

/-- Compares the body with the text of a value, octet by octet. -/
def checkJsonBody (m : Mismatches) (context : String) (r : Captured) (want : Json) : Mismatches :=
  m.check (want.bytes == r.body) (difference (context ++ " request") r.bodyText want.text)

/-- The words for a member of the body that is missing or not the one wanted. -/
def fieldFailure (context : String) (got : Option Json) (key : String) (want : Json) : String :=
  difference (context ++ " request(" ++ quoted key ++ ")") (outline got) want.text

/-- Whether the body has a member with the wanted value. -/
def hasField (body : Json) (key : String) (want : Json) : Bool :=
  match body.member? key with
  | some got => got.same want
  | none => false

/-- The words for a body that cannot be read, those of its reader included. -/
def unreadableFailure (context words : String) : String :=
  context ++ " body is not JSON: " ++ Error.notJson.message ++ ": " ++ words

/-- Checks that the body has every member of an object with an equal value; it may have more.  What
the reader says of a body that it cannot read is its own matter: `words` tells it of each body. -/
def checkJsonFields (m : Mismatches) (context : String) (r : Captured) (want : Json)
    (words : Bytes → String := fun _ => "") : Mismatches :=
  match r.json, want with
  | .error _, _ => m.record (unreadableFailure context (words r.body))
  | .ok body, .obj fields =>
    fields.foldl (fun m (key, value) =>
      m.check (hasField body key value) (fieldFailure context (body.member? key) key value)) m
  | .ok _, _ => m.record (context ++ " expectation is not a JSON object")

/-- Whether nothing was recorded. -/
def isEmpty (m : Mismatches) : Bool := m.failures.isEmpty

/-- The number of failures. -/
def size (m : Mismatches) : Nat := m.failures.length

/-- Adds the failures of another list. -/
def append (m other : Mismatches) : Mismatches := ⟨m.failures ++ other.failures⟩

/-- Succeeds when nothing was recorded; fails with the text of all failures otherwise. -/
def assertNone (m : Mismatches) : Except String Unit :=
  if m.isEmpty then .ok ()
  else .error (toString m.size ++ " mismatch(es):\n  " ++ Outline.joinWith "\n  " m.failures)

end Mismatches

end AccountWire.Echo
