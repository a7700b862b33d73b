import AccountWire.Echo.Error

/-!
# Path templates

A template is a text with placeholders, names between curly brackets.  `parts` cuts a template
into literal characters and placeholders in one pass from left to right; the placeholders and the
expansion are read off these parts, so a value is never searched for placeholders itself.

An opening bracket that no name and closing bracket follow is a literal character.
-/

namespace AccountWire.Echo

/-- A piece of a template. -/
inductive TemplatePart where
  | literal (c : Char)
  | placeholder (name : List Char)
deriving DecidableEq, Repr

namespace TemplatePart

/-- Whether a name may begin with a character. -/
def isNameStart (c : Char) : Bool :=
  ('A' ≤ c && c ≤ 'Z') || ('a' ≤ c && c ≤ 'z') || c = '_'

/-- Whether a name may go on with a character. -/
def isNamePart (c : Char) : Bool := isNameStart c || ('0' ≤ c && c ≤ '9')

/-- The name that stands before the next closing bracket, if all up to there is a name. -/
def nameAt? (cs : List Char) : Option (List Char) :=
  let name := cs.takeWhile isNamePart
  match name, cs.drop name.length with
  | c :: _, '\x7d' :: _ => if isNameStart c then some name else none
  | _, _ => none

/-- Cuts a template into its parts; the first `skip` characters were taken already. -/
def ofChars : Nat → List Char → List TemplatePart
  | _, [] => []
  | skip + 1, _ :: r => ofChars skip r
  | 0, c :: r =>
    if c = '\x7b' then
      match nameAt? r with
      | some name => .placeholder name :: ofChars (name.length + 1) r
      | none => .literal c :: ofChars 0 r
    else .literal c :: ofChars 0 r

end TemplatePart

/-- A template. -/
structure PathTemplate where
  template : String
deriving DecidableEq, Repr

namespace PathTemplate

/-- The parts of a template. -/
def parts (t : PathTemplate) : List TemplatePart := TemplatePart.ofChars 0 t.template.toList

/-- The names of the placeholders in order of appearance. -/
def placeholders (t : PathTemplate) : List String :=
  t.parts.filterMap fun
    | .placeholder name => some (String.ofList name)
    | .literal _ => none

/-- The value of a name; of several, the last. -/
def valueOf? (values : List (String × String)) (name : String) : Option String :=
  (values.reverse.find? (·.1 == name)).map (·.2)

/-- The characters that a part becomes. -/
def expandPart (values : List (String × String)) : TemplatePart → List Char
  | .literal c => [c]
  | .placeholder name => ((valueOf? values (String.ofList name)).getD "").toList

/-- The template with each placeholder replaced by its value.  The first placeholder without a
value is an error. -/
def expand (t : PathTemplate) (values : List (String × String)) : Except Error String :=
  match t.placeholders.find? (fun name => (valueOf? values name).isNone) with
  | some name => .error (.unresolvedPlaceholder name)
  | none => .ok (String.ofList (t.parts.flatMap (expandPart values)))

end PathTemplate

end AccountWire.Echo
