import AccountWire.Text.Quoted

/-!
# Outlines of values

A message that shows a whole value writes it as an *outline* on one line: records as a name and
their fields between curly brackets, lists between square brackets, an optional value as
`Some(..)` or `None`.  `Outline` turns a value of a type into its outline.
-/

namespace AccountWire

/-- Types whose values have an outline. -/
class Outline (α : Type) where
  /-- The outline of a value, on one line. -/
  outline : α → String

export Outline (outline)

namespace Outline

/-- Puts `sep` between the texts. -/
def joinWith (sep : String) : List String → String
  | [] => ""
  | [s] => s
  | s :: t :: r => s ++ sep ++ joinWith sep (t :: r)

/-- A list of outlines between square brackets. -/
def sequence (items : List String) : String := "[" ++ joinWith ", " items ++ "]"

/-- Pairs of outlines between curly brackets; nothing but the brackets when there are none. -/
def table (entries : List (String × String)) : String :=
  "\x7b" ++ joinWith ", " (entries.map fun (k, v) => k ++ ": " ++ v) ++ "\x7d"

/-- A record: its name, then its fields. -/
def record (name : String) (fields : List (String × String)) : String :=
  name ++ " \x7b " ++ joinWith ", " (fields.map fun (k, v) => k ++ ": " ++ v) ++ " \x7d"

instance : Outline String := ⟨quoted⟩

instance : Outline Bool := ⟨fun b => if b then "true" else "false"⟩

instance : Outline Nat := ⟨fun n => toString n⟩

instance : Outline Int := ⟨fun n => toString n⟩

instance {α : Type} [Outline α] : Outline (List α) := ⟨fun l => sequence (l.map outline)⟩

instance {α : Type} [Outline α] : Outline (Option α) where
  outline
    | none => "None"
    | some a => "Some(" ++ outline a ++ ")"

end Outline

end AccountWire
