import AccountWire.Echo.PathTemplate
import Mathlib.Data.List.TakeWhile

/-!
# Templates and what they expand to

A template is a text, and what it is made of is found by reading it.  A text that is written from
parts is read as these parts (`parts_ofParts`), when its literal characters are no opening brackets
and its placeholders are names.  So it expands part by part: literal characters stand for
themselves and placeholders for their values, whatever the values hold
(`Expands.expand_ofParts`).
-/

namespace AccountWire.Echo

namespace TemplatePart

/-- A text as literal characters. -/
def literals (s : String) : List TemplatePart := s.toList.map .literal

/-- How a part is written in a template. -/
def chars : TemplatePart → List Char
  | .literal c => [c]
  | .placeholder name => '\x7b' :: name ++ ['\x7d']

/-- A name of a placeholder: a letter or a low line, and then perhaps digits, too. -/
structure IsName (name : List Char) : Prop where
  start : ∃ c r, name = c :: r ∧ isNameStart c = true
  parts : ∀ c ∈ name, isNamePart c = true

instance (name : List Char) : Decidable (IsName name) :=
  decidable_of_iff ((name.head?.any isNameStart && name.all isNamePart) = true) (by
    rw [Bool.and_eq_true, List.all_eq_true]
    constructor
    · rintro ⟨hstart, hparts⟩
      cases name with
      | nil => cases hstart
      | cons c r => exact ⟨⟨c, r, rfl, hstart⟩, hparts⟩
    · rintro ⟨⟨c, r, rfl, hstart⟩, hparts⟩
      exact ⟨hstart, hparts⟩)

/-- A part that is found again where it is written: a character that is no opening bracket, or a
placeholder with a name. -/
def IsReadable : TemplatePart → Prop
  | .literal c => c ≠ '\x7b'
  | .placeholder name => IsName name

instance (part : TemplatePart) : Decidable part.IsReadable := by
  cases part with
  | literal c => exact inferInstanceAs (Decidable (c ≠ '\x7b'))
  | placeholder name => exact inferInstanceAs (Decidable (IsName name))

/-- Skipping characters is to cut what comes after them. -/
theorem ofChars_drop (skip : Nat) (cs : List Char) :
    ofChars skip cs = ofChars 0 (cs.drop skip) := by
  induction skip generalizing cs with
  | zero => rfl
  | succ skip ih =>
      cases cs with
      | nil => rfl
      | cons c r => exact ih r

/-- A name ends at the closing bracket. -/
theorem nameAt?_append {name : List Char} (h : IsName name) (r : List Char) :
    nameAt? (name ++ '\x7d' :: r) = some name := by
  have htake : (name ++ '\x7d' :: r).takeWhile isNamePart = name := by
    rw [List.takeWhile_append_of_pos h.parts, List.takeWhile_cons_of_neg (by decide),
      List.append_nil]
  obtain ⟨c, t, rfl, hstart⟩ := h.start
  rw [nameAt?]
  simp only [htake, List.drop_left, hstart, if_true]

/-- **A part is read where it is written**, whatever follows it. -/
theorem ofChars_chars_append {part : TemplatePart} (h : part.IsReadable) (r : List Char) :
    ofChars 0 (part.chars ++ r) = part :: ofChars 0 r := by
  cases part with
  | literal c => exact if_neg h
  | placeholder name =>
      have htext : (placeholder name).chars ++ r = '\x7b' :: (name ++ '\x7d' :: r) := by
        simp [chars]
      have hdrop : (name ++ '\x7d' :: r).drop (name.length + 1) = r := by simp
      rw [htext, ofChars, if_pos rfl, nameAt?_append h]
      dsimp only
      rw [ofChars_drop, hdrop]

/-- Readable parts that were written one after the other are read back. -/
theorem ofChars_flatMap {ps : List TemplatePart} (h : ∀ p ∈ ps, p.IsReadable) :
    ofChars 0 (ps.flatMap chars) = ps := by
  induction ps with
  | nil => rfl
  | cons p ps ih =>
      rw [List.flatMap_cons, ofChars_chars_append (h p List.mem_cons_self),
        ih fun q hq => h q (List.mem_cons_of_mem _ hq)]

/-- The text that parts are written as. -/
def text (ps : List TemplatePart) : String := String.ofList (ps.flatMap chars)

theorem text_append (ps qs : List TemplatePart) : text (ps ++ qs) = text ps ++ text qs := by
  rw [text, List.flatMap_append, String.ofList_append]
  rfl

theorem text_literals (s : String) : text (literals s) = s := by
  have hchars : (literals s).flatMap chars = s.toList := by
    rw [literals, List.flatMap_map]
    exact List.flatMap_singleton' _
  rw [text, hchars, String.ofList_toList]

/-- A text without brackets has readable parts. -/
theorem literals_isReadable {s : String} (h : '\x7b' ∉ s.toList) :
    ∀ p ∈ literals s, p.IsReadable := by
  intro p hp
  obtain ⟨c, hc, rfl⟩ := List.mem_map.mp hp
  rintro rfl
  exact h hc

end TemplatePart

namespace PathTemplate

/-- The template that is written from parts. -/
def ofParts (ps : List TemplatePart) : PathTemplate := ⟨TemplatePart.text ps⟩

/-- A template that was made of readable parts has these parts. -/
theorem parts_ofParts {ps : List TemplatePart} (h : ∀ p ∈ ps, p.IsReadable) :
    (ofParts ps).parts = ps := by
  rw [parts, ofParts, TemplatePart.text, String.toList_ofList, TemplatePart.ofChars_flatMap h]

/-- Parts whose placeholders all have values, and the text that they expand to. -/
structure Expands (values : List (String × String)) (ps : List TemplatePart) (s : String) :
    Prop where
  resolved : ∀ name, TemplatePart.placeholder name ∈ ps →
    (valueOf? values (String.ofList name)).isSome = true
  text : ps.flatMap (expandPart values) = s.toList

/-- The placeholders of a template are the names among its parts. -/
theorem mem_placeholders {t : PathTemplate} {name : String} :
    name ∈ t.placeholders ↔ TemplatePart.placeholder name.toList ∈ t.parts := by
  rw [placeholders, List.mem_filterMap]
  constructor
  · rintro ⟨part, hpart, hsome⟩
    cases part with
    | literal c => cases hsome
    | placeholder name' =>
        obtain rfl := Option.some.inj hsome
        rwa [String.toList_ofList]
  · intro hpart
    exact ⟨_, hpart, congrArg some String.ofList_toList⟩

/-- Every placeholder is found to have a value, or one is found to have none. -/
theorem find?_placeholders_eq_none {t : PathTemplate} {values : List (String × String)} :
    t.placeholders.find? (fun name => (valueOf? values name).isNone) = none ↔
      ∀ name, TemplatePart.placeholder name ∈ t.parts →
        (valueOf? values (String.ofList name)).isSome = true := by
  rw [List.find?_eq_none]
  constructor
  · intro h name hname
    have hvalue := h (String.ofList name) (mem_placeholders.mpr (by rwa [String.toList_ofList]))
    simpa [Option.isSome_iff_ne_none] using hvalue
  · intro h name hname
    have hvalue := h name.toList (mem_placeholders.mp hname)
    rw [String.ofList_toList] at hvalue
    simpa [Option.isSome_iff_ne_none] using hvalue

/-- A template expands to the text that its parts expand to. -/
theorem expand_eq_ok_iff {t : PathTemplate} {values : List (String × String)} {s : String} :
    t.expand values = .ok s ↔ Expands values t.parts s := by
  unfold expand
  split
  · next name hname =>
    refine iff_of_false (by simp) fun h => ?_
    rw [find?_placeholders_eq_none.mpr h.resolved] at hname
    cases hname
  · next hnone =>
    constructor
    · intro h
      refine ⟨find?_placeholders_eq_none.mp hnone, ?_⟩
      rw [← Except.ok.inj h, String.toList_ofList]
    · intro h
      rw [h.text, String.ofList_toList]

namespace Expands

variable {values : List (String × String)} {ps qs : List TemplatePart} {s t : String}

/-- Literal characters stand for themselves. -/
theorem literals (values : List (String × String)) (s : String) :
    Expands values (TemplatePart.literals s) s where
  resolved := by
    intro name hname
    obtain ⟨c, -, hc⟩ := List.mem_map.mp hname
    cases hc
  text := by
    rw [TemplatePart.literals, List.flatMap_map]
    exact List.flatMap_singleton' _

/-- A placeholder stands for its value. -/
theorem placeholder {name : String} (h : valueOf? values name = some s) :
    Expands values [.placeholder name.toList] s where
  resolved := by
    intro name' hname
    obtain rfl : name' = name.toList := by simpa using hname
    rw [String.ofList_toList, h, Option.isSome_some]
  text := by
    rw [List.flatMap_singleton]
    simp only [expandPart, String.ofList_toList, h, Option.getD_some]

/-- Parts that expand one by one expand together. -/
theorem append (hps : Expands values ps s) (hqs : Expands values qs t) :
    Expands values (ps ++ qs) (s ++ t) where
  resolved := by
    intro name hname
    rcases List.mem_append.mp hname with hname | hname
    · exact hps.resolved name hname
    · exact hqs.resolved name hname
  text := by rw [List.flatMap_append, hps.text, hqs.text, String.toList_append]

/-- **A template expands part by part** when all of its placeholders have values. -/
theorem expand_ofParts (h : Expands values ps s) (hps : ∀ p ∈ ps, p.IsReadable) :
    (ofParts ps).expand values = .ok s := by
  rw [expand_eq_ok_iff, parts_ofParts hps]
  exact h

end Expands

end PathTemplate

end AccountWire.Echo
