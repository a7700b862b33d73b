import Mathlib.Data.List.DropRight
import Mathlib.Data.List.Induction
import AccountWire.Echo.Server
import AccountWire.Proofs.Http.Headers

/-!
# What is kept of header fields

A request may come with many fields of one name, in any order and in different spellings of the
name, and some values may be octets that are no text.  Of all this a captured request keeps one text
for each name: the last one that could be read (`header_is_last_readable_value`).  The blanks around a
value do not belong to it (`IsContent`).

The fields are kept one after the other, each of them in the place of those of its name that came
before.  Looked up, they are therefore searched from the last one (`valueOf?_keptHeaders`).
-/

namespace AccountWire.Echo

open Http (IsReadable SameName readableValue?_eq_none_iff readableValue?_eq_some_iff)

/-! ### Values without the blanks around them -/

/-- A space or a tab. -/
def IsBlank (b : UInt8) : Prop := b = 0x20 ∨ b = 0x09

instance (b : UInt8) : Decidable (IsBlank b) := inferInstanceAs (Decidable (_ ∨ _))

/-- What a value says: all of it but the blanks before and after. -/
structure IsContent (value content : Bytes) : Prop where
  around : ∃ before after, value = before ++ content ++ after ∧
    (∀ b ∈ before, IsBlank b) ∧ ∀ b ∈ after, IsBlank b
  head : ∀ b ∈ content.head?, ¬ IsBlank b
  last : ∀ b ∈ content.getLast?, ¬ IsBlank b

/-- Trimming drops the blanks on the left, and then those on the right. -/
theorem trimValue_eq (value : Bytes) :
    trimValue value = (value.dropWhile (IsBlank ·)).rdropWhile (IsBlank ·) := by
  have hblank : (fun b : UInt8 => (b = 0x20 || b = 0x09 : Bool)) = fun b => decide (IsBlank b) := by
    funext b
    exact (Bool.decide_or _ _).symm
  rw [← hblank]
  rfl

/-- What trimming leaves is what the value says. -/
theorem isContent_trimValue (value : Bytes) : IsContent value (trimValue value) := by
  rw [trimValue_eq]
  refine ⟨⟨value.takeWhile (IsBlank ·), (value.dropWhile (IsBlank ·)).rtakeWhile (IsBlank ·),
    ?_, ?_, ?_⟩, ?_, ?_⟩
  · rw [List.append_assoc, List.rdropWhile_append_rtakeWhile, List.takeWhile_append_dropWhile]
  · intro b hb
    simpa using List.mem_takeWhile_imp hb
  · intro b hb
    simpa using List.mem_rtakeWhile_imp hb
  · intro b hb
    have hfirst : (value.dropWhile (IsBlank ·)).head? = some b := by
      obtain ⟨rest, hrest⟩ := List.rdropWhile_prefix (IsBlank ·) (value.dropWhile (IsBlank ·))
      rw [← hrest, List.head?_append, hb, Option.some_or]
    have hnot := List.head?_dropWhile_not (fun b => decide (IsBlank b)) value
    rw [hfirst] at hnot
    simpa using hnot
  · intro b hb
    obtain ⟨hne, rfl⟩ := List.mem_getLast?_eq_getLast hb
    simpa using List.rdropWhile_last_not (fun b => decide (IsBlank b)) _ hne

/-- **Trimming** finds the content, and there is no other one. -/
theorem trimValue_eq_iff {value content : Bytes} :
    trimValue value = content ↔ IsContent value content := by
  constructor
  · rintro rfl
    exact isContent_trimValue value
  · rintro ⟨⟨before, after, rfl, hbefore, hafter⟩, hhead, hlast⟩
    rw [trimValue_eq, List.append_assoc, List.dropWhile_append_of_pos (by simpa using hbefore)]
    -- a content without an end of its own does not stop the first of the two passes
    cases content with
    | nil =>
        rw [List.nil_append, List.dropWhile_eq_nil_iff.mpr (by simpa using hafter),
          List.rdropWhile_nil]
    | cons b rest =>
        have hdrop : (b :: rest ++ after).dropWhile (IsBlank ·) = b :: rest ++ after := by
          have hb : ¬ IsBlank b := hhead b rfl
          simp [hb]
        have hkeep : (b :: rest).rdropWhile (IsBlank ·) = b :: rest := by
          refine List.rdropWhile_eq_self_iff.mpr fun hne => ?_
          rw [decide_eq_true_iff]
          exact hlast _ (List.getLast_mem_getLast? hne)
        rw [hdrop, List.rdropWhile, List.reverse_append,
          List.dropWhile_append_of_pos (by simpa using hafter), ← List.rdropWhile, hkeep]

/-- Blanks around it do not matter for whether a value can be read. -/
theorem IsContent.isReadable_iff {value content : Bytes} (h : IsContent value content) :
    IsReadable content ↔ IsReadable value := by
  obtain ⟨before, after, rfl, hbefore, hafter⟩ := h.around
  have hblank : ∀ b, IsBlank b → b = 0x09 ∨ (0x20 ≤ b ∧ b ≤ 0x7E) := by
    rintro b (rfl | rfl) <;> decide
  constructor
  · intro hcontent b hb
    rcases List.mem_append.mp hb with hb | hb
    · rcases List.mem_append.mp hb with hb | hb
      · exact hblank b (hbefore b hb)
      · exact hcontent b hb
    · exact hblank b (hafter b hb)
  · intro hvalue b hb
    exact hvalue b (by simp [hb])

/-- The text of a value, if it can be read. -/
def textOf? (value : Bytes) : Option String := Http.readableValue? (trimValue value)

/-- The text of a value is what the value says, if it can be read. -/
theorem textOf?_eq_some_iff {value : Bytes} {text : String} : textOf? value = some text ↔
    IsReadable value ∧ IsContent value (Utf8.ofString text) := by
  rw [textOf?, readableValue?_eq_some_iff, (isContent_trimValue value).isReadable_iff,
    eq_comm (a := Utf8.ofString text), trimValue_eq_iff]

/-- A value has no text exactly if it cannot be read. -/
theorem textOf?_eq_none_iff {value : Bytes} : textOf? value = none ↔ ¬ IsReadable value := by
  rw [textOf?, readableValue?_eq_none_iff, (isContent_trimValue value).isReadable_iff]

/-! ### Fields one after the other -/

/-- Keeps a field, if its value can be read. -/
def keepHeader (kept : List (String × String)) (field : String × Bytes) : List (String × String) :=
  match textOf? field.2 with
  | some text => setHeader (lowercase field.1) text kept
  | none => kept

theorem keptHeaders_eq_foldl (fields : List (String × Bytes)) :
    keptHeaders fields = fields.foldl keepHeader [] := rfl

/-- The value of a name. -/
def valueOf? (name : String) (kept : List (String × String)) : Option String :=
  (kept.find? (·.1 == name)).map (·.2)

/-- Setting a name gives it its value, and leaves the other names alone. -/
theorem valueOf?_setHeader (key name value : String) (kept : List (String × String)) :
    valueOf? key (setHeader name value kept) =
      if name = key then some value else valueOf? key kept := by
  induction kept with
  | nil => by_cases h : name = key <;> simp [setHeader, valueOf?, h]
  | cons field kept ih =>
      obtain ⟨k, v⟩ := field
      rw [setHeader]
      split
      · next hk =>
        subst hk
        by_cases h : k = key <;> simp [valueOf?, h]
      · next hk =>
        by_cases h : k = key
        · have hname : name ≠ key := fun heq => hk (h.trans heq.symm)
          simp [valueOf?, h, hname]
        · simp only [valueOf?, List.find?_cons, beq_eq_false_iff_ne.mpr h] at ih ⊢
          exact ih

/-- The text that a field gives a name. -/
def textUnder? (name : String) (field : String × Bytes) : Option String :=
  if lowercase field.1 = name then textOf? field.2 else none

/-- A field that can be read replaces the value of its name. -/
theorem valueOf?_keepHeader (name : String) (kept : List (String × String))
    (field : String × Bytes) :
    valueOf? name (keepHeader kept field) = (textUnder? name field).or (valueOf? name kept) := by
  rw [keepHeader, textUnder?]
  cases textOf? field.2 with
  | none => simp
  | some text => by_cases h : lowercase field.1 = name <;> simp [valueOf?_setHeader, h]

/-- **Look-up** goes through the fields from the last to the first. -/
theorem valueOf?_keptHeaders (name : String) (fields : List (String × Bytes)) :
    valueOf? name (keptHeaders fields) = fields.reverse.findSome? (textUnder? name) := by
  -- from the right end, since a field takes the place of those before it
  induction fields using List.reverseRecOn with
  | nil => rfl
  | append_singleton fields field ih =>
      rw [keptHeaders_eq_foldl, List.foldl_append, List.foldl_cons, List.foldl_nil,
        ← keptHeaders_eq_foldl, valueOf?_keepHeader, ih, List.reverse_append, List.reverse_singleton,
        List.findSome?_append]
      simp

/-- Fields that cannot be read leave no trace. -/
theorem keptHeaders_filter (fields : List (String × Bytes)) :
    keptHeaders (fields.filter (IsReadable ·.2)) = keptHeaders fields := by
  rw [keptHeaders_eq_foldl, keptHeaders_eq_foldl, List.foldl_filter]
  congr 1
  funext kept field
  by_cases h : IsReadable field.2
  · simp [h]
  · simp [h, keepHeader, textOf?_eq_none_iff.mpr h]

/-! ### Look-up in a captured request -/

/-- What is found from the end is the last item with a result. -/
theorem findSome?_reverse_eq_some_iff {α β : Type} {f : α → Option β} {l : List α} {b : β} :
    l.reverse.findSome? f = some b ↔ ∃ before a after, l = before ++ a :: after ∧ f a = some b ∧
      ∀ c ∈ after, f c = none := by
  rw [List.findSome?_eq_some_iff]
  constructor
  · rintro ⟨after, a, before, hsplit, ha, hafter⟩
    refine ⟨before.reverse, a, after.reverse, ?_, ha, by simpa using hafter⟩
    rw [List.reverse_eq_iff.mp hsplit]
    simp
  · rintro ⟨before, a, after, rfl, ha, hafter⟩
    exact ⟨after.reverse, a, before.reverse, by simp, ha, by simpa using hafter⟩

/-- A field gives a text to its own name in lower case, if its value can be read. -/
theorem textUnder?_eq_some_iff {name text : String} {field : String × Bytes} :
    textUnder? name field = some text ↔ lowercase field.1 = name ∧ IsReadable field.2 ∧
      IsContent field.2 (Utf8.ofString text) := by
  by_cases h : lowercase field.1 = name <;> simp [textUnder?, h, textOf?_eq_some_iff]

/-- A field gives nothing to other names, and nothing at all if its value cannot be read. -/
theorem textUnder?_eq_none_iff {name : String} {field : String × Bytes} :
    textUnder? name field = none ↔ (lowercase field.1 = name → ¬ IsReadable field.2) := by
  by_cases h : lowercase field.1 = name <;> simp [textUnder?, h, textOf?_eq_none_iff]

/-- **A header is the last value of its name that can be read**, in whatever spelling the name was
received and is asked for; there is none when no value of this name can be read.  Values that cannot
be read do not count at all. -/
theorem header_is_last_readable_value {r : Received} {name : String} (index : Nat) (body : Bytes)
    (hnames : ∀ f ∈ r.headers, IsAscii f.1) (hname : IsAscii name) :
    (∀ text, (r.capture index body).header? name = some text ↔
      ∃ before field after, r.headers = before ++ field :: after ∧ SameName field.1 name ∧
        IsReadable field.2 ∧ IsContent field.2 (Utf8.ofString text) ∧
        ∀ f ∈ after, SameName f.1 name → ¬ IsReadable f.2) ∧
    ((r.capture index body).header? name = none ↔
      ∀ f ∈ r.headers, SameName f.1 name → ¬ IsReadable f.2) ∧
    (r.capture index body).header? name =
      ({ r with headers := r.headers.filter (IsReadable ·.2) }.capture index body).header? name := by
  have hlookup : (r.capture index body).header? name =
      r.headers.reverse.findSome? (textUnder? (lowercase name)) :=
    valueOf?_keptHeaders (lowercase name) r.headers
  have hsame : ∀ f ∈ r.headers, (lowercase f.1 = lowercase name ↔ SameName f.1 name) :=
    fun f hf => Http.lowercase_eq_iff (hnames f hf) hname
  refine ⟨?_, ?_, ?_⟩
  · intro text
    rw [hlookup, findSome?_reverse_eq_some_iff]
    refine exists_congr fun before => exists_congr fun field => exists_congr fun after =>
      and_congr_right fun hsplit => ?_
    have hfield := hsame field (by simp [hsplit])
    have hafter : ∀ f ∈ after, (lowercase f.1 = lowercase name ↔ SameName f.1 name) :=
      fun f hf => hsame f (by simp [hsplit, hf])
    simp only [textUnder?_eq_some_iff, textUnder?_eq_none_iff, hfield, and_assoc]
    exact and_congr_right' <| and_congr_right' <| and_congr_right' <|
      forall₂_congr fun f hf => imp_congr_left (hafter f hf)
  · rw [hlookup, List.findSome?_eq_none_iff]
    simp only [List.mem_reverse, textUnder?_eq_none_iff]
    exact forall₂_congr fun f hf => imp_congr_left (hsame f hf)
  · simp only [Received.capture, keptHeaders_filter]

/-- Two of four values of a name are no text.  The later one of the others is kept, without the
blanks around it. -/
theorem unreadable_value_hides_nothing :
    let before : List (String × Bytes) := [("X-A", Utf8.ofString "1"), ("x-a", [0xFF])]
    let field : String × Bytes := ("X-a", Utf8.ofString " 2 3\t")
    let after : List (String × Bytes) := [("x-b", Utf8.ofString "4"), ("X-A", [0x35, 0x80])]
    let r : Received := ⟨"GET", "/", before ++ field :: after, some []⟩
    (∀ f ∈ r.headers, IsAscii f.1) ∧ IsAscii "x-A" ∧
      (r.capture 0 []).header? "x-A" = some "2 3" := by
  intro before field after r
  have hnames : ∀ f ∈ r.headers, IsAscii f.1 := by decide +kernel
  have hname : IsAscii "x-A" := by decide +kernel
  have hsame : SameName field.1 "x-A" := by decide +kernel
  have hreadable : IsReadable field.2 := by decide +kernel
  have hcontent : IsContent field.2 (Utf8.ofString "2 3") :=
    trimValue_eq_iff.mp (by decide +kernel)
  have hafter : ∀ f ∈ after, SameName f.1 "x-A" → ¬ IsReadable f.2 := by decide +kernel
  obtain ⟨hfound, -⟩ := header_is_last_readable_value 0 [] hnames hname
  exact ⟨hnames, hname,
    (hfound "2 3").mpr ⟨before, field, after, rfl, hsame, hreadable, hcontent, hafter⟩⟩

end AccountWire.Echo
