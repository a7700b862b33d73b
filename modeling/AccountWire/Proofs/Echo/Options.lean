import AccountWire.Echo.Configuration
import AccountWire.Proofs.Admin.Checks
import AccountWire.Proofs.Http.Headers

/-!
# Which options an echo server is started with

Options are refused for the first thing that is wrong with them: the status, or else the first header
field that cannot be sent, and of this its name before its value (`OptionsRefusal`).  All others are
taken, and then no header field is lost: under each name stand the values of the fields that were
given with it in any spelling, in their order (`options_refused_for_first_fault`).

Names are put into lower case before they are checked.  A name that is not ASCII may therefore be
taken, when its lower case is.
-/

namespace AccountWire.Echo

open Admin (Passes bind_eq_error_iff elim_eq_error_iff eq_getD_of_elim_eq_ok mapM_eq_error_iff
  mapM_eq_ok_iff of_bind_eq_ok passes_bind passes_elim passes_mapM passes_pure)
open Http (IsName IsValue isHeaderName_iff isHeaderValue_iff)

/-- A status code has three digits. -/
def IsStatus (code : Nat) : Prop := 100 ≤ code ∧ code ≤ 999

/-- A header field that can be sent, once its name is in lower case. -/
def IsField (field : String × String) : Prop :=
  IsName (lowercase field.1) ∧ IsValue (Utf8.ofString field.2)

/-- Options with nothing wrong. -/
structure Options.Valid (o : Options) : Prop where
  status : ∀ code ∈ o.statusCode, IsStatus code
  headers : ∀ fields ∈ o.headers, ∀ field ∈ fields, IsField field

/-- What options are refused for: the first of these that is the case. -/
inductive OptionsRefusal (o : Options) : Error → Prop
  | status {code : Nat} (hcode : o.statusCode = some code) (h : ¬ IsStatus code) :
      OptionsRefusal o (.invalidStatusCode code)
  /-- The fields before the first one that cannot be sent do not matter, nor do those after it. -/
  | name (hstatus : ∀ code ∈ o.statusCode, IsStatus code)
      {before after : List (String × String)} {field : String × String}
      (hsplit : o.headers = some (before ++ field :: after)) (hbefore : ∀ f ∈ before, IsField f)
      (h : ¬ IsName (lowercase field.1)) : OptionsRefusal o .invalidHeaderName
  | value (hstatus : ∀ code ∈ o.statusCode, IsStatus code)
      {before after : List (String × String)} {field : String × String}
      (hsplit : o.headers = some (before ++ field :: after)) (hbefore : ∀ f ∈ before, IsField f)
      (hname : IsName (lowercase field.1)) (h : ¬ IsValue (Utf8.ofString field.2)) :
      OptionsRefusal o .invalidHeaderValue

variable {o : Options} {body : Bytes} {e : Error}

/-! ### The status -/

/-- The check of a status lets exactly the three-digit codes through. -/
theorem passes_checkStatus {code : Nat} : Passes (checkStatus code) ↔ IsStatus code := by
  by_cases h : 100 ≤ code ∧ code ≤ 999 <;> simp [checkStatus, IsStatus, h]

/-- A status that is let through is not changed. -/
theorem eq_of_checkStatus (code status : Nat) (h : checkStatus code = .ok status) :
    status = code := by
  rw [checkStatus] at h
  split at h
  · exact (Except.ok.inj h).symm
  · cases h

/-- A status is refused with the code as it was given. -/
theorem checkStatus_eq_error_iff {code : Nat} :
    checkStatus code = .error e ↔ ¬ IsStatus code ∧ e = .invalidStatusCode code := by
  by_cases h : 100 ≤ code ∧ code ≤ 999 <;> simp [checkStatus, IsStatus, h, @eq_comm _ e]

/-! ### Header fields -/

/-- A field as it is sent. -/
def sentField (field : String × String) : String × Bytes :=
  (lowercase field.1, Utf8.ofString field.2)

/-- A field is taken exactly if its name and its value are as they have to be. -/
theorem headerField_eq_ok_iff {field : String × String} {sent : String × Bytes} :
    headerField field = .ok sent ↔ IsField field ∧ sentField field = sent := by
  rw [headerField, IsField, ← isHeaderName_iff, ← isHeaderValue_iff]
  by_cases hname : Http.isHeaderName (lowercase field.1) = true <;>
    by_cases hvalue : Http.isHeaderValue (Utf8.ofString field.2) = true <;>
    simp [hname, hvalue, sentField]

/-- The check of a field lets exactly the fields through whose name and value are as they have to
be. -/
theorem passes_headerField {field : String × String} :
    Passes (headerField field) ↔ IsField field := by
  simp [Passes, headerField_eq_ok_iff]

/-- A field is refused for its name first, and then for its value. -/
theorem headerField_eq_error_iff {field : String × String} :
    headerField field = .error e ↔ ¬ IsName (lowercase field.1) ∧ e = .invalidHeaderName ∨
      IsName (lowercase field.1) ∧ ¬ IsValue (Utf8.ofString field.2) ∧ e = .invalidHeaderValue := by
  rw [headerField, ← isHeaderName_iff, ← isHeaderValue_iff]
  by_cases hname : Http.isHeaderName (lowercase field.1) = true <;>
    by_cases hvalue : Http.isHeaderValue (Utf8.ofString field.2) = true <;>
    simp [hname, hvalue, @eq_comm _ e]

/-- Fields that are taken are all sent, in their order. -/
theorem eq_map_sentField (fields : List (String × String)) (headers : Http.Headers)
    (h : fields.mapM headerField = .ok headers) : headers = fields.map sentField := by
  have hsent : List.Forall₂ (fun field sent => sentField field = sent) fields headers :=
    (mapM_eq_ok_iff.mp h).imp fun _ _ hsent => (headerField_eq_ok_iff.mp hsent).2
  have heq := List.forall₂_map_left_iff.mpr hsent
  rw [List.forall₂_eq_eq_eq] at heq
  exact heq.symm

/-- The values under a name are those of all its spellings, in their order. -/
theorem values_map_sentField (fields : List (String × String)) (name : String) :
    Http.Headers.values (fields.map sentField) name =
      (fields.filter (lowercase ·.1 = name)).map (Utf8.ofString ·.2) := by
  rw [Http.Headers.values, List.filter_map, List.map_map]
  rfl

/-! ### All options -/

/-- Options are taken exactly if their status and all their fields are as they have to be. -/
theorem passes_ofOptions : Passes (Configuration.ofOptions body o) ↔ o.Valid := by
  simp only [Configuration.ofOptions, passes_bind, passes_pure, and_true, exists_and_right]
  rw [← Passes, ← Passes, passes_elim, passes_elim]
  simp only [passes_checkStatus, passes_mapM, passes_headerField]
  constructor
  · rintro ⟨hstatus, hheaders⟩
    exact ⟨hstatus, hheaders⟩
  · intro h
    exact ⟨h.status, h.headers⟩

/-- An error comes from the status, or, when this is right, from the first field that has one. -/
theorem ofOptions_eq_error_iff_step : Configuration.ofOptions body o = .error e ↔
    (∃ code, o.statusCode = some code ∧ checkStatus code = .error e) ∨
      (∀ code ∈ o.statusCode, IsStatus code) ∧ ∃ before field after,
        o.headers = some (before ++ field :: after) ∧ (∀ f ∈ before, IsField f) ∧
        headerField field = .error e := by
  have hstatus : (∃ status, o.statusCode.elim (.ok defaultStatus) checkStatus = .ok status) ↔
      ∀ code ∈ o.statusCode, IsStatus code := by
    rw [← Passes, passes_elim]
    simp only [passes_checkStatus]
  have hheaders : o.headers.elim (.ok defaultHeaders) (·.mapM headerField) = .error e ↔
      ∃ before field after, o.headers = some (before ++ field :: after) ∧
        (∀ f ∈ before, IsField f) ∧ headerField field = .error e := by
    simp only [elim_eq_error_iff, mapM_eq_error_iff, passes_headerField]
    constructor
    · rintro ⟨fields, hfields, before, field, after, rfl, h⟩
      exact ⟨before, field, after, hfields, h⟩
    · rintro ⟨before, field, after, hfields, h⟩
      exact ⟨_, hfields, before, field, after, rfl, h⟩
  rw [← hstatus, ← hheaders, Configuration.ofOptions, bind_eq_error_iff, elim_eq_error_iff]
  simp only [bind_eq_error_iff, pure, Except.pure, reduceCtorEq, and_false, exists_false, or_false,
    exists_and_right]

/-- **The checks of options** are made in this order. -/
theorem ofOptions_eq_error_iff :
    Configuration.ofOptions body o = .error e ↔ OptionsRefusal o e := by
  rw [ofOptions_eq_error_iff_step]
  constructor
  · rintro (⟨code, hcode, h⟩ | ⟨hstatus, before, field, after, hsplit, hbefore, h⟩)
    · obtain ⟨hcode', rfl⟩ := checkStatus_eq_error_iff.mp h
      exact .status hcode hcode'
    · rcases headerField_eq_error_iff.mp h with ⟨hname, rfl⟩ | ⟨hname, hvalue, rfl⟩
      · exact .name hstatus hsplit hbefore hname
      · exact .value hstatus hsplit hbefore hname hvalue
  · intro h
    cases h with
    | status hcode h =>
        exact Or.inl ⟨_, hcode, checkStatus_eq_error_iff.mpr ⟨h, rfl⟩⟩
    | name hstatus hsplit hbefore h =>
        exact Or.inr ⟨hstatus, _, _, _, hsplit, hbefore,
          headerField_eq_error_iff.mpr (Or.inl ⟨h, rfl⟩)⟩
    | value hstatus hsplit hbefore hname h =>
        exact Or.inr ⟨hstatus, _, _, _, hsplit, hbefore,
          headerField_eq_error_iff.mpr (Or.inr ⟨hname, h, rfl⟩)⟩

/-- **Options are refused for their first fault**, the status before the header fields, these in their
order, and of a field the name before the value.  Options without a fault are taken: what is not
given has its default, and the values under a name are those of the fields whose name is this one in
lower case, all of them and in their order. -/
theorem options_refused_for_first_fault (body : Bytes) (o : Options) :
    ((∃ c, Configuration.ofOptions body o = .ok c) ↔ o.Valid) ∧
    (∀ e, Configuration.ofOptions body o = .error e ↔ OptionsRefusal o e) ∧
    ∀ c, Configuration.ofOptions body o = .ok c →
      c.body = body ∧ c.status = o.statusCode.getD defaultStatus ∧
      c.bindAddress = o.bindAddress.getD .anyLocal ∧
      (o.headers = none → c.headers = defaultHeaders) ∧
      ∀ fields, o.headers = some fields → ∀ name, c.headers.values name =
        (fields.filter (lowercase ·.1 = name)).map (Utf8.ofString ·.2) := by
  refine ⟨passes_ofOptions, fun e => ofOptions_eq_error_iff, ?_⟩
  intro c hc
  obtain ⟨status, hstatus, hc⟩ := of_bind_eq_ok hc
  obtain ⟨headers, hheaders, hc⟩ := of_bind_eq_ok hc
  obtain rfl := Except.ok.inj hc
  have hstatus := eq_getD_of_elim_eq_ok eq_of_checkStatus hstatus
  obtain rfl := eq_getD_of_elim_eq_ok eq_map_sentField hheaders
  refine ⟨rfl, by rw [hstatus, Option.map_id'], rfl, ?_, ?_⟩
  · intro hnone
    simp [hnone]
  · intro fields hfields name
    simp [hfields, values_map_sentField]

/-- Three fields with two names, and options with two faults. -/
theorem spellings_of_name_merged :
    let fields := [("X-A", "1"), ("x-b", "2"), ("x-A", "\t3")]
    (∃ c, Configuration.ofOptions [] ⟨some 404, some fields, none⟩ = .ok c ∧ c.status = 404 ∧
      c.headers.values "x-a" = [Utf8.ofString "1", Utf8.ofString "\t3"]) ∧
    Configuration.ofOptions [] ⟨none, some (fields ++ [("c", "\n"), ("c d", "4")]), none⟩ =
      .error .invalidHeaderValue := by
  intro fields
  have hfields : ∀ field ∈ fields, IsField field := by
    intro field hfield
    rw [IsField, ← isHeaderName_iff, ← isHeaderValue_iff]
    revert field
    decide +kernel
  constructor
  · obtain ⟨htaken, -, hok⟩ := options_refused_for_first_fault [] ⟨some 404, some fields, none⟩
    have hstatus : ∀ code ∈ some 404, IsStatus code := by
      rintro code ⟨⟩
      exact ⟨by decide, by decide⟩
    have hheaders : ∀ fs ∈ some fields, ∀ field ∈ fs, IsField field := by
      rintro fs ⟨⟩
      exact hfields
    obtain ⟨c, hc⟩ := htaken.mpr ⟨hstatus, hheaders⟩
    obtain ⟨-, hcode, -, -, hvalues⟩ := hok c hc
    refine ⟨c, hc, hcode, (hvalues fields rfl "x-a").trans ?_⟩
    decide +kernel
  · obtain ⟨-, hrefused, -⟩ := options_refused_for_first_fault []
      ⟨none, some (fields ++ [("c", "\n"), ("c d", "4")]), none⟩
    refine (hrefused _).mpr (.value ?_ rfl hfields ?_ ?_)
    · rintro code ⟨⟩
    · exact isHeaderName_iff.mp (by decide +kernel)
    · rw [← isHeaderValue_iff]
      decide +kernel

end AccountWire.Echo
