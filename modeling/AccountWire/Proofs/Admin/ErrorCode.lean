import AccountWire.Proofs.Admin.Outcome
import AccountWire.Proofs.Json.Recognition

/-!
# The code of a failed response

A response that tells of failure is told by its status and a code.  The code is the first word of the
message in its body, when the body is a JSON text with such a message, and the whole body otherwise
(`IsCode`); which of the two it is, and which message a body has, is said by the grammar of JSON alone.
`errorCode_eq_iff` says that this is the code that is found.  Every failed response is told with its
code, whatever the operation (`failed_response_told_by_code`).
-/

namespace AccountWire.Admin

open Http (Request Response Transport)

/-! ### Messages -/

/-- The values of the only field of a record: the members of its name in an object all of whose names
are texts, or the items of an array. -/
inductive HasValues (name : String) : Json.Tree → List Json.Tree → Prop
  | object {ms : List (Json.StringText × Json.Tree)}
      (hnames : ∀ m ∈ ms, ∃ k, Json.stringText? m.1 = some k) :
      HasValues name (.obj ms)
        ((ms.filter fun m => Json.stringText? m.1 == some name).map (·.2))
  | array (items : List Json.Tree) : HasValues name (.arr items) items

/-- An error has a message: the text of its field, which is empty when there is no field. -/
def HasMessage (t : Json.Tree) (message : String) : Prop :=
  HasValues "message" t [] ∧ message = "" ∨
    ∃ x, HasValues "message" t [.string x] ∧ Json.stringText? x = some message

/-- A body is a JSON text with a record of one error that has a message. -/
def TellsMessage (body : Bytes) (message : String) : Prop :=
  ∃ t error, t.IsDocument body ∧ HasValues "error" t [error] ∧ HasMessage error message

/-! ### Codes -/

/-- What ends a word. -/
def IsSeparator (c : Char) : Prop := c = ' ' ∨ c = ':'

instance (c : Char) : Decidable (IsSeparator c) := inferInstanceAs (Decidable (c = ' ' ∨ c = ':'))

/-- A word is not empty and has no separator in it. -/
structure IsCodeWord (word : String) : Prop where
  nonempty : word ≠ ""
  noSeparator : ∀ c ∈ word.toList, ¬ IsSeparator c

/-- The longest word that a message begins with. -/
structure IsFirstWord (message word : String) : Prop where
  isCodeWord : IsCodeWord word
  atStart : word.toList <+: message.toList
  longest : ∀ w, IsCodeWord w → w.toList <+: message.toList → w.toList.length ≤ word.toList.length

/-- The code of a body: the first word of its message, or the whole body when it has no message or one
that is empty or begins with a separator. -/
inductive IsCode (body : Bytes) : String → Prop
  | word {message code : String} (hmessage : TellsMessage body message)
      (hword : IsFirstWord message code) : IsCode body code
  | whole (hnone : ∀ message, TellsMessage body message →
      ∀ c ∈ message.toList.head?, IsSeparator c) : IsCode body (Utf8.toStringLossy body)

/-! ### Reading a record of one field -/

/-- The names of an object are all texts when its members can be named. -/
theorem hasValues_obj_iff {name : String} {ms : List (Json.StringText × Json.Tree)}
    {vs : List Json.Tree} : HasValues name (.obj ms) vs ↔
      (Json.nameMembers? ms).isSome ∧ vs = Json.Tree.valuesOf (.obj ms) name := by
  have hnames : (Json.nameMembers? ms).isSome ↔ ∀ m ∈ ms, ∃ k, Json.stringText? m.1 = some k := by
    rw [Json.Tree.isSome_nameMembers?, Json.Tree.isNamed, List.all_eq_true]
    simp only [Json.Tree.members, Option.isSome_iff_exists]
  rw [hnames]
  constructor
  · intro h
    cases h with
    | object h => exact ⟨h, rfl⟩
  · rintro ⟨h, rfl⟩
    exact .object h

/-- A list that stands for the object has its items as the values. -/
theorem hasValues_arr_iff {name : String} {items vs : List Json.Tree} :
    HasValues name (.arr items) vs ↔ vs = items := by
  constructor
  · intro h
    cases h
    rfl
  · rintro rfl
    exact .array vs

/-- **A record of one field** is read by the values of the field. -/
theorem read_sole_iff {α : Type} {name : String} {t : Json.Tree} {read : Json.Tree → Option α}
    {found : Option α} :
    ((t.fields? [name]).bind fun fs => fs.find? name read) = some found ↔
      ∃ vs, HasValues name t vs ∧ Json.Tree.readOne read vs = some found := by
  cases t with
  | obj ms =>
      simp only [hasValues_obj_iff, and_assoc, exists_and_left, exists_eq_left, Json.Tree.fields?]
      cases hms : Json.nameMembers? ms with
      | none => simp
      | some fs => simp [Json.Tree.find?_of_nameMembers? hms]
  | arr items =>
      simp only [hasValues_arr_iff, exists_eq_left]
      -- More than one item is too much for the record.
      rcases items with _ | ⟨u, _ | ⟨v, r⟩⟩
      · simp [Json.Tree.fields?, Json.Fields.find?, Json.Tree.readOne]
      · simp [Json.Tree.fields?, Json.Fields.find?, Json.Tree.readOne]
      · simp [Json.Tree.fields?, Json.Tree.readOne]
  | null | bool b | number n | string x =>
      refine iff_of_false (by simp [Json.Tree.fields?]) ?_
      rintro ⟨vs, h, -⟩
      cases h

/-- One value is read from a list that has no other. -/
theorem readOne_eq_some_iff {α : Type} {read : Json.Tree → Option α} {vs : List Json.Tree}
    {found : Option α} : Json.Tree.readOne read vs = some found ↔
      vs = [] ∧ found = none ∨ ∃ u a, vs = [u] ∧ read u = some a ∧ found = some a := by
  match vs with
  | [] => simp [Json.Tree.readOne, eq_comm]
  | [u] => simp [Json.Tree.readOne, eq_comm]
  | u :: v :: r => simp [Json.Tree.readOne]

/-- A text is read from a string that is well formed. -/
theorem text?_eq_some_iff {t : Json.Tree} {text : String} :
    t.text? = some text ↔ ∃ x, t = .string x ∧ Json.stringText? x = some text := by
  cases t <;> simp [Json.Tree.text?]

/-- The message of an error is read as it stands. -/
theorem hasMessage_iff {t : Json.Tree} {message : String} :
    ((t.fields? ["message"]).bind fun error => error.text? "message") = some message ↔
      HasMessage t message := by
  have htext : ((t.fields? ["message"]).bind fun error => error.text? "message") =
      ((t.fields? ["message"]).bind fun error => error.find? "message" Json.Tree.text?).map
        (·.getD "") := by
    cases t.fields? ["message"] <;> rfl
  rw [htext, Option.map_eq_some_iff]
  simp only [read_sole_iff, readOne_eq_some_iff, text?_eq_some_iff]
  constructor
  · rintro ⟨_, ⟨vs, hvs, ⟨rfl, rfl⟩ | ⟨_, _, rfl, ⟨x, rfl, hx⟩, rfl⟩⟩, rfl⟩
    · exact Or.inl ⟨hvs, rfl⟩
    · exact Or.inr ⟨x, hvs, hx⟩
  · rintro (⟨hvs, rfl⟩ | ⟨x, hvs, hx⟩)
    · exact ⟨none, ⟨[], hvs, Or.inl ⟨rfl, rfl⟩⟩, rfl⟩
    · exact ⟨some message, ⟨_, hvs, Or.inr ⟨_, _, rfl, ⟨x, rfl, hx⟩, rfl⟩⟩, rfl⟩

/-- **The message of a body** is found. -/
theorem errorMessage?_eq_some_iff {body : Bytes} {message : String} :
    errorMessage? body = some message ↔ TellsMessage body message := by
  let read := fun error : Json.Tree =>
    (error.fields? ["message"]).bind fun fs => fs.text? "message"
  have herror : ∀ t : Json.Tree,
      ((t.fields? ["error"]).bind fun fs => fs.require? "error" read) = some message ↔
        ∃ error, HasValues "error" t [error] ∧ HasMessage error message := by
    intro t
    have hrequire : ((t.fields? ["error"]).bind fun fs => fs.require? "error" read) =
        ((t.fields? ["error"]).bind fun fs => fs.find? "error" read).bind id :=
      (Option.bind_assoc ..).symm
    rw [hrequire, Option.bind_eq_some_iff]
    simp only [read_sole_iff, readOne_eq_some_iff, ← hasMessage_iff]
    constructor
    · rintro ⟨_, ⟨vs, hvs, ⟨-, rfl⟩ | ⟨error, _, rfl, hread, rfl⟩⟩, hfound⟩
      · cases hfound
      · obtain rfl := Option.some.inj hfound
        exact ⟨error, hvs, hread⟩
    · rintro ⟨error, hvs, hread⟩
      exact ⟨some message, ⟨_, hvs, Or.inr ⟨error, message, rfl, hread, rfl⟩⟩, rfl⟩
  have hbody : errorMessage? body = (Json.Tree.ofBytes? body).bind fun t =>
      (t.fields? ["error"]).bind fun fs => fs.require? "error" read := rfl
  rw [hbody, Option.bind_eq_some_iff]
  simp only [herror, Json.Tree.ofBytes?_iff, TellsMessage]
  constructor
  · rintro ⟨t, ht, error, hvs, hmessage⟩
    exact ⟨t, error, ht, hvs, hmessage⟩
  · rintro ⟨t, error, ht, hvs, hmessage⟩
    exact ⟨t, ht, error, hvs, hmessage⟩

/-! ### First words -/

/-- The first word ends before a blank or a colon. -/
theorem toList_firstWord (message : String) :
    (firstWord message).toList = message.toList.takeWhile fun c => !(c = ' ' || c = ':') :=
  String.toList_ofList

/-- What a word is made of. -/
theorem inWord_iff (c : Char) : (!(c = ' ' || c = ':')) = true ↔ ¬ IsSeparator c := by
  simp [IsSeparator]

/-- No word stands before a separator. -/
theorem takeWhile_eq_nil {cs : List Char} :
    (cs.takeWhile fun c => !(c = ' ' || c = ':')) = [] ↔ ∀ c ∈ cs.head?, IsSeparator c := by
  cases cs with
  | nil => simp
  | cons c r => simp [List.takeWhile_cons, IsSeparator, or_iff_not_imp_left]

/-- There is no first word exactly if the message begins with a separator, or is empty. -/
theorem firstWord_eq_empty_iff {message : String} :
    firstWord message = "" ↔ ∀ c ∈ message.toList.head?, IsSeparator c := by
  rw [← String.toList_eq_nil_iff, toList_firstWord, takeWhile_eq_nil]

/-- A message that begins with a word is cut behind it or later. -/
theorem toList_firstWord_append {message word : String} {rest : List Char} (hword : IsCodeWord word)
    (h : word.toList ++ rest = message.toList) : (firstWord message).toList =
      word.toList ++ rest.takeWhile fun c => !(c = ' ' || c = ':') := by
  rw [toList_firstWord, ← h]
  exact List.takeWhile_append_of_pos fun c hc => (inWord_iff c).mpr (hword.noSeparator c hc)

/-- The first word is a word of a code. -/
theorem isCodeWord_firstWord {message : String} (hne : firstWord message ≠ "") :
    IsCodeWord (firstWord message) where
  nonempty := hne
  noSeparator c hc := by
    rw [toList_firstWord] at hc
    exact (inWord_iff c).mp (List.mem_takeWhile_imp (p := fun c => !(c = ' ' || c = ':')) hc)

/-- **The first word of a message**, unless it is empty. -/
theorem isFirstWord_iff {message word : String} :
    IsFirstWord message word ↔ word ≠ "" ∧ firstWord message = word := by
  have hstart : (firstWord message).toList <+: message.toList := by
    rw [toList_firstWord]
    exact List.takeWhile_prefix _
  constructor
  · rintro ⟨hword, ⟨rest, hmessage⟩, hlongest⟩
    have hcut := toList_firstWord_append hword hmessage
    have hne : firstWord message ≠ "" := by
      rw [Ne, ← String.toList_eq_nil_iff, hcut, List.append_eq_nil_iff, String.toList_eq_nil_iff]
      exact fun h => hword.nonempty h.1
    have hbegins : word.toList <+: (firstWord message).toList := ⟨_, hcut.symm⟩
    have hlength := hlongest _ (isCodeWord_firstWord hne) hstart
    exact ⟨hword.nonempty, String.toList_inj.mp (hbegins.eq_of_length_le hlength).symm⟩
  · rintro ⟨hne, rfl⟩
    refine ⟨isCodeWord_firstWord hne, hstart, ?_⟩
    rintro w hw ⟨rest, hmessage⟩
    rw [toList_firstWord_append hw hmessage, List.length_append]
    exact Nat.le_add_right _ _

/-- What follows the first word of a message does not matter. -/
theorem isFirstWord_append {word rest : String} (hword : IsCodeWord word)
    (hrest : ∀ c ∈ rest.toList.head?, IsSeparator c) : IsFirstWord (word ++ rest) word := by
  refine isFirstWord_iff.mpr ⟨hword.nonempty, String.toList_inj.mp ?_⟩
  rw [toList_firstWord_append hword String.toList_append.symm, takeWhile_eq_nil.mpr hrest,
    List.append_nil]

/-! ### The code of a body -/

/-- **The code that is found** is the code of the body. -/
theorem errorCode_eq_iff {body : Bytes} {code : String} :
    errorCode body = code ↔ IsCode body code := by
  have htold : ∀ message, TellsMessage body message ↔ errorMessage? body = some message :=
    fun _ => errorMessage?_eq_some_iff.symm
  constructor
  · rintro rfl
    unfold errorCode
    split
    · rename_i message hmessage
      split
      · rename_i hempty
        refine .whole fun m hm => ?_
        obtain rfl := Option.some.inj (hmessage.symm.trans ((htold m).mp hm))
        exact firstWord_eq_empty_iff.mp hempty
      · rename_i hword
        exact .word ((htold message).mpr hmessage) (isFirstWord_iff.mpr ⟨hword, rfl⟩)
    · rename_i hnone
      refine .whole fun m hm => ?_
      rw [htold, hnone] at hm
      cases hm
  · intro h
    cases h with
    | word hmessage hword =>
        obtain ⟨hne, rfl⟩ := isFirstWord_iff.mp hword
        simp only [errorCode, (htold _).mp hmessage, if_neg hne]
    | whole hnone =>
        cases hmessage : errorMessage? body with
        | none => simp only [errorCode, hmessage]
        | some message =>
            have hempty := firstWord_eq_empty_iff.mpr (hnone message ((htold message).mpr hmessage))
            simp only [errorCode, hmessage, if_pos hempty]

/-- Only an empty body has an empty code. -/
theorem IsCode.eq_nil {body : Bytes} {code : String} (h : IsCode body code) (hempty : code = "") :
    body = [] := by
  cases h with
  | word _ hword => exact absurd hempty hword.isCodeWord.nonempty
  | whole _ => exact Utf8.toStringLossy_eq_empty_iff.mp hempty

/-- **A code is empty for an empty body only.** -/
theorem errorCode_eq_empty_iff {body : Bytes} : errorCode body = "" ↔ body = [] := by
  constructor
  · intro h
    exact (errorCode_eq_iff.mp rfl).eq_nil h
  · rintro rfl
    rfl

/-- **Every failed response is told by its status and its code.**  The code is the longest word that
the message of the body begins with, and then neither the rest of the message nor anything else in the
body matters; a body without a message, or with one that does not begin with a word, is its own code.
Only an empty body has an empty code. -/
theorem failed_response_told_by_code {α σ : Type} {x : Exchange α} {send : Transport σ} {s s' : σ}
    {r : Response} (hsend : send x.request s = (some r, s'))
    (hstatus : r.status < 200 ∨ 299 < r.status) :
    ∃ code, run (.ok x) send s = (.error (.backend r.status code), s') ∧
      (∀ code', IsCode r.body code' ↔ code' = code) ∧
      (∀ word rest, IsCodeWord word → (∀ c ∈ rest.toList.head?, IsSeparator c) →
        TellsMessage r.body (word ++ rest) → code = word) ∧
      (code = "" ↔ r.body = []) := by
  refine ⟨errorCode r.body, ?_, fun code' => errorCode_eq_iff.symm.trans eq_comm, ?_,
    errorCode_eq_empty_iff⟩
  · rw [run, hsend]
    exact congrArg (·, s') (x.conclude_of_failed hstatus)
  · intro word rest hword hrest hmessage
    exact errorCode_eq_iff.mpr (.word hmessage (isFirstWord_append hword hrest))

/-- A user that is not found is told by the first word, although there is more in the message and in the
body. -/
theorem missing_user_told_by_code :
    let c : Client := ⟨"p", none, "http://h", "http://h"⟩
    let r : Response := ⟨404, Utf8.ofString
      "\x7b\"error\":\x7b\"code\":5,\"message\":\"USER_NOT_FOUND : gone\"\x7d,\"a\":[]\x7d"⟩
    ∃ x, User.byUid c "u" = .ok x ∧ (r.status < 200 ∨ 299 < r.status) ∧
      TellsMessage r.body "USER_NOT_FOUND : gone" ∧ IsCode r.body "USER_NOT_FOUND" ∧
      run (.ok x) (fun _ s => (some r, s)) () = (.error (.backend 404 "USER_NOT_FOUND"), ()) := by
  intro c r
  obtain ⟨x, hx⟩ := exists_eq_ok
    (show (User.byUid c "u").toOption.isSome = true by decide +kernel)
  have hmessage : TellsMessage r.body "USER_NOT_FOUND : gone" :=
    errorMessage?_eq_some_iff.mp (by decide +kernel)
  let send : Transport Unit := fun _ s => (some r, s)
  have hsend : send x.request () = (some r, ()) := rfl
  have hstatus : r.status < 200 ∨ 299 < r.status := Or.inr (by decide)
  obtain ⟨code, hrun, hcode, hfirst, -⟩ := failed_response_told_by_code hsend hstatus
  obtain rfl : code = "USER_NOT_FOUND" :=
    hfirst "USER_NOT_FOUND" " : gone" ⟨by decide, by simp [IsSeparator]⟩
      (by simp [IsSeparator]) hmessage
  exact ⟨x, hx, hstatus, hmessage, (hcode _).mpr rfl, hrun⟩

end AccountWire.Admin
