import AccountWire.Proofs.Admin.Outcome
import AccountWire.Proofs.User.Claims
import Mathlib.Data.List.Forall2
import Mathlib.Data.Nat.Digits.Defs

/-!
# How a stored user is shown

Four texts of a stored user stand for something else: the custom claims, and three points in time.
`WritesInt` says which texts are integers, digit by digit and with any number of zeros in front, and
`HoldsTime` and `HoldsObject` which texts of a user can be read.  A user is shown exactly when its
texts can be read and its first point in time, which is in seconds, still fits a word in
milliseconds; `Shows` then tells every field of what is shown, so that no two of them can be
mistaken for each other.  Otherwise the first text that cannot be read is to blame (`ExportFault`).
-/

namespace AccountWire.User

open Admin (Error bind_eq_error_iff of_bind_eq_error of_bind_eq_ok)

/-! ### Decimal texts -/

/-- The value of a decimal digit. -/
def digitValue (c : Char) : Nat := c.toNat - '0'.toNat

/-- Digits, and at least one, write a number in base ten.  The last one counts the units. -/
def WritesNat (cs : List Char) (n : Nat) : Prop :=
  cs ≠ [] ∧ (∀ c ∈ cs, '0' ≤ c ∧ c ≤ '9') ∧ n = Nat.ofDigits 10 (cs.map digitValue).reverse

/-- A text writes an integer: digits, perhaps after a sign. -/
inductive WritesInt : List Char → Int → Prop
  | unsigned {cs : List Char} {n : Nat} (h : WritesNat cs n) : WritesInt cs n
  | plus {cs : List Char} {n : Nat} (h : WritesNat cs n) : WritesInt ('+' :: cs) n
  | minus {cs : List Char} {n : Nat} (h : WritesNat cs n) : WritesInt ('-' :: cs) (-n)

/-- Integers from the least to the greatest of a signed word. -/
def FitsWord (n : Int) : Prop := -2 ^ 63 ≤ n ∧ n < 2 ^ 63

instance (n : Int) : Decidable (FitsWord n) := inferInstanceAs (Decidable (_ ∧ _))

/-- The checker of words finds exactly the numbers of 64 bits with a sign. -/
theorem fitsWord_iff {n : Int} : fitsWord n = true ↔ FitsWord n := by
  simp [fitsWord, FitsWord]

/-- Takes in one more digit. -/
def addDigit (n : Nat) (c : Char) : Option Nat :=
  if '0' ≤ c ∧ c ≤ '9' then some (10 * n + digitValue c) else none

/-- **Digits are taken in from the left**, after those that made `n`. -/
theorem foldlM_addDigit {cs : List Char} {n m : Nat} : cs.foldlM addDigit n = some m ↔
    (∀ c ∈ cs, '0' ≤ c ∧ c ≤ '9') ∧
      m = 10 ^ cs.length * n + Nat.ofDigits 10 (cs.map digitValue).reverse := by
  induction cs generalizing n with
  | nil => simp [eq_comm]
  | cons c cs ih =>
      rw [List.foldlM_cons, addDigit, List.forall_mem_cons]
      by_cases hc : '0' ≤ c ∧ c ≤ '9'
      · have hvalue : Nat.ofDigits 10 ((c :: cs).map digitValue).reverse =
            Nat.ofDigits 10 (cs.map digitValue).reverse + 10 ^ cs.length * digitValue c := by
          rw [List.map_cons, List.reverse_cons, Nat.ofDigits_append, Nat.ofDigits_singleton,
            List.length_reverse, List.length_map]
        have hshift : 10 ^ (c :: cs).length * n = 10 ^ cs.length * (10 * n) := by
          rw [List.length_cons, Nat.pow_succ, Nat.mul_assoc]
        rw [if_pos hc, Option.bind_eq_bind, Option.bind_some, ih, hvalue, hshift, Nat.mul_add,
          and_iff_right hc]
        refine and_congr_right fun _ => ?_
        omega
      · rw [if_neg hc]
        simp [hc]

/-- Digits are read as the number that they write. -/
theorem decimal?_eq_some_iff {cs : List Char} {n : Nat} :
    decimal? cs = some n ↔ WritesNat cs n := by
  by_cases hcs : cs = []
  · simp [decimal?, WritesNat, hcs]
  · have hfold : decimal? cs = cs.foldlM addDigit 0 := if_neg hcs
    rw [hfold, foldlM_addDigit, WritesNat, Nat.mul_zero, Nat.zero_add]
    exact (and_iff_right hcs).symm

/-- A number with its sign is taken if it fits a word. -/
theorem bounded_eq_some_iff {read : Option Nat} {sign : Int → Int} {n : Int} :
    ((do
      let m ← (do let a ← read; pure (a : Int)).map sign
      if fitsWord m then some m else none) : Option Int) = some n ↔
      (∃ m, read = some m ∧ n = sign m) ∧ FitsWord n := by
  cases read with
  | none => simp
  | some a =>
      have hread : (do let a ← some a; pure (a : Int)).map sign = some (sign a) := rfl
      rw [hread, Option.bind_eq_bind, Option.bind_some, ← fitsWord_iff]
      by_cases hfits : fitsWord (sign a) = true
      · rw [if_pos hfits]
        constructor
        · intro h
          obtain rfl := Option.some.inj h
          exact ⟨⟨a, rfl, rfl⟩, hfits⟩
        · rintro ⟨⟨m, hm, rfl⟩, -⟩
          rw [Option.some.inj hm]
      · rw [if_neg hfits]
        refine iff_of_false (by simp) ?_
        rintro ⟨⟨m, hm, rfl⟩, hn⟩
        obtain rfl := Option.some.inj hm
        exact hfits hn

/-- Behind a minus sign digits write the negative number. -/
theorem writesInt_minus_iff {cs : List Char} {n : Int} :
    WritesInt ('-' :: cs) n ↔ ∃ m, WritesNat cs m ∧ n = -(m : Int) := by
  constructor
  · intro h
    cases h with
    | unsigned h => exact absurd (h.2.1 '-' List.mem_cons_self) (by decide)
    | minus h => exact ⟨_, h, rfl⟩
  · rintro ⟨m, h, rfl⟩
    exact .minus h

theorem writesInt_plus_iff {cs : List Char} {n : Int} :
    WritesInt ('+' :: cs) n ↔ ∃ m, WritesNat cs m ∧ n = m := by
  constructor
  · intro h
    cases h with
    | unsigned h => exact absurd (h.2.1 '+' List.mem_cons_self) (by decide)
    | plus h => exact ⟨_, h, rfl⟩
  · rintro ⟨m, h, rfl⟩
    exact .plus h

/-- Without a sign digits write the number. -/
theorem writesInt_unsigned_iff {cs : List Char} {n : Int} (hminus : ∀ r, cs ≠ '-' :: r)
    (hplus : ∀ r, cs ≠ '+' :: r) : WritesInt cs n ↔ ∃ m, WritesNat cs m ∧ n = m := by
  constructor
  · intro h
    cases h with
    | unsigned h => exact ⟨_, h, rfl⟩
    | plus => exact absurd rfl (hplus _)
    | minus => exact absurd rfl (hminus _)
  · rintro ⟨m, h, rfl⟩
    exact .unsigned h

/-- **Integers are read from all of their texts**, if they fit a word, and from no other text. -/
theorem integer?_eq_some_iff {s : String} {n : Int} :
    integer? s = some n ↔ WritesInt s.toList n ∧ FitsWord n := by
  unfold integer?
  split
  · next r h =>
      rw [h, writesInt_minus_iff]
      simp only [← decimal?_eq_some_iff]
      exact bounded_eq_some_iff
  · next r h =>
      rw [h, writesInt_plus_iff]
      simp only [← decimal?_eq_some_iff]
      exact bounded_eq_some_iff
  · next hminus hplus =>
      rw [writesInt_unsigned_iff hminus hplus]
      simp only [← decimal?_eq_some_iff]
      exact bounded_eq_some_iff

/-! ### Texts that can be read -/

/-- The point in time that a text holds: an integer that fits a word, or zero. -/
inductive HoldsTime : String → Int → Prop
  | absent : HoldsTime "" 0
  | integer {text : String} {n : Int} (h : WritesInt text.toList n) (hfits : FitsWord n) :
      HoldsTime text n

/-- The custom claims that a text holds: the members of an object, or none. -/
inductive HoldsObject : String → Option Json.Members → Prop
  | absent : HoldsObject "" none
  | object {text : String} {claims : Json.Members}
      (h : Json.ofBytes? (Utf8.ofString text) = some (.obj claims)) :
      HoldsObject text (shownClaims claims)

/-- A time is read exactly if the text holds it. -/
theorem timestamp_eq_ok_iff {field value : String} {n : Int} :
    timestamp field value = .ok n ↔ HoldsTime value n := by
  by_cases hvalue : value = ""
  · subst hvalue
    constructor
    · intro h
      obtain rfl := Except.ok.inj h
      exact .absent
    · intro h
      cases h with
      | absent => rfl
      | integer h => cases h with
        | unsigned h => exact absurd rfl h.1
  · have hread : HoldsTime value n ↔ integer? value = some n := by
      rw [integer?_eq_some_iff]
      constructor
      · intro h
        cases h with
        | absent => exact absurd rfl hvalue
        | integer h hfits => exact ⟨h, hfits⟩
      · rintro ⟨h, hfits⟩
        exact .integer h hfits
    rw [hread, timestamp, if_neg hvalue]
    cases integer? value <;> simp

/-- A text that holds no time is reported with its field. -/
theorem timestamp_eq_error_iff {field value : String} {e : Error} :
    timestamp field value = .error e ↔
      (¬ ∃ n, HoldsTime value n) ∧ e = .unexpectedResponse (.badTimestamp field value) := by
  simp only [← @timestamp_eq_ok_iff field]
  unfold timestamp
  split
  · simp
  · split
    · simp
    · simp [eq_comm]

/-- Seconds are shown in milliseconds if these are a word. -/
theorem toMillis_eq_ok_iff {text : String} {seconds millis : Int} :
    toMillis text seconds = .ok millis ↔ millis = 1000 * seconds ∧ FitsWord (1000 * seconds) := by
  rw [toMillis, Int.mul_comm, ← fitsWord_iff]
  by_cases hfits : fitsWord (1000 * seconds) = true
  · simp [hfits, eq_comm]
  · simp [hfits]

/-- Seconds that are too many in milliseconds are reported as they are stored. -/
theorem toMillis_eq_error_iff {text : String} {seconds : Int} {e : Error} :
    toMillis text seconds = .error e ↔
      ¬ FitsWord (1000 * seconds) ∧ e = .unexpectedResponse (.timestampOutOfRange text) := by
  rw [toMillis, Int.mul_comm, ← fitsWord_iff]
  by_cases hfits : fitsWord (1000 * seconds) = true
  · simp [hfits]
  · simp [hfits, eq_comm]

/-- What the text of claims is read as, when it is not empty. -/
theorem claimsOfText_of_ne {text : String} (htext : text ≠ "") :
    claimsOfText text = match Json.ofBytes? (Utf8.ofString text) with
      | some (.obj claims) => .ok (shownClaims claims)
      | _ => .error .unreadable := by
  rw [claimsOfText, if_neg htext, Json.membersOfBytes?]
  cases Json.ofBytes? (Utf8.ofString text) with
  | none => rfl
  | some v =>
      cases v with
      | obj claims => cases claims <;> rfl
      | _ => rfl

/-- Claims are read exactly if the text holds them. -/
theorem claimsOfText_eq_ok_iff {text : String} {shown : Option Json.Members} :
    claimsOfText text = .ok shown ↔ HoldsObject text shown := by
  by_cases htext : text = ""
  · subst htext
    have hempty : Json.ofBytes? (Utf8.ofString "") = none := by rfl
    constructor
    · intro h
      obtain rfl := Except.ok.inj h
      exact .absent
    · intro h
      cases h with
      | absent => rfl
      | object h => simp [hempty] at h
  · rw [claimsOfText_of_ne htext]
    constructor
    · intro h
      split at h
      · next claims hread =>
          obtain rfl := Except.ok.inj h
          exact .object hread
      · cases h
    · intro h
      cases h with
      | absent => exact absurd rfl htext
      | object h => rw [h]

/-- A text that holds no claims is unreadable. -/
theorem claimsOfText_eq_error_iff {text : String} {e : Error} :
    claimsOfText text = .error e ↔ (¬ ∃ shown, HoldsObject text shown) ∧ e = .unreadable := by
  simp only [← claimsOfText_eq_ok_iff]
  unfold claimsOfText
  split
  · simp
  · split
    · simp [eq_comm]
    · simp
    · simp

/-! ### What is shown -/

/-- What an identity provider says about a user, as it is shown. -/
structure ShowsProvider (p : StoredProvider) (x : Profile) : Prop where
  uid : x.uid = p.rawId
  displayName : x.displayName = p.displayName
  email : x.email = p.email
  phoneNumber : x.phoneNumber = p.phoneNumber
  photoUrl : x.photoUrl = p.photoUrl
  providerId : x.providerId = p.providerId

/-- All that is shown of a stored user. -/
structure Shows (u : StoredUser) (x : ExportedUser) : Prop where
  uid : x.record.profile.uid = u.localId
  displayName : x.record.profile.displayName = u.displayName
  email : x.record.profile.email = u.email
  phoneNumber : x.record.profile.phoneNumber = u.phoneNumber
  photoUrl : x.record.profile.photoUrl = u.photoUrl
  providerId : x.record.profile.providerId = "firebase"
  customClaims : HoldsObject u.customAttributes x.record.customClaims
  disabled : x.record.disabled = u.disabled
  emailVerified : x.record.emailVerified = u.emailVerified
  /-- As many as are stored, in the same order. -/
  providers : List.Forall₂ ShowsProvider u.providers x.record.providers
  /-- Seconds become milliseconds, exactly. -/
  tokensValidAfter : ∃ seconds, HoldsTime u.validSince seconds ∧
    x.record.tokensValidAfter = 1000 * seconds ∧ FitsWord (1000 * seconds)
  creation : HoldsTime u.createdAt x.record.metadata.creationTimestamp
  lastLogIn : HoldsTime u.lastLoginAt x.record.metadata.lastLogInTimestamp
  tenantId : x.record.tenantId = u.tenantId
  passwordHash : x.passwordHash = if u.passwordHash = "UkVEQUNURUQ=" then "" else u.passwordHash
  passwordSalt : x.passwordSalt = u.passwordSalt

/-- A stored user all of whose texts can be read. -/
structure StoredUser.IsReadable (u : StoredUser) : Prop where
  customClaims : ∃ shown, HoldsObject u.customAttributes shown
  tokensValidAfter : ∃ seconds, HoldsTime u.validSince seconds ∧ FitsWord (1000 * seconds)
  creation : ∃ n, HoldsTime u.createdAt n
  lastLogIn : ∃ n, HoldsTime u.lastLoginAt n

/-- Why a stored user cannot be shown: the first of its texts that cannot be read. -/
inductive ExportFault (u : StoredUser) : Error → Prop
  | customClaims (h : ¬ ∃ shown, HoldsObject u.customAttributes shown) :
      ExportFault u .unreadable
  | validSince (hclaims : ∃ shown, HoldsObject u.customAttributes shown)
      (h : ¬ ∃ n, HoldsTime u.validSince n) :
      ExportFault u (.unexpectedResponse (.badTimestamp "validSince" u.validSince))
  | outOfRange (hclaims : ∃ shown, HoldsObject u.customAttributes shown) {seconds : Int}
      (hsince : HoldsTime u.validSince seconds) (h : ¬ FitsWord (1000 * seconds)) :
      ExportFault u (.unexpectedResponse (.timestampOutOfRange u.validSince))
  | createdAt (hclaims : ∃ shown, HoldsObject u.customAttributes shown)
      (hsince : ∃ seconds, HoldsTime u.validSince seconds ∧ FitsWord (1000 * seconds))
      (h : ¬ ∃ n, HoldsTime u.createdAt n) :
      ExportFault u (.unexpectedResponse (.badTimestamp "createdAt" u.createdAt))
  | lastLoginAt (hclaims : ∃ shown, HoldsObject u.customAttributes shown)
      (hsince : ∃ seconds, HoldsTime u.validSince seconds ∧ FitsWord (1000 * seconds))
      (hcreation : ∃ n, HoldsTime u.createdAt n) (h : ¬ ∃ n, HoldsTime u.lastLoginAt n) :
      ExportFault u (.unexpectedResponse (.badTimestamp "lastLoginAt" u.lastLoginAt))

/-- A login method is shown in one way. -/
theorem showsProvider_iff {p : StoredProvider} {x : Profile} :
    ShowsProvider p x ↔ p.export = x := by
  constructor
  · rintro ⟨huid, hname, hemail, hphone, hphoto, hprovider⟩
    cases x
    simp only at huid hname hemail hphone hphoto hprovider
    rw [StoredProvider.export, huid, hname, hemail, hphone, hphoto, hprovider]
  · rintro rfl
    exact ⟨rfl, rfl, rfl, rfl, rfl, rfl⟩

theorem showsProviders_iff {ps : List StoredProvider} {xs : List Profile} :
    List.Forall₂ ShowsProvider ps xs ↔ xs = ps.map (·.export) := by
  have hshows : ShowsProvider = fun p x => p.export = x := by
    funext p x
    exact propext showsProvider_iff
  rw [hshows, ← List.forall₂_map_left_iff (R := Eq), List.forall₂_eq_eq_eq]
  exact eq_comm

/-- **What is shown of a stored user**, field by field. -/
theorem export_eq_ok_iff {u : StoredUser} {x : ExportedUser} : u.export = .ok x ↔ Shows u x := by
  constructor
  · intro h
    obtain ⟨claims, hclaims, h⟩ := of_bind_eq_ok h
    obtain ⟨since, hsince, h⟩ := of_bind_eq_ok h
    obtain ⟨millis, hmillis, h⟩ := of_bind_eq_ok h
    obtain ⟨creation, hcreation, h⟩ := of_bind_eq_ok h
    obtain ⟨lastLogIn, hlogin, h⟩ := of_bind_eq_ok h
    obtain rfl := Except.ok.inj h
    exact ⟨rfl, rfl, rfl, rfl, rfl, rfl, claimsOfText_eq_ok_iff.mp hclaims, rfl, rfl,
      showsProviders_iff.mpr rfl,
      ⟨since, timestamp_eq_ok_iff.mp hsince, toMillis_eq_ok_iff.mp hmillis⟩,
      timestamp_eq_ok_iff.mp hcreation, timestamp_eq_ok_iff.mp hlogin, rfl, rfl, rfl⟩
  · obtain ⟨⟨⟨uid, name, email, phone, photo, provider⟩, claims, disabled, verified, providers,
      millis, ⟨creation, lastLogIn⟩, tenant⟩, hash, salt⟩ := x
    rintro ⟨rfl, rfl, rfl, rfl, rfl, rfl, hclaims, rfl, rfl, hproviders,
      ⟨since, hsince, rfl, hfits⟩, hcreation, hlogin, rfl, rfl, rfl⟩
    have hmillis : toMillis u.validSince since = .ok (1000 * since) :=
      toMillis_eq_ok_iff.mpr ⟨rfl, hfits⟩
    simp only [StoredUser.export, claimsOfText_eq_ok_iff.mpr hclaims,
      timestamp_eq_ok_iff.mpr hsince, hmillis, timestamp_eq_ok_iff.mpr hcreation,
      timestamp_eq_ok_iff.mpr hlogin, bind, Except.bind, ← showsProviders_iff.mp hproviders]
    rfl

/-- **The first text that cannot be read** is to blame. -/
theorem export_eq_error_iff {u : StoredUser} {e : Error} :
    u.export = .error e ↔ ExportFault u e := by
  constructor
  · intro h
    rcases of_bind_eq_error h with h | ⟨shown, hclaims, h⟩
    · obtain ⟨hnone, rfl⟩ := claimsOfText_eq_error_iff.mp h
      exact .customClaims hnone
    have hclaims : ∃ shown, HoldsObject u.customAttributes shown :=
      ⟨shown, claimsOfText_eq_ok_iff.mp hclaims⟩
    rcases of_bind_eq_error h with h | ⟨seconds, hsince, h⟩
    · obtain ⟨hnone, rfl⟩ := timestamp_eq_error_iff.mp h
      exact .validSince hclaims hnone
    have hsince := timestamp_eq_ok_iff.mp hsince
    rcases of_bind_eq_error h with h | ⟨millis, hmillis, h⟩
    · obtain ⟨hout, rfl⟩ := toMillis_eq_error_iff.mp h
      exact .outOfRange hclaims hsince hout
    have hsince : ∃ seconds, HoldsTime u.validSince seconds ∧ FitsWord (1000 * seconds) :=
      ⟨seconds, hsince, (toMillis_eq_ok_iff.mp hmillis).2⟩
    rcases of_bind_eq_error h with h | ⟨creation, hcreation, h⟩
    · obtain ⟨hnone, rfl⟩ := timestamp_eq_error_iff.mp h
      exact .createdAt hclaims hsince hnone
    have hcreation : ∃ n, HoldsTime u.createdAt n := ⟨creation, timestamp_eq_ok_iff.mp hcreation⟩
    rcases of_bind_eq_error h with h | ⟨lastLogIn, -, h⟩
    · obtain ⟨hnone, rfl⟩ := timestamp_eq_error_iff.mp h
      exact .lastLoginAt hclaims hsince hcreation hnone
    · cases h
  · intro h
    have hok : ∀ {α β : Type} {a : α} {x : Except Error α} {f : α → Except Error β},
        x = .ok a → f a = .error e → x >>= f = .error e :=
      fun hx hf => bind_eq_error_iff.mpr (Or.inr ⟨_, hx, hf⟩)
    cases h with
    | customClaims h =>
        exact bind_eq_error_iff.mpr (Or.inl (claimsOfText_eq_error_iff.mpr ⟨h, rfl⟩))
    | validSince hclaims h =>
        obtain ⟨shown, hshown⟩ := hclaims
        apply hok (claimsOfText_eq_ok_iff.mpr hshown)
        exact bind_eq_error_iff.mpr (Or.inl (timestamp_eq_error_iff.mpr ⟨h, rfl⟩))
    | outOfRange hclaims hsince h =>
        obtain ⟨shown, hshown⟩ := hclaims
        apply hok (claimsOfText_eq_ok_iff.mpr hshown)
        apply hok (timestamp_eq_ok_iff.mpr hsince)
        exact bind_eq_error_iff.mpr (Or.inl (toMillis_eq_error_iff.mpr ⟨h, rfl⟩))
    | createdAt hclaims hsince h =>
        obtain ⟨shown, hshown⟩ := hclaims
        obtain ⟨seconds, hsince, hfits⟩ := hsince
        apply hok (claimsOfText_eq_ok_iff.mpr hshown)
        apply hok (timestamp_eq_ok_iff.mpr hsince)
        apply hok (toMillis_eq_ok_iff.mpr ⟨rfl, hfits⟩)
        exact bind_eq_error_iff.mpr (Or.inl (timestamp_eq_error_iff.mpr ⟨h, rfl⟩))
    | lastLoginAt hclaims hsince hcreation h =>
        obtain ⟨shown, hshown⟩ := hclaims
        obtain ⟨seconds, hsince, hfits⟩ := hsince
        obtain ⟨creation, hcreation⟩ := hcreation
        apply hok (claimsOfText_eq_ok_iff.mpr hshown)
        apply hok (timestamp_eq_ok_iff.mpr hsince)
        apply hok (toMillis_eq_ok_iff.mpr ⟨rfl, hfits⟩)
        apply hok (timestamp_eq_ok_iff.mpr hcreation)
        exact bind_eq_error_iff.mpr (Or.inl (timestamp_eq_error_iff.mpr ⟨h, rfl⟩))

/-- A text holds one point in time at most. -/
theorem HoldsTime.unique {text : String} {m n : Int} (h : HoldsTime text m)
    (h' : HoldsTime text n) : m = n := by
  have hread : ∀ {k : Int}, HoldsTime text k → timestamp "" text = .ok k := timestamp_eq_ok_iff.mpr
  exact Except.ok.inj ((hread h).symm.trans (hread h'))

theorem HoldsTime.fitsWord {text : String} {n : Int} (h : HoldsTime text n) : FitsWord n := by
  cases h with
  | absent => decide
  | integer _ hfits => exact hfits

/-- A stored user that can be read has no fault. -/
theorem StoredUser.IsReadable.not_exportFault {u : StoredUser} (h : u.IsReadable) (e : Error) :
    ¬ ExportFault u e := by
  intro hfault
  cases hfault with
  | customClaims hnone => exact hnone h.customClaims
  | validSince _ hnone =>
      obtain ⟨seconds, hsince, -⟩ := h.tokensValidAfter
      exact hnone ⟨seconds, hsince⟩
  | outOfRange _ hsince hout =>
      obtain ⟨seconds, hsince', hfits⟩ := h.tokensValidAfter
      exact hout (hsince.unique hsince' ▸ hfits)
  | createdAt _ _ hnone => exact hnone h.creation
  | lastLoginAt _ _ _ hnone => exact hnone h.lastLogIn

/-- What is shown can be read. -/
theorem Shows.isReadable {u : StoredUser} {x : ExportedUser} (h : Shows u x) : u.IsReadable := by
  obtain ⟨seconds, hsince, -, hfits⟩ := h.tokensValidAfter
  exact ⟨⟨_, h.customClaims⟩, ⟨seconds, hsince, hfits⟩, ⟨_, h.creation⟩, ⟨_, h.lastLogIn⟩⟩

/-- **A stored user is shown exactly, or its first fault is told.**  It is shown if and only if its
claims are an object or absent, its three points in time are integers of a word or absent, and the
first of them fits a word in milliseconds too.  Every field of what is shown comes from the field of
its name, and all points in time fit a word.  Otherwise the first text that cannot be read, in the
order claims, `validSince`, `createdAt`, `lastLoginAt`, decides the error. -/
theorem stored_user_shown_exactly (u : StoredUser) :
    ((∃ x, u.export = .ok x) ↔ u.IsReadable) ∧
    (∀ x, u.export = .ok x ↔ Shows u x) ∧
    (∀ x, u.export = .ok x → FitsWord x.record.tokensValidAfter ∧
      FitsWord x.record.metadata.creationTimestamp ∧
      FitsWord x.record.metadata.lastLogInTimestamp) ∧
    ∀ e, u.export = .error e ↔ ExportFault u e := by
  refine ⟨⟨?_, ?_⟩, fun _ => export_eq_ok_iff, ?_, fun _ => export_eq_error_iff⟩
  · rintro ⟨x, hx⟩
    exact (export_eq_ok_iff.mp hx).isReadable
  · intro h
    cases hexport : u.export with
    | ok x => exact ⟨x, rfl⟩
    | error e => exact absurd (export_eq_error_iff.mp hexport) (h.not_exportFault e)
  · intro x hx
    have hshows := export_eq_ok_iff.mp hx
    obtain ⟨seconds, -, hmillis, hfits⟩ := hshows.tokensValidAfter
    exact ⟨hmillis ▸ hfits, hshows.creation.fitsWord, hshows.lastLogIn.fitsWord⟩

/-- The least number of seconds that fits a word in milliseconds, with zeros in front of it, beside
both ends of a word; one second more on the other side is too much. -/
theorem ends_of_word_shown :
    let u : StoredUser := { timeless "" with
      validSince := "-009223372036854775", createdAt := "+9223372036854775807",
      lastLoginAt := "-9223372036854775808", passwordHash := "UkVEQUNURUQ=",
      providers := [⟨"phone", "", "", "", "+1", "r"⟩] }
    (∃ x, u.export = .ok x ∧ FitsWord x.record.tokensValidAfter ∧
      x.record.tokensValidAfter = -9223372036854775000 ∧ x.passwordHash = "" ∧
      x.record.providers = [⟨"r", "", "", "+1", "", "phone"⟩]) ∧
    ExportFault { u with validSince := "9223372036854776" }
      (.unexpectedResponse (.timestampOutOfRange "9223372036854776")) := by
  intro u
  obtain ⟨-, -, hfits, -⟩ := stored_user_shown_exactly u
  obtain ⟨-, -, -, hfault⟩ := stored_user_shown_exactly { u with validSince := "9223372036854776" }
  have hread : u.export.toOption.map
      (fun x => (x.record.tokensValidAfter, x.passwordHash, x.record.providers)) =
      some (-9223372036854775000, "", [⟨"r", "", "", "+1", "", "phone"⟩]) := by
    decide +kernel
  obtain ⟨x, hx, hfields⟩ := Admin.exists_eq_ok_of_map hread
  simp only [Prod.mk.injEq] at hfields
  obtain ⟨hmillis, hhash, hproviders⟩ := hfields
  have hlate : (StoredUser.export { u with validSince := "9223372036854776" }).map (fun _ => ()) =
      .error (.unexpectedResponse (.timestampOutOfRange "9223372036854776")) := by
    decide +kernel
  refine ⟨⟨x, hx, (hfits x hx).1, hmillis, hhash, hproviders⟩, ?_⟩
  exact (hfault _).mp (Admin.eq_error_of_map hlate)

end AccountWire.User
