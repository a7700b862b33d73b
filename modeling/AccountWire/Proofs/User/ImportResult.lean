import AccountWire.Proofs.User.Import
import Mathlib.Data.Finset.Card

/-!
# What the result of an import counts

The response to an import lists faults, each with the place of a user, and nothing keeps a backend
from naming a place twice or one that no user has (`readBody_faultsValue`).  The result counts faults,
not places: with few enough faults the two counts add up to the users, and no user that a fault names
is counted as a success.  The counts tell the fate of every user (`TellsEveryUser`) exactly when the
faults name different users of the import (`import_counts_faults`).
-/

namespace AccountWire.User

open Admin (Client Exchange)
open Http (Transport)

/-- The places of `n` users that no fault names. -/
def unnamed (n : Nat) (faults : List ImportFault) : Finset Nat :=
  (Finset.range n).filter fun i => ∀ f ∈ faults, f.index ≠ i

/-- The places of `n` users that a fault names. -/
def named (n : Nat) (faults : List ImportFault) : Finset Nat :=
  (faults.map (·.index)).toFinset.filter (· < n)

/-- Each fault names another one of `n` users. -/
structure NameDifferentUsers (n : Nat) (faults : List ImportFault) : Prop where
  different : (faults.map (·.index)).Nodup
  users : ∀ f ∈ faults, f.index < n

/-- A result tells of each of `n` users whether it was imported. -/
structure ImportResult.TellsEveryUser (result : ImportResult) (n : Nat) : Prop where
  total : result.successCount + result.failureCount = n
  succeeded : result.successCount = (unnamed n result.faults).card
  users : ∀ f ∈ result.faults, f.index < n

variable {n : Nat} {faults : List ImportFault}

/-! ### Places -/

/-- The users that faults name and those that they do not are all of them. -/
theorem card_unnamed_add (n : Nat) (faults : List ImportFault) :
    (unnamed n faults).card + (named n faults).card = n := by
  have hnamed : named n faults = (Finset.range n).filter fun i => ¬ ∀ f ∈ faults, f.index ≠ i := by
    ext i
    simp [named, and_comm]
  rw [hnamed, unnamed, Finset.card_filter_add_card_filter_not, Finset.card_range]

theorem card_named_le (n : Nat) (faults : List ImportFault) :
    (named n faults).card ≤ faults.length := by
  calc (named n faults).card ≤ (faults.map (·.index)).toFinset.card := Finset.card_filter_le _ _
    _ ≤ (faults.map (·.index)).length := List.toFinset_card_le _
    _ = faults.length := List.length_map _

/-- As many users are named as there are faults exactly when each fault names another one. -/
theorem card_named_eq_iff : (named n faults).card = faults.length ↔ NameDifferentUsers n faults := by
  have hle : (named n faults).card ≤ (faults.map (·.index)).toFinset.card :=
    Finset.card_filter_le _ _
  have hlength : (faults.map (·.index)).toFinset.card ≤ faults.length := by
    simpa using List.toFinset_card_le (faults.map (·.index))
  constructor
  · intro h
    have hall : named n faults = (faults.map (·.index)).toFinset :=
      Finset.eq_of_subset_of_card_le (Finset.filter_subset _ _) (by omega)
    refine ⟨?_, ?_⟩
    · rw [← List.dedup_eq_self]
      refine (List.dedup_sublist _).eq_of_length ?_
      rw [← List.card_toFinset, List.length_map]
      omega
    · intro f hf
      have hmem : f.index ∈ named n faults := by
        rw [hall]
        exact List.mem_toFinset.mpr (List.mem_map_of_mem hf)
      exact (Finset.mem_filter.mp hmem).2
  · rintro ⟨hdifferent, husers⟩
    have hall : named n faults = (faults.map (·.index)).toFinset := by
      refine Finset.filter_true_of_mem ?_
      simpa using husers
    rw [hall, List.toFinset_card_of_nodup hdifferent, List.length_map]

/-! ### Counts -/

/-- **Faults are counted, not users**, which is the same when each fault names another user. -/
theorem tellsEveryUser_ofFaults :
    (ImportResult.ofFaults n faults).TellsEveryUser n ↔ NameDifferentUsers n faults := by
  have hplaces := card_unnamed_add n faults
  have hle := card_named_le n faults
  constructor
  · rintro ⟨htotal, hsucceeded, -⟩
    simp only [ImportResult.ofFaults] at htotal hsucceeded
    exact card_named_eq_iff.mp (by omega)
  · intro h
    have hnamed := card_named_eq_iff.mpr h
    refine ⟨?_, ?_, h.users⟩
    · simp only [ImportResult.ofFaults]
      omega
    · simp only [ImportResult.ofFaults]
      omega

/-- A user that a fault names is never counted as a success. -/
theorem successCount_ofFaults_le :
    (ImportResult.ofFaults n faults).successCount ≤ (unnamed n faults).card := by
  have hplaces := card_unnamed_add n faults
  have hle := card_named_le n faults
  simp only [ImportResult.ofFaults]
  omega

/-- The successes are right also when all users are named. -/
theorem successCount_ofFaults_eq_iff :
    (ImportResult.ofFaults n faults).successCount = (unnamed n faults).card ↔
      NameDifferentUsers n faults ∨ unnamed n faults = ∅ := by
  have hplaces := card_unnamed_add n faults
  have hle := card_named_le n faults
  rw [← card_named_eq_iff, ← Finset.card_eq_zero]
  simp only [ImportResult.ofFaults]
  omega

/-! ### Responses -/

/-- The fields of a fault as a response lists it. -/
def ImportFault.fields (f : ImportFault) : List (String × Option Json) :=
  [("index", some (.ofWord (.ofNat f.index))), ("message", some (.str f.reason))]

/-- A fault as a response lists it. -/
def ImportFault.value (f : ImportFault) : Json := .obj (Json.Members.ofPresent f.fields)

/-- The response to an import that lists faults. -/
def faultsValue (faults : List ImportFault) : Json :=
  .obj (Json.Members.ofPresent [("error", some (.arr (faults.map (·.value))))])

/-- A fault is read from what spells it. -/
theorem ImportFault.ofTree?_of_spells {f : ImportFault} (hf : f.index < 0x10000000000000000)
    {t : Json.Tree} (h : t.Spells f.value) : ImportFault.ofTree? t = some f := by
  have hascend := Json.Members.pairwise_ofPresent f.fields
  have hnodup : (f.fields.map (·.1)).Nodup := by
    show ["index", "message"].Nodup
    decide
  have hget := fun k => Json.Members.get?_ofPresent k hnodup
  have hindex : t.field? "index" Json.Tree.count? 0 = some f.index := by
    refine h.field?_of_get? hascend (hget "index") fun u hu => ?_
    rw [hu.count?, UInt64.toNat_ofNat_of_lt' hf]
  have hmessage : t.field? "message" Json.Tree.text? "" = some f.reason :=
    h.field?_of_get? hascend (hget "message") fun u hu => hu.text?
  obtain ⟨fs, hfields, hfs⟩ := h.fields? ["index", "message"]
  rw [ImportFault.ofTree?, hfields, Option.bind_eq_bind, Option.bind_some, Json.Fields.count?,
    Json.Fields.text?, hfs, hfs, hindex, hmessage]
  rfl

/-- However a response spells its faults, they are read. -/
theorem faultsOfTree?_of_spells (h : ∀ f ∈ faults, f.index < 0x10000000000000000) {t : Json.Tree}
    (ht : t.Spells (faultsValue faults)) : faultsOfTree? t = some faults := by
  have hitems : ∀ u : Json.Tree, u.Spells (.arr (faults.map (·.value))) →
      u.items? ImportFault.ofTree? = some faults := by
    rintro _ ⟨ts, rfl, hts⟩
    exact Json.mapM_of_spellItems (fun f hf _ hu => ImportFault.ofTree?_of_spells (h f hf) hu) hts
  have hascend := Json.Members.pairwise_ofPresent [("error", some (.arr (faults.map (·.value))))]
  have herror : t.field? "error" (Json.Tree.items? ImportFault.ofTree?) [] = some faults :=
    ht.field?_of_get? hascend rfl hitems
  obtain ⟨fs, hfields, hfs⟩ := ht.fields? ["error"]
  rw [faultsOfTree?, hfields, Option.bind_eq_bind, Option.bind_some, Json.Fields.list?, hfs, herror]

/-- **Any faults can be listed**: each of them with any place and any reason. -/
theorem readBody_faultsValue (h : ∀ f ∈ faults, f.index < 0x10000000000000000) :
    Exchange.readBody faultsOfTree? (faultsValue faults).bytes = .ok faults := by
  have hfault : ∀ v ∈ faults.map (·.value), Json.Rereads 1 v := by
    intro v hv
    obtain ⟨f, -, rfl⟩ := List.mem_map.mp hv
    refine .ofPresent ?_
    simp only [ImportFault.fields, List.forall_mem_cons, Option.mem_some_iff, forall_eq']
    exact ⟨.ofWord _, .str _, by simp⟩
  have hfaults : Json.Rereads 3 (faultsValue faults) := by
    refine .ofPresent ?_
    simpa using Json.Rereads.arr hfault
  obtain ⟨t, hread, ht⟩ := Json.exists_spelling hfaults.integral
  rw [Exchange.readBody, hread, Option.bind_some, faultsOfTree?_of_spells h ht]

/-! ### Imports -/

/-- What an import answers when its response lists faults. -/
theorem run_importUsers {σ : Type} {c : Client} {users : List ImportedUser}
    {hash : Option HashConfig} {x : Exchange ImportResult} (hx : importUsers c users hash = .ok x)
    {send : Transport σ} {s s' : σ} {r : Http.Response} (hsend : send x.request s = (some r, s'))
    (hsuccess : r.isSuccess = true) (hread : Exchange.readBody faultsOfTree? r.body = .ok faults) :
    Admin.run (importUsers c users hash) send s = (.ok (.ofFaults users.length faults), s') := by
  obtain ⟨ms, -, hplan⟩ := Admin.of_bind_eq_ok hx
  rw [hx, Admin.run_of_success hsend hsuccess, (Admin.of_plan_eq_ok hplan).2]
  dsimp only
  rw [hread]
  rfl

/-- **The result of an import counts the faults of its response.**  Whatever faults the response to an
accepted import lists, they are handed on as they are and in their order; the failures are their
number, and the successes are the users that are left when one is taken away for each fault.  So the
counts add up to the users when there are no more faults than users, and they never count a user as a
success that a fault names; but they tell the fate of every user exactly when each fault names another
user of the import. -/
theorem import_counts_faults {σ : Type} {c : Client} {users : List ImportedUser}
    {hash : Option HashConfig} {x : Exchange ImportResult} (hx : importUsers c users hash = .ok x)
    {send : Transport σ} {s s' : σ} {r : Http.Response} (hsend : send x.request s = (some r, s'))
    (hsuccess : r.isSuccess = true) (hread : Exchange.readBody faultsOfTree? r.body = .ok faults) :
    ∃ result, Admin.run (importUsers c users hash) send s = (.ok result, s') ∧
      result.faults = faults ∧ result.failureCount = faults.length ∧
      result.successCount = users.length - faults.length ∧
      (result.successCount + result.failureCount = users.length ↔ faults.length ≤ users.length) ∧
      result.successCount ≤ (unnamed users.length faults).card ∧
      (result.successCount = (unnamed users.length faults).card ↔
        NameDifferentUsers users.length faults ∨ unnamed users.length faults = ∅) ∧
      (result.TellsEveryUser users.length ↔ NameDifferentUsers users.length faults) := by
  refine ⟨_, run_importUsers hx hsend hsuccess hread, rfl, rfl, rfl, ?_, successCount_ofFaults_le,
    successCount_ofFaults_eq_iff, tellsEveryUser_ofFaults⟩
  simp only [ImportResult.ofFaults]
  omega

/-- Two users. -/
def twoUsers : List ImportedUser :=
  [⟨"a", none, none, none, none, none, none, none, none, none⟩,
    ⟨"b", none, none, none, none, none, none, none, none, none⟩]

/-- Both users are named, the second one first. -/
theorem two_faults_tell_every_user :
    let c : Client := ⟨"p", none, "http://h", "http://h"⟩
    let faults : List ImportFault := [⟨1, "late"⟩, ⟨0, "m\""⟩]
    let r : Http.Response := ⟨200, (faultsValue faults).bytes⟩
    ∃ x result, importUsers c twoUsers none = .ok x ∧ r.isSuccess = true ∧
      Exchange.readBody faultsOfTree? r.body = .ok faults ∧
      Admin.run (importUsers c twoUsers none) (fun _ s => (some r, s)) () = (.ok result, ()) ∧
      result.TellsEveryUser 2 := by
  intro c faults r
  obtain ⟨x, hx⟩ := Admin.exists_eq_ok
    (show (importUsers c twoUsers none).toOption.isSome = true by decide +kernel)
  have hread : Exchange.readBody faultsOfTree? r.body = .ok faults :=
    readBody_faultsValue (by decide)
  let send : Transport Unit := fun _ s => (some r, s)
  have hsend : send x.request () = (some r, ()) := rfl
  obtain ⟨result, hrun, -, -, -, -, -, -, htells⟩ := import_counts_faults hx hsend rfl hread
  exact ⟨x, result, hx, rfl, hread, hrun, htells.mpr ⟨by decide, by decide⟩⟩

/-- Two faults name the second user: nobody is counted as a success, although the first user is not
named. -/
theorem twice_named_user_miscounted :
    let c : Client := ⟨"p", none, "http://h", "http://h"⟩
    let faults : List ImportFault := [⟨1, "m"⟩, ⟨1, "m"⟩]
    let r : Http.Response := ⟨200, (faultsValue faults).bytes⟩
    ∃ x result, importUsers c twoUsers none = .ok x ∧ r.isSuccess = true ∧
      Exchange.readBody faultsOfTree? r.body = .ok faults ∧
      Admin.run (importUsers c twoUsers none) (fun _ s => (some r, s)) () = (.ok result, ()) ∧
      result.successCount = 0 ∧ unnamed 2 result.faults = {0} ∧ ¬ result.TellsEveryUser 2 := by
  intro c faults r
  obtain ⟨x, hx⟩ := Admin.exists_eq_ok
    (show (importUsers c twoUsers none).toOption.isSome = true by decide +kernel)
  have hread : Exchange.readBody faultsOfTree? r.body = .ok faults :=
    readBody_faultsValue (by decide)
  refine ⟨x, _, hx, rfl, hread, run_importUsers hx rfl rfl hread, rfl, by decide, ?_⟩
  rw [show twoUsers.length = 2 from rfl, tellsEveryUser_ofFaults]
  rintro ⟨hdifferent, -⟩
  exact absurd hdifferent (by decide)

end AccountWire.User
