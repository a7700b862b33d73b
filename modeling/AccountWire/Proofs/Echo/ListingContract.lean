import AccountWire.Echo.ListingContract

/-!
# What the contract checker accepts

`verifyListing` drives an iterator and writes down what goes wrong.  Here the iterator is any step
function, so what it does is told without the checker: `stateAfter` and `yieldAt` are the state and
the answer after so many calls, and `KeepsContract` says of them what a listing promises.

A check adds at most one failure and takes none away, so a drive ends without failures exactly when
each of its checks passes.  There is one lemma for each part of the drive that says when the part
adds nothing and in which state it leaves the iterator; `verifyListing_isEmpty_iff` puts them
together.  `counted` is an iterator that also counts its calls, which shows where a drive stops.
-/

namespace AccountWire.Echo

open Listing (Yield)

section

variable {σ ε α : Type}

/-! ### Calls of an iterator -/

/-- The state after a number of calls. -/
def stateAfter (next : σ → Yield ε α × σ) (s : σ) : Nat → σ
  | 0 => s
  | n + 1 => stateAfter next (next s).2 n

/-- What the call after a number of calls answers. -/
def yieldAt (next : σ → Yield ε α × σ) (s : σ) (n : Nat) : Yield ε α :=
  (next (stateAfter next s n)).1

/-- An iterator that also counts its calls. -/
def counted (next : σ → Yield ε α × σ) : σ × Nat → Yield ε α × (σ × Nat) :=
  fun (s, calls) => ((next s).1, (next s).2, calls + 1)

/-- What an iterator promises: the expected items come first and in order; the three calls after
them answer that it has ended, and make no request; the last request of all is the expected
one. -/
structure KeepsContract [BEq α] (next : σ → Yield ε α × σ) (log : σ → List Captured)
    (expected : List α) (e : PageExpectation) (s : σ) : Prop where
  items : ∀ i want, expected[i]? = some want →
    ∃ got, yieldAt next s i = some (.ok got) ∧ (got == want) = true
  ended : ∀ i < 3, yieldAt next s (expected.length + i) = none
  quiet : (log (stateAfter next s (expected.length + 3))).length =
    (log (stateAfter next s expected.length)).length
  lastRequest : ∃ r, (log (stateAfter next s (expected.length + 3))).getLast? = some r ∧
    r.path = e.path ∧ r.canonicalQuery = e.query

variable (next : σ → Yield ε α × σ)

@[simp] theorem stateAfter_zero (s : σ) : stateAfter next s 0 = s := rfl

theorem stateAfter_succ (s : σ) (n : Nat) :
    stateAfter next s (n + 1) = stateAfter next (next s).2 n := rfl

/-- Calls that follow others go on with the state that these leave. -/
theorem stateAfter_add (s : σ) (m n : Nat) :
    stateAfter next s (m + n) = stateAfter next (stateAfter next s m) n := by
  induction m generalizing s with
  | zero => rw [Nat.zero_add, stateAfter_zero]
  | succ m ih => rw [Nat.succ_add, stateAfter_succ, stateAfter_succ, ih]

@[simp] theorem yieldAt_zero (s : σ) : yieldAt next s 0 = (next s).1 := rfl

theorem yieldAt_succ (s : σ) (n : Nat) :
    yieldAt next s (n + 1) = yieldAt next (next s).2 n := rfl

theorem yieldAt_add (s : σ) (m n : Nat) :
    yieldAt next s (m + n) = yieldAt next (stateAfter next s m) n := by
  unfold yieldAt
  rw [stateAfter_add]

/-- Counting the calls changes nothing but the count. -/
theorem stateAfter_counted (s : σ) (calls n : Nat) :
    stateAfter (counted next) (s, calls) n = (stateAfter next s n, calls + n) := by
  induction n generalizing s calls with
  | zero => rfl
  | succ n ih =>
      rw [stateAfter_succ, counted, ih, stateAfter_succ, Nat.add_assoc, Nat.add_comm 1 n]

@[simp] theorem yieldAt_counted (s : σ) (calls n : Nat) :
    yieldAt (counted next) (s, calls) n = yieldAt next s n := by
  unfold yieldAt
  rw [stateAfter_counted]
  rfl

end

/-! ### Checks -/

namespace Mismatches

/-- A list of mismatches without failures is the empty one. -/
theorem isEmpty_iff {m : Mismatches} : m.isEmpty = true ↔ m = .empty := by
  cases m
  simp [isEmpty, empty, List.isEmpty_iff]

@[simp] theorem record_ne_empty (m : Mismatches) (failure : String) :
    m.record failure ≠ .empty := by
  simp [record, empty]

@[simp] theorem getLast?_record (m : Mismatches) (failure : String) :
    (m.record failure).failures.getLast? = some failure := by
  simp [record]

/-- After a check there is no failure exactly if there was none and the condition holds. -/
@[simp] theorem check_eq_empty {m : Mismatches} {condition : Bool} {failure : String} :
    m.check condition failure = .empty ↔ m = .empty ∧ condition = true := by
  cases condition <;> simp [check]

/-- After a comparison there is no failure exactly if there was none and the values are equal. -/
@[simp] theorem checkEq_eq_empty {α : Type} [BEq α] [Outline α] {m : Mismatches}
    {context : String} {got want : α} :
    m.checkEq context got want = .empty ↔ m = .empty ∧ (got == want) = true :=
  check_eq_empty

end Mismatches

/-! ### The parts of a drive -/

section

variable {σ ε α : Type}
variable (context : String) (message : ε → String) (next : σ → Yield ε α × σ)

section

variable [BEq α] [Outline α]

/-- The first part ends without failures and with the full count exactly when the items come as
expected; it has made one call for each of them then. -/
theorem verifyItems_eq_empty_iff (m : Mismatches) (count : Nat) (wants : List α) (s s' : σ) :
    verifyItems context message next m count wants s = (.empty, some (count + wants.length), s') ↔
      m = .empty ∧
      (∀ i want, wants[i]? = some want →
        ∃ got, yieldAt next s i = some (.ok got) ∧ (got == want) = true) ∧
      s' = stateAfter next s wants.length := by
  induction wants generalizing m count s with
  | nil =>
      simp [verifyItems, eq_comm (a := s)]
  | cons want wants ih =>
      -- The places of the whole list are the first one and the successors of the others.
      have hplaces : (∀ i w, (want :: wants)[i]? = some w →
            ∃ got, yieldAt next s i = some (.ok got) ∧ (got == w) = true) ↔
          (∃ got, (next s).1 = some (.ok got) ∧ (got == want) = true) ∧
          ∀ i w, wants[i]? = some w →
            ∃ got, yieldAt next (next s).2 i = some (.ok got) ∧ (got == w) = true := by
        constructor
        · intro h
          exact ⟨h 0 want rfl, fun i w hw => h (i + 1) w hw⟩
        · rintro ⟨hfirst, hrest⟩ i w hw
          cases i with
          | zero =>
              obtain rfl : want = w := by simpa using hw
              exact hfirst
          | succ i => exact hrest i w hw
      rw [hplaces, List.length_cons, stateAfter_succ]
      rcases hnext : next s with ⟨_ | ⟨err | got⟩, t⟩
      · simp [verifyItems, hnext]
      · simp [verifyItems, hnext]
      · have hcount : count + (wants.length + 1) = count + 1 + wants.length := by omega
        simp only [verifyItems, hnext, hcount, ih, Mismatches.checkEq_eq_empty]
        simp [and_assoc]

/-- A drive that an error has stopped has recorded the error. -/
theorem verifyItems_stopped {m m' : Mismatches} {count : Nat} {wants : List α} {s s' : σ}
    (hstopped : verifyItems context message next m count wants s = (m', none, s')) :
    m' ≠ .empty := by
  induction wants generalizing m count s with
  | nil => simp [verifyItems] at hstopped
  | cons want wants ih =>
      rcases hnext : next s with ⟨_ | ⟨err | got⟩, t⟩
      · simp [verifyItems, hnext] at hstopped
      · simp only [verifyItems, hnext, Prod.mk.injEq] at hstopped
        rw [← hstopped.1]
        exact Mismatches.record_ne_empty _ _
      · simp only [verifyItems, hnext] at hstopped
        exact ih hstopped

/-- The first part stops at the first error, and the error is the last thing that it records. -/
theorem verifyItems_error (m : Mismatches) (count : Nat) {wants : List α} {s : σ} {k : Nat}
    {err : ε} (hk : k < wants.length)
    (hbefore : ∀ i < k, ∃ got, yieldAt next s i = some (.ok got))
    (herror : yieldAt next s k = some (.error err)) :
    ∃ m' : Mismatches, verifyItems context message next m count wants s =
      (m'.record (context ++ " item #" ++ toString (count + k) ++ " failed: " ++ message err),
        none, stateAfter next s (k + 1)) := by
  induction wants generalizing m count s k with
  | nil => exact absurd hk (Nat.not_lt_zero k)
  | cons want wants ih =>
      rcases hnext : next s with ⟨y, t⟩
      cases k with
      | zero =>
          obtain rfl : y = some (.error err) := by simpa [hnext] using herror
          exact ⟨m, by simp [verifyItems, hnext, stateAfter_succ]⟩
      | succ k =>
          obtain ⟨got, hgot⟩ := hbefore 0 (Nat.succ_pos k)
          obtain rfl : y = some (.ok got) := by simpa [hnext] using hgot
          rw [yieldAt_succ, hnext] at herror
          have hrest : ∀ i < k, ∃ got, yieldAt next t i = some (.ok got) := by
            intro i hi
            have h := hbefore (i + 1) (by omega)
            rwa [yieldAt_succ, hnext] at h
          have hplace : count + (k + 1) = count + 1 + k := by omega
          simp only [verifyItems, hnext, stateAfter_succ, hplace]
          exact ih _ (count + 1) (Nat.lt_of_succ_lt_succ hk) hrest herror

/-- Counting the calls changes nothing else. -/
theorem verifyItems_counted (m : Mismatches) (count : Nat) (wants : List α) (s : σ)
    (calls : Nat) :
    ∃ calls', verifyItems context message (counted next) m count wants (s, calls) =
      ((verifyItems context message next m count wants s).1,
        (verifyItems context message next m count wants s).2.1,
        (verifyItems context message next m count wants s).2.2, calls') := by
  induction wants generalizing m count s calls with
  | nil => exact ⟨calls, rfl⟩
  | cons want wants ih =>
      rcases hnext : next s with ⟨_ | ⟨err | got⟩, t⟩
      · exact ⟨calls + 1, by simp [verifyItems, counted, hnext]⟩
      · exact ⟨calls + 1, by simp [verifyItems, counted, hnext]⟩
      · simpa only [verifyItems, counted, hnext] using ih _ (count + 1) t (calls + 1)

end

section

variable [Outline α]

/-- The check of the end makes one call. -/
theorem verifyEnd_state (m : Mismatches) (s : σ) :
    (verifyEnd context message next m s).2 = stateAfter next s 1 := by
  rcases hnext : next s with ⟨_ | ⟨_ | _⟩, _⟩ <;> simp [verifyEnd, stateAfter_succ, hnext]

/-- The check of the end is passed exactly if the iterator has ended. -/
theorem verifyEnd_eq_empty {m : Mismatches} {s : σ} :
    (verifyEnd context message next m s).1 = .empty ↔ m = .empty ∧ yieldAt next s 0 = none := by
  rcases hnext : next s with ⟨_ | ⟨_ | _⟩, _⟩ <;> simp [verifyEnd, hnext]

end

/-- The check that the end lasts makes its number of calls. -/
theorem verifyStaysEnded_state (calls : List Nat) (m : Mismatches) (s : σ) :
    (verifyStaysEnded context next calls m s).2 = stateAfter next s calls.length := by
  induction calls generalizing m s with
  | nil => rfl
  | cons call calls ih =>
      rw [List.length_cons, stateAfter_succ]
      exact ih _ _

/-- The check that the end lasts is passed exactly if none of its calls answers an item or an
error. -/
theorem verifyStaysEnded_eq_empty {calls : List Nat} {m : Mismatches} {s : σ} :
    (verifyStaysEnded context next calls m s).1 = .empty ↔
      m = .empty ∧ ∀ i < calls.length, yieldAt next s i = none := by
  induction calls generalizing m s with
  | nil => simp [verifyStaysEnded]
  | cons call calls ih =>
      rw [verifyStaysEnded, ih, Mismatches.check_eq_empty, List.length_cons,
        Nat.forall_lt_succ_left, Option.isNone_iff_eq_none, and_assoc]
      rfl

/-- The check of the last request is passed exactly if there is one with the expected path and
canonical query. -/
theorem verifyLastRequest_eq_empty {e : PageExpectation} {m : Mismatches} {r? : Option Captured} :
    verifyLastRequest context e m r? = .empty ↔
      m = .empty ∧ ∃ r, r? = some r ∧ r.path = e.path ∧ r.canonicalQuery = e.query := by
  cases r? with
  | none => simp [verifyLastRequest]
  | some r =>
      simp [verifyLastRequest, Mismatches.checkPath, Mismatches.checkQuery, and_assoc]

/-! ### The whole drive -/

variable [BEq α] [Outline α]
variable (log : σ → List Captured) (expected : List α) (e : PageExpectation) (s : σ)

/-- Nothing is recorded exactly when the iterator keeps the contract. -/
theorem verifyListing_isEmpty_iff :
    (verifyListing context message next log expected e s).1.isEmpty = true ↔
      KeepsContract next log expected e s := by
  rw [Mismatches.isEmpty_iff]
  have hitems := verifyItems_eq_empty_iff context message next .empty 0 expected s
  simp only [Nat.zero_add, true_and] at hitems
  rcases hrun : verifyItems context message next .empty 0 expected s with ⟨m, _ | count, t⟩
  · -- An error among the items.
    have hstopped := verifyItems_stopped context message next hrun
    simp only [verifyListing, hrun]
    refine iff_of_false hstopped fun hkept => ?_
    have h := (hitems _).mpr ⟨hkept.items, rfl⟩
    simp [hrun] at h
  · simp only [hrun, Prod.mk.injEq, Option.some.injEq] at hitems
    simp only [verifyListing, hrun, verifyLastRequest_eq_empty, Mismatches.checkEq_eq_empty,
      verifyStaysEnded_eq_empty, verifyEnd_eq_empty, Mismatches.check_eq_empty,
      verifyStaysEnded_state, verifyEnd_state, List.length_range, beq_iff_eq]
    have hstate : stateAfter next (stateAfter next t 1) extraCalls = stateAfter next t 3 := rfl
    have hended : (∀ i < 3, yieldAt next t i = none) ↔
        yieldAt next t 0 = none ∧
          ∀ i < extraCalls, yieldAt next (stateAfter next t 1) i = none :=
      Nat.forall_lt_succ_left
    constructor
    · rintro ⟨⟨⟨⟨⟨hm, hcount⟩, hfirst⟩, hagain⟩, hquiet⟩, hlast⟩
      obtain ⟨hexpected, rfl⟩ := (hitems t).mp ⟨hm, hcount, rfl⟩
      rw [hstate, ← stateAfter_add] at hquiet hlast
      refine ⟨hexpected, fun i hi => ?_, hquiet, hlast⟩
      rw [yieldAt_add]
      exact hended.mpr ⟨hfirst, hagain⟩ i hi
    · intro hkept
      obtain ⟨rfl, rfl, rfl⟩ := (hitems _).mpr ⟨hkept.items, rfl⟩
      obtain ⟨hfirst, hagain⟩ := hended.mp fun i hi => by
        rw [← yieldAt_add]
        exact hkept.ended i hi
      rw [hstate, ← stateAfter_add next s expected.length 3]
      exact ⟨⟨⟨⟨⟨rfl, rfl⟩, hfirst⟩, hagain⟩, hkept.quiet⟩, hkept.lastRequest⟩

/-- The drive stops at the first error among the items, and the error is the last thing that it
records. -/
theorem verifyListing_error {k : Nat} {err : ε} (hk : k < expected.length)
    (hbefore : ∀ i < k, ∃ got, yieldAt next s i = some (.ok got))
    (herror : yieldAt next s k = some (.error err)) :
    ∃ m : Mismatches,
      verifyListing context message next log expected e s = (m, stateAfter next s (k + 1)) ∧
      verifyListing context message (counted next) (fun s => log s.1) expected e (s, 0) =
        (m, stateAfter next s (k + 1), k + 1) ∧
      m.failures.getLast? =
        some (context ++ " item #" ++ toString k ++ " failed: " ++ message err) := by
  obtain ⟨m, hrun⟩ := verifyItems_error context message next .empty 0 hk hbefore herror
  -- The counting drive ends in the same way, and its state tells how often it called.
  obtain ⟨calls, hcounted⟩ := verifyItems_counted context message next .empty 0 expected s 0
  obtain ⟨m', hagain⟩ := verifyItems_error context message (counted next) .empty 0
    (s := (s, 0)) hk (by simpa using hbefore) (by simpa using herror)
  simp only [stateAfter_counted, Nat.zero_add] at hagain
  have hcalls : calls = k + 1 := by
    have h := hcounted.symm.trans hagain
    simp only [hrun, Prod.mk.injEq] at h
    exact h.2.2.2
  rw [hrun, hcalls] at hcounted
  rw [Nat.zero_add] at hrun hcounted
  refine ⟨_, ?_, ?_, Mismatches.getLast?_record m _⟩
  · rw [verifyListing, hrun]
  · rw [verifyListing, hcounted]

end

/-- The checker reports nothing exactly when the iterator keeps the contract.  An error among the
expected items ends the drive: no call follows it, and it is the last failure reported. -/
theorem listing_contract_is_decided {σ ε α : Type} [BEq α] [Outline α] (context : String)
    (message : ε → String) (next : σ → Yield ε α × σ) (log : σ → List Captured)
    (expected : List α) (e : PageExpectation) (s : σ) :
    ((verifyListing context message next log expected e s).1.isEmpty = true ↔
      KeepsContract next log expected e s) ∧
    ∀ k < expected.length, ∀ err,
      (∀ i < k, ∃ got, yieldAt next s i = some (.ok got)) →
      yieldAt next s k = some (.error err) →
      ∃ m : Mismatches,
        verifyListing context message next log expected e s = (m, stateAfter next s (k + 1)) ∧
        verifyListing context message (counted next) (fun s => log s.1) expected e (s, 0) =
          (m, stateAfter next s (k + 1), k + 1) ∧
        m.failures.getLast? =
          some (context ++ " item #" ++ toString k ++ " failed: " ++ message err) := by
  constructor
  · exact verifyListing_isEmpty_iff context message next log expected e s
  · intro k hk err hbefore herror
    exact verifyListing_error context message next log expected e s hk hbefore herror

/-- A listing of one item keeps the contract, and the checker says so; one whose second item is an
error is left alone after it, although it would go on. -/
theorem short_listing_accepted_faulty_stopped :
    let next := scriptedNext .up
    let log := fun s : List ListingEvent × Server => s.2.log
    let server := Server.start (.json [])
    let short := ([⟨["/v?b=2&a=1"], some (.ok 7)⟩], server)
    let faulty := ([⟨["/v"], some (.ok 7)⟩, ⟨[], some (.error "down")⟩, ⟨["/v"], some (.ok 9)⟩],
      server)
    (verifyListing "list()" id next log [7] ⟨"/v", "a=1&b=2"⟩ short).1.isEmpty = true ∧
    ∃ m : Mismatches,
      verifyListing "list()" id next log [7, 8, 9] ⟨"/v", ""⟩ faulty =
        (m, stateAfter next faulty 2) ∧
      verifyListing "list()" id (counted next) (fun s => log s.1) [7, 8, 9] ⟨"/v", ""⟩ (faulty, 0) =
        (m, stateAfter next faulty 2, 2) ∧
      m.failures.getLast? = some "list() item #1 failed: down" := by
  intro next log server short faulty
  constructor
  · refine (listing_contract_is_decided "list()" id next log [7] ⟨"/v", "a=1&b=2"⟩ short).1.mpr ?_
    refine ⟨fun i want hwant => ?_, by decide, by decide, ⟨_, rfl, by decide, by decide⟩⟩
    obtain ⟨rfl, rfl⟩ : i = 0 ∧ want = 7 := by
      cases i with
      | zero => simpa [eq_comm] using hwant
      | succ i => simp at hwant
    exact ⟨7, rfl, rfl⟩
  · refine (listing_contract_is_decided "list()" id next log [7, 8, 9] ⟨"/v", ""⟩ faulty).2
      1 (by decide) "down" (fun i hi => ?_) rfl
    obtain rfl : i = 0 := Nat.lt_one_iff.mp hi
    exact ⟨7, rfl⟩

end AccountWire.Echo
