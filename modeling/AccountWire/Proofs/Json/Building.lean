import AccountWire.Json.Tree

/-!
# Trees are built from their tokens

`Tree.tokens` writes a tree as tokens, commas and colons in their places.  The machine that takes
one token at a time gives the tree back (`ofTokens?_tokens`): inside any stack of open arrays and
objects, the tokens of a tree do what the delivery of the finished tree does (`run_tokens`).
-/

namespace AccountWire.Json.Tree

mutual

/-- The tokens of a tree. -/
def tokens : Tree → List Token
  | .null => [.null]
  | .bool b => [.bool b]
  | .number t => [.number t]
  | .string t => [.string t]
  | .arr items => .openArray :: itemTokens items ++ [.closeArray]
  | .obj members => .openObject :: memberTokens members ++ [.closeObject]

/-- The tokens of the items of an array, commas between them. -/
def itemTokens : List Tree → List Token
  | [] => []
  | [t] => tokens t
  | t :: u :: r => tokens t ++ .comma :: itemTokens (u :: r)

/-- The tokens of the members of an object, commas between them. -/
def memberTokens : List (StringText × Tree) → List Token
  | [] => []
  | [(k, t)] => .string k :: .colon :: tokens t
  | (k, t) :: m :: r => .string k :: .colon :: tokens t ++ .comma :: memberTokens (m :: r)

end

theorem run_cons (s : State) (t : Token) (r : List Token) :
    run s (t :: r) = (s.step t).bind (run · r) := rfl

/-- The first token of a tree closes nothing. -/
theorem exists_tokens (t : Tree) : ∃ first r, t.tokens = first :: r ∧ first ≠ .closeArray := by
  cases t with
  | null => exact ⟨.null, [], rfl, by decide⟩
  | bool b => exact ⟨.bool b, [], rfl, Token.noConfusion⟩
  | number t => exact ⟨.number t, [], rfl, Token.noConfusion⟩
  | string t => exact ⟨.string t, [], rfl, Token.noConfusion⟩
  | arr items => exact ⟨.openArray, _, rfl, by decide⟩
  | obj members => exact ⟨.openObject, _, rfl, by decide⟩

/-- Where an array may end, a tree is its first item. -/
theorem run_firstItem (stack : List Open) (t : Tree) (rest : List Token) :
    run (.firstItem stack) (t.tokens ++ rest) =
      run (.value (.arr [] :: stack)) (t.tokens ++ rest) := by
  obtain ⟨first, r, ht, hfirst⟩ := exists_tokens t
  have hstep : State.step (.firstItem stack) first =
      State.step (.value (.arr [] :: stack)) first := by
    cases first <;> first | rfl | exact absurd rfl hfirst
  rw [ht, List.cons_append, run_cons, run_cons, hstep]

/-- Where an object may end, a name begins its first member. -/
theorem run_firstName (stack : List Open) (k : StringText) (t : Tree)
    (r : List (StringText × Tree)) (rest : List Token) :
    run (.firstName stack) (memberTokens ((k, t) :: r) ++ .closeObject :: rest) =
      run (.nextName [] stack) (memberTokens ((k, t) :: r) ++ .closeObject :: rest) := by
  cases r <;> rfl

mutual

/-- **The tokens of a tree deliver it.** -/
theorem run_tokens (t : Tree) (stack : List Open) (rest : List Token) :
    run (.value stack) (t.tokens ++ rest) = (deliver t stack).bind (run · rest) := by
  match t with
  | .null => rfl
  | .bool b => rfl
  | .number t => rfl
  | .string t => rfl
  | .arr [] => rfl
  | .arr (t :: r) =>
      have hitems := run_itemTokens t r [] stack rest
      have hfirst : run (.firstItem stack) (itemTokens (t :: r) ++ .closeArray :: rest) =
          run (.value (.arr [] :: stack)) (itemTokens (t :: r) ++ .closeArray :: rest) := by
        cases r with
        | nil => exact run_firstItem stack t (.closeArray :: rest)
        | cons u r =>
            rw [itemTokens, List.append_assoc]
            exact run_firstItem stack t _
      rw [tokens, List.append_assoc, List.cons_append, run_cons]
      exact hfirst.trans hitems
  | .obj [] => rfl
  | .obj ((k, t) :: r) =>
      have hmembers := run_memberTokens k t r [] stack rest
      rw [tokens, List.append_assoc, List.cons_append, run_cons]
      exact (run_firstName stack k t r rest).trans hmembers
termination_by sizeOf t

/-- The items of an array, some of which were taken before. -/
theorem run_itemTokens (t : Tree) (r : List Tree) (taken : List Tree) (stack : List Open)
    (rest : List Token) :
    run (.value (.arr taken :: stack)) (itemTokens (t :: r) ++ .closeArray :: rest) =
      (deliver (.arr (taken.reverse ++ t :: r)) stack).bind (run · rest) := by
  match r with
  | [] =>
      rw [itemTokens, run_tokens t]
      simp only [deliver, Option.bind_some, run_cons, State.step, List.reverse_cons]
  | u :: r =>
      have hrest := run_itemTokens u r (t :: taken) stack rest
      rw [List.reverse_cons, List.append_assoc, List.singleton_append] at hrest
      rw [itemTokens, List.append_assoc, run_tokens t]
      exact hrest
termination_by sizeOf (t :: r)

/-- The members of an object, some of which were taken before. -/
theorem run_memberTokens (k : StringText) (t : Tree) (r taken : List (StringText × Tree))
    (stack : List Open) (rest : List Token) :
    run (.nextName taken stack) (memberTokens ((k, t) :: r) ++ .closeObject :: rest) =
      (deliver (.obj (taken.reverse ++ (k, t) :: r)) stack).bind (run · rest) := by
  have hname : ∀ ts, run (.nextName taken stack) (.string k :: .colon :: t.tokens ++ ts) =
      run (.moreMembers ((k, t) :: taken) stack) ts := by
    intro ts
    rw [List.cons_append, List.cons_append]
    exact run_tokens t (.member taken k :: stack) ts
  match r with
  | [] =>
      rw [memberTokens, hname, run_cons]
      simp only [State.step, List.reverse_cons]
  | (l, u) :: r =>
      have hrest := run_memberTokens l u r ((k, t) :: taken) stack rest
      rw [memberTokens, List.append_assoc, hname, List.cons_append, run_cons]
      rw [List.reverse_cons, List.append_assoc, List.singleton_append] at hrest
      exact hrest
termination_by sizeOf ((k, t) :: r)

end

/-- **A tree is built from its tokens.** -/
theorem ofTokens?_tokens (t : Tree) : ofTokens? t.tokens = some t := by
  have h := run_tokens t [] []
  rw [List.append_nil] at h
  rw [ofTokens?, h]
  rfl

end AccountWire.Json.Tree
