import AccountWire.Text.Base64Url

/-!
# Octets from letters

A reader for the letters that octets are written with: it takes four letters at a time and two or
three at the end, where the bits that are left over must be zero.  What was written is read back,
whatever number of octets stands in the last group (`decode?_encode`), so different octets are written
differently (`encodeString_inj`).
-/

namespace AccountWire.Base64Url

/-- The number below sixty-four of a character. -/
def value? (c : Char) : Option Nat := (List.range 64).find? fun n => letter n = c

/-- The number that a group of characters is, the first of them weighing most. -/
def number? (cs : List Char) : Option Nat :=
  cs.foldlM (fun n c => (value? c).map (n * 64 + ·)) 0

/-- Reads letters. -/
def decode? : List Char → Option Bytes
  | [] => some []
  | [_] => none
  | [c, d] => (number? [c, d]).bind fun n =>
    if n % 16 = 0 then some [.ofNat (n / 16)] else none
  | [c, d, e] => (number? [c, d, e]).bind fun n =>
    if n % 4 = 0 then some [.ofNat (n / 1024), .ofNat (n / 4 % 256)] else none
  | c :: d :: e :: f :: r => do
    let n ← number? [c, d, e, f]
    return .ofNat (n / 65536) :: .ofNat (n / 256 % 256) :: .ofNat (n % 256) :: (← decode? r)

/-- A letter is read as the number that it was written for. -/
theorem value?_letter {n : Nat} (h : n < 64) : value? (letter n) = some n := by
  have hall : ∀ n : Fin 64, value? (letter n) = some n.val := by decide +kernel
  exact hall ⟨n, h⟩

/-- Letters are read as the number whose digits they were written for. -/
theorem number?_letters (digits : List Nat) (h : ∀ d ∈ digits, d < 64) {n : Nat}
    (hn : digits.foldl (· * 64 + ·) 0 = n) : number? (digits.map letter) = some n := by
  have hfold : ∀ start, (digits.map letter).foldlM (fun n c => (value? c).map (n * 64 + ·)) start =
      some (digits.foldl (· * 64 + ·) start) := by
    clear hn
    induction digits with
    | nil => exact fun _ => rfl
    | cons d digits ih =>
        intro start
        obtain ⟨hd, hdigits⟩ := List.forall_mem_cons.mp h
        rw [List.map_cons, List.foldlM_cons, value?_letter hd]
        exact ih hdigits _
  rw [number?, hfold, hn]

/-- An octet is known from the number that it is. -/
theorem ofNat_eq (a : UInt8) {n : Nat} (h : n = a.toNat) : UInt8.ofNat n = a := by
  rw [h, UInt8.ofNat_toNat]

/-- **What is written is read back.** -/
theorem decode?_encode (bs : Bytes) : decode? (encode bs) = some bs := by
  fun_induction encode bs with
  | case1 => rfl
  | case2 a n =>
      have ha := a.toNat_lt
      have hn : number? [letter (n / 64), letter (n % 64)] = some n := by
        apply number?_letters [n / 64, n % 64]
        · simp only [List.forall_mem_cons]
          exact ⟨by omega, by omega, by simp⟩
        · simp only [List.foldl_cons, List.foldl_nil]
          omega
      rw [decode?, hn, Option.bind_some, if_pos (by omega), ofNat_eq a (by omega)]
  | case3 a b n =>
      have ha := a.toNat_lt
      have hb := b.toNat_lt
      have hn : number? [letter (n / 4096), letter (n / 64 % 64), letter (n % 64)] = some n := by
        apply number?_letters [n / 4096, n / 64 % 64, n % 64]
        · simp only [List.forall_mem_cons]
          exact ⟨by omega, by omega, by omega, by simp⟩
        · simp only [List.foldl_cons, List.foldl_nil]
          omega
      rw [decode?, hn, Option.bind_some, if_pos (by omega), ofNat_eq a (by omega),
        ofNat_eq b (by omega)]
  | case4 a b c r n ih =>
      have ha := a.toNat_lt
      have hb := b.toNat_lt
      have hc := c.toNat_lt
      have hn : number? [letter (n / 262144), letter (n / 4096 % 64), letter (n / 64 % 64),
          letter (n % 64)] = some n := by
        apply number?_letters [n / 262144, n / 4096 % 64, n / 64 % 64, n % 64]
        · simp only [List.forall_mem_cons]
          exact ⟨by omega, by omega, by omega, by omega, by simp⟩
        · simp only [List.foldl_cons, List.foldl_nil]
          omega
      simp only [decode?, hn, ih, Option.bind_eq_bind, Option.bind_some, Option.pure_def]
      rw [ofNat_eq a (by omega), ofNat_eq b (by omega), ofNat_eq c (by omega)]

/-- Octets are told by their letters. -/
theorem encodeString_inj {bs bs' : Bytes} : encodeString bs = encodeString bs' ↔ bs = bs' := by
  refine ⟨?_, congrArg encodeString⟩
  intro h
  have hread := decode?_encode bs
  rw [String.ofList_inj.mp h, decode?_encode] at hread
  exact (Option.some.inj hread).symm

end AccountWire.Base64Url
