/-!
# Numerals

Natural numbers in positional notation, base 10 or 16. `Nat.toDigits` writes them; this module reads them back.

- `digit?_digitChar`: the digit written for a number below sixteen is read back;
- `head?_toDigits_ne`: only zero is written with a leading zero;
- `readNat?_toDigits`: what is written in a base from 2 to 16 is read back.
-/

namespace SenderPolicy.Text

/-- The value of a digit, where the letters `a` to `f` of either case stand for ten to fifteen. -/
def digitValue (c : Char) : Option Nat :=
  if '0' ≤ c ∧ c ≤ '9' then some (c.toNat - '0'.toNat)
  else if 'a' ≤ c ∧ c ≤ 'f' then some (c.toNat - 'a'.toNat + 10)
  else if 'A' ≤ c ∧ c ≤ 'F' then some (c.toNat - 'A'.toNat + 10)
  else none

/-- The value of a digit of base `b`. -/
def digit? (b : Nat) (c : Char) : Option Nat :=
  (digitValue c).filter (· < b)

/-- The number that a run of digits continues `n` to. -/
def readDigits (b : Nat) : Nat → List Char → Option Nat
  | n, [] => some n
  | n, c :: s => (digit? b c).bind fun d => readDigits b (b * n + d) s

/-- The number written in base `b`: at least one digit, and nothing else. -/
def readNat? (b : Nat) : List Char → Option Nat
  | [] => none
  | s => readDigits b 0 s

/-- The number written in base 10, with or without a plus sign. -/
def readUnsigned? : List Char → Option Nat
  | '+' :: s => readNat? 10 s
  | s => readNat? 10 s

/-- The number written in base 10, with or without a sign. -/
def readInt? : List Char → Option Int
  | '-' :: s => (readNat? 10 s).map fun n => -(n : Int)
  | s => (readUnsigned? s).map fun n => (n : Int)

/-! ## Reading what is written -/

/-- The digit of a number below sixteen is read back. -/
theorem digit?_digitChar {b n : Nat} (hb : b ≤ 16) (hn : n < b) : digit? b n.digitChar = some n := by
  have h16 : ∀ m < 16, digitValue m.digitChar = some m := by decide
  simp [digit?, h16 n (by omega), hn]

/-- Reading two runs of digits one after the other. -/
theorem readDigits_append (b n : Nat) (s t : List Char) :
    readDigits b n (s ++ t) = (readDigits b n s).bind fun m => readDigits b m t := by
  induction s generalizing n with
  | nil => rfl
  | cons c s ih => cases h : digit? b c <;> simp [readDigits, h, ih]

/-- The digits of a number are read back. -/
theorem readDigits_toDigits {b : Nat} (h1 : 1 < b) (hb : b ≤ 16) (n : Nat) :
    readDigits b 0 (Nat.toDigits b n) = some n := by
  induction n using Nat.strongRecOn with
  | _ n ih =>
    by_cases h : n < b
    · simp [Nat.toDigits_of_lt_base h, readDigits, digit?_digitChar hb h]
    · have hd : n / b < n := Nat.div_lt_self (by omega) h1
      have hm : n % b < b := Nat.mod_lt _ (by omega)
      rw [Nat.toDigits_of_base_le h1 (by omega), readDigits_append, ih _ hd]
      simp [readDigits, digit?_digitChar hb hm, Nat.div_add_mod]

/-- A number other than zero is written without a leading zero. -/
theorem head?_toDigits_ne {b n : Nat} (h1 : 1 < b) (hn : n ≠ 0) : (Nat.toDigits b n).head? ≠ some '0' := by
  induction n using Nat.strongRecOn with
  | _ n ih =>
    by_cases h : n < b
    · simp [Nat.toDigits_of_lt_base h, hn]
    · have hq : n / b ≠ 0 := by
        have := Nat.div_pos (Nat.le_of_not_lt h) (by omega)
        omega
      have := ih _ (Nat.div_lt_self (by omega) h1) hq
      rw [Nat.toDigits_of_base_le h1 (by omega), List.head?_append]
      cases hd : Nat.toDigits b (n / b) with
      | nil => exact absurd hd Nat.toDigits_ne_nil
      | cons c s => simpa [hd] using this

/-- Written numbers are read back. -/
theorem readNat?_toDigits {b : Nat} (h1 : 1 < b) (hb : b ≤ 16) (n : Nat) :
    readNat? b (Nat.toDigits b n) = some n := by
  cases h : Nat.toDigits b n with
  | nil => exact absurd h Nat.toDigits_ne_nil
  | cons c s => rw [readNat?, ← h, readDigits_toDigits h1 hb]; simp

/-- A written number is read back where a sign may stand in front of it. -/
theorem readUnsigned?_toDigits (n : Nat) : readUnsigned? (Nat.toDigits 10 n) = some n := by
  have h := readNat?_toDigits (b := 10) (by decide) (by decide) n
  unfold readUnsigned?
  split
  · rename_i s hs
    have hd : '+'.isDigit = true := by
      apply Nat.isDigit_of_mem_toDigits (b := 10) (n := n) (by decide) (by decide)
      rw [hs]
      exact List.mem_cons_self
    cases hd
  · exact h

/-- What is no digit stands in no number. -/
theorem readNat?_eq_none_of_mem {b : Nat} {c : Char} (hc : digitValue c = none) {s : List Char} (h : c ∈ s) :
    readNat? b s = none := by
  obtain ⟨w, t, rfl⟩ := List.append_of_mem h
  have digits : readDigits b 0 (w ++ c :: t) = none := by
    rw [readDigits_append]
    cases readDigits b 0 w <;> simp [readDigits, digit?, hc]
  cases w with
  | nil => exact digits
  | cons d w => exact digits

/-- What is no digit starts no number. -/
theorem readNat?_cons_eq_none {b : Nat} {c : Char} (hc : digitValue c = none) (s : List Char) :
    readNat? b (c :: s) = none := by
  simp [readNat?, readDigits, digit?, hc]

end SenderPolicy.Text
