import SenderPolicy.Address.Basic

/-!
# The text of an address

IPv4 in four decimal octets. IPv6 in lower-case hexadecimal groups without leading zeros, where `::` takes the place of
the longest run of two or more zero groups, the first of them if there are several; a mapped IPv4 address keeps its
octets.

- `toChars_ne_nil`: no address has an empty text;
- `mem_digits16`: the characters of a group are hexadecimal digits.
-/

namespace SenderPolicy.Address

/-- The octets in decimal, with dots. -/
def v4Chars (a : BitVec 32) : List Char :=
  ['.'].intercalate ((octets a).map (Nat.toDigits 10))

/-- The number of zeros at the front. -/
def zeros (gs : List Nat) : Nat :=
  (gs.takeWhile (· = 0)).length

/-- Where the longest run of zeros starts, the first of them if there are several, and its length. -/
def longestGap : List Nat → Nat × Nat
  | [] => (0, 0)
  | g :: gs =>
    let rest := longestGap gs
    let here := zeros (g :: gs)
    if rest.2 ≤ here then (0, here) else (rest.1 + 1, rest.2)

/-- Groups in hexadecimal, with colons. -/
def groupChars (gs : List Nat) : List Char :=
  [':'].intercalate (gs.map (Nat.toDigits 16))

/-- The groups of an IPv6 address, the longest run of zeros left out. -/
def v6Chars (a : BitVec 128) : List Char :=
  match unmapped? a with
  | some b => "::ffff:".toList ++ v4Chars b
  | none =>
    let gs := groups a
    let gap := longestGap gs
    if gap.2 < 2 then groupChars gs
    else groupChars (gs.take gap.1) ++ "::".toList ++ groupChars (gs.drop (gap.1 + gap.2))

/-- The characters of an address. -/
def toChars : Address → List Char
  | v4 a => v4Chars a
  | v6 a => v6Chars a

/-- The text of an address. -/
def text (a : Address) : String :=
  String.ofList a.toChars

/-! ## Characters -/

/-- Two parts or more with something between them are not empty together. -/
theorem intercalate_ne_nil {sep : List Char} (hs : sep ≠ []) {ps : List (List Char)} (h : 2 ≤ ps.length) :
    sep.intercalate ps ≠ [] := by
  rcases ps with _ | ⟨p, _ | ⟨q, ps⟩⟩
  · simp at h
  · simp at h
  · intro hn
    simp [List.intercalate, hs] at hn

theorem v4Chars_ne_nil (a : BitVec 32) : v4Chars a ≠ [] := by
  have hl : (octets a).length = 4 := length_parts ..
  exact intercalate_ne_nil (by simp) (by rw [List.length_map, hl]; decide)

/-- No address has an empty text. -/
theorem toChars_ne_nil (a : Address) : a.toChars ≠ [] := by
  cases a with
  | v4 a => exact v4Chars_ne_nil a
  | v6 a =>
    have hl : (groups a).length = 8 := length_parts ..
    simp only [toChars, v6Chars]
    split
    · simp
    · split
      · exact intercalate_ne_nil (by simp) (by rw [List.length_map, hl]; decide)
      · simp

/-- Whether a character is a decimal digit or one of the letters `a` to `f`. -/
def isHexDigit (c : Char) : Bool :=
  c.isDigit || ('a' ≤ c && c ≤ 'f')

/-- A digit below sixteen is a hexadecimal digit. -/
theorem isHexDigit_digitChar {n : Nat} (h : n < 16) : isHexDigit n.digitChar = true := by
  have : ∀ m < 16, isHexDigit m.digitChar = true := by decide
  exact this n h

/-- The digits of a number in base 16 are hexadecimal digits. -/
theorem mem_digits16 {n : Nat} {c : Char} (h : c ∈ Nat.toDigits 16 n) : isHexDigit c = true := by
  induction n using Nat.strongRecOn with
  | _ n ih =>
    by_cases hn : n < 16
    · rw [Nat.toDigits_of_lt_base hn, List.mem_singleton] at h
      exact h ▸ isHexDigit_digitChar hn
    · rw [Nat.toDigits_of_base_le (by decide) (by omega), List.mem_append, List.mem_singleton] at h
      rcases h with h | rfl
      · exact ih _ (Nat.div_lt_self (by omega) (by decide)) h
      · exact isHexDigit_digitChar (Nat.mod_lt _ (by decide))

end SenderPolicy.Address
