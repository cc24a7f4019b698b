import SenderPolicy.Address.Basic
import SenderPolicy.Text.Numeral

/-!
# Reading an address

IPv4 is four decimal octets with dots between them, none with a leading zero. IPv6 is eight groups of one to four
hexadecimal digits with colons between them; the last two groups may be written as an IPv4 address, and `::` stands
for one or more groups of zeros.

- `octet?_toDigits`: a written octet is read back;
- `group?_toDigits`: a written group is read back;
- `ofChars?_cons_eq_none`: an address starts with a digit or a separator.
-/

namespace SenderPolicy.Address

open Text

/-- The octet written in decimal, without a leading zero. -/
def octet? (s : List Char) : Option Nat :=
  if s.length ≤ 3 ∧ (s.head? = some '0' → s.length = 1) then (readNat? 10 s).filter (· < 0x100) else none

/-- The IPv4 address of four octets with dots between them. -/
def v4? (s : List Char) : Option (BitVec 32) := do
  let ps ← (s.splitOn '.').mapM octet?
  if ps.length = 4 then some (ofOctets ps) else none

/-- The group written in at most four hexadecimal digits. -/
def group? (s : List Char) : Option Nat :=
  if s.length ≤ 4 then readNat? 16 s else none

/-- The groups of a row of fields, the last of which may hold an IPv4 address. -/
def groupsOfFields? : List (List Char) → Option (List Nat)
  | [] => some []
  | [f] =>
    match group? f with
    | some g => some [g]
    | none => (v4? f).map fun a => parts 0x10000 2 a.toNat
  | f :: fs => do
    let g ← group? f
    let gs ← groupsOfFields? fs
    some (g :: gs)

/-- The fields between the colons of a text, none for an empty text. -/
def fields : List Char → List (List Char)
  | [] => []
  | s => s.splitOn ':'

/-- The text before the first `::` and the text after it. -/
def splitGap? : List Char → Option (List Char × List Char)
  | [] => none
  | ':' :: ':' :: s => some ([], s)
  | c :: s => (splitGap? s).map fun (front, back) => (c :: front, back)

/-- The IPv6 address that a text writes. -/
def v6? (s : List Char) : Option (BitVec 128) :=
  match splitGap? s with
  | none => do
    let gs ← groupsOfFields? (fields s)
    if gs.length = 8 then some (ofGroups gs) else none
  | some (front, back) => do
    let fs ← (fields front).mapM group?
    let bs ← groupsOfFields? (fields back)
    if fs.length + bs.length ≤ 7 then
      some (ofGroups (fs ++ List.replicate (8 - fs.length - bs.length) 0 ++ bs))
    else none

/-- The address that characters write. -/
def ofChars? (s : List Char) : Option Address :=
  match v4? s with
  | some a => some (v4 a)
  | none => (v6? s).map v6

/-- The address that a text writes. -/
def ofText? (s : String) : Option Address :=
  ofChars? s.toList

/-! ## Reading what is written -/

/-- A written octet is read back. -/
theorem octet?_toDigits {n : Nat} (h : n < 0x100) : octet? (Nat.toDigits 10 n) = some n := by
  have hl : (Nat.toDigits 10 n).length ≤ 3 := (Nat.length_toDigits_le_iff (by decide) (by decide)).mpr (by omega)
  have hz : (Nat.toDigits 10 n).head? = some '0' → (Nat.toDigits 10 n).length = 1 := by
    intro h0
    by_cases hn : n = 0
    · subst hn; rfl
    · exact absurd h0 (head?_toDigits_ne (by decide) hn)
  rw [octet?, if_pos ⟨hl, hz⟩, readNat?_toDigits (by decide) (by decide)]
  simp [h]

/-- A written group is read back. -/
theorem group?_toDigits {n : Nat} (h : n < 0x10000) : group? (Nat.toDigits 16 n) = some n := by
  have hl : (Nat.toDigits 16 n).length ≤ 4 := (Nat.length_toDigits_le_iff (by decide) (by decide)).mpr (by omega)
  rw [group?, if_pos hl, readNat?_toDigits (by decide) (by decide)]

/-! ## What starts an address -/

/-- What is no separator stays at the start of the first part. -/
theorem exists_splitOn_cons {c p : Char} (hp : c ≠ p) (s : List Char) :
    ∃ t ts, (c :: s).splitOn p = (c :: t) :: ts := by
  obtain ⟨t, ts, hs⟩ := List.exists_cons_of_ne_nil (List.splitOnP_ne_nil (· == p) s)
  refine ⟨t, ts, ?_⟩
  rw [List.splitOn, List.splitOnP_cons_eq_if_modifyHead, if_neg (by simpa using hp), hs, List.modifyHead_cons]

section

variable {c : Char} (digit : digitValue c = none)

include digit

theorem octet?_cons_eq_none (s : List Char) : octet? (c :: s) = none := by
  rw [octet?, readNat?_cons_eq_none digit]
  split <;> rfl

theorem group?_cons_eq_none (s : List Char) : group? (c :: s) = none := by
  rw [group?, readNat?_cons_eq_none digit]
  split <;> rfl

theorem v4?_cons_eq_none (dot : c ≠ '.') (s : List Char) : v4? (c :: s) = none := by
  obtain ⟨t, ts, hs⟩ := exists_splitOn_cons dot s
  simp [v4?, hs, octet?_cons_eq_none digit]

theorem groupsOfFields?_cons_eq_none (dot : c ≠ '.') (s : List Char) (fs : List (List Char)) :
    groupsOfFields? ((c :: s) :: fs) = none := by
  cases fs with
  | nil => simp [groupsOfFields?, group?_cons_eq_none digit, v4?_cons_eq_none digit dot]
  | cons f fs => simp [groupsOfFields?, group?_cons_eq_none digit]

theorem v6?_cons_eq_none (dot : c ≠ '.') (colon : c ≠ ':') (s : List Char) : v6? (c :: s) = none := by
  have hf : ∀ u, ∃ t ts, fields (c :: u) = (c :: t) :: ts := exists_splitOn_cons colon
  have gap : splitGap? (c :: s) = (splitGap? s).map fun (front, back) => (c :: front, back) := by
    rw [splitGap?]
    simp [colon]
  rw [v6?, gap]
  cases splitGap? s with
  | none =>
    obtain ⟨t, ts, ht⟩ := hf s
    simp [ht, groupsOfFields?_cons_eq_none digit dot]
  | some p =>
    obtain ⟨t, ts, ht⟩ := hf p.1
    simp [ht, group?_cons_eq_none digit]

/-- An address starts with a digit or a separator. -/
theorem ofChars?_cons_eq_none (dot : c ≠ '.') (colon : c ≠ ':') (s : List Char) : ofChars? (c :: s) = none := by
  simp [ofChars?, v4?_cons_eq_none digit dot, v6?_cons_eq_none digit dot colon]

end

end SenderPolicy.Address
