import SenderPolicy.Matching
import SenderPolicy.Proofs.AddressText

/-!
# Networks hold the addresses that agree in the first bits

A network is written as an address, a slash and a number of bits, perhaps with blanks around it. It holds the senders of
the same family whose first bits are those of the address, where the IPv6 form of an IPv4 address counts as that address.
A number that is larger than the width of the address is an error, and without a number all bits count.

- `Block.contains_iff_getMsbD`: a block, bit by bit;
- `standsFor_iff`: the address that a sender stands for;
- `exists_around?_eq_some`: the network around an address;
- `ofChars?_chars`: it is read back from its text;
- `ofText_chars`, `ofText_toChars`: the same with blanks around the text, and without a number;
- `matchesNetwork_written`: which senders are in a written network.
-/

namespace SenderPolicy

open Text

/-! ## Bits -/

/-- A block holds the addresses that agree with its base in the first bits. -/
theorem Block.contains_iff_getMsbD {w : Nat} {b : Block w} {a : BitVec w} :
    b.contains a = true ↔ ∀ k < b.length, a.getMsbD k = b.base.getMsbD k := by
  have hl := b.length_le
  rw [contains, beq_iff_eq]
  constructor
  · intro h k hk
    -- the first bits stand at the end when the others are shifted out
    have hs := congrArg (fun x : BitVec w => x.getMsbD (w - b.length + k)) h
    have inside : w - b.length + k < w := by omega
    have behind : ¬ w - b.length + k < w - b.length := by omega
    simpa only [BitVec.getMsbD_ushiftRight, inside, behind, decide_true, decide_false, Bool.not_false, Bool.true_and,
      Nat.add_sub_cancel_left] using hs
  · intro h
    apply BitVec.eq_of_getMsbD_eq
    intro k hk
    rw [BitVec.getMsbD_ushiftRight, BitVec.getMsbD_ushiftRight]
    by_cases hn : k < w - b.length
    · simp [hn]
    · rw [h (k - (w - b.length)) (by omega)]

namespace Address

/-- The number of bits of an address. -/
def width : Address → Nat
  | v4 _ => 32
  | v6 _ => 128

/-- Two addresses are of one family and agree in their first `n` bits. -/
def Agree (n : Nat) : Address → Address → Prop
  | v4 a, v4 b => ∀ k < n, a.getMsbD k = b.getMsbD k
  | v6 a, v6 b => ∀ k < n, a.getMsbD k = b.getMsbD k
  | _, _ => False

/-- The address that a sender stands for: the IPv4 address of which it is the IPv6 form, or itself. -/
def StandsFor (s c : Address) : Prop :=
  (∃ a, s = v6 (mapped a) ∧ c = v4 a) ∨ (∀ a, s ≠ v6 (mapped a)) ∧ c = s

/-- Every sender stands for one address, which is its canonical form. -/
theorem standsFor_iff {s c : Address} : s.StandsFor c ↔ s.canonical = c := by
  constructor
  · rintro (⟨a, rfl, rfl⟩ | ⟨other, rfl⟩)
    · exact canonical_mapped a
    · cases c with
      | v4 a => rfl
      | v6 a =>
        cases ha : unmapped? a with
        | none => rw [canonical, ha, Option.elim_none]
        | some b => exact absurd (congrArg v6 (eq_mapped_of_unmapped? ha)) (other b)
  · rintro rfl
    by_cases h : ∃ a, s = v6 (mapped a)
    · obtain ⟨a, rfl⟩ := h
      exact .inl ⟨a, rfl, canonical_mapped a⟩
    · simp only [not_exists] at h
      refine .inr ⟨h, ?_⟩
      cases s with
      | v4 a => rfl
      | v6 a =>
        cases ha : unmapped? a with
        | none => rw [canonical, ha, Option.elim_none]
        | some b => exact absurd (congrArg v6 (eq_mapped_of_unmapped? ha)) (h b)

/-! ## Characters -/

/-- A hexadecimal digit is no blank. -/
theorem isBlank_of_isHexDigit {c : Char} (h : isHexDigit c = true) : isBlank c = false := by
  have hc : 0x30 ≤ c.toNat ∧ c.toNat ≤ 0x66 := by
    simp only [isHexDigit, Char.isDigit, Bool.or_eq_true, Bool.and_eq_true, decide_eq_true_eq, Char.le_def,
      UInt32.le_iff_toNat_le] at h
    change (48 ≤ c.toNat ∧ c.toNat ≤ 57) ∨ (97 ≤ c.toNat ∧ c.toNat ≤ 102) at h
    omega
  simp only [isBlank, Bool.or_eq_false_iff, Bool.and_eq_false_iff, decide_eq_false_iff_not, beq_eq_false_iff_ne]
  omega

/-- The text of an address is a word, with or without a slash and a number behind it. -/
theorem isWord_toChars_append (a : Address) {s : List Char} (hs : ∀ c ∈ s, c = '/' ∨ isHexDigit c = true) :
    IsWord (a.toChars ++ s) := by
  constructor
  · intro h
    exact toChars_ne_nil a (List.append_eq_nil_iff.1 h).1
  · intro c hc
    rcases List.mem_append.1 hc with hc | hc
    · rcases mem_toChars hc with rfl | rfl | hc
      · decide
      · decide
      · exact isBlank_of_isHexDigit hc
    · rcases hs c hc with rfl | hc
      · decide
      · exact isBlank_of_isHexDigit hc

/-- An address is written without a slash. -/
theorem slash_notMem_toChars (a : Address) : '/' ∉ a.toChars := by
  intro h
  rcases mem_toChars h with h | h | h <;> revert h <;> decide

end Address

/-! ## Written networks -/

namespace Network

/-- The network of the addresses that agree with an address in its first `n` bits, if it has as many. -/
def around? : Address → Nat → Option Network
  | .v4 a, n => (Block.ofLength? a n).map v4
  | .v6 a, n => (Block.ofLength? a n).map v6

/-- No network has more bits than its base. -/
theorem around?_eq_none {a : Address} {n : Nat} (h : a.width < n) : around? a n = none := by
  cases a with
  | v4 a | v6 a =>
    have hn := Nat.not_le.2 h
    rw [Address.width] at hn
    rw [around?, Block.ofLength?, dif_neg hn, Option.map_none]

/-- The network around an address holds the addresses that agree with it. -/
theorem exists_around?_eq_some {a : Address} {n : Nat} (h : n ≤ a.width) :
    ∃ net, around? a n = some net ∧ ∀ c, net.contains c = true ↔ c.Agree n a := by
  cases a with
  | v4 a =>
    have hn : n ≤ 32 := h
    refine ⟨v4 ⟨a, n, hn⟩, by rw [around?, Block.ofLength?, dif_pos hn, Option.map_some], fun c => ?_⟩
    cases c with
    | v4 c => exact Block.contains_iff_getMsbD
    | v6 c => exact ⟨fun hc => (nomatch hc), fun hc => hc.elim⟩
  | v6 a =>
    have hn : n ≤ 128 := h
    refine ⟨v6 ⟨a, n, hn⟩, by rw [around?, Block.ofLength?, dif_pos hn, Option.map_some], fun c => ?_⟩
    cases c with
    | v4 c => exact ⟨fun hc => (nomatch hc), fun hc => hc.elim⟩
    | v6 c => exact Block.contains_iff_getMsbD

/-- A written number of bits is read back if an octet can hold it; otherwise there are too many. -/
theorem length?_toDigits_bind {w : Nat} (hw : w < 0x100) (base : BitVec w) (f : Block w → Network) (n : Nat) :
    ((length? (Nat.toDigits 10 n)).bind fun n => (Block.ofLength? base n).map f) = (Block.ofLength? base n).map f := by
  rw [length?, readUnsigned?_toDigits]
  by_cases hn : n < 0x100
  · rw [Option.filter_some, if_pos (decide_eq_true hn), Option.bind_some]
  · have wide : ¬ n ≤ w := by omega
    rw [Option.filter_some, if_neg (by simpa using hn), Option.bind_none, Block.ofLength?, dif_neg wide, Option.map_none]

/-- A written address and a written number of bits are the network around the address. -/
theorem ofParts?_toChars (a : Address) (n : Nat) : ofParts? a.toChars (Nat.toDigits 10 n) = around? a n := by
  rw [ofParts?, Address.ofChars?_toChars]
  cases a with
  | v4 a =>
    -- a number has no dots, so it is not read as a netmask
    have mask : Address.v4? (Nat.toDigits 10 n) = none := by
      apply Address.v4?_eq_none_of_notMem
      exact Address.notMem_of_isHexDigit (fun c => Address.isHexDigit_of_mem_digits10) (by decide)
    simp only [v4Length?, mask]
    exact length?_toDigits_bind (by decide) a v4 n
  | v6 a => exact length?_toDigits_bind (by decide) a v6 n

/-- A network is written as an address, a slash and a number of bits. -/
def chars (a : Address) (n : Nat) : List Char :=
  a.toChars ++ '/' :: Nat.toDigits 10 n

theorem ofChars?_chars (a : Address) (n : Nat) : ofChars? (chars a n) = around? a n := by
  have slash : '/' ∉ Nat.toDigits 10 n :=
    Address.notMem_of_isHexDigit (fun c => Address.isHexDigit_of_mem_digits10) (by decide)
  have cut : (chars a n).splitOn '/' = [a.toChars, Nat.toDigits 10 n] := by
    rw [chars, List.splitOn_append_cons_self, List.splitOn_eq_singleton a.slash_notMem_toChars,
      List.splitOn_eq_singleton slash]
    rfl
  rw [ofChars?, cut]
  exact ofParts?_toChars a n

/-- A text with a slash is left as it is. -/
theorem withLength_chars (a : Address) (n : Nat) : withLength (chars a n) = chars a n := by
  have slash : '/' ∈ chars a n := by simp [chars]
  rw [withLength, if_pos slash]

/-- An address alone is the network in which all of its bits count. -/
theorem withLength_toChars (a : Address) : withLength a.toChars = chars a a.width := by
  rw [withLength, if_neg a.slash_notMem_toChars]
  cases a with
  | v4 a =>
    have colon : ':' ∉ (Address.v4 a).toChars := by
      intro h
      obtain ⟨b, hb⟩ := Address.colon_mem_toChars_iff.1 h
      cases hb
    have digits : Nat.toDigits 10 32 = "32".toList := by decide
    rw [if_neg colon, chars, Address.width, digits]
    rfl
  | v6 a =>
    have digits : Nat.toDigits 10 128 = "128".toList := by decide
    rw [if_pos (Address.colon_mem_toChars_iff.2 ⟨a, rfl⟩), chars, Address.width, digits]
    rfl

/-! ## Texts with blanks around them -/

section

variable {front back : String} (hfront : ∀ c ∈ front.toList, isBlank c = true)
  (hback : ∀ c ∈ back.toList, isBlank c = true)

include hfront hback

/-- Blanks around a word do not count. -/
theorem ofText_blank {w : List Char} (hw : IsWord w) :
    ofText (front ++ String.ofList w ++ back) =
      (ofChars? (withLength w)).elim (.error (String.ofList (withLength w))) .ok := by
  have cut : trim (front ++ String.ofList w ++ back).toList = w := by
    rw [String.toList_append, String.toList_append, String.toList_ofList, List.append_assoc]
    exact trim_of_isWord hfront hw hback
  simp only [ofText, cut]
  cases ofChars? (withLength w) <;> rfl

/-- A written network, with blanks around it. -/
theorem ofText_chars (a : Address) (n : Nat) :
    ofText (front ++ String.ofList (chars a n) ++ back) =
      (around? a n).elim (.error (String.ofList (chars a n))) .ok := by
  have word : IsWord (chars a n) := by
    apply a.isWord_toChars_append
    intro c hc
    rcases List.mem_cons.1 hc with hc | hc
    · exact .inl hc
    · exact .inr (Address.isHexDigit_of_mem_digits10 hc)
  rw [ofText_blank hfront hback word, withLength_chars, ofChars?_chars]

/-- A written address, with blanks around it, is the network in which all of its bits count. -/
theorem ofText_toChars (a : Address) :
    ofText (front ++ a.text ++ back) = ofText (front ++ String.ofList (chars a a.width) ++ back) := by
  have word : IsWord a.toChars := by
    rw [← List.append_nil a.toChars]
    exact a.isWord_toChars_append (by simp)
  rw [Address.text, ofText_blank hfront hback word, withLength_toChars, ofChars?_chars, ofText_chars hfront hback]

end

/-- The text of a written network. -/
theorem ofList_chars (a : Address) (n : Nat) : String.ofList (chars a n) = a.text ++ "/" ++ toString n := by
  rw [chars, Address.text, Nat.toString_eq_ofList_toDigits, ← String.ofList_toList (s := "/"), ← String.ofList_append,
    ← String.ofList_append, List.append_assoc]
  rfl

end Network

/-! ## Senders in a network -/

/-- **Which senders are in a written network.** With blanks around it, an address, a slash and a number is an error that
names the whole text if the address has fewer bits; otherwise there is an answer, which says whether the address that the
sender stands for agrees with the written one in that number of bits. Without a number, all bits count. -/
theorem matchesNetwork_written {sender c : Address} (stands : sender.StandsFor c) (a : Address) (n : Nat)
    {front back : String} (hfront : ∀ x ∈ front.toList, isBlank x = true) (hback : ∀ x ∈ back.toList, isBlank x = true) :
    (a.width < n →
      matchesNetwork sender (front ++ (a.text ++ "/" ++ toString n) ++ back) =
        .error (.invalidNetwork (front ++ (a.text ++ "/" ++ toString n) ++ back) (a.text ++ "/" ++ toString n))) ∧
    (n ≤ a.width →
      ∃ b, matchesNetwork sender (front ++ (a.text ++ "/" ++ toString n) ++ back) = .ok b ∧
        (b = true ↔ c.Agree n a)) ∧
    matchesNetwork sender (front ++ a.text ++ back) =
      matchesNetwork sender (front ++ (a.text ++ "/" ++ toString a.width) ++ back) := by
  have canonical : sender.canonical = c := Address.standsFor_iff.1 stands
  have read (m : Nat) := Network.ofText_chars hfront hback a m
  have alone := Network.ofText_toChars hfront hback a
  simp only [Network.ofList_chars] at read alone
  refine ⟨fun wide => ?_, fun narrow => ?_, ?_⟩
  · rw [matchesNetwork, read, Network.around?_eq_none wide]
    rfl
  · obtain ⟨net, hnet, members⟩ := Network.exists_around?_eq_some narrow
    refine ⟨net.contains c, ?_, members c⟩
    rw [matchesNetwork, read, hnet, canonical]
    rfl
  · -- there is a network of the full width, so neither text is in an error
    obtain ⟨net, hnet, -⟩ := Network.exists_around?_eq_some (Nat.le_refl a.width)
    rw [matchesNetwork, matchesNetwork, alone, read, hnet]
    rfl

/-- The IPv6 form of 192.0.2.77 is in the network of 24 bits around 192.0.2.1; there is no network of 33 bits around it,
and the network without a number does not hold the sender. -/
theorem matchesNetwork_written_mapped :
    matchesNetwork (.v6 0xFFFFC000024D#128) "\u3000192.0.2.1/24\t " = .ok true ∧
      matchesNetwork (.v6 0xFFFFC000024D#128) "\u3000192.0.2.1/33\t " =
        .error (.invalidNetwork "\u3000192.0.2.1/33\t " "192.0.2.1/33") ∧
      matchesNetwork (.v6 0xFFFFC000024D#128) "\u3000192.0.2.1\t " = .ok false := by
  have stands : Address.StandsFor (.v6 0xFFFFC000024D#128) (.v4 0xC000024D#32) := .inl ⟨0xC000024D#32, by decide, rfl⟩
  have hfront : ∀ x ∈ "\u3000".toList, isBlank x = true := List.all_eq_true.1 rfl
  have hback : ∀ x ∈ "\t ".toList, isBlank x = true := List.all_eq_true.1 rfl
  have written (n : Nat) := matchesNetwork_written stands (.v4 0xC0000201#32) n hfront hback
  refine ⟨?_, (written 33).1 (by decide), ?_⟩
  · obtain ⟨b, hb, agree⟩ := (written 24).2.1 (by decide)
    obtain rfl : b = true := agree.2 (show ∀ k < 24, _ by decide)
    exact hb
  · obtain ⟨b, hb, agree⟩ := (written 32).2.1 (by decide)
    have far : ¬ b = true := fun h => absurd (agree.1 h) (show ¬ ∀ k < 32, _ by decide)
    obtain rfl : b = false := by simpa using far
    exact (written 32).2.2.trans hb

end SenderPolicy
