/-!
# UTF-8

Decoding of bytes into characters, with the place of the first fault.

- `decodeFrom_append`: where a cut falls between two characters, the parts decode separately.
-/

namespace SenderPolicy.Text.Utf8

/-- The first place at which bytes are not UTF-8. -/
structure Fault where
  /-- The number of bytes in front of it. -/
  offset : Nat
  /-- The number of bytes that belong to no character, if the bytes do not just end too early. -/
  width : Option Nat
  deriving DecidableEq, Repr

/-- The wording of a fault. -/
def Fault.message (f : Fault) : String :=
  match f.width with
  | some n => "invalid utf-8 sequence of " ++ n.repr ++ " bytes from index " ++ f.offset.repr
  | none => "incomplete utf-8 byte sequence from index " ++ f.offset.repr

/-- A character of which some bytes have been read. -/
structure Unfinished where
  /-- The number of bytes read. -/
  seen : Nat
  /-- The bits they carry. -/
  bits : Nat
  /-- The number of bytes to come after the next one. -/
  more : Nat
  /-- The least value of the next byte. -/
  low : UInt8
  /-- The greatest value of the next byte. -/
  high : UInt8
  deriving DecidableEq, Repr

/-- What a leading byte of 128 or more begins. -/
def lead? (lead : UInt8) : Option Unfinished :=
  let two := lead.toNat % 0x20
  let three := lead.toNat % 0x10
  let four := lead.toNat % 0x08
  if lead < 0xC2 then none
  else if lead < 0xE0 then some ⟨1, two, 0, 0x80, 0xBF⟩
  else if lead = 0xE0 then some ⟨1, three, 1, 0xA0, 0xBF⟩
  else if lead = 0xED then some ⟨1, three, 1, 0x80, 0x9F⟩
  else if lead < 0xF0 then some ⟨1, three, 1, 0x80, 0xBF⟩
  else if lead = 0xF0 then some ⟨1, four, 2, 0x90, 0xBF⟩
  else if lead < 0xF4 then some ⟨1, four, 2, 0x80, 0xBF⟩
  else if lead = 0xF4 then some ⟨1, four, 2, 0x80, 0x8F⟩
  else none

/-- The bits of an unfinished character and one more byte. -/
def Unfinished.extend (u : Unfinished) (b : UInt8) : Nat :=
  0x40 * u.bits + b.toNat % 0x40

/-- The characters of the bytes at `offset` and after, of which `u` holds those already read of the first character. -/
def decodeFrom : (offset : Nat) → (u : Option Unfinished) → List UInt8 → Except Fault (List Char)
  | _, none, [] => .ok []
  | offset, some _, [] => .error ⟨offset, none⟩
  | offset, none, b :: s =>
    if b < 0x80 then (decodeFrom (offset + 1) none s).map (Char.ofNat b.toNat :: ·)
    else match lead? b with
      | some u => decodeFrom offset (some u) s
      | none => .error ⟨offset, some 1⟩
  | offset, some u, b :: s =>
    if u.low ≤ b ∧ b ≤ u.high then
      match u.more with
      | 0 => (decodeFrom (offset + u.seen + 1) none s).map (Char.ofNat (u.extend b) :: ·)
      | n + 1 => decodeFrom offset (some ⟨u.seen + 1, u.extend b, n, 0x80, 0xBF⟩) s
    else .error ⟨offset, some u.seen⟩

/-- The characters that bytes stand for. -/
def decode (bytes : List UInt8) : Except Fault (List Char) :=
  decodeFrom 0 none bytes

/-! ## Laws -/

/-- Bytes that decode may be cut off the front. -/
theorem decodeFrom_append {a b : List UInt8} {offset : Nat} {u : Option Unfinished} {s : List Char}
    (h : decodeFrom offset u a = .ok s) :
    ∃ offset', decodeFrom offset u (a ++ b) = (decodeFrom offset' none b).map (s ++ ·) := by
  fun_induction decodeFrom offset u a generalizing s with
  | case1 offset =>
    cases h
    exact ⟨offset, by rw [List.nil_append]; cases decodeFrom offset none b <;> rfl⟩
  | case2 => cases h
  | case3 offset c r hc ih =>
    cases hr : decodeFrom (offset + 1) none r with
    | error e => simp [hr, Except.map] at h
    | ok t =>
      simp only [hr, Except.map, Except.ok.injEq] at h
      obtain ⟨o, ho⟩ := ih hr
      refine ⟨o, ?_⟩
      rw [List.cons_append, decodeFrom, if_pos hc, ho, ← h]
      cases decodeFrom o none b <;> rfl
  | case4 offset c r hc v hv ih =>
    obtain ⟨o, ho⟩ := ih h
    exact ⟨o, by rw [List.cons_append, decodeFrom, if_neg hc, hv]; exact ho⟩
  | case5 => cases h
  | case6 offset v c r hb hm ih =>
    cases hr : decodeFrom (offset + v.seen + 1) none r with
    | error e => simp [hr, Except.map] at h
    | ok t =>
      simp only [hr, Except.map, Except.ok.injEq] at h
      obtain ⟨o, ho⟩ := ih hr
      refine ⟨o, ?_⟩
      rw [List.cons_append, decodeFrom, if_pos hb, hm]
      simp only
      rw [ho, ← h]
      cases decodeFrom o none b <;> rfl
  | case7 offset v c r hb n hm ih =>
    obtain ⟨o, ho⟩ := ih h
    refine ⟨o, ?_⟩
    rw [List.cons_append, decodeFrom, if_pos hb, hm]
    exact ho
  | case8 => cases h

end SenderPolicy.Text.Utf8
