import SenderPolicy.Error

/-!
# Reading UTF-8 back

The bytes that decode are those that encode characters, and they decode to these. In parts they decode part by part, unless a
part starts inside a character.

- `decode_append_iff`: the parts of a cut decode exactly if the whole does and the second does not start inside a
  character;
- `Encodes`: the bytes of a character, by their number;
- `Encodes.decodeFrom_eq`, `Encodes.encode_eq`: they decode to the character, and are what it is encoded as;
- `encodes`, `exists_encodes_of_decodeFrom`: every character has such bytes, and bytes that decode start with such;
- `decode_eq_ok_iff`: bytes decode to the characters that they encode.
-/

namespace SenderPolicy.Text.Utf8

/-! ## Cuts -/

/-- Whether a byte goes on with a character. -/
def isContinuation (b : UInt8) : Bool :=
  0x80 ≤ b && b ≤ 0xBF

theorem isContinuation_iff {b : UInt8} : isContinuation b = true ↔ 0x80 ≤ b ∧ b ≤ 0xBF := by
  simp [isContinuation]

theorem isContinuation_iff_toNat {b : UInt8} : isContinuation b = true ↔ 0x80 ≤ b.toNat ∧ b.toNat < 0xC0 := by
  simp only [isContinuation_iff, UInt8.le_iff_toNat_le, UInt8.reduceToNat]
  omega

/-- Bytes do not start inside a character. -/
def StartsWhole (s : List UInt8) : Prop :=
  ∀ b ∈ s.head?, isContinuation b = false

instance : DecidablePred StartsWhole :=
  fun s => inferInstanceAs (Decidable (∀ b ∈ s.head?, isContinuation b = false))

/-- The bytes that go on with a character are among those that may. -/
theorem bounds_of_lead? {b : UInt8} {u : Unfinished} (h : lead? b = some u) : 0x80 ≤ u.low ∧ u.high ≤ 0xBF := by
  simp only [lead?] at h
  repeat' split at h
  all_goals cases h
  all_goals simp

/-- What goes on with a character begins none. -/
theorem lead?_of_isContinuation {b : UInt8} (h : isContinuation b = true) : lead? b = none := by
  have hb : b < 0xC2 := by
    obtain ⟨-, high⟩ := isContinuation_iff_toNat.1 h
    exact UInt8.lt_iff_toNat_lt.2 (Nat.lt_trans high (by decide))
  simp only [lead?, if_pos hb]

/-- Bytes that decode do not start inside a character. -/
theorem startsWhole_of_decodeFrom {offset : Nat} {a : List UInt8} {s : List Char}
    (h : decodeFrom offset none a = .ok s) : StartsWhole a := by
  intro b hb
  cases a with
  | nil => cases hb
  | cons c a =>
    obtain rfl : c = b := Option.some.inj hb
    apply Bool.eq_false_iff.2
    intro hc
    have high : ¬ c < 0x80 := UInt8.not_lt.2 (isContinuation_iff.1 hc).1
    rw [decodeFrom, if_neg high, lead?_of_isContinuation hc] at h
    cases h

/-- Where bytes stand does not matter if they decode. -/
theorem decodeFrom_offset {offset : Nat} {u : Option Unfinished} {a : List UInt8} {s : List Char}
    (h : decodeFrom offset u a = .ok s) (offset' : Nat) : decodeFrom offset' u a = .ok s := by
  fun_induction decodeFrom offset u a generalizing s offset' with
  | case1 => exact h
  | case2 => cases h
  | case3 offset b r hb ih =>
    rw [decodeFrom, if_pos hb]
    obtain ⟨t, hr, rfl⟩ := Except.map_eq_ok_iff.1 h
    rw [ih hr]
    rfl
  | case4 offset b r hb v hv ih =>
    rw [decodeFrom, if_neg hb, hv]
    exact ih h offset'
  | case5 => cases h
  | case6 offset v b r hb hm ih =>
    rw [decodeFrom, if_pos hb, hm]
    obtain ⟨t, hr, rfl⟩ := Except.map_eq_ok_iff.1 h
    simp only
    rw [ih hr]
    rfl
  | case7 offset v b r hb n hm ih =>
    rw [decodeFrom, if_pos hb, hm]
    exact ih h offset'
  | case8 => cases h

/-- Bytes that decode fall apart at a cut that is not inside a character. -/
theorem exists_decodeFrom_of_append {a b : List UInt8} {offset : Nat} {u : Option Unfinished} {s : List Char}
    (bounds : ∀ v ∈ u, 0x80 ≤ v.low ∧ v.high ≤ 0xBF) (hb : StartsWhole b)
    (h : decodeFrom offset u (a ++ b) = .ok s) :
    ∃ s₁ s₂, decodeFrom offset u a = .ok s₁ ∧ decode b = .ok s₂ ∧ s = s₁ ++ s₂ := by
  fun_induction decodeFrom offset u a generalizing s with
  | case1 offset => exact ⟨[], s, rfl, decodeFrom_offset h 0, rfl⟩
  | case2 offset v =>
    -- the character that has begun goes on with the next byte
    cases b with
    | nil => cases h
    | cons c b =>
      have hc := hb c rfl
      obtain ⟨low, high⟩ := bounds v rfl
      rw [List.nil_append, decodeFrom] at h
      split at h
      · rename_i hv
        have goesOn := isContinuation_iff.2 ⟨UInt8.le_trans low hv.1, UInt8.le_trans hv.2 high⟩
        exact absurd goesOn (Bool.eq_false_iff.1 hc)
      · cases h
  | case3 offset c r hc ih =>
    rw [List.cons_append, decodeFrom, if_pos hc] at h
    obtain ⟨t, hr, rfl⟩ := Except.map_eq_ok_iff.1 h
    obtain ⟨s₁, s₂, h₁, h₂, rfl⟩ := ih (by simp) hr
    exact ⟨_, s₂, by rw [h₁]; rfl, h₂, rfl⟩
  | case4 offset c r hc v hv ih =>
    rw [List.cons_append, decodeFrom, if_neg hc, hv] at h
    exact ih (fun w hw => by cases hw; exact bounds_of_lead? hv) h
  | case5 offset c r hc hv =>
    rw [List.cons_append, decodeFrom, if_neg hc, hv] at h
    cases h
  | case6 offset v c r hc hm ih =>
    rw [List.cons_append, decodeFrom, if_pos hc, hm] at h
    obtain ⟨t, hr, rfl⟩ := Except.map_eq_ok_iff.1 h
    obtain ⟨s₁, s₂, h₁, h₂, rfl⟩ := ih (by simp) hr
    exact ⟨_, s₂, by rw [h₁]; rfl, h₂, rfl⟩
  | case7 offset v c r hc n hm ih =>
    rw [List.cons_append, decodeFrom, if_pos hc, hm] at h
    exact ih (by simp) h
  | case8 offset v c r hc =>
    rw [List.cons_append, decodeFrom, if_neg hc] at h
    cases h

/-- The parts of a cut decode exactly if the whole does and the second part does not start inside a character. -/
theorem decode_append_iff {a b : List UInt8} {s : List Char} :
    (∃ s₁ s₂, decode a = .ok s₁ ∧ decode b = .ok s₂ ∧ s = s₁ ++ s₂) ↔ decode (a ++ b) = .ok s ∧ StartsWhole b := by
  constructor
  · rintro ⟨s₁, s₂, h₁, h₂, rfl⟩
    obtain ⟨offset, h⟩ := decodeFrom_append (b := b) h₁
    refine ⟨?_, startsWhole_of_decodeFrom h₂⟩
    rw [decode, h, decodeFrom_offset h₂]
    rfl
  · rintro ⟨h, hb⟩
    exact exists_decodeFrom_of_append (by simp) hb h

/-- Pieces of which none starts inside a character do not do so together. -/
theorem startsWhole_flatten {ps : List (List UInt8)} (h : ∀ p ∈ ps, StartsWhole p) : StartsWhole ps.flatten := by
  induction ps with
  | nil => simp [StartsWhole]
  | cons p ps ih =>
    cases p with
    | nil => exact ih fun p hp => h p (List.mem_cons_of_mem _ hp)
    | cons b p => exact h (b :: p) List.mem_cons_self

/-- Pieces decode exactly if the whole does and none of them starts inside a character, and they are then the pieces
of the same text. -/
theorem decode_flatten_iff {ps : List (List UInt8)} {s : List Char} :
    (∃ ts : List (List Char), ps.map decode = ts.map .ok ∧ ts.flatten = s) ↔
      decode ps.flatten = .ok s ∧ ∀ p ∈ ps, StartsWhole p := by
  induction ps generalizing s with
  | nil =>
    constructor
    · rintro ⟨ts, h, rfl⟩
      obtain rfl : ts = [] := by simpa using h.symm
      exact ⟨rfl, by simp⟩
    · rintro ⟨h, -⟩
      cases h
      exact ⟨[], rfl, rfl⟩
  | cons p ps ih =>
    have step : (∃ ts : List (List Char), (p :: ps).map decode = ts.map .ok ∧ ts.flatten = s) ↔
        ∃ s₁ s₂, decode p = .ok s₁ ∧ (∃ ts : List (List Char), ps.map decode = ts.map .ok ∧ ts.flatten = s₂) ∧
          s = s₁ ++ s₂ := by
      constructor
      · rintro ⟨ts, h, rfl⟩
        cases ts with
        | nil => cases h
        | cons t ts =>
          obtain ⟨h₁, h₂⟩ := List.cons.inj h
          exact ⟨t, ts.flatten, h₁, ⟨ts, h₂, rfl⟩, rfl⟩
      · rintro ⟨s₁, _, h₁, ⟨ts, h₂, rfl⟩, rfl⟩
        exact ⟨s₁ :: ts, by rw [List.map_cons, List.map_cons, h₁, h₂], rfl⟩
    rw [step, List.flatten_cons, List.forall_mem_cons]
    constructor
    · rintro ⟨s₁, s₂, h₁, h₂, rfl⟩
      obtain ⟨h₂, whole⟩ := ih.1 h₂
      exact ⟨(decode_append_iff.1 ⟨s₁, s₂, h₁, h₂, rfl⟩).1, startsWhole_of_decodeFrom h₁, whole⟩
    · rintro ⟨h, -, whole⟩
      obtain ⟨s₁, s₂, h₁, h₂, rfl⟩ := decode_append_iff.2 ⟨h, startsWhole_flatten whole⟩
      exact ⟨s₁, s₂, h₁, ih.2 ⟨h₂, whole⟩, rfl⟩

/-! ## Bytes of a character -/

/-- What a leading byte begins: a character of two, three or four bytes. The next byte has to rule out what a shorter
form would encode, surrogates, and what is no code point. -/
theorem lead?_eq (b : UInt8) :
    lead? b =
      if b.toNat < 0xC2 then none
      else if b.toNat < 0xE0 then some ⟨1, b.toNat % 0x20, 0, 0x80, 0xBF⟩
      else if b.toNat < 0xF0 then
        some ⟨1, b.toNat % 0x10, 1, if b.toNat = 0xE0 then 0xA0 else 0x80, if b.toNat = 0xED then 0x9F else 0xBF⟩
      else if b.toNat < 0xF5 then
        some ⟨1, b.toNat % 0x08, 2, if b.toNat = 0xF0 then 0x90 else 0x80, if b.toNat = 0xF4 then 0x8F else 0xBF⟩
      else none := by
  simp only [lead?, UInt8.lt_iff_toNat_lt, ← UInt8.toNat_inj, UInt8.reduceToNat]
  generalize b.toNat = n
  grind

/-- Two bytes begin a character of three bytes. -/
def BeginThree (a b : UInt8) : Prop :=
  0xE0 ≤ a.toNat ∧ a.toNat < 0xF0 ∧ isContinuation b = true ∧ (a.toNat = 0xE0 → 0xA0 ≤ b.toNat) ∧
    (a.toNat = 0xED → b.toNat < 0xA0)

/-- Two bytes begin a character of four bytes. -/
def BeginFour (a b : UInt8) : Prop :=
  0xF0 ≤ a.toNat ∧ a.toNat < 0xF5 ∧ isContinuation b = true ∧ (a.toNat = 0xF0 → 0x90 ≤ b.toNat) ∧
    (a.toNat = 0xF4 → b.toNat < 0x90)

variable {a b : UInt8} {s : List UInt8} {offset : Nat}

/-- Such bytes are those that a leading byte lets follow. -/
theorem beginThree_iff : BeginThree a b ↔ 0xE0 ≤ a.toNat ∧ a.toNat < 0xF0 ∧
    (if a.toNat = 0xE0 then 0xA0 else 0x80) ≤ b ∧ b ≤ if a.toNat = 0xED then 0x9F else 0xBF := by
  simp only [BeginThree, isContinuation_iff, UInt8.le_iff_toNat_le]
  split <;> split <;> simp only [UInt8.reduceToNat] <;> omega

theorem beginFour_iff : BeginFour a b ↔ 0xF0 ≤ a.toNat ∧ a.toNat < 0xF5 ∧
    (if a.toNat = 0xF0 then 0x90 else 0x80) ≤ b ∧ b ≤ if a.toNat = 0xF4 then 0x8F else 0xBF := by
  simp only [BeginFour, isContinuation_iff, UInt8.le_iff_toNat_le]
  split <;> split <;> simp only [UInt8.reduceToNat] <;> omega

theorem not_lt_of_toNat {n : UInt8} (h : n.toNat ≤ a.toNat) : ¬ a < n :=
  fun hn => Nat.not_lt.2 h (UInt8.lt_iff_toNat_lt.1 hn)

/-- The code point of a character from its number. -/
theorem toNat_ofNat_of_isValidChar {n : Nat} (h : n.isValidChar) : (Char.ofNat n).val.toNat = n := by
  rw [Char.ofNat, dif_pos h]
  rfl

/-- The bytes of a character, by their number. -/
inductive Encodes : List UInt8 → Char → Prop
  | one {a : UInt8} (ha : a < 0x80) : Encodes [a] (Char.ofNat a.toNat)
  | two {a b : UInt8} (ha : 0xC2 ≤ a.toNat ∧ a.toNat < 0xE0) (hb : isContinuation b = true) :
      Encodes [a, b] (Char.ofNat (0x40 * (a.toNat % 0x20) + b.toNat % 0x40))
  | three {a b c : UInt8} (hab : BeginThree a b) (hc : isContinuation c = true) :
      Encodes [a, b, c] (Char.ofNat (0x40 * (0x40 * (a.toNat % 0x10) + b.toNat % 0x40) + c.toNat % 0x40))
  | four {a b c d : UInt8} (hab : BeginFour a b) (hc : isContinuation c = true) (hd : isContinuation d = true) :
      Encodes [a, b, c, d]
        (Char.ofNat (0x40 * (0x40 * (0x40 * (a.toNat % 0x08) + b.toNat % 0x40) + c.toNat % 0x40) + d.toNat % 0x40))

namespace Encodes

variable {bytes : List UInt8} {e : Char}

/-- The bytes of a character decode to it, and what follows decodes by itself. -/
theorem decodeFrom_eq (h : Encodes bytes e) (offset : Nat) (s : List UInt8) :
    decodeFrom offset none (bytes ++ s) = (decodeFrom (offset + bytes.length) none s).map (e :: ·) := by
  cases h with
  | one ha => exact if_pos ha
  | two ha hb =>
    rw [List.cons_append, decodeFrom, if_neg (not_lt_of_toNat (by simp only [UInt8.reduceToNat]; omega)), lead?_eq,
      if_neg (by omega), if_pos ha.2]
    exact if_pos (isContinuation_iff.1 hb)
  | three hab hc =>
    obtain ⟨low, high, range⟩ := beginThree_iff.1 hab
    rw [List.cons_append, decodeFrom, if_neg (not_lt_of_toNat (by simp only [UInt8.reduceToNat]; omega)), lead?_eq,
      if_neg (by omega), if_neg (by omega), if_pos high]
    exact (if_pos range).trans (if_pos (isContinuation_iff.1 hc))
  | four hab hc hd =>
    obtain ⟨low, high, range⟩ := beginFour_iff.1 hab
    rw [List.cons_append, decodeFrom, if_neg (not_lt_of_toNat (by simp only [UInt8.reduceToNat]; omega)), lead?_eq,
      if_neg (by omega), if_neg (by omega), if_neg (by omega), if_pos high]
    exact (if_pos range).trans ((if_pos (isContinuation_iff.1 hc)).trans (if_pos (isContinuation_iff.1 hd)))

/-- The bytes of a character are those that encode it. -/
theorem encode_eq (h : Encodes bytes e) : String.utf8EncodeChar e = bytes := by
  cases h with
  | @one a ha =>
    have ha : a.toNat < 0x80 := UInt8.lt_iff_toNat_lt.1 ha
    rw [String.utf8EncodeChar, toNat_ofNat_of_isValidChar (.inl (by omega)), if_pos (by omega), UInt8.ofNat_toNat]
  | two ha hb =>
    obtain ⟨lowb, highb⟩ := isContinuation_iff_toNat.1 hb
    rw [String.utf8EncodeChar, toNat_ofNat_of_isValidChar (.inl (by omega)), if_neg (by omega), if_pos (by omega)]
    simp only [List.cons.injEq, and_true, ← UInt8.toNat_inj, UInt8.toNat_ofNat']
    omega
  | three hab hc =>
    obtain ⟨low, high, hb, above, below⟩ := hab
    obtain ⟨lowb, highb⟩ := isContinuation_iff_toNat.1 hb
    obtain ⟨lowc, highc⟩ := isContinuation_iff_toNat.1 hc
    rw [String.utf8EncodeChar, toNat_ofNat_of_isValidChar (by simp only [Nat.isValidChar]; omega), if_neg (by omega),
      if_neg (by omega), if_pos (by omega)]
    simp only [List.cons.injEq, and_true, ← UInt8.toNat_inj, UInt8.toNat_ofNat']
    omega
  | four hab hc hd =>
    obtain ⟨low, high, hb, above, below⟩ := hab
    obtain ⟨lowb, highb⟩ := isContinuation_iff_toNat.1 hb
    obtain ⟨lowc, highc⟩ := isContinuation_iff_toNat.1 hc
    obtain ⟨lowd, highd⟩ := isContinuation_iff_toNat.1 hd
    rw [String.utf8EncodeChar, toNat_ofNat_of_isValidChar (by simp only [Nat.isValidChar]; omega), if_neg (by omega),
      if_neg (by omega), if_neg (by omega)]
    simp only [List.cons.injEq, and_true, ← UInt8.toNat_inj, UInt8.toNat_ofNat']
    omega

end Encodes

/-- Every character has bytes. -/
theorem encodes (e : Char) : Encodes (String.utf8EncodeChar e) e := by
  have valid := e.valid
  simp only [UInt32.isValidChar, Nat.isValidChar] at valid
  have back : Char.ofNat e.val.toNat = e := Char.ofNat_toNat e
  have byte {n : Nat} (h : n < 256) : ∃ a, UInt8.ofNat n = a ∧ a.toNat = n := ⟨_, rfl, UInt8.toNat_ofNat_of_lt' h⟩
  rw [String.utf8EncodeChar]
  generalize e.val.toNat = v at valid back
  have number {bytes : List UInt8} {n : Nat} (h : Encodes bytes (Char.ofNat n)) (hn : n = v) : Encodes bytes e := by
    rwa [hn, back] at h
  have goesOn {b : UInt8} {n : Nat} (h : b.toNat = n % 64 + 128) : isContinuation b = true :=
    isContinuation_iff_toNat.2 (by omega)
  split
  · obtain ⟨a, ha, na⟩ := byte (n := v) (by omega)
    rw [ha]
    refine number (.one (UInt8.lt_iff_toNat_lt.2 ?_)) na
    show a.toNat < 0x80
    omega
  split
  · obtain ⟨a, ha, na⟩ := byte (n := v / 64 % 32 + 192) (by omega)
    obtain ⟨b, hb, nb⟩ := byte (n := v % 64 + 128) (by omega)
    rw [ha, hb]
    exact number (.two (by omega) (goesOn nb)) (by omega)
  split
  · obtain ⟨a, ha, na⟩ := byte (n := v / 4096 % 16 + 224) (by omega)
    obtain ⟨b, hb, nb⟩ := byte (n := v / 64 % 64 + 128) (by omega)
    obtain ⟨c, hc, nc⟩ := byte (n := v % 64 + 128) (by omega)
    have hab : BeginThree a b := ⟨by omega, by omega, goesOn nb, by omega, by omega⟩
    rw [ha, hb, hc]
    exact number (.three hab (goesOn nc)) (by omega)
  · obtain ⟨a, ha, na⟩ := byte (n := v / 262144 % 8 + 240) (by omega)
    obtain ⟨b, hb, nb⟩ := byte (n := v / 4096 % 64 + 128) (by omega)
    obtain ⟨c, hc, nc⟩ := byte (n := v / 64 % 64 + 128) (by omega)
    obtain ⟨d, hd, nd⟩ := byte (n := v % 64 + 128) (by omega)
    have hab : BeginFour a b := ⟨by omega, by omega, goesOn nb, by omega, by omega⟩
    rw [ha, hb, hc, hd]
    exact number (.four hab (goesOn nc) (goesOn nd)) (by omega)

/-- The bytes of a character that is followed by others. -/
theorem exists_more_of_decodeFrom {u : Unfinished} {text : List Char} (h : decodeFrom offset (some u) s = .ok text) :
    ∃ b t, s = b :: t ∧ u.low ≤ b ∧ b ≤ u.high ∧ ∀ n, u.more = n + 1 →
      decodeFrom offset (some ⟨u.seen + 1, u.extend b, n, 0x80, 0xBF⟩) t = .ok text := by
  cases s with
  | nil => cases h
  | cons b t =>
    rw [decodeFrom] at h
    split at h
    · rename_i range
      refine ⟨b, t, rfl, range.1, range.2, fun n hn => ?_⟩
      rw [hn] at h
      exact h
    · cases h

/-- Bytes that decode start with those of a character. -/
theorem exists_encodes_of_decodeFrom {text : List Char} (h : decodeFrom offset none (a :: s) = .ok text) :
    ∃ bytes e t, Encodes bytes e ∧ a :: s = bytes ++ t := by
  by_cases ha : a < 0x80
  · exact ⟨[a], _, s, .one ha, rfl⟩
  rw [decodeFrom, if_neg ha] at h
  cases hu : lead? a with
  | none => rw [hu] at h; cases h
  | some u =>
    rw [hu] at h
    obtain ⟨b, t, rfl, low, high, next⟩ := exists_more_of_decodeFrom h
    rw [lead?_eq] at hu
    -- by the number of bytes that the first one begins
    split at hu
    · cases hu
    split at hu
    · cases hu
      exact ⟨[a, b], _, t, .two (by omega) (isContinuation_iff.2 ⟨low, high⟩), rfl⟩
    split at hu
    · cases hu
      obtain ⟨c, t, rfl, lowc, highc, -⟩ := exists_more_of_decodeFrom (next 0 rfl)
      have hab : BeginThree a b := beginThree_iff.2 ⟨by omega, by omega, low, high⟩
      exact ⟨[a, b, c], _, t, .three hab (isContinuation_iff.2 ⟨lowc, highc⟩), rfl⟩
    split at hu
    · cases hu
      obtain ⟨c, t, rfl, lowc, highc, next⟩ := exists_more_of_decodeFrom (next 1 rfl)
      obtain ⟨d, t, rfl, lowd, highd, -⟩ := exists_more_of_decodeFrom (next 0 rfl)
      have hab : BeginFour a b := beginFour_iff.2 ⟨by omega, by omega, low, high⟩
      exact ⟨[a, b, c, d], _, t,
        .four hab (isContinuation_iff.2 ⟨lowc, highc⟩) (isContinuation_iff.2 ⟨lowd, highd⟩), rfl⟩
    · cases hu

/-! ## Texts -/

/-- The bytes that encode characters. -/
def encode (text : List Char) : List UInt8 :=
  text.flatMap String.utf8EncodeChar

/-- The bytes of characters decode to them. -/
theorem decodeFrom_encode (text : List Char) (offset : Nat) : decodeFrom offset none (encode text) = .ok text := by
  induction text generalizing offset with
  | nil => rfl
  | cons c text ih =>
    rw [encode, List.flatMap_cons, ← encode, (encodes c).decodeFrom_eq, ih]
    rfl

/-- Bytes that decode are those of the characters. -/
theorem eq_encode_of_decodeFrom {bytes : List UInt8} {text : List Char} {offset : Nat}
    (h : decodeFrom offset none bytes = .ok text) : bytes = encode text := by
  induction hn : bytes.length using Nat.strongRecOn generalizing bytes text offset with
  | ind n ih =>
    cases bytes with
    | nil =>
      cases h
      rfl
    | cons a s =>
      obtain ⟨bytes, e, t, first, split⟩ := exists_encodes_of_decodeFrom h
      rw [split, first.decodeFrom_eq] at h
      obtain ⟨rest, hr, rfl⟩ := Except.map_eq_ok_iff.1 h
      have shorter : t.length < n := by
        have length := congrArg List.length split
        have := e.utf8Size_pos
        rw [hn, List.length_append, ← first.encode_eq, String.length_utf8EncodeChar] at length
        omega
      rw [split, ih t.length shorter hr rfl, ← first.encode_eq]
      rfl

/-- Bytes decode to the characters that they encode, and to no others. -/
theorem decode_eq_ok_iff {bytes : List UInt8} {text : List Char} : decode bytes = .ok text ↔ bytes = encode text := by
  constructor
  · exact eq_encode_of_decodeFrom
  · rintro rfl
    exact decodeFrom_encode text 0

/-- Texts of the same bytes are the same. -/
theorem encode_inj {s t : List Char} : encode s = encode t ↔ s = t := by
  constructor
  · intro h
    exact Except.ok.inj ((decode_eq_ok_iff.2 rfl).symm.trans (decode_eq_ok_iff.2 h))
  · exact congrArg encode

end SenderPolicy.Text.Utf8
