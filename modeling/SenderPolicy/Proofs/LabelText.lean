import SenderPolicy.Domain.Ascii
import SenderPolicy.Proofs.PunycodeText

/-!
# Reading labels back

A label of a domain is read back from its ASCII form, if that is in lower case, and if mapping and composition leave its
characters alone.

- `Label.IsSettled`: a label that is read back;
- `Label.isSettled_of_ofAscii?`: labels of ASCII characters are;
- `Label.Arises`: a label that comes of a domain text;
- `Label.Arises.isSettled_iff`: such a label is settled exactly if its ASCII form is one of its own.
-/

namespace SenderPolicy.Domain

open Text

/-! ## ASCII characters -/

/-- What holds of the characters of 128 code points holds of every ASCII character. -/
theorem forall_ascii {P : Char → Prop} (h : ∀ n < 0x80, P (Char.ofNat n)) {c : Char} (hc : c.toNat < 0x80) : P c := by
  rw [← Char.ofNat_toNat c]
  exact h _ hc

theorem toNat_toLower_lt {c : Char} (hc : c.toNat < 0x80) : c.toLower.toNat < 0x80 :=
  forall_ascii (P := fun c => c.toLower.toNat < 0x80) (by decide) hc

theorem toLower_toLower {c : Char} (hc : c.toNat < 0x80) : c.toLower.toLower = c.toLower :=
  forall_ascii (P := fun c => c.toLower.toLower = c.toLower) (by decide) hc

theorem toLower_eq_dot_iff {c : Char} (hc : c.toNat < 0x80) : c.toLower = '.' ↔ c = '.' :=
  forall_ascii (P := fun c => c.toLower = '.' ↔ c = '.') (by decide) hc

theorem isBlank_toLower {c : Char} (hc : c.toNat < 0x80) : isBlank c.toLower = isBlank c :=
  forall_ascii (P := fun c => isBlank c.toLower = isBlank c) (by decide) hc

theorem isAscii_iff {s : List Char} : isAscii s = true ↔ ∀ c ∈ s, c.toNat < 0x80 := by
  simp [isAscii]

/-- Text in lower case stays in lower case. -/
theorem map_toLower_map_toLower {s : List Char} (h : isAscii s = true) :
    (s.map Char.toLower).map Char.toLower = s.map Char.toLower := by
  rw [List.map_map]
  exact List.map_congr_left fun c hc => toLower_toLower (isAscii_iff.1 h c hc)

theorem isAscii_map_toLower {s : List Char} (h : isAscii s = true) : isAscii (s.map Char.toLower) = true := by
  simpa [isAscii_iff] using fun c hc => toNat_toLower_lt (isAscii_iff.1 h c hc)

theorem dot_mem_map_toLower_iff {s : List Char} (h : isAscii s = true) : '.' ∈ s.map Char.toLower ↔ '.' ∈ s := by
  rw [List.mem_map]
  constructor
  · rintro ⟨c, hc, hd⟩
    rwa [(toLower_eq_dot_iff (isAscii_iff.1 h c hc)).1 hd] at hc
  · exact fun hd => ⟨'.', hd, rfl⟩

/-! ## Labels -/

namespace Label

variable {s : List Char} {l : Label}

/-- What a label in Punycode is. -/
theorem ofEncoded?_eq_some_iff :
    ofEncoded? s = some l ↔ l.ascii = s ∧ s.getLast? ≠ some '-' ∧ (s.drop acePrefix.length).length ≤ maxEncodedLength ∧
      Punycode.decode? (s.drop acePrefix.length) = some l.chars ∧ l.chars.all isFixed = true ∧
      Text.normalize l.chars = l.chars ∧ isValid l.chars = true := by
  obtain ⟨chars, ascii⟩ := l
  rw [ofEncoded?]
  by_cases hs : s.getLast? = some '-' ∨ maxEncodedLength < (s.drop acePrefix.length).length
  · simp only [if_pos hs, reduceCtorEq, false_iff]
    rintro ⟨-, hyphen, short, -⟩
    rcases hs with hs | hs
    · exact hyphen hs
    · omega
  · simp only [if_neg hs]
    simp only [not_or, Nat.not_lt] at hs
    cases hd : Punycode.decode? (s.drop acePrefix.length) with
    | none => simp
    | some cs =>
      simp only [Option.bind_eq_bind, Option.bind_some, Option.ite_none_right_eq_some, Option.some.injEq, mk.injEq,
        Bool.and_eq_true, decide_eq_true_eq]
      constructor
      · rintro ⟨⟨⟨fixed, composed⟩, valid⟩, rfl, rfl⟩
        exact ⟨rfl, hs.1, hs.2, rfl, fixed, composed, valid⟩
      · rintro ⟨rfl, -, -, rfl, fixed, composed, valid⟩
        exact ⟨⟨⟨fixed, composed⟩, valid⟩, rfl, rfl⟩

/-- A label of mapped characters comes in Punycode, or is what its characters are. -/
theorem ofMapped?_cases (h : ofMapped? s = some l) :
    acePrefix.isPrefixOf s = true ∧ isAscii s = true ∧ ofEncoded? s = some l ∨
      acePrefix.isPrefixOf s = false ∧ isValid s = true ∧ l = ⟨s, asciiForm s⟩ := by
  rw [ofMapped?] at h
  split at h
  · split at h
    · exact .inl ⟨‹_›, ‹_›, h⟩
    · cases h
  · split at h
    · exact .inr ⟨Bool.eq_false_iff.2 ‹_›, ‹_›, (Option.some.inj h).symm⟩
    · cases h

/-- An ASCII label is read in lower case. -/
theorem ascii_of_ofAscii? (h : ofAscii? s = some l) : l.ascii = s.map Char.toLower := by
  rw [ofAscii?] at h
  split at h
  · exact (ofEncoded?_eq_some_iff.1 h).1
  · cases h
    rfl

/-- A label is settled: its ASCII form is in lower case, and if its characters are not ASCII, then mapping and composition
leave them alone, and their Punycode is not too long to be read. -/
structure IsSettled (l : Label) : Prop where
  lower : l.ascii.map Char.toLower = l.ascii
  fixed : isAscii l.chars = false → l.chars.all isFixed = true
  composed : isAscii l.chars = false → Text.normalize l.chars = l.chars
  short : isAscii l.chars = false → l.ascii.length ≤ acePrefix.length + maxEncodedLength

/-- A label in Punycode is settled if it is in lower case. -/
theorem isSettled_of_ofEncoded? (h : ofEncoded? s = some l) (lower : s.map Char.toLower = s) : l.IsSettled := by
  obtain ⟨rfl, -, short, -, fixed, composed, -⟩ := ofEncoded?_eq_some_iff.1 h
  refine ⟨lower, fun _ => fixed, fun _ => composed, fun _ => ?_⟩
  rw [List.length_drop] at short
  omega

/-- An ASCII label is settled, and read back from its ASCII form. -/
theorem isSettled_of_ofAscii? (hs : isAscii s = true) (h : ofAscii? s = some l) :
    l.IsSettled ∧ ofAscii? l.ascii = some l := by
  have ascii := ascii_of_ofAscii? h
  have lower := map_toLower_map_toLower hs
  rw [ascii, ofAscii?, lower]
  refine ⟨?_, h⟩
  rw [ofAscii?] at h
  split at h
  · exact isSettled_of_ofEncoded? h lower
  · cases h
    have plain := isAscii_map_toLower hs
    exact ⟨lower, by simp [plain], by simp [plain], by simp [plain]⟩

theorem length_le_of_isValid (valid : isValid s = true) (ha : isAscii s = false) : s.length ≤ 1000 := by
  simp only [isValid, ha, Bool.false_or, Bool.and_eq_true, decide_eq_true_eq] at valid
  exact valid.2

/-- Characters that are not ASCII are read back from Punycode in lower case. -/
theorem decode?_of_lower (valid : isValid s = true) (ha : isAscii s = false)
    (lower : (acePrefix ++ Punycode.encode s).map Char.toLower = acePrefix ++ Punycode.encode s) :
    Punycode.decode? (Punycode.encode s) = some s := by
  refine Punycode.decode?_encode (length_le_of_isValid valid ha) fun c hc code => ?_
  have each := List.map_inj_left.1 (lower.trans (List.map_id _).symm)
  exact each c (List.mem_append_right _ (Punycode.mem_encode_of_mem hc code))

/-- A label of mapped characters is read back from its ASCII form, if it is settled. -/
theorem ofAscii?_ascii_of_isSettled (h : ofMapped? s = some l) (settled : l.IsSettled) :
    ofAscii? l.ascii = some l := by
  rw [ofAscii?, settled.lower]
  rcases ofMapped?_cases h with ⟨ace, -, he⟩ | ⟨plain, valid, rfl⟩
  · obtain ⟨rfl, -⟩ := ofEncoded?_eq_some_iff.1 he
    rw [if_pos ace, he]
  · cases ha : isAscii s with
    | true => simp [asciiForm, ha, plain]
    | false =>
      have form : asciiForm s = acePrefix ++ Punycode.encode s := by simp [asciiForm, ha]
      obtain ⟨lower, fixed, composed, short⟩ := settled
      simp only [form] at lower short ⊢
      rw [if_pos (by simp), ofEncoded?_eq_some_iff, List.drop_left]
      refine ⟨rfl, ?_, ?_, decode?_of_lower valid ha lower, fixed ha, composed ha, valid⟩
      · obtain ⟨c, hc, code⟩ : ∃ c ∈ s, 0x80 ≤ c.toNat := by simpa [isAscii] using ha
        obtain ⟨d, hd, last⟩ := Punycode.getLast?_encode (length_le_of_isValid valid ha) hc code
        rw [List.getLast?_append, last]
        exact fun h => Punycode.digitChar_ne_hyphen hd (Option.some.inj h)
      · have := short ha
        rw [List.length_append] at this
        omega

/-- A label of mapped characters that is read back from its ASCII form is settled. -/
theorem isSettled_of_ofAscii?_ascii {l' : Label} (h : ofMapped? s = some l) (again : ofAscii? l.ascii = some l')
    (same : l'.ascii = l.ascii) : l.IsSettled := by
  have lower : l.ascii.map Char.toLower = l.ascii := (ascii_of_ofAscii? again).symm.trans same
  rcases ofMapped?_cases h with ⟨ace, -, he⟩ | ⟨plain, valid, rfl⟩
  · obtain ⟨rfl, -⟩ := ofEncoded?_eq_some_iff.1 he
    exact isSettled_of_ofEncoded? he lower
  · cases ha : isAscii s with
    | true => exact ⟨lower, by simp [ha], by simp [ha], by simp [ha]⟩
    | false =>
      have form : asciiForm s = acePrefix ++ Punycode.encode s := by simp [asciiForm, ha]
      simp only [form] at again same lower
      rw [ofAscii?, lower, if_pos (by simp), ofEncoded?_eq_some_iff, List.drop_left, decode?_of_lower valid ha lower]
        at again
      obtain ⟨-, -, short, chars, fixed, composed, -⟩ := again
      cases chars
      refine ⟨by rw [form]; exact lower, fun _ => fixed, fun _ => composed, fun _ => ?_⟩
      rw [form, List.length_append]
      omega

/-- A label that comes of a domain text: of ASCII characters between two dots, or of mapped characters. -/
def Arises (l : Label) : Prop :=
  (∃ s, '.' ∉ s ∧ isAscii s = true ∧ ofAscii? s = some l) ∨ ∃ s, '.' ∉ s ∧ ofMapped? s = some l

/-- Something comes of characters between two dots. -/
theorem ofChars?_ne_nil {ls : List Label} (h : ofChars? s = some ls) : ls ≠ [] := by
  rintro rfl
  rw [ofChars?] at h
  split at h
  · cases hs : ofAscii? s <;> simp [hs] at h
  · simp only [Option.bind_eq_bind, Option.bind_eq_some_iff] at h
    obtain ⟨mapped, -, h⟩ := h
    have each := Option.mapM_eq_some_iff.1 h
    rw [List.map_nil, List.map_eq_nil_iff] at each
    exact List.splitOn_ne_nil _ _ each

/-- What comes of characters between two dots. -/
theorem arises_of_mem_ofChars? {ls : List Label} (hs : '.' ∉ s) (h : ofChars? s = some ls) (hl : l ∈ ls) :
    l.Arises := by
  rw [ofChars?] at h
  split at h
  · obtain ⟨l', hl', rfl⟩ := Option.map_eq_some_iff.1 h
    cases List.mem_singleton.1 hl
    exact .inl ⟨s, hs, ‹_›, hl'⟩
  · simp only [Option.bind_eq_bind, Option.bind_eq_some_iff] at h
    obtain ⟨mapped, -, h⟩ := h
    have each := Option.mapM_eq_some_iff.1 h
    obtain ⟨t, ht, hm⟩ := List.mem_map.1 (each ▸ List.mem_map_of_mem hl)
    exact .inr ⟨t, notMem_of_mem_splitOn ht, hm⟩

namespace Arises

/-- The ASCII form of a label is ASCII and has no dots. -/
theorem ascii (h : l.Arises) : isAscii l.ascii = true ∧ '.' ∉ l.ascii := by
  rcases h with ⟨s, dot, hs, h⟩ | ⟨s, dot, h⟩
  · rw [ascii_of_ofAscii? h, dot_mem_map_toLower_iff hs]
    exact ⟨isAscii_map_toLower hs, dot⟩
  · rcases ofMapped?_cases h with ⟨-, hs, he⟩ | ⟨-, valid, rfl⟩
    · rw [(ofEncoded?_eq_some_iff.1 he).1]
      exact ⟨hs, dot⟩
    · simp only [asciiForm]
      split
      · exact ⟨‹_›, dot⟩
      · -- Punycode has the ASCII characters of the label, a hyphen and digits
        rename_i ha
        have length := length_le_of_isValid valid (Bool.eq_false_iff.2 ha)
        have digit : ∀ d < 36, (Punycode.digitChar d).toNat < 0x80 ∧ Punycode.digitChar d ≠ '.' := by decide
        have each : ∀ c ∈ Punycode.encode s, c.toNat < 0x80 ∧ c ≠ '.' := by
          intro c hc
          rcases Punycode.mem_encode length hc with ⟨hc, code⟩ | rfl | ⟨d, hd, rfl⟩
          · exact ⟨code, fun hd => dot (hd ▸ hc)⟩
          · decide
          · exact digit d hd
        have ace : ∀ c ∈ acePrefix, c.toNat < 0x80 ∧ c ≠ '.' := by simp [acePrefix]
        have both : ∀ c ∈ acePrefix ++ Punycode.encode s, c.toNat < 0x80 ∧ c ≠ '.' := fun c hc =>
          (List.mem_append.1 hc).elim (ace c) (each c)
        exact ⟨isAscii_iff.2 fun c hc => (both c hc).1, fun hd => (both '.' hd).2 rfl⟩

theorem ofAscii?_ascii (h : l.Arises) (settled : l.IsSettled) : ofAscii? l.ascii = some l := by
  rcases h with ⟨s, -, hs, h⟩ | ⟨s, -, h⟩
  · exact (isSettled_of_ofAscii? hs h).2
  · exact ofAscii?_ascii_of_isSettled h settled

/-- A label is settled exactly if its ASCII form is one of its own. -/
theorem isSettled_iff (h : l.Arises) : l.IsSettled ↔ (ofAscii? l.ascii).map Label.ascii = some l.ascii := by
  constructor
  · intro settled
    rw [h.ofAscii?_ascii settled]
    rfl
  · intro again
    obtain ⟨l', again, same⟩ := Option.map_eq_some_iff.1 again
    rcases h with ⟨s, -, hs, h⟩ | ⟨s, -, h⟩
    · exact (isSettled_of_ofAscii? hs h).1
    · exact isSettled_of_ofAscii?_ascii h again same

end Arises

end Label

end SenderPolicy.Domain
