/-!
# Blank characters

The characters that text is trimmed of and split at: those with the Unicode property White_Space, 25 of them.

- `words_eq_nil_iff`, `words_eq_cons_iff`: where the words of a text stand;
- `words_trim`, `head?_trim`: trimming keeps the words, and what it leaves starts with the first character that is not
  blank;
- `trim_of_isWord`, `trim_eq_self`: blanks around a word are trimmed, and text without blanks at its ends stays;
- `notMem_of_mem_splitOn`: a text is not cut inside its parts, so that lines have no line feeds.
-/

namespace SenderPolicy.Text

/-- Whether a character has the Unicode property White_Space. -/
def isBlank (c : Char) : Bool :=
  let n := c.toNat
  (9 ≤ n && n ≤ 13) || n == 0x20 || n == 0x85 || n == 0xA0 || n == 0x1680 || (0x2000 ≤ n && n ≤ 0x200A) ||
    n == 0x2028 || n == 0x2029 || n == 0x202F || n == 0x205F || n == 0x3000

/-- What stands in front of the longest run at the end that satisfies `p`. -/
def dropEndWhile {α : Type} (p : α → Bool) (s : List α) : List α :=
  (s.reverse.dropWhile p).reverse

/-- The text without the blanks at its two ends. -/
def trim (s : List Char) : List Char :=
  dropEndWhile isBlank (s.dropWhile isBlank)

/-- The longest runs of characters that are not blank, in their order. -/
def words (s : List Char) : List (List Char) :=
  (s.splitOnP isBlank).filter (· ≠ [])

/-- A run of characters that are not blank. -/
def IsWord (w : List Char) : Prop :=
  w ≠ [] ∧ ∀ c ∈ w, isBlank c = false

/-- The lines of a text, each without its line feed. -/
def lines (s : List Char) : List (List Char) :=
  s.splitOn '\n'

/-! ## Laws -/

/-- Dropping from the front leaves nothing exactly when every character is dropped. -/
theorem dropWhile_eq_nil_iff {α : Type} {p : α → Bool} {s : List α} : s.dropWhile p = [] ↔ ∀ c ∈ s, p c = true := by
  induction s with
  | nil => simp
  | cons c s ih => by_cases h : p c = true <;> simp [h, ih]

/-- Text falls into a longest run in front that satisfies a test and the rest. -/
theorem exists_eq_append_of_test {α : Type} (p : α → Bool) (s : List α) :
    ∃ front, s = front ++ s.dropWhile p ∧ (∀ c ∈ front, p c = true) ∧ ∀ c ∈ (s.dropWhile p).head?, p c = false := by
  refine ⟨s.takeWhile p, List.takeWhile_append_dropWhile.symm, List.all_eq_true.1 List.all_takeWhile, fun c hc => ?_⟩
  have h := List.head?_dropWhile_not p s
  rw [Option.mem_def.1 hc] at h
  exact h

/-- Dropping from the end leaves nothing exactly when every character is dropped. -/
theorem dropEndWhile_eq_nil_iff {α : Type} {p : α → Bool} {s : List α} :
    dropEndWhile p s = [] ↔ ∀ c ∈ s, p c = true := by
  rw [dropEndWhile, List.reverse_eq_nil_iff, dropWhile_eq_nil_iff]
  simp

/-! ## Words -/

/-- A blank ends a word. -/
theorem words_append_cons {c : Char} (hc : isBlank c = true) (s t : List Char) :
    words (s ++ c :: t) = words s ++ words t := by
  rw [words, List.splitOnP_append_cons s t hc, List.filter_append]
  rfl

/-- Blanks in front belong to no word. -/
theorem words_append_of_blank {s : List Char} (hs : ∀ c ∈ s, isBlank c = true) (t : List Char) :
    words (s ++ t) = words t := by
  induction s with
  | nil => rfl
  | cons c s ih =>
    have hc := words_append_cons (hs c List.mem_cons_self) [] (s ++ t)
    have hnil : words [] = [] := by simp [words]
    rw [List.nil_append, hnil] at hc
    exact hc.trans (ih fun d hd => hs d (List.mem_cons_of_mem _ hd))

/-- Blanks have no words. -/
theorem words_of_blank {s : List Char} (hs : ∀ c ∈ s, isBlank c = true) : words s = [] := by
  have h := words_append_of_blank hs []
  rw [List.append_nil] at h
  rw [h]
  simp [words]

/-- A word in front is the first of the words if it ends there. -/
theorem words_append_of_isWord {w rest : List Char} (hw : IsWord w) (stop : ∀ c ∈ rest.head?, isBlank c = true) :
    words (w ++ rest) = w :: words rest := by
  have alone : words w = [w] := by
    rw [words, List.splitOnP_eq_singleton hw.2]
    simp [hw.1]
  cases rest with
  | nil => rw [List.append_nil, alone, words_of_blank (by simp)]
  | cons c rest =>
    have hc : isBlank c = true := stop c rfl
    rw [words_append_cons hc, alone]
    exact congrArg (w :: ·) (words_append_cons hc [] rest).symm

/-- Text has nothing but blanks, or a first word. -/
theorem forall_isBlank_or_exists_isWord (s : List Char) :
    (∀ c ∈ s, isBlank c = true) ∨ ∃ front w rest, s = front ++ (w ++ rest) ∧ (∀ c ∈ front, isBlank c = true) ∧
      IsWord w ∧ ∀ c ∈ rest.head?, isBlank c = true := by
  obtain ⟨front, hs, hfront, hstart⟩ := exists_eq_append_of_test isBlank s
  obtain ⟨w, ht, hw, hstop⟩ := exists_eq_append_of_test (fun c => !isBlank c) (s.dropWhile isBlank)
  generalize s.dropWhile isBlank = t at hs hstart ht hstop
  cases t with
  | nil =>
    rw [List.append_nil] at hs
    exact .inl (hs ▸ hfront)
  | cons c t =>
    have hne : w ≠ [] := by
      rintro rfl
      rw [List.nil_append] at ht
      rw [← ht] at hstop
      have := hstop c rfl
      simp [hstart c rfl] at this
    have hword : IsWord w := ⟨hne, fun c hc => by simpa using hw c hc⟩
    exact .inr ⟨front, w, _, ht ▸ hs, hfront, hword, fun c hc => by simpa using hstop c hc⟩

/-- Text has no words exactly when it has nothing but blanks. -/
theorem words_eq_nil_iff {s : List Char} : words s = [] ↔ ∀ c ∈ s, isBlank c = true := by
  refine ⟨fun h => ?_, words_of_blank⟩
  rcases forall_isBlank_or_exists_isWord s with blank | ⟨front, w, rest, rfl, hfront, hw, stop⟩
  · exact blank
  · rw [words_append_of_blank hfront, words_append_of_isWord hw stop] at h
    cases h

/-- The first of the words stands behind blanks, and the others are those of what follows. -/
theorem words_eq_cons_iff {s w : List Char} {ws : List (List Char)} :
    words s = w :: ws ↔ ∃ front rest, s = front ++ (w ++ rest) ∧ (∀ c ∈ front, isBlank c = true) ∧ IsWord w ∧
      (∀ c ∈ rest.head?, isBlank c = true) ∧ words rest = ws := by
  constructor
  · intro h
    rcases forall_isBlank_or_exists_isWord s with blank | ⟨front, v, rest, rfl, hfront, hv, stop⟩
    · rw [words_of_blank blank] at h
      cases h
    · rw [words_append_of_blank hfront, words_append_of_isWord hv stop] at h
      cases h
      exact ⟨front, rest, rfl, hfront, hv, stop, rfl⟩
  · rintro ⟨front, rest, rfl, hfront, hw, stop, rfl⟩
    rw [words_append_of_blank hfront, words_append_of_isWord hw stop]

/-- Blanks behind text belong to no word. -/
theorem words_append_blank {t : List Char} (ht : ∀ c ∈ t, isBlank c = true) (s : List Char) :
    words (s ++ t) = words s := by
  cases t with
  | nil => rw [List.append_nil]
  | cons c t =>
    rw [words_append_cons (ht c List.mem_cons_self), words_of_blank fun d hd => ht d (List.mem_cons_of_mem _ hd),
      List.append_nil]

/-! ## Trimmed text -/

/-- What is dropped from the end satisfies the test. -/
theorem exists_eq_dropEndWhile_append {α : Type} (p : α → Bool) (s : List α) :
    ∃ back, s = dropEndWhile p s ++ back ∧ ∀ c ∈ back, p c = true := by
  obtain ⟨front, hs, hp, -⟩ := exists_eq_append_of_test p s.reverse
  refine ⟨front.reverse, ?_, fun c hc => hp c (List.mem_reverse.1 hc)⟩
  rw [dropEndWhile, ← List.reverse_append, ← hs, List.reverse_reverse]

/-- Trimmed text stands between blanks and starts with none. -/
theorem exists_eq_append_trim (s : List Char) :
    ∃ front back, s = front ++ (trim s ++ back) ∧ (∀ c ∈ front, isBlank c = true) ∧
      (∀ c ∈ back, isBlank c = true) ∧ ∀ c ∈ (trim s).head?, isBlank c = false := by
  obtain ⟨front, hs, hfront, hstart⟩ := exists_eq_append_of_test isBlank s
  obtain ⟨back, ht, hback⟩ := exists_eq_dropEndWhile_append isBlank (s.dropWhile isBlank)
  refine ⟨front, back, by rw [trim, ← ht, ← hs], hfront, hback, fun c hc => hstart c ?_⟩
  rw [ht, List.head?_append, ← trim, Option.mem_def.1 hc]
  rfl

/-- Trimming keeps the words. -/
theorem words_trim (s : List Char) : words (trim s) = words s := by
  obtain ⟨front, back, hs, hfront, hback, -⟩ := exists_eq_append_trim s
  calc words (trim s) = words (front ++ (trim s ++ back)) := by
        rw [words_append_of_blank hfront, words_append_blank hback]
    _ = words s := by rw [← hs]

/-- Trimmed text starts with the first character that is not blank. -/
theorem head?_trim (s : List Char) : (trim s).head? = s.find? fun c => !isBlank c := by
  obtain ⟨front, back, hs, hfront, hback, hstart⟩ := exists_eq_append_trim s
  have skip : ∀ {t : List Char}, (∀ c ∈ t, isBlank c = true) → t.find? (fun c => !isBlank c) = none := fun ht => by
    simpa [List.find?_eq_none] using ht
  generalize trim s = t at hs hstart
  rw [hs, List.find?_append, skip hfront, Option.none_or]
  cases t with
  | nil => rw [List.nil_append, skip hback, List.head?_nil]
  | cons c t =>
    have hc : isBlank c = false := hstart c rfl
    rw [List.cons_append, List.find?_cons_of_pos (by rw [hc]; rfl), List.head?_cons]

/-- Blanks around a word are trimmed. -/
theorem trim_of_isWord {front w back : List Char} (hfront : ∀ c ∈ front, isBlank c = true) (hw : IsWord w)
    (hback : ∀ c ∈ back, isBlank c = true) : trim (front ++ (w ++ back)) = w := by
  have start : (front ++ (w ++ back)).dropWhile isBlank = w ++ back := by
    obtain ⟨c, v, rfl⟩ := List.exists_cons_of_ne_nil hw.1
    have hc := hw.2 c List.mem_cons_self
    rw [List.dropWhile_append_of_pos hfront, List.cons_append, List.dropWhile_cons_of_neg (by simp [hc])]
  have stop : (back.reverse ++ w.reverse).dropWhile isBlank = w.reverse := by
    obtain ⟨c, v, hv⟩ := List.exists_cons_of_ne_nil (fun h => hw.1 (List.reverse_eq_nil_iff.1 h))
    have hc : isBlank c = false := hw.2 c (List.mem_reverse.1 (by rw [hv]; exact List.mem_cons_self))
    rw [List.dropWhile_append_of_pos fun d hd => hback d (List.mem_reverse.1 hd), hv,
      List.dropWhile_cons_of_neg (by simp [hc])]
  rw [trim, start, dropEndWhile, List.reverse_append, stop, List.reverse_reverse]

/-- What is left without a run at the end does not end in its characters. -/
theorem not_of_mem_getLast?_dropEndWhile {α : Type} {p : α → Bool} {s : List α} {c : α}
    (h : c ∈ (dropEndWhile p s).getLast?) : p c = false := by
  obtain ⟨-, -, -, stop⟩ := exists_eq_append_of_test p s.reverse
  rw [dropEndWhile, List.getLast?_reverse] at h
  exact stop c h

/-- Where nothing is to be dropped from the end, nothing is dropped. -/
theorem dropEndWhile_eq_self {α : Type} {p : α → Bool} {s : List α} (h : ∀ c ∈ s.getLast?, p c = false) :
    dropEndWhile p s = s := by
  obtain ⟨back, hs, hback⟩ := exists_eq_dropEndWhile_append p s
  cases hb : back.getLast? with
  | none => rw [List.getLast?_eq_none_iff.1 hb, List.append_nil] at hs; exact hs.symm
  | some c =>
    have hc : c ∈ s.getLast? := by rw [hs, List.getLast?_append, hb]; rfl
    have := hback c (List.mem_of_getLast? hb)
    rw [h c hc] at this
    cases this

/-- Text without blanks at its ends is trimmed. -/
theorem trim_eq_self {s : List Char} (front : ∀ c ∈ s.head?, isBlank c = false)
    (back : ∀ c ∈ s.getLast?, isBlank c = false) : trim s = s := by
  have start : s.dropWhile isBlank = s := by
    cases s with
    | nil => rfl
    | cons c s => exact List.dropWhile_cons_of_neg (by simp [front c rfl])
  rw [trim, start, dropEndWhile_eq_self back]

/-! ## Lines -/

/-- A text is not cut inside the parts that it is cut into. -/
theorem notMem_of_mem_splitOn {a : Char} {s l : List Char} (h : l ∈ s.splitOn a) : a ∉ l := by
  induction s generalizing l with
  | nil =>
    obtain rfl : l = [] := by simpa using h
    simp
  | cons c s ih =>
    rw [List.splitOn_cons_eq_if_modifyHead] at h
    split at h
    · rcases List.mem_cons.1 h with rfl | h
      · simp
      · exact ih h
    · rename_i hc
      obtain ⟨t, ts, hs⟩ := List.exists_cons_of_ne_nil (List.splitOn_ne_nil a s)
      rw [hs, List.modifyHead_cons] at h
      rcases List.mem_cons.1 h with rfl | h
      · have ht : a ∉ t := ih (by rw [hs]; exact List.mem_cons_self)
        simp only [List.mem_cons, not_or]
        exact ⟨fun e => hc (beq_iff_eq.2 e.symm), ht⟩
      · exact ih (by rw [hs]; exact List.mem_cons_of_mem _ h)

/-- No line has a line feed in it. -/
theorem notMem_of_mem_lines {s l : List Char} (h : l ∈ lines s) : '\n' ∉ l :=
  notMem_of_mem_splitOn h

end SenderPolicy.Text
