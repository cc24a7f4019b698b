import Mathlib.Algebra.Group.Nat.Defs
import SenderPolicy.Domain.Punycode

/-!
# Reading Punycode back

The Punycode of a label is read back as the label, if the label has no letters in upper case among its ASCII characters
and is not so long that its numbers leave their bound. Writer and reader stay in step through each pass over the label:
the next number says the way from the place of the reader to that of the writer.

- `foldlM_digits`: a number is read back from its digits;
- `Follows`: a reader has followed a writer up to a place in a pass over the label;
- `decode?_encode`: the label is read back.
-/

namespace SenderPolicy.Domain.Punycode

/-! ## Digits -/

theorem threshold_le (k bias : Nat) : threshold k bias ≤ 26 := by
  unfold threshold
  omega

theorem digitValue?_digitChar {d : Nat} (h : d < base) : digitValue? (digitChar d) = some d := by
  have all : ∀ d < 36, digitValue? (digitChar d) = some d := by decide
  exact all d h

theorem digitChar_ne_hyphen {d : Nat} (h : d < base) : digitChar d ≠ '-' := by
  have all : ∀ d < 36, digitChar d ≠ '-' := by decide
  exact all d h

/-- The digits of a number are digits. -/
theorem exists_of_mem_digits {bias k q : Nat} {c : Char} (h : c ∈ digits bias k q) :
    ∃ d < base, c = digitChar d := by
  fun_induction digits bias k q with
  | case1 k q t ht =>
    have := threshold_le k bias
    exact ⟨q, by rw [base]; omega, List.mem_singleton.1 h⟩
  | case2 k q t ht ih =>
    rcases List.mem_cons.1 h with h | h
    · have hpos := threshold_pos k bias
      have hle := threshold_le k bias
      have hmod := Nat.mod_lt (q - t) (y := base - t) (by rw [base]; omega)
      exact ⟨_, by rw [base] at hmod ⊢; omega, h⟩
    · exact ih h

/-- The greatest weight of a digit, if all digits before it are closed at one. -/
def maxWeight : Nat :=
  35 ^ 6

/-- What is left of a number is small enough to be read: so is the weight of the next digit, which is a power of the
greatest factor as long as digits are closed at one. -/
structure Fits (bias k q weight : Nat) : Prop where
  rest : q * weight < maxWeight
  power : k < bias + 26 → ∃ j, weight = 35 ^ j

/-- The next digit of a number that is small enough has a weight below the bound. -/
theorem Fits.weight_lt {bias k q weight : Nat} (h : Fits bias k q weight) (hq : threshold k bias ≤ q) :
    weight * (base - threshold k bias) < bound := by
  have hpos := threshold_pos k bias
  have hw : threshold k bias * weight ≤ q * weight := Nat.mul_le_mul_right weight hq
  have hr : q * weight < 1838265625 := h.rest
  show weight * (36 - threshold k bias) < 4294967296
  by_cases hk : k < bias + 26
  · obtain ⟨j, rfl⟩ := h.power hk
    -- a power of 35 below the sixth is at most the fifth
    have hj : 35 ^ j < 35 ^ 6 := by
      have := Nat.mul_le_mul_right (35 ^ j) hpos
      omega
    have hj : j ≤ 5 := by
      have := (Nat.pow_lt_pow_iff_right (by omega)).1 hj
      omega
    have hpow : 35 ^ j ≤ 52521875 := Nat.pow_le_pow_right (n := 35) (by omega) hj
    calc 35 ^ j * (36 - threshold k bias) ≤ 52521875 * 35 := Nat.mul_le_mul hpow (by omega)
      _ < 4294967296 := by omega
  · have ht : threshold k bias = 26 := by
      unfold threshold
      omega
    rw [ht] at hw ⊢
    omega

/-- What is left of a number that is small enough is so behind the next digit. -/
theorem Fits.next {bias k q weight : Nat} (h : Fits bias k q weight) :
    Fits bias (k + base) ((q - threshold k bias) / (base - threshold k bias))
      (weight * (base - threshold k bias)) where
  rest := by
    calc (q - threshold k bias) / (base - threshold k bias) * (weight * (base - threshold k bias))
      _ = (q - threshold k bias) / (base - threshold k bias) * (base - threshold k bias) * weight := by
          rw [Nat.mul_assoc, Nat.mul_comm weight]
      _ ≤ q * weight := Nat.mul_le_mul_right _ (Nat.le_trans (Nat.div_mul_le_self _ _) (Nat.sub_le _ _))
      _ < maxWeight := h.rest
  power hk := by
    rw [base] at hk ⊢
    obtain ⟨j, rfl⟩ := h.power (by omega)
    have ht : threshold k bias = 1 := by
      unfold threshold
      omega
    exact ⟨j + 1, by rw [ht, Nat.pow_succ]⟩

/-- A digit below the threshold ends a number. -/
theorem Reader.step?_last {r : Reader} {d : Nat} (hd : d < threshold r.position r.bias)
    (small : r.place + d * r.weight < bound) :
    r.step? (digitChar d) = Reader.insert? { r with place := r.place + d * r.weight } := by
  have hle := threshold_le r.position r.bias
  rw [Reader.step?, digitValue?_digitChar (by rw [base]; omega)]
  simp only [Option.bind_eq_bind, Option.bind_some, if_neg (Nat.not_le.2 small), if_pos hd]

/-- Any other digit is followed by one of greater weight. -/
theorem Reader.step?_more {r : Reader} {d : Nat} (hd : threshold r.position r.bias ≤ d) (hb : d < base)
    (small : r.place + d * r.weight < bound) (hw : r.weight * (base - threshold r.position r.bias) < bound) :
    r.step? (digitChar d) = some { r with
      place := r.place + d * r.weight
      weight := r.weight * (base - threshold r.position r.bias)
      position := r.position + base } := by
  rw [Reader.step?, digitValue?_digitChar hb]
  simp only [Option.bind_eq_bind, Option.bind_some, if_neg (Nat.not_le.2 small), if_neg (Nat.not_lt.2 hd),
    if_neg (Nat.not_le.2 hw)]

/-- A number is read back from its digits. -/
theorem foldlM_digits (q : Nat) (r : Reader) (fits : Fits r.bias r.position q r.weight)
    (small : r.place + q * r.weight < bound) :
    (digits r.bias r.position q).foldlM Reader.step? r =
      Reader.insert? { r with place := r.place + q * r.weight } := by
  induction q using Nat.strongRecOn generalizing r with
  | ind q ih =>
    have hpos := threshold_pos r.position r.bias
    have hle := threshold_le r.position r.bias
    have next := fits.next
    have weight := fits.weight_lt
    rw [digits]
    generalize ht : threshold r.position r.bias = t at *
    by_cases hq : q < t
    · rw [if_pos hq, List.foldlM_cons, Reader.step?_last (ht ▸ hq) small]
      exact bind_pure _
    · have hq : t ≤ q := Nat.not_lt.1 hq
      have value : t + (q - t) % (base - t) + (q - t) / (base - t) * (base - t) = q := by
        have := Nat.mod_add_div' (q - t) (base - t)
        omega
      have below : t + (q - t) % (base - t) < base := by
        have := Nat.mod_lt (q - t) (y := base - t) (by rw [base]; omega)
        omega
      have smaller : (q - t) / (base - t) < q :=
        Nat.lt_of_le_of_lt (Nat.div_le_self _ _) (by omega)
      -- what the digit counts and what is left are the number
      have total : (t + (q - t) % (base - t)) * r.weight + (q - t) / (base - t) * (r.weight * (base - t)) =
          q * r.weight := by
        rw [Nat.mul_comm r.weight, ← Nat.mul_assoc, ← Nat.add_mul, value]
      rw [if_neg (Nat.not_lt.2 hq), List.foldlM_cons,
        Reader.step?_more (by rw [ht]; omega) below (by omega) (by rw [ht]; exact weight hq), ht]
      have rest := ih _ smaller { r with
        place := r.place + (t + (q - t) % (base - t)) * r.weight
        weight := r.weight * (base - t)
        position := r.position + base } next (by rw [Nat.add_assoc, total]; exact small)
      rw [Nat.add_assoc, total] at rest
      exact rest

/-! ## Characters -/

theorem char?_toNat (c : Char) : char? c.toNat = some c :=
  dif_pos c.valid

/-- A number that leads to a place among the characters of a code lets a character in there. -/
theorem Reader.insert?_of_place {r : Reader} {c : Char} {place : Nat} (code : r.code ≤ c.toNat)
    (leads : r.code * (r.label.length + 1) + r.place = c.toNat * (r.label.length + 1) + place)
    (within : place ≤ r.label.length) :
    r.insert? = some {
      label := r.label.take place ++ c :: r.label.drop place
      code := c.toNat
      bias := adapt (r.place - r.start) (r.label.length + 1) (r.start = 0)
      place := place + 1
      start := place + 1
      weight := 1
      position := base } := by
  have way : r.place = (c.toNat - r.code) * (r.label.length + 1) + place := by
    have := Nat.mul_le_mul_right (r.label.length + 1) code
    rw [Nat.sub_mul]
    omega
  have rounds : r.place / (r.label.length + 1) = c.toNat - r.code := by
    rw [way, Nat.mul_comm, Nat.mul_add_div (Nat.succ_pos _), Nat.div_eq_of_lt (by omega), Nat.add_zero]
  have last : r.place % (r.label.length + 1) = place := by
    rw [way, Nat.mul_comm, Nat.mul_add_mod, Nat.mod_eq_of_lt (by omega)]
  rw [Reader.insert?]
  simp only [rounds, last, Nat.add_sub_cancel' code, char?_toNat, Option.bind_eq_bind, Option.bind_some]
  rfl

/-! ## A pass over the label -/

/-- A reader before the first number. -/
def Reader.opening (basic : List Char) : Reader :=
  ⟨basic, initialCode, initialBias, 0, 0, 1, base⟩

/-- A reader has followed a writer that is between two characters of a label, in its pass for a code: it has read what is
written, and the next number leads from its own place to that of the writer. -/
structure Follows (basic : List Char) (code : Nat) (front back : List Char) (w : Writer) (r : Reader) : Prop where
  read : w.output.foldlM Reader.step? (.opening basic) = some r
  written : ∀ c ∈ w.output, ∃ d < base, c = digitChar d
  label : r.label = front.filter (·.toNat ≤ code) ++ back.filter (·.toNat < code)
  placed : w.placed = r.label.length
  bias : r.bias = w.bias
  place : r.place = r.start
  weight : r.weight = 1
  position : r.position = base
  first : r.start = 0 ↔ w.placed = basic.length
  more : basic.length ≤ w.placed
  reached : r.code ≤ code
  way : r.code * (w.placed + 1) + r.start + w.delta =
    code * (w.placed + 1) + (front.filter (·.toNat ≤ code)).length

namespace Follows

variable {basic front back : List Char} {code : Nat} {w : Writer} {r : Reader}

/-- A character that is in place already is passed. -/
theorem pass {c : Char} (h : Follows basic code front (c :: back) w r) (hc : c.toNat < code) :
    Follows basic code (front ++ [c]) back { w with delta := w.delta + 1 } r :=
  { h with
    label := by
      rw [h.label, List.filter_cons_of_pos (by simpa using hc), List.filter_append,
        List.filter_cons_of_pos (by simpa using Nat.le_of_lt hc)]
      simp
    way := by
      have way := h.way
      rw [List.filter_append, List.filter_cons_of_pos (by simpa using Nat.le_of_lt hc)]
      simp only [List.length_append, List.filter_nil, List.length_singleton]
      omega }

/-- A character of a greater code is passed over. -/
theorem skip {c : Char} (h : Follows basic code front (c :: back) w r) (hc : code < c.toNat) :
    Follows basic code (front ++ [c]) back w r :=
  have none : (front ++ [c]).filter (·.toNat ≤ code) = front.filter (·.toNat ≤ code) := by
    rw [List.filter_append, List.filter_cons_of_neg (by simpa using hc), List.filter_nil, List.append_nil]
  { h with
    label := by rw [h.label, List.filter_cons_of_neg (by simpa using Nat.le_of_lt hc), none]
    way := by rw [none]; exact h.way }

/-- What is in place is part of the label. -/
theorem placed_le (h : Follows basic code front back w r) : w.placed ≤ front.length + back.length := by
  rw [h.placed, h.label, List.length_append]
  exact Nat.add_le_add (List.length_filter_le _ _) (List.length_filter_le _ _)

/-- The number to be read is small enough. -/
theorem delta_le (h : Follows basic code front back w r) (length : front.length + back.length ≤ 1000)
    (valid : code < 0x110000) : r.start + w.delta ≤ 1115226111 := by
  have placed := h.placed_le
  have way := h.way
  have front := List.length_filter_le (fun c : Char => decide (c.toNat ≤ code)) front
  have code : code * (w.placed + 1) ≤ 1114111 * 1001 := Nat.mul_le_mul (by omega) (by omega)
  omega

/-- The next number is read, and its character goes to the place of the writer. -/
theorem foldlM_number {c : Char} (h : Follows basic c.toNat front (c :: back) w r)
    (length : front.length + (c :: back).length ≤ 1000) :
    (digits w.bias base w.delta).foldlM Reader.step? r = some {
      label := front.filter (·.toNat ≤ c.toNat) ++ c :: back.filter (·.toNat < c.toNat)
      code := c.toNat
      bias := adapt w.delta (w.placed + 1) (w.placed = basic.length)
      place := (front.filter (·.toNat ≤ c.toNat)).length + 1
      start := (front.filter (·.toNat ≤ c.toNat)).length + 1
      weight := 1
      position := base } := by
  have valid : c.toNat < 0x110000 := by
    have := c.valid
    simp only [UInt32.isValidChar, Nat.isValidChar] at this
    show c.val.toNat < _
    omega
  have delta := h.delta_le length valid
  have place : r.place + w.delta * r.weight = r.start + w.delta := by rw [h.place, h.weight, Nat.mul_one]
  have fits : Fits r.bias r.position w.delta r.weight :=
    ⟨by rw [h.weight, maxWeight]; omega, fun _ => ⟨0, h.weight⟩⟩
  have number := foldlM_digits w.delta r fits (by rw [place]; show _ < 4294967296; omega)
  have label : r.label = front.filter (·.toNat ≤ c.toNat) ++ back.filter (·.toNat < c.toNat) := by
    rw [h.label, List.filter_cons_of_neg (by simp)]
  have leads := h.way
  rw [h.placed, Nat.add_assoc] at leads
  have within : (front.filter (·.toNat ≤ c.toNat)).length ≤ r.label.length := by
    rw [label, List.length_append]
    omega
  have inserted := Reader.insert?_of_place (r := { r with place := r.start + w.delta }) h.reached leads within
  rw [h.bias, h.position, place] at number
  rw [h.bias, h.position] at inserted
  have placed := h.placed
  rw [label] at placed
  rw [number, inserted]
  simp only [Nat.add_sub_cancel_left, placed, decide_eq_decide.2 h.first, label, List.take_left, List.drop_left]

/-- A character of the code is written and read. -/
theorem insert {c : Char} (h : Follows basic c.toNat front (c :: back) w r)
    (length : front.length + (c :: back).length ≤ 1000) :
    ∃ r', Follows basic c.toNat (front ++ [c]) back
      { bias := adapt w.delta (w.placed + 1) (w.placed = basic.length)
        delta := 0
        placed := w.placed + 1
        output := w.output ++ digits w.bias base w.delta } r' := by
  have number := h.foldlM_number length
  have inFront : (front ++ [c]).filter (·.toNat ≤ c.toNat) = front.filter (·.toNat ≤ c.toNat) ++ [c] := by
    rw [List.filter_append, List.filter_cons_of_pos (by simp), List.filter_nil]
  have more := h.more
  have read : (w.output ++ digits w.bias base w.delta).foldlM Reader.step? (.opening basic) =
      (digits w.bias base w.delta).foldlM Reader.step? r := by
    rw [List.foldlM_append, h.read]
    rfl
  refine ⟨_, read.trans number, ?_, ?_, ?_, rfl, rfl, rfl, rfl, ?_, ?_, Nat.le_refl _, ?_⟩
  · intro d hd
    rcases List.mem_append.1 hd with hd | hd
    · exact h.written d hd
    · exact exists_of_mem_digits hd
  · rw [inFront]
    simp
  · have placed := h.placed
    rw [h.label, List.filter_cons_of_neg (by simp)] at placed
    simp only [placed, List.length_append, List.length_cons]
    omega
  · simp only [Nat.add_eq_zero_iff, Nat.one_ne_zero, and_false, false_iff]
    omega
  · show _ ≤ w.placed + 1
    omega
  · rw [inFront]
    simp

/-- A pass visits one character. -/
theorem visit {c : Char} (h : Follows basic code front (c :: back) w r)
    (length : front.length + (c :: back).length ≤ 1000) :
    ∃ r', Follows basic code (front ++ [c]) back (w.visit basic.length code c) r' := by
  rw [Writer.visit]
  split
  · exact ⟨r, h.pass ‹_›⟩
  · split
    · subst code
      exact h.insert length
    · exact ⟨r, h.skip (by omega)⟩

/-- A pass over the label is followed. -/
theorem foldl_visit (h : Follows basic code front back w r) (length : front.length + back.length ≤ 1000) :
    ∃ r', Follows basic code (front ++ back) [] (back.foldl (Writer.visit basic.length code) w) r' := by
  induction back generalizing front w r with
  | nil => exact ⟨r, by rwa [List.append_nil]⟩
  | cons c back ih =>
    obtain ⟨r', h'⟩ := h.visit length
    obtain ⟨r'', h''⟩ := ih h' (by simp only [List.length_append, List.length_cons, List.length_nil] at length ⊢; omega)
    exact ⟨r'', by rwa [List.append_assoc] at h''⟩

/-- A writer goes on to a code, if the label has no characters of the codes that are left out. -/
theorem advance {label : List Char} {start : Nat} (h : Follows basic start [] label w r) (hc : start ≤ code)
    (none : ∀ c ∈ label, start ≤ c.toNat → code ≤ c.toNat) :
    Follows basic code [] label { w with delta := w.delta + (code - start) * (w.placed + 1) } r :=
  { h with
    label := by
      rw [h.label]
      refine List.filter_congr fun c hl => decide_eq_decide.2 ⟨fun hs => by omega, fun hs => ?_⟩
      exact Nat.not_le.1 fun hn => Nat.not_le.2 hs (none c hl hn)
    reached := Nat.le_trans h.reached hc
    way := by
      have way := h.way
      have := Nat.mul_le_mul_right (w.placed + 1) hc
      simp only [List.filter_nil, List.length_nil] at way ⊢
      rw [Nat.sub_mul]
      omega }

/-- At the end of a pass the writer goes on to the next code. -/
theorem endPass {label : List Char} (h : Follows basic code label [] w r) :
    Follows basic (code + 1) [] label { w with delta := w.delta + 1 } r :=
  have placed : w.placed = (label.filter (·.toNat ≤ code)).length := by
    rw [h.placed, h.label, List.filter_nil, List.append_nil]
  { h with
    label := by
      rw [h.label, List.filter_nil, List.append_nil, List.filter_nil, List.nil_append]
      exact List.filter_congr fun c _ => decide_eq_decide.2 Nat.lt_succ_iff.symm
    reached := Nat.le_succ_of_le h.reached
    way := by
      have way := h.way
      rw [← placed] at way
      show r.code * (w.placed + 1) + r.start + (w.delta + 1) = (code + 1) * (w.placed + 1) + 0
      rw [Nat.add_mul]
      omega }

/-- The passes for all codes of a label are followed, and the label is read. -/
theorem writeCodes {label : List Char} {start : Nat} {codes : List Nat} (h : Follows basic start [] label w r)
    (length : label.length ≤ 1000) (sorted : codes.Pairwise (· < ·)) (above : ∀ m ∈ codes, start ≤ m)
    (all : ∀ c ∈ label, start ≤ c.toNat → c.toNat ∈ codes) :
    (∀ c ∈ Punycode.writeCodes label basic.length start codes w, ∃ d < base, c = digitChar d) ∧
      ∃ r', (Punycode.writeCodes label basic.length start codes w).foldlM Reader.step? (.opening basic) = some r' ∧
        r'.label = label ∧ r'.position = base := by
  induction codes generalizing start w r with
  | nil =>
    have all : ∀ c ∈ label, c.toNat < start := fun c hc => Nat.not_le.1 fun hs => by simpa using all c hc hs
    refine ⟨h.written, r, h.read, ?_, h.position⟩
    rw [h.label, List.filter_nil, List.nil_append, List.filter_eq_self]
    simpa using all
  | cons code codes ih =>
    obtain ⟨first, sorted⟩ := List.pairwise_cons.1 sorted
    have between : ∀ c ∈ label, start ≤ c.toNat → code ≤ c.toNat := by
      intro c hc hs
      rcases List.mem_cons.1 (all c hc hs) with he | hm
      · exact Nat.le_of_eq he.symm
      · exact Nat.le_of_lt (first _ hm)
    have ready := h.advance (above code List.mem_cons_self) between
    obtain ⟨r', passed⟩ := ready.foldl_visit (by simpa using length)
    refine ih passed.endPass sorted (fun m hm => first m hm) fun c hc hs => ?_
    rcases List.mem_cons.1 (all c hc (by have := above code List.mem_cons_self; omega)) with he | hm
    · omega
    · exact hm

end Follows

/-! ## Labels -/

/-- Numbers in ascending order, each once. -/
theorem pairwise_eraseDups {l : List Nat} (h : l.Pairwise (· ≤ ·)) : l.eraseDups.Pairwise (· < ·) := by
  induction hn : l.length using Nat.strongRecOn generalizing l with
  | ind n ih =>
    cases l with
    | nil => simp
    | cons a l =>
      obtain ⟨first, sorted⟩ := List.pairwise_cons.1 h
      rw [List.eraseDups_cons, List.pairwise_cons]
      constructor
      · intro b hb
        obtain ⟨hl, hne⟩ := List.mem_filter.1 (List.mem_eraseDups.1 hb)
        have := first b hl
        simp only [Bool.not_eq_true', beq_eq_false_iff_ne] at hne
        omega
      · have := List.length_filter_le (fun b => !b == a) l
        exact ih _ (by rw [← hn, List.length_cons]; omega) (sorted.filter _) rfl

/-- The codes of a label in ascending order, each once. -/
theorem pairwise_codes (label : List Char) : (codes label).Pairwise (· < ·) := by
  have trans (a b c : Nat) (hab : decide (a ≤ b) = true) (hbc : decide (b ≤ c) = true) : decide (a ≤ c) = true :=
    decide_eq_true (Nat.le_trans (of_decide_eq_true hab) (of_decide_eq_true hbc))
  have total (a b : Nat) : (decide (a ≤ b) || decide (b ≤ a)) = true := by simpa using Nat.le_total a b
  have sorted := List.pairwise_mergeSort trans total ((label.map Char.toNat).filter (initialCode ≤ ·))
  exact pairwise_eraseDups (sorted.imp of_decide_eq_true)

theorem mem_codes_iff {label : List Char} {m : Nat} :
    m ∈ codes label ↔ initialCode ≤ m ∧ ∃ c ∈ label, c.toNat = m := by
  rw [codes, List.mem_eraseDups, List.mem_mergeSort, List.mem_filter, List.mem_map, decide_eq_true_eq, and_comm]

/-- What is written behind the ASCII characters of a label are digits, and behind those characters they are read as the
label. -/
theorem exists_encode_eq {label : List Char} (length : label.length ≤ 1000) :
    ∃ number, encode label = label.filter (·.toNat < initialCode) ++
        (if label.filter (·.toNat < initialCode) = [] then [] else ['-']) ++ number ∧
      (∀ c ∈ number, ∃ d < base, c = digitChar d) ∧
      read? (label.filter (·.toNat < initialCode)) number = some label := by
  have opening : Follows (label.filter (·.toNat < initialCode)) initialCode [] label
      ⟨initialBias, 0, (label.filter (·.toNat < initialCode)).length, []⟩
      (.opening (label.filter (·.toNat < initialCode))) := by
    constructor <;> simp [Reader.opening]
  obtain ⟨written, r, read, hl, hp⟩ := opening.writeCodes length (pairwise_codes label)
    (fun m hm => (mem_codes_iff.1 hm).1) fun c hc hs => mem_codes_iff.2 ⟨hs, c, hc, rfl⟩
  refine ⟨_, rfl, written, ?_⟩
  rw [Reader.opening] at read
  rw [read?, read]
  simp [hl, hp]

/-- The ASCII characters of a label stand in its Punycode. -/
theorem mem_encode_of_mem {label : List Char} {c : Char} (hc : c ∈ label) (code : c.toNat < initialCode) :
    c ∈ encode label := by
  rw [encode]
  simp [hc, code]

/-- Punycode has the ASCII characters of the label, a hyphen and digits. -/
theorem mem_encode {label : List Char} (length : label.length ≤ 1000) {c : Char} (h : c ∈ encode label) :
    c ∈ label ∧ c.toNat < initialCode ∨ c = '-' ∨ ∃ d < base, c = digitChar d := by
  obtain ⟨number, written, digits, -⟩ := exists_encode_eq length
  rw [written, List.mem_append, List.mem_append] at h
  rcases h with (h | h) | h
  · exact .inl (by simpa using h)
  · split at h
    · simp at h
    · exact .inr (.inl (List.mem_singleton.1 h))
  · exact .inr (.inr (digits c h))

/-- The Punycode of a label that is not ASCII ends in a digit. -/
theorem getLast?_encode {label : List Char} (length : label.length ≤ 1000) {c : Char} (hc : c ∈ label)
    (code : initialCode ≤ c.toNat) : ∃ d < base, (encode label).getLast? = some (digitChar d) := by
  obtain ⟨number, written, digits, read⟩ := exists_encode_eq length
  cases hn : number.getLast? with
  | none =>
    -- without a number the label is ASCII
    have ascii : label.filter (·.toNat < initialCode) = label := by
      rw [List.getLast?_eq_none_iff.1 hn] at read
      exact Option.some.inj read
    rw [← ascii, List.mem_filter, decide_eq_true_eq] at hc
    omega
  | some d =>
    obtain ⟨n, hd, rfl⟩ := digits d (List.mem_of_getLast? hn)
    exact ⟨n, hd, by rw [written, List.getLast?_append, hn]; rfl⟩

/-- Without a hyphen there are no ASCII characters. -/
theorem decode?_of_digits {number : List Char} (h : ∀ c ∈ number, c ≠ '-') : decode? number = read? [] number := by
  have digits : (number.reverse.takeWhile (· ≠ '-')).reverse = number := by
    rw [← List.append_nil number.reverse, List.takeWhile_append_of_pos (by simpa using h)]
    simp
  rw [decode?, digits, Nat.sub_self, Nat.zero_sub, List.take_zero]
  exact if_pos rfl

/-- The last hyphen closes the ASCII characters. -/
theorem decode?_of_hyphen {basic number : List Char} (hb : basic ≠ []) (h : ∀ c ∈ number, c ≠ '-') :
    decode? (basic ++ ['-'] ++ number) = read? (basic.map Char.toLower) number := by
  have digits : ((basic ++ ['-'] ++ number).reverse.takeWhile (· ≠ '-')).reverse = number := by
    rw [List.reverse_append, List.takeWhile_append_of_pos (by simpa using h), List.reverse_append]
    simp
  have before : (basic ++ ['-'] ++ number).length - number.length - 1 = basic.length := by
    simp only [List.length_append, List.length_singleton]
    omega
  rw [decode?, digits, before, List.append_assoc, List.take_left]
  exact if_neg hb

/-- A label is read back from its Punycode, if its ASCII characters are in lower case and it is not too long. -/
theorem decode?_encode {label : List Char} (length : label.length ≤ 1000)
    (lower : ∀ c ∈ label, c.toNat < initialCode → c.toLower = c) : decode? (encode label) = some label := by
  obtain ⟨number, written, digits, read⟩ := exists_encode_eq length
  have digits : ∀ c ∈ number, c ≠ '-' := fun c hc => by
    obtain ⟨d, hd, rfl⟩ := digits c hc
    exact digitChar_ne_hyphen hd
  by_cases hb : label.filter (·.toNat < initialCode) = []
  · rw [hb] at written read
    rw [written]
    exact (decode?_of_digits digits).trans read
  · have same : (label.filter (·.toNat < initialCode)).map Char.toLower = label.filter (·.toNat < initialCode) := by
      refine (List.map_congr_left fun c hc => ?_).trans (List.map_id' _)
      obtain ⟨hc, hs⟩ := List.mem_filter.1 hc
      exact lower c hc (of_decide_eq_true hs)
    rw [written, if_neg hb, decode?_of_hyphen hb digits, same, read]

end SenderPolicy.Domain.Punycode
