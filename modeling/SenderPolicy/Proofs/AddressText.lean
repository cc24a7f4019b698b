import SenderPolicy.Address.Printer
import SenderPolicy.Address.Reader

/-!
# The text of an address is read back

Every address is read back from its own text: an IPv4 address from its octets, a mapped address from the octets of the
IPv4 address, and any other IPv6 address from its groups, with or without a run of zeros left out.

- `mem_toChars`: the characters of an address;
- `v4?_v4Chars`: octets are read back;
- `exists_eq_append_gap`: the longest run of zeros is one;
- `splitGap?_groupChars_append`: the first `::` behind groups is the one that was written;
- `v6?_v6Chars`: groups are read back;
- `ofChars?_toChars`: addresses of both families.
-/

namespace SenderPolicy.Address

open Text

/-! ## Characters -/

/-- A decimal digit is a hexadecimal digit. -/
theorem isHexDigit_of_mem_digits10 {n : Nat} {c : Char} (h : c ∈ Nat.toDigits 10 n) : isHexDigit c = true := by
  have hd : c.isDigit = true := Nat.isDigit_of_mem_toDigits (by decide) (by decide) h
  rw [isHexDigit, hd, Bool.true_or]

/-- What stands between digits is no digit. -/
theorem notMem_of_isHexDigit {s : List Char} (h : ∀ c ∈ s, isHexDigit c = true) {c : Char} (hc : isHexDigit c = false) :
    c ∉ s := by
  intro hm
  rw [h c hm] at hc
  cases hc

/-- The characters of joined parts are those of the parts and the separator. -/
theorem mem_intercalate {sep c : Char} {ps : List (List Char)} (h : c ∈ [sep].intercalate ps) :
    c = sep ∨ ∃ p ∈ ps, c ∈ p := by
  induction ps with
  | nil => cases h
  | cons p ps ih =>
    cases ps with
    | nil =>
      rw [List.intercalate_singleton] at h
      exact .inr ⟨p, List.mem_cons_self, h⟩
    | cons q ps =>
      rw [List.intercalate_cons_cons, List.append_assoc, List.mem_append, List.mem_append, List.mem_singleton] at h
      rcases h with h | h | h
      · exact .inr ⟨p, List.mem_cons_self, h⟩
      · exact .inl h
      · exact (ih h).imp_right fun ⟨q, hq, hc⟩ => ⟨q, List.mem_cons_of_mem _ hq, hc⟩

theorem mem_v4Chars {a : BitVec 32} {c : Char} (h : c ∈ v4Chars a) : c = '.' ∨ isHexDigit c = true := by
  rcases mem_intercalate h with h | ⟨p, hp, hc⟩
  · exact .inl h
  · obtain ⟨n, -, rfl⟩ := List.mem_map.1 hp
    exact .inr (isHexDigit_of_mem_digits10 hc)

theorem mem_groupChars {gs : List Nat} {c : Char} (h : c ∈ groupChars gs) : c = ':' ∨ isHexDigit c = true := by
  rcases mem_intercalate h with h | ⟨p, hp, hc⟩
  · exact .inl h
  · obtain ⟨n, -, rfl⟩ := List.mem_map.1 hp
    exact .inr (mem_digits16 hc)

/-- The characters of an IPv6 address that is not mapped. -/
theorem mem_v6Chars_of_unmapped {a : BitVec 128} (ha : unmapped? a = none) {c : Char} (h : c ∈ v6Chars a) :
    c = ':' ∨ isHexDigit c = true := by
  simp only [v6Chars, ha] at h
  split at h
  · exact mem_groupChars h
  · simp only [List.mem_append] at h
    rcases h with (h | h) | h
    · exact mem_groupChars h
    · left
      simpa using h
    · exact mem_groupChars h

/-- The characters of an address. -/
theorem mem_toChars {a : Address} {c : Char} (h : c ∈ a.toChars) : c = '.' ∨ c = ':' ∨ isHexDigit c = true := by
  cases a with
  | v4 a => exact (mem_v4Chars h).imp_right .inr
  | v6 a =>
    rw [toChars] at h
    cases ha : unmapped? a with
    | none => exact .inr (mem_v6Chars_of_unmapped ha h)
    | some b =>
      simp only [v6Chars, ha, List.mem_append] at h
      rcases h with h | h
      · right
        have hm : "::ffff:".toList.all (fun d => d = ':' || isHexDigit d) = true := rfl
        simpa using List.all_eq_true.1 hm c h
      · exact (mem_v4Chars h).imp_right .inr

/-! ## Octets -/

/-- Parts that are read one by one are read together. -/
theorem mapM_map_eq_some {α β : Type} {f : α → Option β} {g : β → α} {ps : List β} (h : ∀ p ∈ ps, f (g p) = some p) :
    (ps.map g).mapM f = some ps := by
  induction ps with
  | nil => rfl
  | cons p ps ih =>
    have hps := ih fun q hq => h q (List.mem_cons_of_mem _ hq)
    simp [h p List.mem_cons_self, hps]

/-- An IPv4 address is read back from its octets. -/
theorem v4?_v4Chars (a : BitVec 32) : v4? (v4Chars a) = some a := by
  have hl : (octets a).length = 4 := length_parts ..
  have cut : (v4Chars a).splitOn '.' = (octets a).map (Nat.toDigits 10) := by
    apply List.splitOn_intercalate
    · intro p hp
      obtain ⟨n, -, rfl⟩ := List.mem_map.1 hp
      exact notMem_of_isHexDigit (fun c => isHexDigit_of_mem_digits10) (by decide)
    · intro h
      rw [List.map_eq_nil_iff] at h
      rw [h] at hl
      cases hl
  have read : ((octets a).map (Nat.toDigits 10)).mapM octet? = some (octets a) :=
    mapM_map_eq_some fun n hn => octet?_toDigits (lt_of_mem_parts (by decide) hn)
  rw [v4?, cut, read]
  simp [hl, ofOctets_octets]

/-- A text without dots is no IPv4 address. -/
theorem v4?_eq_none_of_notMem {s : List Char} (h : '.' ∉ s) : v4? s = none := by
  rw [v4?, List.splitOn_eq_singleton h]
  cases hs : octet? s <;> simp [hs]

/-! ## Runs of zeros -/

/-- The zeros at the front, and the rest. -/
theorem exists_eq_zeros_append (gs : List Nat) : ∃ back, gs = List.replicate (zeros gs) 0 ++ back := by
  have run : gs.takeWhile (· = 0) = List.replicate (zeros gs) 0 := by
    rw [List.eq_replicate_iff]
    refine ⟨rfl, fun b hb => ?_⟩
    simpa using List.all_eq_true.1 List.all_takeWhile b hb
  exact ⟨gs.dropWhile (· = 0), by rw [← run, List.takeWhile_append_dropWhile]⟩

/-- The longest run of zeros is one, and stands where it is said to start. -/
theorem exists_eq_append_gap (gs : List Nat) :
    ∃ front back, gs = front ++ (List.replicate (longestGap gs).2 0 ++ back) ∧ front.length = (longestGap gs).1 := by
  induction gs with
  | nil => exact ⟨[], [], rfl, rfl⟩
  | cons g gs ih =>
    rw [longestGap]
    split
    · obtain ⟨back, hback⟩ := exists_eq_zeros_append (g :: gs)
      exact ⟨[], back, hback, rfl⟩
    · obtain ⟨front, back, hgs, hf⟩ := ih
      refine ⟨g :: front, back, ?_, by rw [List.length_cons, hf]⟩
      rw [List.cons_append, ← hgs]

/-! ## Groups -/

/-- Joined groups fall into the groups again. -/
theorem fields_groupChars (gs : List Nat) : fields (groupChars gs) = gs.map (Nat.toDigits 16) := by
  cases gs with
  | nil => rfl
  | cons g gs =>
    have hne : groupChars (g :: gs) ≠ [] := by
      cases gs with
      | nil =>
        rw [groupChars, List.map_cons, List.map_nil, List.intercalate_singleton]
        exact Nat.toDigits_ne_nil
      | cons k gs => exact intercalate_ne_nil (by simp) (by simp)
    obtain ⟨c, s, hs⟩ := List.exists_cons_of_ne_nil hne
    have cut : (groupChars (g :: gs)).splitOn ':' = (g :: gs).map (Nat.toDigits 16) := by
      apply List.splitOn_intercalate
      · intro p hp
        obtain ⟨n, -, rfl⟩ := List.mem_map.1 hp
        exact notMem_of_isHexDigit (fun c => mem_digits16) (by decide)
      · simp
    rw [← cut, hs, fields]
    exact List.cons_ne_nil c s

/-- Written groups are read back. -/
theorem groupsOfFields?_map {gs : List Nat} (h : ∀ g ∈ gs, g < 0x10000) :
    groupsOfFields? (gs.map (Nat.toDigits 16)) = some gs := by
  induction gs with
  | nil => rfl
  | cons g gs ih =>
    have hg := group?_toDigits (h g List.mem_cons_self)
    have hgs := ih fun k hk => h k (List.mem_cons_of_mem _ hk)
    cases gs with
    | nil => simp [groupsOfFields?, hg]
    | cons k gs =>
      rw [List.map_cons] at hgs ⊢
      simp [groupsOfFields?, hg, hgs]

/-! ## Where a run is left out -/

/-- What is no colon stays in front of the first `::`. -/
theorem splitGap?_append {w : List Char} (hw : ':' ∉ w) (s : List Char) :
    splitGap? (w ++ s) = (splitGap? s).map fun (front, back) => (w ++ front, back) := by
  induction w with
  | nil => simp
  | cons c w ih =>
    have hc : c ≠ ':' := by
      rintro rfl
      exact hw List.mem_cons_self
    have step : splitGap? (c :: (w ++ s)) = (splitGap? (w ++ s)).map fun (front, back) => (c :: front, back) := by
      rw [splitGap?]
      simp [hc]
    rw [List.cons_append, step, ih fun hm => hw (List.mem_cons_of_mem _ hm), Option.map_map]
    rfl

/-- A single colon stays in front of the first `::`. -/
theorem splitGap?_colon {c : Char} (hc : c ≠ ':') (s : List Char) :
    splitGap? (':' :: c :: s) = (splitGap? (c :: s)).map fun (front, back) => (':' :: front, back) := by
  rw [splitGap?]
  simp [hc]

/-- Groups stay in front of the first `::`. -/
theorem splitGap?_groupChars_append (gs : List Nat) (s : List Char) :
    splitGap? (groupChars gs ++ s) = (splitGap? s).map fun (front, back) => (groupChars gs ++ front, back) := by
  have digits (g : Nat) : ':' ∉ Nat.toDigits 16 g := notMem_of_isHexDigit (fun c => mem_digits16) (by decide)
  induction gs with
  | nil => exact splitGap?_append (by simp [groupChars]) s
  | cons g gs ih =>
    cases gs with
    | nil =>
      rw [groupChars, List.map_cons, List.map_nil, List.intercalate_singleton]
      exact splitGap?_append (digits g) s
    | cons k gs =>
      have join : groupChars (g :: k :: gs) = Nat.toDigits 16 g ++ ':' :: groupChars (k :: gs) := by
        simp [groupChars, List.intercalate_cons_cons]
      -- the next group has a first digit, so the colon in front of it is a single one
      obtain ⟨c, t, ht, hc⟩ : ∃ c t, groupChars (k :: gs) = c :: t ∧ c ≠ ':' := by
        obtain ⟨c, t, ht⟩ := List.exists_cons_of_ne_nil (Nat.toDigits_ne_nil (b := 16) (n := k))
        have hc : c ≠ ':' := by
          rintro rfl
          exact digits k (by rw [ht]; exact List.mem_cons_self)
        cases gs with
        | nil => exact ⟨c, t, by simp [groupChars, ht], hc⟩
        | cons l gs =>
          exact ⟨c, t ++ ':' :: groupChars (l :: gs), by simp [groupChars, ht, List.intercalate_cons_cons], hc⟩
      rw [join, List.append_assoc, splitGap?_append (digits g), List.cons_append, ht, List.cons_append,
        splitGap?_colon hc, ← List.cons_append, ← ht, ih, Option.map_map, Option.map_map]
      cases splitGap? s <;> simp

/-! ## IPv6 addresses -/

/-- The IPv4 address in a mapped address. -/
theorem eq_mapped_of_unmapped? {a : BitVec 128} {b : BitVec 32} (h : unmapped? a = some b) : a = mapped b := by
  unfold unmapped? at h
  split at h
  · rename_i ha
    obtain rfl := Option.some.inj h
    apply BitVec.eq_of_toNat_eq
    rw [toNat_mapped, BitVec.toNat_ofNat]
    omega
  · cases h

/-- The groups of a mapped address. -/
theorem groups_mapped (b : BitVec 32) : groups (mapped b) = [0, 0, 0, 0, 0, 0xFFFF] ++ parts 0x10000 2 b.toNat := by
  have hb := b.isLt
  simp only [groups, toNat_mapped, parts, List.nil_append, List.cons_append, List.cons.injEq, and_true]
  omega

/-- A text with anything but digits in it is no group. -/
theorem group?_eq_none_of_mem {s : List Char} {c : Char} (hc : digitValue c = none) (h : c ∈ s) : group? s = none := by
  rw [group?, readNat?_eq_none_of_mem hc h]
  split <;> rfl

/-- The octets of the IPv4 address in a mapped address are read as its last two groups. -/
theorem groupsOfFields?_mapped (b : BitVec 32) :
    groupsOfFields? ["ffff".toList, v4Chars b] = some (0xFFFF :: parts 0x10000 2 b.toNat) := by
  have dot : '.' ∈ v4Chars b := by
    apply Decidable.byContradiction
    intro h
    have hv := v4?_v4Chars b
    rw [v4?_eq_none_of_notMem h] at hv
    cases hv
  have last : group? (v4Chars b) = none := group?_eq_none_of_mem (by decide) dot
  have first : group? "ffff".toList = some 0xFFFF := by decide
  rw [groupsOfFields?, first]
  · simp [groupsOfFields?, last, v4?_v4Chars]
  · simp

/-- A mapped address is read back from the octets of the IPv4 address. -/
theorem v6?_mapped (b : BitVec 32) : v6? ("::ffff:".toList ++ v4Chars b) = some (mapped b) := by
  have gap : splitGap? ("::ffff:".toList ++ v4Chars b) = some ([], "ffff:".toList ++ v4Chars b) := by
    show splitGap? (':' :: ':' :: ("ffff:".toList ++ v4Chars b)) = _
    rw [splitGap?]
  have cut : fields ("ffff:".toList ++ v4Chars b) = ["ffff".toList, v4Chars b] := by
    have colon : ':' ∉ v4Chars b := by
      intro h
      rcases mem_v4Chars h with h | h <;> revert h <;> decide
    show ("ffff".toList ++ ':' :: v4Chars b).splitOn ':' = _
    rw [List.splitOn_append_cons_self, List.splitOn_eq_singleton colon]
    rfl
  have hl : (parts 0x10000 2 b.toNat).length = 2 := length_parts ..
  have whole : ofGroups ([0, 0, 0, 0, 0, 0xFFFF] ++ parts 0x10000 2 b.toNat) = mapped b := by
    rw [← groups_mapped, ofGroups_groups]
  rw [v6?, gap]
  simp only [cut, groupsOfFields?_mapped]
  simpa [fields, hl] using whole

/-- Groups with a run of zeros left out are read back. -/
theorem v6?_gap {front back : List Nat} {n : Nat} (hn : 2 ≤ n) (hl : front.length + n + back.length = 8)
    (hf : ∀ g ∈ front, g < 0x10000) (hb : ∀ g ∈ back, g < 0x10000) :
    v6? (groupChars front ++ "::".toList ++ groupChars back) =
      some (ofGroups (front ++ (List.replicate n 0 ++ back))) := by
  have gap : splitGap? (groupChars front ++ "::".toList ++ groupChars back) =
      some (groupChars front, groupChars back) := by
    have hs : splitGap? ("::".toList ++ groupChars back) = some ([], groupChars back) := by
      show splitGap? (':' :: ':' :: groupChars back) = _
      rw [splitGap?]
    rw [List.append_assoc, splitGap?_groupChars_append, hs]
    simp
  have read : (front.map (Nat.toDigits 16)).mapM group? = some front :=
    mapM_map_eq_some fun g hg => group?_toDigits (hf g hg)
  have run : 8 - front.length - back.length = n := by omega
  rw [v6?, gap]
  simp only [fields_groupChars, read, groupsOfFields?_map hb]
  simp only [Option.bind_eq_bind, Option.bind_some]
  rw [if_pos (by omega), run, List.append_assoc]

/-- An IPv6 address is read back from its groups, with or without a run of zeros left out. -/
theorem v6?_v6Chars (a : BitVec 128) : v6? (v6Chars a) = some a := by
  cases ha : unmapped? a with
  | some b =>
    obtain rfl := eq_mapped_of_unmapped? ha
    rw [v6Chars, ha]
    exact v6?_mapped b
  | none =>
    have hl : (groups a).length = 8 := length_parts ..
    have bound : ∀ g ∈ groups a, g < 0x10000 := fun g hg => lt_of_mem_parts (by decide) hg
    rw [v6Chars, ha]
    simp only
    split
    · have whole : splitGap? (groupChars (groups a)) = none := by
        rw [← List.append_nil (groupChars (groups a)), splitGap?_groupChars_append]
        rfl
      rw [v6?, whole]
      simp only [fields_groupChars, groupsOfFields?_map bound]
      simp [hl, ofGroups_groups]
    · rename_i run
      obtain ⟨front, back, hgs, hfront⟩ := exists_eq_append_gap (groups a)
      generalize longestGap (groups a) = gap at run hgs hfront
      have htake : (groups a).take gap.1 = front := by rw [hgs, ← hfront, List.take_left]
      have hdrop : (groups a).drop (gap.1 + gap.2) = back := by
        rw [hgs, ← hfront, ← List.append_assoc]
        exact List.drop_left' (by rw [List.length_append, List.length_replicate])
      rw [hgs, List.length_append, List.length_append, List.length_replicate] at hl
      rw [htake, hdrop, v6?_gap (n := gap.2) (by omega) (by omega), ← hgs, ofGroups_groups]
      · intro g hg
        exact bound g (by rw [hgs]; simp [hg])
      · intro g hg
        exact bound g (by rw [hgs]; simp [hg])

/-- No IPv6 address has the text of an IPv4 address. -/
theorem v4?_v6Chars (a : BitVec 128) : v4? (v6Chars a) = none := by
  cases ha : unmapped? a with
  | some b =>
    rw [v6Chars, ha]
    exact v4?_cons_eq_none (c := ':') (by decide) (by decide) _
  | none =>
    apply v4?_eq_none_of_notMem
    intro h
    rcases mem_v6Chars_of_unmapped ha h with h | h <;> revert h <;> decide

/-- A text without colons is no IPv6 address. -/
theorem v6?_eq_none_of_notMem {s : List Char} (h : ':' ∉ s) : v6? s = none := by
  have gap : splitGap? s = none := by
    rw [← List.append_nil s, splitGap?_append h]
    rfl
  rw [v6?, gap]
  cases s with
  | nil => rfl
  | cons c s =>
    have one : fields (c :: s) = [c :: s] := List.splitOn_eq_singleton h
    simp only [one, groupsOfFields?]
    cases group? (c :: s) with
    | some g => simp
    | none => cases v4? (c :: s) <;> simp [length_parts]

/-- An IPv4 address is written without colons, an IPv6 address with some. -/
theorem colon_mem_toChars_iff {a : Address} : ':' ∈ a.toChars ↔ ∃ b, a = v6 b := by
  cases a with
  | v4 a =>
    have colon : ':' ∉ v4Chars a := by
      intro h
      rcases mem_v4Chars h with h | h <;> revert h <;> decide
    simpa [toChars] using colon
  | v6 a =>
    have colon : ':' ∈ v6Chars a := by
      apply Decidable.byContradiction
      intro h
      have hv := v6?_v6Chars a
      rw [v6?_eq_none_of_notMem h] at hv
      cases hv
    simpa [toChars] using colon

/-- Every address is read back from its own text. -/
theorem ofChars?_toChars (a : Address) : ofChars? a.toChars = some a := by
  cases a with
  | v4 a =>
    have read : v4? (v4 a).toChars = some a := v4?_v4Chars a
    rw [ofChars?, read]
  | v6 a =>
    have other : v4? (v6 a).toChars = none := v4?_v6Chars a
    have read : v6? (v6 a).toChars = some a := v6?_v6Chars a
    rw [ofChars?, other, read]
    rfl

end SenderPolicy.Address
