import SenderPolicy.Proofs.LabelText

/-!
# Normal form of domains

The normal form of a domain text is found in three steps, each taken once: blanks around the text are left out, then dots
at its end, and then the labels are put into ASCII. A later step can bring back what an earlier one has left out, so that
the result need not be a normal form of its own. No label has a dot in its ASCII form, so the result is cut where it was
joined.

- `labels?_intercalate`: the labels of ASCII texts with dots between them;
- `isBare_intercalate_iff`: when nothing is left out at the ends of such texts;
- `toAscii?_intercalate_iff`: the ASCII form of a domain is one of its own exactly if its labels are settled;
- `labels?_of_isAscii`: the labels of an ASCII text are its lower case;
- `normalize_isNormal_iff`: what comes of a domain text, and when it is a normal form of its own.
-/

namespace SenderPolicy.Domain

open Text

/-! ## Joined labels -/

/-- The labels of ASCII texts with dots between them. -/
theorem labels?_intercalate {ss : List (List Char)} (hne : ss ≠ []) (hs : ∀ s ∈ ss, isAscii s = true ∧ '.' ∉ s) :
    labels? (['.'].intercalate ss) =
      (ss.mapM Label.ofAscii?).bind fun ls => if keepDirections (ls.map Label.chars) then some ls else none := by
  have each : ss.mapM Label.ofChars? = (ss.mapM Label.ofAscii?).map (List.map fun l => [l]) := by
    clear hne
    induction ss with
    | nil => rfl
    | cons s ss ih =>
      rw [List.mapM_cons, List.mapM_cons, ih fun t ht => hs t (List.mem_cons_of_mem _ ht), Label.ofChars?,
        if_pos (hs s List.mem_cons_self).1]
      cases Label.ofAscii? s with
      | none => rfl
      | some l => cases ss.mapM Label.ofAscii? <;> rfl
  rw [labels?, List.splitOn_intercalate '.' (fun s h => (hs s h).2) hne, each]
  cases ss.mapM Label.ofAscii? with
  | none => rfl
  | some ls =>
    have flat : (ls.map fun l => [l]).flatten = ls := by
      rw [← List.flatMap_def]
      exact List.flatMap_singleton' ls
    simp only [Option.map_some, Option.bind_eq_bind, Option.bind_some, flat]

/-- A text is bare: nothing of it is left out at its ends. -/
structure IsBare (s : List Char) : Prop where
  nonempty : s ≠ []
  front : ∀ c ∈ s.head?, isBlank c = false
  back : ∀ c ∈ s.getLast?, isBlank c = false
  dot : s.getLast? ≠ some '.'

theorem IsBare.bare_eq {s : List Char} (h : IsBare s) : bare s = s := by
  rw [bare, trim_eq_self h.front h.back, dropEndWhile_eq_self]
  intro c hc
  exact decide_eq_false fun hd => h.dot (hd ▸ hc)

theorem head?_intercalate_iff {ss : List (List Char)} :
    (∀ c ∈ (['.'].intercalate ss).head?, isBlank c = false) ↔ ∀ s ∈ ss.head?, ∀ c ∈ s.head?, isBlank c = false := by
  match ss with
  | [] => simp
  | [s] => simp
  | s :: t :: ss =>
    rw [List.intercalate_cons_cons]
    cases s with
    | nil =>
      simp
      decide
    | cons c s => simp

/-- The last of texts with dots between them stands at the end, behind a dot or behind nothing. -/
theorem exists_intercalate_concat (ss : List (List Char)) (s : List Char) :
    ∃ before, ['.'].intercalate (ss ++ [s]) = before ++ s ∧ (before = [] ∨ before.getLast? = some '.') := by
  cases ss with
  | nil => exact ⟨[], by simp, .inl rfl⟩
  | cons t ss =>
    refine ⟨['.'].intercalate (t :: ss) ++ ['.'], ?_, .inr (by simp)⟩
    induction ss generalizing t with
    | nil => simp [List.intercalate_cons_cons]
    | cons u ss ih =>
      rw [List.cons_append, List.cons_append, List.intercalate_cons_cons, List.intercalate_cons_cons, ← List.cons_append,
        ih u]
      simp

/-- Texts with dots between them are bare exactly if the first does not start with a blank, and the last is not empty
and does not end in a blank. -/
theorem isBare_intercalate_iff {ss : List (List Char)} (hs : ∀ s ∈ ss, '.' ∉ s) :
    IsBare (['.'].intercalate ss) ↔ (∀ s ∈ ss.head?, ∀ c ∈ s.head?, isBlank c = false) ∧
      ∃ s ∈ ss.getLast?, ∃ c ∈ s.getLast?, isBlank c = false := by
  rcases List.eq_nil_or_concat ss with rfl | ⟨ss, s, rfl⟩
  · exact ⟨fun h => absurd rfl h.nonempty, by simp⟩
  rw [List.concat_eq_append] at hs ⊢
  obtain ⟨before, joined, stop⟩ := exists_intercalate_concat ss s
  have front := @head?_intercalate_iff (ss ++ [s])
  have last : (['.'].intercalate (ss ++ [s])).getLast? = s.getLast?.or before.getLast? := by
    rw [joined, List.getLast?_append]
  simp only [List.getLast?_append, List.getLast?_singleton, Option.some_or, Option.mem_def, Option.some.injEq,
    exists_eq_left']
  constructor
  · intro h
    refine ⟨front.1 h.front, ?_⟩
    cases hl : s.getLast? with
    | none =>
      -- the text would be empty or end in a dot
      rw [hl, Option.none_or] at last
      rcases stop with rfl | stop
      · exact absurd (List.getLast?_eq_none_iff.1 last) h.nonempty
      · exact absurd (last.trans stop) h.dot
    | some c => exact ⟨c, rfl, h.back c (by rw [last, hl]; rfl)⟩
  · rintro ⟨start, c, hc, blank⟩
    rw [hc, Option.some_or] at last
    refine ⟨fun h => ?_, front.2 start, fun d hd => ?_, fun h => ?_⟩
    · rw [h] at last
      cases last
    · rw [last] at hd
      cases hd
      exact blank
    · rw [last] at h
      cases h
      exact hs s (by simp) (List.mem_of_getLast? hc)

/-! ## Normal forms -/

/-- What comes of a domain text that has a normal form. -/
theorem normalize_eq_ok_iff {text d : String} :
    normalize text = .ok d ↔ bare text.toList ≠ [] ∧ toAscii? (bare text.toList) = some d.toList := by
  rw [normalize]
  cases hb : bare text.toList with
  | nil => simp
  | cons c s =>
    cases ht : toAscii? (c :: s) with
    | none => simp [ht]
    | some t => simp [ht, String.ext_iff]

/-- A text is a normal form: it is not empty, has no blanks at its ends and no dot at its end, and is what comes of
itself. -/
structure IsNormal (d : String) : Prop where
  nonempty : d ≠ ""
  front : ∀ c ∈ d.toList.head?, isBlank c = false
  back : ∀ c ∈ d.toList.getLast?, isBlank c = false
  dot : d.toList.getLast? ≠ some '.'
  same : normalize d = .ok d

theorem isNormal_iff_isBare {d : String} : IsNormal d ↔ IsBare d.toList ∧ toAscii? d.toList = some d.toList := by
  have empty : d ≠ "" ↔ d.toList ≠ [] := by simp
  constructor
  · rintro ⟨nonempty, front, back, dot, same⟩
    have isBare : IsBare d.toList := ⟨empty.1 nonempty, front, back, dot⟩
    have read := (normalize_eq_ok_iff.1 same).2
    rw [isBare.bare_eq] at read
    exact ⟨isBare, read⟩
  · rintro ⟨isBare, read⟩
    have same : normalize d = .ok d := normalize_eq_ok_iff.2 (by rw [isBare.bare_eq]; exact ⟨isBare.nonempty, read⟩)
    exact ⟨empty.2 isBare.nonempty, isBare.front, isBare.back, isBare.dot, same⟩

/-- Where the labels of a domain text come from. -/
theorem labels?_eq_some {s : List Char} {ls : List Label} (h : labels? s = some ls) :
    ls ≠ [] ∧ keepDirections (ls.map Label.chars) = true ∧ ∀ l ∈ ls, l.Arises := by
  simp only [labels?, Option.bind_eq_bind, Option.bind_eq_some_iff, Option.ite_none_right_eq_some,
    Option.some.injEq] at h
  obtain ⟨lss, h, directions, rfl⟩ := h
  have each := Option.mapM_eq_some_iff.1 h
  have part {ls : List Label} (hl : ls ∈ lss) : ∃ t, '.' ∉ t ∧ Label.ofChars? t = some ls := by
    obtain ⟨t, ht, ho⟩ := List.mem_map.1 (each ▸ List.mem_map_of_mem hl)
    exact ⟨t, notMem_of_mem_splitOn ht, ho⟩
  refine ⟨?_, directions, fun l hl => ?_⟩
  · cases lss with
    | nil =>
      rw [List.map_nil, List.map_eq_nil_iff] at each
      exact absurd each (List.splitOn_ne_nil _ _)
    | cons ls lss =>
      obtain ⟨t, -, ho⟩ := part List.mem_cons_self
      rw [List.flatten_cons]
      exact List.append_ne_nil_of_left_ne_nil (Label.ofChars?_ne_nil ho) _
  · obtain ⟨ls, hls, hl⟩ := List.mem_flatten.1 hl
    obtain ⟨t, dot, ho⟩ := part hls
    exact Label.arises_of_mem_ofChars? dot ho hl

/-- ASCII texts of which the whole is an ASCII form of its own are each one of their own. -/
theorem map_ascii_of_toAscii? {ss : List (List Char)} (hne : ss ≠ []) (hs : ∀ s ∈ ss, isAscii s = true ∧ '.' ∉ s)
    (h : toAscii? (['.'].intercalate ss) = some (['.'].intercalate ss)) {s : List Char} (mem : s ∈ ss) :
    (Label.ofAscii? s).map Label.ascii = some s := by
  rw [toAscii?, labels?_intercalate hne hs, Option.map_eq_some_iff] at h
  obtain ⟨ls, h, joined⟩ := h
  simp only [Option.bind_eq_some_iff, Option.ite_none_right_eq_some, Option.some.injEq] at h
  obtain ⟨ls, h, -, rfl⟩ := h
  have each := Option.mapM_eq_some_iff.1 h
  have dots : ∀ t ∈ ls.map Label.ascii, '.' ∉ t := by
    rw [List.forall_mem_map]
    intro l hl
    obtain ⟨t, ht, ho⟩ := List.mem_map.1 (each ▸ List.mem_map_of_mem hl)
    rw [Label.ascii_of_ofAscii? ho, dot_mem_map_toLower_iff (hs t ht).1]
    exact (hs t ht).2
  have ne : ls.map Label.ascii ≠ [] := by
    intro h
    rw [List.map_eq_nil_iff.1 h] at each
    exact hne (by simpa using each)
  -- there are no dots but those between the texts
  have same : ls.map Label.ascii = ss := by
    rw [← List.splitOn_intercalate '.' dots ne, joined, List.splitOn_intercalate '.' (fun t ht => (hs t ht).2) hne]
  have again : ss.map (fun t => (Label.ofAscii? t).map Label.ascii) = ss.map some :=
    calc ss.map (fun t => (Label.ofAscii? t).map Label.ascii)
      _ = (ss.map Label.ofAscii?).map (Option.map Label.ascii) := by
          rw [List.map_map]
          rfl
      _ = (ls.map Label.ascii).map some := by
          rw [each, List.map_map, List.map_map]
          rfl
      _ = ss.map some := by rw [same]
  exact List.map_inj_left.1 again s mem

/-- The labels of a domain are those of its ASCII form exactly if each of them is settled. -/
theorem toAscii?_intercalate_iff {ls : List Label} (hne : ls ≠ []) (directions : keepDirections (ls.map Label.chars) = true)
    (arises : ∀ l ∈ ls, l.Arises) :
    toAscii? (['.'].intercalate (ls.map Label.ascii)) = some (['.'].intercalate (ls.map Label.ascii)) ↔
      ∀ l ∈ ls, l.IsSettled := by
  have hne : ls.map Label.ascii ≠ [] := by simpa using hne
  have parts : ∀ s ∈ ls.map Label.ascii, isAscii s = true ∧ '.' ∉ s := by
    simpa using fun l hl => (arises l hl).ascii
  constructor
  · intro h l hl
    exact (arises l hl).isSettled_iff.2 (map_ascii_of_toAscii? hne parts h (List.mem_map_of_mem hl))
  · intro settled
    have each : (ls.map Label.ascii).mapM Label.ofAscii? = some ls := by
      rw [Option.mapM_eq_some_iff, List.map_map]
      exact List.map_congr_left fun l hl => (arises l hl).ofAscii?_ascii (settled l hl)
    rw [toAscii?, labels?_intercalate hne parts, each, Option.bind_some, if_pos directions]
    rfl

/-- Results that are normal forms: their labels are settled, the first does not start with a blank, and the last is not
empty and does not end in a blank. -/
theorem isNormal_iff {d : String} {ls : List Label} (hne : ls ≠ []) (directions : keepDirections (ls.map Label.chars) = true)
    (arises : ∀ l ∈ ls, l.Arises) (hd : d.toList = ['.'].intercalate (ls.map Label.ascii)) :
    IsNormal d ↔ IsBare d.toList ∧ ∀ l ∈ ls, l.IsSettled := by
  rw [isNormal_iff_isBare, hd, toAscii?_intercalate_iff hne directions arises]

/-- What is left of a domain text does not start with a blank or end in a dot. -/
theorem bare_ends (s : List Char) : (∀ c ∈ (bare s).head?, isBlank c = false) ∧ (bare s).getLast? ≠ some '.' := by
  constructor
  · intro c hc
    obtain ⟨-, -, -, -, -, front⟩ := exists_eq_append_trim s
    obtain ⟨back, ht, -⟩ := exists_eq_dropEndWhile_append (· = '.') (trim s)
    refine front c ?_
    rw [ht, List.head?_append]
    exact Option.or_eq_some_iff.2 (.inl hc)
  · intro h
    have := not_of_mem_getLast?_dropEndWhile h
    simp at this

/-- Lower case of what stands between dots is that of the whole. -/
theorem map_toLower_intercalate (ss : List (List Char)) :
    ['.'].intercalate (ss.map fun s => s.map Char.toLower) = (['.'].intercalate ss).map Char.toLower := by
  induction ss with
  | nil => rfl
  | cons s ss ih =>
    cases ss with
    | nil => simp
    | cons t ss =>
      rw [List.map_cons, List.map_cons, List.intercalate_cons_cons, List.intercalate_cons_cons, ← List.map_cons, ih]
      simp

/-- What stands between dots is part of the whole. -/
theorem mem_intercalate_of_mem {ss : List (List Char)} {s : List Char} {c : Char} (hs : s ∈ ss) (hc : c ∈ s) :
    c ∈ ['.'].intercalate ss := by
  induction ss with
  | nil => cases hs
  | cons t ss ih =>
    cases ss with
    | nil => simpa [List.mem_singleton.1 hs] using hc
    | cons u ss =>
      rw [List.intercalate_cons_cons]
      rcases List.mem_cons.1 hs with rfl | hs
      · simp [hc]
      · exact List.mem_append_right _ (ih hs)

/-- The labels of an ASCII text are settled, and their ASCII form is the lower case of the text. -/
theorem labels?_of_isAscii {s : List Char} {ls : List Label} (hs : isAscii s = true) (h : labels? s = some ls) :
    ['.'].intercalate (ls.map Label.ascii) = s.map Char.toLower ∧ ∀ l ∈ ls, l.IsSettled := by
  have joined : ['.'].intercalate (s.splitOn '.') = s := List.intercalate_splitOn '.'
  have parts : ∀ t ∈ s.splitOn '.', isAscii t = true ∧ '.' ∉ t := fun t ht =>
    ⟨isAscii_iff.2 fun c hc => isAscii_iff.1 hs c (joined ▸ mem_intercalate_of_mem ht hc), notMem_of_mem_splitOn ht⟩
  rw [← joined, labels?_intercalate (List.splitOn_ne_nil '.' s) parts] at h
  simp only [Option.bind_eq_some_iff, Option.ite_none_right_eq_some, Option.some.injEq] at h
  obtain ⟨ls, h, -, rfl⟩ := h
  have each := Option.mapM_eq_some_iff.1 h
  have lower : ls.map Label.ascii = (s.splitOn '.').map fun t => t.map Char.toLower :=
    Option.map_eq_of_mapM_eq_some h fun t _ l ho => Label.ascii_of_ofAscii? ho
  refine ⟨by rw [lower, map_toLower_intercalate, joined], fun l hl => ?_⟩
  obtain ⟨t, ht, ho⟩ := List.mem_map.1 (each ▸ List.mem_map_of_mem hl)
  exact (Label.isSettled_of_ofAscii? (parts t ht).1 ho).1

/-- Lower case is bare where the text is. -/
theorem isBare_map_toLower_iff {s : List Char} (hs : isAscii s = true) :
    IsBare (s.map Char.toLower) ↔ IsBare s := by
  have ends {o : Option Char} (ho : ∀ c ∈ o, c ∈ s) :
      (∀ c ∈ o.map Char.toLower, isBlank c = false) ↔ ∀ c ∈ o, isBlank c = false := by
    cases o with
    | none => simp
    | some c => simp [isBlank_toLower (isAscii_iff.1 hs c (ho c rfl))]
  have front := ends fun c hc => List.mem_of_mem_head? hc
  have back := ends fun c hc => List.mem_of_getLast? hc
  have dot : (s.getLast?.map Char.toLower = some '.') ↔ s.getLast? = some '.' := by
    cases hl : s.getLast? with
    | none => simp
    | some c => simpa using toLower_eq_dot_iff (isAscii_iff.1 hs c (List.mem_of_getLast? hl))
  rw [← List.head?_map] at front
  rw [← List.getLast?_map] at back dot
  exact ⟨fun h => ⟨by simpa using h.nonempty, front.1 h.front, back.1 h.back, fun hd => h.dot (dot.2 hd)⟩,
    fun h => ⟨by simpa using h.nonempty, front.2 h.front, back.2 h.back, fun hd => h.dot (dot.1 hd)⟩⟩

/-- **What comes of a domain text is its labels in ASCII**, and that is a normal form of its own exactly if no step has
brought back what an earlier one leaves out: the first label does not start with a blank, the last one is not empty and does
not end in a blank, and each is settled. What comes of an ASCII text is its lower case, without the blanks around it and then
the dots at its end; that is a normal form of its own exactly if no blank stood in front of these dots. -/
theorem normalize_isNormal_iff {text d : String} (h : normalize text = .ok d) :
    (∃ ls, labels? (bare text.toList) = some ls ∧ d.toList = ['.'].intercalate (ls.map Label.ascii) ∧
      (IsNormal d ↔ (∀ l ∈ ls.head?, ∀ c ∈ l.ascii.head?, isBlank c = false) ∧
        (∃ l ∈ ls.getLast?, ∃ c ∈ l.ascii.getLast?, isBlank c = false) ∧ ∀ l ∈ ls, l.IsSettled)) ∧
    (isAscii (bare text.toList) = true → d.toList = (bare text.toList).map Char.toLower ∧
      (IsNormal d ↔ ∀ c ∈ (bare text.toList).getLast?, isBlank c = false)) := by
  obtain ⟨nonempty, read⟩ := normalize_eq_ok_iff.1 h
  obtain ⟨ls, hl, joined⟩ := Option.map_eq_some_iff.1 read
  obtain ⟨hne, directions, arises⟩ := labels?_eq_some hl
  have normal := isNormal_iff hne directions arises joined.symm
  have dots : ∀ s ∈ ls.map Label.ascii, '.' ∉ s := by
    simpa using fun l hl => (arises l hl).ascii.2
  constructor
  · refine ⟨ls, hl, joined.symm, ?_⟩
    rw [normal, ← joined, isBare_intercalate_iff dots, and_assoc, List.head?_map, List.getLast?_map]
    cases ls.head? <;> cases ls.getLast? <;> simp
  · intro hs
    obtain ⟨lower, settled⟩ := labels?_of_isAscii hs hl
    rw [joined] at lower
    refine ⟨lower, ?_⟩
    rw [normal, lower, isBare_map_toLower_iff hs]
    obtain ⟨front, dot⟩ := bare_ends text.toList
    exact ⟨fun h => h.1.back, fun back => ⟨⟨nonempty, front, back, dot⟩, settled⟩⟩

theorem normalize_isNormal_iff_upperCase :
    normalize " Example.COM. " = .ok "example.com" ∧ IsNormal "example.com" := by
  have h : normalize " Example.COM. " = .ok "example.com" := rfl
  refine ⟨h, ((normalize_isNormal_iff h).2 rfl).2.2 fun c hc => ?_⟩
  cases hc
  rfl

/-- A blank in front of the last dots stays, and would be left out the next time. -/
theorem not_forall_isNormal : ¬ ∀ text d : String, normalize text = .ok d → IsNormal d := by
  intro h
  have normal : IsNormal "a " := h "a ." "a " rfl
  exact absurd (normal.back ' ' rfl) (by decide)

end SenderPolicy.Domain
