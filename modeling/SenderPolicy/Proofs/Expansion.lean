import SenderPolicy.Macro
import SenderPolicy.Proofs.AddressText

/-!
# Expanded templates

A template falls into pieces at the occurrences of the address macro, each found as the first one in what is left, and its
expansion is these pieces with the text of the address between them. No character of an address stands in the macro, so no
new occurrence comes about, and what is expanded once stays as it is.

- `Cut`: the pieces of a template;
- `exists_cut`, `Cut.unique`: every template has pieces, and no others;
- `expandChars_of_cut`: the expansion joins them with the address;
- `not_infix_expandChars`: an expansion has no occurrence of the macro;
- `expand_pieces`: all of this for the text of a template and of an address.
-/

namespace SenderPolicy.Macro

/-- The pieces of a template between the occurrences of the macro: one that has none is a piece by itself, and
otherwise the first occurrence ends the first piece and the others are those of what follows. -/
inductive Cut : List Char → List (List Char) → Prop
  | whole {s : List Char} (unmarked : ¬ mark <:+: s) : Cut s [s]
  | marked {front rest : List Char} {ps : List (List Char)}
      (first : ∀ k < front.length, ¬ mark <+: (front ++ (mark ++ rest)).drop k) (behind : Cut rest ps) :
      Cut (front ++ (mark ++ rest)) (front :: ps)

/-! ## Pieces -/

/-- What stands in front of the first occurrence has none. -/
theorem not_infix_of_first {front rest : List Char}
    (first : ∀ k < front.length, ¬ mark <+: (front ++ (mark ++ rest)).drop k) : ¬ mark <:+: front := by
  rintro ⟨a, b, rfl⟩
  have inside : a.length < (a ++ mark ++ b).length := by simp [mark]
  apply first a.length inside
  rw [List.append_assoc, List.append_assoc, List.drop_left]
  exact List.prefix_append mark _

/-- A character that starts no occurrence belongs to the first piece. -/
theorem Cut.cons {c : Char} {s p : List Char} {ps : List (List Char)} (h : Cut s (p :: ps)) (hc : ¬ mark <+: c :: s) :
    Cut (c :: s) ((c :: p) :: ps) := by
  cases h with
  | whole unmarked =>
    refine .whole fun h => ?_
    rcases List.infix_cons_iff.1 h with h | h
    · exact hc h
    · exact unmarked h
  | @marked _ rest _ first behind =>
    have first' : ∀ k < (c :: p).length, ¬ mark <+: (c :: p ++ (mark ++ rest)).drop k := by
      intro k hk
      cases k with
      | zero => exact hc
      | succ k => exact first k (by simpa using hk)
    exact .marked first' behind

/-- Every template has pieces. -/
theorem exists_cut (s : List Char) : ∃ p ps, Cut s (p :: ps) := by
  induction hn : s.length using Nat.strongRecOn generalizing s with
  | _ n ih =>
    by_cases hm : mark <+: s
    · obtain ⟨rest, rfl⟩ := hm
      obtain ⟨p, ps, behind⟩ := ih rest.length (by simp [← hn, mark]; omega) rest rfl
      have first : ∀ k < ([] : List Char).length, ¬ mark <+: ([] ++ (mark ++ rest)).drop k := by simp
      exact ⟨[], p :: ps, .marked first behind⟩
    · cases s with
      | nil => exact ⟨[], [], .whole (by simp [mark])⟩
      | cons c s =>
        obtain ⟨p, ps, h⟩ := ih s.length (by simp [← hn]) s rfl
        exact ⟨c :: p, ps, h.cons hm⟩

/-- A template has no other pieces: two first occurrences are the same one. -/
theorem Cut.unique {s : List Char} {ps : List (List Char)} (h : Cut s ps) :
    ∀ {qs : List (List Char)}, Cut s qs → qs = ps := by
  induction h with
  | whole unmarked =>
    intro qs h
    cases h with
    | whole _ => rfl
    | @marked front rest _ _ _ => exact absurd ⟨front, rest, List.append_assoc ..⟩ unmarked
  | @marked front rest ps first _ ih =>
    intro qs h
    generalize hs : front ++ (mark ++ rest) = s at h first
    cases h with
    | whole unmarked => exact absurd ⟨front, rest, by rw [List.append_assoc, hs]⟩ unmarked
    | @marked front' rest' qs first' behind' =>
      -- an occurrence in front of the other one would be an earlier one
      have le : ¬ front'.length < front.length := fun hl => first _ hl (by rw [List.drop_left]; exact ⟨rest', rfl⟩)
      have ge : ¬ front.length < front'.length := fun hl =>
        first' _ hl (by rw [← hs, List.drop_left]; exact ⟨rest, rfl⟩)
      obtain ⟨rfl, hr⟩ := List.append_inj hs (by omega)
      obtain rfl := List.append_cancel_left hr
      rw [ih behind']

/-! ## Expansion -/

/-- A template without an occurrence is its own expansion. -/
theorem expandChars_of_unmarked {ip s : List Char} (h : ¬ mark <:+: s) : expandChars ip s = s := by
  induction s with
  | nil => rfl
  | cons c s ih =>
    rw [List.infix_cons_iff, not_or] at h
    rw [expandChars_cons ip s h.1, ih h.2]

/-- The expansion joins the pieces of the template with the address. -/
theorem expandChars_of_cut {ip s : List Char} {ps : List (List Char)} (h : Cut s ps) :
    expandChars ip s = ip.intercalate ps := by
  induction h with
  | whole unmarked => rw [expandChars_of_unmarked unmarked, List.intercalate_singleton]
  | @marked front rest ps first behind ih =>
    have joined : ip.intercalate (front :: ps) = front ++ ip ++ ip.intercalate ps := by
      cases behind <;> exact List.intercalate_cons_cons
    rw [← List.append_assoc, expandChars_append, expandChars_of_unmarked (not_infix_of_first first), ih, joined]

section

variable {ip : List Char}

/-- What an expansion starts with, if no character of it is one of the address, the template starts with. -/
theorem prefix_of_prefix_expandChars (hip : ip ≠ []) {w s : List Char} (hw : ∀ c ∈ w, c ∉ ip)
    (h : w <+: expandChars ip s) : w <+: s := by
  induction w generalizing s with
  | nil => exact List.nil_prefix
  | cons c w ih =>
    fun_cases expandChars ip s with
    | case1 => exact h
    | case2 s =>
      obtain ⟨d, ip', rfl⟩ := List.exists_cons_of_ne_nil hip
      rw [expandChars, List.cons_append, List.cons_prefix_cons] at h
      exact absurd (h.1 ▸ List.mem_cons_self) (hw c List.mem_cons_self)
    | case3 d s hd =>
      have unmarked : ¬ mark <+: d :: s := by
        rintro ⟨t, ht⟩
        exact hd t (List.cons.inj ht).1.symm (List.cons.inj ht).2.symm
      rw [expandChars_cons ip s unmarked, List.cons_prefix_cons] at h
      exact List.cons_prefix_cons.2 ⟨h.1, ih (fun e he => hw e (List.mem_cons_of_mem _ he)) h.2⟩

/-- An occurrence behind characters that are none of its own does not start among them. -/
theorem infix_of_infix_append {s : List Char} (hip : ∀ c ∈ ip, c ∉ mark) (h : mark <:+: ip ++ s) : mark <:+: s := by
  induction ip with
  | nil => exact h
  | cons c ip ih =>
    rcases List.infix_cons_iff.1 h with h | h
    · have hc : c ∈ mark := by
        rw [← (List.cons_prefix_cons.1 h).1]
        exact List.mem_cons_self
      exact absurd hc (hip c List.mem_cons_self)
    · exact ih (fun d hd => hip d (List.mem_cons_of_mem _ hd)) h

/-- An expansion has no occurrence of the macro, if the address has no character of it. -/
theorem not_infix_expandChars (hne : ip ≠ []) (hip : ∀ c ∈ ip, c ∉ mark) (s : List Char) :
    ¬ mark <:+: expandChars ip s := by
  fun_induction expandChars ip s with
  | case1 => simp [mark]
  | case2 s ih => exact fun h => ih (infix_of_infix_append hip h)
  | case3 c s hc ih =>
    intro h
    rcases List.infix_cons_iff.1 h with h | h
    · -- the rest of the occurrence would stand in the template already
      obtain ⟨rfl, rest⟩ := List.cons_prefix_cons.1 h
      obtain ⟨t, ht⟩ := prefix_of_prefix_expandChars hne (fun d hd hm => hip d hm (List.mem_cons_of_mem _ hd)) rest
      exact hc t rfl ht.symm
    · exact ih h

end

/-! ## Texts -/

/-- No character of an address stands in the macro. -/
theorem notMem_mark_of_mem_toChars {ip : Address} {c : Char} (h : c ∈ ip.toChars) : c ∉ mark := by
  have digits : ∀ d ∈ mark, Address.isHexDigit d = false := by simp [mark, Address.isHexDigit]
  rcases Address.mem_toChars h with rfl | rfl | hc
  · decide
  · decide
  · intro hm
    rw [digits c hm] at hc
    cases hc

/-- **Expansion is complete and stable.** The expansion of a template is its pieces between the occurrences of the macro,
found one after the other from the left, with the text of the address between them. It has no occurrence of the macro, so
that expanding it again with any address changes nothing, and an occurrence splits a template into parts that are expanded
on their own. -/
theorem expand_pieces (template : String) (ip : Address) :
    (∃ ps, Cut template.toList ps ∧ (∀ qs, Cut template.toList qs → qs = ps) ∧
      (expand template ip).toList = ip.toChars.intercalate ps) ∧
    ¬ mark <:+: (expand template ip).toList ∧
    (∀ ip', expand (expand template ip) ip' = expand template ip) ∧
    ∀ s t, expand (s ++ String.ofList mark ++ t) ip = expand s ip ++ ip.text ++ expand t ip := by
  have chars (s : String) : (expand s ip).toList = expandChars ip.toChars s.toList := by
    rw [expand, String.toList_ofList]
  have unmarked : ¬ mark <:+: (expand template ip).toList := by
    rw [chars]
    exact not_infix_expandChars ip.toChars_ne_nil (fun c => notMem_mark_of_mem_toChars) _
  refine ⟨?_, unmarked, fun ip' => ?_, fun s t => ?_⟩
  · obtain ⟨p, ps, cut⟩ := exists_cut template.toList
    exact ⟨p :: ps, cut, fun qs h => cut.unique h, by rw [chars, expandChars_of_cut cut]⟩
  · rw [expand, expandChars_of_unmarked unmarked, String.ofList_toList]
  · apply String.toList_injective
    rw [chars, String.toList_append, String.toList_append, String.toList_ofList, expandChars_append, String.toList_append,
      String.toList_append, chars, chars, Address.text, String.toList_ofList]

end SenderPolicy.Macro
