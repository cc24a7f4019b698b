import SenderPolicy.Address.Printer

/-!
# The address macro

In the value of an `exists` directive, `%{i}` stands for the address of the sender.

- `expandChars_append`: an occurrence splits the template into parts that are expanded on their own;
- `expand_eq_empty_iff`: only the empty template makes an empty name.
-/

namespace SenderPolicy.Macro

/-- The four characters that stand for the address. -/
def mark : List Char :=
  ['%', '\x7b', 'i', '\x7d']

/-- The template with `ip` in place of every occurrence of the macro, found from the left. -/
def expandChars (ip : List Char) : List Char → List Char
  | [] => []
  | '%' :: '\x7b' :: 'i' :: '\x7d' :: s => ip ++ expandChars ip s
  | c :: s => c :: expandChars ip s

/-- The template with the text of an address in place of the macro. -/
def expand (template : String) (ip : Address) : String :=
  String.ofList (expandChars ip.toChars template.toList)

/-! ## Laws -/

/-- A character that starts no occurrence stays. -/
theorem expandChars_cons {c : Char} (ip s : List Char) (h : ¬ mark <+: c :: s) :
    expandChars ip (c :: s) = c :: expandChars ip s := by
  rw [expandChars]
  intro t hc hs
  exact h ⟨t, by rw [hc, hs]; rfl⟩

/-- An occurrence splits the template into parts that are expanded on their own. -/
theorem expandChars_append (ip s t : List Char) :
    expandChars ip (s ++ mark ++ t) = expandChars ip s ++ ip ++ expandChars ip t := by
  fun_induction expandChars ip s with
  | case1 => rfl
  | case2 s ih =>
    rw [List.append_assoc, List.cons_append, List.cons_append, List.cons_append, List.cons_append, expandChars,
      ← List.append_assoc s, ih]
    simp
  | case3 c s h ih =>
    rw [List.append_assoc, List.cons_append, expandChars_cons, ← List.append_assoc, ih]
    · simp
    · rintro ⟨u, hu⟩
      obtain ⟨rfl, hu⟩ := List.cons.inj hu
      rcases s with _ | ⟨a, _ | ⟨b, _ | ⟨d, s⟩⟩⟩
      · simp [mark] at hu
      · simp [mark] at hu
      · simp [mark] at hu
      · simp only [mark, List.cons_append, List.cons.injEq, true_and] at hu
        exact h s rfl (by rw [← hu.1, ← hu.2.1, ← hu.2.2.1])

/-- Only the empty template makes an empty name. -/
theorem expand_eq_empty_iff {template : String} {ip : Address} : expand template ip = "" ↔ template = "" := by
  have hip := ip.toChars_ne_nil
  have chars : ∀ s : List Char, expandChars ip.toChars s = [] ↔ s = [] := by
    intro s
    fun_cases expandChars ip.toChars s <;> simp [hip]
  rw [← String.toList_eq_nil_iff, ← String.toList_eq_nil_iff, expand, String.toList_ofList, chars]

end SenderPolicy.Macro
