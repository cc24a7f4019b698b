import SenderPolicy.Text.Utf8

/-!
# Errors

What can go wrong between a domain and its verdict, the wording of each, and which of them come from the data of a
network or of the name service.

- `bind_eq_ok_iff`, `bind_eq_error_iff`: what comes of one result after another, and the same for `map` and `mapError`;
- `mapM_eq_ok_iff`, `exists_of_mapM_eq_error`, `Option.mapM_eq_some_iff`: what comes of a list.
-/

namespace SenderPolicy

/-! ## Results -/

namespace Except

variable {ε δ α β : Type} {x : Except ε α} {b : β} {e : ε}

theorem map_eq_ok_iff {f : α → β} : x.map f = .ok b ↔ ∃ a, x = .ok a ∧ f a = b := by
  cases x <;> simp [Except.map]

theorem map_eq_error_iff {f : α → β} : x.map f = .error e ↔ x = .error e := by
  cases x <;> simp [Except.map]

theorem mapError_eq_ok_iff {f : ε → δ} {a : α} : x.mapError f = .ok a ↔ x = .ok a := by
  cases x <;> constructor <;> intro h <;> cases h <;> rfl

theorem mapError_eq_error_iff {f : ε → δ} {d : δ} : x.mapError f = .error d ↔ ∃ e, x = .error e ∧ f e = d := by
  cases x with
  | ok a =>
    constructor
    · intro h
      cases h
    · rintro ⟨_, h, -⟩
      cases h
  | error e =>
    constructor
    · intro h
      exact ⟨e, rfl, Except.error.inj h⟩
    · rintro ⟨_, h, rfl⟩
      cases h
      rfl

theorem bind_eq_ok_iff {f : α → Except ε β} : x >>= f = .ok b ↔ ∃ a, x = .ok a ∧ f a = .ok b := by
  cases x <;> simp [bind, Except.bind]

theorem bind_eq_error_iff {f : α → Except ε β} :
    x >>= f = .error e ↔ x = .error e ∨ ∃ a, x = .ok a ∧ f a = .error e := by
  cases x <;> simp [bind, Except.bind]

/-- Results come of a list exactly if one comes of each of its elements. -/
theorem mapM_eq_ok_iff {f : α → Except ε β} {as : List α} {bs : List β} :
    as.mapM f = .ok bs ↔ as.map f = bs.map .ok := by
  induction as generalizing bs with
  | nil => cases bs <;> simp [pure, Except.pure]
  | cons a as ih =>
    rw [List.mapM_cons, bind_eq_ok_iff]
    cases bs with
    | nil => simp [bind_eq_ok_iff, pure, Except.pure]
    | cons b bs => simp [bind_eq_ok_iff, pure, Except.pure, ih]

/-- A list comes to nothing only because of one of its elements. -/
theorem exists_of_mapM_eq_error {f : α → Except ε β} {as : List α} (h : as.mapM f = .error e) :
    ∃ a ∈ as, f a = .error e := by
  induction as with
  | nil => cases h
  | cons a as ih =>
    rw [List.mapM_cons, bind_eq_error_iff] at h
    rcases h with h | ⟨b, -, h⟩
    · exact ⟨a, List.mem_cons_self, h⟩
    · rcases bind_eq_error_iff.1 h with h | ⟨bs, -, h⟩
      · obtain ⟨c, hc, h⟩ := ih h
        exact ⟨c, List.mem_cons_of_mem _ hc, h⟩
      · cases h

end Except

/-- Values come of a list exactly if one comes of each of its elements. -/
theorem Option.mapM_eq_some_iff {α β : Type} {f : α → Option β} {as : List α} {bs : List β} :
    as.mapM f = some bs ↔ as.map f = bs.map some := by
  induction as generalizing bs with
  | nil => cases bs <;> simp
  | cons a as ih => cases bs <;> simp [List.mapM_cons, Option.bind_eq_some_iff, ih]

/-- What is made of the values that come of a list is what is made of its elements. -/
theorem Option.map_eq_of_mapM_eq_some {α β γ : Type} {f : α → Option β} {g : β → γ} {h : α → γ} {as : List α}
    {bs : List β} (hm : as.mapM f = some bs) (hg : ∀ a ∈ as, ∀ b, f a = some b → g b = h a) : bs.map g = as.map h := by
  rw [mapM_eq_some_iff] at hm
  induction as generalizing bs with
  | nil => cases bs <;> simp_all
  | cons a as ih =>
    cases bs with
    | nil => cases hm
    | cons b bs =>
      obtain ⟨first, rest⟩ := List.cons.inj hm
      rw [List.map_cons, List.map_cons, hg a List.mem_cons_self b first,
        ih rest fun c hc => hg c (List.mem_cons_of_mem _ hc)]

/-! ## Errors -/

/-- Why there is no verdict. -/
inductive Error where
  /-- A text does not start with the mark of a policy. -/
  | unmarked
  /-- A separator stands where a name should. -/
  | malformed
  /-- A character in front of a name is no qualifier. -/
  | unknownSymbol (symbol : Char)
  | unknownMechanism (name : String)
  | unknownModifier (name : String)
  /-- No text at a domain is a policy. -/
  | noPolicy (domain : String)
  /-- Policies are nested deeper than allowed. -/
  | tooDeep
  /-- The value of a directive is no network, for the completed `text` of it. -/
  | invalidNetwork (value text : String)
  | emptyDomain
  /-- A domain has no ASCII form. -/
  | invalidDomain
  /-- The name service cannot be set up. -/
  | setup (reason : String)
  /-- A question gets no answer. -/
  | noAnswer (name reason : String)
  /-- The texts at a name are not UTF-8. -/
  | notText (name : String) (fault : Text.Utf8.Fault)
  deriving DecidableEq, Repr

namespace Error

/-- The wording of an error. -/
def message : Error → String
  | unmarked => "text is not an SPF record (missing \"v=spf1\")"
  | malformed => "SPF record syntax error"
  | unknownSymbol c => "unsupported qualifier '" ++ c.toString ++ "'"
  | unknownMechanism name => "unknown mechanism '" ++ name ++ "'"
  | unknownModifier name => "unknown modifier '" ++ name ++ "'"
  | noPolicy domain => "no SPF record found for " ++ domain
  | tooDeep => "include/redirect depth budget exhausted"
  | invalidNetwork value text => "invalid network '" ++ value ++ "': invalid address: " ++ text
  | emptyDomain => "domain is empty"
  | invalidDomain => "domain IDNA conversion failed"
  | setup reason => "resolver initialization failed: " ++ reason
  | noAnswer name reason => "DNS lookup failed for " ++ name ++ ": " ++ reason
  | notText name fault => "TXT record " ++ name ++ " contains invalid UTF-8 data: " ++ fault.message

/-- Whether the error comes from the data of a network or name service and not from the form of a policy. -/
def isTransport : Error → Bool
  | invalidNetwork .. | setup _ | noAnswer .. | notText .. => true
  | _ => false

end Error

end SenderPolicy
