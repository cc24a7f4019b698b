import Mathlib.Data.List.Forall2
import SenderPolicy.Cli.Program
import SenderPolicy.Proofs.Depth

/-!
# Coming to an end

Where the depth has no limit, a check may not come to an end. What the program does then is said by its fuel, which tells
how deep policies are followed: a run comes to an end if it does so with some fuel, and with more fuel it comes to the
same end (`grows_checks`). Several checks come to an end together exactly if each of them does, since the largest of
their fuels is enough for all (`endsWith_mapM_iff`). A depth that sets a limit is enough for every check to come to an
end (`exists_checkDomain`).
-/

namespace SenderPolicy

/-! ## Values that come with more fuel -/

section

variable {α β : Type} {f : Nat → Option α}

/-- What has a value with some fuel has the same value with more. -/
def Grows (f : Nat → Option α) : Prop :=
  ∀ m n a, m ≤ n → f m = some a → f n = some a

/-- A value comes with enough fuel. -/
def EndsWith (f : Nat → Option α) (a : α) : Prop :=
  ∃ fuel, f fuel = some a

theorem grows_const (x : Option α) : Grows fun _ => x :=
  fun _ _ _ _ h => h

theorem Grows.map (h : Grows f) (g : α → β) : Grows fun n => (f n).map g := by
  intro m n b hmn hm
  obtain ⟨a, ha, rfl⟩ := Option.map_eq_some_iff.1 hm
  exact Option.map_eq_some_iff.2 ⟨a, h m n a hmn ha, rfl⟩

/-- Values come of a list exactly if one comes of each of its elements. -/
theorem mapM_eq_some_iff_forall₂ {g : α → Option β} {as : List α} {bs : List β} :
    as.mapM g = some bs ↔ List.Forall₂ (fun a b => g a = some b) as bs := by
  rw [Option.mapM_eq_some_iff, ← List.forall₂_eq_eq_eq, List.forall₂_map_left_iff, List.forall₂_map_right_iff]

theorem grows_mapM {g : Nat → α → Option β} (h : ∀ a, Grows fun n => g n a) (as : List α) :
    Grows fun n => as.mapM (g n) := by
  intro m n bs hmn hm
  rw [mapM_eq_some_iff_forall₂] at hm ⊢
  exact hm.imp fun a b => h a m n b hmn

/-- At most one value comes. -/
theorem EndsWith.unique (h : Grows f) {a b : α} (ha : EndsWith f a) (hb : EndsWith f b) : a = b := by
  obtain ⟨m, hm⟩ := ha
  obtain ⟨n, hn⟩ := hb
  exact Option.some.inj ((h m _ a (Nat.le_max_left m n) hm).symm.trans (h n _ b (Nat.le_max_right m n) hn))

/-- With enough fuel, values come of a list exactly if one comes of each of its elements with a fuel of its own. -/
theorem endsWith_mapM_iff {g : Nat → α → Option β} (h : ∀ a, Grows fun n => g n a) {as : List α} {bs : List β} :
    EndsWith (fun n => as.mapM (g n)) bs ↔ List.Forall₂ (fun a b => EndsWith (fun n => g n a) b) as bs := by
  constructor
  · rintro ⟨n, hn⟩
    exact (mapM_eq_some_iff_forall₂.1 hn).imp fun a b hb => ⟨n, hb⟩
  · intro each
    induction each with
    | nil => exact ⟨0, rfl⟩
    | @cons a b as bs hb _ ih =>
      obtain ⟨m, hm⟩ := hb
      obtain ⟨n, hn⟩ := ih
      have first : g (max m n) a = some b := h a m _ b (Nat.le_max_left m n) hm
      have rest : as.mapM (g (max m n)) = some bs := grows_mapM h as n _ bs (Nat.le_max_right m n) hn
      exact ⟨max m n, mapM_eq_some_iff_forall₂.2 (.cons first (mapM_eq_some_iff_forall₂.1 rest))⟩

end

/-! ## Walks with more fuel -/

namespace Inquiry

variable {i : Inquiry} {fuel : Nat}

/-- The same inquiry that follows policies as deep as another number says, where there is no limit. -/
def fueled (i : Inquiry) (fuel : Nat) : Inquiry :=
  { i with fuel := fuel }

/-- More fuel leaves no fewer levels. -/
theorem levels_le_levels_fueled (h : i.fuel ≤ fuel) : i.levels ≤ (i.fueled fuel).levels := by
  rcases Int.lt_or_le i.budget.depth.toInt 0 with hn | hl
  · rwa [levels, levels, Budget.levels_of_neg hn, Budget.levels_of_neg (b := (i.fueled fuel).budget) hn]
  · rw [levels, levels, Budget.levels_of_nonneg hl, Budget.levels_of_nonneg (b := (i.fueled fuel).budget) hl]
    exact Nat.le_refl _

/-- A nested policy is cut short where the fuel is used up, or where it is cut short itself. -/
theorem cuts_nested_fueled (h : i.fuel ≤ fuel)
    (deeper : i.CanNest → ∀ domain,
      Run.Cuts .unfinished (i.deeper.validate domain) ((i.deeper.fueled (fuel - 1)).validate domain))
    (domain : String) : Run.Cuts .unfinished (i.nested domain) ((i.fueled fuel).nested domain) := by
  by_cases hl : i.levels = 0
  · rw [i.nested_eq, if_pos hl]
    exact .inr ⟨rfl, List.nil_prefix⟩
  by_cases hz : i.budget.depth = 0
  · rw [nested_of_spent hz, nested_of_spent (i := i.fueled fuel) hz]
    exact .inl rfl
  · have more := levels_le_levels_fueled h
    have hc : (i.fueled fuel).CanNest := ⟨by omega, hz⟩
    rw [nested_of_canNest ⟨hl, hz⟩, nested_of_canNest hc]
    exact deeper ⟨hl, hz⟩ domain

/-- A walk is the same with more fuel, unless its fuel is used up. -/
theorem cuts_validate_fueled (i : Inquiry) : ∀ {fuel : Nat}, i.fuel ≤ fuel →
    ∀ domain, Run.Cuts .unfinished (i.validate domain) ((i.fueled fuel).validate domain) := by
  induction i using nesting_induction with
  | step i ih =>
    intro fuel h
    exact cuts_validate_of_nested rfl rfl (cuts_nested_fueled h fun hc => ih hc (Nat.sub_le_sub_right h 1))

/-- So is the walk of a policy text. -/
theorem cuts_validateText_fueled (h : i.fuel ≤ fuel) (publisher text : String) :
    Run.Cuts .unfinished (i.validateText publisher text) ((i.fueled fuel).validateText publisher text) :=
  cuts_validateText (i := i) (j := i.fueled fuel) rfl rfl
    (cuts_nested_fueled h fun _ => cuts_validate_fueled i.deeper (Nat.sub_le_sub_right h 1)) publisher text

/-- What goes on with a normal form is cut short where that is. -/
theorem cuts_withDomain {f g : String → Run Halt Qualifier} (h : ∀ d, Run.Cuts .unfinished (f d) (g d))
    (domain : String) : Run.Cuts .unfinished (withDomain domain f) (withDomain domain g) := by
  unfold withDomain
  split
  · exact h _
  · exact .inl rfl

end Inquiry

/-! ## Checks with more fuel -/

namespace Cli

/-- The surroundings of the program where policies are followed as deep as another number says. -/
def Environment.fueled (env : Environment) (fuel : Nat) : Environment :=
  { env with fuel := fuel }

/-- A check that comes to an end is that of every run that is not cut short. -/
theorem ofRun?_of_cuts {x y : Run Halt Qualifier} (h : Run.Cuts .unfinished x y) {sender : Address} {domain : String}
    {c : Check} (hx : Check.ofRun? sender domain x = some c) : Check.ofRun? sender domain y = some c := by
  rcases h with rfl | ⟨hr, -⟩
  · exact hx
  · rw [Check.ofRun?, Run.outcome?_eq_none_iff.2 hr] at hx
    cases hx

section

variable (env : Environment) (depth : Int)

theorem grows_checkDomain (sender : Address) (domain : String) :
    Grows fun fuel => checkDomain (env.fueled fuel) depth sender domain := by
  intro m n c h
  exact ofRun?_of_cuts
    (Inquiry.cuts_withDomain (Inquiry.cuts_validate_fueled (env.link.inquiry sender depth m) h) domain)

theorem grows_checkPolicy (sender : Address) (domain policy : String) :
    Grows fun fuel => checkPolicy (env.fueled fuel) depth sender domain policy := by
  intro m n c h
  have cuts (d : String) := Inquiry.cuts_validateText_fueled (i := env.link.inquiry sender depth m) h d policy
  exact ofRun?_of_cuts (Inquiry.cuts_withDomain cuts domain)

theorem grows_checkLine (line : List Char) : Grows fun fuel => checkLine (env.fueled fuel) depth line := by
  unfold checkLine
  split
  · split
    · exact grows_checkDomain env depth _ _
    · exact grows_const _
  · exact grows_const _

/-- Checks that come to an end come to the same end with more fuel. -/
theorem grows_checks (input : String) (subject : Subject) :
    Grows fun fuel => subject.checks (env.fueled fuel) depth input := by
  match subject with
  | .one sender domain none => exact (grows_checkDomain env depth sender domain).map _
  | .one sender domain (some policy) => exact (grows_checkPolicy env depth sender domain policy).map _
  | .lines => exact grows_mapM (grows_checkLine env depth) _

variable {env depth}

/-- A depth that sets a limit is enough for the check of any sender and domain. -/
theorem exists_checkDomain (limited : 0 ≤ (Budget.ofInt depth).depth.toInt) (sender : Address) (domain : String) :
    ∃ c, checkDomain env depth sender domain = some c := by
  have finished : ((env.link.inquiry sender depth env.fuel).check domain).result ≠ .error .unfinished := by
    unfold Inquiry.check Inquiry.withDomain
    split
    · exact Inquiry.validate_ne_unfinished (env.link.inquiry sender depth env.fuel) limited _
    · simp [Run.fail]
  rw [checkDomain, Check.ofRun?]
  cases h : ((env.link.inquiry sender depth env.fuel).check domain).outcome? with
  | none => exact absurd (Run.outcome?_eq_none_iff.1 h) finished
  | some outcome => exact ⟨_, rfl⟩

/-- So is it for the check of any line. -/
theorem exists_checkLine (limited : 0 ≤ (Budget.ofInt depth).depth.toInt) (line : List Char) :
    ∃ c, checkLine env depth line = some c := by
  unfold checkLine
  split
  · split
    · exact exists_checkDomain limited _ _
    · exact ⟨_, rfl⟩
  · exact ⟨_, rfl⟩

end

end Cli

end SenderPolicy
