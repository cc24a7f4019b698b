import SenderPolicy.Proofs.CommandLine
import SenderPolicy.Proofs.Ending
import SenderPolicy.Proofs.Utf8Text

/-!
# Checks of many lines

A check of lines is made of checks that know nothing of each other. Each line that is kept has one row: that of the check
of its sender and domain alone if it is a pair of them, and else an error for which nothing is asked. The rows stand in
the order of the lines, and together they give the exit code. All of this comes to an end exactly if the check of each
line does.

- `isRequest_trim_iff`, `words_eq_pair_iff`: what a line is, read off its characters;
- `hasOne_of_checks`: every row has exactly one of a verdict and an error;
- `reports_report`: what the outcome of checks says of their rows;
- `ends_lines_iff`, `ends_one_iff_of_isPair`: the checks of lines are the checks of one line each, and so is the check of
  one sender and domain;
- `answers_lines`: the whole run.
-/

namespace SenderPolicy.Cli

open Text

/-! ## Lines -/

/-- A line that is kept: it has a character that is not blank, and the first of these is no hash. -/
def IsKept (l : List Char) : Prop :=
  ∃ c, l.find? (fun c => !isBlank c) = some c ∧ c ≠ '#'

/-- A line of exactly two words, with blanks between them and perhaps around them. -/
def IsPair (l a b : List Char) : Prop :=
  ∃ front gap back, l = front ++ a ++ gap ++ b ++ back ∧ (∀ c ∈ front ++ gap ++ back, isBlank c = true) ∧ gap ≠ [] ∧
    IsWord a ∧ IsWord b

section

variable {l a b : List Char}

/-- Lines are kept or not by the first of their characters that is not blank. -/
theorem isRequest_trim_iff : isRequest (trim l) = true ↔ IsKept l := by
  have h : isRequest (trim l) = true ↔ ¬(trim l).head? = none ∧ (trim l).head? ≠ some '#' := by
    rw [List.head?_eq_none_iff]
    simp [isRequest]
  rw [h, head?_trim, IsKept]
  cases l.find? (fun c => !isBlank c) <;> simp

instance : DecidablePred IsKept :=
  fun _ => decidable_of_iff _ isRequest_trim_iff

/-- The words of a pair. -/
theorem IsPair.words_eq (h : IsPair l a b) : words l = [a, b] := by
  obtain ⟨front, gap, back, rfl, hblank, hne, ha, hb⟩ := h
  simp only [List.mem_append] at hblank
  have hfront : ∀ c ∈ front, isBlank c = true := fun c hc => hblank c (.inl (.inl hc))
  have hgap : ∀ c ∈ gap, isBlank c = true := fun c hc => hblank c (.inl (.inr hc))
  have hback : ∀ c ∈ back, isBlank c = true := fun c hc => hblank c (.inr hc)
  have stop : ∀ c ∈ (gap ++ (b ++ back)).head?, isBlank c = true := by
    obtain ⟨d, gap, rfl⟩ := List.exists_cons_of_ne_nil hne
    intro c hc
    obtain rfl : d = c := by simpa using hc
    exact hgap d List.mem_cons_self
  calc words (front ++ a ++ gap ++ b ++ back)
    _ = words (front ++ (a ++ (gap ++ (b ++ back)))) := by simp only [List.append_assoc]
    _ = a :: words (gap ++ (b ++ back)) := by rw [words_append_of_blank hfront, words_append_of_isWord ha stop]
    _ = a :: b :: words back := by
      rw [words_append_of_blank hgap, words_append_of_isWord hb fun c hc => hback c (List.mem_of_mem_head? hc)]
    _ = [a, b] := by rw [words_of_blank hback]

/-- A line has two words exactly if it is a pair. -/
theorem words_eq_pair_iff : words l = [a, b] ↔ IsPair l a b := by
  refine ⟨fun h => ?_, IsPair.words_eq⟩
  obtain ⟨front, rest, rfl, hfront, ha, hstop, hrest⟩ := words_eq_cons_iff.1 h
  obtain ⟨gap, back, rfl, hgap, hb, -, hnil⟩ := words_eq_cons_iff.1 hrest
  have hback : ∀ c ∈ back, isBlank c = true := words_eq_nil_iff.1 hnil
  refine ⟨front, gap, back, by simp, ?_, ?_, ha, hb⟩
  · intro c hc
    simp only [List.mem_append] at hc
    rcases hc with (hc | hc) | hc
    · exact hfront c hc
    · exact hgap c hc
    · exact hback c hc
  · -- without a gap the second word would start with a blank
    rintro rfl
    obtain ⟨c, w, rfl⟩ := List.exists_cons_of_ne_nil hb.1
    have hc := hstop c rfl
    rw [hb.2 c List.mem_cons_self] at hc
    cases hc

/-- A pair that starts with an address is kept. -/
theorem IsPair.isKept (h : IsPair l a b) {sender : Address} (ha : Address.ofChars? a = some sender) : IsKept l := by
  obtain ⟨front, gap, back, rfl, hblank, -, hword, -⟩ := h
  obtain ⟨c, a, rfl⟩ := List.exists_cons_of_ne_nil hword.1
  have hfront : front.find? (fun c => !isBlank c) = none := by
    rw [List.find?_eq_none]
    intro d hd
    simp [hblank d (by simp [hd])]
  refine ⟨c, ?_, ?_⟩
  · simp only [List.append_assoc, List.cons_append]
    rw [List.find?_append, hfront, Option.none_or, List.find?_cons_of_pos]
    simp [hword.2 c List.mem_cons_self]
  · rintro rfl
    rw [Address.ofChars?_cons_eq_none (by decide) (by decide) (by decide)] at ha
    cases ha

end

/-! ## Rows -/

namespace Row

/-- A row has exactly one of a verdict and an error. -/
def HasOne (r : Row) : Prop :=
  (∃ q, r.result = some q ∧ r.error = none) ∨ ∃ reason, r.result = none ∧ r.error = some reason

/-- Whether the row in JSON has a member of a name. -/
def HasMember (r : Row) (name : String) : Prop :=
  ∃ members, r.toJson = .object members ∧ some name ∈ members.map Prod.fst

theorem hasOne_ofOutcome (sender : Address) (domain : String) (outcome : Except Error Qualifier) :
    (ofOutcome sender domain outcome).HasOne := by
  cases outcome with
  | ok q => exact .inl ⟨q, rfl, rfl⟩
  | error e => exact .inr ⟨e.message, rfl, rfl⟩

theorem hasOne_invalid (line reason : String) : (invalid line reason).HasOne :=
  .inr ⟨reason, rfl, rfl⟩

variable {r : Row}

/-- The row in JSON has exactly one of them too. -/
theorem HasOne.hasMember_iff (h : r.HasOne) : r.HasMember "result" ↔ ¬ r.HasMember "error" := by
  unfold HasMember toJson Json.ofMembers
  rcases h with ⟨q, hr, he⟩ | ⟨reason, hr, he⟩ <;> simp [hr, he]

/-- So its line is not that of a row with none of them. -/
theorem HasOne.line_ne_unknown (h : r.HasOne) (rest : String) : r.line ≠ "[unknown]" ++ rest := by
  intro hl
  have chars := congrArg String.toList hl
  rcases h with ⟨q, hr, he⟩ | ⟨reason, hr, he⟩
  · cases q <;> simp [line, hr, Qualifier.name] at chars
  · simp [line, hr, he] at chars

theorem isError_iff : r.isError = true ↔ ∃ reason, r.error = some reason :=
  Option.isSome_iff_exists

theorem isError_eq_false_iff : r.isError = false ↔ r.error = none := by
  simp [isError]

theorem isPass_iff : r.isPass = true ↔ r.result = some .pass :=
  decide_eq_true_iff

theorem isPass_eq_false_iff : r.isPass = false ↔ r.result ≠ some .pass :=
  decide_eq_false_iff_not

/-- A row with a verdict has no error. -/
theorem HasOne.isError_of_isPass (h : r.HasOne) (hp : r.isPass = true) : r.isError = false := by
  rcases h with ⟨q, -, he⟩ | ⟨reason, hr, -⟩
  · exact isError_eq_false_iff.2 he
  · rw [isPass_iff.1 hp] at hr
    cases hr

end Row

section

variable {env : Environment} {depth : Int}

theorem hasOne_of_ofRun? {sender : Address} {domain : String} {x : Run Halt Qualifier} {c : Check}
    (h : Check.ofRun? sender domain x = some c) : c.1.HasOne := by
  obtain ⟨outcome, -, rfl⟩ := Option.map_eq_some_iff.1 h
  exact Row.hasOne_ofOutcome sender domain outcome

theorem hasOne_of_checkLine {line : List Char} {c : Check} (h : checkLine env depth line = some c) : c.1.HasOne := by
  unfold checkLine at h
  split at h
  · split at h
    · exact hasOne_of_ofRun? h
    · cases h
      exact Row.hasOne_invalid _ _
  · cases h
    exact Row.hasOne_invalid _ _

/-- Every row has exactly one of a verdict and an error. -/
theorem hasOne_of_checks {subject : Subject} {input : String} {checks : List Check}
    (h : subject.checks env depth input = some checks) : ∀ c ∈ checks, c.1.HasOne := by
  intro c hc
  match subject with
  | .one _ _ none | .one _ _ (some _) =>
    obtain ⟨d, hd, rfl⟩ := Option.map_eq_some_iff.1 h
    rw [List.mem_singleton.1 hc]
    exact hasOne_of_ofRun? hd
  | .lines =>
    have hm : some c ∈ checks.map some := List.mem_map_of_mem hc
    rw [← Option.mapM_eq_some_iff.1 h] at hm
    obtain ⟨line, -, hl⟩ := List.mem_map.1 hm
    exact hasOne_of_checkLine hl

end

/-! ## Reports -/

/-- An outcome reports checks: it writes their rows in their order and nothing else, each with exactly one of a verdict
and an error; its exit code says what came of them; and it has asked the questions of each. -/
structure Outcome.Reports (out : Outcome) (hasJson : Bool) (format : String) (checks : List Check) : Prop where
  stdout : formatted hasJson format (checks.map fun c => c.1.line) (.array (checks.map fun c => c.1.toJson)) =
    .ok out.stdout
  queries : out.queries = checks.flatMap Prod.snd
  one : ∀ c ∈ checks, c.1.HasOne
  member_iff : ∀ c ∈ checks, c.1.HasMember "result" ↔ ¬ c.1.HasMember "error"
  line_ne_unknown : ∀ c ∈ checks, ∀ rest, c.1.line ≠ "[unknown]" ++ rest
  exit_eq_one : out.exit = 1 ↔ ∃ c ∈ checks, ∃ reason, c.1.error = some reason
  exit_eq_two : out.exit = 2 ↔ (∀ c ∈ checks, c.1.error = none) ∧ ∃ c ∈ checks, c.1.result ≠ some .pass
  exit_eq_zero : out.exit = 0 ↔ ∀ c ∈ checks, c.1.result = some .pass

section

variable {env : Environment} {format : String} {checks : List Check}

/-- A format in which rows can be written. -/
def Environment.Writes (env : Environment) (format : String) : Prop :=
  format = "human" ∨ format = "json" ∧ env.hasJson = true

theorem Environment.Writes.exists_formatted (h : env.Writes format) (lines : List String) (json : Json) :
    ∃ out, formatted env.hasJson format lines json = .ok out := by
  rcases h with rfl | ⟨rfl, h⟩
  · exact ⟨_, rfl⟩
  · exact ⟨_, by rw [formatted, if_neg (by decide), if_pos rfl, h, if_pos rfl]⟩

/-- The outcome of checks reports them. -/
theorem reports_report (h : env.Writes format) (one : ∀ c ∈ checks, c.1.HasOne) :
    (report env.hasJson format checks).Reports env.hasJson format checks := by
  obtain ⟨out, hout⟩ := h.exists_formatted ((checks.map Prod.fst).map Row.line)
    (.array ((checks.map Prod.fst).map Row.toJson))
  have hrun : report env.hasJson format checks =
      { exit := exitCode (checks.map Prod.fst), stdout := out, queries := checks.flatMap Prod.snd } := by
    simp only [report, hout]
  have passed : (∀ r ∈ checks.map Prod.fst, r.isPass = true) → ∀ r ∈ checks.map Prod.fst, r.isError = false := by
    intro hp r hr
    obtain ⟨c, hc, rfl⟩ := List.mem_map.1 hr
    exact (one c hc).isError_of_isPass (hp _ hr)
  rw [List.map_map, List.map_map] at hout
  rw [hrun]
  exact {
    stdout := hout
    queries := rfl
    one := one
    member_iff := fun c hc => (one c hc).hasMember_iff
    line_ne_unknown := fun c hc => (one c hc).line_ne_unknown
    exit_eq_one := by simp [exitCode_eq_one_iff, Row.isError_iff]
    exit_eq_two := by simp [exitCode_eq_two_iff, Row.isError_eq_false_iff, Row.isPass_eq_false_iff]
    exit_eq_zero := by
      rw [exitCode_eq_zero_iff, and_iff_right_of_imp passed]
      simp [Row.isPass_iff] }

/-- A request to be verbose changes nothing of it. -/
theorem Outcome.Reports.verbose {out : Outcome} {hasJson : Bool} (h : out.Reports hasJson format checks) :
    out.verbose.Reports hasJson format checks :=
  ⟨h.stdout, h.queries, h.one, h.member_iff, h.line_ne_unknown, h.exit_eq_one, h.exit_eq_two, h.exit_eq_zero⟩

end

/-! ## Runs that come to an end -/

section

variable (env : Environment)

/-- The program comes to an end, if policies are followed deep enough. -/
def Ends (args : List String) (input : String) (out : Outcome) : Prop :=
  EndsWith (fun fuel => run? (env.fueled fuel) args input) out

/-- The checks of a subject come to an end. -/
def Subject.Ends (depth : Int) (input : String) (subject : Subject) (checks : List Check) : Prop :=
  EndsWith (fun fuel => subject.checks (env.fueled fuel) depth input) checks

/-- The check of a line comes to an end. -/
def LineEnds (depth : Int) (l : List Char) (c : Check) : Prop :=
  EndsWith (fun fuel => checkLine (env.fueled fuel) depth (trim l)) c

variable {env} {args : List String} {input : String} {subject : Subject} {options : Options} {format : String}
  {verbose : Bool}

/-- A program that is to check comes to an end exactly if its checks do, and reports them. -/
theorem ends_iff (asked : Request.ofArguments? args = some (.run (.check subject options) format verbose))
    {out : Outcome} :
    Ends env args input out ↔ ∃ checks, subject.Ends env options.maxDepth input checks ∧
      (if verbose then (report env.hasJson format checks).verbose else report env.hasJson format checks) = out := by
  have ran (fuel : Nat) : run? (env.fueled fuel) args input =
      (subject.checks (env.fueled fuel) options.maxDepth input).map fun checks =>
        if verbose then (report env.hasJson format checks).verbose else report env.hasJson format checks := by
    rw [run?, asked]
    exact Option.map_map _ _ _
  simp only [Ends, Subject.Ends, EndsWith, ran, Option.map_eq_some_iff]
  constructor
  · rintro ⟨fuel, checks, hc, rfl⟩
    exact ⟨checks, ⟨fuel, hc⟩, rfl⟩
  · rintro ⟨checks, ⟨fuel, hc⟩, rfl⟩
    exact ⟨fuel, checks, hc, rfl⟩

/-- The lines that are kept are those that ask for a check. -/
theorem filter_isRequest_map_trim (ls : List (List Char)) :
    (ls.map trim).filter isRequest = (ls.filter IsKept).map trim := by
  have same : isRequest ∘ trim = fun l => decide (IsKept l) :=
    funext fun l => by rw [Function.comp_apply, Bool.eq_iff_iff, isRequest_trim_iff, decide_eq_true_iff]
  rw [List.filter_map, same]

/-- The checks of lines are the checks of one line each, in the order of the lines that are kept. -/
theorem ends_lines_iff {depth : Int} {checks : List Check} :
    Subject.lines.Ends env depth input checks ↔
      List.Forall₂ (LineEnds env depth) ((lines input.toList).filter IsKept) checks := by
  simp only [Subject.Ends, Subject.checks, checkLines, filter_isRequest_map_trim]
  rw [endsWith_mapM_iff (grows_checkLine env depth), List.forall₂_map_left_iff]
  rfl

end

/-! ## One line -/

section

variable {env : Environment} {depth : Int} {l ip domain : List Char} {sender : Address} {c : Check}

/-- A pair that starts with an address has the check of this address and the domain. -/
theorem lineEnds_iff_of_isPair (h : IsPair l ip domain) (hip : Address.ofChars? ip = some sender) :
    LineEnds env depth l c ↔
      EndsWith (fun fuel => checkDomain (env.fueled fuel) depth sender (String.ofList domain)) c := by
  have hline (fuel : Nat) : checkLine (env.fueled fuel) depth (trim l) =
      checkDomain (env.fueled fuel) depth sender (String.ofList domain) := by
    rw [checkLine, words_trim, h.words_eq]
    simp only [hip]
  simp only [LineEnds, hline]

/-- Its row has the text of the address, and the domain as it is written. -/
theorem LineEnds.texts_of_isPair (hc : LineEnds env depth l c) (h : IsPair l ip domain)
    (hip : Address.ofChars? ip = some sender) : c.1.ip = sender.text ∧ c.1.domain = String.ofList domain := by
  obtain ⟨fuel, hf⟩ := (lineEnds_iff_of_isPair h hip).1 hc
  obtain ⟨outcome, -, rfl⟩ := Option.map_eq_some_iff.1 hf
  cases outcome <;> exact ⟨rfl, rfl⟩

/-- The checks of this address and the domain are those of the pair alone. -/
theorem ends_one_iff_of_isPair {input : String} {checks : List Check} (h : IsPair l ip domain)
    (hip : Address.ofChars? ip = some sender) :
    (Subject.one sender (String.ofList domain) none).Ends env depth input checks ↔
      List.Forall₂ (LineEnds env depth) [l] checks := by
  constructor
  · rintro ⟨fuel, hf⟩
    obtain ⟨c, hc, rfl⟩ := Option.map_eq_some_iff.1 hf
    exact .cons ((lineEnds_iff_of_isPair h hip).2 ⟨fuel, hc⟩) .nil
  · rintro (_ | ⟨hc, _ | _⟩)
    obtain ⟨fuel, hf⟩ := (lineEnds_iff_of_isPair h hip).1 hc
    exact ⟨fuel, Option.map_eq_some_iff.2 ⟨_, hf, rfl⟩⟩

/-- Any other line has an error, and asks nothing. -/
theorem lineEnds_iff_of_not_isPair (h : ∀ ip domain sender, IsPair l ip domain → Address.ofChars? ip ≠ some sender) :
    ∃ reason, ∀ c, LineEnds env depth l c ↔ c = .invalid (String.ofList (trim l)) reason := by
  have hline : ∃ reason, ∀ fuel,
      checkLine (env.fueled fuel) depth (trim l) = some (.invalid (String.ofList (trim l)) reason) := by
    unfold checkLine
    split
    · rename_i ip domain hw
      rw [words_trim, words_eq_pair_iff] at hw
      split
      · rename_i sender hip
        exact absurd hip (h ip domain sender hw)
      · exact ⟨_, fun _ => rfl⟩
    · exact ⟨_, fun _ => rfl⟩
  obtain ⟨reason, hr⟩ := hline
  refine ⟨reason, fun c => ?_⟩
  simp only [LineEnds, EndsWith, hr, exists_const, Option.some.injEq]
  exact eq_comm

end

/-! ## All lines -/

/-- The command line of a check of one sender and domain. -/
def singleArgs (ip domain : List Char) (settings : List String) : List String :=
  "check" :: Opt.ip.spelled (String.ofList ip) :: Opt.domain.spelled (String.ofList domain) :: settings

/-- A command line answers lines: its checks are one for each of them, in their order. -/
structure Answers (env : Environment) (options : Options) (format : String) (check : List Char → Check → Prop)
    (subject : Subject) (args : List String) (input : String) (ls : List (List Char)) : Prop where
  checks_iff : ∀ checks, subject.Ends env options.maxDepth input checks ↔ List.Forall₂ check ls checks
  /-- If the check of each line comes to an end, the program does. -/
  ends : ∀ checks, List.Forall₂ check ls checks → ∃ out, Ends env args input out
  /-- Where the program comes to an end, the check of each line does, and these are reported. -/
  reports : ∀ out, Ends env args input out →
    ∃ checks, List.Forall₂ check ls checks ∧ out.Reports env.hasJson format checks
  /-- There is at most one end. -/
  unique : ∀ out out', Ends env args input out → Ends env args input out' → out = out'

/-- A check of lines lifts single checks under the same settings. -/
structure LiftsChecks (env : Environment) (options : Options) (format : String) (verbose : Bool)
    (settings : List String) (check : List Char → Check → Prop) : Prop where
  /-- A line has at most one check. -/
  unique : ∀ l c c', check l c → check l c' → c = c'
  /-- Every line has one, if the depth sets a limit. -/
  exists_of_nonneg : 0 ≤ options.maxDepth → ∀ l, ∃ c, check l c
  /-- A pair of an address and a domain is kept and has the row of the check of these two alone. -/
  pair : ∀ l ip domain sender, IsPair l ip domain → Address.ofChars? ip = some sender →
    IsKept l ∧ (∀ c, check l c → c.1.ip = sender.text ∧ c.1.domain = String.ofList domain) ∧
      Request.ofArguments? (singleArgs ip domain settings) =
        some (.run (.check (.one sender (String.ofList domain) none) options) format verbose) ∧
      ∀ input, Answers env options format check (.one sender (String.ofList domain) none)
        (singleArgs ip domain settings) input [l]
  /-- The row of any other line is an error for which nothing is asked. -/
  other : ∀ l, (∀ ip domain sender, IsPair l ip domain → Address.ofChars? ip ≠ some sender) →
    ∃ reason, ∀ c, check l c ↔ c = (⟨"", String.ofList (trim l), none, some reason⟩, [])

section

variable {env : Environment} {args : List String} {options : Options} {format : String} {verbose : Bool}
  {subject : Subject} {input : String}

/-- A command line that asks for checks answers the lines that have these checks. -/
theorem answers_of_checks_iff (asked : Request.ofArguments? args = some (.run (.check subject options) format verbose))
    (writes : env.Writes format) {check : List Char → Check → Prop} {ls : List (List Char)}
    (h : ∀ checks, subject.Ends env options.maxDepth input checks ↔ List.Forall₂ check ls checks) :
    Answers env options format check subject args input ls where
  checks_iff := h
  ends checks hc := ⟨_, (ends_iff asked).2 ⟨checks, (h checks).2 hc, rfl⟩⟩
  reports out ho := by
    obtain ⟨checks, hc, rfl⟩ := (ends_iff asked).1 ho
    have ⟨fuel, hf⟩ := hc
    have reported : (report env.hasJson format checks).Reports env.hasJson format checks :=
      reports_report writes (hasOne_of_checks hf)
    refine ⟨checks, (h checks).1 hc, ?_⟩
    cases verbose with
    | false => exact reported
    | true => exact reported.verbose
  unique out out' ho ho' := by
    obtain ⟨checks, hc, rfl⟩ := (ends_iff asked).1 ho
    obtain ⟨checks', hc', rfl⟩ := (ends_iff asked).1 ho'
    rw [EndsWith.unique (grows_checks env options.maxDepth input subject) hc hc']

/-- The checks of lines lift single checks. -/
theorem liftsChecks_lineEnds {settings : List String} (writes : env.Writes format)
    (limited : 0 ≤ options.maxDepth → 0 ≤ (Budget.ofInt options.maxDepth).depth.toInt)
    (single : ∀ ip domain sender, Address.ofText? ip = some sender →
      Request.ofArguments? ("check" :: Opt.ip.spelled ip :: Opt.domain.spelled domain :: settings) =
        some (.run (.check (.one sender domain none) options) format verbose)) :
    LiftsChecks env options format verbose settings (LineEnds env options.maxDepth) where
  unique l c c' hc hc' := EndsWith.unique (grows_checkLine env options.maxDepth _) hc hc'
  exists_of_nonneg h l := by
    obtain ⟨c, hc⟩ : ∃ c, checkLine (env.fueled 0) options.maxDepth (trim l) = some c := exists_checkLine (limited h) _
    exact ⟨c, 0, hc⟩
  pair l ip domain sender h hip := by
    have asked := single (String.ofList ip) (String.ofList domain) sender (by
      rw [Address.ofText?, String.toList_ofList, hip])
    exact ⟨h.isKept hip, fun c hc => hc.texts_of_isPair h hip, asked, fun input =>
      answers_of_checks_iff asked writes fun checks => ends_one_iff_of_isPair h hip⟩
  other l h := lineEnds_iff_of_not_isPair h

/-- **A check of lines is made of single checks.** For some settings, which say what the command line says, and for
whatever is on the input, there is one row for each line that is kept, in the order of the lines: that of the single
check under these settings if the line is a pair of an address and a domain, and else an error. The program comes to an
end exactly if each of these checks does. -/
theorem answers_lines (asked : Request.ofArguments? args = some (.run (.check .lines options) format verbose))
    (writes : env.Writes format) :
    ∃ settings check, LiftsChecks env options format verbose settings check ∧
      ∀ input, ∃ ls, ['\n'].intercalate ls = input.toList ∧ (∀ l ∈ ls, '\n' ∉ l) ∧
        Answers env options format check .lines args input (ls.filter IsKept) := by
  obtain ⟨settings, single⟩ := Request.exists_settings asked
  have bounds := Request.bounds_of_check asked
  have limited : 0 ≤ options.maxDepth → 0 ≤ (Budget.ofInt options.maxDepth).depth.toInt := by
    intro h
    rw [Budget.ofInt, Int32.toInt_ofInt_of_le bounds.1 bounds.2]
    exact h
  refine ⟨settings, _, liftsChecks_lineEnds writes limited single, fun input => ?_⟩
  have joined : ['\n'].intercalate (lines input.toList) = input.toList := List.intercalate_splitOn '\n'
  exact ⟨lines input.toList, joined, fun l hl => notMem_of_mem_lines hl,
    answers_of_checks_iff asked writes fun _ => ends_lines_iff⟩

/-- A name server with one policy, that fails every other question. -/
def onePolicy (policy : String) : Environment where
  link := .up ⟨fun q => if q = ⟨.txt, "_spf"⟩ then .ok [.txt [Utf8.encode policy.toList]] else .error "timeout"⟩
  hasJson := false

/-- A pair with a policy, a line that is no pair and a pair without an answer; in between a comment and an empty line. -/
def someLines : String :=
  "192.0.2.1 _spf\n# none\n\n x \n\t192.0.2.1\t_other\r\n"

theorem answers_lines_stdin :
    Request.ofArguments? ["check", "--stdin"] = some (.run (.check .lines {}) "human" false) ∧
    ∃ settings check, LiftsChecks (onePolicy "v=spf1 ip4:192.0.2.1 -all") {} "human" false settings check ∧
      check "192.0.2.1 _spf".toList (⟨"192.0.2.1", "_spf", some .pass, none⟩, [.txt "_spf"]) ∧
      (∃ reason, check " x ".toList (⟨"", "x", none, some reason⟩, [])) ∧
      (∃ ls, ['\n'].intercalate ls = someLines.toList ∧ (∀ l ∈ ls, '\n' ∉ l) ∧
        Answers (onePolicy "v=spf1 ip4:192.0.2.1 -all") {} "human" check .lines ["check", "--stdin"] someLines
          (ls.filter IsKept)) ∧
      Ends (onePolicy "v=spf1 ip4:192.0.2.1 -all") ["check", "--stdin"] someLines {
        exit := 1
        stdout := "[pass] 192.0.2.1 _spf\n[error]  x :: expected '<ip> <domain>'\n" ++
          "[error] 192.0.2.1 _other :: DNS lookup failed for _other: timeout\n"
        queries := [.txt "_spf", .txt "_other"] } := by
  have asked : Request.ofArguments? ["check", "--stdin"] = some (.run (.check .lines {}) "human" false) := rfl
  have writes : (onePolicy "v=spf1 ip4:192.0.2.1 -all").Writes "human" := .inl rfl
  obtain ⟨settings, check, lifts, answered⟩ := answers_lines asked writes
  refine ⟨asked, settings, check, lifts, ?_, ?_, answered someLines, 0, rfl⟩
  · have pair : IsPair "192.0.2.1 _spf".toList "192.0.2.1".toList "_spf".toList := words_eq_pair_iff.1 rfl
    obtain ⟨-, -, -, single⟩ := lifts.pair _ _ _ (.v4 0xC0000201#32) pair rfl
    have checked := ((single "").checks_iff [(⟨"192.0.2.1", "_spf", some .pass, none⟩, [.txt "_spf"])]).1 ⟨0, rfl⟩
    cases checked with
    | cons h _ => exact h
  · obtain ⟨reason, h⟩ := lifts.other " x ".toList fun ip domain sender hp _ => by
      have hw : [['x']] = [ip, domain] := hp.words_eq
      cases hw
    exact ⟨reason, (h _).2 rfl⟩

/-- A policy that nests itself keeps a check without a limit from its end, and so all checks of the lines. -/
example : run? ((onePolicy "v=spf1 include:_spf").fueled 5) ["check", "--depth", "-1", "--stdin"] someLines = none :=
  rfl

end

end SenderPolicy.Cli
