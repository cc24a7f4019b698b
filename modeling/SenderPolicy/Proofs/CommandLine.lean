import SenderPolicy.Cli.Arguments

/-!
# Command lines with the same settings

A command line that is understood has given its options values that they take: one argument more keeps this, so it
holds of whatever has been read in the end. The settings of a check can therefore be spelled out, each with its value
behind an equals sign, and are then read back. So to every command line of a check there is one that asks for a given
sender and domain in its place and agrees with it in everything else.

- `scan_spell`: options that are spelled out are read with their values;
- `exists_accepted_of_scan`: what has been read in the end has values that its options take;
- `Request.exists_settings`: the check of one sender and domain with the settings of another command line.
-/

namespace SenderPolicy.Cli

/-! ## Options that are spelled out -/

namespace Opt

/-- An option with its value behind an equals sign. -/
def spelled (o : Opt) (value : String) : String :=
  "--" ++ o.long ++ "=" ++ value

/-- No name of an option has an equals sign in it. -/
theorem ne_eq_of_mem_long {o : Opt} {c : Char} (h : c ∈ o.long.toList) : c ≠ '=' := by
  have hn : '=' ∉ o.long.toList := by cases o <;> decide
  rintro rfl
  exact hn h

end Opt

/-- Options with their values, each spelled out. -/
def spell (given : List (Opt × String)) : List String :=
  given.map fun g => g.1.spelled g.2

/-- The options of a level have different names. -/
theorem Level.find?_long {l : Level} {o : Opt} (h : o ∈ l.options) :
    l.options.find? (·.long = o.long) = some o := by
  cases l <;> cases o <;> first | rfl | simp [options] at h

namespace Scan

variable {s t : Scan} {o : Opt} {value : String}

/-- An option that is spelled out is read with its value. -/
theorem role_spelled (only : s.onlyOperands = false) (ho : o ∈ s.level.options) (takes : o.takesValue = true) :
    s.role (o.spelled value) = .valued o (some value) := by
  have inside : ∀ c ∈ o.long.toList, decide (c ≠ '=') = true := fun c hc => by
    simpa using Opt.ne_eq_of_mem_long hc
  have htake : (o.long.toList ++ '=' :: value.toList).takeWhile (· ≠ '=') = o.long.toList := by
    rw [List.takeWhile_append_of_pos inside]
    simp
  have hdrop : (o.long.toList ++ '=' :: value.toList).dropWhile (· ≠ '=') = '=' :: value.toList := by
    rw [List.dropWhile_append_of_pos inside]
    simp
  have hchars : (o.spelled value).toList = '-' :: '-' :: (o.long.toList ++ '=' :: value.toList) := by
    simp [Opt.spelled, String.toList_append]
  rw [role, only, hchars]
  simp only [Bool.false_eq_true, if_false]
  split
  case h_1 heq => simp at heq
  case h_2 rest _ heq =>
    cases heq
    rw [htake, hdrop, String.ofList_toList, Level.find?_long ho]
    simp [takes]
  case h_3 hne heq =>
    cases heq
    exact absurd rfl hne
  case h_4 hne => exact absurd rfl (hne _ _)

/-- What it takes to give an option, and what is given then. -/
theorem of_give (h : s.give o value = some t) :
    o.accepts value = true ∧ t = { s with given := s.given ++ [(s.level, o, value)] } := by
  unfold give at h
  split at h
  · cases h
  · rename_i hg
    cases h
    rw [Bool.or_eq_true, not_or] at hg
    exact ⟨by simpa using hg.2, rfl⟩

/-- An option can be given a value that it takes if it has not been given at the level. -/
theorem give_eq_some (new : s.has s.level o = false) (accepted : o.accepts value = true) :
    s.give o value = some { s with given := s.given ++ [(s.level, o, value)] } := by
  unfold give
  rw [if_neg (by simp [new, accepted])]

/-! ## Values that are accepted -/

/-- Every option has been given a value that it takes. -/
def Accepted (s : Scan) : Prop :=
  ∀ g ∈ s.given, g.2.1.accepts g.2.2 = true

theorem Accepted.give (hs : s.Accepted) (h : s.give o value = some t) : t.Accepted := by
  obtain ⟨accepted, rfl⟩ := of_give h
  intro g hg
  rcases List.mem_append.1 hg with hg | hg
  · exact hs g hg
  · rw [List.mem_singleton] at hg
    rw [hg]
    exact accepted

theorem Accepted.operand {arg : String} (hs : s.Accepted) (h : s.operand arg = some t) : t.Accepted := by
  unfold Scan.operand at h
  split at h
  · split at h
    · cases h
    · obtain ⟨l, -, rfl⟩ := Option.map_eq_some_iff.1 h
      exact hs
  · cases h
    exact hs
  · cases h

/-- Options without values are given one after the other, unless one of them is a request that is answered at once. -/
theorem Accepted.of_flags {os : List (Option Opt)} {x : Scan ⊕ Request} (hs : s.Accepted)
    (h : Scan.flags os s = some x) :
    (∃ t : Scan, x = .inl t ∧ t.Accepted) ∨ ∃ r, x = .inr r ∧ ∀ c format verbose, r ≠ .run c format verbose := by
  induction os generalizing s with
  | nil =>
    cases h
    exact .inl ⟨s, rfl, hs⟩
  | cons p os ih =>
    rcases p with _ | o
    · cases h
    · by_cases help : o = .help
      · subst help
        cases h
        exact .inr ⟨_, rfl, by simp⟩
      · by_cases version : o = .version
        · subst version
          cases h
          exact .inr ⟨_, rfl, by simp⟩
        · rw [Scan.flags.eq_5 _ _ _ help version] at h
          obtain ⟨u, hu, hx⟩ := Option.bind_eq_some_iff.1 h
          exact ih (hs.give hu) hx

/-- Help is not a command. -/
theorem ne_run_of_helpFor {args : List String} {r : Request} (h : helpFor args = some r) (c : Command)
    (format : String) (verbose : Bool) : r ≠ .run c format verbose := by
  unfold helpFor at h
  split at h
  · cases h
    simp
  · obtain ⟨l, -, rfl⟩ := Option.map_eq_some_iff.1 h
    simp
  · cases h

/-- A command runs with what has been read in the end, and all of its options have values that they take. -/
theorem exists_accepted_of_scan {args : List String} {c : Command} {format : String} {verbose : Bool}
    (hs : s.Accepted) (h : scan s args = some (.run c format verbose)) :
    ∃ t : Scan, t.Accepted ∧ t.finish? = some (.run c format verbose) := by
  -- one case for the end, and one or two for each role of the next argument
  fun_induction scan s args with
  | case1 s => exact ⟨s, hs, h⟩
  | case2 => cases h
  | case3 s arg args hr ih => exact ih hs h
  | case4 s arg args hr ih =>
    obtain ⟨t, ht, h⟩ := Option.bind_eq_some_iff.1 h
    split at h
    · exact absurd rfl (ne_run_of_helpFor h c format verbose)
    · exact ih t (hs.operand ht) h
  | case5 s arg args os hr ih =>
    obtain ⟨x, hx, h⟩ := Option.bind_eq_some_iff.1 h
    rcases hs.of_flags hx with ⟨t, rfl, ht⟩ | ⟨r, rfl, hr⟩
    · exact ih t ht h
    · cases h
      exact absurd rfl (hr c format verbose)
  | case6 s arg args o v hr ih =>
    obtain ⟨t, ht, h⟩ := Option.bind_eq_some_iff.1 h
    exact ih t (hs.give ht) h
  | case7 => cases h
  | case8 s arg o hr value args hm ih =>
    obtain ⟨t, ht, h⟩ := Option.bind_eq_some_iff.1 h
    exact ih t (hs.give ht) h
  | case9 => cases h

/-- The value of an option is one of those given. -/
theorem Accepted.of_value? (hs : s.Accepted) (h : s.value? o = some value) : o.accepts value = true := by
  have at_level : ∀ l, (s.given.find? fun g => g.1 = l && g.2.1 = o).map (·.2.2) = some value →
      o.accepts value = true := by
    intro l hl
    obtain ⟨g, hg, rfl⟩ := Option.map_eq_some_iff.1 hl
    have ho : g.1 = l ∧ g.2.1 = o := by simpa using List.find?_some hg
    rw [← ho.2]
    exact hs g (List.mem_of_find?_eq_some hg)
  rcases Option.or_eq_some_iff.1 h with h | ⟨-, h⟩
  · exact at_level _ h
  · exact at_level _ h

end Scan

/-! ## Settings that are spelled out -/

namespace Scan

/-- What is read of options of a check. -/
def ofCheck (given : List (Opt × String)) : Scan :=
  ⟨.check, given.map (.check, ·), [], false⟩

section

variable {given more : List (Opt × String)} {args : List String}

/-- No option is given to the program itself, so that the value is the one given to the check. -/
theorem value?_ofCheck (o : Opt) : (ofCheck given).value? o = (given.find? (·.1 = o)).map (·.2) := by
  have elsewhere : (given.map ((Level.check, ·))).find? (fun g => g.1 = .program && g.2.1 = o) = none := by
    simp [List.find?_eq_none]
  simp only [ofCheck, value?, elsewhere]
  simp [List.find?_map, Function.comp_def]

theorem has_ofCheck (o : Opt) : (ofCheck given).has .check o = given.any (·.1 = o) := by
  simp [ofCheck, has, List.any_map, Function.comp_def]

/-- Options that are spelled out are read with their values. -/
theorem scan_spell (taken : ∀ g ∈ more, g.1 ∈ Level.check.options ∧ g.1.takesValue = true ∧ g.1.accepts g.2 = true)
    (once : ((given ++ more).map Prod.fst).Nodup) :
    scan (ofCheck given) (spell more ++ args) = scan (ofCheck (given ++ more)) args := by
  induction more generalizing given with
  | nil => simp [spell]
  | cons g more ih =>
    obtain ⟨ho, takes, accepted⟩ := taken g List.mem_cons_self
    have split : given ++ g :: more = given ++ [g] ++ more := by simp
    have new : (ofCheck given).has .check g.1 = false := by
      rw [has_ofCheck, List.any_eq_false]
      intro k hk h
      rw [List.map_append, List.nodup_append] at once
      exact once.2.2 k.1 (List.mem_map_of_mem hk) g.1 (by simp) (by simpa using h)
    have step : scan (ofCheck given) (g.1.spelled g.2 :: (spell more ++ args)) =
        scan (ofCheck (given ++ [g])) (spell more ++ args) := by
      rw [scan, role_spelled rfl ho takes]
      simp only
      rw [give_eq_some new accepted]
      simp [ofCheck]
    rw [split] at once ⊢
    exact step.trans (ih (fun k hk => taken k (List.mem_cons_of_mem _ hk)) once)

end

/-- The options that say how to check and what to write. -/
def settingOptions : List Opt :=
  [.format, .nameserver, .depth, .timeout, .attempts]

/-- The values of these options. -/
def settings (s : Scan) : List (Opt × String) :=
  settingOptions.filterMap fun o => (s.value? o).map (o, ·)

section

variable {s t : Scan} {o : Opt} {value : String}

/-- A setting has the value that was read for it. -/
theorem find?_settings (ho : o ∈ settingOptions) : (s.settings.find? (·.1 = o)).map (·.2) = s.value? o := by
  have test : (fun p => ((s.value? p).map (p, ·)).any (·.1 = o)) = fun p => decide (p = o) && (s.value? o).isSome := by
    funext p
    by_cases h : p = o
    · subst h
      cases s.value? p <;> simp
    · cases s.value? p <;> simp [h]
  have found : ∀ b, settingOptions.find? (fun p => decide (p = o) && b) = if b then some o else none := by
    intro b
    cases b <;> cases o <;> first | rfl | exact absurd ho (by decide)
  rw [settings, List.find?_filterMap, test, found]
  cases h : s.value? o <;> simp [h]

theorem of_mem_settings {g : Opt × String} (hg : g ∈ s.settings) :
    g.1 ∈ settingOptions ∧ s.value? g.1 = some g.2 := by
  obtain ⟨o, ho, hv⟩ := List.mem_filterMap.1 hg
  obtain ⟨v, hs, rfl⟩ := Option.map_eq_some_iff.1 hv
  exact ⟨ho, hs⟩

theorem map_fst_settings_sublist : (s.settings.map Prod.fst).Sublist settingOptions := by
  have keep : (fun o => ((s.value? o).map (o, ·)).map Prod.fst) = Option.guard fun o => (s.value? o).isSome := by
    funext o
    cases h : s.value? o <;> simp [Option.guard, h]
  rw [settings, List.map_filterMap, keep, List.filterMap_eq_filter]
  exact List.filter_sublist

/-- The settings of a check depend on these options only. -/
theorem settings?_congr (h : ∀ o ∈ settingOptions, t.value? o = s.value? o) : t.settings? = s.settings? := by
  simp only [settings?, h .nameserver (by decide), h .depth (by decide), h .timeout (by decide),
    h .attempts (by decide)]

end

/-- The options of a check of one sender and domain with the settings of what has been read. -/
def single (s : Scan) (ip domain : String) : List (Opt × String) :=
  (.ip, ip) :: (.domain, domain) :: s.settings

section

variable {s : Scan} {o : Opt} {ip domain : String}

/-- All of these options can be given to a check. -/
theorem single_taken (hs : s.Accepted) (hip : Opt.ip.accepts ip = true) :
    ∀ g ∈ s.single ip domain, g.1 ∈ Level.check.options ∧ g.1.takesValue = true ∧ g.1.accepts g.2 = true := by
  intro g hg
  rcases List.mem_cons.1 hg with rfl | hg
  · exact ⟨by simp [Level.options], rfl, hip⟩
  rcases List.mem_cons.1 hg with rfl | hg
  · exact ⟨by simp [Level.options], rfl, rfl⟩
  obtain ⟨ho, hv⟩ := of_mem_settings hg
  have known : ∀ o ∈ settingOptions, o ∈ Level.check.options ∧ o.takesValue = true := by decide
  exact ⟨(known _ ho).1, (known _ ho).2, hs.of_value? hv⟩

/-- None of these options is given twice. -/
theorem single_once : ((s.single ip domain).map Prod.fst).Nodup := by
  have all : (Opt.ip :: Opt.domain :: settingOptions).Nodup := by decide
  exact all.sublist ((map_fst_settings_sublist.cons_cons _).cons_cons _)

/-- The option to be verbose, if it is given. -/
def verbosity (verbose : Bool) : List (Opt × String) :=
  if verbose then [(.verbose, "")] else []

/-- What is read of the command line of a check of one sender and domain. -/
def one (s : Scan) (ip domain : String) (verbose : Bool) : Scan :=
  ofCheck (s.single ip domain ++ verbosity verbose)

variable {verbose : Bool}

theorem mem_one {g : Opt × String} (hg : g ∈ s.single ip domain ++ verbosity verbose) :
    g.1 ∈ .ip :: .domain :: .verbose :: settingOptions := by
  rcases List.mem_append.1 hg with hg | hg
  · rcases List.mem_cons.1 hg with rfl | hg
    · simp
    rcases List.mem_cons.1 hg with rfl | hg
    · simp
    have ho := (of_mem_settings hg).1
    simp [ho]
  · cases verbose with
    | false => cases hg
    | true =>
      rw [List.mem_singleton.1 hg]
      simp

theorem value?_one_of_setting (ho : o ∈ settingOptions) : (s.one ip domain verbose).value? o = s.value? o := by
  have other : Opt.ip ≠ o ∧ Opt.domain ≠ o ∧ Opt.verbose ≠ o := by
    refine ⟨?_, ?_, ?_⟩ <;> rintro rfl <;> exact absurd ho (by decide)
  have silent : (verbosity verbose).find? (·.1 = o) = none := by
    cases verbose <;> simp [verbosity, other.2.2]
  rw [one, value?_ofCheck, List.find?_append, silent, Option.or_none, single,
    List.find?_cons_of_neg (by simpa using other.1), List.find?_cons_of_neg (by simpa using other.2.1)]
  exact find?_settings ho

theorem subject?_one {sender : Address} (hip : Address.ofText? ip = some sender) :
    (s.one ip domain verbose).subject? = some (.one sender domain none) := by
  have absent : ∀ o, o ∉ .ip :: .domain :: .verbose :: settingOptions →
      ∀ g ∈ s.single ip domain ++ verbosity verbose, ¬ decide (g.1 = o) = true := by
    intro o ho g hg h
    rw [decide_eq_true_eq] at h
    exact ho (h ▸ mem_one hg)
  have hstdin : (s.one ip domain verbose).has .check .stdin = false := by
    rw [one, has_ofCheck, List.any_eq_false]
    exact absent .stdin (by decide)
  have hrecord : (s.one ip domain verbose).value? .record = none := by
    rw [one, value?_ofCheck, Option.map_eq_none_iff, List.find?_eq_none]
    exact absent .record (by decide)
  have hsender : (s.one ip domain verbose).value? .ip = some ip := by
    rw [one, value?_ofCheck]
    rfl
  have hdomain : (s.one ip domain verbose).value? .domain = some domain := by
    rw [one, value?_ofCheck]
    rfl
  simp [subject?, hstdin, hrecord, hsender, hdomain, hip]

theorem any_verbose_one : (s.one ip domain verbose).given.any (fun g => g.2.1 = .verbose) = verbose := by
  have quiet : s.settings.any (fun g => g.1 = .verbose) = false := by
    rw [List.any_eq_false]
    intro g hg h
    have ho := (of_mem_settings hg).1
    rw [of_decide_eq_true h] at ho
    exact absurd ho (by decide)
  cases verbose with
  | false => simpa [one, ofCheck, single, verbosity, Function.comp_def] using quiet
  | true => simp [one, ofCheck, verbosity]

end

/-- What a command line of a check says of its settings and its format. -/
theorem of_finish? {s : Scan} {subject : Subject} {options : Options} {format : String} {verbose : Bool}
    (h : s.finish? = some (.run (.check subject options) format verbose)) :
    s.settings? = some options ∧ (s.value? .format).getD "human" = format := by
  obtain ⟨c, hc, hr⟩ := Option.bind_eq_some_iff.1 h
  simp only [Option.pure_def, Option.some.injEq, Request.run.injEq] at hr
  obtain ⟨rfl, hformat, -⟩ := hr
  refine ⟨?_, hformat⟩
  unfold command? at hc
  split at hc
  · cases hc
  · obtain ⟨sub, -, hc⟩ := Option.bind_eq_some_iff.1 hc
    obtain ⟨o, ho, hc⟩ := Option.bind_eq_some_iff.1 hc
    cases hc
    exact ho
  · obtain ⟨text, -, hc⟩ := Option.map_eq_some_iff.1 hc
    cases hc
  · cases hc

/-- The depth of a check is a number of 32 bits. -/
theorem bounds_of_settings? {s : Scan} {options : Options} (h : s.settings? = some options) :
    -0x80000000 ≤ options.maxDepth ∧ options.maxDepth < 0x80000000 := by
  simp only [settings?, Option.bind_eq_bind, Option.bind_eq_some_iff, Option.pure_def, Option.some.injEq] at h
  obtain ⟨_, -, depth, hd, _, -, _, -, rfl⟩ := h
  show -0x80000000 ≤ depth ∧ depth < 0x80000000
  cases hv : s.value? .depth with
  | none =>
    rw [hv] at hd
    cases hd
    decide
  | some v =>
    rw [hv] at hd
    simpa using (Option.filter_eq_some_iff.1 hd).2

/-- What is read of the command line of a check of one sender and domain asks for it, with the same settings. -/
theorem finish?_one {s : Scan} {ip domain : String} {sender : Address} {options : Options}
    (hip : Address.ofText? ip = some sender) (hs : s.settings? = some options) (verbose : Bool) :
    (s.one ip domain verbose).finish? =
      some (.run (.check (.one sender domain none) options) ((s.value? .format).getD "human") verbose) := by
  have hsettings : (s.one ip domain verbose).settings? = some options := by
    rw [settings?_congr fun o ho => value?_one_of_setting ho, hs]
  have hcommand : (s.one ip domain verbose).command? = some (.check (.one sender domain none) options) := by
    have level : (s.one ip domain verbose).level = .check := rfl
    rw [command?, level, subject?_one hip, hsettings]
    rfl
  rw [finish?, hcommand, any_verbose_one, value?_one_of_setting (by decide)]
  rfl

/-- The command line of a check of one sender and domain is read to its end. -/
theorem scan_one {s : Scan} {ip domain : String} (hs : s.Accepted) (hip : Opt.ip.accepts ip = true) (verbose : Bool) :
    scan (ofCheck []) (spell (s.single ip domain) ++ if verbose then ["--verbose"] else []) =
      (s.one ip domain verbose).finish? := by
  rw [scan_spell (single_taken hs hip) single_once, List.nil_append]
  cases verbose with
  | false => simp [one, verbosity, scan_nil]
  | true =>
    have given : s.one ip domain true =
        ⟨.check, (s.single ip domain).map (.check, ·) ++ [(.check, .verbose, "")], [], false⟩ := by
      simp [one, ofCheck, verbosity]
    rw [given]
    rfl

end Scan

open Scan in
theorem Request.bounds_of_check {args : List String} {subject : Subject} {options : Options} {format : String}
    {verbose : Bool} (h : ofArguments? args = some (.run (.check subject options) format verbose)) :
    -0x80000000 ≤ options.maxDepth ∧ options.maxDepth < 0x80000000 := by
  obtain ⟨t, -, hf⟩ := exists_accepted_of_scan (s := {}) (by simp [Accepted]) h
  exact bounds_of_settings? (of_finish? hf).1

open Scan in
/-- To every command line of a check there are settings which, given with any sender and domain, ask for the check
of these two in its place and agree with it in everything else. -/
theorem Request.exists_settings {args : List String} {subject : Subject} {options : Options} {format : String}
    {verbose : Bool} (h : ofArguments? args = some (.run (.check subject options) format verbose)) :
    ∃ settings, ∀ ip domain sender, Address.ofText? ip = some sender →
      ofArguments? ("check" :: Opt.ip.spelled ip :: Opt.domain.spelled domain :: settings) =
        some (.run (.check (.one sender domain none) options) format verbose) := by
  obtain ⟨t, ht, hf⟩ := exists_accepted_of_scan (s := {}) (by simp [Accepted]) h
  obtain ⟨hsettings, rfl⟩ := of_finish? hf
  refine ⟨spell t.settings ++ if verbose then ["--verbose"] else [], fun ip domain sender hip => ?_⟩
  have hip' : Opt.ip.accepts ip = true := by simp [Opt.accepts, hip]
  have start : ofArguments? ("check" :: Opt.ip.spelled ip :: Opt.domain.spelled domain ::
      (spell t.settings ++ if verbose then ["--verbose"] else [])) =
      scan (ofCheck []) (spell (t.single ip domain) ++ if verbose then ["--verbose"] else []) := rfl
  rw [start, scan_one ht hip', finish?_one hip hsettings]

end SenderPolicy.Cli
