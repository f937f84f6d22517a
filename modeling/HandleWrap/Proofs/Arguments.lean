import HandleWrap.CommandLine.Command
import HandleWrap.Proofs.Success

set_option autoImplicit false

/-! # What arguments ask for

The arguments of `generate` are read from left to right into a draft. What they ask for can be said
without the draft and without an order of reading: an option takes the argument behind it as its
value (`valuesOf`), and all others stand for themselves (`standing`). A request has the one path
among those, the flags among those, and of each option the last value
(`askedBy_of_ofArguments`). -/

namespace HandleWrap.CommandLine

/-- Whether the argument behind this one is its value. -/
def isOption (argument : String) : Bool :=
  argument == "--config" || argument == "-c" || argument == "--output" || argument == "-o"

/-- The arguments that stand for themselves: all but the options and their values. -/
def standing : List String → List String
  | [] => []
  | [argument] => if isOption argument then [] else [argument]
  | argument :: value :: rest =>
    if isOption argument then standing rest else argument :: standing (value :: rest)

/-- The values of the option with that long and that short name, in order. -/
def valuesOf (long short : String) : List String → List String
  | argument :: value :: rest =>
    if isOption argument then
      (if argument = long ∨ argument = short then [value] else []) ++ valuesOf long short rest
    else valuesOf long short (value :: rest)
  | _ => []

/-- The request is the one that the arguments ask for. -/
structure GenerateRequest.AskedBy (r : GenerateRequest) (arguments : List String) : Prop where
  /-- There is exactly one path among the arguments that stand for themselves. -/
  table : (standing arguments).filter (!isFlag ·) = [r.table]
  settings : r.settings = (valuesOf "--config" "-c" arguments).getLast?
  output : r.output = (valuesOf "--output" "-o" arguments).getLast?
  noExceptions : r.noExceptions = true ↔ "--no-exceptions" ∈ standing arguments
  noExtensions : r.noExtensions = true ↔ "--no-extensions" ∈ standing arguments

namespace GenerateDraft

variable {d d' : GenerateDraft} {argument value : String} {arguments rest : List String}

/-- What reading arguments adds to a draft. -/
structure Adds (d : GenerateDraft) (arguments : List String) (d' : GenerateDraft) : Prop where
  table : d'.table.toList = d.table.toList ++ (standing arguments).filter (!isFlag ·)
  settings : d'.settings = (valuesOf "--config" "-c" arguments).getLast?.or d.settings
  output : d'.output = (valuesOf "--output" "-o" arguments).getLast?.or d.output
  noExceptions : d'.noExceptions = true ↔
    d.noExceptions = true ∨ "--no-exceptions" ∈ standing arguments
  noExtensions : d'.noExtensions = true ↔
    d.noExtensions = true ∨ "--no-extensions" ∈ standing arguments

/-! ## One argument -/

theorem isOption_eq_true_iff :
    isOption argument = true ↔ (argument = "--config" ∨ argument = "-c") ∨
      (argument = "--output" ∨ argument = "-o") := by
  simp [isOption, or_assoc]

theorem withOption?_eq_none_iff : d.withOption? argument = none ↔ isOption argument = false := by
  rw [← Bool.not_eq_true, isOption_eq_true_iff]
  unfold withOption?
  split
  · next hconfig => simp [hconfig]
  · next hconfig =>
    split
    · next houtput => simp [houtput]
    · next houtput => simp [hconfig, houtput]

theorem standing_option (h : isOption argument = true) :
    standing (argument :: value :: rest) = standing rest := by
  rw [standing, if_pos h]

theorem standing_cons (h : isOption argument = false) :
    standing (argument :: rest) = argument :: standing rest := by
  cases rest with
  | nil => simp [standing, h]
  | cons next rest => rw [standing, h, if_neg Bool.false_ne_true]

theorem valuesOf_cons (long short : String) (h : isOption argument = false) :
    valuesOf long short (argument :: rest) = valuesOf long short rest := by
  cases rest with
  | nil => rfl
  | cons next rest => rw [valuesOf, h, if_neg Bool.false_ne_true]

/-- The last value of an option is the value it is given first, unless it is given again. -/
theorem getLast?_valuesOf {long short : String} (h : isOption argument = true)
    (earlier : Option String) :
    (valuesOf long short (argument :: value :: rest)).getLast?.or earlier =
      (valuesOf long short rest).getLast?.or
        (if argument = long ∨ argument = short then some value else earlier) := by
  rw [valuesOf, if_pos h, List.getLast?_append, Option.or_assoc]
  split <;> rfl

/-- An option sets one field. -/
theorem set_eq_of_withOption? {set : String → GenerateDraft}
    (h : d.withOption? argument = some set) (value : String) :
    set value = { d with
      settings := if argument = "--config" ∨ argument = "-c" then some value else d.settings
      output := if argument = "--output" ∨ argument = "-o" then some value else d.output } := by
  unfold withOption? at h
  split at h
  · next hconfig =>
    have houtput : ¬ (argument = "--output" ∨ argument = "-o") := by
      rcases hconfig with rfl | rfl <;> simp
    cases h
    rw [if_pos hconfig, if_neg houtput]
  · next hconfig =>
    split at h
    · next houtput =>
      cases h
      rw [if_neg hconfig, if_pos houtput]
    · cases h

theorem adds_nil (d : GenerateDraft) : d.Adds [] d where
  table := (List.append_nil _).symm
  settings := rfl
  output := rfl
  noExceptions := by simp [standing]
  noExtensions := by simp [standing]

/-- The arguments behind an option and its value count more than the value. -/
theorem Adds.withOption {set : String → GenerateDraft} (hset : d.withOption? argument = some set)
    (h : (set value).Adds rest d') : d.Adds (argument :: value :: rest) d' := by
  have hoption : isOption argument = true := by
    rw [← Bool.not_eq_false, ← withOption?_eq_none_iff (d := d), hset]
    simp
  rw [set_eq_of_withOption? hset] at h
  obtain ⟨htable, hsettings, houtput, hexceptions, hextensions⟩ := h
  refine ⟨?_, ?_, ?_, ?_, ?_⟩
  · rw [standing_option hoption]
    exact htable
  · rw [getLast?_valuesOf hoption]
    exact hsettings
  · rw [getLast?_valuesOf hoption]
    exact houtput
  · rw [standing_option hoption]
    exact hexceptions
  · rw [standing_option hoption]
    exact hextensions

/-- An argument that stands for itself is one of the two flags or the path. -/
theorem withArgument_eq_ok (h : d.withArgument argument = .ok d') :
    (argument = "--no-exceptions" ∧ d' = { d with noExceptions := true }) ∨
      (argument = "--no-extensions" ∧ d' = { d with noExtensions := true }) ∨
      isFlag argument = false ∧ d.table = none ∧ d' = { d with table := some argument } := by
  unfold withArgument at h
  split at h
  · next hexceptions => exact .inl ⟨hexceptions, (Except.ok.inj h).symm⟩
  · split at h
    · next hextensions => exact .inr (.inl ⟨hextensions, (Except.ok.inj h).symm⟩)
    · split at h
      · cases h
      · next hpath =>
        split at h
        · cases h
        · next hnone =>
          exact .inr (.inr ⟨Bool.eq_false_iff.2 hpath, Option.not_isSome_iff_eq_none.1 hnone,
            (Except.ok.inj h).symm⟩)

/-- An argument that stands for itself adds itself. -/
theorem Adds.withArgument {between : GenerateDraft} (hoption : d.withOption? argument = none)
    (hbetween : d.withArgument argument = .ok between) (h : between.Adds rest d') :
    d.Adds (argument :: rest) d' := by
  have hplain := withOption?_eq_none_iff.1 hoption
  have hstanding : standing (argument :: rest) = argument :: standing rest :=
    standing_cons hplain
  have hflags : isFlag "--no-exceptions" = true ∧ isFlag "--no-extensions" = true := ⟨rfl, rfl⟩
  obtain ⟨htable, hsettings, houtput, hexceptions, hextensions⟩ := h
  rw [← valuesOf_cons "--config" "-c" hplain] at hsettings
  rw [← valuesOf_cons "--output" "-o" hplain] at houtput
  rcases withArgument_eq_ok hbetween with ⟨rfl, rfl⟩ | ⟨rfl, rfl⟩ | ⟨hpath, hnone, rfl⟩
  · refine ⟨?_, hsettings, houtput, ?_, ?_⟩
    · simpa [hstanding, hflags] using htable
    · simpa [hstanding] using hexceptions
    · simpa [hstanding] using hextensions
  · refine ⟨?_, hsettings, houtput, ?_, ?_⟩
    · simpa [hstanding, hflags] using htable
    · simpa [hstanding] using hexceptions
    · simpa [hstanding] using hextensions
  · have hne : ∀ flag, isFlag flag = true → flag ≠ argument := by
      rintro flag hflag rfl
      rw [hflag] at hpath
      cases hpath
    refine ⟨?_, hsettings, houtput, ?_, ?_⟩
    · simpa [hstanding, hpath, hnone] using htable
    · simpa [hstanding, hne _ hflags.1] using hexceptions
    · simpa [hstanding, hne _ hflags.2] using hextensions

/-! ## All arguments -/

theorem adds_of_read (h : d.read arguments = .ok d') : d.Adds arguments d' := by
  induction d, arguments using GenerateDraft.read.induct with
  | case1 d =>
    obtain rfl : d = d' := Except.ok.inj h
    exact adds_nil d
  | case2 d argument set hset =>
    rw [read, hset] at h
    cases h
  | case3 d argument hoption =>
    rw [read, hoption] at h
    exact Adds.withArgument hoption h (adds_nil d')
  | case4 d argument value rest set hset ih =>
    rw [read, hset] at h
    exact Adds.withOption hset (ih h)
  | case5 d argument value rest hoption between hbetween ih =>
    simp only [read, hoption, hbetween] at h
    exact Adds.withArgument hoption hbetween (ih h)
  | case6 d argument value rest hoption e herror =>
    simp only [read, hoption, herror] at h
    cases h

/-- Arguments of `generate` come behind a command. -/
theorem read_ne_missingCommand (d : GenerateDraft) (arguments : List String) :
    d.read arguments ≠ .error .missingCommand := by
  have hargument : ∀ d argument, withArgument d argument ≠ .error .missingCommand := by
    intro d argument
    unfold withArgument
    repeat' split
    all_goals simp
  induction d, arguments using GenerateDraft.read.induct with
  | case1 d => simp [read]
  | case2 d argument set hset => simp [read, hset]
  | case3 d argument hoption =>
    rw [read, hoption]
    exact hargument d argument
  | case4 d argument value rest set hset ih =>
    rw [read, hset]
    exact ih
  | case5 d argument value rest hoption between hbetween ih =>
    simp only [read, hoption, hbetween]
    exact ih
  | case6 d argument value rest hoption e herror =>
    simp only [read, hoption, herror]
    exact herror ▸ hargument d argument

end GenerateDraft

/-- **A request is what its arguments ask for.** -/
theorem askedBy_of_ofArguments {r : GenerateRequest} {arguments : List String}
    (h : GenerateRequest.ofArguments arguments = .ok r) : r.AskedBy arguments := by
  obtain ⟨d, hread, hrequest⟩ := bind_eq_ok_iff.1 h
  obtain ⟨htable, hsettings, houtput, hexceptions, hextensions⟩ := GenerateDraft.adds_of_read hread
  cases hpath : d.table with
  | none => rw [hpath] at hrequest; cases hrequest
  | some path =>
    rw [hpath] at hrequest htable
    cases hrequest
    refine ⟨?_, ?_, ?_, ?_, ?_⟩
    · simpa using htable.symm
    · simpa using hsettings
    · simpa using houtput
    · simpa using hexceptions
    · simpa using hextensions

theorem ofArguments_ne_missingCommand (arguments : List String) :
    GenerateRequest.ofArguments arguments ≠ .error .missingCommand := by
  intro h
  unfold GenerateRequest.ofArguments at h
  cases hread : GenerateDraft.read {} arguments with
  | error e =>
    rw [hread] at h
    obtain rfl : e = .missingCommand := Except.error.inj h
    exact GenerateDraft.read_ne_missingCommand {} arguments hread
  | ok d =>
    rw [hread] at h
    obtain ⟨table, settings, output, noExceptions, noExtensions⟩ := d
    cases table <;> cases h

end HandleWrap.CommandLine
