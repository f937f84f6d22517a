import HandleWrap.Proofs.Arguments

set_option autoImplicit false

/-! # The grammar of arguments

The arguments of `generate` are a sequence of items: flags, options with their values, and paths.
An item is spelled by one or two arguments, a value may look like anything, and every list of
arguments is spelled by at most one sequence of items (`spelled_injective`). The arguments are
accepted exactly if they are spelled by items among which there is one path, and then the request is
read off the items (`Describes`). Else the arguments begin with items that fit, and the first
argument that does not fit is the one reported (`Offends`); with no such argument it is the path
that is missing (`Rejected`). -/

namespace HandleWrap.CommandLine

/-! ## Items -/

/-- Whether the argument is one of the flags. -/
def isKnownFlag (argument : String) : Bool :=
  argument == "--no-exceptions" || argument == "--no-extensions"

/-- One item of the arguments. -/
inductive Item where
  | flag (name : String) (known : isKnownFlag name = true)
  | option (name value : String) (known : isOption name = true)
  | path (argument : String) (plain : isFlag argument = false)

namespace Item

/-- The arguments that spell the item. -/
def arguments : Item → List String
  | flag name _ => [name]
  | option name value _ => [name, value]
  | path argument _ => [argument]

def flag? : Item → Option String
  | flag name _ => some name
  | _ => none

/-- The value, if the item is the option with that long and that short name. -/
def value? (long short : String) : Item → Option String
  | option name value _ => if name = long ∨ name = short then some value else none
  | _ => none

def path? : Item → Option String
  | path argument _ => some argument
  | _ => none

end Item

/-- The arguments that spell the items one after the other. -/
def spelled (items : List Item) : List String :=
  items.flatMap Item.arguments

/-- The flags among the items. -/
def flags (items : List Item) : List String :=
  items.filterMap Item.flag?

/-- The values of the settings option among the items. -/
def settingsValues (items : List Item) : List String :=
  items.filterMap (Item.value? "--config" "-c")

/-- The values of the output option among the items. -/
def outputValues (items : List Item) : List String :=
  items.filterMap (Item.value? "--output" "-o")

/-- The paths among the items. -/
def paths (items : List Item) : List String :=
  items.filterMap Item.path?

/-- The request is the one that the items make. -/
structure Describes (items : List Item) (r : GenerateRequest) : Prop where
  table : paths items = [r.table]
  settings : r.settings = (settingsValues items).getLast?
  output : r.output = (outputValues items).getLast?
  noExceptions : r.noExceptions = true ↔ "--no-exceptions" ∈ flags items
  noExtensions : r.noExtensions = true ↔ "--no-extensions" ∈ flags items

/-- Whether the argument looks like a flag and means nothing. -/
def isUnknownFlag (argument : String) : Bool :=
  isFlag argument && !isOption argument && !isKnownFlag argument

/-- `Offends tabled arguments e`: the first of the arguments does not fit, for the reason `e`, where
    `tabled` says that there is a path before. -/
inductive Offends (tabled : Prop) : List String → UsageError → Prop where
  | missingValue {option : String} (hoption : isOption option = true) :
      Offends tabled [option] (.missingValue (GenerateDraft.longName option))
  | unknownFlag {flag : String} {rest : List String} (hflag : isUnknownFlag flag = true) :
      Offends tabled (flag :: rest) (.unknownFlag flag)
  | unexpected {argument : String} {rest : List String} (hplain : isFlag argument = false)
      (htabled : tabled) : Offends tabled (argument :: rest) (.unexpected argument)

/-- `Rejected arguments e`: behind items that fit comes an argument that does not, or all items fit
    and none is a path. -/
inductive Rejected : List String → UsageError → Prop where
  | offends {items : List Item} {rest : List String} {e : UsageError}
      (hfit : (paths items).length ≤ 1) (hrest : Offends (paths items ≠ []) rest e) :
      Rejected (spelled items ++ rest) e
  | missingTable {items : List Item} (hnone : paths items = []) :
      Rejected (spelled items) (.missingTable "generate")

variable {d : GenerateDraft} {item item' : Item} {items items' : List Item} {e : UsageError}
  {argument : String} {arguments rest rest' : List String} {r : GenerateRequest}

/-! ## One argument -/

theorem isKnownFlag_eq_true_iff :
    isKnownFlag argument = true ↔ argument = "--no-exceptions" ∨ argument = "--no-extensions" := by
  simp [isKnownFlag]

theorem isFlag_of_isKnownFlag (h : isKnownFlag argument = true) : isFlag argument = true := by
  rcases isKnownFlag_eq_true_iff.1 h with rfl | rfl <;> rfl

theorem isFlag_of_isOption (h : isOption argument = true) : isFlag argument = true := by
  rcases GenerateDraft.isOption_eq_true_iff.1 h with (rfl | rfl) | (rfl | rfl) <;> rfl

theorem isOption_of_isFlag_eq_false (h : isFlag argument = false) : isOption argument = false :=
  Bool.eq_false_iff.2 fun hoption => Bool.false_ne_true (h.symm.trans (isFlag_of_isOption hoption))

theorem isOption_of_isUnknownFlag (h : isUnknownFlag argument = true) :
    isOption argument = false := by
  simp only [isUnknownFlag, Bool.and_eq_true, Bool.not_eq_true'] at h
  exact h.1.2

theorem isOption_of_isKnownFlag (h : isKnownFlag argument = true) : isOption argument = false := by
  rcases isKnownFlag_eq_true_iff.1 h with rfl | rfl <;> rfl

/-- Every argument is a flag, an option, a path or a flag that means nothing. -/
theorem argument_cases (argument : String) :
    isKnownFlag argument = true ∨ isOption argument = true ∨ isFlag argument = false ∨
      isUnknownFlag argument = true := by
  unfold isUnknownFlag
  cases isFlag argument <;> cases isOption argument <;> cases isKnownFlag argument <;> simp

/-! ## Uniqueness -/

/-- What items begin with tells the first item and what comes behind it: no argument is of two
    kinds. -/
theorem arguments_append_inj (h : item.arguments ++ rest = item'.arguments ++ rest') :
    item = item' ∧ rest = rest' := by
  cases item with
  | flag name known =>
      have hoption := isOption_of_isKnownFlag known
      have hflag := isFlag_of_isKnownFlag known
      cases item' with
      | flag name' known' =>
          obtain ⟨rfl, rfl⟩ := List.cons.inj h
          exact ⟨rfl, rfl⟩
      | option name' value known' =>
          obtain ⟨rfl, _⟩ := List.cons.inj h
          exact absurd known' (Bool.eq_false_iff.1 hoption)
      | path argument plain =>
          obtain ⟨rfl, _⟩ := List.cons.inj h
          exact absurd hflag (Bool.eq_false_iff.1 plain)
  | option name value known =>
      have hflag := isFlag_of_isOption known
      cases item' with
      | flag name' known' =>
          obtain ⟨rfl, _⟩ := List.cons.inj h
          exact absurd known (Bool.eq_false_iff.1 (isOption_of_isKnownFlag known'))
      | option name' value' known' =>
          obtain ⟨rfl, htail⟩ := List.cons.inj h
          obtain ⟨rfl, rfl⟩ := List.cons.inj htail
          exact ⟨rfl, rfl⟩
      | path argument plain =>
          obtain ⟨rfl, _⟩ := List.cons.inj h
          exact absurd hflag (Bool.eq_false_iff.1 plain)
  | path argument plain =>
      cases item' with
      | flag name' known' =>
          obtain ⟨rfl, _⟩ := List.cons.inj h
          exact absurd (isFlag_of_isKnownFlag known') (Bool.eq_false_iff.1 plain)
      | option name' value known' =>
          obtain ⟨rfl, _⟩ := List.cons.inj h
          exact absurd (isFlag_of_isOption known') (Bool.eq_false_iff.1 plain)
      | path argument' plain' =>
          obtain ⟨rfl, rfl⟩ := List.cons.inj h
          exact ⟨rfl, rfl⟩

/-- **A list of arguments is spelled by one sequence of items at most.** -/
theorem spelled_injective : Function.Injective spelled := by
  intro items items' h
  induction items generalizing items' with
  | nil =>
      cases items' with
      | nil => rfl
      | cons item' items' => cases item' <;> cases h
  | cons item items ih =>
      cases items' with
      | nil => cases item <;> cases h
      | cons item' items' =>
          obtain ⟨rfl, hrest⟩ := arguments_append_inj h
          rw [ih hrest]

/-! ## One item -/

namespace GenerateDraft

/-- The draft after more items. -/
def withItems (d : GenerateDraft) (items : List Item) : GenerateDraft where
  table := d.table.or (paths items).head?
  settings := (settingsValues items).getLast?.or d.settings
  output := (outputValues items).getLast?.or d.output
  noExceptions := d.noExceptions || "--no-exceptions" ∈ flags items
  noExtensions := d.noExtensions || "--no-extensions" ∈ flags items

theorem withItems_nil (d : GenerateDraft) : d.withItems [] = d := by
  simp [withItems, paths, settingsValues, outputValues, flags]

theorem withItems_append (d : GenerateDraft) (items items' : List Item) :
    d.withItems (items ++ items') = (d.withItems items).withItems items' := by
  simp [withItems, paths, settingsValues, outputValues, flags, Option.or_assoc, Bool.or_assoc]

/-- An argument that is no option is read by itself. -/
theorem read_cons (hoption : isOption argument = false) :
    d.read (argument :: rest) = d.withArgument argument >>= fun d => d.read rest := by
  have hnone : d.withOption? argument = none := withOption?_eq_none_iff.2 hoption
  cases rest with
  | nil =>
      rw [read, hnone]
      cases d.withArgument argument <;> rfl
  | cons next rest =>
      rw [read, hnone]
      cases d.withArgument argument <;> rfl

theorem withArgument_flag (h : isKnownFlag argument = true) :
    d.withArgument argument = .ok { d with
      noExceptions := d.noExceptions || "--no-exceptions" = argument
      noExtensions := d.noExtensions || "--no-extensions" = argument } := by
  rcases isKnownFlag_eq_true_iff.1 h with rfl | rfl <;> simp [withArgument]

theorem withArgument_path (h : isFlag argument = false) :
    d.withArgument argument = if d.table.isSome then .error (.unexpected argument)
      else .ok { d with table := some argument } := by
  have hne : ∀ flag, isFlag flag = true → argument ≠ flag := by
    rintro flag hflag rfl
    rw [h] at hflag
    cases hflag
  rw [withArgument, if_neg (hne _ rfl), if_neg (hne _ rfl), h, if_neg Bool.false_ne_true]

theorem withArgument_unknown (h : isUnknownFlag argument = true) :
    d.withArgument argument = .error (.unknownFlag argument) := by
  simp only [isUnknownFlag, isKnownFlag, Bool.and_eq_true, Bool.not_eq_true', Bool.or_eq_false_iff,
    beq_eq_false_iff_ne] at h
  obtain ⟨⟨hflag, _⟩, hexceptions, hextensions⟩ := h
  rw [withArgument, if_neg hexceptions, if_neg hextensions, if_pos hflag]

theorem value?_or {long short name value : String} (known : isOption name = true)
    (earlier : Option String) :
    (Item.value? long short (.option name value known)).or earlier =
      if name = long ∨ name = short then some value else earlier := by
  rw [Item.value?]
  split <;> rfl

/-- **One step:** an item that fits is read into the draft. -/
theorem read_item (hfits : item.path? = none ∨ d.table = none) :
    d.read (item.arguments ++ rest) = (d.withItems [item]).read rest := by
  cases item with
  | flag name known =>
      have hdraft : d.withItems [.flag name known] = { d with
          noExceptions := d.noExceptions || "--no-exceptions" = name
          noExtensions := d.noExtensions || "--no-extensions" = name } := by
        simp [withItems, paths, settingsValues, outputValues, flags, Item.path?, Item.value?,
          Item.flag?]
      rw [hdraft, Item.arguments, List.singleton_append, read_cons (isOption_of_isKnownFlag known),
        withArgument_flag known]
      rfl
  | option name value known =>
      obtain ⟨set, hset⟩ : ∃ set, d.withOption? name = some set := by
        rw [← Option.ne_none_iff_exists', ne_eq, withOption?_eq_none_iff, known]
        simp
      have hdraft : d.withItems [.option name value known] = set value := by
        rw [set_eq_of_withOption? hset value]
        simp [withItems, paths, settingsValues, outputValues, flags, Item.path?, Item.flag?,
          value?_or]
      rw [hdraft, Item.arguments, List.cons_append, List.singleton_append, read, hset]
  | path argument plain =>
      have hnone : d.table = none := hfits.resolve_left (by simp [Item.path?])
      have hdraft : d.withItems [.path argument plain] = { d with table := some argument } := by
        simp [withItems, paths, settingsValues, outputValues, flags, Item.path?, Item.value?,
          Item.flag?, hnone]
      rw [hdraft, Item.arguments, List.singleton_append,
        read_cons (isOption_of_isFlag_eq_false plain), withArgument_path plain, hnone]
      rfl

/-! ## All items -/

/-- There is at most one path among the items, and none if the draft has one. -/
def Fits (d : GenerateDraft) (items : List Item) : Prop :=
  (d.table.toList ++ paths items).length ≤ 1

theorem fits_nil (d : GenerateDraft) : d.Fits [] := by
  unfold Fits
  cases d.table <;> simp [paths]

theorem fits_cons_iff :
    d.Fits (item :: items) ↔
      (item.path? = none ∨ d.table = none) ∧ (d.withItems [item]).Fits items := by
  have hpaths : paths (item :: items) = item.path?.toList ++ paths items := by
    rw [paths, List.filterMap_cons]
    cases item.path? <;> rfl
  have htable : (d.withItems [item]).table = d.table.or item.path? := by
    simp only [withItems, paths, List.filterMap_cons, List.filterMap_nil]
    cases item.path? <;> rfl
  rw [Fits, Fits, hpaths, htable]
  cases d.table <;> cases item.path? <;> simp

/-- **A whole run:** items that fit are read into the draft. -/
theorem read_spelled (hfit : d.Fits items) :
    d.read (spelled items ++ rest) = (d.withItems items).read rest := by
  -- every item moves into the draft, and the rest has to fit to what it has become
  induction items generalizing d with
  | nil =>
      rw [withItems_nil]
      rfl
  | cons item items ih =>
      obtain ⟨hitem, hrest⟩ := fits_cons_iff.1 hfit
      rw [← List.singleton_append, withItems_append, ← ih hrest, ← read_item hitem,
        ← List.append_assoc]
      rfl

/-- An argument that does not fit ends the reading. -/
theorem read_offends (h : Offends (d.table ≠ none) rest e) : d.read rest = .error e := by
  cases h with
  | missingValue hoption =>
      rw [read]
      split
      · rfl
      · next hnone => rw [withOption?_eq_none_iff.1 hnone] at hoption; cases hoption
  | unknownFlag hflag =>
      rw [read_cons (isOption_of_isUnknownFlag hflag), withArgument_unknown hflag]
      rfl
  | unexpected hplain htabled =>
      rw [read_cons (isOption_of_isFlag_eq_false hplain), withArgument_path hplain,
        if_pos (Option.isSome_iff_ne_none.2 htabled)]
      rfl

/-- What arguments come to: items that fit, and behind them nothing or an argument that does not. -/
def Splits (d : GenerateDraft) (arguments : List String) : Prop :=
  ∃ items rest, arguments = spelled items ++ rest ∧ d.Fits items ∧
    (rest = [] ∨ ∃ e, Offends ((d.withItems items).table ≠ none) rest e)

theorem Splits.of_offends (h : Offends (d.table ≠ none) arguments e) : d.Splits arguments := by
  refine ⟨[], arguments, rfl, fits_nil d, .inr ⟨e, ?_⟩⟩
  rwa [withItems_nil]

theorem Splits.cons (item : Item) (hitem : item.path? = none ∨ d.table = none)
    (h : (d.withItems [item]).Splits rest) : d.Splits (item.arguments ++ rest) := by
  obtain ⟨items, behind, rfl, hfits, hbehind⟩ := h
  refine ⟨item :: items, behind, (List.append_assoc _ _ _).symm, fits_cons_iff.2 ⟨hitem, hfits⟩, ?_⟩
  rwa [← List.singleton_append, withItems_append]

/-- Every list of arguments can be read so. -/
theorem splits (d : GenerateDraft) : (arguments : List String) → d.Splits arguments
  | [] => ⟨[], [], rfl, fits_nil d, .inl rfl⟩
  | argument :: rest => by
      rcases argument_cases argument with hflag | hoption | hplain | hunknown
      · exact Splits.cons (.flag argument hflag) (.inl rfl) (splits _ rest)
      · -- whatever stands behind an option is its value
        cases rest with
        | nil => exact .of_offends (.missingValue hoption)
        | cons value rest =>
            exact Splits.cons (.option argument value hoption) (.inl rfl) (splits _ rest)
      · by_cases htable : d.table = none
        · exact Splits.cons (.path argument hplain) (.inr htable) (splits _ rest)
        · exact .of_offends (.unexpected hplain htable)
      · exact .of_offends (.unknownFlag hunknown)

end GenerateDraft

/-! ## Requests -/

/-- The request that items with that path make. -/
def requested (items : List Item) (table : String) : GenerateRequest where
  table := table
  settings := (settingsValues items).getLast?
  output := (outputValues items).getLast?
  noExceptions := "--no-exceptions" ∈ flags items
  noExtensions := "--no-extensions" ∈ flags items

theorem describes_iff :
    Describes items r ↔ paths items = [r.table] ∧ r = requested items r.table := by
  obtain ⟨table, settings, output, noExceptions, noExtensions⟩ := r
  constructor
  · rintro ⟨htable, hsettings, houtput, hexceptions, hextensions⟩
    refine ⟨htable, GenerateRequest.mk.injEq .. ▸ ⟨rfl, hsettings, houtput, ?_, ?_⟩⟩
    · exact Bool.eq_iff_iff.2 (hexceptions.trans decide_eq_true_iff.symm)
    · exact Bool.eq_iff_iff.2 (hextensions.trans decide_eq_true_iff.symm)
  · rintro ⟨htable, hr⟩
    rw [hr]
    exact ⟨htable, rfl, rfl, decide_eq_true_iff, decide_eq_true_iff⟩

theorem fits_empty_iff : GenerateDraft.Fits {} items ↔ (paths items).length ≤ 1 :=
  Iff.rfl

/-- Items that fit make a request if one of them is a path. -/
theorem ofArguments_spelled (hfit : (paths items).length ≤ 1) :
    GenerateRequest.ofArguments (spelled items) = match (paths items).head? with
      | none => .error (.missingTable "generate")
      | some table => .ok (requested items table) := by
  have hread : GenerateDraft.read {} (spelled items ++ []) = _ :=
    GenerateDraft.read_spelled (fits_empty_iff.2 hfit)
  rw [List.append_nil] at hread
  rw [GenerateRequest.ofArguments, hread]
  simp only [GenerateDraft.read, GenerateDraft.withItems, Option.or_none, Option.none_or,
    Bool.false_or]
  cases (paths items).head? <;> rfl

theorem ofArguments_of_describes (h : Describes items r) :
    GenerateRequest.ofArguments (spelled items) = .ok r := by
  obtain ⟨hpath, hr⟩ := describes_iff.1 h
  have hfit : (paths items).length ≤ 1 := by simp [hpath]
  rw [ofArguments_spelled hfit, hpath]
  exact congrArg Except.ok hr.symm

theorem table_withItems_ne_none_iff :
    (GenerateDraft.withItems {} items).table ≠ none ↔ paths items ≠ [] := by
  rw [GenerateDraft.withItems, Option.none_or, ne_eq, List.head?_eq_none_iff]

theorem ofArguments_of_offends (hfit : (paths items).length ≤ 1)
    (h : Offends (paths items ≠ []) rest e) :
    GenerateRequest.ofArguments (spelled items ++ rest) = .error e := by
  rw [← table_withItems_ne_none_iff] at h
  rw [GenerateRequest.ofArguments, GenerateDraft.read_spelled (fits_empty_iff.2 hfit),
    GenerateDraft.read_offends h]
  rfl

theorem ofArguments_of_rejected (h : Rejected arguments e) :
    GenerateRequest.ofArguments arguments = .error e := by
  cases h with
  | offends hfit hrest => exact ofArguments_of_offends hfit hrest
  | missingTable hnone => rw [ofArguments_spelled (by simp [hnone]), hnone]; rfl

/-- Every list of arguments makes a request or is rejected. -/
theorem describes_or_rejected (arguments : List String) :
    (∃ items r, spelled items = arguments ∧ Describes items r) ∨ ∃ e, Rejected arguments e := by
  obtain ⟨items, rest, rfl, hfits, rfl | ⟨e, hrest⟩⟩ := GenerateDraft.splits {} arguments
  · rw [List.append_nil]
    rcases Nat.le_one_iff_eq_zero_or_eq_one.1 (fits_empty_iff.1 hfits) with hnone | hone
    · exact .inr ⟨_, .missingTable (List.length_eq_zero_iff.1 hnone)⟩
    · obtain ⟨table, hpath⟩ := List.length_eq_one_iff.1 hone
      exact .inl ⟨items, requested items table, rfl, describes_iff.2 ⟨hpath, rfl⟩⟩
  · rw [table_withItems_ne_none_iff] at hrest
    exact .inr ⟨e, .offends (fits_empty_iff.1 hfits) hrest⟩

theorem ofArguments_eq_ok_iff :
    GenerateRequest.ofArguments arguments = .ok r ↔
      ∃ items, spelled items = arguments ∧ Describes items r := by
  constructor
  · intro h
    rcases describes_or_rejected arguments with ⟨items, r', hspelled, hdescribes⟩ | ⟨e, hrejected⟩
    · have hr' := ofArguments_of_describes hdescribes
      rw [hspelled, h] at hr'
      obtain rfl := Except.ok.inj hr'
      exact ⟨items, hspelled, hdescribes⟩
    · rw [ofArguments_of_rejected hrejected] at h
      cases h
  · rintro ⟨items, rfl, hdescribes⟩
    exact ofArguments_of_describes hdescribes

theorem ofArguments_eq_error_iff :
    GenerateRequest.ofArguments arguments = .error e ↔ Rejected arguments e := by
  constructor
  · intro h
    rcases describes_or_rejected arguments with ⟨items, r, rfl, hdescribes⟩ | ⟨e', hrejected⟩
    · rw [ofArguments_of_describes hdescribes] at h
      cases h
    · rw [ofArguments_of_rejected hrejected] at h
      obtain rfl := Except.error.inj h
      exact hrejected
  · exact ofArguments_of_rejected

/-- The order of items matters only among the values of one option. -/
theorem ofArguments_perm (hperm : items'.Perm items)
    (hsettings : settingsValues items' = settingsValues items)
    (houtput : outputValues items' = outputValues items) (hfit : (paths items).length ≤ 1) :
    GenerateRequest.ofArguments (spelled items') =
      GenerateRequest.ofArguments (spelled items) := by
  have hpaths : (paths items').Perm (paths items) := hperm.filterMap _
  have hflags : ∀ flag, flag ∈ flags items' ↔ flag ∈ flags items := fun flag =>
    (hperm.filterMap Item.flag?).mem_iff
  have hrequested : ∀ table, requested items' table = requested items table := by
    intro table
    simp only [requested, hsettings, houtput, hflags]
  have hsame : paths items' = paths items := by
    rcases Nat.le_one_iff_eq_zero_or_eq_one.1 hfit with hnone | hone
    · rw [List.length_eq_zero_iff] at hnone
      rw [hnone] at hpaths ⊢
      exact hpaths.eq_nil
    · obtain ⟨table, hpath⟩ := List.length_eq_one_iff.1 hone
      rw [hpath] at hpaths ⊢
      exact hpaths.eq_singleton
  rw [ofArguments_spelled (hpaths.length_eq ▸ hfit), ofArguments_spelled hfit, hsame]
  simp only [hrequested]

/-- **The grammar of arguments:** arguments make a request exactly if they are spelled by items
    among which there is one path. The items are the only ones, they make the request, and their
    order matters only among the values of one option. Arguments are rejected for the first that
    does not fit behind items that do, and for a missing path only if all of them fit. -/
theorem ofArguments_grammar (arguments : List String) :
    (Succeeds (GenerateRequest.ofArguments arguments) ↔
      ∃ items, spelled items = arguments ∧ (paths items).length = 1) ∧
    (∀ items, spelled items = arguments →
      (∀ items', spelled items' = arguments → items' = items) ∧
      (∀ r, GenerateRequest.ofArguments arguments = .ok r ↔ Describes items r) ∧
      ∀ items', items'.Perm items → settingsValues items' = settingsValues items →
        outputValues items' = outputValues items → (paths items).length ≤ 1 →
        GenerateRequest.ofArguments (spelled items') = GenerateRequest.ofArguments arguments) ∧
    ∀ e, GenerateRequest.ofArguments arguments = .error e ↔ Rejected arguments e := by
  refine ⟨?_, ?_, fun e => ofArguments_eq_error_iff⟩
  · constructor
    · rintro ⟨r, hr⟩
      obtain ⟨items, hspelled, hdescribes⟩ := ofArguments_eq_ok_iff.1 hr
      exact ⟨items, hspelled, by rw [hdescribes.table]; rfl⟩
    · rintro ⟨items, rfl, hone⟩
      obtain ⟨table, hpath⟩ := List.length_eq_one_iff.1 hone
      exact ⟨requested items table, ofArguments_of_describes (describes_iff.2 ⟨hpath, rfl⟩)⟩
  · rintro items rfl
    refine ⟨fun items' h => spelled_injective h, fun r => ?_, fun items' => ofArguments_perm⟩
    rw [ofArguments_eq_ok_iff]
    constructor
    · rintro ⟨items', hspelled, hdescribes⟩
      rwa [← spelled_injective hspelled]
    · exact fun hdescribes => ⟨items, rfl, hdescribes⟩

/-- A value may look like an option, and the last value of an option counts. -/
theorem ofArguments_grammar_optionValue :
    GenerateRequest.ofArguments
        ["-c", "-o", "isl.json", "--no-exceptions", "--config", "isl.toml"] =
      .ok ⟨"isl.json", some "isl.toml", none, true, false⟩ := by
  have hitems : spelled [.option "-c" "-o" rfl, .path "isl.json" rfl, .flag "--no-exceptions" rfl,
      .option "--config" "isl.toml" rfl] =
      ["-c", "-o", "isl.json", "--no-exceptions", "--config", "isl.toml"] := rfl
  exact (((ofArguments_grammar _).2.1 _ hitems).2.1 _).2
    ⟨rfl, rfl, rfl, by decide, by decide⟩

end HandleWrap.CommandLine
