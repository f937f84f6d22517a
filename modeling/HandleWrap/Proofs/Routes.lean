import HandleWrap.CommandLine.Run
import HandleWrap.Proofs.Arguments
import HandleWrap.Proofs.FileChanges
import Mathlib

set_option autoImplicit false

/-! # One text on every way out

A header leaves the program in three ways: a build writes it to a file, and the command line writes
it to a file or prints it. Whatever can go wrong with settings, table and generation is found out
before anything is written, and leaves the files as they are. `Build.EndsIn` and `GenerateEndsIn`
list the ways in which a build and a command can end, each with the tree that it leaves behind;
`endsIn_afterBuild` and `generateEndsIn_afterRun` say that there are no others. In all of them the
text is the one that is generated for the table under the settings, so the three ways agree
(`one_text_or_nothing`). -/

namespace HandleWrap

open FileTree CommandLine

variable {tree tree' : FileTree} {path : String}

/-! ## Reading -/

namespace FileTree

/-- The class table in the file at a path, or why there is none. -/
def tableAt (tree : FileTree) (path : String) : Except TableLoadError ClassTable :=
  if (tree.find path).isOk then ClassTable.ofFile path (tree.readText path)
  else .error (.missing path)

/-- The settings in the file that a request names, or the standard settings. -/
def settingsFor (tree : FileTree) (r : GenerateRequest) : Except SettingsError Settings :=
  match r.settings with
  | some path => Settings.ofFile path (tree.readText path)
  | none => .ok .standard

/-- The file at the path has a text that decodes to the table. -/
def HoldsTable (tree : FileTree) (path : String) (table : ClassTable) : Prop :=
  ∃ source, tree.readText path = .ok source ∧ ClassTable.ofText source = .ok table

theorem HoldsTable.unique {table table' : ClassTable} (h : tree.HoldsTable path table)
    (h' : tree.HoldsTable path table') : table = table' := by
  obtain ⟨source, hsource, htable⟩ := h
  obtain ⟨source', hsource', htable'⟩ := h'
  obtain rfl : source = source' := Except.ok.inj (hsource.symm.trans hsource')
  exact Except.ok.inj (htable.symm.trans htable')

theorem tableAt_eq_ok_iff {table : ClassTable} :
    tree.tableAt path = .ok table ↔ tree.HoldsTable path table := by
  have hfile : ClassTable.ofFile path (tree.readText path) = .ok table ↔
      tree.HoldsTable path table := by
    unfold ClassTable.ofFile HoldsTable
    rw [bind_eq_ok_iff]
    simp only [mapError_eq_ok_iff]
  unfold tableAt
  split
  · exact hfile
  · next hmissing =>
    refine iff_of_false (by simp) ?_
    rintro ⟨source, hsource, _⟩
    obtain ⟨node, hnode, _⟩ := bind_eq_ok_iff.1 hsource
    rw [hnode] at hmissing
    exact hmissing rfl

theorem run_loadTable (tree : FileTree) (path : String) :
    (ClassTable.load path : StateM FileTree (Except TableLoadError ClassTable)).run tree =
      (tree.tableAt path, tree) := by
  unfold ClassTable.load tableAt
  rw [run_bind]
  change StateT.run (if (tree.find path).isOk then _ else _) tree = _
  split <;> rfl

theorem run_loadSettings (tree : FileTree) (r : GenerateRequest) :
    (r.loadSettings : StateM FileTree (Except SettingsError Settings)).run tree =
      (tree.settingsFor r, tree) := by
  unfold GenerateRequest.loadSettings settingsFor
  cases r.settings <;> rfl

/-- What a build comes to on a tree, and the tree that it leaves behind. -/
def afterBuild (tree : FileTree) (b : Build) (directory : String) :
    Except BuildError Built × FileTree :=
  (b.into directory : StateM FileTree (Except BuildError Built)).run tree

/-- What a command line comes to on a tree, and the tree that it leaves behind. -/
def afterRun (tree : FileTree) (arguments : List String) : CommandLine.Outcome × FileTree :=
  (run arguments : StateM FileTree CommandLine.Outcome).run tree

end FileTree

/-! ## Builds -/

/-- How a build can end, and the tree that it leaves behind. -/
inductive Build.EndsIn (b : Build) (directory : String) (tree : FileTree) :
    Except BuildError Built × FileTree → Prop where
  /-- The settings cannot be used. -/
  | invalid {problem : InvalidSetting} (hproblem : b.settings.problem? = some problem) :
      EndsIn b directory tree (.error (.settings (.invalid problem)), tree)
  /-- There is no table at the path. -/
  | tableless {e : TableLoadError} (hvalid : b.settings.problem? = none)
      (htable : tree.tableAt b.tablePath = .error e) :
      EndsIn b directory tree (.error (.table e), tree)
  /-- No header is generated for the table. -/
  | ungenerated {table : ClassTable} {e : GenerationError} (hvalid : b.settings.problem? = none)
      (htable : tree.HoldsTable b.tablePath table)
      (htext : generate b.settings table = .error e) :
      EndsIn b directory tree (.error (.generation e), tree)
  /-- The header is known, but cannot be written; no file is changed. -/
  | unwritable {table : ClassTable} {text : String} {fault : FileFault} {tree' : FileTree}
      (hvalid : b.settings.problem? = none) (htable : tree.HoldsTable b.tablePath table)
      (htext : generate b.settings table = .ok text) (hgrown : tree.Grown tree') :
      EndsIn b directory tree (.error (.unwritable fault), tree')
  /-- The header is written, and no other file is changed. -/
  | built {table : ClassTable} {text : String} {tree' : FileTree}
      (hvalid : b.settings.problem? = none) (htable : tree.HoldsTable b.tablePath table)
      (htext : generate b.settings table = .ok text)
      (hwritten : tree.Written (Path.join directory b.outputName) text tree') :
      EndsIn b directory tree (.ok ⟨Path.join directory b.outputName, table.size⟩, tree')

theorem writesOrGrows_place (directory path text : String) :
    WritesOrGrows (Build.place directory path text : StateM FileTree (Except FileFault Unit))
      path text :=
  .after (grows_makeDirectories directory) (writesOrGrows_writeText path text)
    fun fault => ⟨fault, rfl⟩

section
variable {b : Build} {table : ClassTable} {text : String}

theorem prepare_of_valid (hvalid : b.settings.problem? = none)
    (loaded : Except TableLoadError ClassTable) :
    b.prepare loaded = do
      let table ← loaded.mapError .table
      let text ← (generate b.settings table).mapError .generation
      return (table, text) := by
  unfold Build.prepare
  rw [hvalid]

/-- With usable settings and a table, all hangs on the text. -/
theorem prepare_ok (hvalid : b.settings.problem? = none) (table : ClassTable) :
    b.prepare (.ok table) =
      ((generate b.settings table).mapError .generation).map fun text => (table, text) := by
  rw [prepare_of_valid hvalid]
  change ((generate b.settings table).mapError _ >>= _) = _
  cases generate b.settings table <;> rfl

/-- A build without a text changes nothing. -/
theorem afterBuild_of_error {e : BuildError}
    (h : b.prepare (tree.tableAt b.tablePath) = .error e) (directory : String) :
    tree.afterBuild b directory = (.error e, tree) := by
  unfold afterBuild Build.into
  rw [run_bind, run_loadTable, h]
  rfl

/-- Once the text is known, all that is left is to write it. -/
theorem afterBuild_of_text (hvalid : b.settings.problem? = none)
    (htable : tree.HoldsTable b.tablePath table) (htext : generate b.settings table = .ok text)
    (directory : String) :
    tree.afterBuild b directory =
      let header := Path.join directory b.outputName
      let ended :=
        (Build.place directory header text : StateM FileTree (Except FileFault Unit)).run tree
      ((ended.1.mapError .unwritable).map fun _ => ⟨header, table.size⟩, ended.2) := by
  have hprepare : b.prepare (tree.tableAt b.tablePath) = .ok (table, text) := by
    rw [tableAt_eq_ok_iff.2 htable, prepare_ok hvalid, htext]
    rfl
  unfold afterBuild Build.into
  rw [run_bind, run_loadTable, hprepare]
  dsimp only
  rw [run_bind]
  cases ((Build.place directory (Path.join directory b.outputName) text :
    StateM FileTree (Except FileFault Unit)).run tree).1 <;> rfl

/-- **A build ends in one of these ways.** -/
theorem endsIn_afterBuild (b : Build) (directory : String) (tree : FileTree) :
    b.EndsIn directory tree (tree.afterBuild b directory) := by
  cases hproblem : b.settings.problem? with
  | some problem =>
    have hprepare : b.prepare (tree.tableAt b.tablePath) =
        .error (.settings (.invalid problem)) := by
      unfold Build.prepare
      rw [hproblem]
      rfl
    rw [afterBuild_of_error hprepare]
    exact .invalid hproblem
  | none =>
    cases htable : tree.tableAt b.tablePath with
    | error e =>
      have hprepare : b.prepare (tree.tableAt b.tablePath) = .error (.table e) := by
        rw [htable, prepare_of_valid hproblem]
        rfl
      rw [afterBuild_of_error hprepare]
      exact .tableless hproblem htable
    | ok table =>
      have hholds := tableAt_eq_ok_iff.1 htable
      cases htext : generate b.settings table with
      | error e =>
        have hprepare : b.prepare (tree.tableAt b.tablePath) = .error (.generation e) := by
          rw [htable, prepare_ok hproblem, htext]
          rfl
        rw [afterBuild_of_error hprepare]
        exact .ungenerated hproblem hholds htext
      | ok text =>
        rw [afterBuild_of_text hproblem hholds htext]
        dsimp only
        rcases writesOrGrows_place directory (Path.join directory b.outputName) text tree with
          ⟨tree', hrun, hwritten⟩ | ⟨fault, tree', hrun, hgrown⟩
        · rw [hrun]
          exact .built hproblem hholds htext hwritten
        · rw [hrun]
          exact .unwritable hproblem hholds htext hgrown

end

/-! ## Commands -/

namespace CommandLine

/-- How `generate` can end on a list of arguments, and the tree that it leaves behind. -/
inductive GenerateEndsIn (arguments : List String) (tree : FileTree) :
    Outcome × FileTree → Prop where
  /-- The arguments ask for nothing. -/
  | misused {e : UsageError} (hrequest : GenerateRequest.ofArguments arguments = .error e) :
      GenerateEndsIn arguments tree (.failure [e.message], tree)
  /-- The settings cannot be loaded. -/
  | unconfigured {r : GenerateRequest} {e : SettingsError}
      (hrequest : GenerateRequest.ofArguments arguments = .ok r)
      (hsettings : tree.settingsFor r = .error e) :
      GenerateEndsIn arguments tree
        (.failure (("Failed to load config " ++ r.settings.getD "") :: e.message :: e.causes), tree)
  /-- The table cannot be loaded. -/
  | tableless {r : GenerateRequest} {s : Settings} {e : TableLoadError}
      (hrequest : GenerateRequest.ofArguments arguments = .ok r)
      (hsettings : tree.settingsFor r = .ok s) (htable : tree.tableAt r.table = .error e) :
      GenerateEndsIn arguments tree
        (.failure (("Failed to load class table " ++ r.table) :: e.message :: e.causes), tree)
  /-- No header is generated for the table. -/
  | ungenerated {r : GenerateRequest} {s : Settings} {table : ClassTable} {e : GenerationError}
      (hrequest : GenerateRequest.ofArguments arguments = .ok r)
      (hsettings : tree.settingsFor r = .ok s) (htable : tree.HoldsTable r.table table)
      (htext : generate (r.adjust s) table = .error e) :
      GenerateEndsIn arguments tree
        (.failure ("Failed to generate bindings" :: e.message :: e.causes), tree)
  /-- The header is printed. -/
  | printed {r : GenerateRequest} {s : Settings} {table : ClassTable} {text : String}
      (hrequest : GenerateRequest.ofArguments arguments = .ok r)
      (hsettings : tree.settingsFor r = .ok s) (htable : tree.HoldsTable r.table table)
      (htext : generate (r.adjust s) table = .ok text) (houtput : r.output = none) :
      GenerateEndsIn arguments tree (.success text, tree)
  /-- The header is known, but cannot be written; no file is changed. -/
  | unwritable {r : GenerateRequest} {s : Settings} {table : ClassTable} {text path : String}
      {messages : List String} {tree' : FileTree}
      (hrequest : GenerateRequest.ofArguments arguments = .ok r)
      (hsettings : tree.settingsFor r = .ok s) (htable : tree.HoldsTable r.table table)
      (htext : generate (r.adjust s) table = .ok text) (houtput : r.output = some path)
      (hgrown : tree.Grown tree') :
      GenerateEndsIn arguments tree (.failure messages, tree')
  /-- The header is written, and no other file is changed. -/
  | written {r : GenerateRequest} {s : Settings} {table : ClassTable} {text path : String}
      {tree' : FileTree} (hrequest : GenerateRequest.ofArguments arguments = .ok r)
      (hsettings : tree.settingsFor r = .ok s) (htable : tree.HoldsTable r.table table)
      (htext : generate (r.adjust s) table = .ok text) (houtput : r.output = some path)
      (hwritten : tree.Written path text tree') :
      GenerateEndsIn arguments tree (.success "", tree')

theorem grows_makeParent (path : String) :
    Grows (makeParent path : StateM FileTree (Except (List String) Unit)) := by
  unfold makeParent
  split
  · exact grows_pure _
  · next directory _ => exact (grows_makeDirectories directory).bind fun _ => grows_pure _

theorem writesOrGrows_writeHeader (path text : String) :
    WritesOrGrows (writeHeader path text : StateM FileTree (Except (List String) Unit))
      path text :=
  .after (grows_makeParent path) ((writesOrGrows_writeText path text).mapError _)
    fun messages => ⟨messages, rfl⟩

/-- The end of a run, given what its command has led to. -/
def Outcome.of : Except (List String) String → Outcome
  | .ok text => .success text
  | .error messages => .failure messages

theorem afterRun_of_command {arguments : List String} {command : Command}
    (h : Command.ofArguments arguments = .ok command) (tree : FileTree) :
    tree.afterRun arguments =
      let ended := (command.run : StateM FileTree (Except (List String) String)).run tree
      (.of ended.1, ended.2) := by
  unfold afterRun run
  rw [h]
  dsimp only
  rw [run_bind]
  cases ((command.run : StateM FileTree (Except (List String) String)).run tree).1 <;> rfl

section
variable {name : String} {arguments : List String} {r : GenerateRequest}

theorem command_of_name (hname : name = "generate" ∨ name = "gen") (arguments : List String) :
    Command.ofArguments (name :: arguments) =
      GenerateRequest.ofArguments arguments >>= fun r => return .generate r :=
  if_pos hname

/-- A request has no effect before its text is known. -/
theorem afterRun_of_request (hname : name = "generate" ∨ name = "gen")
    (hrequest : GenerateRequest.ofArguments arguments = .ok r) (tree : FileTree) :
    tree.afterRun (name :: arguments) =
      match r.header (tree.settingsFor r) (tree.tableAt r.table), r.output with
      | .error messages, _ => (.failure messages, tree)
      | .ok text, none => (.success text, tree)
      | .ok text, some path =>
        let ended := (writeHeader path text : StateM FileTree (Except (List String) Unit)).run tree
        (.of (ended.1.map fun _ => ""), ended.2) := by
  have hcommand := command_of_name hname arguments
  rw [hrequest] at hcommand
  rw [afterRun_of_command hcommand]
  unfold Command.run
  rw [run_bind, run_loadSettings, run_bind, run_loadTable]
  dsimp only
  cases r.header (tree.settingsFor r) (tree.tableAt r.table) with
  | error messages => rfl
  | ok text => cases r.output <;> rfl

theorem header_of_loaded {s : Settings} {table : ClassTable}
    (hsettings : tree.settingsFor r = .ok s) (htable : tree.HoldsTable r.table table) :
    r.header (tree.settingsFor r) (tree.tableAt r.table) =
      (generate (r.adjust s) table).mapError fun e =>
        "Failed to generate bindings" :: e.message :: e.causes := by
  rw [hsettings, tableAt_eq_ok_iff.2 htable]
  rfl

/-- Once the text is known, all that is left is to print or to write it. -/
theorem afterRun_of_text {s : Settings} {table : ClassTable} {text : String}
    (hname : name = "generate" ∨ name = "gen")
    (hrequest : GenerateRequest.ofArguments arguments = .ok r)
    (hsettings : tree.settingsFor r = .ok s) (htable : tree.HoldsTable r.table table)
    (htext : generate (r.adjust s) table = .ok text) :
    tree.afterRun (name :: arguments) =
      match r.output with
      | none => (.success text, tree)
      | some path =>
        let ended := (writeHeader path text : StateM FileTree (Except (List String) Unit)).run tree
        (.of (ended.1.map fun _ => ""), ended.2) := by
  rw [afterRun_of_request hname hrequest, header_of_loaded hsettings htable, htext]
  cases r.output <;> rfl

/-- Arguments that ask for nothing change nothing. -/
theorem afterRun_of_misuse {e : UsageError} (hname : name = "generate" ∨ name = "gen")
    (hrequest : GenerateRequest.ofArguments arguments = .error e) (tree : FileTree) :
    tree.afterRun (name :: arguments) = (.failure [e.message], tree) := by
  have hcommand := command_of_name hname arguments
  rw [hrequest] at hcommand
  unfold afterRun run
  rw [hcommand]
  cases e with
  | missingCommand => exact absurd hrequest (ofArguments_ne_missingCommand arguments)
  | _ => rfl

/-- **The command ends in one of these ways.** -/
theorem generateEndsIn_afterRun (hname : name = "generate" ∨ name = "gen")
    (arguments : List String) (tree : FileTree) :
    GenerateEndsIn arguments tree (tree.afterRun (name :: arguments)) := by
  cases hrequest : GenerateRequest.ofArguments arguments with
  | error e =>
    rw [afterRun_of_misuse hname hrequest]
    exact .misused hrequest
  | ok r =>
    have hrun := afterRun_of_request hname hrequest tree
    cases hsettings : tree.settingsFor r with
    | error e =>
      rw [hrun, hsettings]
      exact .unconfigured hrequest hsettings
    | ok s =>
      cases htable : tree.tableAt r.table with
      | error e =>
        rw [hrun, hsettings, htable]
        exact .tableless hrequest hsettings htable
      | ok table =>
        have hholds := tableAt_eq_ok_iff.1 htable
        cases htext : generate (r.adjust s) table with
        | error e =>
          rw [hrun, header_of_loaded hsettings hholds, htext]
          exact .ungenerated hrequest hsettings hholds htext
        | ok text =>
          rw [afterRun_of_text hname hrequest hsettings hholds htext]
          cases houtput : r.output with
          | none => exact .printed hrequest hsettings hholds htext houtput
          | some path =>
            dsimp only
            rcases writesOrGrows_writeHeader path text tree with
              ⟨tree', hrun, hwritten⟩ | ⟨messages, tree', hrun, hgrown⟩
            · rw [hrun]
              exact .written hrequest hsettings hholds htext houtput hwritten
            · rw [hrun]
              exact .unwritable hrequest hsettings hholds htext houtput hgrown

/-- A failure prints nothing. -/
theorem GenerateEndsIn.stdout_of_code_ne {outcome : Outcome}
    (h : GenerateEndsIn arguments tree (outcome, tree')) (hcode : outcome.code ≠ 0) :
    outcome.stdout = "" := by
  cases h with
  | printed => exact absurd rfl hcode
  | _ => rfl

end

end CommandLine

/-! ## One text -/

section
variable {table : ClassTable} {text : String}

/-- The header that a build has written is the text for its settings and its table. -/
theorem readText_of_built {b : Build} {directory : String} {built : Built}
    (htable : tree.HoldsTable b.tablePath table) (htext : generate b.settings table = .ok text)
    (h : tree.afterBuild b directory = (.ok built, tree')) :
    tree'.readText built.header = .ok text := by
  have hends := endsIn_afterBuild b directory tree
  rw [h] at hends
  cases hends with
  | built _ htable' htext' hwritten =>
    obtain rfl := htable.unique htable'
    obtain rfl : text = _ := Except.ok.inj (htext.symm.trans htext')
    exact hwritten.readText

variable {arguments : List String} {r : GenerateRequest} {s : Settings}

/-- Without an output a command prints the text for its settings and its table. -/
theorem afterRun_of_output_none (hrequest : GenerateRequest.ofArguments arguments = .ok r)
    (hsettings : tree.settingsFor r = .ok s) (htable : tree.HoldsTable r.table table)
    (htext : generate (r.adjust s) table = .ok text) (houtput : r.output = none) :
    tree.afterRun ("generate" :: arguments) = (.success text, tree) := by
  rw [afterRun_of_text (Or.inl rfl) hrequest hsettings htable htext, houtput]

/-- The header that a command has written is the text for its settings and its table. -/
theorem readText_of_output {outcome : CommandLine.Outcome}
    (hrequest : GenerateRequest.ofArguments arguments = .ok r)
    (hsettings : tree.settingsFor r = .ok s) (htable : tree.HoldsTable r.table table)
    (htext : generate (r.adjust s) table = .ok text) (houtput : r.output = some path)
    (h : tree.afterRun ("generate" :: arguments) = (outcome, tree')) (hcode : outcome.code = 0) :
    tree'.readText path = .ok text := by
  rw [afterRun_of_text (Or.inl rfl) hrequest hsettings htable htext, houtput] at h
  dsimp only at h
  rcases writesOrGrows_writeHeader path text tree with
    ⟨_, hrun, hwritten⟩ | ⟨messages, _, hrun, _⟩
  · rw [hrun] at h
    obtain ⟨_, rfl⟩ := Prod.mk.inj h
    exact hwritten.readText
  · rw [hrun] at h
    obtain ⟨rfl, _⟩ := Prod.mk.inj h
    cases hcode

end

/-- **All or nothing, and one text.** A build and a command end in the ways listed: what fails
    before the text is known leaves the tree as it is, and what succeeds writes or prints the text.
    A failure prints nothing. The flags, the paths and the output of a command are those that its
    arguments ask for. Where settings and table are the same, a build and a command write the same
    text, and it is what a command without an output prints. -/
theorem one_text_or_nothing (tree : FileTree) :
    (∀ b directory, Build.EndsIn b directory tree (tree.afterBuild b directory)) ∧
    (∀ name arguments, name = "generate" ∨ name = "gen" →
      GenerateEndsIn arguments tree (tree.afterRun (name :: arguments)) ∧
      ((tree.afterRun (name :: arguments)).1.code ≠ 0 →
        (tree.afterRun (name :: arguments)).1.stdout = "")) ∧
    (∀ arguments r, GenerateRequest.ofArguments arguments = .ok r → r.AskedBy arguments) ∧
    ∀ s table text, generate s table = .ok text →
      (∀ b directory built tree', b.settings = s → tree.HoldsTable b.tablePath table →
        tree.afterBuild b directory = (.ok built, tree') →
        tree'.readText built.header = .ok text) ∧
      ∀ arguments r, GenerateRequest.ofArguments arguments = .ok r →
        (tree.settingsFor r).map r.adjust = .ok s → tree.HoldsTable r.table table →
        (r.output = none →
          tree.afterRun ("generate" :: arguments) = (.success text, tree)) ∧
        ∀ path outcome tree', r.output = some path →
          tree.afterRun ("generate" :: arguments) = (outcome, tree') → outcome.code = 0 →
          tree'.readText path = .ok text := by
  refine ⟨fun b directory => endsIn_afterBuild b directory tree, fun name arguments hname => ?_,
    fun _ _ => askedBy_of_ofArguments, fun s table text htext => ⟨?_, ?_⟩⟩
  · have hends := generateEndsIn_afterRun hname arguments tree
    exact ⟨hends, hends.stdout_of_code_ne⟩
  · rintro b directory built tree' rfl htable hrun
    exact readText_of_built htable htext hrun
  · intro arguments r hrequest hadjusted htable
    obtain ⟨loaded, hsettings, rfl⟩ : ∃ loaded, tree.settingsFor r = .ok loaded ∧
        r.adjust loaded = s := by
      cases hloaded : tree.settingsFor r with
      | error e => rw [hloaded] at hadjusted; cases hadjusted
      | ok loaded =>
        rw [hloaded] at hadjusted
        exact ⟨loaded, rfl, Except.ok.inj hadjusted⟩
    exact ⟨afterRun_of_output_none hrequest hsettings htable htext, fun path outcome tree' =>
      readText_of_output hrequest hsettings htable htext⟩

/-- A tree with one table. -/
def tableTree (content : ByteArray) : FileTree where
  nodes := [(["table.json"], .file content)]
  workplace := []

theorem place_tableTree (content : ByteArray) (text : String) :
    ((Build.place "out" "out/id.hpp" text : StateM FileTree (Except FileFault Unit)).run
      (tableTree content)).1 = .ok () := by
  cbv

theorem writeHeader_tableTree (content : ByteArray) (text : String) :
    ((writeHeader "id.hpp" text : StateM FileTree (Except (List String) Unit)).run
      (tableTree content)).1 = .ok () := by
  cbv

/-- A table with one class as a text. -/
def idTable : String :=
  r#"{"classes": [{"name": "isl_id"}]}"#

/-- A tree with that table alone. -/
def idTree : FileTree :=
  tableTree idTable.toUTF8

/-- A build of that table that does not throw. -/
def quietBuild : Build where
  tablePath := "table.json"
  settings := { Settings.standard with exceptions := false }
  outputName := "id.hpp"
  watched := []

theorem one_text_or_nothing_idTree :
    ∃ table text, idTree.HoldsTable "table.json" table ∧
      generate quietBuild.settings table = .ok text ∧
      quietBuild.EndsIn "out" idTree (idTree.afterBuild quietBuild "out") ∧
      (∃ tree', idTree.afterBuild quietBuild "out" = (.ok ⟨"out/id.hpp", 1⟩, tree') ∧
        tree'.readText "out/id.hpp" = .ok text) ∧
      GenerateRequest.AskedBy ⟨"table.json", none, none, true, false⟩
        ["--no-exceptions", "table.json"] ∧
      idTree.afterRun ["generate", "--no-exceptions", "table.json"] = (.success text, idTree) ∧
      (∃ tree', idTree.afterRun ["generate", "table.json", "-o", "id.hpp", "--no-exceptions"] =
          (.success "", tree') ∧ tree'.readText "id.hpp" = .ok text) ∧
      (idTree.afterRun ["gen", "--quiet"]).1.code = 1 ∧
      (idTree.afterRun ["gen", "--quiet"]).1.stdout = "" := by
  obtain ⟨hbuilds, hruns, hasked, hsame⟩ := one_text_or_nothing idTree
  obtain ⟨table, text, hdecoded, hsize, htext⟩ : ∃ table text,
      ClassTable.ofText idTable = .ok table ∧ table.size = 1 ∧
        generate quietBuild.settings table = .ok text := by
    have hscan : Json.scan idTable =
        (.record [("classes", .list [.record [("name", .string "isl_id")]])], false) := by cbv
    rw [ClassTable.ofText, hscan]
    exact ⟨_, _, rfl, rfl, rfl⟩
  have hread : idTree.readText "table.json" = .ok idTable := by cbv
  have hholds : idTree.HoldsTable "table.json" table := ⟨idTable, hread, hdecoded⟩
  have hbuild : ∃ tree', idTree.afterBuild quietBuild "out" = (.ok ⟨"out/id.hpp", 1⟩, tree') := by
    have hheader : Path.join "out" quietBuild.outputName = "out/id.hpp" := by cbv
    have hplaced : ((Build.place "out" "out/id.hpp" text :
        StateM FileTree (Except FileFault Unit)).run idTree).1 = .ok () := place_tableTree _ text
    have hrun := afterBuild_of_text (by decide) hholds htext "out"
    rw [hheader, hsize] at hrun
    dsimp only at hrun
    rw [hplaced] at hrun
    exact ⟨_, hrun⟩
  have hwritten : ∃ tree', idTree.afterRun
      ["generate", "table.json", "-o", "id.hpp", "--no-exceptions"] = (.success "", tree') := by
    have hwrite : ((writeHeader "id.hpp" text :
        StateM FileTree (Except (List String) Unit)).run idTree).1 = .ok () :=
      writeHeader_tableTree _ text
    have hrequest : GenerateRequest.ofArguments
        ["table.json", "-o", "id.hpp", "--no-exceptions"] =
          .ok ⟨"table.json", none, some "id.hpp", true, false⟩ := rfl
    have hrun := afterRun_of_text (Or.inl rfl) hrequest rfl hholds htext
    dsimp only at hrun
    rw [hwrite] at hrun
    exact ⟨_, hrun⟩
  obtain ⟨tree', hbuild⟩ := hbuild
  obtain ⟨tree'', hwritten⟩ := hwritten
  obtain ⟨hbuilt, hcommand⟩ := hsame quietBuild.settings table text htext
  obtain ⟨hprinted, _⟩ := hcommand ["--no-exceptions", "table.json"] _ rfl rfl hholds
  obtain ⟨_, hsaved⟩ := hcommand ["table.json", "-o", "id.hpp", "--no-exceptions"] _ rfl rfl hholds
  have hcode : (idTree.afterRun ["gen", "--quiet"]).1.code = 1 := rfl
  exact ⟨table, text, hholds, htext, hbuilds quietBuild "out",
    ⟨tree', hbuild, hbuilt quietBuild "out" _ tree' rfl hholds hbuild⟩,
    hasked _ _ rfl, hprinted rfl,
    ⟨tree'', hwritten, hsaved "id.hpp" _ tree'' rfl hwritten rfl⟩,
    hcode, (hruns "gen" ["--quiet"] (Or.inr rfl)).2 (by rw [hcode]; decide)⟩

end HandleWrap
