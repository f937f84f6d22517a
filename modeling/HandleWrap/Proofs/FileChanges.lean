import HandleWrap.FileTree
import HandleWrap.Proofs.Success

set_option autoImplicit false

/-! # What changes in a tree

A run may make directories, and it may write one file. `FileTree.Grown` says that every location
holds what it held, or a directory where nothing was (`KeptAt`), and `FileTree.Written` that besides
those there is one text in one file, which the path leads to. Every operation does one or the other
(`grown_of_makeDirectory`, `written_of_writeText`), and growing and then writing is writing
(`Grown.written`). So making a directory with all directories above it only grows a tree, however
far it gets (`grows_makeDirectories`). -/

namespace HandleWrap

namespace FileTree

variable {tree middle tree' : FileTree} {location other : List String} {path text : String}

/-! ## Changes -/

/-- A location holds what it held before, or a directory where nothing was before. -/
def KeptAt (tree tree' : FileTree) (location : List String) : Prop :=
  tree'.node? location = tree.node? location ∨
    tree.node? location = none ∧ tree'.node? location = some .directory

/-- No file has changed, and nothing has been made but directories. -/
structure Grown (tree tree' : FileTree) : Prop where
  workplace : tree'.workplace = tree.workplace
  kept : ∀ location, tree.KeptAt tree' location

/-- The location that a path leads to, whatever stands there. -/
def locate (tree : FileTree) (path : String) : Except FileFault (List String) := do
  tree.walk (← tree.start path) (Path.segments path)

/-- The file at the location holds the text, and no other file has changed. -/
structure WrittenAt (tree : FileTree) (location : List String) (text : String) (tree' : FileTree) :
    Prop where
  workplace : tree'.workplace = tree.workplace
  content : tree'.node? location = some (.file text.toUTF8)
  replaced : tree.node? location ≠ some .directory
  kept : ∀ other, other ≠ location → tree.KeptAt tree' other

/-- The file that the path leads to holds the text, and no other file has changed. -/
def Written (tree : FileTree) (path text : String) (tree' : FileTree) : Prop :=
  ∃ location, tree'.locate path = .ok location ∧ tree.WrittenAt location text tree'

theorem KeptAt.trans (h : tree.KeptAt middle location) (h' : middle.KeptAt tree' location) :
    tree.KeptAt tree' location := by
  rcases h with hsame | ⟨hnone, hmade⟩
  · rcases h' with hsame' | ⟨hnone', hmade'⟩
    · exact Or.inl (hsame'.trans hsame)
    · exact Or.inr ⟨hsame ▸ hnone', hmade'⟩
  · rcases h' with hsame' | ⟨hnone', _⟩
    · exact Or.inr ⟨hnone, hsame'.trans hmade⟩
    · rw [hmade] at hnone'
      cases hnone'

theorem Grown.refl (tree : FileTree) : tree.Grown tree :=
  ⟨rfl, fun _ => Or.inl rfl⟩

theorem Grown.trans (h : tree.Grown middle) (h' : middle.Grown tree') : tree.Grown tree' :=
  ⟨h'.workplace.trans h.workplace, fun location => (h.kept location).trans (h'.kept location)⟩

/-- Making directories and then writing is writing. -/
theorem Grown.written (h : tree.Grown middle) (h' : middle.Written path text tree') :
    tree.Written path text tree' := by
  obtain ⟨location, hlocate, hworkplace, hcontent, hreplaced, hkept⟩ := h'
  refine ⟨location, hlocate, hworkplace.trans h.workplace, hcontent, fun hdirectory => ?_,
    fun other hne => (h.kept other).trans (hkept other hne)⟩
  rcases h.kept location with hsame | ⟨hnone, _⟩
  · exact hreplaced (hsame.trans hdirectory)
  · rw [hnone] at hdirectory
    cases hdirectory

/-! ## Reading back -/

theorem fromUTF8?_toUTF8 (text : String) : String.fromUTF8? text.toUTF8 = some text := by
  unfold String.fromUTF8?
  rw [String.toUTF8_eq_toByteArray, dif_pos text.isValidUTF8]
  rfl

/-- A path finds what stands at the location that it leads to. -/
theorem find_of_locate {node : FileNode} (hlocate : tree.locate path = .ok location)
    (hnode : tree.node? location = some node) : tree.find path = .ok node := by
  unfold locate at hlocate
  unfold find
  cases hstart : tree.start path with
  | error fault => rw [hstart] at hlocate; cases hlocate
  | ok start =>
    rw [hstart] at hlocate
    have hwalk : tree.walk start (Path.segments path) = .ok location := hlocate
    simp only [bind, Except.bind, hwalk, hnode]

/-- What has been written can be read. -/
theorem Written.readText (h : tree.Written path text tree') : tree'.readText path = .ok text := by
  obtain ⟨location, hlocate, hwritten⟩ := h
  have hfind := find_of_locate hlocate hwritten.content
  simp only [FileTree.readText, hfind, bind, Except.bind, fromUTF8?_toUTF8, pure, Except.pure]

/-! ## Walking -/

theorem walk_append (tree : FileTree) (location : List String) (first second : List String) :
    tree.walk location (first ++ second) =
      tree.walk location first >>= fun between => tree.walk between second := by
  induction first generalizing location with
  | nil => rfl
  | cons segment rest ih =>
    simp only [List.cons_append, walk, ih]
    split
    · rfl
    · rfl
    · split
      · rfl
      · split
        · rfl
        · split <;> rfl

/-- A walk passes through directories only, so it does not meet what is put elsewhere. -/
theorem walk_put {node : FileNode} {start : List String} {segments : List String}
    {target : List String} (hroot : location ≠ []) (hnode : tree.node? location ≠ some .directory)
    (h : tree.walk start segments = .ok target) :
    (tree.put location node).walk start segments = .ok target := by
  induction segments generalizing start with
  | nil => exact h
  | cons segment rest ih =>
    rw [walk] at h
    cases hstart : tree.node? start with
    | none => rw [hstart] at h; cases h
    | some passed =>
      rw [hstart] at h
      cases passed with
      | file content => cases h
      | directory =>
        have hne : start ≠ location := fun heq => hnode (heq ▸ hstart)
        have hkept : (tree.put location node).node? start = some .directory := by
          rw [node?_put tree location start node hroot, if_neg hne, hstart]
        rw [walk, hkept]
        dsimp only at h ⊢
        split at h
        · next hidle => rw [if_pos hidle]; exact ih h
        · next hidle =>
          rw [if_neg hidle]
          split at h
          · next hup => rw [if_pos hup]; exact ih h
          · next hup =>
            rw [if_neg hup]
            split at h
            · cases h
            · next hlong => rw [if_neg hlong]; exact ih h

/-- A dot at the end of a walk makes sure of a directory. -/
theorem walk_dot {start target : List String} (h : tree.walk start ["."] = .ok target) :
    tree.node? start = some .directory ∧ target = start := by
  rw [walk] at h
  cases hstart : tree.node? start with
  | none => rw [hstart] at h; cases h
  | some passed =>
    rw [hstart] at h
    cases passed with
    | file content => cases h
    | directory => exact ⟨rfl, (Except.ok.inj h).symm⟩

/-! ## Places for something new -/

/-- The last segment of a path and the directory that the segments before it lead to. -/
structure EntryOf (tree : FileTree) (path : String) (parent : List String) (last : String)
    (slash : Bool) : Prop where
  directory : tree.node? parent = some .directory
  named : Path.isIdle last = false
  notUp : last ≠ ".."
  /-- Without a slash at the end, these are all segments. -/
  segments : slash = false → ∃ start before, tree.start path = .ok start ∧
    tree.walk start before = .ok parent ∧ Path.segments path = before ++ [last]

theorem dropWhile_eq_self {items : List String} {test : String → Bool}
    (h : items.head?.any test = false) : items.dropWhile test = items := by
  cases items with
  | nil => rfl
  | cons first rest => exact List.dropWhile_cons_of_neg (Bool.eq_false_iff.1 h)

theorem entryOf_of_place {slash : Bool} (h : tree.place path = .ok (.entry location slash)) :
    ∃ parent last, location = parent ++ [last] ∧ tree.EntryOf path parent last slash := by
  unfold place at h
  obtain ⟨start, hstart, h⟩ := bind_eq_ok_iff.1 h
  dsimp only at h
  cases hsegments : (Path.segments path).reverse.dropWhile (·.isEmpty) with
  | nil => rw [hsegments] at h; cases h
  | cons last before =>
    rw [hsegments] at h
    obtain ⟨parent, hwalk, h⟩ := bind_eq_ok_iff.1 h
    split at h
    · cases h
    · next hdots =>
      obtain ⟨rfl, rfl⟩ := Place.entry.inj (Except.ok.inj h)
      obtain ⟨hdot, hup⟩ := not_or.1 hdots
      rw [walk_append] at hwalk
      obtain ⟨between, hbetween, hlast⟩ := bind_eq_ok_iff.1 hwalk
      obtain ⟨hdirectory, rfl⟩ := walk_dot hlast
      have hnonempty : last.isEmpty = false := by
        have hhead := List.head?_dropWhile_not (·.isEmpty) (Path.segments path).reverse
        rw [hsegments] at hhead
        simpa using hhead
      have hnamed : Path.isIdle last = false := by
        simp [Path.isIdle, hnonempty, hdot]
      refine ⟨parent, last, rfl, hdirectory, hnamed, hup, fun hslash => ?_⟩
      -- the path ends in no empty segment, so the last one is the one found
      rw [dropWhile_eq_self hslash] at hsegments
      have hsplit : Path.segments path = before.reverse ++ [last] := by
        rw [← List.reverse_cons, ← hsegments, List.reverse_reverse]
      exact ⟨start, before.reverse, hstart, hbetween, hsplit⟩

/-- The path of an entry without a slash leads to it, if its name can be looked up. -/
theorem EntryOf.locate {parent : List String} {last : String}
    (h : tree.EntryOf path parent last false) (hshort : isTooLong last = false) :
    tree.locate path = .ok (parent ++ [last]) := by
  obtain ⟨start, before, hstart, hbefore, hsegments⟩ := h.segments rfl
  have hlast : tree.walk parent [last] = .ok (parent ++ [last]) := by
    simp only [walk, h.directory, h.named, h.notUp, hshort, Bool.false_eq_true, if_false]
  have hwalk : tree.walk start (before ++ [last]) = .ok (parent ++ [last]) := by
    rw [walk_append, hbefore]
    exact hlast
  unfold FileTree.locate
  rw [hstart, hsegments]
  exact hwalk

theorem occupant_eq_ok {parent : List String} {last : String} {node : Option FileNode}
    (h : tree.occupant (parent ++ [last]) = .ok node) :
    isTooLong last = false ∧ tree.node? (parent ++ [last]) = node := by
  unfold occupant at h
  rw [List.getLast?_concat] at h
  split at h
  · cases h
  · next hshort => exact ⟨Bool.eq_false_iff.2 hshort, Except.ok.inj h⟩

/-! ## Operations -/

theorem grown_put (hroot : location ≠ []) (hnone : tree.node? location = none) :
    tree.Grown (tree.put location .directory) := by
  refine ⟨rfl, fun other => ?_⟩
  unfold KeptAt
  rw [node?_put tree location other .directory hroot]
  split
  · next heq => exact Or.inr ⟨heq ▸ hnone, rfl⟩
  · exact Or.inl rfl

/-- Making a directory makes nothing else. -/
theorem grown_of_makeDirectory (h : tree.makeDirectory path = .ok tree') : tree.Grown tree' := by
  unfold makeDirectory at h
  obtain ⟨place, hplace, h⟩ := bind_eq_ok_iff.1 h
  cases place with
  | unnamed => cases h
  | entry location slash =>
    obtain ⟨parent, last, rfl, _⟩ := entryOf_of_place hplace
    obtain ⟨node, hoccupant, h⟩ := bind_eq_ok_iff.1 h
    obtain ⟨_, rfl⟩ := occupant_eq_ok hoccupant
    split at h
    · cases h
    · next hnone =>
      cases h
      exact grown_put (by simp) (Option.not_isSome_iff_eq_none.1 hnone)

theorem written_put {parent : List String} {last : String}
    (hentry : tree.EntryOf path parent last false) (hshort : isTooLong last = false)
    (hnode : tree.node? (parent ++ [last]) ≠ some .directory) :
    tree.Written path text (tree.put (parent ++ [last]) (.file text.toUTF8)) := by
  have hroot : parent ++ [last] ≠ [] := by simp
  have hlocate : (tree.put (parent ++ [last]) (.file text.toUTF8)).locate path =
      .ok (parent ++ [last]) := by
    obtain ⟨start, hstart, hwalk⟩ := bind_eq_ok_iff.1 (hentry.locate hshort)
    exact bind_eq_ok_iff.2 ⟨start, hstart, walk_put hroot hnode hwalk⟩
  refine ⟨parent ++ [last], hlocate, rfl, ?_, hnode, fun other hne => Or.inl ?_⟩
  · rw [node?_put _ _ _ _ hroot, if_pos rfl]
  · rw [node?_put _ _ _ _ hroot, if_neg hne]

/-- Writing a text puts it where the path leads to, and nowhere else. -/
theorem written_of_writeText (h : tree.writeText path text = .ok tree') :
    tree.Written path text tree' := by
  unfold writeText at h
  obtain ⟨place, hplace, h⟩ := bind_eq_ok_iff.1 h
  cases place with
  | unnamed => cases h
  | entry location slash =>
    cases slash with
    | true => cases h
    | false =>
      obtain ⟨parent, last, rfl, hentry⟩ := entryOf_of_place hplace
      obtain ⟨node, hoccupant, h⟩ := bind_eq_ok_iff.1 h
      obtain ⟨hshort, rfl⟩ := occupant_eq_ok hoccupant
      split at h
      · cases h
      · next hnode =>
        cases h
        exact written_put hentry hshort hnode

/-! ## Runs -/

section
variable {α β ε : Type}

theorem run_change (f : FileTree → Except FileFault FileTree) (tree : FileTree) :
    (change f).run tree = match f tree with
      | .ok changed => (.ok (), changed)
      | .error fault => (.error fault, tree) :=
  rfl

theorem run_bind (action : StateM FileTree α) (next : α → StateM FileTree β) (tree : FileTree) :
    (action >>= next).run tree = (next (action.run tree).1).run (action.run tree).2 :=
  rfl

/-- The action makes directories at most. -/
def Grows (action : StateM FileTree α) : Prop :=
  ∀ tree : FileTree, tree.Grown (action.run tree).2

/-- The action writes the text to the file at the path, or fails and makes directories at most. -/
def WritesOrGrows (action : StateM FileTree (Except ε Unit)) (path text : String) : Prop :=
  ∀ tree : FileTree, (∃ tree', action.run tree = (.ok (), tree') ∧ tree.Written path text tree') ∨
    ∃ fault tree', action.run tree = (.error fault, tree') ∧ tree.Grown tree'

theorem grows_pure (a : α) : Grows (pure a) :=
  fun tree => .refl tree

theorem Grows.bind {action : StateM FileTree α} {next : α → StateM FileTree β}
    (h : Grows action) (hnext : ∀ a, Grows (next a)) : Grows (action >>= next) :=
  fun tree => (h tree).trans (hnext _ _)

theorem grows_isDirectory (path : String) :
    Grows (FileSystem.isDirectory path : StateM FileTree Bool) :=
  fun tree => .refl tree

theorem grows_makeDirectory (path : String) :
    Grows (FileSystem.makeDirectory path : StateM FileTree (Except FileFault Unit)) := by
  intro tree
  change tree.Grown ((FileTree.change (·.makeDirectory path)).run tree).2
  rw [run_change]
  cases h : tree.makeDirectory path with
  | error fault => exact .refl tree
  | ok tree' => exact grown_of_makeDirectory h

theorem grows_ensureDirectory (path : String) :
    Grows (FileSystem.ensureDirectory path : StateM FileTree (Except FileFault Unit)) := by
  refine (grows_makeDirectory path).bind fun result => ?_
  cases result with
  | ok _ => exact grows_pure _
  | error fault => exact (grows_isDirectory path).bind fun _ => grows_pure _

theorem grows_makeFirst (paths : List String) :
    Grows (FileSystem.makeFirst paths : StateM FileTree (Except FileFault Unit)) := by
  induction paths with
  | nil => exact grows_pure _
  | cons path above ih =>
    refine (grows_ensureDirectory path).bind fun result => ?_
    split
    · refine ih.bind fun result => ?_
      cases result with
      | ok _ => exact grows_ensureDirectory path
      | error fault => exact grows_pure _
    · exact grows_pure _

/-- Making a directory and those above it makes nothing else, however far it gets. -/
theorem grows_makeDirectories (path : String) :
    Grows (FileSystem.makeDirectories path : StateM FileTree (Except FileFault Unit)) :=
  grows_makeFirst _

theorem writesOrGrows_writeText (path text : String) :
    WritesOrGrows (FileSystem.writeText path text : StateM FileTree (Except FileFault Unit))
      path text := by
  intro tree
  have hrun := run_change (·.writeText path text) tree
  cases h : tree.writeText path text with
  | ok tree' =>
    rw [h] at hrun
    exact Or.inl ⟨tree', hrun, written_of_writeText h⟩
  | error fault =>
    rw [h] at hrun
    exact Or.inr ⟨fault, tree, hrun, .refl tree⟩

/-- Making directories first, and writing if that went well. -/
theorem WritesOrGrows.after {δ : Type} {make : StateM FileTree (Except δ Unit)}
    {next : Except δ Unit → StateM FileTree (Except ε Unit)} (hmake : Grows make)
    (hok : WritesOrGrows (next (.ok ())) path text)
    (herror : ∀ fault, ∃ fault', next (.error fault) = pure (.error fault')) :
    WritesOrGrows (make >>= next) path text := by
  intro tree
  rw [run_bind]
  have hgrown := hmake tree
  cases (make.run tree).1 with
  | error fault =>
    obtain ⟨fault', hnext⟩ := herror fault
    rw [hnext]
    exact Or.inr ⟨fault', _, rfl, hgrown⟩
  | ok _ =>
    rcases hok (make.run tree).2 with ⟨tree', hrun, hwritten⟩ | ⟨fault, tree', hrun, hgrown'⟩
    · exact Or.inl ⟨tree', hrun, hgrown.written hwritten⟩
    · exact Or.inr ⟨fault, tree', hrun, hgrown.trans hgrown'⟩

/-- Other words for a fault change no file. -/
theorem WritesOrGrows.mapError {δ : Type} {write : StateM FileTree (Except ε Unit)}
    (h : WritesOrGrows write path text) (wrap : ε → δ) :
    WritesOrGrows (return (← write).mapError wrap) path text := by
  intro tree
  rw [run_bind]
  rcases h tree with ⟨tree', hrun, hwritten⟩ | ⟨fault, tree', hrun, hgrown⟩
  · rw [hrun]
    exact Or.inl ⟨tree', rfl, hwritten⟩
  · rw [hrun]
    exact Or.inr ⟨wrap fault, tree', rfl, hgrown⟩

end

end FileTree

end HandleWrap
