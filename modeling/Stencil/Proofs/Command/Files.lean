import Stencil.Command.Render
import Stencil.Proofs.FileTree
import Stencil.Proofs.Text.Utf8

/-!
# What commands read and save

Reading leaves a file tree as it is.  Saving makes the folder of a file and then the file; if it
fails, folders may have been made, but no file has changed.
-/

/-! ## Reading

What a computation that only reads can give is said by a description of its results: it succeeds
exactly with the result that fits.
-/

namespace Stencil

variable {ε δ α β : Type}

/-- An operation goes on with its result in the state that it leaves. -/
theorem run_bind_of_run {σ : Type} {state after : σ} {action : StateM σ α} {a : α}
    (ran : action.run state = (a, after)) (next : α → ExceptT ε (StateM σ) β) :
    ((action : ExceptT ε (StateM σ) α) >>= next).run.run state = (next a).run.run after := by
  change (next (action.run state).1).run.run (action.run state).2 = _
  rw [ran]

namespace FileTree

variable {tree after : FileTree}

/-- A computation goes on with its result in the tree that it leaves. -/
theorem run_bind_of_run_ok {first : ExceptT ε (StateM FileTree) α} {a : α}
    (ran : first.run.run tree = (.ok a, after)) (next : α → ExceptT ε (StateM FileTree) β) :
    (first >>= next).run.run tree = (next a).run.run after := by
  change (ExceptT.bindCont next (first.run.run tree).1).run (first.run.run tree).2 = _
  rw [ran]
  rfl

/-- A computation that fails does not go on. -/
theorem run_bind_of_run_error {first : ExceptT ε (StateM FileTree) α} {fault : ε}
    (ran : first.run.run tree = (.error fault, after))
    (next : α → ExceptT ε (StateM FileTree) β) :
    (first >>= next).run.run tree = (.error fault, after) := by
  change (ExceptT.bindCont next (first.run.run tree).1).run (first.run.run tree).2 = _
  rw [ran]
  rfl

/-- A computation that leaves a tree as it is, and gives exactly the results that fit. -/
def Gives (tree : FileTree) (action : ExceptT ε (StateM FileTree) α) (fits : α → Prop) : Prop :=
  ∃ result : Except ε α, action.run.run tree = (result, tree) ∧ ∀ a, result = .ok a ↔ fits a

namespace Gives

theorem pure (a : α) : tree.Gives (Pure.pure a : ExceptT ε (StateM FileTree) α) (· = a) :=
  ⟨.ok a, rfl, fun b => by rw [Except.ok.injEq, eq_comm]⟩

theorem throw {fault : ε} {fits : α → Prop} (never : ∀ a, ¬ fits a) :
    tree.Gives (MonadExcept.throw fault : ExceptT ε (StateM FileTree) α) fits :=
  ⟨.error fault, rfl, fun a => by simp [never a]⟩

/-- Reading a file goes on with what the file holds. -/
theorem bind_read {path : FilePath} {fits : α → Prop}
    {next : Except FileFault String → ExceptT ε (StateM FileTree) α}
    (given : tree.Gives (next (tree.readText path)) fits) :
    tree.Gives ((access.read path : ExceptT ε (StateM FileTree) _) >>= next) fits := by
  rcases given with ⟨result, ran, ok_iff⟩
  have run_eq := @run_bind_of_run ε _ _ _ tree tree (access.read path) _ rfl next
  exact ⟨result, run_eq.trans ran, ok_iff⟩

theorem bind {first : ExceptT ε (StateM FileTree) α} {next : α → ExceptT ε (StateM FileTree) β}
    {fits : α → Prop} {fitsNext : α → β → Prop} (given : tree.Gives first fits)
    (then' : ∀ a, fits a → tree.Gives (next a) (fitsNext a)) :
    tree.Gives (first >>= next) fun b => ∃ a, fits a ∧ fitsNext a b := by
  rcases given with ⟨result, ran, ok_iff⟩
  cases result with
  | error fault =>
      refine ⟨.error fault, run_bind_of_run_error ran next, fun b => ?_⟩
      have never (a : α) : ¬ fits a := fun fit => by simpa using (ok_iff a).mpr fit
      simp [never]
  | ok a =>
      rcases then' a ((ok_iff a).mp rfl) with ⟨resultNext, ranNext, ok_iffNext⟩
      refine ⟨resultNext, (run_bind_of_run_ok ran next).trans ranNext, fun b => ?_⟩
      have only (other : α) : fits other ↔ a = other := by rw [← ok_iff, Except.ok.injEq]
      simp [only, ok_iffNext]

theorem adapt {convert : ε → δ} {action : ExceptT ε (StateM FileTree) α} {fits : α → Prop}
    (given : tree.Gives action fits) : tree.Gives (ExceptT.adapt convert action) fits := by
  rcases given with ⟨result, ran, ok_iff⟩
  refine ⟨result.mapError convert, ?_, fun a => ?_⟩
  · change ((action.run.run tree).1.mapError convert, (action.run.run tree).2) = _
    rw [ran]
  · rw [← ok_iff]
    cases result with
    | error failure => exact ⟨nofun, nofun⟩
    | ok b =>
        change (Except.ok b : Except δ α) = .ok a ↔ _
        rw [Except.ok.injEq, Except.ok.injEq]

theorem congr {action : ExceptT ε (StateM FileTree) α} {fits also : α → Prop}
    (given : tree.Gives action fits) (same : ∀ a, fits a ↔ also a) : tree.Gives action also := by
  rcases given with ⟨result, ran, ok_iff⟩
  exact ⟨result, ran, fun a => (ok_iff a).trans (same a)⟩

end Gives

/-! ### Data files -/

/-- What a reader makes of the text of a data file, in the format that its name says. -/
def Holds (tree : FileTree) (path : FilePath)
    (reader : DataFormat → String → Except Malformed α) (value : α) : Prop :=
  ∃ format text, DataFormat.ofPath? path = some format ∧ tree.readText path = .ok text ∧
    reader format text = .ok value

/-- The context of a data file whose value is a mapping. -/
def HoldsContext (tree : FileTree) (path : FilePath) (context : Context) : Prop :=
  ∃ json, tree.Holds path DataFormat.read json ∧ Context.ofJson? json = some context

/-- The settings of a data file, whose own files are seen from its folder. -/
def HoldsSettings (tree : FileTree) (path : FilePath) (settings : Settings) : Prop :=
  ∃ written, tree.Holds path Settings.ofText written ∧
    settings = written.under (path.parent?.getD ⟨""⟩)

/-- The template of a file. -/
def HoldsTemplate (tree : FileTree) (path : FilePath) (template : Template) : Prop :=
  ∃ source, tree.readText path = .ok source ∧ Template.compile source = .ok template

theorem ofPath?_of_extension_json {path : FilePath}
    (extension : path.extension? = some (.ofText "json")) :
    DataFormat.ofPath? path = some .json := by
  have lower : "json".toLower = "json" := by
    change String.map Char.toLower "json" = "json"
    rw [← String.toList_inj, String.toList_map]
    rfl
  rw [DataFormat.ofPath?, extension, Option.bind_some, RawText.text?_ofText, Option.getD_some,
    lower]
  rfl

theorem gives_readData (path : FilePath) (reader : DataFormat → String → Except Malformed α) :
    tree.Gives (access.readData path reader) (tree.Holds path reader) := by
  rw [FileAccess.readData]
  cases named : DataFormat.ofPath? path with
  | none => exact .throw fun value => by simp [Holds, named]
  | some format =>
      refine .bind_read ?_
      cases found : tree.readText path with
      | error fault => exact .throw fun value => by simp [Holds, found]
      | ok text =>
          cases read : reader format text with
          | error fault =>
              simp only [read]
              exact .throw fun value => by simp [Holds, named, found, read]
          | ok value =>
              simp only [read]
              exact (Gives.pure value).congr fun other => by
                simp [Holds, named, found, read, eq_comm]

theorem gives_readContext (path : FilePath) :
    tree.Gives (access.readContext path) (tree.HoldsContext path) := by
  refine Gives.bind (gives_readData path DataFormat.read) fun json _ => ?_
  cases made : Context.ofJson? json with
  | none => exact .throw (by simp)
  | some context => exact (Gives.pure context).congr (by simp [eq_comm])

theorem gives_readSettings (path : FilePath) :
    tree.Gives (access.readSettings path) (tree.HoldsSettings path) :=
  Gives.bind (gives_readData path Settings.ofText) fun _ _ => .pure _

theorem gives_compile (path : FilePath) :
    tree.Gives (access.compile path) (tree.HoldsTemplate path) := by
  refine Gives.bind_read ?_
  cases found : tree.readText path with
  | error fault => exact .throw fun template => by simp [HoldsTemplate, found]
  | ok source =>
      cases compiled : Template.compile source with
      | error fault =>
          simp only [compiled]
          exact .throw fun template => by simp [HoldsTemplate, found, compiled]
      | ok template =>
          simp only [compiled]
          exact (Gives.pure template).congr fun other => by
            simp [HoldsTemplate, found, compiled, eq_comm]

end FileTree

end Stencil

/-! ## Saving -/

namespace Stencil.FileTree

variable {tree after : FileTree}

theorem run_createFolders (path : FilePath) (tree : FileTree) :
    (access.createFolders path).run tree =
      ((createFolders (path.raw.bytes.length + 1) path tree).2,
        (createFolders (path.raw.bytes.length + 1) path tree).1) :=
  rfl

theorem run_write (path : FilePath) (text : String) (tree : FileTree) :
    (access.write path text).run tree =
      match tree.writeText path text with
      | .ok after => (.ok (), after)
      | .error fault => (.error fault, tree) := by
  change (match tree.writeText path text with
    | .ok after => _
    | .error fault => _ : StateM FileTree _).run tree = _
  cases tree.writeText path text <;> rfl

/-- What can be done for a file before it is written: nothing, or the folder above it is made. -/
def Prepares (tree after : FileTree) (path : FilePath) : Prop :=
  after = tree ∨ ∃ folder, path.parent? = some folder ∧
    (access.createFolders folder).run tree = (.ok (), after)

/-- A file that cannot be written, because its folder cannot be made or because writing it fails. -/
def Refuses (tree after : FileTree) (path : FilePath) (text : String) : Prop :=
  (∃ folder fault, path.parent? = some folder ∧
      (access.createFolders folder).run tree = (.error fault, after)) ∨
    (Prepares tree after path ∧ ∃ fault, after.writeText path text = .error fault)

/-- A file is not refused where its folder is there already and the tree takes the file. -/
theorem not_refuses {path folder : FilePath} {text : String} {written : FileTree}
    (isParent : path.parent? = some folder)
    (made : (access.createFolders folder).run tree = (.ok (), tree))
    (taken : tree.writeText path text = .ok written) : ¬ Refuses tree after path text := by
  rintro (⟨other, fault, isOther, failed⟩ | ⟨prepares, fault, failed⟩)
  · rw [isParent] at isOther
    cases isOther
    rw [made] at failed
    cases failed
  · have same : after = tree := by
      rcases prepares with same | ⟨other, isOther, madeOther⟩
      · exact same
      · rw [isParent] at isOther
        cases isOther
        rw [made] at madeOther
        cases madeOther
        rfl
    rw [same, taken] at failed
    cases failed

/-- What saving a text does: the file receives it, or is refused and no file has changed. -/
inductive Saved (tree : FileTree) (path : FilePath) (text : String) :
    Except Failure Unit × FileTree → Prop where
  | received {after : FileTree} {place : List RawText}
      (received : Receives tree after path text place) : Saved tree path text (.ok (), after)
  | refused {after : FileTree} {failure : Failure} (same : SameFiles tree after)
      (refuses : Refuses tree after path text) : Saved tree path text (.error failure, after)

/-- The last part of saving, after the folder was made. -/
theorem saved_write (path : FilePath) (text : String) {middle : FileTree}
    (same : SameFiles tree middle) (prepares : Prepares tree middle path) :
    Saved tree path text
      ((do
        match ← access.write path text with
        | .error fault => throw (.unwritable path fault)
        | .ok () => return : ExceptT Failure (StateM FileTree) Unit).run.run middle) := by
  have ran := run_write path text middle
  cases written : middle.writeText path text with
  | error fault =>
      rw [written] at ran
      rw [run_bind_of_run ran]
      exact .refused same (.inr ⟨prepares, fault, written⟩)
  | ok after =>
      rw [written] at ran
      rw [run_bind_of_run ran]
      rcases exists_receives_of_writeText written with ⟨place, received⟩
      exact .received (same.receives received)

theorem saved_save (tree : FileTree) (path : FilePath) (text : String) :
    Saved tree path text ((access.save path text).run.run tree) := by
  rw [FileAccess.save]
  cases named : path.parent?.filter (!·.isEmpty) with
  | none => exact saved_write path text (.refl tree) (.inl rfl)
  | some folder =>
      have same := createFolders_sameFiles (folder.raw.bytes.length + 1) folder tree
      have ran := run_createFolders folder tree
      have isParent := (Option.filter_eq_some_iff.mp named).1
      generalize createFolders (folder.raw.bytes.length + 1) folder tree = made at same ran
      rcases made with ⟨middle, result⟩
      simp only
      rw [run_bind_of_run ran]
      cases result with
      | ok _ => exact saved_write path text same (.inr ⟨folder, isParent, ran⟩)
      | error fault => exact .refused same (.inl ⟨folder, fault, isParent, ran⟩)

end Stencil.FileTree
