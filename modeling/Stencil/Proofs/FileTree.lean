import Stencil.FileTree
import Stencil.Proofs.Sequence

/-!
# What operations leave of a file tree

Making folders leaves every file as it is, and writing a file changes the text of no other one.  A
file that was written is read with the written text.
-/

namespace Stencil

/-! ## Last pieces -/

namespace FilePath

theorem getLast?_intercalate_nil {α : Type} (separator : α) (parts : List (List α))
    (nonempty : parts ≠ []) :
    ([separator].intercalate (parts ++ [[]])).getLast? = some separator := by
  induction parts with
  | nil => exact absurd rfl nonempty
  | cons part rest ih =>
      cases rest with
      | nil => simp
      | cons next others =>
          rw [List.cons_append, List.cons_append, List.intercalate_cons_cons, ← List.cons_append,
            List.getLast?_append, ih (List.cons_ne_nil next others)]
          rfl

/-- A path ends in a piece if it is not empty and has no slash at its end. -/
theorem exists_pieces_eq_append (path : FilePath) (nonempty : path.isEmpty = false)
    (noSlash : path.endsInSlash = false) :
    ∃ (earlier : List RawText) (last : RawText), path.pieces = earlier ++ [last] ∧ last ≠ "" := by
  rcases List.eq_nil_or_concat (path.raw.bytes.splitOn slash) with none | ⟨parts, last, split⟩
  · exact absurd none (List.splitOn_ne_nil slash path.raw.bytes)
  · refine ⟨parts.map RawText.mk, ⟨last⟩, by simp [pieces, split], ?_⟩
    intro blank
    have lastNil : last = [] := congrArg RawText.bytes blank
    have joined : [slash].intercalate (path.raw.bytes.splitOn slash) = path.raw.bytes :=
      List.intercalate_splitOn slash
    rw [split, lastNil] at joined
    by_cases single : parts = []
    · rw [single] at joined
      rw [isEmpty, ← joined] at nonempty
      cases nonempty
    · rw [List.concat_eq_append] at joined
      rw [endsInSlash, ← joined, getLast?_intercalate_nil slash parts single] at noSlash
      simp at noSlash

end FilePath

namespace FileTree

/-! ## Larger trees -/

/-- The text of the file of names from the root on. -/
def text? (tree : FileTree) (names : List RawText) : Option String :=
  match tree.find? names with
  | some (.file text) => some text
  | _ => none

/-- A tree with all folders of another one. -/
structure HasFoldersOf (tree after : FileTree) : Prop where
  working : after.working = tree.working
  folders : ∀ names, tree.find? names = some .folder → after.find? names = some .folder

/-- A tree that differs from another one by more folders only. -/
structure SameFiles (tree after : FileTree) : Prop extends HasFoldersOf tree after where
  texts : ∀ names, after.text? names = tree.text? names

namespace SameFiles

variable {tree middle after : FileTree}

theorem refl (tree : FileTree) : SameFiles tree tree :=
  ⟨⟨rfl, fun _ found => found⟩, fun _ => rfl⟩

theorem trans (first : SameFiles tree middle) (second : SameFiles middle after) :
    SameFiles tree after where
  working := second.working.trans first.working
  folders names found := second.folders names (first.folders names found)
  texts names := (second.texts names).trans (first.texts names)

end SameFiles

/-! ## Walks -/

variable {tree after : FileTree}

theorem folder_eq_ok_iff {names : List RawText} :
    tree.folder names = .ok () ↔ tree.find? names = some .folder := by
  rw [folder]
  split <;> simp_all

/-- What is found in a tree is found where all folders are still there. -/
theorem HasFoldersOf.step (more : HasFoldersOf tree after) {names place : List RawText}
    {piece : RawText} (stepped : tree.step names piece = .ok place) :
    after.step names piece = .ok place := by
  rcases bind_eq_ok_iff.mp stepped with ⟨_, checked, stepped⟩
  have still : after.folder names = .ok () :=
    folder_eq_ok_iff.mpr (more.folders names (folder_eq_ok_iff.mp checked))
  exact bind_eq_ok_iff.mpr ⟨(), still, stepped⟩

theorem HasFoldersOf.walk (more : HasFoldersOf tree after) {path : FilePath}
    {pieces place : List RawText} (walked : tree.walk path pieces = .ok place) :
    after.walk path pieces = .ok place := by
  rw [FileTree.walk, more.working]
  rw [FileTree.walk] at walked
  generalize (if path.isAbsolute then [] else tree.working) = start at walked ⊢
  induction pieces generalizing start with
  | nil => exact walked
  | cons piece rest ih =>
      rw [List.foldlM_cons] at walked ⊢
      rcases bind_eq_ok_iff.mp walked with ⟨next, stepped, walked⟩
      exact bind_eq_ok_iff.mpr ⟨next, more.step stepped, ih next walked⟩

/-- A walk that ends in a name first goes to the folder of that name. -/
theorem walk_concat {path : FilePath} {earlier names : List RawText} {last : RawText}
    (walked : tree.walk path earlier = .ok names) (found : tree.folder names = .ok ())
    (named : FilePath.isIdle last = false) (notUp : last ≠ "..") :
    tree.walk path (earlier ++ [last]) = .ok (names ++ [last]) := by
  rw [walk] at walked ⊢
  rw [List.foldlM_append, walked, ok_bind, List.foldlM_cons, step, found, ok_bind, named,
    if_neg Bool.false_ne_true, if_neg notUp]
  rfl

/-! ## Folders -/

/-- An entry in the place of no folder leaves all folders where they are. -/
theorem hasFoldersOf_put {names : List RawText} (entry : FileEntry)
    (noFolder : tree.find? names ≠ some .folder) : HasFoldersOf tree (tree.put names entry) where
  working := rfl
  folders other found := by
    have distinct : other ≠ names := fun equal => noFolder (equal ▸ found)
    rw [find?_put_of_ne tree entry distinct, found]

/-- A folder where nothing was leaves every file as it is. -/
theorem sameFiles_put_folder {names : List RawText} (free : tree.find? names = none) :
    SameFiles tree (tree.put names .folder) where
  toHasFoldersOf := hasFoldersOf_put .folder (by simp [free])
  texts other := by
    by_cases equal : other = names
    · have named : names ≠ [] := fun none => by simp [none, find?] at free
      rw [text?, text?, equal, find?_put_self tree names .folder named, free]
    · rw [text?, text?, find?_put_of_ne tree .folder equal]

theorem createFolder_sameFiles {path : FilePath} (created : tree.createFolder path = .ok after) :
    SameFiles tree after := by
  rcases bind_eq_ok_iff.mp created with ⟨lastStep, found, created⟩
  cases lastStep with
  | none => cases created
  | some lastStep =>
      rcases lastStep with ⟨names, last⟩
      simp only at created
      split at created
      · cases created
      · rename_i free
        cases created
        simp only [Bool.or_eq_true, not_or, Bool.not_eq_true, Option.isSome_eq_false_iff,
          Option.isNone_iff_eq_none] at free
        exact sameFiles_put_folder free.2

theorem createFolders_sameFiles (steps : Nat) (path : FilePath) (tree : FileTree) :
    SameFiles tree (createFolders steps path tree).1 := by
  induction steps generalizing path tree with
  | zero => exact .refl tree
  | succ steps ih =>
      rw [createFolders]
      dsimp only
      split
      · exact .refl tree
      · split
        · rename_i parent _ _
          have above := ih parent tree
          split
          · rename_i made
            rw [made] at above
            refine above.trans ?_
            split
            · rename_i created
              exact createFolder_sameFiles created
            · exact .refl _
          · rename_i made
            rwa [made] at above
        · split
          · rename_i created
            exact createFolder_sameFiles created
          · exact .refl tree

/-! ## Files -/

/-- A tree in which the file that a path leads to was given a text, and no other file changed. -/
structure Receives (tree after : FileTree) (path : FilePath) (text : String)
    (place : List RawText) : Prop where
  leads : after.walk path path.pieces = .ok place
  holds : after.text? place = some text
  readBack : after.readText path = .ok text
  others : ∀ names, names ≠ place → after.text? names = tree.text? names

theorem SameFiles.receives {middle : FileTree} {path : FilePath} {text : String}
    {place : List RawText} (same : SameFiles tree middle)
    (received : Receives middle after path text place) : Receives tree after path text place :=
  { received with
    others := fun names distinct => (received.others names distinct).trans (same.texts names) }

/-- The empty path leads nowhere. -/
theorem lastStep_empty {path : FilePath} (blank : path.isEmpty = true) :
    tree.lastStep path = .error .missing := by
  rcases path with ⟨⟨bytes⟩⟩
  cases List.isEmpty_iff.mp blank
  rfl

/-- The folder and the name that a path without a slash at its end leads to. -/
theorem of_lastStep_eq_some {path : FilePath} {names : List RawText} {last : RawText}
    (noSlash : path.endsInSlash = false)
    (found : tree.lastStep path = .ok (some (names, last))) :
    path.isEmpty = false ∧ tree.folder names = .ok () ∧
      ∃ earlier, path.pieces = earlier ++ [last] ∧ tree.walk path earlier = .ok names := by
  cases nonempty : path.isEmpty with
  | true =>
    rw [lastStep_empty nonempty] at found
    cases found
  | false =>
    rcases path.exists_pieces_eq_append nonempty noSlash with ⟨earlier, piece, pieces_eq, named⟩
    rw [lastStep, pieces_eq, List.reverse_concat,
      List.dropWhile_cons_of_neg (by simpa using named)] at found
    rcases bind_eq_ok_iff.mp found with ⟨place, walked, found⟩
    rcases bind_eq_ok_iff.mp found with ⟨_, isFolder, found⟩
    cases found
    rw [List.reverse_reverse] at walked
    exact ⟨rfl, isFolder, earlier, pieces_eq, walked⟩

/-- A file that is put where a path leads to receives its text. -/
theorem receives_put {path : FilePath} {place : List RawText} (text : String)
    (nonempty : path.isEmpty = false) (named : place ≠ [])
    (leads : (tree.put place (.file text)).walk path path.pieces = .ok place) :
    Receives tree (tree.put place (.file text)) path text place where
  leads := leads
  holds := by rw [text?, find?_put_self tree place _ named]
  readBack := by
    rw [readText, nonempty, if_neg Bool.false_ne_true]
    change (FileTree.walk _ path path.pieces >>= _) = _
    rw [leads, ok_bind, find?_put_self tree place _ named]
    rfl
  others names distinct := by rw [text?, text?, find?_put_of_ne tree _ distinct]

/-- Writing a text gives it to the file that the path leads to, and to no other one. -/
theorem exists_receives_of_writeText {path : FilePath} {text : String}
    (written : tree.writeText path text = .ok after) :
    ∃ place, Receives tree after path text place := by
  rcases bind_eq_ok_iff.mp written with ⟨lastStep, found, written⟩
  cases lastStep with
  | none => cases written
  | some lastStep =>
      rcases lastStep with ⟨names, last⟩
      simp only at written
      split at written
      · cases written
      · rename_i plain
        split at written
        · cases written
        · rename_i noFolder
          cases written
          simp only [Bool.or_eq_true, decide_eq_true_eq, not_or, Bool.not_eq_true] at plain
          rcases plain with ⟨⟨named, notUp⟩, noSlash⟩
          rcases of_lastStep_eq_some noSlash found with
            ⟨nonempty, isFolder, earlier, pieces_eq, walked⟩
          have more := hasFoldersOf_put (.file text) noFolder
          have stillFolder := more.folders names (folder_eq_ok_iff.mp isFolder)
          have leads :=
            walk_concat (more.walk walked) (folder_eq_ok_iff.mpr stillFolder) named notUp
          rw [← pieces_eq] at leads
          exact ⟨names ++ [last], receives_put text nonempty (by simp) leads⟩

end FileTree

end Stencil
