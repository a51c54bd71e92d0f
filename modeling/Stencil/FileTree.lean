import Stencil.FileAccess

/-!
# File trees

A tree of folders and files as a value, with the operations of a file system on it.  Entries are
kept by their names from the root on; of two entries for the same names the first one counts.
-/

namespace Stencil

/-- A file or a folder. -/
inductive FileEntry where
  | file (text : String)
  | folder
  deriving DecidableEq

/-- Folders and files, and the folder where paths start that do not start at the root. -/
structure FileTree where
  entries : List (List RawText × FileEntry)
  working : List RawText

namespace FileTree

/-- The entry of names from the root on. -/
def find? (tree : FileTree) (names : List RawText) : Option FileEntry :=
  if names.isEmpty then some .folder else tree.entries.lookup names

/-- The tree with an entry set. -/
def put (tree : FileTree) (names : List RawText) (entry : FileEntry) : FileTree :=
  { tree with entries := (names, entry) :: tree.entries }

@[simp]
theorem find?_put_self (tree : FileTree) (names : List RawText) (entry : FileEntry)
    (named : names ≠ []) : (tree.put names entry).find? names = some entry := by
  simp [find?, put, named]

theorem find?_put_of_ne (tree : FileTree) {names other : List RawText} (entry : FileEntry)
    (distinct : other ≠ names) : (tree.put names entry).find? other = tree.find? other := by
  simp [find?, put, List.lookup_cons, beq_false_of_ne distinct]

/-! ## Finding places -/

/-- Checks that there is a folder. -/
def folder (tree : FileTree) (names : List RawText) : Except FileFault Unit :=
  match tree.find? names with
  | some .folder => .ok ()
  | some (.file _) => .error .notFolder
  | none => .error .missing

/-- The names of the place that a piece of a path leads to from a folder. -/
def step (tree : FileTree) (names : List RawText) (piece : RawText) :
    Except FileFault (List RawText) := do
  tree.folder names
  if FilePath.isIdle piece then return names
  else if piece = ".." then return names.dropLast
  else return names ++ [piece]

/-- The names of the place that pieces of a path lead to. -/
def walk (tree : FileTree) (path : FilePath) (pieces : List RawText) :
    Except FileFault (List RawText) :=
  pieces.foldlM tree.step (if path.isAbsolute then [] else tree.working)

/-- The names of the folder in front of the last piece of a path, and that piece.  Slashes at the
end do not count, and neither the empty path nor the root has a last piece. -/
def lastStep (tree : FileTree) (path : FilePath) :
    Except FileFault (Option (List RawText × RawText)) := do
  match path.pieces.reverse.dropWhile (· = ↑"") with
  | [] => if path.isAbsolute then return none else .error .missing
  | last :: earlier =>
      let names ← tree.walk path earlier.reverse
      tree.folder names
      return some (names, last)

/-! ## Operations -/

/-- The text of a file. -/
def readText (tree : FileTree) (path : FilePath) : Except FileFault String := do
  if path.isEmpty then throw .missing
  match tree.find? (← tree.walk path path.pieces) with
  | some (.file text) => return text
  | some .folder => .error .isFolder
  | none => .error .missing

/-- Sets the text of a file. -/
def writeText (tree : FileTree) (path : FilePath) (text : String) : Except FileFault FileTree := do
  match ← tree.lastStep path with
  | none => .error .isFolder
  | some (names, last) =>
      let names := names ++ [last]
      if FilePath.isIdle last || last = ".." || path.endsInSlash then .error .isFolder
      else if tree.find? names = some .folder then .error .isFolder
      else return tree.put names (.file text)

/-- Makes a folder. -/
def createFolder (tree : FileTree) (path : FilePath) : Except FileFault FileTree := do
  match ← tree.lastStep path with
  | none => .error .present
  | some (names, last) =>
      let names := names ++ [last]
      if FilePath.isIdle last || last = ".." || (tree.find? names).isSome then .error .present
      else return tree.put names .folder

/-- Whether a path leads to a folder. -/
def isFolder (tree : FileTree) (path : FilePath) : Bool :=
  match tree.walk path path.pieces with
  | .ok names => tree.find? names = some .folder
  | .error _ => false

/-- Makes a folder, after those above it if they are missing.  Every step takes a piece off the
path, so the length of the path bounds the steps. -/
def createFolders : Nat → FilePath → FileTree → FileTree × Except FileFault Unit
  | 0, _, tree => (tree, .error .missing)
  | steps + 1, path, tree =>
      let create (tree : FileTree) : FileTree × Except FileFault Unit :=
        match tree.createFolder path with
        | .ok tree => (tree, .ok ())
        | .error fault => (tree, if tree.isFolder path then .ok () else .error fault)
      if path.isEmpty then (tree, .ok ())
      else
        match tree.createFolder path, path.parent? with
        | .error .missing, some parent =>
            match createFolders steps parent tree with
            | (tree, .ok ()) => create tree
            | (tree, .error fault) => (tree, .error fault)
        | _, _ => create tree

/-- The operations on a tree that is kept as a state. -/
def access : FileAccess (StateM FileTree) where
  read path := do return (← get).readText path
  createFolders path := do
    let (tree, result) := createFolders (path.raw.bytes.length + 1) path (← get)
    set tree
    return result
  write path text := do
    match (← get).writeText path text with
    | .ok tree =>
        set tree
        return .ok ()
    | .error fault => return .error fault

end FileTree

end Stencil
