import Stencil.FilePath

/-!
# Access to files

The operations on files that a program needs, and what can go wrong with them.
-/

namespace Stencil

/-- What can go wrong with a file or folder. -/
inductive FileFault where
  | missing
  | present
  | notFolder
  | isFolder
  | other (text : String)
  deriving DecidableEq

/-- The wording of a fault. -/
def FileFault.message : FileFault → String
  | missing => "No such file or directory (os error 2)"
  | present => "File exists (os error 17)"
  | notFolder => "Not a directory (os error 20)"
  | isFolder => "Is a directory (os error 21)"
  | other text => text

/-- Operations on files. -/
structure FileAccess (m : Type → Type) where
  /-- The text of a file. -/
  read : FilePath → m (Except FileFault String)
  /-- Makes a folder and those above it that are missing. -/
  createFolders : FilePath → m (Except FileFault Unit)
  /-- Makes the text of a file, which need not exist. -/
  write : FilePath → String → m (Except FileFault Unit)

end Stencil
