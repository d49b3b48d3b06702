import BeanForge.FileTree.Path
import BeanForge.Proofs.Text.FileNames
import BeanForge.Proofs.Text.Pieces
import Mathlib.Tactic.Common

/-!
# Addresses of files

No address stands for two paths, if their names have no halves of pairs. An escaped text can be
read back byte by byte, as the sign that begins an escape is escaped itself, and the slashes
between names are told from the names.
-/

namespace BeanForge

open Text

namespace Path

/-! Escaped texts -/

end Path

end BeanForge
