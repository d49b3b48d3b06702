import BeanForge.Proofs.Artifact.Confinement
import BeanForge.Proofs.FileTree.Addresses

/-!
# Paths of different interfaces

The classes of interfaces with different names or packages have different names and paths, and if
there are no halves of pairs in these, different places and addresses, whatever the root and the
extension: behind the folders and the name of an interface its path goes on as those of all
others do.
-/

namespace BeanForge

open Text

namespace Interface

variable {i j : Interface}

theorem Proper.within_filePath (h : i.Proper) (hwhole : i.IsWhole) (root : Path)
    {extension : String} (hext : '/' ∉ extension.toList) :
    root.Within extension (Site.filePath root i.entity.qualifiedName extension) :=
  ⟨hext, _, not_isHalf_of_mem_slashed hwhole.whole_qualifiedName,
    BeanForge.filePath_eq root h.properType.inward hext, Interface.upName_not_mem_namesOf _ hext⟩

end Interface

end BeanForge
