import BeanForge.FileTree.Basic
import BeanForge.Proofs.Text.FileNames
import BeanForge.Proofs.Text.Pieces

/-!
# Paths that can be asked for

A path can be asked for if all of its names can: each of their characters has bytes in names of
files, and none is NUL.
-/

namespace BeanForge

open Text

theorem mem_intercalate_iff {separator : String} {names : List String} {c : Char}
    (hc : c ∉ separator.toList) :
    c ∈ (separator.intercalate names).toList ↔ ∃ name ∈ names, c ∈ name.toList := by
  induction names with
  | nil => simp
  | cons name rest ih =>
    cases rest with
    | nil => simp
    | cons next more =>
      rw [String.intercalate_cons_cons, String.toList_append, String.toList_append, List.mem_append,
        List.mem_append, ih]
      simp [hc]

def IsNamed (c : Char) : Prop :=
  hasFileBytes c = true ∧ c ≠ Char.ofNat 0

theorem isNamed_of_not_isHalf {c : Char} (hhalf : isHalf c = false) (hnul : c ≠ Char.ofNat 0) :
    IsNamed c :=
  ⟨hasFileBytes_of_not_isHalf hhalf, hnul⟩

theorem Fault.ofPath?_eq_none_iff {path : String} :
    ofPath? path = none ↔ ∀ c ∈ path.toList, IsNamed c := by
  have hfind := Unencodable.find?_eq_none_iff "utf-8" "surrogates not allowed" hasFileBytes isHalf
    path.toList
  simp only [IsNamed, forall_and, ← hfind]
  cases h : Unencodable.find? "utf-8" "surrogates not allowed" hasFileBytes isHalf path.toList with
  | some u => simp [ofPath?, h]
  | none => simpa [ofPath?, h] using List.forall_mem_ne'.symm

namespace Path

theorem forall_mem_text_iff {p : Path} {P : Char → Prop} (hdot : P '.') (hslash : P '/') :
    (∀ c ∈ p.text.toList, P c) ↔ ∀ name ∈ p.names, ∀ c ∈ name.toList, P c := by
  obtain ⟨anchor, names⟩ := p
  have hanchor : ∀ c ∈ anchor.text.toList, P c := by
    cases anchor <;> simp [Anchor.text, hslash]
  have hnames : (∀ c ∈ ("/".intercalate names).toList, P c) ↔
      ∀ name ∈ names, ∀ c ∈ name.toList, P c := by
    constructor
    · intro h name hname c hc
      by_cases hsep : c = '/'
      · exact hsep ▸ hslash
      · exact h c ((mem_intercalate_iff (by simpa using hsep)).2 ⟨name, hname, hc⟩)
    · intro h c hc
      by_cases hsep : c = '/'
      · exact hsep ▸ hslash
      · obtain ⟨name, hname, hc⟩ := (mem_intercalate_iff (by simpa using hsep)).1 hc
        exact h name hname c hc
  rw [text]
  split
  · rename_i hempty
    obtain rfl : names = [] := by simpa using (Bool.and_eq_true_iff.1 hempty).2
    simp [hdot]
  · rw [String.toList_append, List.forall_mem_append, hnames]
    exact and_iff_right hanchor

theorem fault?_eq_none_iff {p : Path} :
    p.fault? = none ↔ ∀ name ∈ p.names, ∀ c ∈ name.toList, IsNamed c :=
  Fault.ofPath?_eq_none_iff.trans
    (forall_mem_text_iff (isNamed_of_not_isHalf (by decide) (by decide))
      (isNamed_of_not_isHalf (by decide) (by decide)))

/-- A text can be asked for as it is, and then its path can. -/
theorem fault?_ofString {text : String} (h : Fault.ofPath? text = none) :
    (ofString text).fault? = none := by
  refine fault?_eq_none_iff.2 fun name hname c hc => Fault.ofPath?_eq_none_iff.1 h c ?_
  obtain ⟨piece, hpiece, rfl⟩ := List.mem_map.1 (List.mem_filter.1 hname).1
  exact mem_of_mem_splitAt hpiece (by rwa [String.toList_ofList] at hc)

theorem fault?_ne_unknownCharset (p : Path) (message : String) :
    p.fault? ≠ some (.unknownCharset message) := by
  rw [fault?, Fault.ofPath?]
  split
  · simp
  · split <;> simp

end Path

end BeanForge
