import BeanForge.FileTree.Basic
import BeanForge.Proofs.Keyed
import BeanForge.Proofs.Text.FileNames
import Mathlib.Tactic.Common

/-!
# Walks through file trees

The names of a path alone decide the place it leads to; a tree only decides whether the way
there is open. A walk goes through folders whose surroundings are folders too, so it stays open
as long as no folder disappears.
-/

namespace BeanForge

open Text

namespace Path

def along (folder : Path) : List String → Path
  | [] => folder
  | name :: rest =>
    if name = upName then along folder.outer rest else along (folder.enter name) rest

def settled (p : Path) : Path :=
  along ⟨p.anchor, []⟩ p.names

@[simp] theorem along_nil (folder : Path) : folder.along [] = folder := rfl

theorem along_append (folder : Path) (names more : List String) :
    folder.along (names ++ more) = (folder.along names).along more := by
  induction names generalizing folder with
  | nil => rfl
  | cons name rest ih =>
    simp only [List.cons_append, along]
    split <;> exact ih _

theorem along_of_plain (folder : Path) {names : List String} (h : upName ∉ names) :
    folder.along names = ⟨folder.anchor, folder.names ++ names.map storedName⟩ := by
  induction names generalizing folder with
  | nil => simp
  | cons name rest ih =>
    have hname : name ≠ upName := fun he => h (by simp [he])
    have hrest : upName ∉ rest := fun hr => h (List.mem_cons_of_mem _ hr)
    rw [along, if_neg hname, ih _ hrest]
    simp [enter, child]

@[simp] theorem settled_nil (a : Anchor) : settled ⟨a, []⟩ = ⟨a, []⟩ := rfl

theorem settled_append (a : Anchor) (names more : List String) :
    settled ⟨a, names ++ more⟩ = (settled ⟨a, names⟩).along more :=
  along_append _ _ _

theorem onlyUp_of_names_nil {p : Path} (h : p.names = []) : p.onlyUp = true := by
  simp [onlyUp, h]

theorem onlyUp_child (p : Path) (name : String) :
    (p.child name).onlyUp = (p.onlyUp && name == upName) := by
  simp [onlyUp, child]

end Path

namespace FileTree

/-! Entries -/

theorem entry?_of_onlyUp (t : FileTree) {p : Path} (h : p.onlyUp = true) :
    t.entry? p = some .folder := by
  simp [h, entry?]

theorem onlyUp_of_entry?_ne {t : FileTree} {p : Path} (h : t.entry? p ≠ some .folder) :
    p.onlyUp = false := by
  cases hp : p.onlyUp with
  | false => rfl
  | true => exact absurd (t.entry?_of_onlyUp hp) h

theorem entry?_put_self (t : FileTree) {p : Path} (e : Entry) (h : p.onlyUp = false) :
    entry? (t.put p e) p = some e := by
  simp [put, entry?, h, Keyed.get?_put]

theorem entry?_put_of_ne (t : FileTree) {p q : Path} (e : Entry) (h : q ≠ p) :
    entry? (t.put p e) q = t.entry? q := by
  simp [put, entry?, Keyed.get?_put, h]

theorem entry?_remove_self (t : FileTree) {p : Path} (h : p.onlyUp = false) :
    entry? (t.remove p) p = none := by
  simp [remove, entry?, h, Keyed.get?_filter_ne]

theorem entry?_remove_of_ne (t : FileTree) {p q : Path} (h : q ≠ p) :
    entry? (t.remove p) q = t.entry? q := by
  simp [remove, entry?, Keyed.get?_filter_ne, h]

/-! Walks -/

/-- A walk that comes to its end, with one case for each way that a name can be followed. -/
inductive Leads (t : FileTree) : Path → List String → Path → Prop where
  | here (folder : Path) : Leads t folder [] folder
  | up {folder q : Path} {rest : List String} (others : Leads t folder.outer rest q) :
      Leads t folder (Path.upName :: rest) q
  /-- Nothing has to be at the last name. -/
  | last {folder : Path} {name : String} (plain : name ≠ Path.upName)
      (short : byteCount name ≤ 255) : Leads t folder [name] (folder.enter name)
  | down {folder q : Path} {name : String} {rest : List String} (plain : name ≠ Path.upName)
      (short : byteCount name ≤ 255) (more : rest ≠ [])
      (there : t.entry? (folder.enter name) = some .folder)
      (others : Leads t (folder.enter name) rest q) : Leads t folder (name :: rest) q

theorem leads_of_follow {t : FileTree} {folder q : Path} {names : List String}
    (h : t.follow folder names = .ok q) : t.Leads folder names q := by
  induction names generalizing folder with
  | nil =>
    obtain rfl : folder = q := by simpa [follow] using h
    exact .here folder
  | cons name rest ih =>
    simp only [follow] at h
    split at h
    · rename_i hup
      exact hup ▸ .up (ih h)
    · rename_i hup
      split at h
      · cases h
      · rename_i hlen
        split at h
        · rename_i hrest
          obtain rfl := List.isEmpty_iff.1 hrest
          obtain rfl : folder.enter name = q := by simpa using h
          exact .last hup (by omega)
        · rename_i hrest
          split at h
          · cases h
          · cases h
          · rename_i he
            exact .down hup (by omega) (fun hnil => hrest (by simp [hnil])) he (ih h)

theorem Leads.follow {t : FileTree} {folder q : Path} {names : List String}
    (h : t.Leads folder names q) : t.follow folder names = .ok q := by
  induction h with
  | here => rfl
  | up _ ih => rw [FileTree.follow, if_pos rfl, ih]
  | last plain short =>
    rw [FileTree.follow, if_neg plain, if_neg (by omega)]
    rfl
  | down plain short more there _ ih =>
    rw [FileTree.follow, if_neg plain, if_neg (by omega)]
    simp [more, there, ih]

theorem follow_eq_ok_iff {t : FileTree} {folder q : Path} {names : List String} :
    t.follow folder names = .ok q ↔ t.Leads folder names q :=
  ⟨leads_of_follow, Leads.follow⟩

theorem Leads.eq_along {t : FileTree} {folder q : Path} {names : List String}
    (h : t.Leads folder names q) : q = folder.along names := by
  induction h with
  | here => rfl
  | up _ ih => rw [Path.along, if_pos rfl, ih]
  | last plain _ => rw [Path.along, if_neg plain, Path.along]
  | down plain _ _ _ _ ih => rw [Path.along, if_neg plain, ih]

/-- All names but those that lead up fit into a folder. -/
theorem Leads.short {t : FileTree} {folder q : Path} {names : List String}
    (h : t.Leads folder names q) :
    ∀ name ∈ names, name = Path.upName ∨ byteCount name ≤ 255 := by
  induction h with
  | here => simp
  | up _ ih => exact List.forall_mem_cons.2 ⟨.inl rfl, ih⟩
  | last _ short => simp [short]
  | down _ short _ _ _ ih => exact List.forall_mem_cons.2 ⟨.inr short, ih⟩

theorem place_eq_ok_iff {t : FileTree} {p q : Path} :
    t.place p = .ok q ↔ byteCount p.text < 4096 ∧ t.Leads ⟨p.anchor, []⟩ p.names q := by
  rw [← follow_eq_ok_iff]
  by_cases hlen : 4096 ≤ byteCount p.text
  · have hlen' : ¬byteCount p.text < 4096 := by omega
    simp [place, hlen, hlen']
  · have hlen' : byteCount p.text < 4096 := by omega
    cases hf : t.follow ⟨p.anchor, []⟩ p.names <;> simp [place, hlen, hlen', hf, Except.mapError]

theorem place_eq_settled {t : FileTree} {p q : Path} (h : t.place p = .ok q) :
    q = p.settled :=
  (place_eq_ok_iff.1 h).2.eq_along

/-- A place and all that is around it are folders. -/
def Stands (t : FileTree) (p : Path) : Prop :=
  ∀ n, t.entry? ⟨p.anchor, p.names.take n⟩ = some .folder

theorem stands_anchor (t : FileTree) (a : Anchor) : t.Stands ⟨a, []⟩ := fun _ =>
  t.entry?_of_onlyUp (Path.onlyUp_of_names_nil (by simp))

theorem Stands.entry? {t : FileTree} {p : Path} (h : t.Stands p) : t.entry? p = some .folder := by
  have hp := h p.names.length
  rwa [List.take_length] at hp

theorem Stands.child {t : FileTree} {p : Path} {name : String} (h : t.Stands p)
    (he : t.entry? (p.child name) = some .folder) : t.Stands (p.child name) := by
  intro n
  by_cases hn : n ≤ p.names.length
  · simpa only [Path.child, List.take_append_of_le_length hn] using h n
  · have hlen : (p.names ++ [name]).length ≤ n := by simp; omega
    simpa only [Path.child, List.take_of_length_le hlen] using he

theorem Stands.outer {t : FileTree} {p : Path} (h : t.Stands p) : t.Stands p.outer := by
  simp only [Path.outer]
  split
  · rename_i hup
    simp only [Bool.and_eq_true, decide_eq_true_eq] at hup
    refine h.child (t.entry?_of_onlyUp ?_)
    simp [Path.onlyUp_child, hup.2]
  · intro n
    simpa only [Path.parent, List.dropLast_eq_take, List.take_take] using
      h (min n (p.names.length - 1))

/-- A walk ends at a folder, or at a name inside one. -/
theorem Leads.stands_or_child {t : FileTree} {folder q : Path} {names : List String}
    (h : t.Leads folder names q) (hs : t.Stands folder) :
    t.Stands q ∨ ∃ g name, t.Stands g ∧ name ≠ Path.upName ∧ byteCount name ≤ 255 ∧
      q = g.enter name ∧ names.getLast? = some name := by
  induction h with
  | here => exact .inl hs
  | up _ ih =>
    rcases ih hs.outer with hq | ⟨g, last, hg, hup, hlen, hq, hlast⟩
    · exact .inl hq
    · exact .inr ⟨g, last, hg, hup, hlen, hq, by simp [List.getLast?_cons, hlast]⟩
  | last plain short => exact .inr ⟨_, _, hs, plain, short, rfl, rfl⟩
  | down _ _ _ there _ ih =>
    rcases ih (hs.child there) with hq | ⟨g, last, hg, hup, hlen, hq, hlast⟩
    · exact .inl hq
    · exact .inr ⟨g, last, hg, hup, hlen, hq, by simp [List.getLast?_cons, hlast]⟩

def KeepsFolders (t u : FileTree) : Prop :=
  ∀ p, t.entry? p = some .folder → u.entry? p = some .folder

theorem Leads.of_keepsFolders {t u : FileTree} (hk : t.KeepsFolders u) {folder q : Path}
    {names : List String} (h : t.Leads folder names q) : u.Leads folder names q := by
  induction h with
  | here folder => exact .here folder
  | up _ ih => exact .up ih
  | last plain short => exact .last plain short
  | down plain short more there _ ih => exact .down plain short more (hk _ there) ih

theorem place_of_keepsFolders {t u : FileTree} (hk : t.KeepsFolders u) {p q : Path}
    (h : t.place p = .ok q) : u.place p = .ok q := by
  obtain ⟨hlen, hf⟩ := place_eq_ok_iff.1 h
  exact place_eq_ok_iff.2 ⟨hlen, hf.of_keepsFolders hk⟩

end FileTree

end BeanForge
