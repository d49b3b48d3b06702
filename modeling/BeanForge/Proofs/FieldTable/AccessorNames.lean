import BeanForge.Proofs.Entity.Accessors
import BeanForge.Proofs.FieldTable.Descriptions

/-!
# Names of accessors

The class of an interface implements an accessor that the interface declares if it writes one of the
same name. In ASCII that is a question of letters: the name of the field must stand in the declared
name without a small letter in front and without a capital behind its first character.
-/

namespace BeanForge

open Text

namespace Text

/-- No small letter in front, and no capital behind the first character. -/
def IsTitled (s : String) : Prop :=
  (∀ c ∈ s.toList.head?, c.isLower = false) ∧ ∀ c ∈ s.toList.tail, c.isUpper = false

instance (s : String) : Decidable (IsTitled s) :=
  decidable_of_iff ((s.toList.head?.all (!·.isLower) && s.toList.tail.all (!·.isUpper)) = true)
    (by simp [IsTitled, Option.all_eq_true])

theorem toLower_eq_self_iff_of_ascii {c : Char} (h : c.toNat < 128) :
    (c.toLower = c ↔ c.isUpper = false) ∧ (c.toLower.toUpper = c ↔ c.isLower = false) := by
  have hall : ∀ n < 128, ((Char.ofNat n).toLower = Char.ofNat n ↔ (Char.ofNat n).isUpper = false) ∧
      ((Char.ofNat n).toLower.toUpper = Char.ofNat n ↔ (Char.ofNat n).isLower = false) := by
    decide +kernel
  simpa using hall c.toNat h

/-- A text comes back from small letters with a capital in front if it was titled. -/
theorem capitalized_lower_eq_iff {s : String} (h : IsAscii s) :
    capitalized (lower s) = s ↔ IsTitled s := by
  have hlower : (lower s).toList = s.toList.map Char.toLower := by
    rw [lower, String.toList_ofList, lowerFrom_of_ascii _ false h]
  rw [← String.toList_inj, capitalized, hlower, IsTitled]
  cases hs : s.toList with
  | nil => simp
  | cons c rest =>
    have hc : c.toNat < 128 := h c (hs ▸ List.mem_cons_self)
    have hrest : ∀ d ∈ rest, d.toNat < 128 := fun d hd => h d (hs ▸ List.mem_cons_of_mem c hd)
    have hupper : upperChar c.toLower = [c.toLower.toUpper] := by
      rw [upperChar, if_pos (toLower_toLower_of_ascii hc).1]
    have hsmall : rest.map Char.toLower = rest ↔ ∀ d ∈ rest, d.isUpper = false := by
      conv_lhs => rhs; rw [← List.map_id rest]
      rw [List.map_inj_left]
      exact forall₂_congr fun d hd => (toLower_eq_self_iff_of_ascii (hrest d hd)).1
    have hfirst := (toLower_eq_self_iff_of_ascii hc).2
    simp only [List.map_cons, hupper, List.singleton_append, String.toList_ofList, List.cons.injEq,
      hfirst, hsmall, List.head?_cons, Option.mem_some_iff, forall_eq', List.tail_cons]

theorem IsAscii.of_append {s t : String} (h : IsAscii (s ++ t)) : IsAscii t := fun c hc =>
  h c (by rw [String.toList_append]; exact List.mem_append_right _ hc)

theorem append_capitalized_eq_iff {word rest : String} (h : IsAscii (word ++ rest)) :
    word ++ capitalized (lower rest) = word ++ rest ↔ IsTitled rest := by
  rw [← capitalized_lower_eq_iff h.of_append, ← String.toList_inj, String.toList_append,
    String.toList_append, List.append_cancel_left_eq, String.toList_inj]

end Text

/-- A name that goes on after a word names the field of what follows. -/
theorem Method.Describes.lower_eq {m : Method} {name rest : String} {word : AccessorWord}
    (h : m.Describes name) (hname : m.name = word.text ++ rest) : lower rest = name := by
  obtain ⟨_, other, hnames⟩ := h
  obtain ⟨cs, hsplit, hlower⟩ := names_iff.1 hnames
  have hword : AccessorWord.split? m.name.toList = some (word, rest.toList) :=
    AccessorWord.split?_eq_some_iff.2 (by rw [hname, String.toList_append])
  cases hword.symm.trans hsplit
  rwa [String.ofList_toList] at hlower

namespace FieldTable

theorem getterName_eq_iff {f : Field} {getter : Method} {word : AccessorWord}
    (hword : f.getterWord = some word.text) (hnames : getter.Names word f.name)
    (h : IsAscii getter.name) :
    ∃ rest, getter.name = word.text ++ rest ∧ (f.getterName = getter.name ↔ IsTitled rest) := by
  obtain ⟨rest, hname, hlower⟩ := hnames
  refine ⟨rest, hname, ?_⟩
  rw [hname] at h ⊢
  rw [← append_capitalized_eq_iff h, hlower, Field.getterName_eq, Field.accessWord, hword,
    Option.getD_some]

theorem setterName_eq_iff {f : Field} {setter : Method} {rest : String}
    (hdescribes : setter.Describes f.name) (hname : setter.name = "set" ++ rest)
    (h : IsAscii setter.name) : f.setterName = setter.name ↔ IsTitled rest := by
  have hset : setter.name = AccessorWord.set.text ++ rest := hname
  have hlower : lower rest = f.name := hdescribes.lower_eq hset
  rw [hname] at h ⊢
  rw [← append_capitalized_eq_iff h, hlower, Field.setterName]

/-- The class has the getter that gives a field its word, and a setter that describes the field, if
they are titled behind their words. A field has no word only if nothing gets it. -/
theorem accessorName_eq_iff (methods : List Method) (h : ∀ m ∈ methods, IsAscii m.name) :
    ∀ f ∈ (ofMethods methods).fields,
      (∀ word, f.getterWord = some word → ∃ getter rest,
        methods.find? (·.Gets f.name) = some getter ∧ getter.name = word ++ rest ∧
          (f.getterName = getter.name ↔ IsTitled rest)) ∧
      (f.getterWord = none → ∀ m ∈ methods, ¬m.Gets f.name) ∧
      ∀ setter ∈ methods, setter.Describes f.name → ∀ rest, setter.name = "set" ++ rest →
        (f.setterName = setter.name ↔ IsTitled rest) := by
  intro f hf
  have hworded := (reflects_ofMethods methods).worded f hf
  refine ⟨fun word hword => ?_, fun hnone => ?_, fun setter hsetter hdescribes rest hname => ?_⟩
  · split at hworded
    · rename_i getter hgets
      obtain ⟨known, hnames, hknown⟩ := hworded
      obtain ⟨rest, hname, hiff⟩ :=
        getterName_eq_iff hknown hnames (h getter (List.mem_of_find?_eq_some hgets))
      obtain rfl : known.text = word := Option.some.inj (hknown.symm.trans hword)
      exact ⟨getter, rest, hgets, hname, hiff⟩
    · cases hworded.symm.trans hword
  · split at hworded
    · obtain ⟨_, _, hknown⟩ := hworded
      cases hnone.symm.trans hknown
    · rename_i hgets
      simpa using hgets
  · exact setterName_eq_iff hdescribes hname (h setter hsetter)

def urlMethods : List Method :=
  [{ name := "setURL", parameterTypes := ["String"] }, { name := "getUrl", returnType := "String" },
    { name := "getURL", returnType := "String" }]

def urlField : Field where
  name := "url"
  typeName := "String"
  getterWord := some "get"

theorem accessorName_eq_iff_of_urls :
    (∀ m ∈ urlMethods, IsAscii m.name) ∧ urlField ∈ (ofMethods urlMethods).fields ∧
      urlField.getterName = "getUrl" ∧ urlField.setterName ≠ "setURL" := by
  have hascii : ∀ m ∈ urlMethods, IsAscii m.name := by decide
  have hfield : urlField ∈ (ofMethods urlMethods).fields := by decide
  obtain ⟨hgetter, _, hsetter⟩ := accessorName_eq_iff urlMethods hascii urlField hfield
  obtain ⟨getter, rest, hgets, hname, hiff⟩ := hgetter "get" rfl
  have hfirst : urlMethods.find? (·.Gets urlField.name) =
      some { name := "getUrl", returnType := "String" } := by decide
  cases hfirst.symm.trans hgets
  have hrest : rest = "Url" := by
    apply String.toList_inj.1
    have hchars : "get".toList ++ rest.toList = "get".toList ++ "Url".toList := by
      rw [← String.toList_append, ← hname]
      rfl
    exact List.append_cancel_left hchars
  refine ⟨hascii, hfield, hiff.2 (by rw [hrest]; decide), ?_⟩
  exact (hsetter _ List.mem_cons_self (by decide) "URL" rfl).not.2 (by decide)

end FieldTable

end BeanForge
