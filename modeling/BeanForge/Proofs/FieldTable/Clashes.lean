import BeanForge.Proofs.Entity.Accessors
import BeanForge.Proofs.Text.Capitals

/-!
# Clashes of accessors

The fields of a table have distinct names in small letters, and the accessors have the names with a
capital in front. So two fields clash if and only if their names are twins: their setters then have
one name, and so have their getters if both have the same word.
-/

namespace BeanForge

open Text

/-- Names behind accessor words are the same only if both parts are. -/
theorem AccessorWord.append_inj {word other : AccessorWord} {s t : String}
    (h : word.text ++ s = other.text ++ t) : word = other ∧ s = t := by
  have hs : split? (word.text ++ s).toList = some (word, s.toList) :=
    split?_eq_some_iff.2 String.toList_append
  have ht : split? (word.text ++ s).toList = some (other, t.toList) :=
    split?_eq_some_iff.2 (by rw [h, String.toList_append])
  obtain ⟨hword, hrest⟩ := Prod.mk.inj (Option.some.inj (hs.symm.trans ht))
  exact ⟨hword, String.toList_inj.1 hrest⟩

namespace FieldTable

theorem isOwnSmall_of_mem_name (methods : List Method) :
    ∀ f ∈ (ofMethods methods).fields, ∀ c ∈ f.name.toList, IsOwnSmall c := by
  refine forall_fields_ofMethods (fun _ _ hf _ => hf) fun m _ f hfield => ?_
  obtain ⟨_, _, _, hname⟩ := Method.name_of_field? hfield
  rw [hname]
  exact isOwnSmall_of_mem_lower

theorem exists_accessWord {methods : List Method} {f : Field}
    (hf : f ∈ (ofMethods methods).fields) :
    ∃ word : AccessorWord, f.accessWord = word.text ∧ word ≠ .set := by
  rw [Field.accessWord]
  cases hword : f.getterWord with
  | none =>
    rw [Option.getD_none]
    split
    · exact ⟨.is, rfl, by decide⟩
    · exact ⟨.get, rfl, by decide⟩
  | some w =>
    rcases getterWord_ofMethods methods f hf w hword with rfl | rfl
    · exact ⟨.get, rfl, by decide⟩
    · exact ⟨.is, rfl, by decide⟩

/-- Two fields of a table have one capital form only if they are twins. -/
theorem capitalized_eq_iff_twins {methods : List Method} {f g : Field}
    (hf : f ∈ (ofMethods methods).fields) (hg : g ∈ (ofMethods methods).fields) :
    capitalized f.name = capitalized g.name ↔ f = g ∨ Twins f.name.toList g.name.toList := by
  rw [capitalized_eq_iff (isOwnSmall_of_mem_name methods f hf)
    (isOwnSmall_of_mem_name methods g hg)]
  refine or_congr_left ⟨fun h => ?_, fun h => h ▸ rfl⟩
  exact List.inj_on_of_nodup_map (ofMethods methods).distinct hf hg h

theorem getterName_eq_iff_twins {methods : List Method} {f g : Field}
    (hf : f ∈ (ofMethods methods).fields) (hg : g ∈ (ofMethods methods).fields) :
    f.getterName = g.getterName ↔
      f = g ∨ (f.accessWord = g.accessWord ∧ Twins f.name.toList g.name.toList) := by
  obtain ⟨word, hword, _⟩ := exists_accessWord hf
  obtain ⟨other, hother, _⟩ := exists_accessWord hg
  rw [Field.getterName_eq, Field.getterName_eq]
  constructor
  · intro h
    rw [hword, hother] at h
    obtain ⟨rfl, hrest⟩ := AccessorWord.append_inj h
    exact ((capitalized_eq_iff_twins hf hg).1 hrest).imp_right fun htwins =>
      ⟨hword.trans hother.symm, htwins⟩
  · rintro (rfl | ⟨hsame, htwins⟩)
    · rfl
    · rw [hsame, (capitalized_eq_iff_twins hf hg).2 (.inr htwins)]

theorem setterName_eq_iff_twins {methods : List Method} {f g : Field}
    (hf : f ∈ (ofMethods methods).fields) (hg : g ∈ (ofMethods methods).fields) :
    f.setterName = g.setterName ↔ f = g ∨ Twins f.name.toList g.name.toList := by
  rw [← capitalized_eq_iff_twins hf hg]
  refine ⟨fun h => ?_, fun h => by rw [Field.setterName, Field.setterName, h]⟩
  exact (@AccessorWord.append_inj .set .set _ _ h).2

theorem getterName_ne_setterName {methods : List Method} {f : Field}
    (hf : f ∈ (ofMethods methods).fields) (g : Field) : f.getterName ≠ g.setterName := by
  obtain ⟨word, hword, hne⟩ := exists_accessWord hf
  intro h
  rw [Field.getterName_eq, hword] at h
  exact hne (@AccessorWord.append_inj word .set _ _ h).1

theorem nodup_fields (t : FieldTable) : t.fields.Nodup :=
  .of_map _ t.distinct

/-- Distinct names of fields under a function that twins alone share. -/
theorem nodup_map_iff_of_twins {methods : List Method} {name : Field → String}
    {Alike : Field → Field → Prop}
    (h : ∀ f ∈ (ofMethods methods).fields, ∀ g ∈ (ofMethods methods).fields,
      (name f = name g ↔ f = g ∨ (Alike f g ∧ Twins f.name.toList g.name.toList))) :
    ((ofMethods methods).fields.map name).Nodup ↔
      ∀ f ∈ (ofMethods methods).fields, ∀ g ∈ (ofMethods methods).fields,
        Twins f.name.toList g.name.toList → ¬Alike f g := by
  rw [List.nodup_map_iff_inj_on (nodup_fields _)]
  constructor
  · intro hinj f hf g hg htwins halike
    have hsame := hinj f hf g hg ((h f hf g hg).2 (.inr ⟨halike, htwins⟩))
    exact htwins.ne (hsame ▸ rfl)
  · intro hnone f hf g hg hname
    exact ((h f hf g hg).1 hname).resolve_right fun ⟨halike, htwins⟩ =>
      hnone f hf g hg htwins halike

theorem accessors_perm (t : FieldTable) :
    (t.accessors.map (·.name)).Perm
      (t.fields.map Field.getterName ++ t.fields.map Field.setterName) := by
  rw [accessors]
  induction t.fields with
  | nil => exact .nil
  | cons f rest ih =>
    simp only [List.flatMap_cons, List.map_cons, List.cons_append, List.nil_append]
    exact .cons _ ((ih.cons _).trans List.perm_middle.symm)

/-- Getters and setters never meet. -/
theorem nodup_accessors_iff_names (methods : List Method) :
    ((ofMethods methods).accessors.map (·.name)).Nodup ↔
      ((ofMethods methods).fields.map Field.getterName).Nodup ∧
        ((ofMethods methods).fields.map Field.setterName).Nodup := by
  rw [(accessors_perm _).nodup_iff, List.nodup_append]
  refine ⟨fun h => ⟨h.1, h.2.1⟩, fun h => ⟨h.1, h.2, fun getter hgetter setter hsetter => ?_⟩⟩
  obtain ⟨f, hf, rfl⟩ := List.mem_map.1 hgetter
  obtain ⟨g, _, rfl⟩ := List.mem_map.1 hsetter
  exact getterName_ne_setterName hf g

/-- The accessors of a class have distinct names if and only if no two fields are twins. The class
declares no getter twice if and only if twins among the fields have getters with different words. -/
theorem nodup_accessors_iff (methods : List Method) :
    (((ofMethods methods).accessors.map (·.name)).Nodup ↔
      ∀ f ∈ (ofMethods methods).fields, ∀ g ∈ (ofMethods methods).fields,
        ¬Twins f.name.toList g.name.toList) ∧
    (((ofMethods methods).fields.map Field.getterName).Nodup ↔
      ∀ f ∈ (ofMethods methods).fields, ∀ g ∈ (ofMethods methods).fields,
        Twins f.name.toList g.name.toList → f.accessWord ≠ g.accessWord) := by
  have hgetters := @nodup_map_iff_of_twins methods Field.getterName
    (fun f g => f.accessWord = g.accessWord) fun f hf g hg => getterName_eq_iff_twins hf hg
  have hsetters := @nodup_map_iff_of_twins methods Field.setterName (fun _ _ => True)
    fun f hf g hg => by rw [setterName_eq_iff_twins hf hg, true_and]
  refine ⟨?_, hgetters⟩
  rw [nodup_accessors_iff_names, hgetters, hsetters]
  constructor
  · exact fun ⟨_, hnone⟩ f hf g hg htwins => hnone f hf g hg htwins trivial
  · exact fun hnone => ⟨fun f hf g hg htwins => absurd htwins (hnone f hf g hg),
      fun f hf g hg htwins => absurd htwins (hnone f hf g hg)⟩

/-- The small letter without a dot has the capital of the one with a dot. -/
def dotlessMethods : List Method :=
  [{ name := "getI", returnType := "String" },
    { name := "getı", returnType := "String" }]

theorem not_nodup_accessors_of_dotless_letter :
    (ofMethods dotlessMethods).fields.map Field.name = ["i", "ı"] ∧
      (ofMethods dotlessMethods).accessors.map (·.name) = ["getI", "setI", "getI", "setI"] ∧
      ¬((ofMethods dotlessMethods).accessors.map (·.name)).Nodup ∧
      ¬((ofMethods dotlessMethods).fields.map Field.getterName).Nodup := by
  decide +kernel

end FieldTable

end BeanForge
