import BeanForge.Proofs.Entity.ClassText
import BeanForge.Proofs.Template.BundledParts
import BeanForge.Proofs.Template.FieldFilters

/-!
# The bundled template at work

What each part of the bundled template yields. The parts inside a loop see the field of their
round, and every other part sees the variables and the fields that objects are compared by.
-/

namespace BeanForge.Template

/-! Names -/

theorem value_of_known {s : Scope} {name : String} {v : Value}
    (h : Scope.known? (Text.plainName name) s.frames = some (some v)) : s.value name = v := by
  rw [Scope.value, Scope.value?, h]
  rfl

theorem value_of_binding {s : Scope} {name : String} {v : Value}
    (h : Scope.known? (Text.plainName name) s.frames = none)
    (hv : Keyed.get? name s.bindings = some v) : s.value name = v := by
  rw [Scope.value, Scope.value?, h, hv]
  rfl

theorem value_enter_head (s : Scope) (name : String) (v : Value) (more : List (String × Value))
    (body : List Part) : (s.enter ((name, v) :: more) body).value name = v := by
  refine value_of_known ?_
  rw [Scope.enter, Scope.known?]
  simp only [Scope.plainValues, List.map_cons, List.cons_append, Keyed.get?, if_true]

theorem value_enter_second {first name : String} (s : Scope) (u v : Value) (body : List Part)
    (h : Text.plainName first ≠ Text.plainName name) :
    (s.enter [(first, u), (name, v)] body).value name = v := by
  refine value_of_known ?_
  rw [Scope.enter, Scope.known?]
  simp only [Scope.plainValues, List.map_cons, List.cons_append, Keyed.get?, if_neg h, if_true]

namespace Bundled

variable {insertion : Insertion} {s : Scope} {f : Field} {v : Value} {t : String}

theorem yields_shown {name : String} (h : s.value name = .string t) :
    Yields (run insertion s (shown name)) (s, t) :=
  yields_print ((yields_name s name).of_eq h) rfl

theorem yields_shownMember {name : String} (h : s.value "field" = .field f)
    (hm : (Value.field f).member name = .ok (.string t)) :
    Yields (run insertion s (shownMember name)) (s, t) :=
  yields_print (yields_member ((yields_name s "field").of_eq h) hm) rfl

theorem yields_shownUnder {name : String} {filter : Filter} {text : Field → String} {line : Nat}
    (h : s.value "field" = .field f) (hname : Filter.named? name = some filter)
    (htext : filter.fieldText? = some text) :
    Yields (run insertion s (shownUnder name line)) (s, text f) :=
  yields_print (yields_filter ((yields_name s "field").of_eq h) (yields_no_arguments s)
    (yields_fieldText hname htext f)) rfl

theorem yields_declarationParts (h : s.value "field" = .field f) :
    Yields (runAll insertion s declarationParts) f.declarationText := by
  have hname : Yields (run insertion s (shownMember "name")) (s, f.name) :=
    yields_shownMember h (member_name f)
  have htype : Yields (run insertion s (shownMember "type_name")) (s, f.typeName) :=
    yields_shownMember h (member_typeName f)
  have hremark : Yields (run insertion s (.branch [(.member (.name "field") "is_identifier",
      [.text ", part of the entity key"])] []))
      (s, if f.isIdentifier then ", part of the entity key" else "") := by
    refine yields_branch (yields_member ((yields_name s "field").of_eq h) (member_isIdentifier f))
      rfl ?_
    cases f.isIdentifier with
    | false => exact yields_runIn_nil
    | true => exact yields_runIn_cons yields_text yields_runIn_nil
  rw [declarationParts]
  refine Yields.of_eq (yields_runAll_cons yields_text <| yields_runAll_cons hname <|
    yields_runAll_cons yields_text <| yields_runAll_cons hremark <|
    yields_runAll_cons yields_text <| yields_runAll_cons htype <|
    yields_runAll_cons yields_text <| yields_runAll_cons hname <|
    yields_runAll_cons yields_text <| yields_runAll_nil) ?_
  unfold Field.declarationText
  simp only [String.append_assoc, String.append_empty]

theorem yields_accessorParts (h : s.value "field" = .field f) :
    Yields (runAll insertion s accessorParts) f.accessorText := by
  have hname : Yields (run insertion s (shownMember "name")) (s, f.name) :=
    yields_shownMember h (member_name f)
  have htype : Yields (run insertion s (shownMember "type_name")) (s, f.typeName) :=
    yields_shownMember h (member_typeName f)
  have hgetter : Yields (run insertion s (shownUnder "getter_name" 27)) (s, f.getterName) :=
    yields_shownUnder h rfl rfl
  have hsetter : Yields (run insertion s (shownUnder "setter_name" 32)) (s, f.setterName) :=
    yields_shownUnder h rfl rfl
  rw [accessorParts]
  refine Yields.of_eq (yields_runAll_cons yields_text <| yields_runAll_cons htype <|
    yields_runAll_cons yields_text <| yields_runAll_cons hgetter <|
    yields_runAll_cons yields_text <| yields_runAll_cons hname <|
    yields_runAll_cons yields_text <| yields_runAll_cons hsetter <|
    yields_runAll_cons yields_text <| yields_runAll_cons htype <|
    yields_runAll_cons yields_text <| yields_runAll_cons hname <|
    yields_runAll_cons yields_text <| yields_runAll_cons hname <|
    yields_runAll_cons yields_text <| yields_runAll_cons hname <|
    yields_runAll_cons yields_text <| yields_runAll_nil) ?_
  unfold Field.accessorText
  simp only [String.append_assoc, String.append_empty]

theorem yields_hashParts (h : s.value "field" = .field f) :
    Yields (runAll insertion s hashParts) f.hashText := by
  have hhash : Yields (run insertion s (shownUnder "hash_expr" 61)) (s, f.hash) :=
    yields_shownUnder h rfl rfl
  rw [hashParts]
  refine Yields.of_eq (yields_runAll_cons yields_text <| yields_runAll_cons hhash <|
    yields_runAll_cons yields_text <| yields_runAll_nil) ?_
  unfold Field.hashText
  simp only [String.append_assoc, String.append_empty]

def displayLine (f : Field) (rest : List Field) : String :=
  f.displayText ++ (if rest.isEmpty then "" else " + \", \"") ++ "\n"

theorem fieldTexts_displayLine (fields : List Field) :
    fieldTexts displayLine fields = Field.displayLines fields := by
  induction fields with
  | nil => rfl
  | cons f rest ih =>
    rw [fieldTexts, ih]
    cases rest with
    | nil => simp [displayLine, Field.displayLines]
    | cons g rest => rfl

theorem yields_displayParts {index : Nat} {rest : List Field} {previous next : Value}
    (h : s.value "field" = .field f)
    (hloop : s.value "loop" = .loop index (index + 1 + rest.length) none previous next) :
    Yields (runAll insertion s displayParts) (displayLine f rest) := by
  have hname : Yields (run insertion s (shownMember "name")) (s, f.name) :=
    yields_shownMember h (member_name f)
  have hdisplay : Yields (run insertion s (shownUnder "string_expr" 71)) (s, f.display) :=
    yields_shownUnder h rfl rfl
  have hcomma : Yields (run insertion s (.branch [(.inverse (.member (.name "loop") "last"),
      [.text " + \", \""])] [])) (s, if rest.isEmpty then "" else " + \", \"") := by
    have hlast := yields_member ((yields_name s "loop").of_eq hloop)
      (member_last index (index + 1 + rest.length) previous next)
    refine yields_branch (yields_inverse hlast rfl) rfl ?_
    cases rest with
    | nil => simpa using yields_runIn_nil
    | cons g rest =>
      have hmore : (index + 1 == index + 1 + (g :: rest).length) = false := by simp
      rw [hmore]
      exact yields_runIn_cons yields_text yields_runIn_nil
  rw [displayParts]
  refine Yields.of_eq (yields_runAll_cons yields_text <| yields_runAll_cons hname <|
    yields_runAll_cons yields_text <| yields_runAll_cons hdisplay <|
    yields_runAll_cons hcomma <| yields_runAll_cons yields_text <| yields_runAll_nil) ?_
  unfold displayLine Field.displayText
  simp only [String.append_assoc, String.append_empty]

/-! Loops over fields -/

theorem yields_fieldLoop {line : Nat} {source : String} {body : List Part} {fields : List Field}
    {text : Field → String} (hsource : s.value source = .tuple (fields.map .field))
    (hreads : Part.readsIn "loop" body = false)
    (h : ∀ {s' : Scope} {f : Field}, s'.value "field" = .field f →
      Yields (runAll insertion s' body) (text f)) :
    Yields (run insertion s (fieldLoop line source body)) (s, String.join (fields.map text)) := by
  rw [← fieldTexts_eq_join]
  refine yields_loop ((yields_name s source).of_eq hsource) fun t f rest => ?_
  rw [roundOf, Target.bind, hreads]
  refine (yields_pure _).bind ((yields_pure _).bind ?_)
  exact h (value_enter_head s "field" (.field f) [] body)

theorem yields_displayLoop {line : Nat} {source : String} {fields : List Field}
    (hsource : s.value source = .tuple (fields.map .field)) :
    Yields (run insertion s (fieldLoop line source displayParts))
      (s, Field.displayLines fields) := by
  rw [← fieldTexts_displayLine]
  refine yields_loop ((yields_name s source).of_eq hsource) fun t f rest => ?_
  have hreads : Part.readsIn "loop" displayParts = true := by decide +kernel
  have hplain : Text.plainName "loop" ≠ Text.plainName "field" := by decide +kernel
  rw [roundOf, Target.bind, hreads]
  refine (yields_pure _).bind (((yields_pure _).bind (yields_pure _)).bind ?_)
  rw [List.length_map]
  exact yields_displayParts (value_enter_second s _ _ displayParts hplain)
    (value_enter_head s "loop" _ _ displayParts)

/-! The whole template -/

structure Knows (s : Scope) (e : Entity) : Prop where
  package : s.value "package_name" = .string e.package
  interfaceName : s.value "entity_name" = .string e.interfaceName
  generatedName : s.value "impl_name" = .string e.generatedName
  fields : s.value "fields" = .tuple (e.table.fields.map .field)
  identifiers : s.value "id_fields" = .tuple (e.table.identifiers.map .field)

variable {e : Entity}

theorem yields_packageClause (h : Knows s e) :
    Yields (run insertion s (.branch [(.name "package_name", packageParts)] []))
      (s, e.packageText) := by
  refine yields_branch ((yields_name s "package_name").of_eq h.package) rfl ?_
  unfold Entity.packageText
  by_cases hempty : e.package = ""
  · rw [if_pos hempty, hempty]
    exact yields_runIn_nil
  · rw [if_neg hempty, (bne_iff_ne).2 hempty, packageParts]
    refine Yields.of_eq (yields_runIn_cons yields_text <|
      yields_runIn_cons (yields_shown h.package) <| yields_runIn_cons yields_text <|
      yields_runIn_nil) ?_
    simp only [String.append_assoc, String.append_empty]

/-- The identifiers are taken for the fields that count, or all fields if there are none. -/
theorem yields_keyFields (h : Knows s e) :
    Yields (run insertion s keyFields)
      (s.assign "key_fields" (.tuple (e.keyFields.map .field)), "") := by
  refine yields_assign (yields_choice ((yields_name s "id_fields").of_eq h.identifiers) rfl ?_)
  unfold Entity.keyFields
  rw [List.isEmpty_map]
  cases e.table.identifiers.isEmpty with
  | false => exact (yields_name s "id_fields").of_eq h.identifiers
  | true => exact (yields_name s "fields").of_eq h.fields

theorem yields_comparison (h : Knows s e)
    (hkeys : s.value "key_fields" = .tuple (e.keyFields.map .field)) :
    Yields (run insertion s (.branch [(.name "key_fields", comparisonParts)]
      [.text "        return true;\n"])) (s, e.comparisonText) := by
  have hsource : Yields (eval s (.name "key_fields")) (.tuple (e.keyFields.map .field)) :=
    (yields_name s "key_fields").of_eq hkeys
  refine yields_branch hsource rfl ?_
  unfold Entity.comparisonText
  rw [List.isEmpty_map]
  cases hempty : e.keyFields.isEmpty with
  | true => exact (yields_runIn_cons yields_text yields_runIn_nil).of_eq rfl
  | false =>
    have hfields : e.keyFields ≠ [] := by simpa using hempty
    have hcomparisons : Yields (run insertion s (.print comparisons))
        (s, " && ".intercalate (e.keyFields.map (·.equality "other"))) :=
      yields_print (yields_joined_equalities " && " hfields hsource) rfl
    rw [Bool.not_false, if_pos rfl, comparisonParts]
    refine Yields.of_eq (yields_runIn_cons yields_text <|
      yields_runIn_cons (yields_shown h.generatedName) <| yields_runIn_cons yields_text <|
      yields_runIn_cons (yields_shown h.generatedName) <| yields_runIn_cons yields_text <|
      yields_runIn_cons hcomparisons <| yields_runIn_cons yields_text <| yields_runIn_nil) ?_
    simp [String.append_assoc]

theorem yields_parts {s' : Scope} (h : Knows s e) (h' : Knows s' e)
    (hassign : s.assign "key_fields" (.tuple (e.keyFields.map .field)) = s')
    (hkeys : s'.value "key_fields" = .tuple (e.keyFields.map .field)) :
    Yields (runAll insertion s parts) e.classText := by
  have hdeclarations : Yields (run insertion s (fieldLoop 12 "fields" declarationParts))
      (s, String.join (e.table.fields.map Field.declarationText)) :=
    yields_fieldLoop h.fields (by decide +kernel) yields_declarationParts
  have haccessors : Yields (run insertion s (fieldLoop 25 "fields" accessorParts))
      (s, String.join (e.table.fields.map Field.accessorText)) :=
    yields_fieldLoop h.fields (by decide +kernel) yields_accessorParts
  have hhashes : Yields (run insertion s' (fieldLoop 60 "key_fields" hashParts))
      (s', String.join (e.keyFields.map Field.hashText)) :=
    yields_fieldLoop hkeys (by decide +kernel) yields_hashParts
  have hlines : Yields (run insertion s' (fieldLoop 70 "fields" displayParts))
      (s', Field.displayLines e.table.fields) := yields_displayLoop h'.fields
  have hkeyFields : Yields (run insertion s keyFields) (s', "") := hassign ▸ yields_keyFields h
  rw [parts]
  refine Yields.of_eq (yields_runAll_cons (yields_packageClause h) <|
    yields_runAll_cons yields_text <| yields_runAll_cons (yields_shown h.interfaceName) <|
    yields_runAll_cons yields_text <| yields_runAll_cons (yields_shown h.generatedName) <|
    yields_runAll_cons yields_text <| yields_runAll_cons (yields_shown h.interfaceName) <|
    yields_runAll_cons yields_text <| yields_runAll_cons hdeclarations <|
    yields_runAll_cons yields_text <| yields_runAll_cons (yields_shown h.generatedName) <|
    yields_runAll_cons yields_text <| yields_runAll_cons haccessors <|
    yields_runAll_cons hkeyFields <|
    yields_runAll_cons yields_text <| yields_runAll_cons (yields_shown h'.generatedName) <|
    yields_runAll_cons yields_text <| yields_runAll_cons (yields_comparison h' hkeys) <|
    yields_runAll_cons yields_text <| yields_runAll_cons hhashes <|
    yields_runAll_cons yields_text <| yields_runAll_cons (yields_shown h'.generatedName) <|
    yields_runAll_cons yields_text <| yields_runAll_cons hlines <|
    yields_runAll_cons yields_text <| yields_runAll_nil) ?_
  unfold Entity.classText Entity.headerText Entity.constructorText Entity.equalsText
    Entity.hashCodeText Entity.toStringText
  simp only [String.append_assoc, String.append_empty, String.empty_append]

end Bundled

end BeanForge.Template
