import BeanForge.Proofs.Template.Yield

/-!
# Filters on fields

What the filters for members of a class yield on fields, one by one and, through a series that is
joined, on all fields of a list.
-/

namespace BeanForge.Template

/-! Members -/

theorem member_name (f : Field) : (Value.field f).member "name" = .ok (.string f.name) := rfl

theorem member_typeName (f : Field) :
    (Value.field f).member "type_name" = .ok (.string f.typeName) := rfl

theorem member_isIdentifier (f : Field) :
    (Value.field f).member "is_identifier" = .ok (.bool f.isIdentifier) := rfl

/-- Words are compared by their characters. -/
theorem contains_words (cs word : List Char) :
    (Value.words (String.ofList cs)).contains (String.ofList word) =
      (Text.splitAt ' ' cs).contains word := by
  rw [Value.words, String.toList_ofList]
  induction Text.splitAt ' ' cs with
  | nil => rfl
  | cons piece rest ih =>
    have hpiece : (String.ofList word == String.ofList piece) = (word == piece) := by
      rw [Bool.eq_iff_iff, beq_iff_eq, beq_iff_eq, String.ofList_inj]
    rw [List.map_cons, List.contains_cons, List.contains_cons, ih, hpiece]

theorem not_contains_words {text word : String} {cs ws : List Char} (h : text = String.ofList cs)
    (h' : word = String.ofList ws) (hw : (Text.splitAt ' ' cs).contains ws = false) :
    (Value.words text).contains word = false := by
  rw [h, h', contains_words, hw]

set_option maxRecDepth 2000 in
theorem commonFeatures_last : Value.commonFeatures.contains "last" = false := by
  apply not_contains_words rfl rfl
  decide +kernel

theorem loopFeatures_last : Value.loopFeatures.contains "last" = false := by
  apply not_contains_words rfl rfl
  decide +kernel

theorem feature?_loop_last (index total : Nat) (previous next : Value) :
    (Value.loop index total none previous next).feature? "last" = none := by
  have hnames : (Value.loop index total none previous next).featureNames = Value.loopFeatures := rfl
  have hint : (Value.loop index total none previous next).int? = none := rfl
  simp only [Value.feature?, hint, Option.bind_none, String.reduceEq, if_false, hnames,
    commonFeatures_last, loopFeatures_last, Bool.or_self, Bool.false_eq_true]

theorem member_loop {index total : Nat} {previous next v : Value} {name : String}
    (h : (Value.loop index total none previous next).feature? name = none)
    (hv : Value.loopMember? index total none previous next name = .ok (some v)) :
    (Value.loop index total none previous next).member name = .ok v := by
  simp only [Value.member, Value.ownMember?, h, hv]
  rfl

theorem member_last (index total : Nat) (previous next : Value) :
    (Value.loop index total none previous next).member "last" =
      .ok (.bool (index + 1 == total)) :=
  member_loop (feature?_loop_last index total previous next) rfl

/-! Single fields -/

def Filter.fieldText? : Filter → Option (Field → String)
  | getterName => some Field.getterName
  | setterName => some Field.setterName
  | hash => some Field.hash
  | display => some Field.display
  | _ => none

theorem yields_fieldText {name : String} {filter : Filter} {text : Field → String}
    (hname : Filter.named? name = some filter) (htext : filter.fieldText? = some text)
    (f : Field) : Yields (applyFilter name (.field f) []) (.string (text f)) := by
  intro feeds
  refine ⟨feeds, ?_⟩
  simp only [applyFilter, hname]
  cases filter <;> simp only [Filter.fieldText?, Option.some.injEq, reduceCtorEq] at htext <;>
    subst htext <;> rfl

/-! Series of fields -/

section Series

variable {apply : Application} {depth number : Nat} {feeds : Feeds} {feed : Feed}
  {mapping : Mapping}

theorem next_of_item {v : Value} {rest : List Value} (h : feeds[number]? = some feed)
    (hbegun : feed.begun = .ok (.giving (.items (v :: rest)) mapping)) :
    Filter.next apply (depth + 1) number feeds =
      (some <$> mapping.on apply v) (feeds.set number (.giving (.items rest) mapping)) := by
  have hget : (get : Rendering Feeds) feeds = .ok (feeds, feeds) := rfl
  unfold Filter.next
  rw [bind_of_ok hget, h]
  show (liftM feed.begun >>= _ : Rendering (Option Value)) feeds = _
  rw [hbegun]
  rfl

theorem next_of_no_item (h : feeds[number]? = some feed)
    (hbegun : feed.begun = .ok (.giving (.items []) mapping)) :
    Filter.next apply (depth + 1) number feeds =
      .ok (none, feeds.set number (.giving (.items []) mapping)) := by
  have hget : (get : Rendering Feeds) feeds = .ok (feeds, feeds) := rfl
  unfold Filter.next
  rw [bind_of_ok hget, h]
  show (liftM feed.begun >>= _ : Rendering (Option Value)) feeds = _
  rw [hbegun]
  rfl

/-- Any series that maps fields to texts is read to its end. -/
theorem itemsFrom_of_fields {text : Field → String}
    (hon : ∀ f feeds, mapping.on apply (.field f) feeds = .ok (.string (text f), feeds))
    (fields : List Field) {bound : Nat} (hbound : fields.length < bound)
    (h : feeds[number]? = some feed)
    (hbegun : feed.begun = .ok (.giving (.items (fields.map .field)) mapping)) :
    ∃ others, Reader.itemsFrom (Filter.next apply (depth + 1)) number bound feeds =
      (⟨fields.map fun f => .string (text f), none⟩, others) := by
  induction fields generalizing feeds feed bound with
  | nil =>
    obtain ⟨bound, rfl⟩ := Nat.exists_eq_add_of_lt hbound
    refine ⟨feeds.set number (.giving (.items []) mapping), ?_⟩
    rw [Reader.itemsFrom, next_of_no_item h hbegun]
    rfl
  | cons f rest ih =>
    obtain ⟨bound, rfl⟩ := Nat.exists_eq_add_of_lt hbound
    have hnumber : number < feeds.length := (List.getElem?_eq_some_iff.1 h).1
    have hnext : (feeds.set number (.giving (.items (rest.map .field)) mapping))[number]? =
        some (.giving (.items (rest.map .field)) mapping) := by
      rw [List.getElem?_set_self hnumber]
    have hleft : rest.length < rest.length + 1 + bound := by omega
    obtain ⟨others, htail⟩ := ih hleft hnext rfl
    have hread : Filter.next apply (depth + 1) number feeds =
        .ok (some (.string (text f)),
          feeds.set number (.giving (.items (rest.map .field)) mapping)) := by
      rw [next_of_item h hbegun]
      show (mapping.on apply (.field f) (feeds.set number _) >>= fun r => .ok (some r.1, r.2)) = _
      rw [hon]
      rfl
    refine ⟨others, ?_⟩
    rw [List.length_cons, Reader.itemsFrom, hread]
    simp only [htail, List.map_cons]

theorem room_of_waiting {values given : List Value} {named : List (String × Value)}
    (h : feeds[number]? = some (.waiting (.tuple values) given named)) :
    feeds.room (depth + 1) (.series number) = values.length := by
  rw [Feeds.room, h]
  exact Feeds.room.eq_1 ..

end Series

theorem mapFrom_strings (texts : List String) :
    Items.mapFrom (fun v => Value.string <$> v.text) none (texts.map .string) =
      ⟨texts.map .string, none⟩ := by
  induction texts with
  | nil => rfl
  | cons text rest ih =>
    rw [List.map_cons, Items.mapFrom, ih]
    rfl

theorem mapM_text_strings (texts : List String) :
    (texts.map Value.string).mapM Value.text = .ok texts := by
  induction texts with
  | nil => rfl
  | cons text rest ih =>
    rw [List.map_cons, List.mapM_cons, ih]
    rfl

theorem textsOf_strings (texts : List String) :
    Filter.textsOf ⟨texts.map .string, none⟩ = .ok texts := by
  rw [Filter.textsOf, Items.map, mapFrom_strings]
  exact mapM_text_strings texts

/-- What a series that maps fields to texts is joined to. -/
theorem joined_series {apply : Application} {depth number : Nat} {feeds : Feeds}
    {filter : Filter} {name : String} {text : Field → String} (separator : String)
    (hname : Filter.named? name = some filter)
    (hon : ∀ f feeds, apply filter (.field f) [] [] feeds = .ok (.string (text f), feeds))
    {fields : List Field} (hfields : fields ≠ [])
    (h : feeds[number]? = some (.waiting (.tuple (fields.map .field)) [.string name] [])) :
    ∃ others, Filter.joined (Filter.next apply (depth + 1)) (.series number)
      (some (.string separator)) none feeds =
        .ok (.string (separator.intercalate (fields.map text)), others) := by
  have hbegun : (Feed.waiting (.tuple (fields.map .field)) [.string name] []).begun =
      .ok (.giving (.items (fields.map .field)) (.filter filter [] [])) := by
    obtain ⟨f, rest, rfl⟩ := List.exists_cons_of_ne_nil hfields
    show (do
      let mapping ← Mapping.ofArguments [.string name] []
      pure (.giving _ mapping) : Rendered Feed) = _
    rw [Mapping.ofArguments, hname]
    rfl
  have hroom : feeds.room (feeds.length + 1) (.series number) = fields.length := by
    rw [room_of_waiting h, List.length_map]
  have hmapping : ∀ f feeds, (Mapping.filter filter [] []).on apply (.field f) feeds =
      .ok (.string (text f), feeds) := hon
  have hgiven : ∃ others, Reader.itemsFrom (Filter.next apply (depth + 1)) number
      (fields.length + 1) feeds = (⟨fields.map fun f => .string (text f), none⟩, others) :=
    itemsFrom_of_fields hmapping fields (Nat.lt_succ_self _) h hbegun
  obtain ⟨others, hitems⟩ := hgiven
  have hread : Reader.items (Filter.next apply (depth + 1)) (.series number) feeds =
      .ok (⟨(fields.map text).map .string, none⟩, others) := by
    rw [Reader.items, hroom, List.map_map]
    exact congrArg Except.ok hitems
  refine ⟨others, ?_⟩
  rw [Filter.joined]
  refine (bind_of_ok rfl).trans ((bind_of_ok rfl).trans ((bind_of_ok hread).trans ?_))
  refine (bind_of_ok rfl).trans (bind_of_ok ?_)
  exact congrArg (·.map (·, others)) (textsOf_strings (fields.map text))

theorem applyFilter_join (input : Value) (separator : String) :
    applyFilter "join" input [(none, .string separator)] =
      Filter.joined (Filter.next (Filter.applyFrom 199) 199) input (some (.string separator))
        none := rfl

/-- Fields are compared one by one, with a text between the comparisons. -/
theorem yields_joined_equalities {s : Scope} {e : Expr} {line line' : Nat} {fields : List Field}
    (separator : String) (hfields : fields ≠ [])
    (h : Yields (eval s e) (.tuple (fields.map .field))) :
    Yields (eval s (.filter (.filter e "map" [(none, .literal (.string "equals_expr"))] line) "join"
      [(none, .literal (.string separator))] line'))
      (.string (separator.intercalate (fields.map (·.equality "other")))) := by
  intro feeds
  obtain ⟨before, hsource⟩ := h feeds
  let waiting : Feed := .waiting (.tuple (fields.map .field)) [.string "equals_expr"] []
  have hopened : eval s (.filter e "map" [(none, .literal (.string "equals_expr"))] line) feeds =
      .ok (.series before.length, before ++ [waiting]) := by
    exact (bind_of_ok hsource).trans ((bind_of_ok rfl).trans rfl)
  have hlast : (before ++ [waiting])[before.length]? = some waiting := by
    rw [List.getElem?_append_right (Nat.le_refl _), Nat.sub_self]
    rfl
  have happly : ∀ f feeds, Filter.applyFrom 199 .equality (.field f) [] [] feeds =
      .ok (.string (f.equality "other"), feeds) := fun _ _ => rfl
  obtain ⟨others, hjoined⟩ := joined_series separator rfl happly hfields hlast
  refine ⟨others, ?_⟩
  refine (bind_of_ok hopened).trans ((bind_of_ok rfl).trans ?_)
  rw [applyFilter_join]
  exact hjoined

end BeanForge.Template
