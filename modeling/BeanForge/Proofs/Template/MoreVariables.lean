import BeanForge.Proofs.Keyed
import BeanForge.Proofs.Template.BundledParts
import BeanForge.Proofs.Template.GuardedRuns

/-!
# More variables

A template that is guarded, together with all templates that it may insert, and that yields a text
for some variables yields the same text for more variables. Without the guard a missing variable
may be shown, as it is inside a list.
-/

namespace BeanForge.Template

variable {steady : String → Bool} {bindings more : List (String × Value)}

theorem entails_textOf {insertion : Insertion} (hstrict : insertion.IsStrict)
    (h : Supplies steady bindings more) (label : Option String) {parts : List Part}
    (hguard : Guard.inParts steady parts = true)
    (hkeeps : insertion.KeepsAll steady (Part.insertsIn parts)) :
    Entails (· = ·) (textOf insertion label bindings parts) (textOf insertion label more parts) := by
  have hscope : Scope.FilledBy steady { bindings, label } { bindings := more, label } :=
    ⟨.nil, h, rfl⟩
  exact entails_runAll hstrict (hscope.enter (forall₂_named_refl _) parts) parts hguard hkeeps

/-! Templates that are reached -/

/-- Whether a value may name a template; only texts and lists of texts tell which. -/
def Value.MayName (name : String) : Value → Prop
  | .string s => s = name
  | .tuple items | .list items => .string name ∈ items
  | _ => True

namespace Library

/-- The templates that may be inserted in a template, directly or in each other. -/
inductive Reaches (l : Library) (start : List Part) : List Part → Prop where
  | itself : Reaches l start start
  | further {parts others : List Part} {e : Expr} {v : Value} {name : String}
      (reached : Reaches l start parts) (inserts : e ∈ Part.insertsIn parts) (value : e.MayBe v)
      (named : v.MayName name) (found : l.parts name = .ok others) : Reaches l start others

theorem Reaches.trans {l : Library} {first second third : List Part} (h : l.Reaches first second)
    (h' : l.Reaches second third) : l.Reaches first third := by
  induction h' with
  | itself => exact h
  | further _ inserts value named found ih => exact .further ih inserts value named found

variable {l : Library} {label : String} {parts : List Part}

theorem eq_of_inserted {name : String} (h : l.inserted name = .ok (label, parts)) :
    label = name ∧ l.parts name = .ok parts := by
  unfold inserted at h
  split at h <;> cases h
  exact ⟨rfl, by assumption⟩

theorem eq_of_candidate {v : Value} (h : l.candidate v = .ok (label, parts)) :
    v = .string label ∧ l.parts label = .ok parts := by
  -- A value that is no key is refused first.
  have hpassed : ∀ {rest : Rendered (String × List Part)},
      (if l.remembers then v.checkKey >>= fun _ => rest else rest) = .ok (label, parts) →
        rest = .ok (label, parts) := by
    intro rest h
    by_cases hremembers : l.remembers = true
    · rw [if_pos hremembers] at h
      cases hkey : v.checkKey with
      | error e =>
        rw [hkey] at h
        cases h
      | ok _ =>
        rw [hkey] at h
        exact h
    · rwa [if_neg hremembers] at h
  cases v with
  | string name =>
    have hinserted : l.inserted name = .ok (label, parts) := hpassed h
    obtain ⟨rfl, hparts⟩ := eq_of_inserted hinserted
    exact ⟨rfl, hparts⟩
  | absent message lenient =>
    have hmissing : Except.error (RenderFault.absent message) = .ok (label, parts) := hpassed h
    cases hmissing
  | _ =>
    have hrefused : Rendered.misuse _ = .ok (label, parts) := hpassed h
    cases hrefused

theorem mem_of_firstThere? {vs : List Value} (h : l.firstThere? vs = .ok (some (label, parts))) :
    .string label ∈ vs ∧ l.parts label = .ok parts := by
  induction vs with
  | nil => cases h
  | cons v rest ih =>
    unfold firstThere? at h
    split at h
    · rename_i found hcandidate
      cases h
      obtain ⟨rfl, hparts⟩ := eq_of_candidate hcandidate
      exact ⟨List.mem_cons_self, hparts⟩
    · exact (ih h).imp_left (List.mem_cons_of_mem _)
    · exact (ih h).imp_left (List.mem_cons_of_mem _)
    · cases h

/-- Of several templates one that is listed is chosen. -/
theorem mem_of_chosen {v : Value} {feeds after : Feeds} (hstring : ∀ s, v ≠ .string s)
    (h : l.chosen v feeds = .ok ((label, parts), after)) :
    (∀ items, v.source = .ok (.items items) → .string label ∈ items) ∧
      l.parts label = .ok parts := by
  unfold chosen at h
  split at h
  · exact absurd rfl (hstring _)
  · cases h
  · obtain ⟨counts, _, hlift, htruth⟩ := bind_eq_ok h
    obtain ⟨_, rfl⟩ := lift_eq_ok hlift
    cases counts with
    | false => cases htruth
    | true =>
      obtain ⟨source, _, hlift, hsource⟩ := bind_eq_ok htruth
      obtain ⟨hok, rfl⟩ := lift_eq_ok hlift
      obtain ⟨found, between, hread, hcomplete⟩ := bind_eq_ok hsource
      obtain ⟨all, _, hlift, hfirst⟩ := bind_eq_ok hcomplete
      obtain ⟨hall, rfl⟩ := lift_eq_ok hlift
      obtain ⟨first, _, hlift, hlast⟩ := bind_eq_ok hfirst
      obtain ⟨hthere, rfl⟩ := lift_eq_ok hlift
      cases first with
      | none => cases hlast
      | some made =>
        cases hlast
        obtain ⟨hmem, hparts⟩ := mem_of_firstThere? hthere
        refine ⟨fun items hitems => ?_, hparts⟩
        cases hok.symm.trans hitems
        cases hread
        cases hall
        exact hmem

theorem mayName_of_chosen {v : Value} {feeds after : Feeds}
    (h : l.chosen v feeds = .ok ((label, parts), after)) :
    v.MayName label ∧ l.parts label = .ok parts := by
  cases v with
  | string s =>
    obtain ⟨hinserted, _⟩ := lift_eq_ok h
    obtain ⟨rfl, hparts⟩ := eq_of_inserted hinserted
    exact ⟨rfl, hparts⟩
  | tuple items | list items =>
    obtain ⟨hmem, hparts⟩ := mem_of_chosen (fun _ hstring => by cases hstring) h
    exact ⟨hmem items rfl, hparts⟩
  | _ => exact ⟨trivial, (mem_of_chosen (fun _ hstring => by cases hstring) h).2⟩

theorem isStrict_insertion (l : Library) (depth : Nat) : (l.insertion depth).IsStrict := by
  intro message optional bindings feeds
  cases depth with
  | zero => exact fails_lift rfl
  | succ depth =>
    have hchosen : l.chosen (.absent message false) feeds = .error (.absent message) := rfl
    intro r hr
    simp only [insertion, hchosen, isMissing, Bool.and_false] at hr
    cases hr

theorem keepsAll_insertion (l : Library) (depth : Nat) {parts : List Part}
    (h : ∀ others, l.Reaches parts others → Guard.inParts steady others = true) :
    (l.insertion depth).KeepsAll steady (Part.insertsIn parts) := by
  induction depth generalizing parts with
  | zero => exact fun e he v hv optional b b' hb => follows_of_fails fun _ => fails_lift rfl
  | succ depth ih =>
    intro e he v hv optional b b' hb feeds text after hwork
    cases hchosen : l.chosen v feeds with
    | error fault =>
      refine ⟨text, ?_, rfl⟩
      simp only [insertion, hchosen] at hwork ⊢
      exact hwork
    | ok found =>
      obtain ⟨⟨label, others⟩, between⟩ := found
      obtain ⟨hnamed, hparts⟩ := mayName_of_chosen hchosen
      have hreached : l.Reaches parts others := .further .itself he hv hnamed hparts
      have hothers : ∀ last, l.Reaches others last → Guard.inParts steady last = true :=
        fun last hlast => h last (hreached.trans hlast)
      simp only [insertion, hchosen] at hwork ⊢
      exact entails_textOf (l.isStrict_insertion depth) hb (some label) (hothers others .itself)
        (ih hothers) between text after hwork

end Library

theorem Handle.render_of_supplies {l : Library} {h : Handle} {text : String}
    (hsupplies : Supplies steady bindings more)
    (hguard : ∀ parts, l.Reaches h.parts parts → Guard.inParts steady parts = true)
    (hok : h.render l bindings = .ok text) : h.render l more = .ok text := by
  have hentails := entails_textOf (l.isStrict_insertion Library.depthBound) hsupplies h.label
    (hguard h.parts .itself) (l.keepsAll_insertion Library.depthBound hguard)
  unfold Handle.render Rendering.alone at hok ⊢
  cases hwork : textOf (l.insertion Library.depthBound) h.label bindings h.parts [] with
  | error e =>
    rw [hwork] at hok
    cases hok
  | ok found =>
    obtain ⟨made, after⟩ := found
    obtain ⟨_, hmore, rfl⟩ := hentails [] made after hwork
    rw [hmore]
    rw [hwork] at hok
    exact hok

/-! More variables -/

/-- Whether all spellings of a plain name keep their values. -/
def isSteady (bindings more : List (String × Value)) (plain : String) : Bool :=
  more.all fun entry =>
    Text.plainName entry.1 != plain || (Keyed.get? entry.1 bindings).isSome

/-- Further variables come under names that no template knows by itself. -/
structure Extends (bindings more : List (String × Value)) : Prop where
  kept : ∀ name v, Keyed.get? name bindings = some v → Keyed.get? name more = some v
  new : ∀ name, Keyed.get? name bindings = none → Keyed.get? name more ≠ none →
    Value.global? name = none

theorem Extends.supplies (h : Extends bindings more) :
    Supplies (isSteady bindings more) bindings more := by
  intro name
  cases hgiven : Keyed.get? name bindings with
  | some v =>
    rw [h.kept name v hgiven]
    exact .same _
  | none =>
    cases hmore : Keyed.get? name more with
    | none => exact .same _
    | some w =>
      have hchanging : isSteady bindings more (Text.plainName name) = false := by
        refine List.all_eq_false.2 ⟨(name, w), Keyed.mem_of_get? hmore, ?_⟩
        simp [hgiven]
      exact .added w hchanging (h.new name hgiven (by simp [hmore]))

theorem forall_mem_words {p : List Char → Prop} {text : String} {cs : List Char}
    (h : text = String.ofList cs) (hp : ∀ piece ∈ Text.splitAt ' ' cs, p piece) :
    ∀ word ∈ Value.words text, p word.toList := by
  intro word hword
  rw [h, Value.words, String.toList_ofList] at hword
  obtain ⟨piece, hpiece, rfl⟩ := List.mem_map.1 hword
  rw [String.toList_ofList]
  exact hp piece hpiece

set_option maxRecDepth 2000 in
theorem head?_of_mem_commonFeatures :
    ∀ word ∈ Value.commonFeatures, word.toList.head? = some '_' := by
  refine forall_mem_words (p := fun cs => cs.head? = some '_') rfl ?_
  decide +kernel

/-- The names of all members that a missing value has begin in one way. -/
theorem isCommonMember_of_plain {name : String} (h : name.toList.head? ≠ some '_') :
    Value.isCommonMember name = false := by
  have hcommon : Value.commonFeatures.contains name = false := by
    by_contra hnot
    have hmem : name ∈ Value.commonFeatures := by simpa using hnot
    exact h (head?_of_mem_commonFeatures name hmem)
  have hclass : name ≠ "__class__" := by
    rintro rfl
    exact h rfl
  have hfeatures : (Value.absent "" false).featureNames = [] := rfl
  have hint : (Value.absent "" false).int? = none := rfl
  simp only [Value.isCommonMember, Value.feature?, hint, hcommon, hclass, hfeatures,
    Option.bind_none, if_false, List.contains_nil, Bool.or_self, Bool.false_eq_true,
    Option.isSome_none]

namespace Bundled

/-- The bundled template keeps one value only, which it makes of the fields. -/
theorem inParts_parts (h : steady "fields" = true ∧ steady "id_fields" = true) :
    Guard.inParts steady parts = true := by
  have hkept : Guard.inPart steady keyFields = true := by
    have hplain : Text.plainName "fields" = "fields" ∧
        Text.plainName "id_fields" = "id_fields" := by decide +kernel
    cases hkey : steady (Text.plainName "key_fields") <;>
      simp [keyFields, Guard.inPart, Use.target, Guard.inExpr, hkey, hplain, h]
  have hname : ∀ use text, use ≠ .hidden → Guard.inExpr steady use (.name text) = true := by
    intro use text huse
    simp [Guard.inExpr, huse]
  have hmember : ∀ owner name, name.toList.head? ≠ some '_' →
      Guard.inExpr steady .used (.member (.name owner) name) = true := by
    intro owner name hplain
    simp [Guard.inExpr, isCommonMember_of_plain hplain]
  have hunder : ∀ filter line, (Filter.named? filter).map Filter.isTolerant = some false →
      Guard.inPart steady (shownUnder filter line) = true := by
    intro filter line hfilter
    obtain ⟨f, hf, htolerant⟩ := Option.map_eq_some_iff.1 hfilter
    have hinput : Use.input (some f) [] .used ≠ .hidden := by
      intro heq
      simp only [Use.input, htolerant, Bool.false_eq_true, if_false] at heq
      split_ifs at heq
    simp [shownUnder, Guard.inPart, Guard.inExpr, Guard.inArguments, hf, hinput]
  have hcomparisons : Guard.inExpr steady .used comparisons = true := by
    have hmap : Filter.named? "map" = some .map := by decide
    have hjoin : Filter.named? "join" = some .join := by decide
    simp [comparisons, Guard.inExpr, Guard.inArguments, hmap, hjoin, Use.input, Use.areLiterals,
      Filter.isTolerant, Filter.readsItems]
  have hgetter := hunder "getter_name" 27 (by decide)
  have hsetter := hunder "setter_name" 32 (by decide)
  have hhash := hunder "hash_expr" 61 (by decide)
  have hdisplay := hunder "string_expr" 71 (by decide)
  have hfield : ∀ name ∈ ["name", "type_name", "is_identifier"],
      Guard.inPart steady (shownMember name) = true ∧
        Guard.inExpr steady .used (.member (.name "field") name) = true := by
    have hplain : ∀ name ∈ ["name", "type_name", "is_identifier"],
        name.toList.head? ≠ some '_' := by decide
    intro name hname
    simp [shownMember, Guard.inPart, hmember _ _ (hplain name hname)]
  have hlast : Guard.inExpr steady .used (.inverse (.member (.name "loop") "last")) = true := by
    rw [Guard.inExpr]
    exact hmember _ _ (by decide)
  simp [parts, packageParts, declarationParts, accessorParts, hashParts, displayParts, fieldLoop,
    comparisonParts, shown, Guard.inParts, Guard.inPart, Guard.inAlternatives, hkept, hcomparisons,
    hname, hfield, hgetter, hsetter, hhash, hdisplay, hlast]

/-- The bundled template never shows that a variable is missing. -/
theorem render_more {l : Library} {h : Handle} {text : String} (hparts : h.parts = parts)
    (hextends : Extends bindings more) (hfields : isSteady bindings more "fields" = true)
    (hids : isSteady bindings more "id_fields" = true) (hok : h.render l bindings = .ok text) :
    h.render l more = .ok text := by
  have hreached : ∀ others, l.Reaches h.parts others → others = Bundled.parts := by
    intro others hothers
    induction hothers with
    | itself => exact hparts
    | further _ inserts _ _ _ ih =>
      rw [ih] at inserts
      cases inserts
  refine h.render_of_supplies hextends.supplies (fun others hothers => ?_) hok
  rw [hreached others hothers]
  exact inParts_parts ⟨hfields, hids⟩

end Bundled

end BeanForge.Template
