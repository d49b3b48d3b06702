import BeanForge.Proofs.Keyed
import BeanForge.Validation

/-!
# Checks of raw values

A method, field or interface that passed its check is shown with all its members, and passes again
as it was. One that is refused is told about member by member in their order, and item by item in a
list. A method that says nothing of its own about being an identifier follows its marker, in what it
is taken for and in what is wrong with it.
-/

namespace BeanForge

/-! Issues along steps -/

def Issue.under (step : Step) (i : Issue) : Issue :=
  { i with path := step :: i.path }

def Issue.seenFrom? (step : Step) (i : Issue) : Option Issue :=
  match i.path with
  | [] => none
  | first :: rest => if first = step then some { i with path := rest } else none

def issuesBelow (step : Step) (is : List Issue) : List Issue :=
  is.filterMap (Issue.seenFrom? step)

def issuesAlong (blocks : List (Step × List Issue)) : List Issue :=
  blocks.flatMap fun block => block.2.map (Issue.under block.1)

theorem issuesAlong_append (blocks more : List (Step × List Issue)) :
    issuesAlong (blocks ++ more) = issuesAlong blocks ++ issuesAlong more :=
  List.flatMap_append

/-- Every issue lies below one of the steps, and they are told in the order of the steps. -/
def ListedAlong (steps : List Step) (is : List Issue) : Prop :=
  is = issuesAlong (steps.map fun step => (step, issuesBelow step is))

theorem issuesBelow_map_under (step other : Step) (is : List Issue) :
    issuesBelow step (is.map (Issue.under other)) = if other = step then is else [] := by
  have hseen : ∀ i, Issue.seenFrom? step (Issue.under other i) =
      if other = step then some i else none := fun i => rfl
  rw [issuesBelow, List.filterMap_map]
  simp only [Function.comp_def, hseen]
  split_ifs <;> simp

theorem issuesBelow_issuesAlong {blocks : List (Step × List Issue)}
    (h : (Keyed.keys blocks).Nodup) (step : Step) :
    issuesBelow step (issuesAlong blocks) = (Keyed.get? step blocks).getD [] := by
  induction blocks with
  | nil => rfl
  | cons block rest ih =>
    obtain ⟨other, is⟩ := block
    obtain ⟨hnew, hrest⟩ := List.nodup_cons.1 h
    have hsplit : issuesBelow step (issuesAlong ((other, is) :: rest)) =
        issuesBelow step (is.map (Issue.under other)) ++ issuesBelow step (issuesAlong rest) :=
      List.filterMap_append
    rw [hsplit, issuesBelow_map_under, ih hrest, Keyed.get?]
    split_ifs with hstep
    · subst hstep
      rw [Keyed.get?_eq_none_iff.2 hnew]
      simp
    · rfl

theorem issuesBelow_of_mem {blocks : List (Step × List Issue)} {step : Step} {is : List Issue}
    (h : (Keyed.keys blocks).Nodup) (hblock : (step, is) ∈ blocks) :
    issuesBelow step (issuesAlong blocks) = is := by
  rw [issuesBelow_issuesAlong h, (Keyed.get?_eq_some_iff h).2 hblock, Option.getD_some]

theorem listedAlong_issuesAlong {blocks : List (Step × List Issue)}
    (h : (Keyed.keys blocks).Nodup) : ListedAlong (Keyed.keys blocks) (issuesAlong blocks) := by
  have hbelow : ∀ block ∈ blocks,
      (block.1, issuesBelow block.1 (issuesAlong blocks)) = block :=
    fun block hblock => congrArg (Prod.mk block.1) (issuesBelow_of_mem h hblock)
  rw [ListedAlong, Keyed.keys, List.map_map]
  exact congrArg issuesAlong ((List.map_congr_left hbelow).trans (List.map_id _)).symm

/-! Checks and their issues -/

namespace Checked

variable {α β γ : Type}

@[simp] theorem issues_ok (a : α) : issues (.ok a : Checked α) = [] := rfl

@[simp] theorem issues_error (is : List Issue) : issues (.error is : Checked α) = is := rfl

@[simp] theorem issues_map (f : α → β) (c : Checked α) : (f <$> c).issues = c.issues := by
  cases c <;> rfl

@[simp] theorem issues_below (step : Step) (c : Checked α) :
    (below step c).issues = issuesAlong [(step, c.issues)] := by
  rw [issuesAlong, List.flatMap_singleton]
  cases c <;> rfl

@[simp] theorem issues_both (a : Checked α) (b : Checked β) :
    (both a b).issues = a.issues ++ b.issues := by
  cases a <;> cases b <;> simp [both]

@[simp] theorem issues_apply (f : Checked (α → β)) (a : Checked α) :
    (apply f a).issues = f.issues ++ a.issues :=
  (issues_map _ _).trans (issues_both f a)

theorem below_eq_ok_iff {step : Step} {c : Checked α} {a : α} :
    below step c = .ok a ↔ c = .ok a := by
  cases c <;> simp [below]

theorem apply_eq_ok_iff {f : Checked (α → β)} {a : Checked α} {b : β} :
    apply f a = .ok b ↔ ∃ g x, f = .ok g ∧ a = .ok x ∧ g x = b := by
  cases f <;> cases a <;> simp [apply, both, Except.map]

theorem itemsFrom_map {check : β → Checked γ} {f : α → β} {g : α → γ}
    (h : ∀ a, check (f a) = .ok (g a)) (index : Nat) (as : List α) :
    itemsFrom check index (as.map f) = .ok (as.map g) := by
  induction as generalizing index with
  | nil => rfl
  | cons a rest ih =>
    rw [List.map_cons, itemsFrom, h, ih]
    rfl

theorem issues_itemsFrom (check : α → Checked β) (index : Nat) (as : List α) :
    (itemsFrom check index as).issues = issuesAlong
      ((as.zipIdx index).map fun (a, i) => (.item i, (check a).issues)) := by
  induction as generalizing index with
  | nil => rfl
  | cons a rest ih =>
    calc (itemsFrom check index (a :: rest)).issues
        = (both (below (.item index) (check a)) (itemsFrom check (index + 1) rest)).issues :=
          issues_map _ _
      _ = issuesAlong [(.item index, (check a).issues)] ++ issuesAlong
            ((rest.zipIdx (index + 1)).map fun (a, i) => (.item i, (check a).issues)) := by
          rw [issues_both, issues_below, ih]
      _ = _ := (issuesAlong_append _ _).symm

def Tells (c : Checked α) : Prop :=
  c ≠ .error []

theorem tells_ok (a : α) : Tells (.ok a) :=
  nofun

theorem tells_issue (t : Trouble) : Tells (issue t : Checked α) :=
  nofun

theorem Tells.map {c : Checked α} (h : Tells c) (f : α → β) : Tells (f <$> c) := by
  cases c with
  | ok a => exact tells_ok _
  | error is => exact fun he => h (congrArg Except.error (Except.error.inj he))

theorem Tells.below {c : Checked α} (h : Tells c) (step : Step) : Tells (c.below step) := by
  cases c with
  | ok a => exact tells_ok a
  | error is =>
    intro he
    exact h (congrArg Except.error (List.map_eq_nil_iff.1 (Except.error.inj he)))

theorem Tells.both {a : Checked α} {b : Checked β} (ha : Tells a) (hb : Tells b) :
    Tells (Checked.both a b) := by
  intro h
  have hnone : a.issues ++ b.issues = [] := (issues_both a b).symm.trans (congrArg issues h)
  obtain ⟨hais, hbis⟩ := List.append_eq_nil_iff.1 hnone
  cases a with
  | error is => exact ha (congrArg Except.error hais)
  | ok a =>
    cases b with
    | error is => exact hb (congrArg Except.error hbis)
    | ok b => exact tells_ok _ h

theorem Tells.apply {f : Checked (α → β)} {a : Checked α} (hf : Tells f) (ha : Tells a) :
    Tells (Checked.apply f a) :=
  (hf.both ha).map _

theorem tells_itemsFrom {check : α → Checked β} (h : ∀ a, Tells (check a)) (index : Nat)
    (as : List α) : Tells (itemsFrom check index as) := by
  induction as generalizing index with
  | nil => exact tells_ok []
  | cons a rest ih => exact (((h a).below _).both (ih (index + 1))).map _

end Checked

namespace Json

open Checked

/-! Members -/

def issuesAt {α : Type} (raw : Json) (name : String) (absent : List Issue)
    (check : Json → Checked α) : Step × List Issue :=
  (.member name, match raw.member? name with
    | some value => (check value).issues
    | none => absent)

section Members

variable {α : Type} (raw : Json) (name : String) (check : Json → Checked α)

theorem issues_required : (raw.required name check).issues =
    issuesAlong [raw.issuesAt name [⟨.missing, []⟩] check] := by
  rw [required, issues_below, issuesAt]
  cases raw.member? name <;> rfl

theorem issues_optional (default : α) : (raw.optional name default check).issues =
    issuesAlong [raw.issuesAt name [] check] := by
  rw [optional, issuesAt]
  cases raw.member? name with
  | none => rfl
  | some value => exact issues_below _ _

variable {raw name check}

theorem issuesAt_of_member {value : Json} {absent : List Issue}
    (h : raw.member? name = some value) :
    raw.issuesAt name absent check = (.member name, (check value).issues) := by
  rw [issuesAt, h]

theorem tells_required (h : ∀ value, Tells (check value)) : Tells (raw.required name check) := by
  refine Tells.below ?_ _
  cases raw.member? name with
  | none => exact tells_issue _
  | some value => exact h value

theorem tells_optional (h : ∀ value, Tells (check value)) (default : α) :
    Tells (raw.optional name default check) := by
  rw [optional]
  cases raw.member? name with
  | none => exact tells_ok default
  | some value => exact (h value).below _

end Members

/-! Values -/

theorem tells_checkText (raw : Json) : Tells raw.checkText := by
  cases raw <;> first | exact tells_ok _ | exact tells_issue _

theorem tells_checkTextOrNull (raw : Json) : Tells raw.checkTextOrNull := by
  cases raw <;> first | exact tells_ok _ | exact (tells_checkText _).map some

theorem ofInt_cases (n : Int) :
    (∃ b, checkFlag.ofInt n = .ok b) ∨ ∃ trouble, checkFlag.ofInt n = issue trouble := by
  rw [checkFlag.ofInt]
  split_ifs <;> first | exact .inl ⟨_, rfl⟩ | exact .inr ⟨_, rfl⟩

/-- A value that is no flag has one thing wrong with it. -/
theorem checkFlag_cases (raw : Json) :
    (∃ b, raw.checkFlag = .ok b) ∨ ∃ trouble, raw.checkFlag = issue trouble := by
  unfold checkFlag
  split
  · exact .inl ⟨_, rfl⟩
  · exact ofInt_cases _
  · split
    · split_ifs
      · exact ofInt_cases _
      · exact .inr ⟨_, rfl⟩
    · exact .inr ⟨_, rfl⟩
  · dsimp only
    split_ifs <;> first | exact .inl ⟨_, rfl⟩ | exact .inr ⟨_, rfl⟩
  · exact .inr ⟨_, rfl⟩

theorem tells_checkFlag (raw : Json) : Tells raw.checkFlag := by
  obtain ⟨b, h⟩ | ⟨trouble, h⟩ := checkFlag_cases raw <;> rw [h]
  · exact tells_ok b
  · exact tells_issue trouble

theorem checkFlagOrNull_of_ne_null {raw : Json} (h : raw ≠ .null) :
    raw.checkFlagOrNull = some <$> raw.checkFlag := by
  cases raw <;> first | rfl | exact absurd rfl h

theorem tells_checkFlagOrNull (raw : Json) : Tells raw.checkFlagOrNull := by
  cases raw <;> first | exact tells_ok _ | exact (tells_checkFlag _).map some

theorem tells_checkList {α : Type} {check : Json → Checked α} (h : ∀ value, Tells (check value))
    (raw : Json) : Tells (raw.checkList check) := by
  cases raw <;> first | exact tells_issue _ | exact tells_itemsFrom h 0 _

theorem checkTextOrNull_ofOption (s : Option String) : checkTextOrNull (ofOption s) = .ok s := by
  cases s <;> rfl

theorem checkFlagOrNull_ofOption (b : Option Bool) :
    checkFlagOrNull ((b.map bool).getD null) = .ok b := by
  cases b <;> rfl

theorem checkList_map {α : Type} {check : Json → Checked α} {toJson : α → Json}
    (h : ∀ a, check (toJson a) = .ok a) (as : List α) :
    checkList check (.array (as.map toJson)) = .ok as :=
  (itemsFrom_map (g := id) h 0 as).trans (congrArg Except.ok as.map_id)

structure ListsItems {α : Type} (check : Json → Checked α) (values : List Json)
    (is : List Issue) : Prop where
  inOrder : ListedAlong ((List.range values.length).map Step.item) is
  each : ∀ index value, values[index]? = some value →
    issuesBelow (.item index) is = (check value).issues

theorem listsItems_checkList {α : Type} (check : Json → Checked α) (values : List Json) :
    ListsItems check values (checkList check (.array values)).issues := by
  have hissues := issues_itemsFrom check 0 values
  have hkeys : Keyed.keys (values.zipIdx.map fun (value, index) =>
      (Step.item index, (check value).issues)) = (List.range values.length).map Step.item := by
    rw [List.range_eq_range', ← List.zipIdx_map_snd 0 values, Keyed.keys, List.map_map,
      List.map_map]
    rfl
  have hdistinct : ((List.range values.length).map Step.item).Nodup :=
    List.nodup_range.map fun i j h => Step.item.inj h
  rw [← hkeys] at hdistinct
  refine ⟨?_, fun index value hvalue => ?_⟩
  · rw [← hkeys, checkList, items, hissues]
    exact listedAlong_issuesAlong hdistinct
  · have hmem : (Step.item index, (check value).issues) ∈ values.zipIdx.map
        fun (value, index) => (Step.item index, (check value).issues) :=
      List.mem_map.2 ⟨(value, index), List.mk_mem_zipIdx_iff_getElem?.2 hvalue, rfl⟩
    rw [checkList, items, hissues]
    exact issuesBelow_of_mem hdistinct hmem

/-! Records -/

def methodMembers : List String :=
  ["name", "return_type_name", "parameter_type_names", "identifier", "is_identifier"]

def fieldMembers : List String :=
  ["name", "type_name", "is_identifier", "getter_prefix"]

def interfaceMembers : List String :=
  ["interface_name", "package_name", "methods", "source"]

def methodBlocks (raw : Json) : List (Step × List Issue) :=
  [raw.issuesAt "name" [⟨.missing, []⟩] checkText,
    raw.issuesAt "return_type_name" [] checkText,
    raw.issuesAt "parameter_type_names" [] (checkList checkText),
    raw.issuesAt "identifier" [] checkFlagOrNull,
    (.member "is_identifier", raw.rawIdentifierFlag.checkFlag.issues)]

def fieldBlocks (raw : Json) : List (Step × List Issue) :=
  [raw.issuesAt "name" [⟨.missing, []⟩] checkText,
    raw.issuesAt "type_name" [⟨.missing, []⟩] checkText,
    raw.issuesAt "is_identifier" [] checkFlag,
    raw.issuesAt "getter_prefix" [] checkTextOrNull]

def interfaceBlocks (raw : Json) : List (Step × List Issue) :=
  [raw.issuesAt "interface_name" [⟨.missing, []⟩] checkText,
    raw.issuesAt "package_name" [] checkText,
    raw.issuesAt "methods" [] (checkList checkMethod),
    raw.issuesAt "source" [] checkTextOrNull]

/-- The issues of a record are those of its members, and they are told in the order of these. -/
structure ListsMembers {α : Type} (check : Json → Checked α) (names : List String)
    (blocks : Json → List (Step × List Issue)) : Prop where
  issues : ∀ raw : Json, raw.isRecord = true → (check raw).issues = issuesAlong (blocks raw)
  keys : ∀ raw, Keyed.keys (blocks raw) = names.map Step.member
  distinct : names.Nodup

namespace ListsMembers

variable {α : Type} {check : Json → Checked α} {names : List String}
  {blocks : Json → List (Step × List Issue)} {raw : Json}

theorem nodup_keys (h : ListsMembers check names blocks) (raw : Json) :
    (Keyed.keys (blocks raw)).Nodup := by
  rw [h.keys]
  exact h.distinct.map fun m n => Step.member.inj

theorem inOrder (h : ListsMembers check names blocks) (hrecord : raw.isRecord = true) :
    ListedAlong (names.map Step.member) (check raw).issues := by
  rw [h.issues raw hrecord, ← h.keys raw]
  exact listedAlong_issuesAlong (h.nodup_keys raw)

theorem issuesBelow_eq (h : ListsMembers check names blocks) (hrecord : raw.isRecord = true)
    {block : Step × List Issue} (hblock : block ∈ blocks raw) :
    issuesBelow block.1 (check raw).issues = block.2 := by
  rw [h.issues raw hrecord]
  exact issuesBelow_of_mem (h.nodup_keys raw) hblock

end ListsMembers

theorem listsMembers_checkMethod : ListsMembers checkMethod methodMembers methodBlocks where
  issues raw h := by
    rw [checkMethod, if_pos h]
    simp only [issues_apply, issues_ok, List.nil_append, issues_required, issues_optional,
      issues_below, ← issuesAlong_append]
    rfl
  keys _ := rfl
  distinct := by decide

theorem listsMembers_checkField : ListsMembers checkField fieldMembers fieldBlocks where
  issues raw h := by
    rw [checkField, if_pos h]
    simp only [issues_apply, issues_ok, List.nil_append, issues_required, issues_optional,
      ← issuesAlong_append]
    rfl
  keys _ := rfl
  distinct := by decide

theorem listsMembers_checkInterface :
    ListsMembers checkInterface interfaceMembers interfaceBlocks where
  issues raw h := by
    rw [checkInterface, if_pos h]
    simp only [issues_apply, issues_ok, List.nil_append, issues_required, issues_optional,
      ← issuesAlong_append]
    rfl
  keys _ := rfl
  distinct := by decide

theorem tells_checkMethod (raw : Json) : Tells raw.checkMethod := by
  rw [checkMethod]
  split_ifs
  · exact (((((tells_ok _).apply (tells_required tells_checkText)).apply
      (tells_optional tells_checkText _)).apply
      (tells_optional (tells_checkList tells_checkText) _)).apply
      (tells_optional tells_checkFlagOrNull _)).apply ((tells_checkFlag _).below _)
  · exact tells_issue _

theorem tells_checkField (raw : Json) : Tells raw.checkField := by
  rw [checkField]
  split_ifs
  · exact ((((tells_ok _).apply (tells_required tells_checkText)).apply
      (tells_required tells_checkText)).apply (tells_optional tells_checkFlag _)).apply
      (tells_optional tells_checkTextOrNull _)
  · exact tells_issue _

theorem tells_checkInterface (raw : Json) : Tells raw.checkInterface := by
  rw [checkInterface]
  split_ifs
  · exact ((((tells_ok _).apply (tells_required tells_checkText)).apply
      (tells_optional tells_checkText _)).apply
      (tells_optional (tells_checkList tells_checkMethod) _)).apply
      (tells_optional tells_checkTextOrNull _)
  · exact tells_issue _

theorem checkMethod_toJson (m : Method) : m.toJson.checkMethod = .ok m := by
  obtain ⟨name, returnType, parameterTypes, identifier, isIdentifier⟩ := m
  have htext : ∀ s, checkText (string s) = .ok s := fun s => rfl
  have hparameters : optional
      (Method.toJson ⟨name, returnType, parameterTypes, identifier, isIdentifier⟩)
      "parameter_type_names" [] (checkList checkText) = .ok parameterTypes :=
    below_eq_ok_iff.2 (checkList_map htext parameterTypes)
  have hmarker : optional
      (Method.toJson ⟨name, returnType, parameterTypes, identifier, isIdentifier⟩)
      "identifier" none checkFlagOrNull = .ok identifier :=
    below_eq_ok_iff.2 (checkFlagOrNull_ofOption identifier)
  rw [checkMethod, hparameters, hmarker]
  rfl

theorem checkField_toJson (f : Field) : f.toJson.checkField = .ok f := by
  obtain ⟨name, typeName, isIdentifier, getterWord⟩ := f
  have hword : optional (Field.toJson ⟨name, typeName, isIdentifier, getterWord⟩)
      "getter_prefix" none checkTextOrNull = .ok getterWord :=
    below_eq_ok_iff.2 (checkTextOrNull_ofOption getterWord)
  rw [checkField, hword]
  rfl

theorem checkInterface_toJson (i : Interface) : i.toJson.checkInterface = .ok i := by
  obtain ⟨name, package, methods, source⟩ := i
  have hmethods : optional (Interface.toJson ⟨name, package, methods, source⟩)
      "methods" [] (checkList checkMethod) = .ok methods :=
    below_eq_ok_iff.2 (checkList_map checkMethod_toJson methods)
  have hsource : optional (Interface.toJson ⟨name, package, methods, source⟩)
      "source" none checkTextOrNull = .ok source :=
    below_eq_ok_iff.2 (checkTextOrNull_ofOption source)
  rw [checkInterface, hmethods, hsource]
  rfl

/-- A check of records whose values are shown with all members and pass again as they are. -/
structure Retracts {α : Type} (check : Json → Checked α) (toJson : α → Json) (kind : String)
    (names : List String) : Prop where
  complete : ∀ a, ∃ members, toJson a = .object members ∧ Keyed.keys members = names
  again : ∀ raw a, check raw = .ok a → check (toJson a) = .ok a
  told : ∀ raw is, check raw = .error is → is ≠ []
  inOrder : ∀ raw is, raw.isRecord = true → check raw = .error is →
    ListedAlong (names.map Step.member) is
  strange : ∀ raw, raw.isRecord = false → check raw = .error [⟨.notRecord kind, []⟩]

theorem ListsMembers.retracts {α : Type} {check : Json → Checked α} {toJson : α → Json}
    {kind : String} {names : List String} {blocks : Json → List (Step × List Issue)}
    (h : ListsMembers check names blocks)
    (hcomplete : ∀ a, ∃ members, toJson a = .object members ∧ Keyed.keys members = names)
    (hagain : ∀ a, check (toJson a) = .ok a) (htells : ∀ raw, Tells (check raw))
    (hstrange : ∀ raw : Json, raw.isRecord = false → check raw = issue (.notRecord kind)) :
    Retracts check toJson kind names where
  complete := hcomplete
  again _ a _ := hagain a
  told raw is hrefused hnone := htells raw (hnone ▸ hrefused)
  inOrder raw is hrecord hrefused := by
    have hinOrder := h.inOrder hrecord
    rwa [hrefused, issues_error] at hinOrder
  strange := hstrange

theorem retracts_checkMethod :
    Retracts checkMethod Method.toJson "MethodDescriptor" methodMembers :=
  listsMembers_checkMethod.retracts (fun _ => ⟨_, rfl, rfl⟩) checkMethod_toJson tells_checkMethod
    fun raw h => by rw [checkMethod, h]; rfl

theorem retracts_checkField : Retracts checkField Field.toJson "FieldEntry" fieldMembers :=
  listsMembers_checkField.retracts (fun _ => ⟨_, rfl, rfl⟩) checkField_toJson tells_checkField
    fun raw h => by rw [checkField, h]; rfl

theorem retracts_checkInterface :
    Retracts checkInterface Interface.toJson "BatchEntry" interfaceMembers :=
  listsMembers_checkInterface.retracts (fun _ => ⟨_, rfl, rfl⟩) checkInterface_toJson
    tells_checkInterface fun raw h => by rw [checkInterface, h]; rfl

/-! Identifiers -/

theorem isRecord_of_member {raw value : Json} {name : String}
    (h : raw.member? name = some value) : raw.isRecord = true := by
  cases raw <;> first | rfl | exact absurd h nofun

/-- Both flags of a method come from its members. -/
theorem flags_of_checkMethod {raw : Json} {m : Method} (h : raw.checkMethod = .ok m) :
    raw.optional "identifier" none checkFlagOrNull = .ok m.identifier ∧
      raw.rawIdentifierFlag.checkFlag = .ok m.isIdentifier := by
  have hrecord : raw.isRecord = true := by
    by_contra hstrange
    rw [checkMethod, if_neg hstrange] at h
    cases h
  rw [checkMethod, if_pos hrecord] at h
  obtain ⟨ofFlag, flag, hofFlag, hflag, rfl⟩ := apply_eq_ok_iff.1 h
  obtain ⟨ofMarker, marker, hofMarker, hmarker, rfl⟩ := apply_eq_ok_iff.1 hofFlag
  obtain ⟨ofParameters, parameters, hofParameters, -, rfl⟩ := apply_eq_ok_iff.1 hofMarker
  obtain ⟨ofType, type, hofType, -, rfl⟩ := apply_eq_ok_iff.1 hofParameters
  obtain ⟨ofName, name, hofName, -, rfl⟩ := apply_eq_ok_iff.1 hofType
  cases hofName
  exact ⟨hmarker, below_eq_ok_iff.1 hflag⟩

theorem rawIdentifierFlag_of_given {raw value : Json}
    (h : raw.member? "is_identifier" = some value) : raw.rawIdentifierFlag = value := by
  rw [rawIdentifierFlag, h]

theorem rawIdentifierFlag_of_marked {raw value : Json}
    (hsilent : raw.member? "is_identifier" = none) (h : raw.member? "identifier" = some value)
    (hnull : value ≠ .null) : raw.rawIdentifierFlag = value := by
  simp only [rawIdentifierFlag, hsilent, h]

/-- A method that says nothing of its own about being an identifier follows its marker. -/
theorem isIdentifier_of_checkMethod {raw : Json} {m : Method} (h : raw.checkMethod = .ok m)
    (hsilent : raw.member? "is_identifier" = none) :
    m.isIdentifier = true ↔ m.identifier = some true := by
  obtain ⟨hmarker, hflag⟩ := flags_of_checkMethod h
  by_cases hmarked : ∃ value, raw.member? "identifier" = some value ∧ value ≠ .null
  · obtain ⟨value, hvalue, hnull⟩ := hmarked
    rw [rawIdentifierFlag_of_marked hsilent hvalue hnull] at hflag
    simp only [optional, hvalue, below_eq_ok_iff, checkFlagOrNull_of_ne_null hnull,
      hflag] at hmarker
    rw [← Except.ok.inj hmarker, Option.some_inj]
  · -- A null marker counts as none, by itself and for the flag.
    have hunmarked : raw.member? "identifier" = none ∨ raw.member? "identifier" = some .null := by
      cases hvalue : raw.member? "identifier" with
      | none => exact .inl rfl
      | some value =>
        exact .inr (congrArg some (not_ne_iff.1 fun hnull => hmarked ⟨value, hvalue, hnull⟩))
    have hboth : m.identifier = none ∧ m.isIdentifier = false := by
      obtain hnone | hnull := hunmarked
      · simp only [rawIdentifierFlag, optional, hsilent, hnone] at hflag hmarker
        exact ⟨(Except.ok.inj hmarker).symm, (Except.ok.inj hflag).symm⟩
      · simp only [rawIdentifierFlag, optional, hsilent, hnull] at hflag hmarker
        exact ⟨(Except.ok.inj hmarker).symm, (Except.ok.inj hflag).symm⟩
    rw [hboth.1, hboth.2]
    decide

/-- A marker that is no flag is wrong as the marker and as the method's own flag. -/
theorem issues_of_badly_marked {raw value : Json} {bad : List Issue}
    (hsilent : raw.member? "is_identifier" = none) (h : raw.member? "identifier" = some value)
    (hnull : value ≠ .null) (hbad : value.checkFlag = .error bad) :
    ∃ is trouble, raw.checkMethod = .error is ∧
      issuesBelow (.member "identifier") is = [⟨trouble, []⟩] ∧
      issuesBelow (.member "is_identifier") is = [⟨trouble, []⟩] := by
  obtain ⟨b, hb⟩ | ⟨trouble, htrouble⟩ := checkFlag_cases value
  · cases hb.symm.trans hbad
  have hrecord := isRecord_of_member h
  have hmarker : issuesBelow (.member "identifier") raw.checkMethod.issues = [⟨trouble, []⟩] := by
    have hblock : raw.issuesAt "identifier" [] checkFlagOrNull ∈ raw.methodBlocks := by
      simp [methodBlocks]
    rw [issuesAt_of_member h, checkFlagOrNull_of_ne_null hnull, issues_map, htrouble] at hblock
    exact listsMembers_checkMethod.issuesBelow_eq hrecord hblock
  have hflag : issuesBelow (.member "is_identifier") raw.checkMethod.issues = [⟨trouble, []⟩] := by
    have hblock : (.member "is_identifier", raw.rawIdentifierFlag.checkFlag.issues) ∈
        raw.methodBlocks := by
      simp [methodBlocks]
    rw [rawIdentifierFlag_of_marked hsilent h hnull, htrouble] at hblock
    exact listsMembers_checkMethod.issuesBelow_eq hrecord hblock
  cases hcheck : raw.checkMethod with
  | ok m =>
    rw [hcheck] at hmarker
    cases hmarker
  | error is =>
    rw [hcheck] at hmarker hflag
    exact ⟨is, trouble, rfl, hmarker, hflag⟩

/-- The issues below a member with a list are those of its items. -/
theorem listsItems_of_member {raw : Json} {name : String} {values : List Json} {α : Type}
    {check : Json → Checked α} {is : List Issue} (h : raw.member? name = some (.array values))
    (hbelow : issuesBelow (.member name) is = (raw.issuesAt name [] (checkList check)).2) :
    ListsItems check values (issuesBelow (.member name) is) := by
  rw [hbelow, issuesAt_of_member h]
  exact listsItems_checkList check values

/-- The checks of methods, fields and interfaces: what passes is shown with all its members and
passes again as the same value; what does not is told about in the order of its members and items.
A method that says nothing of its own about being an identifier is one exactly when its marker says
so, and a bad marker of such a method is told about twice. -/
theorem checks_retract :
    (Retracts checkMethod Method.toJson "MethodDescriptor" methodMembers ∧
      Retracts checkField Field.toJson "FieldEntry" fieldMembers ∧
      Retracts checkInterface Interface.toJson "BatchEntry" interfaceMembers) ∧
    (∀ raw m, checkMethod raw = .ok m →
      (raw.member? "is_identifier" = none → (m.isIdentifier = true ↔ m.identifier = some true)) ∧
      ∀ value, raw.member? "is_identifier" = some value → value.checkFlag = .ok m.isIdentifier) ∧
    (∀ raw is values, checkMethod raw = .error is →
      raw.member? "parameter_type_names" = some (.array values) →
      ListsItems checkText values (issuesBelow (.member "parameter_type_names") is)) ∧
    (∀ raw is values, checkInterface raw = .error is →
      raw.member? "methods" = some (.array values) →
      ListsItems checkMethod values (issuesBelow (.member "methods") is)) ∧
    ∀ raw value bad, raw.member? "is_identifier" = none → raw.member? "identifier" = some value →
      value ≠ .null → value.checkFlag = .error bad →
      ∃ is trouble, checkMethod raw = .error is ∧
        issuesBelow (.member "identifier") is = [⟨trouble, []⟩] ∧
        issuesBelow (.member "is_identifier") is = [⟨trouble, []⟩] := by
  refine ⟨⟨retracts_checkMethod, retracts_checkField, retracts_checkInterface⟩,
    fun raw m h => ⟨isIdentifier_of_checkMethod h, fun value hvalue => ?_⟩,
    fun raw is values h hvalues => listsItems_of_member hvalues ?_,
    fun raw is values h hvalues => listsItems_of_member hvalues ?_,
    fun raw value bad hsilent h hnull hbad => issues_of_badly_marked hsilent h hnull hbad⟩
  · rw [← rawIdentifierFlag_of_given hvalue]
    exact (flags_of_checkMethod h).2
  · have hblock : raw.issuesAt "parameter_type_names" [] (checkList checkText) ∈
        raw.methodBlocks := by
      simp [methodBlocks]
    have hbelow := listsMembers_checkMethod.issuesBelow_eq (isRecord_of_member hvalues) hblock
    rwa [h, issues_error] at hbelow
  · have hblock : raw.issuesAt "methods" [] (checkList checkMethod) ∈ raw.interfaceBlocks := by
      simp [interfaceBlocks]
    have hbelow := listsMembers_checkInterface.issuesBelow_eq (isRecord_of_member hvalues) hblock
    rwa [h, issues_error] at hbelow

/-- A marker may be a word for a flag, and another word is wrong twice. -/
theorem checks_retract_of_marked :
    let marked (word : String) : Json :=
      .object [("name", .string "getId"), ("identifier", .string word)]
    let m : Method := ⟨"getId", voidType, [], some true, true⟩
    checkMethod (marked "Yes") = .ok m ∧ m.toJson.checkMethod = .ok m ∧
      (m.isIdentifier = true ↔ m.identifier = some true) ∧
      ∃ is trouble, checkMethod (marked "maybe") = .error is ∧
        issuesBelow (.member "identifier") is = [⟨trouble, []⟩] ∧
        issuesBelow (.member "is_identifier") is = [⟨trouble, []⟩] := by
  intro marked m
  have hyes : checkMethod (marked "Yes") = .ok m := by rfl
  have hmaybe : (string "maybe").checkFlag = issue .unreadableFlag := by rfl
  obtain ⟨⟨hmethods, -, -⟩, hflags, -, -, hbadly⟩ := checks_retract
  exact ⟨hyes, hmethods.again (marked "Yes") m hyes, (hflags (marked "Yes") m hyes).1 rfl,
    hbadly (marked "maybe") (.string "maybe") [⟨.unreadableFlag, []⟩] rfl rfl nofun hmaybe⟩

end Json

end BeanForge
