import BeanForge.Proofs.Source.Names
import BeanForge.Proofs.Text.Encoding

/-!
# Spelling of declarations

Whatever a source declares is spelled with identifiers: interfaces, their methods, and all names
along the types of these. Identifiers hold no halves of pairs, and so do none of the texts that are
told about a declared interface.
-/

namespace BeanForge.Source

open Text

/-! Whole texts -/

theorem not_isHalf_of_continues {c : Char} (h : continuesIdentifier c = true) :
    isHalf c = false := by
  have hbound : ∀ ranges : List (Nat × Nat), (ranges.all fun r => r.2 < 0x10D800) = true →
      within ranges c.toNat = true → c.toNat < 0x10D800 := by
    intro ranges hranges hin
    obtain ⟨r, hr, hcover⟩ := List.any_eq_true.1 hin
    have hlast := List.all_eq_true.1 hranges r hr
    simp only [Bool.and_eq_true, decide_eq_true_eq] at hcover hlast
    omega
  have hsmall : c.toNat < 0x10D800 := by
    by_cases hascii : c.toNat < 128
    · omega
    · simp only [continuesIdentifier, beginsIdentifier, if_neg hascii, Bool.or_eq_true] at h
      rcases h with (((h | h) | h) | h) | h
      · exact hbound letterRanges (by decide +kernel) h
      · exact hbound connectorRanges (by decide +kernel) h
      · exact hbound currencyRanges (by decide +kernel) h
      · exact hbound markRanges (by decide +kernel) h
      · exact hbound digitRanges (by decide +kernel) h
  simp only [isHalf, Bool.and_eq_false_iff, decide_eq_false_iff_not]
  exact .inl (by omega)

theorem whole_of_isIdentifier {word : String} (h : isIdentifier word = true) : Whole word :=
  fun _ hc => not_isHalf_of_continues (continues_of_isIdentifier h hc)

theorem whole_intercalate {parts : List String} (h : ∀ part ∈ parts, isIdentifier part = true) :
    Whole (".".intercalate parts) := by
  induction parts with
  | nil => decide
  | cons part rest ih =>
    have hpart := whole_of_isIdentifier (h part List.mem_cons_self)
    have hrest := ih fun p hp => h p (List.mem_cons_of_mem _ hp)
    cases rest with
    | nil => simpa using hpart
    | cons next more =>
      rw [String.intercalate_cons_cons]
      exact (hpart.append (by decide)).append hrest

theorem IsDotted.whole {name : String} (h : IsDotted name) : Whole name := by
  obtain ⟨parts, _, hparts, rfl⟩ := h
  exact whole_intercalate hparts

/-! Types -/

mutual

def TypeTree.Spelled : TypeTree → Prop
  | .basic _ _ => True
  | .reference links => LinksSpelled links

def LinksSpelled : List TypeLink → Prop
  | [] => True
  | link :: rest => link.Spelled ∧ LinksSpelled rest

def TypeLink.Spelled : TypeLink → Prop
  | .mk name arguments _ => isIdentifier name = true ∧ ArgumentsSpelled arguments

def ArgumentsSpelled : List TypeArgument → Prop
  | [] => True
  | argument :: rest => argument.Spelled ∧ ArgumentsSpelled rest

def TypeArgument.Spelled : TypeArgument → Prop
  | .any => True
  | .exactly type => type.Spelled
  | .extending type => type.Spelled
  | .above type => type.Spelled

end

theorem linksSpelled_of_forall {links : List TypeLink} (h : ∀ link ∈ links, link.Spelled) :
    LinksSpelled links := by
  induction links with
  | nil => trivial
  | cons link rest ih =>
    exact ⟨h link List.mem_cons_self, ih fun other ho => h other (List.mem_cons_of_mem _ ho)⟩

theorem argumentsSpelled_of_forall {arguments : List TypeArgument}
    (h : ∀ argument ∈ arguments, argument.Spelled) : ArgumentsSpelled arguments := by
  induction arguments with
  | nil => trivial
  | cons argument rest ih =>
    exact ⟨h argument List.mem_cons_self, ih fun other ho => h other (List.mem_cons_of_mem _ ho)⟩

theorem TypeTree.Spelled.addDimensions {type : TypeTree} (h : type.Spelled) (more : Nat) :
    (type.addDimensions more).Spelled := by
  cases type with
  | basic => trivial
  | reference links =>
    cases links with
    | nil => trivial
    | cons link rest =>
      cases link with
      | mk name arguments dimensions => exact h

theorem whole_brackets (n : Nat) : Whole (TypeTree.brackets n) := by
  induction n with
  | zero => decide
  | succ n ih => exact (show Whole "[]" by decide).append ih

mutual

theorem TypeTree.Spelled.whole : ∀ {type : TypeTree}, type.Spelled → Whole type.name
  | .basic type dimensions, _ => by
    have hname : Whole type.typeName := by cases type <;> decide
    exact hname.append (whole_brackets dimensions)
  | .reference links, h => (whole_linksName h).append (whole_brackets _)

theorem whole_linksName : ∀ {links : List TypeLink}, LinksSpelled links →
    Whole (TypeTree.linksName links)
  | [], _ => by decide
  | [link], h => whole_linkName h.1
  | link :: next :: rest, h =>
    ((whole_linkName h.1).append (show Whole "." by decide)).append (whole_linksName h.2)

theorem whole_linkName : ∀ {link : TypeLink}, link.Spelled → Whole (TypeTree.linkName link)
  | .mk name [] _, h => whole_of_isIdentifier h.1
  | .mk name (argument :: rest) _, h =>
    (((whole_of_isIdentifier h.1).append (show Whole "<" by decide)).append
      (whole_argumentsName h.2)).append (show Whole ">" by decide)

theorem whole_argumentsName : ∀ {arguments : List TypeArgument}, ArgumentsSpelled arguments →
    Whole (TypeTree.argumentsName arguments)
  | [], _ => by decide
  | [argument], h => whole_argumentName h.1
  | argument :: next :: rest, h =>
    ((whole_argumentName h.1).append (show Whole ", " by decide)).append (whole_argumentsName h.2)

theorem whole_argumentName : ∀ {argument : TypeArgument}, argument.Spelled →
    Whole (TypeTree.argumentName argument)
  | .any, _ => by decide
  | .exactly type, h => (show type.Spelled from h).whole
  | .extending type, h =>
    (show Whole "? extends " by decide).append (show type.Spelled from h).whole
  | .above type, h =>
    (show Whole "? super " by decide).append (show type.Spelled from h).whole

end

/-! Readers of types -/

namespace Grammar

open Parse

def Below.Spells (b : Below) : Prop :=
  Gives ArgumentsSpelled b.typeArguments

section Types

variable {b : Below}

theorem gives_typeLink (hb : b.Spells) : Gives TypeLink.Spelled (typeLink b) := by
  refine gives_identifier.bind fun name hname => ?_
  have harguments : Gives ArgumentsSpelled (optionalTypeArguments b) :=
    .after fun _ => gives_ite hb (gives_pure trivial)
  exact harguments.bind fun arguments hspelled => gives_pure ⟨hname, hspelled⟩

theorem gives_referenceType (hb : b.Spells) : Gives TypeTree.Spelled (referenceType b) :=
  ((gives_typeLink hb).separated ".").bind fun _ h => gives_pure (linksSpelled_of_forall h.2)

theorem gives_type (hb : b.Spells) : Gives TypeTree.Spelled (type b) := by
  -- Whatever the stem is, its dimensions follow.
  have hrest : ∀ stem : TypeTree, stem.Spelled → Gives TypeTree.Spelled (do
      pure (stem.addDimensions (← bracketPairs))) := fun stem h =>
    .after fun dimensions => gives_pure (h.addDimensions dimensions)
  refine .after fun _ => .after fun _ => gives_ite ?_ (gives_ite ?_ ?_)
  · exact ((gives_true primitive).map fun _ _ => trivial).bind hrest
  · exact (gives_referenceType hb).bind hrest
  · exact (gives_illegal _).bind hrest

theorem gives_objectType (hb : b.Spells) : Gives TypeTree.Spelled (objectType b) := by
  refine .after fun _ => gives_ite ?_ ?_
  · exact .after fun _ => .after fun _ => .after fun _ => .after fun _ => gives_pure trivial
  · exact (gives_referenceType hb).bind fun stem h =>
      .after fun dimensions => gives_pure (h.addDimensions dimensions)

theorem gives_typeArgument (hb : b.Spells) : Gives TypeArgument.Spelled (typeArgument b) := by
  have htype := gives_objectType hb
  refine .after fun _ => gives_ite ?_ (htype.map fun _ h => h)
  refine .after fun _ => gives_ite (htype.map fun _ h => h) ?_
  exact .after fun _ => gives_ite (htype.map fun _ h => h) (gives_pure trivial)

theorem gives_typeArguments (hb : b.Spells) : Gives ArgumentsSpelled (typeArguments b) := by
  have hone := gives_typeArgument hb
  refine .after fun _ => hone.bind fun first hfirst => ?_
  refine Gives.bind (Gives.repeatWhile (.after fun _ => hone) _) fun rest hrest => gives_pure ?_
  exact ⟨hfirst, argumentsSpelled_of_forall hrest⟩

theorem spells_level (n : Nat) : (level n).Spells := by
  induction n with
  | zero => exact gives_illegal _
  | succ n ih => exact gives_typeArguments ih

end Types

end Grammar

/-! Readers of methods -/

structure MethodDeclaration.Spelled (m : MethodDeclaration) : Prop where
  name : isIdentifier m.name = true
  returns : ∀ type, m.returnType = some type → type.Spelled
  parameters : ∀ p ∈ m.parameters, p.type.Spelled

def Declaration.Spelled (d : Declaration) : Prop :=
  ∀ m ∈ d.methods, m.Spelled

namespace Grammar

open Parse

section Methods

variable {b : Below}

theorem gives_formalParameter (hb : b.Spells) :
    Gives (fun p => p.type.Spelled) (formalParameter b) := by
  refine .after fun _ => (gives_type hb).bind fun type htype => ?_
  exact .after fun _ => .after fun _ => .after fun dimensions =>
    gives_pure (htype.addDimensions dimensions)

theorem gives_moreParameters (hb : b.Spells) (bound : Nat) (last : Parameter) :
    Gives (fun all => ∀ p ∈ all, p.type.Spelled) (moreParameters b bound last) := by
  induction bound generalizing last with
  | zero => exact gives_pure (by simp)
  | succ bound ih =>
    rw [moreParameters]
    refine gives_ite (gives_pure (by simp)) (.after fun _ => gives_ite ?_ (gives_pure (by simp)))
    refine (gives_formalParameter hb).bind fun p hp => (ih p).bind fun rest hrest => gives_pure ?_
    exact List.forall_mem_cons.2 ⟨hp, hrest⟩

theorem gives_formalParameters (hb : b.Spells) :
    Gives (fun all => ∀ p ∈ all, p.type.Spelled) (formalParameters b) := by
  refine .after fun _ => .after fun _ => gives_ite (gives_pure (by simp)) ?_
  refine (gives_formalParameter hb).bind fun first hfirst => .after fun _ => ?_
  refine (gives_moreParameters hb _ _).bind fun rest hrest => .after fun _ => gives_pure ?_
  exact List.forall_mem_cons.2 ⟨hfirst, hrest⟩

theorem gives_methodRest (hb : b.Spells) :
    Gives (fun found => ∀ p ∈ found.1, p.type.Spelled) (methodRest b) :=
  (gives_formalParameters hb).bind fun _ h =>
    .after fun _ => .after fun _ => .after fun _ => gives_pure h

theorem gives_voidMethodRest (hb : b.Spells) :
    Gives (fun all => ∀ p ∈ all, p.type.Spelled) (voidMethodRest b) :=
  (gives_formalParameters hb).bind fun _ h => .after fun _ => .after fun _ => gives_pure h

theorem gives_genericMethod (hb : b.Spells) :
    Gives MethodDeclaration.Spelled (genericMethod b) := by
  -- With a type or without, the name and the parameters follow.
  have hrest : ∀ returnType : Option TypeTree, (∀ type, returnType = some type → type.Spelled) →
      Gives MethodDeclaration.Spelled (do
        let name ← identifier
        let found ← methodRest b
        pure { name, returnType, parameters := found.1 }) := fun returnType hreturns =>
    gives_identifier.bind fun name hname => (gives_methodRest hb).bind fun found hfound =>
      gives_pure ⟨hname, hreturns, hfound⟩
  refine .after fun _ => .after fun _ => gives_ite ?_ ?_
  · exact hrest none (by simp)
  · refine ((gives_type hb).map (Q := fun found => ∀ type, found = some type → type.Spelled)
      ?_).bind hrest
    rintro type htype _ ⟨⟩
    exact htype

theorem gives_interfaceMethodOrConstant (hb : b.Spells) :
    Gives (fun found => ∀ m, found = some m → m.Spelled) (interfaceMethodOrConstant b) := by
  refine (gives_type hb).bind fun type htype => gives_identifier.bind fun name hname => ?_
  refine .after fun _ => gives_ite ?_ (.after fun _ => .after fun _ => gives_pure (by simp))
  refine (gives_methodRest hb).bind fun found hfound => gives_pure ?_
  rintro _ ⟨⟩
  refine ⟨hname, ?_, hfound⟩
  rintro _ ⟨⟩
  exact htype.addDimensions _

theorem gives_interfaceMember (hb : b.Spells) :
    Gives (fun found => ∀ m, found = some m → m.Spelled) (interfaceMember b) := by
  refine .after fun _ => gives_ite (.after fun _ => gives_pure (by simp)) ?_
  refine .after fun _ => gives_ite ((gives_genericMethod hb).map ?_) ?_
  · rintro m hm _ ⟨⟩
    exact hm
  refine .after fun _ => gives_ite ?_ (gives_interfaceMethodOrConstant hb)
  refine gives_identifier.bind fun name hname => (gives_voidMethodRest hb).bind
    fun parameters hparameters => gives_pure ?_
  rintro _ ⟨⟩
  exact ⟨hname, by simp, hparameters⟩

theorem gives_interfaceBodyDeclaration (hb : b.Spells) :
    Gives (fun found => ∀ m, found = some m → m.Spelled) (interfaceBodyDeclaration b) := by
  refine .after fun _ => gives_ite (gives_pure (by simp)) ?_
  refine .after fun _ => (gives_interfaceMember hb).bind fun found hfound => gives_pure ?_
  intro m hm
  obtain ⟨bare, rfl, rfl⟩ := Option.map_eq_some_iff.1 hm
  obtain ⟨hname, hreturns, hparameters⟩ := hfound bare rfl
  exact ⟨hname, hreturns, hparameters⟩

theorem gives_interfaceMethods (hb : b.Spells) :
    Gives (fun found => ∀ m ∈ found.2, m.Spelled) (interfaceType b) := by
  refine .after fun _ => .after fun _ => .after fun _ => .after fun _ => .after fun _ => ?_
  have hmembers := ((gives_interfaceBodyDeclaration hb).repeatWhile
    ((!·) <$> seesWord "\x7d")).bind (f := fun all => do expect "\x7d"; pure all)
    fun all hall => .after fun _ => gives_pure hall
  refine hmembers.bind fun members hall => gives_pure fun m hm => ?_
  obtain ⟨_, hmem, rfl⟩ := List.mem_filterMap.1 hm
  exact hall _ hmem m rfl

theorem gives_unmodifiedMethods (hb : b.Spells) (member : Parse Unit) :
    Gives Declaration.Spelled (unmodified b member) := by
  have hbare : ∀ kind name, Declaration.Spelled { kind, name } := fun _ _ m hm => by cases hm
  refine .after fun _ => gives_ite (.after fun _ => gives_pure (hbare _ _)) ?_
  refine .after fun _ => gives_ite (.after fun _ => gives_pure (hbare _ _)) ?_
  refine .after fun _ => gives_ite ((gives_interfaceMethods hb).bind fun _ h => gives_pure h) ?_
  refine .after fun _ => gives_ite (.after fun _ => gives_pure (hbare _ _)) ?_
  exact gives_illegal _

theorem gives_topDeclarationMethods (hb : b.Spells) :
    Gives (fun found => ∀ d, found = some d → d.Spelled) (topDeclaration b) := by
  refine .after fun _ => gives_ite (gives_pure (by simp)) (Gives.map (P := Declaration.Spelled) ?_ ?_)
  · exact .after fun _ => (gives_unmodifiedMethods hb _).bind fun _ h => gives_pure h
  · rintro d hd _ ⟨⟩
    exact hd

theorem gives_declarationsMethods (hb : b.Spells) :
    Gives (fun all => ∀ d ∈ all, d.Spelled) (declarations b) := by
  refine ((gives_topDeclarationMethods hb).repeatWhile _).bind fun found hfound => gives_pure ?_
  intro d hd
  obtain ⟨_, hmem, rfl⟩ := List.mem_filterMap.1 hd
  exact hfound _ hmem d rfl

end Methods

end Grammar

end BeanForge.Source
