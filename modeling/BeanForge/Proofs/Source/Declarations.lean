import BeanForge.Proofs.Source.Annotations

/-!
# Declarations as they are read

Written methods and interfaces are read back one after the other, with their annotations and types,
and nothing is read beyond them.
-/

namespace BeanForge.Source

open Parse Written

namespace Written

def Parameter.declaration (isVariadic : Bool) (p : Parameter) : Source.Parameter :=
  ⟨p.type.tree, isVariadic⟩

def parameterDeclarations (parameters : List (Bool × Parameter)) : List Source.Parameter :=
  parameters.map fun p => p.2.declaration p.1

theorem parameterLexemes_cons (p : Bool × Parameter) (rest : List (Bool × Parameter)) :
    parameterLexemes (p :: rest) = p.2.lexemes p.1 :: parameterLexemes rest := rfl

theorem parameterDeclarations_cons (p : Bool × Parameter) (rest : List (Bool × Parameter)) :
    parameterDeclarations (p :: rest) = p.2.declaration p.1 :: parameterDeclarations rest := rfl

def Method.declaration (m : Method) : MethodDeclaration where
  name := m.name.text
  returnType := m.returnType.map AnyType.tree
  parameters := parameterDeclarations m.allParameters
  annotations := m.annotations.map Annotation.use

def Interface.declaration (i : Interface) : Declaration where
  kind := .interfaceType
  name := i.name.text
  annotations := i.annotations.map Annotation.use
  methods := i.methods.map Method.declaration

def File.unit (s : File) : CompilationUnit where
  package := if s.package = [] then none else some (dottedText s.package)
  declarations := s.interfaces.map Interface.declaration

end Written

namespace Grammar

/-! Beginnings -/

theorem TypeHead.endsType {ls : List Lexeme} (h : TypeHead ls) : EndsType ls :=
  ⟨h.lacks (by decide), h.lacks (by decide), h.lacks (by decide)⟩

theorem TypeHead.lacksKind {ls : List Lexeme} (h : TypeHead ls) {k : TokenKind}
    (hidentifier : k ≠ .identifier) (hbasic : k ≠ .basicType) (wants : List Want) :
    suitAll (.kind k :: wants) ls = false := by
  cases h with
  | @word head sound hhead rest =>
    simp only [namesType, Bool.and_eq_true, Bool.or_eq_true, beq_iff_eq] at hhead
    have hkind : (wordKind head == k) = false := by
      cases hhead.2 with
      | inl h => simpa [h] using hidentifier.symm
      | inr h => simpa [h] using hbasic.symm
    show ((wordKind head == k) && _) = false
    rw [hkind, Bool.false_and]

theorem TypeHead.endsModifiers {ls : List Lexeme} (h : TypeHead ls) : EndsModifiers ls where
  parenthesis := h.lacks (by decide)
  dot := h.lacks (by decide)
  modifier := h.lacksKind (by decide) (by decide) []
  annotation := by
    have hkind := h.lacksKind (k := .atSign) (by decide) (by decide) []
    cases h with
    | word hhead rest =>
      simp only [suitAll, Want.suits, Bool.and_true] at hkind
      rw [beginsUse, hkind, Bool.false_and]

theorem TypeHead.not_contains {ls : List Lexeme} (h : TypeHead ls) {words : List String}
    (hwords : ∀ w ∈ words, namesType w = false) :
    words.contains ((headText? ls).getD "") = false := by
  cases h with
  | @word head sound hhead rest =>
    cases hc : words.contains head with
    | false => exact hc
    | true =>
      have hnames := hwords head (List.contains_iff_mem.1 hc)
      rw [hhead] at hnames
      cases hnames

theorem typeHead_any (t : AnyType) (after : List Lexeme) : TypeHead (t.lexemes ++ after) := by
  cases t with
  | basic type dimensions => exact typeHead_primitive type _
  | object type => exact typeHead_object type after

theorem typeHead_parameter (isVariadic : Bool) (p : Written.Parameter) (after : List Lexeme) :
    TypeHead (p.lexemes isVariadic ++ after) := by
  rw [Written.Parameter.lexemes, List.append_assoc]
  exact typeHead_any p.type _

/-- Annotations come first, if there are any. -/
theorem lacks_annotations {text : String} (hat : "@" ≠ text) {rest : List Lexeme}
    (hrest : Lacks text rest) (annotations : List Annotation) :
    Lacks text (annotationsLexemes annotations ++ rest) := by
  cases annotations with
  | nil => exact hrest
  | cons a more =>
    show (("@" == text) && true) = false
    simpa using hat

/-! Parameters -/

inductive EndsParameter : List Lexeme → Prop where
  | comma (ls : List Lexeme) : EndsParameter (.mark .comma :: ls)
  | close (ls : List Lexeme) : EndsParameter (.mark .closeParenthesis :: ls)

theorem reads_variableModifiers (b : Below) {ls : List Lexeme} (h : TypeHead ls) :
    Reads (variableModifiers b) ls () ls := by
  refine (reads_none ?_).discard
  refine (reads_seesWord (h.lacks (by decide))).bind ?_
  exact (reads_seesAnnotationUse h.endsModifiers.annotation).bind (reads_pure _ _)

theorem reads_formalParameter {n : Nat} (p : Written.Parameter) (isVariadic : Bool)
    (hroom : (p.lexemes isVariadic).length ≤ n) :
    ReadsItem EndsParameter (formalParameter (level n)) (p.lexemes isVariadic)
      (p.declaration isVariadic) := by
  intro after hafter
  unfold Written.Parameter.lexemes at hroom ⊢
  rw [List.length_append] at hroom
  have htype : p.type.lexemes.length ≤ n := by omega
  have hbracket : Lacks "[" after := by
    cases hafter with
    | comma ls => rfl
    | close ls => rfl
  have hname := typeHead_name p.name after
  rw [List.append_assoc, List.append_assoc]
  have hhead := typeHead_any p.type (dotsLexemes isVariadic ++ ([nameLexeme p.name] ++ after))
  have hends : EndsType (dotsLexemes isVariadic ++ ([nameLexeme p.name] ++ after)) := by
    cases isVariadic with
    | true => exact ⟨rfl, rfl, rfl⟩
    | false => exact hname.endsType
  have hdots : Reads (acceptsWord "...") (dotsLexemes isVariadic ++ ([nameLexeme p.name] ++ after))
      isVariadic ([nameLexeme p.name] ++ after) := by
    cases isVariadic with
    | true => exact reads_accepts rfl
    | false => exact reads_refuses (hname.lacks (by decide))
  refine (reads_variableModifiers _ hhead).bind ?_
  refine ((reads_type p.type htype _ hends).bind (hdots.bind ?_))
  refine (reads_identifier p.name after).discard.bind ((reads_bracketPairs 0 hbracket).bind ?_)
  rw [TypeTree.addDimensions_zero]
  exact reads_pure _ _

def LastOnly : List (Bool × Written.Parameter) → Prop
  | [] => True
  | p :: rest => (p.1 = true → rest = []) ∧ LastOnly rest

theorem lastOnly_withVariadic (parameters : List Written.Parameter)
    (variadic : Option Written.Parameter) : LastOnly (withVariadic parameters variadic) := by
  induction parameters with
  | nil =>
    cases variadic with
    | none => trivial
    | some p => exact ⟨fun _ => rfl, trivial⟩
  | cons p parameters ih => exact ⟨fun h => (nomatch h), ih⟩

variable {n : Nat}

/-- After a parameter come all others, or none if it is variadic. -/
theorem reads_moreParameters {last : Source.Parameter}
    {parameters : List (Bool × Written.Parameter)} (hlast : LastOnly parameters) (hplain : last.isVariadic = true → parameters = [])
    (hroom : ∀ p ∈ parameters, (p.2.lexemes p.1).length ≤ n) {bound : Nat}
    (hbound : parameters.length < bound) (after : List Lexeme) :
    Reads (moreParameters (level n) bound last)
      ((parameterLexemes parameters).flatMap (.mark .comma :: ·) ++
        .mark .closeParenthesis :: after)
      (parameterDeclarations parameters) (.mark .closeParenthesis :: after) := by
  induction parameters generalizing bound last with
  | nil =>
    cases bound with
    | zero => cases hbound
    | succ bound =>
      rw [moreParameters]
      cases last.isVariadic with
      | true => exact reads_pure _ _
      | false => exact (reads_refuses rfl).bind (reads_pure _ _)
  | cons p parameters ih =>
    obtain ⟨hfirst, hrest⟩ := List.forall_mem_cons.1 hroom
    have hvariadic : last.isVariadic = false := by
      cases hv : last.isVariadic with
      | false => rfl
      | true => cases hplain hv
    cases bound with
    | zero => cases hbound
    | succ bound =>
      rw [List.length_cons] at hbound
      have hnext := next_of_parted EndsParameter.comma (parameterLexemes parameters)
        (EndsParameter.close after)
      have hparameter := reads_formalParameter p.2 p.1 hfirst _ hnext
      rw [moreParameters, hvariadic, parameterLexemes_cons, parameterDeclarations_cons,
        List.flatMap_cons, List.cons_append, List.cons_append, List.append_assoc]
      refine Reads.bind (reads_accepts rfl) (hparameter.bind ?_)
      exact (ih hlast.2 hlast.1 hrest (by omega)).bind (reads_pure _ _)

theorem length_le_flatMap (separator : Mark) (items : List (List Lexeme)) :
    items.length ≤ (items.flatMap (.mark separator :: ·)).length := by
  induction items with
  | nil => exact Nat.le_refl _
  | cons item rest ih =>
    rw [List.flatMap_cons, List.length_append, List.length_cons, List.length_cons]
    omega

theorem reads_formalParameters {parameters : List (Bool × Written.Parameter)}
    (hlast : LastOnly parameters) (hroom : ∀ p ∈ parameters, (p.2.lexemes p.1).length ≤ n)
    (after : List Lexeme) :
    Reads (formalParameters (level n))
      (.mark .openParenthesis :: (parted .comma (parameterLexemes parameters) ++
        .mark .closeParenthesis :: after))
      (parameterDeclarations parameters) after := by
  refine (reads_expect (.mark .openParenthesis) _).bind ?_
  cases parameters with
  | nil => exact Reads.bind (reads_accepts rfl) (reads_pure _ _)
  | cons p parameters =>
    obtain ⟨hfirst, hrest⟩ := List.forall_mem_cons.1 hroom
    have hnext := next_of_parted EndsParameter.comma (parameterLexemes parameters)
      (EndsParameter.close after)
    have hparameter := reads_formalParameter p.2 p.1 hfirst _ hnext
    have hhead := typeHead_parameter p.1 p.2
      ((parameterLexemes parameters).flatMap (.mark .comma :: ·) ++
        .mark .closeParenthesis :: after)
    rw [parameterLexemes_cons, parameterDeclarations_cons, parted, List.append_assoc]
    refine (reads_refuses (hhead.lacks (by decide))).bind (hparameter.bind ?_)
    refine reads_ahead fun ts hts => ?_
    have hbound : parameters.length < ts.length + 1 := by
      have hle := length_le_flatMap .comma (parameterLexemes parameters)
      rw [parameterLexemes, List.length_map] at hle
      rw [hts, List.length_append, parameterLexemes]
      omega
    refine (reads_moreParameters hlast.2 hlast.1 hrest hbound after).bind ?_
    exact (reads_expect (.mark .closeParenthesis) after).bind (reads_pure _ _)

/-! Methods -/

/-- What a method begins with after its annotations. -/
theorem endsModifiers_return (returnType : Option AnyType) (rest : List Lexeme) :
    EndsModifiers (returnLexemes returnType ++ rest) := by
  cases returnType with
  | none => exact ⟨⟨rfl, rfl⟩, rfl, rfl⟩
  | some t => exact (typeHead_any t rest).endsModifiers

theorem lacks_return {text : String} (hvoid : "void" ≠ text) (htext : namesType text = false)
    (returnType : Option AnyType) (rest : List Lexeme) :
    Lacks text (returnLexemes returnType ++ rest) := by
  cases returnType with
  | none =>
    show (("void" == text) && true) = false
    simpa using hvoid
  | some t => exact (typeHead_any t rest).lacks htext

theorem reads_seesNested_return (returnType : Option AnyType) (rest : List Lexeme) :
    Reads seesNested (returnLexemes returnType ++ rest) false
      (returnLexemes returnType ++ rest) := by
  have hwords : ["class", "enum", "interface"].contains
      ((headText? (returnLexemes returnType ++ rest)).getD "") = false := by
    cases returnType with
    | none => rfl
    | some t => exact (typeHead_any t rest).not_contains (by decide)
  have hannotation : suitAll [.kind .atSign, .word "interface"]
      (returnLexemes returnType ++ rest) = false := by
    cases returnType with
    | none => rfl
    | some t => exact (typeHead_any t rest).lacksKind (by decide) (by decide) _
  exact (reads_seesOneOf hwords).bind ((reads_sees hannotation).bind (reads_pure _ _))

theorem reads_optionalThrows (after : List Lexeme) :
    Reads optionalThrows (.mark .semicolon :: after) () (.mark .semicolon :: after) :=
  (reads_refuses rfl).bind (reads_pure _ _)

theorem reads_bodyOrSemicolon (b : Below) (after : List Lexeme) :
    Reads (bodyOrSemicolon b) (.mark .semicolon :: after) () after :=
  Reads.bind (reads_seesWord (b := false) rfl) (reads_expect (.mark .semicolon) after)

structure Method.Fits (m : Written.Method) (n : Nat) : Prop where
  returnType : ∀ t ∈ m.returnType, t.lexemes.length ≤ n
  parameters : ∀ p ∈ m.allParameters, (p.2.lexemes p.1).length ≤ n

theorem reads_interfaceMember (m : Written.Method) {n : Nat} (hfits : Method.Fits m n)
    (after : List Lexeme) :
    Reads (interfaceMember (level n)) (m.signatureLexemes ++ after)
      (some { m.declaration with annotations := [] }) after := by
  have hlast := lastOnly_withVariadic m.parameters m.variadic
  have hshape : m.signatureLexemes ++ after = returnLexemes m.returnType ++
      (nameLexeme m.name :: .mark .openParenthesis ::
        (parted .comma (parameterLexemes m.allParameters) ++
          .mark .closeParenthesis :: .mark .semicolon :: after)) := by
    simp [Method.signatureLexemes]
  have hparameters := reads_formalParameters hlast hfits.parameters (.mark .semicolon :: after)
  rw [hshape]
  refine (reads_seesNested_return m.returnType _).bind ?_
  refine (reads_seesWord (lacks_return (by decide) (by decide) m.returnType _)).bind ?_
  unfold Method.declaration
  cases hreturn : m.returnType with
  | none =>
    have hrest : Reads (voidMethodRest (level n)) _ (parameterDeclarations m.allParameters) after :=
      hparameters.bind ((reads_optionalThrows after).bind
        ((reads_bodyOrSemicolon _ after).bind (reads_pure _ _)))
    refine Reads.bind (reads_accepts rfl) ((reads_identifier m.name _).bind ?_)
    exact hrest.bind (reads_pure _ _)
  | some t =>
    have hbracket : Lacks "[" (.mark .semicolon :: after) := rfl
    have hrest : Reads (methodRest (level n)) _ (parameterDeclarations m.allParameters, 0) after :=
      hparameters.bind ((reads_bracketPairs 0 hbracket).bind ((reads_optionalThrows after).bind
        ((reads_bodyOrSemicolon _ after).bind (reads_pure _ _))))
    have hname := typeHead_name m.name (.mark .openParenthesis ::
      (parted .comma (parameterLexemes m.allParameters) ++
        .mark .closeParenthesis :: .mark .semicolon :: after))
    refine (reads_refuses ((typeHead_any t _).lacks (by decide))).bind ?_
    refine (reads_type t (hfits.returnType t hreturn) _ hname.endsType).bind ?_
    refine (reads_identifier m.name _).bind (Reads.bind (reads_seesWord (b := true) rfl) ?_)
    refine hrest.bind ?_
    simp only [TypeTree.addDimensions_zero]
    exact reads_pure _ _

theorem reads_method (m : Written.Method) {n : Nat} (hfits : Method.Fits m (n + 2))
    (after : List Lexeme) :
    Reads (interfaceBodyDeclaration (level (n + 2))) (m.lexemes ++ after) (some m.declaration)
      after := by
  have hreturn : m.signatureLexemes ++ after = returnLexemes m.returnType ++ _ :=
    List.append_assoc _ _ _
  have hends : EndsModifiers (m.signatureLexemes ++ after) := by
    rw [hreturn]
    exact endsModifiers_return _ _
  have hsemicolon : Lacks ";" (m.signatureLexemes ++ after) := by
    rw [hreturn]
    exact lacks_return (by decide) (by decide) _ _
  rw [Method.lexemes, List.append_assoc]
  refine (reads_refuses (lacks_annotations (by decide) hsemicolon m.annotations)).bind ?_
  refine (reads_declarationModifiers n m.annotations _ hends).bind ?_
  exact (reads_interfaceMember m hfits after).bind (reads_pure _ _)

/-! Interfaces -/

theorem lacks_method {text : String} (hat : "@" ≠ text) (hvoid : "void" ≠ text)
    (htext : namesType text = false) (m : Written.Method) (after : List Lexeme) :
    Lacks text (m.lexemes ++ after) := by
  rw [Method.lexemes, Method.signatureLexemes, List.append_assoc, List.append_assoc]
  exact lacks_annotations hat (lacks_return hvoid htext _ _) m.annotations

theorem reads_interfaceType (i : Written.Interface) {n : Nat}
    (hfits : ∀ m ∈ i.methods, Method.Fits m (n + 2)) (after : List Lexeme) :
    Reads (interfaceType (level (n + 2))) (i.bodyLexemes ++ after)
      (i.name.text, i.methods.map Method.declaration) after := by
  have hshape : i.bodyLexemes ++ after = .word "interface" (by decide) :: nameLexeme i.name ::
      .mark .openBrace :: ((i.methods.map Method.lexemes).flatten ++
        (.mark .closeBrace :: after)) := by
    simp [Interface.bodyLexemes]
  have hsome : (i.methods.map fun m => some m.declaration).filterMap id =
      i.methods.map Method.declaration := by
    simp
  have hmembers : Reads (untilWord "\x7d" (interfaceBodyDeclaration (level (n + 2))))
      ((i.methods.map Method.lexemes).flatten ++ (.mark .closeBrace :: after))
      (i.methods.map fun m => some m.declaration) after := by
    refine Reads.bind (a := i.methods.map fun m => some m.declaration) (Rounds.repeatWhile
      (rounds_flatten (fun _ => True) ?more ?nonempty (fun _ _ _ => trivial) ?items trivial
        ?stop)) ?_
    case more =>
      exact fun m _ ls =>
        (reads_seesWord (lacks_method (by decide) (by decide) (by decide) m ls)).map _
    case nonempty =>
      intro m _
      simp [Method.lexemes, Method.signatureLexemes]
    case items => exact fun m hm ls _ => reads_method m (hfits m hm) ls
    case stop => exact (reads_seesWord (b := true) rfl).map _
    exact (reads_expect (.mark .closeBrace) after).bind (reads_pure _ _)
  rw [hshape]
  refine (reads_expect (.word "interface" (by decide)) _).bind ?_
  refine (reads_identifier i.name _).bind ?_
  refine Reads.bind (a := ()) (Reads.bind (reads_seesWord (b := false) rfl) (reads_pure _ _)) ?_
  refine Reads.bind (a := ()) ((reads_refuses rfl).bind (reads_pure _ _)) ?_
  refine (reads_expect (.mark .openBrace) _).bind (hmembers.bind ?_)
  rw [hsome]
  exact reads_pure _ _

theorem endsModifiers_body (i : Written.Interface) (after : List Lexeme) :
    EndsModifiers (i.bodyLexemes ++ after) :=
  ⟨⟨rfl, rfl⟩, rfl, rfl⟩

theorem reads_declaration (i : Written.Interface) {n : Nat}
    (hfits : ∀ m ∈ i.methods, Method.Fits m (n + 2)) (after : List Lexeme) :
    Reads (declaration (level (n + 2))) (i.lexemes ++ after) i.declaration after := by
  rw [Interface.lexemes, List.append_assoc]
  refine (reads_declarationModifiers n i.annotations _ (endsModifiers_body i after)).bind ?_
  have hunmodified : Reads (unmodified (level (n + 2)) (classMember (level (n + 2))))
      (i.bodyLexemes ++ after) { i.declaration with annotations := [] } after := by
    refine Reads.bind (reads_seesWord (b := false) rfl) ?_
    refine Reads.bind (reads_seesWord (b := false) rfl) ?_
    refine Reads.bind (reads_seesWord (b := true) rfl) ?_
    exact (reads_interfaceType i hfits after).bind (reads_pure _ _)
  exact hunmodified.bind (reads_pure _ _)

theorem lacks_interface {text : String} (hat : "@" ≠ text) (hinterface : "interface" ≠ text)
    (i : Written.Interface) (after : List Lexeme) : Lacks text (i.lexemes ++ after) := by
  rw [Interface.lexemes, List.append_assoc]
  refine lacks_annotations hat ?_ i.annotations
  show (("interface" == text) && true) = false
  simpa using hinterface

/-! Sources -/

theorem reads_isSome_look (l : Lexeme) (ls : List Lexeme) :
    Reads ((·.isSome) <$> look) (l :: ls) true (l :: ls) := by
  rintro ⟨left, mark⟩ h
  obtain ⟨t, rest, hleft, _⟩ := h.cons_inv
  obtain rfl : left = t :: rest := hleft
  exact ⟨t :: rest, rfl, h⟩

theorem reads_isNone_look : Reads ((·.isSome) <$> look) [] false [] := by
  rintro ⟨left, mark⟩ h
  obtain rfl : left = [] := h.nil_inv
  exact ⟨[], rfl, h⟩

theorem reads_declarations (interfaces : List Written.Interface) {n : Nat}
    (hfits : ∀ i ∈ interfaces, ∀ m ∈ i.methods, Method.Fits m (n + 2)) :
    Reads (declarations (level (n + 2))) (interfaces.map Interface.lexemes).flatten
      (interfaces.map Interface.declaration) [] := by
  have hsome : (interfaces.map fun i => some i.declaration).filterMap id =
      interfaces.map Interface.declaration := by
    simp
  rw [← List.append_nil (interfaces.map Interface.lexemes).flatten]
  refine Reads.bind (a := interfaces.map fun i => some i.declaration) (Rounds.repeatWhile
    (rounds_flatten (fun _ => True) ?more ?nonempty (fun _ _ _ => trivial) ?items trivial
      reads_isNone_look)) ?_
  case more =>
    intro i _ ls
    cases hlexemes : i.lexemes ++ ls with
    | nil => simp [Interface.lexemes, Interface.bodyLexemes] at hlexemes
    | cons l rest => exact reads_isSome_look l rest
  case nonempty =>
    intro i _
    simp [Interface.lexemes, Interface.bodyLexemes]
  case items =>
    intro i hi ls _
    refine (reads_refuses (lacks_interface (by decide) (by decide) i ls)).bind ?_
    exact (reads_declaration i (hfits i hi) ls).map some
  rw [hsome]
  exact reads_pure _ _

/-- Without a package nothing is read: annotations belong to what they stand at. -/
theorem leaves_packageName_none (interfaces : List Written.Interface) (n : Nat) :
    Leaves (packageName (level (n + 2))) (interfaces.map Interface.lexemes).flatten none
      (interfaces.map Interface.lexemes).flatten := by
  refine Restores.marked ?_
  cases interfaces with
  | nil =>
    refine Reads.restores (reads_seesAnnotationUse (b := false) rfl) ?_
    exact (reads_refuses rfl).restores (restores_goBack none _)
  | cons i rest =>
    have hshape : ((i :: rest).map Interface.lexemes).flatten = annotationsLexemes i.annotations ++
        (i.bodyLexemes ++ (rest.map Interface.lexemes).flatten) := by
      simp [Interface.lexemes]
    have hends := endsModifiers_body i (rest.map Interface.lexemes).flatten
    rw [hshape]
    cases hannotations : i.annotations with
    | nil =>
      refine Reads.restores (reads_seesAnnotationUse (b := false) rfl) ?_
      exact (reads_refuses rfl).restores (restores_goBack none _)
    | cons a more =>
      have hmore := reads_annotations n (List.cons_ne_nil a more) hends
      have huse : beginsUse (annotationsLexemes (a :: more) ++
          (i.bodyLexemes ++ (rest.map Interface.lexemes).flatten)) = true := by
        rw [annotationsLexemes_cons, List.append_assoc]
        exact beginsUse_lexemes a _
      refine (reads_seesAnnotationUse huse).restores (hmore.discard.restores ?_)
      exact (reads_refuses rfl).restores (restores_goBack none _)

theorem leaves_packageName (s : Written.File) (n : Nat) :
    Leaves (packageName (level (n + 2))) s.lexemes s.unit.package
      (s.interfaces.map Interface.lexemes).flatten := by
  obtain ⟨package, interfaces⟩ := s
  cases package with
  | nil => exact leaves_packageName_none interfaces n
  | cons name rest =>
    have hshape : (Written.File.mk (name :: rest) interfaces).lexemes =
        .word "package" (by decide) :: (dottedLexemes (name :: rest) ++
          .mark .semicolon :: (interfaces.map Interface.lexemes).flatten) := by
      simp [File.lexemes, packageLexemes]
    rw [hshape]
    refine Reads.marked (Reads.bind (reads_seesAnnotationUse (b := false) rfl) ?_)
    have hdot : Lacks "."
        (.mark .semicolon :: (interfaces.map Interface.lexemes).flatten) := rfl
    refine Reads.bind (reads_accepts rfl) ?_
    refine (reads_qualifiedName (List.cons_ne_nil name rest) hdot).bind ?_
    exact (reads_expect (.mark .semicolon) _).bind (reads_pure _ _)

theorem leaves_header (s : Written.File) (n : Nat) :
    Leaves (header (level (n + 2))) s.lexemes s.unit.package
      (s.interfaces.map Interface.lexemes).flatten := by
  refine (leaves_packageName s n).bind (Reads.leaves ?_)
  have himport : suitAll [.word "import"] (s.interfaces.map Interface.lexemes).flatten = false := by
    cases s.interfaces with
    | nil => rfl
    | cons i rest => exact lacks_interface (by decide) (by decide) i _
  exact (reads_none (reads_seesWord himport)).discard.bind (reads_pure _ _)

/-! Packages that the end of a text cuts off -/

theorem drains_names {names : List Name} {front : List Lexeme}
    (hfront : front <+: (names.map fun name => [nameLexeme name]).flatMap (.mark .dot :: ·))
    {bound : Nat} (hbound : front.length < bound) :
    Drains (repeatFrom bound (acceptsWord ".") identifier) front := by
  induction names generalizing front bound with
  | nil =>
    obtain rfl := List.prefix_nil.1 hfront
    cases bound with
    | zero => cases hbound
    | succ bound => exact (reads_refuses rfl).drains (drains_pure [])
  | cons name rest ih =>
    cases bound with
    | zero => cases hbound
    | succ bound =>
      cases front with
      | nil => exact (reads_refuses rfl).drains (drains_pure [])
      | cons l more =>
        obtain ⟨rfl, hmore⟩ := List.cons_prefix_cons.1 hfront
        refine (reads_accepts rfl).drains ?_
        cases more with
        | nil => exact (exhausts_take _).bind.drains
        | cons l last =>
          obtain ⟨rfl, hlast⟩ := List.cons_prefix_cons.1 hmore
          have hroom : last.length < bound := by
            rw [List.length_cons, List.length_cons] at hbound
            omega
          exact (reads_identifier name last).drains ((ih hlast hroom).bind fun _ => drains_pure _)

theorem drains_qualifiedName {names : List Name} {front : List Lexeme}
    (hfront : front <+: dottedLexemes names) : Drains qualifiedName front := by
  cases front with
  | nil => exact (exhausts_take _).bind.bind.drains
  | cons l more =>
    cases names with
    | nil => cases List.prefix_nil.1 hfront
    | cons name rest =>
      obtain ⟨rfl, hmore⟩ := List.cons_prefix_cons.1 hfront
      have hrest : Drains (repeatWhile (acceptsWord ".") identifier) more := by
        intro r hr
        refine drains_names hmore ?_ r hr
        rw [hr.length_eq]
        exact Nat.lt_succ_self _
      refine Drains.bind ?_ fun _ => drains_pure _
      exact (reads_identifier name more).drains (hrest.bind fun _ => drains_pure _)

theorem exhausts_header {names : List Name} {front : List Lexeme}
    (hfront : front <+: dottedLexemes names) (b : Below) :
    Exhausts (header b) (.word "package" (by decide) :: front) := by
  refine Exhausts.bind (Exhausts.marked ?_)
  refine Reads.exhausts (reads_seesAnnotationUse (b := false) rfl) ?_
  refine Reads.exhausts (reads_accepts rfl) ?_
  exact (drains_qualifiedName hfront).exhausts fun _ => (exhausts_take _).bind.bind

/-! Room -/

theorem Method.fits_of_length_le (m : Written.Method) {n : Nat} (h : m.lexemes.length ≤ n) :
    Method.Fits m n := by
  have hlength : m.lexemes.length = (annotationsLexemes m.annotations).length +
      ((returnLexemes m.returnType).length +
        ((parted .comma (parameterLexemes m.allParameters)).length + 4)) := by
    simp only [Method.lexemes, Method.signatureLexemes, List.length_append, List.length_cons,
      List.length_nil]
  constructor
  · intro t ht
    have hreturn : (returnLexemes m.returnType).length = t.lexemes.length := by
      rw [ht]
      rfl
    omega
  · intro p hp
    have hle := length_le_parted .comma (List.mem_map_of_mem (f := fun p => p.2.lexemes p.1) hp)
    have hsame : (parted .comma (m.allParameters.map fun p => p.2.lexemes p.1)).length =
        (parted .comma (parameterLexemes m.allParameters)).length := rfl
    omega

theorem length_le_flatten {γ : Type} {f : γ → List Lexeme} {x : γ} {xs : List γ} (h : x ∈ xs) :
    (f x).length ≤ (xs.map f).flatten.length :=
  (List.sublist_flatten_of_mem (List.mem_map_of_mem h)).length_le

theorem fits_of_source (s : Written.File) {n : Nat} (h : s.lexemes.length ≤ n)
    {i : Written.Interface} (hi : i ∈ s.interfaces) {m : Written.Method} (hm : m ∈ i.methods) :
    Method.Fits m n := by
  apply Method.fits_of_length_le
  have hmethod := length_le_flatten (f := Method.lexemes) hm
  have hinterface := length_le_flatten (f := Interface.lexemes) hi
  have hbody : (i.methods.map Method.lexemes).flatten.length ≤ i.lexemes.length := by
    simp only [Interface.lexemes, Interface.bodyLexemes, List.length_append, List.length_cons]
    omega
  have hsource : (s.interfaces.map Interface.lexemes).flatten.length ≤ s.lexemes.length := by
    simp only [File.lexemes, List.length_append]
    omega
  omega

end Grammar

end BeanForge.Source
