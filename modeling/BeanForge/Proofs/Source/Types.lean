import BeanForge.Proofs.Source.Reading
import BeanForge.Source.Grammar.Declarations

/-!
# Types as they are read

A written type is read back as a tree, and the tree is named as the type is. Arguments lie one
level below the type that has them, and a type has fewer levels than lexemes.
-/

namespace BeanForge.Source

open Parse Written

/-! Trees -/

namespace Written

mutual

def ObjectType.tree : ObjectType → TypeTree
  | .array element more => .basic element (more + 1)
  | .named first rest dimensions =>
    (TypeTree.reference (first.link :: segmentLinks rest)).addDimensions dimensions

def Segment.link : Segment → TypeLink
  | .mk name arguments => .mk name.text (argumentTrees arguments) 0

def segmentLinks : List Segment → List TypeLink
  | [] => []
  | segment :: rest => segment.link :: segmentLinks rest

def Argument.tree : Argument → TypeArgument
  | .any => .any
  | .bounded .exactly type => .exactly type.tree
  | .bounded .extending type => .extending type.tree
  | .bounded .above type => .above type.tree

def argumentTrees : List Argument → List TypeArgument
  | [] => []
  | argument :: rest => argument.tree :: argumentTrees rest

end

def AnyType.tree : AnyType → TypeTree
  | basic type dimensions => .basic type dimensions
  | object type => type.tree

theorem segmentLinks_eq_map (segments : List Segment) :
    segmentLinks segments = segments.map Segment.link := by
  induction segments with
  | nil => rfl
  | cons segment rest ih => rw [segmentLinks, ih, List.map_cons]

theorem argumentTrees_eq_map (arguments : List Argument) :
    argumentTrees arguments = arguments.map Argument.tree := by
  induction arguments with
  | nil => rfl
  | cons argument rest ih => rw [argumentTrees, ih, List.map_cons]

theorem segmentLexemes_eq_map (segments : List Segment) :
    segmentLexemes segments = segments.map Segment.lexemes := by
  induction segments with
  | nil => rfl
  | cons segment rest ih => rw [segmentLexemes, ih, List.map_cons]

theorem argumentLexemes_eq_map (arguments : List Argument) :
    argumentLexemes arguments = arguments.map Argument.lexemes := by
  induction arguments with
  | nil => rfl
  | cons argument rest ih => rw [argumentLexemes, ih, List.map_cons]

theorem linkDimensions_segmentLinks (segments : List Segment) :
    TypeTree.linkDimensions (segmentLinks segments) = 0 := by
  induction segments with
  | nil => rfl
  | cons segment rest ih =>
    cases segment
    rw [segmentLinks, Segment.link, TypeTree.linkDimensions, ih]

end Written

theorem TypeTree.addDimensions_zero (t : TypeTree) : t.addDimensions 0 = t := by
  cases t with
  | basic type dimensions => rfl
  | reference links =>
    cases links with
    | nil => rfl
    | cons link rest =>
      cases link
      rfl

/-! Names of trees -/

theorem TypeTree.linksName_map {γ : Type} {link : γ → TypeLink} {text : γ → String} {xs : List γ}
    (h : ∀ x ∈ xs, linkName (link x) = text x) :
    linksName (xs.map link) = ".".intercalate (xs.map text) := by
  induction xs with
  | nil => rfl
  | cons x xs ih =>
    obtain ⟨hfirst, hrest⟩ := List.forall_mem_cons.1 h
    cases xs with
    | nil => simp [linksName, hfirst]
    | cons y ys =>
      rw [List.map_cons, List.map_cons] at ih ⊢
      rw [List.map_cons, List.map_cons, String.intercalate_cons_cons, ← ih hrest, linksName, hfirst]
      simp

theorem TypeTree.argumentsName_map {γ : Type} {tree : γ → TypeArgument} {text : γ → String}
    {xs : List γ} (h : ∀ x ∈ xs, argumentName (tree x) = text x) :
    argumentsName (xs.map tree) = ", ".intercalate (xs.map text) := by
  induction xs with
  | nil => rfl
  | cons x xs ih =>
    obtain ⟨hfirst, hrest⟩ := List.forall_mem_cons.1 h
    cases xs with
    | nil => simp [argumentsName, hfirst]
    | cons y ys =>
      rw [List.map_cons, List.map_cons] at ih ⊢
      rw [List.map_cons, List.map_cons, String.intercalate_cons_cons, ← ih hrest, argumentsName,
        hfirst]
      simp

namespace Written

/-- To prove something of all types, prove it of segments and arguments too. -/
theorem ObjectType.induct {P : ObjectType → Prop} {Q : Segment → Prop} {R : Argument → Prop}
    (harray : ∀ element more, P (.array element more))
    (hnamed : ∀ first rest dimensions, Q first → (∀ s ∈ rest, Q s) →
      P (.named first rest dimensions))
    (hsegment : ∀ name arguments, (∀ a ∈ arguments, R a) → Q (.mk name arguments))
    (hany : R .any) (hbounded : ∀ bound type, P type → R (.bounded bound type)) :
    (∀ t, P t) ∧ ∀ s, Q s := by
  have hnil {α : Type} (S : α → Prop) : ∀ a ∈ ([] : List α), S a := fun _ h => nomatch h
  have hcons {α : Type} (S : α → Prop) (a : α) (as : List α) (ha : S a) (has : ∀ b ∈ as, S b) :
      ∀ b ∈ a :: as, S b := List.forall_mem_cons.2 ⟨ha, has⟩
  constructor
  · exact fun t => @ObjectType.rec P Q R (fun ss => ∀ s ∈ ss, Q s) (fun as => ∀ a ∈ as, R a)
      harray hnamed hsegment hany hbounded (hnil Q) (hcons Q) (hnil R) (hcons R) t
  · exact fun s => @Segment.rec P Q R (fun ss => ∀ s ∈ ss, Q s) (fun as => ∀ a ∈ as, R a)
      harray hnamed hsegment hany hbounded (hnil Q) (hcons Q) (hnil R) (hcons R) s

theorem argumentTexts_eq_map (arguments : List Argument) :
    argumentTexts arguments = arguments.map Argument.text := by
  induction arguments with
  | nil => rfl
  | cons argument rest ih => rw [argumentTexts, ih, List.map_cons]

theorem segmentTexts_eq_map (segments : List Segment) :
    segmentTexts segments = segments.map Segment.text := by
  induction segments with
  | nil => rfl
  | cons segment rest ih => rw [segmentTexts, ih, List.map_cons]

theorem name_addDimensions {links : List TypeLink} (hne : links ≠ [])
    (hflat : TypeTree.linkDimensions links = 0) (dimensions : Nat) :
    ((TypeTree.reference links).addDimensions dimensions).name =
      TypeTree.linksName links ++ TypeTree.brackets dimensions := by
  cases links with
  | nil => exact absurd rfl hne
  | cons link rest =>
    obtain ⟨name, arguments, own⟩ := link
    rw [TypeTree.linkDimensions] at hflat
    have hdimensions : own + dimensions + TypeTree.linkDimensions rest = dimensions := by omega
    rw [TypeTree.addDimensions, TypeTree.name, TypeTree.linkDimensions, hdimensions]
    -- the dimensions of a link are no part of its name
    cases rest <;> cases arguments <;> rfl

theorem linkName_mk (name : Name) {arguments : List Argument}
    (h : ∀ a ∈ arguments, TypeTree.argumentName a.tree = a.text) :
    TypeTree.linkName (Segment.mk name arguments).link = (Segment.mk name arguments).text := by
  rw [Segment.link, Segment.text, argumentTrees_eq_map, argumentTexts_eq_map]
  cases arguments with
  | nil => simp [TypeTree.linkName, angledText]
  | cons argument rest =>
    have harguments := TypeTree.argumentsName_map h
    rw [List.map_cons, List.map_cons] at harguments ⊢
    rw [TypeTree.linkName, harguments, angledText]
    · simp only [String.append_assoc]
    · simp
    · simp

theorem ObjectType.name_tree (t : ObjectType) : t.tree.name = t.text := by
  have hall := ObjectType.induct (P := fun t => t.tree.name = t.text)
    (Q := fun s => TypeTree.linkName s.link = s.text)
    (R := fun a => TypeTree.argumentName a.tree = a.text)
  refine (hall ?_ ?_ ?_ ?_ ?_).1 t
  · intro element more
    rfl
  · intro first rest dimensions hfirst hrest
    have hsegments := TypeTree.linksName_map (List.forall_mem_cons.2 ⟨hfirst, hrest⟩)
    have hflat : TypeTree.linkDimensions (segmentLinks (first :: rest)) = 0 :=
      linkDimensions_segmentLinks _
    rw [segmentLinks_eq_map] at hflat
    rw [ObjectType.tree, ObjectType.text, segmentLinks_eq_map, segmentTexts_eq_map,
      ← List.map_cons, ← List.map_cons, name_addDimensions (by simp) hflat, hsegments]
  · exact fun name arguments h => linkName_mk name h
  · rfl
  · intro bound type htype
    cases bound <;> simp [Argument.tree, Argument.text, TypeTree.argumentName, Bound.text, htype]

theorem AnyType.name_tree (t : AnyType) : t.tree.name = t.text := by
  cases t with
  | basic type dimensions => rfl
  | object type => exact type.name_tree

end Written

/-! Reading -/

namespace Grammar

def Lacks (text : String) (ls : List Lexeme) : Prop :=
  suitAll [.word text] ls = false

structure EndsType (after : List Lexeme) : Prop where
  less : Lacks "<" after
  dot : Lacks "." after
  bracket : Lacks "[" after

def namesType (word : String) : Bool :=
  isWord word && (wordKind word == .identifier || wordKind word == .basicType)

inductive TypeHead : List Lexeme → Prop where
  | word {text : String} {sound : isWord text = true} (h : namesType text = true)
      (rest : List Lexeme) : TypeHead (.word text sound :: rest)

theorem kind_name (name : Name) : wordKind name.text = .identifier := by
  have hsound := name.sound
  unfold isIdentifier at hsound
  split at hsound
  · cases hsound
  · simp only [Bool.and_eq_true, beq_iff_eq] at hsound
    exact hsound.2

theorem typeHead_name (name : Name) (ls : List Lexeme) : TypeHead (nameLexeme name :: ls) := by
  refine .word ?_ ls
  rw [namesType, isWord_of_isIdentifier name.sound, kind_name]
  rfl

theorem typeHead_primitive (p : Primitive) (ls : List Lexeme) :
    TypeHead (primitiveLexeme p :: ls) :=
  .word (by cases p <;> decide) ls

theorem typeHead_object (t : ObjectType) (after : List Lexeme) :
    TypeHead (t.lexemes ++ after) := by
  cases t with
  | array element more => exact typeHead_primitive element _
  | named first rest dimensions =>
    obtain ⟨name, arguments⟩ := first
    exact typeHead_name name _

theorem TypeHead.lacks {ls : List Lexeme} (h : TypeHead ls) {text : String}
    (htext : namesType text = false) : Lacks text ls := by
  cases h with
  | @word head sound hhead rest =>
    have hne : head ≠ text := by
      rintro rfl
      rw [hhead] at htext
      cases htext
    simp [Lacks, suitAll, Want.suits, Lexeme.text, hne]

theorem reads_identifier (name : Name) (ls : List Lexeme) :
    Reads identifier (nameLexeme name :: ls) name.text ls := by
  have hsuits : Want.suits (nameLexeme name) (.kind .identifier) = true := by
    simp [Want.suits, nameLexeme, Lexeme.kind, kind_name]
  exact reads_take ls hsuits

theorem reads_primitive (p : Primitive) (ls : List Lexeme) :
    Reads primitive (primitiveLexeme p :: ls) p ls := by
  have hsuits : Want.suits (primitiveLexeme p) (.kind .basicType) = true := by
    cases p <;> decide
  refine (reads_take ls hsuits).bind ?_
  have hnamed : Primitive.named? (primitiveLexeme p).text = some p := by
    cases p <;> decide
  rw [hnamed]
  exact reads_pure p ls

theorem reads_bracketPairs (n : Nat) {after : List Lexeme} (h : Lacks "[" after) :
    Reads bracketPairs (bracketLexemes n ++ after) n after := by
  have hrounds : Rounds (accepts [.word "[", .word "]"]) (pure ()) (bracketLexemes n ++ after)
      (List.replicate n ()) after := by
    induction n with
    | zero =>
      refine .stop (reads_refuses ?_) (Nat.le_refl _)
      cases after with
      | nil => rfl
      | cons l ls =>
        unfold Lacks at h
        simp only [suitAll, Bool.and_true] at h
        show (Want.suits l (.word "[") && _) = false
        rw [h, Bool.false_and]
    | succ n ih =>
      have hpair : suitAll [.word "[", .word "]"] (bracketLexemes (n + 1) ++ after) = true := by
        simp [bracketLexemes, suitAll, Want.suits, Lexeme.text, Mark.text]
      refine .round (reads_accepts hpair) (reads_pure _ _) ?_ ih
      show (bracketLexemes n ++ after).length < (bracketLexemes n ++ after).length + 2
      omega
  have hlength : Reads (pure (List.replicate n ()).length : Parse Nat) after n after := by
    rw [List.length_replicate]
    exact reads_pure n after
  exact hrounds.repeatWhile.bind hlength

theorem length_le_parted (separator : Mark) {items : List (List Lexeme)} {item : List Lexeme}
    (h : item ∈ items) : item.length ≤ (parted separator items).length := by
  cases items with
  | nil => cases h
  | cons first rest =>
    rw [parted, List.length_append]
    cases List.mem_cons.1 h with
    | inl hfirst =>
      rw [hfirst]
      omega
    | inr hrest =>
      have hsub : item.length ≤ (rest.flatMap (.mark separator :: ·)).length := by
        have hmem : (Lexeme.mark separator :: item) ∈ rest.map (.mark separator :: ·) :=
          List.mem_map.2 ⟨item, hrest, rfl⟩
        have hle := (List.sublist_flatten_of_mem hmem).length_le
        rw [List.length_cons] at hle
        rw [List.flatMap_def]
        omega
      omega

inductive EndsArgument : List Lexeme → Prop where
  | comma (ls : List Lexeme) : EndsArgument (.mark .comma :: ls)
  | greater (ls : List Lexeme) : EndsArgument (.mark .greater :: ls)

theorem EndsArgument.lacks {after : List Lexeme} (h : EndsArgument after) {text : String}
    (hcomma : text ≠ ",") (hgreater : text ≠ ">") : Lacks text after := by
  cases h with
  | comma ls => simp [Lacks, suitAll, Want.suits, Lexeme.text, Mark.text, hcomma.symm]
  | greater ls => simp [Lacks, suitAll, Want.suits, Lexeme.text, Mark.text, hgreater.symm]

theorem EndsArgument.endsType {after : List Lexeme} (h : EndsArgument after) : EndsType after :=
  ⟨h.lacks (by decide) (by decide), h.lacks (by decide) (by decide),
    h.lacks (by decide) (by decide)⟩

variable {α γ : Type} {p : Parse α} {item : γ → List Lexeme} {value : γ → α} {xs : List γ}

theorem rounds_angled (hitems : ∀ x ∈ xs, ReadsItem EndsArgument p (item x) (value x))
    (after : List Lexeme) :
    Rounds ((!·) <$> acceptsWord ">") (do expect ","; p)
      ((xs.map item).flatMap (.mark .comma :: ·) ++ (.mark .greater :: after)) (xs.map value)
      after := by
  induction xs with
  | nil =>
    have haccepts : Reads (acceptsWord ">") (.mark .greater :: after) true after :=
      reads_accepts rfl
    exact .stop (haccepts.map _) (Nat.le_succ _)
  | cons x xs ih =>
    obtain ⟨hfirst, hrest⟩ := List.forall_mem_cons.1 hitems
    rw [List.map_cons, List.map_cons, List.flatMap_cons, List.cons_append, List.cons_append,
      List.append_assoc]
    have hnext := next_of_parted EndsArgument.comma (xs.map item) (EndsArgument.greater after)
    refine .round ((reads_refuses rfl).map _)
      ((reads_expect (.mark .comma) _).bind (hfirst _ hnext)) ?_ (ih hrest)
    simp only [List.length_cons, List.length_append]
    omega

theorem reads_angled (hne : xs ≠ [])
    (hitems : ∀ x ∈ xs, ReadsItem EndsArgument p (item x) (value x)) (after : List Lexeme) :
    Reads (angled p) (angledLexemes (xs.map item) ++ after) (xs.map value) after := by
  cases xs with
  | nil => exact absurd rfl hne
  | cons x xs =>
    obtain ⟨hfirst, hrest⟩ := List.forall_mem_cons.1 hitems
    rw [List.map_cons, angledLexemes, parted]
    simp only [List.cons_append, List.append_assoc, List.nil_append]
    refine (reads_expect (.mark .less) _).bind ?_
    · have hnext := next_of_parted EndsArgument.comma (xs.map item) (EndsArgument.greater after)
      refine (hfirst _ hnext).bind ?_
      exact (rounds_angled hrest after).repeatWhile.bind (reads_pure _ _)
    · simp

/-- At a level with room for all lexemes of the argument. -/
def ReadsArgument (a : Argument) : Prop :=
  ∀ n, a.lexemes.length ≤ n → ReadsItem EndsArgument (typeArgument (level n)) a.lexemes a.tree

def ReadsLink (s : Segment) : Prop :=
  ∀ n, s.lexemes.length ≤ n → ReadsItem (Lacks "<") (typeLink (level n)) s.lexemes s.link

def ReadsObject (t : ObjectType) : Prop :=
  ∀ n, t.lexemes.length ≤ n → ReadsItem EndsType (objectType (level n)) t.lexemes t.tree

theorem readsLink_mk (name : Name) (arguments : List Argument)
    (h : ∀ a ∈ arguments, ReadsArgument a) : ReadsLink (.mk name arguments) := by
  intro n hn after hafter
  rw [Segment.lexemes, argumentLexemes_eq_map, Segment.link, argumentTrees_eq_map]
  rw [Segment.lexemes, argumentLexemes_eq_map] at hn
  refine (reads_identifier name _).bind ?_
  cases arguments with
  | nil =>
    have hnone : Reads (optionalTypeArguments (level n)) after [] after :=
      (reads_seesWord hafter).bind (reads_pure _ _)
    exact hnone.bind (reads_pure _ _)
  | cons argument rest =>
    cases n with
    | zero => cases hn
    | succ n =>
      have hroom : ∀ a ∈ argument :: rest, a.lexemes.length ≤ n := by
        intro a ha
        have hle := length_le_parted .comma (List.mem_map_of_mem (f := Argument.lexemes) ha)
        rw [List.map_cons] at hle hn
        simp only [angledLexemes, List.length_cons, List.length_append] at hn
        omega
      have harguments := reads_angled (List.cons_ne_nil argument rest)
        (fun a ha => h a ha n (hroom a ha)) after
      have hsome : Reads (optionalTypeArguments (level (n + 1)))
          (angledLexemes ((argument :: rest).map Argument.lexemes) ++ after) _ after :=
        Reads.bind (reads_seesWord (b := true) rfl) harguments
      exact hsome.bind (reads_pure _ _)

theorem reads_referenceType {first : Segment} {rest : List Segment} {n : Nat}
    (hroom : (parted .dot (first.lexemes :: segmentLexemes rest)).length ≤ n)
    (hfirst : ReadsLink first) (hrest : ∀ s ∈ rest, ReadsLink s) {after : List Lexeme}
    (hless : Lacks "<" after) (hdot : Lacks "." after) :
    Reads (referenceType (level n)) (parted .dot (first.lexemes :: segmentLexemes rest) ++ after)
      (.reference (first.link :: segmentLinks rest)) after := by
  rw [segmentLexemes_eq_map, ← List.map_cons] at hroom ⊢
  rw [segmentLinks_eq_map, ← List.map_cons]
  have hitems : ∀ s ∈ first :: rest,
      ReadsItem (Lacks "<") (typeLink (level n)) s.lexemes s.link := by
    intro s hs
    have hle := length_le_parted .dot (List.mem_map_of_mem (f := Segment.lexemes) hs)
    exact List.forall_mem_cons.2 ⟨hfirst, hrest⟩ s hs n (by omega)
  have hmark : ∀ ls, Lacks "<" (.mark .dot :: ls) := fun ls => rfl
  have hlinks := reads_separated .dot hmark (List.cons_ne_nil first rest) hitems hless hdot
  exact hlinks.bind (reads_pure _ _)

theorem reads_object_named {first : Segment} {rest : List Segment} {dimensions n : Nat}
    (hroom : (ObjectType.named first rest dimensions).lexemes.length ≤ n) (hfirst : ReadsLink first)
    (hrest : ∀ s ∈ rest, ReadsLink s) {after : List Lexeme} (hafter : EndsType after) :
    Reads (do
        let stem ← referenceType (level n)
        pure (stem.addDimensions (← bracketPairs)))
      ((ObjectType.named first rest dimensions).lexemes ++ after)
      (ObjectType.named first rest dimensions).tree after := by
  rw [ObjectType.lexemes] at hroom ⊢
  rw [List.length_append] at hroom
  rw [List.append_assoc, ObjectType.tree]
  have hbrackets : Lacks "<" (bracketLexemes dimensions ++ after) ∧
      Lacks "." (bracketLexemes dimensions ++ after) := by
    cases dimensions with
    | zero => exact ⟨hafter.less, hafter.dot⟩
    | succ dimensions => exact ⟨rfl, rfl⟩
  have hroom : (parted .dot (first.lexemes :: segmentLexemes rest)).length ≤ n := by omega
  have htype := reads_referenceType hroom hfirst hrest hbrackets.1 hbrackets.2
  exact htype.bind ((reads_bracketPairs dimensions hafter.bracket).bind (reads_pure _ _))

theorem not_basic_named (first : Segment) (rest : List Segment) (dimensions : Nat)
    (after : List Lexeme) :
    suitAll [.kind .basicType] ((ObjectType.named first rest dimensions).lexemes ++ after) =
      false := by
  obtain ⟨name, arguments⟩ := first
  show (wordKind name.text == .basicType && true) = false
  rw [kind_name]
  rfl

theorem readsObject_named (first : Segment) (rest : List Segment) (dimensions : Nat)
    (hfirst : ReadsLink first) (hrest : ∀ s ∈ rest, ReadsLink s) :
    ReadsObject (.named first rest dimensions) := fun _ hn after hafter =>
  (reads_seesKind (not_basic_named first rest dimensions after)).bind
    (reads_object_named hn hfirst hrest hafter)

theorem basic_primitive (p : Primitive) (ls : List Lexeme) :
    suitAll [.kind .basicType] (primitiveLexeme p :: ls) = true := by
  cases p <;> rfl

theorem readsObject_array (element : Primitive) (more : Nat) :
    ReadsObject (.array element more) := by
  intro n _ after hafter
  refine (reads_seesKind (basic_primitive element _)).bind ?_
  refine (reads_primitive element _).bind ?_
  refine (reads_expect (.mark .openBracket) _).bind ?_
  refine (reads_expect (.mark .closeBracket) _).bind ?_
  refine (reads_bracketPairs more hafter.bracket).bind ?_
  rw [Nat.add_comm]
  exact reads_pure _ _

theorem readsArgument_any : ReadsArgument .any := by
  intro n _ after hafter
  refine Reads.bind (reads_accepts rfl) ?_
  refine (reads_refuses (hafter.lacks (by decide) (by decide))).bind ?_
  exact (reads_refuses (hafter.lacks (by decide) (by decide))).bind (reads_pure _ _)

theorem readsArgument_bounded (bound : Bound) (type : ObjectType) (h : ReadsObject type) :
    ReadsArgument (.bounded bound type) := by
  intro n hn after hafter
  rw [Argument.lexemes, List.length_append] at hn
  rw [Argument.lexemes, List.append_assoc]
  have htype := h n (by omega) after hafter.endsType
  cases bound with
  | exactly =>
    have hquestion : Lacks "?" (type.lexemes ++ after) :=
      (typeHead_object type after).lacks (by decide)
    exact (reads_refuses hquestion).bind (htype.map _)
  | extending =>
    refine Reads.bind (reads_accepts rfl) ?_
    exact Reads.bind (reads_accepts rfl) (htype.map _)
  | above =>
    refine Reads.bind (reads_accepts rfl) ?_
    refine Reads.bind (reads_refuses rfl) ?_
    exact Reads.bind (reads_accepts rfl) (htype.map _)

theorem readsLink_all (s : Segment) : ReadsLink s :=
  (ObjectType.induct readsObject_array readsObject_named readsLink_mk readsArgument_any
    readsArgument_bounded).2 s

/-- A primitive, its dimensions and nothing else. -/
theorem reads_type_basic (p : Primitive) (dimensions n : Nat) {after : List Lexeme}
    (hafter : EndsType after) :
    Reads (type (level n)) (primitiveLexeme p :: (bracketLexemes dimensions ++ after))
      (.basic p dimensions) after := by
  have hstem := (reads_primitive p (bracketLexemes dimensions ++ after)).map
    fun p => TypeTree.basic p 0
  have hdimensions : (TypeTree.basic p 0).addDimensions dimensions = .basic p dimensions := by
    rw [TypeTree.addDimensions, Nat.zero_add]
  refine (reads_seesKind (basic_primitive p _)).bind (hstem.bind ?_)
  refine (reads_bracketPairs dimensions hafter.bracket).bind ?_
  rw [hdimensions]
  exact reads_pure _ _

/-- A written type is read as its tree. -/
theorem reads_type (t : AnyType) {n : Nat} (hroom : t.lexemes.length ≤ n) :
    ReadsItem EndsType (type (level n)) t.lexemes t.tree := by
  intro after hafter
  cases t with
  | basic type dimensions => exact reads_type_basic type dimensions n hafter
  | object type =>
    cases type with
    | array element more => exact reads_type_basic element (more + 1) n hafter
    | named first rest dimensions =>
      have hfirst := readsLink_all first
      have hrest : ∀ s ∈ rest, ReadsLink s := fun s _ => readsLink_all s
      have hidentifier : suitAll [.kind .identifier]
          ((ObjectType.named first rest dimensions).lexemes ++ after) = true := by
        obtain ⟨name, arguments⟩ := first
        show (wordKind name.text == .identifier && true) = true
        rw [kind_name]
        rfl
      refine (reads_seesKind (not_basic_named first rest dimensions after)).bind ?_
      refine (reads_seesKind hidentifier).bind ?_
      exact reads_object_named hroom hfirst hrest hafter

end Grammar

end BeanForge.Source
