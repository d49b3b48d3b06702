import BeanForge.Proofs.Template.MoreNames

/-!
# Guarded templates

A check that a template never hides whether a variable is there: what may be missing stands only
where its absence makes rendering fail. Further variables do not change what a guarded template
yields, once it yields a text without them.
-/

namespace BeanForge.Template

/-- What becomes of the value of an expression at once. -/
inductive Use where
  /-- It may be put where its absence is not noticed. -/
  | hidden
  /-- It is kept under a name, or looked for among others. -/
  | kept
  /-- Something is done with it that fails if it is not there. -/
  | used
  /-- Its items are read. -/
  | read
  deriving DecidableEq

namespace Use

def index : Use → Use
  | hidden | kept => hidden
  | used | read => used

def first : List (Comparison × Expr) → Use
  | [] => kept
  | (how, _) :: _ => if how = .within ∨ how = .notWithin then kept else used

def target (steady : String → Bool) : Target → Use
  | .name text _ => if steady (Text.plainName text) then hidden else kept
  | _ => used

def areLiterals (arguments : List (Option String × Expr)) : Bool :=
  arguments.all fun
    | (_, .literal _) => true
    | _ => false

def input (filter : Option Filter) (arguments : List (Option String × Expr)) (use : Use) : Use :=
  match filter with
  | none => used
  | some f =>
    if f.isTolerant then
      if f = .map ∧ use = read ∧ areLiterals arguments = true then read else hidden
    else if f.readsItems ∧ areLiterals arguments = true then read else used

def argument : Option Filter → Use
  | none => used
  | some f => if f.isTolerant then hidden else used

end Use

def Value.isCommonMember (name : String) : Bool :=
  ((absent "" false).feature? name).isSome

/-! Checks -/

namespace Guard

variable (steady : String → Bool)

mutual

/-- Whether the absence of a variable is noticed where an expression has a use. -/
def inExpr (use : Use) : Expr → Bool
  | .literal _ => true
  | .name text => use != .hidden || steady (Text.plainName text)
  | .tuple items => inExprs .hidden items
  | .list items => inExprs .hidden items
  | .member owner name => inExpr (if Value.isCommonMember name then .hidden else .used) owner
  | .item owner index => inExpr .used owner && inExpr use.index index
  | .call _ _ => true
  | .filter input name arguments _ =>
    inExpr (Use.input (Filter.named? name) arguments use) input &&
      inArguments (Use.argument (Filter.named? name)) arguments
  | .test input _ arguments _ => inExpr .hidden input && inArguments .hidden arguments
  | .negative operand => inExpr .used operand
  | .positive operand => inExpr .used operand
  | .inverse operand => inExpr .used operand
  | .arithmetic operator left right =>
    inExpr .used left && inExpr (if operator = .remainder then .hidden else .used) right
  | .concatenation parts => inExprs .used parts
  | .comparison first others => inExpr (Use.first others) first && inOthers others
  | .both left right => inExpr .used left && inExpr use right
  | .either left right => inExpr .used left && inExpr use right
  | .choice condition value otherwise _ =>
    inExpr .used condition && inExpr use value && (match otherwise with
      | some e => inExpr use e
      | none => true)

def inExprs (use : Use) : List Expr → Bool
  | [] => true
  | e :: rest => inExpr use e && inExprs use rest

/-- Only the first argument has a use, if it is given by position. -/
def inArguments (use : Use) : List (Option String × Expr) → Bool
  | [] => true
  | (label, e) :: rest =>
    inExpr (if label.isNone then use else .hidden) e && inArguments .hidden rest

def inOthers : List (Comparison × Expr) → Bool
  | [] => true
  | (_, e) :: rest => inExpr .used e && inOthers rest

end

mutual

def inPart : Part → Bool
  | .text _ => true
  | .print value => inExpr steady .used value
  | .assign target value => inExpr steady (Use.target steady target) value
  | .capture _ refinements body =>
    (refinements.all fun r =>
      inArguments steady (Use.argument (Filter.named? r.name)) r.arguments) && inParts body
  | .branch alternatives otherwise => inAlternatives alternatives && inParts otherwise
  | .loop _ source condition body otherwise =>
    inExpr steady .read source && (match condition with
      | some e => inExpr steady .used e
      | none => true) && inParts body && inParts otherwise
  | .insert name _ => inExpr steady .used name

def inParts : List Part → Bool
  | [] => true
  | p :: rest => inPart p && inParts rest

def inAlternatives : List (Expr × List Part) → Bool
  | [] => true
  | (condition, body) :: rest =>
    inExpr steady .used condition && inParts body && inAlternatives rest

end

end Guard

/-! Uses of values -/

/-- What the value of an expression in some use leaves to what it is where more values are there. -/
def Use.Allows (use : Use) (v : Value) (after : Feeds) (outcome : Rendered (Value × Feeds)) : Prop :=
  match use with
  | .hidden => Ends (· = ·) v after outcome
  | .kept => Ends Value.FilledBy v after outcome
  | .used => (∃ message, v = .absent message false) ∨ Ends (· = ·) v after outcome
  | .read => (∃ message, v = .absent message false) ∨
    (∃ number, v = .series number ∧ after.Barren number) ∨ Ends (· = ·) v after outcome

abbrev Bears (use : Use) : Rendering Value → Rendering Value → Prop :=
  Follows use.Allows

section Uses

variable {α β : Type} {P : α → Feeds → Rendered (β × Feeds) → Prop} {use : Use}
variable {work work' : Rendering Value} {next : Value → Rendering α} {next' : Value → Rendering β}

theorem Use.allows_of_same {v : Value} {after : Feeds} {outcome : Rendered (Value × Feeds)}
    (h : Ends (· = ·) v after outcome) : use.Allows v after outcome := by
  cases use with
  | hidden => exact h
  | kept =>
    obtain ⟨w, houtcome, rfl⟩ := h
    exact ⟨v, houtcome, .refl v⟩
  | used => exact .inr h
  | read => exact .inr (.inr h)

/-- A value that is the same in any case may be used in any way. -/
theorem bears_of_same (h : Entails (· = ·) work work') : Bears use work work' :=
  fun feeds v after hwork => Use.allows_of_same (h feeds v after hwork)

theorem Bears.bind_used (h : Bears .used work work')
    (hmissing : ∀ message feeds, Fails (next (.absent message false)) feeds)
    (hnext : ∀ v, Follows P (next v) (next' v)) : Follows P (work >>= next) (work' >>= next') := by
  intro feeds a after hbind
  obtain ⟨v, between, hwork, hrest⟩ := bind_eq_ok hbind
  rcases h feeds v between hwork with ⟨message, rfl⟩ | ⟨_, hwork', rfl⟩
  · exact absurd hrest (hmissing message between _)
  · rw [bind_of_ok hwork']
    exact hnext v between a after hrest

theorem Bears.bind_read (h : Bears .read work work')
    (hmissing : ∀ message feeds, Fails (next (.absent message false)) feeds)
    (hbarren : ∀ number feeds, feeds.Barren number → Fails (next (.series number)) feeds)
    (hnext : ∀ v, Follows P (next v) (next' v)) : Follows P (work >>= next) (work' >>= next') := by
  intro feeds a after hbind
  obtain ⟨v, between, hwork, hrest⟩ := bind_eq_ok hbind
  rcases h feeds v between hwork with ⟨message, rfl⟩ | ⟨number, rfl, hnumber⟩ | ⟨_, hwork', rfl⟩
  · exact absurd hrest (hmissing message between _)
  · exact absurd hrest (hbarren number between hnumber _)
  · rw [bind_of_ok hwork']
    exact hnext v between a after hrest

end Uses

/-! Expressions -/

/-- The values of expressions in a row are the same, unless one of them is missing in a use. -/
def Use.AllowsAll (use : Use) (vs : List Value) (after : Feeds)
    (outcome : Rendered (List Value × Feeds)) : Prop :=
  (use ≠ .hidden ∧ ∃ message, .absent message false ∈ vs) ∨ Ends (· = ·) vs after outcome

/-- The arguments are the same, unless the first is missing in a use. -/
def Use.AllowsArguments (use : Use) (given : List (Option String × Value)) (after : Feeds)
    (outcome : Rendered (List (Option String × Value) × Feeds)) : Prop :=
  (use ≠ .hidden ∧ ∃ message rest, given = (none, .absent message false) :: rest) ∨
    Ends (· = ·) given after outcome

namespace Use

variable {use : Use} {v w : Value} {after : Feeds} {outcome : Rendered (Value × Feeds)}

theorem allows_of_filledBy (huse : use ≠ .hidden) (h : v.FilledBy w) :
    use.Allows v after (.ok (w, after)) := by
  rcases h with rfl | hmissing
  · exact allows_of_same ⟨v, rfl, rfl⟩
  · cases use with
    | hidden => exact absurd rfl huse
    | kept => exact ⟨w, rfl, .inr hmissing⟩
    | used => exact .inl hmissing
    | read => exact .inl hmissing

theorem missing_or_same (huse : use ≠ .read) (h : use.Allows v after outcome) :
    (use ≠ .hidden ∧ ∃ message, v = .absent message false) ∨ Ends (· = ·) v after outcome := by
  cases use with
  | hidden => exact .inr h
  | kept =>
    obtain ⟨w, houtcome, rfl | hmissing⟩ := h
    · exact .inr ⟨v, houtcome, rfl⟩
    · exact .inl ⟨nofun, hmissing⟩
  | used => exact h.imp_left fun hmissing => ⟨nofun, hmissing⟩
  | read => exact absurd rfl huse

theorem argument_ne_read (filter : Option Filter) : Use.argument filter ≠ .read := by
  cases filter with
  | none => nofun
  | some f => cases f <;> nofun

end Use

theorem fails_refuseCall (function : Value) (feeds : Feeds) :
    Fails (liftM (refuseCall function) : Rendering Value) feeds := by
  cases function <;> exact fails_lift rfl

theorem Value.concatenation_missing {vs : List Value} {message : String}
    (h : .absent message false ∈ vs) : ∃ e, Value.concatenation vs = .error e := by
  have htexts : ∃ e, vs.mapM Value.text = .error e := by
    induction vs with
    | nil => cases h
    | cons v rest ih =>
      rw [List.mapM_cons]
      cases hv : v.text with
      | error e => exact ⟨e, rfl⟩
      | ok text =>
        rcases List.mem_cons.1 h with rfl | hrest
        · cases hv
        · obtain ⟨e, he⟩ := ih hrest
          exact ⟨e, by rw [he]; rfl⟩
  obtain ⟨e, he⟩ := htexts
  exact ⟨e, by rw [Value.concatenation, he]; rfl⟩

section Expressions

variable {steady : String → Bool} {s s' : Scope} {use : Use}

theorem Use.AllowsArguments.same {given : List (Option String × Value)} {after : Feeds}
    {outcome : Rendered (List (Option String × Value) × Feeds)}
    (h : Use.hidden.AllowsArguments given after outcome) : Ends (· = ·) given after outcome :=
  h.resolve_left fun hmissing => hmissing.1 rfl

theorem Use.AllowsAll.same {vs : List Value} {after : Feeds}
    {outcome : Rendered (List Value × Feeds)} (h : Use.hidden.AllowsAll vs after outcome) :
    Ends (· = ·) vs after outcome :=
  h.resolve_left fun hmissing => hmissing.1 rfl

theorem bears_name (hs : s.FilledBy steady s') {text : String}
    (h : (use != .hidden || steady (Text.plainName text)) = true) :
    Bears use (eval s (.name text)) (eval s' (.name text)) := by
  have hnamed := hs.value text
  intro feeds v after hpure
  cases hpure
  show use.Allows (s.value text) feeds (.ok (s'.value text, feeds))
  by_cases huse : use = .hidden
  · have hsteady : steady (Text.plainName text) = true := by simpa [huse] using h
    exact Use.allows_of_same ⟨_, rfl, (hnamed.same hsteady).symm⟩
  · exact Use.allows_of_filledBy huse hnamed.value

theorem entails_member {owner : Expr} {name : String}
    (h : Bears (if Value.isCommonMember name then .hidden else .used) (eval s owner)
      (eval s' owner)) :
    Entails (· = ·) (eval s (.member owner name)) (eval s' (.member owner name)) := by
  cases hcommon : Value.isCommonMember name with
  | true =>
    rw [hcommon] at h
    exact Entails.bind_same h fun _ => Entails.refl _
  | false =>
    rw [hcommon] at h
    have hfeature : (Value.absent "" false).feature? name = none :=
      Option.not_isSome_iff_eq_none.1 (Bool.not_eq_true _ ▸ hcommon)
    exact Bears.bind_used h (fun _ _ => fails_lift (Value.member_absent hfeature)) fun _ =>
      Entails.refl _

theorem bears_item {owner index : Expr} (howner : Bears .used (eval s owner) (eval s' owner))
    (hindex : Bears use.index (eval s index) (eval s' index)) :
    Bears use (eval s (.item owner index)) (eval s' (.item owner index)) := by
  refine howner.bind_used (fun _ _ => ?_) fun v => ?_
  · exact fails_bind fun i _ _ => fails_lift (Value.item_absent_owner i)
  · intro feeds a after hbind
    obtain ⟨i, between, hwork, hitem⟩ := bind_eq_ok hbind
    rcases Use.missing_or_same (by cases use <;> nofun) (hindex feeds i between hwork) with
      ⟨huse, message, rfl⟩ | ⟨_, hwork', rfl⟩
    · obtain ⟨hok, rfl⟩ := lift_eq_ok hitem
      obtain ⟨reason, rfl⟩ := Value.item_absent_index hok
      cases use with
      | hidden | kept => exact absurd rfl huse
      | used | read => exact .inl ⟨reason, rfl⟩
    · rw [bind_of_ok hwork']
      exact Use.allows_of_same ⟨a, hitem, rfl⟩

theorem entails_arithmetic {operator : Operator} {left right : Expr}
    (hleft : Bears .used (eval s left) (eval s' left))
    (hright : Bears (if operator = .remainder then .hidden else .used) (eval s right)
      (eval s' right)) :
    Entails (· = ·) (eval s (.arithmetic operator left right))
      (eval s' (.arithmetic operator left right)) := by
  refine hleft.bind_used (fun _ _ => ?_) fun v => ?_
  · exact fails_bind fun w _ _ => fails_lift (Value.arithmetic_absent_left operator w)
  · by_cases hremainder : operator = .remainder
    · rw [if_pos hremainder] at hright
      exact Entails.bind_same hright fun _ => Entails.refl _
    · rw [if_neg hremainder] at hright
      refine hright.bind_used (fun message _ => ?_) fun _ => Entails.refl _
      obtain ⟨_, he⟩ := Value.arithmetic_absent_right hremainder message v
      exact fails_lift he

theorem entails_concatenation {parts : List Expr}
    (h : Follows (Use.AllowsAll .used) (evalAll s parts) (evalAll s' parts)) :
    Entails (· = ·) (eval s (.concatenation parts)) (eval s' (.concatenation parts)) := by
  intro feeds a after hbind
  obtain ⟨vs, between, hwork, htext⟩ := bind_eq_ok hbind
  rcases h feeds vs between hwork with ⟨_, message, hmem⟩ | ⟨_, hwork', rfl⟩
  · obtain ⟨_, he⟩ := Value.concatenation_missing hmem
    exact absurd htext (fails_lift he _)
  · exact ⟨a, (bind_of_ok hwork').trans htext, rfl⟩

/-- What comes after a condition is taken by the same value. -/
theorem bears_truth {condition : Expr} {next next' : Value → Bool → Rendering Value}
    (h : Bears .used (eval s condition) (eval s' condition))
    (hnext : ∀ v b, Bears use (next v b) (next' v b)) :
    Bears use (eval s condition >>= fun v => (liftM v.truth : Rendering Bool) >>= next v)
      (eval s' condition >>= fun v => (liftM v.truth : Rendering Bool) >>= next' v) :=
  h.bind_used (fun _ _ => Fails.bind (fails_lift rfl)) fun v =>
    (Entails.refl _).bind_same fun b => hnext v b

/-! Filters -/

theorem fails_applyFilter {name : String} (hname : Filter.named? name = none) (v : Value)
    (given : List (Option String × Value)) (feeds : Feeds) :
    Fails (applyFilter name v given) feeds := by
  unfold applyFilter
  rw [hname]
  exact fails_lift rfl

theorem applyFilter_eq {name : String} {f : Filter} (hname : Filter.named? name = some f)
    (v : Value) (given : List (Option String × Value)) :
    applyFilter name v given = f.apply v (unnamed given) (named given) := by
  unfold applyFilter
  rw [hname]

/-- A filter that is given the same value and the same arguments makes the same of it. -/
theorem entails_applyFilter {name : String} {arguments : List (Option String × Expr)}
    (h : Follows (Use.AllowsArguments (Use.argument (Filter.named? name)))
      (evalArguments s arguments) (evalArguments s' arguments)) (v : Value) :
    Entails (· = ·) (evalArguments s arguments >>= applyFilter name v)
      (evalArguments s' arguments >>= applyFilter name v) := by
  intro feeds a after hbind
  obtain ⟨given, between, hwork, happly⟩ := bind_eq_ok hbind
  rcases h feeds given between hwork with ⟨huse, message, rest, rfl⟩ | ⟨_, hwork', rfl⟩
  · cases hname : Filter.named? name with
    | none => exact absurd happly (fails_applyFilter hname v _ between _)
    | some f =>
      rw [hname] at huse
      have htolerant : f.isTolerant = false := by
        by_contra hnot
        exact huse (if_pos (Bool.not_eq_false _ ▸ hnot))
      rw [applyFilter_eq hname] at happly
      exact absurd happly (Filter.fails_apply_argument htolerant v _ _ between _)
  · exact ⟨a, (bind_of_ok hwork').trans happly, rfl⟩

theorem feeds_of_literals {arguments : List (Option String × Expr)}
    (h : Use.areLiterals arguments = true) {feeds after : Feeds}
    {given : List (Option String × Value)}
    (hwork : evalArguments s arguments feeds = .ok (given, after)) : after = feeds := by
  induction arguments generalizing feeds given with
  | nil =>
    cases hwork
    rfl
  | cons argument rest ih =>
    obtain ⟨label, e⟩ := argument
    obtain ⟨hliteral, hrest⟩ := Bool.and_eq_true_iff.1 h
    cases e with
    | literal value =>
      obtain ⟨v, between, hfirst, hothers⟩ := bind_eq_ok hwork
      obtain ⟨_, rfl⟩ := lift_eq_ok hfirst
      obtain ⟨vs, last, hlast, hpure⟩ := bind_eq_ok hothers
      cases hpure
      exact ih hrest hlast
    | _ => cases hliteral

theorem openSeries_eq_ok {input v : Value} {given : List Value} {named : List (String × Value)}
    {feeds after : Feeds} (h : Filter.openSeries input given named feeds = .ok (v, after)) :
    v = .series feeds.length ∧ after = feeds ++ [.waiting input given named] := by
  have hsigned : Filter.map.signature.hidden ++ Filter.map.signature.parameters =
      ["context", "value"] := rfl
  cases hfound : named.find? fun e => ["context", "value"].contains e.1 with
  | some e =>
    simp only [Filter.openSeries, hsigned, hfound] at h
    cases h
  | none =>
    simp only [Filter.openSeries, hsigned, hfound] at h
    cases h
    exact ⟨rfl, rfl⟩

/-- A series of the items of a missing value is missed when it is read. -/
theorem bears_map {input : Expr} {name : String} {arguments : List (Option String × Expr)}
    {line : Nat} (hname : Filter.named? name = some .map)
    (hliterals : Use.areLiterals arguments = true)
    (hinput : Bears .read (eval s input) (eval s' input))
    (harguments : Follows (Use.AllowsArguments (Use.argument (Filter.named? name)))
      (evalArguments s arguments) (evalArguments s' arguments)) :
    Bears .read (eval s (.filter input name arguments line))
      (eval s' (.filter input name arguments line)) := by
  intro feeds a after hbind
  obtain ⟨v, between, hwork, hrest⟩ := bind_eq_ok hbind
  obtain ⟨given, last, hgiven, happly⟩ := bind_eq_ok hrest
  obtain rfl := feeds_of_literals hliterals hgiven
  rw [applyFilter_eq hname] at happly
  obtain ⟨rfl, rfl⟩ := openSeries_eq_ok happly
  have hnew : ∀ feed, (last ++ [feed])[last.length]? = some feed :=
    fun feed => List.getElem?_concat_length
  rcases hinput feeds v last hwork with ⟨message, rfl⟩ | ⟨number, rfl, hnumber⟩ | ⟨_, hwork', rfl⟩
  · exact .inr (.inl ⟨_, rfl, .missing (hnew _)⟩)
  · exact .inr (.inl ⟨_, rfl, .taking (hnew _) hnumber.lt_length (hnumber.append _)⟩)
  · refine .inr (.inr ?_)
    show Ends _ _ _ ((eval s' input >>= fun v => evalArguments s' arguments >>= applyFilter name v)
      feeds)
    rw [bind_of_ok hwork']
    exact entails_applyFilter harguments v last _ _ hrest

theorem bears_filter {input : Expr} {name : String} {arguments : List (Option String × Expr)}
    {line : Nat}
    (hinput : Bears (Use.input (Filter.named? name) arguments use) (eval s input) (eval s' input))
    (harguments : Follows (Use.AllowsArguments (Use.argument (Filter.named? name)))
      (evalArguments s arguments) (evalArguments s' arguments)) :
    Bears use (eval s (.filter input name arguments line))
      (eval s' (.filter input name arguments line)) := by
  have hsame : ∀ v, Bears use (evalArguments s arguments >>= applyFilter name v)
      (evalArguments s' arguments >>= applyFilter name v) :=
    fun v => bears_of_same (entails_applyFilter harguments v)
  cases hname : Filter.named? name with
  | none =>
    exact follows_of_fails fun _ => fails_bind fun _ _ _ => fails_bind fun _ _ _ =>
      fails_applyFilter hname _ _ _
  | some f =>
    have hmissing : f.isTolerant = false → ∀ message feeds,
        Fails (evalArguments s arguments >>= applyFilter name (.absent message false)) feeds := by
      intro htolerant message feeds
      refine fails_bind fun given after _ => ?_
      rw [applyFilter_eq hname]
      exact Filter.fails_apply_missing htolerant _ _ _
    rw [hname, Use.input] at hinput
    split_ifs at hinput with htolerant hread hreads
    · obtain ⟨rfl, rfl, hliterals⟩ := hread
      exact bears_map hname hliterals hinput harguments
    · exact Entails.bind_same hinput hsame
    · refine hinput.bind_read (hmissing (Bool.not_eq_true _ ▸ htolerant)) ?_ hsame
      intro number feeds hnumber
      refine fails_bind fun given after hgiven => ?_
      obtain rfl := feeds_of_literals hreads.2 hgiven
      rw [applyFilter_eq hname]
      exact Filter.fails_apply_barren hreads.1 hnumber _ _
    · exact hinput.bind_used (hmissing (Bool.not_eq_true _ ▸ htolerant)) hsame

/-! All forms of expressions -/

/-- The first of some values in a row of comparisons is compared, if it is missed there. -/
theorem fails_compareAll {how : Comparison} {e : Expr} {others : List (Comparison × Expr)}
    (h : how ≠ .within ∧ how ≠ .notWithin) (message : String) (feeds : Feeds) :
    Fails (compareAll s (.absent message false) ((how, e) :: others)) feeds :=
  fails_bind fun right between _ => (Value.comparison_absent_left h right between).bind

theorem entails_comparison {first : Expr} {others : List (Comparison × Expr)}
    (hfirst : Bears (Use.first others) (eval s first) (eval s' first))
    (hothers : ∀ v w, v.FilledBy w →
      Entails (· = ·) (compareAll s v others) (compareAll s' w others)) :
    Entails (· = ·) (eval s (.comparison first others)) (eval s' (.comparison first others)) := by
  have hnext : ∀ v w, v.FilledBy w → Entails (· = ·)
      (compareAll s v others >>= fun b => pure (Value.bool b))
      (compareAll s' w others >>= fun b => pure (Value.bool b)) :=
    fun v w hvw => (hothers v w hvw).bind_same fun _ => Entails.refl _
  cases others with
  | nil => exact Entails.bind hfirst hnext
  | cons other rest =>
    obtain ⟨how, e⟩ := other
    rw [Use.first] at hfirst
    split_ifs at hfirst with hwithin
    · exact Entails.bind hfirst hnext
    · exact hfirst.bind_used
        (fun message feeds => (fails_compareAll (not_or.1 hwithin) message feeds).bind)
        fun v => hnext v v (.refl v)

mutual

theorem bears_eval (hs : s.FilledBy steady s') (use : Use) (e : Expr)
    (h : Guard.inExpr steady use e = true) : Bears use (eval s e) (eval s' e) := by
  cases e with
  | literal value => exact bears_of_same (Entails.refl _)
  | name text =>
    rw [Guard.inExpr] at h
    exact bears_name hs h
  | tuple items | list items =>
    rw [Guard.inExpr] at h
    have hitems : Entails (· = ·) (evalAll s items) (evalAll s' items) :=
      fun feeds vs after hwork => (follows_all hs .hidden nofun items h feeds vs after hwork).same
    exact bears_of_same (hitems.bind_same fun _ => Entails.refl _)
  | member owner name =>
    rw [Guard.inExpr] at h
    exact bears_of_same (entails_member (bears_eval hs _ owner h))
  | item owner index =>
    rw [Guard.inExpr, Bool.and_eq_true] at h
    exact bears_item (bears_eval hs _ owner h.1) (bears_eval hs _ index h.2)
  | call function arguments =>
    exact follows_of_fails fun _ => fails_bind fun f _ _ => fails_bind fun _ _ _ =>
      fails_refuseCall f _
  | filter input name arguments line =>
    rw [Guard.inExpr, Bool.and_eq_true] at h
    exact bears_filter (bears_eval hs _ input h.1)
      (follows_arguments hs _ (Use.argument_ne_read _) arguments h.2)
  | test input name arguments line =>
    rw [Guard.inExpr, Bool.and_eq_true] at h
    have harguments : Entails (· = ·) (evalArguments s arguments) (evalArguments s' arguments) :=
      fun feeds given after hwork =>
        (follows_arguments hs .hidden nofun arguments h.2 feeds given after hwork).same
    refine bears_of_same (Entails.bind_same (bears_eval hs .hidden input h.1) fun _ => ?_)
    exact harguments.bind_same fun _ => Entails.refl _
  | negative operand | positive operand =>
    rw [Guard.inExpr] at h
    exact bears_of_same ((bears_eval hs _ operand h).bind_used (fun _ _ => fails_lift rfl) fun _ =>
      Entails.refl _)
  | inverse operand =>
    rw [Guard.inExpr] at h
    exact bears_truth (bears_eval hs _ operand h) fun _ _ => bears_of_same (Entails.refl _)
  | arithmetic operator left right =>
    rw [Guard.inExpr, Bool.and_eq_true] at h
    exact bears_of_same (entails_arithmetic (bears_eval hs _ left h.1) (bears_eval hs _ right h.2))
  | concatenation parts =>
    rw [Guard.inExpr] at h
    exact bears_of_same (entails_concatenation (follows_all hs .used nofun parts h))
  | comparison first others =>
    rw [Guard.inExpr, Bool.and_eq_true] at h
    exact bears_of_same (entails_comparison (bears_eval hs _ first h.1) fun v w hvw =>
      entails_compareAll hs others h.2 hvw)
  | both left right =>
    rw [Guard.inExpr, Bool.and_eq_true] at h
    refine bears_truth (bears_eval hs _ left h.1) fun v b => ?_
    cases b with
    | false => exact bears_of_same (Entails.refl _)
    | true => exact bears_eval hs use right h.2
  | either left right =>
    rw [Guard.inExpr, Bool.and_eq_true] at h
    refine bears_truth (bears_eval hs _ left h.1) fun v b => ?_
    cases b with
    | false => exact bears_eval hs use right h.2
    | true => exact bears_of_same (Entails.refl _)
  | choice condition value otherwise line =>
    cases otherwise with
    | some e =>
      rw [Guard.inExpr, Bool.and_eq_true, Bool.and_eq_true] at h
      refine bears_truth (bears_eval hs _ condition h.1.1) fun _ b => ?_
      cases b with
      | true => exact bears_eval hs use value h.1.2
      | false => exact bears_eval hs use e h.2
    | none =>
      rw [Guard.inExpr, Bool.and_eq_true, Bool.and_eq_true] at h
      refine bears_truth (bears_eval hs _ condition h.1.1) fun _ b => ?_
      cases b with
      | true => exact bears_eval hs use value h.1.2
      | false =>
        rw [hs.label]
        exact bears_of_same (Entails.refl _)

theorem follows_all (hs : s.FilledBy steady s') (use : Use) (huse : use ≠ .read) (es : List Expr)
    (h : Guard.inExprs steady use es = true) :
    Follows use.AllowsAll (evalAll s es) (evalAll s' es) := by
  cases es with
  | nil => exact fun feeds vs after hwork => .inr ⟨vs, hwork, rfl⟩
  | cons e rest =>
    rw [Guard.inExprs, Bool.and_eq_true] at h
    intro feeds vs after hwork
    obtain ⟨v, between, hv, hvs⟩ := bind_eq_ok hwork
    obtain ⟨others, last, hothers, hpure⟩ := bind_eq_ok hvs
    cases hpure
    rcases Use.missing_or_same huse (bears_eval hs use e h.1 feeds v between hv) with
      ⟨hhidden, message, rfl⟩ | ⟨_, hv', rfl⟩
    · exact .inl ⟨hhidden, message, List.mem_cons_self⟩
    · rcases follows_all hs use huse rest h.2 between others after hothers with
        ⟨hhidden, message, hmem⟩ | ⟨_, hothers', rfl⟩
      · exact .inl ⟨hhidden, message, List.mem_cons_of_mem _ hmem⟩
      · exact .inr ⟨v :: others, (bind_of_ok hv').trans (bind_of_ok hothers'), rfl⟩

theorem follows_arguments (hs : s.FilledBy steady s') (use : Use) (huse : use ≠ .read)
    (arguments : List (Option String × Expr)) (h : Guard.inArguments steady use arguments = true) :
    Follows use.AllowsArguments (evalArguments s arguments) (evalArguments s' arguments) := by
  cases arguments with
  | nil => exact fun feeds given after hwork => .inr ⟨given, hwork, rfl⟩
  | cons argument rest =>
    obtain ⟨label, e⟩ := argument
    rw [Guard.inArguments, Bool.and_eq_true] at h
    intro feeds given after hwork
    obtain ⟨v, between, hv, hvs⟩ := bind_eq_ok hwork
    obtain ⟨others, last, hothers, hpure⟩ := bind_eq_ok hvs
    cases hpure
    obtain ⟨_, hothers', rfl⟩ :=
      (follows_arguments hs .hidden nofun rest h.2 between others after hothers).same
    have hfirst := bears_eval hs _ e h.1 feeds v between hv
    cases label with
    | some label =>
      obtain ⟨_, hv', rfl⟩ := hfirst
      exact .inr ⟨_, (bind_of_ok hv').trans (bind_of_ok hothers'), rfl⟩
    | none =>
      rcases Use.missing_or_same huse hfirst with ⟨hhidden, message, rfl⟩ | ⟨_, hv', rfl⟩
      · exact .inl ⟨hhidden, message, others, rfl⟩
      · exact .inr ⟨_, (bind_of_ok hv').trans (bind_of_ok hothers'), rfl⟩

theorem entails_compareAll (hs : s.FilledBy steady s') (others : List (Comparison × Expr))
    (h : Guard.inOthers steady others = true) {v w : Value} (hvw : v.FilledBy w) :
    Entails (· = ·) (compareAll s v others) (compareAll s' w others) := by
  cases others with
  | nil => exact Entails.refl _
  | cons other rest =>
    obtain ⟨how, e⟩ := other
    rw [Guard.inOthers, Bool.and_eq_true] at h
    refine (bears_eval hs .used e h.1).bind_used (fun message feeds => ?_) fun right => ?_
    · exact (Value.comparison_absent_right how v feeds).bind
    · refine (Value.entails_comparison hvw how right).bind_same fun b => ?_
      cases b with
      | false => exact Entails.refl _
      | true => exact entails_compareAll hs rest h.2 (.refl right)

end

end Expressions

end BeanForge.Template
