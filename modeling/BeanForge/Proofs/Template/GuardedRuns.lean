import BeanForge.Proofs.Template.Guards

/-!
# Runs of guarded templates

The parts of a guarded template yield the same text with further variables, and leave scopes of the
same names. A loop goes through the same items, and what is inserted is inserted in both runs.
-/

namespace BeanForge.Template

/-! Inserted templates -/

namespace Part

mutual

def inserts : Part → List Expr
  | text _ => []
  | print _ => []
  | assign _ _ => []
  | capture _ _ body => insertsIn body
  | branch alternatives otherwise => insertsInAlternatives alternatives ++ insertsIn otherwise
  | loop _ _ _ body otherwise => insertsIn body ++ insertsIn otherwise
  | insert name _ => [name]

def insertsIn : List Part → List Expr
  | [] => []
  | p :: rest => inserts p ++ insertsIn rest

def insertsInAlternatives : List (Expr × List Part) → List Expr
  | [] => []
  | (_, body) :: rest => insertsIn body ++ insertsInAlternatives rest

end

end Part

/-- Whether an expression may have a value, as far as it can be told without any variables. -/
def Expr.MayBe (v : Value) : Expr → Prop
  | .literal w => v = w
  | _ => True

/-- What is inserted under a value is the same with further variables. -/
def Insertion.Keeps (steady : String → Bool) (insertion : Insertion) (v : Value) : Prop :=
  ∀ optional bindings more, Supplies steady bindings more →
    Entails (· = ·) (insertion v optional bindings) (insertion v optional more)

/-- All that some expressions may name is inserted in the same way. -/
def Insertion.KeepsAll (steady : String → Bool) (insertion : Insertion) (names : List Expr) : Prop :=
  ∀ e ∈ names, ∀ v, e.MayBe v → insertion.Keeps steady v

/-- Nothing is inserted under a value that is not there. -/
def Insertion.IsStrict (insertion : Insertion) : Prop :=
  ∀ message optional bindings feeds,
    Fails (insertion (.absent message false) optional bindings) feeds

namespace Insertion.KeepsAll

variable {steady : String → Bool} {insertion : Insertion} {names others : List Expr}

theorem left (h : insertion.KeepsAll steady (names ++ others)) :
    insertion.KeepsAll steady names :=
  fun e he => h e (List.mem_append_left _ he)

theorem right (h : insertion.KeepsAll steady (names ++ others)) :
    insertion.KeepsAll steady others :=
  fun e he => h e (List.mem_append_right _ he)

end Insertion.KeepsAll

section Runs

variable {steady : String → Bool} {s s' : Scope}

/-! Targets -/

mutual

theorem entails_bind (target : Target) (s s' : Scope) (v : Value) :
    Entails (· = ·) (target.bind s v) (target.bind s' v) := by
  cases target with
  | name text line => exact Entails.refl _
  | member owner name => exact follows_of_fails fun _ => fails_lift rfl
  | tuple targets =>
    rw [Target.bind, Target.bind]
    exact (Entails.refl _).bind_same fun values => entails_bindAll targets s s' values

theorem entails_bindAll (targets : List Target) (s s' : Scope) (values : List Value) :
    Entails (· = ·) (Target.bindAll s targets values) (Target.bindAll s' targets values) := by
  cases targets with
  | nil => exact Entails.refl _
  | cons target rest =>
    cases values with
    | nil => exact Entails.refl _
    | cons v more =>
      rw [Target.bindAll, Target.bindAll]
      refine (entails_bind target s s' v).bind_same fun known => ?_
      exact (entails_bindAll rest s s' more).bind_same fun _ => Entails.refl _

end

theorem forall₂_named_refl (names : List (String × Value)) :
    List.Forall₂ (Named steady) names names :=
  List.forall₂_same.2 fun a _ => Named.refl a

/-- A name that is given a value is given it in both scopes. -/
theorem follows_bind {α β : Type} {P : α → Feeds → Rendered (β × Feeds) → Prop}
    {work work' : Rendering Value} {next : List (String × Value) → Rendering α}
    {next' : List (String × Value) → Rendering β} (target : Target)
    (h : Bears (Use.target steady target) work work')
    (hnext : ∀ names names', List.Forall₂ (Named steady) names names' →
      Follows P (next names) (next' names')) :
    Follows P (work >>= fun v => target.bind s v >>= next)
      (work' >>= fun v => target.bind s' v >>= next') := by
  have hsame : ∀ v, Follows P (target.bind s v >>= next) (target.bind s' v >>= next') := fun v =>
    (entails_bind target s s' v).bind_same fun names => hnext _ _ (forall₂_named_refl names)
  cases target with
  | name text line =>
    rw [Use.target] at h
    split_ifs at h with hsteady
    · exact Entails.bind_same h hsame
    · refine Entails.bind h fun v w hvw => hnext [(text, v)] [(text, w)] (.cons ⟨rfl, hvw, ?_⟩ .nil)
      exact fun hname => absurd hname hsteady
  | member owner name =>
    exact follows_of_fails fun _ => fails_bind fun _ _ _ => Fails.bind (fails_lift rfl)
  | tuple targets =>
    refine h.bind_used (fun message feeds => ?_) hsame
    exact Fails.bind (Fails.bind (fails_lift rfl))

/-! Loops -/

section Loops

variable {round round' : Round} {otherwise otherwise' : Rendering String}

theorem entails_rounds (hround : ∀ t v after, Entails (· = ·) (round t v after) (round' t v after))
    (fault : Option RenderFault) (t : Turn) (vs : List Value) :
    Entails (· = ·) (rounds round fault t vs) (rounds round' fault t vs) := by
  induction vs generalizing t with
  | nil => exact Entails.refl _
  | cons v rest ih =>
    refine (hround t v _).bind_same fun text => ?_
    exact (ih (t.next v)).bind_same fun _ => Entails.refl _

theorem entails_seriesRounds
    (hround : ∀ t v after, Entails (· = ·) (round t v after) (round' t v after))
    (number bound : Nat) (t : Turn) (v : Value) :
    Entails (· = ·) (seriesRounds round number bound t v) (seriesRounds round' number bound t v) := by
  induction bound generalizing t v with
  | zero => exact Entails.refl _
  | succ bound ih =>
    refine (hround t v _).bind_same fun text => ?_
    refine (Entails.refl (Filter.read number)).bind_same fun found => ?_
    cases found with
    | none => exact Entails.refl _
    | some w => exact (ih (t.next v) w).bind_same fun _ => Entails.refl _

theorem entails_loopText (hround : ∀ t v after, Entails (· = ·) (round t v after) (round' t v after))
    (hotherwise : Entails (· = ·) otherwise otherwise') (all : Items) :
    Entails (· = ·) (loopText all round otherwise) (loopText all round' otherwise') := by
  refine (entails_rounds hround _ _ _).bind_same fun text => ?_
  refine (Entails.refl _).bind_same fun items => ?_
  cases items.isEmpty with
  | false => exact Entails.refl _
  | true => exact hotherwise

theorem entails_seriesText
    (hround : ∀ t v after, Entails (· = ·) (round t v after) (round' t v after))
    (hotherwise : Entails (· = ·) otherwise otherwise') (number : Nat) :
    Entails (· = ·) (seriesText number round otherwise) (seriesText number round' otherwise') := by
  refine (Entails.refl get).bind_same fun feeds => ?_
  refine (Entails.refl (Filter.read number)).bind_same fun found => ?_
  cases found with
  | none => exact hotherwise
  | some v => exact entails_seriesRounds hround _ _ _ _

theorem fails_loopText {all : Items} {e : RenderFault} (h : all.fault = some e) (feeds : Feeds) :
    Fails (loopText all round otherwise) feeds := by
  have hcomplete : all.complete = .error e := by rw [Items.complete, h]
  exact fails_bind fun _ _ _ => Fails.bind (fails_lift hcomplete)

variable {holds holds' : Value → Rendering Bool}

/-- Items are selected alike until something goes wrong. -/
theorem selectedFrom_eq (h : ∀ v, Entails (· = ·) (holds v) (holds' v)) (fault : Option RenderFault)
    (vs : List Value) (feeds : Feeds) (hfault : (selectedFrom holds fault vs feeds).1.fault = none) :
    selectedFrom holds' fault vs feeds = selectedFrom holds fault vs feeds := by
  induction vs generalizing feeds with
  | nil => rfl
  | cons v rest ih =>
    cases hv : holds v feeds with
    | error e =>
      simp only [selectedFrom, hv] at hfault
      cases hfault
    | ok kept =>
      obtain ⟨keep, after⟩ := kept
      obtain ⟨_, hv', rfl⟩ := h v feeds keep after hv
      simp only [selectedFrom, hv] at hfault
      have htail : (selectedFrom holds fault rest after).1.fault = none := by
        cases keep <;> exact hfault
      simp only [selectedFrom, hv, hv', ih after htail]

theorem entails_selected (h : ∀ v, Entails (· = ·) (holds v) (holds' v))
    (hround : ∀ t v after, Entails (· = ·) (round t v after) (round' t v after))
    (hotherwise : Entails (· = ·) otherwise otherwise') (all : Items) :
    Entails (· = ·) (selected holds all >>= fun chosen => loopText chosen round otherwise)
      (selected holds' all >>= fun chosen => loopText chosen round' otherwise') := by
  intro feeds text after hbind
  obtain ⟨chosen, between, hchosen, hloop⟩ := bind_eq_ok hbind
  cases hfault : chosen.fault with
  | some e => exact absurd hloop (fails_loopText hfault between _)
  | none =>
    have hselected : selectedFrom holds all.fault all.all feeds = (chosen, between) :=
      Except.ok.inj hchosen
    have hsame := selectedFrom_eq h all.fault all.all feeds (by rw [hselected]; exact hfault)
    have hchosen' : selected holds' all feeds = .ok (chosen, between) :=
      congrArg Except.ok (hsame.trans hselected)
    rw [bind_of_ok hchosen']
    exact entails_loopText hround hotherwise chosen between text after hloop

end Loops

/-! Parts -/

def EndsWith (steady : String → Bool) (a b : Scope × String) : Prop :=
  a.1.FilledBy steady b.1 ∧ a.2 = b.2

theorem entails_refined (hs : s.FilledBy steady s') (refinements : List Refinement)
    (h : (refinements.all fun r =>
      Guard.inArguments steady (Use.argument (Filter.named? r.name)) r.arguments) = true)
    (v : Value) : Entails (· = ·) (refined s v refinements) (refined s' v refinements) := by
  induction refinements generalizing v with
  | nil => exact Entails.refl _
  | cons r rest ih =>
    obtain ⟨hfirst, hrest⟩ := Bool.and_eq_true_iff.1 h
    have happlied := entails_applyFilter
      (follows_arguments hs _ (Use.argument_ne_read _) r.arguments hfirst) v
    have hall := happlied.bind_same fun w => ih hrest w
    rw [bind_assoc, bind_assoc] at hall
    exact hall

def looped (condition : Option (Value → Rendering Bool)) (round : Round)
    (otherwise : Rendering String) (source : Source) : Rendering String :=
  match condition, source with
  | none, .items all => loopText ⟨all, none⟩ round otherwise
  | none, .series number => seriesText number round otherwise
  | some holds, source => do
    let all ← Filter.read.items source
    selected holds all >>= fun chosen => loopText chosen round otherwise

variable {insertion : Insertion}

theorem run_loop (s : Scope) (target : Target) (source : Expr) (condition : Option Expr)
    (body otherwise : List Part) :
    run insertion s (.loop target source condition body otherwise) =
      eval s source >>= fun v => (liftM v.source : Rendering Source) >>= fun found =>
        looped
          (condition.map fun e v => do
            let names ← target.bind s v
            let kept ← eval (s.enter names []) e
            kept.truth)
          (fun t v after => do
            let names ← target.bind s v
            let names ← roundNames (Part.readsIn "loop" body) names t after
            runAll insertion (s.enter names body) body)
          (runAll insertion (s.enter [] otherwise) otherwise) found >>= fun text =>
        pure (s, text) := by
  rw [run]
  refine bind_congr fun v => bind_congr fun found => ?_
  cases condition <;> cases found <;> simp only [looped, Option.map, bind_assoc]

theorem entails_looped {condition condition' : Option (Value → Rendering Bool)}
    {round round' : Round} {otherwise otherwise' : Rendering String}
    (hcondition : Option.Rel (fun holds holds' => ∀ v, Entails (· = ·) (holds v) (holds' v))
      condition condition')
    (hround : ∀ t v after, Entails (· = ·) (round t v after) (round' t v after))
    (hotherwise : Entails (· = ·) otherwise otherwise') (source : Source) :
    Entails (· = ·) (looped condition round otherwise source)
      (looped condition' round' otherwise' source) := by
  cases hcondition with
  | none =>
    cases source with
    | items all => exact entails_loopText hround hotherwise _
    | series number => exact entails_seriesText hround hotherwise number
  | some hholds =>
    exact (Entails.refl _).bind_same fun all => entails_selected hholds hround hotherwise all

/-- A loop over a series of the items of a missing value fails at its beginning. -/
theorem fails_looped {condition : Option (Value → Rendering Bool)} {round : Round}
    {otherwise : Rendering String} {number : Nat} {feeds : Feeds} (h : feeds.Barren number) :
    Fails (looped condition round otherwise (.series number)) feeds := by
  cases condition with
  | none =>
    refine fails_bind fun known between hget => ?_
    cases hget
    exact (h.fails_next _ _).bind
  | some holds =>
    obtain ⟨e, hitems⟩ := h.items_eq Filter.apply Filter.depthBound
    intro r hr
    have hloop : (selected holds ⟨[], some e⟩ >>= fun chosen => loopText chosen round otherwise)
        feeds = .ok r := (bind_of_ok hitems).symm.trans hr
    exact absurd hloop (fails_bind (fun chosen after hchosen => by
      cases hchosen
      exact fails_loopText rfl feeds) r)

theorem literal_eq_ok {v w : Value} (h : literal v = .ok w) : w = v := by
  unfold literal at h
  split at h
  · cases h
  · cases h
    rfl

theorem Guard.inPart_loop {target : Target} {source : Expr} {condition : Option Expr}
    {body otherwise : List Part}
    (h : Guard.inPart steady (.loop target source condition body otherwise) = true) :
    Guard.inExpr steady .read source = true ∧
      (∀ e, condition = some e → Guard.inExpr steady .used e = true) ∧
      Guard.inParts steady body = true ∧ Guard.inParts steady otherwise = true := by
  cases condition with
  | none =>
    simp only [Guard.inPart, Bool.and_eq_true] at h
    exact ⟨h.1.1.1, nofun, h.1.2, h.2⟩
  | some e =>
    simp only [Guard.inPart, Bool.and_eq_true] at h
    refine ⟨h.1.1.1, fun _ he => ?_, h.1.2, h.2⟩
    exact Option.some.inj he ▸ h.1.1.2

theorem entails_insert (hstrict : insertion.IsStrict) (hs : s.FilledBy steady s') {name : Expr}
    (h : Bears .used (eval s name) (eval s' name)) (hkeeps : insertion.KeepsAll steady [name])
    (optional : Bool) :
    Entails (EndsWith steady) (run insertion s (.insert name optional))
      (run insertion s' (.insert name optional)) := by
  have hinserted : ∀ v, name.MayBe v → Entails (EndsWith steady)
      (insertion v optional s.visible >>= fun text => pure (s, text))
      (insertion v optional s'.visible >>= fun text => pure (s', text)) := fun v hv =>
    (hkeeps name List.mem_cons_self v hv optional _ _ hs.visible).bind_same fun _ =>
      entails_pure ⟨hs, rfl⟩
  cases name with
  | literal value =>
    intro feeds a after hbind
    obtain ⟨v, between, hv, hrest⟩ := bind_eq_ok hbind
    obtain ⟨hliteral, rfl⟩ := lift_eq_ok hv
    have hsame : run insertion s' (.insert (.literal value) optional) between =
        (insertion v optional s'.visible >>= fun text => pure (s', text)) between := bind_of_ok hv
    rw [hsame]
    exact hinserted v (literal_eq_ok hliteral) between a after hrest
  | _ =>
    exact h.bind_used (fun message feeds => (hstrict message optional _ feeds).bind) fun v =>
      hinserted v trivial

mutual

theorem entails_run (hstrict : insertion.IsStrict) {s s' : Scope} (hs : s.FilledBy steady s')
    (p : Part) (h : Guard.inPart steady p = true)
    (hkeeps : insertion.KeepsAll steady p.inserts) :
    Entails (EndsWith steady) (run insertion s p) (run insertion s' p) := by
  cases p with
  | text content => exact entails_pure ⟨hs, rfl⟩
  | print value =>
    rw [Guard.inPart] at h
    refine (bears_eval hs .used value h).bind_used (fun _ _ => Fails.bind (fails_lift rfl)) ?_
    exact fun v => (Entails.refl _).bind_same fun _ => entails_pure ⟨hs, rfl⟩
  | assign target value =>
    rw [Guard.inPart] at h
    refine (Entails.refl _).bind_same fun _ => ?_
    exact follows_bind target (bears_eval hs _ value h) fun names names' hnames =>
      entails_pure ⟨hs.assignAll hnames, rfl⟩
  | capture target refinements body =>
    rw [Guard.inPart, Bool.and_eq_true] at h
    refine (entails_runIn hstrict (hs.enter .nil body) body h.2 hkeeps).bind ?_
    rintro ⟨inner, text⟩ ⟨inner', _⟩ ⟨hinner, rfl⟩
    have hrefined := entails_refined hinner refinements h.1 (.string text)
    exact follows_bind target (bears_of_same hrefined) fun names names' hnames =>
      entails_pure ⟨hs.assignAll hnames, rfl⟩
  | branch alternatives otherwise =>
    rw [Guard.inPart, Bool.and_eq_true] at h
    exact entails_runAlternatives hstrict hs (entails_runIn hstrict hs otherwise h.2 hkeeps.right)
      alternatives h.1 hkeeps.left
  | loop target source condition body otherwise =>
    have hentered : ∀ names ps, (s.enter names ps).FilledBy steady (s'.enter names ps) :=
      fun names ps => hs.enter (forall₂_named_refl names) ps
    obtain ⟨hsource, hcondition, hbody, hotherwise⟩ := Guard.inPart_loop h
    rw [run_loop, run_loop]
    refine (bears_eval hs .read source hsource).bind_read (fun _ _ => Fails.bind (fails_lift rfl))
      (fun number feeds hnumber => ?_) fun v => (Entails.refl _).bind_same fun found => ?_
    · refine fails_lift_bind fun found hfound => ?_
      cases hfound
      exact (fails_looped hnumber).bind
    · refine (entails_looped ?_ (fun t w after => ?_) ?_ found).bind_same fun text =>
        entails_pure ⟨hs, rfl⟩
      · cases condition with
        | none => exact .none
        | some e =>
          refine .some fun w => (entails_bind target s s' w).bind_same fun names => ?_
          exact (bears_eval (hentered names []) .used e (hcondition e rfl)).bind_used
            (fun _ _ => fails_lift rfl) fun _ => Entails.refl _
      · refine (entails_bind target s s' w).bind_same fun names => ?_
        refine (Entails.refl _).bind_same fun told => ?_
        exact entails_runAll hstrict (hentered told body) body hbody hkeeps.left
      · exact entails_runAll hstrict (hentered [] otherwise) otherwise hotherwise hkeeps.right
  | insert name optional =>
    rw [Guard.inPart] at h
    exact entails_insert hstrict hs (bears_eval hs .used name h) hkeeps optional

theorem entails_runIn (hstrict : insertion.IsStrict) {s s' : Scope} (hs : s.FilledBy steady s')
    (ps : List Part) (h : Guard.inParts steady ps = true)
    (hkeeps : insertion.KeepsAll steady (Part.insertsIn ps)) :
    Entails (EndsWith steady) (runIn insertion s ps) (runIn insertion s' ps) := by
  cases ps with
  | nil => exact entails_pure ⟨hs, rfl⟩
  | cons p rest =>
    rw [Guard.inParts, Bool.and_eq_true] at h
    refine (entails_run hstrict hs p h.1 hkeeps.left).bind ?_
    rintro ⟨between, first⟩ ⟨between', _⟩ ⟨hbetween, rfl⟩
    refine (entails_runIn hstrict hbetween rest h.2 hkeeps.right).bind ?_
    rintro ⟨last, others⟩ ⟨last', _⟩ ⟨hlast, rfl⟩
    exact entails_pure ⟨hlast, rfl⟩

theorem entails_runAll (hstrict : insertion.IsStrict) {s s' : Scope} (hs : s.FilledBy steady s')
    (ps : List Part) (h : Guard.inParts steady ps = true)
    (hkeeps : insertion.KeepsAll steady (Part.insertsIn ps)) :
    Entails (· = ·) (runAll insertion s ps) (runAll insertion s' ps) := by
  cases ps with
  | nil => exact Entails.refl _
  | cons p rest =>
    rw [Guard.inParts, Bool.and_eq_true] at h
    refine (entails_run hstrict hs p h.1 hkeeps.left).bind ?_
    rintro ⟨between, first⟩ ⟨between', _⟩ ⟨hbetween, rfl⟩
    exact (entails_runAll hstrict hbetween rest h.2 hkeeps.right).bind_same fun _ =>
      Entails.refl _

theorem entails_runAlternatives (hstrict : insertion.IsStrict) {s s' : Scope}
    (hs : s.FilledBy steady s') {otherwise otherwise' : Rendering (Scope × String)}
    (hotherwise : Entails (EndsWith steady) otherwise otherwise')
    (alternatives : List (Expr × List Part)) (h : Guard.inAlternatives steady alternatives = true)
    (hkeeps : insertion.KeepsAll steady (Part.insertsInAlternatives alternatives)) :
    Entails (EndsWith steady) (runAlternatives insertion s otherwise alternatives)
      (runAlternatives insertion s' otherwise' alternatives) := by
  cases alternatives with
  | nil => exact hotherwise
  | cons alternative rest =>
    obtain ⟨condition, body⟩ := alternative
    rw [Guard.inAlternatives, Bool.and_eq_true, Bool.and_eq_true] at h
    refine (bears_eval hs .used condition h.1.1).bind_used
      (fun _ _ => Fails.bind (fails_lift rfl)) fun v => ?_
    refine (Entails.refl _).bind_same fun b => ?_
    cases b with
    | true => exact entails_runIn hstrict hs body h.1.2 hkeeps.left
    | false => exact entails_runAlternatives hstrict hs hotherwise rest h.2 hkeeps.right

end

end Runs

end BeanForge.Template
