import BeanForge.Template.Run

/-!
# What templates yield

Work on a template that gives the same value whatever series are open. Such work is put together
from that of the parts, and the rounds of a loop over fields yield one text for each field.
-/

namespace BeanForge.Template

variable {α β : Type}

theorem bind_of_ok {work : Rendering α} {next : α → Rendering β} {a : α} {feeds others : Feeds}
    (h : work feeds = .ok (a, others)) : (work >>= next) feeds = next a others := by
  show (work feeds >>= fun r => next r.1 r.2) = _
  rw [h]
  rfl

/-- The work succeeds with a value and may open or read series. -/
def Yields (work : Rendering α) (a : α) : Prop :=
  ∀ feeds, ∃ others, work feeds = .ok (a, others)

theorem yields_pure (a : α) : Yields (pure a) a := fun feeds => ⟨feeds, rfl⟩

theorem Yields.bind {work : Rendering α} {next : α → Rendering β} {a : α} {b : β}
    (h : Yields work a) (h' : Yields (next a) b) : Yields (work >>= next) b := by
  intro feeds
  obtain ⟨others, hwork⟩ := h feeds
  obtain ⟨last, hnext⟩ := h' others
  exact ⟨last, (bind_of_ok hwork).trans hnext⟩

theorem Yields.of_eq {work : Rendering α} {a b : α} (h : Yields work a) (hab : a = b) :
    Yields work b :=
  hab ▸ h

theorem yields_lift {outcome : Rendered α} {a : α} (h : outcome = .ok a) :
    Yields (liftM outcome : Rendering α) a := by
  subst h
  exact fun feeds => ⟨feeds, rfl⟩

theorem Yields.alone {work : Rendering α} {a : α} (h : Yields work a) : work.alone = .ok a := by
  obtain ⟨others, hwork⟩ := h []
  rw [Rendering.alone, hwork]
  rfl

/-! Expressions -/

section Expressions

variable {s : Scope} {e : Expr} {v w : Value}

theorem yields_name (s : Scope) (name : String) : Yields (eval s (.name name)) (s.value name) :=
  yields_pure _

theorem yields_member {name : String} (h : Yields (eval s e) v) (hm : v.member name = .ok w) :
    Yields (eval s (.member e name)) w := by
  show Yields (do (← eval s e).member name) w
  exact h.bind (yields_lift hm)

theorem yields_inverse {b : Bool} (h : Yields (eval s e) v) (ht : v.truth = .ok b) :
    Yields (eval s (.inverse e)) (.bool !b) := by
  show Yields (do pure (Value.bool !(← (← eval s e).truth))) _
  exact h.bind ((yields_lift ht).bind (yields_pure _))

theorem yields_filter {name : String} {line : Nat} {arguments : List (Option String × Expr)}
    {given : List (Option String × Value)} (h : Yields (eval s e) v)
    (hg : Yields (evalArguments s arguments) given) (hf : Yields (applyFilter name v given) w) :
    Yields (eval s (.filter e name arguments line)) w := by
  show Yields (do
    let input ← eval s e
    applyFilter name input (← evalArguments s arguments)) w
  exact h.bind (hg.bind hf)

theorem yields_no_arguments (s : Scope) : Yields (evalArguments s []) [] :=
  yields_pure _

theorem yields_choice {condition value other : Expr} {c : Value} {b : Bool} {line : Nat}
    (hc : Yields (eval s condition) c) (ht : c.truth = .ok b)
    (h : Yields (if b then eval s value else eval s other) v) :
    Yields (eval s (.choice condition value (some other) line)) v := by
  show Yields (do if ← (← eval s condition).truth then eval s value else eval s other) v
  exact hc.bind ((yields_lift ht).bind h)

end Expressions

/-! Parts -/

section Parts

variable {insertion : Insertion} {s s' : Scope} {e : Expr} {v : Value} {t u : String}

theorem yields_text {content : String} :
    Yields (run insertion s (.text content)) (s, content) :=
  yields_pure _

theorem yields_print (h : Yields (eval s e) v) (ht : v.text = .ok t) :
    Yields (run insertion s (.print e)) (s, t) := by
  show Yields (do
    let v ← eval s e
    pure (s, ← v.text)) _
  exact h.bind ((yields_lift ht).bind (yields_pure _))

theorem yields_assign {name : String} {line : Nat} (h : Yields (eval s e) v) :
    Yields (run insertion s (.assign (.name name line) e)) (s.assign name v, "") := by
  refine (yields_lift rfl).bind (h.bind ?_)
  rw [Target.bind]
  exact (yields_pure _).bind (yields_pure _)

theorem yields_runIn_nil : Yields (runIn insertion s []) (s, "") :=
  yields_pure _

theorem yields_runIn_cons {p : Part} {rest : List Part} {s'' : Scope}
    (h : Yields (run insertion s p) (s', t)) (h' : Yields (runIn insertion s' rest) (s'', u)) :
    Yields (runIn insertion s (p :: rest)) (s'', t ++ u) := by
  show Yields (run insertion s p >>= fun first => runIn insertion first.1 rest >>= fun others =>
    pure (others.1, first.2 ++ others.2)) _
  exact h.bind (h'.bind (yields_pure _))

theorem yields_runAll_nil : Yields (runAll insertion s []) "" :=
  yields_pure _

theorem yields_runAll_cons {p : Part} {rest : List Part}
    (h : Yields (run insertion s p) (s', t)) (h' : Yields (runAll insertion s' rest) u) :
    Yields (runAll insertion s (p :: rest)) (t ++ u) := by
  show Yields (run insertion s p >>= fun first => runAll insertion first.1 rest >>= fun others =>
    pure (first.2 ++ others)) _
  exact h.bind (h'.bind (yields_pure _))

/-- A branch with one condition takes its parts, or else the others. -/
theorem yields_branch {b : Bool} {body otherwise : List Part} {r : Scope × String}
    (h : Yields (eval s e) v) (ht : v.truth = .ok b)
    (hr : Yields (runIn insertion s (if b then body else otherwise)) r) :
    Yields (run insertion s (.branch [(e, body)] otherwise)) r := by
  show Yields (do
    let v ← eval s e
    if ← v.truth then runIn insertion s body else runIn insertion s otherwise) r
  refine h.bind ((yields_lift ht).bind ?_)
  cases b <;> exact hr

end Parts

/-! Loops -/

def roundOf (insertion : Insertion) (s : Scope) (target : Target) (body : List Part) : Round :=
  fun t v after => do
    let names ← target.bind s v
    let names ← roundNames (Part.readsIn "loop" body) names t after
    runAll insertion (s.enter names body) body

def fieldTexts (text : Field → List Field → String) : List Field → String
  | [] => ""
  | f :: rest => text f rest ++ fieldTexts text rest

theorem fieldTexts_eq_join (text : Field → String) (fields : List Field) :
    fieldTexts (fun f _ => text f) fields = String.join (fields.map text) := by
  induction fields with
  | nil => rfl
  | cons f rest ih => rw [fieldTexts, ih, List.map_cons, String.join_cons]

theorem yields_rounds {round : Round} {text : Field → List Field → String}
    (h : ∀ t f rest, Yields (round t (.field f) (pure ⟨rest.map .field, none⟩)) (text f rest))
    (fields : List Field) (t : Turn) :
    Yields (rounds round none t (fields.map .field)) (fieldTexts text fields) := by
  induction fields generalizing t with
  | nil => exact yields_pure _
  | cons f rest ih => exact (h t f rest).bind ((ih _).bind (yields_pure _))

theorem yields_loop {insertion : Insertion} {s : Scope} {target : Target} {source : Expr}
    {body : List Part} {fields : List Field} {text : Field → List Field → String}
    (hs : Yields (eval s source) (.tuple (fields.map .field)))
    (h : ∀ t f rest, Yields
      (roundOf insertion s target body t (.field f) (pure ⟨rest.map .field, none⟩)) (text f rest)) :
    Yields (run insertion s (.loop target source none body [])) (s, fieldTexts text fields) := by
  refine hs.bind ((yields_lift rfl).bind (Yields.bind ?_ (yields_pure _)))
  refine (yields_rounds h fields {}).bind ((yields_lift rfl).bind ?_)
  cases fields with
  | nil =>
    have hnothing : Yields (runAll insertion (s.enter [] []) []) "" := yields_runAll_nil
    exact hnothing
  | cons f rest => exact yields_pure _

end BeanForge.Template
