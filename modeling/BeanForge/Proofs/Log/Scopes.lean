import BeanForge.Log.Logger
import BeanForge.Proofs.Keyed

/-!
# Programs that log in scopes

A program opens scopes, updates their fields, logs, and may break off at any depth and be caught
further out. However it goes on, each scope that it leaves gives way to what was there before, and
each record carries the fields of its own scope: those that the scope was opened with, and what was
updated in it since.
-/

namespace BeanForge.Log

/-! What is known in a scope -/

abbrev Known := String → Option Value

def Known.over (known : Known) (more : Fields) : Known :=
  fun name => (Keyed.get? name (Keyed.update [] more)).or (known name)

def Scopes.known (s : Scopes) : Known :=
  fun name => Keyed.get? name s.current

def Subject.known (s : Subject) : Known := fun name =>
  (if name = "interface" then s.interface
    else if name = "template" then s.template
    else if name = "artifact" then s.artifact
    else none).filter (!·.isNull)

def Opening.known (outer : Known) : Opening → Known
  | surrounding => outer
  | fields start => fun name => Keyed.get? name start
  | subject s => s.known.over s.others

/-- A record that carries what is known under all names that a call does not have itself. -/
structure Record.Carries (told call : Record) (known : Known) : Prop where
  own : { told with fields := call.fields, context := call.context } = call
  fields : ∀ name, Keyed.get? name told.fields =
    if call.has name then Keyed.get? name call.fields else known name

/-! Programs -/

inductive Raised where
  | refused (why : Refusal)
  | thrown (what : String)

inductive Program where
  | idle
  | inOrder (first next : Program)
  | update (more : Fields)
  | log (call : Record)
  | raise (what : Raised)
  /-- Go on with a handler if the body is broken off by something that is caught. -/
  | attempt (body : Program) (catches : Raised → Bool) (handler : Raised → Program)
  | scope (opening : Opening) (more : Fields) (body : Program)
  /-- Go on according to the fields at hand. -/
  | look (next : Fields → Program)

inductive Step where
  | entered (opening : Opening) (more : Fields)
  | left
  | updated (more : Fields)
  /-- A call that is not dropped, and the record that is written for it. -/
  | logged (call told : Record)

structure Course where
  steps : List Step := []
  scopes : Scopes
  raised : Option Raised := none

def Course.andThen (first next : Course) : Course :=
  { next with steps := first.steps ++ next.steps }

namespace Program

/-- A scope is left however its body ends. -/
def run (config : Option Config) : Program → Scopes → Course
  | idle, s => { scopes := s }
  | inOrder first next, s =>
    let course := first.run config s
    match course.raised with
    | none => course.andThen (next.run config course.scopes)
    | some _ => course
  | update more, s => { steps := [.updated more], scopes := s.update more }
  | log call, s =>
    match accept config { call with context := s.current } with
    | .error why => { scopes := s, raised := some (.refused why) }
    | .ok none => { scopes := s }
    | .ok (some r) => { steps := [.logged r r.merged], scopes := s }
  | raise what, s => { scopes := s, raised := some what }
  | attempt body catches handler, s =>
    let course := body.run config s
    match course.raised with
    | none => course
    | some what =>
      if catches what then course.andThen ((handler what).run config course.scopes) else course
  | scope opening more body, s =>
    match s.enter? opening more with
    | .error why => { scopes := s, raised := some (.refused why) }
    | .ok inside =>
      let course := body.run config inside
      { course with
        steps := .entered opening more :: (course.steps ++ [.left])
        scopes := course.scopes.leave }
  | look next, s => (next s.current).run config s

end Program

/-- Steps in which every scope that is entered is left, after which all is known again that was
known before; a record carries what is known where it is logged. -/
inductive Bracketed : Known → List Step → Known → Prop where
  | nil (known : Known) : Bracketed known [] known
  | updated {known after : Known} {more : Fields} {rest : List Step}
      (hrest : Bracketed (known.over more) rest after) :
      Bracketed known (.updated more :: rest) after
  | logged {known after : Known} {call told : Record} {rest : List Step}
      (hcarries : told.Carries call known) (hrest : Bracketed known rest after) :
      Bracketed known (.logged call told :: rest) after
  | scope {known last after : Known} {opening : Opening} {more : Fields}
      {inside rest : List Step}
      (hinside : Bracketed ((opening.known known).over more) inside last)
      (hrest : Bracketed known rest after) :
      Bracketed known (.entered opening more :: (inside ++ .left :: rest)) after

theorem Bracketed.append {known between after : Known} {steps more : List Step}
    (h : Bracketed known steps between) (hmore : Bracketed between more after) :
    Bracketed known (steps ++ more) after := by
  induction h with
  | nil => exact hmore
  | updated _ ih => exact .updated (ih hmore)
  | logged hcarries _ ih => exact .logged hcarries (ih hmore)
  | scope hinside _ _ ih =>
    rw [List.cons_append, List.append_assoc, List.cons_append]
    exact .scope hinside (ih hmore)

/-! Fields over fields -/

theorem known_update (s : Scopes) (more : Fields) : (s.update more).known = s.known.over more := by
  funext name
  exact Keyed.get?_update_over name s.current more

theorem Subject.get?_named (key name : String) (value : Option Value) :
    Keyed.get? name (named key value) =
      if name = key then value.filter (!·.isNull) else none := by
  cases value with
  | none => simp [named, Keyed.get?]
  | some v =>
    by_cases hkey : name = key
    · subst hkey
      cases hnull : v.isNull <;> simp [named, hnull, Keyed.get?, Option.filter]
    · have hkey' : ¬key = name := fun e => hkey e.symm
      cases hnull : v.isNull <;> simp [named, hnull, Keyed.get?, hkey, hkey']

/-- The other fields of a subject win over those that are known by name. -/
theorem Subject.get?_fields (s : Subject) (name : String) :
    Keyed.get? name s.fields = s.known.over s.others name := by
  rw [fields, Keyed.get?_update_over, Known.over, Keyed.get?_append, Keyed.get?_append,
    get?_named, get?_named, get?_named, Subject.known]
  congr 1
  by_cases hinterface : name = "interface"
  · subst hinterface
    simp
  · by_cases htemplate : name = "template"
    · subst htemplate
      simp
    · by_cases hartifact : name = "artifact"
      · subst hartifact
        simp
      · simp [hinterface, htemplate, hartifact]

theorem known_enter (s : Scopes) (opening : Opening) (more : Fields) :
    (s.enter opening more).known = (opening.known s.known).over more := by
  funext name
  show Keyed.get? name (Keyed.update (opening.start s.current) more) = _
  rw [Keyed.get?_update_over, Known.over]
  congr 1
  cases opening with
  | surrounding => rfl
  | fields start => rfl
  | subject subject => exact subject.get?_fields name

/-! Records -/

theorem carries_merged (r : Record) :
    r.merged.Carries r fun name => Keyed.get? name r.context := by
  refine ⟨rfl, fun name => ?_⟩
  have hfields : r.merged.fields = r.fields ++ r.inherited := rfl
  rw [hfields, Keyed.get?_append]
  cases hhas : r.has name with
  | true =>
    have hnone : Keyed.get? name r.inherited = none := by
      rw [Keyed.get?_eq_none_iff]
      intro hmem
      obtain ⟨field, hfield, rfl⟩ := List.mem_map.1 hmem
      simp [Record.inherited, hhas] at hfield
    rw [hnone, Option.or_none]
    rfl
  | false =>
    have hown : Keyed.get? name r.fields = none := by
      rw [Keyed.get?_eq_none_iff]
      intro hmem
      simp [Record.has, hmem] at hhas
    rw [hown, Option.none_or]
    exact Keyed.get?_filter_of_pos (p := fun name => !r.has name) (by simp [hhas]) r.context

/-- An accepted call keeps the context that it is made in. -/
theorem context_of_accept {config : Option Config} {call r : Record}
    (h : accept config call = .ok (some r)) : r.context = call.context := by
  have hproblem : (withProblem call).context = call.context := by
    unfold withProblem
    split <;> rfl
  simp only [accept] at h
  split at h
  · cases h
  · split_ifs at h
    · cases h
    · split at h
      · cases h
      · cases h
        exact hproblem

/-! Runs -/

section Runs

variable {config : Option Config} {known : Known} {s : Scopes}

/-- A course whose steps are bracketed from what is known on, and that touches no scope around. -/
structure Course.IsProper (course : Course) (s : Scopes) : Prop where
  bracketed : Bracketed s.known course.steps course.scopes.known
  outer : course.scopes.outer = s.outer

theorem Course.IsProper.of_no_steps (raised : Option Raised) :
    ({ scopes := s, raised } : Course).IsProper s :=
  ⟨.nil _, rfl⟩

theorem Course.IsProper.andThen {first next : Course} (h : first.IsProper s)
    (hnext : next.IsProper first.scopes) : (first.andThen next).IsProper s :=
  ⟨h.bracketed.append hnext.bracketed, hnext.outer.trans h.outer⟩

theorem enter_of_enter? {opening : Opening} {more : Fields} {inside : Scopes}
    (h : s.enter? opening more = .ok inside) : inside = s.enter opening more := by
  rw [Scopes.enter?] at h
  split_ifs at h
  cases h
  rfl

/-- A scope that was left gives way to what was there before. -/
theorem leave_of_isProper {opening : Opening} {more : Fields} {course : Course}
    (h : course.IsProper (s.enter opening more)) : course.scopes.leave = s := by
  have houter : course.scopes.outer = s.current :: s.outer := h.outer
  rw [Scopes.leave, houter]

theorem isProper_log (call : Record) : ((Program.log call).run config s).IsProper s := by
  simp only [Program.run]
  split
  · exact .of_no_steps _
  · exact .of_no_steps _
  · rename_i r haccepted
    have hcontext : r.context = s.current := context_of_accept haccepted
    have hcarries := carries_merged r
    rw [hcontext] at hcarries
    exact ⟨.logged hcarries (.nil _), rfl⟩

theorem isProper_scope {opening : Opening} {more : Fields} {body : Program}
    (h : ∀ inside, (body.run config inside).IsProper inside) :
    ((Program.scope opening more body).run config s).IsProper s ∧
      ((Program.scope opening more body).run config s).scopes = s := by
  simp only [Program.run]
  split
  · exact ⟨.of_no_steps _, rfl⟩
  · rename_i inside hinside
    obtain rfl := enter_of_enter? hinside
    have hbody := h (s.enter opening more)
    have hleft := leave_of_isProper hbody
    have hinner := hbody.bracketed
    rw [known_enter] at hinner
    refine ⟨⟨?_, by rw [hleft]⟩, hleft⟩
    rw [hleft]
    exact .scope hinner (.nil _)

theorem isProper_run (config : Option Config) (p : Program) (s : Scopes) :
    (p.run config s).IsProper s := by
  induction p generalizing s with
  | idle => exact .of_no_steps _
  | inOrder first next ihFirst ihNext =>
    simp only [Program.run]
    split
    · exact (ihFirst s).andThen (ihNext _)
    · exact ihFirst s
  | update more =>
    refine ⟨.updated ?_, rfl⟩
    rw [← known_update]
    exact .nil _
  | log call => exact isProper_log call
  | raise what => exact .of_no_steps _
  | attempt body catches handler ihBody ihHandler =>
    simp only [Program.run]
    split
    · exact ihBody s
    · split_ifs
      · exact (ihBody s).andThen (ihHandler _ _)
      · exact ihBody s
  | scope opening more body ih => exact (isProper_scope ih).1
  | look next ih => exact ih s.current s

end Runs

/-- However a program ends, its steps are bracketed and it touches no scope around it; as a scope it
leaves all as it was before. -/
theorem Program.run_bracketed (config : Option Config) (p : Program) (s : Scopes) :
    Bracketed s.known (p.run config s).steps (p.run config s).scopes.known ∧
      (p.run config s).scopes.outer = s.outer ∧
      ∀ opening more, ((scope opening more p).run config s).scopes = s := by
  have hproper := isProper_run config p
  exact ⟨(hproper s).bracketed, (hproper s).outer,
    fun opening more => (isProper_scope hproper).2⟩

/-- A record that is logged once a broken scope was left carries nothing of that scope. -/
example :
    let broken : Program := .scope .surrounding [("interface", .ofString "A")]
      (.inOrder (.update [("template", .ofString "t")]) (.raise (.thrown "stop")))
    let call : Record := { level := .error, logger := "entitygen.x", message := "m" }
    let whole : Program := .inOrder (.attempt broken (fun _ => true) fun _ => .idle) (.log call)
    (whole.run none {}).steps =
      [.entered .surrounding [("interface", .ofString "A")],
        .updated [("template", .ofString "t")], .left, .logged call call] := by cbv

end BeanForge.Log
