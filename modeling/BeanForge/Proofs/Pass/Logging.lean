import BeanForge.Log.Logger
import BeanForge.Proofs.Json.Reading
import BeanForge.Proofs.Pass.Agreement

/-!
# Logs of passes

A pass that keeps its artifacts in memory and comes to its end logs one line for each diagnostic and
one at last. A line tells the interface that the diagnostic is about, the template once it is
applied, and the artifact once it is there; what is told about one interface does not show up with
the next one.
-/

namespace BeanForge

open Log

/-! Lines -/

namespace Interface

def sourceMember (i : Interface) : List (String × Json) :=
  match i.source with
  | none | some "" => []
  | some source => [("source", .string source)]

def scope (i : Interface) (template artifact : Option String) : Fields :=
  ("interface", .ofString i.qualifiedName) :: (Subject.ofInterface i).others ++
    (template.map fun name => ("template", Value.ofString name)).toList ++
    (artifact.map fun name => ("artifact", Value.ofString name)).toList

end Interface

namespace Diagnostic

def tellsTemplate (d : Diagnostic) : Bool :=
  !d.isError && "applying template: ".toList.isPrefixOf d.message.toList

def logObject (moment : Moment) (i : Interface) (template artifact : Option String)
    (d : Diagnostic) : Json :=
  .object ([("timestamp", .string moment.exact), ("level", .string d.severity.level.name),
      ("logger", .string logger), ("message", .string d.message),
      ("interface", .string i.qualifiedName)] ++
    (template.map fun name => ("template", Json.string name)).toList ++
    (artifact.map fun name => ("artifact", Json.string name)).toList ++
    [("extra", .object (("element", .ofOption d.element) :: i.sourceMember))])

end Diagnostic

namespace Share

def template (share : Share) : String :=
  (share.diagnostics.findSome? fun d =>
    if d.tellsTemplate then some (String.ofList (d.message.toList.drop 19)) else none).getD ""

/-- What the lines about a share hold: the template from its application on, and the artifact from
its creation on. -/
def logObjects (moment : Moment) (i : Interface) (share : Share) : List Json :=
  share.diagnostics.map fun d =>
    d.logObject moment i
      (if d.tellsTemplate || d.tellsLocation then some share.template else none)
      (if d.tellsLocation then some i.entity.qualifiedName else none)

end Share

def Pass.closingObject {σ : Type} (moment : Moment) (pass : Pass σ) : Json :=
  .object [("timestamp", .string moment.exact), ("level", .string "INFO"),
    ("logger", .string "entitygen.codegen.driver"), ("message", .string "Generation pass finished"),
    ("extra", .object [("artifacts", .integer pass.artifacts.length),
      ("errors", .integer pass.collector.errors.length)])]

def Log.lineOf (object : Json) : String :=
  object.compact ++ "\n"

/-- Lines of JSON from the level of information on, with the fields of the context. -/
def Log.Config.jsonLines : Config := ⟨.info, .json true, true⟩

section Lines

variable {i : Interface} {moment : Moment}

theorem source_cases (i : Interface) :
    ((Subject.ofInterface i).others = [] ∧ i.sourceMember = []) ∨
      ∃ source, (Subject.ofInterface i).others = [("source", .ofString source)] ∧
        i.sourceMember = [("source", .string source)] := by
  obtain ⟨name, package, methods, source⟩ := i
  cases source with
  | none => exact .inl ⟨rfl, rfl⟩
  | some source =>
    by_cases hempty : source = ""
    · subst hempty
      exact .inl ⟨rfl, rfl⟩
    · refine .inr ⟨source, ?_, ?_⟩
      · simp [Subject.ofInterface]
      · simp [Interface.sourceMember]

theorem scope_enter_interface (i : Interface) (outer : Fields) :
    (Opening.subject (.ofInterface i)).enter outer [] = i.scope none none := by
  have hfields : (Opening.subject (.ofInterface i)).enter outer [] =
      Keyed.update [("interface", .ofString i.qualifiedName)] (Subject.ofInterface i).others := rfl
  rw [hfields, Interface.scope]
  rcases source_cases i with ⟨hothers, _⟩ | ⟨source, hothers, _⟩ <;> rw [hothers] <;> rfl

theorem scope_enter_template (i : Interface) (name : String) :
    Opening.surrounding.enter (i.scope none none) [("template", .ofString name)] =
      i.scope (some name) none := by
  simp only [Interface.scope]
  rcases source_cases i with ⟨hothers, _⟩ | ⟨source, hothers, _⟩ <;> rw [hothers] <;> rfl

theorem scope_enter_artifact (i : Interface) (template name : String) :
    Opening.surrounding.enter (i.scope (some template) none) [("artifact", .ofString name)] =
      i.scope (some template) (some name) := by
  simp only [Interface.scope]
  rcases source_cases i with ⟨hothers, _⟩ | ⟨source, hothers, _⟩ <;> rw [hothers] <;> rfl

/-- A record that is not dropped becomes a line that holds its parts. -/
theorem write_eq_lineOf {r : Record} (hfamily : isFamily r.logger = true)
    (henabled : isEnabled (some .jsonLines) r.logger r.level.weight = true)
    (htext : r.merged.text = .ok r.message) (hproblem : r.problem = none) :
    Log.write (some .jsonLines) moment r = lineOf (.object
      ([("timestamp", .string moment.exact), ("level", r.levelName.toJson),
        ("logger", r.loggerName.toJson), ("message", .string r.message)] ++
        Layout.subjectMembers r.merged ++
        (if (Layout.otherFields r.merged).isEmpty then []
          else [("extra", .object (Layout.otherFields r.merged))]))) := by
  have hnone : r.merged.problem = none := hproblem
  have hlevel : r.merged.levelName = r.levelName := rfl
  have hlogger : r.merged.loggerName = r.loggerName := rfl
  have hformat : Layout.format (.json true) moment r.merged = .ok (Json.object
      ([("timestamp", .string moment.exact), ("level", r.levelName.toJson),
        ("logger", r.loggerName.toJson), ("message", .string r.message)] ++
        Layout.subjectMembers r.merged ++
        (if (Layout.otherFields r.merged).isEmpty then []
          else [("extra", .object (Layout.otherFields r.merged))]))).compact := by
    simp only [Layout.format, Layout.jsonMembers, htext, hnone, hlevel, hlogger]
    cases (Layout.otherFields r.merged).isEmpty <;> simp [bind, Except.bind, pure, Except.pure]
  have hlayout : Config.jsonLines.layout = .json true := rfl
  have hcontext : Config.jsonLines.includeContext = true := rfl
  simp only [Log.write, hfamily, henabled, Bool.and_self, if_true, hlayout, hcontext, hformat]
  rfl

/-- The record of a diagnostic takes all fields of the scope. -/
theorem merged_record (d : Diagnostic) (i : Interface) (template artifact : Option String) :
    ({ d.record with context := i.scope template artifact } : Record).merged =
      { d.record with
        fields := ("element", .json (.ofOption d.element)) :: i.scope template artifact } := by
  have hnew : ∀ name ∈ ["interface", "source", "template", "artifact"],
      (Record.ownNames.contains name || Record.sharedNames.contains name ||
        ["element"].contains name) = false := by
    decide
  have hscope : ∀ field ∈ i.scope template artifact,
      field.1 ∈ ["interface", "source", "template", "artifact"] := by
    simp only [Interface.scope]
    rcases source_cases i with ⟨hothers, _⟩ | ⟨source, hothers, _⟩ <;> rw [hothers] <;>
      cases template <;> cases artifact <;> simp
  have hkept : ({ d.record with context := i.scope template artifact } : Record).inherited =
      i.scope template artifact := by
    refine List.filter_eq_self.2 fun field hfield => ?_
    rw [Bool.not_eq_true']
    exact hnew field.1 (hscope field hfield)
  rw [Record.merged, hkept]
  rfl

theorem subjectMembers_scope {r : Record} {element : Value} {template artifact : Option String}
    (h : r.fields = ("element", element) :: i.scope template artifact) :
    Layout.subjectMembers r = ("interface", .string i.qualifiedName) ::
      (template.map fun name => ("template", Json.string name)).toList ++
      (artifact.map fun name => ("artifact", Json.string name)).toList := by
  simp only [Layout.subjectMembers, Layout.subjectNames, Record.shownField?, h, Interface.scope]
  rcases source_cases i with ⟨hothers, _⟩ | ⟨source, hothers, _⟩ <;> rw [hothers] <;>
    cases template <;> cases artifact <;> rfl

theorem otherFields_scope {r : Record} {element : Value} {template artifact : Option String}
    (h : r.fields = ("element", element) :: i.scope template artifact) :
    Layout.otherFields r = ("element", element.toJson) :: i.sourceMember := by
  have hothers : Layout.isOther "element" = true ∧ Layout.isOther "source" = true ∧
      Layout.isOther "interface" = false ∧ Layout.isOther "template" = false ∧
      Layout.isOther "artifact" = false := by decide
  obtain ⟨helement, hsource, hinterface, htemplate, hartifact⟩ := hothers
  simp only [Layout.otherFields, h, Interface.scope]
  rcases source_cases i with ⟨hothers, hmember⟩ | ⟨source, hothers, hmember⟩ <;>
    rw [hothers, hmember] <;> cases template <;> cases artifact <;>
    simp [helement, hsource, hinterface, htemplate, hartifact, Value.ofString, Value.toJson]

theorem write_record (d : Diagnostic) (i : Interface) (template artifact : Option String) :
    Log.write (some .jsonLines) moment { d.record with context := i.scope template artifact } =
      lineOf (d.logObject moment i template artifact) := by
  have hfamily : isFamily Diagnostic.logger = true := by decide
  have henabled : isEnabled (some .jsonLines) Diagnostic.logger d.severity.level.weight = true := by
    cases d.severity <;> decide
  have htext : ({ d.record with
      fields := ("element", .json (.ofOption d.element)) :: i.scope template artifact } :
      Record).text = .ok d.message := by
    have hnone : Keyed.get? "getMessage"
        (("element", .json (.ofOption d.element)) :: i.scope template artifact) = none := by
      simp only [Interface.scope]
      rcases source_cases i with ⟨hothers, _⟩ | ⟨source, hothers, _⟩ <;> rw [hothers] <;>
        cases template <;> cases artifact <;> simp [Keyed.get?]
    rw [Record.text]
    simp only [hnone]
    rfl
  rw [write_eq_lineOf hfamily henabled (by rw [merged_record]; exact htext) rfl, merged_record,
    subjectMembers_scope rfl, otherFields_scope rfl]
  rfl

end Lines

/-! Records -/

namespace Event

def recordsIn (s : Scopes) : List Event → List Record
  | [] => []
  | enters opening more :: rest => recordsIn (s.enter opening more) rest
  | leaves :: rest => recordsIn s.leave rest
  | logged r :: rest => { r with context := s.current } :: recordsIn s rest
  | told d :: rest => { d.record with context := s.current } :: recordsIn s rest

def scopesAfter (s : Scopes) : List Event → Scopes
  | [] => s
  | enters opening more :: rest => scopesAfter (s.enter opening more) rest
  | leaves :: rest => scopesAfter s.leave rest
  | logged _ :: rest => scopesAfter s rest
  | told _ :: rest => scopesAfter s rest

theorem recordsIn_logged (s : Scopes) (rs : List Record) (rest : List Event) :
    recordsIn s (rs.map logged ++ rest) =
      rs.map (fun r => { r with context := s.current }) ++ recordsIn s rest := by
  induction rs with
  | nil => rfl
  | cons r rs ih => simp only [List.map_cons, List.cons_append, recordsIn, ih]

theorem scopesAfter_logged (s : Scopes) (rs : List Record) (rest : List Event) :
    scopesAfter s (rs.map logged ++ rest) = scopesAfter s rest := by
  induction rs with
  | nil => rfl
  | cons r rs ih => simpa only [List.map_cons, List.cons_append, scopesAfter] using ih

end Event

namespace Collector

variable {σ : Type}

/-- Without a listener, what is seen of a collector is what is logged. -/
theorem records_followAll (c : Collector σ) (hquiet : c.listener = none) (events : List Event) :
    (c.followAll events).listener = none ∧
      (c.followAll events).records = c.records ++ Event.recordsIn c.scopes events ∧
      (c.followAll events).scopes = Event.scopesAfter c.scopes events := by
  induction events generalizing c with
  | nil => exact ⟨hquiet, (List.append_nil _).symm, rfl⟩
  | cons e rest ih =>
    cases e with
    | enters opening more => exact ih (c.follow (.enters opening more)) hquiet
    | leaves => exact ih (c.follow .leaves) hquiet
    | logged r =>
      obtain ⟨hnone, hrecords, hscopes⟩ := ih (c.follow (.logged r)) hquiet
      refine ⟨hnone, ?_, hscopes⟩
      rw [followAll_cons, hrecords]
      simp [records, follow, log, Event.recordsIn]
    | told d =>
      have hreport : c.follow (.told d) =
          ({ c with diagnostics := c.diagnostics ++ [d] } : Collector σ).log d.record := by
        simp [follow, report, handOn, log, hquiet]
      obtain ⟨hnone, hrecords, hscopes⟩ := ih (c.follow (.told d)) (by rw [hreport]; exact hquiet)
      rw [followAll_cons]
      refine ⟨hnone, ?_, ?_⟩
      · rw [hrecords, hreport]
        simp [records, log, Event.recordsIn]
      · rw [hscopes, hreport]
        rfl

end Collector

/-! Work in memory -/

theorem writeAll_append (config : Option Config) (moment : Moment) (rs more : List Record) :
    writeAll config moment (rs ++ more) = writeAll config moment rs ++ writeAll config moment more := by
  rw [writeAll, List.map_append, String.join_append]
  rfl

theorem writeAll_cons (config : Option Config) (moment : Moment) (r : Record) (rs : List Record) :
    writeAll config moment (r :: rs) = Log.write config moment r ++ writeAll config moment rs := by
  rw [writeAll, List.map_cons, String.join_cons]
  rfl

/-- Records for debugging are dropped. -/
theorem write_of_debug {moment : Moment} {r : Record} (h : r.level = .debug) :
    Log.write (some .jsonLines) moment r = "" := by
  have hdropped : isEnabled (some .jsonLines) r.logger r.level.weight = false := by
    rw [h, isEnabled, threshold]
    split_ifs <;> rfl
  show (if isFamily r.logger && isEnabled (some .jsonLines) r.logger r.level.weight then _ else "") =
    ""
  rw [hdropped, Bool.and_false]
  rfl

theorem writeAll_of_debug {moment : Moment} {rs : List Record} (h : ∀ r ∈ rs, r.level = .debug) :
    writeAll (some .jsonLines) moment rs = "" := by
  induction rs with
  | nil => rfl
  | cons r rs ih =>
    rw [writeAll_cons, write_of_debug (h r List.mem_cons_self),
      ih fun other ho => h other (List.mem_cons_of_mem _ ho)]
    rfl

namespace Outcome

theorem tells_interfaceNote (i : Interface) :
    (interfaceNote i).tellsTemplate = false ∧ (interfaceNote i).tellsLocation = false := by
  have hmessage : (interfaceNote i).message.toList =
      "annotated interface: ".toList ++ i.name.toList := String.toList_append
  rw [Diagnostic.tellsTemplate, Diagnostic.tellsLocation, hmessage]
  exact ⟨rfl, rfl⟩

theorem tells_templateNote (name : String) :
    (templateNote name).tellsTemplate = true ∧ (templateNote name).tellsLocation = false := by
  have hmessage : (templateNote name).message.toList =
      "applying template: ".toList ++ name.toList := String.toList_append
  rw [Diagnostic.tellsTemplate, Diagnostic.tellsLocation, hmessage]
  exact ⟨rfl, rfl⟩

theorem tells_locationNote (location : String) :
    (locationNote location).tellsTemplate = false ∧
      (locationNote location).tellsLocation = true := by
  have hmessage : (locationNote location).message.toList =
      "creating source file: ".toList ++ location.toList := String.toList_append
  rw [Diagnostic.tellsTemplate, Diagnostic.tellsLocation, hmessage]
  exact ⟨rfl, rfl⟩

theorem tells_failureNote (i : Interface) (f : Failure) :
    (failureNote i f).tellsTemplate = false ∧ (failureNote i f).tellsLocation = false :=
  ⟨rfl, rfl⟩

end Outcome

section Work

open Outcome

variable {i : Interface} {moment : Moment} {s : Scopes}

theorem template_share (name : String) (rest : List Diagnostic) (entities : List Entity)
    (artifacts : List Artifact) :
    (Share.mk (interfaceNote i :: templateNote name :: rest) entities artifacts).template = name := by
  have hdrop : (templateNote name).message.toList.drop 19 = name.toList := by
    simp [templateNote]
  simp [Share.template, tells_interfaceNote, tells_templateNote, hdrop]

def Log.linesOf (objects : List Json) : String :=
  String.join (objects.map lineOf)

theorem linesOf_append (objects more : List Json) :
    linesOf (objects ++ more) = linesOf objects ++ linesOf more := by
  rw [linesOf, List.map_append, String.join_append]
  rfl

/-- The work on an interface writes the lines of its share, and leaves the scopes as they were. -/
def Outcome.Logs (i : Interface) (o : Outcome) : Prop :=
  ∀ moment s, writeAll (some .jsonLines) moment (Event.recordsIn s (o.events i)) =
      linesOf ((Plan.shareOf i o).logObjects moment i) ∧
    Event.scopesAfter s (o.events i) = s

def Outcome.ending (i : Interface) (o : Outcome) : List Event :=
  o.course ++ (o.failure?.map fun f => Event.told (failureNote i f)).toList ++ [.leaves]

/-- The first line is about the interface, and methods that are passed over give none, so that only
what happens then is to be looked at, in the scope of the interface. -/
theorem Outcome.logs_of {o : Outcome} {objects : Moment → List Json}
    (hshare : ∀ moment, (Plan.shareOf i o).logObjects moment i =
      (interfaceNote i).logObject moment i none none :: objects moment)
    (hending : ∀ moment outer,
      writeAll (some .jsonLines) moment
          (Event.recordsIn ⟨i.scope none none, outer⟩ (o.ending i)) = linesOf (objects moment) ∧
        Event.scopesAfter ⟨i.scope none none, outer⟩ (o.ending i) =
          Scopes.leave ⟨i.scope none none, outer⟩) : o.Logs i := by
  intro moment s
  have hskipped : ∀ r ∈ Skipped.ofMethods i.methods, r.level = .debug := by
    intro r hr
    obtain ⟨m, _, hnote⟩ := List.mem_filterMap.1 hr
    obtain ⟨_, _, rfl⟩ := Option.map_eq_some_iff.1 hnote
    rfl
  have hscope : s.enter (.subject (.ofInterface i)) [] =
      ⟨i.scope none none, s.current :: s.outer⟩ := by
    rw [Scopes.enter, scope_enter_interface]
  have hevents : o.events i = .enters (.subject (.ofInterface i)) [] :: .told (interfaceNote i) ::
      ((Skipped.ofMethods i.methods).map Event.logged ++ o.ending i) := by
    simp only [events, ending, List.append_assoc, List.cons_append, List.nil_append]
  obtain ⟨hlines, hleft⟩ := hending moment (s.current :: s.outer)
  rw [hevents, hshare]
  constructor
  · simp only [Event.recordsIn, hscope, Event.recordsIn_logged]
    rw [writeAll_cons, write_record, writeAll_append, writeAll_of_debug, hlines]
    · simp [linesOf]
    · exact List.forall_mem_map.2 hskipped
  · simp only [Event.scopesAfter, Event.scopesAfter_logged, hscope, hleft]
    rfl

theorem logs_fieldless (i : Interface) : Outcome.fieldless.Logs i := by
  have hshare : ∀ moment, (Plan.shareOf i .fieldless).logObjects moment i =
      (interfaceNote i).logObject moment i none none :: [] := fun moment => by
    simp [Share.logObjects, Plan.shareOf, courseDiagnostics, failure?, stop?, tells_interfaceNote]
  refine Outcome.logs_of hshare fun moment outer => ⟨?_, rfl⟩
  show writeAll _ moment [{ idleRecord with context := i.scope none none }] = _
  rw [writeAll_cons, write_of_debug rfl]
  rfl

theorem logs_unrendered (i : Interface) (e : Entity) (f : Failure) :
    (Outcome.unrendered e (.failure f)).Logs i := by
  have hshare : ∀ moment, (Plan.shareOf i (.unrendered e (.failure f))).logObjects moment i =
      (interfaceNote i).logObject moment i none none ::
        [(failureNote i f).logObject moment i none none] := fun moment => by
    simp [Share.logObjects, Plan.shareOf, courseDiagnostics, failure?, stop?, tells_interfaceNote,
      tells_failureNote]
  refine Outcome.logs_of hshare fun moment outer => ⟨?_, rfl⟩
  show writeAll _ moment [{ (failureNote i f).record with context := i.scope none none }] = _
  rw [writeAll_cons, write_record]
  simp [linesOf, writeAll]

theorem logs_emitted (i : Interface) (template location : String) :
    (Outcome.emitted i.entity template (.ok location) []).Logs i := by
  have hshare : ∀ moment,
      (Plan.shareOf i (.emitted i.entity template (.ok location) [])).logObjects moment i =
        (interfaceNote i).logObject moment i none none ::
          [(templateNote template).logObject moment i (some template) none,
            (locationNote location).logObject moment i (some template)
              (some i.entity.qualifiedName)] := fun moment => by
    simp [Share.logObjects, Plan.shareOf, courseDiagnostics, failure?, stop?, template_share,
      tells_interfaceNote, tells_templateNote, tells_locationNote]
  refine Outcome.logs_of hshare fun moment outer => ⟨?_, rfl⟩
  have hrecords : Event.recordsIn ⟨i.scope none none, outer⟩
      ((Outcome.emitted i.entity template (.ok location) []).ending i) =
      [{ (templateNote template).record with context := i.scope (some template) none },
        { (locationNote location).record with
          context := i.scope (some template) (some i.entity.qualifiedName) }] := by
    rw [← scope_enter_artifact, ← scope_enter_template]
    rfl
  rw [hrecords, writeAll_cons, write_record, writeAll_cons, write_record]
  simp [linesOf, writeAll]

theorem logs_unwritten (i : Interface) (template : String) (f : Failure) :
    (Outcome.emitted i.entity template (.error (.failure f)) []).Logs i := by
  have hshare : ∀ moment,
      (Plan.shareOf i (.emitted i.entity template (.error (.failure f)) [])).logObjects moment i =
        (interfaceNote i).logObject moment i none none ::
          [(templateNote template).logObject moment i (some template) none,
            (failureNote i f).logObject moment i none none] := fun moment => by
    simp [Share.logObjects, Plan.shareOf, courseDiagnostics, failure?, stop?, template_share,
      tells_interfaceNote, tells_templateNote, tells_failureNote]
  refine Outcome.logs_of hshare fun moment outer => ⟨?_, rfl⟩
  have hrecords : Event.recordsIn ⟨i.scope none none, outer⟩
      ((Outcome.emitted i.entity template (.error (.failure f)) []).ending i) =
      [{ (templateNote template).record with context := i.scope (some template) none },
        { (failureNote i f).record with context := i.scope none none }] := by
    rw [← scope_enter_template]
    rfl
  rw [hrecords, writeAll_cons, write_record, writeAll_cons, write_record]
  simp [linesOf, writeAll]

end Work

def Site.IsMemory (site : Site) : Prop :=
  ∃ extension files, site.store = .memory extension files

theorem logs_work [Codecs] {plan : Plan} {site : Site} {i : Interface} (hmemory : site.IsMemory)
    (hfault : (plan.work site i).2.fault? = none) :
    (plan.work site i).2.Logs i ∧ (plan.work site i).1.IsMemory := by
  cases hfields : i.entity.table.isEmpty with
  | true =>
    rw [Plan.work_of_fieldless hfields]
    exact ⟨logs_fieldless i, hmemory⟩
  | false =>
    cases htext : plan.text site.tree i.entity with
    | error stop =>
      rw [Plan.work_of_error hfields htext] at hfault ⊢
      cases stop with
      | fault f => cases hfault
      | failure f => exact ⟨logs_unrendered i _ f, hmemory⟩
    | ok made =>
      obtain ⟨template, text⟩ := made
      rw [Plan.work_of_ok hfields htext]
      obtain ⟨tree, store, workingFolder⟩ := site
      obtain ⟨extension, files, rfl⟩ := hmemory
      rw [Site.emit_memory]
      split_ifs with hknown
      · exact ⟨logs_unwritten i template _, extension, files, rfl⟩
      · exact ⟨logs_emitted i template _, extension, _, rfl⟩

/-! Passes -/

section Passes

variable {σ : Type} {plan : Plan}

theorem write_summary (moment : Moment) (pass : Pass σ) :
    Log.write (some .jsonLines) moment { pass.summary with context := [] } =
      lineOf (pass.closingObject moment) := by
  have hfamily : isFamily "entitygen.codegen.driver" = true := by decide
  have henabled : isEnabled (some .jsonLines) "entitygen.codegen.driver" Level.info.weight = true :=
    by decide
  have hmerged : ({ pass.summary with context := [] } : Record).merged = pass.summary := rfl
  have hsubject : Layout.subjectMembers pass.summary = [] := by
    simp [Layout.subjectMembers, Layout.subjectNames, Record.shownField?, Pass.summary, Keyed.get?]
  have hothers : Layout.otherFields pass.summary =
      [("artifacts", .integer pass.artifacts.length),
        ("errors", .integer pass.collector.errors.length)] := by
    have hnames : Layout.isOther "artifacts" = true ∧ Layout.isOther "errors" = true := by decide
    simp [Layout.otherFields, Pass.summary, hnames, Value.toJson]
  rw [write_eq_lineOf hfamily henabled rfl rfl, hmerged, hsubject, hothers]
  rfl

theorem legible_string (text : String) : Json.Legible Json.plainChar (.string text) :=
  .string (Json.restored_plainChar text)

theorem legible_closingObject (moment : Moment) (pass : Pass σ) :
    Json.Legible Json.plainChar (pass.closingObject moment) := by
  refine .object ?_ (fun m _ => Json.restored_plainChar m.1) ?_
  · show ["timestamp", "level", "logger", "message", "extra"].Nodup
    decide
  · simp only [List.forall_mem_cons, List.not_mem_nil, false_imp_iff, implies_true, and_true]
    refine ⟨legible_string _, legible_string _, legible_string _, legible_string _, .object ?_
      (fun m _ => Json.restored_plainChar m.1) ?_⟩
    · show ["artifacts", "errors"].Nodup
      decide
    · simp only [List.forall_mem_cons, List.not_mem_nil, false_imp_iff, implies_true, and_true]
      exact ⟨.integer _, .integer _⟩

theorem legible_logObject (moment : Moment) (i : Interface) (template artifact : Option String)
    (d : Diagnostic) : Json.Legible Json.plainChar (d.logObject moment i template artifact) := by
  have hextra : Json.Legible Json.plainChar
      (.object (("element", .ofOption d.element) :: i.sourceMember)) := by
    have helement : Json.Legible Json.plainChar (.ofOption d.element) :=
      .ofOption fun text _ => Json.restored_plainChar text
    rcases source_cases i with ⟨_, hmember⟩ | ⟨source, _, hmember⟩ <;> rw [hmember] <;>
      refine .object ?_ (fun m _ => Json.restored_plainChar m.1) ?_
    · show ["element"].Nodup
      decide
    · simpa using helement
    · show ["element", "source"].Nodup
      decide
    · simpa using ⟨helement, legible_string source⟩
  refine .object ?_ (fun m _ => Json.restored_plainChar m.1) ?_
  · cases template <;> cases artifact <;> simp [Keyed.keys]
  · intro m hm
    simp only [List.mem_append, List.mem_cons, List.not_mem_nil, or_false, Option.mem_toList,
      Option.map_eq_some_iff] at hm
    rcases hm with (((rfl | rfl | rfl | rfl | rfl) | ⟨_, _, rfl⟩) | ⟨_, _, rfl⟩) | rfl
    all_goals first | exact legible_string _ | exact hextra

def logObjectsOf (moment : Moment) (batch : List Interface) (shares : List Share) : List Json :=
  (batch.zip shares).flatMap fun (i, share) => share.logObjects moment i

/-- A pass without a listener that is in no scope yet. -/
structure Pass.IsAlone (pass : Pass σ) : Prop where
  quiet : pass.collector.listener = none
  outside : pass.collector.scopes = {}
  memory : pass.site.IsMemory

variable [Codecs]

theorem Pass.logs_advanceAll {pass : Pass σ} (halone : pass.IsAlone) (moment : Moment)
    (batch : List Interface) (h : (pass.advanceAll plan batch).2 = none) :
    ∃ shares, plan.AccountsAll pass.site batch [] (pass.advanceAll plan batch).1.site shares ∧
      (pass.advanceAll plan batch).1.collector.diagnostics =
        pass.collector.diagnostics ++ shares.flatMap (·.diagnostics) ∧
      (pass.advanceAll plan batch).1.collector.scopes = {} ∧
      writeAll (some .jsonLines) moment (pass.advanceAll plan batch).1.collector.records =
        writeAll (some .jsonLines) moment pass.collector.records ++
          linesOf (logObjectsOf moment batch shares ++
            [(pass.advanceAll plan batch).1.closingObject moment]) := by
  induction batch generalizing pass with
  | nil =>
    refine ⟨[], .nil _ _, (List.append_nil _).symm, halone.outside, ?_⟩
    have hrecords : pass.finish.collector.records =
        pass.collector.records ++ [{ pass.summary with context := [] }] := by
      simp [Pass.finish, Collector.records, Collector.log, halone.outside]
    show writeAll _ moment pass.finish.collector.records = _
    rw [hrecords, writeAll_append, writeAll_cons, write_summary]
    simp [logObjectsOf, linesOf, writeAll, Pass.advanceAll, Pass.closingObject, Pass.finish,
      Collector.log, Collector.errors]
  | cons i rest ih =>
    have hfault := fault?_of_advanceAll_cons_nil h
    obtain ⟨hlogs, hmemory⟩ := logs_work halone.memory hfault
    obtain ⟨hquiet, hrecords, hscopes⟩ :=
      pass.collector.records_followAll halone.quiet ((plan.work pass.site i).2.events i)
    obtain ⟨hwritten, hleft⟩ := hlogs moment {}
    rw [halone.outside] at hrecords hscopes
    rw [hleft] at hscopes
    rw [advanceAll_cons_nil hfault] at h ⊢
    obtain ⟨shares, hall, hd, hout, hlines⟩ := ih ⟨hquiet, hscopes, hmemory⟩ h
    obtain ⟨way, hway⟩ := plan.accounts_work pass.site i {} hfault
    refine ⟨Plan.shareOf i (plan.work pass.site i).2 :: shares, .cons way hway
      (fun other ho => (Plan.wayOf_eq ho).symm.trans (Plan.wayOf_eq hway)) hall, ?_, hout, ?_⟩
    · rw [hd, advance_eq, Collector.diagnostics_followAll, Outcome.told_events]
      simp [Plan.shareOf]
    · rw [hlines, advance_eq, hrecords, writeAll_append, hwritten]
      simp only [logObjectsOf, List.zip_cons_cons, List.flatMap_cons, List.append_assoc,
        linesOf_append, String.append_assoc]

end Passes

theorem Plan.AccountsAll.length_eq [Codecs] {plan : Plan} {before after : Site}
    {batch : List Interface} {mishaps : List Mishap} {shares : List Share}
    (h : plan.AccountsAll before batch mishaps after shares) :
    shares.length = batch.length := by
  induction h with
  | nil => rfl
  | cons _ _ _ _ ih => rw [List.length_cons, List.length_cons, ih]

/-- There is an object for every diagnostic. -/
theorem length_logObjectsOf (moment : Moment) {batch : List Interface} {shares : List Share}
    (h : shares.length = batch.length) :
    (logObjectsOf moment batch shares).length = (shares.flatMap (·.diagnostics)).length := by
  induction batch generalizing shares with
  | nil =>
    rw [List.length_eq_zero_iff.1 h]
    rfl
  | cons i batch ih =>
    obtain ⟨share, shares, rfl⟩ := List.exists_cons_of_length_eq_add_one h
    have hrest := ih (Nat.succ.inj h)
    simp only [logObjectsOf, List.zip_cons_cons, List.flatMap_cons, List.length_append] at hrest ⊢
    rw [hrest, Share.logObjects, List.length_map]

def Log.Reads (text : String) (objects : List Json) : Prop :=
  ∃ lines : List String, text = String.join (lines.map (· ++ "\n")) ∧
    (∀ line ∈ lines, '\n' ∉ line.toList) ∧ lines.map Json.read? = objects.map some

theorem reads_linesOf {objects : List Json}
    (h : ∀ object ∈ objects, Json.Legible Json.plainChar object) :
    Reads (linesOf objects) objects := by
  refine ⟨objects.map Json.compact, ?_, ?_, ?_⟩
  · rw [List.map_map]
    rfl
  · rintro _ hline hbreak
    obtain ⟨object, hobject, rfl⟩ := List.mem_map.1 hline
    have hprinted := (h object hobject).le_of_mem_compact '\n' hbreak
    exact absurd hprinted (by decide)
  · rw [List.map_map]
    exact List.map_congr_left fun object hobject => (h object hobject).read_compact

/-- What a pass in memory logs at its end: an object for each diagnostic of its shares and one
more, and no scope is left open. -/
theorem Plan.run_logs {σ : Type} [Codecs] (plan : Plan) {site : Site} (hmemory : site.IsMemory)
    (moment : Moment) (state : σ) (batch : List Interface)
    (h : (plan.run site { state } batch).2 = none) :
    ∃ shares, plan.AccountsAll site batch [] (plan.run site { state } batch).1.site shares ∧
      (plan.run site { state } batch).1.collector.diagnostics =
        shares.flatMap (·.diagnostics) ∧
      (logObjectsOf moment batch shares).length =
        (plan.run site { state } batch).1.collector.diagnostics.length ∧
      Reads (writeAll (some .jsonLines) moment (plan.run site { state } batch).1.collector.records)
        (logObjectsOf moment batch shares ++
          [(plan.run site { state } batch).1.closingObject moment]) ∧
      (plan.run site { state } batch).1.collector.scopes = {} := by
  have halone : ({ site, collector := { state } } : Pass σ).IsAlone := ⟨rfl, rfl, hmemory⟩
  obtain ⟨shares, hall, hdiagnostics, hscopes, hlines⟩ := Pass.logs_advanceAll halone moment batch h
  have htold : (plan.run site { state } batch).1.collector.diagnostics =
      shares.flatMap (·.diagnostics) := hdiagnostics
  refine ⟨shares, hall, htold, ?_, ?_, hscopes⟩
  · rw [htold, length_logObjectsOf moment hall.length_eq]
  · have hlegible : ∀ object ∈ logObjectsOf moment batch shares ++
        [(plan.run site { state } batch).1.closingObject moment],
        Json.Legible Json.plainChar object := by
      intro object hobject
      rcases List.mem_append.1 hobject with hmem | hmem
      · obtain ⟨⟨i, share⟩, _, hin⟩ := List.mem_flatMap.1 hmem
        obtain ⟨d, _, rfl⟩ := List.mem_map.1 hin
        exact legible_logObject moment i _ _ d
      · rw [List.mem_singleton.1 hmem]
        exact legible_closingObject moment _
    have hwritten := hlines.trans (String.empty_append)
    exact hwritten ▸ reads_linesOf hlegible

theorem Plan.run_logs_of_repeated_interface :
    let plan : Plan := { settings := { templatePath := ["t"] }, templateName := some "x" }
    let site : Site :=
      { tree := ⟨[(⟨.here, ["t"]⟩, .folder), (⟨.here, ["t", "x"]⟩, .file [104, 105])]⟩
        store := .memory ".java" [] }
    let methods : List Method := [{ name := "getAge", returnType := "int" }]
    let batch : List Interface := [⟨"A%s", "a", methods, none⟩, ⟨"Empty", "", [], some "100%"⟩,
      ⟨"A%s", "a", methods, some "A.java"⟩]
    let moment : Moment := { year := 2024, month := 2, day := 29, hour := 3, minute := 4, second := 5 }
    site.IsMemory ∧ (plan.run site { state := () } batch).2 = none ∧
      ∃ shares, plan.AccountsAll site batch [] (plan.run site { state := () } batch).1.site shares ∧
        (plan.run site { state := () } batch).1.collector.diagnostics =
          shares.flatMap (·.diagnostics) ∧
        (logObjectsOf moment batch shares).length =
          (plan.run site { state := () } batch).1.collector.diagnostics.length ∧
        Reads
          (writeAll (some .jsonLines) moment
            (plan.run site { state := () } batch).1.collector.records)
          (logObjectsOf moment batch shares ++
            [(plan.run site { state := () } batch).1.closingObject moment]) ∧
        (plan.run site { state := () } batch).1.collector.scopes = {} := by
  intro plan site methods batch moment
  have hmemory : site.IsMemory := ⟨".java", [], rfl⟩
  have h : (plan.run site { state := () } batch).2 = none := by decide +kernel
  exact ⟨hmemory, h, plan.run_logs hmemory moment () batch h⟩

end BeanForge
