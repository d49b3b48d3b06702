import BeanForge.Log.Layout
import BeanForge.Proofs.Json.Reading

/-!
# Records as lines

A record of scalars that has a message becomes one line of JSON, and the object on the line tells
the record back: its level, logger and message, its subject, and all other fields under their own
names. Only a message whose values do not fit it, and a field in the place of what makes texts of
messages, leave a record without a line.
-/

namespace BeanForge.Log

/-- Texts, flags, null, and whole numbers that are not too long to be written. -/
inductive Value.IsScalar : Value → Prop where
  | null : IsScalar (.json .null)
  | bool (b : Bool) : IsScalar (.json (.bool b))
  | integer (n : Int) (h : n.natAbs < Text.tooLongToWrite) : IsScalar (.json (.integer n))
  | string (s : String) : IsScalar (.json (.string s))

theorem Value.IsScalar.legible {value : Value} (h : value.IsScalar) :
    Json.Legible Json.plainChar value.toJson := by
  cases h with
  | null => exact .null
  | bool b => exact .bool b
  | integer n _ => exact .integer n
  | string s => exact .string (Json.restored_plainChar s)

/-- Only null counts as absent. -/
theorem Value.toJson_eq_null_iff {value : Value} : value.toJson = .null ↔ value.isNull = true := by
  cases value with
  | json v => cases v <;> simp [toJson, isNull]
  | path p => simp [toJson, isNull]

namespace Record

/-- A record that tells of no problem, with one scalar under each name of its fields and of its
context. -/
structure IsPlain (r : Record) : Prop where
  problem : r.problem = none
  level : r.levelName.IsScalar
  logger : r.loggerName.IsScalar
  fields : (Keyed.keys r.fields).Nodup
  context : (Keyed.keys r.context).Nodup
  values : ∀ field ∈ r.fields ++ r.context, field.2.IsScalar

/-- The members of an object that tell a record with a message, and nothing else. -/
structure ToldBy (r : Record) (message : String) (members : List (String × Json)) : Prop where
  distinct : (Keyed.keys members).Nodup
  names : Keyed.keys members ⊆
    ["timestamp", "level", "logger", "message", "extra"] ++ Layout.subjectNames
  level : ("level", r.levelName.toJson) ∈ members
  logger : ("logger", r.loggerName.toJson) ∈ members
  message : ("message", .string message) ∈ members
  subject : ∀ name ∈ Layout.subjectNames, ∀ v, (name, v) ∈ members ↔
    v ≠ .null ∧ ∃ value, (name, value) ∈ r.fields ∧ value.toJson = v
  extra : ∃ others, (Keyed.keys others).Nodup ∧
    (∀ v, ("extra", v) ∈ members ↔ others ≠ [] ∧ v = .object others) ∧
    ∀ name v, (name, v) ∈ others ↔ (name ∉ Layout.setAside ∧ name.toList.head? ≠ some '_') ∧
      ∃ value, (name, value) ∈ r.fields ∧ value.toJson = v

/-! The fields of a record and its context -/

variable {r : Record}

theorem has_of_mem_keys {name : String} (h : name ∈ Keyed.keys r.fields) : r.has name = true := by
  simp [has, h]

theorem has_of_mem_inherited {field : String × Value} (h : field ∈ r.inherited) :
    field ∈ r.context ∧ r.has field.1 = false := by
  simpa [inherited] using h

theorem keys_fields_merged (r : Record) :
    Keyed.keys r.merged.fields = Keyed.keys r.fields ++ Keyed.keys r.inherited := by
  simp [merged, Keyed.keys]

theorem IsPlain.nodup_merged (h : r.IsPlain) : (Keyed.keys r.merged.fields).Nodup := by
  have hinherited : (Keyed.keys r.inherited).Nodup :=
    h.context.sublist (List.filter_sublist.map Prod.fst)
  rw [keys_fields_merged, List.nodup_append]
  refine ⟨h.fields, hinherited, fun name hown other hother e => ?_⟩
  obtain ⟨field, hfield, rfl⟩ := List.mem_map.1 hother
  have hnew := (has_of_mem_inherited hfield).2
  rw [has_of_mem_keys (e ▸ hown)] at hnew
  cases hnew

theorem IsPlain.scalar_merged (h : r.IsPlain) :
    ∀ field ∈ r.merged.fields, field.2.IsScalar := by
  intro field hfield
  rcases List.mem_append.1 hfield with hown | hinherited
  · exact h.values field (List.mem_append_left _ hown)
  · exact h.values field (List.mem_append_right _ (has_of_mem_inherited hinherited).1)

/-- Nothing but a field of the call takes the place of what makes texts of messages. -/
theorem getMessage_merged (r : Record) :
    "getMessage" ∈ Keyed.keys r.merged.fields ↔ "getMessage" ∈ Keyed.keys r.fields := by
  rw [keys_fields_merged, List.mem_append, or_iff_left]
  intro hmem
  obtain ⟨field, hfield, hname⟩ := List.mem_map.1 hmem
  have hnew := (has_of_mem_inherited hfield).2
  have hshared : sharedNames.contains "getMessage" = true := by decide
  rw [hname, has, hshared] at hnew
  simp at hnew

theorem text_eq_ok_iff {message : String} :
    r.text = .ok message ↔
      "getMessage" ∉ Keyed.keys r.fields ∧ fill r.message r.arguments = .ok message := by
  rw [text]
  cases hget : Keyed.get? "getMessage" r.fields with
  | none => simp [Keyed.get?_eq_none_iff.1 hget]
  | some value =>
    have hmem : "getMessage" ∈ Keyed.keys r.fields := List.mem_map_of_mem (Keyed.mem_of_get? hget)
    simp [hmem]

theorem text_merged_eq_ok_iff {message : String} :
    r.merged.text = .ok message ↔
      "getMessage" ∉ Keyed.keys r.fields ∧ fill r.message r.arguments = .ok message := by
  rw [text_eq_ok_iff, getMessage_merged]
  exact Iff.rfl

end Record

/-! Members of a line -/

namespace Layout

variable {r : Record}

theorem isOther_iff {name : String} :
    isOther name = true ↔ name ∉ setAside ∧ name.toList.head? ≠ some '_' := by
  simp [isOther]

theorem mem_otherFields_iff {name : String} {v : Json} :
    (name, v) ∈ otherFields r ↔ (name ∉ setAside ∧ name.toList.head? ≠ some '_') ∧
      ∃ value, (name, value) ∈ r.fields ∧ value.toJson = v := by
  simp only [otherFields, List.mem_map, List.mem_filter, Prod.exists, Prod.mk.injEq]
  constructor
  · rintro ⟨_, value, ⟨hmem, hother⟩, rfl, rfl⟩
    exact ⟨isOther_iff.1 hother, value, hmem, rfl⟩
  · rintro ⟨hother, value, hmem, rfl⟩
    exact ⟨name, value, ⟨hmem, isOther_iff.2 hother⟩, rfl, rfl⟩

theorem nodup_otherFields (h : (Keyed.keys r.fields).Nodup) :
    (Keyed.keys (otherFields r)).Nodup := by
  have hkeys : Keyed.keys (otherFields r) = Keyed.keys (r.fields.filter (isOther ·.1)) := by
    simp [otherFields, Keyed.keys]
  rw [hkeys]
  exact h.sublist (List.filter_sublist.map Prod.fst)

theorem mem_subjectMembers_iff (h : (Keyed.keys r.fields).Nodup) {name : String} {v : Json} :
    (name, v) ∈ subjectMembers r ↔ name ∈ subjectNames ∧ v ≠ .null ∧
      ∃ value, (name, value) ∈ r.fields ∧ value.toJson = v := by
  simp only [subjectMembers, List.mem_filterMap, Option.map_eq_some_iff, Prod.mk.injEq]
  constructor
  · rintro ⟨_, hname, value, hshown, rfl, rfl⟩
    obtain ⟨found, hget, hnull⟩ := Option.bind_eq_some_iff.1 hshown
    split_ifs at hnull with hisNull
    cases hnull
    exact ⟨hname, fun e => hisNull (Value.toJson_eq_null_iff.1 e), value, Keyed.mem_of_get? hget,
      rfl⟩
  · rintro ⟨hname, hnull, value, hmem, rfl⟩
    refine ⟨name, hname, value, ?_, rfl, rfl⟩
    rw [Record.shownField?, (Keyed.get?_eq_some_iff h).2 hmem, Option.bind_some, if_neg]
    exact fun e => hnull (Value.toJson_eq_null_iff.2 e)

theorem keys_subjectMembers (r : Record) :
    (Keyed.keys (subjectMembers r)).Sublist subjectNames := by
  have hkeys : Keyed.keys (subjectMembers r) =
      subjectNames.filter fun name => (r.shownField? name).isSome := by
    rw [subjectMembers, Keyed.keys]
    induction subjectNames with
    | nil => rfl
    | cons name rest ih => cases h : r.shownField? name <;> simp [h, ih]
  rw [hkeys]
  exact List.filter_sublist

def plainMembers (moment : Moment) (r : Record) (message : String) : List (String × Json) :=
  [("timestamp", .string moment.exact), ("level", r.levelName.toJson),
    ("logger", r.loggerName.toJson), ("message", .string message)] ++ subjectMembers r ++
    (if (otherFields r).isEmpty then [] else [("extra", .object (otherFields r))])

theorem format_of_text {moment : Moment} {message : String} (hproblem : r.problem = none)
    (htext : r.text = .ok message) : (Layout.json true).format moment r =
      .ok (Json.object (plainMembers moment r message)).compact := by
  simp only [format, jsonMembers, hproblem, htext, plainMembers]
  cases (otherFields r).isEmpty <;> simp [bind, Except.bind, pure, Except.pure]

theorem format_of_flaw {moment : Moment} {flaw : Flaw} (htext : r.text = .error flaw) :
    (Layout.json true).format moment r = .error flaw := by
  simp only [format, jsonMembers, htext]
  rfl

theorem keys_plainMembers (moment : Moment) (r : Record) (message : String) :
    (Keyed.keys (plainMembers moment r message)).Sublist
      (["timestamp", "level", "logger", "message"] ++ subjectNames ++ ["extra"]) := by
  have hextra : (Keyed.keys (if (otherFields r).isEmpty then []
      else [("extra", Json.object (otherFields r))])).Sublist ["extra"] := by
    split_ifs
    · exact List.nil_sublist _
    · exact List.Sublist.refl _
  have hkeys : Keyed.keys (plainMembers moment r message) =
      ["timestamp", "level", "logger", "message"] ++ Keyed.keys (subjectMembers r) ++
        Keyed.keys (if (otherFields r).isEmpty then []
          else [("extra", Json.object (otherFields r))]) := by
    simp [plainMembers, Keyed.keys]
  rw [hkeys]
  exact ((List.Sublist.refl _).append (keys_subjectMembers r)).append hextra

theorem mem_plainMembers_iff {moment : Moment} {message name : String} {v : Json} :
    (name, v) ∈ plainMembers moment r message ↔
      (name, v) ∈ [("timestamp", .string moment.exact), ("level", r.levelName.toJson),
        ("logger", r.loggerName.toJson), ("message", .string message)] ∨
      (name, v) ∈ subjectMembers r ∨
      name = "extra" ∧ otherFields r ≠ [] ∧ v = .object (otherFields r) := by
  rw [plainMembers, List.mem_append, List.mem_append, or_assoc]
  cases hothers : otherFields r <;> simp

theorem toldBy_plainMembers (h : (Keyed.keys r.fields).Nodup) (moment : Moment)
    (message : String) : r.ToldBy message (plainMembers moment r message) where
  distinct := by
    refine List.Nodup.sublist (keys_plainMembers moment r message) ?_
    decide
  names := by
    refine List.Subset.trans (keys_plainMembers moment r message).subset ?_
    decide
  level := mem_plainMembers_iff.2 (.inl (by simp))
  logger := mem_plainMembers_iff.2 (.inl (by simp))
  message := mem_plainMembers_iff.2 (.inl (by simp))
  subject := by
    intro name hname v
    have hfront : ∀ name ∈ subjectNames,
        name ∉ ["timestamp", "level", "logger", "message", "extra"] := by decide
    have hnew := hfront name hname
    simp only [List.mem_cons, List.not_mem_nil, or_false, not_or] at hnew
    rw [mem_plainMembers_iff, mem_subjectMembers_iff h]
    simp [hname, hnew]
  extra := by
    refine ⟨otherFields r, nodup_otherFields h, fun v => ?_, fun name v => mem_otherFields_iff⟩
    have hnew : "extra" ∉ subjectNames := by decide
    rw [mem_plainMembers_iff, mem_subjectMembers_iff h]
    simp [hnew]

theorem legible_plainMembers (h : (Keyed.keys r.fields).Nodup) (hlevel : r.levelName.IsScalar)
    (hlogger : r.loggerName.IsScalar) (hvalues : ∀ field ∈ r.fields, field.2.IsScalar)
    (moment : Moment) (message : String) :
    Json.Legible Json.plainChar (.object (plainMembers moment r message)) := by
  have hnames := fun (members : List (String × Json)) m (_ : m ∈ members) =>
    Json.restored_plainChar m.1
  have hextra : Json.Legible Json.plainChar (.object (otherFields r)) := by
    refine .object (nodup_otherFields h) (hnames _) ?_
    rintro ⟨name, v⟩ hmem
    obtain ⟨_, value, hfield, rfl⟩ := mem_otherFields_iff.1 hmem
    exact (hvalues _ hfield).legible
  refine .object (toldBy_plainMembers h moment message).distinct (hnames _) ?_
  rintro ⟨name, v⟩ hmem
  rcases mem_plainMembers_iff.1 hmem with hfront | hsubject | ⟨_, _, rfl⟩
  · simp only [List.mem_cons, Prod.mk.injEq, List.not_mem_nil, or_false] at hfront
    rcases hfront with ⟨_, rfl⟩ | ⟨_, rfl⟩ | ⟨_, rfl⟩ | ⟨_, rfl⟩
    · exact .string (Json.restored_plainChar _)
    · exact hlevel.legible
    · exact hlogger.legible
    · exact .string (Json.restored_plainChar _)
  · obtain ⟨_, _, value, hfield, rfl⟩ := (mem_subjectMembers_iff h).1 hsubject
    exact (hvalues _ hfield).legible
  · exact hextra

/-- A plain record becomes a line exactly if its message takes its values and no field stands in
for what makes texts of messages; the line is one, and it reads back as an object that tells the
record with the fields of its context. -/
theorem format_json_tells (h : r.IsPlain) (moment : Moment) :
    ((∃ line, (Layout.json true).format moment r.merged = .ok line) ↔
      "getMessage" ∉ Keyed.keys r.fields ∧ ∃ message, fill r.message r.arguments = .ok message) ∧
    ∀ line, (Layout.json true).format moment r.merged = .ok line →
      '\n' ∉ line.toList ∧ '\r' ∉ line.toList ∧
      ∃ message members, fill r.message r.arguments = .ok message ∧
        Json.read? line = some (.object members) ∧ r.merged.ToldBy message members := by
  cases htext : r.merged.text with
  | error flaw =>
    have hnone : ¬("getMessage" ∉ Keyed.keys r.fields ∧
        ∃ message, fill r.message r.arguments = .ok message) := by
      rintro ⟨hfree, message, hfill⟩
      rw [Record.text_merged_eq_ok_iff.2 ⟨hfree, hfill⟩] at htext
      cases htext
    rw [format_of_flaw htext]
    exact ⟨iff_of_false (fun ⟨_, hline⟩ => nomatch hline) hnone, fun _ hline => nomatch hline⟩
  | ok message =>
    obtain ⟨hfree, hfill⟩ := Record.text_merged_eq_ok_iff.1 htext
    have hlegible := legible_plainMembers (r := r.merged) h.nodup_merged h.level h.logger
      h.scalar_merged moment message
    rw [format_of_text (r := r.merged) h.problem htext]
    refine ⟨iff_of_true ⟨_, rfl⟩ ⟨hfree, message, hfill⟩, fun line hline => ?_⟩
    obtain rfl := Except.ok.inj hline
    refine ⟨fun hend => ?_, fun hend => ?_, message, _, hfill, hlegible.read_compact,
      toldBy_plainMembers h.nodup_merged moment message⟩
    · exact absurd (hlegible.le_of_mem_compact _ hend) (by decide)
    · exact absurd (hlegible.le_of_mem_compact _ hend) (by decide)

theorem format_json_tells_of_quotes_and_line_ends :
    let moment : Moment :=
      { year := 2024, month := 2, day := 29, hour := 3, minute := 4, second := 5 }
    let r : Record :=
      { level := .warning
        logger := "entitygen.\"x\\"
        message := "%s\n\"level\": 100%%"
        arguments := .row [.ofString "\r\\"]
        fields := [("interface", .json .null), ("note", .ofString "\"\n"), ("_note", .ofString "a"),
          ("message", .ofString "b"), ("extra", .json (.bool true))]
        context := [("note", .ofString "c"), ("template", .ofString "\n"),
          ("count", .json (.integer (-1)))] }
    r.IsPlain ∧ ∃ line members, (Layout.json true).format moment r.merged = .ok line ∧
      '\n' ∉ line.toList ∧ '\r' ∉ line.toList ∧ Json.read? line = some (.object members) ∧
      r.merged.ToldBy "\r\\\n\"level\": 100%" members := by
  intro moment r
  have hplain : r.IsPlain := by
    refine ⟨rfl, .string _, .string _, by decide, by decide, ?_⟩
    simp only [r, List.cons_append, List.nil_append, List.forall_mem_cons, List.not_mem_nil,
      false_imp_iff, implies_true, and_true]
    exact ⟨.null, .string _, .string _, .string _, .bool _, .string _, .string _,
      .integer _ (by decide +kernel)⟩
  have hfill : fill r.message r.arguments = .ok "\r\\\n\"level\": 100%" := by decide +kernel
  obtain ⟨hline, htells⟩ := format_json_tells hplain moment
  obtain ⟨line, hformat⟩ := hline.2 ⟨by decide, _, hfill⟩
  obtain ⟨hend, hreturn, message, members, hmessage, hread, htold⟩ := htells line hformat
  cases hfill.symm.trans hmessage
  exact ⟨hplain, line, members, hformat, hend, hreturn, hread, htold⟩

/-- A field that stands in for what makes texts of messages leaves a plain record without a line. -/
theorem format_json_of_replaced_method :
    let moment : Moment :=
      { year := 2024, month := 2, day := 29, hour := 3, minute := 4, second := 5 }
    let r : Record :=
      { level := .info, logger := "entitygen.x", message := "x",
        fields := [("getMessage", .ofString "y")] }
    r.IsPlain ∧ (Layout.json true).format moment r.merged = .error (.notCallable "str") := by
  intro moment r
  refine ⟨⟨rfl, .string _, .string _, by decide, by decide, ?_⟩, rfl⟩
  simp only [r, List.append_nil, List.forall_mem_singleton]
  exact .string _

end Layout

end BeanForge.Log
