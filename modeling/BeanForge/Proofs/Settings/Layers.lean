import BeanForge.Proofs.Settings.Layout
import BeanForge.Proofs.Settings.Overlay
import BeanForge.Proofs.Text.Pieces

/-!
# Layers of settings

A settings text gives a setting the value of its last entry, and an environment that of its
variable. Either is laid over settings as a whole: one switch whose value is no word for on or off
refuses it, and else each value means the same wherever it comes from, but for what stands between
folders.
-/

namespace BeanForge

namespace Properties

def last? (text name : String) : Option String :=
  ((entriesFrom [] (Text.lines text.toList)).reverse.find? (String.ofList ·.1 = name)).map
    (String.ofList ·.2)

theorem nodup_keys_parse (text : String) : (Keyed.keys (parse text)).Nodup := by
  have hnone : (Keyed.keys ([] : List (String × String))).Nodup := List.nodup_nil
  exact Keyed.nodup_keys_update hnone _

theorem get?_parse (text name : String) : Keyed.get? name (parse text) = last? text name := by
  rw [parse, collect, get?_update_eq, ← List.map_reverse, List.find?_map, Option.map_map]
  rfl

end Properties

namespace Settings

open Text

/-! What raw values mean -/

def listed (separator : Char) (raw : String) : List String :=
  (((splitAt separator raw.toList).map trim).filter (· ≠ [])).map String.ofList

def Key.meaning? (key : Key) (separator : Char) (raw : String) : Option Form :=
  if key.isFlag then (flag? raw).map fun b => .value (.bool b)
  else match key with
    | templatePath => some (.folders (listed separator raw))
    | outputExtension => some (.value (.string (extension raw)))
    | _ => some (.value (.string (trimmed raw)))

theorem map_trim_splitAt_trimLeft {separator : Char} (h : isBlank separator = false)
    (cs : List Char) :
    (splitAt separator (trimLeft cs)).map trim = (splitAt separator cs).map trim := by
  induction cs with
  | nil => rfl
  | cons c rest ih =>
    cases hc : isBlank c with
    | false =>
      have hplain : BeginsPlain (c :: rest) := fun d hd => Option.some.inj hd ▸ hc
      rw [trimLeft_of_beginsPlain hplain]
    | true =>
      have hne : c ≠ separator := by
        rintro rfl
        cases hc.symm.trans h
      have hblank : AllBlank [c] := by simpa [AllBlank] using hc
      have hleft (cs : List Char) : trimLeft (c :: cs) = trimLeft cs :=
        trimLeft_append_blanks hblank cs
      obtain ⟨piece, more, hs⟩ := List.exists_cons_of_ne_nil (splitAt_ne_nil separator rest)
      rw [hleft, ih, splitAt_cons_of_ne hne hs, hs, List.map_cons, List.map_cons, trim, trim, hleft]

theorem map_trim_splitAt_trimRight {separator : Char} (h : isBlank separator = false)
    (cs : List Char) :
    (splitAt separator (trimRight cs)).map trim = (splitAt separator cs).map trim := by
  obtain ⟨blanks, hblanks, hcs⟩ := exists_eq_trimRight_append cs
  have hseparator : separator ∉ blanks := fun hmem => by
    rw [hblanks separator hmem] at h
    cases h
  obtain ⟨pieces, last, hright, hall⟩ := splitAt_append (trimRight cs) hseparator
  rw [← hcs] at hall
  rw [hright, hall, List.map_append, List.map_append, List.map_singleton, List.map_singleton,
    trim_append_blanks last hblanks]

theorem paths_singleton {separator : Char} (h : isBlank separator = false) (raw : String) :
    paths (.text (String.singleton separator)) raw = .ok (listed separator raw) := by
  have hchars : (String.singleton separator).toList = [separator] :=
    String.toList_singleton separator
  rw [paths, Separator.pieces, hchars, pieces?, if_neg (List.cons_ne_nil separator []),
    piecesFrom_singleton, Except.map, trim, map_trim_splitAt_trimRight h,
    map_trim_splitAt_trimLeft h, listed]

theorem reading_eq {separator : Char} (h : isBlank separator = false) (key : Key) (raw : String) :
    key.reading (.text (String.singleton separator)) raw =
      match key.meaning? separator raw with
      | some value => .ok value
      | none => .error (.failure (badFlag key raw)) := by
  unfold Key.reading Key.meaning?
  split
  · cases flag? raw <;> rfl
  · rename_i hkey
    cases key with
    | templateCache | trimBlocks | stripLines => exact absurd rfl hkey
    | templatePath => simp only [paths_singleton h]
    | _ => rfl

theorem meaning?_eq_none_iff {key : Key} {separator : Char} {raw : String} :
    key.meaning? separator raw = none ↔ key.isFlag = true ∧ flag? raw = none := by
  unfold Key.meaning?
  split
  · rename_i hkey
    simp [hkey]
  · rename_i hkey
    refine iff_of_false (fun hnone => ?_) fun h => hkey h.1
    split at hnone <;> cases hnone

/-! One layer -/

/-- A switch is given a value that is no word for on or off. -/
structure Misworded (value? : Key → Option String) (key : Key) (raw : String) : Prop where
  isFlag : key.isFlag = true
  given : value? key = some raw
  wrong : flag? raw = none

/-- The values of a layer are those of the settings, and the other settings are as they were. -/
structure Covers (separator : Char) (value? : Key → Option String) (s t : Settings) : Prop where
  named : ∀ (key : Key) (raw : String), value? key = some raw →
    key.meaning? separator raw = some (t.form key)
  others : ∀ key : Key, value? key = none → t.form key = s.form key
  given : s.given = [] → t.given = []

theorem listsUnknown_of_given {s : Settings} (h : s.given = []) : s.ListsUnknown :=
  ⟨s, by rw [listUnknown, h]; rfl⟩

/-- A layer is laid over settings, or refused for a switch. -/
theorem overlay_cases {separator : Char} (h : isBlank separator = false) (m : Mapping)
    {s : Settings} (hs : s.given = []) {value? : Key → Option String}
    (hvalue : ∀ key : Key, Keyed.get? key.property m.entries = value? key) :
    (∃ key raw, Misworded value? key raw ∧
      s.overlay (.text (String.singleton separator)) m.entries =
        .error (.failure (badFlag key raw))) ∨
    ((∀ key raw, ¬Misworded value? key raw) ∧
      ∃ t, s.overlay (.text (String.singleton separator)) m.entries = .ok t ∧
        Covers separator value? s t) := by
  cases hoverlay : s.overlay (.text (String.singleton separator)) m.entries with
  | error stop =>
    obtain ⟨front, entry, back, hentries, _, hrefused⟩ :=
      (overlay_eq_error_iff (listsUnknown_of_given hs)).1 hoverlay
    obtain ⟨key, hname, hread⟩ := refuses_iff.1 hrefused
    rw [reading_eq h] at hread
    cases hmeaning : key.meaning? separator entry.2 with
    | some value => simp [hmeaning] at hread
    | none =>
      rw [hmeaning] at hread
      cases hread
      obtain ⟨hflag, hraw⟩ := meaning?_eq_none_iff.1 hmeaning
      have hmem : (key.property, entry.2) ∈ m.entries := by
        rw [hentries, ← hname]
        exact List.mem_append_right front List.mem_cons_self
      have hgiven : value? key = some entry.2 :=
        hvalue key ▸ (Keyed.get?_eq_some_iff m.distinct).2 hmem
      exact .inl ⟨key, entry.2, ⟨hflag, hgiven, hraw⟩, rfl⟩
  | ok t =>
    obtain ⟨hnamed, hothers, hgiven⟩ := overlays_of_overlay m.distinct hoverlay
    have hmeans : ∀ (key : Key) (raw : String), value? key = some raw →
        key.meaning? separator raw = some (t.form key) := fun key raw hraw => by
      have hread := hnamed key raw (hvalue key ▸ hraw)
      rw [reading_eq h] at hread
      cases hmeaning : key.meaning? separator raw with
      | some value =>
        rw [hmeaning] at hread
        cases hread
        rfl
      | none => simp [hmeaning] at hread
    refine .inr ⟨fun key raw hwrong => ?_, t, rfl, hmeans,
      fun key hnone => hothers key (hvalue key ▸ hnone), hgiven⟩
    have hmeaning := hmeans key raw hwrong.given
    rw [meaning?_eq_none_iff.2 ⟨hwrong.isFlag, hwrong.wrong⟩] at hmeaning
    cases hmeaning

/-! Texts and environments -/

def Key.textValue? (text : String) (key : Key) : Option String :=
  Properties.last? text key.property

def Key.environmentValue? (environment : List (String × String)) (key : Key) : Option String :=
  key.environmentName?.bind (environment.lookup ·)

def textMapping (text : String) : Mapping where
  entries := Properties.parse text
  distinct := Properties.nodup_keys_parse text

theorem environmentEntries_eq (environment : List (String × String)) :
    environmentEntries environment =
      Key.all.filterMap fun key => (key.environmentValue? environment).map (key.property, ·) := by
  rw [environmentEntries]
  refine congrArg (Key.all.filterMap ·) (funext fun key => ?_)
  rw [Key.environmentValue?, Option.map_bind]
  simp only [Function.comp_def, Option.map_eq_bind]
  rfl

theorem mem_environmentEntries {environment : List (String × String)} {key : Key} {raw : String} :
    (key.property, raw) ∈ environmentEntries environment ↔
      key.environmentValue? environment = some raw := by
  simp only [environmentEntries_eq, List.mem_filterMap, Option.map_eq_some_iff, Prod.mk.injEq]
  constructor
  · rintro ⟨other, _, value, hvalue, hproperty, rfl⟩
    rwa [← Key.property_injective hproperty]
  · exact fun h => ⟨key, key.mem_all, raw, h, rfl, rfl⟩

theorem nodup_keys_environmentEntries (environment : List (String × String)) :
    (Keyed.keys (environmentEntries environment)).Nodup := by
  rw [Keyed.keys, List.Nodup, List.pairwise_map, environmentEntries_eq, List.pairwise_filterMap]
  have hall : Key.all.Nodup := by decide
  refine hall.imp fun {key other} hne entry hentry entry' hentry' e => hne ?_
  obtain ⟨_, _, rfl⟩ := Option.map_eq_some_iff.1 hentry
  obtain ⟨_, _, rfl⟩ := Option.map_eq_some_iff.1 hentry'
  exact Key.property_injective e

def environmentMapping (environment : List (String × String)) : Mapping where
  entries := environmentEntries environment
  distinct := nodup_keys_environmentEntries environment

theorem get?_environmentMapping (environment : List (String × String)) (key : Key) :
    Keyed.get? key.property (environmentMapping environment).entries =
      key.environmentValue? environment := by
  apply Option.ext
  intro raw
  rw [Keyed.get?_eq_some_iff (environmentMapping environment).distinct]
  exact mem_environmentEntries

theorem overlayProperties_cases (text : String) {s : Settings} (hs : s.given = []) :
    (∃ key raw, Misworded (Key.textValue? text) key raw ∧
      s.overlayProperties text = .error (.failure (badFlag key raw))) ∨
    ((∀ key raw, ¬Misworded (Key.textValue? text) key raw) ∧
      ∃ t, s.overlayProperties text = .ok t ∧ Covers ',' (Key.textValue? text) s t) :=
  @overlay_cases ',' (by decide) (textMapping text) s hs (Key.textValue? text) fun key =>
    Properties.get?_parse text key.property

theorem overlayEnvironment_cases (environment : List (String × String)) {s : Settings}
    (hs : s.given = []) :
    (∃ key raw, Misworded (Key.environmentValue? environment) key raw ∧
      s.overlayEnvironment environment = .error (.failure (badFlag key raw))) ∨
    ((∀ key raw, ¬Misworded (Key.environmentValue? environment) key raw) ∧
      ∃ t, s.overlayEnvironment environment = .ok t ∧
        Covers ':' (Key.environmentValue? environment) s t) :=
  @overlay_cases ':' (by decide) (environmentMapping environment) s hs _
    (get?_environmentMapping environment)

/-- Only one switch can be set in an environment. -/
theorem misworded_environmentValue?_iff {environment : List (String × String)} {key : Key}
    {raw : String} :
    Misworded (Key.environmentValue? environment) key raw ↔
      key = .templateCache ∧ environment.lookup "ENTITYGEN_TEMPLATE_CACHE" = some raw ∧
        flag? raw = none := by
  constructor
  · rintro ⟨hflag, hgiven, hwrong⟩
    cases key with
    | templateCache => exact ⟨rfl, hgiven, hwrong⟩
    | trimBlocks | stripLines => cases hgiven
    | _ => cases hflag
  · rintro ⟨rfl, hgiven, hwrong⟩
    exact ⟨rfl, hgiven, hwrong⟩

end Settings

end BeanForge
