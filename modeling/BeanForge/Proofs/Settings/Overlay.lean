import BeanForge.Proofs.Keyed
import BeanForge.Settings.Basic

/-!
# Overlays

Each entry that is laid over settings is read by itself and gives one setting its value. So what
comes of a mapping does not depend on its order, one mapping over another is the two put together,
and an overlay is refused for its first entry that cannot be read.
-/

namespace BeanForge.Settings

namespace Key

def isFlag : Key → Bool
  | templateCache | trimBlocks | stripLines => true
  | _ => false

theorem mem_all (key : Key) : key ∈ all := by
  cases key <;> decide

theorem property_injective : Function.Injective property := fun key other h => by
  have hall : ∀ a ∈ all, ∀ b ∈ all, a.property = b.property → a = b := by decide +kernel
  exact hall key (mem_all key) other (mem_all other) h

theorem optionName_injective : Function.Injective optionName := fun key other h => by
  have hall : ∀ a ∈ all, ∀ b ∈ all, a.optionName = b.optionName → a = b := by decide +kernel
  exact hall key (mem_all key) other (mem_all other) h

theorem optionName_ne_unknownKeysName (key : Key) : key.optionName ≠ unknownKeysName := by
  cases key <;> decide

theorem ofProperty?_eq_some_iff {name : String} {key : Key} :
    ofProperty? name = some key ↔ name = key.property := by
  constructor
  · intro h
    have hfound := List.find?_some h
    exact (eq_of_beq hfound).symm
  · rintro rfl
    cases key <;> rfl

def reading (key : Key) (separator : Separator) (raw : String) : Except Stop Form :=
  if key.isFlag then
    match flag? raw with
    | some b => .ok (.value (.bool b))
    | none => .error (.failure (badFlag key raw))
  else match key with
    | templatePath =>
      match paths separator raw with
      | .ok names => .ok (.folders names)
      | .error f => .error (.fault f)
    | outputExtension => .ok (.value (.string (extension raw)))
    | _ => .ok (.value (.string (Text.trimmed raw)))

end Key

/-- Why a separator divides no text. -/
def Separator.fault? : Separator → Option Fault
  | text s => if s = "" then some .emptySeparator else none
  | blanks => none
  | unfit kind => some (.notSeparator kind)

/-- The entries that cannot be read, each with what it leads to. -/
inductive Refuses (separator : Separator) : String × String → Stop → Prop where
  | flag {key : Key} {raw : String} (hkey : key.isFlag = true) (hraw : flag? raw = none) :
      Refuses separator (key.property, raw) (.failure (badFlag key raw))
  | paths {f : Fault} (raw : String) (hfault : separator.fault? = some f) :
      Refuses separator (Key.templatePath.property, raw) (.fault f)

/-- The unknown keys are a list; only an override makes them anything else. -/
def ListsUnknown (s : Settings) : Prop :=
  ∃ t, s.listUnknown = .ok t

/-- Every setting has the same value; unknown keys do not count. -/
def SameAs (s t : Settings) : Prop :=
  ∀ key, s.form key = t.form key

/-! Readings -/

theorem paths_of_fault {separator : Separator} {f : Fault} (h : separator.fault? = some f)
    (raw : String) : paths separator raw = .error f := by
  cases separator with
  | text s =>
    by_cases hs : s = ""
    · subst hs
      cases h
      rfl
    · simp [Separator.fault?, hs] at h
  | blanks => cases h
  | unfit kind =>
    cases h
    rfl

theorem exists_paths {separator : Separator} (h : separator.fault? = none) (raw : String) :
    ∃ names, paths separator raw = .ok names := by
  cases separator with
  | text s =>
    have hs : s.toList ≠ [] := fun e => by
      rw [Separator.fault?, if_pos (String.toList_inj.1 (e.trans String.toList_empty.symm))] at h
      cases h
    simp [paths, Separator.pieces, Text.pieces?, hs, Except.map]
  | blanks => exact ⟨_, rfl⟩
  | unfit kind => cases h

theorem refuses_iff {separator : Separator} {entry : String × String} {stop : Stop} :
    Refuses separator entry stop ↔
      ∃ key : Key, entry.1 = key.property ∧ key.reading separator entry.2 = .error stop := by
  obtain ⟨name, raw⟩ := entry
  constructor
  · intro h
    cases h with
    | @flag key _ hkey hraw => exact ⟨key, rfl, by simp only [Key.reading, hkey, if_true, hraw]⟩
    | paths _ hfault =>
      exact ⟨.templatePath, rfl, by simp [Key.reading, Key.isFlag, paths_of_fault hfault]⟩
  · rintro ⟨key, hname, h⟩
    simp only at hname h
    subst hname
    unfold Key.reading at h
    split at h
    · rename_i hkey
      cases hraw : flag? raw with
      | some b => simp [hraw] at h
      | none =>
        rw [hraw] at h
        cases h
        exact .flag hkey hraw
    · split at h
      · cases hfault : separator.fault? with
        | some f =>
          rw [paths_of_fault hfault] at h
          cases h
          exact .paths raw hfault
        | none =>
          obtain ⟨names, hnames⟩ := exists_paths hfault raw
          simp [hnames] at h
      · cases h
      · cases h

/-! One entry -/

structure Takes (key : Key) (value : Form) (s t : Settings) : Prop where
  form : ∀ other, t.form other = if other = key then value else s.form other
  given : s.given = [] → t.given = []

theorem ownForm_settle (s : Settings) (name : String) (key : Key) :
    (s.settle name).ownForm key = s.ownForm key := by
  cases key <;> rfl

theorem takes_of_own {s t : Settings} {key : Key} {value : Form}
    (hgiven : t.given = (s.settle key.optionName).given)
    (hown : ∀ other, t.ownForm other =
      if other = key then value else (s.settle key.optionName).ownForm other) :
    Takes key value s t := by
  refine ⟨fun other => ?_, fun hnone => by rw [hgiven, settle, hnone]; rfl⟩
  simp only [form, hgiven, hown, ownForm_settle]
  rw [settle, Keyed.get?_filter_ne]
  by_cases h : other = key
  · simp [h]
  · rw [if_neg fun e => h (Key.optionName_injective e), if_neg h, if_neg h]

theorem given_assignFlag (s : Settings) (key : Key) (b : Bool) :
    (s.assignFlag key b).given = s.given := by
  cases key <;> rfl

theorem ownForm_assignFlag {key : Key} (h : key.isFlag = true) (s : Settings) (b : Bool)
    (other : Key) : (s.assignFlag key b).ownForm other =
      if other = key then .value (.bool b) else s.ownForm other := by
  cases key with
  | templateCache | trimBlocks | stripLines => cases other <;> rfl
  | _ => cases h

theorem given_assignText (s : Settings) (key : Key) (text : String) :
    (s.assignText key text).given = s.given := by
  cases key <;> rfl

theorem ownForm_assignText {key : Key} (hflag : key.isFlag = false) (hpath : key ≠ .templatePath)
    (s : Settings) (text : String) (other : Key) : (s.assignText key text).ownForm other =
      if other = key then .value (.string text) else s.ownForm other := by
  cases key with
  | templateCache | trimBlocks | stripLines => cases hflag
  | templatePath => exact absurd rfl hpath
  | _ => cases other <;> rfl

theorem takes_assignText {key : Key} (hflag : key.isFlag = false) (hpath : key ≠ .templatePath)
    (s : Settings) (text : String) :
    Takes key (.value (.string text)) s ((s.settle key.optionName).assignText key text) :=
  takes_of_own (given_assignText _ key text) (ownForm_assignText hflag hpath _ text)

theorem takes_folders (s : Settings) (names : List String) :
    Takes .templatePath (.folders names) s
      { s.settle Key.templatePath.optionName with templatePath := names } :=
  takes_of_own rfl fun other => by
    generalize s.settle _ = settled
    cases other <;> rfl

theorem assign_flag {key : Key} (h : key.isFlag = true) (separator : Separator) (s : Settings)
    (raw : String) :
    s.assign separator key raw =
      match flag? raw with
      | some b => .ok ((s.settle key.optionName).assignFlag key b)
      | none => .error (.failure (badFlag key raw)) := by
  cases key with
  | templateCache | trimBlocks | stripLines =>
    unfold assign
    cases flag? raw <;> rfl
  | _ => cases h

/-- A value is read without regard to the settings, and it is given to one of them. -/
theorem assign_eq (separator : Separator) (s : Settings) (key : Key) (raw : String) :
    match key.reading separator raw with
    | .error stop => s.assign separator key raw = .error stop
    | .ok value => ∃ t, s.assign separator key raw = .ok t ∧ Takes key value s t := by
  cases hflag : key.isFlag with
  | true =>
    unfold Key.reading
    rw [assign_flag hflag, if_pos hflag]
    cases flag? raw with
    | some b =>
      exact ⟨_, rfl, takes_of_own (given_assignFlag _ key b) (ownForm_assignFlag hflag _ b)⟩
    | none => rfl
  | false =>
    cases key with
    | templateCache | trimBlocks | stripLines => cases hflag
    | templatePath =>
      unfold assign Key.reading
      rw [if_neg (by decide)]
      cases paths separator raw with
      | ok names => exact ⟨_, rfl, takes_folders s names⟩
      | error f => rfl
    | outputExtension => exact ⟨_, rfl, takes_assignText hflag (by decide) s (extension raw)⟩
    | templateName | outputEncoding | marker | logLevel | logFormat =>
      exact ⟨_, rfl, takes_assignText hflag (by decide) s (Text.trimmed raw)⟩

/-- What an entry changes: the setting that it names. -/
structure Lays (separator : Separator) (entry : String × String) (s t : Settings) : Prop where
  named : ∀ key : Key, key.property = entry.1 →
    key.reading separator entry.2 = .ok (t.form key)
  others : ∀ key : Key, key.property ≠ entry.1 → t.form key = s.form key
  given : s.given = [] → t.given = []

theorem form_addUnknown (s : Settings) (name : String) (key : Key) :
    (s.addUnknown name).form key = s.form key := by
  unfold addUnknown
  split
  · simp only [form, Keyed.get?_put, if_neg key.optionName_ne_unknownKeysName]
    rfl
  · rfl

theorem given_addUnknown {s : Settings} (h : s.given = []) (name : String) :
    (s.addUnknown name).given = [] := by
  simp [addUnknown, h, Keyed.get?]

theorem overlayEntry_of_refuses {separator : Separator} {entry : String × String} {stop : Stop}
    (h : Refuses separator entry stop) (s : Settings) :
    s.overlayEntry separator entry = .error stop := by
  obtain ⟨key, hname, hread⟩ := refuses_iff.1 h
  have hassign := assign_eq separator s key entry.2
  rw [hread] at hassign
  rw [overlayEntry, Key.ofProperty?_eq_some_iff.2 hname]
  exact hassign

theorem exists_overlayEntry {separator : Separator} {entry : String × String}
    (h : ∀ stop, ¬Refuses separator entry stop) (s : Settings) :
    ∃ t, s.overlayEntry separator entry = .ok t ∧ Lays separator entry s t := by
  cases hname : Key.ofProperty? entry.1 with
  | none =>
    have hne : ∀ key : Key, key.property ≠ entry.1 := fun key e => by
      rw [Key.ofProperty?_eq_some_iff.2 e.symm] at hname
      cases hname
    exact ⟨s.addUnknown entry.1, by simp [overlayEntry, hname], fun key e => absurd e (hne key),
      fun key _ => form_addUnknown s entry.1 key, fun hnone => given_addUnknown hnone entry.1⟩
  | some key =>
    have hproperty := Key.ofProperty?_eq_some_iff.1 hname
    cases hread : key.reading separator entry.2 with
    | error stop => exact absurd (refuses_iff.2 ⟨key, hproperty, hread⟩) (h stop)
    | ok value =>
      have hassign := assign_eq separator s key entry.2
      rw [hread] at hassign
      obtain ⟨t, ht, htakes⟩ := hassign
      refine ⟨t, by simp [overlayEntry, hname, ht], fun other e => ?_, fun other hne => ?_,
        htakes.given⟩
      · obtain rfl : other = key := Key.property_injective (e.trans hproperty)
        rw [hread, htakes.form, if_pos rfl]
      · have hother : other ≠ key := fun e => hne (e ▸ hproperty.symm)
        rw [htakes.form, if_neg hother]

/-! All entries -/

/-- What entries change: the setting that one of them names has the value that it gives. -/
structure Overlays (separator : Separator) (entries : List (String × String)) (s t : Settings) :
    Prop where
  named : ∀ (key : Key) (raw : String), Keyed.get? key.property entries = some raw →
    key.reading separator raw = .ok (t.form key)
  others : ∀ key : Key, Keyed.get? key.property entries = none → t.form key = s.form key
  given : s.given = [] → t.given = []

def FirstRefused (separator : Separator) (entries : List (String × String)) (stop : Stop) : Prop :=
  ∃ front entry back, entries = front ++ entry :: back ∧
    (∀ e ∈ front, ∀ other, ¬Refuses separator e other) ∧ Refuses separator entry stop

theorem overlays_cons {separator : Separator} {entry : String × String}
    {rest : List (String × String)} {s t u : Settings} (hnew : entry.1 ∉ Keyed.keys rest)
    (hfirst : Lays separator entry s t) (hrest : Overlays separator rest t u) :
    Overlays separator (entry :: rest) s u := by
  refine ⟨fun key raw hraw => ?_, fun key hnone => ?_, fun h => hrest.given (hfirst.given h)⟩
  · by_cases hkey : entry.1 = key.property
    · rw [Keyed.get?, if_pos hkey] at hraw
      cases hraw
      have hlater : Keyed.get? key.property rest = none :=
        Keyed.get?_eq_none_iff.2 (hkey ▸ hnew)
      rw [hfirst.named key hkey.symm, hrest.others key hlater]
    · rw [Keyed.get?, if_neg hkey] at hraw
      exact hrest.named key raw hraw
  · by_cases hkey : entry.1 = key.property
    · rw [Keyed.get?, if_pos hkey] at hnone
      cases hnone
    · rw [Keyed.get?, if_neg hkey] at hnone
      rw [hrest.others key hnone, hfirst.others key (Ne.symm hkey)]

theorem exists_foldlM {separator : Separator} {entries : List (String × String)}
    (h : ∀ entry ∈ entries, ∀ stop, ¬Refuses separator entry stop) (s : Settings) :
    ∃ t, entries.foldlM (overlayEntry separator) s = .ok t ∧
      ((Keyed.keys entries).Nodup → Overlays separator entries s t) := by
  induction entries generalizing s with
  | nil => exact ⟨s, rfl, fun _ => ⟨fun _ _ hraw => (nomatch hraw), fun _ _ => rfl, id⟩⟩
  | cons entry rest ih =>
    obtain ⟨t, ht, hfirst⟩ := exists_overlayEntry (h entry List.mem_cons_self) s
    obtain ⟨u, hu, hrest⟩ := ih (fun e he => h e (List.mem_cons_of_mem _ he)) t
    refine ⟨u, by rw [List.foldlM_cons, ht]; exact hu, fun hdistinct => ?_⟩
    obtain ⟨hnew, hdistinct⟩ := List.nodup_cons.1 hdistinct
    exact overlays_cons hnew hfirst (hrest hdistinct)

theorem foldlM_of_firstRefused {separator : Separator} {entries : List (String × String)}
    {stop : Stop} (h : FirstRefused separator entries stop) (s : Settings) :
    entries.foldlM (overlayEntry separator) s = .error stop := by
  obtain ⟨front, entry, back, rfl, hfront, hentry⟩ := h
  obtain ⟨t, ht, _⟩ := exists_foldlM hfront s
  rw [List.foldlM_append, ht]
  show (entry :: back).foldlM (overlayEntry separator) t = _
  rw [List.foldlM_cons, overlayEntry_of_refuses hentry]
  rfl

theorem accepted_or_firstRefused (separator : Separator) (entries : List (String × String)) :
    (∀ entry ∈ entries, ∀ stop, ¬Refuses separator entry stop) ∨
      ∃ stop, FirstRefused separator entries stop := by
  induction entries with
  | nil => exact .inl (by simp)
  | cons entry rest ih =>
    by_cases hentry : ∃ stop, Refuses separator entry stop
    · obtain ⟨stop, hstop⟩ := hentry
      exact .inr ⟨stop, [], entry, rest, rfl, by simp, hstop⟩
    · rw [not_exists] at hentry
      refine ih.imp (fun hrest => List.forall_mem_cons.2 ⟨hentry, hrest⟩) ?_
      rintro ⟨stop, front, other, back, rfl, hfront, hother⟩
      exact ⟨stop, entry :: front, other, back, rfl, List.forall_mem_cons.2 ⟨hentry, hfront⟩,
        hother⟩

theorem form_listUnknown {s t : Settings} (h : s.listUnknown = .ok t) (key : Key) :
    t.form key = s.form key := by
  unfold listUnknown at h
  split at h
  · cases h
    rfl
  · split at h
    · cases h
      simp only [form, Keyed.get?_put, if_neg key.optionName_ne_unknownKeysName]
      rfl
    · cases h

theorem given_listUnknown {s t : Settings} (h : s.listUnknown = .ok t) (hnone : s.given = []) :
    t.given = [] := by
  simp only [listUnknown, hnone, Keyed.get?] at h
  cases h
  exact hnone

theorem exists_overlay {separator : Separator} {entries : List (String × String)} {s : Settings}
    (hlists : s.ListsUnknown) (h : ∀ entry ∈ entries, ∀ stop, ¬Refuses separator entry stop) :
    ∃ t, s.overlay separator entries = .ok t ∧
      ((Keyed.keys entries).Nodup → Overlays separator entries s t) := by
  obtain ⟨listed, hlisted⟩ := hlists
  obtain ⟨t, ht, hlays⟩ := exists_foldlM h listed
  refine ⟨t, by rw [overlay, hlisted]; exact ht, fun hdistinct => ?_⟩
  obtain ⟨hnamed, hothers, hgiven⟩ := hlays hdistinct
  exact ⟨hnamed, fun key hnone => (hothers key hnone).trans (form_listUnknown hlisted key),
    fun hnone => hgiven (given_listUnknown hlisted hnone)⟩

theorem overlay_of_firstRefused {separator : Separator} {entries : List (String × String)}
    {stop : Stop} {s : Settings} (hlists : s.ListsUnknown)
    (h : FirstRefused separator entries stop) : s.overlay separator entries = .error stop := by
  obtain ⟨listed, hlisted⟩ := hlists
  rw [overlay, hlisted]
  exact foldlM_of_firstRefused h listed

theorem listsUnknown_of_overlay {separator : Separator} {entries : List (String × String)}
    {s t : Settings} (h : s.overlay separator entries = .ok t) : s.ListsUnknown := by
  cases hlisted : s.listUnknown with
  | ok listed => exact ⟨listed, hlisted⟩
  | error stop =>
    rw [overlay, hlisted] at h
    cases h

theorem accepted_of_overlay {separator : Separator} {entries : List (String × String)}
    {s t : Settings} (h : s.overlay separator entries = .ok t) :
    ∀ entry ∈ entries, ∀ stop, ¬Refuses separator entry stop := by
  refine (accepted_or_firstRefused separator entries).resolve_right fun ⟨stop, hstop⟩ => ?_
  rw [overlay_of_firstRefused (listsUnknown_of_overlay h) hstop] at h
  cases h

theorem overlays_of_overlay {separator : Separator} {entries : List (String × String)}
    {s t : Settings} (hdistinct : (Keyed.keys entries).Nodup)
    (h : s.overlay separator entries = .ok t) : Overlays separator entries s t := by
  obtain ⟨u, hu, hlays⟩ := exists_overlay (listsUnknown_of_overlay h) (accepted_of_overlay h)
  cases hu.symm.trans h
  exact hlays hdistinct

/-- An overlay is refused exactly for the first entry that is refused. -/
theorem overlay_eq_error_iff {separator : Separator} {entries : List (String × String)}
    {stop : Stop} {s : Settings} (hlists : s.ListsUnknown) :
    s.overlay separator entries = .error stop ↔ FirstRefused separator entries stop := by
  refine ⟨fun h => ?_, overlay_of_firstRefused hlists⟩
  rcases accepted_or_firstRefused separator entries with haccepted | ⟨other, hother⟩
  · obtain ⟨t, ht, _⟩ := exists_overlay hlists haccepted
    cases ht.symm.trans h
  · cases (overlay_of_firstRefused hlists hother).symm.trans h
    exact hother

/-! Mappings -/

/-- Raw values under distinct keys, in some order. -/
structure Mapping where
  entries : List (String × String)
  distinct : (Keyed.keys entries).Nodup := by decide

namespace Mapping

def laidOver (v w : Mapping) : Mapping where
  entries := Keyed.update w.entries v.entries
  distinct := Keyed.nodup_keys_update w.distinct v.entries

theorem mem_laidOver {v w : Mapping} {entry : String × String}
    (h : entry ∈ (v.laidOver w).entries) : entry ∈ v.entries ∨ entry ∈ w.entries := by
  have hget : Keyed.get? entry.1 (v.laidOver w).entries = some entry.2 :=
    (Keyed.get?_eq_some_iff (v.laidOver w).distinct).2 h
  rw [laidOver, Keyed.get?_update v.distinct, Option.or_eq_some_iff] at hget
  exact hget.imp Keyed.mem_of_get? fun h => Keyed.mem_of_get? h.2

end Mapping

/-- Settings that entries change in one way are the same. -/
theorem Overlays.sameAs {separator : Separator} {entries more : List (String × String)}
    {base s t : Settings} (hs : Overlays separator entries base s)
    (ht : Overlays separator more base t)
    (h : ∀ key, Keyed.get? key entries = Keyed.get? key more) : s.SameAs t := by
  intro key
  cases hraw : Keyed.get? key.property entries with
  | none => rw [hs.others key hraw, ht.others key (h key.property ▸ hraw)]
  | some raw =>
    exact Except.ok.inj ((hs.named key raw hraw).symm.trans
      (ht.named key raw (h key.property ▸ hraw)))

theorem Overlays.trans {separator : Separator} {v w : Mapping} {s t u : Settings}
    (hv : Overlays separator v.entries s t) (hw : Overlays separator w.entries t u) :
    Overlays separator (w.laidOver v).entries s u := by
  have hget : ∀ key, Keyed.get? key (w.laidOver v).entries =
      (Keyed.get? key w.entries).or (Keyed.get? key v.entries) :=
    fun key => Keyed.get?_update w.distinct v.entries key
  refine ⟨fun key raw hraw => ?_, fun key hnone => ?_, fun h => hw.given (hv.given h)⟩
  · rw [hget, Option.or_eq_some_iff] at hraw
    rcases hraw with hraw | ⟨hnone, hraw⟩
    · exact hw.named key raw hraw
    · rw [hw.others key hnone]
      exact hv.named key raw hraw
  · rw [hget, Option.or_eq_none_iff] at hnone
    rw [hw.others key hnone.1, hv.others key hnone.2]

/-- Mappings act on settings: one after the other they do what both together do, their order does
not matter, they change what they name and nothing else, and they fail for the first entry that
cannot be read. -/
theorem overlay_acts (separator : Separator) (base : Settings) :
    (∀ (v w : Mapping) (s t : Settings), base.overlay separator v.entries = .ok s →
      s.overlay separator w.entries = .ok t →
      ∃ u, base.overlay separator (w.laidOver v).entries = .ok u ∧ u.SameAs t) ∧
    (∀ v w : Mapping, v.entries.Perm w.entries →
      ((∃ s, base.overlay separator v.entries = .ok s) ↔
        ∃ t, base.overlay separator w.entries = .ok t) ∧
      ∀ s t, base.overlay separator v.entries = .ok s →
        base.overlay separator w.entries = .ok t → s.SameAs t) ∧
    (base.ListsUnknown → ∀ (v : Mapping) (stop : Stop),
      base.overlay separator v.entries = .error stop ↔ FirstRefused separator v.entries stop) ∧
    ∀ (v : Mapping) (s : Settings) (key : Key), base.overlay separator v.entries = .ok s →
      key.property ∉ Keyed.keys v.entries → s.form key = base.form key := by
  refine ⟨fun v w s t hs ht => ?_, fun v w hperm => ⟨?_, fun s t hs ht => ?_⟩,
    fun hlists v stop => overlay_eq_error_iff hlists, fun v s key hs hkey => ?_⟩
  · have haccepted : ∀ entry ∈ (w.laidOver v).entries, ∀ stop, ¬Refuses separator entry stop :=
      fun entry hentry => (Mapping.mem_laidOver hentry).elim (accepted_of_overlay ht entry)
        (accepted_of_overlay hs entry)
    obtain ⟨u, hu, hlays⟩ := exists_overlay (listsUnknown_of_overlay hs) haccepted
    have htwice : Overlays separator (w.laidOver v).entries base t :=
      (overlays_of_overlay v.distinct hs).trans (overlays_of_overlay w.distinct ht)
    exact ⟨u, hu, (hlays (w.laidOver v).distinct).sameAs htwice fun _ => rfl⟩
  · constructor
    · rintro ⟨s, hs⟩
      obtain ⟨t, ht, _⟩ := exists_overlay (listsUnknown_of_overlay hs) fun entry hentry =>
        accepted_of_overlay hs entry (hperm.mem_iff.2 hentry)
      exact ⟨t, ht⟩
    · rintro ⟨t, ht⟩
      obtain ⟨s, hs, _⟩ := exists_overlay (listsUnknown_of_overlay ht) fun entry hentry =>
        accepted_of_overlay ht entry (hperm.mem_iff.1 hentry)
      exact ⟨s, hs⟩
  · exact (overlays_of_overlay v.distinct hs).sameAs (overlays_of_overlay w.distinct ht)
      (Keyed.get?_perm hperm v.distinct)
  · exact (overlays_of_overlay v.distinct hs).others key (Keyed.get?_eq_none_iff.2 hkey)

def quietMapping : Mapping where
  entries := [("resource.loader.cache", "off"), ("resource.loader.path", "a,, b")]

def loudMapping : Mapping where
  entries := [("doors", "4"), ("resource.loader.cache", " Yes ")]

def wrongMapping : Mapping where
  entries := [("log.level", "loud"), ("template.trim_blocks", "maybe"),
    ("resource.loader.cache", "never")]

theorem overlay_acts_of_words :
    (∃ s, ({} : Settings).overlay (.text ",") (loudMapping.laidOver quietMapping).entries = .ok s ∧
      s.form .templateCache = .value (.bool true) ∧ s.form .templatePath = .folders ["a", "b"] ∧
      s.form .templateName = .value (.string "entity.java.j2")) ∧
    ({} : Settings).ListsUnknown ∧
    FirstRefused (.text ",") wrongMapping.entries (.failure (badFlag .trimBlocks "maybe")) := by
  obtain ⟨hover, _, hfails, hothers⟩ := overlay_acts (.text ",") {}
  have hlists : ({} : Settings).ListsUnknown := ⟨{}, rfl⟩
  obtain ⟨s, hs, hsame⟩ := hover quietMapping loudMapping _ _ rfl rfl
  have hname : s.form .templateName = _ := hothers _ s .templateName hs (by decide)
  exact ⟨⟨s, hs, (hsame .templateCache).trans rfl, (hsame .templatePath).trans rfl, hname⟩, hlists,
    (hfails hlists wrongMapping _).1 rfl⟩

/-- Folders without a text between them are refused, though no word is wrong. -/
theorem overlay_error_of_empty_separator :
    ({} : Settings).overlay (.text "") [("resource.loader.path", "a")] =
        .error (.fault .emptySeparator) ∧
      ∀ key : Key, key.isFlag = true →
        key.property ∉ Keyed.keys [("resource.loader.path", "a")] := by
  refine ⟨rfl, fun key hflag hmem => ?_⟩
  cases key with
  | templateCache | trimBlocks | stripLines => exact absurd hmem (by decide)
  | _ => cases hflag

end BeanForge.Settings
