import BeanForge.Proofs.Text.Lines
import BeanForge.Settings.Properties
import Mathlib.Data.List.Induction

/-!
# Layouts of a settings text

An entry may be indented, its key may be parted from its value by a mark or by blanks, and the value
may be broken into pieces on lines of their own; blank lines and comments may stand anywhere between
the entries. Every such layout is read back as the entries that were written. Of entries with one
key the first gives the place and the last gives the value.
-/

namespace BeanForge.Properties

open Text

/-! What is written -/

structure IsKey (key : List Char) : Prop where
  ne_nil : key ≠ []
  plain : ∀ c ∈ key, isBlank c = false ∧ isSeparator c = false
  begins : ∀ c ∈ key.head?, c ≠ '#' ∧ c ≠ '!'

instance (key : List Char) : Decidable (IsKey key) :=
  decidable_of_iff (key ≠ [] ∧ key.all (fun c => !isBlank c && !isSeparator c) = true ∧
    key.head?.all (fun c => c ≠ '#' ∧ c ≠ '!') = true) (by
    refine ⟨fun ⟨hne, hplain, hbegins⟩ => ⟨hne, ?_, ?_⟩, fun h => ⟨h.ne_nil, ?_, ?_⟩⟩
    · simpa using hplain
    · intro c hc
      simpa [Option.mem_def.1 hc] using hbegins
    · simpa using h.plain
    · cases hhead : key.head? with
      | none => rfl
      | some c => simpa using h.begins c hhead)

structure IsValue (value : List Char) : Prop where
  begins : BeginsPlain value
  ends : EndsPlain value

instance (value : List Char) : Decidable (IsValue value) :=
  decidable_of_iff (BeginsPlain value ∧ EndsPlain value)
    ⟨fun ⟨hbegins, hends⟩ => ⟨hbegins, hends⟩, fun h => ⟨h.begins, h.ends⟩⟩

/-- What may stand between a key and a value. -/
inductive Divides (value : List Char) : List Char → Prop where
  | mark {before after : List Char} {c : Char} (hbefore : AllBlank before)
      (hc : isSeparator c = true) (hafter : AllBlank after) : Divides value (before ++ c :: after)
  | blanks {gap : List Char} (hgap : AllBlank gap) (hne : gap ≠ [])
      (hvalue : ∃ c rest, value = c :: rest ∧ isSeparator c = false) : Divides value gap

def EndsEven (cs : List Char) : Prop :=
  (cs.reverse.takeWhile (· = '\\')).length % 2 = 0

instance (cs : List Char) : Decidable (EndsEven cs) :=
  inferInstanceAs (Decidable ((cs.reverse.takeWhile (· = '\\')).length % 2 = 0))

/-- A value on lines of its own pieces, the first one behind a front. -/
inductive Broken : List Char → List Char → List (List Char) → Prop where
  | whole {front value after : List Char} (heven : EndsEven value) (hafter : AllBlank after) :
      Broken front value [front ++ (value ++ after)]
  | broken {front piece indentation value : List Char} {more : List (List Char)}
      (hpiece : piece ≠ []) (heven : EndsEven piece) (hindentation : AllBlank indentation)
      (hne : value ≠ []) (hbegins : BeginsPlain value) (hmore : Broken indentation value more) :
      Broken front (piece ++ value) ((front ++ (piece ++ ['\\'])) :: more)

inductive Idle : List Char → Prop where
  | blank {line : List Char} (h : AllBlank line) : Idle line
  | comment {before text : List Char} {c : Char} (h : AllBlank before) (hc : c = '#' ∨ c = '!') :
      Idle (before ++ c :: text)

/-- The lines on which entries are written. -/
inductive Layout : List (String × String) → List (List Char) → Prop where
  | nil : Layout [] []
  | idle {line : List Char} {entries : List (String × String)} {more : List (List Char)}
      (h : Idle line) (hmore : Layout entries more) : Layout entries (line :: more)
  | entry {key value : String} {before divider : List Char} {own more : List (List Char)}
      {entries : List (String × String)} (hkey : IsKey key.toList) (hvalue : IsValue value.toList)
      (hbefore : AllBlank before) (hdivider : Divides value.toList divider)
      (hown : Broken (before ++ (key.toList ++ divider)) value.toList own)
      (hmore : Layout entries more) : Layout ((key, value) :: entries) (own ++ more)

/-! Backslashes at the end of a line -/

theorem goesOn_of_endsEven {cs : List Char} (h : EndsEven cs) : goesOn cs = false := by
  rw [EndsEven] at h
  simp [goesOn, h]

theorem goesOn_append {front : List Char} (h : front.getLast? ≠ some '\\') (cs : List Char) :
    goesOn (front ++ cs) = goesOn cs := by
  have hfront : front.reverse.takeWhile (· = '\\') = [] := by
    rw [← List.head?_reverse] at h
    cases hr : front.reverse with
    | nil => rfl
    | cons c rest =>
      rw [hr, List.head?_cons] at h
      exact List.takeWhile_cons_of_neg (by simpa using fun e => h (congrArg some e))
  rw [goesOn, goesOn, List.reverse_append, List.takeWhile_append, hfront]
  split
  · rename_i hall
    rw [List.append_nil, hall]
  · rfl

theorem goesOn_backslash (cs : List Char) : goesOn (cs ++ ['\\']) = !goesOn cs := by
  have hlength : ((cs ++ ['\\']).reverse.takeWhile (· = '\\')).length =
      (cs.reverse.takeWhile (· = '\\')).length + 1 := by simp
  rw [goesOn, goesOn, hlength, Bool.eq_iff_iff]
  simp only [beq_iff_eq, Bool.not_eq_true', beq_eq_false_iff_ne]
  omega

theorem goesOn_append_blanks {cs after : List Char} (heven : EndsEven cs)
    (hafter : AllBlank after) : goesOn (cs ++ after) = false := by
  by_cases hne : after = []
  · rw [hne, List.append_nil, goesOn_of_endsEven heven]
  · have hlast : (cs ++ after).getLast? ≠ some '\\' := by
      intro h
      rw [List.getLast?_append, List.getLast?_eq_some_getLast hne, Option.some_or] at h
      have hblank := hafter _ (List.getLast_mem hne)
      rw [Option.some.inj h] at hblank
      exact absurd hblank (by decide)
    simpa [goesOn] using goesOn_append hlast []

/-! One entry -/

theorem IsKey.beginsPlain {key : List Char} (h : IsKey key) : BeginsPlain key := by
  intro c hc
  exact (h.plain c (List.mem_of_mem_head? hc)).1

theorem IsKey.trim_eq {key : List Char} (h : IsKey key) : trim key = key := by
  have hends : EndsPlain key := fun c hc => (h.plain c (List.mem_of_mem_getLast? hc)).1
  simpa using @trim_padded [] key [] allBlank_nil h.beginsPlain hends allBlank_nil

theorem not_isBlank_of_isSeparator {c : Char} (h : isSeparator c = true) : isBlank c = false := by
  simp only [isSeparator, Bool.or_eq_true, decide_eq_true_eq] at h
  rcases h with rfl | rfl <;> rfl

theorem not_isSeparator_of_isBlank {c : Char} (h : isBlank c = true) : isSeparator c = false := by
  cases hc : isSeparator c with
  | false => rfl
  | true => rw [not_isBlank_of_isSeparator hc] at h; cases h

theorem splitEntry_append {key : List Char}
    (h : ∀ c ∈ key, isBlank c = false ∧ isSeparator c = false) (read rest : List Char) :
    splitEntry read (key ++ rest) = splitEntry (key.reverse ++ read) rest := by
  induction key generalizing read with
  | nil => rfl
  | cons c key ih =>
    obtain ⟨hblank, hseparator⟩ := h c List.mem_cons_self
    rw [List.cons_append, splitEntry, hseparator, hblank, if_neg Bool.false_ne_true,
      if_neg Bool.false_ne_true, ih fun d hd => h d (List.mem_cons_of_mem c hd)]
    simp

theorem entryOf_separator {key : List Char} (hkey : IsKey key) {c : Char}
    (hc : isSeparator c = true) (rest : List Char) :
    entryOf (key ++ c :: rest) = (key, trim rest) := by
  rw [entryOf, splitEntry_append hkey.plain, List.append_nil, splitEntry, if_pos hc,
    List.reverse_reverse, hkey.trim_eq]

theorem entryOf_blanks {key gap : List Char} (hkey : IsKey key) (hgap : AllBlank gap)
    (hne : gap ≠ []) (rest : List Char) :
    entryOf (key ++ (gap ++ rest)) = (key, valueAfterBlank rest) := by
  obtain ⟨b, more, rfl⟩ := List.exists_cons_of_ne_nil hne
  have hb : isBlank b = true := hgap b List.mem_cons_self
  have hnot : ¬isSeparator b = true := by simp [not_isSeparator_of_isBlank hb]
  have hrest : valueAfterBlank (b :: more ++ rest) = valueAfterBlank rest := by
    rw [valueAfterBlank, valueAfterBlank, trimLeft_append_blanks hgap]
  rw [entryOf, splitEntry_append hkey.plain, List.append_nil, List.cons_append, splitEntry,
    if_neg hnot, if_pos hb, List.reverse_reverse, hkey.trim_eq, ← List.cons_append, hrest]

theorem valueAfterBlank_separator {c : Char} (hc : isSeparator c = true) (rest : List Char) :
    valueAfterBlank (c :: rest) = trim rest := by
  have hleft : trimLeft (c :: rest) = c :: rest :=
    trimLeft_of_beginsPlain fun d hd => by cases hd; exact not_isBlank_of_isSeparator hc
  rw [valueAfterBlank, hleft]
  exact if_pos hc

theorem valueAfterBlank_of_plain {c : Char} (hblank : isBlank c = false)
    (hc : isSeparator c = false) (rest : List Char) :
    valueAfterBlank (c :: rest) = trim (c :: rest) := by
  have hleft : trimLeft (c :: rest) = c :: rest :=
    trimLeft_of_beginsPlain fun d hd => by cases hd; exact hblank
  rw [valueAfterBlank, hleft]
  exact if_neg (by simp [hc])

/-- Key and value are found on either side of what divides them. -/
theorem entryOf_divided {key divider value after : List Char} (hkey : IsKey key)
    (hvalue : IsValue value) (hdivider : Divides value divider) (hafter : AllBlank after) :
    entryOf (key ++ (divider ++ (value ++ after))) = (key, value) := by
  have htrim {before : List Char} (h : AllBlank before) :
      trim (before ++ (value ++ after)) = value :=
    trim_padded h hvalue.begins hvalue.ends hafter
  cases hdivider with
  | @mark before after' c hbefore hc hafter' =>
    rw [List.append_assoc, List.cons_append]
    by_cases hne : before = []
    · rw [hne, List.nil_append, entryOf_separator hkey hc, htrim hafter']
    · rw [entryOf_blanks hkey hbefore hne, valueAfterBlank_separator hc, htrim hafter']
  | blanks hgap hne hbegins =>
    obtain ⟨c, rest, rfl, hc⟩ := hbegins
    have hblank : isBlank c = false := hvalue.begins c rfl
    have hwhole : trim (c :: (rest ++ after)) = c :: rest := htrim allBlank_nil
    rw [entryOf_blanks hkey hgap hne, List.cons_append, valueAfterBlank_of_plain hblank hc, hwhole]

theorem Divides.getLast?_ne {value divider : List Char} (h : Divides value divider)
    (front : List Char) : (front ++ divider).getLast? ≠ some '\\' := by
  have hmem : ∀ c ∈ divider, c ≠ '\\' := by
    rintro c hc rfl
    cases h with
    | mark hbefore hc' hafter =>
      rcases List.mem_append.1 hc with hc | hc
      · exact absurd (hbefore _ hc) (by decide)
      · rcases List.mem_cons.1 hc with rfl | hc
        · exact absurd hc' (by decide)
        · exact absurd (hafter _ hc) (by decide)
    | blanks hgap _ _ => exact absurd (hgap _ hc) (by decide)
  have hne : divider ≠ [] := by
    cases h with
    | mark => simp
    | blanks _ hne _ => exact hne
  rw [List.getLast?_append, List.getLast?_eq_some_getLast hne, Option.some_or]
  exact fun e => hmem _ (List.getLast_mem hne) (Option.some.inj e)

/-- Of an entry on one line what divides it is left, but for blanks at the end of the line. -/
theorem exists_trim_entry {before key divider value after : List Char} (hkey : IsKey key)
    (hvalue : IsValue value) (hbefore : AllBlank before) (hdivider : Divides value divider)
    (hafter : AllBlank after) :
    ∃ left, Divides value left ∧
      trim (before ++ (key ++ (divider ++ (value ++ after)))) = key ++ (left ++ value) := by
  by_cases hne : value = []
  · subst hne
    cases hdivider with
    | @mark before' after' c hbefore' hc hafter' =>
      refine ⟨before' ++ [c], .mark hbefore' hc allBlank_nil, ?_⟩
      have hends : EndsPlain (key ++ (before' ++ [c])) := by
        rw [← List.append_assoc]
        refine endsPlain_append _ (fun d hd => ?_) (List.cons_ne_nil c [])
        cases hd
        exact not_isBlank_of_isSeparator hc
      have hblanks : AllBlank (after' ++ after) := allBlank_append hafter' hafter
      have htrim := trim_padded hbefore (beginsPlain_append hkey.beginsPlain hkey.ne_nil _) hends
        hblanks
      simpa using htrim
    | blanks _ _ hvalue' =>
      obtain ⟨c, rest, h, _⟩ := hvalue'
      cases h
  · refine ⟨divider, hdivider, ?_⟩
    have hends : EndsPlain (key ++ (divider ++ value)) := by
      rw [← List.append_assoc]
      exact endsPlain_append _ hvalue.ends hne
    have htrim := trim_padded hbefore (beginsPlain_append hkey.beginsPlain hkey.ne_nil _) hends
      hafter
    simpa using htrim

theorem isComment_append {key : List Char} (hkey : IsKey key) (rest : List Char) :
    isComment (key ++ rest) = false := by
  obtain ⟨c, more, rfl⟩ := List.exists_cons_of_ne_nil hkey.ne_nil
  obtain ⟨hhash, hmark⟩ := hkey.begins c rfl
  simp [isComment, hhash, hmark]

/-- The lines after the first one give the rest of a value, and then the entry is complete. -/
theorem entriesFrom_broken {front value unfinished : List Char} {own : List (List Char)}
    (h : Broken front value own) (hunfinished : unfinished ≠ []) (hfront : AllBlank front)
    (hne : value ≠ []) (hbegins : BeginsPlain value) :
    ∃ after, AllBlank after ∧ ∀ ls, entriesFrom unfinished (own ++ ls) =
      entryOf (unfinished ++ (value ++ after)) :: entriesFrom [] ls := by
  induction h generalizing unfinished with
  | @whole front value after heven hafter =>
    refine ⟨after, hafter, fun ls => ?_⟩
    have hline : trimLeft (front ++ (value ++ after)) = value ++ after := by
      rw [trimLeft_append_blanks hfront, trimLeft_of_beginsPlain (beginsPlain_append hbegins hne _)]
    rw [List.singleton_append, entriesFrom]
    simp [hunfinished, hline, goesOn_append_blanks heven hafter]
  | @broken front piece indentation value more hpiece heven hindentation hvalue hplain _ ih =>
    have hbegins' : BeginsPlain piece := by
      obtain ⟨c, rest, rfl⟩ := List.exists_cons_of_ne_nil hpiece
      exact hbegins
    have hmore : unfinished ++ piece ≠ [] := by simp [hunfinished]
    obtain ⟨after, hafter, hrest⟩ := ih hmore hindentation hvalue hplain
    refine ⟨after, hafter, fun ls => ?_⟩
    have hline : trimLeft (front ++ (piece ++ ['\\'])) = piece ++ ['\\'] := by
      rw [trimLeft_append_blanks hfront,
        trimLeft_of_beginsPlain (beginsPlain_append hbegins' hpiece _)]
    have hgoes : goesOn (piece ++ ['\\']) = true := by
      rw [goesOn_backslash, goesOn_of_endsEven heven, Bool.not_false]
    rw [List.cons_append, entriesFrom]
    simp only [hunfinished, hline, hgoes, if_false, if_true, decide_false, Bool.false_and,
      Bool.false_eq_true, List.dropLast_concat]
    rw [hrest ls]
    simp only [List.append_assoc]

/-- Whatever its layout, an entry is read as it was written. -/
theorem entriesFrom_entry {before key divider value : List Char} {own : List (List Char)}
    (hkey : IsKey key) (hvalue : IsValue value) (hbefore : AllBlank before)
    (hdivider : Divides value divider) (hown : Broken (before ++ (key ++ divider)) value own)
    (ls : List (List Char)) : entriesFrom [] (own ++ ls) = (key, value) :: entriesFrom [] ls := by
  generalize hfront : before ++ (key ++ divider) = front at hown
  cases hown with
  | @whole _ _ after heven hafter =>
    obtain ⟨left, hleft, htrim⟩ := exists_trim_entry hkey hvalue hbefore hdivider hafter
    have hline : trim (front ++ (value ++ after)) = key ++ (left ++ value) := by
      rw [← htrim, ← hfront]
      simp only [List.append_assoc]
    have hgoes : goesOn (key ++ (left ++ value)) = false := by
      rw [← List.append_assoc, goesOn_append (hleft.getLast?_ne key), goesOn_of_endsEven heven]
    have hentry : entryOf (key ++ (left ++ value)) = (key, value) := by
      simpa using entryOf_divided hkey hvalue hleft allBlank_nil
    rw [List.singleton_append, entriesFrom]
    simp [hline, isComment_append hkey, hgoes, hentry]
  | @broken _ piece indentation value' more hpiece heven hindentation hne hplain hmore =>
    have hline : trim (front ++ (piece ++ ['\\'])) = key ++ (divider ++ (piece ++ ['\\'])) := by
      have hends : EndsPlain (key ++ (divider ++ (piece ++ ['\\']))) := by
        rw [← List.append_assoc, ← List.append_assoc]
        exact endsPlain_append _ (by simp [EndsPlain, isBlank]) (by simp)
      have htrim := trim_padded hbefore (beginsPlain_append hkey.beginsPlain hkey.ne_nil _) hends
        allBlank_nil
      rw [← hfront]
      simpa using htrim
    have hgoes : goesOn (key ++ (divider ++ (piece ++ ['\\']))) = true := by
      rw [← List.append_assoc, goesOn_append (hdivider.getLast?_ne key), goesOn_backslash,
        goesOn_of_endsEven heven, Bool.not_false]
    have hdrop : (key ++ (divider ++ (piece ++ ['\\']))).dropLast = key ++ (divider ++ piece) := by
      rw [← List.append_assoc, ← List.append_assoc, List.dropLast_concat, List.append_assoc]
    have hunfinished : key ++ (divider ++ piece) ≠ [] := by simp [hkey.ne_nil]
    obtain ⟨after, hafter, hrest⟩ := entriesFrom_broken hmore hunfinished hindentation hne hplain
    have hentry := entryOf_divided hkey hvalue hdivider hafter
    rw [List.cons_append, entriesFrom]
    simp only [hline, isComment_append hkey, hgoes, hdrop, if_true, decide_true, Bool.and_false,
      Bool.false_eq_true, if_false, List.nil_append]
    rw [hrest ls, ← hentry]
    simp only [List.append_assoc]

theorem entriesFrom_idle {line : List Char} (h : Idle line) (ls : List (List Char)) :
    entriesFrom [] (line :: ls) = entriesFrom [] ls := by
  have hcomment : isComment (trim line) = true := by
    cases h with
    | blank h =>
      have htrim : trim line = [] := by
        have hbegins : BeginsPlain [] := by simp [BeginsPlain]
        have hends : EndsPlain [] := by simp [EndsPlain]
        simpa using trim_padded h hbegins hends allBlank_nil
      rw [htrim]
      rfl
    | @comment before text c h hc =>
      have hplain : BeginsPlain (c :: text) := fun d hd => by
        cases hd
        rcases hc with rfl | rfl <;> rfl
      obtain ⟨more, hmore⟩ := exists_trimRight_cons (hplain c rfl) text
      rw [trim, trimLeft_append_blanks h, trimLeft_of_beginsPlain hplain, hmore]
      simpa [isComment] using hc
  rw [entriesFrom]
  simp [hcomment]

/-- All entries are read, in order, and nothing else. -/
theorem entriesFrom_layout {entries : List (String × String)} {ls : List (List Char)}
    (h : Layout entries ls) :
    entriesFrom [] ls = entries.map fun (key, value) => (key.toList, value.toList) := by
  induction h with
  | nil => rfl
  | idle h _ ih => rw [entriesFrom_idle h, ih]
  | entry hkey hvalue hbefore hdivider hown _ ih =>
    rw [entriesFrom_entry hkey hvalue hbefore hdivider hown, ih, List.map_cons]

/-! The mapping -/

theorem keys_update_eq (entries : List (String × String)) :
    Keyed.keys (Keyed.update [] entries) = (entries.map (·.1)).eraseDups := by
  induction entries using List.reverseRecOn with
  | nil => rfl
  | append_singleton entries entry ih =>
    rw [Keyed.update_concat, Keyed.keys_put, ih, List.map_append, List.eraseDups_append]
    by_cases hmem : entry.1 ∈ entries.map (·.1)
    · simp [List.removeAll, hmem]
    · simp [List.removeAll, hmem, List.eraseDups_cons]

theorem get?_update_eq (key : String) (entries : List (String × String)) :
    Keyed.get? key (Keyed.update [] entries) =
      (entries.reverse.find? (·.1 = key)).map (·.2) := by
  induction entries using List.reverseRecOn with
  | nil => rfl
  | append_singleton entries entry ih =>
    rw [Keyed.update_concat, Keyed.get?_put, ih, List.reverse_append, List.reverse_singleton,
      List.singleton_append, List.find?_cons]
    by_cases hkey : entry.1 = key
    · simp [hkey]
    · simp [hkey, Ne.symm hkey]

/-- However its entries are laid out, a text gives each key once, where it came first, with the
value that came last. -/
theorem parse_layout {entries : List (String × String)} {ls : List (List Char)} {text : String}
    (hlayout : Layout entries ls) (htext : Lines ls text.toList) :
    Keyed.keys (parse text) = (entries.map (·.1)).eraseDups ∧
      ∀ key, Keyed.get? key (parse text) =
        (entries.reverse.find? (·.1 = key)).map (·.2) := by
  have hparse : parse text = Keyed.update [] entries := by
    rw [parse, lines_eq htext, entriesFrom_layout hlayout, collect, List.map_map]
    simp [Function.comp_def]
  rw [hparse]
  exact ⟨keys_update_eq entries, fun key => get?_update_eq key entries⟩

def carText : String :=
  "! car\\\r\n doors = two\\\n\tfold \nseats  5\rdoors:=4"

def carLines : List (List Char) :=
  ["! car\\".toList, " doors = two\\".toList, "\tfold ".toList, "seats  5".toList,
    "doors:=4".toList]

def carEntries : List (String × String) :=
  [("doors", "twofold"), ("seats", "5"), ("doors", "=4")]

theorem layout_car : Layout carEntries carLines := by
  have hcomment : Idle "! car\\".toList :=
    @Idle.comment [] " car\\".toList '!' allBlank_nil (.inr rfl)
  have hequals : Divides "twofold".toList " = ".toList :=
    @Divides.mark _ [' '] [' '] '=' (by decide) rfl (by decide)
  have htwofold : Broken " doors = ".toList "twofold".toList (carLines.drop 1 |>.take 2) :=
    @Broken.broken " doors = ".toList "two".toList ['\t'] "fold".toList _ (by decide) (by decide)
      (by decide) (by decide) (by decide) (@Broken.whole ['\t'] _ [' '] (by decide) (by decide))
  have hblanks : Divides "5".toList [' ', ' '] :=
    .blanks (by decide) (by decide) ⟨'5', [], rfl, rfl⟩
  have hfive : Broken "seats  ".toList "5".toList ["seats  5".toList] :=
    @Broken.whole _ _ [] (by decide) allBlank_nil
  have hcolon : Divides "=4".toList [':'] := @Divides.mark _ [] [] ':' allBlank_nil rfl allBlank_nil
  have hfour : Broken "doors:".toList "=4".toList ["doors:=4".toList] :=
    @Broken.whole _ _ [] (by decide) allBlank_nil
  have hdoors : IsKey "doors".toList := by decide
  have hkey : IsKey "seats".toList := by decide
  have hlast : Layout [("doors", "=4")] ["doors:=4".toList] :=
    .entry hdoors (by decide) allBlank_nil hcolon hfour .nil
  have hseats : Layout (carEntries.drop 1) (carLines.drop 3) :=
    .entry hkey (by decide) allBlank_nil hblanks hfive hlast
  have hindented : AllBlank [' '] := by decide
  exact .idle hcomment (.entry hdoors (by decide) hindented hequals htwofold hseats)

theorem lines_car : Lines carLines carText.toList :=
  .cons (by decide) (.pair _) <| .cons (by decide) (.single (c := '\n') (by decide) (by decide)) <|
    .cons (by decide) (.single (c := '\n') (by decide) (by decide)) <|
    .cons (by decide) (.single (c := '\r') (by decide) (by decide)) <| .last (by decide) (by decide)

theorem parse_layout_of_car :
    Layout carEntries carLines ∧ Lines carLines carText.toList ∧
      Keyed.keys (parse carText) = ["doors", "seats"] ∧
      Keyed.get? "doors" (parse carText) = some "=4" := by
  obtain ⟨hkeys, hvalues⟩ := parse_layout layout_car lines_car
  exact ⟨layout_car, lines_car, hkeys.trans rfl, (hvalues "doors").trans rfl⟩

end BeanForge.Properties
