import BeanForge.Proofs.Artifact.Recording
import Mathlib.Data.List.Induction

/-!
# What sinks in memory contribute

The artifacts in memory only get more. A sink adds one to them if the move that settles it first is
to keep it: then and there, and with all that was written to it before. Nothing else that is done
with a sink shows among the artifacts. A stream in memory takes every text, so no move comes with a
refusal here.
-/

namespace BeanForge

/-! What moves are about -/

namespace Move

def number? : Move → Option Nat
  | create _ => none
  | write number _ _ => some number
  | close number _ => some number
  | discard number _ => some number
  | leave number _ _ => some number

def refusal? : Move → Option String
  | create _ => none
  | write _ _ refusal => refusal.map (·.reason)
  | close _ refusal => refusal
  | discard _ refusal => refusal
  | leave _ _ refusal => refusal

def settles : Move → Bool
  | create _ => false
  | write _ _ _ => false
  | _ => true

def keeps : Move → Bool
  | close _ _ => true
  | leave _ raised _ => !raised
  | _ => false

def text? : Move → Option String
  | write _ text _ => some text
  | _ => none

theorem settles_of_keeps {m : Move} (h : m.keeps = true) : m.settles = true := by
  cases m with
  | create | write => cases h
  | _ => rfl

end Move

namespace Recording

/-- What is done with a sink along a run, from the time on when the sink is there. -/
def deeds [Codecs] (s : Recording) (number : Nat) : List Move → List Move
  | [] => []
  | m :: rest =>
    if m.number? = some number ∧ number < s.drafts.length then m :: (s.step m).deeds number rest
    else (s.step m).deeds number rest

def artifactOf (extension qualifiedName : String) (deeds : List Move) : Recorded where
  path := relativePath qualifiedName extension
  content := String.join (deeds.filterMap Move.text?)
  qualifiedName := qualifiedName

/-- What a sink contributes: the first move that settles it decides. -/
def contribution? (extension qualifiedName : String) (deeds : List Move) : Option Recorded :=
  match deeds.find? (·.settles) with
  | some m =>
    if m.keeps then
      some (artifactOf extension qualifiedName (deeds.takeWhile (!·.settles)))
    else none
  | none => none

def share? (s : Recording) (extension : String) (deeds : Nat → List Move) (number : Nat) :
    Option Recorded :=
  s.drafts[number]?.bind fun d => contribution? extension d.sink.qualifiedName (deeds number)

/-- What a move adds to the artifacts: something only if it is to keep a sink that nothing has
settled yet. -/
def addition? (s : Recording) (extension : String) (deeds : Nat → List Move) (m : Move) :
    Option Recorded :=
  m.number?.bind fun number => s.drafts[number]?.bind fun d =>
    if m.keeps && !(deeds number).any Move.settles then
      some (artifactOf extension d.sink.qualifiedName (deeds number))
    else none

def Gathers (share? : Nat → Option Recorded) (files : List Recorded) : Prop :=
  ∃ numbers : List Nat, numbers.Nodup ∧ numbers.map share? = files.map some ∧
    ∀ number, number ∈ numbers ↔ (share? number).isSome = true

/-! Contributions -/

variable {extension qualifiedName : String} {deeds : List Move}

theorem find?_of_open (h : deeds.any Move.settles = false) :
    deeds.find? (·.settles) = none := by
  rw [List.find?_eq_none]
  simpa using h

theorem contribution?_of_open (h : deeds.any Move.settles = false) :
    contribution? extension qualifiedName deeds = none := by
  rw [contribution?, find?_of_open h]

theorem contribution?_concat_of_open (h : deeds.any Move.settles = false) (m : Move) :
    contribution? extension qualifiedName (deeds ++ [m]) =
      if m.keeps then some (artifactOf extension qualifiedName deeds) else none := by
  have hfind : (deeds ++ [m]).find? (·.settles) = [m].find? (·.settles) := by
    rw [List.find?_append, find?_of_open h, Option.none_or]
  have htake : (deeds ++ [m]).takeWhile (!·.settles) = deeds ++ [m].takeWhile (!·.settles) :=
    List.takeWhile_append_of_pos (by simpa using h)
  rw [contribution?, hfind, htake]
  cases hm : m.settles with
  | true => simp [hm]
  | false =>
    have hkeeps : m.keeps = false := by
      cases hkeeps : m.keeps with
      | false => rfl
      | true => cases hm.symm.trans (Move.settles_of_keeps hkeeps)
    simp [hm, hkeeps]

/-- What comes after the first settlement changes nothing. -/
theorem contribution?_concat_of_settled (h : deeds.any Move.settles = true) (m : Move) :
    contribution? extension qualifiedName (deeds ++ [m]) =
      contribution? extension qualifiedName deeds := by
  obtain ⟨e, he, hsettles⟩ := List.any_eq_true.1 h
  obtain ⟨first, hfirst⟩ := Option.isSome_iff_exists.1 (List.find?_isSome.2 ⟨e, he, hsettles⟩)
  have hlength : (deeds.takeWhile (!·.settles)).length ≠ deeds.length := fun hlength => by
    have hall := List.all_eq_true.1 (List.all_takeWhile (p := (!Move.settles ·)) (l := deeds))
    rw [(List.takeWhile_prefix _).eq_of_length hlength] at hall
    cases hsettles.symm.trans (by simpa using hall e he)
  rw [contribution?, contribution?, List.find?_append, List.takeWhile_append, if_neg hlength,
    hfirst]
  rfl

theorem Gathers.congr {share? other? : Nat → Option Recorded} {files : List Recorded}
    (h : Gathers share? files) (hsame : ∀ number, other? number = share? number) :
    Gathers other? files := by
  rwa [funext hsame]

/-- A sink that has contributed nothing may add an artifact. -/
theorem Gathers.append {share? other? : Nat → Option Recorded} {files : List Recorded}
    (h : Gathers share? files) (number : Nat) {added : Option Recorded}
    (hothers : ∀ k, k ≠ number → other? k = share? k)
    (hown : other? number = (share? number).or added)
    (honce : (share? number).isSome = true → added = none) :
    Gathers other? (files ++ added.toList) := by
  cases added with
  | none =>
    rw [Option.toList_none, List.append_nil]
    refine h.congr fun k => ?_
    by_cases hk : k = number
    · rw [hk, hown, Option.or_none]
    · exact hothers k hk
  | some artifact =>
    have hnone : share? number = none := by
      cases hentry : share? number with
      | none => rfl
      | some known =>
        rw [hentry] at honce
        cases honce rfl
    obtain ⟨numbers, hdistinct, hentries, hmem⟩ := h
    have hnew : number ∉ numbers := fun hin => by simp [hmem, hnone] at hin
    refine ⟨numbers ++ [number], ?_, ?_, fun k => ?_⟩
    · exact List.nodup_append.2 ⟨hdistinct, List.nodup_singleton number, fun k hk l hl e =>
        hnew (List.mem_singleton.1 hl ▸ e ▸ hk)⟩
    · have hsame : numbers.map other? = numbers.map share? :=
        List.map_congr_left fun k hk => hothers k fun e => hnew (e ▸ hk)
      rw [List.map_append, List.map_append, hsame, hentries, List.map_singleton, hown, hnone]
      rfl
    · by_cases hk : k = number
      · simp [hk, hown, hnone]
      · simp [hk, hothers k hk, hmem]

end Recording

/-! One sink -/

/-- A sink is open until a move settles it, and an open one holds what was written to it. -/
structure Draft.Bears (extension : String) (deeds : List Move) (d : Draft) : Prop where
  keeping : d.sink.keeping = .recorded (relativePath d.sink.qualifiedName extension)
  closed : d.sink.isClosed = deeds.any Move.settles
  holds : deeds.any Move.settles = false →
    d.sink.stream = .buffer (String.join (deeds.filterMap Move.text?)) true

namespace Draft

variable {extension : String} {deeds : List Move} {d : Draft}

theorem Bears.write [Codecs] (h : d.Bears extension deeds) (number : Nat) (text : String) :
    ({ d with sink := (d.sink.write text none).1 } : Draft).Bears extension
      (deeds ++ [Move.write number text none]) := by
  have hany : (deeds ++ [Move.write number text none]).any Move.settles =
      deeds.any Move.settles := by
    simp [Move.settles]
  refine ⟨?_, ?_, fun hopen => ?_⟩
  · rw [Sink.write_fst]
    exact h.keeping
  · rw [Sink.write_fst, hany]
    exact h.closed
  · rw [hany] at hopen
    simp [Sink.write, h.holds hopen, Stream.write, Move.text?]

/-- What settles a closed sink leaves it as it is. -/
theorem Bears.settled (h : d.Bears extension deeds) (hclosed : d.sink.isClosed = true)
    (m : Move) : d.Bears extension (deeds ++ [m]) := by
  have hany : (deeds ++ [m]).any Move.settles = true := by
    rw [List.any_append, ← h.closed, hclosed, Bool.true_or]
  exact ⟨h.keeping, hclosed.trans hany.symm, fun hopen => by cases hany.symm.trans hopen⟩

theorem Bears.close (h : d.Bears extension deeds) {m : Move} (hm : m.settles = true)
    (stream : Stream) (fate : Fate) :
    ({ d with sink := { d.sink with stream, isClosed := true }, fate } : Draft).Bears extension
      (deeds ++ [m]) := by
  have hany : (deeds ++ [m]).any Move.settles = true := by
    rw [List.any_append, List.any_cons, hm, Bool.true_or, Bool.or_true]
  exact ⟨h.keeping, hany.symm, fun hopen => by cases hany.symm.trans hopen⟩

end Draft

/-! All sinks -/

namespace Recording

variable {extension : String} {s : Recording} {deeds : Nat → List Move}

/-- The sinks of a store hold what was written to them, and what they contribute is recorded. -/
structure Tallies (extension : String) (s : Recording) (deeds : Nat → List Move) : Prop where
  store : s.site.store = .memory extension s.site.store.files
  bears : ∀ (number : Nat) (d : Draft), s.drafts[number]? = some d →
    d.Bears extension (deeds number)
  unmade : ∀ number, s.drafts.length ≤ number → deeds number = []
  gathers : Gathers (s.share? extension deeds) s.site.store.files

def after (s : Recording) (deeds : Nat → List Move) (m : Move) (number : Nat) : List Move :=
  deeds number ++ if m.number? = some number ∧ number < s.drafts.length then [m] else []

theorem deeds_concat [Codecs] (s : Recording) (moves : List Move) (m : Move) (number : Nat) :
    s.deeds number (moves ++ [m]) = (s.run moves).after (s.deeds · moves) m number := by
  induction moves generalizing s with
  | nil =>
    simp only [List.nil_append, deeds, after, run, List.foldl_nil]
    rfl
  | cons first rest ih =>
    rw [List.cons_append, deeds, ih, after, after, deeds]
    split <;> rfl

theorem after_of_ne {m : Move} {number : Nat} (h : m.number? ≠ some number) :
    s.after deeds m number = deeds number := by
  rw [after, if_neg fun hm => h hm.1, List.append_nil]

theorem after_of_made {m : Move} {number : Nat} {d : Draft} (hm : m.number? = some number)
    (hd : s.drafts[number]? = some d) : s.after deeds m number = deeds number ++ [m] := by
  rw [after, if_pos ⟨hm, (List.getElem?_eq_some_iff.1 hd).1⟩]

theorem after_of_unmade {m : Move} {number : Nat} (h : s.drafts[number]? = none) :
    s.after deeds m number = deeds number := by
  rw [after, if_neg fun hm => Nat.not_lt_of_le (List.getElem?_eq_none_iff.1 h) hm.2,
    List.append_nil]

theorem tallies_start (tree : FileTree) (extension workingFolder : String) :
    (start tree extension workingFolder).Tallies extension fun _ => [] where
  store := rfl
  bears := by simp [start]
  unmade := fun _ _ => rfl
  gathers := ⟨[], List.nodup_nil, rfl, by simp [share?, start]⟩

/-- A move about one sink keeps the tally if it records what it adds. -/
theorem Tallies.replace (h : s.Tallies extension deeds) {number : Nat} {d e : Draft} {m : Move}
    {site : Site} (hm : m.number? = some number) (hd : s.drafts[number]? = some d)
    (hname : e.sink.qualifiedName = d.sink.qualifiedName)
    (hbears : e.Bears extension (deeds number ++ [m]))
    (hstore : site.store = .memory extension site.store.files)
    (hfiles : site.store.files =
      s.site.store.files ++ (s.addition? extension deeds m).toList) :
    Tallies extension { site, drafts := s.drafts.set number e } (s.after deeds m) := by
  have hlt : number < s.drafts.length := (List.getElem?_eq_some_iff.1 hd).1
  have hself : (s.drafts.set number e)[number]? = some e := List.getElem?_set_self hlt
  have hother {k : Nat} (hk : k ≠ number) : (s.drafts.set number e)[k]? = s.drafts[k]? :=
    List.getElem?_set_ne (Ne.symm hk)
  have hafter {k : Nat} (hk : k ≠ number) : s.after deeds m k = deeds k :=
    after_of_ne fun hmk => hk (Option.some.inj (hmk.symm.trans hm))
  have hown := @after_of_made s deeds m number d hm hd
  refine ⟨hstore, fun k f hf => ?_, fun k hk => ?_, ?_⟩
  · by_cases hk : k = number
    · subst hk
      rw [hown, ← Option.some.inj (hself.symm.trans hf)]
      exact hbears
    · rw [hafter hk]
      exact h.bears k f (hother hk ▸ hf)
  · rw [List.length_set] at hk
    rw [hafter (Nat.ne_of_gt (Nat.lt_of_lt_of_le hlt hk))]
    exact h.unmade k hk
  · rw [hfiles]
    have hadded : s.addition? extension deeds m =
        if m.keeps && !(deeds number).any Move.settles then
          some (artifactOf extension d.sink.qualifiedName (deeds number)) else none := by
      rw [addition?, hm, Option.bind_some, hd, Option.bind_some]
    have hbefore : s.share? extension deeds number =
        contribution? extension d.sink.qualifiedName (deeds number) := by
      rw [share?, hd, Option.bind_some]
    have hlater : share? { site, drafts := s.drafts.set number e } extension (s.after deeds m)
        number = contribution? extension d.sink.qualifiedName (deeds number ++ [m]) := by
      rw [share?, hself, Option.bind_some, hown, hname]
    refine h.gathers.append number (fun k hk => ?_) ?_ fun hsome => ?_
    · rw [share?, share?, hother hk, hafter hk]
    · rw [hlater, hbefore, hadded]
      cases hsettled : (deeds number).any Move.settles with
      | true => simp [contribution?_concat_of_settled hsettled]
      | false => simp [contribution?_concat_of_open hsettled, contribution?_of_open hsettled]
    · rw [hbefore] at hsome
      cases hsettled : (deeds number).any Move.settles with
      | true => simp [hadded, hsettled]
      | false => simp [contribution?_of_open hsettled] at hsome

/-! Moves -/

/-- A closed sink and its store stay as they are, however it is closed again. -/
theorem settle_of_isClosed {number : Nat} {d : Draft} (hd : s.drafts[number]? = some d)
    (h : d.sink.isClosed = true) (refusal : Option String) (keeps : Bool) :
    s.settle number refusal keeps = s := by
  obtain ⟨hlt, rfl⟩ := List.getElem?_eq_some_iff.1 hd
  simp only [settle, update, hd, Site.close_of_isClosed _ _ h, Site.discard_of_isClosed _ _ h,
    ite_self, Draft.afterClosing_of_isClosed h, List.set_getElem_self]

theorem step_of_isClosed [Codecs] {m : Move} {number : Nat} {d : Draft} (hm : m.settles = true)
    (hnumber : m.number? = some number) (hd : s.drafts[number]? = some d)
    (h : d.sink.isClosed = true) : s.step m = s := by
  cases m with
  | create | write => cases hm
  | close | discard | leave =>
    cases hnumber
    exact settle_of_isClosed hd h _ _

theorem settle_of_open {number : Nat} {d : Draft} {path text : String}
    (hd : s.drafts[number]? = some d) (hclosed : d.sink.isClosed = false)
    (hkeeping : d.sink.keeping = .recorded path) (hstream : d.sink.stream = .buffer text true)
    (keeps : Bool) :
    s.settle number none keeps =
      { site := { s.site with store :=
          if keeps then s.site.store.record ⟨path, text, d.sink.qualifiedName⟩
          else s.site.store }
        drafts := s.drafts.set number { d with
          sink := { d.sink with stream := .buffer text false, isClosed := true }
          fate := if keeps then .kept else .dropped } } := by
  obtain ⟨⟨name, location, stream, keeping, isClosed⟩, fate, rivals⟩ := d
  cases hclosed
  cases hkeeping
  cases hstream
  rw [settle, update, hd]
  cases keeps <;> rfl

/-! Steps and runs -/

def names (s : Recording) : List String :=
  s.drafts.map (·.sink.qualifiedName)

/-- The name of the sink that a move makes, unless its type is recorded already. -/
def made (s : Recording) : Move → List String
  | .create qualifiedName => if s.site.store.contains qualifiedName then [] else [qualifiedName]
  | _ => []

theorem names_set {site : Site} {number : Nat} {d e : Draft} (hd : s.drafts[number]? = some d)
    (hname : e.sink.qualifiedName = d.sink.qualifiedName) :
    names { site, drafts := s.drafts.set number e } = s.names := by
  apply List.ext_getElem?
  intro k
  rw [names, names, List.getElem?_map, List.getElem?_map]
  by_cases hk : k = number
  · subst hk
    rw [List.getElem?_set_self (List.getElem?_eq_some_iff.1 hd).1, hd, Option.map_some,
      Option.map_some, hname]
  · rw [List.getElem?_set_ne (Ne.symm hk)]

theorem made_of_number? {m : Move} {number : Nat} (hm : m.number? = some number) :
    s.made m = [] := by
  cases m with
  | create => cases hm
  | _ => rfl

section Moves

variable [Codecs]

structure Advances (extension : String) (s : Recording) (deeds : Nat → List Move) (m : Move) :
    Prop where
  files : (s.step m).site.store.files =
    s.site.store.files ++ (s.addition? extension deeds m).toList
  names : (s.step m).names = s.names ++ s.made m
  tallies : (s.step m).Tallies extension (s.after deeds m)

theorem Tallies.create (h : s.Tallies extension deeds) (qualifiedName : String) :
    s.Advances extension deeds (.create qualifiedName) := by
  have hafter : s.after deeds (.create qualifiedName) = deeds :=
    funext fun _ => after_of_ne (by simp [Move.number?])
  rcases step_create h.store qualifiedName with ⟨hknown, hstep⟩ | ⟨hnew, hstep⟩
  · refine ⟨?_, ?_, ?_⟩
    · rw [hstep]
      exact (List.append_nil _).symm
    · rw [hstep, made, if_pos hknown, List.append_nil]
    · rw [hstep, hafter]
      exact h
  · refine ⟨?_, ?_, ?_⟩
    · rw [hstep]
      exact (List.append_nil _).symm
    · rw [hstep, made, hnew, if_neg Bool.false_ne_true, names, List.map_append]
      rfl
    rw [hstep, hafter]
    refine ⟨h.store, fun number d hd => ?_, fun number hnumber => ?_,
      h.gathers.congr fun number => ?_⟩
    · rcases getElem?_concat_iff.1 hd with hd | ⟨rfl, rfl⟩
      · exact h.bears number d hd
      · rw [h.unmade _ (Nat.le_refl _)]
        exact ⟨rfl, rfl, fun _ => rfl⟩
    · refine h.unmade number (Nat.le_trans ?_ hnumber)
      rw [List.length_append]
      exact Nat.le_add_right _ _
    · rw [share?, share?]
      rcases Nat.lt_trichotomy number s.drafts.length with hlt | rfl | hgt
      · rw [List.getElem?_append_left hlt]
      · rw [List.getElem?_concat_length, List.getElem?_eq_none (Nat.le_refl _),
          h.unmade _ (Nat.le_refl _)]
        rfl
      · rw [List.getElem?_eq_none (Nat.le_of_lt hgt), List.getElem?_eq_none (by
          rw [List.length_append]
          exact hgt)]

/-- A move about a sink that was not made does nothing. -/
theorem Tallies.idle (h : s.Tallies extension deeds) {m : Move} {number : Nat}
    (hm : m.number? = some number) (hnone : s.drafts[number]? = none) (hstep : s.step m = s) :
    s.Advances extension deeds m := by
  have hafter : s.after deeds m = deeds := by
    funext k
    by_cases hk : k = number
    · exact after_of_unmade (hk ▸ hnone)
    · exact after_of_ne fun hmk => hk (Option.some.inj (hmk.symm.trans hm))
  refine ⟨?_, ?_, ?_⟩
  · rw [hstep, addition?, hm, Option.bind_some, hnone, Option.bind_none, Option.toList_none,
      List.append_nil]
  · rw [hstep, made_of_number? hm, List.append_nil]
  · rw [hstep, hafter]
    exact h

/-- A move that puts another draft in the place of one advances the tally if it records what it
adds. -/
theorem Tallies.advances (h : s.Tallies extension deeds) {number : Nat} {d e : Draft} {m : Move}
    {site : Site} (hm : m.number? = some number) (hd : s.drafts[number]? = some d)
    (hname : e.sink.qualifiedName = d.sink.qualifiedName)
    (hbears : e.Bears extension (deeds number ++ [m]))
    (hstore : site.store = .memory extension site.store.files)
    (hfiles : site.store.files =
      s.site.store.files ++ (s.addition? extension deeds m).toList)
    (hstep : s.step m = { site, drafts := s.drafts.set number e }) :
    s.Advances extension deeds m := by
  refine ⟨?_, ?_, ?_⟩
  · rw [hstep]
    exact hfiles
  · rw [hstep, names_set hd hname, made_of_number? hm, List.append_nil]
  · rw [hstep]
    exact h.replace hm hd hname hbears hstore hfiles

theorem Tallies.write (h : s.Tallies extension deeds) (number : Nat) (text : String) :
    s.Advances extension deeds (.write number text none) := by
  cases hd : s.drafts[number]? with
  | none => exact h.idle rfl hd (by simp [step, Recording.write, update, hd])
  | some d =>
    have hadded : s.addition? extension deeds (.write number text none) = none := by
      simp [addition?, Move.number?, Move.keeps]
    refine h.advances rfl hd ?_ ((h.bears number d hd).write number text) h.store ?_ ?_
    · rw [Sink.write_fst]
    · rw [hadded, Option.toList_none, List.append_nil]
    · simp [step, Recording.write, update, hd]

theorem Tallies.settle (h : s.Tallies extension deeds) {m : Move} {number : Nat}
    (hm : m.number? = some number) (hsettles : m.settles = true)
    (hstep : s.step m = s.settle number none m.keeps) : s.Advances extension deeds m := by
  cases hd : s.drafts[number]? with
  | none => exact h.idle hm hd (by rw [hstep, Recording.settle, update, hd])
  | some d =>
    have hbears := h.bears number d hd
    have hadded : s.addition? extension deeds m =
        if m.keeps && !d.sink.isClosed then
          some (artifactOf extension d.sink.qualifiedName (deeds number)) else none := by
      rw [addition?, hm, Option.bind_some, hd, Option.bind_some, hbears.closed]
    cases hclosed : d.sink.isClosed with
    | true =>
      refine h.advances hm hd rfl (hbears.settled hclosed m) h.store ?_ ?_
      · simp [hadded, hclosed]
      · obtain ⟨hlt, rfl⟩ := List.getElem?_eq_some_iff.1 hd
        rw [step_of_isClosed hsettles hm hd hclosed, List.set_getElem_self]
    | false =>
      have hopen : (deeds number).any Move.settles = false := hbears.closed ▸ hclosed
      rw [settle_of_open hd hclosed hbears.keeping (hbears.holds hopen)] at hstep
      refine h.advances hm hd ?_ (hbears.close hsettles _ _) ?_ ?_ hstep
      · rfl
      · rw [h.store]
        cases m.keeps <;> rfl
      · rw [hadded, hclosed, h.store]
        cases m.keeps with
        | true => rfl
        | false => exact (List.append_nil _).symm

theorem Tallies.step (h : s.Tallies extension deeds) {m : Move} (hm : m.refusal? = none) :
    s.Advances extension deeds m := by
  cases m with
  | create qualifiedName => exact h.create qualifiedName
  | write number text refusal =>
    obtain rfl : refusal = none := by simpa [Move.refusal?] using hm
    exact h.write number text
  | close | discard | leave =>
    cases hm
    exact h.settle rfl rfl rfl

theorem tallies_run (tree : FileTree) (extension workingFolder : String) {moves : List Move}
    (h : ∀ m ∈ moves, m.refusal? = none) :
    ((start tree extension workingFolder).run moves).Tallies extension
      ((start tree extension workingFolder).deeds · moves) := by
  induction moves using List.reverseRecOn with
  | nil => exact tallies_start tree extension workingFolder
  | append_singleton moves m ih =>
    have hdeeds : ((start tree extension workingFolder).deeds · (moves ++ [m])) =
        ((start tree extension workingFolder).run moves).after
          ((start tree extension workingFolder).deeds · moves) m :=
      funext fun number => deeds_concat _ moves m number
    rw [run, List.foldl_append, hdeeds]
    exact ((ih fun e he => h e (List.mem_append_left _ he)).step
      (h m (List.mem_append_right _ List.mem_cons_self))).tallies

theorem Tallies.prefix_run (h : s.Tallies extension deeds) {more : List Move}
    (hmore : ∀ m ∈ more, m.refusal? = none) :
    s.site.store.files <+: (s.run more).site.store.files := by
  induction more generalizing s deeds with
  | nil => exact List.prefix_rfl
  | cons m rest ih =>
    obtain ⟨hm, hrest⟩ := List.forall_mem_cons.1 hmore
    have hstep := h.step hm
    have hfirst : s.site.store.files <+: (s.step m).site.store.files := by
      rw [hstep.files]
      exact List.prefix_append _ _
    exact hfirst.trans (ih hstep.tallies hrest)

/-- The artifacts of a store in memory only get more. A move adds the artifact of a sink if it is to
keep it and is the first to settle it, so that each sink contributes at most once, and a closed sink
is not touched again. -/
theorem run_contributes (tree : FileTree) (extension workingFolder : String) {moves : List Move}
    (h : ∀ m ∈ moves, m.refusal? = none) :
    let start := start tree extension workingFolder
    let s := start.run moves
    let deeds := (start.deeds · moves)
    (∀ m, m.refusal? = none →
      (s.step m).site.store.files =
        s.site.store.files ++ (s.addition? extension deeds m).toList ∧
      (s.step m).names = s.names ++ s.made m) ∧
    (∀ more, (∀ m ∈ more, m.refusal? = none) →
      s.site.store.files <+: (s.run more).site.store.files) ∧
    Gathers (s.share? extension deeds) s.site.store.files ∧
    ∀ (number : Nat) (d : Draft), s.drafts[number]? = some d →
      (d.sink.isClosed = true ↔ ∃ m ∈ deeds number, m.settles = true) ∧
      (d.sink.isClosed = true → ∀ m, m.settles = true → m.number? = some number →
        s.step m = s) := by
  intro start s deeds
  have htallies : s.Tallies extension deeds := tallies_run tree extension workingFolder h
  refine ⟨fun m hm => ⟨(htallies.step hm).files, (htallies.step hm).names⟩,
    fun more hmore => htallies.prefix_run hmore, htallies.gathers, fun number d hd => ⟨?_, ?_⟩⟩
  · rw [(htallies.bears number d hd).closed, List.any_eq_true]
  · exact fun hclosed m hm hnumber => step_of_isClosed hm hnumber hd hclosed

end Moves

def rivalMoves : List Move :=
  [.create "a.B", .create "a.B", .write 1 "x" none, .write 0 "u" none, .leave 0 true none,
    .write 1 "y" none]

theorem run_contributes_of_rivals :
    let s := (start {} ".java" "").run rivalMoves
    (∀ m ∈ rivalMoves, m.refusal? = none) ∧
      (s.step (.leave 1 false none)).site.store.files = [⟨"a/B.java", "xy", "a.B"⟩] ∧
      (s.step (.leave 1 true none)).site.store.files = [] ∧
      (s.step (.create "a.B")).names = ["a.B", "a.B", "a.B"] ∧
      (∃ d, s.drafts[0]? = some d ∧ d.sink.isClosed = true) ∧ s.step (.close 0 none) = s := by
  intro s
  have hplain : ∀ m ∈ rivalMoves, m.refusal? = none := by decide
  obtain ⟨hstep, _, _, hclosed⟩ := run_contributes {} ".java" "" hplain
  obtain ⟨d, hd, hdone⟩ : ∃ d, s.drafts[0]? = some d ∧ d.sink.isClosed = true := ⟨_, rfl, rfl⟩
  exact ⟨hplain, (hstep (.leave 1 false none) rfl).1.trans (by decide +kernel),
    (hstep (.leave 1 true none) rfl).1.trans (by decide +kernel),
    (hstep (.create "a.B") rfl).2.trans (by decide +kernel), ⟨d, hd, hdone⟩,
    (hclosed 0 d hd).2 hdone _ rfl rfl⟩

end Recording

end BeanForge
