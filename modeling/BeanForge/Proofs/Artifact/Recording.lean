import BeanForge.Proofs.Artifact.Session

/-!
# Recording in memory

A store in memory refuses the types it has recorded, and it records an artifact when the sink is
closed. So it may have two sinks of one type that are open at a time, and then it records both.
-/

namespace BeanForge

structure Draft where
  sink : Sink
  fate : Fate := .opened
  /-- The numbers of the sinks of its type that were open when it was made. -/
  rivals : List Nat := []

namespace Draft

/-- An artifact is settled when its sink is closed first. -/
def afterClosing (d : Draft) (c : Site.Closing) (keeps : Bool) : Draft :=
  { d with
    sink := c.sink
    fate :=
      if d.sink.isClosed then d.fate
      else match c.outcome with
        | .ok _ => if keeps then .kept else .dropped
        | .error _ => if c.sink.isClosed then .dropped else d.fate }

def openFor (qualifiedName : String) (drafts : List Draft) : List Nat :=
  (drafts.zipIdx.filter fun (d, _) =>
    d.sink.qualifiedName == qualifiedName && d.fate == .opened).map (·.2)

def keptNames (drafts : List Draft) : List String :=
  (drafts.filter (·.fate == .kept)).map (·.sink.qualifiedName)

end Draft

structure Recording where
  site : Site
  drafts : List Draft := []

namespace Recording

def start (tree : FileTree) (extension workingFolder : String) : Recording :=
  { site := ⟨tree, .memory extension [], workingFolder⟩ }

def update (s : Recording) (number : Nat) (change : Draft → Site × Draft) : Recording :=
  match s.drafts[number]? with
  | none => s
  | some d => { site := (change d).1, drafts := s.drafts.set number (change d).2 }

def write [Codecs] (s : Recording) (number : Nat) (text : String)
    (refusal : Option Stream.Refusal) : Recording :=
  s.update number fun d => (s.site, { d with sink := (d.sink.write text refusal).1 })

def settle (s : Recording) (number : Nat) (refusal : Option String) (keeps : Bool) : Recording :=
  s.update number fun d =>
    let closing := if keeps then s.site.close d.sink refusal else s.site.discard d.sink refusal
    (closing.site, d.afterClosing closing keeps)

def step [Codecs] (s : Recording) : Move → Recording
  | .create qualifiedName =>
    match s.site.create qualifiedName with
    | (site, .ok sink) =>
      { site, drafts := s.drafts ++ [{ sink, rivals := Draft.openFor qualifiedName s.drafts }] }
    | (site, .error _) => { s with site }
  | .write number text refusal => s.write number text refusal
  | .close number refusal => s.settle number refusal true
  | .discard number refusal => s.settle number refusal false
  | .leave number raised refusal => s.settle number refusal !raised

def run [Codecs] (s : Recording) (moves : List Move) : Recording :=
  moves.foldl step s

end Recording

/-! Drafts -/

namespace Draft

theorem mem_openFor {qualifiedName : String} {drafts : List Draft} {k : Nat} :
    k ∈ openFor qualifiedName drafts ↔
      ∃ d, drafts[k]? = some d ∧ d.sink.qualifiedName = qualifiedName ∧ d.fate = .opened := by
  simp only [openFor, List.mem_map, List.mem_filter, Bool.and_eq_true, beq_iff_eq, Prod.exists,
    List.mem_zipIdx_iff_getElem?]
  constructor
  · rintro ⟨d, i, ⟨hd, hname, hfate⟩, rfl⟩
    exact ⟨d, hd, hname, hfate⟩
  · rintro ⟨d, hd, hname, hfate⟩
    exact ⟨d, k, ⟨hd, hname, hfate⟩, rfl⟩

@[simp] theorem keptNames_append (l r : List Draft) :
    keptNames (l ++ r) = keptNames l ++ keptNames r := by
  simp [keptNames]

theorem mem_keptNames {drafts : List Draft} {qualifiedName : String} :
    qualifiedName ∈ keptNames drafts ↔
      ∃ d ∈ drafts, d.fate = .kept ∧ d.sink.qualifiedName = qualifiedName := by
  simp [keptNames, and_assoc]

/-- Artifacts of one type come from one sink unless two positions hold recorded drafts of it. -/
theorem nodup_keptNames_iff {drafts : List Draft} :
    (keptNames drafts).Nodup ↔
      ∀ (i j : Nat) (e d : Draft), i < j → drafts[i]? = some e → drafts[j]? = some d →
        e.fate = .kept → d.fate = .kept → e.sink.qualifiedName ≠ d.sink.qualifiedName := by
  rw [keptNames, List.Nodup, List.pairwise_map, List.pairwise_filter, List.pairwise_iff_getElem]
  constructor
  · intro h i j e d hij he hd hekept hdkept
    obtain ⟨hi, rfl⟩ := List.getElem?_eq_some_iff.1 he
    obtain ⟨hj, rfl⟩ := List.getElem?_eq_some_iff.1 hd
    exact h i j hi hj hij (by simp [hekept]) (by simp [hdkept])
  · intro h i j hi hj hij hekept hdkept
    exact h i j _ _ hij (List.getElem?_eq_getElem hi) (List.getElem?_eq_getElem hj)
      (by simpa using hekept) (by simpa using hdkept)

/-- What a move may change about a draft: it is settled once. -/
structure Follows (d e : Draft) : Prop where
  name : e.sink.qualifiedName = d.sink.qualifiedName
  keeping : e.sink.keeping = d.sink.keeping
  rivals : e.rivals = d.rivals
  settled : d.fate ≠ .opened → e.fate = d.fate
  closed : (d.sink.isClosed = true ↔ d.fate ≠ .opened) →
    (e.sink.isClosed = true ↔ e.fate ≠ .opened)

theorem Follows.refl (d : Draft) : d.Follows d :=
  ⟨rfl, rfl, rfl, fun _ => rfl, id⟩

theorem follows_write [Codecs] (d : Draft) (text : String) (refusal : Option Stream.Refusal) :
    d.Follows { d with sink := (d.sink.write text refusal).1 } := by
  rw [Sink.write_fst]
  exact ⟨rfl, rfl, rfl, fun _ => rfl, id⟩

theorem afterClosing_of_isClosed {d : Draft} {c : Site.Closing} (h : d.sink.isClosed = true)
    (hsink : c.sink = d.sink) (keeps : Bool) : d.afterClosing c keeps = d := by
  simp [afterClosing, h, hsink]

end Draft

/-! Closing -/

namespace Site

/-- An artifact is recorded when its sink is closed, unless the stream is closed already or the
system refuses that. -/
theorem close_of_recorded (s : Site) (sink : Sink) {path : String} (h : sink.isClosed = false)
    (hkeeping : sink.keeping = .recorded path) (refusal : Option String) :
    (∃ text tree stream, s.close sink refusal =
      ⟨{ s with tree, store := s.store.record ⟨path, text, sink.qualifiedName⟩ },
        { sink with stream, isClosed := true }, .ok (), []⟩) ∨
    (∃ tree stream stop, s.close sink refusal =
      ⟨{ s with tree }, { sink with stream, isClosed := true }, .error stop, []⟩) ∨
    ∃ stop, s.close sink refusal = ⟨s, sink, .error stop, []⟩ := by
  obtain ⟨name, location, stream, _, _⟩ := sink
  cases h
  cases hkeeping
  simp only [close, Bool.false_eq_true, if_false, closeRecorded, closeStream]
  split
  · cases refusal with
    | none => exact .inl ⟨_, _, _, rfl⟩
    | some reason => exact .inr (.inl ⟨_, _, _, rfl⟩)
  · exact .inr (.inr ⟨_, rfl⟩)

theorem discard_of_recorded (s : Site) (sink : Sink) {path : String} (h : sink.isClosed = false)
    (hkeeping : sink.keeping = .recorded path) (refusal : Option String) :
    ∃ tree stream notes, s.discard sink refusal =
      ⟨{ s with tree }, { sink with stream, isClosed := true }, .ok (), notes⟩ := by
  obtain ⟨name, location, stream, _, _⟩ := sink
  cases h
  cases hkeeping
  exact ⟨_, _, _, rfl⟩

end Site

/-! What every move preserves -/

namespace Recording

variable {extension : String} {s : Recording}

/-- What is recorded comes from the drafts that were kept. A sink of the type of an earlier one is
made while that one is open, or after it was dropped. -/
structure Ordered (extension : String) (s : Recording) : Prop where
  store : s.site.store = .memory extension s.site.store.files
  keeping : ∀ d ∈ s.drafts, ∃ path, d.sink.keeping = .recorded path
  closed : ∀ d ∈ s.drafts, d.sink.isClosed = true ↔ d.fate ≠ .opened
  names : (s.site.store.files.map (·.qualifiedName)).Perm (Draft.keptNames s.drafts)
  rivals : ∀ (i j : Nat) (e d : Draft), i < j → s.drafts[i]? = some e → s.drafts[j]? = some d →
    e.sink.qualifiedName = d.sink.qualifiedName → i ∈ d.rivals ∨ e.fate = .dropped
  known : ∀ (i j : Nat) (d : Draft), s.drafts[j]? = some d → i ∈ d.rivals →
    i < j ∧ ∃ e, s.drafts[i]? = some e ∧ e.sink.qualifiedName = d.sink.qualifiedName

theorem ordered_start (tree : FileTree) (extension workingFolder : String) :
    (start tree extension workingFolder).Ordered extension where
  store := rfl
  keeping := by simp [start]
  closed := by simp [start]
  names := .nil
  rivals := by simp [start]
  known := by simp [start]

theorem update_cases (s : Recording) (number : Nat) (change : Draft → Site × Draft) :
    s.update number change = s ∨
      ∃ d, s.drafts[number]? = some d ∧
        s.update number change =
          { site := (change d).1, drafts := s.drafts.set number (change d).2 } := by
  cases hd : s.drafts[number]? with
  | none => exact .inl (by simp [update, hd])
  | some d => exact .inr ⟨d, rfl, by simp [update, hd]⟩

theorem getElem?_concat_iff {α : Type} {l : List α} {a b : α} {i : Nat} :
    (l ++ [a])[i]? = some b ↔ l[i]? = some b ∨ (l.length = i ∧ a = b) := by
  rcases Nat.lt_trichotomy i l.length with hlt | rfl | hgt
  · simp [List.getElem?_append_left hlt, Nat.ne_of_gt hlt]
  · simp
  · simp [List.getElem?_append_right (Nat.le_of_lt hgt), List.getElem?_eq_none (Nat.le_of_lt hgt),
      Nat.ne_of_lt hgt, Nat.sub_ne_zero_of_lt hgt]

theorem Ordered.opened (h : s.Ordered extension) {d : Draft} (hd : d ∈ s.drafts)
    (hclosed : d.sink.isClosed = false) : d.fate = .opened :=
  Decidable.not_not.1 fun hne => by simp [(h.closed d hd).2 hne] at hclosed

/-- A draft among others counts as recorded with its own name. -/
theorem keptNames_set_perm {drafts : List Draft} {number : Nat} {d e : Draft}
    (hd : drafts[number]? = some d) (he : d.Follows e) :
    (Draft.keptNames (drafts.set number e)).Perm
      (Draft.keptNames drafts ++
        if d.fate = .opened ∧ e.fate = .kept then [d.sink.qualifiedName] else []) := by
  obtain ⟨hlt, hat⟩ := List.getElem?_eq_some_iff.1 hd
  obtain ⟨l, r, hs, _, hset⟩ : ∃ l r, drafts = l ++ drafts[number] :: r ∧ l.length = number ∧
      drafts.set number e = l ++ e :: r := List.exists_of_set hlt
  rw [hat] at hs
  rw [hset, hs, Draft.keptNames_append, Draft.keptNames_append, List.append_assoc]
  refine List.Perm.append_left _ ?_
  by_cases hopen : d.fate = .opened
  · by_cases hkept : e.fate = .kept
    · simpa [Draft.keptNames, hopen, hkept, he.name] using (List.perm_append_singleton _ _).symm
    · simp [Draft.keptNames, hopen, hkept]
  · rw [if_neg fun h => hopen h.1, List.append_nil]
    by_cases hkept : d.fate = .kept
    · simp [Draft.keptNames, hkept, he.settled hopen, he.name]
    · simp [Draft.keptNames, hkept, he.settled hopen]

/-- A move of one draft preserves the order if it records what it keeps. -/
theorem Ordered.replace (h : s.Ordered extension) {number : Nat} {d e : Draft} {site : Site}
    (hd : s.drafts[number]? = some d) (he : d.Follows e)
    (hstore : site.store = .memory extension site.store.files)
    (hfiles : site.store.files.map (·.qualifiedName) =
      s.site.store.files.map (·.qualifiedName) ++
        if d.fate = .opened ∧ e.fate = .kept then [d.sink.qualifiedName] else []) :
    Ordered extension { site, drafts := s.drafts.set number e } := by
  have hmem : d ∈ s.drafts := List.mem_of_getElem? hd
  have hback : ∀ (k : Nat) (f : Draft), (s.drafts.set number e)[k]? = some f →
      ∃ g : Draft, s.drafts[k]? = some g ∧ g.Follows f := by
    intro k f hf
    by_cases hk : number = k
    · subst hk
      rw [List.getElem?_set_self (List.getElem?_eq_some_iff.1 hd).1] at hf
      exact ⟨d, hd, Option.some.inj hf ▸ he⟩
    · rw [List.getElem?_set_ne hk] at hf
      exact ⟨f, hf, .refl f⟩
  constructor
  case store => exact hstore
  case keeping =>
    intro f hf
    rcases List.mem_or_eq_of_mem_set hf with hf | rfl
    · exact h.keeping f hf
    · rw [he.keeping]
      exact h.keeping d hmem
  case closed =>
    intro f hf
    rcases List.mem_or_eq_of_mem_set hf with hf | rfl
    · exact h.closed f hf
    · exact he.closed (h.closed d hmem)
  case names =>
    rw [hfiles]
    exact (h.names.append_right _).trans (keptNames_set_perm hd he).symm
  case rivals =>
    intro i j f g hij hf hg hname
    obtain ⟨f, hf, hff⟩ := hback i f hf
    obtain ⟨g, hg, hgg⟩ := hback j g hg
    rw [hgg.rivals]
    have hnames : f.sink.qualifiedName = g.sink.qualifiedName := by rw [← hff.name, hname, hgg.name]
    refine (h.rivals i j f g hij hf hg hnames).imp_right fun hdrop => ?_
    rw [hff.settled (by simp [hdrop]), hdrop]
  case known =>
    intro i j g hg hi
    obtain ⟨g, hg, hgg⟩ := hback j g hg
    obtain ⟨hlt, f, hf, hname⟩ := h.known i j g hg (hgg.rivals ▸ hi)
    refine ⟨hlt, ?_⟩
    by_cases hk : number = i
    · subst hk
      obtain rfl : d = f := Option.some.inj (hd.symm.trans hf)
      exact ⟨e, List.getElem?_set_self (List.getElem?_eq_some_iff.1 hd).1,
        by rw [he.name, hname, hgg.name]⟩
    · exact ⟨f, by rw [List.getElem?_set_ne hk, hf], by rw [hname, hgg.name]⟩

theorem Ordered.settle (h : s.Ordered extension) (number : Nat) (refusal : Option String)
    (keeps : Bool) : (s.settle number refusal keeps).Ordered extension := by
  rcases s.update_cases number fun d =>
      let closing := if keeps then s.site.close d.sink refusal else s.site.discard d.sink refusal
      (closing.site, d.afterClosing closing keeps) with hu | ⟨d, hd, hu⟩
  · rw [Recording.settle, hu]
    exact h
  · rw [Recording.settle, hu]
    have hmem := List.mem_of_getElem? hd
    cases hclosed : d.sink.isClosed with
    | true =>
      simp only [Site.close_of_isClosed _ _ hclosed, Site.discard_of_isClosed _ _ hclosed,
        ite_self]
      rw [Draft.afterClosing_of_isClosed hclosed rfl]
      refine h.replace hd (.refl d) h.store ?_
      rw [if_neg (by simp +contextual), List.append_nil]
    | false =>
      have hopen := h.opened hmem hclosed
      obtain ⟨path, hkeeping⟩ := h.keeping d hmem
      cases keeps with
      | false =>
        obtain ⟨tree, stream, notes, hc⟩ :=
          s.site.discard_of_recorded d.sink hclosed hkeeping refusal
        simp only [Bool.false_eq_true, if_false, hc]
        refine h.replace hd ⟨rfl, rfl, rfl, fun hne => absurd hopen hne, ?_⟩ h.store ?_
        · simp [Draft.afterClosing, hclosed]
        · simp [Draft.afterClosing, hclosed]
      | true =>
        rcases s.site.close_of_recorded d.sink hclosed hkeeping refusal with
          ⟨text, tree, stream, hc⟩ | ⟨tree, stream, stop, hc⟩ | ⟨stop, hc⟩
        · simp only [if_true, hc]
          refine h.replace hd ⟨rfl, rfl, rfl, fun hne => absurd hopen hne, ?_⟩ ?_ ?_
          · simp [Draft.afterClosing, hclosed]
          · rw [h.store]
            rfl
          · rw [h.store]
            simp [Draft.afterClosing, hclosed, hopen, Store.record, Store.files]
        · simp only [if_true, hc]
          refine h.replace hd ⟨rfl, rfl, rfl, fun hne => absurd hopen hne, ?_⟩ h.store ?_
          · simp [Draft.afterClosing, hclosed]
          · simp [Draft.afterClosing, hclosed]
        · simp only [if_true, hc]
          refine h.replace hd ⟨rfl, rfl, rfl, fun hne => absurd hopen hne, ?_⟩ h.store ?_
          · simp [Draft.afterClosing, hclosed]
          · simp [Draft.afterClosing, hclosed, hopen]

section Moves

variable [Codecs]

/-- A type that is recorded already gets no other sink; any other type gets one of its name. -/
theorem step_create (h : s.site.store = .memory extension s.site.store.files)
    (qualifiedName : String) :
    (s.site.store.contains qualifiedName = true ∧ s.step (.create qualifiedName) = s) ∨
    (s.site.store.contains qualifiedName = false ∧
      s.step (.create qualifiedName) = { s with drafts := s.drafts ++
        [⟨Site.bufferSink extension qualifiedName, .opened,
          Draft.openFor qualifiedName s.drafts⟩] }) := by
  obtain ⟨⟨tree, store, workingFolder⟩, drafts⟩ := s
  obtain ⟨files, rfl⟩ : ∃ files, store = .memory extension files := ⟨_, h⟩
  have hcontains : (Store.memory extension files).contains qualifiedName =
      files.any (·.qualifiedName == qualifiedName) := rfl
  simp only [step, Site.create_memory, hcontains]
  cases files.any (·.qualifiedName == qualifiedName) with
  | true => exact .inl ⟨rfl, rfl⟩
  | false => exact .inr ⟨rfl, rfl⟩

theorem Ordered.create (h : s.Ordered extension) (qualifiedName : String) :
    (s.step (.create qualifiedName)).Ordered extension := by
  rcases step_create h.store qualifiedName with ⟨_, hstep⟩ | ⟨hnew, hstep⟩
  · rw [hstep]
    exact h
  · rw [hstep]
    have hnotkept : ∀ e ∈ s.drafts, e.sink.qualifiedName = qualifiedName → e.fate ≠ .kept := by
      intro e he hname hkept
      have hin := h.names.mem_iff.2 (Draft.mem_keptNames.2 ⟨e, he, hkept, hname⟩)
      obtain ⟨a, ha, hq⟩ := List.mem_map.1 hin
      exact absurd hnew (by simpa [Store.contains] using ⟨a, ha, hq⟩)
    constructor
    case store => exact h.store
    case keeping =>
      simp only [List.mem_append, List.mem_singleton]
      rintro d (hd | rfl)
      · exact h.keeping d hd
      · exact ⟨_, rfl⟩
    case closed =>
      simp only [List.mem_append, List.mem_singleton]
      rintro d (hd | rfl)
      · exact h.closed d hd
      · simp [Site.bufferSink]
    case names => simpa [Draft.keptNames] using h.names
    case rivals =>
      intro i j e d hij he hd hname
      rcases getElem?_concat_iff.1 hd with hd | ⟨rfl, rfl⟩
      · obtain he : s.drafts[i]? = some e :=
          (getElem?_concat_iff.1 he).resolve_right fun hlast =>
            absurd (List.getElem?_eq_some_iff.1 hd).1 (by omega)
        exact h.rivals i j e d hij he hd hname
      · have he : s.drafts[i]? = some e :=
          (getElem?_concat_iff.1 he).resolve_right fun hlast => by omega
        -- A recorded artifact of the type would have been refused.
        cases hf : e.fate with
        | opened => exact .inl (Draft.mem_openFor.2 ⟨e, he, hname, hf⟩)
        | kept => exact absurd hf (hnotkept e (List.mem_of_getElem? he) hname)
        | dropped => exact .inr rfl
    case known =>
      intro i j d hd hi
      rcases getElem?_concat_iff.1 hd with hd | ⟨rfl, rfl⟩
      · obtain ⟨hij, e, he, hname⟩ := h.known i j d hd hi
        exact ⟨hij, e, getElem?_concat_iff.2 (.inl he), hname⟩
      · obtain ⟨e, he, hname, _⟩ := Draft.mem_openFor.1 hi
        exact ⟨(List.getElem?_eq_some_iff.1 he).1, e, getElem?_concat_iff.2 (.inl he), hname⟩

theorem Ordered.write (h : s.Ordered extension) (number : Nat) (text : String)
    (refusal : Option Stream.Refusal) : (s.write number text refusal).Ordered extension := by
  rcases s.update_cases number fun d =>
      (s.site, { d with sink := (d.sink.write text refusal).1 }) with hu | ⟨d, hd, hu⟩
  · rw [Recording.write, hu]
    exact h
  · rw [Recording.write, hu]
    refine h.replace hd (d.follows_write text refusal) h.store ?_
    rw [if_neg (by simp +contextual), List.append_nil]

theorem Ordered.step (h : s.Ordered extension) (m : Move) : (s.step m).Ordered extension := by
  cases m with
  | create qualifiedName => exact h.create qualifiedName
  | write number text refusal => exact h.write number text refusal
  | close number refusal => exact h.settle number refusal true
  | discard number refusal => exact h.settle number refusal false
  | leave number raised refusal => exact h.settle number refusal !raised

theorem Ordered.run (h : s.Ordered extension) (moves : List Move) :
    (s.run moves).Ordered extension := by
  induction moves generalizing s with
  | nil => exact h
  | cons m rest ih => exact ih (h.step m)

end Moves

/-! Recording a type once -/

/-- No sink was made while another one of its type was open, such that both were recorded. -/
def KeepsApart (s : Recording) : Prop :=
  ∀ d ∈ s.drafts, d.fate = .kept →
    ∀ k ∈ d.rivals, ∀ e, s.drafts[k]? = some e → e.fate ≠ .kept

theorem Ordered.nodup_iff (h : s.Ordered extension) :
    (s.site.store.files.map (·.qualifiedName)).Nodup ↔ s.KeepsApart := by
  rw [h.names.nodup_iff, Draft.nodup_keptNames_iff]
  constructor
  · intro hne d hd hkept k hk e he hekept
    obtain ⟨j, hj⟩ := List.getElem?_of_mem hd
    obtain ⟨hlt, f, hf, hname⟩ := h.known k j d hj hk
    obtain rfl : e = f := Option.some.inj (he.symm.trans hf)
    exact hne k j e d hlt he hj hekept hkept hname
  · intro hapart i j e d hij he hd hekept hkept hname
    rcases h.rivals i j e d hij he hd hname with hrival | hdropped
    · exact hapart d (List.mem_of_getElem? hd) hkept i hrival e he hekept
    · simp [hdropped] at hekept

/-- A store in memory records every type once exactly if no two sinks of one type that were open at
a time are both recorded. -/
theorem nodup_run_iff_keepsApart [Codecs] (tree : FileTree) (extension workingFolder : String)
    (moves : List Move) :
    let s := (start tree extension workingFolder).run moves
    (s.site.store.files.map (·.qualifiedName)).Nodup ↔ s.KeepsApart :=
  ((ordered_start tree extension workingFolder).run moves).nodup_iff

end Recording

/-- Nothing is hidden if every type is recorded once. -/
theorem Store.get?_of_nodup {s : Store} (h : (s.files.map (·.qualifiedName)).Nodup)
    {artifact : Recorded} (ha : artifact ∈ s.files) :
    s.get? artifact.qualifiedName = some artifact := by
  obtain ⟨l, r, hs⟩ := List.append_of_mem ha
  rw [hs, List.map_append, List.map_cons, List.nodup_append] at h
  rw [Store.get?, hs, List.find?_append]
  have hnone : l.find? (·.qualifiedName == artifact.qualifiedName) = none := by
    rw [List.find?_eq_none]
    intro other hother heq
    exact h.2.2 _ (List.mem_map_of_mem hother) _ List.mem_cons_self (by simpa using heq)
  simp [hnone]

theorem Recording.get?_run_of_keepsApart [Codecs] (tree : FileTree) (extension workingFolder : String)
    (moves : List Move) (h : ((start tree extension workingFolder).run moves).KeepsApart)
    {artifact : Recorded}
    (ha : artifact ∈ ((start tree extension workingFolder).run moves).site.store.files) :
    ((start tree extension workingFolder).run moves).site.store.get? artifact.qualifiedName =
      some artifact :=
  Store.get?_of_nodup (((ordered_start tree extension workingFolder).run moves).nodup_iff.2 h) ha

/-- Two sinks of a type are made before either is closed, and the type is recorded twice. -/
theorem Recording.not_nodup_of_two_open_sinks :
    let moves : List Move := [.create "a.B", .create "a.B", .write 0 "1" none, .write 1 "2" none,
      .close 0 none, .close 1 none]
    let store := ((start {} ".java" "").run moves).site.store
    store.files = [⟨"a/B.java", "1", "a.B"⟩, ⟨"a/B.java", "2", "a.B"⟩] ∧
      store.get? "a.B" = some ⟨"a/B.java", "1", "a.B"⟩ ∧
      ¬(store.files.map (·.qualifiedName)).Nodup := by
  intro moves store
  exact ⟨by decide +kernel, by decide +kernel, by decide +kernel⟩

end BeanForge
