import BeanForge.Proofs.Artifact.Identity
import BeanForge.Proofs.Artifact.Recording

/-!
# Refusals of stores

A store refuses a type as made before if it recorded the name or enlisted the path. However the
sinks of a store are used, it learns of a type only from a sink for it, so that an interface is
refused only after the same interface of the same package.
-/

namespace BeanForge

open Text

namespace Store

def blank : Store → Store
  | memory extension _ => memory extension []
  | folder root extension encoding _ => folder root extension encoding []

def location (workingFolder qualifiedName : String) : Store → String
  | memory extension _ => "memory:///" ++ relativePath qualifiedName extension
  | folder root extension _ _ =>
    (Site.filePath root qualifiedName extension).address workingFolder

def Identifies (q r : String) : Store → Prop
  | memory _ _ => q = r
  | folder root extension _ _ => Site.filePath root q extension = Site.filePath root r extension

def Refuses (qualifiedName : String) : Store → Prop
  | memory _ files => ∃ file ∈ files, file.qualifiedName = qualifiedName
  | folder root extension _ created => Site.filePath root qualifiedName extension ∈ created

variable {s t : Store} {q r : String}

theorem identifies_of_blank_eq (h : t.blank = s.blank) (ht : t.Identifies q r) :
    s.Identifies q r := by
  cases s <;> cases t <;> simp only [blank, memory.injEq, folder.injEq, reduceCtorEq] at h
  · exact ht
  · obtain ⟨rfl, rfl, _⟩ := h
    exact ht

end Store

namespace Interface

variable {i j : Interface}

end Interface

namespace Site

/-- From one site to another, a store learns of no type but one. -/
structure Learns (s t : Site) (qualifiedName : String) : Prop where
  blank : t.store.blank = s.store.blank
  refuses : ∀ q, t.store.Refuses q → s.store.Refuses q ∨ s.store.Identifies qualifiedName q

theorem Learns.of_store_eq {s t : Site} (h : t.store = s.store) (qualifiedName : String) :
    s.Learns t qualifiedName :=
  ⟨by rw [h], fun _ hq => .inl (h ▸ hq)⟩

theorem Learns.trans {s t u : Site} {qualifiedName : String} (h : s.Learns t qualifiedName)
    (h' : t.Learns u qualifiedName) : s.Learns u qualifiedName := by
  refine ⟨h'.blank.trans h.blank, fun q hq => ?_⟩
  rcases h'.refuses q hq with hq | hq
  · exact h.refuses q hq
  · exact .inr (Store.identifies_of_blank_eq h.blank hq)

theorem learns_record (s : Site) (artifact : Recorded) :
    s.Learns { s with store := s.store.record artifact } artifact.qualifiedName := by
  obtain ⟨tree, store, workingFolder⟩ := s
  cases store with
  | memory extension files =>
    refine ⟨rfl, fun q => ?_⟩
    rintro ⟨file, hfile, rfl⟩
    rcases List.mem_append.1 hfile with hfile | hfile
    · exact .inl ⟨file, hfile, rfl⟩
    · exact .inr (by rw [List.mem_singleton.1 hfile]; rfl)
  | folder root extension encoding created => exact .of_store_eq (by rfl) _

theorem learns_strike (s : Site) (path : Path) (qualifiedName : String) :
    s.Learns { s with store := s.store.strike path } qualifiedName := by
  obtain ⟨tree, store, workingFolder⟩ := s
  cases store with
  | memory extension files => exact .of_store_eq (by rfl) _
  | folder root extension encoding created =>
    exact ⟨rfl, fun q hq => .inl (List.mem_of_mem_erase hq)⟩

theorem learns_remove (s : Site) (path : Path) (qualifiedName : String) :
    s.Learns (s.remove path).1 qualifiedName := by
  have hstruck := s.learns_strike path qualifiedName
  unfold remove
  cases s.tree.unlink path with
  | ok tree => exact hstruck.trans (.of_store_eq (by rfl) _)
  | error e => exact hstruck

theorem learns_close (s : Site) (sink : Sink) (refusal : Option String) :
    s.Learns (s.close sink refusal).site sink.qualifiedName ∧
      (s.close sink refusal).sink.qualifiedName = sink.qualifiedName := by
  have hstream : s.Learns (s.closeStream sink).1 sink.qualifiedName := .of_store_eq (by rfl) _
  unfold close
  split
  · exact ⟨.of_store_eq (by rfl) _, rfl⟩
  · split
    · unfold closeRecorded
      split
      · cases refusal with
        | none => exact ⟨hstream.trans (learns_record _ _), rfl⟩
        | some reason => exact ⟨hstream, rfl⟩
      · exact ⟨.of_store_eq (by rfl) _, rfl⟩
    · unfold closePlain
      simp only
      split
      · exact ⟨hstream, rfl⟩
      · split
        · exact ⟨hstream.trans (learns_remove _ _ _), rfl⟩
        · exact ⟨hstream, rfl⟩

theorem learns_discard (s : Site) (sink : Sink) (refusal : Option String) :
    s.Learns (s.discard sink refusal).site sink.qualifiedName ∧
      (s.discard sink refusal).sink.qualifiedName = sink.qualifiedName := by
  have hstream : s.Learns (s.closeStream sink).1 sink.qualifiedName := .of_store_eq (by rfl) _
  unfold discard
  split
  · exact ⟨.of_store_eq (by rfl) _, rfl⟩
  · simp only
    split
    · exact ⟨hstream.trans (learns_remove _ _ _), rfl⟩
    · exact ⟨hstream, rfl⟩

section Making

variable [Codecs]

/-- Making a sink for a type tells the store of that type at most. -/
theorem learns_create (s : Site) (qualifiedName : String) :
    s.Learns (s.create qualifiedName).1 qualifiedName ∧
      ((∀ sink, (s.create qualifiedName).2 = .ok sink → sink.qualifiedName = qualifiedName ∧
        sink.location = s.store.location s.workingFolder qualifiedName) ∧
      ((∃ stop, (s.create qualifiedName).2 = .error stop) →
        (s.create qualifiedName).1.store = s.store)) := by
  obtain ⟨tree, store, workingFolder⟩ := s
  cases store with
  | memory extension files =>
    unfold create
    simp only
    split
    · exact ⟨.of_store_eq (by rfl) _, by simp, fun _ => rfl⟩
    · refine ⟨.of_store_eq (by rfl) _, ?_, fun _ => rfl⟩
      rintro _ ⟨⟩
      exact ⟨rfl, rfl⟩
  | folder root extension encoding created =>
    unfold create
    simp only
    split
    · exact ⟨.of_store_eq (by rfl) _, by simp, fun _ => rfl⟩
    · split
      · exact ⟨.of_store_eq (by rfl) _, by simp, fun _ => rfl⟩
      · refine ⟨⟨rfl, fun q hq => ?_⟩, ?_, by simp⟩
        · exact (List.mem_append.1 hq).imp_right fun h => (List.mem_singleton.1 h).symm
        · rintro _ ⟨⟩
          exact ⟨rfl, by simp only [Store.location]⟩

end Making

end Site

/-! Any use of a store -/

namespace Recording

/-- Whatever type the store refuses, a sink was made for one that it takes for the same, and sinks
were made only for types that were asked for. -/
structure Traced (store : Store) (Asked : String → Prop) (s : Recording) : Prop where
  blank : s.site.store.blank = store.blank
  asked : ∀ d ∈ s.drafts, Asked d.sink.qualifiedName
  made : ∀ q, s.site.store.Refuses q → ∃ d ∈ s.drafts, store.Identifies d.sink.qualifiedName q

variable {store : Store} {Asked : String → Prop} {s : Recording}

theorem Traced.update (h : s.Traced store Asked) (number : Nat) {change : Draft → Site × Draft}
    (hchange : ∀ d, s.site.Learns (change d).1 d.sink.qualifiedName ∧
      (change d).2.sink.qualifiedName = d.sink.qualifiedName) :
    (s.update number change).Traced store Asked := by
  rcases s.update_cases number change with he | ⟨d, hd, he⟩
  · rw [he]
    exact h
  · obtain ⟨hlearns, hname⟩ := hchange d
    have hkeeps : ∀ f ∈ s.drafts, ∃ g ∈ s.drafts.set number (change d).2,
        g.sink.qualifiedName = f.sink.qualifiedName := by
      intro f hf
      obtain ⟨k, hk⟩ := List.getElem?_of_mem hf
      by_cases hkn : number = k
      · subst hkn
        obtain rfl : d = f := Option.some.inj (hd.symm.trans hk)
        have hset := List.getElem?_set_self (a := (change d).2) (List.getElem?_eq_some_iff.1 hd).1
        exact ⟨_, List.mem_of_getElem? hset, hname⟩
      · exact ⟨f, List.mem_of_getElem? (by rw [List.getElem?_set_ne hkn, hk]), rfl⟩
    rw [he]
    refine ⟨hlearns.blank.trans h.blank, fun f hf => ?_, fun q hq => ?_⟩
    · rcases List.mem_or_eq_of_mem_set hf with hf | rfl
      · exact h.asked f hf
      · exact hname ▸ h.asked d (List.mem_of_getElem? hd)
    rcases hlearns.refuses q hq with hq | hq
    · obtain ⟨f, hf, hsame⟩ := h.made q hq
      obtain ⟨g, hg, hgf⟩ := hkeeps f hf
      exact ⟨g, hg, hgf ▸ hsame⟩
    · obtain ⟨g, hg, hgd⟩ := hkeeps d (List.mem_of_getElem? hd)
      exact ⟨g, hg, hgd ▸ Store.identifies_of_blank_eq h.blank hq⟩

theorem Traced.settle (h : s.Traced store Asked) (number : Nat) (refusal : Option String)
    (keeps : Bool) : (s.settle number refusal keeps).Traced store Asked := by
  refine h.update number fun d => ?_
  cases keeps with
  | true => exact s.site.learns_close d.sink refusal
  | false => exact s.site.learns_discard d.sink refusal

section Moves

variable [Codecs]

theorem Traced.create (h : s.Traced store Asked) {qualifiedName : String}
    (hasked : Asked qualifiedName) : (s.step (.create qualifiedName)).Traced store Asked := by
  obtain ⟨hlearns, hok, herror⟩ := s.site.learns_create qualifiedName
  cases hc : s.site.create qualifiedName with
  | mk site outcome =>
    rw [hc] at hlearns hok herror
    have hblank := hlearns.blank.trans h.blank
    simp only [step, hc]
    cases outcome with
    | error stop =>
      refine ⟨hblank, h.asked, fun q hq => h.made q ?_⟩
      exact herror ⟨stop, rfl⟩ ▸ hq
    | ok sink =>
      obtain ⟨hname, _⟩ := hok sink rfl
      refine ⟨hblank, fun d hd => ?_, fun q hq => ?_⟩
      · rcases List.mem_append.1 hd with hd | hd
        · exact h.asked d hd
        · rw [List.mem_singleton.1 hd]
          exact hname ▸ hasked
      · rcases hlearns.refuses q hq with hq | hq
        · obtain ⟨d, hd, hsame⟩ := h.made q hq
          exact ⟨d, List.mem_append_left _ hd, hsame⟩
        · refine ⟨_, List.mem_append_right _ List.mem_cons_self, ?_⟩
          show store.Identifies sink.qualifiedName q
          rw [hname]
          exact Store.identifies_of_blank_eq h.blank hq

theorem Traced.step (h : s.Traced store Asked) {m : Move} (hm : ∀ q, m = .create q → Asked q) :
    (s.step m).Traced store Asked := by
  cases m with
  | create qualifiedName => exact h.create (hm _ rfl)
  | write number text refusal =>
    exact h.update number fun d => ⟨.of_store_eq (by rfl) _, by simp only [Sink.write_fst]⟩
  | close number refusal => exact h.settle number refusal true
  | discard number refusal => exact h.settle number refusal false
  | leave number raised refusal => exact h.settle number refusal (!raised)

theorem Traced.run (h : s.Traced store Asked) {moves : List Move}
    (hmoves : ∀ q, .create q ∈ moves → Asked q) : (s.run moves).Traced store Asked := by
  induction moves generalizing s with
  | nil => exact h
  | cons m rest ih =>
    have hm : ∀ q, m = .create q → Asked q := fun q he => hmoves q (he ▸ List.mem_cons_self)
    exact ih (h.step hm) fun q hq => hmoves q (List.mem_cons_of_mem _ hq)

end Moves

end Recording

namespace Interface

-- Halves that stand for the bytes of a letter name the file of the letter.
example :
    let halves : Interface := ⟨String.ofList [halfOf 0xDCC3, halfOf 0xDCA9], "", [], none⟩
    let letter : Interface := ⟨"é", "", [], none⟩
    (Site.filePath {} halves.entity.qualifiedName ".java").settled =
      (Site.filePath {} letter.entity.qualifiedName ".java").settled := by
  decide +kernel

end Interface

end BeanForge
