import BeanForge.Proofs.Artifact.Soundness

/-!
# Reliability of stores

A store in a folder keeps the files of all artifacts that were finished, whatever is done with
its sinks afterwards, and refuses to make them again. The file of an artifact that fails is
gone, and may be made again.
-/

namespace BeanForge

open Text

/-! Finished files -/

/-- The bytes of a finished file. As long as the system refused none of its texts, they are what the
encoder made of the texts given to the stream, and those of the accepted texts as a whole if the
codec has no seams. -/
structure Deposit.Holds (codec : Codec) (d : Deposit) (bytes : Bytes) : Prop where
  poured : ∃ place encoding given,
    d.sink.stream = .file place encoding given bytes false ∧ d.Poured codec given bytes
  whole : d.intact = true → codec.Seamless →
    codec.encode (d.accepted.flatMap String.toList) = .ok bytes ∨ d.accepted = [] ∧ bytes = []

theorem Deposit.Holds.of_poured {codec : Codec} {d : Deposit} {place : Path} {encoding : String}
    {given : List String} {bytes : Bytes}
    (hstream : d.sink.stream = .file place encoding given bytes false)
    (hpoured : d.Poured codec given bytes) : d.Holds codec bytes where
  poured := ⟨place, encoding, given, hstream, hpoured⟩
  whole hintact hseamless := by
    obtain ⟨htexts, hbytes⟩ := hpoured hintact
    have haccepted : (codec.pieces [] (given.map String.toList)).flatMap (·.1) =
        d.accepted.flatMap String.toList := by
      rw [List.flatMap_def, htexts, List.flatMap_def]
    rcases hseamless (given.map String.toList) with hnone | hencode
    · rw [hnone] at htexts hbytes
      exact .inr ⟨by simpa using htexts.symm, hbytes.symm⟩
    · rw [haccepted, hbytes] at hencode
      exact .inl hencode

theorem Deposit.Holds.unique {codec : Codec} {d : Deposit} {bytes more : Bytes}
    (h : d.Holds codec bytes) (h' : d.Holds codec more) : bytes = more := by
  obtain ⟨_, _, _, hstream, _⟩ := h.poured
  obtain ⟨_, _, _, hsame, _⟩ := h'.poured
  rw [hstream] at hsame
  exact (Stream.file.inj hsame).2.2.2.1

namespace Session

variable {root : Path} {extension encoding : String} {codec : Codec} {s : Session}

/-! Deposits that are kept, and the latest ones -/

theorem getElem?_update {number k : Nat} {d : Deposit} {change : Deposit → Site × Deposit}
    (hk : s.deposits[k]? = some d) (hsame : (change d).2 = d) :
    (s.update number change).deposits[k]? = some d := by
  rcases s.update_cases number change with hu | ⟨l, e, r, hs, hlen, hu⟩
  · rw [hu]
    exact hk
  · rw [hu]
    rw [hs] at hk
    by_cases hn : k = l.length
    · subst hn
      simp only [List.getElem?_append_right (Nat.le_refl _), Nat.sub_self,
        List.getElem?_cons_zero, Option.some.injEq] at hk ⊢
      rw [hk]
      exact hsame
    · by_cases hlt : k < l.length
      · simpa only [List.getElem?_append_left hlt] using hk
      · obtain ⟨i, hi⟩ : ∃ i, k - l.length = i + 1 := ⟨k - l.length - 1, by omega⟩
        simpa only [List.getElem?_append_right (Nat.le_of_not_lt hlt), hi,
          List.getElem?_cons_succ] using hk

theorem Sound.read_kept (h : s.Sound root extension encoding codec) {d : Deposit}
    (hd : d ∈ s.deposits) (hf : d.fate = .kept) :
    ∃ bytes, d.Holds codec bytes ∧ s.site.tree.read d.path = .ok bytes := by
  obtain ⟨_, hp, given, bytes, hstream, hpoured, hfile⟩ := (h.sound d hd).of_kept hf
  exact ⟨bytes, .of_poured hstream hpoured, FileTree.read_eq_ok_iff.2 ⟨_, hp, hfile⟩⟩

theorem of_latest? {p : Path} {d : Deposit} (h : s.latest? p = some d) :
    d ∈ s.deposits ∧ d.path = p :=
  ⟨List.mem_reverse.1 (List.mem_of_find?_eq_some h),
    of_decide_eq_true (List.find?_some (p := fun d : Deposit => decide (d.path = p)) h)⟩

theorem Sound.mem_created_iff_latest (h : s.Sound root extension encoding codec) (p : Path) :
    p ∈ s.site.store.created ↔ ∃ d, s.latest? p = some d ∧ d.fate ≠ .dropped := by
  rw [h.live p]
  constructor
  · rintro ⟨d, hd, rfl, hf⟩
    refine ⟨d, ?_, hf⟩
    obtain ⟨l, r, hs⟩ := List.append_of_mem hd
    have horder := h.order
    rw [hs, List.pairwise_append, List.pairwise_cons] at horder
    have hnone : r.reverse.find? (fun e => e.path = d.path) = none := by
      rw [List.find?_eq_none]
      intro e he hp
      exact hf (horder.2.1.1 e (List.mem_reverse.1 he) (of_decide_eq_true hp).symm)
    rw [latest?, hs, List.reverse_append, List.reverse_cons, List.append_assoc, List.find?_append,
      hnone]
    simp
  · rintro ⟨d, hd, hf⟩
    obtain ⟨hmem, hp⟩ := of_latest? hd
    exact ⟨d, hmem, hp, hf⟩

/-! Whole sessions -/

def start (tree : FileTree) (root : Path) (extension encoding workingFolder : String) : Session :=
  { site := { tree, store := .folder root extension encoding [], workingFolder } }

theorem sound_start (tree : FileTree) (root : Path)
    (extension encoding workingFolder : String) (codec : Codec) :
    (start tree root extension encoding workingFolder).Sound root extension encoding codec where
  store := rfl
  within d hd := by cases hd
  nodup := List.nodup_nil
  live p := ⟨(fun hp => by cases hp), (fun ⟨_, hd, _⟩ => by cases hd)⟩
  order := List.Pairwise.nil
  sound d hd := by cases hd
  gone d hd := by cases hd

section Moves

variable [Codecs]

theorem Sound.kept_step (h : s.Sound root extension encoding codec) (m : Move) {k : Nat}
    {d : Deposit} (hk : s.deposits[k]? = some d) (hf : d.fate = .kept) :
    (s.step m).deposits[k]? = some d := by
  obtain ⟨hclosed, _, _, _, hstream, _⟩ := (h.sound d (List.mem_of_getElem? hk)).of_kept hf
  have hclose : ∀ number refusal, (s.close number refusal).deposits[k]? = some d :=
    fun number refusal => getElem?_update hk
      (by rw [Site.close_of_isClosed _ _ hclosed, afterClosing_of_isClosed hclosed rfl])
  have hdiscard : ∀ number refusal, (s.discard number refusal).deposits[k]? = some d :=
    fun number refusal => getElem?_update hk
      (by rw [Site.discard_of_isClosed _ _ hclosed, afterClosing_of_isClosed hclosed rfl])
  cases m with
  | create qualifiedName =>
    simp only [Session.step]
    split
    · split
      · simpa only [List.getElem?_append_left (List.getElem?_eq_some_iff.1 hk).1] using hk
      · exact hk
    · exact hk
  | write number text refusal => exact getElem?_update hk (Deposit.afterWrite_of_closed hstream _ _)
  | close number refusal => exact hclose number refusal
  | discard number refusal => exact hdiscard number refusal
  | leave number raised refusal =>
    cases raised with
    | false => exact hclose number refusal
    | true => exact hdiscard number refusal

theorem Sound.kept_run (h : s.Sound root extension encoding codec)
    (hcodec : Codecs.find encoding = .ok codec) (hext : '/' ∉ extension.toList)
    {moves : List Move} (hmoves : ∀ m ∈ moves, m.Proper) {k : Nat} {d : Deposit}
    (hk : s.deposits[k]? = some d) (hf : d.fate = .kept) :
    (s.run moves).deposits[k]? = some d := by
  induction moves generalizing s with
  | nil => exact hk
  | cons m rest ih =>
    exact ih (h.step hcodec hext (hmoves m List.mem_cons_self))
      (fun m hm => hmoves m (List.mem_cons_of_mem _ hm)) (h.kept_step m hk hf)

theorem Sound.create_of_mem (h : s.Sound root extension encoding codec)
    (hcodec : Codecs.find encoding = .ok codec) {qualifiedName : String}
    (hp : Site.filePath root qualifiedName extension ∈ s.site.store.created) :
    s.site.create qualifiedName = (s.site, .error (Site.recreated qualifiedName)) := by
  rcases s.site.create_cases h.store hcodec qualifiedName with ⟨_, hc⟩ | ⟨hnew, _⟩
  · exact hc
  · exact absurd hp hnew

theorem Sound.create_of_not_mem (h : s.Sound root extension encoding codec)
    (hcodec : Codecs.find encoding = .ok codec) {qualifiedName : String}
    (hp : Site.filePath root qualifiedName extension ∉ s.site.store.created) :
    (s.site.create qualifiedName).2 ≠ .error (Site.recreated qualifiedName) := by
  rcases s.site.create_cases h.store hcodec qualifiedName with
    ⟨hin, _⟩ | ⟨_, ⟨t, stop, _, hne, hc⟩ | ⟨made, t, _, _, hc⟩⟩
  · exact absurd hin hp
  · simp [hc, hne]
  · simp [hc]

structure Reliable (root : Path) (extension : String) (codec : Codec) (s : Session) : Prop where
  nodup : s.site.store.created.Nodup
  enlisted : ∀ p, p ∈ s.site.store.created ↔ ∃ d, s.latest? p = some d ∧ d.fate ≠ .dropped
  /-- The file of a kept artifact holds its texts after any further moves, and no other file is made
  in its place. -/
  kept : ∀ d ∈ s.deposits, d.fate = .kept → ∃ bytes, d.Holds codec bytes ∧
    ∀ moves, (∀ m ∈ moves, m.Proper) →
      (s.run moves).site.tree.read d.path = .ok bytes ∧
      ∀ qualifiedName, Site.filePath root qualifiedName extension = d.path →
        (s.run moves).site.create qualifiedName =
          ((s.run moves).site, .error (Site.recreated qualifiedName))
  dropped : ∀ p d, s.latest? p = some d → d.fate = .dropped →
    (∀ bytes, s.site.tree.read p ≠ .ok bytes) ∧
    ∀ qualifiedName, Site.filePath root qualifiedName extension = p →
      (s.site.create qualifiedName).2 ≠ .error (Site.recreated qualifiedName)

theorem Sound.reliable (h : s.Sound root extension encoding codec)
    (hcodec : Codecs.find encoding = .ok codec) (hext : '/' ∉ extension.toList) :
    s.Reliable root extension codec where
  nodup := h.nodup
  enlisted := h.mem_created_iff_latest
  kept d hd hf := by
    obtain ⟨k, hk⟩ := List.getElem?_of_mem hd
    obtain ⟨bytes, hholds, _⟩ := h.read_kept hd hf
    refine ⟨bytes, hholds, fun moves hmoves => ?_⟩
    have hrun := h.run hcodec hext hmoves
    have hmem := List.mem_of_getElem? (h.kept_run hcodec hext hmoves hk hf)
    obtain ⟨same, hsame, hread⟩ := hrun.read_kept hmem hf
    obtain rfl : same = bytes := hsame.unique hholds
    refine ⟨hread, fun qualifiedName hp => hrun.create_of_mem hcodec ?_⟩
    exact hp ▸ hrun.mem_created hmem (by simp [hf])
  dropped p d hd hf := by
    have hnot : p ∉ s.site.store.created := by
      rw [h.mem_created_iff_latest]
      rintro ⟨e, he, hne⟩
      obtain rfl : d = e := Option.some.inj (hd.symm.trans he)
      exact hne hf
    obtain ⟨hmem, hp⟩ := of_latest? hd
    refine ⟨fun bytes hread => ?_, fun qualifiedName hq => ?_⟩
    · obtain ⟨place, hplace, hfile⟩ := FileTree.read_eq_ok_iff.1 hread
      rw [FileTree.place_eq_settled hplace] at hfile
      exact h.gone d hmem (hp ▸ hnot) bytes (hp ▸ hfile)
    · exact h.create_of_not_mem hcodec (hq ▸ hnot)

end Moves

/-- However its sinks are used, a store in a folder keeps what is finished and nothing that fails. -/
theorem reliable_run [Codecs] (tree : FileTree) (root : Path) {extension encoding : String}
    (workingFolder : String) {codec : Codec} (hcodec : Codecs.find encoding = .ok codec)
    (hext : '/' ∉ extension.toList) {moves : List Move} (hmoves : ∀ m ∈ moves, m.Proper) :
    ((start tree root extension encoding workingFolder).run moves).Reliable root extension codec :=
  ((sound_start tree root extension encoding workingFolder codec).run hcodec hext
    hmoves).reliable hcodec hext

theorem reliable_run_of_two_sinks :
    let moves : List Move := [.create "com.example.Person", .create "com.example.Car",
      .write 0 "class Person" none, .write 1 "class" (some ⟨"No space left on device", [0x63]⟩),
      .close 0 none, .leave 1 true none, .create "com.example.Car", .close 2 (some "gone"),
      .discard 0 none]
    (Codecs.find "utf-8" = .ok Charset.utf8.codec ∧ '/' ∉ ".java".toList ∧
        ∀ m ∈ moves, m.Proper) ∧ Charset.utf8.codec.Seamless ∧
      ((start {} ⟨.here, ["out"]⟩ ".java" "utf-8" "").run moves).Reliable ⟨.here, ["out"]⟩ ".java"
        Charset.utf8.codec := by
  intro moves
  have hext : '/' ∉ ".java".toList := by decide +kernel
  have hperson : Inward "com.example.Person" ∧ Whole "com.example.Person" := by decide +kernel
  have hcar : Inward "com.example.Car" ∧ Whole "com.example.Car" := by decide +kernel
  have hmoves : ∀ m ∈ moves, m.Proper := by
    simp [moves, Move.Proper, hperson, hcar]
  exact ⟨⟨Codecs.find_utf8, hext, hmoves⟩, Charset.utf8.seamless_codec,
    reliable_run {} ⟨.here, ["out"]⟩ "" Codecs.find_utf8 hext hmoves⟩

def found (s : Session) : List (Fate × List String × Option Bytes) :=
  s.deposits.map fun d => (d.fate, d.accepted, (s.site.tree.read d.path).toOption)

/-- A finished file need not have the bytes of its accepted texts as a whole: not where the codec
has states, where the system refused a text, or where a name with halves leads to the file. -/
theorem kept_differs_of_states_refusal_and_halves :
    ((start {} ⟨.here, ["out"]⟩ ".java" "iso2022_jp" "").run
        [.create "B", .write 0 "、" none, .close 0 none]).found =
      [(.kept, ["、"], some [0x1B, 0x24, 0x42, 0x21, 0x22])] ∧
    (Iso2022Jp.codec.encode ['、']).toOption =
      some [0x1B, 0x24, 0x42, 0x21, 0x22, 0x1B, 0x28, 0x42] ∧
    ((start {} ⟨.here, ["out"]⟩ ".java" "utf-8" "").run
        [.create "B", .write 0 "class" none, .write 0 " B" (some ⟨"No space left on device", []⟩),
          .close 0 none]).found = [(.kept, ["class"], some [])] ∧
    ((start {} ⟨.here, ["out"]⟩ ".java" "utf-8" "").run
        [.create "é", .write 0 "class" none, .close 0 none,
          .create (String.ofList [halfOf 0xDCC3, halfOf 0xDCA9])]).found =
      [(.kept, ["class"], some []), (.opened, [], some [])] := by
  refine ⟨?_, ?_, ?_, ?_⟩ <;> decide +kernel

end Session

end BeanForge
