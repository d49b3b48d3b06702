import BeanForge.Proofs.Artifact.Emission
import BeanForge.Proofs.Artifact.Paths
import BeanForge.Proofs.Codec

/-!
# Sessions with a folder

Sinks of one store are made, written to, closed and discarded in any order, and the system may
refuse texts and closing. Every sink is remembered with the texts that its stream took and with
what became of its artifact.
-/

namespace BeanForge

open Text

inductive Fate where
  | opened
  | kept
  | dropped
  deriving DecidableEq

/-- A sink that was made, and what happened to it so far. -/
structure Deposit where
  path : Path
  sink : Sink
  fate : Fate := .opened
  /-- The texts that were written without an error. -/
  accepted : List String := []
  /-- Whether the system refused none. -/
  intact : Bool := true

/-- Something that is done with the sinks of a store. Sinks are known by the number of those made
before them, and a refusal is that of the system. -/
inductive Move where
  | create (qualifiedName : String)
  | write (number : Nat) (text : String) (refusal : Option Stream.Refusal)
  | close (number : Nat) (refusal : Option String)
  | discard (number : Nat) (refusal : Option String)
  /-- The end of a block that has the sink, by an exception or not. -/
  | leave (number : Nat) (raised : Bool) (refusal : Option String)

/-- Only names that stay below the root are used, and that have no halves of pairs. -/
def Move.Proper : Move → Prop
  | create qualifiedName => Inward qualifiedName ∧ Whole qualifiedName
  | _ => True

structure Session where
  site : Site
  deposits : List Deposit := []

namespace Deposit

def afterWrite [Codecs] (d : Deposit) (text : String) (refusal : Option Stream.Refusal) :
    Deposit :=
  match d.sink.write text refusal with
  | (sink, .ok _) => { d with sink, accepted := d.accepted ++ [text] }
  | (sink, .error (.failure _)) => { d with sink, intact := false }
  | (sink, .error (.fault _)) => { d with sink }

/-- An artifact is settled when its sink is closed first. -/
def afterClosing (d : Deposit) (c : Site.Closing) (keeps : Bool) : Deposit :=
  { d with
    sink := c.sink
    fate :=
      if d.sink.isClosed then d.fate
      else match c.outcome with
        | .ok _ => if keeps then .kept else .dropped
        | .error _ => .dropped }

end Deposit

namespace Session

def update (s : Session) (number : Nat) (change : Deposit → Site × Deposit) : Session :=
  match s.deposits[number]? with
  | none => s
  | some d => { site := (change d).1, deposits := s.deposits.set number (change d).2 }

def close (s : Session) (number : Nat) (refusal : Option String) : Session :=
  s.update number fun d =>
    ((s.site.close d.sink refusal).site, d.afterClosing (s.site.close d.sink refusal) true)

def discard (s : Session) (number : Nat) (refusal : Option String) : Session :=
  s.update number fun d =>
    ((s.site.discard d.sink refusal).site, d.afterClosing (s.site.discard d.sink refusal) false)

def step [Codecs] (s : Session) : Move → Session
  | .create qualifiedName =>
    match s.site.create qualifiedName with
    | (site, .ok sink) =>
      match sink.keeping with
      | .onDisk path => { site, deposits := s.deposits ++ [{ path, sink }] }
      | _ => { s with site }
    | (site, .error _) => { s with site }
  | .write number text refusal => s.update number fun d => (s.site, d.afterWrite text refusal)
  | .close number refusal => s.close number refusal
  | .discard number refusal => s.discard number refusal
  | .leave number raised refusal =>
    if raised then s.discard number refusal else s.close number refusal

def run [Codecs] (s : Session) (moves : List Move) : Session :=
  moves.foldl step s

def latest? (s : Session) (p : Path) : Option Deposit :=
  s.deposits.reverse.find? (·.path = p)

end Session

/-! Making -/

namespace Site

theorem message_ne_recreated (e : OsError) : e.message ≠ "attempt to recreate a file" := by
  intro h
  have hhead := congrArg (fun s => s.toList.head?) h
  simp [OsError.message] at hhead

variable [Codecs]

theorem openFile_ne_recreated {tree u : FileTree} {encoding qualifiedName : String} {path : Path}
    {stop : Stop} (h : openFile tree encoding qualifiedName path = (u, .error stop)) :
    stop ≠ recreated qualifiedName := by
  rintro rfl
  rcases openFile_error h with ⟨_, hf, _⟩ | ⟨_, _, hfault⟩
  · obtain ⟨e, he⟩ := hf _ rfl
    simp only [Failure.emission.injEq, true_and] at he
    exact message_ne_recreated e he.symm
  · cases hfault

theorem create_cases (s : Site) {root : Path} {extension encoding : String} {codec : Codec}
    (hstore : s.store = .folder root extension encoding s.store.created)
    (hcodec : Codecs.find encoding = .ok codec) (qualifiedName : String) :
    (filePath root qualifiedName extension ∈ s.store.created ∧
      s.create qualifiedName = (s, .error (recreated qualifiedName))) ∨
    (filePath root qualifiedName extension ∉ s.store.created ∧
      ((∃ t stop, s.tree.Grows t ∧ stop ≠ recreated qualifiedName ∧
        s.create qualifiedName = ({ s with tree := t }, .error stop)) ∨
      ∃ made t, s.tree.Grows made ∧
        made.openNew (filePath root qualifiedName extension) =
          .ok ((filePath root qualifiedName extension).settled, t) ∧
        s.create qualifiedName =
          ({ s with tree := t, store := s.store.enlist (filePath root qualifiedName extension) },
            .ok (fileSink root extension encoding s.workingFolder qualifiedName
              (filePath root qualifiedName extension).settled)))) := by
  obtain ⟨tree, store, workingFolder⟩ := s
  simp only at hstore
  generalize store.created = created at hstore
  subst hstore
  rcases create_folder_cases tree root extension encoding workingFolder qualifiedName created with
    ⟨hknown, hcreate⟩ | ⟨hfresh, t, stop, ho, hcreate⟩ | ⟨hfresh, t, ho, hcreate⟩
  · exact .inl ⟨hknown, hcreate⟩
  · rcases openFile_error ho with ⟨hgrows, _, _⟩ | ⟨_, hnone, _⟩
    · exact .inr ⟨hfresh, .inl ⟨t, stop, hgrows, openFile_ne_recreated ho, hcreate⟩⟩
    · simp [hcodec] at hnone
  · obtain ⟨_, ⟨made, hmade, hopen⟩, _⟩ := openFile_ok ho
    exact .inr ⟨hfresh, .inr ⟨made, t, FileTree.grows_of_makeFolders hmade, hopen, hcreate⟩⟩

end Site

/-! Writing -/

theorem Sink.write_fst [Codecs] (s : Sink) (text : String) (refusal : Option Stream.Refusal) :
    (s.write text refusal).1 = { s with stream := (s.stream.write text refusal).1 } := by
  rw [write]
  split <;> simp_all

namespace Deposit

variable [Codecs] {d : Deposit} {place : Path} {encoding : String} {given : List String}
  {bytes : Bytes}

/-- As long as the system refuses no text, a file is to have the bytes of the accepted ones, which
are those of the texts given that the encoder takes. -/
def Poured (codec : Codec) (d : Deposit) (given : List String) (bytes : Bytes) : Prop :=
  d.intact = true →
    (codec.pieces [] (given.map String.toList)).map (·.1) = d.accepted.map String.toList ∧
      (codec.pieces [] (given.map String.toList)).flatMap (·.2) = bytes

theorem exists_afterWrite (d : Deposit) (text : String) (refusal : Option Stream.Refusal) :
    ∃ stream accepted intact, d.afterWrite text refusal =
      { d with sink := { d.sink with stream }, accepted, intact } := by
  cases hw : d.sink.stream.write text refusal with
  | mk stream written =>
    refine ⟨stream, ?_⟩
    match written with
    | .ok _ => exact ⟨d.accepted ++ [text], d.intact, by simp [afterWrite, Sink.write, hw]⟩
    | .error (.system _) =>
      exact ⟨d.accepted, false, by simp [afterWrite, Sink.write, hw, Sink.failure]⟩
    | .error (.fault _) => exact ⟨d.accepted, d.intact, by simp [afterWrite, Sink.write, hw]⟩

theorem afterWrite_of_closed (h : d.sink.stream = .file place encoding given bytes false)
    (text : String) (refusal : Option Stream.Refusal) : d.afterWrite text refusal = d := by
  obtain ⟨path, sink, fate, accepted, intact⟩ := d
  obtain ⟨qualifiedName, location, stream, keeping, isClosed⟩ := sink
  obtain rfl : stream = _ := h
  rfl

/-- An open file takes a text, and its bytes unless they are refused. -/
theorem afterWrite_of_open {codec : Codec} (hcodec : Codecs.find encoding = .ok codec)
    (h : d.sink.stream = .file place encoding given bytes true) (hd : d.Poured codec given bytes)
    (text : String) (refusal : Option Stream.Refusal) :
    ∃ more, (d.afterWrite text refusal).sink.stream =
        .file place encoding (given ++ [text]) more true ∧
      (d.afterWrite text refusal).Poured codec (given ++ [text]) more := by
  have hfeed := Codecs.feed_of_find hcodec (given.map String.toList) text.toList
  cases hf : codec.feed (given.map String.toList) text.toList with
  | error f =>
    rw [hf] at hfeed
    refine ⟨bytes, by simp [afterWrite, Sink.write, h, Stream.write, Stream.taken, hfeed], ?_⟩
    simpa [Poured, afterWrite, Sink.write, h, Stream.write, Stream.taken, hfeed,
      Codec.pieces_concat_of_error hf] using hd
  | ok more =>
    rw [hf] at hfeed
    cases refusal with
    | none =>
      refine ⟨bytes ++ more,
        by simp [afterWrite, Sink.write, h, Stream.write, Stream.taken, hfeed], ?_⟩
      simpa [Poured, afterWrite, Sink.write, h, Stream.write, Stream.taken, hfeed,
        Codec.pieces_concat_of_ok hf] using hd
    | some r =>
      exact ⟨r.left, by simp [afterWrite, Sink.write, h, Stream.write, Stream.taken, hfeed,
        Sink.failure], by simp [Poured, afterWrite, Sink.write, h, Stream.write, Stream.taken,
        hfeed, Sink.failure]⟩

end Deposit

/-! Closing -/

namespace Session

variable {s : Session}

theorem afterClosing_of_isClosed {d : Deposit} {c : Site.Closing} (h : d.sink.isClosed = true)
    (hsink : c.sink = d.sink) (keeps : Bool) : d.afterClosing c keeps = d := by
  simp [Deposit.afterClosing, h, hsink]

theorem update_cases (s : Session) (number : Nat) (change : Deposit → Site × Deposit) :
    s.update number change = s ∨ ∃ l d r, s.deposits = l ++ d :: r ∧ l.length = number ∧
      s.update number change = ⟨(change d).1, l ++ (change d).2 :: r⟩ := by
  cases h : s.deposits[number]? with
  | none => exact .inl (by simp [update, h])
  | some d =>
    obtain ⟨hlt, hd⟩ := List.getElem?_eq_some_iff.1 h
    refine .inr ⟨s.deposits.take number, d, s.deposits.drop (number + 1), ?_, ?_, ?_⟩
    · rw [← hd, List.getElem_cons_drop, List.take_append_drop]
    · rw [List.length_take]
      omega
    · simp only [update, h, List.set_eq_take_append_cons_drop, hlt, if_true]

end Session

end BeanForge
