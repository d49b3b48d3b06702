import BeanForge.Discovery.Paths
import BeanForge.Proofs.Source.Declarations
import BeanForge.Proofs.Source.Lexing

/-!
# Answers of discovery

A text is told about as long as it does not stop in the middle of what its reader asks for: in a
number, in its header or behind an operand, and no escape in it goes below zero. A file with
any other text is passed over by a search, however wrong the text is.
-/

namespace BeanForge.Discovery

open Source Text Written

def Answers (source : Option String) : Except Stop (List Interface) → Prop
  | .ok _ => True
  | .error (.failure f) =>
    f.kind = .discovery ∧ f.details = [("source", .string (sourceLabel source))]
  | .error (.fault _) => False

/-- Why nothing is told about a text. -/
inductive Untold (text : String) : Prop
  /-- An escape asks for a character with a number below zero. -/
  | escape (hescape : undoEscapes [] text.toList = .error .belowZero)
  /-- The text ends within a number. -/
  | number {cs : List Char} (hcs : undoEscapes [] text.toList = .ok cs) (hcut : CutOff cs)
  /-- The text ends in front of its declarations, where an annotation, the package or an import
  goes on. -/
  | header {ts : List Token} {halt : Halt} (hts : tokens text = .ok ts)
      (hrun : (Grammar.header (Grammar.levelFor ts)).run ts = .error halt)
      (hhalt : ∀ description line, halt ≠ .unexpected description line)
  /-- The text ends after an operand. -/
  | declarations {ts rest : List Token} {package : Option String} (hts : tokens text = .ok ts)
      (hheader : (Grammar.header (Grammar.levelFor ts)).run ts = .ok (package, rest))
      (hrun : (Grammar.declarations (Grammar.levelFor ts)).run rest = .error .endAfterOperand)

/-! Texts -/

theorem untokened_tokens_iff (text : String) :
    Untokened (tokens text) ↔ undoEscapes [] text.toList = .error .belowZero ∨
      ∃ cs, undoEscapes [] text.toList = .ok cs ∧ CutOff cs := by
  cases hcs : undoEscapes [] text.toList with
  | ok cs =>
    simp only [tokens, hcs]
    refine (untokened_tokensFrom_iff (Nat.le_refl _) _).trans ?_
    simp
  | error fault =>
    simp only [tokens, hcs]
    cases fault <;> simp [untokened_error, account]

/-- The causes one after the other, as a text is read. -/
theorem untold_iff (text : String) :
    Untold text ↔ Untokened (tokens text) ∨ ∃ ts, tokens text = .ok ts ∧
      ((∃ halt, (Grammar.header (Grammar.levelFor ts)).run ts = .error halt ∧
          ∀ description line, halt ≠ .unexpected description line) ∨
        ∃ package rest, (Grammar.header (Grammar.levelFor ts)).run ts = .ok (package, rest) ∧
          (Grammar.declarations (Grammar.levelFor ts)).run rest = .error .endAfterOperand) := by
  rw [untokened_tokens_iff]
  constructor
  · intro h
    cases h with
    | escape hescape => exact .inl (.inl hescape)
    | number hcs hcut => exact .inl (.inr ⟨_, hcs, hcut⟩)
    | header hts hrun hhalt => exact .inr ⟨_, hts, .inl ⟨_, hrun, hhalt⟩⟩
    | declarations hts hheader hrun => exact .inr ⟨_, hts, .inr ⟨_, _, hheader, hrun⟩⟩
  · rintro ((hescape | ⟨cs, hcs, hcut⟩) | ⟨ts, hts, ⟨halt, hrun, hhalt⟩ | ⟨_, _, hheader, hrun⟩⟩)
    · exact .escape hescape
    · exact .number hcs hcut
    · exact .header hts hrun hhalt
    · exact .declarations hts hheader hrun

/-- A text ends its reading with a fault exactly if nothing is told about it. -/
theorem compilationUnit_fault_iff (text : String) :
    (∃ f, compilationUnit text = .error (.fault f)) ↔ Untold text := by
  rw [untold_iff]
  cases hts : tokens text with
  | error fault =>
    rw [untokened_error]
    simp only [compilationUnit, hts, Except.mapError, bind, Except.bind]
    cases fault <;> simp [rejectLexing]
  | ok ts =>
    simp only [compilationUnit, hts, not_untokened_ok, false_or, Except.mapError, bind,
      Except.bind, Except.ok.injEq, exists_eq_left']
    cases hheader : (Grammar.header (Grammar.levelFor ts)).run ts with
    | error halt => cases halt <;> simp [rejectHeader]
    | ok found =>
      obtain ⟨package, rest⟩ := found
      cases hrun : (Grammar.declarations (Grammar.levelFor ts)).run rest with
      | ok all => simp [hrun, pure, Except.pure]
      | error halt =>
        cases halt with
        | endAfterOperand =>
          refine iff_of_true ⟨.textEnds, ?_⟩ (.inr ⟨package, rest, rfl, hrun⟩)
          simp [hrun, rejectDeclarations]
        | _ => simp [hrun, rejectDeclarations]

theorem answers_iff (marker text : String) (source : Option String) :
    Answers source (discover marker text source) ↔ ¬Untold text := by
  rw [← compilationUnit_fault_iff]
  simp only [discover, read]
  cases compilationUnit text with
  | ok u => simp [Answers, Except.map, Except.mapError]
  | error rejection =>
    cases rejection <;>
      simp [Answers, Except.map, Except.mapError, stopOf, Failure.kind, Failure.details]

/-- Nothing is told about a text that ends within the name of its package or right after it. -/
theorem untold_of_cut_package {names : List Name} {front : List Lexeme}
    (hfront : front <+: dottedLexemes names) {text : String} {cs : List Char}
    (hcs : undoEscapes [] text.toList = .ok cs)
    (h : LaidOut (.word "package" (by decide) :: front) cs) : Untold text := by
  obtain ⟨ts, hts, hspells⟩ := tokens_of_laidOut hcs h
  have hrun := (Grammar.exhausts_header hfront (Grammar.levelFor ts)).run hspells
  exact .header hts hrun fun _ _ hhalt => nomatch hhalt

/-! Files -/

/-- What ends a search at a file: it cannot be asked for, or nothing is told about its text. -/
inductive EndsSearch (tree : FileTree) (p : Path) : Prop
  | path {f : Fault} (hpath : p.fault? = some f)
  | untold {bytes : List UInt8} {cs : List Char} (hread : tree.read p = .ok bytes)
      (hdecode : Utf8.decode bytes = .ok cs) (htext : Untold (String.ofList (unifyNewlines cs)))

theorem fault?_inText (marker text : String) (p : Path) :
    (inText marker text p).fault? = none ↔ ¬Untold text := by
  rw [← compilationUnit_fault_iff]
  simp only [inText, read]
  cases compilationUnit text with
  | ok u => simp [Except.mapError]
  | error rejection => cases rejection <;> simp [Except.mapError, stopOf, Finding.complaint]

theorem endsSearch_iff {tree : FileTree} {p : Path} (hpath : p.fault? = none) :
    EndsSearch tree p ↔ ∃ bytes cs, tree.read p = .ok bytes ∧ Utf8.decode bytes = .ok cs ∧
      Untold (String.ofList (unifyNewlines cs)) := by
  constructor
  · intro h
    cases h with
    | path h => cases hpath.symm.trans h
    | untold hread hdecode htext => exact ⟨_, _, hread, hdecode, htext⟩
  · rintro ⟨_, _, hread, hdecode, htext⟩
    exact .untold hread hdecode htext

theorem fault?_inFile (marker : String) (tree : FileTree) (p : Path) :
    (inFile marker tree p).fault? = none ↔ ¬EndsSearch tree p := by
  unfold inFile
  cases hpath : p.fault? with
  | some f => simpa using EndsSearch.path hpath
  | none =>
    rw [endsSearch_iff hpath]
    cases hread : tree.read p with
    | error e => simp [unreadable, Finding.complaint]
    | ok bytes =>
      cases hdecode : Utf8.decode bytes with
      | error u => simp [hdecode, unreadable, Finding.complaint]
      | ok cs => simp [hdecode, fault?_inText]

theorem fault?_untilFault (search : Path → Finding) (files : List Path) :
    (untilFault search files).fault? = none ↔ ∀ p ∈ files, (search p).fault? = none := by
  induction files with
  | nil => simp [untilFault]
  | cons p rest ih =>
    rw [List.forall_mem_cons, ← ih]
    cases hfault : (search p).fault? with
    | none => simp [untilFault, hfault, Finding.append]
    | some f => simp [untilFault, hfault]

theorem fault?_inPaths (marker : String) (tree : FileTree) (paths : List Path) :
    (inPaths marker tree paths).fault? = none ↔
      ∃ files, paths.mapM (selected tree) = .ok files ∧
        ∀ p ∈ files.flatten, ¬EndsSearch tree p := by
  unfold inPaths
  cases paths.mapM (selected tree) with
  | error f => simp
  | ok files =>
    simp only [fault?_untilFault, fault?_inFile]
    simp

/-- Discovery answers and a search comes to its end exactly if something is told about every text
that is read. -/
theorem discovery_tells_iff (marker : String) :
    (∀ text source, Answers source (discover marker text source) ↔ ¬Untold text) ∧
    ∀ tree paths, (inPaths marker tree paths).fault? = none ↔
      ∃ files, paths.mapM (selected tree) = .ok files ∧
        ∀ p ∈ files.flatten, ¬EndsSearch tree p :=
  ⟨fun text source => answers_iff marker text source, fault?_inPaths marker⟩

theorem not_answers_of_open_package :
    ¬Answers none (discover "GenerateEntity" "package a" none) := by
  have hplain : undoEscapes [] "package a".toList = .ok "package a".toList :=
    undoEscapes_of_not_mem (by decide)
  let lexemes : List Lexeme := .word "package" (by decide) :: dottedLexemes [⟨"a", by decide⟩]
  have hlays : Lays lexemes (spread lexemes [" ", ""]) := lays_spread (by decide)
  have hspread : "package a".toList = spread lexemes [" ", ""] := by decide
  rw [answers_iff]
  exact not_not_intro
    (untold_of_cut_package (List.prefix_refl _) hplain ⟨[], _, .nil, hlays, hspread⟩)

end BeanForge.Discovery
