import BeanForge.Proofs.Template.Likeness
import BeanForge.Template.Library

/-!
# The bundled template parsed

The parts that the bundled template is read as with the usual settings. Lines that hold only a
tag leave nothing behind, and constants have nothing to be folded.
-/

namespace BeanForge.Template

open Text

namespace Bundled

def shown (name : String) : Part :=
  .print (.name name)

def shownMember (name : String) : Part :=
  .print (.member (.name "field") name)

def shownUnder (filter : String) (line : Nat) : Part :=
  .print (.filter (.name "field") filter [] line)

def packageParts : List Part :=
  [.text "package ", shown "package_name", .text ";\n\n"]

def declarationParts : List Part :=
  [.text "\n    /** The ", shownMember "name", .text " property",
    .branch [(.member (.name "field") "is_identifier", [.text ", part of the entity key"])] [],
    .text ". */\n    private ", shownMember "type_name", .text " ", shownMember "name", .text ";\n"]

def accessorParts : List Part :=
  [.text "\n    public ", shownMember "type_name", .text " ", shownUnder "getter_name" 27,
    .text "() \x7b\n\n        return ", shownMember "name",
    .text ";\n    \x7d\n\n    public void ", shownUnder "setter_name" 32, .text "(",
    shownMember "type_name", .text " ", shownMember "name", .text ") \x7b\n\n        this.",
    shownMember "name", .text " = ", shownMember "name", .text ";\n    \x7d\n"]

def comparisons : Expr :=
  .filter (.filter (.name "key_fields") "map" [(none, .literal (.string "equals_expr"))] 50) "join"
    [(none, .literal (.string " && "))] 50

def comparisonParts : List Part :=
  [.text "        ", shown "impl_name", .text " other = (", shown "impl_name",
    .text ") obj;\n        return ", .print comparisons, .text ";\n"]

def hashParts : List Part :=
  [.text "        result = 31 * result + ", shownUnder "hash_expr" 61, .text ";\n"]

def displayParts : List Part :=
  [.text "            + \"", shownMember "name", .text "=\" + ", shownUnder "string_expr" 71,
    .branch [(.inverse (.member (.name "loop") "last"), [.text " + \", \""])] [], .text "\n"]

def fieldLoop (line : Nat) (fields : String) (body : List Part) : Part :=
  .loop (.name "field" line) (.name fields) none body []

def keyFields : Part :=
  .assign (.name "key_fields" 37)
    (.choice (.name "id_fields") (.name "id_fields") (some (.name "fields")) 37)

def parts : List Part :=
  [.branch [(.name "package_name", packageParts)] [],
    .text "/**\n * Implementation of ", shown "entity_name",
    .text ", generated by entitygen.\n */\npublic class ", shown "impl_name",
    .text "\n    implements ", shown "entity_name",
    .text ", java.io.Serializable \x7b\n\n    private static final long serialVersionUID = 1L;\n",
    fieldLoop 12 "fields" declarationParts,
    .text "\n    /**\n     * Default constructor.\n     */\n    public ", shown "impl_name",
    .text "() \x7b\n\n        super();\n    \x7d\n",
    fieldLoop 25 "fields" accessorParts,
    keyFields,
    .text ("\n    @Override\n    public boolean equals(Object obj) \x7b\n\n" ++
      "        if (this == obj) \x7b\n            return true;\n        \x7d\n" ++
      "        if (!(obj instanceof "),
    shown "impl_name", .text ")) \x7b\n            return false;\n        \x7d\n",
    .branch [(.name "key_fields", comparisonParts)] [.text "        return true;\n"],
    .text ("    \x7d\n" ++
      "\n    @Override\n    public int hashCode() \x7b\n\n        int result = 17;\n"),
    fieldLoop 60 "key_fields" hashParts,
    .text ("        return result;\n    \x7d\n" ++
      "\n    @Override\n    public String toString() \x7b\n\n        return \""),
    shown "impl_name", .text "[\"\n",
    fieldLoop 70 "fields" displayParts,
    .text ("            + \"]\";\n    \x7d\n" ++ "\x7d\n")]

end Bundled

def parseChars (style : Style) (cs : List Char) : Except Refusal (List Part) := do
  let parts ← Grammar.template (tokensFrom style cs.length (cs.length + 1) { rest := cs } 1)
  match Check.inParts false parts with
  | [] => pure (Part.foldedAll parts)
  | refusal :: _ => .error refusal

theorem parse_eq_parseChars (style : Style) (text : String) :
    parse style text = parseChars style (unifyNewlines text.toList) := rfl

def isParsedAs (parts : List Part) : Except Refusal (List Part) → Bool
  | .ok found => Part.alikeAll found parts
  | .error _ => false

theorem eq_of_isParsedAs {parts : List Part} {outcome : Except Refusal (List Part)}
    (h : isParsedAs parts outcome = true) : outcome = .ok parts := by
  cases outcome with
  | error _ => cases h
  | ok found => rw [Part.eq_of_alikeAll found h]

theorem cons_eq_map_ofList {line : String} {cs : List Char} {lines : List String}
    {others : List (List Char)} (h : line = String.ofList cs)
    (hs : lines = others.map String.ofList) :
    line :: lines = (cs :: others).map String.ofList := by
  rw [h, hs, List.map_cons]

namespace Bundled

theorem toList_text {lines : List (List Char)} (h : Bundled.lines = lines.map String.ofList) :
    text.toList = lines.flatMap (· ++ ['\n']) := by
  rw [text, h, String.toList_join, List.map_map, List.flatMap_map]
  simp

theorem isParsedAs_parts : ∃ lines : List (List Char), Bundled.lines = lines.map String.ofList ∧
    isParsedAs parts (parseChars ⟨true, true⟩ (unifyNewlines (lines.flatMap (· ++ ['\n'])))) =
      true := by
  apply Exists.intro
  constructor
  · dsimp only [lines]
    repeat apply cons_eq_map_ofList rfl
    exact List.map_nil.symm
  · decide +kernel

theorem parse_text : parse ⟨true, true⟩ text = .ok parts := by
  obtain ⟨lines, hlines, hparsed⟩ := isParsedAs_parts
  rw [parse_eq_parseChars, toList_text hlines]
  exact eq_of_isParsedAs hparsed

end Bundled

end BeanForge.Template
