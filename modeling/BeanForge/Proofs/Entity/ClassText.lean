import BeanForge.Entity
import BeanForge.Member

/-!
# The text of a class

The text of the class that belongs to an entity, put together without any template: one piece for
each member of the class, and inside the pieces one text for each field in the order of the table.
-/

namespace BeanForge

namespace Field

def declarationText (f : Field) : String :=
  "\n    /** The " ++ f.name ++ " property" ++
    (if f.isIdentifier then ", part of the entity key" else "") ++ ". */\n    private " ++
    f.typeName ++ " " ++ f.name ++ ";\n"

def accessorText (f : Field) : String :=
  "\n    public " ++ f.typeName ++ " " ++ f.getterName ++ "() \x7b\n\n        return " ++ f.name ++
    ";\n    \x7d\n\n    public void " ++ f.setterName ++ "(" ++ f.typeName ++ " " ++ f.name ++
    ") \x7b\n\n        this." ++ f.name ++ " = " ++ f.name ++ ";\n    \x7d\n"

def hashText (f : Field) : String :=
  "        result = 31 * result + " ++ f.hash ++ ";\n"

def displayText (f : Field) : String :=
  "            + \"" ++ f.name ++ "=\" + " ++ f.display

def displayLines : List Field → String
  | [] => ""
  | [f] => f.displayText ++ "\n"
  | f :: g :: rest => f.displayText ++ " + \", \"" ++ "\n" ++ displayLines (g :: rest)

end Field

namespace Entity

/-- The fields that objects are compared by: the identifiers, or all fields if there are none. -/
def keyFields (e : Entity) : List Field :=
  if e.table.identifiers.isEmpty then e.table.fields else e.table.identifiers

def packageText (e : Entity) : String :=
  if e.package = "" then "" else "package " ++ e.package ++ ";\n\n"

def headerText (e : Entity) : String :=
  "/**\n * Implementation of " ++ e.interfaceName ++
    ", generated by entitygen.\n */\npublic class " ++ e.generatedName ++ "\n    implements " ++
    e.interfaceName ++
    ", java.io.Serializable \x7b\n\n    private static final long serialVersionUID = 1L;\n"

def constructorText (e : Entity) : String :=
  "\n    /**\n     * Default constructor.\n     */\n    public " ++ e.generatedName ++
    "() \x7b\n\n        super();\n    \x7d\n"

def comparisonText (e : Entity) : String :=
  if e.keyFields.isEmpty then "        return true;\n"
  else "        " ++ e.generatedName ++ " other = (" ++ e.generatedName ++
    ") obj;\n        return " ++ " && ".intercalate (e.keyFields.map (·.equality "other")) ++ ";\n"

def equalsText (e : Entity) : String :=
  "\n    @Override\n    public boolean equals(Object obj) \x7b\n\n" ++
    "        if (this == obj) \x7b\n            return true;\n        \x7d\n" ++
    "        if (!(obj instanceof " ++ e.generatedName ++
    ")) \x7b\n            return false;\n        \x7d\n" ++ e.comparisonText ++ "    \x7d\n"

def hashCodeText (e : Entity) : String :=
  "\n    @Override\n    public int hashCode() \x7b\n\n        int result = 17;\n" ++
    String.join (e.keyFields.map Field.hashText) ++ "        return result;\n    \x7d\n"

def toStringText (e : Entity) : String :=
  "\n    @Override\n    public String toString() \x7b\n\n        return \"" ++ e.generatedName ++
    "[\"\n" ++ Field.displayLines e.table.fields ++ "            + \"]\";\n    \x7d\n"

def classText (e : Entity) : String :=
  e.packageText ++ e.headerText ++ String.join (e.table.fields.map Field.declarationText) ++
    e.constructorText ++ String.join (e.table.fields.map Field.accessorText) ++ e.equalsText ++
    e.hashCodeText ++ e.toStringText ++ "\x7d\n"

end Entity

end BeanForge
