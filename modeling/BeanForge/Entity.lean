import BeanForge.FieldTable

/-!
# Interfaces and their entities

An interface found with its methods, and the entity that its accessors describe.
The generated class is named after the interface and lies in the same package.
-/

namespace BeanForge

structure Interface where
  name : String
  package : String := ""
  methods : List Method := []
  /-- Where the declaration stands, such as a path. -/
  source : Option String := none
  deriving Repr, DecidableEq

/-- The name inside a package; the default package is empty. -/
def qualify (package name : String) : String :=
  if package = "" then name else package ++ "." ++ name

namespace Interface

def qualifiedName (i : Interface) : String :=
  qualify i.package i.name

end Interface

structure Entity where
  package : String := ""
  interfaceName : String
  table : FieldTable

namespace Entity

def generatedName (e : Entity) : String :=
  e.interfaceName ++ "Impl"

def qualifiedName (e : Entity) : String :=
  qualify e.package e.generatedName

end Entity

namespace Interface

def entity (i : Interface) : Entity :=
  ⟨i.package, i.name, FieldTable.ofMethods i.methods⟩

end Interface

end BeanForge
