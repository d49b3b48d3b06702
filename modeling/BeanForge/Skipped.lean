import BeanForge.Discovery
import BeanForge.Log.Record

/-!
# Skipped declarations

The log records about what is passed over in silence otherwise: methods that
describe no field, and marked declarations that are no interfaces.
-/

namespace BeanForge.Skipped

def record (logger message : String) : Log.Record where
  level := .debug
  logger := logger
  message := message

def ofMethods (methods : List Method) : List Log.Record :=
  methods.filterMap fun m => m.skipNote?.map (record "entitygen.core.fields")

def ofUnit (marker : String) (u : Source.CompilationUnit) : List Log.Record :=
  (Discovery.skipNotes marker u).map (record "entitygen.discovery")

end BeanForge.Skipped
