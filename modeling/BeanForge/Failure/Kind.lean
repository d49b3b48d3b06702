/-!
# Kinds of failures

The kinds of things that go wrong, each with its code for programs and its name.
-/

namespace BeanForge.Failure

inductive Kind where
  | general
  | notAccessor
  | template
  | templateNotFound
  | templateSyntax
  | rendering
  | emission
  | discovery
  | configuration
  deriving Repr, DecidableEq

namespace Kind

def all : List Kind :=
  [general, notAccessor, template, templateNotFound, templateSyntax, rendering, emission,
    discovery, configuration]

def code : Kind → String
  | general => "ENTITYGEN_ERROR"
  | notAccessor => "MALFORMED_METHOD_SHAPE"
  | template => "TEMPLATE_ERROR"
  | templateNotFound => "TEMPLATE_NOT_FOUND"
  | templateSyntax => "TEMPLATE_SYNTAX_ERROR"
  | rendering => "RENDER_ERROR"
  | emission => "EMISSION_IO_ERROR"
  | discovery => "DISCOVERY_ERROR"
  | configuration => "CONFIGURATION_ERROR"

def name : Kind → String
  | general => "EntityGenError"
  | notAccessor => "MalformedMethodShape"
  | template => "TemplateError"
  | templateNotFound => "TemplateNotFound"
  | templateSyntax => "TemplateSyntaxError"
  | rendering => "RenderError"
  | emission => "EmissionIOError"
  | discovery => "DiscoveryError"
  | configuration => "ConfigurationError"

def named? (name : String) : Option Kind :=
  all.find? (·.name == name)

/-- What stands before the name where the kind is told in full. -/
def home : String := "entitygen.core.errors."

def concernsTemplates : Kind → Bool
  | template | templateNotFound | templateSyntax | rendering => true
  | _ => false

end Kind

end BeanForge.Failure
