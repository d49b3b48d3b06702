import BeanForge.Artifact.Stream
import BeanForge.Failure

/-!
# Sinks

The place that the text of one artifact is written to. A sink is closed once, and
what is written and how it is closed decide whether its artifact is kept.
-/

namespace BeanForge

/-- Where the artifact of a sink is kept. -/
inductive Keeping where
  | nowhere
  /-- Recorded in memory under a path. -/
  | recorded (path : String)
  | onDisk (path : Path)
  deriving Repr, DecidableEq

structure Sink where
  qualifiedName : String
  location : String
  stream : Stream
  keeping : Keeping := .nowhere
  isClosed : Bool := false
  deriving Repr, DecidableEq

namespace Sink

def failure (s : Sink) (reason : String) : Stop :=
  .failure (.emission s.qualifiedName reason)

/-- The sink after a text, which its stream may refuse. -/
def write [Codecs] (s : Sink) (text : String) (refusal : Option Stream.Refusal := none) :
    Sink × Except Stop Unit :=
  match s.stream.write text refusal with
  | (stream, .ok _) => ({ s with stream }, .ok ())
  | (stream, .error (.system reason)) => ({ s with stream }, .error (s.failure reason))
  | (stream, .error (.fault f)) => ({ s with stream }, .error (.fault f))

/-- Write texts up to the first that cannot be written. -/
def writeAll [Codecs] (s : Sink) :
    List (String × Option Stream.Refusal) → Sink × Except Stop Unit
  | [] => (s, .ok ())
  | (text, refusal) :: rest =>
    match s.write text refusal with
    | (s, .ok _) => s.writeAll rest
    | (s, .error e) => (s, .error e)

@[simp] theorem writeAll_nil [Codecs] (s : Sink) : s.writeAll [] = (s, .ok ()) := rfl

end Sink

end BeanForge
