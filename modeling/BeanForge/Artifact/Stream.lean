import BeanForge.Codec
import BeanForge.FileTree.Basic

/-!
# Streams

What takes the text of an artifact: a buffer in memory or an open file. A text
goes into a file encoded, through buffers of the stream, and the file has got all
of its bytes when the stream is closed. The system may refuse a text on the way.
-/

namespace BeanForge

open Text

inductive Stream where
  | buffer (text : String) (isOpen : Bool)
  /-- A file that is open at a place, with the texts that it was given and its bytes. -/
  | file (place : Path) (encoding : String) (given : List String) (bytes : Bytes) (isOpen : Bool)
  /-- A stream that keeps nothing, with the reasons why writing and closing fail. -/
  | void (writeFault closeFault : Option String)
  deriving Repr, DecidableEq

/-- Why a text is not written. -/
inductive WriteFault where
  | system (reason : String)
  | fault (f : Fault)
  deriving Repr, DecidableEq

namespace Stream

/-- The system refuses a text. Which bytes a file has then is up to it, as texts before may still
have been on their way, and the refused one may be there in part. -/
structure Refusal where
  reason : String
  left : Bytes := []
  deriving Repr, DecidableEq

/-- The bytes of a file after a text, and whether it was written. -/
def taken (bytes : Bytes) : Except Fault Bytes → Option Refusal → Bytes × Except WriteFault Unit
  | .error f, _ => (bytes, .error (.fault f))
  | .ok more, none => (bytes ++ more, .ok ())
  | .ok _, some r => (r.left, .error (.system r.reason))

/-- The stream after a text that was given to it. -/
def write [Codecs] (text : String) (refusal : Option Refusal) :
    Stream → Stream × Except WriteFault Unit
  | buffer known false => (buffer known false, .error (.fault (.closedStream true)))
  | buffer known true =>
    match refusal with
    | none => (buffer (known ++ text) true, .ok ())
    | some r => (buffer known true, .error (.system r.reason))
  | file place encoding given bytes false =>
    (file place encoding given bytes false, .error (.fault (.closedStream false)))
  | file place encoding given bytes true =>
    let (bytes, written) :=
      taken bytes (Codecs.feed encoding (given.map String.toList) text.toList) refusal
    (file place encoding (given ++ [text]) bytes true, written)
  | void writeFault closeFault =>
    (void writeFault closeFault, match writeFault with
      | none => .ok ()
      | some reason => .error (.system reason))

def closed : Stream → Stream
  | buffer text _ => buffer text false
  | file place encoding given bytes _ => file place encoding given bytes false
  | void writeFault closeFault => void writeFault closeFault

/-- The files once the stream is closed. -/
def flush (tree : FileTree) : Stream → FileTree
  | file place _ _ bytes true => tree.overwrite place bytes
  | _ => tree

/-- Why the stream cannot be closed well. The system may refuse it as long as it is open. -/
def closeFault? (refusal : Option String) : Stream → Option String
  | buffer _ isOpen | file _ _ _ _ isOpen => if isOpen then refusal else none
  | void _ closeFault => closeFault

@[simp] theorem flush_buffer (tree : FileTree) (text : String) (isOpen : Bool) :
    flush tree (buffer text isOpen) = tree := rfl

@[simp] theorem flush_closed (tree : FileTree) (s : Stream) : s.closed.flush tree = tree := by
  cases s <;> rfl

end Stream

end BeanForge
