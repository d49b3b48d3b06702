import BeanForge.Proofs.Pass.Account

/-!
# Passes that come to their end

A pass tells failures and goes on, and a fault ends it. The faults that the work on an interface
can meet are few: bytes of a template that are no text, a template that is refused in a way no
failure stands for, a path or an encoding that the system cannot be asked for, an encoding that is
not known, and a text that the encoder refuses.
-/

namespace BeanForge

open Template Text

/-! Templates -/

namespace Template.Library

variable {l : Library} {name : String}

end Template.Library

namespace Plan

variable {plan : Plan} {tree : FileTree} {e : Entity}

end Plan

/-! Work on one interface -/

namespace Plan

section Work

variable [Codecs]

variable {plan : Plan} {site : Site} {i : Interface}

end Work

end Plan

/-! Passes -/

namespace Plan

section Runs

variable [Codecs] {σ : Type}

end Runs

end Plan

end BeanForge
