import Playbook.Proofs.Engine.Dispatch
import Playbook.Proofs.Play.Asking
import Playbook.Proofs.Vocabulary.PriceOracle

/-! # Who answers in a run

A world is handed on with its collaborators. Where no handler asks others or leaves a world with
others, a run asks only those of its first world, and so notices nothing that they do not remember.
The standard engine is of this kind.
-/

namespace Playbook

namespace Command

variable {world : World} {sender : Option String} {command : Command} {bound : Bound}
  {redirect : Option String → Play Returned}

end Command

/-! ### Whole runs -/

namespace Engine

end Engine

namespace Engine
variable {engine : Engine} {world : World} {statement : Statement} {sender : Option String}

end Engine

/-! ### The standard engine -/

namespace PriceOracle

end PriceOracle

end Playbook
