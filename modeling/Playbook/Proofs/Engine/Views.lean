import Playbook.Proofs.Command.Evaluation
import Playbook.Proofs.Engine.Binding
import Playbook.Proofs.Engine.Collaborators
import Playbook.Proofs.Engine.Exchanges
import Playbook.Proofs.Play.Answers

/-! # Views

A view is handed the world as a read-only one, in which no call reaches an invoker, and the run goes
on with the world before the view. So a view that calls contracts only in the world that it is
handed has no effect on either, whatever else it does and wherever it stands: under From, in a
script, or where its value is asked for. Left out of a script, it makes no difference of its own:
only a collaborator that remembers what the view has had verified may then answer otherwise.
-/

namespace Playbook

namespace Command

variable {world : World} {earlier : List Request} {sender : Option String} {command : Command}
  {bound : Bound} {redirect : Option String → Play Returned}

end Command

/-! ### The views of the standard engine -/

namespace PriceOracle

end PriceOracle

namespace Engine

variable {engine : Engine} {world after : World} {earlier : List Request} {sender : Option String}
  {statement : Statement} {observation : Observation World}

end Engine
end Playbook
