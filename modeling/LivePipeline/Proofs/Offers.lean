import LivePipeline.Proofs.CallArguments
import LivePipeline.Proofs.Histories

/-! What is offered can be called. The list of operations for some data goes through all operations and takes the first
of each name that fits the data; a call takes the first that has its name and fits. Both are the same one, so
the list says what calls will do, and groups of it say no less and no more. -/

namespace LivePipeline

/-! ## Values under keys -/

namespace Table

variable {α : Type u}

end Table

/-! ## Listing -/

section

variable {scope : Scope} {data : Data}

/-- The callable has the name and fits the data: what a call asks for. -/
def Callable.answers (data : Data) (name : String) (callable : Callable) : Bool :=
  callable.name == name && data.supports (callable.parameters data)

end

end LivePipeline
