import AccessLayer.Proofs.Artifact.Store

namespace AccessLayer

open Line

/-- How a statement is run: what opens the call, what stands around each value, what closes it. -/
structure Call where
  opening : String
  lead : String
  trail : String
  closing : String
  deriving DecidableEq, Repr

/-- The values between what opens the call and what closes it. -/
def Call.text (c : Call) (values : List String) : String :=
  c.opening ++ String.join (values.map fun v => c.lead ++ v ++ c.trail) ++ c.closing

namespace Language

end Language

namespace Blueprint

variable (b : Blueprint)

end Blueprint

end AccessLayer
