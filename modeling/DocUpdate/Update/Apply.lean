import DocUpdate.Update.Array
import DocUpdate.Update.Field

/-!
# Applying update documents

Mutations are carried out in order, up to the first that fails.
-/

namespace DocUpdate

/-- Carries out one mutation and tells whether the document changed. -/
def Mutation.apply (options : Options) (m : Mutation) : Edit Bool :=
  match m.action with
  | .set value => Edit.setValue m.path value
  | .unset => Edit.remove m.path
  | .setOnInsert value => Edit.setOnInsert m.path value options
  | .currentDate kind => Edit.currentDate m.path kind options
  | .inc amount => Edit.inc m.path amount
  | .mul factor => Edit.mul m.path factor
  | .min value => Edit.bound .min .lt m.path value
  | .max value => Edit.bound .max .gt m.path value
  | .rename target => Edit.rename m.path target
  | .bit steps => Edit.bit m.path steps
  | .addToSet values => Edit.addToSet m.path values
  | .push items => Edit.push m.path items
  | .pop side => Edit.pop m.path side
  | .pull condition => Edit.pull m.path condition
  | .pullAll values => Edit.pullAll m.path values

/-- Carries out mutations in order and tells whether any changed the document. -/
def applyAll (options : Options) : List Mutation → Edit Bool
  | [] => return false
  | m :: rest => do
    let changed ← m.apply options
    let changedLater ← applyAll options rest
    return changed || changedLater

def UpdateSpec.apply (options : Options) (spec : UpdateSpec) : Edit Bool :=
  applyAll options spec.mutations

end DocUpdate
