import NestedQuery.Catalog.Basic
import NestedQuery.Spec.Basic

/-! The settings under which queries are compiled. -/

namespace NestedQuery

structure Options where
  indent : Nat := 2
  naming : NamingStyle := .camelCase
  /-- The schema of tables whose names state none. -/
  defaultSchema : Option String := none
  /-- The schemas whose tables are written without their schema. -/
  unqualifiedSchemas : List String := []
  deriving DecidableEq, Repr

namespace Options

/-- The settings of a group. The schemas are in their stored form, sorted and without repetitions.
-/
def ofGroup (group : QueryGroup) (catalog : Catalog) : Options where
  naming := group.naming
  defaultSchema := group.defaultSchema
  unqualifiedSchemas := ForeignKey.dropRepeats
    (ForeignKey.sortedNames (group.unqualifiedSchemas.map catalog.normalize))

def forQuery (options : Options) (query : QuerySpec) : Options :=
  { options with naming := query.naming.getD options.naming }

end Options

end NestedQuery
