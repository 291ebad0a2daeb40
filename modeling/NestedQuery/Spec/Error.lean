import NestedQuery.Spec.Basic

/-! Why a specification cannot be compiled, and where in the specification the cause lies. -/

namespace NestedQuery

/-- A query and the path of related tables that leads into its specification. -/
structure Location where
  query : String
  parts : List String := []
  deriving DecidableEq, Repr

namespace Location

def enter (location : Location) (part : String) : Location :=
  { location with parts := location.parts ++ [part] }

def enterTable (location : Location) (table : String) : Location :=
  location.enter ("table '" ++ table ++ "'")

def display (location : Location) : String :=
  " / ".intercalate (("query '" ++ location.query ++ "'") :: location.parts)

end Location

inductive Flaw where
  | fieldOrExpression
  | unnamedExpression (expression : String)
  | linkStatedTwice
  | emptyCustomJoin
  | duplicateName (name : String)
  | notUnwrappable (table : String) (columns : Nat)
  | notForUpdate (representation : Representation)
  deriving DecidableEq, Repr

def Flaw.message : Flaw → String
  | fieldOrExpression => "field expression must have exactly one of field or expression"
  | unnamedExpression expression =>
      "json property required for expression field '" ++ expression ++ "'"
  | linkStatedTwice => "foreign key fields and a custom join condition cannot both be specified"
  | emptyCustomJoin => "custom join condition has no equated fields"
  | duplicateName name => "duplicate output name '" ++ name ++ "'"
  | notUnwrappable table columns =>
      "collection of '" ++ table ++ "' rows cannot be unwrapped, it has " ++ toString columns ++
        " output columns"
  | notForUpdate representation =>
      "for update is only allowed with MULTI_COLUMN_ROWS results, not " ++
        representation.displayName

inductive SpecCause where
  | unknownRelation (relation : String)
  | unknownField (relation field : String)
  | noForeignKey (child parent : String)
  | severalForeignKeys (child parent : String) (candidates : List (List String))
  | noForeignKeyWith (child parent : String) (fields : List String)
  | invalid (flaw : Flaw)
  deriving DecidableEq, Repr

def bracketed (fields : List String) : String := "[" ++ ", ".intercalate fields ++ "]"

def SpecCause.message : SpecCause → String
  | unknownRelation relation => "relation '" ++ relation ++ "' not found"
  | unknownField relation field =>
      "field '" ++ field ++ "' not found in relation '" ++ relation ++ "'"
  | noForeignKey child parent =>
      "no foreign key found from '" ++ child ++ "' to '" ++ parent ++ "'"
  | severalForeignKeys child parent candidates =>
      "multiple foreign keys from '" ++ child ++ "' to '" ++ parent ++
        "', specify foreign key fields to choose one of: " ++
        ", ".intercalate (candidates.map bracketed)
  | noForeignKeyWith child parent fields =>
      "no foreign key from '" ++ child ++ "' to '" ++ parent ++ "' with fields " ++
        bracketed fields
  | invalid flaw => "invalid specification: " ++ flaw.message

structure SpecError where
  location : Location
  cause : SpecCause
  deriving DecidableEq, Repr

def SpecError.message (error : SpecError) : String :=
  error.location.display ++ ": " ++ error.cause.message

def Location.fail {α : Type} (location : Location) (cause : SpecCause) : Except SpecError α :=
  .error { location, cause }

def Location.reject {α : Type} (location : Location) (flaw : Flaw) : Except SpecError α :=
  location.fail (.invalid flaw)

def FieldSpec.propertyName (spec : FieldSpec) (style : NamingStyle) (location : Location) :
    Except SpecError String :=
  match spec.field, spec.expression, spec.property with
  | some _, none, some property => .ok property
  | none, some _, some property => .ok property
  | some field, none, none => .ok (style.apply (Naming.unquoted field))
  | none, some expression, none => location.reject (.unnamedExpression expression)
  | _, _, _ => location.reject .fieldOrExpression

end NestedQuery
