import DocQuery.Json.Printer

/-!
# Why search terms do not compile

Terms are checked before anything is sent, so each of these causes ends a run without a query.
-/

namespace DocQuery

/-- What is wrong with search terms. -/
inductive CompileError where
  /-- A condition is keyed by a word that names no operator. -/
  | unknownOperator (name : String)
  /-- The connective of a filter is neither of the two there are. -/
  | unknownMode (got : String)
  /-- A list or an object stands where a scalar is needed. -/
  | notScalar (got : Json)
  /-- A number is neither whole within 64 bits with sign nor close to any float. -/
  | notRepresentable (number : Json)
  | notFilter (got : Json)
  | notTerms (got : Json)
  /-- The value of a field is neither empty nor an object. -/
  | notField (field : String) (got : Json)

namespace CompileError

/-- Causes by the part of the terms that is at fault. -/
inductive Kind where
  | unrecognizedOperator
  | invalidTerms
  | invalidMode
  deriving Repr, DecidableEq

def kind : CompileError → Kind
  | .unknownOperator _ => .unrecognizedOperator
  | .unknownMode _ => .invalidMode
  | .notScalar _ | .notRepresentable _ | .notFilter _ | .notTerms _ | .notField _ _ =>
    .invalidTerms

def message : CompileError → String
  | .unknownOperator name => "unrecognised search operator: " ++ name
  | .unknownMode got => "invalid filter mode: " ++ got ++ " (expected AND or OR)"
  | .notScalar got => invalidTerms ("expected a scalar value, got " ++ got.text)
  | .notRepresentable number => invalidTerms ("unrepresentable number " ++ number.text)
  | .notFilter got => invalidTerms ("filter must be an object, got " ++ got.text)
  | .notTerms got => invalidTerms ("terms must be an object, got " ++ got.text)
  | .notField field got =>
    invalidTerms ("field `" ++ field ++ "` must be an object, got " ++ got.text)
where
  invalidTerms (cause : String) : String := "invalid search terms: " ++ cause

end CompileError

end DocQuery
