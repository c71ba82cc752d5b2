import SearchQuery.Compile.Registry

/-!
# Compiling search strings

Every segment becomes a clause.  A single clause that is not negated is the query itself; otherwise the
clauses are gathered into a combination, in their order, the negated ones apart.
-/

set_option autoImplicit false

namespace SearchQuery

structure Compiler where
  registry : Registry
  /-- The fields that are searched by text without a selector. -/
  defaultFields : List Field
  nonempty : defaultFields ≠ []
  nodup : defaultFields.Nodup

namespace Compiler

/-- The fields that are searched unless something else is said. -/
def usualFields : List Field :=
  [.title, .description]

def make (registry : Registry) (defaultFields : List Field) : Except QueryFault Compiler :=
  if nonempty : distinct defaultFields = [] then .error .noDefaultFields
  else .ok ⟨registry, distinct defaultFields, nonempty, nodup_distinct defaultFields⟩

/-- The clause of a segment, whether or not it is negated. -/
def clause (compiler : Compiler) (segment : Segment) : Except CompileError Query :=
  match compiler.registry.find? segment.selector with
  | some reader => reader.convert segment
  | none =>
    match segment.selector with
    | some selector => .error (.unknownSelector selector segment.rawText)
    | none =>
      match TextMatch.read compiler.defaultFields .all segment.value with
      | .ok leaf => .ok (.text leaf)
      | .error (.invalid fault) => .error (.fault fault)
      | .error cause => .error (.conversion none segment.rawText cause)

/-- Clauses with their negation marks, gathered into one query. -/
def gather (clauses : List (Bool × Query)) : Except QueryFault Query :=
  let must := (clauses.filter (!·.1)).map (·.2)
  let mustNot := (clauses.filter (·.1)).map (·.2)
  match must, mustNot with
  | [single], [] => .ok single
  | _, _ => Query.makeBool must mustNot []

def compileSegments (compiler : Compiler) (segments : List Segment) : Except CompileError Query := do
  let clauses ← segments.mapM fun segment =>
    (compiler.clause segment).map fun query => (segment.negated, query)
  (gather clauses).mapError .fault

def compile (compiler : Compiler) (query : Text) : Except CompileError Query :=
  match Segment.split query with
  | .error e => .error (.malformed e)
  | .ok [] => .error (.empty query)
  | .ok segments => compiler.compileSegments segments

/-- Compiles one search string with a compiler of its own. -/
def compileOnce (registry : Registry) (defaultFields : List Field) (query : Text) :
    Except CompileError Query := do
  let compiler ← (make registry defaultFields).mapError .fault
  compiler.compile query

end Compiler

end SearchQuery
