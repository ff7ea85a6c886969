import LiveTemplates.Expansion

/-!
# Results of processing

What became of one file: where its text was written to, or why it could not be processed.
-/

namespace LiveTemplates

/-- The kind of a failure. -/
inductive FailureKind
  | tag (kind : TagErrorKind)
  /-- Whatever else went wrong. -/
  | unexpected
deriving DecidableEq, Repr

/-- The name of a kind of failure. -/
def FailureKind.name : FailureKind → String
  | .tag .malformedTag => "malformed_tag"
  | .tag .unknownTag => "unknown_tag"
  | .tag .circularInclude => "circular_include"
  | .tag .includeNotFound => "include_not_found"
  | .unexpected => "unexpected"

/-- What became of a file. -/
structure ProcessResult where
  path : Path
  success : Bool
  /-- The failure in words. -/
  error : String
  errorKind : Option FailureKind
  /-- The outputs of the file; they are named also if nothing was written. -/
  outputPaths : List Path
  isPartial : Bool
deriving DecidableEq, Repr

/-- The result of a file that was processed. -/
def ProcessResult.succeeded (path : Path) (outputPaths : List Path) (isPartial : Bool) :
    ProcessResult :=
  ⟨path, true, "", none, outputPaths, isPartial⟩

/-- The result of a file that could not be processed. -/
def ProcessResult.failed (path : Path) (kind : FailureKind) (error : String) : ProcessResult :=
  ⟨path, false, error, some kind, [], false⟩

end LiveTemplates
