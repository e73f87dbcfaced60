import MavenResolution.Constraint.Comparator

/-! Validation of constraints: a comparator, or the reasons why no dialect takes the text. -/
namespace MavenResolution

open Text Constraint

/-- What a failure is about. -/
inductive Property where
  | constraint
  | pattern
  deriving DecidableEq, Repr

def Property.text : Property → String
  | .constraint => "to_version"
  | .pattern => "metadata_pattern"

inductive Cause where
  | rejected (reason : Reason)
  /-- The pattern is none. -/
  | badPattern (fault : Pattern.Fault)
  deriving DecidableEq, Repr

/-- Why a text was refused. -/
structure Rejection where
  property : Property
  cause : Cause
  value : String
  deriving DecidableEq, Repr

namespace Rejection

def message (rejection : Rejection) : String :=
  match rejection.cause with
  | .rejected reason => reason.message
  | .badPattern fault =>
    "must be a valid regular expression: " ++ fault.message rejection.value

def text (rejection : Rejection) : String :=
  rejection.property.text ++ " " ++ rejection.message ++ " (was " ++ quote rejection.value ++ ")"

/-- A rejection as `repr` shows it. -/
def label (rejection : Rejection) : String :=
  "ValidationFailure(property=" ++ quote rejection.property.text ++ ", message=" ++
    quote rejection.message ++ ", invalid_value=" ++ quote rejection.value ++ ")"

def ofReason (reason : Reason) (value : String) : Rejection :=
  ⟨if reason = .patternNotSupported then .pattern else .constraint, .rejected reason, value⟩

end Rejection

/-- An accepted constraint, or the reasons why a text is none. -/
inductive Validated where
  | valid (comparator : Comparator)
  | invalid (constraint : String) (rejections : List Rejection)

namespace Validated

def isValid : Validated → Bool
  | .valid _ => true
  | .invalid .. => false

def constraint : Validated → String
  | .valid comparator => comparator.constraint
  | .invalid constraint _ => constraint

def rejections : Validated → List Rejection
  | .valid _ => []
  | .invalid _ rejections => rejections

def label : Validated → String
  | .valid comparator => "Validated(" ++ comparator.label ++ ")"
  | .invalid _ rejections =>
    "Validated(failures=[" ++ ", ".intercalate (rejections.map Rejection.label) ++ "])"

/-- What is told of a constraint that was refused. -/
def invalidMessage (constraint : String) (rejections : List Rejection) : String :=
  "Invalid version constraint '" ++ constraint ++ "': " ++
    "; ".intercalate (rejections.map Rejection.text)

end Validated

namespace Constraint

/-- What one dialect makes of a text. -/
def Dialect.build (dialect : Dialect) (text : String) (pattern : Option String)
    (tools : Tools := {}) : Except Fault Validated := do
  match ← read tools dialect text pattern with
  | (.ok rule, pattern) => return .valid ⟨dialect, text, rule, pattern⟩
  | (.error reason, _) => return .invalid text [Rejection.ofReason reason text]

/-- The first dialect that accepts a text, or the rejections of all. -/
def tryDialects (tools : Tools) (text : String) (pattern : Option String)
    (rejections : List Rejection) : List Dialect → Except Fault Validated
  | [] => .ok (.invalid text rejections)
  | dialect :: rest => do
    match ← dialect.build text pattern tools with
    | .valid comparator => return .valid comparator
    | .invalid _ more => tryDialects tools text pattern (rejections ++ more) rest

/-- The comparator of a constraint without regard to the white space at its ends. A pattern that
is none is the only reason given. -/
def validate (text : String) (pattern : Option String) (tools : Tools := {}) :
    Except Fault Validated :=
  match pattern with
  | none => tryDialects tools (strip text) none [] Dialect.all
  | some patternText =>
    match tools.compile patternText with
    | .ok _ => tryDialects tools (strip text) pattern [] Dialect.all
    | .error .tooOften => .error (.pattern patternText .tooOften)
    | .error fault => .ok (.invalid patternText [⟨.pattern, .badPattern fault, patternText⟩])

end Constraint
end MavenResolution
