import MavenResolution.Text.Blank

/-! The tokens of a range set: brackets, commas and version texts, with the columns that they
stand at. White space separates tokens and is otherwise without meaning. -/
namespace MavenResolution.Requirement

open Text

inductive Symbol where
  /-- An opening bracket; a square one takes its bound in. -/
  | opening (closed : Bool)
  /-- A closing bracket; a square one takes its bound in. -/
  | closing (closed : Bool)
  | comma
  | version (text : String)
  deriving DecidableEq, Repr

def Symbol.text : Symbol → String
  | .opening closed => if closed then "[" else "("
  | .closing closed => if closed then "]" else ")"
  | .comma => ","
  | .version text => text

structure Token where
  symbol : Symbol
  column : Nat
  deriving DecidableEq, Repr

/-- The symbol that one character makes up. -/
def punctuation? (c : Char) : Option Symbol :=
  if c == '[' then some (.opening true)
  else if c == '(' then some (.opening false)
  else if c == ']' then some (.closing true)
  else if c == ')' then some (.closing false)
  else if c == ',' then some .comma
  else none

/-- The version token that ends before `column`, if any character of it was read; `run` holds its
characters backwards. -/
def versionToken (column : Nat) (run : List Char) : List Token :=
  if run.isEmpty then [] else [⟨.version (String.ofList run.reverse), column - run.length⟩]

def tokensFrom (column : Nat) (run : List Char) : List Char → List Token
  | [] => versionToken column run
  | c :: rest =>
    if isBlank c then versionToken column run ++ tokensFrom (column + 1) [] rest
    else match punctuation? c with
      | some symbol =>
        versionToken column run ++ ⟨symbol, column⟩ :: tokensFrom (column + 1) [] rest
      | none => tokensFrom (column + 1) (c :: run) rest

def tokens (text : List Char) : List Token := tokensFrom 0 [] text

end MavenResolution.Requirement
