import MavenResolution.Pattern.Basic
import MavenResolution.Text.Quoted

/-! Patterns read from their texts. -/
namespace MavenResolution
namespace Pattern

open Text

inductive Problem where
  | danglingBackslash
  | badEscape (escape : String)
  | incompleteEscape (escape : String)
  | octalTooLarge (escape : String)
  | unterminatedSet
  | badSpan (first last : String)
  | nothingToRepeat
  | multipleRepeat
  | repeatBounds
  | unexpectedEnd
  | unterminatedGroup
  | unterminatedComment
  | unknownExtension (text : String)
  | missingGroupName
  | unterminatedGroupName
  | badGroupName (name : String)
  | redefinedGroup (name : String) (number earlier : Nat)
  | unknownGroup (number : Nat)
  | lateFlags
  | localeFlag
  | missingFlagEnd
  | missingFlag
  | missingColon
  | unknownFlag
  | contradictoryFlag
  | encodingFlag
  | unbalancedParenthesis
  /-- References to groups, and groups that look back or do not give back. -/
  | unsupported
  deriving DecidableEq, Repr

def Problem.message : Problem → String
  | .danglingBackslash => "bad escape (end of pattern)"
  | .badEscape escape => "bad escape " ++ escape
  | .incompleteEscape escape => "incomplete escape " ++ escape
  | .octalTooLarge escape => "octal escape value " ++ escape ++ " outside of range 0-0o377"
  | .unterminatedSet => "unterminated character set"
  | .badSpan first last => "bad character range " ++ first ++ "-" ++ last
  | .nothingToRepeat => "nothing to repeat"
  | .multipleRepeat => "multiple repeat"
  | .repeatBounds => "min repeat greater than max repeat"
  | .unexpectedEnd => "unexpected end of pattern"
  | .unterminatedGroup => "missing ), unterminated subpattern"
  | .unterminatedComment => "missing ), unterminated comment"
  | .unknownExtension text => "unknown extension " ++ text
  | .missingGroupName => "missing group name"
  | .unterminatedGroupName => "missing >, unterminated name"
  | .badGroupName name => "bad character in group name " ++ quote name
  | .redefinedGroup name number earlier =>
    "redefinition of group name " ++ quote name ++ " as group " ++ toString number ++
      "; was group " ++ toString earlier
  | .unknownGroup number => "invalid group reference " ++ toString number
  | .lateFlags => "global flags not at the start of the expression"
  | .localeFlag => "bad inline flags: cannot use 'L' flag with a str pattern"
  | .missingFlagEnd => "missing -, : or )"
  | .missingFlag => "missing flag"
  | .missingColon => "missing :"
  | .unknownFlag => "unknown flag"
  | .contradictoryFlag => "bad inline flags: flag turned on and off"
  | .encodingFlag => "bad inline flags: cannot turn off flags 'a', 'u' and 'L'"
  | .unbalancedParenthesis => "unbalanced parenthesis"
  | .unsupported => "unsupported group"

/-- What `re.compile` raises. -/
inductive Fault where
  /-- An `re.error`: a problem at a position of the pattern. -/
  | malformed (problem : Problem) (position : Nat)
  /-- An `re.error` that is none of these. -/
  | other (message : String)
  /-- An `OverflowError`: a repetition is too often for a pattern. -/
  | tooOften
  deriving DecidableEq, Repr

/-- The line and column are told only of patterns of more than one line. -/
def Fault.message (pattern : String) : Fault → String
  | .malformed problem position =>
    let before := pattern.toList.take position
    problem.message ++ " at position " ++ toString position ++
      if pattern.toList.contains '\n' then
        " (line " ++ toString (before.count '\n' + 1) ++ ", column " ++
          toString ((before.reverse.takeWhile (· != '\n')).length + 1) ++ ")"
      else ""
  | .other message => message
  | .tooOften => "the repetition number is too large"

structure Flags where
  caseless : Bool := false
  multiline : Bool := false
  newline : Bool := false
  verbose : Bool := false
  deriving DecidableEq, Repr

/-- Where reading stands: the rest of the pattern, the flags that hold there, and the groups
opened so far with their names. -/
structure Cursor where
  length : Nat
  rest : List Char
  flags : Flags := {}
  groups : Nat := 0
  names : List (String × Nat) := []
  deriving Repr

abbrev Reader := StateT Cursor (Except Fault)

def position : Reader Nat := do
  let cursor ← get
  return cursor.length - cursor.rest.length

def failAt (problem : Problem) (position : Nat) : Reader α := throw (.malformed problem position)

/-- A problem `back` characters before the present position. -/
def fail (problem : Problem) (back : Nat := 0) : Reader α := do
  failAt problem ((← position) - back)

/-- The next character, with the one behind it if it is a backslash. -/
def tokenOf : List Char → List Char
  | '\\' :: c :: _ => ['\\', c]
  | c :: _ => [c]
  | [] => []

def peek : Reader (List Char) := return tokenOf (← get).rest

/-- The pattern from its next token on; a backslash without a character behind it is no token. -/
def moveTo (rest : List Char) : Reader Unit := do
  let cursor ← get
  if rest = ['\\'] then failAt .danglingBackslash (cursor.length - 1)
  set { cursor with rest }

/-- Takes the next token, if there is one. -/
def next : Reader (List Char) := do
  let cursor ← get
  let token := tokenOf cursor.rest
  moveTo (cursor.rest.drop token.length)
  return token

/-- Takes the next token if it is the character. -/
def accept (c : Char) : Reader Bool := do
  if (← peek) = [c] then
    let _ ← next
    return true
  else return false

/-- Takes up to `count` characters that have a property. -/
def takeSome (accepts : Char → Bool) : (count : Nat) → Reader (List Char)
  | 0 => return []
  | count + 1 => do
    match ← peek with
    | [c] =>
      if accepts c then
        let _ ← next
        return c :: (← takeSome accepts count)
      else return []
    | _ => return []

def takeDigits : Reader (List Char) := do
  takeSome (fun c => '0' ≤ c && c ≤ '9') (← get).rest.length

def isHexDigit (c : Char) : Bool :=
  ('0' ≤ c && c ≤ '9') || ('a' ≤ c && c ≤ 'f') || ('A' ≤ c && c ≤ 'F')

def isOctalDigit (c : Char) : Bool := '0' ≤ c && c ≤ '7'

def digitIn (c : Char) : Nat :=
  if '0' ≤ c ∧ c ≤ '9' then c.toNat - '0'.toNat
  else if 'a' ≤ c ∧ c ≤ 'f' then c.toNat - 'a'.toNat + 10
  else if 'A' ≤ c ∧ c ≤ 'F' then c.toNat - 'A'.toNat + 10
  else 0

def valueIn (base : Nat) (digits : List Char) : Nat :=
  digits.foldl (fun value c => base * value + digitIn c) 0

def category? : Char → Option Member
  | 'd' => some (.category .digit false)
  | 'D' => some (.category .digit true)
  | 's' => some (.category .blank false)
  | 'S' => some (.category .blank true)
  | 'w' => some (.category .word false)
  | 'W' => some (.category .word true)
  | _ => none

/-- The character that a letter behind a backslash stands for. -/
def control? : Char → Option Char
  | 'a' => some (Char.ofNat 7)
  | 'f' => some (Char.ofNat 12)
  | 'n' => some '\n'
  | 'r' => some '\r'
  | 't' => some '\t'
  | 'v' => some (Char.ofNat 11)
  | '\\' => some '\\'
  | _ => none

def escapeText (c : Char) (digits : List Char) : String := String.ofList ('\\' :: c :: digits)

/-- A character written with exactly `count` hexadecimal digits behind the letter `c`. -/
def hexEscape (c : Char) (count : Nat) : Reader Char := do
  let digits ← takeSome isHexDigit count
  if digits.length < count then
    fail (.incompleteEscape (escapeText c digits)) (digits.length + 2)
  let value := valueIn 16 digits
  if value < 0x110000 then return Char.ofNat value
  else fail (.badEscape (escapeText c digits)) (digits.length + 2)

/-- A character written as the character `c` behind a backslash. -/
def charEscape (c : Char) : Reader Char := do
  if c = 'x' then hexEscape c 2
  else if c = 'u' then hexEscape c 4
  else if c = 'U' then hexEscape c 8
  else if c.isAlpha then fail (.badEscape (escapeText c [])) 2
  else return c

/-- An octal escape that starts with the digit `c`, as far as it is one. -/
def octalEscape (c : Char) (digits : List Char) : Reader Char := do
  let value := valueIn 8 (c :: digits)
  if 0o377 < value then fail (.octalTooLarge (escapeText c digits)) (digits.length + 2)
  return Char.ofNat value

/-- The member of a set that the character `c` behind a backslash stands for. -/
def setEscape (c : Char) : Reader Member := do
  if c = 'b' then return .char (Char.ofNat 8)
  else match control? c, category? c with
    | some control, _ => return .char control
    | none, some member => return member
    | none, none =>
      if isOctalDigit c then return .char (← octalEscape c (← takeSome isOctalDigit 2))
      else if c.isDigit then fail (.badEscape (escapeText c [])) 2
      else return .char (← charEscape c)

/-- A reference by number, or an octal escape of three digits, behind a backslash. -/
def numberEscape (c : Char) : Reader Char := do
  let second ← takeSome Char.isDigit 1
  let third ←
    if second.length = 1 && (c :: second).all isOctalDigit then takeSome isOctalDigit 1
    else pure []
  if third.length = 1 then octalEscape c (second ++ third)
  else
    let number := valueIn 10 (c :: second)
    if number ≤ (← get).groups then fail .unsupported (second.length + 2)
    else fail (.unknownGroup number) (second.length + 1)

/-- The node that the character `c` behind a backslash stands for. -/
def nodeEscape (c : Char) : Reader Node := do
  let caseless := (← get).flags.caseless
  match category? c with
  | some member => return .oneOf false caseless [member]
  | none =>
    if c = 'A' then return .anchor .textStart
    else if c = 'Z' then return .anchor .textEnd
    else if c = 'b' then return .anchor .wordBorder
    else if c = 'B' then return .anchor .withinWord
    else match control? c with
      | some control => return .literal control caseless
      | none =>
        if c = '0' then
          return .literal (← octalEscape c (← takeSome isOctalDigit 2)) caseless
        else if c.isDigit then return .literal (← numberEscape c) caseless
        else return .literal (← charEscape c) caseless

/-- The member of a set that a token stands for. -/
def memberOf : List Char → Reader Member
  | ['\\', c] => setEscape c
  | c :: _ => return .char c
  | [] => fail .unexpectedEnd

/-- The members of a set up to its closing bracket; `start` is where the set began. -/
def parseMembers (start : Nat) : (fuel : Nat) → List Member → Reader (List Member)
  | 0, _ => failAt .unterminatedSet start
  | fuel + 1, members => do
    let token ← next
    if token = [] then failAt .unterminatedSet start
    if token = [']'] && !members.isEmpty then return members
    let first ← memberOf token
    if ← accept '-' then
      let lastToken ← next
      if lastToken = [] then failAt .unterminatedSet start
      if lastToken = [']'] then return members ++ [first, .char '-']
      let last ← memberOf lastToken
      match first, last with
      | .char low, .char high =>
        if high < low then
          fail (.badSpan (String.ofList token) (String.ofList lastToken))
            (token.length + 1 + lastToken.length)
        parseMembers start fuel (members ++ [.span low high])
      | _, _ =>
        fail (.badSpan (String.ofList token) (String.ofList lastToken))
          (token.length + 1 + lastToken.length)
    else parseMembers start fuel (members ++ [first])

/-- A set whose opening bracket has been taken. -/
def parseSet : Reader Node := do
  let start := (← position) - 1
  let negated ← accept '^'
  let cursor ← get
  return .oneOf negated cursor.flags.caseless (← parseMembers start (cursor.rest.length + 1) [])

/-- More repetitions than this are refused. -/
def repeatLimit : Nat := 4294967295

/-- The bounds of a repetition whose sign `c` has been taken, or nothing where a brace stands
for itself. -/
def parseBounds (c : Char) : Reader (Option (Nat × Option Nat)) := do
  if c = '?' then return some (0, some 1)
  else if c = '*' then return some (0, none)
  else if c = '+' then return some (1, none)
  else
    let start ← get
    let here ← position
    if (← peek) = ['}'] then return none
    let low ← takeDigits
    let high ← if ← accept ',' then takeDigits else pure low
    if !(← accept '}') then
      set start
      return none
    let least := valueIn 10 low
    let most := if high.isEmpty then none else some (valueIn 10 high)
    if repeatLimit ≤ least then throw .tooOften
    match most with
    | some bound =>
      if repeatLimit ≤ bound then throw .tooOften
      if bound < least then failAt .repeatBounds here
    | none => pure ()
    return some (least, most)

/-- The nodes read so far, the last one repeated. -/
def repeatLast (nodes : List Node) (start : Nat) (least : Nat) (most : Option Nat) :
    Reader (List Node) :=
  match nodes.getLast? with
  | none => failAt .nothingToRepeat start
  | some (.anchor _) => failAt .nothingToRepeat start
  | some (.repeated ..) => failAt .multipleRepeat start
  | some node => do
    if !(← accept '?') then
      if ← accept '+' then failAt .unsupported start
    return nodes.dropLast ++ [.repeated least most node]

/-- A letter of any script. -/
def isLetter (c : Char) : Bool := isWord c && !isDigit c && c != '_'

def isFlag (c : Char) : Bool := "aiLmstux".toList.contains c

def withFlag (c : Char) (value : Bool) (flags : Flags) : Flags :=
  if c = 'i' then { flags with caseless := value }
  else if c = 'm' then { flags with multiline := value }
  else if c = 's' then { flags with newline := value }
  else if c = 'x' then { flags with verbose := value }
  else flags

/-- Letters of flags, the first of which is `c`, up to a character in `stops`. -/
def parseFlagLetters (stops : List Char) (missing : Problem) (start : Nat) :
    (fuel : Nat) → Char → Reader (List Char × Char)
  | 0, _ => failAt missing start
  | fuel + 1, c => do
    if c = 'L' then fail .localeFlag
    if c = 'a' || c = 't' then failAt .unsupported start
    match ← next with
    | [] => fail missing
    | [d] =>
      if stops.contains d then return ([c], d)
      else if isFlag d then
        let (letters, stop) ← parseFlagLetters stops missing start fuel d
        return (c :: letters, stop)
      else fail (if isLetter d then .unknownFlag else missing) 1
    | token => fail missing token.length

/-- What stands behind the question mark of a group. -/
inductive Opening where
  | group
  | ahead (negated : Bool)
  | comment
  /-- Flags that hold in this group alone. -/
  | scoped (flags : Flags)
  /-- Flags that hold in the whole pattern. -/
  | global (flags : Flags)
  deriving Repr

def turn (value : Bool) (letters : List Char) (flags : Flags) : Flags :=
  letters.foldl (fun flags c => withFlag c value flags) flags

/-- Flags that are turned off, and the group that they hold in. -/
def parseFlagsOff (start fuel : Nat) (on : List Char) : Reader Opening := do
  let flags := (← get).flags
  match ← next with
  | [] => fail .missingFlag
  | [c] =>
    if !isFlag c then fail (if isLetter c then .unknownFlag else .missingFlag) 1
    if "auL".toList.contains c then fail .encodingFlag
    let (off, _) ← parseFlagLetters [':'] .missingColon start fuel c
    if on.any off.contains then fail .contradictoryFlag 1
    return .scoped (turn false off (turn true on flags))
  | token => fail .missingFlag token.length

/-- Flags, the first sign of which is `c`. -/
def parseFlags (start : Nat) (c : Char) : Reader Opening := do
  let cursor ← get
  let fuel := cursor.rest.length + 1
  if c = '-' then parseFlagsOff start fuel []
  else
    let (on, stop) ← parseFlagLetters [')', '-', ':'] .missingFlagEnd start fuel c
    if stop = ')' then return .global (turn true on cursor.flags)
    else if stop = '-' then parseFlagsOff start fuel on
    else return .scoped (turn true on cursor.flags)

/-- A comment up to its closing parenthesis. -/
def skipComment (start : Nat) : (fuel : Nat) → Reader Unit
  | 0 => failAt .unterminatedComment start
  | fuel + 1 => do
    if (← peek) = [] then failAt .unterminatedComment start
    if (← next) = [')'] then return ()
    skipComment start fuel

/-- The name of a group up to the closing bracket. -/
def parseGroupName : (fuel : Nat) → List Char → Reader String
  | 0, _ => fail .missingGroupName
  | fuel + 1, name => do
    let token ← next
    if token = [] then
      if name.isEmpty then fail .missingGroupName
      else fail .unterminatedGroupName name.length
    else if token = ['>'] then
      if name.isEmpty then fail .missingGroupName 1
      else return String.ofList name
    else parseGroupName fuel (name ++ token)

def isGroupName (name : List Char) : Bool :=
  name.all isWord && !(name.head?.map isDigit).getD true

def nameGroup (name : String) : Reader Unit := do
  if !isGroupName name.toList then fail (.badGroupName name) (name.length + 1)
  let cursor ← get
  match cursor.names.lookup name with
  | some earlier =>
    fail (.redefinedGroup name (cursor.groups + 1) earlier) (name.length + 1)
  | none => set { cursor with names := (name, cursor.groups + 1) :: cursor.names }

/-- The opening of a group whose parenthesis at `start` has been taken. -/
def parseOpening (start : Nat) : Reader Opening := do
  let fuel := (← get).rest.length + 1
  if !(← accept '?') then
    modify fun cursor => { cursor with groups := cursor.groups + 1 }
    return .group
  match ← next with
  | [] => fail .unexpectedEnd
  | ['P'] =>
    if ← accept '<' then
      nameGroup (← parseGroupName fuel [])
      modify fun cursor => { cursor with groups := cursor.groups + 1 }
      return .group
    else if ← accept '=' then failAt .unsupported start
    else match ← next with
      | [] => fail .unexpectedEnd
      | token => fail (.unknownExtension (String.ofList ('?' :: 'P' :: token))) (token.length + 2)
  | [':'] => return .scoped (← get).flags
  | ['='] => return .ahead false
  | ['!'] => return .ahead true
  | ['#'] =>
    skipComment start fuel
    return .comment
  | ['<'] =>
    match ← next with
    | [] => fail .unexpectedEnd
    | token =>
      if token = ['='] || token = ['!'] then failAt .unsupported start
      else fail (.unknownExtension (String.ofList ('?' :: '<' :: token))) (token.length + 2)
  | ['('] => failAt .unsupported start
  | ['>'] => failAt .unsupported start
  | token =>
    match token with
    | [c] =>
      if isFlag c || c = '-' then parseFlags start c
      else fail (.unknownExtension (String.ofList ['?', c])) 2
    | _ => fail (.unknownExtension (String.ofList ('?' :: token))) (token.length + 1)

/-- What a character that has no other meaning stands for. -/
def plainNode (flags : Flags) (c : Char) : Node :=
  if c = '.' then .any flags.newline
  else if c = '^' then .anchor (if flags.multiline then .lineStart else .textStart)
  else if c = '$' then .anchor (if flags.multiline then .lineEnd else .lastLineEnd)
  else .literal c flags.caseless

/-- The rest of a line, which is a comment. -/
def skipLine : Reader Unit := do
  moveTo (((← get).rest.dropWhile (· != '\n')).drop 1)

def isPatternBlank (c : Char) : Bool := " \t\n\r".toList.contains c || c.toNat = 11 || c.toNat = 12

mutual
/-- Branches separated by bars. Reading a token takes at most four calls, so that `fuel` is no
limit if it starts at five calls for every character. -/
def parseChoice (outermost : Bool) : (fuel : Nat) → Reader (List Node)
  | 0 => fail .unsupported
  | fuel + 1 => do
    let branch ← parseSequence outermost fuel []
    if ← accept '|' then return .sequence branch :: (← parseChoice false fuel)
    else return [.sequence branch]

/-- The nodes of a branch behind those read so far. -/
def parseSequence (outermost : Bool) : (fuel : Nat) → List Node → Reader (List Node)
  | 0, _ => fail .unsupported
  | fuel + 1, nodes => do
    let token ← peek
    if token = [] || token = ['|'] || token = [')'] then return nodes
    let _ ← next
    let here ← position
    match token with
    | ['\\', c] => parseSequence outermost fuel (nodes ++ [← nodeEscape c])
    | ['['] => parseSequence outermost fuel (nodes ++ [← parseSet])
    | ['('] => parseGroup outermost fuel nodes (here - 1)
    | [c] =>
      let flags := (← get).flags
      if flags.verbose && isPatternBlank c then parseSequence outermost fuel nodes
      else if flags.verbose && c = '#' then
        skipLine
        parseSequence outermost fuel nodes
      else if c = '?' || c = '*' || c = '+' || c = '{' then
        match ← parseBounds c with
        | none => parseSequence outermost fuel (nodes ++ [.literal c flags.caseless])
        | some (least, most) =>
          parseSequence outermost fuel (← repeatLast nodes (here - 1) least most)
      else parseSequence outermost fuel (nodes ++ [plainNode flags c])
    | _ => fail .unsupported

/-- A group whose parenthesis at `start` has been taken, and the nodes behind it. -/
def parseGroup (outermost : Bool) : (fuel : Nat) → List Node → (start : Nat) → Reader (List Node)
  | 0, _, _ => fail .unsupported
  | fuel + 1, nodes, start => do
    let flags := (← get).flags
    match ← parseOpening start with
    | .comment => parseSequence outermost fuel nodes
    | .global flags =>
      if !outermost || !nodes.isEmpty then failAt .lateFlags start
      modify fun cursor => { cursor with flags }
      parseSequence outermost fuel nodes
    | .group => parseBody outermost fuel nodes start flags .choice
    | .ahead negated => parseBody outermost fuel nodes start flags (.ahead negated <| .choice ·)
    | .scoped inner =>
      modify fun cursor => { cursor with flags := inner }
      parseBody outermost fuel nodes start flags .choice

/-- The branches and the end of a group that began at `start`, and the nodes behind it, where the
flags are again those from before the group. -/
def parseBody (outermost : Bool) : (fuel : Nat) → List Node → (start : Nat) → Flags →
    (List Node → Node) → Reader (List Node)
  | 0, _, _, _, _ => fail .unsupported
  | fuel + 1, nodes, start, flags, wrap => do
    let branches ← parseChoice false fuel
    if !(← accept ')') then failAt .unterminatedGroup start
    modify fun cursor => { cursor with flags }
    parseSequence outermost fuel (nodes ++ [wrap branches])
end

def parseAll (length : Nat) : Reader Node := do
  let cursor ← get
  moveTo cursor.rest
  let branches ← parseChoice true (5 * length + 5)
  if !(← get).rest.isEmpty then fail .unbalancedParenthesis
  return .choice branches

end Pattern

/-- A pattern: its text, and the texts that it matches as a whole. -/
structure Pattern where
  text : String
  fits : String → Bool

namespace Pattern

/-- What `re.compile` makes of a text: the texts that `fullmatch` finds the pattern in. -/
abbrev Compiler := String → Except Fault (String → Bool)

/-- Compiles the patterns that are modelled. References to groups, and groups that look back or do not
give back, are refused as unsupported. -/
def compile : Compiler := fun text => do
  let length := text.toList.length
  let (node, _) ← (parseAll length).run { length, rest := text.toList }
  return fun whole => node.matchesAll whole.toList

end Pattern
end MavenResolution
