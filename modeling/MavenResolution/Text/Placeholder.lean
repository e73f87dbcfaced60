/-! Placeholders: names between an opening mark and a closing brace. -/
namespace MavenResolution.Text.Placeholder

/-- A text with the placeholders replaced whose names have a value. `skip` tells how much of an
opening mark is still to come, `name` what has been read of a name. A placeholder without a name
or without an end stays as it is. -/
def expandFrom (opening : List Char) (value? : List Char → Option (List Char)) :
    (skip : Nat) → (name : Option (List Char)) → List Char → List Char
  | _, none, [] => []
  | _, some name, [] => opening ++ name
  | skip + 1, name, _ :: rest => expandFrom opening value? skip name rest
  | 0, none, c :: rest =>
    if opening.isPrefixOf (c :: rest) then
      expandFrom opening value? (opening.length - 1) (some []) rest
    else c :: expandFrom opening value? 0 none rest
  | 0, some name, c :: rest =>
    if c == '\x7d' then
      (if name.isEmpty then opening ++ [c] else (value? name).getD (opening ++ name ++ [c])) ++
        expandFrom opening value? 0 none rest
    else expandFrom opening value? 0 (some (name ++ [c])) rest

/-- A text with the placeholders replaced whose names have a value, the values taken as they are. -/
def expand (opening : List Char) (value? : List Char → Option (List Char))
    (text : List Char) : List Char :=
  expandFrom opening value? 0 none text

/-- A text with its placeholders replaced, and those in their values, as often as asked for. -/
def expandUpTo (opening : List Char) (value? : List Char → Option (List Char)) :
    (passes : Nat) → List Char → List Char
  | 0, text => text
  | passes + 1, text =>
    let expanded := expand opening value? text
    if expanded = text then text else expandUpTo opening value? passes expanded

end MavenResolution.Text.Placeholder
