/-! Line ends. -/
namespace MavenResolution.Text

/-- A text in which every line end is one character. -/
def unifyLines : List Char → List Char
  | '\r' :: '\n' :: rest => '\n' :: unifyLines rest
  | '\r' :: rest => '\n' :: unifyLines rest
  | c :: rest => c :: unifyLines rest
  | [] => []

end MavenResolution.Text
