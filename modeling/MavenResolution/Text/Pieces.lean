/-! Texts cut at a mark. -/
namespace MavenResolution.Text

/-- The pieces of a text between marks: one more than there are marks. -/
def pieces (mark : Char) : List Char → List (List Char)
  | [] => [[]]
  | c :: rest =>
    if c == mark then [] :: pieces mark rest
    else match pieces mark rest with
      | piece :: others => (c :: piece) :: others
      | [] => [[c]]

end MavenResolution.Text
