/-! Lists of keys and values in which a key stands once, where it came up first. -/
namespace MavenResolution.Entries

/-- The entries with a value under a key, in the place of the one that was there. -/
def put [BEq κ] (key : κ) (value : ν) : List (κ × ν) → List (κ × ν)
  | [] => [(key, value)]
  | (k, v) :: rest => if k == key then (k, value) :: rest else (k, v) :: put key value rest

/-- The entries made by putting others one after another. -/
def putAll [BEq κ] (entries : List (κ × ν)) (others : List (κ × ν)) : List (κ × ν) :=
  others.foldl (fun entries (key, value) => put key value entries) entries

end MavenResolution.Entries
