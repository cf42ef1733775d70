/-
  Text with separators.

  Text is cut at every occurrence of a separator, or at the first one only.
-/

namespace DeployConfig.Text

/-- The pieces of some text between the occurrences of a separator. -/
def splitAt (separator : Char) : List Char → List (List Char)
  | [] => [[]]
  | c :: rest =>
    if c == separator then [] :: splitAt separator rest
    else match splitAt separator rest with
      | [] => [[c]]
      | piece :: pieces => (c :: piece) :: pieces

/-- The characters in front of the first occurrence of a separator, and those behind it if there
    is one. -/
def splitAtFirst (separator : Char) : List Char → List Char × Option (List Char)
  | [] => ([], none)
  | c :: rest =>
    if c == separator then ([], some rest)
    else match splitAtFirst separator rest with
      | (before, after) => (c :: before, after)

end DeployConfig.Text
