import Breadcrumb.Text.Case
import Breadcrumb.Text.Letter

namespace Breadcrumb.Heading

/-- A word can start behind such a character. -/
def isGap (c : Char) : Bool := !Text.isWordChar c && c ≠ '\''

/-- Raises the characters behind gaps, from left to right. -/
def raiseBehindGaps : Text → Text
  | gap :: c :: rest =>
    if isGap gap && Text.isWordChar c then gap :: Text.upperChar c ++ raiseBehindGaps rest
    else gap :: raiseBehindGaps (c :: rest)
  | text => text

/-- The text with the first letter of every word in upper case. -/
def titleCase : Text → Text
  | [] => []
  | c :: rest =>
    if Text.isWordChar c then Text.upperChar c ++ raiseBehindGaps rest
    else raiseBehindGaps (c :: rest)

/-- The words of a text, of which `current` is being read. -/
def wordsFrom (current : Text) : Text → List Text
  | [] => if current.isEmpty then [] else [current.reverse]
  | c :: rest =>
    if Text.isWordChar c then wordsFrom (c :: current) rest
    else if current.isEmpty then wordsFrom [] rest
    else current.reverse :: wordsFrom [] rest

def words (text : Text) : List Text := wordsFrom [] text

/-- The anchor of a heading: its words in lower case with hyphens between them. -/
def anchor (heading : Text) : Text := '#' :: (Text.join ['-'] (words heading)).lower

def startsWithChar (c : Char) (line : Text) : Bool := line.head? = some c

/-- Strips `c` from the lines as long as the first and all others begin with it. -/
def dedentBy (c : Char) : (first : Text) → (others : List Text) → List Text
  | [], others => [] :: others
  | d :: first, others =>
    if d = c && others.all (startsWithChar c) then dedentBy c first (others.map (·.drop 1))
    else (d :: first) :: others

/-- Strips the tabs that all lines begin with, then the spaces. -/
def dedent : List Text → List Text
  | [] => []
  | first :: others =>
    match dedentBy '\t' first others with
    | [] => []
    | first :: others => dedentBy ' ' first others

/-- The link to a path. A prefix that names an organisation or a repository is completed. -/
def link (base path : Text) : Text :=
  if base.startsWith "https://github.com".toList then
    let trimmed := ((base.drop 8).reverse.dropWhile (· = '/')).reverse
    if (Text.split '/' trimmed).length = 2 then
      let (repository, rest) := (path.cut? '/').getD (path, [])
      "https://".toList ++ trimmed ++ "/".toList ++ repository ++ "/blob/master/".toList ++ rest
    else "https://".toList ++ trimmed ++ "/blob/master/".toList ++ path
  else base ++ path

end Breadcrumb.Heading
