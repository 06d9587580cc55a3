import Breadcrumb.Pattern.Compile

namespace Breadcrumb

structure Language where
  name : Text
  extensions : List Text
  expressions : List Text
  comments : List Pattern
  deriving DecidableEq

namespace Language

def define (name : Text) (extensions expressions : List Text) :
    Except Pattern.Rejection Language :=
  (Pattern.compileAll expressions).map fun comments => { name, extensions, expressions, comments }

/-- The text of a comment line without what makes it one; nothing for other lines. -/
def comment? (language : Language) (line : Text) : Option Text :=
  (language.comments.find? (·.isIn line)).map (·.erase line)

/-- A language whose comment lines start with `token` behind blanks, and a blank may follow. -/
def lineComments (name : String) (extensions : List String) (token : String) : Language :=
  let expression := "^\\s*".toList ++ token.toList ++ "\\s?".toList
  { name := name.toList
    extensions := extensions.map (·.toList)
    expressions := [expression]
    comments := (Pattern.parse expression).toOption.toList }

/-- The languages that are known from the start. -/
def builtin : List Language :=
  [lineComments "Go" [".go"] "//",
    lineComments "Javascript" [".js", ".jsx"] "//",
    lineComments "Typescript" [".ts", ".tsx"] "//",
    lineComments "PHP" [".php"] "//",
    lineComments "Python" [".py"] "#",
    lineComments "Java" [".java"] "//",
    lineComments "C/C++" [".c", ".h", ".cpp", ".cxx", ".objc", ".m"] "//",
    lineComments "Rust" [".rs"] "//",
    lineComments "Kotlin" [".kt", ".kts"] "//",
    lineComments "Swift" [".swift"] "//",
    lineComments "C#" [".cs"] "//",
    lineComments "Scala" [".scala"] "//",
    lineComments "Ruby" [".rb"] "#",
    lineComments "Shell" [".sh", ".bash"] "#"]

end Language

end Breadcrumb
