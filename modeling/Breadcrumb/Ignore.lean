import Breadcrumb.Glob
import Breadcrumb.Text.Blank
import Breadcrumb.Text.Lines

namespace Breadcrumb

namespace Ignore

/-- A rule for paths; one that is anchored or holds a slash is about whole paths, any other about
each name in them. -/
structure Rule where
  pattern : Text
  folderOnly : Bool := false
  anchored : Bool := false
  negated : Bool := false
  hasSlash : Bool := false
  deriving DecidableEq

namespace Rule

def covers (rule : Rule) (path : Text) (isFolder : Bool) : Bool :=
  if rule.pattern.isEmpty then false
  else if rule.folderOnly && !isFolder then false
  else if rule.anchored || rule.hasSlash then
    Glob.matches rule.pattern path ||
      (rule.folderOnly && path.startsWith (rule.pattern ++ ['/']))
  else (path.split '/').any (Glob.matches rule.pattern)

/-- The rule for a pattern: a slash at its end means folders, one at its start the root. -/
def ofPattern? (negated : Bool) (pattern : Text) : Option Rule :=
  match pattern.trim with
  | [] => none
  | pattern =>
    let folderOnly := pattern.getLast? = some '/'
    let pattern := if folderOnly then pattern.dropLast else pattern
    let anchored := pattern.head? = some '/'
    let pattern := if anchored then pattern.drop 1 else pattern
    some { pattern, folderOnly, anchored, negated, hasSlash := pattern.contains '/' }

/-- The rule of a line; empty lines and comments have none. -/
def ofLine? (line : Text) : Option Rule :=
  match line.trim with
  | [] => none
  | '#' :: _ => none
  | '!' :: rest => ofPattern? true rest
  | text => ofPattern? false text

end Rule

/-- The rules of a file, in the order of its lines. -/
def rules (text : Text) : List Rule := text.anyLines.filterMap Rule.ofLine?

/-- The last rule that covers the path decides. -/
def ignored (rules : List Rule) (path : Text) (isFolder : Bool) : Bool :=
  rules.foldl
    (fun soFar rule => if rule.covers path isFolder then !rule.negated else soFar) false

end Ignore

end Breadcrumb
