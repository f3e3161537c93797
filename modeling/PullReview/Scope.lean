import PullReview.Text.Lines

/-!
# What is reviewed

A scope names the file endings that are reviewed and the directories whose
files are not.
-/

namespace PullReview

structure Scope where
  extensions : List String := [".ts", ".tsx", ".js", ".jsx"]
  excludedDirs : List String := ["node_modules", "dist", "build"]
  deriving DecidableEq, Repr, Inhabited

namespace Scope

/-- The text that every path inside a directory starts with: its name with
exactly one slash behind. -/
def heading (directory : String) : List Char :=
  (directory.toList.reverse.dropWhile (· = '/')).reverse ++ ['/']

/-- A path is in scope if it has one of the endings and lies in none of the
excluded directories. -/
def admits (scope : Scope) (path : String) : Bool :=
  let cs := path.toList
  scope.extensions.any (fun e => e.toList.isSuffixOf cs) &&
    !scope.excludedDirs.any (fun d => (heading d).isPrefixOf cs)

end Scope

end PullReview
