import PullReview.Json.Basic

/-!
# Lenient access to values

Views of a value as one kind of thing. What is missing, or of another kind,
counts as empty.
-/

namespace PullReview.Json

/-- The items of a list. -/
def list : Json → List Json
  | .arr items => items
  | _ => []

/-- The members of an object in their order. -/
def pairs : Json → List (String × Json)
  | .obj members => members
  | _ => []

def text (v : Json) : String := v.str?.getD ""

/-- A whole number; a truth value counts as zero or one. -/
def whole? : Json → Option Int
  | .int n => some n
  | .bool b => some (if b then 1 else 0)
  | _ => none

def whole (v : Json) : Int := v.whole?.getD 0

def isNull (v : Json) : Bool := v == .null

def texts (v : Json) : List String := v.list.map text

def textPairs (v : Json) : List (String × String) := v.pairs.map fun (name, x) => (name, x.text)

/-- The texts of a list, or those of a default where there is no list. -/
def textsOr (v : Json) (default : List String) : List String :=
  match v with
  | .arr _ => v.texts
  | _ => default

/-- A member by its name, `null` when it is missing. -/
instance : GetElem Json String Json fun _ _ => True := ⟨fun v name _ => v.getD name⟩

end PullReview.Json
