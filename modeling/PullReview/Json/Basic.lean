import PullReview.Number.Shortest

/-!
# JSON values

Whole numbers of any size are kept apart from numbers with a fraction or an
exponent, and the members of an object keep the order in which their names
first appeared.
-/

namespace PullReview

inductive Json where
  | null
  | bool (value : Bool)
  | int (value : Int)
  | float (value : Double)
  | str (value : String)
  | arr (items : List Json)
  | obj (members : List (String × Json))
  deriving Repr, Inhabited

namespace Json

/-- The members with `name` set to `value`: in its old place if it had one,
else at the end. -/
def setMember (members : List (String × Json)) (name : String) (value : Json) :
    List (String × Json) :=
  if members.any (·.1 = name) then
    members.map fun m => if m.1 = name then (name, value) else m
  else members ++ [(name, value)]

/-- The member of an object; none for anything else. -/
def get? (v : Json) (name : String) : Option Json :=
  match v with
  | .obj members => (members.find? (·.1 = name)).map (·.2)
  | _ => none

/-- The member of an object, `null` when it is missing. -/
def getD (v : Json) (name : String) : Json := (v.get? name).getD .null

/-- Values that stand for something: not `null`, `false`, a zero or an empty
text, list or object. -/
def isTruthy : Json → Bool
  | .null => false
  | .bool b => b
  | .int n => n != 0
  | .float x => !x.isZero
  | .str s => s != ""
  | .arr items => !items.isEmpty
  | .obj members => !members.isEmpty

/-- The text of a string value. -/
def str? : Json → Option String
  | .str s => some s
  | _ => none

/-- A number or truth value as a numerator over a denominator, which is zero for
the infinities alone. -/
def fraction? : Json → Option (Int × Nat)
  | .bool b => some (if b then 1 else 0, 1)
  | .int n => some (n, 1)
  | .float (.finite negative m e) => some (Double.exact negative m e)
  | .float (.infinite negative) => some (if negative then -1 else 1, 0)
  | _ => none

/-- A number as a double, unless it is too large for one. -/
def double? : Json → Option Double
  | .float x => some x
  | .int n => Double.ofInt? n
  | _ => none

/-- The order of two texts, or of two numbers by their values; none for values
that have no order between them. -/
def compare? (v w : Json) : Option Ordering :=
  match v, w with
  | .str s, .str t => some (compare s t)
  | v, w => do
    let (a, b) ← v.fraction?
    let (c, d) ← w.fraction?
    return if b = 0 ∧ d = 0 then compare a c else compare (a * d) (c * b)

mutual
/-- Equality of values; the undefined number equals itself here. -/
def beq : Json → Json → Bool
  | .null, .null => true
  | .bool a, .bool b => a == b
  | .int a, .int b => a == b
  | .float a, .float b => a == b
  | .str a, .str b => a == b
  | .arr xs, .arr ys => beqItems xs ys
  | .obj xs, .obj ys => beqMembers xs ys
  | _, _ => false
def beqItems : List Json → List Json → Bool
  | [], [] => true
  | x :: xs, y :: ys => beq x y && beqItems xs ys
  | _, _ => false
def beqMembers : List (String × Json) → List (String × Json) → Bool
  | [], [] => true
  | (a, x) :: xs, (b, y) :: ys => a == b && beq x y && beqMembers xs ys
  | _, _ => false
end

instance : BEq Json := ⟨beq⟩

end Json

end PullReview
