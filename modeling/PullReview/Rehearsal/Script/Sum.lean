import PullReview.Rehearsal.Script.Numeral
import PullReview.Rehearsal.Script.Syntax

/-!
# Sums in scripts

Whole numbers of 64 bits with the usual operators: from the weakest, `||`, to
the strongest, `*`, `/` and `%`, then the choice `? :` and assignments. Names
stand for variables. What a shortcut leaves out is read, but not carried out.
-/

namespace PullReview.Rehearsal.Sum

inductive Token where
  | number (value : Int64)
  | name (text : String)
  | operator (text : String)
  | strange
  deriving DecidableEq

/-- The operators, longer ones first. -/
def operators : List String := ["<<=", ">>=", "||", "&&", "==", "!=", "<=", ">=", "<<", ">>", "+=",
  "-=", "*=", "/=", "%=", "&=", "^=", "|=", "<", ">", "+", "-", "*", "/", "%", "&", "^", "|", "~",
  "!", "?", ":", "(", ")", "="]

/-- Cuts a sum into tokens. -/
def tokensFrom : Nat → List Char → List Token
  | 0, _ | _, [] => []
  | fuel + 1, c :: cs =>
    if Numeral.isBlank c then tokensFrom fuel cs
    else if c.isDigit then
      let n := Numeral.read 0 (c :: cs)
      .number (Int64.ofInt n.value) :: tokensFrom fuel n.rest
    else if Script.isNameStart c then
      .name (String.ofList (c :: cs.takeWhile Script.isNamePart)) ::
        tokensFrom fuel (cs.dropWhile Script.isNamePart)
    else
      match operators.find? fun o => o.toList.isPrefixOf (c :: cs) with
      | some o => .operator o :: tokensFrom fuel ((c :: cs).drop o.length)
      | none => .strange :: tokensFrom fuel cs

/-- How strong an operator between two numbers binds. -/
def strength? (operator : String) : Option Nat :=
  let levels := [["||"], ["&&"], ["|"], ["^"], ["&"], ["==", "!="], ["<", "<=", ">", ">="],
    ["<<", ">>"], ["+", "-"], ["*", "/", "%"]]
  levels.findIdx? (·.contains operator)

inductive Trouble where
  /-- what has been expected or gone wrong -/
  | malformed (text : String)
  | noNumber (value : String)
  deriving DecidableEq

/-- The tokens that are left and the variables set so far, the latest first. -/
structure Progress where
  tokens : List Token
  changes : List (String × Int64) := []

abbrev Evaluation := StateT Progress (Except Trouble)

def ofBool (b : Bool) : Int64 := if b then 1 else 0

/-- The value of an operator between two numbers. -/
def apply (operator : String) (a b : Int64) : Except Trouble Int64 :=
  match operator with
  | "||" => .ok (ofBool (a ≠ 0 || b ≠ 0))
  | "&&" => .ok (ofBool (a ≠ 0 && b ≠ 0))
  | "|" => .ok (a ||| b)
  | "^" => .ok (a ^^^ b)
  | "&" => .ok (a &&& b)
  | "==" => .ok (ofBool (a = b))
  | "!=" => .ok (ofBool (a ≠ b))
  | "<=" => .ok (ofBool (a ≤ b))
  | ">=" => .ok (ofBool (b ≤ a))
  | "<" => .ok (ofBool (a < b))
  | ">" => .ok (ofBool (b < a))
  | "<<" => .ok (a <<< b)
  | ">>" => .ok (a >>> b)
  | "+" => .ok (a + b)
  | "-" => .ok (a - b)
  | "*" => .ok (a * b)
  | "/" => if b = 0 then .error (.malformed "division by zero") else .ok (a / b)
  | _ => if b = 0 then .error (.malformed "division by zero") else .ok (a % b)

/-- The value of a variable: blank ones count as zero. -/
def valueOf (lookup : String → String) (name : String) : Evaluation Int64 := do
  match (← get).changes.lookup name with
  | some n => return n
  | none =>
    let text := lookup name
    if text.toList.all Numeral.isBlank then return 0
    match Numeral.whole? 0 text with
    | some n => return Int64.ofInt n
    | none => throw (.noNumber text)

def next : Evaluation (Option Token) := do
  let p ← get
  set { p with tokens := p.tokens.tail }
  return p.tokens.head?

def expect (operator : String) : Evaluation Unit := do
  if (← next) ≠ some (.operator operator) then throw (.malformed s!"expecting '{operator}'")

/-- Reads a number, a variable, a sum in brackets, which `inner` evaluates, or a
sign with its operand. -/
def operand (lookup : String → String) (inner : Bool → Evaluation Int64) (skipped : Bool) :
    Nat → Evaluation Int64
  | 0 => throw (.malformed "expecting primary")
  | fuel + 1 => do
    match ← next with
    | some (.number n) => return n
    | some (.name name) => if skipped then return 0 else valueOf lookup name
    | some (.operator "(") =>
      let n ← inner skipped
      expect ")"
      return n
    | some (.operator "+") => operand lookup inner skipped fuel
    | some (.operator "-") => return -(← operand lookup inner skipped fuel)
    | some (.operator "!") => return ofBool ((← operand lookup inner skipped fuel) = 0)
    | some (.operator "~") => return ~~~(← operand lookup inner skipped fuel)
    | _ => throw (.malformed "expecting primary")

/-- Reads on behind an operand as long as operators are strong enough. -/
def binaryFrom (operand : Bool → Evaluation Int64) :
    Nat → Nat → Bool → Int64 → Evaluation Int64
  | 0, _, _, left => return left
  | fuel + 1, least, skipped, left => do
    match (← get).tokens.head? with
    | some (.operator o) =>
      match (strength? o).filter (least ≤ ·) with
      | some strength =>
        discard next
        let skips := skipped || (o = "||" && left ≠ 0) || (o = "&&" && left = 0)
        let right ← binaryFrom operand fuel (strength + 1) skips (← operand skips)
        let value ← if o = "||" || o = "&&" || !skipped then apply o left right else pure right
        binaryFrom operand fuel least skipped value
      | none => return left
    | _ => return left

/-- The variable and the operator of an assignment in front. -/
def assignment? : List Token → Option (String × String)
  | .name name :: .operator o :: _ =>
    if o.endsWith "=" && !(["==", "!=", "<=", ">="].contains o) then some (name, o) else none
  | _ => none

/-- Reads a choice, or a sum without one. -/
def choice (lookup : String → String) (inner : Bool → Evaluation Int64) :
    Nat → Bool → Evaluation Int64
  | 0, _ => throw (.malformed "expecting primary")
  | fuel + 1, skipped => do
    let size := (← get).tokens.length + 1
    let operand := fun skipped => operand lookup inner skipped size
    let test ← binaryFrom operand size 0 skipped (← operand skipped)
    if (← get).tokens.head? ≠ some (.operator "?") then return test
    discard next
    let yes ← inner (skipped || test = 0)
    expect ":"
    let no ← choice lookup inner fuel (skipped || test ≠ 0)
    return if test ≠ 0 then yes else no

/-- Reads a sum with its assignments. -/
def evaluate (lookup : String → String) : Nat → Bool → Evaluation Int64
  | 0, _ => throw (.malformed "expecting primary")
  | fuel + 1, skipped => do
    match assignment? (← get).tokens with
    | some (name, o) =>
      discard next
      discard next
      let right ← evaluate lookup fuel skipped
      if skipped then return right
      let value ← if o = "=" then pure right
        else apply (String.ofList o.toList.dropLast) (← valueOf lookup name) right
      modify fun p => { p with changes := (name, value) :: p.changes }
      return value
    | none => choice lookup (evaluate lookup fuel) (fuel + 1) skipped

/-- The value of a sum, and the variables that it sets, the latest first. -/
def value (lookup : String → String) (source : String) :
    Except Trouble (Int64 × List (String × Int64)) := do
  let tokens := tokensFrom (source.length + 1) source.toList
  let (n, p) ← (evaluate lookup (tokens.length + 1) false).run { tokens := tokens }
  if p.tokens.isEmpty then return (n, p.changes) else throw (.malformed "expecting EOF")

end PullReview.Rehearsal.Sum
