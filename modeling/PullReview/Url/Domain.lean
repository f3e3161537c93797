import PullReview.Text.Lines
import PullReview.Text.Punycode
import PullReview.Unicode.Direction
import PullReview.Unicode.HostMapping
import PullReview.Unicode.Joining
import PullReview.Unicode.Mark

/-!
# Internationalised domain names

A name is brought into one form before it is looked up: its characters are
replaced or dropped, what can be composed is composed, and every label outside
ASCII is written in ASCII. Labels that are already written so have to stand for
characters in that one form.
-/

namespace PullReview.Url

open Unicode

def isAsciiText (cs : List Char) : Bool := cs.all (·.toNat < 0x80)

/-- The characters of a name after their replacement; none if one is refused. -/
def mappedName? (cs : List Char) : Option (List Char) := do
  let parts ← cs.mapM fun c =>
    match HostMapping.ofChar c with
    | .kept => some [c]
    | .replaced characters => some characters
    | .dropped => some []
    | .refused => none
  return composed parts.flatten

/-- The label that a label stands for: its own, unless it is the ASCII form of
another one. -/
def spokenLabel? (label : List Char) : Option (List Char) :=
  match label with
  | 'x' :: 'n' :: '-' :: '-' :: form =>
    let isBare := form.head? = some '-' && !(form.drop 1).contains '-'
    if form.isEmpty || !isAsciiText form || form.getLast? = some '-' || isBare then none
    else do
      let spoken ← Text.Punycode.decode .refuse form
      let isSettled := spoken.all (fun c => HostMapping.ofChar c = .kept) && composed spoken = spoken
      if isSettled && !isAsciiText spoken then some spoken else none
  | _ => some label

/-- Whether a label may be looked up. -/
def isLookedUp (label : List Char) : Bool :=
  !label.head?.any isMark && joinersCount [] label

/-- A label as it is written in ASCII. -/
def asciiLabel (label : List Char) : List Char :=
  if isAsciiText label then label else "xn--".toList ++ Text.Punycode.encode label

/-- A name as it is looked up, its labels in ASCII; none if it cannot be. -/
def asciiName? (cs : List Char) : Option (List Char) := do
  let labels := Text.splitAtEach '.' (← mappedName? cs)
  let spoken ← labels.mapM spokenLabel?
  let isMixed := spoken.any fun label => label.any fun c => (Direction.ofChar c).isRightward
  if spoken.all isLookedUp && (!isMixed || spoken.all Direction.isKeptIn) then
    some ((labels.map asciiLabel).intersperse ['.']).flatten
  else none

end PullReview.Url
