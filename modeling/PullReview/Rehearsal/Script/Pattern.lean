/-!
# Patterns with wildcards

A pattern stands for texts: `*` for anything, `?` for any character, `[…]` for
one of a set. Characters that are quoted stand for themselves.
-/

namespace PullReview.Rehearsal

inductive PatternPart where
  | one (c : Char)
  | any
  | anything
  /-- a character between one of the bounds, or between none -/
  | set (negated : Bool) (ranges : List (Char × Char))
  deriving DecidableEq, Repr

abbrev Pattern := List PatternPart

namespace Pattern

/-- The bounds of a named class of characters. -/
def classes : List (String × List (Char × Char)) := [
  ("digit", [('0', '9')]), ("lower", [('a', 'z')]), ("upper", [('A', 'Z')]),
  ("alpha", [('A', 'Z'), ('a', 'z')]), ("alnum", [('0', '9'), ('A', 'Z'), ('a', 'z')]),
  ("space", [('\t', '\x0d'), (' ', ' ')]), ("blank", [('\t', '\t'), (' ', ' ')]),
  ("xdigit", [('0', '9'), ('A', 'F'), ('a', 'f')]),
  ("punct", [('!', '/'), (':', '@'), ('[', '\x60'), ('{', '~')]),
  ("print", [(' ', '~')]), ("graph", [('!', '~')]), ("cntrl", [('\x00', '\x1f'), ('\x7f', '\x7f')])]

/-- A named class in front, behind its opening mark, and what follows. -/
def class? (cs : List (Char × Bool)) : Option (List (Char × Char) × List (Char × Bool)) :=
  let name := cs.takeWhile fun c => c.1 ≠ ':'
  match cs.drop name.length with
  | (':', false) :: (']', false) :: rest =>
    (classes.lookup (String.ofList (name.map (·.1)))).map (·, rest)
  | _ => none

/-- The members of a set up to the bracket that closes it; a bracket that comes
first is a member. -/
def rangesFrom : Nat → Bool → List (Char × Bool) →
    Option (List (Char × Char) × List (Char × Bool))
  | 0, _, _ | _, _, [] => none
  | fuel + 1, isFirst, (c, quoted) :: rest =>
    if c = ']' && !quoted && !isFirst then some ([], rest)
    else
      let add (ranges : List (Char × Char)) (rest : List (Char × Bool)) :=
        (rangesFrom fuel false rest).map fun (more, after) => (ranges ++ more, after)
      match c, quoted, rest with
      | '[', false, (':', false) :: named =>
        match class? named with
        | some (ranges, rest) => add ranges rest
        | none => add [(c, c)] rest
      | _, _, ('-', false) :: (last, lastQuoted) :: after =>
        if last = ']' && !lastQuoted then add [(c, c)] rest else add [(c, last)] after
      | _, _, rest => add [(c, c)] rest

/-- The pattern of characters, each of them quoted or not. -/
def ofCharsFrom : Nat → List (Char × Bool) → Pattern
  | 0, _ | _, [] => []
  | fuel + 1, (c, quoted) :: rest =>
    match c, quoted, rest with
    | '*', false, rest => .anything :: ofCharsFrom fuel rest
    | '?', false, rest => .any :: ofCharsFrom fuel rest
    | '\\', false, (d, _) :: rest => .one d :: ofCharsFrom fuel rest
    | '[', false, rest =>
      let (negated, members) := match rest with
        | ('!', false) :: more => (true, more)
        | rest => (false, rest)
      match rangesFrom (members.length + 1) true members with
      | some (ranges, after) => .set negated ranges :: ofCharsFrom fuel after
      | none => .one '[' :: ofCharsFrom fuel rest
    | c, _, rest => .one c :: ofCharsFrom fuel rest

def ofChars (cs : List (Char × Bool)) : Pattern := ofCharsFrom (cs.length + 1) cs

/-- Whether a pattern can stand for more than one text. -/
def isWild (p : Pattern) : Bool := p.any fun
  | .one _ => false
  | _ => true

/-- Whether a part of a pattern stands for a character. -/
def partFits (part : PatternPart) (c : Char) : Bool :=
  match part with
  | .one d => c = d
  | .any | .anything => true
  | .set negated ranges => ranges.any (fun (a, b) => a ≤ c && c ≤ b) != negated

/-- Whether a pattern stands for a text. -/
def fits : Pattern → List Char → Bool
  | [], cs => cs.isEmpty
  | .anything :: p, [] => fits p []
  | .anything :: p, c :: cs => fits p (c :: cs) || fits (.anything :: p) cs
  | _ :: _, [] => false
  | part :: p, c :: cs => partFits part c && fits p cs
termination_by p cs => (p.length, cs.length)

/-- The text that is left when the shortest or longest start that fits is taken
off, or all of it. -/
def trimStart (p : Pattern) (longest : Bool) (cs : List Char) : List Char :=
  let sizes := List.range (cs.length + 1)
  match (if longest then sizes.reverse else sizes).find? fun n => fits p (cs.take n) with
  | some n => cs.drop n
  | none => cs

/-- The same at the end of the text. -/
def trimEnd (p : Pattern) (longest : Bool) (cs : List Char) : List Char :=
  let sizes := List.range (cs.length + 1)
  match (if longest then sizes else sizes.reverse).find? fun n => fits p (cs.drop n) with
  | some n => cs.take n
  | none => cs

end Pattern

end PullReview.Rehearsal
