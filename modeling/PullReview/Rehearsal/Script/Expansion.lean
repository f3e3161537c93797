import PullReview.Rehearsal.Script.Machine
import PullReview.Rehearsal.Script.Pattern
import PullReview.Rehearsal.Script.Sum

/-!
# Expanding words

Words become fields: parameters, sums and the output of scripts take their
places, what comes out of them is cut at separators, and wildcards are replaced
by the names of files that fit. Between the steps a word is a list of glyphs,
characters that know where they come from.
-/

namespace PullReview.Rehearsal

/-- A character of a word that is being expanded, or a mark between characters. -/
inductive Glyph where
  /-- written without quotes -/
  | plain (c : Char)
  /-- stands for itself only -/
  | solid (c : Char)
  /-- comes from an expansion and may be a separator -/
  | loose (c : Char)
  /-- makes a field, even if nothing else does -/
  | edge
  /-- ends a field -/
  | cut
  deriving DecidableEq

namespace Glyph

def char? : Glyph → Option Char
  | .plain c | .solid c | .loose c => some c
  | .edge => none
  | .cut => some ' '

/-- The text of glyphs that are not cut into fields. -/
def text (glyphs : List Glyph) : String := String.ofList (glyphs.filterMap char?)

/-- A text that stands for itself. -/
def solids (s : String) : List Glyph := .edge :: s.toList.map .solid

def looses (s : String) : List Glyph := s.toList.map .loose

/-- Glyphs for a pattern: those in quotes stand for themselves. -/
def patternOf (glyphs : List Glyph) : Pattern :=
  Pattern.ofChars (glyphs.filterMap fun
    | .plain c | .loose c => some (c, false)
    | .solid c => some (c, true)
    | .edge | .cut => none)

/-- Glyphs on their way into fields. -/
structure Cutting where
  /-- the latest first, each of them in reverse -/
  done : List (List Glyph) := []
  field : Option (List Glyph) := none
  /-- whether a blank separator has just ended a field -/
  afterBlank : Bool := false

/-- Ends the field that is begun. -/
def Cutting.close (s : Cutting) (afterBlank : Bool) : Cutting :=
  match s.field with
  | some field => { done := field :: s.done, field := none, afterBlank := afterBlank }
  | none => { s with afterBlank := afterBlank }

/-- Adds a glyph. Blank separators join to one; another separator ends a field even
if it is empty. -/
def Cutting.step (separators : List Char) (s : Cutting) (g : Glyph) : Cutting :=
  let extended : Cutting := { s with field := some (g :: s.field.getD []), afterBlank := false }
  match g with
  | .cut => s.close false
  | .edge => { s with field := some (s.field.getD []), afterBlank := false }
  | .loose c =>
    if !separators.contains c then extended
    else if c = ' ' || c = '\t' || c = '\n' then
      if s.field.isSome then s.close true else s
    else if s.field.isSome then s.close false
    else if s.afterBlank then { s with afterBlank := false }
    else { s with done := [] :: s.done }
  | _ => extended

/-- The fields of glyphs. -/
def fields (separators : List Char) (glyphs : List Glyph) : List (List Glyph) :=
  ((glyphs.foldl (Cutting.step separators) {}).close false).done.reverse.map List.reverse

/-- Glyphs with a tilde at their start replaced by a directory. -/
def withHome (home : Option String) (glyphs : List Glyph) : List Glyph :=
  match glyphs, home with
  | .plain '~' :: rest, some home =>
    match rest.head? with
    | none | some (.plain '/') => solids home ++ rest
    | _ => glyphs
  | _, _ => glyphs

/-- The same behind each colon as well. -/
def withHomes (home : Option String) (glyphs : List Glyph) : List Glyph :=
  let parts := glyphs.foldr (fun g parts =>
    match g, parts with
    | .plain ':', parts => [] :: parts
    | g, part :: parts => (g :: part) :: parts
    | g, [] => [[g]]) [[]]
  [Glyph.plain ':'].intercalate (parts.map fun part =>
    match part, home with
    | [.plain '~'], some home => solids home
    | part, home => withHome home part)

end Glyph

/-! ## Wildcards -/

namespace Wildcard

/-- The parts of a field between slashes. -/
def components (glyphs : List Glyph) : List (List Glyph) :=
  glyphs.foldr (fun g parts =>
    if g.char? = some '/' then [] :: parts
    else match parts with
      | part :: parts => (g :: part) :: parts
      | [] => [[g]]) [[]]

/-- The names in a directory that a pattern stands for; hidden ones only if it begins
with a point. -/
def entries (m : Machine) (directory : String) (pattern : Pattern) : List String :=
  match m.tree.find? (pathOf (if directory = "" then "." else directory)) with
  | some (.dir entries) =>
    let names := [".", ".."] ++ entries.map fun e => Octets.ofText e.1
    let fitting := names.filter fun name =>
      Pattern.fits pattern name.toList &&
        (!name.startsWith "." || pattern.head? = some (.one '.'))
    fitting.mergeSort fun a b => decide (a ≤ b)
  | _ => []

/-- The paths that begin with `start` and go on as the components say. -/
def pathsFrom (m : Machine) (start : String) : List (List Glyph) → List String
  | [] => []
  | component :: rest =>
    let pattern := Glyph.patternOf component
    let names := if Pattern.isWild pattern then entries m start pattern else [Glyph.text component]
    names.flatMap fun name =>
      let path := start ++ name
      if rest.isEmpty then
        let isThere := path ≠ "" && match m.tree.walk (pathOf path) false with
          | .ok spot => spot.node.isSome
          | .error _ => false
        if isThere then [path] else []
      else pathsFrom m (path ++ "/") rest

/-- The texts that a field stands for: the paths that fit, or itself. -/
def texts (m : Machine) (field : List Glyph) : List String :=
  if m.options.contains 'f' || !Pattern.isWild (Glyph.patternOf field) then [Glyph.text field]
  else
    match pathsFrom m "" (components field) with
    | [] => [Glyph.text field]
    | paths => paths

end Wildcard

/-! ## Parameters -/

namespace Machine

/-- The characters at which fields are cut. -/
def separators (m : Machine) : List Char := ((m.value? "IFS").getD " \t\n").toList

/-- What the options of the script are called. -/
def optionText (m : Machine) : String := String.ofList m.options.reverse

/-- The value of a parameter that has one value at most. -/
def parameter? (m : Machine) (name : String) : Option String :=
  match name with
  | "?" => some (toString m.status)
  | "$" => some (toString m.process)
  | "#" => some (toString m.parameters.length)
  | "!" => m.jobs.head?.map fun job => toString job.process
  | "-" => some m.optionText
  | "0" => some m.name
  | name =>
    match name.toNat? with
    | some n => m.parameters[n - 1]?
    | none => m.value? name

end Machine

namespace Run

/-- Complains in the name of the script, its present line and a command, if one is
given. -/
def reportAs (command : Option String) (text : String) : Run Unit := do
  let m ← get
  let origin := command.elim "" fun name => name ++ ": "
  complain s!"{m.name}: {m.line}: {origin}{text}"

/-- Complains about a command that is not one of the interpreter. -/
def report (text : String) : Run Unit := do reportAs (← get).origin text

/-- Complains, and ends the script unless it is about one command only. -/
def fail {α : Type} (text : String) : Run α := do
  report text
  modify fun m => { m with status := 2 }
  throw .fails

/-- Gives a variable a value. -/
def assign (name value : String) : Run Unit := do
  if ((← get).values.lookup name).any (·.fixed) then fail s!"{name}: is read only"
  if name = "OPTIND" then
    if value = "" || !value.toList.all Char.isDigit then fail s!"Illegal number: {value}"
    modify fun m => { m with optionOffset := 1 }
  modify fun m => m.change name fun v =>
    { v with value := some value, exported := v.exported || m.options.contains 'a' }

end Run

/-! ## Words -/

/-- How words inside words are expanded and what scripts inside them write. -/
structure Expander where
  word : Word → Run (List Glyph)
  output : Script → Run String

namespace Expander

/-- The value of a parameter as glyphs. -/
def valueOf (m : Machine) (name : String) (quoted : Bool) : Option (List Glyph) :=
  if name = "@" || (name = "*" && !quoted) then
    let glyphs := if quoted then Glyph.solids else Glyph.looses
    if m.parameters.isEmpty then none
    else some ([Glyph.cut].intercalate (m.parameters.map glyphs))
  else if name = "*" then
    let joint := match m.value? "IFS" with
      | some separators => String.ofList (separators.toList.take 1)
      | none => " "
    if m.parameters.isEmpty then none else some (Glyph.solids (joint.intercalate m.parameters))
  else (m.parameter? name).map (if quoted then Glyph.solids else Glyph.looses)

/-- Expands a parameter. -/
def parameter (e : Expander) (name : String) (view : View) (quoted : Bool) :
    Run (List Glyph) := do
  let m ← get
  let value? := valueOf m name quoted
  let nothing : List Glyph := if quoted && name ≠ "@" then [.edge] else []
  let isList := name = "@" || name = "*"
  let demanded : Run (List Glyph) := match value? with
    | some value => return value
    | none =>
      if m.options.contains 'u' && !isList then Run.fail s!"{name}: parameter not set"
      else return nothing
  let loosened (glyphs : List Glyph) : List Glyph :=
    if quoted then .edge :: glyphs
    else glyphs.map fun
      | .plain c => .loose c
      | g => g
  match view with
  | .value => demanded
  | .length =>
    return Glyph.solids (toString (Glyph.text (← demanded)).length)
  | .unknown => Run.fail "Bad substitution"
  | .trimmed fromEnd longest pattern =>
    let text := (Glyph.text (← demanded)).toList
    let pattern := Glyph.patternOf (← e.word pattern)
    let rest := String.ofList
      (if fromEnd then pattern.trimEnd longest text else pattern.trimStart longest text)
    return if quoted then Glyph.solids rest else Glyph.looses rest
  | .otherwise deed emptyCounts word =>
    let given := value?.filter fun value => !emptyCounts || Glyph.text value ≠ ""
    match deed, given with
    | .replace, some _ => return loosened (← e.word word)
    | .replace, none => return nothing
    | _, some value => return value
    | .use, none => return loosened (← e.word word)
    | .assign, none =>
      let text := Glyph.text (← e.word word)
      if !Script.isName name then Run.fail s!"{name}: bad variable name"
      Run.assign name text
      return if quoted then Glyph.solids text else Glyph.looses text
    | .refuse, none =>
      let text := Glyph.text (← e.word word)
      let usual := if emptyCounts then "parameter not set or null" else "parameter not set"
      Run.fail (name ++ ": " ++ if text = "" then usual else text)

/-- Evaluates a sum. -/
def sum (source : String) : Run String := do
  let m ← get
  match Sum.value (fun name => (m.parameter? name).getD "") source with
  | .ok (n, changes) =>
    changes.reverse.forM fun (name, value) => Run.assign name (toString value.toInt)
    return toString n.toInt
  | .error (.malformed text) => Run.fail (s!"arithmetic expression: {text}: " ++ "\"" ++ source ++ "\"")
  | .error (.noNumber text) => Run.fail s!"Illegal number: {text}"

/-- Expands a piece of a word. -/
def piece (e : Expander) : Piece → Run (List Glyph)
  | .text content true => return if content = "" then [.edge] else content.toList.map .solid
  | .text content false => return content.toList.map .plain
  | .parameter name view quoted => e.parameter name view quoted
  | .sum source quoted => do
    let text ← sum (Glyph.text (← e.word source))
    return if quoted then Glyph.solids text else Glyph.looses text
  | .output body quoted => do
    let text ← e.output body
    return if quoted then Glyph.solids text else Glyph.looses text

def pieces (e : Expander) (word : Word) : Run (List Glyph) := return (← word.mapM e.piece).flatten

/-- The fields that words stand for. -/
def fields (e : Expander) (words : List Word) : Run (List String) := do
  let lists ← words.mapM fun word => do
    let glyphs ← e.word word
    let m ← get
    let fields := Glyph.fields m.separators (Glyph.withHome (m.value? "HOME") glyphs)
    return fields.flatMap (Wildcard.texts m)
  return lists.flatten

/-- The text that a word stands for where it cannot become several. -/
def text (e : Expander) (word : Word) : Run String := do
  let glyphs ← e.word word
  return Glyph.text (Glyph.withHome ((← get).value? "HOME") glyphs)

/-- The text that a variable is set to. -/
def setting (e : Expander) (word : Word) : Run String := do
  let glyphs ← e.word word
  return Glyph.text (Glyph.withHomes ((← get).value? "HOME") glyphs)

end Expander

end PullReview.Rehearsal
