import PullReview.Rehearsal.Script.Format
import PullReview.Rehearsal.Script.Pattern
import PullReview.Rehearsal.Tools.Options

/-!
# Tools for lines of text

Tools that read files, or the input if none is named, and write their lines or
bytes again: some of them, counted, sorted, cut or changed.
-/

namespace PullReview.Rehearsal.Tool

/-- The lines of a text, each with its end; the last one may have none. -/
def linesOf (text : String) : List String :=
  let (done, last) := text.toList.foldl (fun (done, line) c =>
    if c = '\n' then (String.ofList ('\n' :: line).reverse :: done, []) else (done, c :: line))
    (([], []) : List String × List Char)
  (if last.isEmpty then done else String.ofList last.reverse :: done).reverse

/-- A line without its end. -/
def bare (line : String) : String :=
  if line.endsWith "\n" then String.ofList line.toList.dropLast else line

/-- The bare lines of a text. -/
def bareLines (text : String) : List String := (linesOf text).map bare

def writeLine (line : String) : Run Unit := Run.write (line ++ "\n")

/-- The content of a file, or of the input; what is wrong is complained about in the
given words. -/
def readable (file : String) (complaint : FileFault → String) : Run (Option String) := do
  match ← Run.contentOf file with
  | .ok content => return some content
  | .error fault =>
    Run.complain (complaint fault)
    return none

/-- Why a file cannot be read, as most tools put it. -/
def shortly (name file : String) (fault : FileFault) : String :=
  s!"{name}: {Octets.shown file}: {fault.reason}"

/-- Why a file cannot be opened or read, as other tools put it. -/
def atLength (name file : String) : FileFault → String
  | .isDirectory _ => s!"{name}: error reading {Octets.quoted file}: Is a directory"
  | fault => s!"{name}: cannot open {Octets.quoted file} for reading: {fault.reason}"

/-- The files a tool reads. -/
def inputs (operands : List String) : List String := if operands.isEmpty then ["-"] else operands

/-- Many zeros, as a device gives them without an end. -/
def manyZeros : String := String.ofList (List.replicate 262144 '\x00')

/-- Whether a file is a device that never ends. -/
def isEndless (file : String) : Run Bool := do
  let m ← get
  if file = "/dev/zero" then return true
  match m.stream? 0 with
  | some (_, .zeros) => return file = "-"
  | _ => return false

/-- A byte with marks that make it visible; tabs and line ends are left alone. -/
def visible (c : Char) : String :=
  let low (n : Nat) : String :=
    if n < 32 then "^" ++ String.singleton (Char.ofNat (n + 64))
    else if n = 127 then "^?" else String.singleton (Char.ofNat n)
  if c = '\t' then "\t" else if c.toNat < 128 then low c.toNat else "M-" ++ low (c.toNat - 128)

def catOptions : OptionSet where
  flags := "nEubsvTAet"
  long := [("number", 'n'), ("show-ends", 'E'), ("number-nonblank", 'b'), ("squeeze-blank", 's'),
    ("show-nonprinting", 'v'), ("show-tabs", 'T'), ("show-all", 'A')]

/-- The lines of a text as they are shown; empty ones behind empty ones may be left out. -/
def shownLines (words : Call.Words) (lines : List String) : List String :=
  let shows (letters : String) : Bool := letters.toList.any words.has
  let step (s : Nat × Bool × List String) (line : String) : Nat × Bool × List String :=
    let (number, wasEmpty, done) := s
    let isEmpty := line = "\n"
    if isEmpty && wasEmpty && words.has 's' then s
    else
      let isNumbered := if words.has 'b' then !isEmpty else words.has 'n'
      let label := if isNumbered then
          (⟨[], 6, none⟩ : Format.Directive).fill s!"{number}" ++ "\t" else ""
      let text := (bare line).toList.map fun c =>
        if c = '\t' && shows "TAt" then "^I"
        else if shows "vAet" then visible c else String.singleton c
      let stop := if line.endsWith "\n" then (if shows "EAe" then "$\n" else "\n") else ""
      (if isNumbered then number + 1 else number, isEmpty, (label ++ String.join text ++ stop) :: done)
  (lines.foldl step (1, false, [])).2.2.reverse

/-- Writes the content of files, lines numbered or made visible if so asked. -/
def cat : Tool := withOptions catOptions fun name words => do
  let isPlain := words.options.all fun o => o.1 = 'u'
  let (texts, status) ← (inputs words.operands).foldlM (fun (texts, status) file => do
    if ← isEndless file then
      Run.write manyZeros
      throw .endless
    match ← readable file (shortly name file) with
    | none => return (texts, 1)
    | some content =>
      if isPlain then Run.write content
      return (content :: texts, status)) ([], 0)
  if !isPlain then (shownLines words (linesOf (String.join texts.reverse))).forM Run.write
  return status

/-- A number of lines or bytes, and whether it is counted from the other end. -/
def quantity? (text : String) (otherEnd : Char) : Option (Nat × Bool) :=
  let (marked, digits) := match text.toList with
    | c :: cs => if c = otherEnd then (true, cs) else if c = '-' || c = '+' then (false, cs)
      else (false, c :: cs)
    | [] => (false, [])
  let number := digits.takeWhile Char.isDigit
  let unit? := match String.ofList (digits.drop number.length) with
    | "" => some 1
    | "b" => some 512
    | "k" | "K" | "KiB" => some 1024
    | "kB" | "KB" => some 1000
    | "M" | "MiB" => some 1048576
    | _ => none
  if number.isEmpty then none else unit?.map fun unit => (unit * Numeral.ofDigits 10 number, marked)

/-- Options of which the old form is a number behind a dash. -/
def withOldCount (words : List String) : List String :=
  match words with
  | first :: rest =>
    match first.toList with
    | '-' :: c :: cs => if c.isDigit && cs.all Char.isDigit then "-n" :: String.ofList (c :: cs) :: rest
      else words
    | _ => words
  | [] => []

/-- Options of the tools that show one end of files. -/
def endOptions : OptionSet where
  flags := "qvf"
  valued := "nc"
  long := [("lines", 'n'), ("bytes", 'c'), ("quiet", 'q'), ("verbose", 'v')]

/-- Shows a part of each file, with headings if there are several. The end of the
input need not have been met if there is no need for it. -/
def showEnds (otherEnd : Char) (needsAll : Bool) (part : Bool → Nat × Bool → String → String) : Tool :=
  fun name words => withOptions endOptions (fun name words => do
    let inBytes := (words.options.find? fun o => o.1 = 'n' || o.1 = 'c').any (·.1 = 'c')
    let text := (words.value? (if inBytes then 'c' else 'n')).getD "10"
    match quantity? text otherEnd with
    | none =>
      let unit := if inBytes then "bytes" else "lines"
      refuse name s!"invalid number of {unit}: {Octets.quoted text}"
    | some quantity =>
      let files := inputs words.operands
      let headings := (1 < files.length || words.has 'v') && !words.has 'q'
      let (_, status) ← files.foldlM (fun (isFirst, status) file => do
        let heading : Run Unit := do
          if headings then
            let shown := if file = "-" then "standard input" else file
            Run.write ((if isFirst then "" else "\n") ++ s!"==> {shown} <==\n")
        if ← isEndless file then
          heading
          Run.write (if inBytes then String.ofList (List.replicate quantity.1 '\x00') else manyZeros)
          if !inBytes then throw .endless
          return (false, status)
        match ← readable file (atLength name file) with
        | none => return (isFirst, 1)
        | some content =>
          heading
          let shown := part inBytes quantity content
          if file = "-" && !needsAll && shown.length < content.length then
            modify fun m => m.doubtEnd 0
          Run.write shown
          return (false, status)) (true, 0)
      return status) name (withOldCount words)

/-- Writes the first lines or bytes, or all but the last. -/
def head : Tool := showEnds '-' false fun inBytes (count, otherEnd) content =>
  if inBytes then
    let size := content.length
    String.ofList (content.toList.take (if otherEnd then size - count else count))
  else
    let lines := linesOf content
    String.join (lines.take (if otherEnd then lines.length - count else count))

/-- Writes the last lines or bytes, or all from one on. -/
def tail : Tool := showEnds '+' true fun inBytes (count, otherEnd) content =>
  if inBytes then
    let size := content.length
    String.ofList (content.toList.drop (if otherEnd then count - 1 else size - count))
  else
    let lines := linesOf content
    String.join (lines.drop (if otherEnd then count - 1 else lines.length - count))

/-- The words of a text. -/
def wordCount (text : String) : Nat :=
  (text.toList.foldl (fun (count, inside) c =>
    if Numeral.isBlank c then (count, false)
    else if Octets.isVisible c then (if inside then count else count + 1, true)
    else (count, inside)) ((0, false) : Nat × Bool)).1

/-- Counts lines, words and bytes. -/
def wc : Tool := withOptions { flags := "lwcmL" } fun name words => do
  let m ← get
  let wanted (letters : List Char) : Bool :=
    if words.options.isEmpty then !letters.contains 'm' && !letters.contains 'L'
    else letters.any words.has
  let counts (text : String) : List Nat := [
    text.toList.count '\n', wordCount text, text.length, text.length,
    (bareLines text).foldl (fun longest line => max longest line.length) 0]
  let pick (ns : List Nat) : List Nat :=
    (ns.zip [['l'], ['w'], ['m'], ['c'], ['L']]).filterMap fun (n, letters) =>
      if wanted letters then some n else none
  let files := inputs words.operands
  let size? (file : String) : Option Nat :=
    let stream? := if file = "-" then (m.stream? 0).map (·.2) else (m.source file).toOption
    stream?.bind fun
      | .file place _ _ => some (m.contentAt place).size
      | _ => none
  let isThere (file : String) : Bool := file = "-" || (m.source file).toOption.isSome
  let columns := (pick [0, 0, 0, 0, 0]).length
  let width :=
    if files.length = 1 && columns = 1 then 1
    else
      let there := files.filter isThere
      let sizes := there.map size?
      let total := sizes.foldl (fun total size => total + size.getD 0) 0
      max (toString total).length
        (if sizes.contains none && (files.head?.any isThere) then 7 else 1)
  let line (ns : List Nat) (label : String) : Run Unit := writeLine
    (" ".intercalate ((pick ns).map fun n => (⟨[], width, none⟩ : Format.Directive).fill s!"{n}") ++
      label)
  let labelOf (file : String) : String :=
    if words.operands.isEmpty then "" else " " ++ file
  let (total, status) ← files.foldlM (fun (total, status) file => do
    match ← Run.contentOf file with
    | .ok content =>
      line (counts content) (labelOf file)
      return (List.zipWith (· + ·) total (counts content), status)
    | .error fault =>
      Run.complain (shortly name file fault)
      match fault with
      | .isDirectory _ => line [0, 0, 0, 0, 0] (labelOf file)
      | _ => pure ()
      return (total, 1)) ([0, 0, 0, 0, 0], 0)
  if 1 < files.length then line total " total"
  return status

/-- Writes the lines of files in reverse. -/
def tac : Tool := withOptions {} fun name words =>
  forEach (inputs words.operands) fun file => do
    let complaint (fault : FileFault) : String := match fault with
      | .isDirectory _ => s!"{name}: {Octets.shown file}: read error: Is a directory"
      | fault => s!"{name}: failed to open {Octets.quoted file} for reading: {fault.reason}"
    match ← readable file complaint with
    | some content =>
      Run.write (String.join (linesOf content).reverse)
      return 0
    | none => return 1

/-- Writes each line of files in reverse. -/
def rev : Tool := withOptions {} fun name words =>
  forEach (inputs words.operands) fun file => do
    match ← readable file fun fault => s!"{name}: cannot open {file}: {fault.reason}" with
    | some content =>
      for line in linesOf content do
        let stop := if line.endsWith "\n" then "\n" else ""
        Run.write (String.ofList (bare line).toList.reverse ++ stop)
      return 0
    | none => return 1

/-- Runs of equal elements. -/
def grouped (same : String → String → Bool) : List String → List (List String)
  | [] => []
  | line :: rest =>
    match grouped same rest with
    | (next :: group) :: groups =>
      if same line next then (line :: next :: group) :: groups else [line] :: (next :: group) :: groups
    | groups => [line] :: groups

/-- Leaves out repeated lines, or shows how often they are repeated. -/
def uniq : Tool := withOptions { flags := "cdui" } fun name words => do
  let file := words.operands.headD "-"
  match ← readable file (shortly name file) with
  | none => return 1
  | some content =>
    let fold (line : String) : String := if words.has 'i' then line.toLower else line
    for group in grouped (fun a b => fold a = fold b) (bareLines content) do
      let count := group.length
      if (!words.has 'd' || 1 < count) && (!words.has 'u' || count = 1) then
        let label := if words.has 'c' then (⟨[], 7, none⟩ : Format.Directive).fill s!"{count}" ++ " "
          else ""
        writeLine (label ++ group.headD "")
    return 0

/-- The number a line begins with, in thousandths. -/
def leadingNumber (line : String) : Int :=
  let cs := line.toList.dropWhile fun c => c = ' ' || c = '\t'
  let (negative, cs) := match cs with
    | '-' :: rest => (true, rest)
    | cs => (false, cs)
  let whole := cs.takeWhile Char.isDigit
  let places := match cs.drop whole.length with
    | '.' :: more => more.takeWhile Char.isDigit
    | _ => []
  let n : Int := Numeral.ofDigits 10 (whole ++ ((places ++ List.replicate 9 '0').take 9))
  if negative then -n else n

/-- The fields of a line from one to another, counted from one. -/
def fieldsBetween (separator : Option Char) (first : Nat) (last : Option Nat) (line : String) :
    String :=
  match separator with
  | some c =>
    let fields := (Text.splitAtEach c line.toList).map String.ofList
    let fields := (match last with
      | some n => fields.take n
      | none => fields).drop (first - 1)
    (String.singleton c).intercalate fields
  | none =>
    -- fields begin with the blanks in front of them
    let isBlank (c : Char) : Bool := c = ' ' || c = '\t'
    let fields := (line.toList.foldl (fun (done, field, wasBlank) c =>
      if isBlank c && !wasBlank && !field.isEmpty then (done ++ [field], [c], true)
      else (done, field ++ [c], isBlank c))
      (([], [], true) : List (List Char) × List Char × Bool))
    let fields := fields.1 ++ [fields.2.1]
    let fields := (match last with
      | some n => fields.take n
      | none => fields).drop (first - 1)
    String.ofList fields.flatten

def sortOptions : OptionSet where
  flags := "nrufbs"
  valued := "kto"
  failure := 2
  long := [("numeric-sort", 'n'), ("reverse", 'r'), ("unique", 'u')]

/-- Sorts lines by their bytes, or as the options say. -/
def sort : Tool := withOptions sortOptions fun name words => do
  let contents ← (inputs words.operands).mapM fun file =>
    readable file fun fault => match fault with
      | .isDirectory _ => s!"{name}: read failed: {Octets.shown file}: Is a directory"
      | fault => s!"{name}: cannot read: {Octets.shown file}: {fault.reason}"
  if contents.contains none then return 2
  let lines := contents.flatMap fun content => bareLines (content.getD "")
  let key? := (words.value? 'k').map fun key =>
    let number (cs : List Char) : Nat := Numeral.ofDigits 10 (cs.takeWhile Char.isDigit)
    let letters := key.toList.filter Char.isAlpha
    match Text.splitAtEach ',' key.toList with
    | first :: last :: _ => (number first, some (number last), letters)
    | first :: _ => (number first, none, letters)
    | [] => (1, none, letters)
  let has (letter : Char) : Bool := words.has letter || key?.any fun k => k.2.2.contains letter
  let separator := ((words.value? 't').bind (·.toList.head?))
  let keyOf (line : String) : String := match key? with
    | some (first, last, _) => fieldsBetween separator first last line
    | none => line
  let fold (line : String) : String := if has 'f' then line.toUpper else line
  let atMost (a b : String) : Bool :=
    if has 'n' then leadingNumber a ≤ leadingNumber b else decide (fold a ≤ fold b)
  let same (a b : String) : Bool := atMost a b && atMost b a
  let ordered (a b : String) : Bool :=
    let (x, y) := (keyOf a, keyOf b)
    if same x y then
      if words.has 'u' || words.has 's' then true
      else if words.has 'r' then decide (b ≤ a) else decide (a ≤ b)
    else if has 'r' then atMost y x else atMost x y
  let sorted := lines.mergeSort ordered
  let sorted := if words.has 'u' then
      (grouped (fun a b => same (keyOf a) (keyOf b)) sorted).map fun group => group.headD ""
    else sorted
  match words.value? 'o' with
  | none =>
    sorted.forM writeLine
    return 0
  | some file =>
    match (← get).target file false with
    | .ok (m, .file place _ _) =>
      let content := Octets.toBytes (String.join (sorted.map (· ++ "\n")))
      set { m with tree := { m.tree with root := m.tree.root.set place (.file content) } }
      return 0
    | .ok _ => return 0
    | .error fault =>
      Run.complain s!"{name}: open failed: {file}: {fault.reason}"
      return 2

/-- The bounds of a list of numbers and ranges; one may be open at an end. -/
def ranges? (text : String) : Option (List (Nat × Option Nat)) :=
  (Text.splitAtEach ',' text.toList).mapM fun cs =>
    let isNumber (cs : List Char) : Bool := !cs.isEmpty && cs.all Char.isDigit
    let n (cs : List Char) : Nat := Numeral.ofDigits 10 cs
    match Text.splitAtEach '-' cs with
    | [one] => if isNumber one && 0 < n one then some (n one, some (n one)) else none
    | [first, last] =>
      if first.isEmpty && isNumber last then some (1, some (n last))
      else if isNumber first && last.isEmpty then some (n first, none)
      else if isNumber first && isNumber last && n first ≤ n last then some (n first, some (n last))
      else none
    | _ => none

def cutOptions : OptionSet where
  flags := "sn"
  valued := "fcbd"
  long := [("fields", 'f'), ("delimiter", 'd'), ("characters", 'c'), ("bytes", 'b')]

/-- Cuts fields or bytes out of lines. -/
def cut : Tool := withOptions cutOptions fun name words => do
  let list? := (words.options.find? fun o => "fcb".toList.contains o.1)
  let delimiter := (words.value? 'd').getD "\t"
  match list? with
  | none => misused name "you must specify a list of bytes, characters, or fields" 1
  | some (kind, list) =>
    match ranges? list, delimiter.toList with
    | none, _ =>
      let what := if kind = 'f' then "field value" else "byte or character position"
      misused name s!"invalid {what} {Octets.named list}" 1
    | some ranges, [mark] =>
      let chosen (i : Nat) : Bool := ranges.any fun (a, b) => a ≤ i + 1 && b.all (i + 1 ≤ ·)
      let pick {α : Type} (parts : List α) : List α :=
        (parts.zipIdx.filter fun (_, i) => chosen i).map (·.1)
      forEach (inputs words.operands) fun file => do
        match ← readable file (shortly name file) with
        | none => return 1
        | some content =>
          for line in bareLines content do
            if kind = 'f' then
              let fields := Text.splitAtEach mark line.toList
              if fields.length = 1 then
                if !words.has 's' then writeLine line
              else writeLine (delimiter.intercalate ((pick fields).map String.ofList))
            else writeLine (String.ofList (pick line.toList))
          return 0
    | _, _ => misused name "the delimiter must be a single character" 1

/-- Writes the input to the output and to files. -/
def tee : Tool := withOptions { flags := "ai" } fun name words => do
  let text ← Run.readAll
  Run.write text
  forEach words.operands fun file => do
    match (← get).target file (words.has 'a') with
    | .error fault => refuse name (s!"{Octets.shown file}: {fault.reason}")
    | .ok (m, .file place _ _) =>
      let content := m.contentAt place ++ Octets.toBytes text
      set { m with tree := { m.tree with root := m.tree.root.set place (.file content) } }
      return 0
    | .ok _ => return 0

/-- The bytes that a set of characters stands for. -/
def charactersFrom : Nat → List Char → Except String (List Char)
  | 0, _ | _, [] => .ok []
  | fuel + 1, '[' :: ':' :: cs => do
    let name := cs.takeWhile (· ≠ ':')
    match cs.drop name.length, Pattern.classes.lookup (String.ofList name) with
    | ':' :: ']' :: rest, some ranges =>
      let members := ranges.flatMap fun (a, b) =>
        (List.range (b.toNat + 1 - a.toNat)).map fun i => Char.ofNat (a.toNat + i)
      return members ++ (← charactersFrom fuel rest)
    | ':' :: ']' :: _, none => .error s!"invalid character class {Octets.named (String.ofList name)}"
    | _, _ => return '[' :: (← charactersFrom fuel (':' :: cs))
  | fuel + 1, cs => do
    let one (cs : List Char) : Char × List Char := match cs with
      | '\\' :: rest =>
        match Format.escape .echoTool false rest with
        | .ok (text, after) =>
          if text.length = 1 then (text.toList.headD '\\', after)
          else (rest.headD '\\', rest.tail)
        | .error _ => ('c', rest.tail)
      | c :: rest => (c, rest)
      | [] => ('\x00', [])
    let (first, rest) := one cs
    match rest with
    | '-' :: c :: more =>
      let (last, after) := one (c :: more)
      if last < first then
        .error (s!"range-endpoints of '{first}-{last}' are in reverse collating sequence order")
      else
        let members := (List.range (last.toNat + 1 - first.toNat)).map fun i =>
          Char.ofNat (first.toNat + i)
        return members ++ (← charactersFrom fuel after)
    | rest => return first :: (← charactersFrom fuel rest)

/-- Replaces bytes of the input by others, deletes them or leaves one of several. -/
def tr : Tool := withOptions { flags := "dscCt", ordered := true } fun name words => do
  let deletes := words.has 'd'
  let squeezes := words.has 's'
  let setOf (text : String) := charactersFrom (text.length + 1) text.toList
  let squeezed (set text : List Char) : List Char :=
    (text.foldl (fun done c => if set.contains c && done.head? = some c then done else c :: done)
      []).reverse
  let ofFirst (set : List Char) : List Char :=
    if words.has 'c' || words.has 'C' then
      ((List.range 256).map Char.ofNat).filter fun c => !set.contains c
    else set
  match words.operands with
  | [] => misused name "missing operand" 1
  | first :: others =>
    match setOf first, others with
    | .error complaint, _ => refuse name complaint
    | .ok _, _ :: _ :: _ =>
      misused name ("extra operand " ++ Octets.quoted (others.getD 1 "")) 1
    | .ok set, [] =>
      if !deletes && !squeezes then
        Run.complain s!"{name}: missing operand after {Octets.quoted first}"
        Run.complain "Two strings must be given when translating."
        Run.complain s!"Try '{name} --help' for more information."
        return 1
      let set := ofFirst set
      let text ← Run.readAll
      let kept := if deletes then text.toList.filter (!set.contains ·) else squeezed set text.toList
      Run.write (String.ofList kept)
      return 0
    | .ok set, [second] =>
      match setOf second with
      | .error complaint => refuse name complaint
      | .ok [] => refuse name "when not truncating set1, string2 must be non-empty"
      | .ok new =>
        let set := ofFirst set
        let text ← Run.readAll
        if deletes then
          Run.write (String.ofList (squeezed new (text.toList.filter (!set.contains ·))))
          return 0
        let pairs := (set.zipIdx.map fun (c, i) => (c, (new[i]?.or new.getLast?).getD c)).reverse
        let changed := text.toList.map fun c => (pairs.lookup c).getD c
        Run.write (String.ofList (if squeezes then squeezed new changed else changed))
        return 0

/-- Writes the same line again and again. -/
def yes : Tool := withOptions {} fun _ words => do
  let line := (if words.operands.isEmpty then "y" else " ".intercalate words.operands) ++ "\n"
  Run.write (String.join (List.replicate (262144 / line.length + 1) line))
  throw .endless

/-- Counts from one number to another, a line each. -/
def seq : Tool := withOptions { flags := "w", valued := "s", ordered := true } fun name words => do
  let separator := (words.value? 's').getD "\n"
  let number (text : String) : Except String Int := match Numeral.whole? 10 text with
    | some n => .ok n
    | none => .error text
  match words.operands with
  | [] => misused name "missing operand" 1
  | _ :: _ :: _ :: extra :: _ => misused name s!"extra operand {Octets.quoted extra}" 1
  | operands =>
    match operands.mapM number with
    | .error text => misused name s!"invalid floating point argument: {Octets.quoted text}" 1
    | .ok ns =>
      let (first, step, last) : Int × Int × Int := match ns with
        | [last] => (1, 1, last)
        | [first, last] => (first, 1, last)
        | first :: step :: last :: _ => (first, step, last)
        | [] => (1, 1, 0)
      if step = 0 then
        misused name ("invalid Zero increment value: " ++ Octets.quoted (operands.getD 1 "")) 1
      else
        let count := (Int.fdiv (last - first) step + 1).toNat
        let texts := (List.range count).map fun (i : Nat) => toString (first + step * (i : Int))
        let width := if words.has 'w' then
            (texts ++ [toString first, toString last]).foldl (fun w t => max w t.length) 0 else 0
        let padded := texts.map fun t => (⟨['0'], width, none⟩ : Format.Directive).fillNumber true
          (if t.startsWith "-" then "-" else "") (String.ofList (t.toList.dropWhile (· = '-')))
        if !padded.isEmpty then Run.write (separator.intercalate padded ++ "\n")
        return 0

end PullReview.Rehearsal.Tool
