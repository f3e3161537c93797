import PullReview.Changes.Scan
import PullReview.Proofs.Text.Lines
import PullReview.Proofs.Text.Printed

/-!
# The layout of a unified diff

A diff in git's layout is a list of file segments. Each begins with a title
line and some header lines; what follows tells whether the file's text changed
(old and new path, then hunks), whether it was deleted, whether it is binary, or
whether nothing but its name or mode changed. `Segment.lines` prints a segment,
and `Segment.newPath?` and `Hunk.Adds` say what it means: the file that it
touches and the numbers that its added lines have in the new file.

The layout fixes beginnings of lines only. All other text is free, and so are
the numbers in a hunk header, which need not agree with the hunk's body.
-/

namespace PullReview

open Text

/-- A line range of a hunk header: `start` or `start,count`. -/
structure HunkRange where
  start : DigitText
  count : Option DigitText

def HunkRange.chars (r : HunkRange) : List Char :=
  match r.count with
  | some count => r.start.chars ++ ',' :: count.chars
  | none => r.start.chars

/-- A line in the body of a hunk. -/
inductive BodyLine where
  | context (text : LineText)
  | added (text : LineText)
  | removed (text : LineText)
  /-- tells that the file ends without a line feed -/
  | remark (text : LineText)

namespace BodyLine

def chars : BodyLine → List Char
  | context text => ' ' :: text.chars
  | added text => '+' :: text.chars
  | removed text => '-' :: text.chars
  | remark text => '\\' :: text.chars

/-- Whether the line is one of the new file. -/
def isInNewFile : BodyLine → Bool
  | context _ | added _ => true
  | removed _ | remark _ => false

end BodyLine

/-- The header of a hunk: the ranges of its lines in the old file and in the new
one, and any text behind them. -/
def hunkHeader (old new : HunkRange) (heading : List Char) : List Char :=
  "@@ -".toList ++ (old.chars ++ (" +".toList ++ (new.chars ++ (" @@".toList ++ heading))))

structure Hunk where
  old : HunkRange
  new : HunkRange
  /-- what stands behind the ranges -/
  heading : LineText
  body : List BodyLine

namespace Hunk

def header (h : Hunk) : List Char := hunkHeader h.old h.new h.heading.chars

def lines (h : Hunk) : List (List Char) := h.header :: h.body.map BodyLine.chars

end Hunk

/-- Numbers of added lines: line `n` is added by `body` if it stands there with
`n - start` lines of the new file in front. -/
def AddedIn (start : Nat) (body : List BodyLine) (n : Nat) : Prop :=
  ∃ before text after, body = before ++ BodyLine.added text :: after ∧
    n = start + before.countP BodyLine.isInNewFile

/-- Whether a hunk adds line `n` of the new file. -/
def Hunk.Adds (h : Hunk) (n : Nat) : Prop := AddedIn h.new.start.value h.body n

/-- A header line, about the mode, the name or the content of the file. It does
not look like the line of a new path. -/
structure HeaderLine extends LineText where
  noPath : ¬ "+++ b/".toList <+: chars

/-- A path that keeps within a line. -/
structure LinePath where
  text : String
  noFeed : '\n' ∉ text.toList
  noReturn : '\r' ∉ text.toList

/-- What a segment says about its file. -/
inductive SegmentContent where
  | changed (old : LineText) (path : LinePath) (hunks : List Hunk)
  | deleted (old : LineText) (hunks : List Hunk)
  | binary (names : LineText)
  | headerOnly

/-- The part of a diff on one file. -/
structure Segment where
  title : LineText
  header : List HeaderLine
  content : SegmentContent

namespace SegmentContent

def lines : SegmentContent → List (List Char)
  | changed old path hunks =>
    ("--- ".toList ++ old.chars) :: ("+++ b/".toList ++ path.text.toList)
      :: hunks.flatMap Hunk.lines
  | deleted old hunks =>
    ("--- ".toList ++ old.chars) :: "+++ /dev/null".toList :: hunks.flatMap Hunk.lines
  | binary names => ["Binary files".toList ++ names.chars]
  | headerOnly => []

/-- The path of a file whose text changed. -/
def newPath? : SegmentContent → Option String
  | changed _ path _ => some path.text
  | _ => none

def hunks : SegmentContent → List Hunk
  | changed _ _ hunks | deleted _ hunks => hunks
  | _ => []

end SegmentContent

namespace Segment

def lines (s : Segment) : List (List Char) :=
  ("diff --git".toList ++ s.title.chars) :: (s.header.map (·.chars) ++ s.content.lines)

def newPath? (s : Segment) : Option String := s.content.newPath?

def hunks (s : Segment) : List Hunk := s.content.hunks

end Segment

/-- The text of a diff. -/
def diffText (eol : LineEnd) (segments : List Segment) : String :=
  String.ofList (printed eol (segments.flatMap Segment.lines))

/-- No added line of the hunk reads like the line of a new path. -/
def Hunk.Plain (h : Hunk) : Prop :=
  ∀ text, BodyLine.added text ∈ h.body → ¬ "++ b/".toList <+: text.chars

/-- The first new line number of the hunk has no more digits than are read. -/
def Hunk.Short (h : Hunk) : Prop := h.new.start.chars.length ≤ Numeral.maxDigits

/-! ## No printed line is broken -/

theorem HunkRange.feed_not_mem (r : HunkRange) : '\n' ∉ r.chars := by
  have hstart := r.start.feed_not_mem
  unfold HunkRange.chars
  split
  · next count _ =>
    have hcount := count.feed_not_mem
    simp [hstart, hcount]
  · exact hstart

theorem BodyLine.feed_not_mem (l : BodyLine) : '\n' ∉ l.chars := by
  cases l with
  | context text => simp [BodyLine.chars, text.unbroken]
  | added text => simp [BodyLine.chars, text.unbroken]
  | removed text => simp [BodyLine.chars, text.unbroken]
  | remark text => simp [BodyLine.chars, text.unbroken]

theorem Hunk.header_feed_not_mem (h : Hunk) : '\n' ∉ h.header := by
  simp [Hunk.header, hunkHeader, h.old.feed_not_mem, h.new.feed_not_mem, h.heading.unbroken]

theorem Hunk.lines_unbroken (h : Hunk) : ∀ l ∈ h.lines, '\n' ∉ l := by
  intro l hl
  rcases List.mem_cons.mp hl with rfl | hbody
  · exact h.header_feed_not_mem
  · obtain ⟨line, _, rfl⟩ := List.mem_map.mp hbody
    exact line.feed_not_mem

theorem hunkLines_unbroken (hunks : List Hunk) : ∀ l ∈ hunks.flatMap Hunk.lines, '\n' ∉ l := by
  intro l hl
  obtain ⟨h, _, hmem⟩ := List.mem_flatMap.mp hl
  exact h.lines_unbroken l hmem

theorem SegmentContent.lines_unbroken (c : SegmentContent) : ∀ l ∈ c.lines, '\n' ∉ l := by
  intro l hl
  cases c with
  | changed old path hunks =>
    rcases List.mem_cons.mp hl with rfl | hl
    · simp [old.unbroken]
    · rcases List.mem_cons.mp hl with rfl | hl
      · simp [path.noFeed]
      · exact hunkLines_unbroken hunks l hl
  | deleted old hunks =>
    rcases List.mem_cons.mp hl with rfl | hl
    · simp [old.unbroken]
    · rcases List.mem_cons.mp hl with rfl | hl
      · decide
      · exact hunkLines_unbroken hunks l hl
  | binary names =>
    have he : l = "Binary files".toList ++ names.chars := List.mem_singleton.mp hl
    simp [he, names.unbroken]
  | headerOnly => exact absurd hl (List.not_mem_nil)

theorem Segment.lines_unbroken (s : Segment) : ∀ l ∈ s.lines, '\n' ∉ l := by
  intro l hl
  rcases List.mem_cons.mp hl with rfl | hl
  · simp [s.title.unbroken]
  · rcases List.mem_append.mp hl with hheader | hcontent
    · obtain ⟨line, _, rfl⟩ := List.mem_map.mp hheader
      exact line.unbroken
    · exact s.content.lines_unbroken l hcontent

/-- The lines read from a printed diff: what is received of each printed one,
and an empty line. -/
theorem unixLines_diffText (eol : LineEnd) (segments : List Segment) :
    unixLines (diffText eol segments).toList
      = (segments.flatMap Segment.lines).map eol.received ++ [[]] := by
  unfold diffText
  rw [String.toList_ofList]
  apply unixLines_printed
  intro l hl
  obtain ⟨s, _, hmem⟩ := List.mem_flatMap.mp hl
  exact s.lines_unbroken l hmem

end PullReview
