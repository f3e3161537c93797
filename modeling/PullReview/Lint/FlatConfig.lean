import PullReview.Json.Writer
import PullReview.Text.Lines

/-!
# Writing a flat configuration

A rule set is written as a module in the flat format: the plugins are imported
under numbered names, and one entry binds them, sets the parser if there is
one, and lists the rules. There is no such module for a rule set with values that
cannot be written.
-/

namespace PullReview

open Text

structure RuleSet where
  label : String
  /-- names and modules -/
  plugins : List (String × String)
  /-- names and levels -/
  rules : List (String × Json)
  parser : Option String := none
  parserOptions : Option (List (String × Json)) := none

namespace RuleSet

/-- Rules that need no types. -/
def base : RuleSet where
  label := "base rules"
  plugins := [("react-hooks", "eslint-plugin-react-hooks"), ("promise", "eslint-plugin-promise")]
  rules := [
    ("react-hooks/rules-of-hooks", .str "error"),
    ("react-hooks/exhaustive-deps", .str "error"),
    ("no-async-promise-executor", .str "error"),
    ("no-unreachable", .str "error"),
    ("no-unsafe-finally", .str "error"),
    ("no-undef", .str "error"),
    ("promise/always-return", .str "error")]

/-- Rules that need types. -/
def typeAware : RuleSet where
  label := "type-aware rules"
  plugins := [("@typescript-eslint", "@typescript-eslint/eslint-plugin")]
  rules := [
    ("@typescript-eslint/no-floating-promises", .str "error"),
    ("@typescript-eslint/no-misused-promises", .str "error")]
  parser := some "@typescript-eslint/parser"
  parserOptions := some [("project", .bool true)]

/-- The parser, if its name is not empty. -/
def parser? (r : RuleSet) : Option String := r.parser.filter (· ≠ "")

/-- The name that a plugin is imported under. -/
def binding (index : Nat) : String := s!"plugin{index}"

/-- The import lines, plugins first. -/
def importLines (r : RuleSet) : List String :=
  (r.plugins.zipIdx.map fun ((_, source), i) =>
    s!"import {binding i} from {Json.writeString source};") ++
  (match r.parser? with
    | some source => [s!"import parser from {Json.writeString source};"]
    | none => [])

/-- The lines of the one configuration entry. -/
def entryLines (r : RuleSet) : List String :=
  let bindings := r.plugins.zipIdx.map fun ((name, _), i) =>
    s!"{Json.writeString name}: {binding i}"
  let plugins := join ", " bindings
  let rules := Json.write (.obj r.rules)
  [s!"    plugins: \x7b {plugins} \x7d,"] ++
  (match r.parser? with
    | some _ =>
      let options := Json.write (.obj (r.parserOptions.getD []))
      [s!"    languageOptions: \x7b parser, parserOptions: {options} \x7d,"]
    | none => []) ++
  [s!"    rules: {rules},"]

/-- The lines of the module. -/
def lines (r : RuleSet) : List String :=
  r.importLines ++ ["", "export default [", "  \x7b"] ++ r.entryLines ++ ["  \x7d,", "];"]

/-- The text of the module, each line ended by a line feed. -/
def render (r : RuleSet) : String := join "\n" r.lines ++ "\n"

/-- What writing a rule set comes upon first that it cannot write. -/
def flaw? (r : RuleSet) (depth : Nat) : Option Json.WriteFault :=
  let inOptions := r.parser?.bind fun _ =>
    (Json.obj (r.parserOptions.getD [])).flaw? (depth + 1)
  inOptions.or ((Json.obj r.rules).flaw? (depth + 1))

/-- The text of the module for a rule set that can be written. Values may be nested
`depth` deep inside the outermost one. -/
def renderWithin (depth : Nat) (r : RuleSet) : Except Json.WriteFault String :=
  match r.flaw? depth with
  | some flaw => .error flaw
  | none => .ok r.render

/-- The built-in rules can always be written. -/
theorem renderWithin_base (depth : Nat) : base.renderWithin depth = .ok base.render := by
  have hrules : (Json.obj base.rules).flaw? (depth + 1) = none := by
    simp only [base, Json.flaw?, Json.flawInside?, Option.or_none]
  have hflaw : base.flaw? depth = none := by
    rw [flaw?, hrules]
    rfl
  rw [renderWithin, hflaw]

theorem renderWithin_typeAware (depth : Nat) :
    typeAware.renderWithin depth = .ok typeAware.render := by
  have hoptions : (Json.obj (typeAware.parserOptions.getD [])).flaw? (depth + 1) = none := by
    simp only [typeAware, Option.getD_some, Json.flaw?, Json.flawInside?, Option.or_none]
  have hrules : (Json.obj typeAware.rules).flaw? (depth + 1) = none := by
    simp only [typeAware, Json.flaw?, Json.flawInside?, Option.or_none]
  have hflaw : typeAware.flaw? depth = none := by
    rw [flaw?, hrules, hoptions, Option.bind_fun_none]
    rfl
  rw [renderWithin, hflaw]

end RuleSet

end PullReview
