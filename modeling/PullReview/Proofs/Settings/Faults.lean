import PullReview.Proofs.Settings.Words
import PullReview.Settings.Basic

/-!
# How reading the settings fails

Settings are read from the environment once, and kept. If they cannot be read, nothing is kept
and the next call reads them again.

> `get_faults`: the fault is one of the settings, but for a command that is cut off. That one
> shows if the numbers that are read before it are fine.
-/

namespace PullReview

namespace Settings

variable {env : Environment} {here : Path}

/-- The variable is not set, or it is set to a whole number. -/
def HasNumber (env : Environment) (name : String) : Prop :=
  ∃ n, readWhole name (env.value? name) = .ok n

/-- The command in the variable is cut off, in a quote or behind a backslash. -/
def HasOpenCommand (env : Environment) (name : String) : Prop :=
  ∃ text, env.value? name = some text ∧ ¬ ShellWords.IsClosed text.toList

/-- A value is there, or a fault of the settings says why not. -/
inductive IsClean {α : Type} : Except Fault α → Prop
  | ok (a : α) : IsClean (.ok a)
  | refused (cause : SettingsFault) : IsClean (.error (.settings cause))

theorem IsClean.bind {α β : Type} {x : Except Fault α} {f : α → Except Fault β} (hx : IsClean x)
    (hf : ∀ a, x = .ok a → IsClean (f a)) : IsClean (x >>= f) := by
  cases hx with
  | ok a => exact hf a rfl
  | refused cause => exact .refused cause

/-! ## The variables -/

theorem isClean_readWhole (name : String) (raw : Option String) : IsClean (readWhole name raw) := by
  unfold readWhole
  split
  · exact .ok none
  · split
    · exact .ok none
    · split
      · exact .ok _
      · exact .refused _

/-- A blank command opens nothing. -/
theorem isClosed_of_allBlank {cs : List Char} (h : Text.allBlank cs = true) :
    ShellWords.IsClosed cs := by
  induction cs with
  | nil => exact .nil
  | cons c cs ih =>
    unfold Text.allBlank at h
    rw [List.all_cons, Bool.and_eq_true] at h
    refine .plain ?_ ?_ ?_ (ih h.2) <;> rintro rfl <;> exact absurd h.1 (by decide)

/-- There are words for a variable just if its command is not cut off. -/
theorem readCommand_hasWords (env : Environment) (name : String) (default : List String) :
    ShellWords.HasWords (¬ HasOpenCommand env name) (readCommand (env.value? name) default) := by
  unfold HasOpenCommand readCommand
  cases env.value? name with
  | none => exact ShellWords.hasWords_ok (by simp) default
  | some text =>
    have hopen : (¬ ∃ other, some text = some other ∧ ¬ ShellWords.IsClosed other.toList) ↔
        ShellWords.IsClosed text.toList := by
      simp
    dsimp only
    split
    · next hblank =>
      exact ShellWords.hasWords_ok (hopen.mpr (isClosed_of_allBlank hblank)) default
    · exact (ShellWords.ofText_hasWords text).congr hopen

theorem isClean_readCommand {name : String} (h : ¬ HasOpenCommand env name)
    (default : List String) : IsClean (readCommand (env.value? name) default) := by
  obtain ⟨words, hwords⟩ := (readCommand_hasWords env name default).ok h
  rw [hwords]
  exact .ok words

/-! ## All of them -/

/-- The numbers that are read before the commands. -/
def HasAppNumbers (env : Environment) : Prop :=
  HasNumber env "GITHUB_APP_ID" ∧ HasNumber env "GITHUB_INSTALLATION_ID"

/-- One of the two commands is cut off. -/
def HasOpenCommands (env : Environment) : Prop :=
  HasOpenCommand env "PR_QUALITY_TSC_COMMAND" ∨ HasOpenCommand env "PR_QUALITY_ESLINT_COMMAND"

/-- What is read before an open command, or without one, is clean. -/
theorem isClean_draft (h : HasAppNumbers env → ¬ HasOpenCommands env) : IsClean (draft env) := by
  refine (isClean_readWhole _ _).bind fun app happ => ?_
  refine (isClean_readWhole _ _).bind fun installation hinstallation => ?_
  have hclosed := h ⟨⟨app, happ⟩, installation, hinstallation⟩
  refine (isClean_readCommand (fun hopen => hclosed (Or.inl hopen)) _).bind fun _ _ => ?_
  refine (isClean_readCommand (fun hopen => hclosed (Or.inr hopen)) _).bind fun _ _ => ?_
  refine (isClean_readWhole _ _).bind fun _ _ => ?_
  exact (isClean_readWhole _ _).bind fun _ _ => .ok _

/-- An open command is a fault by itself. -/
theorem draft_cutOff (hnumbers : HasAppNumbers env) (hopen : HasOpenCommands env) :
    ∃ fault, draft env = .error fault ∧ ShellWords.IsCutOff fault := by
  obtain ⟨⟨app, happ⟩, installation, hinstallation⟩ := hnumbers
  have htsc := readCommand_hasWords env "PR_QUALITY_TSC_COMMAND" ["npx", "--no-install", "tsc"]
  have heslint := readCommand_hasWords env "PR_QUALITY_ESLINT_COMMAND"
    ["npx", "--no-install", "eslint"]
  unfold draft
  rw [happ, hinstallation]
  by_cases htscOpen : HasOpenCommand env "PR_QUALITY_TSC_COMMAND"
  · obtain ⟨fault, hfault, hcut⟩ := htsc.error fun h => h htscOpen
    exact ⟨fault, by rw [hfault]; rfl, hcut⟩
  · obtain ⟨words, hwords⟩ := htsc.ok htscOpen
    obtain ⟨fault, hfault, hcut⟩ := heslint.error fun h => h (hopen.resolve_left htscOpen)
    exact ⟨fault, by rw [hwords, hfault]; rfl, hcut⟩

theorem isClean_ofEnvironment (h : HasAppNumbers env → ¬ HasOpenCommands env) (here : Path) :
    IsClean (ofEnvironment env here) := by
  refine (isClean_draft h).bind fun d _ => ?_
  dsimp only
  split
  · exact .ok _
  · exact .refused _

theorem ofEnvironment_cutOff (hnumbers : HasAppNumbers env) (hopen : HasOpenCommands env)
    (here : Path) :
    ∃ fault, ofEnvironment env here = .error fault ∧ ShellWords.IsCutOff fault := by
  obtain ⟨fault, hfault, hcut⟩ := draft_cutOff hnumbers hopen
  exact ⟨fault, by unfold ofEnvironment; rw [hfault]; rfl, hcut⟩

/-- Only an open command has a fault that is none of the settings. -/
theorem ofEnvironment_error {fault : Fault} (h : ofEnvironment env here = .error fault) :
    (∃ cause, fault = .settings cause) ∨
      (HasAppNumbers env ∧ HasOpenCommands env) ∧ ShellWords.IsCutOff fault := by
  by_cases hopen : HasAppNumbers env ∧ HasOpenCommands env
  · obtain ⟨other, hother, hcut⟩ := ofEnvironment_cutOff hopen.1 hopen.2 here
    rw [h] at hother
    obtain rfl := Except.error.inj hother
    exact Or.inr ⟨hopen, hcut⟩
  · have hclean := isClean_ofEnvironment (fun hnumbers hcut => hopen ⟨hnumbers, hcut⟩) here
    rw [h] at hclean
    cases hclean with
    | refused cause => exact Or.inl ⟨cause, rfl⟩

end Settings

namespace SettingsCache

open Settings

theorem get_ok {c : SettingsCache} (hempty : c.kept = none) {env : Environment} {here : Path}
    {s : Settings} (h : ofEnvironment env here = .ok s) :
    c.get env here = (.ok s, ⟨some s, c.readings + 1⟩) := by
  unfold get
  rw [hempty, h]

/-- A fault leaves the cache as it was. -/
theorem get_error {c : SettingsCache} (hempty : c.kept = none) {env : Environment} {here : Path}
    {fault : Fault} (h : ofEnvironment env here = .error fault) :
    c.get env here = (.error fault, c) := by
  unfold get
  rw [hempty, h]

/-- What an empty cache answers is read from the environment. -/
theorem get_fst {c : SettingsCache} (hempty : c.kept = none) (env : Environment) (here : Path) :
    (c.get env here).1 = ofEnvironment env here := by
  cases h : ofEnvironment env here with
  | ok s => rw [get_ok hempty h]
  | error fault => rw [get_error hempty h]

/-- **How reading the settings fails.** Settings that are read by an empty cache are kept. A
fault leaves it empty, so that the next call reads its environment afresh. It is a fault of the
settings, but for a command that is cut off in a quote or behind a backslash, and this one comes
up just if the two numbers of the app can be read. -/
theorem get_faults (c : SettingsCache) (hempty : c.kept = none) (env : Environment) (here : Path) :
    (∀ s, (c.get env here).1 = .ok s → (c.get env here).2.kept = some s) ∧
    (∀ fault, (c.get env here).1 = .error fault →
      (c.get env here).2.kept = none ∧
      (∀ env' here', ((c.get env here).2.get env' here').1 = ofEnvironment env' here') ∧
      ((∃ cause, fault = .settings cause) ∨ ShellWords.IsCutOff fault)) ∧
    ((∃ fault, (c.get env here).1 = .error fault ∧ ∀ cause, fault ≠ .settings cause) ↔
      HasAppNumbers env ∧ HasOpenCommands env) := by
  refine ⟨fun s hs => ?_, fun fault hfault => ?_, ?_⟩
  · rw [get_fst hempty] at hs
    rw [get_ok hempty hs]
  · rw [get_fst hempty] at hfault
    rw [get_error hempty hfault]
    exact ⟨hempty, get_fst hempty, (ofEnvironment_error hfault).imp_right fun h => h.2⟩
  · rw [get_fst hempty]
    constructor
    · rintro ⟨fault, hfault, hnone⟩
      rcases ofEnvironment_error hfault with ⟨cause, rfl⟩ | ⟨hopen, -⟩
      · exact absurd rfl (hnone cause)
      · exact hopen
    · rintro ⟨hnumbers, hopen⟩
      obtain ⟨fault, hfault, hcut⟩ := ofEnvironment_cutOff hnumbers hopen here
      exact ⟨fault, hfault, hcut.ne_settings⟩

/-- A command with an apostrophe that is alone. -/
def openQuote : Environment := [("PR_QUALITY_TSC_COMMAND", "npx 'tsc")]

theorem hasOpenCommands_openQuote : HasAppNumbers openQuote ∧ HasOpenCommands openQuote := by
  refine ⟨⟨⟨none, rfl⟩, none, rfl⟩, Or.inl ⟨"npx 'tsc", rfl, fun hclosed => ?_⟩⟩
  obtain ⟨words, hwords⟩ := (ShellWords.ofText_hasWords "npx 'tsc").ok hclosed
  have hopen : ShellWords.ofText "npx 'tsc" = .error (.data .unclosedQuote) := rfl
  rw [hopen] at hwords
  exact absurd hwords (by simp)

theorem get_faults_openQuote :
    ∃ fault, (({} : SettingsCache).get openQuote (.absolute [])).1 = .error fault ∧
      ∀ env here, ((({} : SettingsCache).get openQuote (.absolute [])).2.get env here).1
        = ofEnvironment env here := by
  obtain ⟨-, hfaults, hcut⟩ := get_faults {} rfl openQuote (.absolute [])
  obtain ⟨fault, hfault, -⟩ := hcut.mpr hasOpenCommands_openQuote
  exact ⟨fault, hfault, (hfaults fault hfault).2.1⟩

/-- A fault that is none of the settings. -/
theorem get_openQuote : ∃ fault, (({} : SettingsCache).get openQuote (.absolute [])).1
    = .error fault ∧ ∀ cause, fault ≠ .settings cause := by
  obtain ⟨hnumbers, hopen⟩ := hasOpenCommands_openQuote
  obtain ⟨fault, hfault, hcut⟩ := ofEnvironment_cutOff hnumbers hopen (.absolute [])
  exact ⟨fault, (get_fst rfl openQuote (.absolute [])).trans hfault, hcut.ne_settings⟩

end SettingsCache

end PullReview
