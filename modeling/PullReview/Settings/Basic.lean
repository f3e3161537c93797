import PullReview.Environment
import PullReview.Report.Markdown
import PullReview.Scope
import PullReview.Settings.Fields
import PullReview.Url.BaseUrl

/-!
# Settings

The settings of a run are read from the environment. Reading stops at the first
variable that cannot be read; values that are read but not allowed are reported
together, in the order of the fields. Settings are read once and kept; a failed
reading keeps nothing.
-/

namespace PullReview

structure Settings where
  baseUrl : String
  token : Option String
  appId : Option Int
  privateKey : Option String
  installationId : Option Int
  repository : Option String
  eventPath : Option Path
  workspace : Path
  scope : Scope
  groupGap : Int
  maxRetries : Int
  backoff : Double
  typeCheckCommand : List String
  lintCommand : List String
  postComments : Bool

/-- What an app needs to act on a repository. -/
structure AppCredentials where
  appId : Int
  privateKey : String
  installationId : Int

/-- How the program gets its token. -/
inductive Access where
  | token (token : String)
  | app (credentials : AppCredentials)

namespace Settings

/-- The base address without slashes at its end. -/
def apiRoot (s : Settings) : String :=
  String.ofList ((s.baseUrl.toList.reverse.dropWhile (· = '/')).reverse)

/-- The credentials of the app; all three of them are needed. -/
def appCredentials (s : Settings) : Except Fault AppCredentials :=
  match s.appId, s.privateKey.filter (· ≠ ""), s.installationId with
  | some id, some key, some installation => .ok ⟨id, key, installation⟩
  | id, key, installation =>
    .error (.settings (.noAccess (
      (if id.isNone then ["GITHUB_APP_ID"] else []) ++
      (if key.isNone then ["GITHUB_PRIVATE_KEY"] else []) ++
      (if installation.isNone then ["GITHUB_INSTALLATION_ID"] else []))))

/-- A token that is given outright wins over the app. -/
def access (s : Settings) : Except Fault Access :=
  match s.token.filter (· ≠ "") with
  | some token => .ok (.token token)
  | none => return .app (← s.appCredentials)

/-- The values as read, not yet checked. -/
structure Draft where
  baseUrl : String
  appId : Option Int
  installationId : Option Int
  typeCheckCommand : List String
  lintCommand : List String
  groupGap : Int
  maxRetries : Int
  backoff : String

/-- The variables that may fail to be read, in the order of their reading. -/
def draft (env : Environment) : Except Fault Draft := do
  let appId ← readWhole "GITHUB_APP_ID" (env.value? "GITHUB_APP_ID")
  let installationId ← readWhole "GITHUB_INSTALLATION_ID" (env.value? "GITHUB_INSTALLATION_ID")
  let typeCheck ← readCommand (env.value? "PR_QUALITY_TSC_COMMAND") ["npx", "--no-install", "tsc"]
  let lint ← readCommand (env.value? "PR_QUALITY_ESLINT_COMMAND") ["npx", "--no-install", "eslint"]
  let gap ← readWhole "PR_QUALITY_GROUP_GAP" (env.value? "PR_QUALITY_GROUP_GAP")
  let retries ← readWhole "PR_QUALITY_HTTP_RETRIES" (env.value? "PR_QUALITY_HTTP_RETRIES")
  return {
    baseUrl := (env.nonEmpty? "GITHUB_API_URL").getD "https://api.github.com"
    appId := appId
    installationId := installationId
    typeCheckCommand := typeCheck
    lintCommand := lint
    groupGap := gap.getD defaultGap
    maxRetries := retries.getD 3
    backoff := (env.nonEmpty? "PR_QUALITY_HTTP_BACKOFF").getD "1.0" }

/-- A number of seconds that is at least zero; the undefined one is not. -/
def backoff? (raw : String) : Option Double := (readSeconds raw).filter (·.isNonnegative)

/-- The settings of an environment; `here` is the working directory. -/
def ofEnvironment (env : Environment) (here : Path) : Except Fault Settings := do
  let d ← draft env
  let baseUrl := Url.normal? d.baseUrl
  let backoff := backoff? d.backoff
  let invalid :=
    (if baseUrl.isNone then ["github_api_base_url"] else []) ++
    (if d.groupGap < 0 then ["group_line_gap"] else []) ++
    (if d.maxRetries < 0 then ["http_max_retries"] else []) ++
    (if backoff.isNone then ["http_backoff_seconds"] else [])
  match baseUrl, backoff, invalid with
  | some baseUrl, some backoff, [] =>
    let scope : Scope := {}
    let workspace :=
      (env.nonEmpty? "PR_QUALITY_WORKSPACE").or (env.nonEmpty? "GITHUB_WORKSPACE")
    return {
      baseUrl := baseUrl
      token := env.nonEmpty? "GITHUB_TOKEN"
      appId := d.appId
      privateKey := env.nonEmpty? "GITHUB_PRIVATE_KEY"
      installationId := d.installationId
      repository := env.nonEmpty? "GITHUB_REPOSITORY"
      eventPath := (env.nonEmpty? "GITHUB_EVENT_PATH").map .ofString
      workspace := (workspace.map Path.ofString).getD here
      scope := {
        extensions := readList (env.value? "PR_QUALITY_EXTENSIONS") scope.extensions
        excludedDirs := readList (env.value? "PR_QUALITY_EXCLUDED_DIRS") scope.excludedDirs }
      groupGap := d.groupGap
      maxRetries := d.maxRetries
      backoff := backoff
      typeCheckCommand := d.typeCheckCommand
      lintCommand := d.lintCommand
      postComments := readFlag (env.value? "PR_QUALITY_POST_COMMENTS") true }
  | _, _, _ => throw (.settings (.invalidFields invalid))

end Settings

/-- The settings that are kept, and how often they have been read. -/
structure SettingsCache where
  kept : Option Settings := none
  readings : Nat := 0

namespace SettingsCache

/-- The kept settings; read from the environment if there are none. -/
def get (c : SettingsCache) (env : Environment) (here : Path) :
    Except Fault Settings × SettingsCache :=
  match c.kept with
  | some s => (.ok s, c)
  | none =>
    match Settings.ofEnvironment env here with
    | .ok s => (.ok s, ⟨some s, c.readings + 1⟩)
    | .error fault => (.error fault, c)

/-- Forgets the kept settings. -/
def clear (c : SettingsCache) : SettingsCache := { c with kept := none }

end SettingsCache

end PullReview
