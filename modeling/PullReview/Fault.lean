import PullReview.Compression.Bits
import PullReview.Json.Reader
import PullReview.Json.Writer
import PullReview.Text.Encoding.Named
import PullReview.Tree.Walk

/-!
# Faults

What can go wrong, by cause; `Fault.message` words each of them. Faults of the
surroundings (a program that cannot be started, a server that cannot be
reached) are sorted into families by what the review does about them.
-/

namespace PullReview

/-- Why the diff between two revisions is missing. -/
inductive DiffFault where
  | gitMissing
  | gitFailed (subcommand : String) (code : Int) (stderr : String)

/-- Why the report of a linter run is missing. -/
inductive LintFault where
  | crashed (code : Int) (stderr : String)
  | notJson (code : Int) (stderr : String)
  | notAList

/-- A refusal by the code host, or by the way to it (status 0). -/
structure ApiFault where
  message : String
  status : Int
  body : Json

/-- Why there are no settings. -/
inductive SettingsFault where
  | notAnInteger (variableName : String)
  | invalidFields (fields : List String)
  | noAccess (missing : List String)

/-- Why a run has no pull request to look at. -/
inductive ContextFault where
  | noRevisions
  | badNumber (raw : Json)
  | noNumber
  | noRepository

/-- Values that cannot be used where they stand. -/
inductive DataFault where
  | badNumeral (raw : String)
  | longNumeral (digits : Nat)
  | badDelay (raw : String)
  | unclosedQuote
  | nothingEscaped
  | badRepository (fullName : String)
  | unknownLevel (name : String)
  | badTimestamp (raw : String)
  | noNumberInNan
  | noScheme (address : String)
  /-- a word for the system holds the byte that ends words -/
  | endOfWord
  | badVariableName

/-- Values of a kind that does not allow what is asked of them. -/
inductive Misuse where
  | notIterable (kind : String)
  | noContainment (kind : String)
  | textExpected (kind : String)
  | unhashable (kind : String)
  | noMember (kind member : String)
  | noItems (kind : String)
  | unordered (left right : String)
  | noProgram
  | noSpan (kind : String)

/-- Why a path names no place. -/
inductive PlaceFault where
  | circularLinks (place : List String)
  | noHome

/-- Why a text is no address. -/
inductive AddressFault where
  | tooLong
  | longComponent (component : String)
  | controlCharacter (character : Char) (position : Nat)
  | badPort (port : String)
  | badIpv4 (host : String)
  | badIpv6 (host : String)
  | badName (host : String)
  /-- the path does not begin with a slash behind a host -/
  | pathBehindHost
  /-- the path of a relative address begins with two slashes or a colon -/
  | relativePath (start : String)

/-- Families of faults from the surroundings. -/
inductive Family where
  /-- a file that is not there -/
  | missingFile
  /-- the file system or the operating system otherwise -/
  | system
  /-- the way to the server; the request may be tried again -/
  | transport
  /-- the exchange with the server beyond its transport -/
  | exchange
  /-- an order to stop -/
  | interruption
  /-- anything else -/
  | other
  deriving DecidableEq, Repr

inductive Fault where
  | diff (cause : DiffFault)
  | programMissing (executable : String)
  | lint (cause : LintFault)
  | api (cause : ApiFault)
  | settings (cause : SettingsFault)
  | runContext (cause : ContextFault)
  | data (cause : DataFault)
  | misuse (cause : Misuse)
  | json (cause : Json.ReadFault)
  | unwritable (cause : Json.WriteFault)
  | encoding (cause : Text.EncodingFault)
  | unencodable (message : String)
  | outOfRange (message : String)
  | missingKey (key : String)
  | file (cause : FileFault)
  | place (cause : PlaceFault)
  | address (cause : AddressFault)
  /-- a response points to what is no address -/
  | badRedirect (cause : AddressFault)
  /-- the content of a response cannot be decompressed -/
  | garbled (cause : Compression.Problem)
  /-- nobody answers at the other end -/
  | unreachable (message : String)
  /-- a command has not ended in its time -/
  | overdue
  /-- no end is in sight: a listing goes on page after full page, or a pause for ever -/
  | endless
  /-- a fault that the surroundings name themselves -/
  | outside (family : Family) (name message : String)

/-- The first 500 characters of a text. -/
def excerpt (s : String) : String := String.ofList (s.toList.take 500)

def DiffFault.message : DiffFault → String
  | .gitMissing => "git is not available on PATH"
  | .gitFailed subcommand code _ => s!"git {subcommand} failed with exit code {code}"

def LintFault.message : LintFault → String
  | .crashed code stderr => s!"ESLint exited with code {code}: {excerpt (Text.trimmed stderr)}"
  | .notJson _ _ => "ESLint returned invalid JSON output."
  | .notAList => "ESLint JSON output is not a list of results"

def SettingsFault.message : SettingsFault → String
  | .notAnInteger name => s!"Invalid value for {name}. It must be an integer."
  | .invalidFields _ => "Invalid application configuration"
  | .noAccess missing =>
    "GitHub access is not configured. Set GITHUB_TOKEN, or the GitHub App variables. Missing: " ++
      Text.join ", " missing ++ "."

def ContextFault.message : ContextFault → String
  | .noRevisions =>
    "No pull_request context available. Provide the base and head revisions " ++
      "(--base/--head or BASE_SHA/HEAD_SHA)."
  | .badNumber raw => s!"Invalid pull request number: {raw.literal}"
  | .noNumber =>
    "No pull_request context available. Provide the PR number (--pr-number or PR_NUMBER)."
  | .noRepository => "Repository is unknown. Set GITHUB_REPOSITORY or pass --repository owner/name."

def DataFault.message : DataFault → String
  | .badNumeral raw =>
    "invalid literal for int() with base 10: " ++
      String.ofList ((Text.quoted raw).toList.take 200)
  | .longNumeral digits => (Json.ReadFault.tooManyDigits digits).message
  | .badDelay raw => s!"could not convert string to float: {Text.quoted raw}"
  | .unclosedQuote => "No closing quotation"
  | .nothingEscaped => "No escaped character"
  | .badRepository name => s!"Repository full name '{name}' is invalid."
  | .unknownLevel name => s!"Level '{name}' does not exist"
  | .badTimestamp raw => s!"Invalid isoformat string: {Text.quoted raw}"
  | .noNumberInNan => "cannot convert float NaN to integer"
  | .noScheme address => s!"unknown url type: {Text.quoted address}"
  | .endOfWord => "embedded null byte"
  | .badVariableName => "illegal environment variable name"

def Misuse.message : Misuse → String
  | .notIterable kind => s!"'{kind}' object is not iterable"
  | .noContainment kind => s!"argument of type '{kind}' is not iterable"
  | .textExpected kind => s!"'in <string>' requires string as left operand, not {kind}"
  | .unhashable kind => s!"unhashable type: '{kind}'"
  | .noMember kind member => s!"'{kind}' object has no attribute '{member}'"
  | .unordered left right =>
    s!"'<' not supported between instances of '{left}' and '{right}'"
  | .noItems kind => s!"'{kind}' object is not subscriptable"
  | .noProgram => "no program to start"
  | .noSpan kind => s!"unsupported type of seconds: {kind}"

def PlaceFault.message : PlaceFault → String
  | .circularLinks place => s!"Symlink loop from {Text.quoted (Path.absolute place).text}"
  | .noHome => "Could not determine home directory."

def AddressFault.message : AddressFault → String
  | .tooLong => "URL too long"
  | .longComponent component => s!"URL component '{component}' too long"
  | .controlCharacter c position =>
    s!"Invalid non-printable ASCII character in URL, {Text.quoted (String.singleton c)} " ++
      s!"at position {position}."
  | .badPort port => s!"Invalid port: {Text.quoted port}"
  | .badIpv4 host => s!"Invalid IPv4 address: {Text.quoted host}"
  | .badIpv6 host => s!"Invalid IPv6 address: {Text.quoted host}"
  | .badName host => s!"Invalid IDNA hostname: {Text.quoted host}"
  | .pathBehindHost => "For absolute URLs, path must be empty or begin with '/'"
  | .relativePath start => s!"Relative URLs cannot have a path starting with '{start}'"

/-- The wording of a fault. -/
def Fault.message : Fault → String
  | .diff cause => cause.message
  | .programMissing executable => s!"Executable not found: {executable}"
  | .lint cause => cause.message
  | .api cause => cause.message
  | .settings cause => cause.message
  | .runContext cause => cause.message
  | .data cause => cause.message
  | .misuse cause => cause.message
  | .json cause => cause.message
  | .unwritable cause => cause.message
  | .encoding cause => cause.message
  | .unencodable message | .outOfRange message => message
  | .missingKey key => Text.quoted key
  | .file cause => cause.message
  | .place cause => cause.message
  | .address cause => cause.message
  | .badRedirect cause => s!"Invalid URL in location header: {cause.message}."
  | .garbled cause => cause.message
  | .unreachable message => message
  | .overdue | .endless => ""
  | .outside _ _ message => message

/-- The family of a fault that came from the surroundings. -/
def Fault.family? : Fault → Option Family
  | .file (.notFound _) => some .missingFile
  | .file _ | .overdue => some .system
  | .unreachable _ | .badRedirect _ => some .transport
  | .garbled _ => some .exchange
  | .outside family _ _ => some family
  | _ => none

/-- Faults that a failing part of the run may report without ending the run. -/
def Fault.isOrdinary : Fault → Bool
  | .endless => false
  | f => f.family? ≠ some .interruption

/-- A file that should be there is not. -/
def Fault.isMissingFile (f : Fault) : Bool := f.family? = some .missingFile

def Fault.isSystem (f : Fault) : Bool := f.isMissingFile || f.family? = some .system

def Fault.isTransport (f : Fault) : Bool := f.family? = some .transport

/-- Faults of talking to the code host: its refusals and those of the exchange. -/
def Fault.isHosting (f : Fault) : Bool :=
  match f with
  | .api _ => true
  | _ => f.family? = some .transport || f.family? = some .exchange

/-- A member of a value, `null` when it is missing; only objects have members. -/
def Json.member (v : Json) (name : String) : Except Fault Json :=
  match v with
  | .obj _ => .ok (v.getD name)
  | _ => .error (.misuse (.noMember v.kindName "get"))

/-- The fault of a numeral that is not read. -/
def NumeralFault.fault (raw : String) : NumeralFault → Fault
  | .malformed => .data (.badNumeral raw)
  | .tooLong digits => .data (.longNumeral digits)

end PullReview
