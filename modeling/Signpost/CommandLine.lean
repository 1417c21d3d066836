import Signpost.Negotiation.Resolution
import Signpost.Settings.Loading

/-!
# The command line

The arguments of the program, and what the commands other than serving print.

* `check` loads the settings and lists the languages with their landing pages.
* `resolve` prints the landing page for a language header.
* `serve`, also meant where no command is given, runs the service.
* `help` tells about the program, or about the command that is named after it.

The option for the settings file is good before and after the command, and the one after it counts.
An option is given once at most, with a value after an equals sign or as the next argument.
-/

namespace Signpost

open Negotiation

/-- A command of the program. -/
inductive Command where
  | serve
  | check
  | resolve (header : Option String)
  deriving DecidableEq, Repr

/-- The commands by name. -/
inductive CommandName where
  | serve
  | check
  | resolve
  | help
  deriving DecidableEq, Repr

/-- The command that a word names. -/
def CommandName.ofString? : String → Option CommandName
  | "serve" => some .serve
  | "check" => some .check
  | "resolve" => some .resolve
  | "help" => some .help
  | _ => none

/-- What the arguments ask for. -/
structure Invocation where
  /-- The path of the settings file. -/
  settingsPath : String
  /-- What to do. -/
  command : Command
  deriving DecidableEq, Repr

/-- Arguments that ask for no command. -/
inductive Interruption where
  /-- Help is asked for, on the program or on a command. -/
  | help (topic : Option CommandName)
  /-- The arguments make no sense. -/
  | usage
  deriving DecidableEq, Repr

/-- What a command prints, and its exit code. -/
structure Printed where
  /-- The exit code. -/
  exitCode : Nat
  /-- The text of the result. -/
  output : String
  /-- The text of remarks and errors. -/
  remarks : String
  deriving DecidableEq, Repr

namespace CommandLine

/-- The settings file that is read if none is named. -/
def defaultPath : String := "lang-redirect.toml"

/-! ## Reading arguments -/

/-- The options that have been read at one level of the command line. -/
structure Options where
  /-- The settings file. -/
  path : Option String := none
  /-- The language header. -/
  header : Option String := none

/-- What one argument is. -/
inductive Argument where
  /-- The option for the settings file, with its value if that is in the same argument. -/
  | path (value : Option String)
  /-- The option for the language header. -/
  | header (value : Option String)
  /-- The wish for help. -/
  | help
  /-- The end of all options. -/
  | endMark
  /-- A word that is no option. -/
  | word (text : String)
  /-- An option that does not exist. -/
  | unknown
  deriving DecidableEq, Repr

/-- The text after a given beginning. -/
def afterStart? (start s : String) : Option String :=
  if start.toList.isPrefixOf s.toList then some (String.ofList (s.toList.drop start.length))
  else none

/-- What an argument is, given whether the language header may be named. -/
def Argument.ofString (takesHeader : Bool) (s : String) : Argument :=
  let header (value : Option String) : Argument := if takesHeader then .header value else .unknown
  if s = "--config" then .path none
  else if s = "--header" then header none
  else if s = "--help" then .help
  else if s = "--" then .endMark
  else
    match afterStart? "--config=" s, afterStart? "--header=" s with
    | some value, _ => .path (some value)
    | _, some value => header (some value)
    | none, none =>
      match s.toList with
      | '-' :: '-' :: _ => .unknown
      | ['-', 'c'] => .path none
      | '-' :: 'c' :: '=' :: value => .path (some (String.ofList value))
      | '-' :: 'c' :: value => .path (some (String.ofList value))
      | '-' :: 'h' :: _ => .help
      | '-' :: _ :: _ => .unknown
      | _ => .word s

/-- Whether an argument can be the value of the option before it. -/
def isValue (s : String) : Bool :=
  match s.toList with
  | '-' :: _ :: _ => false
  | _ => true

/-- Takes the settings file; it must be new and not empty. -/
def Options.withPath (o : Options) (value : String) : Except Interruption Options :=
  if o.path.isSome ∨ value = "" then .error .usage else .ok { o with path := some value }

/-- Takes the language header; it must be new. -/
def Options.withHeader (o : Options) (value : String) : Except Interruption Options :=
  if o.header.isSome then .error .usage else .ok { o with header := some value }

/-- Reads options up to the first word.  `topic` is the command that help is about. -/
def readOptions (topic : Option CommandName) (o : Options) :
    List String → Except Interruption (Options × List String)
  | [] => .ok (o, [])
  | arg :: args =>
    match Argument.ofString (topic = some .resolve) arg with
    | .word _ => .ok (o, arg :: args)
    | .endMark => if args = [] then .ok (o, []) else .error .usage
    | .help => .error (.help topic)
    | .unknown => .error .usage
    | .path (some value) => do readOptions topic (← o.withPath value) args
    | .header (some value) => do readOptions topic (← o.withHeader value) args
    | .path none =>
      match args with
      | value :: rest =>
        if isValue value then do readOptions topic (← o.withPath value) rest else .error .usage
      | [] => .error .usage
    | .header none =>
      match args with
      | value :: rest =>
        if isValue value then do readOptions topic (← o.withHeader value) rest else .error .usage
      | [] => .error .usage

/-- The help on what the words after `help` name. -/
def helpOn : List String → Interruption
  | [] => .help none
  | [name] =>
    match CommandName.ofString? name with
    | some topic => .help (some topic)
    | none => .usage
  | _ => .usage

/-- What the arguments ask for. -/
def read (args : List String) : Except Interruption Invocation := do
  let (outer, rest) ← readOptions none {} args
  match rest with
  | [] => return ⟨outer.path.getD defaultPath, .serve⟩
  | word :: rest =>
    let some name := CommandName.ofString? word | throw .usage
    let withOptions (command : Options → Command) : Except Interruption Invocation := do
      let (inner, rest) ← readOptions (some name) {} rest
      if rest ≠ [] then throw .usage
      return ⟨(inner.path.or outer.path).getD defaultPath, command inner⟩
    match name with
    | .serve => withOptions fun _ => .serve
    | .check => withOptions fun _ => .check
    | .resolve => withOptions fun options => .resolve options.header
    | .help => throw (helpOn rest)

/-! ## Help -/

/-- What a command does. -/
def about : CommandName → String
  | .serve => "Run the redirect server (default)"
  | .check => "Validate the configuration and list supported languages"
  | .resolve => "Print the landing page a given Accept-Language value resolves to"
  | .help => "Print this message or the help of the given subcommand(s)"

/-- The line on the settings file. -/
def pathLine : String :=
  "  -c, --config <CONFIG>  Path to the TOML configuration file [default: lang-redirect.toml]"

/-- The line on the language header. -/
def headerLine : String :=
  "      --header <HEADER>  Accept-Language header value; omit to simulate a missing header"

/-- The line on the wish for help. -/
def helpLine : String :=
  "  -h, --help             Print help"

/-- The lines of the help on the program or on a command. -/
def helpLines : Option CommandName → List String
  | none =>
    ["Redirect visitors to their preferred language's landing page", "",
     "Usage: lang-redirect [OPTIONS] [COMMAND]", "",
     "Commands:",
     "  serve    " ++ about .serve,
     "  check    " ++ about .check,
     "  resolve  " ++ about .resolve,
     "  help     " ++ about .help, "",
     "Options:", pathLine, helpLine]
  | some .serve =>
    [about .serve, "", "Usage: lang-redirect serve [OPTIONS]", "", "Options:", pathLine, helpLine]
  | some .check =>
    [about .check, "", "Usage: lang-redirect check [OPTIONS]", "", "Options:", pathLine, helpLine]
  | some .resolve =>
    [about .resolve, "", "Usage: lang-redirect resolve [OPTIONS]", "", "Options:",
     pathLine, headerLine, helpLine]
  | some .help =>
    [about .help, "", "Usage: lang-redirect help [COMMAND]...", "",
     "Arguments:", "  [COMMAND]...  Print help for the subcommand(s)"]

/-- Lines of text, each with its end. -/
def unlines (lines : List String) : String :=
  String.join (lines.map (· ++ "\n"))

/-- What is printed in place of a command. -/
def interrupted : Interruption → Printed
  | .help topic => ⟨0, unlines (helpLines topic), ""⟩
  | .usage =>
    ⟨2, "", unlines ["error: unexpected arguments", "",
      "Usage: lang-redirect [OPTIONS] [COMMAND]", "", "For more information, try '--help'."]⟩

/-! ## Commands -/

/-- What is printed for an error. -/
def complain (message : String) : Printed :=
  ⟨1, "", "error: " ++ message ++ "\n"⟩

/-- The settings and the site map of a file. -/
def loadSites (file : FileState) : Except SettingsError (Settings × SiteMap) := do
  let settings ← Settings.load? file
  return (settings, ← settings.siteMap?)

/-- Lists the languages with their landing pages.  `detail` is what the reader of documents says of the
file, if it is malformed. -/
def check (path : String) (file : FileState) (detail : Option String := none) : Printed :=
  match loadSites file with
  | .error error => complain (error.message detail)
  | .ok (_, sites) =>
    let pages := sites.table.pages.map fun p => "  " ++ p.1 ++ " -> " ++ p.2
    ⟨0, unlines ((path ++ ": ok") :: pages), ""⟩

/-- Prints the landing page for a language header. -/
def resolve (header : Option String) (file : FileState) (detail : Option String := none) : Printed :=
  match loadSites file with
  | .error error => complain (error.message detail)
  | .ok (settings, sites) =>
    let resolution := Negotiation.resolve settings.negotiation.invalidWeight header sites
    ⟨0, unlines [resolution.location],
      if resolution.fallback then unlines ["(fallback: no supported language matched)"] else ""⟩

end CommandLine

end Signpost
