import Signpost.Settings.Decoding
import Signpost.Settings.Problem
import Signpost.Text.Utf8
import Signpost.Toml.Document

/-!
# Loading settings

From the settings file to valid settings.  Three things can go wrong on the way, and the first of
them is reported: the file cannot be read as text, the text is no document that gives settings, or
the settings have problems.

A fourth error belongs to settings that were never checked: their landing pages may lack the one of
the fallback language, and then there is no site map to serve.
-/

namespace Signpost

/-- Why a file cannot be read as text. -/
inductive ReadFault where
  | missing
  | isDirectory
  /-- The path goes on after a file. -/
  | notDirectory
  | nameTooLong
  | notAllowed
  | notUtf8
  deriving DecidableEq, Repr

/-- The wording of a fault. -/
def ReadFault.message : ReadFault → String
  | missing => "No such file or directory (os error 2)"
  | isDirectory => "Is a directory (os error 21)"
  | notDirectory => "Not a directory (os error 20)"
  | nameTooLong => "File name too long (os error 36)"
  | notAllowed => "Permission denied (os error 13)"
  | notUtf8 => "stream did not contain valid UTF-8"

/-- What is found under the path of a file. -/
inductive FileState where
  /-- Nothing that can be read. -/
  | unreadable (fault : ReadFault)
  | content (bytes : List UInt8)
  deriving DecidableEq, Repr

/-- The text of a file. -/
def FileState.text? : FileState → Except ReadFault String
  | unreadable fault => .error fault
  | content bytes =>
    match Text.Utf8.decode? bytes with
    | some cs => .ok (String.ofList cs)
    | none => .error .notUtf8

/-- Why settings cannot be used. -/
inductive SettingsError where
  /-- The file cannot be read. -/
  | unreadable (fault : ReadFault)
  /-- The text gives no settings. -/
  | malformed
  /-- The settings make no sense. -/
  | invalid (problems : List Problem)
  /-- There is no landing page for the fallback language. -/
  | noFallback
  deriving DecidableEq, Repr

/-- The wording of an error.  What exactly is wrong with a text that gives no settings is for the reader
of documents to say: its words are the `detail`, and without them only the fact is told. -/
def SettingsError.message (error : SettingsError) (detail : Option String := none) : String :=
  match error with
  | unreadable fault => "IO error: " ++ fault.message
  | malformed => "Parse error" ++ (detail.map (": " ++ ·)).getD ""
  | invalid problems => "Validation failed: " ++ ", ".intercalate (problems.map Problem.message)
  | noFallback => "site map has no entry for fallback language " ++ Text.quote fallbackLanguage

namespace Settings

/-- The settings, if there is nothing wrong with them. -/
def validate (s : Settings) : Except SettingsError Settings :=
  match s.problems with
  | [] => .ok s
  | problems => .error (.invalid problems)

/-- The valid settings that a text gives. -/
def ofString? (text : String) : Except SettingsError Settings :=
  match (Toml.Document.ofString? text).bind ofDocument? with
  | some s => s.validate
  | none => .error .malformed

/-- The valid settings that a file gives. -/
def load? (file : FileState) : Except SettingsError Settings :=
  match file.text? with
  | .ok text => ofString? text
  | .error fault => .error (.unreadable fault)

/-- The site map of the settings. -/
def siteMap? (s : Settings) : Except SettingsError SiteMap :=
  match SiteMap.ofTable? s.sites with
  | some sites => .ok sites
  | none => .error .noFallback

end Settings

end Signpost
