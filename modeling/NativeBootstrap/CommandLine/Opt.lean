import NativeBootstrap.Text.Layout
import NativeBootstrap.Text.Utf8

/-!
# Options of the command line

The program has one option that takes a value, two flags that exclude each other, and the two
options of every program, which show its help and its version. The help text is laid out from the
options themselves.
-/

set_option autoImplicit false

namespace NativeBootstrap.CommandLine

/-- The name of the program. -/
def programName : String := "clogger-shim"

/-- The version of the program. -/
def programVersion : String := "1.0.0"

/-- What the program does. -/
def programPurpose : String := "Load the native clogger libraries and report their version"

/-- An option. -/
inductive Opt where
  | artifact
  | plan
  | versionInfo
  | help
  | version
  deriving DecidableEq, Repr

namespace Opt

/-- All options, in the order in which the help lists them. -/
def all : List Opt := [.artifact, .plan, .versionInfo, .help, .version]

/-- The options that settings come from. -/
def ofSettings : List Opt := [.artifact, .plan, .versionInfo]

/-- The long name, without its dashes. -/
def name : Opt → String
  | .artifact => "artifact"
  | .plan => "plan"
  | .versionInfo => "version-info"
  | .help => "help"
  | .version => "version"

/-- The letter of the short form, if there is one. -/
def letter? : Opt → Option Char
  | .help => some 'h'
  | .version => some 'V'
  | _ => none

/-- The name of the value, if the option takes one. -/
def valueName? : Opt → Option String
  | .artifact => some "PATH"
  | _ => none

/-- What the option is for. -/
def purpose : Opt → String
  | .artifact => "Artifact to resolve the native libraries from (defaults to this executable)"
  | .plan => "Print the resolved load plan without loading anything"
  | .versionInfo => "Also query clogger_lib_version and print <name>-<version>"
  | .help => "Print help"
  | .version => "Print version"

/-- The long name with its dashes. -/
def dashed (o : Opt) : String := "--" ++ o.name

/-- An option as messages show it: with its dashes, and with its value if it takes one. -/
def shown (o : Opt) : String :=
  match o.valueName? with
  | some value => o.dashed ++ " <" ++ value ++ ">"
  | none => o.dashed

/-- The option of a long name. -/
def ofName? (name : Bytes) : Option Opt := all.find? fun o => Utf8.encode o.name == name

/-- The option of a letter. -/
def ofLetter? (letter : Char) : Option Opt := all.find? fun o => o.letter? == some letter

end Opt

/-! ## Texts -/

/-- How the program is used, with what follows its name. -/
def usage (arguments : List String) : String :=
  "Usage: " ++ " ".intercalate (programName :: arguments)

/-- The usage with any options. -/
def generalUsage : String := usage ["[OPTIONS]"]

/-- The options that settings come from, as alternatives. -/
def alternatives : String := "<" ++ "|".intercalate (Opt.ofSettings.map Opt.shown) ++ ">"

/-- The line of the help for an option, with a column of this width for its name. -/
def Opt.helpLine (width : Nat) (o : Opt) : String :=
  let short := match o.letter? with
    | some letter => "  -" ++ letter.toString ++ ", "
    | none => "      "
  short ++ Text.padded width o.shown ++ "  " ++ o.purpose

/-- The width of the widest option. -/
def nameWidth : Nat := (Opt.all.map fun o => o.shown.length).foldl max 0

/-- The help. -/
def helpText : String :=
  "\n".intercalate
    ([programPurpose, "", generalUsage, "", "Options:"] ++ Opt.all.map (Opt.helpLine nameWidth))
    ++ "\n"

/-- The version of the program, as it is printed. -/
def versionText : String := programName ++ " " ++ programVersion ++ "\n"

end NativeBootstrap.CommandLine
