import NativeBootstrap.CommandLine.Opt
import NativeBootstrap.Text.Terminal

/-!
# Misuse of the command line

Each way to misuse the command line is its cause; `Misuse.message` is the whole text that is shown:
the error, a hint if a name was misspelt, the usage, and where to find help. Which options the usage
shows depends on those that were read before. What is shown of an argument is shown without control
sequences.
-/

set_option autoImplicit false

namespace NativeBootstrap.CommandLine

/-- What is wrong with a command line. -/
inductive Misuse where
  /-- Two options that exclude each other; `read` holds the options that were read. -/
  | excluded (first second : Opt) (read : List Opt)
  /-- An option is there twice. -/
  | repeated (option : Opt)
  /-- An option has no value, or an empty one. -/
  | missingValue (option : Opt)
  /-- An option has a value and takes none; `read` holds the options that were read before. -/
  | unwantedValue (option : Opt) (value : Bytes) (read : List Opt)
  /-- A name of no option; `meant` is the option whose name is similar, and `read` holds the options
  that were read before. -/
  | unknownName (name : Bytes) (meant : Option Opt) (read : List Opt)
  /-- An argument that is neither an option nor the value of one. -/
  | unexpected (shown : String)
  deriving DecidableEq, Repr

namespace Misuse

/-- The error itself. -/
def error : Misuse → String
  | .excluded first second _ =>
    "the argument '" ++ first.shown ++ "' cannot be used with '" ++ second.shown ++ "'"
  | .repeated option => "the argument '" ++ option.shown ++ "' cannot be used multiple times"
  | .missingValue option =>
    "a value is required for '" ++ option.shown ++ "' but none was supplied"
  | .unwantedValue option value _ =>
    "unexpected value '" ++ Terminal.plain (Utf8.lossy value) ++ "' for '" ++ option.shown
      ++ "' found; no more were expected"
  | .unknownName name _ _ =>
    "unexpected argument '--" ++ Terminal.plain (Utf8.lossy name) ++ "' found"
  | .unexpected shown => "unexpected argument '" ++ Terminal.plain shown ++ "' found"

/-- The hint at the option that is meant. -/
def hint? : Misuse → Option String
  | .unknownName _ (some meant) _ =>
    some ("  tip: a similar argument exists: '" ++ meant.dashed ++ "'")
  | _ => none

/-- The usage with these options, or with any options if there are none. -/
def usageWith (options : List Opt) : String :=
  if options = [] then generalUsage else usage (options.map Opt.shown)

/-- The usage that is shown. For an unwanted value it shows the alternatives as soon as one of them
was read, and those stand for each of themselves. -/
def usage? : Misuse → Option String
  | .excluded _ second read => some (usageWith (read.filter (· != second)))
  | .repeated _ => some generalUsage
  | .missingValue _ => none
  | .unwantedValue option _ read =>
    if read = [] then some (usageWith [option])
    else if Opt.ofSettings.contains option then some (usage [alternatives])
    else some (usage [option.shown, alternatives])
  | .unknownName _ meant read =>
    some (usageWith (read ++ (meant.toList.filter fun o => !read.contains o)))
  | .unexpected _ => some generalUsage

/-- The whole text. -/
def message (misuse : Misuse) : String :=
  "\n\n".intercalate
    (("error: " ++ misuse.error) :: misuse.hint?.toList ++ misuse.usage?.toList
      ++ ["For more information, try '" ++ Opt.help.shown ++ "'.\n"])

end Misuse

end NativeBootstrap.CommandLine
