import NativeBootstrap.Host
import NativeBootstrap.Path.Basic

/-!
# Errors of bringing up and calling native libraries

Each error is its cause; `message` is the wording of that error alone, without what caused it, and
`BootstrapError.causes` and `CallError.causes` list the messages of what did. What the system's loader
refuses it words by itself (`LoaderWords`).
-/

set_option autoImplicit false

namespace NativeBootstrap

/-- Why a loader does not load a library. -/
inductive LoadFailure where
  /-- The system's loader cannot open the file as a library. -/
  | unloadable
  /-- The loader turns the path down, with its reason. -/
  | rejected (reason : String)
  deriving DecidableEq, Repr

/-- What the system's loader says of the files that it does not open as libraries, and of the symbols
that it does not find in one: the messages of its error and of what caused that, nearest first. -/
structure LoaderWords where
  ofFile : Path → List String
  ofSymbol : Path → String → List String

/-- The words of a loader that says nothing. -/
def LoaderWords.silent : LoaderWords := ⟨fun _ => [], fun _ _ => []⟩

/-- The messages of a load failure and of what caused it, nearest first. -/
def LoadFailure.messages (words : LoaderWords) (path : Path) : LoadFailure → List String
  | .unloadable => words.ofFile path
  | .rejected reason => [reason]

/-- Why no directory of libraries is found. -/
inductive ResolutionFailure where
  /-- The directory of the artifact is not known. -/
  | unknownArtifact
  /-- A directory on the way is not text. -/
  | nonUnicode (path : Path)
  /-- Nothing contains the directory of the artifact. -/
  | noInstallRoot (artifactDirectory : Path)
  /-- The directory of the libraries is none. -/
  | notDirectory (path : Path)
  deriving DecidableEq, Repr

/-- The wording of a failed resolution. -/
def ResolutionFailure.message : ResolutionFailure → String
  | .unknownArtifact => "artifact directory is unknown"
  | .nonUnicode path => "non-unicode path: " ++ path.display
  | .noInstallRoot directory => "no install root above " ++ directory.display
  | .notDirectory path => path.display ++ " is not a directory"

/-- Why the libraries cannot be brought up. -/
inductive BootstrapError where
  /-- There are no libraries for the host. -/
  | unsupportedPlatform (host : Host.Descriptor)
  /-- The libraries cannot be found. -/
  | unresolved (failure : ResolutionFailure)
  /-- A library of the plan cannot be loaded. -/
  | load (index : Nat) (path : Path) (failure : LoadFailure)
  deriving DecidableEq, Repr

namespace BootstrapError

/-- The wording of an error. -/
def message : BootstrapError → String
  | .unsupportedPlatform host =>
    "unsupported platform: " ++ host.family.name ++ " (" ++ host.wordSize.name ++ "-bit)"
  | .unresolved failure => "cannot resolve native libraries: " ++ failure.message
  | .load index path _ => "failed to load entry " ++ toString index ++ " (" ++ path.display ++ ")"

/-- The messages of what caused an error, nearest first. -/
def causes (words : LoaderWords) : BootstrapError → List String
  | .load _ path failure => failure.messages words path
  | _ => []

end BootstrapError

/-- Why a call into the libraries cannot be made. -/
inductive CallError where
  /-- The libraries are not up: bringing them up was not tried yet, or it failed with this error. -/
  | notInitialized (failure : Option BootstrapError)
  /-- No library of the plan has this name. -/
  | missingLibrary (name : String)
  /-- The library at this path does not export this symbol. -/
  | missingSymbol (library : Path) (symbol : String)
  /-- The function answered a null pointer. -/
  | nullResult (function : String)
  deriving DecidableEq, Repr

namespace CallError

/-- The wording of an error. -/
def message : CallError → String
  | .notInitialized _ => "native libraries are not initialized"
  | .missingLibrary name => name ++ " is not part of the load plan"
  | .missingSymbol library symbol => "symbol " ++ symbol ++ " not found in " ++ library.display
  | .nullResult function => function ++ " returned null"

/-- The messages of what caused an error, nearest first. -/
def causes (words : LoaderWords) : CallError → List String
  | .notInitialized (some failure) => failure.message :: failure.causes words
  | .missingSymbol library symbol => words.ofSymbol library symbol
  | _ => []

end CallError

end NativeBootstrap
