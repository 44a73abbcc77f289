import NativeBootstrap.CommandLine.Misuse
import NativeBootstrap.CommandLine.Word
import NativeBootstrap.Text.Similarity

/-!
# Reading a command line

`Arguments.read` reads the arguments after the program's name, from left to right. A reading under
way (`Reading`) holds the options that are complete, in the order in which they became so, and an
`--artifact` that waits. That option is completed late: by the next option, or at the end. So an
argument that is no option at all is told before an error of the option that waits, while a flag, a
request for help, or the end of the arguments brings that error out first.
-/

set_option autoImplicit false

namespace NativeBootstrap.CommandLine

/-- What a command line says. -/
structure Arguments where
  artifact : Option Bytes
  plan : Bool
  versionInfo : Bool
  deriving DecidableEq, Repr

/-- Why a command line gives no arguments: it asks for a text, or it is wrong. -/
inductive Stop where
  | help
  | version
  | misuse (misuse : Misuse)
  deriving DecidableEq, Repr

/-- An `--artifact` that is not complete: its value is still to come, or has come. -/
inductive Waiting where
  | value
  | completion (value : Bytes)
  deriving DecidableEq, Repr

/-- A reading under way. -/
structure Reading where
  complete : List Opt
  artifact : Option Bytes
  waiting : Option Waiting
  deriving DecidableEq, Repr

namespace Reading

/-- A reading at its start. -/
def fresh : Reading := ⟨[], none, none⟩

/-! ## Completing options -/

/-- The reading with an option complete. An option that was complete before is wrong. -/
def add (r : Reading) (option : Opt) : Except Stop Reading :=
  if option ∈ r.complete then .error (.misuse (.repeated option))
  else .ok { r with complete := r.complete ++ [option] }

/-- The reading with `--artifact` complete with this value, which may not be empty. -/
def addArtifact (r : Reading) (value : Bytes) : Except Stop Reading := do
  let added ← r.add .artifact
  if value = [] then .error (.misuse (.missingValue .artifact))
  else .ok { added with artifact := some value }

/-- The reading with the option that waits complete. -/
def settle (r : Reading) : Except Stop Reading :=
  match r.waiting with
  | none => .ok r
  | some .value => .error (.misuse (.missingValue .artifact))
  | some (.completion value) => { r with waiting := none }.addArtifact value

/-- The options a message shows as read once the option that waits is complete, be it wrongly. One
that is there twice is no longer shown. -/
def shownComplete (r : Reading) : List Opt :=
  match r.waiting with
  | some (.completion _) =>
    if .artifact ∈ r.complete then r.complete.erase .artifact else r.complete ++ [.artifact]
  | _ => r.complete

/-! ## Words -/

/-- Reads an option, with the value attached to it if there is one. -/
def readOption (r : Reading) (option : Opt) (value : Option Bytes) : Except Stop Reading :=
  match option, value with
  | .artifact, none => return { ← r.settle with waiting := some .value }
  | .artifact, some value => do (← r.settle).addArtifact value
  -- Told at once: the option that waits is not completed first.
  | option, some value => .error (.misuse (.unwantedValue option value r.complete))
  | .help, none => do
    let _ ← r.settle
    .error .help
  | .version, none => do
    let _ ← r.settle
    .error .version
  | option, none => do (← r.settle).add option

/-- Reads a long name, with its value if it has one. -/
def readLong (r : Reading) (name : Bytes) (value : Option Bytes) : Except Stop Reading :=
  match Opt.ofName? name with
  | some option => r.readOption option value
  | none =>
    let meant := Similarity.closest? Opt.name (Utf8.lossy name) Opt.all
    .error (.misuse (.unknownName name meant r.shownComplete))

/-- Reads letters. The first one decides, because each letter that is known stops the reading. -/
def readLetters (r : Reading) (bytes : Bytes) : Except Stop Reading :=
  match Utf8.segments bytes with
  | .char letter _ :: _ =>
    match Opt.ofLetter? letter with
    | some option => r.readOption option none
    | none => .error (.misuse (.unexpected ("-" ++ letter.toString)))
  | _ => .error (.misuse (.unexpected ("-" ++ Utf8.lossy bytes)))

/-- Reads a plain argument, which is only in place as the value of `--artifact`. -/
def readPlain (r : Reading) (bytes : Bytes) : Except Stop Reading :=
  match r.waiting with
  | some .value => .ok { r with waiting := some (.completion bytes) }
  | _ => .error (.misuse (.unexpected (Utf8.lossy bytes)))

/-! ## The end -/

/-- The first of the complete options that another one excludes, with that other. -/
def excluded? (complete : List Opt) : Option (Opt × Opt) :=
  if .plan ∈ complete ∧ .versionInfo ∈ complete then
    match complete.find? fun o => o == .plan || o == .versionInfo with
    | some .plan => some (.plan, .versionInfo)
    | _ => some (.versionInfo, .plan)
  else none

/-- What the command line says, at its end. -/
def finish (r : Reading) : Except Stop Arguments := do
  let last ← r.settle
  match excluded? last.complete with
  | some (first, second) => .error (.misuse (.excluded first second last.complete))
  | none => .ok ⟨last.artifact, last.complete.contains .plan, last.complete.contains .versionInfo⟩

/-- Reads the arguments that are left. -/
def readAll : Reading → List Bytes → Except Stop Arguments
  | r, [] => r.finish
  | r, argument :: rest =>
    match Word.ofBytes argument with
    | .endOfOptions =>
      match rest with
      | [] => r.finish
      -- Only plain arguments may follow, and none is in place: `--artifact` takes no value from here.
      | plain :: _ => .error (.misuse (.unexpected (Utf8.lossy plain)))
    | .long name value => do readAll (← r.readLong name value) rest
    | .letters bytes => do readAll (← r.readLetters bytes) rest
    | .plain bytes => do readAll (← r.readPlain bytes) rest

end Reading

/-- Reads the arguments after the program's name. -/
def Arguments.read (arguments : List Bytes) : Except Stop Arguments :=
  Reading.fresh.readAll arguments

end NativeBootstrap.CommandLine
