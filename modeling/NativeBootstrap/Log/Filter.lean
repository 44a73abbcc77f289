import NativeBootstrap.Log.Record
import NativeBootstrap.Pattern.Basic

/-!
# Log filters

A filter says which records are written. It is given by a specification: directives with commas
between them, and after a slash a pattern that the text of a record has to match. A directive is a
level for all targets, or a target with or without a level. Of the directives that match a record's
target, the one with the longest target decides.

`Filter.ofSpecification` reads a specification; parts that cannot be read are left out, and each is
told as a fault.
-/

set_option autoImplicit false

namespace NativeBootstrap

/-- Up to which level records of a target are written. No target stands for all of them, and no
level for no record at all. -/
structure Directive where
  target : Option String
  limit : Option Level
  deriving DecidableEq, Repr

namespace Directive

/-- Whether a directive is about a target: about the target itself, or about one it begins with. -/
def covers (d : Directive) (target : String) : Bool :=
  match d.target with
  | some start => start.toList.isPrefixOf target.toList
  | none => true

/-- How much of a target a directive names. -/
def weight (d : Directive) : Nat :=
  match d.target with
  | some start => start.utf8ByteSize
  | none => 0

/-- Whether a directive lets a level through. -/
def allows (d : Directive) (level : Level) : Bool :=
  match d.limit with
  | some limit => level.rank ≤ limit.rank
  | none => false

end Directive

/-- Which records are written. -/
structure Filter where
  directives : List Directive
  wanted : Option Pattern
  deriving Repr

namespace Filter

/-- The directive that decides on a target: of those that cover it the one of greatest weight, and
of equals the last. -/
def decider? (f : Filter) (target : String) : Option Directive :=
  (f.directives.filter fun d => d.covers target).foldl
    (fun best d =>
      match best with
      -- Of equal weights the later one decides.
      | some other => if d.weight < other.weight then best else some d
      | none => some d)
    none

/-- Whether a record is written. -/
def admits (f : Filter) (record : Record) : Bool :=
  (f.decider? record.target).any (·.allows record.level)
    && f.wanted.all (·.matchesIn record.text)

/-! ## Specifications -/

/-- What is wrong with a specification. -/
inductive Fault where
  /-- There is more than one slash. -/
  | slashes (specification : String)
  /-- This is no directive, or no level. -/
  | invalid (part : String)
  /-- What comes after the slash is no pattern. -/
  | pattern (refusal : Pattern.Refusal)
  deriving DecidableEq, Repr

/-- The line that tells of a fault. -/
def Fault.warning : Fault → String
  | .slashes specification =>
    "warning: invalid logging spec '" ++ specification ++ "' (too many '/'s), ignoring it"
  | .invalid part => "warning: invalid logging spec '" ++ part ++ "', ignoring it"
  | .pattern refusal => "warning: invalid regex filter - " ++ refusal.message ++ ", ignoring it"

/-- The limit of a name: that of a level, or none for `off`; letter case does not matter. -/
def limit? (name : String) : Option (Option Level) :=
  let upper := name.map Char.toUpper
  if upper == "OFF" then some none
  else (Level.all.find? fun level => level.name == upper).map some

/-- Reads a directive. A target without level is not limited. -/
def directive (part : String) : Except Fault Directive :=
  match part.splitOn "=" with
  | [only] =>
    match limit? only with
    | some limit => .ok ⟨none, limit⟩
    | none => .ok ⟨some only, some .trace⟩
  | [target, name] =>
    if Text.trimmed name == "" then .ok ⟨some target, some .trace⟩
    else
      match limit? (Text.trimmed name) with
      | some limit => .ok ⟨some target, limit⟩
      | none => .error (.invalid (Text.trimmed name))
  | _ => .error (.invalid part)

/-- Directives with one more; it takes the place of one for the same target. -/
def insert (d : Directive) : List Directive → List Directive
  | [] => [d]
  | other :: rest => if other.target = d.target then d :: rest else other :: insert d rest

/-- Directives that are read, and faults, with one more part. -/
def readPart (read : List Directive × List Fault) (part : String) : List Directive × List Fault :=
  if Text.trimmed part == "" then read
  else
    match directive (Text.trimmed part) with
    | .ok d => (insert d read.1, read.2)
    | .error fault => (read.1, read.2 ++ [fault])

/-- The filter of these directives. Without any, only errors are written. -/
def ofDirectives (directives : List Directive) (wanted : Option Pattern) : Filter :=
  ⟨if directives = [] then [⟨none, some .error⟩] else directives, wanted⟩

/-- The filter of a specification, and its faults in order. -/
def ofSpecification (specification : String) : Filter × List Fault :=
  let read (parts : String) := (parts.splitOn ",").foldl readPart ([], [])
  match specification.splitOn "/" with
  | [parts] => (ofDirectives (read parts).1 none, (read parts).2)
  | [parts, wanted] =>
    match Pattern.ofString wanted with
    | .ok pattern => (ofDirectives (read parts).1 (some pattern), (read parts).2)
    | .error refusal => (ofDirectives (read parts).1 none, (read parts).2 ++ [.pattern refusal])
  | _ => (ofDirectives [] none, [.slashes specification])

end Filter

/-- A record as it is written, with a stamp before its level. -/
def Record.line (stamp : String) (record : Record) : String :=
  "[" ++ stamp ++ Text.padded 5 record.level.name ++ " " ++ record.target ++ "] "
    ++ Text.hanging 4 record.text ++ "\n"

end NativeBootstrap
