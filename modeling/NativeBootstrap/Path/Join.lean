/-!
# Joining segments

Segments are appended to a base with a separator of any length. Empty segments and segments that
are only the separator are skipped; a separator is written only where the text so far does not end
in one; each segment is copied as it is, separators at its ends included.
-/

set_option autoImplicit false

namespace NativeBootstrap.Path

/-- Whether a text ends in another. -/
def endsWith (text ending : String) : Bool := ending.toList.isSuffixOf text.toList

/-- Whether a join skips a segment. -/
def isSkipped (separator segment : String) : Bool := segment == "" || segment == separator

/-- The text so far with one more segment. -/
def extend (separator text segment : String) : String :=
  if isSkipped separator segment then text
  else if endsWith text separator then text ++ segment
  else text ++ separator ++ segment

/-- A base with all segments, in order. -/
def joinWith (separator base : String) (segments : List String) : String :=
  segments.foldl (extend separator) base

/-- The separator of the machine this runs on. -/
def hostSeparator : String := "/"

end NativeBootstrap.Path
