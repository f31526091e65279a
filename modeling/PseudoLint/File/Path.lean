import PseudoLint.Text.Basic

/-! # File paths

A path is a list of names, absolute or relative. Repeated slashes, single dots and a slash at the
end do not change a path; double dots stay, since what they lead to depends on the directory they
follow.
-/

namespace PseudoLint

/-- A path in its simplest form. -/
structure Path where
  /-- The slashes that make the path absolute: none, one or exactly two. -/
  root : Text
  parts : List Text
deriving DecidableEq, Repr

namespace Path

/-- The path that a text denotes. -/
def ofText (text : Text) : Path :=
  let slashes := text.takeWhile (· == '/')
  let root : Text :=
    match slashes.length with
    | 0 => ""
    | 2 => "//"
    | _ => "/"
  ⟨root, (text.runs (· == '/')).filter (· != ['.'])⟩

/-- The text of a path. The empty path is a single dot. -/
def toText (path : Path) : Text :=
  let text := path.root ++ Text.join "/" path.parts
  if text.isEmpty then "." else text

/-- The last name of a path, empty if it has none. -/
def name (path : Path) : Text :=
  path.parts.getLastD []

end Path

/-- The ending of a file name from its last point on. A point that begins or ends the name starts
no ending. -/
def fileEnding (name : Text) : Text :=
  let afterPoint := (name.reverse.takeWhile (· != '.')).reverse
  let before := name.length - afterPoint.length
  if !afterPoint.isEmpty && 2 ≤ before then '.' :: afterPoint else []

end PseudoLint
