import NativeBuild.Path.Basic

/-!
Absolute paths by their text alone: no link is followed and no file is looked at.
-/

namespace NativeBuild.Path

/-- Where an absolute form starts: at the directory `here` for a relative path; else at the root,
written with two slashes exactly when the path starts with exactly two. -/
def anchor (p here : Path) : Path :=
  match p.chars with
  | '/' :: '/' :: '/' :: _ => ⟨['/']⟩
  | '/' :: '/' :: _ => ⟨['/', '/']⟩
  | '/' :: _ => ⟨['/']⟩
  | _ => here

/-- The steps of a path as they are written below its anchor: `..` stays and `.` goes. -/
def steps (p : Path) : List (List Char) :=
  (Text.pieces '/' p.chars).filter fun piece => !isIdle piece

/-- The absolute form of a path read in the directory `here`.  A separator at the end stays, and the
empty path is left as it is. -/
def absolute (p here : Path) : Path :=
  if p.chars.isEmpty then p
  else
    let full := p.steps.foldl append (p.anchor here)
    if p.endsInSlash then full.withSlash else full

/-- A path that may be relative to `base`: one that starts at the root is left as it is written, any
other gets the absolute form of `base` followed by it. -/
def resolveAgainst (p here base : Path) : Path :=
  if p.isAbsolute then p else (base.join p).absolute here

end NativeBuild.Path
