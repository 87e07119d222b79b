/-!
# Gaps between settings

What may stand between the parts of a settings file: blanks within a line, line ends
and comments.

## Main definitions

* `Toml.skip`, `Toml.skipLines` — a text without the gap at its front.
* `Toml.lineEnd?` — what follows a line end.
-/

namespace Tillbook.Toml

/-- Blanks within a line. -/
def isBlank (c : Char) : Bool := c == ' ' || c == '\t'

/-- Characters that stand nowhere but in escapes. -/
def isControl (c : Char) : Bool := (c.toNat < 32 && c != '\t') || c.toNat == 127

/-- A text without the blanks at its front. -/
def skip (cs : List Char) : List Char := cs.dropWhile isBlank

/-- What follows a line end at the front of a text. -/
def lineEnd? : List Char → Option (List Char)
  | '\n' :: r => some r
  | '\r' :: '\n' :: r => some r
  | _ => none

/-- What follows a comment, if there is one: the line end or nothing. -/
def skipComment (cs : List Char) : Option (List Char) :=
  match cs with
  | '#' :: r =>
    let rest := r.dropWhile fun c => !isControl c
    match rest with
    | [] => some []
    | r => (lineEnd? r).map fun _ => r
  | r => some r

/-- What follows blanks, comments and line ends. -/
def skipLines (fuel : Nat) (cs : List Char) : Option (List Char) :=
  match fuel with
  | 0 => none
  | fuel + 1 => do
    let r ← skipComment (skip cs)
    match lineEnd? r with
    | some r => skipLines fuel r
    | none => some r

/-- The blanks and line ends after a backslash at the end of a line. -/
def skipGap (fuel : Nat) (cs : List Char) : List Char :=
  match fuel with
  | 0 => cs
  | fuel + 1 =>
    match lineEnd? (skip cs) with
    | some r => skipGap fuel r
    | none => skip cs

end Tillbook.Toml
