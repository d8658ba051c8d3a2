import KernelCalls.Text.Quoted

namespace KernelCalls

/-!
# Paths

File paths as they are shown and joined: without empty parts and single dots, with double dots kept.

* `Path.ofText`, `Path.text` : reading and writing
* `Path.directory`, `Path.join` : the directory of a file, and a path relative to it
* `Path.refusal?` : why a path can name no file
-/

/-- A path: a root of up to two slashes, and its parts. -/
structure Path where
  root : String
  parts : List Text
  deriving DecidableEq, Repr

namespace Path

/-- The parts that count. -/
def partsOf (t : Text) : List Text :=
  (t.splitOn (.char '/')).filter fun part => part != [] && part != [.char '.']

/-- The root of a path: exactly two slashes stay two, more are one. -/
def rootOf : Text → String
  | .char '/' :: .char '/' :: .char '/' :: _ => "/"
  | .char '/' :: .char '/' :: _ => "//"
  | .char '/' :: _ => "/"
  | _ => ""

/-- The path that a text spells. -/
def ofText (t : Text) : Path := ⟨rootOf t, partsOf t⟩

/-- The text of a path; the empty path is the working directory. -/
def text (p : Path) : Text :=
  if p.root = "" ∧ p.parts = [] then "." else p.root ++ Text.joined "/" p.parts

/-- The path does not depend on the working directory. -/
def isAbsolute (p : Path) : Bool := p.root != ""

/-- The directory that holds a file. -/
def directory (p : Path) : Path := { p with parts := p.parts.dropLast }

/-- A path as it is seen from a directory. -/
def join (d p : Path) : Path :=
  if p.isAbsolute then p else { d with parts := d.parts ++ p.parts }

/-! ### Paths that name no file -/

/-- Why a path can name no file: part of it has no bytes, or a character of it is NUL. -/
inductive Refusal where
  | noBytes (e : Text.NoBytes)
  | nul
  deriving DecidableEq, Repr

/-- The text that reports the error. -/
def Refusal.message : Refusal → String
  | .noBytes e => e.message
  | .nul => "embedded null byte"

/-- The halves of surrogate pairs that stand for single bytes. -/
def isByte (c : CodePoint) : Bool := 0xdc80 ≤ c.number && c.number ≤ 0xdcff

/-- Why a path can name no file, if it cannot. -/
def refusal? (p : Path) : Option Refusal :=
  match p.text.noBytes? isByte with
  | some e => some (.noBytes e)
  | none => if p.text.contains (.char '\x00') then some .nul else none

end Path

end KernelCalls
