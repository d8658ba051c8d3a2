import KernelCalls.Path

namespace KernelCalls

/-!
# Files

What is found at a path, and trees of files that paths are resolved in.

* `FileContent` : what is found, with `FileRefusal` for what cannot be read
* `Place` : a place that paths lead to
* `FileTree` : files around a working directory, `FileTree.find` : what is found in it
-/

/-- Why there is no file to read. -/
inductive FileRefusal where
  | missing
  | notADirectory
  | directory
  | nameTooLong
  deriving DecidableEq, Repr

/-- What is found at a path. -/
inductive FileContent where
  | text (s : String)
  | refused (why : FileRefusal)
  deriving DecidableEq, Repr

/-- A path at which no file can be read. -/
structure FileError where
  path : Text
  why : FileRefusal
  deriving DecidableEq, Repr

/-- The text that reports the error. -/
def FileError.message (e : FileError) : String :=
  let reason := match e.why with
    | .missing => "[Errno 2] No such file or directory: "
    | .notADirectory => "[Errno 20] Not a directory: "
    | .directory => "[Errno 21] Is a directory: "
    | .nameTooLong => "[Errno 36] File name too long: "
  reason ++ Text.quote e.path

/-- A text with every line ending written as a single line feed. -/
def uniformLines : List Char → List Char
  | '\r' :: '\n' :: rest => '\n' :: uniformLines rest
  | '\r' :: rest => '\n' :: uniformLines rest
  | c :: rest => c :: uniformLines rest
  | [] => []

/-- A place in a tree: below the root or, after going up some levels, below the working directory,
by the names on the way down. -/
structure Place where
  fromRoot : Bool
  above : Nat
  names : List Text
  deriving DecidableEq, Repr

namespace Place

/-- Where a path begins. -/
def start (path : Path) : Place := ⟨path.isAbsolute, 0, []⟩

/-- One part of a path further on. Nothing is above the root. -/
def step (p : Place) (part : Text) : Place :=
  if part ≠ Text.ofString ".." then { p with names := p.names ++ [part] }
  else if !p.names.isEmpty then { p with names := p.names.dropLast }
  else if p.fromRoot then p
  else { p with above := p.above + 1 }

end Place

/-- Files and directories, each by its place. The working directory, all above it and the root are
there without being made. -/
structure FileTree where
  files : List (Place × String)
  directories : List Place
  deriving Repr

namespace FileTree

/-- The tree in which nothing was made. -/
def empty : FileTree := ⟨[], []⟩

/-- The text of the file at a place. -/
def file? (t : FileTree) (p : Place) : Option String := (t.files.find? (·.1 == p)).map (·.2)

/-- Makes a directory, with those that its path goes through. -/
def makeDirectory (t : FileTree) (path : Path) : FileTree :=
  let passed := path.parts.foldl
    (fun (acc : List Place) part => acc ++ [(acc.getLast?.getD (.start path)).step part]) []
  { t with directories := t.directories ++ passed }

/-- Writes a file, with the directories that its path goes through. -/
def write (t : FileTree) (path : Path) (s : String) : FileTree :=
  let place := path.parts.foldl Place.step (.start path)
  let t := t.makeDirectory path.directory
  { t with files := t.files.filter (·.1 ≠ place) ++ [(place, s)] }

/-- There is a directory at a place. -/
def isDirectory (t : FileTree) (p : Place) : Bool := p.names.isEmpty || t.directories.contains p

/-- The longest name of a file or directory, in bytes. -/
def maxNameSize : Nat := 255

/-- The longest path, in bytes. -/
def maxPathSize : Nat := 4095

/-- Follows the parts of a path from a directory. -/
def follow (t : FileTree) : (directory : Place) → List Text → FileContent
  | _, [] => .refused .directory
  | directory, part :: rest =>
    let next := directory.step part
    if maxNameSize < part.byteSize then .refused .nameTooLong
    else
      match t.file? next with
      | some s =>
        if rest.isEmpty then .text (String.ofList (uniformLines s.toList))
        else .refused .notADirectory
      | none => if t.isDirectory next then t.follow next rest else .refused .missing

/-- What is found at a path. -/
def find (t : FileTree) (path : Path) : FileContent :=
  if path.refusal?.isSome then .refused .missing
  else if maxPathSize < path.text.byteSize then .refused .nameTooLong
  else t.follow (.start path) path.parts

end FileTree

end KernelCalls
