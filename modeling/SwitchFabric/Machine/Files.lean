import SwitchFabric.SortedMap
import SwitchFabric.Text.Split
import SwitchFabric.Text.Utf8

/-!
# Files

A tree of files, by their places. A place is a path without its detours: the text of its components, with
a slash in front if it starts at the root. Files are read whole, and grow by what is appended to them;
appending creates a file, but no directory.

`at?_append` says that what is appended stands behind what was there, and that nothing else changes.
-/

namespace SwitchFabric

/-- Why a file cannot be read or written. -/
inductive FileError where
  | notFound
  | notDirectory
  | isDirectory
  | nameTooLong
  | nulInName
  | notText
  deriving DecidableEq

/-- The text that the system has for an error. -/
def FileError.message : FileError → String
  | notFound => "No such file or directory (os error 2)"
  | notDirectory => "Not a directory (os error 20)"
  | isDirectory => "Is a directory (os error 21)"
  | nameTooLong => "File name too long (os error 36)"
  | nulInName => "file name contained an unexpected NUL byte"
  | notText => "stream did not contain valid UTF-8"

/-- A path without detours. -/
structure Place where
  absolute : Bool
  parts : List String
  deriving DecidableEq

namespace Place

/-- A path in the form that it is opened by. -/
def toText (p : Place) : String :=
  (if p.absolute then "/" else "") ++ "/".intercalate p.parts

/-- Where the directory above a place is. -/
def parent (p : Place) : Place := { p with parts := p.parts.dropLast }

/-- The place behind one more component of a path. -/
def enter (component : String) (p : Place) : Place :=
  if component == "" || component == "." then p
  else if component == ".." then
    if p.parts.isEmpty || p.parts.getLast? == some ".." then
      if p.absolute then p else { p with parts := p.parts ++ [".."] }
    else p.parent
  else { p with parts := p.parts ++ [component] }

/-- The directories that a place lies in, outermost first. -/
def ancestors (p : Place) : List Place :=
  (List.range p.parts.length).map fun n => { p with parts := p.parts.take n }

end Place

/-- The bytes of each file by the text of its place, and the directories besides the ones that a path
can start in. -/
structure Files where
  contents : SortedMap String (List UInt8)
  directories : List Place
  deriving DecidableEq

namespace Files

/-- No files, and no directories but those that paths start in. -/
def empty : Files := ⟨.empty, []⟩

/-- What is read and written at a place. -/
def at? (f : Files) (p : Place) : Option (List UInt8) := f.contents.get? p.toText

/-- The place is a directory. Paths start in directories, and so does what lies above them. -/
def isDirectory (f : Files) (p : Place) : Bool :=
  p.parts.all (· == "..") || f.directories.contains p

/-! ## Finding a place -/

/-- The longest name of a file, in bytes. -/
def longestName : Nat := 255

/-- The longest path, in bytes. -/
def longestPath : Nat := 4095

/-- Go on from a place through the components of a path, all of which must be entered from a
directory. -/
def walk (f : Files) (here : Place) : List String → Except FileError Place
  | [] => .ok here
  | component :: rest =>
    if f.isDirectory here then
      if component.utf8ByteSize > longestName then .error .nameTooLong
      else walk f (here.enter component) rest
    else if (f.at? here).isSome then .error .notDirectory
    else .error .notFound

/-- The components of a path between its slashes, and where they start. -/
def startOf (path : String) : Place × List String :=
  let components := (Text.pieces '/' path.toList).map String.ofList
  match path.toList with
  | '/' :: _ => (⟨true, []⟩, components.tail)
  | _ => (⟨false, []⟩, components)

/-- The place that a path leads to. -/
def locate (f : Files) (path : String) : Except FileError Place :=
  if path.toList.contains '\x00' then .error .nulInName
  else if path.isEmpty then .error .notFound
  else if path.utf8ByteSize > longestPath then .error .nameTooLong
  else
    let (start, components) := startOf path
    walk f start components

/-! ## Reading and writing -/

/-- The bytes of the file that a path leads to. -/
def read (f : Files) (path : String) : Except FileError (List UInt8) := do
  let p ← f.locate path
  if f.isDirectory p then .error .isDirectory
  else
    match f.at? p with
    | some bytes => .ok bytes
    | none => .error .notFound

/-- The text of the file that a path leads to. -/
def readText (f : Files) (path : String) : Except FileError String := do
  match Text.decodeStrict? (← f.read path) with
  | some s => .ok s
  | none => .error .notText

/-- The path without slashes at its end, and whether it had any. -/
def withoutSlash (path : String) : String × Bool :=
  let cs := path.toList.reverse.dropWhile (· == '/')
  if cs.isEmpty then (path, false) else (String.ofList cs.reverse, path.toList.getLast? == some '/')

/-- The files after bytes were appended to the one that a path leads to. A path with a slash at its end
leads to no file. -/
def append (f : Files) (path : String) (bytes : List UInt8) : Except FileError Files := do
  let (file, slash) := withoutSlash path
  let p ← f.locate file
  if slash || f.isDirectory p then .error .isDirectory
  else .ok { f with contents := f.contents.update p.toText fun old => old.getD [] ++ bytes }

/-- Appending to a file adds the bytes behind the ones at its place, and leaves all other places as they
were. -/
theorem at?_append {f f' : Files} {path : String} {bytes : List UInt8}
    (h : f.append path bytes = .ok f') :
    ∃ p, f.locate (withoutSlash path).1 = .ok p ∧ f.isDirectory p = false ∧
      ∀ q, f'.at? q = if q.toText = p.toText then some ((f.at? p).getD [] ++ bytes) else f.at? q := by
  cases hp : f.locate (withoutSlash path).1 with
  | error e => simp [append, hp, bind, Except.bind] at h
  | ok p =>
    simp only [append, hp, bind, Except.bind] at h
    split at h
    · simp at h
    · next hd =>
      simp only [Bool.or_eq_true, not_or, Bool.not_eq_true] at hd
      cases h
      refine ⟨p, rfl, hd.2, fun q => ?_⟩
      rw [at?, SortedMap.get?_update, at?, at?]

/-- The files with the directories that a path names on its way. -/
def withParents (f : Files) (path : String) : Files :=
  let (start, components) := startOf path
  let p := components.foldl (fun p c => p.enter c) start
  { f with directories := f.directories ++ p.ancestors.filter (!f.isDirectory ·) }

/-- The files with one more, and the directories on the way to it. -/
def create (f : Files) (path : String) (bytes : List UInt8) : Files :=
  let (start, components) := startOf path
  let p := components.foldl (fun p c => p.enter c) start
  { f.withParents path with contents := f.contents.insert p.toText bytes }

/-- The files that have grown since, and the bytes that each has grown by. -/
def growth (before after : Files) : List (String × List UInt8) :=
  after.contents.entries.filterMap fun (name, bytes) =>
    let new := bytes.drop ((before.contents.get? name).getD []).length
    if new.isEmpty then none else some (name, new)

end Files

end SwitchFabric
