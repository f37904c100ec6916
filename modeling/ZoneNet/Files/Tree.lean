import ZoneNet.Files.Path
import ZoneNet.Native.Program

/-!
# Trees of files

What stands at which place. A path is walked part by part: each part but the last must be a
directory, and so must the last one if a separator stands behind it.
-/

namespace ZoneNet

/-- Where a device passes on what is written to it. -/
inductive Device where
  /-- Nowhere: nobody else sees it. -/
  | itself
  /-- To the standard error of the process. -/
  | standardError
  deriving DecidableEq, Repr

/-- How a program answers a command after all that has happened. -/
abbrev Program := World → Command → Completion

inductive Item where
  | directory
  /-- A file; one without a program cannot be started. -/
  | file (contents : List UInt8) (program : Option Program)
  | device (d : Device)
  /-- Something that cannot be opened. -/
  | closed (cause : SystemError)

/-- Whether a thing is a directory. -/
def Item.isDirectory : Item → Bool
  | directory => true
  | _ => false

structure FileTree where
  /-- What stands at which place; of two things at one place the first counts. -/
  items : List (Place × Item) := []
  /-- The directory that relative paths begin at. -/
  here : Place := []

namespace FileTree

variable (t : FileTree)

def find? (p : Place) : Option Item :=
  if p = [] then some .directory else (t.items.find? (·.1 = p)).map (·.2)

/-- Puts a thing at a place. -/
def put (p : Place) (i : Item) : FileTree := { t with items := (p, i) :: t.items }

/-- Puts a thing where a path leads to, and directories above it where nothing else stands. -/
def plant (path : String) (i : Item) : FileTree :=
  let p := Path.place t.here path
  let above := (List.range p.length).map fun n => (p.take n, Item.directory)
  { t with items := (p, i) :: t.items ++ above }

/-! ## Walking along paths -/

/-- Follows the parts of a path from a directory. The last name may be that of nothing. -/
def walk (p : Place) : List String → Except SystemError (Place × Option Item)
  | [] => .ok (p, some .directory)
  | part :: rest =>
    if Path.isIdle part then walk p rest
    else if part = ".." then walk p.dropLast rest
    else if Path.longestName < part.utf8ByteSize then .error .nameTooLong
    else
      match t.find? (p ++ [part]) with
      | some .directory => walk (p ++ [part]) rest
      | some i => if rest = [] then .ok (p ++ [part], some i) else .error .notDirectory
      | none => if rest.all (· = "") then .ok (p ++ [part], none) else .error .notFound

/-- The place that a path begins at, if the path has a length that can be. -/
def origin (path : String) : Except SystemError Place :=
  if path = "" then .error .notFound
  else if Path.longest < path.utf8ByteSize then .error .nameTooLong
  else .ok (if Path.isAbsolute path then [] else t.here)

/-- What a path leads to. -/
def resolve (path : String) : Except SystemError (Place × Option Item) :=
  match t.origin path with
  | .error e => .error e
  | .ok p => t.walk p (Path.parts path)

/-! ## Directories -/

def isDirectory (path : String) : Bool :=
  match t.resolve path with
  | .ok (_, some i) => i.isDirectory
  | _ => false

def makeDirectory (path : String) : Outcome SystemError Unit FileTree :=
  match t.resolve path with
  | .error e => (.error e, t)
  | .ok (_, some _) => (.error .alreadyExists, t)
  | .ok (p, none) => (.ok (), t.put p .directory)

/-- A directory that could not be made may be there already. -/
def orPresent (path : String) :
    Outcome SystemError Unit FileTree → Outcome SystemError Unit FileTree
  | (.ok (), t) => (.ok (), t)
  | (.error e, t) => if t.isDirectory path then (.ok (), t) else (.error e, t)

/-- Makes a directory, after those above it if they are missing. The parts are those of its path,
the last one first; idle parts at its end do not count. -/
def makeDirectories (t : FileTree) : List String → Outcome SystemError Unit FileTree
  | [] => (.ok (), t)
  | part :: above =>
    if Path.isIdle part then makeDirectories t above
    else
      let path := Path.ofParts (part :: above).reverse
      match t.makeDirectory path with
      | (.error .notFound, t) =>
        (makeDirectories t above).andThen fun _ t => orPresent path (t.makeDirectory path)
      | o => orPresent path o

/-! ## Opening -/

/-- Opens a device or a file that is there for writing. -/
def openForWriting (path : String) : Except SystemError (Place × Device) :=
  match t.resolve path with
  | .error e => .error e
  | .ok (_, none) => .error .notFound
  | .ok (_, some .directory) => .error .isDirectory
  | .ok (_, some (.closed e)) => .error e
  | .ok (p, some (.file ..)) => .ok (p, .itself)
  | .ok (p, some (.device d)) => .ok (p, d)

/-- Why a path with a separator at its end leads to no file that could be made: what stands above
the last name, or else that only a directory can have such a path. -/
def refusal (path : String) : SystemError :=
  match t.origin path with
  | .error e => e
  | .ok p =>
    match t.walk p (Path.before path ++ [""]) with
    | .error e => e
    | .ok (_, none) => .notFound
    | .ok _ => .isDirectory

/-- Opens a file for writing from its beginning, and makes it if it is missing. -/
def openOrCreate (path : String) : Outcome SystemError Place FileTree :=
  if Path.endsOpen path then (.error (t.refusal path), t)
  else
    match t.resolve path with
    | .error e => (.error e, t)
    | .ok (p, none) => (.ok p, t.put p (.file [] none))
    | .ok (_, some .directory) => (.error .isDirectory, t)
    | .ok (_, some (.closed e)) => (.error e, t)
    | .ok (p, some (.file _ program)) => (.ok p, t.put p (.file [] program))
    | .ok (p, some (.device _)) => (.ok p, t)

/-- Makes a file anew, and the directories above it. -/
def createFile (path : String) : Outcome SystemError Place FileTree :=
  (t.makeDirectories (Path.above path)).andThen fun _ t =>
    t.openOrCreate path

/-! ## Programs -/

/-- Starts a program; none can be started while its file is being written to. -/
def start (busy : List Place) (w : World) (c : Command) : Except SystemError Completion :=
  match t.resolve c.path with
  | .error e => .error e
  | .ok (_, none) => .error .notFound
  | .ok (p, some (.file _ (some program))) =>
    if p ∈ busy then .error .textBusy else .ok (program w c)
  | .ok _ => .error .permissionDenied

/-- What stands at a path; a device is no file. -/
def node (path : String) : Option Node :=
  match t.resolve path with
  | .error _ | .ok (_, none) => none
  | .ok (_, some (.file ..)) => some .file
  | .ok _ => some .directory

end FileTree

end ZoneNet
