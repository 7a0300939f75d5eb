import Diorama.Canvas.Basic
import Diorama.Files.Path
import Diorama.Files.SystemError

/-!
# File systems

A file system is a value: a tree with directories as nodes, files and links as leaves, a working
directory for relative paths, and the rights to change what there is.  Every operation takes a file
system and gives the changed one or the cause of its failure.

A path leads along the names in it, and a link on its way leads on along the names of its target.
Reading and writing go on to the end; making a directory and removing a file stop at the entry that
the last name stands for, even if it is a link.

**Main statements.**
* `at?_put_self`: what is put into a directory stands there.
* `at?_put_of_ne` and `at?_erase_of_ne`: the other entries of the directory stay as they are.
* `resolve_cons`: one name on the way of a path.
-/

namespace Diorama

/-- The pixels of an image by rows from the top. -/
structure Picture where
  width : Nat
  height : Nat
  pixels : Array Pixel
  deriving DecidableEq

/-- The picture on a canvas. -/
def Canvas.picture
    {α : Type}
    (c : Canvas α) :
    Picture :=
  ⟨c.width, c.height, c.cells.map Cell.pixel⟩

/-- What a file holds: plain bytes, or an image in one of the image formats. -/
inductive Content
  | bytes (bytes : List UInt8)
  | image (format : Text) (picture : Picture)
  deriving DecidableEq

/-- The plain bytes that a file holds; those of an image are not kept. -/
def Content.plainBytes : Content → List UInt8
  | .bytes held => held
  | .image _ _ => []

/-- A file, a link to another path, or a directory with what it holds by name. -/
inductive Node
  | file (content : Content)
  | link (target : Path)
  | directory (entries : List (Text × Node))

/-- What a node is, without what stands below it. -/
inductive Kind
  | file (content : Content)
  | link (target : Path)
  | directory
  deriving DecidableEq

/-- The names that lead to a place from a directory, as directories show them. -/
abbrev Place := List Text

namespace Node

/-- What a node is. -/
def kind : Node → Kind
  | .file content => .file content
  | .link target => .link target
  | .directory _ => .directory

/-- What a directory holds; a file and a link hold no entries. -/
def entries : Node → List (Text × Node)
  | .file _ | .link _ => []
  | .directory entries => entries

/-- What stands at a place below a node. -/
def at? : Node → Place → Option Node
  | node, [] => some node
  | .file _, _ :: _ | .link _, _ :: _ => none
  | .directory entries, name :: rest =>
      match Named.find? name entries with
      | some node => node.at? rest
      | none => none

/-- Put something at a place below a node; missing directories on the way are made. -/
def put : Node → Place → Node → Node
  | _, [], new => new
  | .file content, _ :: _, _ => .file content
  | .link target, _ :: _, _ => .link target
  | .directory entries, name :: rest, new =>
      let below := (Named.find? name entries).getD (.directory [])
      .directory (Named.insert name (below.put rest new) entries)

/-- Take away what stands at a place below a node. -/
def erase : Node → Place → Node
  | node, [] => node
  | .file content, _ :: _ => .file content
  | .link target, _ :: _ => .link target
  | .directory entries, [name] => .directory (Named.erase name entries)
  | .directory entries, name :: next :: rest =>
      match Named.find? name entries with
      | some node => .directory (Named.insert name (node.erase (next :: rest)) entries)
      | none => .directory entries

mutual

/-- A node and all nodes below it, each with its place. -/
def listing : Place → Node → List (Place × Node)
  | place, .file content => [(place, .file content)]
  | place, .link target => [(place, .link target)]
  | place, .directory entries => (place, .directory entries) :: listings place entries

/-- The nodes of the entries of a directory. -/
def listings : Place → List (Text × Node) → List (Place × Node)
  | _, [] => []
  | place, (name, node) :: rest => listing (place ++ [name]) node ++ listings place rest

end

@[simp]
theorem at?_nil
    (node : Node) :
    node.at? [] = some node := by
  cases node <;> rfl

theorem at?_put_self
    (entries : List (Text × Node))
    (name : Text)
    (new : Node) :
    ((directory entries).put [name] new).at? [name] = some new := by
  simp [put, at?]

theorem at?_put_of_ne
    {name other : Text}
    (hne : other ≠ name)
    (entries : List (Text × Node))
    (place rest : Place)
    (new : Node) :
    ((directory entries).put (name :: place) new).at? (other :: rest)
      = (directory entries).at? (other :: rest) := by
  simp [put, at?, Named.find?_insert_of_ne hne]

theorem at?_erase_of_ne
    {name other : Text}
    (hne : other ≠ name)
    (entries : List (Text × Node))
    (place rest : Place) :
    ((directory entries).erase (name :: place)).at? (other :: rest)
      = (directory entries).at? (other :: rest) := by
  cases place with
  | nil => simp [erase, at?, Named.find?_erase_of_ne hne]
  | cons next place =>
      simp only [erase]
      split
      · simp [at?, Named.find?_insert_of_ne hne]
      · rfl

end Node

/-- What the system refuses to change. -/
structure Rights where
  /-- The places where no entry can be made or taken away. -/
  fixed : Place → Bool := fun _ => false
  /-- The places of files that cannot be written. -/
  readOnly : Place → Bool := fun _ => false

/-- What the root directory holds, the place of the working directory, and the rights. -/
structure FileSystem where
  entries : List (Text × Node)
  workingDirectory : Place
  rights : Rights := {}

namespace FileSystem

/-- The longest name in bytes. -/
def maxNameBytes : Nat := 255

/-- The longest path in bytes. -/
def maxPathBytes : Nat := 4095

/-- The largest number of links on the way of a path. -/
def maxLinks : Nat := 40

/-- A file system with an empty working directory. -/
def empty
    (workingDirectory : Place) :
    FileSystem where
  entries := ((Node.directory []).put workingDirectory (.directory [])).entries
  workingDirectory

/-- The tree of all files and directories. -/
def root
    (fs : FileSystem) :
    Node :=
  .directory fs.entries

/-- What stands at a place. -/
def node?
    (fs : FileSystem)
    (place : Place) :
    Option Node :=
  fs.root.at? place

/-- What stands at a place, seen from outside. -/
def kind?
    (fs : FileSystem)
    (place : Place) :
    Option Kind :=
  (fs.node? place).map Node.kind

/-- Put something at a place; the root stays a directory. -/
def put
    (fs : FileSystem)
    (place : Place)
    (node : Node) :
    FileSystem :=
  { fs with entries := (fs.root.put place node).entries }

/-- Take away what stands at a place. -/
def erase
    (fs : FileSystem)
    (place : Place) :
    FileSystem :=
  { fs with entries := (fs.root.erase place).entries }

/-- All files, links and directories with their places. -/
def nodes
    (fs : FileSystem) :
    List (Place × Node) :=
  fs.root.listing []

/-! ## The way of a path -/

section

variable (kind? : Place → Option Kind)

/-- The place that a name stands for in a directory; two points stand for the one above. -/
def enter
    (place : Place)
    (name : Text) :
    Except SystemCause Place :=
  match kind? place with
  | none => .error .noSuchFile
  | some (.file _) | some (.link _) => .error .notADirectory
  | some .directory =>
      if maxNameBytes < (Text.nameBytes name).length then .error .nameTooLong
      else if name = ".." then .ok place.dropLast
      else .ok (place ++ [Text.listed name])

/-- Where following names stops: at the end, or at a link with names behind it. -/
inductive Halt
  | place (place : Place)
  | link (directory : Place) (target : Path) (rest : List Text)

/-- Follow names up to the next link. -/
def advance : List Text → Place → Except SystemCause Halt
  | [], place => .ok (.place place)
  | name :: rest, place =>
      match enter kind? place name with
      | .error cause => .error cause
      | .ok next =>
          match kind? next with
          | some (.link target) => .ok (.link place target rest)
          | _ => advance rest next

/-- The place where the names of a link begin that stands in a directory. -/
def linkStart
    (directory : Place)
    (target : Path) :
    Place :=
  if target.isAbsolute then [] else directory

/-- Follow names to their end; the first number bounds that of the links. -/
def resolve : Nat → List Text → Place → Except SystemCause Place
  | links, names, place =>
      match advance kind? names place with
      | .error cause => .error cause
      | .ok (.place found) => .ok found
      | .ok (.link directory target rest) =>
          match links with
          | 0 => .error .tooManyLinks
          | links + 1 => resolve links (target.names ++ rest) (linkStart directory target)

theorem resolve_nil
    (links : Nat)
    (place : Place) :
    resolve kind? links [] place = .ok place := by
  unfold resolve
  rfl

/-- One name on the way of a path. -/
theorem resolve_cons
    (links : Nat)
    (name : Text)
    (rest : List Text)
    (place : Place) :
    resolve kind? links (name :: rest) place
      = match enter kind? place name with
        | .error cause => .error cause
        | .ok next =>
            match kind? next with
            | some (.link target) =>
                match links with
                | 0 => .error .tooManyLinks
                | links + 1 =>
                    resolve kind? links (target.names ++ rest) (linkStart place target)
            | _ => resolve kind? links rest next := by
  rw [resolve, advance]
  cases enter kind? place name with
  | error cause => rfl
  | ok next =>
      rcases hnext : kind? next with _ | (content | target | _) <;> simp only [hnext]
      · rw [resolve]
      · rw [resolve]
      · rw [resolve]

end

/-- The names of a path from the root on. -/
def namesTo
    (fs : FileSystem)
    (p : Path) :
    List Text :=
  (if p.isAbsolute then [] else fs.workingDirectory) ++ p.names

/-- The place that a path leads to, to the end of its links. -/
def place
    (fs : FileSystem)
    (p : Path) :
    Except SystemCause Place :=
  if maxPathBytes < (Text.nameBytes p.toText).length then .error .nameTooLong
  else resolve fs.kind? maxLinks (fs.namesTo p) []

/-- The place of the entry that the last name of a path stands for, even if it is a link. -/
def entryPlace
    (fs : FileSystem)
    (p : Path) :
    Except SystemCause Place :=
  if maxPathBytes < (Text.nameBytes p.toText).length then .error .nameTooLong
  else
    match p.names.getLast? with
    | none => resolve fs.kind? maxLinks (fs.namesTo p) []
    | some name => do
        let directory ← resolve fs.kind? maxLinks (fs.namesTo p.parent) []
        enter fs.kind? directory name

/-! ## Operations -/

/-- What stands at a path, if anything; an overlong path or name is an error. -/
def lookup
    (fs : FileSystem)
    (p : Path) :
    Except SystemError (Option Node) :=
  match fs.place p with
  | .ok place => .ok (fs.node? place)
  | .error .nameTooLong => .error ⟨.nameTooLong, p.toText⟩
  | .error _ => .ok none

/-- Whether there is a directory at a path. -/
def isDirectory
    (fs : FileSystem)
    (p : Path) :
    Bool :=
  match fs.lookup p with
  | .ok (some (.directory _)) => true
  | _ => false

/-- Whether there is a file at a path. -/
def isFile
    (fs : FileSystem)
    (p : Path) :
    Bool :=
  match fs.lookup p with
  | .ok (some (.file _)) => true
  | _ => false

/-- Read a file. -/
def read
    (fs : FileSystem)
    (p : Path) :
    Except SystemError Content :=
  match fs.place p with
  | .error cause => .error ⟨cause, p.toText⟩
  | .ok place =>
      match fs.kind? place with
      | some (.file content) => .ok content
      | some .directory => .error ⟨.isADirectory, p.toText⟩
      | _ => .error ⟨.noSuchFile, p.toText⟩

/-- Whether the system refuses to write the file at a place, or to make one where none is. -/
def refusesFile
    (fs : FileSystem)
    (place : Place) :
    Bool :=
  match fs.kind? place with
  | none => fs.rights.fixed place
  | some _ => fs.rights.readOnly place

/-- Write a file; its directory has to be there. -/
def write
    (fs : FileSystem)
    (p : Path)
    (content : Content) :
    Except SystemError FileSystem :=
  match fs.place p with
  | .error cause => .error ⟨cause, p.toText⟩
  | .ok place =>
      match fs.kind? place with
      | some .directory => .error ⟨.isADirectory, p.toText⟩
      | _ =>
          if fs.refusesFile place then .error ⟨.permissionDenied, p.toText⟩
          else .ok (fs.put place (.file content))

/-- Remove the file or the link that a path stands for, if there is one. -/
def remove
    (fs : FileSystem)
    (p : Path) :
    Except SystemError FileSystem :=
  if p.names.isEmpty then .error ⟨.isADirectory, p.toText⟩
  else
    match fs.entryPlace p with
    | .error .noSuchFile => .ok fs
    | .error cause => .error ⟨cause, p.toText⟩
    | .ok place =>
        match fs.kind? place with
        | none => .ok fs
        | some .directory => .error ⟨.isADirectory, p.toText⟩
        | some _ =>
            if fs.rights.fixed place then .error ⟨.permissionDenied, p.toText⟩
            else .ok (fs.erase place)

/-- Make a directory where nothing is yet. -/
def makeDirectory
    (fs : FileSystem)
    (p : Path) :
    Except SystemCause FileSystem :=
  match fs.entryPlace p with
  | .error cause => .error cause
  | .ok place =>
      match fs.kind? place with
      | some _ => .error .alreadyExists
      | none =>
          if fs.rights.fixed place then .error .permissionDenied
          else .ok (fs.put place (.directory []))

/-- Why missing directories were not made. -/
inductive MakeFailure
  | system (error : SystemError)
  | tooManyMissing

/-- Make a directory, and first its missing ancestors; `limit` bounds their number. -/
def makeDirectories
    (fs : FileSystem) :
    Nat → Path → FileSystem × Option MakeFailure
  | 0, _ => (fs, some .tooManyMissing)
  | limit + 1, p =>
      let failed (fs : FileSystem) (cause : SystemCause) : Option MakeFailure :=
        if fs.isDirectory p then none else some (.system ⟨cause, p.toText⟩)
      match fs.makeDirectory p with
      | .ok made => (made, none)
      | .error .noSuchFile =>
          if p.names.isEmpty then (fs, some (.system ⟨.noSuchFile, p.toText⟩))
          else
            match fs.makeDirectories limit p.parent with
            | (made, some e) => (made, some e)
            | (made, none) =>
                match made.makeDirectory p with
                | .ok done => (done, none)
                | .error cause => (made, failed made cause)
      | .error cause => (fs, failed fs cause)

end FileSystem
end Diorama
