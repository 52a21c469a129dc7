import TokenEcho.Files.FileSystem

/-!
# Directory trees

A tree of directories, files and links. A path is followed segment by segment: `..` leads to the
directory above, a link continues with its target, and only so many links are followed.
-/

namespace TokenEcho

inductive Entry where
  | file (content : List UInt8)
  | device (content : List UInt8)
  | directory
  | link (target : Path)
deriving DecidableEq, Inhabited

/-- The names that lead from the root to an entry. -/
abbrev Place := List (List Char)

/-- The entries of a tree by their places. The root itself is a directory. -/
structure Tree where
  entries : List (Place × Entry) := []

namespace Tree

def entry? (tree : Tree) (place : Place) : Option Entry :=
  if place.isEmpty then some .directory else tree.entries.lookup place

def put (tree : Tree) (place : Place) (entry : Entry) : Tree :=
  ⟨(place, entry) :: tree.entries.filter (·.1 != place)⟩

/-- The number of links that are followed on one path. -/
def maxLinks : Nat := 40

def maxName : Nat := 255

def maxPath : Nat := 4095

/-- Follows segments from a place to the place that they lead to. Everything but the last place has
to be a directory. -/
def follow (tree : Tree) (links : Nat) (place : Place) (segments : List (List Char)) :
    Except IoError Place :=
  match segments with
  | [] => .ok place
  | segment :: rest =>
      if tree.entry? place != some .directory then .error .notDirectory
      else if Path.isIdle segment then tree.follow links place rest
      else if segment == ['.', '.'] then tree.follow links place.dropLast rest
      else if Text.byteLength segment > maxName then .error .nameTooLong
      else
        match tree.entry? (place ++ [segment]) with
        | none => .error .notFound
        | some (.link target) =>
            match links with
            | 0 => .error .tooManyLinks
            | links + 1 =>
                tree.follow links (if target.isAbsolute then [] else place)
                  (target.segments ++ rest)
        | some _ => tree.follow links (place ++ [segment]) rest
termination_by (links, segments.length)

/-- Follows segments from a place, and makes a directory wherever they lead nowhere. -/
def makeWay (tree : Tree) (place : Place) : List (List Char) → Tree × Place
  | [] => (tree, place)
  | segment :: rest =>
      match tree.follow maxLinks place [segment] with
      | .ok next => tree.makeWay next rest
      | .error _ => (tree.put (place ++ [segment]) .directory).makeWay (place ++ [segment]) rest

def makeDirectory (tree : Tree) (place : Place) (p : Path) : Tree :=
  (tree.makeWay place p.segments).1

def make (tree : Tree) (place : Place) (p : Path) (entry : Entry) : Tree :=
  let segments := Path.dropIdle p.segments
  match segments.getLast? with
  | none => tree
  | some name =>
      let (tree, above) := tree.makeWay place segments.dropLast
      tree.put (above ++ [name]) entry

/-- The place that a path leads to, from a working directory, if the path is within a limit. -/
def resolve (tree : Tree) (cwd : Place) (limit? : Option Nat) (p : Path) : Except IoError Place :=
  if p.text.toList.contains '\x00' then .error .zeroByteInName
  else if p.text.isEmpty then .error .notFound
  else if limit?.any (· < p.text.utf8ByteSize) then .error .nameTooLong
  else tree.follow maxLinks (if p.isAbsolute then [] else cwd) p.segments

def look (tree : Tree) (cwd : Place) (p : Path) : Except IoError Found :=
  match tree.resolve cwd (some maxPath) p with
  | .error e => .error e
  | .ok place =>
      match tree.entry? place with
      | some (.file content) => .ok (.file (.ok content))
      | some (.device content) => .ok (.device content)
      | some .directory => .ok .directory
      | _ => .error .notFound

/-- The answers of a tree to a program in a working directory that is there. A canonical name is
found segment by segment, so the length of the path does not matter for it. -/
def fileSystem (tree : Tree) (cwd : Place) : FileSystem where
  workingDirectory := .ok (.ofSegments true cwd)
  look := tree.look cwd
  canonical? := fun p => (tree.resolve cwd none p).toOption.map (.ofSegments true)

end Tree

end TokenEcho
