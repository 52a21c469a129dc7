import TokenEcho.Files.Path
import TokenEcho.IoError
import TokenEcho.Text.Utf8

/-!
# What a program sees of its files

A file system is known by its answers: where the program stands, what a path leads to once links are
followed, and what the canonical name of that is. Any of them may be that there is no such thing,
also the first, since a program keeps standing in a directory that is removed. The answers do not
change during a run.
-/

namespace TokenEcho

/-- What a path leads to: a regular file, which may refuse to be read, a device, which can be read
but is no regular file, or a directory. -/
inductive Found where
  | file (content : Except IoError (List UInt8))
  | device (content : List UInt8)
  | directory
deriving Inhabited

structure FileSystem where
  workingDirectory : Except IoError Path
  look : Path → Except IoError Found
  canonical? : Path → Option Path

namespace FileSystem

def isFile (fs : FileSystem) (p : Path) : Bool :=
  match fs.look p with
  | .ok (.file _) => true
  | _ => false

def readBytes (fs : FileSystem) (p : Path) : Except IoError (List UInt8) :=
  match fs.look p with
  | .error e => .error e
  | .ok .directory => .error .isDirectory
  | .ok (.device content) => .ok content
  | .ok (.file content) => content

def readText (fs : FileSystem) (p : Path) : Except IoError String := do
  match Text.decode? (← fs.readBytes p) with
  | none => .error .notUtf8
  | some text => .ok text

end FileSystem

end TokenEcho
