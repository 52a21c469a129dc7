import TokenEcho.Files.FileSystem
import TokenEcho.Manifest.Decode

/-!
# Where manifests are found

A manifest is a regular file with a fixed name. The search goes up from a directory to the nearest
one that has it, and a manifest that is found is never passed over, however bad it is.
-/

namespace TokenEcho.Manifest

def nearest? (fs : FileSystem) (directory : Path) : Option Path :=
  let candidate := directory.join fileName
  if fs.isFile candidate then some candidate
  else
    match h : directory.parent? with
    | none => none
    | some above =>
        have := Path.parent?_segments_length_lt h
        nearest? fs above
termination_by directory.segments.length

def load (fs : FileSystem) (file : Path) : Except ManifestError Manifest :=
  match fs.readText file with
  | .error cause => .error (.unreadable cause)
  | .ok source => ofText source (file.parent?.getD ⟨"."⟩)

def loadNearest (fs : FileSystem) (directory : Path) : Except ManifestError Manifest :=
  match nearest? fs directory with
  | none => .error (.notFound directory.text)
  | some file => load fs file

/-- The manifest in a directory itself. -/
def loadFrom (fs : FileSystem) (directory : Path) : Except ManifestError Manifest :=
  let candidate := directory.join fileName
  if fs.isFile candidate then load fs candidate else .error (.notFound directory.text)

end TokenEcho.Manifest
