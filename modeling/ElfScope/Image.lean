import ElfScope.Files
import ElfScope.Log.Event
import ElfScope.Traced

/-!
# Images

The contents of an input file, mapped or read. Both ways give the same bytes; an empty file
cannot be mapped and is read.
-/

namespace ElfScope

/-- How an image holds its bytes: the file is `mapped`, or the bytes are a copy (`owned`). -/
inductive Backing where
  | mapped
  | owned
  deriving DecidableEq, Repr

/-- The contents of an input file, and how they are held. -/
structure Image where
  backing : Backing
  bytes : Bytes
  deriving DecidableEq, Repr

/-- A step on the way to an image: the file is opened, its contents are read, or it is mapped. -/
inductive FileStep where
  | opening
  | reading
  | mapping
  deriving DecidableEq, Repr

/-- The name of a step. -/
def FileStep.name : FileStep → String
  | .opening => "open"
  | .reading => "read"
  | .mapping => "mmap"

/-- Why there is no image of the file at a path: the step that failed, and the fault behind it. -/
structure FileError where
  path : String
  step : FileStep
  fault : FileFault
  deriving DecidableEq, Repr

/-- What is said about a file without an image. -/
def FileError.message (error : FileError) : String :=
  error.step.name ++ " " ++ error.path ++ ": " ++ error.fault.message

namespace Image

/-- The image of bytes at hand. -/
def ofBytes (bytes : Bytes) : Image := ⟨.owned, bytes⟩

/-- The image of the file at `path`. -/
def load (files : Files) (path : String) (mode : ReadMode) :
    Traced Event (Except FileError Image) :=
  match files.entry path with
  | .error fault => return .error ⟨path, .opening, fault⟩
  | .ok .directory =>
    match mode with
    | .mapped => return .error ⟨path, .mapping, .notMappable⟩
    | .buffered => return .error ⟨path, .reading, .isDirectory⟩
  | .ok (.file contents) =>
    if mode = .mapped ∧ 0 < contents.size then do
      Traced.emit (.mappedFile path contents.size)
      return .ok ⟨.mapped, contents⟩
    else do
      Traced.emit (.readFile path contents.size)
      return .ok ⟨.owned, contents⟩

/-- The image as reports of its state show it. -/
def describe (image : Image) : String :=
  let backing := match image.backing with
    | .mapped => "mapped"
    | .owned => "owned"
  "RawImage \x7b backing: \"" ++ backing ++ "\", len: " ++ Text.decimal image.bytes.size
    ++ " \x7d"

end Image

end ElfScope
