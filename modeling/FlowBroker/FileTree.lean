import FlowBroker.Text.Basic

namespace FlowBroker

inductive FileFault where
  | notFound
  | notDirectory
  | isDirectory
  | nameTooLong
  | nulInName
  | notText
  deriving DecidableEq, Repr

def FileFault.message : FileFault → String
  | notFound => "No such file or directory (os error 2)"
  | notDirectory => "Not a directory (os error 20)"
  | isDirectory => "Is a directory (os error 21)"
  | nameTooLong => "File name too long (os error 36)"
  | nulInName => "file name contained an unexpected NUL byte"
  | notText => "stream did not contain valid UTF-8"

/-- The contents of files by the names on the way to them. -/
structure FileTree where
  files : List (List String × List UInt8)

namespace FileTree

def names (path : String) : List String :=
  (path.splitOn "/").filter fun name => name ≠ "" && name ≠ "."

def empty : FileTree := ⟨[]⟩

def put (t : FileTree) (path : String) (bytes : List UInt8) : FileTree :=
  ⟨(names path, bytes) :: t.files⟩

def file? (t : FileTree) (place : List String) : Option (List UInt8) := t.files.lookup place

def isDirectory (t : FileTree) (place : List String) : Bool :=
  t.files.any fun f => place.isPrefixOf f.1 && place ≠ f.1

def maxName : Nat := 255

def maxPath : Nat := 4095

/-- Follows names from a directory; there is none where the way has left the tree. -/
def follow (t : FileTree) : Option (List String) → List String → Except FileFault (List UInt8)
  | _, [] => .error .isDirectory
  | dir, name :: names =>
      if name = "" || name = "." then t.follow dir names
      else if name = ".." then
        t.follow (dir.bind fun d => if d.isEmpty then none else some d.dropLast) names
      else if maxName < name.utf8ByteSize then .error .nameTooLong
      else match dir with
      | none => .error .notFound
      | some dir =>
          match t.file? (dir ++ [name]) with
          | some bytes => if names.isEmpty then .ok bytes else .error .notDirectory
          | none =>
              if t.isDirectory (dir ++ [name]) then t.follow (some (dir ++ [name])) names
              else .error .notFound

def read (t : FileTree) (path : String) : Except FileFault (List UInt8) :=
  if path = "" then .error .notFound
  else if path.contains '\x00' then .error .nulInName
  else if maxPath < path.utf8ByteSize then .error .nameTooLong
  else t.follow (if path.startsWith "/" then none else some []) (path.splitOn "/")

def readText (t : FileTree) (path : String) : Except FileFault String := do
  match Utf8.strict? (← t.read path) with
  | some text => pure text
  | none => throw .notText

end FileTree

end FlowBroker
