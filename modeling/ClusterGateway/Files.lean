/-!
# Files

What is known of the files of the host: their content, or why there is none. Paths are texts;
one that starts with a slash stands for itself, and any other is taken from a directory.
-/

namespace ClusterGateway

inductive FileError where
  | missing
  | isDirectory
  | notADirectory
  deriving DecidableEq, Repr

def FileError.message : FileError → String
  | missing => "No such file or directory (os error 2)"
  | isDirectory => "Is a directory (os error 21)"
  | notADirectory => "Not a directory (os error 20)"

abbrev Files := String → Except FileError (List UInt8)

namespace Files

def none : Files := fun _ => .error .missing

def isAbsolute (path : String) : Bool := path.startsWith "/"

def join (directory path : String) : String :=
  if isAbsolute path || directory.isEmpty then path
  else if directory.endsWith "/" then directory ++ path
  else directory ++ "/" ++ path

def directory (path : String) : String :=
  let back := path.toList.reverse.dropWhile (· == '/')
  match back.dropWhile (· != '/') with
  | [] => ""
  | rest =>
    let rest := rest.dropWhile (· == '/')
    if rest.isEmpty then "/" else String.ofList rest.reverse

end Files

end ClusterGateway
