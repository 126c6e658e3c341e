/-!
The home directory of the program, taken from the environment.
-/

namespace CrossRef.HomePath

/-- The parts of a path between slashes; a part that stays in place is left out. -/
def parts (path : String) : List String :=
  (path.splitOn "/").filter fun part => part != "" && part != "."

/-- A path keeps its root: exactly two slashes in front stay two, more are one. -/
def root (path : String) : String :=
  match path.toList with
  | '/' :: '/' :: '/' :: _ => "/"
  | '/' :: '/' :: _ => "//"
  | '/' :: _ => "/"
  | _ => ""

/-- A path from its root and parts. -/
def join (start : String) (parts : List String) : String :=
  if start.isEmpty && parts.isEmpty then "." else start ++ "/".intercalate parts

/-- Steps to the parent directory are taken; above the root there is nothing. -/
def resolveParts (parts : List String) : List String :=
  (parts.foldl (fun taken part => if part = ".." then taken.drop 1 else part :: taken) []).reverse

/-- A part is added at the end of a path. -/
def child (path part : String) : String :=
  join (root path) (parts path ++ [part])

/-- A path as seen from the working directory, without steps to parent directories. -/
def resolve (workingDirectory path : String) : String :=
  let before := if (root path).isEmpty then parts workingDirectory else []
  join "/" (resolveParts (before ++ parts path))

/-- A tilde as the first part of a path stands for the user's home. A tilde with the name of another
user is not known. -/
def expand? (userHome path : String) : Option String :=
  match parts path with
  | first :: rest =>
    if (root path).isEmpty && first.startsWith "~" then
      if first = "~" then some (join (root userHome) (parts userHome ++ rest)) else none
    else some path
  | [] => some path

/-- The home of the program: the override, expanded and resolved, or a hidden directory in the
user's home. An empty override counts as none, and a user without home has the root. -/
def ofEnvironment? (override : Option String) (userHome workingDirectory : String) :
    Option String :=
  let home := if userHome.isEmpty then "/" else userHome
  match override.filter (!·.isEmpty) with
  | none => some (child home ".btex")
  | some path => (expand? home path).map (resolve workingDirectory)

end CrossRef.HomePath
