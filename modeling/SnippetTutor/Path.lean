import SnippetTutor.Text.Split

/-!
# Paths

Paths are texts with slashes between their parts. `Path.tidy` drops what makes no difference
without looking at the file system: repeated slashes and the part `.`. `Path.resolve` also takes a
path from the working directory to the root and follows the part `..`.
-/

namespace SnippetTutor.Path

/-- The parts of a path that matter. -/
def parts (path : String) : List String :=
  (Text.split '/' path).filter fun part => part != "" && part != "."

/-- The start of an absolute path. Exactly two slashes are a root of their own. -/
def rootOf (path : String) : String :=
  match path.toList.takeWhile (· == '/') with
  | [] => ""
  | ['/', '/'] => "//"
  | _ => "/"

/-- Parts with slashes between them, below a root. -/
def write (root : String) (parts : List String) : String := root ++ "/".intercalate parts

/-- A path in its plainest form. -/
def tidy (path : String) : String :=
  match write (rootOf path) (parts path) with
  | "" => "."
  | written => written

/-- The directory that holds the last part of a path. -/
def parent (path : String) : String := tidy (write (rootOf path) (parts path).dropLast)

/-- The path of an entry of a directory; an absolute entry stands for itself. -/
def join (directory entry : String) : String :=
  if rootOf entry == "" then tidy (write (rootOf directory) (parts directory ++ parts entry))
  else tidy entry

/-- One step along a path, given the parts so far in reverse. -/
def step (above : List String) (part : String) : List String :=
  if part == ".." then above.drop 1 else part :: above

/-- The parts that remain when each `..` takes back the part before it. -/
def follow (parts : List String) : List String := (parts.foldl step []).reverse

/-- The path from the root. -/
def resolve (workingDirectory path : String) : String :=
  if rootOf path == "" then
    write (rootOf workingDirectory) (follow (parts workingDirectory ++ parts path))
  else write "/" (follow (parts path))

end SnippetTutor.Path
