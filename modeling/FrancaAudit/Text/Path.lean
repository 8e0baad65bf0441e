/-!
Paths to files, as texts of steps between slashes.
-/

namespace FrancaAudit.Text

/-- The steps of a path. Empty steps, as between two slashes, do not count; steps that stay where
they are count only at the beginning of a relative path. -/
def pathSteps (path : String) : List String :=
  let steps := (path.splitOn "/").filter (· ≠ "")
  match path.toList, steps with
  | '/' :: _, steps => steps.filter (· ≠ ".")
  | _, "." :: rest => "." :: rest.filter (· ≠ ".")
  | _, steps => steps.filter (· ≠ ".")

def fileName? (path : String) : Option String :=
  match (pathSteps path).getLast? with
  | none | some "." | some ".." => none
  | some name => some name

def isAbsolute (path : String) : Bool := path.toList.head? = some '/'

def withSteps (path : String) (steps : List String) : String :=
  (if isAbsolute path then "/" else "") ++ String.intercalate "/" steps

/-- The path without what does not count in it. -/
def tidyPath (path : String) : String := withSteps path (pathSteps path)

def parentPath (path : String) : String := withSteps path (pathSteps path).dropLast

/-- Where `path` leads from `base`. An absolute path leads to the same place from everywhere. -/
def joinPath (base path : String) : String :=
  if isAbsolute path || base.isEmpty then path
  else if base.endsWith "/" then base ++ path
  else base ++ "/" ++ path

end FrancaAudit.Text
