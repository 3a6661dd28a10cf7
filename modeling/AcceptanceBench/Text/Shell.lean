/-!
Command lines and paths, as a shell reads them.
-/

namespace AcceptanceBench.Text.Shell

/-- Whether a character needs no quotes on a command line. -/
def isSafe (c : Char) : Bool :=
  c.isAlphanum || "@%_-+=:,./".toList.contains c

/-- A word of a command line, in apostrophes if it needs any. An apostrophe inside is put between
double quotes of its own. -/
def quote (word : String) : String :=
  let cs := word.toList
  if !cs.isEmpty && cs.all isSafe then word
  else
    String.ofList ('\x27' :: cs.flatMap (fun c =>
      if c = '\x27' then ['\x27', '\x22', '\x27', '\x22', '\x27'] else [c]) ++ ['\x27'])

/-- A command line of some words. -/
def join (words : List String) : String :=
  " ".intercalate (words.map quote)

/-- A path below a directory; an absolute path stands for itself. -/
def under (directory path : String) : String :=
  if path.startsWith "/" || directory = "" then path
  else if directory.endsWith "/" then directory ++ path
  else directory ++ "/" ++ path

/-- The parts of a path without those that say nothing: empty ones, single dots, and a part that two
dots take back. What two dots take back beyond the root is nothing; `found` are the parts so far,
the last one first. -/
def simplify (absolute : Bool) : (found : List String) → List String → List String
  | found, [] => found.reverse
  | found, part :: rest =>
    if part = "" ∨ part = "." then simplify absolute found rest
    else if part ≠ ".." then simplify absolute (part :: found) rest
    else
      match found with
      | [] => simplify absolute (if absolute then [] else [part]) rest
      | last :: before =>
        simplify absolute (if last = ".." then part :: found else before) rest

/-- The shortest spelling of a path. Two slashes at its front are kept, more are one, and the path
of nothing is a dot. -/
def normal (path : String) : String :=
  let slashes := (path.toList.takeWhile (· == '/')).length
  let front := if slashes = 0 then "" else if slashes = 2 then "//" else "/"
  let parts := simplify (slashes != 0) [] (path.splitOn "/")
  let whole := front ++ "/".intercalate parts
  if whole = "" then "." else whole

end AcceptanceBench.Text.Shell
