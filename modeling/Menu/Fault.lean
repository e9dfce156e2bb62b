import Menu.Path
import Menu.Text.Surrogate

/-!
# Faults of the file system

What can go wrong when the system is asked for a file, as causes; `Fault.text` is the one place where
they are put into words.  A fault that comes from somewhere else than the tree carries its own words.

A path with a flaw does not get as far as the system, and is no fault of it.
-/

namespace Menu

/-- Reasons for which the system refuses a path. -/
inductive Refusal
  | notFound
  | taken
  | notDirectory
  | isDirectory
  | nameTooLong
  | tooManyLinks
deriving DecidableEq, Repr

namespace Refusal

/-- The number of a reason. -/
def code : Refusal → Int
  | notFound => 2
  | taken => 17
  | notDirectory => 20
  | isDirectory => 21
  | nameTooLong => 36
  | tooManyLinks => 40

/-- The words for a reason. -/
def text : Refusal → String
  | notFound => "No such file or directory"
  | taken => "File exists"
  | notDirectory => "Not a directory"
  | isDirectory => "Is a directory"
  | nameTooLong => "File name too long"
  | tooManyLinks => "Too many levels of symbolic links"

end Refusal

/-- What is wrong with a text that stands for no path of the system. -/
inductive Flaw
  /-- It holds the character NUL. -/
  | nul
  /-- It has no bytes. -/
  | lacking (what : Text.Lack)
deriving DecidableEq, Repr

/-- What is wrong with a text, in words. -/
def Flaw.text : Flaw → String
  | nul => "embedded null byte"
  | lacking what => what.text

/-- A failed request for a file. -/
inductive Fault
  /-- The system refused a path. -/
  | refused (why : Refusal) (path : Path)
  /-- The system refused to make a link with this target at a path. -/
  | refusedLink (why : Refusal) (target : String) (path : Path)
  /-- Another source of files failed in its own words, with a number or without. -/
  | reported (code : Option Int) (message : String)
  /-- A document has no canonical path, since following `link` leads back to it. -/
  | endless (document link : Path)
deriving DecidableEq, Repr

namespace Fault

/-- A refusal in words that do not name the path. -/
def bare (why : Refusal) : Fault :=
  .reported (some why.code) why.text

/-- The number of a fault, if it has one. -/
def code? : Fault → Option Int
  | refused why _ => some why.code
  | refusedLink why _ _ => some why.code
  | reported code _ => code
  | endless _ _ => none

/-- A number in front of words. -/
def numbered (code : Int) (words : String) : String :=
  "[Errno " ++ toString code ++ "] " ++ words

/-- The words for links that lead back to themselves. -/
def loopText (link : Path) : String :=
  "Symlink loop from " ++ Text.quoted link.text

/-- The words for a document or target without a canonical path. -/
def notCanonicalText (path : Path) (why : String) : String :=
  "could not canonicalize path, " ++ path.text ++ ", " ++ why

/-- The words for a fault. -/
def text : Fault → String
  | refused why path => numbered why.code (why.text ++ ": " ++ Text.quoted path.text)
  | refusedLink why target path =>
    numbered why.code
      (why.text ++ ": " ++ Text.quoted target ++ " -> " ++ Text.quoted path.text)
  | reported (some code) message => numbered code message
  | reported none message => message
  | endless document link => notCanonicalText document (loopText link)

end Fault

end Menu
