import Menu.View

/-!
# Listings

A listing shows a view as text: a row for the title and one for each entry, each ended by a line feed.
Headings and warnings are marked as such.  In a numbered listing the row of an entry starts with its index,
to the right of a column that is as wide as the last index, and a mark that says whether the entry has a
command; blanks at the end of such a row are cut off.
-/

namespace Menu

/-- What stands in front of a heading. -/
def titleMark : String := "-- "

/-- What stands in front of a warning. -/
def warningMark : String := "[warning] "

/-- The row of an entry. -/
def Entry.row (e : Entry) : String :=
  match e.kind with
  | .title => titleMark ++ e.text
  | .warning => warningMark ++ e.text
  | .normal => e.text

/-- A text with blanks in front of it that fill it up to a width. -/
def padLeft (width : Nat) (s : String) : String :=
  String.ofList (List.replicate (width - s.length) ' ') ++ s

/-- The row of an entry in a numbered listing, with an index column of some width. -/
def Entry.numberedRow (width index : Nat) (e : Entry) : String :=
  String.ofList (Text.trimEnd
    (padLeft width (toString index) ++ (if e.hasCommand then "*" else " ") ++ " " ++ e.row).toList)

namespace View

/-- The width of the index column. -/
def indexWidth (v : View) : Nat :=
  (toString (v.size - 1)).length

/-- The rows of a listing. -/
def rows (v : View) (numbered : Bool) : List String :=
  v.title ::
    if numbered then v.entries.mapIdx fun index e => e.numberedRow v.indexWidth index
    else v.entries.map Entry.row

/-- The listing of a view. -/
def listing (v : View) (numbered : Bool) : String :=
  "\n".intercalate (v.rows numbered) ++ "\n"

end View

end Menu
