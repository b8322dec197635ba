/-! A policy document is a list of sections, each a list of pairs of a key and a value. Sections
keep the order in which they appear, and a name that appears again opens another section. What
stands before the first header belongs to a section without a name. -/
namespace ArchiveUpkeep.Ini

structure Pair where
  key : String
  value : String
deriving DecidableEq, Repr

structure Section where
  name : Option String
  pairs : List Pair
deriving DecidableEq, Repr

abbrev Document := List Section

/-- The first value that a section gives for a key. -/
def Section.get? (block : Section) (key : String) : Option String :=
  (block.pairs.find? (·.key = key)).map Pair.value

/-- What a document says, in the order of its text. -/
inductive Item where
  | header (name : String)
  | pair (key value : String)
deriving DecidableEq, Repr

/-- The items grouped under their headers, the first ones under none. -/
def Document.ofItems (items : List Item) : Document := go none [] items
where
  /-- `pairs` holds the pairs of the open section, the last one first. -/
  go (name : Option String) (pairs : List Pair) : List Item → Document
    | [] => [⟨name, pairs.reverse⟩]
    | .header next :: rest => ⟨name, pairs.reverse⟩ :: go (some next) [] rest
    | .pair key value :: rest => go name (⟨key, value⟩ :: pairs) rest

end ArchiveUpkeep.Ini
