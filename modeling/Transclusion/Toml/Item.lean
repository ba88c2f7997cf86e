import Transclusion.Table
/-!
# Tables of a TOML document

A TOML document is a table of keys, which can hold further tables.  What counts here is which keys
are defined, and the values that are booleans.  A table is defined once: by a header, by the keys
with dots that lead through it, or as a value in braces.  The three ways cannot be mixed, except
that a header may follow for a table that so far has only been passed through by other headers.
-/

namespace Transclusion.Toml

/-- How a table has come about. -/
inductive TableOrigin where
  /-- A header of its own. -/
  | header
  /-- The header of a table inside of it. -/
  | passed
  /-- A key with dots that leads through it. -/
  | dotted
deriving DecidableEq, Repr

inductive Item where
  | boolean (value : Bool)
  /-- A value that is no boolean; nothing can be added to it. -/
  | value
  | table (origin : TableOrigin) (entries : List (String × Item))
  /-- An array of tables, of which only the last can be added to. -/
  | tables (last : List (String × Item))
deriving Repr

/-- The entries of a table. -/
abbrev Entries := List (String × Item)

namespace Entries

def get? (entries : Entries) (key : String) : Option Item :=
  (entries.find? fun entry => entry.1 = key).map (·.2)

/-- Gives a key another item, or adds it. -/
def set (entries : Entries) (key : String) (item : Item) : Entries :=
  Table.insertEntry key item entries

/-- Changes the table at a path of keys, making the tables on the way. A path of a key with dots
does not lead through tables that have a header. -/
def change (inKey : Bool) (edit : TableOrigin → Entries → Option Entries) :
    List String → TableOrigin → Entries → Option Entries
  | [], origin, entries => edit origin entries
  | key :: path, _, entries =>
    match get? entries key with
    | none => do
      let origin := if inKey then TableOrigin.dotted else .passed
      return set entries key (.table origin (← change inKey edit path origin []))
    | some (.table origin inner) =>
      if inKey && origin = .header then none
      else do return set entries key (.table origin (← change inKey edit path origin inner))
    | some (.tables last) => do
      return set entries key (.tables (← change inKey edit path .header last))
    | some _ => none

/-- Adds a key that is not there. -/
def add (entries : Entries) (key : String) (item : Item) : Option Entries :=
  if (get? entries key).isSome then none else some (entries ++ [(key, item)])

/-- Adds the value of a key with dots to a table: `path` leads to the table that the key `last` is
added to. Keys without and with dots do not add to the same table. -/
def addAt (entries : Entries) (origin : TableOrigin) (path : List String) (last : String)
    (item : Item) : Option Entries :=
  let edit := fun (origin : TableOrigin) (entries : Entries) =>
    if decide (origin = .dotted) = path.isEmpty then none else add entries last item
  change true edit path origin entries

/-- Opens the table of a header. -/
def openTable (entries : Entries) (path : List String) (last : String) : Option Entries :=
  let edit := fun (_ : TableOrigin) (entries : Entries) =>
    match get? entries last with
    | none => some (set entries last (.table .header []))
    | some (.table .passed inner) => some (set entries last (.table .header inner))
    | some _ => none
  change false edit path .header entries

/-- Opens the next table of an array of tables. -/
def openNext (entries : Entries) (path : List String) (last : String) : Option Entries :=
  let edit := fun (_ : TableOrigin) (entries : Entries) =>
    match get? entries last with
    | none | some (.tables _) => some (set entries last (.tables []))
    | some _ => none
  change false edit path .header entries

end Entries

end Transclusion.Toml
