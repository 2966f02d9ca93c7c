import ColumnQuery.Number.Bigint
import ColumnQuery.Number.Double

/-!
# TOML documents

A document is a table of items by key. A table is defined once: by a header of its own, by dotted
keys, or between braces. A header may name a table that has only been the outer part of other
headers, and dotted keys may extend only tables made by dotted keys.
-/
namespace ColumnQuery.Toml

/-- How a table came into being. -/
inductive Origin where
  /-- By a header of its own. -/
  | header
  /-- As the outer part of a header. -/
  | outer
  /-- As the outer part of a dotted key. -/
  | dotted
deriving DecidableEq

mutual

/-- What a key stands for. -/
inductive Item where
  | text (s : String)
  | integer (n : Bigint)
  | float (x : Double)
  | bool (b : Bool)
  /-- A date, a time of day or both, as it is written. -/
  | time (written : List Char)
  | array (items : List Item)
  /-- A table between braces. -/
  | braced (entries : List Entry)
  | table (origin : Origin) (entries : List Entry)
  /-- A list of tables, the last of which can still grow. -/
  | tables (earlier : List (List Entry)) (last : List Entry)

/-- One entry of a table. -/
structure Entry where
  /-- The key. -/
  key : String
  /-- What it stands for. -/
  item : Item

end

/-- A key of one or more parts. -/
structure Key where
  /-- The parts before the last point. -/
  outer : List String
  /-- The last part. -/
  name : String
deriving DecidableEq

namespace Entry

/-- The item of a key. -/
def find? (key : String) : List Entry → Option Item
  | [] => none
  | entry :: entries => if entry.key = key then some entry.item else find? key entries

/-- The entries with the item of a key changed, or added at the end if there was none. -/
def modify? (key : String) (change : Option Item → Option Item) : List Entry → Option (List Entry)
  | [] => (change none).map fun item => [⟨key, item⟩]
  | entry :: entries =>
    if entry.key = key then (change (some entry.item)).map fun item => ⟨key, item⟩ :: entries
    else (modify? key change entries).map (entry :: ·)

/-- The entries with a change at the end of a path. Tables that are missing on the way are made;
a list of tables stands for its last one. The change is told how the table at the end came into
being. -/
def modifyAt? (isDotted : Bool) (change : Origin → List Entry → Option (List Entry)) :
    List String → Origin → List Entry → Option (List Entry)
  | [], origin, entries => change origin entries
  | key :: path, _, entries =>
    modify? key (fun found =>
      match found with
      | none =>
        let origin := if isDotted then .dotted else .outer
        (modifyAt? isDotted change path origin []).map (.table origin)
      | some (.table origin inner) =>
        if isDotted && origin = .header then none
        else (modifyAt? isDotted change path origin inner).map (.table origin)
      | some (.tables earlier last) =>
        (modifyAt? isDotted change path .header last).map (.tables earlier)
      | some _ => none) entries

/-- The entries with a new one at the end, unless the key is taken. -/
def insert? (key : String) (item : Item) (entries : List Entry) : Option (List Entry) :=
  match find? key entries with
  | none => some (entries ++ [⟨key, item⟩])
  | some _ => none

/-- The entries with a new one for a dotted key. -/
def assign? (key : Key) (item : Item) (entries : List Entry) : Option (List Entry) :=
  modifyAt? true (fun origin entries =>
    if key.outer = [] ∨ origin = .dotted then insert? key.name item entries else none)
    key.outer .header entries

/-- The entries with a table made by its header. -/
def define? (key : Key) (entries : List Entry) : Option (List Entry) :=
  modifyAt? false (fun _ =>
    modify? key.name fun found =>
      match found with
      | none => some (.table .header [])
      | some (.table .outer inner) => some (.table .header inner)
      | some _ => none)
    key.outer .header entries

/-- The entries with a further table in the list of a key. -/
def append? (key : Key) (entries : List Entry) : Option (List Entry) :=
  modifyAt? false (fun _ =>
    modify? key.name fun found =>
      match found with
      | none => some (.tables [] [])
      | some (.tables earlier last) => some (.tables (earlier ++ [last]) [])
      | some _ => none)
    key.outer .header entries

end Entry

/-- One line of a document. -/
inductive Line where
  /-- A key and its item. -/
  | assign (key : Key) (item : Item)
  /-- The header of a table. -/
  | header (key : Key)
  /-- The header of a further table in a list. -/
  | element (key : Key)

/-- The entries of a document that goes on with lines, inside the table of a path. -/
def Line.entries? : List String → List Entry → List Line → Option (List Entry)
  | _, entries, [] => some entries
  | path, entries, .assign key item :: lines => do
    let entries ←
      Entry.modifyAt? false (fun _ inner => Entry.assign? key item inner) path .header entries
    entries? path entries lines
  | _, entries, .header key :: lines => do
    let entries ← Entry.define? key entries
    entries? (key.outer ++ [key.name]) entries lines
  | _, entries, .element key :: lines => do
    let entries ← Entry.append? key entries
    entries? (key.outer ++ [key.name]) entries lines

end ColumnQuery.Toml
