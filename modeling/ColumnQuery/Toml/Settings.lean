import ColumnQuery.Settings
import ColumnQuery.Toml.Reader

/-!
# Settings from TOML

Each setting is a key of the document; keys of other names are ignored. A format is the string of
its name, or a table whose only key is the name and stands for nothing.
-/
namespace ColumnQuery

open Toml

/-- Whether an item is an empty array or table. -/
def Toml.Item.isNothing : Item → Bool
  | .array items => items.isEmpty
  | .braced entries => entries.isEmpty
  | .table _ entries => entries.isEmpty
  | _ => false

/-- A 32-bit natural. -/
def Toml.Item.word? : Item → Option UInt32
  | .integer n =>
    if 0 ≤ n.value ∧ n.value.toNat < UInt32.size then some (UInt32.ofNat n.value.toNat) else none
  | _ => none

/-- A truth value. -/
def Toml.Item.bool? : Item → Option Bool
  | .bool b => some b
  | _ => none

/-- The format of an entry that stands for nothing. -/
def Toml.Entry.format? (entry : Entry) : Option Format :=
  if entry.item.isNothing then Format.ofName? entry.key else none

/-- A format. -/
def Toml.Item.format? : Item → Option Format
  | .text s => Format.ofName? s
  | .braced [entry] => entry.format?
  | .table _ [entry] => entry.format?
  | _ => none

/-- The settings of a document; a missing setting has its default. -/
def Settings.ofEntries? (entries : List Entry) : Option Settings := do
  let default : Settings := {}
  let setting {α : Type} (key : String) (missing : α) (decode : Item → Option α) : Option α :=
    (Entry.find? key entries).elim (some missing) decode
  let defaultLimit ← setting "default_limit" default.defaultLimit Item.word?
  let format ← setting "format" default.format Item.format?
  let singleLine ← setting "single_line" default.singleLine Item.bool?
  some ⟨defaultLimit, format, singleLine⟩

/-- The settings that a text holds. -/
def Settings.ofToml? (text : String) : Option Settings :=
  (Toml.ofText? text).bind Settings.ofEntries?

end ColumnQuery
