/-!
# TOML values and documents

A document is a table, built up by a row of statements: a key with a value, the header of a table, or the
header of one more table in a row of tables.  Headers and dotted keys also bring about the tables on the
way to theirs.  No key is given twice and no table is opened twice; whether a table may still be added to
depends on what brought it about.
-/

namespace TermSpace

set_option autoImplicit false

/-- What has brought a table about. -/
inductive TableOrigin where
  /-- Its own header. -/
  | header
  /-- The header of a table inside it. -/
  | implied
  /-- A dotted key for something inside it. -/
  | dotted
deriving DecidableEq

/-- A TOML value. -/
inductive Toml where
  | string (content : String)
  | integer (value : Int)
  /-- A number with a fraction or an exponent, in its written form. -/
  | real (written : String)
  | boolean (value : Bool)
  /-- A date, a time or both, in its written form. -/
  | moment (written : String)
  | array (elements : List Toml)
  /-- A table that is written in one piece, and cannot be added to. -/
  | inline (members : List (String × Toml))
  | table (origin : TableOrigin) (members : List (String × Toml))
  /-- A row of tables, the last one first. -/
  | tables (rows : List (List (String × Toml)))

namespace Toml

instance : Inhabited Toml := ⟨.boolean false⟩

/-- The members of a table under construction. -/
abbrev Members := List (String × Toml)

/-- The value of a key. -/
def lookUp (key : String) (members : Members) : Option Toml :=
  (members.find? fun entry => entry.1 = key).map (·.2)

/-- Give a key a value, in place of the one that it has. -/
def put (key : String) (value : Toml) (members : Members) : Members :=
  if members.any fun entry => entry.1 = key then
    members.map fun entry => if entry.1 = key then (key, value) else entry
  else members ++ [(key, value)]

/-- **Change the table at a path,** bringing about tables that are missing.  In a row of tables the path goes
on in the last one.  A dotted key does not lead through a table with a header of its own. -/
def change (onTheWay : TableOrigin) (update : TableOrigin → Members → Option Members) :
    (path : List String) → (origin : TableOrigin) → Members → Option Members
  | [], origin, members => update origin members
  | key :: path, _, members =>
    match lookUp key members with
    | none =>
      (change onTheWay update path onTheWay []).map fun inner =>
        put key (.table onTheWay inner) members
    | some (.table origin inner) =>
      if onTheWay = .dotted ∧ origin = .header then none
      else
        (change onTheWay update path origin inner).map fun inner =>
          put key (.table origin inner) members
    | some (.tables (last :: others)) =>
      (change onTheWay update path .header last).map fun last =>
        put key (.tables (last :: others)) members
    | some _ => none

/-- Give the last key of a dotted key a value.  The table that it goes into has no value for it yet, and if
dots lead there it has been brought about by dots. -/
def assign (path : List String) (key : String) (value : Toml) (origin : TableOrigin) :
    Members → Option Members :=
  change .dotted
    (fun reached members =>
      if (reached = .dotted) = (path = []) then none
      else if (lookUp key members).isSome then none
      else some (members ++ [(key, value)]))
    path origin

/-- What a statement of a document does. -/
inductive Statement where
  | assign (path : List String) (key : String) (value : Toml)
  | openTable (path : List String) (key : String)
  | openRow (path : List String) (key : String)

/-- Open the table of a header.  It is new, or has been brought about by the header of a table inside. -/
def openTable (key : String) (_ : TableOrigin) (members : Members) : Option Members :=
  match lookUp key members with
  | none => some (members ++ [(key, .table .header [])])
  | some (.table .implied inner) => some (put key (.table .header inner) members)
  | some _ => none

/-- Open one more table in a row. -/
def openRow (key : String) (_ : TableOrigin) (members : Members) : Option Members :=
  match lookUp key members with
  | none => some (members ++ [(key, .tables [[]])])
  | some (.tables rows) => some (put key (.tables ([] :: rows)) members)
  | some _ => none

/-- A document under construction: all of it, and the path of the table that is open. -/
structure Document where
  members : Members
  current : List String

/-- Carry out one statement. -/
def Document.execute? (document : Document) : Statement → Option Document
  | .assign path key value => do
    let members ← change .implied
      (fun _ members => assign path key value .header members)
      document.current .header document.members
    return { document with members }
  | .openTable path key => do
    let members ← change .implied (openTable key) path .header document.members
    return ⟨members, path ++ [key]⟩
  | .openRow path key => do
    let members ← change .implied (openRow key) path .header document.members
    return ⟨members, path ++ [key]⟩

/-- **The members of the document** that statements make up. -/
def ofStatements? (statements : List Statement) : Option Members :=
  (statements.foldlM Document.execute? ⟨[], []⟩).map (·.members)

/-- The members of a table that is written in one piece. -/
def inlineOf? (assignments : List (List String × String × Toml)) : Option Toml :=
  (assignments.foldlM
    (fun members (path, key, value) => assign path key value .header members) []).map .inline

end Toml

end TermSpace
