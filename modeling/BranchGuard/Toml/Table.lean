import BranchGuard.Json.Basic

/-!
# Tables under construction

The statements of a TOML document build one tree of tables.  A table is defined at most once, but
it can come into being before it is defined, so each table keeps track of its `Origin`:

* a header defines the table it names, and brings the tables on the way to it into being;
* a dotted key brings the tables on the way to it into being, and only dotted keys may then add to
  them;
* a table written as a value is finished at once, so it is a plain JSON value here.

A header in double brackets adds a table to a list of tables.  The tables before the latest one
cannot change any more and are kept as JSON values.
-/

namespace BranchGuard.Toml

/-- How a table has come into being. -/
inductive Origin where
  /-- By a header of its own. -/
  | header
  /-- On the way to the table of a header. -/
  | implied
  /-- On the way to a dotted key. -/
  | dotted
deriving DecidableEq, Repr

/-- What a key stands for. -/
inductive Node where
  | value (value : Json)
  | table (origin : Origin) (members : List (String × Node))
  /-- A list of tables: the finished ones, and the latest. -/
  | tables (finished : List Json) (latest : List (String × Node))

/-- The keys of a table, each of which stands for one node. -/
abbrev Table := List (String × Node)

mutual

/-- The JSON value of a node. -/
def Node.toJson : Node → Json
  | .value value => value
  | .table _ members => .object (membersToJson members)
  | .tables finished latest => .array (finished ++ [.object (membersToJson latest)])

/-- The members of the JSON object of a table. -/
def membersToJson : List (String × Node) → List (String × Json)
  | [] => []
  | (name, node) :: rest => (name, node.toJson) :: membersToJson rest

end

namespace Table

/-- The JSON value of a table. -/
def toJson (table : Table) : Json :=
  .object (membersToJson table)

/-- The table with another node for a key, which it may not have had before. -/
def put (table : Table) (key : String) (node : Node) : Table :=
  table.filter (fun member => member.1 != key) ++ [(key, node)]

/-- Whether the way to a dotted key or to the table of a header may lead through a table. -/
def isOpen (byDottedKey : Bool) (origin : Origin) : Bool :=
  !byDottedKey || origin != .header

/--
Changes the table at the end of a path, to which `change` is given together with its origin.
Tables that are missing on the way come into being; of a list of tables the way leads to the
latest.
-/
def alter (byDottedKey : Bool) (change : Origin → Table → Option Table) :
    List String → Origin → Table → Option Table
  | [], origin, table => change origin table
  | key :: path, _, table =>
    match table.lookup key with
    | none => do
      let origin := if byDottedKey then .dotted else .implied
      return table.put key (.table origin (← alter byDottedKey change path origin []))
    | some (.table origin members) =>
      if isOpen byDottedKey origin then do
        return table.put key (.table origin (← alter byDottedKey change path origin members))
      else none
    | some (.tables finished latest) => do
      return table.put key (.tables finished (← alter byDottedKey change path .header latest))
    | some (.value _) => none

/-- Gives a value to a dotted key: a path of tables and a key that is new in the last of them. -/
def assign (path : List String) (key : String) (value : Json) (table : Table) : Option Table :=
  alter true
    (fun origin table =>
      if (origin == .dotted) == path.isEmpty then none
      else if (table.lookup key).isSome then none
      else some (table.put key (.value value)))
    path .header table

/-- Defines the table that a header names. -/
def define (path : List String) (key : String) (table : Table) : Option Table :=
  alter false
    (fun _ table =>
      match table.lookup key with
      | none => some (table.put key (.table .header []))
      | some (.table .implied members) => some (table.put key (.table .header members))
      | some _ => none)
    path .header table

/-- Adds a table to the list of tables that a header in double brackets names. -/
def extend (path : List String) (key : String) (table : Table) : Option Table :=
  alter false
    (fun _ table =>
      match table.lookup key with
      | none => some (table.put key (.tables [] []))
      | some (.tables finished latest) =>
        some (table.put key (.tables (finished ++ [Table.toJson latest]) []))
      | some _ => none)
    path .header table

/-- Gives a value to a dotted key of the table that the last header names. -/
def assignUnder (header path : List String) (key : String) (value : Json) (table : Table) :
    Option Table :=
  alter false (fun _ => assign path key value) header .header table

end Table

end BranchGuard.Toml
