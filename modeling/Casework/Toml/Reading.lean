/-
This file reads settings documents.
Statements fill a table from the top. Marks remember which parts of the table may still be
changed, so that no statement changes what another one has closed.
-/

import Casework.Text.LineEnd
import Casework.Toml.Number

namespace Casework.Toml

/-- A path leads through tables by names. -/
abbrev Path := List String

/-- A declared table may not be declared again. A frozen value may not be changed, and neither
may anything inside it. -/
inductive Mark where
  | declared (path : Path)
  | frozen (path : Path)
  deriving DecidableEq

def isDeclared (marks : List Mark) (path : Path) : Bool := marks.contains (.declared path)

def isFrozen (marks : List Mark) (path : Path) : Bool :=
  marks.any fun mark =>
    match mark with
    | .frozen closed => closed.isPrefixOf path
    | .declared _ => false

def Mark.path : Mark → Path
  | .declared path => path
  | .frozen path => path

/-- The marks on a path and on everything inside it are removed. -/
def unmark (marks : List Mark) (path : Path) : List Mark :=
  marks.filter fun mark => !path.isPrefixOf mark.path

/-- The value under a name is replaced in its place, or comes last. -/
def put (name : String) (value : Value) : Document → Document
  | [] => [(name, value)]
  | field :: rest =>
    if field.1 = name then (name, value) :: rest else field :: put name value rest

/-- This changes the table at the end of a path. Tables on the path that are not there are
created, and lists on the path stand for their last table if they may be entered. -/
def changeAt (entersLists : Bool) (change : Document → Option Document) :
    Path → Document → Option Document
  | [], table => change table
  | name :: path, table =>
    match Value.field? table name with
    | none => (changeAt entersLists change path []).map fun inner => put name (.table inner) table
    | some (.table inner) =>
      (changeAt entersLists change path inner).map fun inner => put name (.table inner) table
    | some (.list items) =>
      match entersLists, items.getLast? with
      | true, some (.table inner) =>
        (changeAt entersLists change path inner).map fun inner =>
          put name (.list (items.dropLast ++ [.table inner])) table
      | _, _ => none
    | some _ => none

/-- A name may be given a value once. -/
def define (name : String) (value : Value) (table : Document) : Option Document :=
  if (Value.field? table name).isSome then none else some (put name value table)

/-- An empty table comes last in the list under a name. -/
def appendTable (name : String) (table : Document) : Option Document :=
  match Value.field? table name with
  | none => some (put name (.list [.table []]) table)
  | some (.list items) => some (put name (.list (items ++ [.table []])) table)
  | some _ => none

def isContainer : Value → Bool
  | .list _ => true
  | .table _ => true
  | _ => false

/-- Spaces, line ends and comments may stand between the items of a list. Every comment takes
a character, so the fuel is the length of the text. -/
def skipBetweenItems : (fuel : Nat) → List Char → Option (List Char)
  | 0, text => some text
  | fuel + 1, text =>
    match text.dropWhile isSpaceOrLine with
    | '#' :: rest => do skipBetweenItems fuel (← skipComment ('#' :: rest))
    | rest => some rest

/-- An inline table is filled like a document, and a value in it closes its own parts. -/
structure Inline where
  table : Document
  marks : List Mark

def Inline.add (inline : Inline) (key : Path) (value : Value) : Option Inline := do
  let name ← key.getLast?
  if isFrozen inline.marks key then none
  else do
    let table ← changeAt false (define name value) key.dropLast inline.table
    some ⟨table, if isContainer value then .frozen key :: inline.marks else inline.marks⟩

/-- Values inside values share this much room. -/
def nestingRoom : Nat := 986

/-- A list takes this much of the room for its items. -/
def listRoom : Nat := 2

/-- An inline table takes this much of the room for its fields. -/
def tableRoom : Nat := 3

/-- This is the room that is left inside a list or a table. -/
def enter (needed room : Nat) : Except ReadError Nat :=
  if needed ≤ room then .ok (room - needed) else .error .deepNesting

mutual

/-- Every list, inline table and item uses fuel. -/
def readValueWithin : (fuel room : Nat) → ValueReader Value
  | 0, _, _ => .error .malformed
  | fuel + 1, room, text =>
    match text with
    | '"' :: _ | '\'' :: _ => do
      let (content, rest) ← found (readText text)
      .ok (.text content, rest)
    | 't' :: 'r' :: 'u' :: 'e' :: rest => .ok (.boolean true, rest)
    | 'f' :: 'a' :: 'l' :: 's' :: 'e' :: rest => .ok (.boolean false, rest)
    | '[' :: rest => do
      let room ← enter listRoom room
      let rest ← found (skipBetweenItems rest.length rest)
      match rest with
      | ']' :: rest => .ok (.list [], rest)
      | rest => do
        let (items, rest) ← readItemsWithin fuel room rest
        .ok (.list items, rest)
    | '\x7b' :: rest => do
      let room ← enter tableRoom room
      match skipSpaces rest with
      | '\x7d' :: rest => .ok (.table [], rest)
      | rest => readFieldsWithin fuel room ⟨[], []⟩ rest
    | text => readMomentOrNumber text

/-- Commas stand between the items of a list, and one may stand after the last item. -/
def readItemsWithin : (fuel room : Nat) → ValueReader (List Value)
  | 0, _, _ => .error .malformed
  | fuel + 1, room, text => do
    let (item, rest) ← readValueWithin fuel room text
    let rest ← found (skipBetweenItems rest.length rest)
    match rest with
    | ']' :: rest => .ok ([item], rest)
    | ',' :: rest => do
      let rest ← found (skipBetweenItems rest.length rest)
      match rest with
      | ']' :: rest => .ok ([item], rest)
      | rest => do
        let (items, rest) ← readItemsWithin fuel room rest
        .ok (item :: items, rest)
    | _ => .error .malformed

/-- Commas stand between the fields of an inline table. -/
def readFieldsWithin : (fuel room : Nat) → Inline → ValueReader Value
  | 0, _, _, _ => .error .malformed
  | fuel + 1, room, inline, text => do
    let (key, rest) ← found (readKey text)
    let (_, rest) ← found (readMark '=' rest)
    let (value, rest) ← readValueWithin fuel room (skipSpaces rest)
    let inline ← found (inline.add key value)
    match skipSpaces rest with
    | '\x7d' :: rest => .ok (.table inline.table, rest)
    | ',' :: rest => readFieldsWithin fuel room inline (skipSpaces rest)
    | _ => .error .malformed

end

/-- Two units of fuel for every character are enough, since a list or an item takes at least
one character. -/
def readValue : ValueReader Value := fun text =>
  readValueWithin (2 * text.length + 2) nestingRoom text

/-- Statements add to the table under the current header. Tables that a dotted key has opened
are declared once the next header comes. -/
structure State where
  table : Document
  marks : List Mark
  pending : List Mark
  header : Path

/-- A statement that gives a value to a key. -/
def State.assign (state : State) (key : Path) (value : Value) : Option State := do
  let name ← key.getLast?
  let opened := (List.range (key.length - 1)).map fun before =>
    state.header ++ key.take (before + 1)
  let parent := state.header ++ key.dropLast
  if opened.any (isDeclared state.marks) || isFrozen state.marks parent then none
  else do
    let table ← changeAt true (define name value) parent state.table
    some { state with
      table := table
      marks := if isContainer value then .frozen (state.header ++ key) :: state.marks
        else state.marks
      pending := opened.map .declared ++ state.pending }

def State.settle (state : State) : State :=
  { state with marks := state.pending ++ state.marks, pending := [] }

/-- A header in single brackets declares a table. -/
def State.openTable (state : State) (key : Path) : Option State :=
  if isDeclared state.marks key || isFrozen state.marks key then none
  else (changeAt true some key state.table).map fun table =>
    { state with table := table, marks := .declared key :: state.marks, header := key }

/-- A header in double brackets appends a table to a list. -/
def State.openItem (state : State) (key : Path) : Option State := do
  let name ← key.getLast?
  if isFrozen state.marks key then none
  else (changeAt true (appendTable name) key.dropLast state.table).map fun table =>
    { state with table := table, marks := .declared key :: unmark state.marks key, header := key }

/-- This reads one statement up to the comment or line end after it. -/
def readStatement (state : State) (text : List Char) : Except ReadError (State × List Char) :=
  match text with
  | '[' :: '[' :: rest => do
    let (key, rest) ← found (readKey (skipSpaces rest))
    let state ← found (state.settle.openItem key)
    let (_, rest) ← found (readMark ']' rest)
    let (_, rest) ← found (readMark ']' rest)
    .ok (state, rest)
  | '[' :: rest => do
    let (key, rest) ← found (readKey (skipSpaces rest))
    let state ← found (state.settle.openTable key)
    let (_, rest) ← found (readMark ']' rest)
    .ok (state, rest)
  | '#' :: _ => .ok (state, text)
  | _ => do
    let (key, rest) ← found (readKey text)
    let (_, rest) ← found (readMark '=' rest)
    let (value, rest) ← readValue (skipSpaces rest)
    let state ← found (state.assign key value)
    .ok (state, rest)

/-- Every statement or empty line uses fuel. -/
def readStatements : (fuel : Nat) → State → List Char → Except ReadError State
  | 0, state, _ => .ok state
  | fuel + 1, state, text =>
    match skipSpaces text with
    | [] => .ok state
    | '\n' :: rest => readStatements fuel state rest
    | text => do
      let (state, rest) ← readStatement state text
      match ← found (skipComment (skipSpaces rest)) with
      | [] => .ok state
      | '\n' :: rest => readStatements fuel state rest
      | _ => .error .malformed

/-- This reads a document from a text. -/
def read (text : String) : Except ReadError Document :=
  let characters := Text.unifyLineEnds text.toList
  (readStatements (characters.length + 1) ⟨[], [], [], []⟩ characters).map State.table

end Casework.Toml
