import TokenEcho.Toml.Text

/-!
# Tables under construction

A document builds its tables bit by bit. A draft remembers how each table came about, since that
decides whether it can still grow: a table with a header of its own is not defined twice, nor
extended by keys with points; one that is only implied by a longer header may still get its header;
one that stands behind a point grows by further keys with points.
-/

namespace TokenEcho.Toml

/-- How a table came about. -/
inductive Origin where
  | headed
  | implied
  | dotted
deriving DecidableEq

/-- What stands under a key while the document is read. -/
inductive Draft where
  | value (range : ByteRange) (v : Value)
  | table (origin : Origin) (range? : Option ByteRange) (entries : List (Key × Draft))
  | series (elements : List (ByteRange × List (Key × Draft)))

abbrev Entries := List (Key × Draft)

namespace Entries

def at? (entries : Entries) (key : String) : Option Draft :=
  (List.find? (fun entry => entry.1.text == key) entries).map Prod.snd

/-- Replaces what stands under a key, in place, or adds it at the end. -/
def put (entries : Entries) (key : Key) (d : Draft) : Entries :=
  if (entries.at? key.text).isSome then
    entries.map fun entry => if entry.1.text == key.text then (entry.1, d) else entry
  else entries ++ [(key, d)]

def remove (entries : Entries) (key : String) : Entries :=
  entries.filter fun entry => entry.1.text != key

/-- Changes the table at the end of a path, and makes the tables on the way that are missing. Keys
with points do not pass tables with headers. -/
def change (pointed : Bool) (f : Origin → Entries → Option Entries) (origin : Origin)
    (entries : Entries) : List Key → Option Entries
  | [] => f origin entries
  | key :: path => do
      match entries.at? key.text with
      | none =>
          let made : Origin := if pointed then .dotted else .implied
          let inner ← change pointed f made [] path
          return entries.put key (.table made none inner)
      | some (.value _ _) => failure
      | some (.series elements) =>
          let (range, last) ← elements.getLast?
          let inner ← change pointed f .headed last path
          return entries.put key (.series (elements.dropLast ++ [(range, inner)]))
      | some (.table made range? inner) =>
          if pointed && made == .headed then failure
          let inner ← change pointed f made inner path
          return entries.put key (.table made range? inner)

/-- Adds a value under a key, whose parts before the last lead to a table. -/
def assign (entries : Entries) (keys : List Key) (range : ByteRange) (v : Value) :
    Option Entries := do
  let last ← keys.getLast?
  let path := keys.dropLast
  entries.change true (fun origin inner => do
    if (origin == .dotted) == path.isEmpty then failure
    if (inner.at? last.text).isSome then failure
    return inner.put last (.value range v)) .headed path

/-- Takes the table that a header names out of the document, with what it holds already. -/
def openTable (entries : Entries) (keys : List Key) : Option (Entries × Entries) := do
  let last ← keys.getLast?
  let path := keys.dropLast
  let outer ← entries.change false (fun _ inner => some inner) .headed path
  let mut held : Entries := []
  let parent ← lookUp outer path
  match parent.at? last.text with
  | none => pure ()
  | some (.table .implied _ inner) => held := inner
  | some _ => failure
  let outer ← outer.change false (fun _ inner => some (inner.remove last.text)) .headed path
  return (outer, held)
where
  lookUp (entries : Entries) : List Key → Option Entries
    | [] => some entries
    | key :: path =>
        match entries.at? key.text with
        | some (.table _ _ inner) => lookUp inner path
        | some (.series elements) => elements.getLast?.bind fun last => lookUp last.2 path
        | _ => none

def closeTable (entries : Entries) (keys : List Key) (range : ByteRange) (table : Entries) :
    Option Entries := do
  let last ← keys.getLast?
  entries.change false
    (fun _ inner => some (inner.put last (.table .headed (some range) table))) .headed keys.dropLast

/-- Adds a table to the series that a header with double brackets names. -/
def pushTable (entries : Entries) (keys : List Key) (range : ByteRange) (table : Entries) :
    Option Entries := do
  let last ← keys.getLast?
  entries.change false (fun _ inner =>
    match inner.at? last.text with
    | none => some (inner.put last (.series [(range, table)]))
    | some (.series elements) => some (inner.put last (.series (elements ++ [(range, table)])))
    | some _ => none) .headed keys.dropLast

end Entries

mutual

/-- The value that a draft has become, and where it was written: a table without a header stands
where its key does. -/
def Draft.finish (key : ByteRange) : Draft → ByteRange × Value
  | .value range v => (range, v)
  | .table _ range? entries => (range?.getD key, .table (finishEntries entries))
  | .series elements =>
      let items := finishSeries elements
      let start := (items.head?.map (·.1.start)).getD key.start
      let stop := (items.getLast?.map (·.1.stop)).getD key.stop
      (⟨start, stop⟩, .array items)

def finishEntries : List (Key × Draft) → List Entry
  | [] => []
  | (key, d) :: rest => (key.text, d.finish key.range) :: finishEntries rest

def finishSeries : List (ByteRange × List (Key × Draft)) → List (ByteRange × Value)
  | [] => []
  | (range, entries) :: rest => (range, .table (finishEntries entries)) :: finishSeries rest

end

end TokenEcho.Toml
