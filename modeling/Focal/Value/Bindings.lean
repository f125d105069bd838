/-!
# Bindings

Named values under a common name.  The entries are kept in ascending order of the bytes of their
names, each name once, so that a listing of the names needs no sorting.
-/

namespace Focal

/-- The order of the bytes of two texts. -/
def bytesLess (first second : String) : Bool :=
  decide (first.toUTF8.data.toList < second.toUTF8.data.toList)

/-- Named values, and a name for all of them. -/
structure Bindings (α : Type) where
  name : String
  /-- Names and their values, in ascending order of the bytes of the names. -/
  entries : List (String × α)

namespace Bindings

variable {α : Type}

/-- No entries. -/
def empty (name : String) : Bindings α :=
  { name, entries := [] }

/-- Bind a name in a list of entries, in the place of an earlier binding. -/
def insertBinding (key : String) (value : α) : List (String × α) → List (String × α)
  | [] => [(key, value)]
  | (other, bound) :: rest =>
      if key = other then (key, value) :: rest
      else if bytesLess key other then (key, value) :: (other, bound) :: rest
      else (other, bound) :: insertBinding key value rest

/-- Bind a name, in the place of an earlier binding. -/
def insert (bindings : Bindings α) (key : String) (value : α) : Bindings α :=
  { bindings with entries := insertBinding key value bindings.entries }

/-- The bindings of a list, of which later ones replace earlier ones. -/
def ofList (name : String) (list : List (String × α)) : Bindings α :=
  list.foldl (fun bindings entry => bindings.insert entry.1 entry.2) (empty name)

/-- The value that a name is bound to. -/
def get? (bindings : Bindings α) (key : String) : Option α :=
  (bindings.entries.find? (·.1 = key)).map (·.2)

/-- The number of bindings. -/
def size (bindings : Bindings α) : Nat :=
  bindings.entries.length

/-- Whether there are no bindings. -/
def isEmpty (bindings : Bindings α) : Bool :=
  bindings.entries.isEmpty

/-- The bound names in ascending order of their bytes. -/
def names (bindings : Bindings α) : List String :=
  bindings.entries.map (·.1)

end Bindings

end Focal
