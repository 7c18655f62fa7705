import CallBook.Http.Field

/-!
# Header maps

A client keeps the fields of a message by their names in lower case: the names in the order in which
each first came, and under each its values in order. So fields of one name stand together, however
they were given. A name that is removed leaves its place to the last one.
-/

namespace CallBook.Http

/-- Values of header fields by name. -/
abbrev HeaderMap := OrderedMap (List (List UInt8))

/-- How many names a map has room for. -/
def mostNames : Nat := 24576

namespace HeaderMap

/-- There is room for no other name. -/
def isFull (m : HeaderMap) : Bool := mostNames ≤ m.size

/-- The values of a name. -/
def valuesOf (m : HeaderMap) (name : String) : List (List UInt8) := (m.get? name).getD []

/-- The fields, one name after the other. -/
def fields (m : HeaderMap) : List Field := m.entries.flatMap fun p => p.2.map (Field.mk p.1)

/-- The map of fields that come one after the other. -/
def ofFields (fs : List Field) : HeaderMap :=
  fs.foldl (fun m f => m.push (Text.lowerAscii f.name) f.value) .empty

end HeaderMap

end CallBook.Http
