/-!
Symbols: how reports spell the names of operations and system registers.
-/

namespace A64.Symbol

/-- The characters of the parts between underscores run together, the first of each part as a
capital. The flag says whether a part begins. -/
def capitals : Bool → List Char → List Char
  | _, [] => []
  | start, c :: cs =>
    if c = '_' then capitals true cs
    else (if start then c.toUpper else c) :: capitals false cs

/-- The symbol for a name. -/
def ofName (name : String) : String := String.ofList (capitals true name.toList)

end A64.Symbol
