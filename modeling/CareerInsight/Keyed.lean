/-!
# Entries in key order

A `List (String × α)` whose keys ascend strictly is a finite map from text
keys; the entries are visited in key order, which for text is the order of
code points and therefore of UTF-8 bytes.  Objects of JSON documents and
the fields of records are kept this way.

* `Keyed.put` writes an entry: a present key gets the new value in place,
  and an absent key is inserted before the first greater one.  So of two
  writes to one key the later one wins.
* `Keyed.lookup` and `Keyed.erase` read and remove the entry of a key.
-/

namespace CareerInsight

namespace Keyed

variable {α : Type}

/-- The value of a key. -/
def lookup (entries : List (String × α)) (key : String) : Option α :=
  match entries with
  | [] => none
  | (k, v) :: rest => if k = key then some v else lookup rest key

/-- Writes an entry, keeping the keys in ascending order. -/
def put (entries : List (String × α)) (key : String) (value : α) : List (String × α) :=
  match entries with
  | [] => [(key, value)]
  | (k, v) :: rest =>
    if key = k then (key, value) :: rest
    else if key < k then (key, value) :: (k, v) :: rest
    else (k, v) :: put rest key value

/-- Removes the entry of a key. -/
def erase (entries : List (String × α)) (key : String) : List (String × α) :=
  entries.filter (·.1 != key)

/-- A map from entries in arrival order; a repeated key keeps its last value. -/
def ofList (entries : List (String × α)) : List (String × α) :=
  entries.foldl (fun acc (k, v) => put acc k v) []

end Keyed

end CareerInsight
