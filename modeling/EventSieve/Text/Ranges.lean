/-!
# Character tables

A `Ranges` is a set of characters given by ascending, disjoint intervals of code
points; a `Mapping` sends code points to short sequences of code points. Both are
written as rows of hexadecimal text, which keeps the tables readable, and both
are searched by halving.
-/

namespace EventSieve.Text

/-- The value of a hexadecimal digit; other characters count as zero. -/
def hexDigit (c : Char) : Nat :=
  if '0' ≤ c ∧ c ≤ '9' then c.toNat - 48
  else if 'A' ≤ c ∧ c ≤ 'F' then c.toNat - 55
  else if 'a' ≤ c ∧ c ≤ 'f' then c.toNat - 87
  else 0

def hexValue (cs : List Char) : Nat := cs.foldl (fun n c => n * 16 + hexDigit c) 0

def words (rows : List String) : List (List Char) :=
  rows.flatMap fun row => (row.toList.splitOn ' ').filter (· ≠ [])

/-- A set of code points, as ascending disjoint intervals with their last member. -/
structure Ranges where
  bounds : Array (Nat × Nat)

namespace Ranges

/-- One interval, written as its first and last member around a dash, or as its
only member. -/
def readInterval (word : List Char) : Nat × Nat :=
  match word.splitOn '-' with
  | [first, last] => (hexValue first, hexValue last)
  | _ => (hexValue word, hexValue word)

def ofRows (rows : List String) : Ranges where
  bounds := ((words rows).map readInterval).toArray

def search (bounds : Array (Nat × Nat)) (n lo hi : Nat) : Bool :=
  if lo < hi then
    let mid := (lo + hi) / 2
    match bounds[mid]? with
    | none => false
    | some (first, last) =>
      if n < first then search bounds n lo mid
      else if last < n then search bounds n (mid + 1) hi
      else true
  else false
termination_by hi - lo

def contains (r : Ranges) (n : Nat) : Bool := search r.bounds n 0 r.bounds.size

end Ranges

/-- A map from code points to sequences of numbers, ascending in its keys. -/
structure Mapping where
  entries : Array (Nat × List Nat)

namespace Mapping

/-- One entry: the key, an equals sign, and the values separated by commas. -/
def readEntry (word : List Char) : Nat × List Nat :=
  match word.splitOn '=' with
  | [key, values] => (hexValue key, (values.splitOn ',').map hexValue)
  | _ => (hexValue word, [])

def ofRows (rows : List String) : Mapping where
  entries := ((words rows).map readEntry).toArray

def search (entries : Array (Nat × List Nat)) (n lo hi : Nat) : Option (List Nat) :=
  if lo < hi then
    let mid := (lo + hi) / 2
    match entries[mid]? with
    | none => none
    | some (key, values) =>
      if n < key then search entries n lo mid
      else if key < n then search entries n (mid + 1) hi
      else some values
  else none
termination_by hi - lo

def get? (m : Mapping) (n : Nat) : Option (List Nat) := search m.entries n 0 m.entries.size

end Mapping

end EventSieve.Text
