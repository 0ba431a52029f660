import QueryGate.Text.Form

/-!
# Parameters

The parameters of a request: keys with the values given for them. A key stands where it was first
given and holds its values in the order they came; a key without any value does not occur.

## Reading a query string

Pairs are divided by ampersands and a pair by its first equals sign, *before* anything is decoded,
so that an escaped ampersand or equals sign is part of a text. A question mark at the very front is
not part of the query string. Empty pairs are skipped; a pair without an equals sign has the empty
value.
-/

namespace QueryGate

/-- **The parameters of a request.** -/
structure Params where
  /-- The keys in the order of their first appearance, each with its values. -/
  entries : List (String × List String) := []
  deriving DecidableEq, Repr, Inhabited

namespace Params

/-- A value put at the end of its key's values, or behind everything under a new key. -/
def put (key value : String) : List (String × List String) → List (String × List String)
  | [] => [(key, [value])]
  | (k, values) :: rest =>
    if k = key then (k, values ++ [value]) :: rest else (k, values) :: put key value rest

/-- **One more value under a key.** -/
def add (params : Params) (key value : String) : Params := ⟨put key value params.entries⟩

/-- The parameters that a list of pairs makes, from the first to the last. -/
def ofPairs (pairs : List (String × String)) : Params :=
  pairs.foldl (fun params pair => params.add pair.1 pair.2) {}

/-- The values under a key. -/
def get? (params : Params) (key : String) : Option (List String) := params.entries.lookup key

/-- The number of keys. -/
def size (params : Params) : Nat := params.entries.length

/-- Whether there is no key. -/
def isEmpty (params : Params) : Bool := params.entries.isEmpty

/-! ### Query strings -/

/-- The pieces of a text between the occurrences of a separator; there is always at least one. -/
def pieces (separator : Char) : List Char → List (List Char)
  | [] => [[]]
  | c :: rest =>
    if c = separator then [] :: pieces separator rest
    else
      match pieces separator rest with
      | [] => [[c]]
      | piece :: more => (c :: piece) :: more

/-- A text up to the first occurrence of a separator, and the text behind it. -/
def cut (separator : Char) : List Char → List Char × List Char
  | [] => ([], [])
  | c :: rest =>
    if c = separator then ([], rest)
    else (c :: (cut separator rest).1, (cut separator rest).2)

/-- The query string without one question mark at its front. -/
def unmarked : List Char → List Char
  | [] => []
  | c :: rest => if c = '?' then rest else c :: rest

/-- The key and the value that a pair spells. -/
def decodePair (pair : List Char) : String × String :=
  (String.ofList (Form.decode (cut '=' pair).1), String.ofList (Form.decode (cut '=' pair).2))

/-- **The parameters of a query string.** -/
def ofQueryString (raw : String) : Params :=
  ofPairs (((pieces '&' (unmarked raw.toList)).filter (!·.isEmpty)).map decodePair)

end Params

end QueryGate
