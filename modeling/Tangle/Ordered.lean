/-
This file holds ordered dictionaries: lists of entries in which a key that is
written again keeps its first place and takes the new value.
-/

namespace Tangle.Ordered

variable {κ α : Type} [DecidableEq κ]

/-- Writes an entry. -/
def put (entries : List (κ × α)) (key : κ) (value : α) : List (κ × α) :=
  match entries with
  | [] => [(key, value)]
  | (other, held) :: rest =>
    if other = key then (key, value) :: rest else (other, held) :: put rest key value

/-- Writes several entries, one after the other. -/
def putAll (entries : List (κ × α)) (news : List (κ × α)) : List (κ × α) :=
  news.foldl (fun held new => put held new.1 new.2) entries

/-- Looks a key up. -/
def get? (entries : List (κ × α)) (key : κ) : Option α :=
  (entries.find? (·.1 = key)).map (·.2)

end Tangle.Ordered
