import PlatformSignatures.Platform

/-!
# Grouping by value

A signature is written once for each distinct value of an attribute, and tagged with all platforms
that share it.  `groupByValue` collects the platforms of each value, in the order in which the
values first occur; `groupWithin` does so for the entries of a map at given platforms.
-/

namespace PlatformSignatures

variable {α : Type} [DecidableEq α]

/-- Adds a platform to the group of its value, or opens a group for the value at the end. -/
def joinGroup (p : Platform) (a : α) : List (α × PlatformSet) → List (α × PlatformSet)
  | [] => [(a, OrderedSet.singleton p)]
  | (b, ps) :: groups =>
    if b = a then (b, ps.insert p) :: groups else (b, ps) :: joinGroup p a groups

/-- The distinct values of a list of entries, each with the platforms it is listed for. -/
def groupByValue (entries : List (Platform × α)) : List (α × PlatformSet) :=
  entries.foldl (fun groups e => joinGroup e.1 e.2 groups) []

/-- The distinct values of a map, each with its platforms. -/
def PlatformMap.groups (m : PlatformMap α) : List (α × PlatformSet) :=
  groupByValue m.entries

/-- The distinct values that a map takes on the platforms of a set, each with those platforms. -/
def groupWithin (m : PlatformMap α) (within : PlatformSet) : List (α × PlatformSet) :=
  groupByValue (m.entries.filter fun e => e.1 ∈ within)

end PlatformSignatures
