namespace TreeShell

structure OrderedMap (κ ν : Type) where
  entries : List (κ × ν)
  nodup : (entries.map Prod.fst).Nodup

namespace OrderedMap

variable {κ ν : Type} [DecidableEq κ]

def put (key : κ) (value : ν) : List (κ × ν) → List (κ × ν)
  | [] => [(key, value)]
  | entry :: rest => if entry.1 = key then (key, value) :: rest else entry :: put key value rest

theorem keys_put (key : κ) (value : ν) (entries : List (κ × ν)) :
    (put key value entries).map Prod.fst =
      if key ∈ entries.map Prod.fst then entries.map Prod.fst
      else entries.map Prod.fst ++ [key] := by
  induction entries with
  | nil => simp [put]
  | cons entry rest ih =>
    by_cases same : entry.1 = key
    · simp [put, same]
    · have other : ¬ key = entry.1 := fun h => same h.symm
      simp only [put, same, if_false, List.map_cons, ih, List.mem_cons, other, false_or]
      split <;> simp

theorem nodup_put (key : κ) (value : ν) {entries : List (κ × ν)}
    (nodup : (entries.map Prod.fst).Nodup) : ((put key value entries).map Prod.fst).Nodup := by
  rw [keys_put]
  split
  · exact nodup
  · rename_i absent
    rw [List.nodup_append]
    refine ⟨nodup, by simp, ?_⟩
    intro a member b last equal
    rw [List.mem_singleton.mp last] at equal
    exact absent (equal ▸ member)

def empty : OrderedMap κ ν := ⟨[], List.nodup_nil⟩

instance : Inhabited (OrderedMap κ ν) := ⟨empty⟩

instance [DecidableEq ν] : DecidableEq (OrderedMap κ ν) := fun a b =>
  decidable_of_iff (a.entries = b.entries) (by cases a; cases b; simp)

def keys (map : OrderedMap κ ν) : List κ := map.entries.map Prod.fst

def size (map : OrderedMap κ ν) : Nat := map.entries.length

def find? (key : κ) : List (κ × ν) → Option ν
  | [] => none
  | entry :: rest => if entry.1 = key then some entry.2 else find? key rest

def get? (map : OrderedMap κ ν) (key : κ) : Option ν := find? key map.entries

def contains (map : OrderedMap κ ν) (key : κ) : Bool := (map.get? key).isSome

def insert (map : OrderedMap κ ν) (key : κ) (value : ν) : OrderedMap κ ν :=
  ⟨put key value map.entries, nodup_put key value map.nodup⟩

def erase (map : OrderedMap κ ν) (key : κ) : OrderedMap κ ν :=
  ⟨map.entries.filter fun entry => entry.1 ≠ key,
    List.Nodup.sublist (List.filter_sublist.map Prod.fst) map.nodup⟩

/-- The map that a list of writes builds: the last value of each key, at the key's first place. -/
def ofList (writes : List (κ × ν)) : OrderedMap κ ν :=
  writes.foldl (fun map write => map.insert write.1 write.2) empty

end OrderedMap

end TreeShell
