import TreeShell.OrderedMap

namespace TreeShell.OrderedMap

variable {κ ν : Type} [DecidableEq κ]

theorem find?_put (key other : κ) (value : ν) (entries : List (κ × ν)) :
    find? other (put key value entries) =
      if other = key then some value else find? other entries := by
  induction entries with
  | nil => simp [put, find?, eq_comm]
  | cons entry rest ih =>
    by_cases same : entry.1 = key
    · by_cases asked : other = key
      · simp [put, find?, same, asked]
      · simp [put, find?, same, asked, Ne.symm asked]
    · by_cases first : entry.1 = other
      · have different : other ≠ key := fun equal => same (first.trans equal)
        simp [put, find?, first, different]
      · simp [put, find?, same, first, ih]

theorem find?_filter (key other : κ) (entries : List (κ × ν)) :
    find? other (entries.filter fun entry => entry.1 ≠ key) =
      if other = key then none else find? other entries := by
  induction entries with
  | nil => simp [find?]
  | cons entry rest ih =>
    by_cases same : entry.1 = key
    · by_cases asked : other = key
      · simpa [same, asked] using ih
      · simpa [find?, same, asked, Ne.symm asked] using ih
    · by_cases first : entry.1 = other
      · have different : other ≠ key := fun equal => same (first.trans equal)
        simp [find?, first, different]
      · simpa [find?, same, first] using ih

theorem find?_isSome (key : κ) (entries : List (κ × ν)) :
    (find? key entries).isSome ↔ key ∈ entries.map Prod.fst := by
  induction entries with
  | nil => simp [find?]
  | cons entry rest ih =>
    by_cases same : entry.1 = key
    · simp [find?, same]
    · simp [find?, same, Ne.symm same, ih]

theorem find?_map {α : Type} (keyOf : α → κ) (valueOf : α → ν) (key : κ) (items : List α) :
    find? key (items.map fun item => (keyOf item, valueOf item)) =
      (items.find? (keyOf · = key)).map valueOf := by
  induction items with
  | nil => rfl
  | cons item rest ih =>
    by_cases same : keyOf item = key
    · simp [find?, same]
    · simp [find?, same, ih]

theorem put_of_not_mem {key : κ} (value : ν) {entries : List (κ × ν)}
    (fresh : key ∉ entries.map Prod.fst) : put key value entries = entries ++ [(key, value)] := by
  induction entries with
  | nil => rfl
  | cons entry rest ih =>
    rw [List.map_cons, List.mem_cons, not_or] at fresh
    rw [put, if_neg (Ne.symm fresh.1), ih fresh.2]
    rfl

theorem entries_ofList {writes : List (κ × ν)} (nodup : (writes.map Prod.fst).Nodup) :
    (ofList writes).entries = writes := by
  have onto (map : OrderedMap κ ν) (writes : List (κ × ν))
      (nodup : ((map.entries ++ writes).map Prod.fst).Nodup) :
      (writes.foldl (fun map write => map.insert write.1 write.2) map).entries =
        map.entries ++ writes := by
    induction writes generalizing map with
    | nil => rw [List.append_nil]; rfl
    | cons write rest ih =>
      have apart := nodup
      rw [List.map_append, List.nodup_append] at apart
      have fresh : write.1 ∉ map.entries.map Prod.fst :=
        fun old => apart.2.2 _ old write.1 (List.mem_cons_self ..) rfl
      have entries : (map.insert write.1 write.2).entries = map.entries ++ [write] :=
        put_of_not_mem write.2 fresh
      rw [List.foldl_cons, ih, entries, List.append_assoc]
      · rfl
      · rw [entries, List.append_assoc]
        exact nodup
  exact onto empty writes nodup

variable (map : OrderedMap κ ν)

theorem get?_insert (key other : κ) (value : ν) :
    (map.insert key value).get? other = if other = key then some value else map.get? other :=
  find?_put key other value map.entries

theorem get?_erase (key other : κ) :
    (map.erase key).get? other = if other = key then none else map.get? other :=
  find?_filter key other map.entries

theorem get?_foldl_erase (keys : List κ) (other : κ) :
    (keys.foldl erase map).get? other = if other ∈ keys then none else map.get? other := by
  induction keys generalizing map with
  | nil => simp
  | cons key rest ih =>
    rw [List.foldl_cons, ih, get?_erase]
    by_cases first : other = key <;> simp [first]

theorem entries_foldl_erase (keys : List κ) :
    (keys.foldl erase map).entries = map.entries.filter fun entry => entry.1 ∉ keys := by
  induction keys generalizing map with
  | nil => simp [List.filter_eq_self.mpr]
  | cons key rest ih =>
    rw [List.foldl_cons, ih, erase, List.filter_filter]
    apply List.filter_congr
    intro entry _
    simp [Bool.and_comm]

theorem contains_iff (key : κ) : map.contains key ↔ key ∈ map.keys := find?_isSome key map.entries

theorem contains_iff_get? (key : κ) : map.contains key ↔ ∃ value, map.get? key = some value :=
  Option.isSome_iff_exists

variable {μ : Type}

def mapValues (f : ν → μ) (map : OrderedMap κ ν) : OrderedMap κ μ :=
  ⟨map.entries.map fun entry => (entry.1, f entry.2), by
    rw [List.map_map]
    exact map.nodup⟩

omit [DecidableEq κ] in
theorem keys_mapValues (f : ν → μ) : (map.mapValues f).keys = map.keys := List.map_map

theorem get?_mapValues (f : ν → μ) (key : κ) :
    (map.mapValues f).get? key = (map.get? key).map f := by
  have found := find?_map (Prod.fst : κ × ν → κ) Prod.snd key map.entries
  rw [List.map_id'] at found
  rw [get?, get?, mapValues, find?_map, found, Option.map_map]
  rfl

theorem contains_mapValues (f : ν → μ) (key : κ) :
    (map.mapValues f).contains key = map.contains key := by
  rw [contains, get?_mapValues, Option.isSome_map, contains]

theorem mapValues_insert (f : ν → μ) (key : κ) (value : ν) :
    (map.insert key value).mapValues f = (map.mapValues f).insert key (f value) := by
  have written (entries : List (κ × ν)) :
      (put key value entries).map (fun entry => (entry.1, f entry.2)) =
        put key (f value) (entries.map fun entry => (entry.1, f entry.2)) := by
    induction entries with
    | nil => rfl
    | cons entry rest ih =>
      by_cases same : entry.1 = key
      · simp [put, same]
      · simp [put, same, ih]
  rw [mapValues, mk.injEq]
  exact written map.entries

end TreeShell.OrderedMap
