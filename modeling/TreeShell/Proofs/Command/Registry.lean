import TreeShell.Command.Registry
import TreeShell.Proofs.OrderedMap
import TreeShell.Proofs.Sorting
import TreeShell.Proofs.Text.LowerCase

namespace TreeShell.Registry

variable {η : Type} {registry : Registry η}

/-! ## Names in order -/

theorem mem_names {name : String} : name ∈ registry.names ↔ name ∈ registry.commands.keys :=
  (Sorting.sort_perm _ _).mem_iff

theorem nodup_names (registry : Registry η) : registry.names.Nodup :=
  (Sorting.sort_perm _ _).nodup_iff.mpr registry.commands.nodup

theorem pairwise_names (registry : Registry η) :
    registry.names.Pairwise fun name later =>
      name.toList.map Char.toNat < later.toList.map Char.toNat := by
  have sorted : registry.names.Pairwise fun name later => decide (name ≤ later) :=
    Sorting.pairwise_sort (by simpa using String.le_total)
      (fun _ _ _ => by simpa using String.le_trans) _
  have once := List.nodup_iff_pairwise_ne.mp registry.nodup_names
  refine (sorted.and once).imp ?_
  intro name later ⟨least, apart⟩
  have before : name < later :=
    String.not_le.mp fun after => apart (String.le_antisymm (of_decide_eq_true least) after)
  exact List.map_lt (fun _ _ => id) before

theorem entries_summaries (registry : Registry η) :
    registry.summaries.entries = registry.names.map fun name =>
      (name, ((registry.commands.get? name).map Registration.summary).getD "") := by
  apply OrderedMap.entries_ofList
  simpa [List.map_map, Function.comp_def] using registry.nodup_names

theorem keys_summaries (registry : Registry η) : registry.summaries.keys = registry.names := by
  simp [OrderedMap.keys, entries_summaries, Function.comp_def]

theorem get?_summaries {name : String} (member : name ∈ registry.names) :
    registry.summaries.get? name =
      some (((registry.commands.get? name).map Registration.summary).getD "") := by
  rw [OrderedMap.get?, entries_summaries, OrderedMap.find?_map fun name => name]
  cases found : registry.names.find? (· = name) with
  | none => exact absurd (decide_eq_true rfl) (List.find?_eq_none.mp found name member)
  | some other =>
    have same := List.find?_some found
    rw [of_decide_eq_true same]
    rfl

/-! ## Calls -/

inductive Call (η : Type)
  | register (name : String) (handler : η) (summary : String)
  | registrar (name summary : String) (handler : η)

namespace Call

def name : Call η → String
  | register name _ _ | registrar name _ _ => name

def registration : Call η → Registration η
  | register _ handler summary | registrar _ summary handler => ⟨handler, summary⟩

def key (call : Call η) : String := Text.lower call.name

def entry (call : Call η) : String × Registration η := (call.key, call.registration)

def returned : Call η → Option η
  | register _ _ _ => none
  | registrar _ _ handler => some handler

def run : Call η → Registry η → Except Refusal (Option η) × Registry η
  | register name handler summary, registry =>
    match registry.register name handler summary with
    | .ok next => (.ok none, next)
    | .error refusal => (.error refusal, registry)
  | registrar name summary handler, registry =>
    match Registry.registrar name summary handler registry with
    | .ok (handler, next) => (.ok (some handler), next)
    | .error refusal => (.error refusal, registry)

theorem run_eq (call : Call η) (registry : Registry η) :
    call.run registry =
      match registry.register call.name call.registration.handler call.registration.summary with
      | .ok next => (.ok call.returned, next)
      | .error refusal => (.error refusal, registry) := by
  cases call with
  | register name handler summary => rfl
  | registrar name summary handler =>
    dsimp only [run, Registry.registrar, Call.name, registration]
    cases registry.register name handler summary <;> rfl

end Call

def after (registry : Registry η) (calls : List (Call η)) : Registry η :=
  calls.foldl (fun registry call => (call.run registry).2) registry

def accepted : Registry η → List (Call η) → List (Call η)
  | _, [] => []
  | registry, call :: rest =>
    match call.run registry with
    | (.ok _, next) => call :: accepted next rest
    | (.error _, next) => accepted next rest

def Lists (registry : Registry η) (calls : List (Call η)) : Prop :=
  registry.commands.entries = calls.map Call.entry

/-- A call without a name or with a name that is taken is refused and changes nothing; any other is
    accepted and adds its registration. -/
def Call.Settles (call : Call η) (registry : Registry η) (earlier : List (Call η)) : Prop :=
  (call.name = "" ∧ call.run registry = (.error .emptyName, registry)) ∨
  (call.name ≠ "" ∧ call.key ∈ earlier.map Call.key ∧
    call.run registry = (.error (.taken call.key), registry)) ∨
  (call.name ≠ "" ∧ call.key ∉ earlier.map Call.key ∧
    ∃ next, call.run registry = (.ok call.returned, next) ∧ next.Lists (earlier ++ [call]))

namespace Lists

variable {calls : List (Call η)}

theorem keys (lists : registry.Lists calls) : registry.commands.keys = calls.map Call.key := by
  rw [OrderedMap.keys, lists, List.map_map]
  rfl

theorem settles (lists : registry.Lists calls) (call : Call η) : call.Settles registry calls := by
  have decided : registry.register call.name call.registration.handler call.registration.summary =
      if call.key = "" then .error .emptyName
      else if registry.commands.contains call.key then .error (.taken call.key)
      else .ok ⟨registry.commands.insert call.key call.registration⟩ := rfl
  rw [Call.Settles, Call.run_eq, decided]
  by_cases unnamed : call.name = ""
  · left
    have blank : call.key = "" := congrArg Text.lower unnamed
    rw [if_pos blank]
    exact ⟨unnamed, rfl⟩
  · right
    have named : call.key ≠ "" := Text.lower_ne_empty unnamed
    rw [if_neg named, ← lists.keys]
    by_cases old : call.key ∈ registry.commands.keys
    · left
      rw [if_pos ((registry.commands.contains_iff call.key).mpr old)]
      exact ⟨unnamed, old, rfl⟩
    · right
      rw [if_neg (mt (registry.commands.contains_iff call.key).mp old)]
      refine ⟨unnamed, old, _, rfl, ?_⟩
      rw [Lists, List.map_append, ← lists]
      exact OrderedMap.put_of_not_mem call.registration old

theorem after (lists : registry.Lists calls) (further : List (Call η)) :
    (registry.after further).Lists (calls ++ registry.accepted further) := by
  induction further generalizing registry calls with
  | nil =>
    rw [accepted, List.append_nil]
    exact lists
  | cons call rest ih =>
    rw [Registry.after, List.foldl_cons, accepted]
    -- a refused call adds nothing, to the registry or to the list
    rcases lists.settles call with ⟨_, refused⟩ | ⟨_, _, refused⟩ | ⟨_, _, next, ran, listed⟩
    · rw [refused]
      exact ih lists
    · rw [refused]
      exact ih lists
    · rw [ran]
      have whole := ih listed
      rw [List.append_assoc] at whole
      exact whole

end Lists

/-! ## What it tells -/

def first? (calls : List (Call η)) (name : String) : Option (Registration η) :=
  (calls.find? (·.key = Text.lower name)).map Call.registration

/-- What a registry tells is what some calls have registered, by lower-case name. -/
structure Tells (registry : Registry η) (calls : List (Call η)) : Prop where
  get? : ∀ name, registry.get? name = (first? calls name).map Registration.handler
  summary : ∀ name, registry.summary name = ((first? calls name).map Registration.summary).getD ""
  contains : ∀ name, registry.contains name = (first? calls name).isSome
  names : ∀ name, name ∈ registry.names ↔ name ∈ calls.map Call.key
  increasing : registry.names.Pairwise fun name later =>
    name.toList.map Char.toNat < later.toList.map Char.toNat
  summaries : registry.summaries.keys = registry.names ∧
    ∀ name ∈ registry.names, registry.summaries.get? name = some (registry.summary name)
  size : registry.size = calls.length

namespace Lists

variable {calls : List (Call η)}

theorem get? (lists : registry.Lists calls) (name : String) :
    registry.commands.get? (Text.lower name) = first? calls name := by
  rw [OrderedMap.get?, lists]
  exact OrderedMap.find?_map Call.key Call.registration (Text.lower name) calls

theorem lower_of_mem_names (lists : registry.Lists calls) {name : String}
    (member : name ∈ registry.names) : Text.lower name = name := by
  rw [mem_names, lists.keys] at member
  obtain ⟨call, _, rfl⟩ := List.mem_map.mp member
  exact Text.lower_lower call.name

theorem tells (lists : registry.Lists calls) : registry.Tells calls where
  get? name := by rw [Registry.get?, lists.get?]
  summary name := by rw [Registry.summary, lists.get?]
  contains name := by rw [Registry.contains, OrderedMap.contains, lists.get?]
  names name := by rw [mem_names, lists.keys]
  increasing := pairwise_names registry
  summaries := by
    refine ⟨keys_summaries registry, ?_⟩
    intro name member
    rw [get?_summaries member, Registry.summary, lists.lower_of_mem_names member]
  size := by rw [Registry.size, OrderedMap.size, lists, List.length_map]

end Lists

/-! ## Two tables -/

/-- A registry in two tables; the handlers alone say which names are taken. -/
structure Tables (η : Type) where
  handlers : OrderedMap String η
  summaries : OrderedMap String String

namespace Tables

def register (tables : Tables η) (name : String) (registration : Registration η) :
    Except Refusal (Tables η) :=
  let key := Text.lower name
  if key = "" then .error .emptyName
  else if tables.handlers.contains key then .error (.taken key)
  else .ok
    ⟨tables.handlers.insert key registration.handler,
      tables.summaries.insert key registration.summary⟩

def after (tables : Tables η) (calls : List (Call η)) : Tables η :=
  calls.foldl (fun tables call =>
    match tables.register call.name call.registration with
    | .ok next => next
    | .error _ => tables) tables

def listing? (tables : Tables η) : Option (OrderedMap String String) :=
  ((Sorting.sort (fun a b => a ≤ b) tables.handlers.keys).mapM fun name =>
    (tables.summaries.get? name).map fun summary => (name, summary)).map OrderedMap.ofList

end Tables

def tables (registry : Registry η) : Tables η :=
  ⟨registry.commands.mapValues Registration.handler,
    registry.commands.mapValues Registration.summary⟩

theorem register_tables (registry : Registry η) (name : String) (registration : Registration η) :
    registry.tables.register name registration =
      (registry.register name registration.handler registration.summary).map tables := by
  unfold Tables.register register tables
  simp only [OrderedMap.contains_mapValues, ← OrderedMap.mapValues_insert]
  split
  · rfl
  · split <;> rfl

theorem after_tables (registry : Registry η) (calls : List (Call η)) :
    registry.tables.after calls = (registry.after calls).tables := by
  induction calls generalizing registry with
  | nil => rfl
  | cons call rest ih =>
    rw [Tables.after, List.foldl_cons, register_tables, after, List.foldl_cons, Call.run_eq]
    cases registry.register call.name call.registration.handler call.registration.summary with
    | ok next => exact ih next
    | error refusal => exact ih registry

theorem mapM_tables {names : List String} (known : ∀ name ∈ names, name ∈ registry.commands.keys) :
    (names.mapM fun name =>
      (registry.tables.summaries.get? name).map fun summary => (name, summary)) =
    some (names.map fun name =>
      (name, ((registry.commands.get? name).map Registration.summary).getD "")) := by
  induction names with
  | nil => rfl
  | cons name rest ih =>
    have others := ih fun other member => known other (List.mem_cons_of_mem _ member)
    have held := (registry.commands.contains_iff name).mpr (known name (List.mem_cons_self ..))
    obtain ⟨registration, found⟩ := (registry.commands.contains_iff_get? name).mp held
    rw [List.mapM_cons, others, tables, OrderedMap.get?_mapValues, List.map_cons, found]
    rfl

theorem listing?_tables (registry : Registry η) :
    registry.tables.listing? = some registry.summaries := by
  have names : Sorting.sort (fun a b => a ≤ b) registry.tables.handlers.keys = registry.names :=
    congrArg _ (registry.commands.keys_mapValues _)
  rw [Tables.listing?, names, mapM_tables fun name => mem_names.mp]
  rfl

/-- After any calls on an empty registry, accepted or not, one more call is refused just when it has
    no name or one whose lower-case form an accepted call has taken. The registry tells what the
    accepted calls have registered, whichever way their names are spelled. Two tables written side by
    side in the same calls stay in step with it, so their listing never misses a summary. -/
theorem tells_after (calls : List (Call η)) :
    let registry := (empty : Registry η).after calls
    let earlier := (empty : Registry η).accepted calls
    let tables := (⟨.empty, .empty⟩ : Tables η).after calls
    (∀ call : Call η, call.Settles registry earlier) ∧ registry.Tells earlier ∧
      (∀ name other, Text.lower name = Text.lower other →
        registry.get? name = registry.get? other ∧
          registry.summary name = registry.summary other ∧
          registry.contains name = registry.contains other) ∧
      tables = registry.tables ∧ tables.summaries.keys = tables.handlers.keys ∧
      tables.listing? = some registry.summaries := by
  intro registry earlier tables
  have start : (empty : Registry η).Lists [] := rfl
  have lists : registry.Lists earlier := start.after calls
  have beside : tables = registry.tables := after_tables empty calls
  refine ⟨lists.settles, lists.tells, ?_, beside, ?_, ?_⟩
  · intro name other same
    simp only [Registry.get?, Registry.summary, Registry.contains, same, and_self]
  · rw [beside, Registry.tables, OrderedMap.keys_mapValues, OrderedMap.keys_mapValues]
  · rw [beside, listing?_tables]

example :
    let calls : List (Call Nat) :=
      [.register "LS" 1 "List", .registrar "ls" "Again" 2, .register "" 3 "Nameless",
        .registrar "İ" "Dotted" 4, .register "i̇" 5 "Two characters"]
    let registry := empty.after calls
    (empty.accepted calls).map Call.name = ["LS", "İ"] ∧
      registry.summaries.entries = [("i̇", "Dotted"), ("ls", "List")] ∧
      registry.get? "lS" = some 1 ∧ registry.get? "i̇" = some 4 := by
  decide +kernel

end TreeShell.Registry
