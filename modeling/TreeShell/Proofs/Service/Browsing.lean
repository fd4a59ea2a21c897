import TreeShell.Proofs.Service.Requests

namespace TreeShell.Service

/-! ## Answers -/

def filesAt (session : Session) (path : Option String) : Http.Response :=
  (handle (.ok session)
    ⟨.get, Route.files.path, (path.map fun path => ("path", path)).toList, .empty⟩).1

def contentAt (session : Session) (path : String) : Http.Response :=
  (handle (.ok session) ⟨.get, Route.content.path, [("path", path)], .empty⟩).1

def listed (entries : List Entry) : Http.Response :=
  ⟨200, .document (.array (entries.map Entry.document))⟩

def shown (file : Report.FileContent) : Http.Response := ⟨200, .document file.document⟩

theorem document_injective : Function.Injective Entry.document := by
  intro entry other same
  have fields : entry.fields = other.fields := Json.object.inj same
  have read := entry.check_fields
  rw [fields, other.check_fields] at read
  exact (Except.ok.inj read).symm

theorem fileContent_inj {file other : Report.FileContent} :
    file.document = other.document ↔ file = other := by
  constructor
  · intro same
    have fields : file.fields = other.fields := Json.object.inj same
    have read := file.check_fields
    rw [fields, other.check_fields] at read
    exact (Except.ok.inj read).symm
  · rintro rfl
    rfl

theorem status_ofFault_ne (fault : Fault) : (Problem.ofFault fault).status ≠ 200 := by
  cases fault <;> simp [Problem.ofFault, Problem.status]

theorem filesAt_eq (session : Session) (path : Option String) :
    filesAt session path = respond (browse path session) := by
  rw [filesAt, handle_asks ⟨Route.ofPath?_path .files, rfl⟩]
  cases path <;> rfl

theorem contentAt_eq (session : Session) (path : String) :
    contentAt session path = respond (readFile (some path) session) := by
  rw [contentAt, handle_asks ⟨Route.ofPath?_path .content, rfl⟩]
  rfl

/-! ## Entries -/

theorem browse_eq_ok_iff {tree : Tree} {path : Path} {entries : List Entry} :
    tree.browse path = .ok entries ↔ tree.hasDirectory path ∧
      (tree.childDirectories path).map (.ofPath .folder) ++
        (tree.childFiles path).map (.ofPath .file) = entries := by
  unfold Tree.browse
  by_cases present : tree.hasDirectory path
  · simp only [present, if_true, Except.ok.injEq, true_and]
  · simp [present]

theorem name_of_mem_browse {tree : Tree} {path : Path} {entries : List Entry}
    (browsed : tree.browse path = .ok entries) {entry : Entry} (member : entry ∈ entries) :
    entry.name = Path.baseName entry.path := by
  obtain ⟨_, rfl⟩ := browse_eq_ok_iff.mp browsed
  rcases List.mem_append.mp member with listed | listed
  all_goals
    obtain ⟨inner, _, rfl⟩ := List.mem_map.mp listed
    rfl

theorem whole_entries_iff {tree : Tree} {path : Path} {entries : List Entry}
    (browsed : tree.browse path = .ok entries) :
    (Json.array (entries.map Entry.document)).Whole ↔
      ∀ entry ∈ entries, Text.Whole entry.path := by
  simp only [Json.whole_array, List.forall_mem_map, Entry.whole_document]
  constructor
  · exact fun whole entry member => (whole entry member).2
  · intro whole entry member
    refine ⟨?_, whole entry member⟩
    rw [name_of_mem_browse browsed member]
    exact (whole entry member).sublist (Path.baseName_sublist _)

theorem of_mem_browse {tree : Tree} (valid : tree.Valid) {path : Path} {entries : List Entry}
    (browsed : tree.browse path = .ok entries) {entry : Entry} (member : entry ∈ entries) :
    Path.isCanonical entry.path ∧ Path.parent entry.path = path ∧
      (entry.kind = .file → tree.hasFile entry.path) ∧
      (entry.kind = .folder → tree.hasDirectory entry.path) := by
  obtain ⟨present, rfl⟩ := browse_eq_ok_iff.mp browsed
  have normal := valid.directoryNormal path present
  rcases List.mem_append.mp member with folder | file
  · obtain ⟨directory, listed, rfl⟩ := List.mem_map.mp folder
    obtain ⟨old, child⟩ := List.mem_filter.mp listed
    have isDirectory := Tree.hasDirectory_iff.mpr old
    have below : Path.isBelow directory path := (Bool.and_eq_true _ _ ▸ child).1
    have canonical := Path.isCanonical_of_normal (valid.directoryNormal directory isDirectory)
      (Path.ne_empty_of_isBelow below)
    refine ⟨canonical, Path.parent_of_isChild child canonical normal, ?_, fun _ => isDirectory⟩
    intro kind
    cases kind
  · obtain ⟨path, listed, rfl⟩ := List.mem_map.mp file
    obtain ⟨old, child⟩ := List.mem_filter.mp listed
    have isFile := Tree.hasFile_iff.mpr old
    have canonical := valid.fileCanonical path isFile
    refine ⟨canonical, Path.parent_of_isChild child canonical normal, fun _ => isFile, ?_⟩
    intro kind
    cases kind

theorem browse_eq_browse {tree : Tree} (valid : tree.Valid) {path other : Path}
    {entries : List Entry} (here : tree.browse path = .ok entries)
    (there : tree.browse other = .ok entries) : path = other ∨ entries = [] := by
  cases entries with
  | nil => exact .inr rfl
  | cons entry rest =>
    have inHere := (of_mem_browse valid here (List.mem_cons_self ..)).2.1
    have inThere := (of_mem_browse valid there (List.mem_cons_self ..)).2.1
    exact .inl (inHere.symm.trans inThere)

/-! ## Entries and files as they are shown -/

theorem filesAt_eq_listed_iff {session : Session} {path : Option String} {entries : List Entry} :
    filesAt session path = listed entries ↔
      session.tree.browse (Path.ofBrowser path) = .ok entries ∧
        ∀ entry ∈ entries, Text.Whole entry.path := by
  rw [filesAt_eq, browse]
  cases found : session.tree.browse (Path.ofBrowser path) with
  | ok others =>
    dsimp only
    rw [listed, respond_ok_eq_iff, whole_entries_iff found, Except.ok.injEq, Json.array.injEq,
      document_injective.list_map.eq_iff]
    exact and_congr_right fun same => by rw [same]
  | error fault =>
    constructor
    · intro same
      injection same with status
      exact absurd status (status_ofFault_ne fault)
    · rintro ⟨same, _⟩
      cases same

theorem contentAt_eq_shown_iff {session : Session} {path place : String} {content : String} :
    contentAt session path = shown ⟨place, content⟩ ↔
      (place = Path.ofBrowser (some path) ∧
        session.tree.content? (Path.ofBrowser (some path)) = some content) ∧
        Text.Whole place ∧ Text.Whole content := by
  rw [contentAt_eq, readFile, Tree.read]
  cases found : session.tree.content? (Path.ofBrowser (some path)) with
  | none =>
    constructor
    · intro same
      injection same with status
      exact absurd status (status_ofFault_ne _)
    · rintro ⟨⟨_, same⟩, _⟩
      cases same
  | some text =>
    dsimp only
    rw [shown, respond_ok_eq_iff, Report.FileContent.whole_document, fileContent_inj,
      Report.FileContent.mk.injEq, Option.some.injEq, @eq_comm _ place]
    exact and_congr_right fun ⟨here, same⟩ => by rw [here, same]

/-! ## Opening what is listed -/

variable {session : Session}

theorem contentAt_opens_iff {path : Path} (canonical : Path.isCanonical path)
    (named : Text.Whole path) {content : String}
    (stored : session.tree.content? path = some content) :
    (∃ place, contentAt session path = shown ⟨place, content⟩) ↔
      (Text.trim path = path ∨
        session.tree.content? (Path.ofBrowser (some path)) = some content) ∧
      Text.Whole content := by
  have kept := Path.Normal.ofBrowser_eq_self_iff (.inr canonical)
  have place := named.sublist (Path.ofBrowser_sublist path)
  constructor
  · rintro ⟨place, same⟩
    obtain ⟨⟨_, found⟩, _, whole⟩ := contentAt_eq_shown_iff.mp same
    exact ⟨.inr found, whole⟩
  · rintro ⟨trimmed | found, whole⟩
    · refine ⟨path, contentAt_eq_shown_iff.mpr ⟨?_, named, whole⟩⟩
      rw [kept.mpr trimmed]
      exact ⟨rfl, stored⟩
    · exact ⟨_, contentAt_eq_shown_iff.mpr ⟨⟨rfl, found⟩, place, whole⟩⟩

theorem filesAt_opens_iff (valid : session.tree.Valid) {path : Path}
    (canonical : Path.isCanonical path) {inside : List Entry}
    (stored : session.tree.browse path = .ok inside) :
    filesAt session (some path) = listed inside ↔
      (Text.trim path = path ∨
        inside = [] ∧ session.tree.browse (Path.ofBrowser (some path)) = .ok []) ∧
      ∀ inner ∈ inside, Text.Whole inner.path := by
  have kept := Path.Normal.ofBrowser_eq_self_iff (.inr canonical)
  rw [filesAt_eq_listed_iff, and_congr_left_iff]
  intro _
  constructor
  · intro found
    rcases browse_eq_browse valid found stored with same | none
    · exact .inl (kept.mp same)
    · rw [none] at found
      exact .inr ⟨none, found⟩
  · rintro (trimmed | ⟨rfl, found⟩)
    · rw [kept.mpr trimmed]
      exact stored
    · exact found

/-- After any lines in a session's own directory, a listed file opens with its content, and a listed
    folder with its entries, just when there is no white space at the ends of its path or what is
    found at the trimmed path is no different, and when what is shown can be written. -/
theorem browser_opens_iff (id : String) (environment : Environment) (fresh : Twister)
    (maxHistory : Nat) (lines : List String) {path : Option String} {entries : List Entry}
    {session : Session}
    (reached : session = (Session.start id Seed.tree environment fresh "" maxHistory).after
      (lines.map (.execute · none)))
    (answered : filesAt session path = listed entries) {entry : Entry} (member : entry ∈ entries) :
    (entry.kind = .file → ∃ content, session.tree.content? entry.path = some content ∧
      ((∃ place, contentAt session entry.path = shown ⟨place, content⟩) ↔
        (Text.trim entry.path = entry.path ∨
          session.tree.content? (Path.ofBrowser (some entry.path)) = some content) ∧
        Text.Whole content)) ∧
      (entry.kind = .folder → ∃ inside, session.tree.browse entry.path = .ok inside ∧
        (filesAt session (some entry.path) = listed inside ↔
          (Text.trim entry.path = entry.path ∨
            inside = [] ∧
              session.tree.browse (Path.ofBrowser (some entry.path)) = .ok []) ∧
          ∀ inner ∈ inside, Text.Whole inner.path)) := by
  have proper : ∀ step ∈ lines.map (Session.Step.execute · none), step.Proper := by
    intro step made
    obtain ⟨line, _, rfl⟩ := List.mem_map.mp made
    trivial
  have sound : session.Sound := by
    rw [reached]
    exact (Session.sound_start id environment fresh maxHistory).after proper
  have valid := sound.fit.valid
  obtain ⟨browsed, named⟩ := filesAt_eq_listed_iff.mp answered
  obtain ⟨canonical, _, file, folder⟩ := of_mem_browse valid browsed member
  constructor
  · intro kind
    obtain ⟨content, stored⟩ := Tree.hasFile_iff_content?.mp (file kind)
    exact ⟨content, stored, contentAt_opens_iff canonical (named entry member) stored⟩
  · intro kind
    have stored := browse_eq_ok_iff.mpr ⟨folder kind, rfl⟩
    exact ⟨_, stored, filesAt_opens_iff valid canonical stored⟩

def padded : Session := Session.seeded.after [.execute "touch ' a'" none]

theorem padded_holds :
    padded.tree.hasDirectory "" ∧
      (⟨" a", .file, " a"⟩ : Entry) ∈
        (padded.tree.childDirectories "").map (.ofPath .folder) ++
          (padded.tree.childFiles "").map (.ofPath .file) ∧
      padded.tree.content? " a" = some "" ∧
      padded.tree.content? (Path.ofBrowser (some " a")) = none ∧
      ∀ entry ∈ (padded.tree.childDirectories "").map (Entry.ofPath .folder) ++
        (padded.tree.childFiles "").map (Entry.ofPath .file), Text.Whole entry.path := by
  decide +kernel

theorem filesAt_padded : filesAt padded none = listed
    ((padded.tree.childDirectories "").map (.ofPath .folder) ++
      (padded.tree.childFiles "").map (.ofPath .file)) :=
  filesAt_eq_listed_iff.mpr
    ⟨browse_eq_ok_iff.mpr ⟨padded_holds.1, rfl⟩, padded_holds.2.2.2.2⟩

theorem browser_opens_iff_padded : ∃ content, padded.tree.content? " a" = some content ∧
    ((∃ place, contentAt padded " a" = shown ⟨place, content⟩) ↔
      (Text.trim " a" = " a" ∨
        padded.tree.content? (Path.ofBrowser (some " a")) = some content) ∧
      Text.Whole content) :=
  have reached : padded = Session.seeded.after (["touch ' a'"].map (.execute · none)) := rfl
  (browser_opens_iff "seeded" _ _ _ ["touch ' a'"] reached filesAt_padded padded_holds.2.1).1 rfl

theorem browser_misses_padded :
    (∃ entries, filesAt padded none = listed entries ∧ ⟨" a", .file, " a"⟩ ∈ entries) ∧
      padded.tree.content? " a" = some "" ∧
      ¬ ∃ place, contentAt padded " a" = shown ⟨place, ""⟩ := by
  obtain ⟨_, member, stored, missing, _⟩ := padded_holds
  refine ⟨⟨_, filesAt_padded, member⟩, stored, ?_⟩
  rintro ⟨place, opened⟩
  have found := (contentAt_eq_shown_iff.mp opened).1.2
  rw [missing] at found
  cases found

end TreeShell.Service
