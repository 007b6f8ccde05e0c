import SolidDrawing.Disk

/-!
# What is done to a disk

Making directories adds directories along a path and changes nothing else, also when it fails on its way
(`Disk.grown_makeDirectories`). A file that is saved is at the place that its path leads to, and whatever is new beside
it is a directory along the way (`Disk.saved_of_write`). Directories that are there stay, so that a path which leads to
a place keeps leading there.
-/

namespace SolidDrawing.Disk

variable {d d' d'' : Disk} {place : Place} {rooted : Bool} {steps : List Step}

/-! ### Directories stay -/

/-- The second disk has the directories of the first one. -/
structure Keeps (d d' : Disk) : Prop where
  directory : d'.directory = d.directory
  stays : ∀ place, d.find? place = some .directory → d'.find? place = some .directory

theorem Keeps.start_eq (h : Keeps d d') (rooted : Bool) : d'.start rooted = d.start rooted := by
  rw [start, start, h.directory]

theorem walk_append (d : Disk) (place : Place) (steps steps' : List Step) :
    d.walk place (steps ++ steps') = d.walk place steps >>= fun place => d.walk place steps' := by
  induction steps generalizing place with
  | nil => rfl
  | cons step steps ih =>
    cases step with
    | up => exact ih place.dropLast
    | name s =>
      rw [List.cons_append, walk, walk]
      split
      · rfl
      · split
        · rfl
        · rfl
        · exact ih _

theorem Keeps.walk (h : Keeps d d') {last : Place} (hwalk : d.walk place steps = .ok last) :
    d'.walk place steps = .ok last := by
  induction steps generalizing place with
  | nil => exact hwalk
  | cons step steps ih =>
    cases step with
    | up => exact ih hwalk
    | name s =>
      rw [Disk.walk] at hwalk ⊢
      split at hwalk
      case isTrue => cases hwalk
      case isFalse hshort =>
        split at hwalk
        case h_1 => cases hwalk
        case h_2 => cases hwalk
        case h_3 hfind =>
          rw [if_neg hshort, h.stays _ hfind]
          exact ih hwalk

/-- Steps lead to a name in a directory if they end in it, and the others lead to the directory. -/
theorem targetOf_eq_named {parent : Place} {s : String} : d.targetOf rooted steps = .ok (.named parent s) ↔
    ∃ front, steps = front ++ [.name s] ∧ d.walk (d.start rooted) front = .ok parent ∧
      ¬ s.utf8ByteSize > nameLimit := by
  constructor
  · intro h
    unfold targetOf at h
    split at h
    case h_1 s' hlast =>
      obtain ⟨front, rfl⟩ := List.getLast?_eq_some_iff.1 hlast
      rw [List.dropLast_concat] at h
      cases hwalk : d.walk (d.start rooted) front with
      | error fault =>
        rw [hwalk] at h
        cases h
      | ok parent' =>
        rw [hwalk] at h
        change (if s'.utf8ByteSize > nameLimit then _ else _) = _ at h
        split at h
        case isTrue => cases h
        case isFalse hshort =>
          cases h
          exact ⟨front, rfl, hwalk, hshort⟩
    case h_2 =>
      cases hwalk : d.walk (d.start rooted) steps with
      | error fault =>
        rw [hwalk] at h
        cases h
      | ok place =>
        rw [hwalk] at h
        cases h
  · rintro ⟨front, rfl, hwalk, hshort⟩
    unfold targetOf
    rw [List.getLast?_concat, List.dropLast_concat]
    dsimp only
    rw [hwalk]
    exact if_neg hshort

theorem Keeps.targetOf_named (h : Keeps d d') {parent : Place} {s : String}
    (ht : d.targetOf rooted steps = .ok (.named parent s)) : d'.targetOf rooted steps = .ok (.named parent s) := by
  obtain ⟨front, hsteps, hwalk, hshort⟩ := targetOf_eq_named.1 ht
  refine targetOf_eq_named.2 ⟨front, hsteps, ?_, hshort⟩
  rw [h.start_eq]
  exact h.walk hwalk

/-- Steps lead to a directory that is where they lead to. -/
theorem walk_of_targetOf {parent : Place} {s : String} (ht : d.targetOf rooted steps = .ok (.named parent s))
    (hfind : d.find? (parent ++ [s]) = some .directory) : d.walk (d.start rooted) steps = .ok (parent ++ [s]) := by
  obtain ⟨front, rfl, hwalk, hshort⟩ := targetOf_eq_named.1 ht
  rw [walk_append, hwalk]
  change d.walk parent [.name s] = _
  rw [walk, if_neg hshort, hfind]
  rfl

/-! ### Making directories -/

/-- Nothing has changed at the place, or a directory was made there, and the place is one of `P`. -/
def GrownAt (P : Place → Prop) (d d' : Disk) (place : Place) : Prop :=
  d'.find? place = d.find? place ∨ d.find? place = none ∧ d'.find? place = some .directory ∧ P place

namespace GrownAt

variable {P Q : Place → Prop}

theorem imp (h : GrownAt P d d' place) (hPQ : P place → Q place) : GrownAt Q d d' place := by
  rcases h with hsame | ⟨hnone, hmade, hP⟩
  · exact .inl hsame
  · exact .inr ⟨hnone, hmade, hPQ hP⟩

theorem stays (h : GrownAt P d d' place) {e : Entry} (he : d.find? place = some e) : d'.find? place = some e := by
  rcases h with hsame | ⟨hnone, -, -⟩
  · rw [hsame, he]
  · rw [he] at hnone
    cases hnone

theorem trans (h : GrownAt P d d' place) (h' : GrownAt P d' d'' place) : GrownAt P d d'' place := by
  rcases h' with hsame' | ⟨hnone', hmade', hP⟩
  · rwa [GrownAt, hsame']
  · rcases h with hsame | ⟨-, hmade, -⟩
    · exact .inr ⟨hsame ▸ hnone', hmade', hP⟩
    · rw [hnone'] at hmade
      cases hmade

end GrownAt

/-- Directories were made at places of `P`, and nothing else has changed. -/
structure Grown (P : Place → Prop) (d d' : Disk) : Prop where
  directory : d'.directory = d.directory
  entry : ∀ place, GrownAt P d d' place

namespace Grown

variable {P Q : Place → Prop}

theorem refl (P : Place → Prop) (d : Disk) : Grown P d d := ⟨rfl, fun _ => .inl rfl⟩

theorem imp (h : Grown P d d') (hPQ : ∀ place, P place → Q place) : Grown Q d d' :=
  ⟨h.directory, fun place => (h.entry place).imp (hPQ place)⟩

theorem trans (h : Grown P d d') (h' : Grown P d' d'') : Grown P d d'' :=
  ⟨h'.directory.trans h.directory, fun place => (h.entry place).trans (h'.entry place)⟩

theorem keeps (h : Grown P d d') : Keeps d d' := ⟨h.directory, fun place hplace => (h.entry place).stays hplace⟩

end Grown

theorem makeDirectory_eq_ok (h : d.makeDirectory rooted steps = .ok d') : ∃ parent s,
    d.targetOf rooted steps = .ok (.named parent s) ∧ d.find? (parent ++ [s]) = none ∧
      d' = d.put (parent ++ [s]) .directory := by
  unfold makeDirectory at h
  cases ht : d.targetOf rooted steps with
  | error fault =>
    rw [ht] at h
    cases h
  | ok t =>
    rw [ht] at h
    cases t with
    | directory place => cases h
    | named parent s =>
      change (if (d.find? (parent ++ [s])).isSome then _ else _) = _ at h
      split at h
      case isTrue => cases h
      case isFalse hnone => exact ⟨parent, s, rfl, by simpa using hnone, (Except.ok.inj h).symm⟩

/-- At most one directory is made, where the steps lead to. -/
theorem grown_ensureDirectory (h : d.ensureDirectory rooted steps = .ok d') :
    Grown (fun place => d'.walk (d'.start rooted) steps = .ok place) d d' := by
  unfold ensureDirectory at h
  split at h
  case h_2 fault _ =>
    split at h
    case isFalse => cases h
    case isTrue =>
      cases h
      exact .refl _ _
  case h_1 made hmade =>
    cases h
    obtain ⟨parent, s, ht, hnone, rfl⟩ := makeDirectory_eq_ok hmade
    have hne : parent ++ [s] ≠ [] := by simp
    have hgrown : Grown (fun place => place = parent ++ [s]) d (d.put (parent ++ [s]) .directory) := by
      refine ⟨rfl, fun place => ?_⟩
      by_cases hplace : place = parent ++ [s]
      · rw [hplace]
        exact .inr ⟨hnone, find?_put_self d hne _, rfl⟩
      · exact .inl (find?_put_of_ne d hplace _)
    refine hgrown.imp ?_
    rintro _ rfl
    exact walk_of_targetOf (hgrown.keeps.targetOf_named ht) (find?_put_self d hne _)

/-- The steps lead through the place, or to it. -/
def LeadsThrough (d : Disk) (rooted : Bool) (steps : List Step) (place : Place) : Prop :=
  ∃ front, front <+: steps ∧ d.walk (d.start rooted) front = .ok place

theorem Keeps.leadsThrough (h : Keeps d d') (hplace : d.LeadsThrough rooted steps place) :
    d'.LeadsThrough rooted steps place := by
  obtain ⟨front, hfront, hwalk⟩ := hplace
  refine ⟨front, hfront, ?_⟩
  rw [h.start_eq]
  exact h.walk hwalk

/-- Also when they are not all made, the directories that are made are on the way. -/
theorem grown_makeAlong (before rest : List Step) (d : Disk) :
    Grown ((makeAlong rooted before rest d).2.LeadsThrough rooted (before ++ rest)) d
      (makeAlong rooted before rest d).2 := by
  induction rest generalizing before d with
  | nil => exact .refl _ d
  | cons step rest ih =>
    unfold makeAlong
    split
    case h_2 => exact .refl _ d
    case h_1 made hmade =>
      have hrest := ih (before ++ [step]) made
      rw [List.append_assoc, List.singleton_append] at hrest
      -- what is made now is led to still when the others are made
      refine Grown.trans ((grown_ensureDirectory hmade).imp fun place hplace => ?_) hrest
      refine hrest.keeps.leadsThrough ⟨before ++ [step], ?_, hplace⟩
      exact ⟨rest, by simp⟩

theorem grown_makeDirectories (d : Disk) (p : Path) :
    Grown ((d.makeDirectories p).2.LeadsThrough p.isRooted p.steps) d (d.makeDirectories p).2 := by
  unfold makeDirectories
  split
  · exact .refl _ d
  · exact grown_makeAlong [] p.steps d

theorem ensureDirectory_of_walk (h : d.walk (d.start rooted) steps = .ok place) :
    d.ensureDirectory rooted steps = .ok d := by
  unfold ensureDirectory
  split
  case h_1 made hmade =>
    obtain ⟨parent, s, ht, hnone, -⟩ := makeDirectory_eq_ok hmade
    obtain ⟨front, rfl, hwalk, hshort⟩ := targetOf_eq_named.1 ht
    rw [walk_append, hwalk] at h
    change d.walk parent [.name s] = _ at h
    rw [walk, if_neg hshort, hnone] at h
    cases h
  case h_2 =>
    rw [h]
    rfl

theorem makeAlong_of_walk (before rest : List Step) (h : d.walk (d.start rooted) (before ++ rest) = .ok place) :
    (makeAlong rooted before rest d).2 = d := by
  induction rest generalizing before with
  | nil => rfl
  | cons step rest ih =>
    have hsplit : before ++ step :: rest = (before ++ [step]) ++ rest := by simp
    rw [hsplit] at h
    obtain ⟨middle, hmiddle⟩ : ∃ middle, d.walk (d.start rooted) (before ++ [step]) = .ok middle := by
      rw [walk_append] at h
      cases hwalk : d.walk (d.start rooted) (before ++ [step]) with
      | error fault =>
        rw [hwalk] at h
        cases h
      | ok middle => exact ⟨middle, rfl⟩
    rw [makeAlong, ensureDirectory_of_walk hmiddle]
    exact ih _ h

/-- Where a path leads to a directory, nothing is made. -/
theorem makeDirectories_of_walk {p : Path} (h : d.walk (d.start p.isRooted) p.steps = .ok place) :
    (d.makeDirectories p).2 = d := by
  unfold makeDirectories
  split
  · rfl
  · exact makeAlong_of_walk [] p.steps h

/-! ### Saving files -/

/-- The place of the file that a path names. -/
def fileAt (d : Disk) (path : String) : Option Place :=
  match d.target ⟨path⟩, (⟨path⟩ : Path).isClosed with
  | .ok (.named parent s), false => some (parent ++ [s])
  | _, _ => none

/-- The place is along the way to the directory that the file of the path lies in. -/
def IsAlong (d : Disk) (path : String) (place : Place) : Prop :=
  ∃ parent, Path.parent? ⟨path⟩ = some parent ∧ d.LeadsThrough parent.isRooted parent.steps place

variable {path : String} {bytes : List UInt8}

theorem Keeps.isAlong (h : Keeps d d') (hplace : d.IsAlong path place) : d'.IsAlong path place := by
  obtain ⟨parent, hparent, hleads⟩ := hplace
  exact ⟨parent, hparent, h.leadsThrough hleads⟩

theorem fileAt_eq_some : d.fileAt path = some place ↔ ∃ parent s, d.target ⟨path⟩ = .ok (.named parent s) ∧
    (⟨path⟩ : Path).isClosed = false ∧ place = parent ++ [s] := by
  unfold fileAt
  constructor
  · intro h
    split at h
    case h_1 parent s ht hopen => exact ⟨parent, s, ht, hopen, (Option.some.inj h).symm⟩
    case h_2 => cases h
  · rintro ⟨parent, s, ht, hopen, rfl⟩
    rw [ht, hopen]

theorem Keeps.fileAt (h : Keeps d d') (hplace : d.fileAt path = some place) : d'.fileAt path = some place := by
  obtain ⟨parent, s, ht, hopen, rfl⟩ := fileAt_eq_some.1 hplace
  refine fileAt_eq_some.2 ⟨parent, s, ?_, hopen, rfl⟩
  unfold target at ht ⊢
  split at ht
  · cases ht
  · exact h.targetOf_named ht

/-- The bytes that a path leads to are those of the file there. -/
theorem read_eq_ok (hplace : d.fileAt path = some place) (hfile : d.find? place = some (.file bytes)) :
    d.read ⟨path⟩ = .ok bytes := by
  obtain ⟨parent, s, ht, hopen, rfl⟩ := fileAt_eq_some.1 hplace
  simp only [read, ht, bind, Except.bind, hfile, hopen]

theorem write_eq_ok (h : d.write ⟨path⟩ bytes = .ok d') : ∃ place, d.fileAt path = some place ∧ place ≠ [] ∧
    d.find? place ≠ some .directory ∧ d' = d.put place (.file bytes) := by
  unfold write at h
  cases ht : d.target ⟨path⟩ with
  | error fault =>
    rw [ht] at h
    cases h
  | ok t =>
    rw [ht] at h
    cases t with
    | directory place => cases h
    | named parent s =>
      simp only [bind, Except.bind] at h
      split at h
      case h_1 | h_2 | h_3 => cases h
      case h_4 hopen hfree =>
        exact ⟨parent ++ [s], fileAt_eq_some.2 ⟨parent, s, ht, hopen, rfl⟩, by simp, hfree, (Except.ok.inj h).symm⟩

/-- A file was saved at a place, directories were made on the way to it, and nothing else has changed. -/
structure Saved (path : String) (bytes : List UInt8) (d d' : Disk) (place : Place) : Prop where
  directory : d'.directory = d.directory
  fileAt : d'.fileAt path = some place
  file : d'.find? place = some (.file bytes)
  free : d.find? place ≠ some .directory
  others : ∀ other ≠ place, GrownAt (d'.IsAlong path) d d' other

theorem Saved.keeps (h : Saved path bytes d d' place) : Keeps d d' := by
  refine ⟨h.directory, fun other hother => ?_⟩
  have hne : other ≠ place := by
    rintro rfl
    exact h.free hother
  exact (h.others other hne).stays hother

/-- Bytes are put into a file once its directory is there. -/
theorem saved_of_write (hgrown : Grown (d'.IsAlong path) d d') (hwrite : d'.write ⟨path⟩ bytes = .ok d'') :
    ∃ place, Saved path bytes d d'' place := by
  obtain ⟨place, hplace, hne, hfree, rfl⟩ := write_eq_ok hwrite
  have hother {other : Place} (h : other ≠ place) :
      (d'.put place (.file bytes)).find? other = d'.find? other := find?_put_of_ne d' h _
  have hkeeps : Keeps d' (d'.put place (.file bytes)) := by
    refine ⟨rfl, fun other hdirectory => ?_⟩
    have hne : other ≠ place := by
      rintro rfl
      exact hfree hdirectory
    rw [hother hne, hdirectory]
  refine ⟨place, ?_⟩
  constructor
  case directory => exact hgrown.directory
  case fileAt => exact hkeeps.fileAt hplace
  case file => exact find?_put_self d' hne _
  case free => exact fun hdirectory => hfree (hgrown.keeps.stays place hdirectory)
  case others =>
    intro other hne
    rw [GrownAt, hother hne]
    exact (hgrown.entry other).imp hkeeps.isAlong

end SolidDrawing.Disk
