import TrialRun.Files.Volume
import TrialRun.Proofs.Act.Run

/-!
# What is written at a place

Where a path leads is known without the files, as long as it leads somewhere: its place is what its
names spell out, where double dots take one name back (`Path.place`).  So two paths to one file are
told by their places, however they are written.

A directory that is made changes no text (`Volume.text?_makeDirectory`), and a text that is written
is found at the place of its path, while all other texts stay as they are
(`Volume.text?_writeFile`).  Where there is room for a text it can be written, and room is kept by
whatever is written elsewhere (`Volume.HasRoom`).
-/

set_option autoImplicit false

namespace TrialRun

namespace Path

/-- The place behind a name, from another place on. -/
def enter (place : List String) (name : String) : List String :=
  if name = ".." then place.dropLast else place ++ [name]

/-- The names on the way from the root to where a path leads. -/
def place (p : Path) : List String := p.names.foldl enter []

end Path

namespace Entry

/-- The entry without what a directory holds. -/
def outline : Entry → Entry
  | .file contents => .file contents
  | .directory _ => .directory .empty

/-- The text of a file. -/
def text? : Entry → Option String
  | .file contents => some contents
  | .directory _ => none

/-- An outline forgets what is in a directory. -/
theorem outline_eq_directory_iff {e : Entry} :
    e.outline = .directory .empty ↔ ∃ l, e = .directory l := by
  cases e <;> simp [outline]

end Entry

namespace Volume

/-- What is behind some names, from a directory on, but for what it holds. -/
def outlineFrom? (inside : Listing) (names : List String) : Option Entry :=
  (entryFrom? inside names).map Entry.outline

/-- What is at a place, but for what it holds. -/
def outline? (v : Volume) (place : List String) : Option Entry := outlineFrom? v.root place

/-- The text in the file at a place, if there is one. -/
def text? (v : Volume) (place : List String) : Option String :=
  (v.outline? place).bind Entry.text?

/-! ## Entries behind names -/

theorem entryFrom?_cons_directory {inside below : Listing} {name : String} {rest : List String} :
    entryFrom? inside (name :: rest) = some (.directory below) ↔
      ∃ listing, inside.find? name = some (.directory listing) ∧
        entryFrom? listing rest = some (.directory below) := by
  rcases found : inside.find? name with - | listing | contents <;> cases rest <;>
    simp [entryFrom?, found]

/-- Behind the names that lead to a directory, the others go on from it. -/
theorem entryFrom?_append {inside below : Listing} {names : List String} (rest : List String)
    (leads : entryFrom? inside names = some (.directory below)) :
    entryFrom? inside (names ++ rest) = entryFrom? below rest := by
  induction names generalizing inside with
  | nil =>
    cases leads
    rfl
  | cons name names ih =>
    obtain ⟨listing, found, further⟩ := entryFrom?_cons_directory.mp leads
    rw [List.cons_append, ← ih further]
    cases same : names ++ rest with
    | nil =>
      obtain ⟨rfl, rfl⟩ := List.append_eq_nil_iff.mp same
      simp [entryFrom?, found]
    | cons next others => simp [entryFrom?, found]

/-- There is nothing behind a file. -/
theorem outlineFrom?_cons (inside : Listing) (name : String) (rest : List String) :
    outlineFrom? inside (name :: rest) =
      match inside.find? name with
      | some (.directory below) => outlineFrom? below rest
      | some (.file contents) => if rest = [] then some (.file contents) else none
      | none => none := by
  rcases found : inside.find? name with - | listing | contents <;> cases rest <;>
    simp [outlineFrom?, entryFrom?, found, Entry.outline]

theorem outlineFrom?_empty (names : List String) :
    outlineFrom? .empty names = if names = [] then some (.directory .empty) else none := by
  cases names with
  | nil => rfl
  | cons name rest => exact outlineFrom?_cons ..

/-- If a file or an empty directory is put where a directory leads and no directory is, then it is
what is found there, and all else is where it was. -/
theorem outlineFrom?_putFrom {entry : Entry} (flat : entry.outline = entry)
    {inside below : Listing} {names : List String} {name : String}
    (leads : entryFrom? inside names = some (.directory below))
    (room : ∀ l, below.find? name ≠ some (.directory l)) (place : List String) :
    outlineFrom? (putFrom entry inside (names ++ [name])) place =
      if place = names ++ [name] then some entry else outlineFrom? inside place := by
  -- down the directories on the way; only in the last of them anything is put
  induction names generalizing inside place with
  | nil =>
    obtain rfl : inside = below := by simpa [entryFrom?] using leads
    cases place with
    | nil => rfl
    | cons first rest =>
      simp only [List.nil_append, putFrom, outlineFrom?_cons]
      by_cases same : first = name
      · subst same
        have own : (match some entry with
            | some (.directory below) => outlineFrom? below rest
            | some (.file contents) => if rest = [] then some (.file contents) else none
            | none => none) = if rest = [] then some entry else none := by
          rcases entry with listing | contents
          · cases flat
            exact outlineFrom?_empty rest
          · rfl
        rw [Listing.find?_set_self, own]
        -- a directory of this name would be lost with all that is in it, but there is none
        rcases old : inside.find? first with - | listing | contents
        · simp
        · exact absurd old (room listing)
        · by_cases last : rest = [] <;> simp [last]
      · rw [Listing.find?_set_of_ne entry inside same]
        simp [same]
  | cons next names ih =>
    obtain ⟨listing, found, further⟩ := entryFrom?_cons_directory.mp leads
    have put : putFrom entry inside (next :: names ++ [name]) =
        inside.set next (.directory (putFrom entry listing (names ++ [name]))) := by
      cases names <;> simp [putFrom, found]
    rw [put]
    cases place with
    | nil => rfl
    | cons first rest =>
      simp only [outlineFrom?_cons]
      by_cases same : first = next
      · subst same
        rw [Listing.find?_set_self, found]
        dsimp only
        rw [ih further]
        simp
      · rw [Listing.find?_set_of_ne _ inside same]
        simp [same]

end Volume

/-! ## Where paths lead -/

namespace Spot

/-- A directory that is reached from a root, by the names of directories that hold each other. -/
inductive Below (root : Listing) : Spot → Prop where
  | root : Below root ⟨root, []⟩
  | down {s : Spot} {name : String} {inside : Listing} : Below root s →
      s.inside.find? name = some (.directory inside) → Below root (s.down name inside)

/-- The way up from a spot under the root stays under the root. -/
theorem Below.up {root : Listing} {s : Spot} (h : s.Below root) : s.up.Below root := by
  cases h with
  | root => exact .root
  | down above found => exact above

theorem place_up (s : Spot) : s.up.place = s.place.dropLast := by
  obtain ⟨inside, _ | ⟨⟨name, listing⟩, above⟩⟩ := s <;> simp [up, place]

theorem place_down (s : Spot) (name : String) (inside : Listing) :
    (s.down name inside).place = s.place ++ [name] := by
  simp [down, place]

/-- A directory that was reached is found at its place. -/
theorem Below.entryFrom? {root : Listing} {s : Spot} (h : s.Below root) :
    Volume.entryFrom? root s.place = some (.directory s.inside) := by
  induction h with
  | root => rfl
  | @down s name inside above found ih =>
    rw [place_down, Volume.entryFrom?_append [name] ih]
    exact found

end Spot

namespace Volume

/-- A walk keeps below the root, and ends where its names lead. -/
theorem walk_ok {root : Listing} {here there : Spot} {names : List String} (below : here.Below root)
    (reached : walk here names = .ok there) :
    there.Below root ∧ there.place = names.foldl Path.enter here.place := by
  induction names generalizing here with
  | nil =>
    cases reached
    exact ⟨below, rfl⟩
  | cons name rest ih =>
    by_cases up : name = ".."
    · subst up
      rw [walk] at reached
      obtain ⟨reachedBelow, place⟩ := ih below.up reached
      refine ⟨reachedBelow, ?_⟩
      rw [place, Spot.place_up]
      rfl
    · rw [walk.eq_3 _ _ _ up] at reached
      split at reached
      · cases reached
      · split at reached
        next inside found =>
          obtain ⟨reachedBelow, place⟩ := ih (below.down found) reached
          refine ⟨reachedBelow, ?_⟩
          rw [place, Spot.place_down, List.foldl_cons, Path.enter, if_neg up]
        · cases reached
        · cases reached

/-- Where the last name of a path leads from the directory before it. -/
def ending (here : Spot) (last : Option String) : Except DiskError (List String × Option Entry) :=
  match last with
  | none => .ok (here.place, some (.directory here.inside))
  | some name =>
    if name = ".." then .ok (here.up.place, some (.directory here.up.inside))
    else if nameLimit < Text.Utf8.size name then .error .nameTooLong
    else .ok (here.place ++ [name], here.inside.find? name)

/-- The target of a path is found in the directory of its last name. -/
theorem target_eq (v : Volume) (p : Path) :
    v.target p =
      if pathLimit < Text.Utf8.size p.text then .error .nameTooLong
      else walk ⟨v.root, []⟩ p.names.dropLast >>= fun here => ending here p.names.getLast? := by
  unfold target
  split
  · rfl
  congr 1
  funext here
  rcases p.names.getLast? with - | name
  · rfl
  · by_cases up : name = ".."
    · subst up
      rfl
    · rw [ending, if_neg up]
      split
      · contradiction
      · rename_i same
        exact absurd (Option.some.inj same) up
      · rename_i same
        cases same
        rfl

/-- The target of a path is at its place.  If it is no directory, a directory leads there. -/
theorem target_ok {v : Volume} {p : Path} {place : List String} {entry : Option Entry}
    (led : v.target p = .ok (place, entry)) :
    place = p.place ∧ v.entry? place = entry ∧
      ((∃ l, entry = some (.directory l)) ∨
        ∃ names name below, place = names ++ [name] ∧
          v.entry? names = some (.directory below) ∧ below.find? name = entry) := by
  rw [target_eq] at led
  split at led
  · cases led
  · obtain ⟨here, walked, led⟩ := ok_of_bind led
    obtain ⟨below, reached⟩ := walk_ok .root walked
    have there := below.entryFrom?
    cases last : p.names.getLast? with
    | none =>
      rw [last] at led
      cases led
      obtain none : p.names = [] := List.getLast?_eq_none_iff.mp last
      rw [none] at reached
      refine ⟨?_, there, .inl ⟨_, rfl⟩⟩
      rw [reached, Path.place, none]
      rfl
    | some name =>
      have spelled : p.place = Path.enter here.place name := by
        obtain ⟨before, names⟩ := List.getLast?_eq_some_iff.mp last
        rw [names, List.dropLast_concat] at reached
        rw [Path.place, names, List.foldl_append, reached]
        rfl
      rw [last, ending] at led
      by_cases up : name = ".."
      · rw [if_pos up] at led
        cases led
        refine ⟨?_, below.up.entryFrom?, .inl ⟨_, rfl⟩⟩
        rw [spelled, Spot.place_up, Path.enter, if_pos up]
      · rw [if_neg up] at led
        split at led
        · cases led
        · cases led
          have place : here.place ++ [name] = p.place := by
            rw [spelled, Path.enter, if_neg up]
          refine ⟨place, ?_, .inr ⟨_, name, _, rfl, there, rfl⟩⟩
          exact entryFrom?_append [name] there

/-- Making a directory puts an empty one where nothing was. -/
theorem outline?_makeDirectory {v v' : Volume} {p : Path} (made : v.makeDirectory p = .ok v') :
    v.outline? p.place = none ∧ ∀ place, v'.outline? place =
      if place = p.place then some (.directory .empty) else v.outline? place := by
  obtain ⟨⟨target, entry⟩, led, made⟩ := ok_of_bind made
  obtain ⟨spelled, found, ⟨l, rfl⟩ | ⟨names, name, below, rfl, leads, there⟩⟩ := target_ok led
  · cases made
  · cases entry with
    | some entry => cases made
    | none =>
      cases made
      rw [← spelled]
      refine ⟨congrArg (Option.map Entry.outline) found, ?_⟩
      exact outlineFrom?_putFrom rfl leads (fun l other => by cases there.symm.trans other)

/-- Writing a text puts it into a file where no directory was. -/
theorem outline?_writeFile {v v' : Volume} {p : Path} {contents : String}
    (wrote : v.writeFile p contents = .ok v') :
    v.outline? p.place ≠ some (.directory .empty) ∧ ∀ place, v'.outline? place =
      if place = p.place then some (.file contents) else v.outline? place := by
  obtain ⟨⟨target, entry⟩, led, wrote⟩ := ok_of_bind wrote
  obtain ⟨spelled, found, ⟨l, rfl⟩ | ⟨names, name, below, rfl, leads, there⟩⟩ := target_ok led
  · cases wrote
  · have room : ∀ l, entry ≠ some (.directory l) := by
      rintro l rfl
      cases wrote
    have put : v' = v.put (names ++ [name]) (.file contents) := by
      rcases entry with - | l | old <;> cases wrote <;> rfl
    rw [put, ← spelled]
    constructor
    · show (v.entry? (names ++ [name])).map Entry.outline ≠ _
      rw [found]
      rcases entry with - | l | old
      · exact nofun
      · exact absurd rfl (room l)
      · exact nofun
    · exact outlineFrom?_putFrom rfl leads fun l other => room l (there.symm.trans other)

/-- Making a directory changes no text. -/
theorem text?_makeDirectory {v v' : Volume} {p : Path} (made : v.makeDirectory p = .ok v')
    (place : List String) : v'.text? place = v.text? place := by
  obtain ⟨nothing, outline⟩ := outline?_makeDirectory made
  rw [text?, text?, outline]
  split
  next same =>
    rw [same, nothing]
    rfl
  · rfl

/-- Writing a text puts it at the place of the path, and changes no other text. -/
theorem text?_writeFile {v v' : Volume} {p : Path} {contents : String}
    (wrote : v.writeFile p contents = .ok v') (place : List String) :
    v'.text? place = if place = p.place then some contents else v.text? place := by
  rw [text?, (outline?_writeFile wrote).2]
  split <;> rfl

/-! ## Room for files -/

/-- There is a directory at a place. -/
theorem outline?_eq_directory_iff {v : Volume} {place : List String} :
    v.outline? place = some (.directory .empty) ↔ ∃ l, v.entry? place = some (.directory l) := by
  show (v.entry? place).map Entry.outline = _ ↔ _
  rw [Option.map_eq_some_iff]
  constructor
  · rintro ⟨e, found, flat⟩
    obtain ⟨l, rfl⟩ := Entry.outline_eq_directory_iff.mp flat
    exact ⟨l, found⟩
  · rintro ⟨l, found⟩
    exact ⟨_, found, rfl⟩

/-- All directories of a volume are also in another one. -/
def SubDirectories (v v' : Volume) : Prop :=
  ∀ place, v.outline? place = some (.directory .empty) →
    v'.outline? place = some (.directory .empty)

/-- Where one can walk, one can also walk among more directories. -/
theorem walk_of_subDirectories {v v' : Volume} (more : v.SubDirectories v') {names : List String}
    {here here' there : Spot} (below : here.Below v.root) (below' : here'.Below v'.root)
    (beside : here'.place = here.place) (walked : walk here names = .ok there) :
    ∃ there', walk here' names = .ok there' := by
  -- both walks stay at the same place, each below its own root, so that outlines can be compared
  induction names generalizing here here' with
  | nil => exact ⟨here', rfl⟩
  | cons name rest ih =>
    by_cases up : name = ".."
    · subst up
      rw [walk] at walked ⊢
      refine ih below.up below'.up ?_ walked
      rw [Spot.place_up, Spot.place_up, beside]
    · rw [walk.eq_3 _ _ _ up] at walked ⊢
      split at walked
      · cases walked
      next short =>
        rw [if_neg short]
        split at walked
        next inside found =>
          have there : v.outline? (here.place ++ [name]) = some (.directory .empty) :=
            outline?_eq_directory_iff.mpr
              ⟨inside, (entryFrom?_append [name] below.entryFrom?).trans found⟩
          obtain ⟨inside', found'⟩ := outline?_eq_directory_iff.mp (more _ there)
          rw [← beside] at found'
          have same : here'.inside.find? name = some (.directory inside') :=
            (entryFrom?_append [name] below'.entryFrom?).symm.trans found'
          rw [same]
          refine ih (below.down found) (below'.down same) ?_ walked
          rw [Spot.place_down, Spot.place_down, beside]
        · cases walked
        · cases walked

/-- What a path leads to, it also leads to among more directories. -/
theorem target_of_subDirectories {v v' : Volume} (more : v.SubDirectories v') {p : Path}
    {place : List String} {entry : Option Entry} (led : v.target p = .ok (place, entry)) :
    ∃ entry', v'.target p = .ok (place, entry') := by
  obtain ⟨spelled, -, -⟩ := target_ok led
  suffices ∃ found, v'.target p = .ok found by
    obtain ⟨⟨place', entry'⟩, led'⟩ := this
    obtain ⟨spelled', -, -⟩ := target_ok led'
    rw [spelled, ← spelled']
    exact ⟨entry', led'⟩
  rw [target_eq] at led ⊢
  split at led
  · cases led
  next short =>
    rw [if_neg short]
    obtain ⟨here, walked, led⟩ := ok_of_bind led
    obtain ⟨here', walked'⟩ := walk_of_subDirectories more .root .root rfl walked
    rw [walked']
    show ∃ found, ending here' p.names.getLast? = .ok found
    cases last : p.names.getLast? with
    | none => exact ⟨_, rfl⟩
    | some name =>
      rw [last] at led
      simp only [ending] at led ⊢
      split
      · exact ⟨_, rfl⟩
      next ahead =>
        rw [if_neg ahead] at led
        split at led
        · cases led
        next fits =>
          rw [if_neg fits]
          exact ⟨_, rfl⟩

/-- A text can be written to a path: its directory is there, and no directory is in its place. -/
structure HasRoom (v : Volume) (p : Path) : Prop where
  parent : v.isDirectory p.parent = true
  reached : ∃ entry, v.target p = .ok (p.place, entry)
  vacant : v.outline? p.place ≠ some (.directory .empty)

variable {v v' : Volume} {p : Path}

/-- There is room for a file where its directory is and leads to its place, and no directory has the
place already. -/
theorem hasRoom_iff :
    v.HasRoom p ↔ v.isDirectory p.parent = true ∧
      (v.target p).toOption.map Prod.fst = some p.place ∧
      v.outline? p.place ≠ some (.directory .empty) := by
  have reached : (∃ entry, v.target p = .ok (p.place, entry)) ↔
      (v.target p).toOption.map Prod.fst = some p.place := by
    rcases v.target p with e | ⟨place, entry⟩ <;> simp [Except.toOption]
  rw [← reached]
  exact ⟨fun room => ⟨room.parent, room.reached, room.vacant⟩, fun ⟨one, two, three⟩ =>
    ⟨one, two, three⟩⟩

instance (v : Volume) (p : Path) : Decidable (v.HasRoom p) := decidable_of_iff _ hasRoom_iff.symm

/-- A directory is known by its outline at the place where the path leads. -/
theorem isDirectory_iff :
    v.isDirectory p = true ↔ (∃ entry, v.target p = .ok (p.place, entry)) ∧
      v.outline? p.place = some (.directory .empty) := by
  rw [isDirectory, outline?_eq_directory_iff]
  rcases led : v.target p with e | ⟨place, entry⟩
  · simp
  · obtain ⟨rfl, found, -⟩ := target_ok led
    rw [found]
    rcases entry with - | l | contents <;> simp

/-- Where there is room, a text can be written. -/
theorem HasRoom.exists_writeFile (room : v.HasRoom p) (contents : String) :
    ∃ v', v.writeFile p contents = .ok v' := by
  obtain ⟨entry, led⟩ := room.reached
  obtain ⟨-, found, -⟩ := target_ok led
  have vacant := room.vacant
  rw [Ne, outline?_eq_directory_iff, found] at vacant
  rw [writeFile, led]
  rcases entry with - | l | old
  · exact ⟨_, rfl⟩
  · exact absurd ⟨l, rfl⟩ vacant
  · exact ⟨_, rfl⟩

/-- A text is written among the same directories. -/
theorem outline?_directory_writeFile {q : Path} {contents : String}
    (wrote : v.writeFile q contents = .ok v') (place : List String) :
    v'.outline? place = some (.directory .empty) ↔
      v.outline? place = some (.directory .empty) := by
  obtain ⟨vacant, outline⟩ := outline?_writeFile wrote
  rw [outline]
  split
  next same =>
    subst same
    exact ⟨nofun, fun directory => absurd directory vacant⟩
  · rfl

/-- A text that is written anywhere leaves the room that there is. -/
theorem HasRoom.writeFile {q : Path} {contents : String} (room : v.HasRoom p)
    (wrote : v.writeFile q contents = .ok v') : v'.HasRoom p := by
  have directories := outline?_directory_writeFile wrote
  have more : v.SubDirectories v' := fun place => (directories place).mpr
  obtain ⟨⟨entry, parentLed⟩, parent⟩ := isDirectory_iff.mp room.parent
  obtain ⟨entry', led⟩ := room.reached
  exact
    { parent := isDirectory_iff.mpr ⟨target_of_subDirectories more parentLed, more _ parent⟩
      reached := target_of_subDirectories more led
      vacant := fun directory => room.vacant ((directories _).mp directory) }

end Volume

end TrialRun
