import MailSearch.Disk
import MailSearch.Proofs.Outcome

/-!
# Writing a file beside its place

Where a path leads depends on the folders of a disk only, so putting or taking away a file
leaves every path where it led. A disk serves a path when its folder is there and neither
the place of the file nor the one beside it is a folder. On such a disk a file can be
written beside its place, made private and moved there, and the disk serves the path
again afterwards.
-/

namespace MailSearch

/-- The path beside a file's place at which the file is written first. -/
def Path.beside (p : Path) : Path :=
  { p with names := p.names.dropLast ++ [p.name ++ ".tmp"] }

/-- A path that has a last name ends in it. -/
theorem Path.eq_concat {p : Path} (h : p.name ≠ "") :
    p = ⟨p.root, p.names.dropLast ++ [p.name]⟩ := by
  have hne : p.names ≠ [] := by
    intro hnil
    rw [Path.name, hnil] at h
    exact h rfl
  have hlast : p.name = p.names.getLast hne := by
    rw [Path.name, List.getLastD_eq_getLast?, List.getLast?_eq_some_getLast hne, Option.getD_some]
  rw [hlast, List.dropLast_concat_getLast hne]

namespace Disk

section Entries

private theorem lookup_filter_self (location : List String)
    (entries : List (List String × Entry)) :
    (entries.filter (·.1 ≠ location)).lookup location = none := by
  induction entries with
  | nil => rfl
  | cons entry entries ih =>
    by_cases h : entry.1 = location
    · rw [List.filter_cons_of_neg (by simp [h])]
      exact ih
    · rw [List.filter_cons_of_pos (by simp [h]), List.lookup_cons,
        beq_eq_false_iff_ne.mpr (Ne.symm h)]
      exact ih

private theorem lookup_filter_of_ne {location other : List String} (hne : other ≠ location)
    (entries : List (List String × Entry)) :
    (entries.filter (·.1 ≠ location)).lookup other = entries.lookup other := by
  induction entries with
  | nil => rfl
  | cons entry entries ih =>
    by_cases h : entry.1 = location
    · rw [List.filter_cons_of_neg (by simp [h]), List.lookup_cons,
        beq_eq_false_iff_ne.mpr (h ▸ hne)]
      exact ih
    · rw [List.filter_cons_of_pos (by simp [h]), List.lookup_cons, List.lookup_cons, ih]

/-- What was put at a location is there. -/
theorem at?_put_self (d : Disk) {location : List String} (h : location ≠ []) (entry : Entry) :
    (d.put location entry).at? location = some entry := by
  unfold at? put
  rw [if_neg h, List.lookup_append, lookup_filter_self, Option.none_or, List.lookup_cons,
    beq_self_eq_true]

/-- Every other location is left as it was. -/
theorem at?_put_of_ne (d : Disk) {location other : List String} (h : other ≠ location)
    (entry : Entry) : (d.put location entry).at? other = d.at? other := by
  unfold at? put
  by_cases hroot : other = []
  · rw [if_pos hroot, if_pos hroot]
  · rw [if_neg hroot, if_neg hroot, List.lookup_append, lookup_filter_of_ne h, List.lookup_cons,
      beq_eq_false_iff_ne.mpr h]
    exact Option.or_none

/-- Taking an entry away leaves every other location as it was. -/
theorem at?_drop_of_ne (d : Disk) {location other : List String} (h : other ≠ location) :
    (d.drop location).at? other = d.at? other := by
  unfold at? drop
  by_cases hroot : other = []
  · rw [if_pos hroot, if_pos hroot]
  · rw [if_neg hroot, if_neg hroot, lookup_filter_of_ne h]

/-- What was taken away is no longer there. -/
theorem at?_drop_self (d : Disk) {location : List String} (h : location ≠ []) :
    (d.drop location).at? location = none := by
  unfold at? drop
  rw [if_neg h, lookup_filter_self]

end Entries

section Folders

variable {a b c d : Disk}

/-- Whether a disk has all folders of another, and relative paths begin in the same one. -/
structure Extends (a b : Disk) : Prop where
  current : b.current = a.current
  folders : ∀ location, a.at? location = some .folder → b.at? location = some .folder

/-- Whether two disks have the same folders. -/
def SameFolders (a b : Disk) : Prop := a.Extends b ∧ b.Extends a

/-- An entry in a place that is no folder leaves all folders. -/
theorem extends_put {location : List String} (h : d.at? location ≠ some .folder) (entry : Entry) :
    d.Extends (d.put location entry) where
  current := rfl
  folders := by
    intro other hother
    rw [at?_put_of_ne]
    · exact hother
    · rintro rfl
      exact h hother

/-- A file in a place that is no folder changes no folder. -/
theorem sameFolders_put {location : List String} (h : d.at? location ≠ some .folder)
    (content : Content) (mode : Nat) : d.SameFolders (d.put location (.file content mode)) := by
  refine ⟨extends_put h _, rfl, ?_⟩
  intro other hother
  by_cases hne : other = location
  · subst hne
    have hroot : other ≠ [] := by
      rintro rfl
      exact h rfl
    rw [at?_put_self d hroot] at hother
    exact nomatch hother
  · rwa [at?_put_of_ne d hne] at hother

/-- Taking away what is no folder changes no folder. -/
theorem sameFolders_drop {location : List String} (h : d.at? location ≠ some .folder) :
    d.SameFolders (d.drop location) := by
  refine ⟨⟨rfl, ?_⟩, rfl, ?_⟩
  · intro other hother
    rw [at?_drop_of_ne]
    · exact hother
    · rintro rfl
      exact h hother
  · intro other hother
    by_cases hne : other = location
    · subst hne
      have hroot : other ≠ [] := by
        rintro rfl
        exact h rfl
      rw [at?_drop_self d hroot] at hother
      exact nomatch hother
    · rwa [at?_drop_of_ne d hne] at hother

private theorem follow_extends (h : a.Extends b) {shown : String} {location goal : List String}
    {names : List String} (hfollow : a.follow shown location names = .ok goal) :
    b.follow shown location names = .ok goal := by
  induction names generalizing location with
  | nil => exact hfollow
  | cons name names ih =>
    rw [follow] at hfollow ⊢
    split at hfollow
    · next hfolder =>
      rw [h.folders location hfolder]
      dsimp only
      split at hfollow
      · exact nomatch hfollow
      · next hlength =>
        rw [if_neg hlength]
        exact ih hfollow
    · exact nomatch hfollow
    · exact nomatch hfollow

/-- A path leads to the same place on a disk with more folders. -/
theorem Extends.locate (h : a.Extends b) {p : Path} {location : List String}
    (hlocate : a.locate p = .ok location) : b.locate p = .ok location := by
  have hstart : b.start p = a.start p := by
    unfold start
    rw [h.current]
  unfold Disk.locate at hlocate ⊢
  split at hlocate
  · exact nomatch hlocate
  · next hzero =>
    rw [if_neg hzero]
    split at hlocate
    · exact nomatch hlocate
    · next hlength =>
      rw [if_neg hlength, hstart]
      exact follow_extends h hlocate

end Folders

section Paths

variable {d : Disk} {p : Path}

private theorem follow_shown {shown other : String} {location goal : List String}
    {names : List String} (h : d.follow shown location names = .ok goal) :
    d.follow other location names = .ok goal := by
  induction names generalizing location with
  | nil => exact h
  | cons name names ih =>
    rw [follow] at h ⊢
    split at h
    · split at h
      · exact nomatch h
      · next hlength =>
        dsimp only
        rw [if_neg hlength]
        exact ih h
    · exact nomatch h
    · exact nomatch h

private theorem follow_concat {shown : String} {location goal : List String} {names : List String}
    {name : String} (hname : name ≠ "..")
    (h : d.follow shown location (names ++ [name]) = .ok goal) :
    ∃ folder, d.follow shown location names = .ok folder ∧ goal = folder ++ [name] := by
  induction names generalizing location with
  | nil =>
    rw [List.nil_append, follow] at h
    split at h
    · split at h
      · exact nomatch h
      · simp only [follow, Except.ok.injEq] at h
        exact ⟨location, rfl, h.symm⟩
    · exact nomatch h
    · exact nomatch h
  | cons first names ih =>
    rw [List.cons_append, follow] at h
    rw [follow]
    split at h
    · split at h
      · exact nomatch h
      · next hlength =>
        dsimp only
        rw [if_neg hlength]
        exact ih h
    · exact nomatch h
    · exact nomatch h

private theorem follow_of_locate {location : List String} (h : d.locate p = .ok location) :
    d.follow p.quoted (d.start p) p.names = .ok location := by
  unfold locate at h
  split at h
  · exact nomatch h
  · split at h
    · exact nomatch h
    · exact h

/-- A path that ends in a name leads into the folder of its parent. -/
theorem locate_concat {root name : String} {names folder goal : List String}
    (hname : name ≠ "..") (hparent : d.locate ⟨root, names⟩ = .ok folder)
    (h : d.locate ⟨root, names ++ [name]⟩ = .ok goal) : goal = folder ++ [name] := by
  obtain ⟨found, hfound, rfl⟩ := follow_concat hname (follow_of_locate h)
  have hsame := (follow_shown hfound).symm.trans (follow_of_locate hparent)
  rw [Except.ok.inj hsame]

end Paths

section Holding

variable {d : Disk} {p : Path}

/-- A path leads to a file with some content. -/
def Holds (d : Disk) (p : Path) (content : Content) : Prop :=
  ∃ location mode, d.locate p = .ok location ∧ d.at? location = some (.file content mode)

/-- What writing a file says of its place. -/
theorem put_of_writeFile {content : Content} {written : Disk}
    (h : d.writeFile p content = .ok written) :
    ∃ location mode, d.locate p = .ok location ∧ d.at? location ≠ some .folder ∧
      written = d.put location (.file content mode) := by
  obtain ⟨location, hlocate, h⟩ := bind_eq_ok.mp h
  split at h
  · exact nomatch h
  · next old mode hfile =>
    cases h
    exact ⟨location, mode, hlocate, by simp [hfile], rfl⟩
  · next hfree =>
    split at h
    · cases h
      exact ⟨location, usualMode, hlocate, by simp [hfree], rfl⟩
    · exact nomatch h
    · exact nomatch h

/-- What moving a file says of where it is moved. -/
theorem put_of_moveFile {source target : Path} {origin : List String} {moved : Disk}
    {content : Content} {mode : Nat} (h : d.moveFile source target = .ok moved)
    (horigin : d.locate source = .ok origin) (hfile : d.at? origin = some (.file content mode)) :
    ∃ goal, d.locate target = .ok goal ∧ target.name ≠ ".." ∧ d.at? goal ≠ some .folder ∧
      moved = (d.drop origin).put goal (.file content mode) := by
  obtain ⟨found, hfound, h⟩ := bind_eq_ok.mp h
  obtain ⟨goal, hgoal, h⟩ := bind_eq_ok.mp h
  rw [horigin] at hfound
  cases hfound
  refine ⟨goal, hgoal, ?_⟩
  dsimp only at h
  by_cases hname : target.name = ".."
  · rw [if_pos hname] at h
    exact nomatch h
  · refine ⟨hname, ?_⟩
    rw [if_neg hname, hfile] at h
    split at h
    · exact nomatch h
    · next hentry hgoalFree =>
      cases hentry
      cases h
      exact ⟨fun hfolder ↦ hgoalFree content mode hfolder rfl, rfl⟩
    · next hnone => exact nomatch hnone

private theorem holds_put {location : List String} (hlocate : d.locate p = .ok location)
    (hfree : d.at? location ≠ some .folder) (content : Content) (mode : Nat) :
    (d.put location (.file content mode)).Holds p content := by
  have hroot : location ≠ [] := by
    rintro rfl
    exact hfree rfl
  have hsame := sameFolders_put hfree content mode
  exact ⟨location, mode, hsame.1.locate hlocate, at?_put_self d hroot _⟩

/-- A file that was written holds what was written. -/
theorem holds_of_writeFile {content : Content} {written : Disk}
    (h : d.writeFile p content = .ok written) : written.Holds p content := by
  obtain ⟨location, mode, hlocate, hfree, rfl⟩ := put_of_writeFile h
  exact holds_put hlocate hfree content mode

/-- Making a file private leaves what it holds. -/
theorem Holds.makePrivate {content : Content} (h : d.Holds p content) :
    (d.makePrivate p).Holds p content := by
  obtain ⟨location, mode, hlocate, hfile⟩ := h
  simp only [Disk.makePrivate, hlocate, hfile]
  exact holds_put hlocate (by simp [hfile]) content privateMode

/-- A file that was moved holds in its new place what it held. -/
theorem Holds.moveFile {source target : Path} {content : Content} {moved : Disk}
    (h : d.Holds source content) (hmove : d.moveFile source target = .ok moved) :
    moved.Holds target content := by
  obtain ⟨origin, mode, horigin, hfile⟩ := h
  obtain ⟨goal, hgoal, -, hfree, rfl⟩ := put_of_moveFile hmove horigin hfile
  have hsame : d.SameFolders (d.drop origin) := sameFolders_drop (by simp [hfile])
  exact holds_put (hsame.1.locate hgoal) (fun hfolder ↦ hfree (hsame.2.folders goal hfolder)) _ _

/-- What a path holds is read there. -/
theorem Holds.content {content : Content} (h : d.Holds p content) :
    d.content p = .ok content ∧ d.hasEntry p = .ok true := by
  obtain ⟨location, mode, hlocate, hfile⟩ := h
  constructor
  · simp only [Disk.content, hlocate, bind, Except.bind, hfile]
    rfl
  · simp only [hasEntry, hlocate, hfile, Option.isSome_some]

end Holding

section Serving

variable {d : Disk} {p : Path} {folder : List String}

/-- Where a path and the place beside it lead on a disk that can take the file. -/
structure Serves (d : Disk) (p : Path) (folder : List String) : Prop where
  name : p.name ≠ "" ∧ p.name ≠ ".."
  parent : d.locate p.parent = .ok folder
  isFolder : d.at? folder = some .folder
  place : d.locate p = .ok (folder ++ [p.name])
  placeFree : d.at? (folder ++ [p.name]) ≠ some .folder
  beside : d.locate p.beside = .ok (folder ++ [p.name ++ ".tmp"])
  besideFree : d.at? (folder ++ [p.name ++ ".tmp"]) ≠ some .folder

/-- A disk with the same folders serves the same paths. -/
theorem Serves.of_sameFolders {other : Disk} (h : d.Serves p folder) (hsame : d.SameFolders other) :
    other.Serves p folder where
  name := h.name
  parent := hsame.1.locate h.parent
  isFolder := hsame.1.folders folder h.isFolder
  place := hsame.1.locate h.place
  placeFree := fun hfolder ↦ h.placeFree (hsame.2.folders _ hfolder)
  beside := hsame.1.locate h.beside
  besideFree := fun hfolder ↦ h.besideFree (hsame.2.folders _ hfolder)

private theorem makeFolder_of_locate {location : List String} (h : d.locate p = .ok location)
    (hfolder : d.at? location = some .folder) :
    d.makeFolder p = .error (.fileExists p.quoted) := by
  simp only [makeFolder, h, bind, Except.bind, hfolder]
  rfl

private theorem ensureFolder_of_locate {location : List String} (h : d.locate p = .ok location)
    (hfolder : d.at? location = some .folder) : d.ensureFolder p = (d, .ok ()) := by
  have hmake := makeFolder_of_locate h hfolder
  have hentry : d.entryAt? p = some .folder := by
    simp only [entryAt?, h, hfolder]
  simp only [ensureFolder, hmake, hentry]

/-- The folders of a path that is served are there. -/
theorem Serves.ensureFolders (h : d.Serves p folder) : d.ensureFolders p.parent = (d, .ok ()) := by
  have hensure := ensureFolder_of_locate h.parent h.isFolder
  unfold Disk.ensureFolders
  cases hnames : p.parent.names.reverse with
  | nil =>
    have hparent : p.parent = ⟨p.parent.root, []⟩ := by
      rw [← List.reverse_eq_nil_iff.mp hnames]
    rw [ensureNames, ← hparent]
    exact hensure
  | cons name names =>
    have hparent : p.parent = ⟨p.parent.root, (name :: names).reverse⟩ := by
      rw [← hnames, List.reverse_reverse]
    rw [ensureNames, ← hparent, makeFolder_of_locate h.parent h.isFolder]
    exact hensure

/-- The name of a path that is served can be lengthened. -/
theorem Serves.withSuffix (h : d.Serves p folder) : p.withSuffix ".tmp" = .ok p.beside := by
  have hname : p.name.isEmpty = false := by simpa using h.name.1
  simp only [Path.withSuffix, hname, Bool.false_eq_true, ↓reduceIte]
  rfl

/-- A file can be written beside its place. -/
theorem Serves.writeFile (h : d.Serves p folder) (content : Content) :
    ∃ mode, d.writeFile p.beside content =
      .ok (d.put (folder ++ [p.name ++ ".tmp"]) (.file content mode)) := by
  have hparent : (folder ++ [p.name ++ ".tmp"]).dropLast = folder := List.dropLast_concat
  simp only [Disk.writeFile, h.beside, bind, Except.bind]
  split
  · next hfolder => exact absurd hfolder h.besideFree
  · next old mode _ => exact ⟨mode, rfl⟩
  · refine ⟨usualMode, ?_⟩
    rw [hparent, h.isFolder]
    rfl

private theorem concat_ne_nil (folder : List String) (name : String) : folder ++ [name] ≠ [] := by
  simp

/-- The file beside the place can be made private. -/
theorem Serves.makePrivate (h : d.Serves p folder) {content : Content} {mode : Nat}
    (hfile : d.at? (folder ++ [p.name ++ ".tmp"]) = some (.file content mode)) :
    d.makePrivate p.beside =
      d.put (folder ++ [p.name ++ ".tmp"]) (.file content privateMode) := by
  simp only [Disk.makePrivate, h.beside, hfile]

/-- The file beside the place can be moved there. -/
theorem Serves.moveFile (h : d.Serves p folder) {content : Content} {mode : Nat}
    (hfile : d.at? (folder ++ [p.name ++ ".tmp"]) = some (.file content mode)) :
    d.moveFile p.beside p = .ok ((d.drop (folder ++ [p.name ++ ".tmp"])).put (folder ++ [p.name])
      (.file content mode)) := by
  simp only [Disk.moveFile, h.beside, h.place, bind, Except.bind, if_neg h.name.2, hfile]
  split
  · next hgoal => exact absurd hgoal h.placeFree
  · rename_i hentry _
    cases hentry
    rfl
  · next hnone => exact nomatch hnone

/-- A file that is written beside its place, made private and moved there stands in its
place, and the disk serves the path as before. -/
theorem Serves.replace (h : d.Serves p folder) (content : Content) :
    ∃ written moved, d.writeFile p.beside content = .ok written ∧
      (written.makePrivate p.beside).moveFile p.beside p = .ok moved ∧
      moved.Serves p folder ∧ moved.Holds p content := by
  obtain ⟨mode, hwrite⟩ := h.writeFile content
  have hbeside := concat_ne_nil folder (p.name ++ ".tmp")
  have hwritten := h.of_sameFolders (sameFolders_put h.besideFree content mode)
  have hprivate := hwritten.makePrivate (at?_put_self d hbeside (.file content mode))
  have hsecured := hwritten.of_sameFolders (sameFolders_put hwritten.besideFree content privateMode)
  have hmove := hsecured.moveFile (at?_put_self _ hbeside (.file content privateMode))
  have hdropped := hsecured.of_sameFolders (sameFolders_drop hsecured.besideFree)
  have hmoved := hdropped.of_sameFolders (sameFolders_put hdropped.placeFree content privateMode)
  rw [← hprivate] at hmove hmoved
  have hplace := concat_ne_nil folder p.name
  exact ⟨_, _, hwrite, hmove, hmoved, _, _, hmoved.place, at?_put_self _ hplace _⟩

end Serving

section Acceptance

variable {d : Disk} {p : Path}

/-- Put an empty file in the place of a path: make its folders, write the file beside the
place and move it there. -/
def placeEmpty (d : Disk) (p : Path) : Except Fault Disk :=
  match d.ensureFolders p.parent with
  | (made, .ok ()) => do
      let beside ← p.withSuffix ".tmp"
      let written ← made.writeFile beside (.text "")
      written.moveFile beside p
  | (_, .error fault) => .error fault

/-- Whether the file operations succeed that putting a file in the place of a path takes. -/
def accepts (d : Disk) (p : Path) : Bool := (d.placeEmpty p).isOk

private theorem beside_of_withSuffix {beside : Path} (h : p.withSuffix ".tmp" = .ok beside) :
    p.name ≠ "" ∧ beside = p.beside := by
  unfold Path.withSuffix at h
  split at h
  · exact nomatch h
  · next hname =>
    cases h
    exact ⟨fun hempty ↦ hname (by rw [hempty]; rfl), rfl⟩

private theorem steps_of_accepts (h : d.accepts p) :
    ∃ made written moved, d.ensureFolders p.parent = (made, .ok ()) ∧ p.name ≠ "" ∧
      made.writeFile p.beside (.text "") = .ok written ∧
      written.moveFile p.beside p = .ok moved := by
  unfold accepts placeEmpty at h
  split at h
  · next made hmade =>
    cases hplace : (do
        let beside ← p.withSuffix ".tmp"
        let written ← made.writeFile beside (.text "")
        written.moveFile beside p) with
    | error fault => exact nomatch hplace ▸ h
    | ok moved =>
      obtain ⟨beside, hbeside, hplace⟩ := bind_eq_ok.mp hplace
      obtain ⟨hname, rfl⟩ := beside_of_withSuffix hbeside
      obtain ⟨written, hwritten, hmoved⟩ := bind_eq_ok.mp hplace
      exact ⟨made, written, moved, hmade, hname, hwritten, hmoved⟩
  · exact nomatch h

private theorem entryAt?_of_makeFolder {made : Disk} (h : d.makeFolder p = .ok made) :
    made.entryAt? p = some .folder := by
  obtain ⟨location, hlocate, h⟩ := bind_eq_ok.mp h
  split at h
  · exact nomatch h
  · next hfree =>
    split at h
    · cases h
      have hroot : location ≠ [] := by
        rintro rfl
        exact nomatch hfree
      have hextends : d.Extends (d.put location .folder) := extends_put (by simp [hfree]) _
      simp only [entryAt?, hextends.locate hlocate, at?_put_self d hroot]
    · exact nomatch h
    · exact nomatch h

private theorem entryAt?_of_ensureFolder {made : Disk} (h : d.ensureFolder p = (made, .ok ())) :
    made.entryAt? p = some .folder := by
  unfold ensureFolder at h
  split at h
  · next hmake =>
    cases h
    exact entryAt?_of_makeFolder hmake
  · split at h
    · next hentry =>
      cases h
      exact hentry
    · exact nomatch h

private theorem entryAt?_of_ensureNames {made : Disk} {root : String} {names : List String}
    (h : d.ensureNames root names = (made, .ok ())) :
    made.entryAt? ⟨root, names.reverse⟩ = some .folder := by
  cases names with
  | nil => exact entryAt?_of_ensureFolder h
  | cons name names =>
    rw [ensureNames] at h
    split at h
    · split at h
      · exact entryAt?_of_ensureFolder h
      · next hfailed => exact absurd h (hfailed _)
    · exact entryAt?_of_ensureFolder h

private theorem locate_of_entryAt? {entry : Entry} (h : d.entryAt? p = some entry) :
    ∃ location, d.locate p = .ok location ∧ d.at? location = some entry := by
  unfold entryAt? at h
  split at h
  · next location hlocate => exact ⟨location, hlocate, h⟩
  · exact nomatch h

private theorem append_tmp_ne_dots (name : String) : name ++ ".tmp" ≠ ".." := by
  intro htmp
  have hlength := congrArg String.length htmp
  have htail : ".tmp".length = 4 := by decide
  have hdots : "..".length = 2 := by decide
  rw [String.length_append, htail, hdots] at hlength
  omega

/-- A disk that accepts a path serves it once the folders are made. -/
theorem serves_of_accepts (h : d.accepts p) :
    ∃ made folder, d.ensureFolders p.parent = (made, .ok ()) ∧ made.Serves p folder := by
  obtain ⟨made, written, moved, hmade, hname, hwrite, hmove⟩ := steps_of_accepts h
  have hparent : made.entryAt? p.parent = some .folder := by
    have hentry := entryAt?_of_ensureNames hmade
    rwa [List.reverse_reverse] at hentry
  obtain ⟨folder, hlocate, hfolder⟩ := locate_of_entryAt? hparent
  obtain ⟨beside, mode, hbeside, hbesideFree, rfl⟩ := put_of_writeFile hwrite
  have hsame := sameFolders_put hbesideFree (.text "") mode
  have hroot : beside ≠ [] := by
    rintro rfl
    exact hbesideFree rfl
  obtain ⟨place, hplace, hdots, hplaceFree, -⟩ :=
    put_of_moveFile hmove (hsame.1.locate hbeside) (at?_put_self made hroot _)
  have hplace := hsame.2.locate hplace
  have hbesidePlace : beside = folder ++ [p.name ++ ".tmp"] :=
    locate_concat (append_tmp_ne_dots p.name) hlocate hbeside
  have hplacePlace : place = folder ++ [p.name] := by
    rw [Path.eq_concat hname] at hplace
    exact locate_concat hdots hlocate hplace
  rw [hbesidePlace] at hbeside hbesideFree
  rw [hplacePlace] at hplace hplaceFree
  exact ⟨made, folder, hmade, {
    name := ⟨hname, hdots⟩
    parent := hlocate
    isFolder := hfolder
    place := hplace
    placeFree := fun hgoal ↦ hplaceFree (hsame.1.folders _ hgoal)
    beside := hbeside
    besideFree := hbesideFree }⟩

end Acceptance

end Disk
end MailSearch
