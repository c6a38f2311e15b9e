import Remedy.Proofs.Tree.Presence
import Remedy.Proofs.Tree.Standing

/-!
# Rewriting all or nothing

A rewrite is carried out, is found to be done already, or fails, and what is read from its file
says which.  Only if it is carried out the disk changes, and then in one file, the one that its
path leads to through all links.

A new file takes the place of that file.  It is put there by the path of the rewrite, or, if a link
stands at that path, by the path without links, so that the link stays.  Both come to the location
from which the old text was read.
-/

namespace Remedy

namespace Disk

variable {disk : Disk} {path : Path}

/-- A text is read from the file that a path leads to. -/
theorem readText_eq_ok_iff {text : String} :
    disk.readText path = .ok text ↔
      ∃ location, disk.resolve path = .ok (location, .file (.text text)) := by
  rw [readText, readContent]
  rcases disk.resolve path with error | ⟨location, content | target | _⟩
  · simp
  · cases content <;> simp
  · simp
  · simp

/-- A path that leads to another location leads to the same thing after a file was changed. -/
theorem resolve_of_get?_eq {other : Disk} (h : disk.Alike other) {changed : Location}
    (hget : ∀ location, location ≠ changed →
      other.tree.get? location = disk.tree.get? location)
    (hpath : disk.locationOf? path ≠ some changed) : other.resolve path = disk.resolve path := by
  rw [resolve_of_alike h]
  cases hresolve : disk.resolve path with
  | error error => rfl
  | ok found =>
      obtain ⟨location, node⟩ := found
      have hne : location ≠ changed := by
        rintro rfl
        exact hpath (locationOf?_of_resolve hresolve)
      simp [Except.map, hget location hne, get?_of_resolve hresolve]

/-!
## Putting a new file in the place of the old one
-/

/-- The path by which a file is replaced: of a link the one without links, so that it stays. -/
def throughLink (disk : Disk) (path : Path) : Except SystemError Path :=
  if disk.isLink path then disk.canonical path else .ok path

/-- Puts a new file in the place of what a path names, be it a link. -/
def supplant (disk : Disk) (path : Path) (text : String) : Except SystemError Disk :=
  match disk.walk false path with
  | .ok (.found _ .folder) => .error .isFolder
  | .ok place => .ok (disk.putText place.location text)
  | .error e => .error e

/-- The path without links goes along the names from the top. -/
theorem pathOf_eq_join {location : Location} (h : IsWay location) :
    pathOf location = (⟨"/"⟩ : Path).join (.ofNames location) := by
  have hjoin : (⟨"/"⟩ : Path).join (.ofNames location) = ⟨"/" ++ (Path.ofNames location).text⟩ := by
    rw [Path.join, if_neg (by rw [Path.isAbsolute_ofNames h]; exact Bool.false_ne_true)]
    exact if_pos (.inr rfl)
  have hnames : String.intercalate "/" location = (Path.ofNames location).text := by
    apply String.toList_inj.mp
    rw [Path.toList_text_ofNames]
    simp
  rw [hjoin, pathOf, hnames]

theorem resolve_top (disk : Disk) : disk.resolve ⟨"/"⟩ = .ok ([], .folder) :=
  rfl

variable {location : Location} {content : Content}

/-- The path without links leads to the file, if the system takes a path of that length. -/
theorem walk_pathOf (hsound : disk.tree.Sound [])
    (hget : disk.tree.get? location = some (.file content)) (hfits : Fits ⟨"/"⟩ location) :
    disk.walk false (pathOf location) = .ok (.found location (.file content)) := by
  have hnames : IsWay location := hsound.isWay (Tree.ne_nil_of_get?_file hget) hget
  rw [pathOf_eq_join hnames, walk_join_of_file hsound (resolve_top disk) hnames hget, if_pos hfits]
  rfl

/-- A path that leads to a file names it, unless a link stands there. -/
theorem walk_of_isLink_eq_false (hlink : disk.isLink path = false)
    (hresolve : disk.resolve path = .ok (location, .file content)) :
    disk.walk false path = .ok (.found location (.file content)) := by
  rw [← walk_true_eq hlink]
  unfold resolve at hresolve
  split at hresolve
  · rename_i found node hwalk
    cases hresolve
    exact hwalk
  · cases hresolve
  · cases hresolve

/-- What is replaced is the file that was read. -/
theorem supplant_throughLink (hsound : disk.tree.Sound [])
    (hresolve : disk.resolve path = .ok (location, .file content))
    (hfits : disk.isLink path = true → Fits ⟨"/"⟩ location) (text : String) :
    (disk.throughLink path).bind (disk.supplant · text) = .ok (disk.putText location text) := by
  rw [throughLink]
  -- a link is walked to its end before the file is found; anything else is the file itself
  cases hlink : disk.isLink path with
  | true =>
      have hwalk := walk_pathOf hsound (get?_of_resolve hresolve) (hfits hlink)
      simp [canonical, hresolve, Except.map, Except.bind, supplant, hwalk, Place.location]
  | false =>
      have hwalk := walk_of_isLink_eq_false hlink hresolve
      simp [Except.bind, supplant, hwalk, Place.location]

end Disk

namespace Rewrite

variable {rewrite : Rewrite} {disk : Disk}

/-- Carries out a rewrite step by step: reads, compares, verifies and puts a new file in place. -/
def applyInSteps (rewrite : Rewrite) (disk : Disk) : Except Failure (Disk × Outcome) :=
  match disk.readText rewrite.file with
  | .error e => .error (.system e)
  | .ok current =>
      if current = rewrite.text then .ok (disk, .alreadyApplied)
      else if rewrite.expected.admits current then
        match (disk.throughLink rewrite.file).bind (disk.supplant · rewrite.text) with
        | .error e => .error (.system e)
        | .ok after => .ok (after, .applied rewrite.text.utf8ByteSize)
      else .error (.changed rewrite.file)

/-- A rewrite of a file from which a text is read. -/
theorem apply_of_resolve {location : Location} {current : String}
    (hresolve : disk.resolve rewrite.file = .ok (location, .file (.text current))) :
    rewrite.apply disk =
      if current = rewrite.text then .ok (disk, .alreadyApplied)
      else if rewrite.expected.admits current then
        .ok (disk.putText location rewrite.text, .applied rewrite.text.utf8ByteSize)
      else .error (.changed rewrite.file) := by
  rw [apply, hresolve]

/-- Without a text that is read nothing is done. -/
theorem apply_of_readText_eq_error {error : SystemError}
    (hread : disk.readText rewrite.file = .error error) :
    rewrite.apply disk = .error (.system error) := by
  rw [Disk.readText, Disk.readContent] at hread
  rw [apply]
  rcases hresolve : disk.resolve rewrite.file with e | ⟨location, content | target | _⟩
  · simpa [hresolve] using hread
  · cases content <;> simp_all
  · simp_all
  · simp_all

/--
The steps come to the same: the file that is found for the second time, to be replaced, is the one
that was read.  A path without links that is too long for the system is left out.
-/
theorem applyInSteps_eq_apply (hsound : disk.tree.Sound [])
    (hfits : ∀ location, disk.locationOf? rewrite.file = some location →
      disk.isLink rewrite.file = true → Disk.Fits ⟨"/"⟩ location) :
    rewrite.applyInSteps disk = rewrite.apply disk := by
  rw [applyInSteps]
  cases hread : disk.readText rewrite.file with
  | error error => rw [apply_of_readText_eq_error hread]
  | ok current =>
      obtain ⟨location, hresolve⟩ := Disk.readText_eq_ok_iff.mp hread
      rw [apply_of_resolve hresolve, Disk.supplant_throughLink hsound hresolve
        (hfits location (Disk.locationOf?_of_resolve hresolve)) rewrite.text]

/-!
## The three outcomes
-/

/-- The file holds a text that is as expected and is not the new one. -/
def IsDue (rewrite : Rewrite) (disk : Disk) : Prop :=
  ∃ current, disk.readText rewrite.file = .ok current ∧ current ≠ rewrite.text ∧
    rewrite.expected.admits current = true

/-- The file holds the new text. -/
def IsDone (rewrite : Rewrite) (disk : Disk) : Prop :=
  disk.readText rewrite.file = .ok rewrite.text

/-- The file holds a text that is neither the new one nor as expected. -/
def IsStale (rewrite : Rewrite) (disk : Disk) : Prop :=
  ∃ current, disk.readText rewrite.file = .ok current ∧ current ≠ rewrite.text ∧
    rewrite.expected.admits current = false

/-- The file of a rewrite has the new text, and nothing else is different. -/
structure Replaces (rewrite : Rewrite) (disk after : Disk) : Prop where
  /-- The path leads through all links to a file with another text; that location has changed. -/
  effect : ∃ location old, disk.resolve rewrite.file = .ok (location, .file (.text old)) ∧
    old ≠ rewrite.text ∧ Effect disk after location rewrite.text
  /-- All paths lead where they led. -/
  locationOf? : ∀ path, after.locationOf? path = disk.locationOf? path
  /-- What leads to another file, or nowhere, leads to what it led to. -/
  others : ∀ path, disk.locationOf? path ≠ disk.locationOf? rewrite.file →
    after.resolve path = disk.resolve path

/-- A rewrite that is done already says so and changes nothing. -/
theorem IsDone.apply (h : rewrite.IsDone disk) :
    rewrite.apply disk = .ok (disk, .alreadyApplied) := by
  obtain ⟨location, hresolve⟩ := Disk.readText_eq_ok_iff.mp h
  rw [apply_of_resolve hresolve, if_pos rfl]

/-- A rewrite of a file with another text is refused. -/
theorem IsStale.apply (h : rewrite.IsStale disk) :
    rewrite.apply disk = .error (.changed rewrite.file) := by
  obtain ⟨current, hread, hne, hrefused⟩ := h
  obtain ⟨location, hresolve⟩ := Disk.readText_eq_ok_iff.mp hread
  rw [apply_of_resolve hresolve, if_neg hne, hrefused, if_neg Bool.false_ne_true]

/-- A rewrite that is due is carried out, on the file that its path leads to. -/
theorem IsDue.exists_apply (h : rewrite.IsDue disk) :
    ∃ after, rewrite.apply disk = .ok (after, .applied rewrite.text.utf8ByteSize) ∧
      rewrite.Replaces disk after := by
  obtain ⟨current, hread, hne, hadmits⟩ := h
  obtain ⟨location, hresolve⟩ := Disk.readText_eq_ok_iff.mp hread
  have hget := Disk.get?_of_resolve hresolve
  have heffect : Effect disk (disk.putText location rewrite.text) location rewrite.text :=
    ⟨⟨Tree.alike_set hget _, rfl⟩, fun other =>
      Tree.get?_set _ _ _ _ (Tree.ne_nil_of_get?_file hget)⟩
  refine ⟨disk.putText location rewrite.text, ?_, ?_⟩
  · rw [apply_of_resolve hresolve, if_neg hne, if_pos hadmits]
  · refine ⟨⟨location, current, hresolve, hne, heffect⟩,
      Disk.locationOf?_of_alike heffect.alike, fun path hpath => ?_⟩
    rw [Disk.locationOf?_of_resolve hresolve] at hpath
    refine Disk.resolve_of_get?_eq heffect.alike (fun other hother => ?_) hpath
    rw [heffect.get?, if_neg hother]

/-- What is read says which of the four outcomes it is. -/
inductive Verdict (rewrite : Rewrite) (disk : Disk) : Prop where
  | applied (after : Disk) (due : rewrite.IsDue disk)
      (apply : rewrite.apply disk = .ok (after, .applied rewrite.text.utf8ByteSize))
      (replaces : rewrite.Replaces disk after)
  | alreadyApplied (done : rewrite.IsDone disk)
      (apply : rewrite.apply disk = .ok (disk, .alreadyApplied))
  | changed (stale : rewrite.IsStale disk)
      (apply : rewrite.apply disk = .error (.changed rewrite.file))
  | system (error : SystemError) (unread : disk.readText rewrite.file = .error error)
      (apply : rewrite.apply disk = .error (.system error))

theorem verdict (rewrite : Rewrite) (disk : Disk) : rewrite.Verdict disk := by
  cases hread : disk.readText rewrite.file with
  | error error => exact .system error hread (apply_of_readText_eq_error hread)
  | ok current =>
      by_cases hsame : current = rewrite.text
      · have hdone : rewrite.IsDone disk := by rw [IsDone, hread, hsame]
        exact .alreadyApplied hdone hdone.apply
      · cases hadmits : rewrite.expected.admits current with
        | true =>
            have hdue : rewrite.IsDue disk := ⟨current, hread, hsame, hadmits⟩
            obtain ⟨after, happly, hreplaces⟩ := hdue.exists_apply
            exact .applied after hdue happly hreplaces
        | false =>
            have hstale : rewrite.IsStale disk := ⟨current, hread, hsame, hadmits⟩
            exact .changed hstale hstale.apply

end Rewrite

end Remedy
