import Remedy.Rewrite

/-!
# Writing texts moves nothing

Two trees are alike if they differ in the texts of files at most.  A walk cannot tell such trees
apart: it ends at the same location or fails in the same way.  Putting a text into a file that
holds one, and with it every rewrite, yields a tree that is alike, and changes one location.
-/

namespace Remedy

/-- Two nodes that differ in the text of a file at most. -/
inductive Node.Alike : Node → Node → Prop where
  | text (old new : String) : Alike (.file (.text old)) (.file (.text new))
  | same (node : Node) : Alike node node

namespace Node.Alike

theorem trans {a b c : Node} (hab : a.Alike b) (hbc : b.Alike c) : a.Alike c := by
  cases hab with
  | same => exact hbc
  | text old new =>
      cases hbc with
      | text _ newer => exact .text old newer
      | same => exact .text old new

theorem symm {a b : Node} (h : a.Alike b) : b.Alike a := by
  cases h with
  | text old new => exact .text new old
  | same => exact .same a

/-- Only a text is like a text. -/
theorem exists_text {old : String} {node : Node} (h : (file (.text old)).Alike node) :
    ∃ new, node = .file (.text new) := by
  cases h with
  | text _ new => exact ⟨new, rfl⟩
  | same => exact ⟨old, rfl⟩

end Node.Alike

namespace Tree

/-- Two trees that differ in the texts of files at most. -/
def Alike (tree other : Tree) : Prop :=
  ∀ location, Option.Rel Node.Alike (tree.get? location) (other.get? location)

theorem Alike.refl (tree : Tree) : tree.Alike tree := by
  intro location
  cases tree.get? location with
  | none => exact .none
  | some node => exact .some (.same node)

theorem Alike.symm {tree other : Tree} (h : tree.Alike other) : other.Alike tree := by
  intro location
  have hrel := h location
  generalize tree.get? location = here at hrel ⊢
  generalize other.get? location = there at hrel ⊢
  cases hrel with
  | some halike => exact .some halike.symm
  | none => exact .none

theorem Alike.trans {a b c : Tree} (hab : a.Alike b) (hbc : b.Alike c) : a.Alike c := by
  intro location
  have hfirst := hab location
  have hsecond := hbc location
  cases hb : b.get? location with
  | none =>
      rw [hb] at hfirst hsecond
      generalize a.get? location = x at hfirst ⊢
      generalize c.get? location = z at hsecond ⊢
      cases hfirst
      cases hsecond
      exact .none
  | some node =>
      rw [hb] at hfirst hsecond
      generalize a.get? location = x at hfirst ⊢
      generalize c.get? location = z at hsecond ⊢
      cases hfirst with
      | some hleft =>
          cases hsecond with
          | some hright => exact .some (hleft.trans hright)

/-- What stands in a tree also stands, but for a text, in one that is alike. -/
theorem Alike.exists_get? {tree other : Tree} (h : tree.Alike other) {location : Location}
    {node : Node} (hget : tree.get? location = some node) :
    ∃ found, other.get? location = some found ∧ node.Alike found := by
  have hrel := h location
  rw [hget] at hrel
  cases hother : other.get? location with
  | none => rw [hother] at hrel; cases hrel
  | some found =>
      rw [hother] at hrel
      cases hrel with
      | some halike => exact ⟨found, rfl, halike⟩

/-- Nothing stands in either tree, or something in both. -/
theorem Alike.get?_eq_none {tree other : Tree} (h : tree.Alike other) {location : Location}
    (hget : tree.get? location = none) : other.get? location = none := by
  have hrel := h location
  rw [hget] at hrel
  cases hother : other.get? location with
  | none => rfl
  | some found => rw [hother] at hrel; cases hrel

/-- A file is not the top of its tree. -/
theorem ne_nil_of_get?_file {tree : Tree} {location : Location} {content : Content}
    (hget : tree.get? location = some (.file content)) : location ≠ [] := by
  rintro rfl
  cases hget

/-- Putting a text in the place of a text makes a tree that is alike. -/
theorem alike_set {tree : Tree} {location : Location} {old : String}
    (hget : tree.get? location = some (.file (.text old))) (new : String) :
    tree.Alike (tree.set location (.file (.text new))) := by
  intro other
  rw [get?_set _ _ _ _ (ne_nil_of_get?_file hget)]
  by_cases heq : other = location
  · rw [if_pos heq, heq, hget]
    exact .some (.text old new)
  · rw [if_neg heq]
    exact Alike.refl tree other

/-- The place of a walk with the node that stands there in another tree. -/
def reread (tree : Tree) : Place → Place
  | .found location node => .found location ((tree.get? location).getD node)
  | .vacant folder name => .vacant folder name

theorem descend_of_alike {tree other : Tree} (h : tree.Alike other) (followLast : Bool)
    {relink relinkOther : Location → Path → List Path.Step → Except SystemError Place}
    (hrelink : ∀ folder target rest,
      relinkOther folder target rest = (relink folder target rest).map other.reread)
    (folder : Location) (steps : List Path.Step) :
    descend other followLast relinkOther folder steps =
      (descend tree followLast relink folder steps).map other.reread := by
  induction steps generalizing folder with
  | nil =>
      cases hget : tree.get? folder with
      | none => simp [descend, hget, h.get?_eq_none hget, Except.map]
      | some node =>
          obtain ⟨found, hfound, -⟩ := h.exists_get? hget
          simp [descend, hget, hfound, Except.map, reread]
  | cons step rest ih =>
      cases step with
      | here => simpa only [descend] using ih folder
      | up => simpa only [descend] using ih folder.dropLast
      | name name =>
          simp only [descend]
          split
          · rfl
          · cases hget : tree.get? (folder ++ [name]) with
            | none =>
                rw [h.get?_eq_none hget]
                dsimp only
                split <;> rfl
            | some node =>
                obtain ⟨found, hfound, halike⟩ := h.exists_get? hget
                rw [hfound]
                cases halike with
                | text old new =>
                    dsimp only
                    split
                    · simp [Except.map, reread, hfound]
                    · rfl
                | same =>
                    cases node with
                    | folder => exact ih (folder ++ [name])
                    | file content =>
                        dsimp only
                        split
                        · simp [Except.map, reread, hfound]
                        · rfl
                    | link target =>
                        dsimp only
                        split
                        · simp [Except.map, reread, hfound]
                        · exact hrelink folder target rest

/-- A walk ends at the same place in trees that are alike. -/
theorem walk_of_alike {tree other : Tree} (h : tree.Alike other) (followLast : Bool)
    (budget : Nat) (folder : Location) (steps : List Path.Step) :
    walk other followLast budget folder steps =
      (walk tree followLast budget folder steps).map other.reread := by
  induction budget generalizing folder steps with
  | zero =>
      simp only [walk]
      exact @descend_of_alike tree other h followLast (fun _ _ _ => .error .tooManyLinks) _
        (fun _ _ _ => rfl) folder steps
  | succ budget ih =>
      simp only [walk]
      exact descend_of_alike h followLast (fun _ _ _ => ih _ _) folder steps

/-- The node at which a walk ends stands at the location that is named. -/
theorem get?_of_descend {tree : Tree} {followLast : Bool}
    {relink : Location → Path → List Path.Step → Except SystemError Place}
    (hrelink : ∀ folder target rest location node,
      relink folder target rest = .ok (.found location node) → tree.get? location = some node)
    {folder location : Location} {steps : List Path.Step} {node : Node}
    (hfound : descend tree followLast relink folder steps = .ok (.found location node)) :
    tree.get? location = some node := by
  fun_induction descend tree followLast relink folder steps with
  | case12 folder name rest _ target hget hlast => exact hrelink _ _ _ _ _ hfound
  | _ => simp_all

theorem get?_of_walk {tree : Tree} {followLast : Bool} {budget : Nat}
    {folder location : Location} {steps : List Path.Step} {node : Node}
    (hfound : walk tree followLast budget folder steps = .ok (.found location node)) :
    tree.get? location = some node := by
  induction budget generalizing folder location steps node with
  | zero =>
      rw [walk] at hfound
      refine get?_of_descend (fun _ _ _ _ _ hlink => ?_) hfound
      cases hlink
  | succ budget ih =>
      rw [walk] at hfound
      exact get?_of_descend (fun _ _ _ _ _ hlink => ih hlink) hfound

end Tree

namespace Disk

/-- Two disks that differ in the texts of files at most. -/
structure Alike (disk other : Disk) : Prop where
  tree : disk.tree.Alike other.tree
  here : disk.here = other.here

theorem Alike.refl (disk : Disk) : disk.Alike disk :=
  ⟨.refl disk.tree, rfl⟩

theorem Alike.symm {disk other : Disk} (h : disk.Alike other) : other.Alike disk :=
  ⟨h.tree.symm, h.here.symm⟩

theorem Alike.trans {a b c : Disk} (hab : a.Alike b) (hbc : b.Alike c) : a.Alike c :=
  ⟨hab.tree.trans hbc.tree, hab.here.trans hbc.here⟩

/-- What is not a text is the same in trees that are alike. -/
theorem Alike.get?_eq_of_not_text {disk other : Disk} (h : disk.Alike other)
    {location : Location}
    (hget : ∀ text, disk.tree.get? location ≠ some (.file (.text text))) :
    other.tree.get? location = disk.tree.get? location := by
  cases hnode : disk.tree.get? location with
  | none => exact h.tree.get?_eq_none hnode
  | some node =>
      obtain ⟨found, hfound, halike⟩ := h.tree.exists_get? hnode
      cases halike with
      | text old new => exact absurd hnode (hget old)
      | same => exact hfound

/-- What a path leads to stands at the location that is named. -/
theorem get?_of_resolve {disk : Disk} {path : Path} {location : Location} {node : Node}
    (hresolve : disk.resolve path = .ok (location, node)) :
    disk.tree.get? location = some node := by
  unfold resolve at hresolve
  split at hresolve
  · rename_i found where_ hwalk
    obtain ⟨rfl, rfl⟩ := Prod.mk.inj (Except.ok.inj hresolve)
    unfold walk at hwalk
    split at hwalk
    · cases hwalk
    · split at hwalk
      · cases hwalk
      · split at hwalk
        · cases hwalk
        · exact Tree.get?_of_walk hwalk
  · cases hresolve
  · cases hresolve

/-- A path leads to the same location on disks that are alike. -/
theorem resolve_of_alike {disk other : Disk} (h : disk.Alike other) (path : Path) :
    other.resolve path =
      (disk.resolve path).map fun (location, node) =>
        (location, (other.tree.get? location).getD node) := by
  have hwalk : other.walk true path = (disk.walk true path).map other.tree.reread := by
    unfold walk
    rw [← h.here]
    split
    · rfl
    · split
      · rfl
      · split
        · rfl
        · exact Tree.walk_of_alike h.tree _ _ _ _
  unfold resolve
  rw [hwalk]
  cases disk.walk true path with
  | error e => rfl
  | ok place => cases place <;> rfl

/-- The location that a path leads to. -/
def locationOf? (disk : Disk) (path : Path) : Option Location :=
  (disk.resolve path).toOption.map (·.1)

theorem locationOf?_of_resolve {disk : Disk} {path : Path} {location : Location} {node : Node}
    (hresolve : disk.resolve path = .ok (location, node)) :
    disk.locationOf? path = some location := by
  simp [locationOf?, hresolve, Except.toOption]

theorem exists_resolve_of_locationOf? {disk : Disk} {path : Path} {location : Location}
    (hlocation : disk.locationOf? path = some location) :
    ∃ node, disk.resolve path = .ok (location, node) := by
  unfold locationOf? at hlocation
  cases hresolve : disk.resolve path with
  | error e => rw [hresolve] at hlocation; exact nomatch hlocation
  | ok found =>
      rw [hresolve] at hlocation
      obtain ⟨location, node⟩ := found
      obtain rfl : location = _ := Option.some.inj hlocation
      exact ⟨node, rfl⟩

/-- A path leads to the same location on disks that are alike. -/
theorem locationOf?_of_alike {disk other : Disk} (h : disk.Alike other) (path : Path) :
    other.locationOf? path = disk.locationOf? path := by
  unfold locationOf?
  rw [resolve_of_alike h]
  cases disk.resolve path with
  | error e => rfl
  | ok found => rfl

/-- What stands at the location that a path leads to is what it leads to. -/
theorem resolve_of_locationOf? {disk : Disk} {path : Path} {location : Location} {node : Node}
    (hlocation : disk.locationOf? path = some location)
    (hget : disk.tree.get? location = some node) :
    disk.resolve path = .ok (location, node) := by
  obtain ⟨found, hresolve⟩ := exists_resolve_of_locationOf? hlocation
  obtain rfl := Option.some.inj ((get?_of_resolve hresolve).symm.trans hget)
  exact hresolve

/-- A path that leads to a text leads to a text on disks that are alike. -/
theorem resolve_text_of_alike {disk other : Disk} (h : disk.Alike other) {path : Path}
    {location : Location} {old : String}
    (hresolve : disk.resolve path = .ok (location, .file (.text old))) :
    ∃ new, other.resolve path = .ok (location, .file (.text new)) := by
  obtain ⟨node, hget, halike⟩ := h.tree.exists_get? (get?_of_resolve hresolve)
  obtain ⟨new, rfl⟩ := halike.exists_text
  refine ⟨new, resolve_of_locationOf? ?_ hget⟩
  rw [locationOf?_of_alike h]
  exact locationOf?_of_resolve hresolve

end Disk

namespace Rewrite

/-- What a rewrite of a file that holds the text `old` comes to: only that file changes. -/
structure Effect (disk after : Disk) (location : Location) (new : String) : Prop where
  alike : disk.Alike after
  get? : ∀ other, after.tree.get? other =
    if other = location then some (.file (.text new)) else disk.tree.get? other

/-- Of two rewrites of one file the second one counts. -/
theorem Effect.trans {disk middle after : Disk} {location : Location} {new newer : String}
    (h : Effect disk middle location new) (hafter : Effect middle after location newer) :
    Effect disk after location newer := by
  refine ⟨h.alike.trans hafter.alike, fun other => ?_⟩
  rw [hafter.get?, h.get?]
  split <;> rfl

/-- A rewrite leaves one text in the file. -/
theorem Effect.unique {disk after : Disk} {location : Location} {new newer : String}
    (h : Effect disk after location new) (hother : Effect disk after location newer) :
    new = newer := by
  have htext := (h.get? location).symm.trans (hother.get? location)
  rw [if_pos rfl, if_pos rfl] at htext
  simpa using htext

/-- A rewrite that was computed from what the file holds is carried out. -/
theorem exists_apply_ofTexts {disk : Disk} {path : Path} {location : Location} {old : String}
    (hresolve : disk.resolve path = .ok (location, .file (.text old))) (new : String) :
    ∃ after outcome, (ofTexts path old new).apply disk = .ok (after, outcome) ∧
      Effect disk after location new := by
  have hget := Disk.get?_of_resolve hresolve
  by_cases hsame : old = new
  · refine ⟨disk, .alreadyApplied, by simp [apply, ofTexts, hresolve, hsame],
      Disk.Alike.refl disk, fun other => ?_⟩
    split
    · rename_i heq
      rw [heq, hget, hsame]
    · rfl
  · exact ⟨disk.putText location new, .applied new.utf8ByteSize,
      by simp [apply, ofTexts, hresolve, hsame], ⟨Tree.alike_set hget new, rfl⟩,
      fun other => Tree.get?_set _ _ _ _ (Tree.ne_nil_of_get?_file hget)⟩

end Rewrite

end Remedy
