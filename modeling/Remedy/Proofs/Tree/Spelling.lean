import Remedy.Proofs.Tree.Writing

/-!
# Spellings of a path

Two paths are the same if their components are.  They may differ in steps that stay where they
are, and such a step makes a walk fail at most.  So if both lead to a file, it is one file.
-/

namespace Remedy

namespace Path

/-- The second walk is the first without some of the steps that stay where they are. -/
inductive Trims : List Step → List Step → Prop where
  | nil : Trims [] []
  | keep (step : Step) {steps short : List Step} (rest : Trims steps short) :
      Trims (step :: steps) (step :: short)
  | drop {steps short : List Step} (rest : Trims steps short) : Trims (.here :: steps) short

namespace Trims

/-- All steps that stay where they are can be left out. -/
theorem filter (steps : List Step) : Trims steps (steps.filter (· ≠ .here)) := by
  induction steps with
  | nil => exact .nil
  | cons step rest ih =>
      by_cases hstep : step = .here
      · subst hstep
        simpa using Trims.drop ih
      · simpa [hstep] using Trims.keep step ih

theorem append_left (front : List Step) {steps short : List Step} (h : Trims steps short) :
    Trims (front ++ steps) (front ++ short) := by
  induction front with
  | nil => exact h
  | cons step rest ih => exact .keep step ih

theorem eq_nil {short : List Step} (h : Trims [] short) : short = [] := by
  cases h
  rfl

end Trims

end Path

namespace Tree

/-- Leaving out steps that stay where they are leads a walk to the same file. -/
theorem descend_of_trims {tree : Tree}
    {relink : Location → Path → List Path.Step → Except SystemError Place}
    {location : Location} {content : Content}
    (hrelink : ∀ folder target rest short, Path.Trims rest short →
      relink folder target rest = .ok (.found location (.file content)) →
      relink folder target short = .ok (.found location (.file content)))
    {folder : Location} {steps short : List Path.Step} (htrims : Path.Trims steps short)
    (hfound : descend tree true relink folder steps = .ok (.found location (.file content))) :
    descend tree true relink folder short = .ok (.found location (.file content)) := by
  induction htrims generalizing folder with
  | nil => exact hfound
  | drop rest ih => exact ih hfound
  | @keep step steps short rest ih =>
      cases step with
      | here => exact ih hfound
      | up => exact ih hfound
      | name name =>
          simp only [descend] at hfound ⊢
          split at hfound
          · cases hfound
          · rename_i hlength
            rw [if_neg hlength]
            cases hget : tree.get? (folder ++ [name]) with
            | none =>
                rw [hget] at hfound
                dsimp only at hfound
                split at hfound <;> cases hfound
            | some node =>
                rw [hget] at hfound
                cases node with
                | folder => exact ih hfound
                | file held =>
                    dsimp only at hfound ⊢
                    split at hfound
                    · rename_i hlast
                      subst hlast
                      rw [if_pos rest.eq_nil]
                      exact hfound
                    · cases hfound
                | link target =>
                    simp only [Bool.true_eq_false, and_false, if_false] at hfound ⊢
                    exact hrelink _ _ _ _ rest hfound

theorem walk_of_trims {tree : Tree} {location : Location} {content : Content} {budget : Nat}
    {folder : Location} {steps short : List Path.Step} (htrims : Path.Trims steps short)
    (hfound : walk tree true budget folder steps = .ok (.found location (.file content))) :
    walk tree true budget folder short = .ok (.found location (.file content)) := by
  induction budget generalizing folder steps short with
  | zero =>
      rw [walk] at hfound ⊢
      refine descend_of_trims (fun _ _ _ _ _ hlink => ?_) htrims hfound
      cases hlink
  | succ budget ih =>
      rw [walk] at hfound ⊢
      refine descend_of_trims ?_ htrims hfound
      intro folder target rest short hrest hlink
      exact ih (hrest.append_left target.steps) hlink

end Tree

namespace Path

/-- The step that a component asks for. -/
def Component.step : Component → Step
  | .root | .here => .here
  | .up => .up
  | .name text => .name text

/-- The components behind the first one. -/
def moves (path : Path) : List Component :=
  path.segments.filterMap Component.ofSegment?

theorem step_of_ofSegment? (segment : String) :
    (Component.ofSegment? segment = none ∧ Step.ofSegment segment = .here) ∨
      ∃ move, Component.ofSegment? segment = some move ∧ move ≠ .root ∧ move ≠ .here ∧
        Step.ofSegment segment = move.step ∧ move.step ≠ .here := by
  unfold Component.ofSegment? Step.ofSegment
  split
  · exact .inl ⟨rfl, rfl⟩
  · split
    · exact .inr ⟨.up, rfl, by simp [Component.step]⟩
    · exact .inr ⟨.name segment, rfl, by simp [Component.step]⟩

/-- Neither the root nor the folder itself is a move. -/
theorem ne_of_mem_moves {path : Path} {move : Component} (hmove : move ∈ path.moves) :
    move ≠ .root ∧ move ≠ .here := by
  obtain ⟨segment, -, hsegment⟩ := List.mem_filterMap.mp hmove
  rcases step_of_ofSegment? segment with ⟨hnone, -⟩ | ⟨found, hfound, hroot, hhere, -⟩
  · rw [hnone] at hsegment
    cases hsegment
  · obtain rfl : found = move := Option.some.inj (hfound.symm.trans hsegment)
    exact ⟨hroot, hhere⟩

theorem filter_map_ofSegment (segments : List String) :
    (segments.map Step.ofSegment).filter (· ≠ .here) =
      (segments.filterMap Component.ofSegment?).map Component.step := by
  induction segments with
  | nil => rfl
  | cons segment rest ih =>
      rcases step_of_ofSegment? segment with ⟨hnone, hstep⟩ | ⟨move, hmove, -, -, hstep, hne⟩
      · simpa [hnone, hstep] using ih
      · simpa [hmove, hstep, hne] using ih

/-- An absolute path begins with an empty segment. -/
theorem segments_of_isAbsolute {path : Path} (habsolute : path.isAbsolute = true) :
    ∃ rest, path.segments = "" :: rest := by
  unfold isAbsolute at habsolute
  unfold segments
  cases htext : path.text.toList with
  | nil => simp [htext] at habsolute
  | cons c rest =>
      obtain rfl : c = '/' := by simpa [htext] using habsolute
      exact ⟨(Text.splitAt '/' rest).map String.ofList, by simp [Text.splitAt]⟩

/-- The steps that go somewhere are those of the moves. -/
theorem filter_steps (path : Path) :
    path.steps.filter (· ≠ .here) = path.moves.map Component.step := by
  unfold steps moves
  rw [← filter_map_ofSegment]
  by_cases habsolute : path.isAbsolute = true
  · obtain ⟨rest, hsegments⟩ := segments_of_isAbsolute habsolute
    simp [habsolute, hsegments, Step.ofSegment]
  · simp [habsolute]

theorem components_eq (path : Path) :
    path.components =
      if path.isAbsolute then .root :: path.moves
      else if path.segments.head? = some "." then .here :: path.moves
      else path.moves :=
  rfl

/-- The moves are the components that are neither the root nor the folder itself. -/
theorem filter_components (path : Path) :
    path.components.filter (fun part => part ≠ .root ∧ part ≠ .here) = path.moves := by
  have hmoves : path.moves.filter (fun part => part ≠ .root ∧ part ≠ .here) = path.moves :=
    List.filter_eq_self.mpr fun move hmove => by simpa using ne_of_mem_moves hmove
  rw [components_eq]
  split
  · rw [List.filter_cons_of_neg (by simp), hmoves]
  · split
    · rw [List.filter_cons_of_neg (by simp), hmoves]
    · exact hmoves

/-- A path is absolute if the root is its first component. -/
theorem isAbsolute_iff (path : Path) :
    path.isAbsolute = true ↔ path.components.head? = some .root := by
  rw [components_eq]
  by_cases habsolute : path.isAbsolute = true
  · simp [habsolute]
  · rw [if_neg habsolute]
    refine iff_of_false habsolute ?_
    split
    · simp
    · intro hhead
      exact (ne_of_mem_moves (List.mem_of_mem_head? hhead)).1 rfl

/-- The same paths begin in the same way and make the same moves. -/
theorem moves_of_same {a b : Path} (hsame : a.same b = true) :
    a.isAbsolute = b.isAbsolute ∧ a.moves = b.moves := by
  have heq : a.components = b.components := by simpa [same] using hsame
  constructor
  · rw [Bool.eq_iff_iff, isAbsolute_iff, isAbsolute_iff, heq]
  · rw [← filter_components a, ← filter_components b, heq]

end Path

namespace Disk

/-- A file to which a path leads is found by making the moves of the path. -/
theorem walk_of_resolve {disk : Disk} {path : Path} {location : Location} {content : Content}
    (hresolve : disk.resolve path = .ok (location, .file content)) :
    disk.tree.walk true Tree.linkBudget (if path.isAbsolute then [] else disk.here)
      (path.moves.map Path.Component.step) = .ok (.found location (.file content)) := by
  rw [← Path.filter_steps]
  refine Tree.walk_of_trims (Path.Trims.filter path.steps) ?_
  unfold resolve walk at hresolve
  split at hresolve
  · rename_i hplace
    split at hplace
    · cases hplace
    · split at hplace
      · cases hplace
      · split at hplace
        · cases hplace
        · rw [hplace]
          simpa using hresolve
  · cases hresolve
  · cases hresolve

/-- The same paths, if both lead to a file, lead to one file. -/
theorem location_eq_of_same {disk : Disk} {a b : Path} (hsame : a.same b = true)
    {first second : Location} {held other : Content}
    (hfirst : disk.resolve a = .ok (first, .file held))
    (hsecond : disk.resolve b = .ok (second, .file other)) : first = second := by
  obtain ⟨habsolute, hmoves⟩ := Path.moves_of_same hsame
  have hwalk := walk_of_resolve hfirst
  rw [habsolute, hmoves, walk_of_resolve hsecond] at hwalk
  exact (Place.found.inj (Except.ok.inj hwalk)).1.symm

end Disk

end Remedy
