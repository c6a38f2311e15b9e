import Mathlib.Data.List.Induction
import Remedy.Proofs.Text.Lines
import Remedy.Proofs.Tree.Spelling

/-!
# Ways below a folder

The names that lead from a folder to a node below it are spelt as a relative path, from which the
names can be read again.  To walk along the path of the folder joined with this one is to walk to
the folder, and from there along the names.
-/

namespace Remedy

/-- A text that names a node in its folder. -/
structure IsName (name : String) : Prop where
  ne_empty : name ≠ ""
  ne_here : name ≠ "."
  ne_up : name ≠ ".."
  separator_not_mem : '/' ∉ name.toList
  nul_not_mem : '\x00' ∉ name.toList

/-- Names that lead to a node below a folder. -/
structure IsWay (names : Location) : Prop where
  ne_nil : names ≠ []
  isName : ∀ name ∈ names, IsName name

namespace Path

/-- The relative path along some names. -/
def ofNames (names : Location) : Path :=
  ⟨String.ofList (List.intercalate ['/'] (names.map String.toList))⟩

theorem toList_text_ofNames (names : Location) :
    (ofNames names).text.toList = List.intercalate ['/'] (names.map String.toList) :=
  String.toList_ofList

theorem splitAt_ofNames {names : Location} (h : IsWay names) :
    Text.splitAt '/' (ofNames names).text.toList = names.map String.toList := by
  have hne : names.map String.toList ≠ [] := fun hnil => h.ne_nil (List.map_eq_nil_iff.mp hnil)
  have hfree : ∀ piece ∈ names.map String.toList, '/' ∉ piece := by
    intro piece hpiece
    obtain ⟨name, hname, rfl⟩ := List.mem_map.mp hpiece
    exact (h.isName name hname).separator_not_mem
  rw [toList_text_ofNames, Text.splitAt_intercalate hne hfree]

/-- The names are the segments of their path. -/
theorem segments_ofNames {names : Location} (h : IsWay names) :
    (ofNames names).segments = names := by
  rw [segments, splitAt_ofNames h, List.map_map]
  exact List.map_congr_left (fun name _ => String.ofList_toList) |>.trans (List.map_id names)

theorem ofNames_inj {names others : Location} (h : IsWay names) (hothers : IsWay others)
    (heq : ofNames names = ofNames others) : names = others := by
  rw [← segments_ofNames h, heq, segments_ofNames hothers]

/-- A character of such a path separates names or stands in one of them. -/
theorem mem_text_ofNames {names : Location} {c : Char} (hc : c ∈ (ofNames names).text.toList) :
    c = '/' ∨ ∃ name ∈ names, c ∈ name.toList := by
  rw [toList_text_ofNames] at hc
  induction names with
  | nil => cases hc
  | cons name rest ih =>
      cases rest with
      | nil =>
          refine .inr ⟨name, List.mem_cons_self, ?_⟩
          simpa [List.intercalate] using hc
      | cons next more =>
          have hunfold : List.intercalate ['/'] ((name :: next :: more).map String.toList) =
              name.toList ++ '/' :: List.intercalate ['/'] ((next :: more).map String.toList) := by
            simp [List.intercalate]
          rw [hunfold] at hc
          rcases List.mem_append.mp hc with hname | hrest
          · exact .inr ⟨name, List.mem_cons_self, hname⟩
          · rcases List.mem_cons.mp hrest with rfl | hlater
            · exact .inl rfl
            · rcases ih hlater with hsep | ⟨found, hfound, hin⟩
              · exact .inl hsep
              · exact .inr ⟨found, List.mem_cons_of_mem _ hfound, hin⟩

theorem nul_not_mem_ofNames {names : Location} (h : IsWay names) :
    '\x00' ∉ (ofNames names).text.toList := by
  intro hmem
  rcases mem_text_ofNames hmem with hsep | ⟨name, hname, hin⟩
  · exact absurd hsep (by decide)
  · exact (h.isName name hname).nul_not_mem hin

/-- A separator stands neither at the front nor at the end, since no name is empty. -/
theorem ends_of_ofNames {names : Location} (h : IsWay names) :
    (ofNames names).text.toList ≠ [] ∧ ∀ front rest,
      (ofNames names).text.toList = front ++ '/' :: rest → front ≠ [] ∧ rest ≠ [] := by
  refine Text.ne_nil_of_nil_not_mem_splitAt ?_
  rw [splitAt_ofNames h]
  intro hmem
  obtain ⟨name, hname, hnil⟩ := List.mem_map.mp hmem
  exact (h.isName name hname).ne_empty (String.toList_eq_nil_iff.mp hnil)

theorem isAbsolute_ofNames {names : Location} (h : IsWay names) :
    (ofNames names).isAbsolute = false := by
  unfold isAbsolute
  cases htext : (ofNames names).text.toList with
  | nil => rfl
  | cons c rest =>
      have hc : c ≠ '/' := by
        rintro rfl
        exact ((ends_of_ofNames h).2 [] rest htext).1 rfl
      simpa using hc

/-- Each name is a step. -/
theorem map_ofSegment_of_isName {names : Location} (h : ∀ name ∈ names, IsName name) :
    names.map Step.ofSegment = names.map .name := by
  refine List.map_congr_left fun name hname => ?_
  obtain ⟨hempty, hhere, hup, -, -⟩ := h name hname
  simp [Step.ofSegment, hempty, hhere, hup]

theorem components_ofNames {names : Location} (h : IsWay names) :
    (ofNames names).components = names.map .name := by
  have hmoves : ∀ names : Location, (∀ name ∈ names, IsName name) →
      names.filterMap Component.ofSegment? = names.map .name := by
    intro names hnames
    induction names with
    | nil => rfl
    | cons name rest ih =>
        obtain ⟨hempty, hhere, hup, -, -⟩ := hnames name List.mem_cons_self
        have hrest := ih fun other hother => hnames other (List.mem_cons_of_mem _ hother)
        simpa [Component.ofSegment?, hempty, hhere, hup] using hrest
  have hhere : names.head? ≠ some "." := fun hhead =>
    (h.isName "." (List.mem_of_mem_head? hhead)).ne_here rfl
  simp [components, isAbsolute_ofNames h, segments_ofNames h, hmoves names h.isName, hhere]

/-- The paths along two ways are the same just if the ways are. -/
theorem same_ofNames_iff {names others : Location} (h : IsWay names) (hothers : IsWay others) :
    (ofNames names).same (ofNames others) = true ↔ names = others := by
  rw [same, components_ofNames h, components_ofNames hothers, beq_iff_eq]
  exact List.map_inj_right fun _ _ heq => Component.name.inj heq

/-!
## Behind a folder
-/

theorem steps_eq_append {path : Path} {front rest : List String} (hfront : front ≠ [])
    (h : path.segments = front ++ rest) :
    path.steps =
      (if path.isAbsolute then (front.map Step.ofSegment).tail else front.map Step.ofSegment) ++
        rest.map Step.ofSegment := by
  unfold steps
  rw [h, List.map_append]
  dsimp only
  split
  · exact List.tail_append_of_ne_nil fun hnil => hfront (List.map_eq_nil_iff.mp hnil)
  · rfl

theorem map_splitAt_ne_nil (text : List Char) :
    (Text.splitAt '/' text).map String.ofList ≠ [] := fun hnil =>
  Text.splitAt_ne_nil '/' text (List.map_eq_nil_iff.mp hnil)

/-- A folder and the names behind it are separated by one separator. -/
theorem exists_text_join {folder : Path} (hfolder : folder.text ≠ "") {names : Location}
    (h : IsWay names) :
    ∃ front idle, folder.text.toList = front ++ idle ∧ (idle = [] ∨ idle = ['/']) ∧
      (folder.join (ofNames names)).text.toList =
        front ++ '/' :: (ofNames names).text.toList := by
  unfold join
  rw [if_neg (by rw [isAbsolute_ofNames h]; exact Bool.false_ne_true)]
  split
  · rename_i hlast
    obtain ⟨front, hfront⟩ := List.getLast?_eq_some_iff.mp (hlast.resolve_left hfolder)
    refine ⟨front, ['/'], hfront, .inr rfl, ?_⟩
    rw [String.toList_append, hfront, List.append_assoc]
    rfl
  · refine ⟨folder.text.toList, [], (List.append_nil _).symm, .inl rfl, ?_⟩
    rw [String.toList_append, String.toList_append, List.append_assoc]
    rfl

/-- The steps to a node below a folder: those to the folder, and then the names. -/
theorem exists_steps_join {folder : Path} (hfolder : folder.text ≠ "") {names : Location}
    (h : IsWay names) :
    (folder.join (ofNames names)).isAbsolute = folder.isAbsolute ∧
      ∃ steps idle, folder.steps = steps ++ idle ∧ (∀ step ∈ idle, step = .here) ∧
        (folder.join (ofNames names)).steps = steps ++ names.map .name := by
  obtain ⟨front, idle, htext, hidle, hjoin⟩ := exists_text_join hfolder h
  have habsolute : (folder.join (ofNames names)).isAbsolute = folder.isAbsolute := by
    unfold isAbsolute
    rw [hjoin, htext]
    cases front with
    | cons c rest => rfl
    | nil =>
        rcases hidle with rfl | rfl
        · exact absurd (String.toList_eq_nil_iff.mp htext) hfolder
        · rfl
  have hnames : (folder.join (ofNames names)).segments =
      (Text.splitAt '/' front).map String.ofList ++ names := by
    have hown := segments_ofNames h
    rw [segments] at hown ⊢
    rw [hjoin, Text.splitAt_append_separator, List.map_append, hown]
  refine ⟨habsolute, ?_⟩
  rw [steps_eq_append (map_splitAt_ne_nil front) hnames, habsolute,
    map_ofSegment_of_isName h.isName]
  rcases hidle with rfl | rfl
  · have hfront : folder.segments = (Text.splitAt '/' front).map String.ofList ++ [] := by
      rw [segments, htext, List.append_nil, List.append_nil]
    exact ⟨_, [], steps_eq_append (map_splitAt_ne_nil front) hfront,
      fun step hstep => absurd hstep List.not_mem_nil, rfl⟩
  · have hfront : folder.segments = (Text.splitAt '/' front).map String.ofList ++ [""] := by
      rw [segments, htext, Text.splitAt_append_separator, List.map_append]
      rfl
    exact ⟨_, [.here], steps_eq_append (map_splitAt_ne_nil front) hfront,
      fun step hstep => List.mem_singleton.mp hstep, rfl⟩

/-- A path to a node below a folder ends in a name. -/
theorem bare_join {folder : Path} (hfolder : folder.text ≠ "") {names : Location}
    (h : IsWay names) : (folder.join (ofNames names)).bare = folder.join (ofNames names) := by
  obtain ⟨front, idle, -, -, hjoin⟩ := exists_text_join hfolder h
  obtain ⟨last, c, hlast⟩ : ∃ last c, (ofNames names).text.toList = last ++ [c] :=
    ⟨_, _, (List.dropLast_concat_getLast (ends_of_ofNames h).1).symm⟩
  have hc : c ≠ '/' := by
    rintro rfl
    exact ((ends_of_ofNames h).2 last [] hlast).2 rfl
  have hkept : ((folder.join (ofNames names)).text.toList.reverse.dropWhile (· == '/')).reverse =
      (folder.join (ofNames names)).text.toList := by
    rw [hjoin, hlast, ← List.cons_append, ← List.append_assoc, List.reverse_concat,
      List.dropWhile_cons_of_neg (by simpa using hc), ← List.reverse_concat, List.reverse_reverse]
  have hne : (folder.join (ofNames names)).text.toList ≠ [] := by
    rw [hjoin]
    exact List.append_ne_nil_of_right_ne_nil _ (List.cons_ne_nil _ _)
  unfold bare
  rw [hkept, if_neg hne, String.ofList_toList]

theorem nul_not_mem_join {folder : Path} (hfolder : folder.text ≠ "")
    (hfree : '\x00' ∉ folder.text.toList) {names : Location} (h : IsWay names) :
    '\x00' ∉ (folder.join (ofNames names)).text.toList := by
  obtain ⟨front, idle, htext, -, hjoin⟩ := exists_text_join hfolder h
  rw [htext] at hfree
  rw [hjoin]
  intro hmem
  rcases List.mem_append.mp hmem with hfront | hbehind
  · exact hfree (List.mem_append_left _ hfront)
  · rcases List.mem_cons.mp hbehind with hsep | hown
    · exact absurd hsep (by decide)
    · exact nul_not_mem_ofNames h hown

end Path

namespace Tree

/-- Steps that stay where they are lead to the node that stands there. -/
theorem descend_of_idle {tree : Tree}
    {relink : Location → Path → List Path.Step → Except SystemError Place} {folder : Location}
    {idle : List Path.Step} (hidle : ∀ step ∈ idle, step = .here) :
    descend tree true relink folder idle = descend tree true relink folder [] := by
  induction idle with
  | nil => rfl
  | cons step rest ih =>
      obtain rfl := hidle step List.mem_cons_self
      exact ih fun other hother => hidle other (List.mem_cons_of_mem _ hother)

/-- A descent to a folder goes on from there, unless it goes through a link. -/
theorem exists_descend_append {tree : Tree}
    {relink : Bool → Location → Path → List Path.Step → Except SystemError Place}
    {budget : Nat} {top : Location} {idle : List Path.Step}
    (hidle : ∀ step ∈ idle, step = .here)
    (hself : ∀ followLast rest, descend tree followLast (relink followLast) top rest =
      tree.walk followLast budget top rest)
    (hrelink : ∀ folder target steps,
      relink true folder target (steps ++ idle) = .ok (.found top .folder) →
      ∃ left, ∀ followLast rest, rest ≠ [] →
        relink followLast folder target (steps ++ rest) = tree.walk followLast left top rest)
    {folder : Location} {steps : List Path.Step}
    (hfound : descend tree true (relink true) folder (steps ++ idle) =
      .ok (.found top .folder)) :
    ∃ left, ∀ followLast rest, rest ≠ [] →
      descend tree followLast (relink followLast) folder (steps ++ rest) =
        tree.walk followLast left top rest := by
  induction steps generalizing folder with
  | nil =>
      rw [List.nil_append, descend_of_idle hidle, descend] at hfound
      cases hget : tree.get? folder with
      | none => rw [hget] at hfound; cases hfound
      | some node =>
          rw [hget] at hfound
          cases hfound
          exact ⟨budget, fun followLast rest _ => hself followLast rest⟩
  | cons step more ih =>
      cases step with
      | here => exact ih hfound
      | up => exact ih hfound
      | name name =>
          simp only [List.cons_append, descend] at hfound ⊢
          split at hfound
          · cases hfound
          · rename_i hlength
            simp only [if_neg hlength]
            cases hget : tree.get? (folder ++ [name]) with
            | none =>
                rw [hget] at hfound
                dsimp only at hfound
                split at hfound <;> cases hfound
            | some node =>
                rw [hget] at hfound
                cases node with
                | folder => exact ih hfound
                | file content =>
                    dsimp only at hfound
                    split at hfound <;> cases hfound
                | link target =>
                    simp only [Bool.true_eq_false, and_false, if_false] at hfound
                    obtain ⟨left, hleft⟩ := hrelink folder target more hfound
                    refine ⟨left, fun followLast rest hrest => ?_⟩
                    have hmore : more ++ rest ≠ [] := List.append_ne_nil_of_right_ne_nil _ hrest
                    simp only [hmore, false_and, if_false]
                    exact hleft followLast rest hrest

/-- A walk to a folder can be carried on, with what is left of its budget. -/
theorem exists_walk_append {tree : Tree} {budget : Nat} {start top : Location}
    {steps idle : List Path.Step} (hidle : ∀ step ∈ idle, step = .here)
    (hfound : tree.walk true budget start (steps ++ idle) = .ok (.found top .folder)) :
    ∃ left, ∀ followLast rest, rest ≠ [] →
      tree.walk followLast budget start (steps ++ rest) = tree.walk followLast left top rest := by
  induction budget generalizing start steps with
  | zero =>
      simp only [walk] at hfound ⊢
      exact @exists_descend_append tree (fun _ _ _ _ => .error .tooManyLinks) 0 top idle hidle
        (fun _ _ => rfl) (fun _ _ _ hlink => by cases hlink) start steps hfound
  | succ budget ih =>
      simp only [walk] at hfound ⊢
      refine @exists_descend_append tree (fun followLast folder target rest =>
        tree.walk followLast budget (if target.isAbsolute then [] else folder)
          (target.steps ++ rest)) (budget + 1) top idle hidle (fun _ _ => rfl) ?_ start steps hfound
      intro folder target more hlink
      rw [← List.append_assoc] at hlink
      obtain ⟨left, hleft⟩ := ih hlink
      refine ⟨left, fun followLast rest hrest => ?_⟩
      rw [← hleft followLast rest hrest, List.append_assoc]

/-!
## Below a folder
-/

/-- Below a folder, each node stands in a folder and has a name that the system takes. -/
structure Sound (tree : Tree) (top : Location) : Prop where
  folder_top : tree.get? top = some .folder
  folder_of_concat : ∀ names name node, tree.get? (top ++ (names ++ [name])) = some node →
    tree.get? (top ++ names) = some .folder
  name_of_concat : ∀ names name node, tree.get? (top ++ (names ++ [name])) = some node →
    IsName name ∧ name.utf8ByteSize ≤ longestName

namespace Sound

variable {tree : Tree} {top : Location}

/-- On the way to a node there are folders. -/
theorem folder_of_append (h : tree.Sound top) {front rest : Location} (hrest : rest ≠ [])
    {node : Node} (hget : tree.get? (top ++ (front ++ rest)) = some node) :
    tree.get? (top ++ front) = some .folder := by
  induction rest using List.reverseRecOn generalizing node with
  | nil => exact absurd rfl hrest
  | append_singleton rest last ih =>
      rw [← List.append_assoc front] at hget
      have hparent := h.folder_of_concat _ _ _ hget
      cases rest with
      | nil => rwa [List.append_nil] at hparent
      | cons name more => exact ih (List.cons_ne_nil name more) hparent

theorem name_of_append (h : tree.Sound top) {front rest : Location} {name : String}
    {node : Node} (hget : tree.get? (top ++ (front ++ name :: rest)) = some node) :
    IsName name ∧ name.utf8ByteSize ≤ longestName := by
  rw [List.append_cons] at hget
  cases rest with
  | nil =>
      rw [List.append_nil] at hget
      exact h.name_of_concat _ _ _ hget
  | cons next more =>
      exact h.name_of_concat _ _ _ (h.folder_of_append (List.cons_ne_nil next more) hget)

/-- What leads to a node below the folder are names. -/
theorem isWay (h : tree.Sound top) {names : Location} (hne : names ≠ []) {node : Node}
    (hget : tree.get? (top ++ names) = some node) : IsWay names := by
  refine ⟨hne, fun name hname => ?_⟩
  obtain ⟨front, rest, rfl⟩ := List.append_of_mem hname
  exact (h.name_of_append hget).1

end Sound

/-- A descent goes through folders name by name. -/
theorem descend_of_folders {tree : Tree} {followLast : Bool}
    {relink : Location → Path → List Path.Step → Except SystemError Place} {start : Location}
    {names : Location} (rest : List Path.Step)
    (hfolders : ∀ front name behind, names = front ++ name :: behind →
      tree.get? (start ++ (front ++ [name])) = some .folder ∧ name.utf8ByteSize ≤ longestName) :
    descend tree followLast relink start (names.map .name ++ rest) =
      descend tree followLast relink (start ++ names) rest := by
  induction names generalizing start with
  | nil => rw [List.append_nil]; rfl
  | cons name more ih =>
      obtain ⟨hget, hlength⟩ := hfolders [] name more rfl
      rw [List.nil_append] at hget
      rw [List.map_cons, List.cons_append, descend, if_neg (Nat.not_lt.mpr hlength), hget]
      dsimp only
      rw [ih, List.append_assoc, List.singleton_append]
      intro front next behind hmore
      have hnext := hfolders (name :: front) next behind (by rw [hmore, List.cons_append])
      rwa [List.append_assoc, List.singleton_append]

/-- A walk along names ends as a step from their last folder does. -/
theorem Sound.walk_concat {tree : Tree} {top : Location} (h : tree.Sound top)
    {followLast : Bool} {budget : Nat} {names : Location} {name : String}
    (hget : tree.get? (top ++ names) = some .folder) :
    tree.walk followLast budget top ((names ++ [name]).map .name) =
      tree.walk followLast budget (top ++ names) [.name name] := by
  have hfolders : ∀ front next behind, names = front ++ next :: behind →
      tree.get? (top ++ (front ++ [next])) = some .folder ∧
        next.utf8ByteSize ≤ longestName := by
    rintro front next behind rfl
    refine ⟨?_, (h.name_of_append hget).2⟩
    cases behind with
    | nil => exact hget
    | cons _ _ =>
        rw [List.append_cons] at hget
        exact h.folder_of_append (List.cons_ne_nil _ _) hget
  rw [List.map_append]
  cases budget <;> exact descend_of_folders [.name name] hfolders

/-- A walk along names ends at the file that they lead to. -/
theorem Sound.walk_of_file {tree : Tree} {top : Location} (h : tree.Sound top)
    (followLast : Bool) (budget : Nat) {names : Location} {content : Content} (hne : names ≠ [])
    (hget : tree.get? (top ++ names) = some (.file content)) :
    tree.walk followLast budget top (names.map .name) =
      .ok (.found (top ++ names) (.file content)) := by
  cases names using List.reverseRecOn with
  | nil => exact absurd rfl hne
  | append_singleton front name =>
      obtain ⟨-, hlength⟩ := h.name_of_concat _ _ _ hget
      rw [h.walk_concat (h.folder_of_concat _ _ _ hget)]
      rw [← List.append_assoc] at hget ⊢
      cases budget <;>
        rw [walk, descend, if_neg (Nat.not_lt.mpr hlength), hget] <;> rfl

/-- A walk along names ends in a folder that lacks the last one. -/
theorem Sound.walk_of_vacant {tree : Tree} {top : Location} (h : tree.Sound top)
    (followLast : Bool) (budget : Nat) {names : Location} {name : String}
    (hlength : name.utf8ByteSize ≤ longestName)
    (hfolder : tree.get? (top ++ names) = some .folder)
    (hget : tree.get? (top ++ (names ++ [name])) = none) :
    tree.walk followLast budget top ((names ++ [name]).map .name) =
      .ok (.vacant (top ++ names) name) := by
  rw [h.walk_concat hfolder]
  rw [← List.append_assoc] at hget
  cases budget <;>
    rw [walk, descend, if_neg (Nat.not_lt.mpr hlength), hget] <;> rfl

/-- A walk along names at none of which there is a link does not end at one. -/
theorem descend_ne_link {tree : Tree} {followLast : Bool}
    {relink : Location → Path → List Path.Step → Except SystemError Place} {start : Location}
    {names : Location}
    (hlinks : ∀ front rest, names = front ++ rest → ∀ target,
      tree.get? (start ++ front) ≠ some (.link target)) (location : Location) (target : Path) :
    tree.descend followLast relink start (names.map .name) ≠
      .ok (.found location (.link target)) := by
  induction names generalizing start with
  | nil =>
      have hself := hlinks [] [] rfl target
      rw [List.append_nil] at hself
      rw [List.map_nil, descend]
      split
      · rename_i node hget
        rintro heq
        cases heq
        exact hself hget
      · rintro ⟨⟩
  | cons name rest ih =>
      rw [List.map_cons, descend]
      split
      · rintro ⟨⟩
      · split
        · split <;> rintro ⟨⟩
        · refine ih fun front behind heq target => ?_
          rw [List.append_assoc, List.singleton_append]
          exact hlinks (name :: front) behind (by rw [heq, List.cons_append]) target
        · split <;> rintro ⟨⟩
        · rename_i target hget
          exact absurd hget (hlinks [name] rest rfl target)

/-!
## Taking away
-/

/-- Of the entries that are kept, the first one with a key is found. -/
theorem lookup_filter_fst {α β : Type} [BEq α] [LawfulBEq α] (keep : α → Bool)
    (entries : List (α × β)) (key : α) :
    (entries.filter (keep ·.1)).lookup key =
      if keep key = true then entries.lookup key else none := by
  induction entries with
  | nil => simp
  | cons entry rest ih =>
      obtain ⟨first, held⟩ := entry
      by_cases hkey : key = first
      · subst hkey
        cases hkeep : keep key <;> simp [hkeep, ih]
      · have hfar : (key == first) = false := by simpa using hkey
        cases hkeep : keep first <;> simp [hkeep, ih, List.lookup_cons, hfar]

theorem get?_erase (tree : Tree) {location : Location} (h : location ≠ []) (other : Location) :
    (tree.erase location).get? other = if other = location then none else tree.get? other := by
  unfold get? erase
  by_cases hother : other = []
  · rw [if_pos hother, if_pos hother, if_neg fun heq => h (heq.symm.trans hother)]
  · have hkept := lookup_filter_fst (fun place => decide (place ≠ location)) tree.nodes other
    rw [if_neg hother, if_neg hother]
    refine hkept.trans ?_
    by_cases heq : other = location <;> simp [heq]

/-- Taking away what is not a folder leaves each node in a folder. -/
theorem Sound.erase {tree : Tree} {top : Location} (h : tree.Sound top) {names : Location}
    (hne : names ≠ []) (hget : tree.get? (top ++ names) ≠ some .folder) :
    (tree.erase (top ++ names)).Sound top := by
  have hlocation : top ++ names ≠ [] := List.append_ne_nil_of_right_ne_nil _ hne
  have hstays : ∀ others, tree.get? (top ++ others) = some .folder →
      (tree.erase (top ++ names)).get? (top ++ others) = some .folder := by
    intro others hothers
    rw [get?_erase _ hlocation, if_neg, hothers]
    intro heq
    rw [heq] at hothers
    exact hget hothers
  have hstood : ∀ others node, (tree.erase (top ++ names)).get? (top ++ others) = some node →
      tree.get? (top ++ others) = some node := by
    intro others node hothers
    rw [get?_erase _ hlocation] at hothers
    split at hothers
    · cases hothers
    · exact hothers
  constructor
  · have htop := hstays []
    rw [List.append_nil] at htop
    exact htop h.folder_top
  · intro others name node hothers
    exact hstays _ (h.folder_of_concat _ _ _ (hstood _ _ hothers))
  · intro others name node hothers
    exact h.name_of_concat _ _ _ (hstood _ _ hothers)

end Tree

end Remedy
