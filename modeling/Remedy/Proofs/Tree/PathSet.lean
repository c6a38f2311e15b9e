import Mathlib.Data.List.Basic
import Mathlib.Data.List.Induction
import Remedy.Path

/-!
# Sets of paths

Paths are in a linear order by their components, so a set in ascending order is known by its
members.  As long as no path is added in two spellings, the order in which paths are added to a
set does not matter.
-/

namespace Remedy

open Std (OrientedCmp TransCmp LawfulEqCmp ReflCmp)

namespace Path

/-- The text of a component that has one. -/
def Component.text : Component → String
  | .name text => text
  | _ => ""

theorem Component.eq_of_text_eq {a b : Component} (hrank : a.rank = b.rank)
    (htext : a.text = b.text) : a = b := by
  cases a <;> cases b <;> simp_all [rank, text]

/-- Components are compared by their kinds first and then by their texts. -/
theorem Component.order_eq :
    Component.order = compareLex (compareOn Component.rank) (compareOn Component.text) := by
  funext a b
  cases a <;> cases b <;> rfl

instance : TransCmp Component.order := by
  rw [Component.order_eq]
  infer_instance

instance : LawfulEqCmp Component.order where
  compare_self := ReflCmp.compare_self
  eq_of_compare := by
    intro a b h
    rw [Component.order_eq, compareLex, Ordering.then_eq_eq] at h
    exact Component.eq_of_text_eq (LawfulEqCmp.eq_of_compare h.1) (LawfulEqCmp.eq_of_compare h.2)

theorem compareLists_eq (as bs : List Component) :
    order.compareLists as bs = List.compareLex Component.order as bs := by
  induction as generalizing bs with
  | nil => cases bs <;> rfl
  | cons a as ih =>
      cases bs with
      | nil => rfl
      | cons b bs => rw [order.compareLists, ih, List.compareLex_cons_cons]

instance : TransCmp order where
  eq_swap := by
    intro a b
    unfold order
    rw [compareLists_eq, compareLists_eq]
    exact OrientedCmp.eq_swap
  isLE_trans := by
    intro a b c
    unfold order
    rw [compareLists_eq, compareLists_eq, compareLists_eq]
    exact TransCmp.isLE_trans

/-- Two paths are equal in their order just if they are the same. -/
theorem order_eq_eq_iff {a b : Path} : a.order b = .eq ↔ a.same b = true := by
  unfold order same
  rw [compareLists_eq, beq_iff_eq, LawfulEqCmp.compare_eq_iff_eq]

end Path

namespace PathSet

/-- A list of paths in ascending order. -/
def Ascending (set : PathSet) : Prop :=
  set.Pairwise fun a b => a.order b = .lt

theorem Ascending.nodup {set : PathSet} (h : Ascending set) : set.Nodup := by
  refine List.Pairwise.imp (fun {a b} hlt heq => ?_) h
  have hself : a.order a = .eq := ReflCmp.compare_self
  rw [← heq, hself] at hlt
  cases hlt

/-- A set in ascending order is known by its members. -/
theorem Ascending.eq_of_mem_iff {a b : PathSet} (ha : Ascending a) (hb : Ascending b)
    (h : ∀ path, path ∈ a ↔ path ∈ b) : a = b := by
  refine List.Perm.eq_of_pairwise (fun p q _ _ hlt hgt => ?_) ha hb
    ((List.perm_ext_iff_of_nodup ha.nodup hb.nodup).mpr h)
  exact absurd hgt (OrientedCmp.not_lt_of_lt hlt)

/-- Adding a path adds nothing else. -/
theorem mem_of_mem_insert {path other : Path} {set : PathSet} (h : other ∈ insert path set) :
    other = path ∨ other ∈ set := by
  induction set with
  | nil => exact .inl (List.mem_singleton.mp h)
  | cons first rest ih =>
      rw [insert] at h
      split at h
      · exact List.mem_cons.mp h
      · exact .inr h
      · rcases List.mem_cons.mp h with rfl | hrest
        · exact .inr List.mem_cons_self
        · exact (ih hrest).imp_right (List.mem_cons_of_mem first)

/-- What is in a set stays there when a path is added. -/
theorem mem_insert_of_mem {path other : Path} {set : PathSet} (h : other ∈ set) :
    other ∈ insert path set := by
  induction set with
  | nil => exact absurd h List.not_mem_nil
  | cons first rest ih =>
      rw [insert]
      split
      · exact List.mem_cons_of_mem path h
      · exact h
      · rcases List.mem_cons.mp h with rfl | hrest
        · exact List.mem_cons_self
        · exact List.mem_cons_of_mem first (ih hrest)

/-- A path that was added is there in some spelling. -/
theorem exists_mem_insert (path : Path) (set : PathSet) :
    ∃ other ∈ insert path set, path.same other = true := by
  induction set with
  | nil => exact ⟨path, List.mem_singleton.mpr rfl, beq_self_eq_true _⟩
  | cons first rest ih =>
      rw [insert]
      split
      · exact ⟨path, List.mem_cons_self, beq_self_eq_true _⟩
      · rename_i heq
        exact ⟨first, List.mem_cons_self, Path.order_eq_eq_iff.mp heq⟩
      · obtain ⟨other, hmem, hsame⟩ := ih
        exact ⟨other, List.mem_cons_of_mem first hmem, hsame⟩

theorem ascending_insert {set : PathSet} (h : Ascending set) (path : Path) :
    Ascending (insert path set) := by
  induction set with
  | nil => exact List.pairwise_singleton _ _
  | cons first rest ih =>
      obtain ⟨hfirst, hrest⟩ := List.pairwise_cons.mp h
      rw [insert]
      split
      · rename_i hlt
        refine List.pairwise_cons.mpr ⟨fun other hother => ?_, h⟩
        rcases List.mem_cons.mp hother with rfl | hlater
        · exact hlt
        · exact TransCmp.lt_trans hlt (hfirst other hlater)
      · exact h
      · rename_i hgt
        refine List.pairwise_cons.mpr ⟨fun other hother => ?_, ih hrest⟩
        rcases mem_of_mem_insert hother with rfl | hlater
        · exact OrientedCmp.lt_of_gt hgt
        · exact hfirst other hlater

/-- The paths of a list, added one after the other, each in the spelling that it came in first. -/
def gather (paths : List Path) (set : PathSet) : PathSet :=
  paths.foldl (fun set path => insert path set) set

theorem ascending_gather {set : PathSet} (h : Ascending set) (paths : List Path) :
    Ascending (gather paths set) := by
  induction paths generalizing set with
  | nil => exact h
  | cons path rest ih => exact ih (ascending_insert h path)

/-- If no path comes in two spellings, each path that was added is there, and no other. -/
theorem mem_gather {paths : List Path} {set : PathSet}
    (hspelt : ∀ a ∈ paths ++ set, ∀ b ∈ paths ++ set, a.same b = true → a = b) {path : Path} :
    path ∈ gather paths set ↔ path ∈ paths ++ set := by
  induction paths generalizing set with
  | nil => rfl
  | cons first rest ih =>
      have hsubset : ∀ a ∈ rest ++ insert first set, a ∈ first :: rest ++ set := by
        intro a ha
        rcases List.mem_append.mp ha with hrest | hset
        · simp [hrest]
        · rcases mem_of_mem_insert hset with rfl | hold <;> simp [*]
      have hfirst : first ∈ insert first set := by
        obtain ⟨other, hother, hsame⟩ := exists_mem_insert first set
        have heq := hspelt first (by simp) other
          (hsubset other (List.mem_append_right rest hother)) hsame
        exact heq.symm ▸ hother
      refine (ih fun a ha b hb => hspelt a (hsubset a ha) b (hsubset b hb)).trans ⟨hsubset path, ?_⟩
      intro hmem
      simp only [List.cons_append, List.mem_cons, List.mem_append] at hmem ⊢
      rcases hmem with rfl | hrest | hset
      · exact .inr hfirst
      · exact .inl hrest
      · exact .inr (mem_insert_of_mem hset)

/-- A path is in a set, in whatever spelling. -/
def Holds (set : PathSet) (path : Path) : Prop :=
  ∃ spelt ∈ set, spelt.same path = true

theorem holds_insert_iff {first path : Path} {set : PathSet} :
    (insert first set).Holds path ↔ first.same path = true ∨ set.Holds path := by
  constructor
  · rintro ⟨spelt, hmem, hsame⟩
    rcases mem_of_mem_insert hmem with rfl | hset
    · exact .inl hsame
    · exact .inr ⟨spelt, hset, hsame⟩
  · rintro (hsame | ⟨spelt, hset, hsame⟩)
    · obtain ⟨spelt, hmem, hspelt⟩ := exists_mem_insert first set
      refine ⟨spelt, hmem, ?_⟩
      rw [Path.same, beq_iff_eq] at hspelt hsame ⊢
      rw [← hspelt, hsame]
    · exact ⟨spelt, mem_insert_of_mem hset, hsame⟩

/-- What is gathered is what was there and what is added. -/
theorem holds_gather_iff {paths : List Path} {set : PathSet} {path : Path} :
    (gather paths set).Holds path ↔
      (∃ added ∈ paths, added.same path = true) ∨ set.Holds path := by
  induction paths generalizing set with
  | nil => simp [gather]
  | cons first rest ih =>
      refine (@ih (insert first set)).trans ?_
      rw [holds_insert_iff]
      simp only [List.mem_cons, exists_eq_or_imp]
      rw [or_assoc, or_left_comm]

/-- If no path comes in two spellings, lists with the same paths make up the same set. -/
theorem gather_eq_of_mem_iff {paths others : List Path}
    (hspelt : ∀ a ∈ paths, ∀ b ∈ paths, a.same b = true → a = b)
    (h : ∀ path, path ∈ paths ↔ path ∈ others) : gather paths [] = gather others [] := by
  refine Ascending.eq_of_mem_iff (ascending_gather .nil paths) (ascending_gather .nil others) ?_
  intro path
  rw [mem_gather (by simpa using hspelt), mem_gather (by simpa [← h] using hspelt)]
  simpa using h path

/-!
## Sets of the last spelling
-/

/-- Replacing a path adds nothing else. -/
theorem mem_of_mem_replace {path other : Path} {set : PathSet} (h : other ∈ replace path set) :
    other = path ∨ other ∈ set := by
  induction set with
  | nil => exact .inl (List.mem_singleton.mp h)
  | cons first rest ih =>
      rw [replace] at h
      split at h
      · exact List.mem_cons.mp h
      · exact (List.mem_cons.mp h).imp_right (List.mem_cons_of_mem first)
      · rcases List.mem_cons.mp h with rfl | hrest
        · exact .inr List.mem_cons_self
        · exact (ih hrest).imp_right (List.mem_cons_of_mem first)

/-- A path that was added is there as it is spelt. -/
theorem mem_replace_self (path : Path) (set : PathSet) : path ∈ replace path set := by
  induction set with
  | nil => exact List.mem_singleton.mpr rfl
  | cons first rest ih =>
      rw [replace]
      split
      · exact List.mem_cons_self
      · exact List.mem_cons_self
      · exact List.mem_cons_of_mem first ih

/-- What is in a set stays there in some spelling. -/
theorem exists_mem_replace_of_mem {path other : Path} {set : PathSet} (h : other ∈ set) :
    ∃ spelt ∈ replace path set, other.same spelt = true := by
  have hself : other.same other = true := beq_self_eq_true _
  induction set with
  | nil => exact absurd h List.not_mem_nil
  | cons first rest ih =>
      rw [replace]
      split
      · exact ⟨other, List.mem_cons_of_mem path h, hself⟩
      · rename_i heq
        rcases List.mem_cons.mp h with rfl | hrest
        · refine ⟨path, List.mem_cons_self, Path.order_eq_eq_iff.mp ?_⟩
          exact OrientedCmp.eq_symm heq
        · exact ⟨other, List.mem_cons_of_mem path hrest, hself⟩
      · rcases List.mem_cons.mp h with rfl | hrest
        · exact ⟨other, List.mem_cons_self, hself⟩
        · obtain ⟨spelt, hmem, hsame⟩ := ih hrest
          exact ⟨spelt, List.mem_cons_of_mem first hmem, hsame⟩

theorem ascending_replace {set : PathSet} (h : Ascending set) (path : Path) :
    Ascending (replace path set) := by
  induction set with
  | nil => exact List.pairwise_singleton _ _
  | cons first rest ih =>
      obtain ⟨hfirst, hrest⟩ := List.pairwise_cons.mp h
      rw [replace]
      split
      · rename_i hlt
        refine List.pairwise_cons.mpr ⟨fun other hother => ?_, h⟩
        rcases List.mem_cons.mp hother with rfl | hlater
        · exact hlt
        · exact TransCmp.lt_trans hlt (hfirst other hlater)
      · rename_i heq
        exact List.pairwise_cons.mpr
          ⟨fun other hother => TransCmp.lt_of_eq_of_lt heq (hfirst other hother), hrest⟩
      · rename_i hgt
        refine List.pairwise_cons.mpr ⟨fun other hother => ?_, ih hrest⟩
        rcases mem_of_mem_replace hother with rfl | hlater
        · exact OrientedCmp.lt_of_gt hgt
        · exact hfirst other hlater

/-- A set is made of paths of a kind, and every path of the kind is there in some spelling. -/
structure Gathers (kind : Path → Prop) (set : PathSet) : Prop where
  ascending : Ascending set
  drawn : ∀ path ∈ set, kind path
  complete : ∀ path, kind path → ∃ spelt ∈ set, path.same spelt = true

theorem Gathers.of_iff {kind other : Path → Prop} {set : PathSet} (h : Gathers kind set)
    (hkind : ∀ path, kind path ↔ other path) : Gathers other set :=
  ⟨h.ascending, fun path hpath => (hkind path).mp (h.drawn path hpath),
    fun path hpath => h.complete path ((hkind path).mpr hpath)⟩

/-- The set of the paths of a list is made of them, and is in ascending order. -/
theorem gathers_ofList (paths : List Path) : Gathers (· ∈ paths) (ofList paths) := by
  unfold ofList
  induction paths using List.reverseRecOn with
  | nil => exact ⟨.nil, List.forall_mem_nil _, List.forall_mem_nil _⟩
  | append_singleton front path ih =>
      rw [List.foldl_concat]
      refine ⟨ascending_replace ih.ascending path, fun other hother => ?_, fun other hother => ?_⟩
      · rcases mem_of_mem_replace hother with rfl | hset
        · exact List.mem_append_right front List.mem_cons_self
        · exact List.mem_append_left _ (ih.drawn other hset)
      · rcases List.mem_append.mp hother with hfront | hlast
        · obtain ⟨spelt, hspelt, hsame⟩ := ih.complete other hfront
          obtain ⟨last, hlast, hstill⟩ := @exists_mem_replace_of_mem path spelt _ hspelt
          refine ⟨last, hlast, ?_⟩
          rw [Path.same, beq_iff_eq] at hsame hstill ⊢
          exact hsame.trans hstill
        · rw [List.mem_singleton.mp hlast]
          exact ⟨path, mem_replace_self path _, beq_self_eq_true _⟩

end PathSet

end Remedy
