import Remedy.Proofs.Json.Recognition
import Remedy.Proofs.Outcome

/-!
# Values and their trees

A value that was read from a tree fits: its integers have 64 bits, the fields of its objects are
in the order of their keys, and it is no deeper than was allowed.  The tree of a value that fits
has that value.
-/

namespace Remedy.Json

open Outcome

/-!
## Fields in order
-/

/-- Fields are in the order of their keys, and no key comes twice. -/
def Sorted (fields : List (String × Json)) : Prop :=
  fields.Pairwise fun a b => compare a.1 b.1 = .lt

theorem mem_insertField {key : String} {value : Json} {fields : List (String × Json)}
    {field : String × Json} (h : field ∈ insertField key value fields) :
    field = (key, value) ∨ field ∈ fields := by
  induction fields with
  | nil => exact .inl (List.mem_singleton.mp h)
  | cons first rest ih =>
      rw [insertField] at h
      split at h
      · exact List.mem_cons.mp h
      · exact (List.mem_cons.mp h).imp_right (List.mem_cons_of_mem first)
      · rcases List.mem_cons.mp h with rfl | hrest
        · exact .inr List.mem_cons_self
        · exact (ih hrest).imp_right (List.mem_cons_of_mem first)

theorem Sorted.insertField {fields : List (String × Json)} (h : Sorted fields) (key : String)
    (value : Json) : Sorted (insertField key value fields) := by
  induction fields with
  | nil => exact List.pairwise_singleton _ _
  | cons first rest ih =>
      obtain ⟨hfirst, hrest⟩ := List.pairwise_cons.mp h
      rw [Json.insertField]
      split
      · rename_i hlt
        refine List.pairwise_cons.mpr ⟨fun other hother => ?_, h⟩
        rcases List.mem_cons.mp hother with rfl | hlater
        · exact hlt
        · exact Std.TransCmp.lt_trans hlt (hfirst other hlater)
      · rename_i heq
        obtain rfl := Std.LawfulEqCmp.eq_of_compare heq
        exact List.pairwise_cons.mpr ⟨hfirst, hrest⟩
      · rename_i hgt
        refine List.pairwise_cons.mpr ⟨fun other hother => ?_, ih hrest⟩
        rcases mem_insertField hother with rfl | hlater
        · exact Std.OrientedCmp.lt_of_gt hgt
        · exact hfirst other hlater

/-- A field behind all others is put at the end. -/
theorem insertField_of_lt {key : String} {value : Json} {fields : List (String × Json)}
    (h : ∀ field ∈ fields, compare field.1 key = .lt) :
    insertField key value fields = fields ++ [(key, value)] := by
  induction fields with
  | nil => rfl
  | cons first rest ih =>
      obtain ⟨hfirst, hrest⟩ := List.forall_mem_cons.mp h
      have hgt : compare key first.1 = .gt := Std.OrientedCmp.gt_of_lt hfirst
      rw [insertField, hgt, ih hrest]
      rfl

/-- Sorting yields fields in order, all of which were there. -/
theorem sorted_sortFields (fields : List (String × Json)) :
    Sorted (sortFields fields) ∧ ∀ field ∈ sortFields fields, field ∈ fields := by
  induction fields using List.reverseRecOn with
  | nil => exact ⟨.nil, fun _ h => h⟩
  | append_singleton front last ih =>
      obtain ⟨hsorted, hmem⟩ := ih
      unfold sortFields at hsorted hmem ⊢
      rw [List.foldl_append]
      refine ⟨hsorted.insertField _ _, fun field hfield => ?_⟩
      rcases mem_insertField hfield with rfl | hold
      · exact List.mem_append_right front List.mem_cons_self
      · exact List.mem_append_left [last] (hmem field hold)

/-- Fields that are in order stay as they are. -/
theorem Sorted.sortFields_eq {fields : List (String × Json)} (h : Sorted fields) :
    sortFields fields = fields := by
  induction fields using List.reverseRecOn with
  | nil => rfl
  | append_singleton front last ih =>
      obtain ⟨hfront, -, hlast⟩ := List.pairwise_append.mp h
      have hfold := ih hfront
      unfold sortFields at hfold ⊢
      rw [List.foldl_append, hfold]
      exact insertField_of_lt fun field hfield => hlast field hfield last List.mem_cons_self

/-!
## What has been read
-/

/-- A value that can be read where arrays and objects may lie `depth - 1` deep. -/
inductive Fits : Nat → Json → Prop where
  | null (depth : Nat) : Fits depth .null
  | bool (depth : Nat) (value : Bool) : Fits depth (.bool value)
  | natural (depth : Nat) {value : Nat} (hvalue : value ≤ Numeral.largest) :
      Fits depth (.number (.natural value))
  | negative (depth : Nat) {value : Nat} (hpos : value ≠ 0) (hvalue : value ≤ Nat.pow 2 63) :
      Fits depth (.number (.negative value))
  | double (depth : Nat) (bits : UInt64) : Fits depth (.number (.double bits))
  | string (depth : Nat) (value : String) : Fits depth (.string value)
  | array {depth : Nat} {items : List Json} (hdepth : depth ≠ 0)
      (hitems : ∀ item ∈ items, Fits depth item) : Fits (depth + 1) (.array items)
  | object {depth : Nat} {fields : List (String × Json)} (hdepth : depth ≠ 0)
      (hsorted : Sorted fields) (hfields : ∀ field ∈ fields, Fits depth field.2) :
      Fits (depth + 1) (.object fields)

theorem fits_of_number? {numeral : Numeral} {number : Number} (h : numeral.number? = some number)
    (depth : Nat) : Fits depth (.number number) := by
  unfold Numeral.number? at h
  dsimp only at h
  split at h
  · rename_i hnatural
    obtain rfl := Option.some.inj h
    exact .natural depth hnatural.2.2
  · split at h
    · rename_i hnegative
      obtain rfl := Option.some.inj h
      exact .negative depth hnegative.2.2.1 hnegative.2.2.2
    · obtain ⟨value, -, rfl⟩ := Option.map_eq_some_iff.mp h
      exact .double depth _

/-- What is read from a tree fits. -/
theorem fits_of_value? {depth : Nat} {source : Source} {json : Json}
    (h : source.value? depth = some json) : Fits depth json := by
  induction depth using Nat.strongRecOn generalizing source json with
  | ind depth ih =>
      rw [Source.value?.eq_def] at h
      split at h
      · obtain rfl := Option.some.inj h
        exact .null _
      · obtain rfl := Option.some.inj h
        exact .bool _ _
      · obtain ⟨number, hnumber, rfl⟩ := Option.map_eq_some_iff.mp h
        exact fits_of_number? hnumber _
      · obtain ⟨value, -, rfl⟩ := Option.map_eq_some_iff.mp h
        exact .string _ value
      · cases h
      · rename_i depth items
        split at h
        · cases h
        · rename_i hdepth
          obtain ⟨found, hfound, rfl⟩ := Option.map_eq_some_iff.mp h
          refine .array hdepth fun item hitem => ?_
          obtain ⟨source, -, hsource⟩ := exists_of_mem_mapM hfound hitem
          exact ih depth (Nat.lt_succ_self depth) hsource
      · rename_i depth fields
        split at h
        · cases h
        · rename_i hdepth
          obtain ⟨found, hfound, rfl⟩ := Option.map_eq_some_iff.mp h
          obtain ⟨hsorted, hmem⟩ := sorted_sortFields found
          refine .object hdepth hsorted fun field hfield => ?_
          obtain ⟨source, -, hsource⟩ := exists_of_mem_mapM hfound (hmem field hfield)
          obtain ⟨key, -, hvalue⟩ := Option.bind_eq_some_iff.mp hsource
          obtain ⟨value, hread, heq⟩ := Option.bind_eq_some_iff.mp hvalue
          obtain rfl := Option.some.inj heq
          exact ih depth (Nat.lt_succ_self depth) hread

/-!
## What can be read again
-/

theorem foldl_toDigits (n : Nat) :
    (Nat.toDigits 10 n).foldl (fun n d => n * 10 + (d.toNat - '0'.toNat)) 0 = n := by
  conv_rhs => rw [← Nat.ofDigitChars_toDigits (b := 10) (n := n) (by decide) (by decide)]
  rw [Nat.ofDigitChars_eq_foldl]
  simp only [Nat.mul_comm]

/-- An integer of 64 bits is what its digits say. -/
theorem number?_numeral_natural {value : Nat} (h : value ≤ Numeral.largest) :
    (Number.natural value).numeral.number? = some (.natural value) := by
  unfold Number.numeral Numeral.number?
  simp only [foldl_toDigits]
  rw [if_pos ⟨⟨trivial, trivial⟩, trivial, h⟩]

theorem number?_numeral_negative {value : Nat} (hpos : value ≠ 0) (h : value ≤ Nat.pow 2 63) :
    (Number.negative value).numeral.number? = some (.negative value) := by
  unfold Number.numeral Numeral.number?
  simp only [foldl_toDigits]
  rw [if_neg (fun hnatural => nomatch hnatural.2.1), if_pos ⟨⟨trivial, trivial⟩, trivial, hpos, h⟩]

theorem Source.ofItems_eq_map (items : List Json) : ofItems items = items.map ofJson := by
  induction items with
  | nil => rfl
  | cons item rest ih => rw [ofItems, ih, List.map_cons]

theorem Source.ofFields_eq_map (fields : List (String × Json)) :
    ofFields fields = fields.map fun field => (some field.1, ofJson field.2) := by
  induction fields with
  | nil => rfl
  | cons field rest ih => rw [ofFields, ih, List.map_cons]

/-- The tree of a value that fits has that value, if its numbers are integers. -/
theorem value?_ofJson {depth : Nat} {json : Json} (hexact : Exact json) (hfits : Fits depth json) :
    (Source.ofJson json).value? depth = some json := by
  induction hfits with
  | null depth => rw [Source.ofJson, Source.value?]
  | bool depth value => rw [Source.ofJson, Source.value?]
  | natural depth hvalue =>
      rw [Source.ofJson, Source.value?, number?_numeral_natural hvalue]
      rfl
  | negative depth hpos hvalue =>
      rw [Source.ofJson, Source.value?, number?_numeral_negative hpos hvalue]
      rfl
  | double depth bits => cases hexact
  | string depth value =>
      rw [Source.ofJson, Source.value?]
      rfl
  | @array depth items hdepth _ ih =>
      cases hexact with
      | array hitems =>
          have hread := mapM_map_eq_some fun item hitem => ih item hitem (hitems item hitem)
          rw [Source.ofJson, Source.value?, if_neg hdepth, Source.ofItems_eq_map, hread]
          rfl
  | @object depth fields hdepth hsorted _ ih =>
      cases hexact with
      | object hfields =>
          rw [Source.ofJson, Source.value?, if_neg hdepth, Source.ofFields_eq_map]
          dsimp only
          rw [mapM_map_eq_some]
          · rw [Option.map_some, hsorted.sortFields_eq]
          · intro field hfield
            rw [ih field hfield (hfields field hfield)]
            rfl

end Remedy.Json
