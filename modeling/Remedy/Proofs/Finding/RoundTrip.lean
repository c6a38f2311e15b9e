import Remedy.Finding.Document
import Remedy.Proofs.Finding.Grouping
import Remedy.Proofs.Json.Values

/-!
# Documents are read as they were written

Findings that were read from a document are written as a document from which the same findings
are read: by the same rules in the same order, and with every field what it was.  This holds of
counts whose numbers are integers; doubles are not followed here.
-/

namespace Remedy

open Outcome
open Json (Source)

/-!
## Records
-/

namespace Json.Source

theorem lookup_map_ofJson (name : String) (fields : List (String × Json)) :
    (fields.map fun field => (field.1, ofJson field.2)).lookup name =
      (fields.lookup name).map ofJson := by
  induction fields with
  | nil => rfl
  | cons field rest ih =>
      rw [List.map_cons, List.lookup_cons, List.lookup_cons, ih]
      cases name == field.1 <;> rfl

/-- The fields of a record that was written as an object are found by their names. -/
theorem record?_ofJson {names : List String} {fields : List (String × Json)} {depth : Nat}
    (hdepth : depth ≠ 0) (hnodup : (fields.map (·.1)).Nodup) :
    (ofJson (.object fields)).record? names (depth + 1) =
      some (names.map fun name => (fields.lookup name).map ofJson, depth) := by
  have htrees : ofFields fields = (fields.map fun field => (field.1, ofJson field.2)).map
      fun field => (some field.1, field.2) := by
    rw [ofFields_eq_map, List.map_map]
    rfl
  have hnamed : (ofFields fields).mapM (fun field => field.1.map fun name => (name, field.2)) =
      some (fields.map fun field => (field.1, ofJson field.2)) := by
    rw [htrees]
    exact mapM_map_eq_some fun _ _ => rfl
  rw [ofJson, record?, if_neg hdepth, hnamed]
  simp only [Option.bind_eq_bind, Option.bind_some, lookup_map_ofJson, List.map_map]
  exact if_pos (hnodup.sublist List.filter_sublist)

/-- The fields of a record lie one level below it. -/
theorem depth_of_record? {names : List String} {source : Source} {depth inner : Nat}
    {found : List (Option Source)} (h : source.record? names depth = some (found, inner)) :
    depth = inner + 1 := by
  unfold record? at h
  split at h
  · split at h
    · cases h
    · cases h
      rfl
  · split at h
    · cases h
    · obtain ⟨named, -, hfound⟩ := Option.bind_eq_some_iff.mp h
      dsimp only at hfound
      split at hfound
      · cases hfound
        rfl
      · cases hfound
  · cases h

theorem le_largest_of_natural? {source : Source} {n : Nat} (h : source.natural? = some n) :
    n ≤ Numeral.largest := by
  unfold natural? at h
  split at h
  · split at h
    · rename_i hnumber
      cases h
      cases fits_of_number? hnumber 0 with
      | natural _ hvalue => exact hvalue
    · cases h
  · cases h

theorem natural?_ofJson {n : Nat} (h : n ≤ Numeral.largest) :
    (ofJson (.number (.natural n))).natural? = some n := by
  rw [ofJson, natural?, number?_numeral_natural h]

/-- Only what is written as null has the value null. -/
theorem eq_null_of_value? {source : Source} {depth : Nat} (h : source.value? depth = some .null) :
    source = .null := by
  rw [value?.eq_def] at h
  split at h
  · rfl
  · cases h
  · obtain ⟨_, -, hnumber⟩ := Option.map_eq_some_iff.mp h
    cases hnumber
  · obtain ⟨_, -, hstring⟩ := Option.map_eq_some_iff.mp h
    cases hstring
  · cases h
  · split at h
    · cases h
    · obtain ⟨_, -, hitems⟩ := Option.map_eq_some_iff.mp h
      cases hitems
  · split at h
    · cases h
    · obtain ⟨_, -, hfields⟩ := Option.map_eq_some_iff.mp h
      cases hfields

/-- A field that is there and not null is read as what it is. -/
theorem optional?_ofJson {α : Type} {read? : Source → Option α} {json : Json} {a : α}
    (hnull : json ≠ .null) (hread : read? (ofJson json) = some a) :
    optional? read? (some (ofJson json)) = some (some a) := by
  cases json with
  | null => exact absurd rfl hnull
  | bool value => exact congrArg (Option.map some) hread
  | number value => exact congrArg (Option.map some) hread
  | string value => exact congrArg (Option.map some) hread
  | array items => exact congrArg (Option.map some) hread
  | object fields => exact congrArg (Option.map some) hread

/-- A field that may be missing has been read from a tree that is not null. -/
theorem exists_of_optional? {α : Type} {read? : Source → Option α} {source? : Option Source}
    {a : α} (h : optional? read? source? = some (some a)) :
    ∃ source, source ≠ .null ∧ read? source = some a := by
  unfold optional? at h
  split at h
  · cases h
  · cases h
  · rename_i source hnull
    obtain ⟨value, hvalue, heq⟩ := Option.map_eq_some_iff.mp h
    obtain rfl := Option.some.inj heq
    exact ⟨source, fun heq => hnull heq, hvalue⟩

end Json.Source

/-!
## Positions
-/

namespace Position

/-- The numbers of a position have 64 bits. -/
structure Fits (position : Position) : Prop where
  line : position.line ≤ Json.Numeral.largest
  col : position.col ≤ Json.Numeral.largest
  offset : position.offset ≤ Json.Numeral.largest

theorem fits_of_ofSource? {depth : Nat} {source : Source} {position : Position}
    (h : ofSource? depth source = some position) : Fits position := by
  unfold ofSource? at h
  split at h
  · obtain ⟨line, hline, h⟩ := Option.bind_eq_some_iff.mp h
    obtain ⟨col, hcol, h⟩ := Option.bind_eq_some_iff.mp h
    obtain ⟨offset, hoffset, h⟩ := Option.bind_eq_some_iff.mp h
    obtain rfl := Option.some.inj h
    refine ⟨Source.le_largest_of_natural? hline, Source.le_largest_of_natural? hcol, ?_⟩
    unfold Source.defaulting? at hoffset
    split at hoffset
    · obtain rfl := Option.some.inj hoffset
      exact Nat.zero_le _
    · exact Source.le_largest_of_natural? hoffset
  · cases h

theorem ofSource?_toJson {depth : Nat} {position : Position} (hdepth : depth ≠ 0)
    (h : Fits position) :
    ofSource? (depth + 1) (Source.ofJson position.toJson) = some position := by
  have hread : ofSource? (depth + 1) (Source.ofJson position.toJson) = do
      return ⟨← (Source.ofJson (.number (.natural position.line))).natural?,
        ← (Source.ofJson (.number (.natural position.col))).natural?,
        ← (Source.ofJson (.number (.natural position.offset))).natural?⟩ := by
    unfold ofSource? toJson
    rw [Source.record?_ofJson hdepth (by simp)]
    rfl
  rw [hread, Source.natural?_ofJson h.line, Source.natural?_ofJson h.col,
    Source.natural?_ofJson h.offset]
  rfl

end Position

/-!
## Substitutions
-/

namespace Substitution

/-- The count of a substitution, if there is one, is not null, and may lie at a depth. -/
def Fits (depth : Nat) (substitution : Substitution) : Prop :=
  ∀ count, substitution.count? = some count → count ≠ .null ∧ Json.Fits depth count

/-- The numbers in the count are integers. -/
def Exact (substitution : Substitution) : Prop :=
  ∀ count ∈ substitution.count?, Json.Exact count

theorem fits_of_ofSource? {depth : Nat} {source : Source} {substitution : Substitution}
    (h : ofSource? (depth + 1) source = some substitution) : Fits depth substitution := by
  unfold ofSource? at h
  split at h
  · rename_i hrecord
    obtain rfl := Nat.succ.inj (Source.depth_of_record? hrecord)
    obtain ⟨pattern?, -, h⟩ := Option.bind_eq_some_iff.mp h
    obtain ⟨replacement?, -, h⟩ := Option.bind_eq_some_iff.mp h
    obtain ⟨count?, hcount, h⟩ := Option.bind_eq_some_iff.mp h
    obtain rfl := Option.some.inj h
    rintro count rfl
    obtain ⟨tree, hnull, hvalue⟩ := Source.exists_of_optional? hcount
    refine ⟨?_, Json.fits_of_value? hvalue⟩
    rintro rfl
    exact hnull (Source.eq_null_of_value? hvalue)
  · cases h

theorem optional?_count {depth : Nat} {substitution : Substitution} (h : Fits depth substitution)
    (hexact : Exact substitution) :
    Source.optional? (Source.value? depth) (substitution.count?.map Source.ofJson) =
      some substitution.count? := by
  cases hcount : substitution.count? with
  | none => rfl
  | some count =>
      obtain ⟨hnull, hfits⟩ := h count hcount
      exact Source.optional?_ofJson hnull (Json.value?_ofJson (hexact count hcount) hfits)

theorem ofSource?_toJson {depth : Nat} {substitution : Substitution} (hdepth : depth ≠ 0)
    (h : Fits depth substitution) (hexact : Exact substitution) :
    ofSource? (depth + 1) (Source.ofJson substitution.toJson) = some substitution := by
  have hcount := optional?_count h hexact
  obtain ⟨pattern?, replacement?, count?⟩ := substitution
  dsimp only at hcount
  have hread : ofSource? (depth + 1)
      (Source.ofJson (Substitution.mk pattern? replacement? count?).toJson) = do
        return ⟨pattern?, replacement?,
          ← Source.optional? (Source.value? depth) (count?.map Source.ofJson)⟩ := by
    unfold ofSource? toJson
    rw [Source.record?_ofJson hdepth]
    · cases pattern? <;> cases replacement? <;> cases count? <;> rfl
    · cases pattern? <;> cases replacement? <;> cases count? <;> simp
  rw [hread, hcount]
  rfl

theorem exact_toJson {substitution : Substitution} (h : Exact substitution) :
    Json.Exact substitution.toJson := by
  refine .object fun field hfield => ?_
  simp only [List.mem_append, Option.mem_toList, Option.map_eq_some_iff] at hfield
  rcases hfield with (⟨pattern, -, rfl⟩ | ⟨replacement, -, rfl⟩) | ⟨count, hcount, rfl⟩
  · exact .string pattern
  · exact .string replacement
  · exact h count hcount

end Substitution

/-!
## Findings
-/

namespace Finding

/-- The numbers of a finding have 64 bits, and its count may lie at a depth. -/
structure Fits (depth : Nat) (finding : Finding) : Prop where
  start : finding.start.Fits
  stop : finding.stop.Fits
  substitution : ∀ substitution, finding.substitution? = some substitution →
    substitution.Fits depth

/-- The numbers in the count of a finding, if it has one, are integers. -/
def Exact (finding : Finding) : Prop :=
  ∀ substitution ∈ finding.substitution?, substitution.Exact

instance (finding : Finding) : Decidable finding.Exact :=
  inferInstanceAs (Decidable (∀ substitution ∈ finding.substitution?,
    ∀ count ∈ substitution.count?, Json.Exact count))

theorem Extra.fits_of_ofSource? {depth : Nat} {source : Source} {extra : Extra}
    (h : ofSource? (depth + 2) source = some extra) :
    ∀ substitution, extra.substitution? = some substitution → substitution.Fits depth := by
  unfold ofSource? at h
  split at h
  · rename_i hrecord
    obtain rfl := Nat.succ.inj (Source.depth_of_record? hrecord)
    obtain ⟨message, -, h⟩ := Option.bind_eq_some_iff.mp h
    obtain ⟨fix?, -, h⟩ := Option.bind_eq_some_iff.mp h
    obtain ⟨substitution?, hsubstitution, h⟩ := Option.bind_eq_some_iff.mp h
    obtain rfl := Option.some.inj h
    rintro substitution rfl
    obtain ⟨tree, -, hread⟩ := Source.exists_of_optional? hsubstitution
    exact Substitution.fits_of_ofSource? hread
  · cases h

theorem fits_of_ofSource? {depth : Nat} {source : Source} {finding : Finding}
    (h : ofSource? (depth + 3) source = some finding) : Fits depth finding := by
  unfold ofSource? at h
  split at h
  · rename_i hrecord
    obtain rfl := Nat.succ.inj (Source.depth_of_record? hrecord)
    obtain ⟨rule, -, h⟩ := Option.bind_eq_some_iff.mp h
    obtain ⟨path, -, h⟩ := Option.bind_eq_some_iff.mp h
    obtain ⟨start, hstart, h⟩ := Option.bind_eq_some_iff.mp h
    obtain ⟨stop, hstop, h⟩ := Option.bind_eq_some_iff.mp h
    obtain ⟨extra, hextra, h⟩ := Option.bind_eq_some_iff.mp h
    obtain rfl := Option.some.inj h
    refine ⟨Position.fits_of_ofSource? hstart, Position.fits_of_ofSource? hstop, ?_⟩
    unfold Source.defaulting? at hextra
    split at hextra
    · obtain rfl := Option.some.inj hextra
      rintro substitution ⟨⟩
    · exact Extra.fits_of_ofSource? hextra
  · cases h

/-- What a finding says besides its rule and its place. -/
def extra (finding : Finding) : Extra :=
  ⟨finding.message, finding.fix?, finding.substitution?⟩

/-- The record of that. -/
def extraJson (finding : Finding) : Json :=
  .object <|
    ("message", .string finding.message) ::
    ((finding.fix?.map fun s => ("fix", Json.string s)).toList ++
    (finding.substitution?.map fun s => ("fix_regex", s.toJson)).toList)

theorem optional?_substitution {depth : Nat} {finding : Finding} (hdepth : depth ≠ 0)
    (h : Fits depth finding) (hexact : finding.Exact) :
    Source.optional? (Substitution.ofSource? (depth + 1))
        (finding.substitution?.map fun substitution => Source.ofJson substitution.toJson) =
      some finding.substitution? := by
  cases hsubstitution : finding.substitution? with
  | none => rfl
  | some substitution =>
      refine Source.optional?_ofJson (fun hnull => nomatch hnull) ?_
      exact Substitution.ofSource?_toJson hdepth (h.substitution _ hsubstitution)
        (hexact _ hsubstitution)

theorem ofSource?_extraJson {depth : Nat} {finding : Finding} (hdepth : depth ≠ 0)
    (h : Fits depth finding) (hexact : finding.Exact) :
    Extra.ofSource? (depth + 2) (Source.ofJson finding.extraJson) = some finding.extra := by
  have hread : Extra.ofSource? (depth + 2) (Source.ofJson finding.extraJson) = do
      return ⟨finding.message, finding.fix?,
        ← Source.optional? (Substitution.ofSource? (depth + 1))
          (finding.substitution?.map fun substitution => Source.ofJson substitution.toJson)⟩ := by
    unfold Extra.ofSource? extraJson
    rw [Source.record?_ofJson (Nat.succ_ne_zero depth)]
    · cases finding.fix? <;> cases finding.substitution? <;> rfl
    · cases finding.fix? <;> cases finding.substitution? <;> simp
  rw [hread, optional?_substitution hdepth h hexact]
  rfl

/-- A finding is read as it was written. -/
theorem ofSource?_toJson {depth : Nat} {finding : Finding} (hdepth : depth ≠ 0)
    (h : Fits depth finding) (hexact : finding.Exact) :
    ofSource? (depth + 3) (Source.ofJson finding.toJson) = some finding := by
  have hread : ofSource? (depth + 3) (Source.ofJson finding.toJson) = do
      let start ← Position.ofSource? (depth + 2) (Source.ofJson finding.start.toJson)
      let stop ← Position.ofSource? (depth + 2) (Source.ofJson finding.stop.toJson)
      let extra ← Extra.ofSource? (depth + 2) (Source.ofJson finding.extraJson)
      return ⟨finding.rule, finding.path, start, stop, extra.message, extra.fix?,
        extra.substitution?⟩ := by
    unfold ofSource? toJson
    rw [Source.record?_ofJson (Nat.succ_ne_zero (depth + 1)) (by simp)]
    rfl
  rw [hread, Position.ofSource?_toJson (Nat.succ_ne_zero depth) h.start,
    Position.ofSource?_toJson (Nat.succ_ne_zero depth) h.stop,
    ofSource?_extraJson hdepth h hexact]
  rfl

theorem exact_toJson {finding : Finding} (h : finding.Exact) : Json.Exact finding.toJson := by
  have hposition : ∀ position : Position, Json.Exact position.toJson := by
    intro position
    refine .object fun field hfield => ?_
    simp only [List.mem_cons, List.not_mem_nil, or_false] at hfield
    rcases hfield with rfl | rfl | rfl <;> exact .natural _
  have hextra : Json.Exact finding.extraJson := by
    refine .object fun field hfield => ?_
    simp only [List.mem_cons, List.mem_append, Option.mem_toList, Option.map_eq_some_iff] at hfield
    rcases hfield with rfl | ⟨fix, -, rfl⟩ | ⟨substitution, hsubstitution, rfl⟩
    · exact .string _
    · exact .string fix
    · exact Substitution.exact_toJson (h substitution hsubstitution)
  refine .object fun field hfield => ?_
  simp only [List.mem_cons, List.not_mem_nil, or_false] at hfield
  rcases hfield with rfl | rfl | rfl | rfl | rfl
  · exact .string _
  · exact .string _
  · exact hposition _
  · exact hposition _
  · exact hextra

end Finding

/-!
## Documents
-/

namespace Findings

/-- The depth that a document leaves to a count. -/
def countDepth : Nat := 123

/-- What is read from a document fits. -/
theorem fits_of_list? {text : String} {listed : List Finding} (h : list? text = some listed) :
    ∀ finding ∈ listed, finding.Fits countDepth := by
  obtain ⟨source, -, hread⟩ := Option.bind_eq_some_iff.mp h
  unfold listOfSource? at hread
  split at hread
  · rename_i depth hrecord
    obtain rfl : depth = 127 := (Nat.succ.inj (Source.depth_of_record? hrecord)).symm
    dsimp only at hread
    unfold Source.defaulting? at hread
    split at hread
    · obtain rfl := Option.some.inj hread
      exact fun _ hfinding => absurd hfinding List.not_mem_nil
    · rename_i results
      cases results with
      | array items =>
          intro finding hfinding
          obtain ⟨tree, -, htree⟩ := exists_of_mem_mapM hread hfinding
          exact Finding.fits_of_ofSource? htree
      | _ => cases hread
  · cases hread

/-- The findings of a document that was written are read from it. -/
theorem list?_write {findings : Findings}
    (hfits : ∀ finding ∈ findings.toList, finding.Fits countDepth)
    (hexact : ∀ finding ∈ findings.toList, finding.Exact) :
    list? findings.write = some findings.toList := by
  have htext : Json.Exact findings.toJson := by
    refine .object fun field hfield => ?_
    obtain rfl := List.mem_singleton.mp hfield
    refine .array fun item hitem => ?_
    obtain ⟨finding, hfinding, rfl⟩ := List.mem_map.mp hitem
    exact Finding.exact_toJson (hexact finding hfinding)
  have hitems : (findings.toList.map fun finding => Source.ofJson finding.toJson).mapM
      (Finding.ofSource? (countDepth + 3)) = some findings.toList :=
    mapM_map_eq_some fun finding hfinding => Finding.ofSource?_toJson (by decide)
      (hfits finding hfinding) (hexact finding hfinding)
  have hread : listOfSource? (Source.ofJson findings.toJson) =
      (Source.ofItems (findings.toList.map Finding.toJson)).mapM
        (Finding.ofSource? (countDepth + 3)) := by
    unfold listOfSource? toJson
    rw [show documentDepth = 127 + 1 from rfl, Source.record?_ofJson (by decide) (by simp)]
    rfl
  unfold list? write
  rw [Source.parse?_pretty htext, Option.bind_some, hread, Source.ofItems_eq_map, List.map_map]
  exact hitems

/--
Findings that were read from a document are read again from the document that is written of them,
provided that no count has a double in it.
-/
theorem parse?_write {text : String} {findings : Findings} (h : parse? text = some findings)
    (hexact : ∀ finding ∈ findings.toList, finding.Exact) :
    parse? findings.write = some findings := by
  obtain ⟨listed, hlisted, rfl⟩ := Option.map_eq_some_iff.mp h
  have hfits : ∀ finding ∈ (ofList listed).toList, finding.Fits countDepth :=
    fun finding hfinding => fits_of_list? hlisted finding (mem_of_mem_toList_ofList hfinding)
  unfold parse?
  rw [list?_write hfits hexact, Option.map_some, ofList_toList_ofList]

/-- Records as arrays and as an object, for two rules in turn, with a count that is no number. -/
def mixed : String :=
  "\x7b\"results\":[" ++
    "[\"r\",\"a\",[1,2],[1,3],\x7b\"fix_regex\":[null,\"\",[\x7b\"k\":-2,\"j\":\"\"\x7d]]\x7d]," ++
    "\x7b\"check_id\":\"s\",\"path\":\"a\",\"start\":[1,2],\"end\":[1,3]\x7d," ++
    "[\"r\",\"b\",[1,2],[1,3,7]]]\x7d"

theorem parse?_write_mixed : ∃ findings, parse? mixed = some findings ∧
    findings.groups.map (fun group => (group.1, group.2.length)) = [("r", 2), ("s", 1)] ∧
    parse? findings.write = some findings := by
  have hread : ((parse? mixed).map fun findings =>
      decide (findings.groups.map (fun group => (group.1, group.2.length)) = [("r", 2), ("s", 1)] ∧
        ∀ finding ∈ findings.toList, finding.Exact)) = some true := by
    decide +kernel
  obtain ⟨findings, hfindings, hchecked⟩ := Option.map_eq_some_iff.mp hread
  obtain ⟨hgroups, hexact⟩ := of_decide_eq_true hchecked
  exact ⟨findings, hfindings, hgroups, parse?_write hfindings hexact⟩

end Findings

end Remedy
