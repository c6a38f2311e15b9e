import Mathlib.Data.List.DropRight
import Remedy.Proofs.Json.Scanning

/-!
# Recognising what was written

The text of a value over several lines is recognised as the tree of that value, whatever follows
it, if all numbers in it are integers.
-/

namespace Remedy.Json

/-- The digits that an integer is written in; a double is not an integer. -/
def Number.numeral : Number → Numeral
  | .natural value => ⟨false, Nat.toDigits 10 value, [], none⟩
  | .negative value => ⟨true, Nat.toDigits 10 value, [], none⟩
  | .double _ => ⟨false, [], [], none⟩

/-- A value in which all numbers are integers. -/
inductive Exact : Json → Prop where
  | null : Exact .null
  | bool (value : Bool) : Exact (.bool value)
  | natural (value : Nat) : Exact (.number (.natural value))
  | negative (value : Nat) : Exact (.number (.negative value))
  | string (value : String) : Exact (.string value)
  | array {items : List Json} (hitems : ∀ item ∈ items, Exact item) : Exact (.array items)
  | object {fields : List (String × Json)} (hfields : ∀ field ∈ fields, Exact field.2) :
      Exact (.object fields)

mutual

/-- Whether all numbers in a value are integers. -/
def isExact : Json → Bool
  | .number (.double _) => false
  | .array items => areExact items
  | .object fields => areExactFields fields
  | _ => true

/-- Whether all numbers in some items are integers. -/
def areExact : List Json → Bool
  | [] => true
  | item :: rest => isExact item && areExact rest

/-- Whether all numbers in some fields are integers. -/
def areExactFields : List (String × Json) → Bool
  | [] => true
  | (_, item) :: rest => isExact item && areExactFields rest

end

theorem areExact_iff {items : List Json} :
    areExact items = true ↔ ∀ item ∈ items, isExact item = true := by
  induction items with
  | nil => simp [areExact]
  | cons item rest ih => simp [areExact, ih]

theorem areExactFields_iff {fields : List (String × Json)} :
    areExactFields fields = true ↔ ∀ field ∈ fields, isExact field.2 = true := by
  induction fields with
  | nil => simp [areExactFields]
  | cons field rest ih => simp [areExactFields, ih]

theorem Exact.isExact {json : Json} (h : Exact json) : isExact json = true := by
  induction h with
  | array _ ih => exact areExact_iff.mpr ih
  | object _ ih => exact areExactFields_iff.mpr ih
  | _ => rfl

theorem exact_of_isExact : ∀ {json : Json}, isExact json = true → Exact json
  | .null, _ => .null
  | .bool value, _ => .bool value
  | .number (.natural value), _ => .natural value
  | .number (.negative value), _ => .negative value
  | .string value, _ => .string value
  | .array items, h =>
      have hitems := areExact_iff.mp h
      .array fun item hitem => exact_of_isExact (hitems item hitem)
  | .object fields, h =>
      have hfields := areExactFields_iff.mp h
      .object fun field hfield => exact_of_isExact (hfields field hfield)
termination_by json => sizeOf json
decreasing_by
  · have hsize := List.sizeOf_lt_of_mem hitem
    simp only [array.sizeOf_spec]
    omega
  · have hsize := List.sizeOf_lt_of_mem hfield
    obtain ⟨key, item⟩ := field
    simp only [object.sizeOf_spec, Prod.mk.sizeOf_spec] at hsize ⊢
    omega

instance (json : Json) : Decidable (Exact json) :=
  decidable_of_iff (isExact json = true) ⟨exact_of_isExact, Exact.isExact⟩

namespace Source

mutual

/-- The tree of a value. -/
def ofJson : Json → Source
  | .null => .null
  | .bool value => .bool value
  | .number value => .number value.numeral
  | .string value => .string (some value)
  | .array items => .array (ofItems items)
  | .object fields => .object (ofFields fields)

/-- The trees of some items. -/
def ofItems : List Json → List Source
  | [] => []
  | item :: rest => ofJson item :: ofItems rest

/-- The trees of some fields. -/
def ofFields : List (String × Json) → List (Option String × Source)
  | [] => []
  | (key, item) :: rest => (some key, ofJson item) :: ofFields rest

end

/-!
## Blanks
-/

theorem skipBlanks_newLine (level : Nat) (text : List Char) :
    skipBlanks (newLine level ++ text) = skipBlanks text := by
  unfold skipBlanks newLine
  rw [List.dropWhile_append_of_pos]
  intro c hc
  rcases List.mem_cons.mp hc with rfl | hblank
  · rfl
  · rw [List.eq_of_mem_replicate hblank]
    rfl

theorem skipBlanks_blank (text : List Char) : skipBlanks (' ' :: text) = skipBlanks text := rfl

theorem skipBlanks_skipBlanks (text : List Char) :
    skipBlanks (skipBlanks text) = skipBlanks text := by
  unfold skipBlanks
  exact List.dropWhile_idempotent _ _

/-- It does not matter whether blanks are skipped in front of a value, -/
theorem value_of_skipBlanks_eq {text other : List Char} (h : skipBlanks text = skipBlanks other)
    (fuel : Nat) : value fuel text = value fuel other := by
  cases fuel with
  | zero => rfl
  | succ fuel => rw [value, value, h]

/-- in front of the items of an array -/
theorem items_of_skipBlanks_eq {text other : List Char} (h : skipBlanks text = skipBlanks other)
    (fuel : Nat) : items fuel text = items fuel other := by
  cases fuel with
  | zero => rfl
  | succ fuel => rw [items, items, value_of_skipBlanks_eq h]

/-- and in front of the fields of an object. -/
theorem fields_of_skipBlanks_eq {text other : List Char} (h : skipBlanks text = skipBlanks other)
    (fuel : Nat) : fields fuel text = fields fuel other := by
  cases fuel with
  | zero => rfl
  | succ fuel => rw [fields, fields, h]

/-!
## Values
-/

/-- A text that begins with neither a blank nor the end of an array. -/
structure Begins (text : List Char) : Prop where
  skip : skipBlanks text = text
  head?_ne : text.head? ≠ some ']'

theorem begins_of_isDigit {c : Char} (h : c.isDigit = true) (text : List Char) :
    Begins (c :: text) := by
  have hne : ∀ other : Char, other.isDigit = false → c ≠ other := by
    rintro other hother rfl
    rw [h] at hother
    cases hother
  constructor
  · unfold skipBlanks
    rw [List.dropWhile_cons_of_neg]
    simp [hne]
  · exact fun heq => hne ']' rfl (Option.some.inj heq)

theorem value_of_isDigit {c : Char} (h : c.isDigit = true) (fuel : Nat) (text : List Char) :
    value (fuel + 1) (c :: text) =
      (numeral? (c :: text)).map fun (n, rest) => (.number n, rest) := by
  have hne : ∀ {other : Char} {rest}, c :: text = other :: rest → other.isDigit = true := by
    rintro other rest heq
    rwa [← (List.cons.inj heq).1]
  rw [value, (begins_of_isDigit h text).skip]
  split
  case h_7 => rfl
  all_goals
    rename_i heq
    cases hne heq

theorem value_minus (fuel : Nat) (text : List Char) :
    value (fuel + 1) ('-' :: text) =
      (numeral? ('-' :: text)).map fun (n, rest) => (.number n, rest) := rfl

theorem value_quote (fuel : Nat) (text : List Char) :
    value (fuel + 1) ('"' :: text) =
      (string? text).map fun (s, rest) => (.string s, rest) := rfl

theorem value_open_bracket (fuel : Nat) (text : List Char) :
    value (fuel + 1) ('[' :: text) =
      match skipBlanks text with
      | ']' :: rest => some (.array [], rest)
      | rest => (items fuel rest).map fun (found, rest) => (.array found, rest) := rfl

theorem value_open_brace (fuel : Nat) (text : List Char) :
    value (fuel + 1) ('{' :: text) =
      match skipBlanks text with
      | '}' :: rest => some (.object [], rest)
      | rest => (fields fuel rest).map fun (found, rest) => (.object found, rest) := rfl

/-- An array that is not closed at once has items. -/
theorem value_array {text : List Char} (h : Begins (skipBlanks text)) (fuel : Nat) :
    value (fuel + 1) ('[' :: text) =
      (items fuel text).map fun (found, rest) => (.array found, rest) := by
  rw [value_open_bracket]
  split
  · rename_i rest heq
    exact absurd (by rw [heq]; rfl) h.head?_ne
  · rw [items_of_skipBlanks_eq (skipBlanks_skipBlanks text)]

/-- An object that is not closed at once has fields. -/
theorem value_object {text tail : List Char} (h : skipBlanks text = '"' :: tail) (fuel : Nat) :
    value (fuel + 1) ('{' :: text) =
      (fields fuel text).map fun (found, rest) => (.object found, rest) := by
  rw [value_open_brace]
  split
  · rename_i rest heq
    rw [h] at heq
    cases heq
  · rw [fields_of_skipBlanks_eq (skipBlanks_skipBlanks text)]

theorem items_of_value {fuel : Nat} {text rest : List Char} {item : Source}
    (h : value fuel text = some (item, rest)) :
    (∀ {tail}, skipBlanks rest = ']' :: tail → items (fuel + 1) text = some ([item], tail)) ∧
    ∀ {tail}, skipBlanks rest = ',' :: tail → items (fuel + 1) text =
      (items fuel tail).map fun (more, rest) => (item :: more, rest) := by
  constructor
  · intro tail hrest
    rw [items, h]
    simp only [Option.bind_eq_bind, Option.bind_some, hrest]
    rfl
  · intro tail hrest
    rw [items, h]
    simp only [Option.bind_eq_bind, Option.bind_some, hrest]
    cases items fuel tail <;> rfl

theorem fields_of_value {fuel : Nat} {text behind spaced rest : List Char} {key : String}
    {item : Source} (hkey : skipBlanks text = writeString key ++ behind)
    (hcolon : skipBlanks behind = ':' :: spaced) (h : value fuel spaced = some (item, rest)) :
    (∀ {tail}, skipBlanks rest = '}' :: tail →
      fields (fuel + 1) text = some ([(some key, item)], tail)) ∧
    ∀ {tail}, skipBlanks rest = ',' :: tail → fields (fuel + 1) text =
      (fields fuel tail).map fun (more, rest) => ((some key, item) :: more, rest) := by
  have hstring : writeString key ++ behind =
      '"' :: (key.toList.flatMap escape ++ '"' :: behind) := by
    simp [writeString]
  rw [hstring] at hkey
  constructor
  · intro tail hrest
    rw [fields, hkey]
    simp only [string?_flatMap_escape, Option.bind_eq_bind, Option.bind_some, hcolon, h, hrest]
    rfl
  · intro tail hrest
    rw [fields, hkey]
    simp only [string?_flatMap_escape, Option.bind_eq_bind, Option.bind_some, hcolon, h, hrest]
    cases fields fuel tail <;> rfl

/-- A value is recognised at every level if there is fuel for two steps a character. -/
def Recognised (json : Json) : Prop :=
  ∀ (level fuel : Nat) (rest : List Char), 2 * (writePretty level json).length ≤ fuel →
    Follows rest → value fuel (writePretty level json ++ rest) = some (ofJson json, rest)

/-- A value is recognised behind blanks. -/
theorem Recognised.value_eq {json : Json} (h : Recognised json) (level fuel : Nat)
    {text rest : List Char} (htext : skipBlanks text = skipBlanks (writePretty level json ++ rest))
    (hfuel : 2 * (writePretty level json).length ≤ fuel) (hrest : Follows rest) :
    value fuel text = some (ofJson json, rest) := by
  rw [value_of_skipBlanks_eq htext]
  exact h level fuel rest hfuel hrest

@[simp] theorem length_newLine (level : Nat) : (newLine level).length = 2 * level + 1 := by
  simp [newLine]

theorem writePrettyItems_cons_cons (level : Nat) (item next : Json) (others : List Json) :
    writePrettyItems level (item :: next :: others) =
      newLine level ++ writePretty level item ++
        ',' :: writePrettyItems level (next :: others) := by
  rw [writePrettyItems]
  exact List.cons_ne_nil next others

theorem writePrettyFields_cons_cons (level : Nat) (key : String) (item : Json)
    (next : String × Json) (others : List (String × Json)) :
    writePrettyFields level ((key, item) :: next :: others) =
      newLine level ++ writeString key ++ ':' :: ' ' :: writePretty level item ++
        ',' :: writePrettyFields level (next :: others) := by
  rw [writePrettyFields]
  exact List.cons_ne_nil next others

/-- Items are recognised one by one up to the end of their array. -/
theorem items_writePrettyItems {items : List Json} (hne : items ≠ [])
    (h : ∀ item ∈ items, Recognised item) (level outer fuel : Nat) (rest : List Char)
    (hfuel : 2 * (writePrettyItems level items).length ≤ fuel) :
    Source.items fuel (writePrettyItems level items ++ (newLine outer ++ ']' :: rest)) =
      some (ofItems items, rest) := by
  induction items generalizing fuel with
  | nil => exact absurd rfl hne
  | cons item more ih =>
      obtain ⟨hfirst, hmore⟩ := List.forall_mem_cons.mp h
      cases more with
      | nil =>
          rw [writePrettyItems] at hfuel ⊢
          rw [List.length_append, length_newLine] at hfuel
          obtain ⟨fuel, rfl⟩ := Nat.exists_eq_add_one_of_ne_zero (n := fuel) (by omega)
          rw [List.append_assoc]
          have hitem := hfirst.value_eq level fuel (skipBlanks_newLine level _) (by omega)
            (.newLine outer (']' :: rest))
          exact (items_of_value hitem).1 (skipBlanks_newLine outer _)
      | cons next others =>
          rw [writePrettyItems_cons_cons] at hfuel ⊢
          simp only [List.length_append, length_newLine, List.length_cons] at hfuel
          obtain ⟨fuel, rfl⟩ := Nat.exists_eq_add_one_of_ne_zero (n := fuel) (by omega)
          rw [List.append_assoc, List.append_assoc]
          have hitem := hfirst.value_eq level fuel (skipBlanks_newLine level _) (by omega)
            (.comma (writePrettyItems level (next :: others) ++ (newLine outer ++ ']' :: rest)))
          have hrest := ih (List.cons_ne_nil next others) hmore fuel (by omega)
          refine ((items_of_value hitem).2 rfl).trans ?_
          rw [hrest]
          rfl

/-- Fields are recognised one by one up to the end of their object. -/
theorem fields_writePrettyFields {fields : List (String × Json)} (hne : fields ≠ [])
    (h : ∀ field ∈ fields, Recognised field.2) (level outer fuel : Nat) (rest : List Char)
    (hfuel : 2 * (writePrettyFields level fields).length ≤ fuel) :
    Source.fields fuel (writePrettyFields level fields ++ (newLine outer ++ '}' :: rest)) =
      some (ofFields fields, rest) := by
  induction fields generalizing fuel with
  | nil => exact absurd rfl hne
  | cons field more ih =>
      obtain ⟨key, item⟩ := field
      obtain ⟨hfirst, hmore⟩ := List.forall_mem_cons.mp h
      change Recognised item at hfirst
      have hkey : ∀ behind, skipBlanks (newLine level ++ (writeString key ++ behind)) =
          writeString key ++ behind :=
        fun behind => skipBlanks_newLine level _
      cases more with
      | nil =>
          rw [writePrettyFields] at hfuel ⊢
          simp only [List.length_append, length_newLine, List.length_cons] at hfuel
          obtain ⟨fuel, rfl⟩ := Nat.exists_eq_add_one_of_ne_zero (n := fuel) (by omega)
          simp only [List.append_assoc, List.cons_append]
          have hitem := hfirst.value_eq level fuel (skipBlanks_blank _) (by omega)
            (.newLine outer ('}' :: rest))
          exact (fields_of_value (hkey _) rfl hitem).1 (skipBlanks_newLine outer _)
      | cons next others =>
          rw [writePrettyFields_cons_cons] at hfuel ⊢
          simp only [List.length_append, length_newLine, List.length_cons] at hfuel
          obtain ⟨fuel, rfl⟩ := Nat.exists_eq_add_one_of_ne_zero (n := fuel) (by omega)
          simp only [List.append_assoc, List.cons_append]
          have hitem := hfirst.value_eq level fuel (skipBlanks_blank _) (by omega)
            (.comma (writePrettyFields level (next :: others) ++ (newLine outer ++ '}' :: rest)))
          have hrest := ih (List.cons_ne_nil next others) hmore fuel (by omega)
          refine ((fields_of_value (hkey _) rfl hitem).2 rfl).trans ?_
          rw [hrest]
          rfl

/-- The text of a value begins with neither a blank nor the end of an array. -/
theorem begins_writePretty {json : Json} (h : Exact json) (level : Nat) (rest : List Char) :
    Begins (writePretty level json ++ rest) := by
  have hopen : ∀ {c : Char} {tail : List Char}, writePretty level json = c :: tail →
      skipBlanks (c :: (tail ++ rest)) = c :: (tail ++ rest) → c ≠ ']' →
        Begins (writePretty level json ++ rest) := by
    intro c tail htext hskip hne
    rw [htext]
    exact ⟨hskip, fun heq => hne (Option.some.inj heq)⟩
  cases h with
  | null => exact hopen rfl rfl (by decide)
  | bool value => cases value <;> exact hopen rfl rfl (by decide)
  | natural value =>
      obtain ⟨c, tail, htext, hdigit⟩ := exists_toDigits_eq_cons value
      have hbegins := begins_of_isDigit hdigit (tail ++ rest)
      exact hopen htext hbegins.skip fun heq => hbegins.head?_ne (congrArg some heq)
  | negative value => exact hopen rfl rfl (by decide)
  | string value => exact hopen rfl rfl (by decide)
  | @array items _ => cases items <;> exact hopen rfl rfl (by decide)
  | @object fields _ => cases fields <;> exact hopen rfl rfl (by decide)

theorem recognised_of_leaf {json : Json} (h : ∀ (level fuel : Nat) (rest : List Char),
    Follows rest → value (fuel + 1) (writePretty level json ++ rest) = some (ofJson json, rest))
    (hne : ∀ level, writePretty level json ≠ []) : Recognised json := by
  intro level fuel rest hfuel hrest
  have hpos := List.length_pos_of_ne_nil (hne level)
  obtain ⟨fuel, rfl⟩ := Nat.exists_eq_add_one_of_ne_zero (n := fuel) (by omega)
  exact h level fuel rest hrest

theorem exists_writePrettyItems_eq (level : Nat) (item : Json) (items : List Json) :
    ∃ tail, writePrettyItems level (item :: items) =
      newLine level ++ (writePretty level item ++ tail) := by
  cases items with
  | nil => exact ⟨[], by rw [writePrettyItems, List.append_nil]⟩
  | cons next others =>
      exact ⟨',' :: writePrettyItems level (next :: others), by
        rw [writePrettyItems_cons_cons, List.append_assoc]⟩

theorem exists_writePrettyFields_eq (level : Nat) (field : String × Json)
    (fields : List (String × Json)) :
    ∃ tail, writePrettyFields level (field :: fields) = newLine level ++ '"' :: tail := by
  obtain ⟨key, item⟩ := field
  cases fields with
  | nil =>
      rw [writePrettyFields, writeString, List.append_assoc]
      exact ⟨_, rfl⟩
  | cons next others =>
      rw [writePrettyFields_cons_cons, writeString, List.append_assoc, List.append_assoc]
      exact ⟨_, rfl⟩

/-- An array is recognised if its items are. -/
theorem recognised_array {item : Json} {more : List Json} (hexact : Exact item)
    (h : ∀ other ∈ item :: more, Recognised other) : Recognised (.array (item :: more)) := by
  intro level fuel rest hfuel hrest
  have htext : writePretty level (.array (item :: more)) ++ rest =
      '[' :: (writePrettyItems (level + 1) (item :: more) ++ (newLine level ++ ']' :: rest)) := by
    simp [writePretty]
  have hbegins : Begins (skipBlanks (writePrettyItems (level + 1) (item :: more) ++
      (newLine level ++ ']' :: rest))) := by
    obtain ⟨tail, htail⟩ := exists_writePrettyItems_eq (level + 1) item more
    have hfirst := begins_writePretty hexact (level + 1) (tail ++ (newLine level ++ ']' :: rest))
    rw [htail, List.append_assoc, skipBlanks_newLine, List.append_assoc, hfirst.skip]
    exact hfirst
  rw [writePretty] at hfuel
  simp only [List.length_cons, List.length_append] at hfuel
  obtain ⟨fuel, rfl⟩ := Nat.exists_eq_add_one_of_ne_zero (n := fuel) (by omega)
  rw [htext, value_array hbegins,
    items_writePrettyItems (List.cons_ne_nil item more) h (level + 1) level fuel rest (by omega)]
  rfl

/-- An object is recognised if the values of its fields are. -/
theorem recognised_object {field : String × Json} {more : List (String × Json)}
    (h : ∀ other ∈ field :: more, Recognised other.2) :
    Recognised (.object (field :: more)) := by
  intro level fuel rest hfuel hrest
  have htext : writePretty level (.object (field :: more)) ++ rest =
      '{' :: (writePrettyFields (level + 1) (field :: more) ++ (newLine level ++ '}' :: rest)) := by
    simp [writePretty]
  obtain ⟨tail, htail⟩ := exists_writePrettyFields_eq (level + 1) field more
  have hquote : skipBlanks (writePrettyFields (level + 1) (field :: more) ++
      (newLine level ++ '}' :: rest)) = '"' :: (tail ++ (newLine level ++ '}' :: rest)) := by
    rw [htail, List.append_assoc, skipBlanks_newLine]
    rfl
  rw [writePretty] at hfuel
  simp only [List.length_cons, List.length_append] at hfuel
  obtain ⟨fuel, rfl⟩ := Nat.exists_eq_add_one_of_ne_zero (n := fuel) (by omega)
  rw [htext, value_object hquote, fields_writePrettyFields (List.cons_ne_nil field more) h
    (level + 1) level fuel rest (by omega)]
  rfl

/-- A value whose numbers are integers is recognised. -/
theorem recognised_of_exact {json : Json} (h : Exact json) : Recognised json := by
  induction h with
  | null => exact recognised_of_leaf (fun _ _ _ _ => rfl) fun _ => List.cons_ne_nil _ _
  | bool value =>
      cases value <;> exact recognised_of_leaf (fun _ _ _ _ => rfl) fun _ => List.cons_ne_nil _ _
  | natural value =>
      refine recognised_of_leaf (fun level fuel rest hrest => ?_) fun _ => Nat.toDigits_ne_nil
      obtain ⟨c, tail, htext, hdigit⟩ := exists_toDigits_eq_cons value
      have hread := (numeral?_toDigits hrest value).1
      change Source.value (fuel + 1) (Nat.toDigits 10 value ++ rest) = _
      rw [htext, List.cons_append] at hread ⊢
      rw [value_of_isDigit hdigit, hread, ← htext]
      rfl
  | negative value =>
      refine recognised_of_leaf (fun level fuel rest hrest => ?_) fun _ => List.cons_ne_nil _ _
      change Source.value (fuel + 1) ('-' :: (Nat.toDigits 10 value ++ rest)) = _
      rw [value_minus, (numeral?_toDigits hrest value).2]
      rfl
  | string value =>
      refine recognised_of_leaf (fun level fuel rest hrest => ?_) fun _ => List.cons_ne_nil _ _
      have htext : writePretty level (.string value) ++ rest =
          '"' :: (value.toList.flatMap escape ++ '"' :: rest) := by
        rw [writePretty, writeString, List.cons_append, List.cons_append, List.append_assoc]
        rfl
      rw [htext, value_quote, string?_flatMap_escape]
      rfl
  | @array items hitems ih =>
      cases items with
      | nil => exact recognised_of_leaf (fun _ _ _ _ => rfl) fun _ => List.cons_ne_nil _ _
      | cons item more => exact recognised_array (hitems item List.mem_cons_self) ih
  | @object fields hfields ih =>
      cases fields with
      | nil => exact recognised_of_leaf (fun _ _ _ _ => rfl) fun _ => List.cons_ne_nil _ _
      | cons field more => exact recognised_object ih

/-- The text of such a value is recognised. -/
theorem parse?_pretty {json : Json} (h : Exact json) : parse? json.pretty = some (ofJson json) := by
  have hread := recognised_of_exact h 0 (2 * (writePretty 0 json).length + 2) [] (by omega) .nil
  rw [List.append_nil] at hread
  unfold parse? pretty
  rw [String.toList_ofList]
  simp only [hread]
  rfl

end Source

end Remedy.Json
