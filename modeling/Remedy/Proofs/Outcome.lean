/-!
# Computations that may fail

How a computation that succeeds comes apart into its steps, and how a fold of such steps does.
-/

namespace Remedy.Outcome

variable {ε α β : Type}

/-- A sequence succeeds if its first step does and the rest does with what that yields. -/
theorem bind_eq_ok_iff {x : Except ε α} {f : α → Except ε β} {b : β} :
    (x >>= f) = .ok b ↔ ∃ a, x = .ok a ∧ f a = .ok b := by
  cases x with
  | error e =>
      constructor
      · intro h
        cases h
      · rintro ⟨a, h, -⟩
        cases h
  | ok a =>
      constructor
      · exact fun h => ⟨a, rfl, h⟩
      · rintro ⟨_, h, hf⟩
        cases h
        exact hf

/-- What has failed goes on to fail. -/
@[simp] theorem throw_bind (e : ε) (f : α → Except ε β) :
    ((throw e : Except ε α) >>= f) = .error e := rfl

@[simp] theorem error_bind (e : ε) (f : α → Except ε β) :
    ((.error e : Except ε α) >>= f) = .error e := rfl

@[simp] theorem ok_bind (a : α) (f : α → Except ε β) :
    ((.ok a : Except ε α) >>= f) = f a := rfl

@[simp] theorem pure_eq_ok (a : α) : (pure a : Except ε α) = .ok a := rfl

@[simp] theorem throw_eq_error (e : ε) : (throw e : Except ε α) = .error e := rfl

/-- A sequence fails if its first step does, or if the rest does with what that yields. -/
theorem bind_eq_error_iff {x : Except ε α} {f : α → Except ε β} {e : ε} :
    (x >>= f) = .error e ↔ x = .error e ∨ ∃ a, x = .ok a ∧ f a = .error e := by
  cases x with
  | error stop => simp
  | ok a => simp

/-- A check in front of a computation succeeds only if the check does. -/
theorem guard_eq_ok_iff {c : Prop} [Decidable c] {e : ε} {x : Except ε α} {a : α} :
    (if c then .error e else x) = .ok a ↔ ¬c ∧ x = .ok a := by
  split <;> simp_all

/-- A check in front of a computation is not what fails if the failure is another one. -/
theorem guard_eq_error_iff {c : Prop} [Decidable c] {e failure : ε} {x : Except ε α}
    (hne : e ≠ failure) :
    (if c then .error e else x) = .error failure ↔ ¬c ∧ x = .error failure := by
  split
  · rename_i hc
    refine iff_of_false (fun h => hne (Except.error.inj h)) fun h => h.1 hc
  · rename_i hc
    exact (and_iff_right hc).symm

theorem toOption_eq_some_iff {result : Except ε α} {a : α} :
    result.toOption = some a ↔ result = .ok a := by
  cases result <;> simp [Except.toOption]

/-- A fold succeeds on one more item if it does on the others and the last step does. -/
theorem foldlM_concat_eq_ok_iff {step : β → α → Except ε β} {items : List α} {item : α}
    {start result : β} :
    (items ++ [item]).foldlM step start = .ok result ↔
      ∃ middle, items.foldlM step start = .ok middle ∧ step middle item = .ok result := by
  rw [List.foldlM_append, bind_eq_ok_iff]
  simp only [List.foldlM_cons, List.foldlM_nil, bind_pure]

/-- Among computations all succeed, or there is a first one that fails. -/
theorem forall_ok_or_exists_first_error (f : α → Except ε β) (items : List α) :
    (∀ a ∈ items, ∃ b, f a = .ok b) ∨
      ∃ front item rest e, items = front ++ item :: rest ∧
        (∀ a ∈ front, ∃ b, f a = .ok b) ∧ f item = .error e := by
  induction items with
  | nil => exact .inl fun _ hmem => absurd hmem List.not_mem_nil
  | cons first more ih =>
      cases hfirst : f first with
      | error e => exact .inr ⟨[], first, more, e, rfl, fun _ hmem => absurd hmem List.not_mem_nil,
          hfirst⟩
      | ok b =>
          rcases ih with hall | ⟨front, item, rest, e, rfl, hfront, hitem⟩
          · exact .inl (List.forall_mem_cons.mpr ⟨⟨b, hfirst⟩, hall⟩)
          · exact .inr ⟨first :: front, item, rest, e, rfl,
              List.forall_mem_cons.mpr ⟨⟨b, hfirst⟩, hfront⟩, hitem⟩

/-!
## Lists of optional results
-/

/-- What comes of a list comes of its items. -/
theorem exists_of_mem_mapM {f : α → Option β} {items : List α} {results : List β}
    (h : items.mapM f = some results) {b : β} (hb : b ∈ results) : ∃ a ∈ items, f a = some b := by
  induction items generalizing results with
  | nil =>
      obtain rfl := Option.some.inj h
      exact absurd hb List.not_mem_nil
  | cons a rest ih =>
      rw [List.mapM_cons] at h
      obtain ⟨first, hfirst, hmore⟩ := Option.bind_eq_some_iff.mp h
      obtain ⟨others, hothers, hresults⟩ := Option.bind_eq_some_iff.mp hmore
      obtain rfl := Option.some.inj hresults
      rcases List.mem_cons.mp hb with rfl | hlater
      · exact ⟨a, List.mem_cons_self, hfirst⟩
      · obtain ⟨item, hitem, heq⟩ := ih hothers hlater
        exact ⟨item, List.mem_cons_of_mem a hitem, heq⟩

/-- Items that come of what they are turned into come of it together. -/
theorem mapM_map_eq_some {f : α → Option β} {g : β → α} {items : List β}
    (h : ∀ b ∈ items, f (g b) = some b) : (items.map g).mapM f = some items := by
  induction items with
  | nil => rfl
  | cons b rest ih =>
      obtain ⟨hfirst, hrest⟩ := List.forall_mem_cons.mp h
      rw [List.map_cons, List.mapM_cons, hfirst, ih hrest]
      rfl

end Remedy.Outcome
