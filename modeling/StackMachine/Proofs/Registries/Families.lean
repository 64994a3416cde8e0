import StackMachine.Proofs.Registries.Calls

/-!
# Families of registries

The registries keep their families as numbers. These agree with the calls (`Registries.Grouped`):
two registries have the same number exactly if clones connect them
(`Registries.Grouped.related_iff`), and each family begins with the one registry of it that is made
fresh (`Registries.Grouped.existsUnique_founder`).
-/

namespace StackMachine.Registries

/-- The families of the registries have numbers, and these group the registries as the calls do: a
clone has the family of its model, and each family has one registry that is made fresh, which clones
connect with all the others. -/
structure Grouped (families : Array Nat) (calls : List Call) : Prop where
  size_eq : families.size = made calls
  through : ∀ call ∈ calls, ∀ r ∈ call.through?, ∃ family, families[r]? = some family
  cloned : ∀ {r s}, Cloned calls r s →
    ∃ family, families[r]? = some family ∧ families[s]? = some family
  founder : ∀ {r family}, families[r]? = some family →
    ∃ a, Founder calls a ∧ families[a]? = some family ∧ Related calls a r
  founder_inj : ∀ {a b family}, Founder calls a → Founder calls b →
    families[a]? = some family → families[b]? = some family → a = b

section Push

variable {families : Array Nat} {r family : Nat}

theorem getElem?_push_of_some (hr : families[r]? = some family) (more : Nat) :
    (families.push more)[r]? = some family := by
  obtain ⟨hlt, rfl⟩ := Array.getElem?_eq_some_iff.mp hr
  exact Array.getElem?_push_lt hlt

theorem getElem?_push_cases {more : Nat} (hr : (families.push more)[r]? = some family) :
    families[r]? = some family ∨ r = families.size ∧ family = more := by
  rw [Array.getElem?_push] at hr
  split at hr
  · next hnew => exact .inr ⟨hnew, (Option.some.inj hr).symm⟩
  · exact .inl hr

end Push

namespace Grouped

variable {families : Array Nat} {calls : List Call} {call : Call} {r s family : Nat}

theorem nil : Grouped #[] [] where
  size_eq := rfl
  through := by simp
  cloned := by simp [Cloned]
  founder := by simp
  founder_inj := by simp

/-- Clones connect registries of one number only. -/
theorem getElem?_eq_of_related (h : Grouped families calls) (hrelated : Related calls r s) :
    families[r]? = families[s]? := by
  -- An equality of numbers is an equivalence, so it is enough that each clone keeps the number.
  induction hrelated with
  | rel r s hcloned =>
    obtain ⟨family, hr, hs⟩ := h.cloned hcloned
    exact hr.trans hs.symm
  | refl r => rfl
  | symm r s _ ih => exact ih.symm
  | trans r s t _ _ ihr ihs => exact ihr.trans ihs

/-- Registries are of one family exactly if its number is that of both. -/
theorem related_iff (h : Grouped families calls) (hr : families[r]? = some family) :
    Related calls r s ↔ families[s]? = some family := by
  constructor
  · intro hrelated
    rw [← h.getElem?_eq_of_related hrelated, hr]
  · intro hs
    -- Both are connected with the founder of the number, of which there is one.
    obtain ⟨a, ha, hafamily, har⟩ := h.founder hr
    obtain ⟨b, hb, hbfamily, hbs⟩ := h.founder hs
    obtain rfl := h.founder_inj ha hb hafamily hbfamily
    exact .trans r a s (.symm a r har) hbs

theorem exists_family (h : Grouped families calls) (hr : r < made calls) :
    ∃ family, families[r]? = some family := by
  have hlt : r < families.size := h.size_eq ▸ hr
  exact ⟨families[r], Array.getElem?_eq_getElem hlt⟩

/-- A family has one registry that was made fresh, and only one. -/
theorem existsUnique_founder (h : Grouped families calls) (hr : r < made calls) :
    ∃! a, Founder calls a ∧ Related calls a r := by
  obtain ⟨family, hfamily⟩ := h.exists_family hr
  obtain ⟨a, ha, hafamily, har⟩ := h.founder hfamily
  refine ⟨a, ⟨ha, har⟩, ?_⟩
  rintro b ⟨hb, hbr⟩
  have hbfamily : families[b]? = some family := (h.getElem?_eq_of_related hbr).trans hfamily
  exact h.founder_inj hb ha hbfamily hafamily

/-! ### One call more -/

/-- A call that makes no registry. -/
theorem same (h : Grouped families calls) (hmakes : call.makes = false)
    (hcall : ∀ r ∈ call.through?, r < made calls) : Grouped families (calls ++ [call]) where
  size_eq := by rw [made_concat, hmakes, h.size_eq]; rfl
  through := by
    intro other hother
    rcases List.mem_append.mp hother with hother | hother
    · exact h.through other hother
    · rw [List.mem_singleton.mp hother]
      exact fun r hr => h.exists_family (hcall r hr)
  cloned := by
    intro r s hcloned
    rcases cloned_concat.mp hcloned with hcloned | ⟨rfl, -⟩
    · exact h.cloned hcloned
    · cases hmakes
  founder := by
    intro r family hr
    obtain ⟨a, ha, hfamily, hrelated⟩ := h.founder hr
    exact ⟨a, founder_concat.mpr (.inl ha), hfamily, hrelated.concat⟩
  founder_inj := by
    intro a b family ha hb
    rcases founder_concat.mp ha with ha | ⟨rfl, -⟩
    · rcases founder_concat.mp hb with hb | ⟨rfl, -⟩
      · exact h.founder_inj ha hb
      · cases hmakes
    · cases hmakes

/-- When a registry is added, a founder is either an old one at its old place or the new registry. -/
theorem founder_push_cases (h : Grouped families calls) (hr : Founder (calls ++ [call]) r)
    {more : Nat} (hfamily : (families.push more)[r]? = some family) :
    Founder calls r ∧ families[r]? = some family ∨
      call = .fresh ∧ r = made calls ∧ family = more := by
  have hsize := h.size_eq
  rcases getElem?_push_cases hfamily with hold | ⟨hlast, rfl⟩
  · have hlt := (Array.getElem?_eq_some_iff.mp hold).1
    rcases founder_concat.mp hr with hr | ⟨-, hnew⟩
    · exact .inl ⟨hr, hold⟩
    · omega
  · rcases founder_concat.mp hr with hr | ⟨hcall, hnew⟩
    · have hlt := hr.lt
      omega
    · exact .inr ⟨hcall, hnew, rfl⟩

/-- A call that makes a registry: a clone has the number of its model, and a fresh one has a number
of its own. -/
theorem push (h : Grouped families calls) (hmakes : call.makes = true)
    (hmodel : ∀ r, call = .clone r → families[r]? = some family)
    (hfresh : call = .fresh → ∀ r : Nat, families[r]? ≠ some family) :
    Grouped (families.push family) (calls ++ [call]) where
  size_eq := by rw [made_concat, hmakes, Array.size_push, h.size_eq]; rfl
  through := by
    intro other hother r hr
    rcases List.mem_append.mp hother with hother | hother
    · obtain ⟨family', hr⟩ := h.through other hother r hr
      exact ⟨family', getElem?_push_of_some hr family⟩
    · rw [List.mem_singleton.mp hother] at hr
      cases call with
      | fresh => cases hr
      | clone m =>
        cases hr
        exact ⟨family, getElem?_push_of_some (hmodel _ rfl) family⟩
      | _ => cases hmakes
  cloned := by
    intro r s hcloned
    rcases cloned_concat.mp hcloned with hcloned | ⟨rfl, rfl⟩
    · obtain ⟨other, hr, hs⟩ := h.cloned hcloned
      exact ⟨other, getElem?_push_of_some hr family, getElem?_push_of_some hs family⟩
    · refine ⟨family, getElem?_push_of_some (hmodel r rfl) family, ?_⟩
      rw [← h.size_eq, Array.getElem?_push_size]
  founder := by
    intro r other hr
    rcases getElem?_push_cases hr with hold | ⟨rfl, rfl⟩
    · obtain ⟨a, ha, hfamily, hrelated⟩ := h.founder hold
      exact ⟨a, founder_concat.mpr (.inl ha), getElem?_push_of_some hfamily family,
        hrelated.concat⟩
    · cases call with
      | fresh =>
        -- The new registry is the first one of its family.
        exact ⟨_, founder_concat.mpr (.inr ⟨rfl, h.size_eq⟩), hr, .refl _⟩
      | clone m =>
        obtain ⟨a, ha, hfamily, hrelated⟩ := h.founder (hmodel m rfl)
        have hcloned : Cloned (calls ++ [.clone m]) m families.size :=
          cloned_concat.mpr (.inr ⟨rfl, h.size_eq⟩)
        exact ⟨a, founder_concat.mpr (.inl ha), getElem?_push_of_some hfamily other,
          .trans a m _ hrelated.concat (.rel m _ hcloned)⟩
      | _ => cases hmakes
  founder_inj := by
    intro a b other ha hb hafamily hbfamily
    rcases h.founder_push_cases ha hafamily with ⟨haold, hainold⟩ | ⟨hcall, rfl, rfl⟩
    · rcases h.founder_push_cases hb hbfamily with ⟨hbold, hbinold⟩ | ⟨hcall, -, rfl⟩
      · exact h.founder_inj haold hbold hainold hbinold
      · exact absurd hainold (hfresh hcall a)
    · rcases h.founder_push_cases hb hbfamily with ⟨-, hbinold⟩ | ⟨-, rfl, -⟩
      · exact absurd hbinold (hfresh hcall b)
      · rfl

end Grouped

end StackMachine.Registries
