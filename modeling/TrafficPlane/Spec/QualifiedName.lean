/-!
# Qualified names

Routing specs and memberships are addressed by a name within a namespace. Names are ordered by
namespace first, each part by code points.

## Main definitions

* `QualifiedName`: a namespace and a name
* `QualifiedName.display`: the name as messages show it
-/

namespace TrafficPlane

/-- A name within a namespace. -/
structure QualifiedName where
  space : String
  name : String
deriving DecidableEq, Repr, Inhabited

namespace QualifiedName

/-- The namespace and the name with a slash between them. -/
def display (key : QualifiedName) : String :=
  key.space ++ "/" ++ key.name

/-- Namespaces decide the order, and within a namespace the names do. -/
instance : LT QualifiedName where
  lt a b := a.space < b.space ∨ a.space = b.space ∧ a.name < b.name

instance (a b : QualifiedName) : Decidable (a < b) :=
  inferInstanceAs (Decidable (a.space < b.space ∨ a.space = b.space ∧ a.name < b.name))

theorem lt_def {a b : QualifiedName} :
    a < b ↔ a.space < b.space ∨ a.space = b.space ∧ a.name < b.name :=
  Iff.rfl

protected theorem lt_irrefl (a : QualifiedName) : ¬ a < a := by
  rw [lt_def]
  rintro (h | ⟨_, h⟩) <;> exact String.lt_irrefl _ h

protected theorem lt_trans {a b c : QualifiedName} (hab : a < b) (hbc : b < c) : a < c := by
  rw [lt_def] at *
  rcases hab with h | ⟨h, h'⟩ <;> rcases hbc with k | ⟨k, k'⟩
  · exact .inl (String.lt_trans h k)
  · exact .inl (k ▸ h)
  · exact .inl (h ▸ k)
  · exact .inr ⟨h.trans k, String.lt_trans h' k'⟩

protected theorem lt_trichotomy (a b : QualifiedName) : a < b ∨ a = b ∨ b < a := by
  have total : ∀ s t : String, s < t ∨ s = t ∨ t < s := fun s t => by
    by_cases h : s < t
    · exact .inl h
    · by_cases k : t < s
      · exact .inr (.inr k)
      · exact .inr (.inl (String.le_antisymm (String.not_lt.mp k) (String.not_lt.mp h)))
  obtain ⟨s, n⟩ := a
  obtain ⟨t, m⟩ := b
  rw [lt_def, lt_def]
  rcases total s t with h | rfl | h
  · exact .inl (.inl h)
  · rcases total n m with h | rfl | h
    · exact .inl (.inr ⟨rfl, h⟩)
    · exact .inr (.inl rfl)
    · exact .inr (.inr (.inr ⟨rfl, h⟩))
  · exact .inr (.inr (.inl h))

end QualifiedName

end TrafficPlane
