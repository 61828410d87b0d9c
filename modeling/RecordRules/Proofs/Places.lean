import Mathlib.Data.List.Basic

/-!
# Places of a list that grows

Events and moments are told in order, and what is said of one of them is said
of its place: of all that came before it.  A list that grows at its end keeps
the places it has and gets one more.
-/

namespace RecordRules

variable {α : Type} {items : List α} {last : α}

/-- A place of a list that grew is its new place, with nothing behind it, or one
it had before, with the new one last behind it. -/
theorem split_of_snoc
    {before after : List α} {item : α}
    (h : items ++ [last] = before ++ item :: after) :
    (before = items ∧ item = last ∧ after = []) ∨
      ∃ rest, after = rest ++ [last] ∧ items = before ++ item :: rest := by
  rcases List.eq_nil_or_concat after with rfl | ⟨rest, other, rfl⟩
  · obtain ⟨rfl, hlast⟩ := List.append_inj' h rfl
    exact .inl ⟨rfl, (List.singleton_inj.mp hlast).symm, rfl⟩
  · have hsplit : items ++ [last] = (before ++ item :: rest) ++ [other] := by
      simpa using h
    obtain ⟨hitems, hlast⟩ := List.append_inj' hsplit rfl
    obtain rfl := List.singleton_inj.mp hlast
    exact .inr ⟨rest, List.concat_eq_append, hitems⟩

/-- A place of a list that grew is its new place or one it had before. -/
theorem place_of_snoc
    {before after : List α} {item : α}
    (h : items ++ [last] = before ++ item :: after) :
    (before = items ∧ item = last) ∨
      ∃ rest, items = before ++ item :: rest := by
  rcases split_of_snoc h with ⟨hbefore, hitem, -⟩ | ⟨rest, -, hitems⟩
  · exact .inl ⟨hbefore, hitem⟩
  · exact .inr ⟨rest, hitems⟩

/-- What holds at every place holds at every place of the longer list, if it
holds at the new one. -/
theorem forall_places_snoc
    {P : List α → α → Prop}
    (h : ∀ before item after, items = before ++ item :: after → P before item)
    (hlast : P items last) :
    ∀ before item after, items ++ [last] = before ++ item :: after →
      P before item := by
  intro before item after hplace
  rcases place_of_snoc hplace with ⟨rfl, rfl⟩ | ⟨rest, hrest⟩
  · exact hlast
  · exact h before item rest hrest

end RecordRules
