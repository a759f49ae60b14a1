/-
Sets of phrases. A set is a strictly increasing list, so it is determined by what is in it; adding a phrase keeps it
one.
-/
import MailReconciler.Text.Phrase

namespace MailReconciler.Text

variable {phrase added : String} {set other phrases : List String}

/-- A set of phrases: each is greater than the one before it. -/
def IsPhraseSet (set : List String) : Prop := set.Pairwise (· < ·)

theorem mem_insertPhrase : phrase ∈ insertPhrase added set ↔ phrase = added ∨ phrase ∈ set := by
  induction set with
  | nil => simp [insertPhrase]
  | cons first rest ih =>
    unfold insertPhrase
    split
    · simp
    · split
      · rename_i h
        simp [h]
      · simp only [List.mem_cons, ih]
        exact or_left_comm

theorem IsPhraseSet.insertPhrase (h : IsPhraseSet set) : IsPhraseSet (insertPhrase added set) := by
  induction set with
  | nil => exact List.pairwise_singleton ..
  | cons first rest ih =>
    obtain ⟨hfirst, hrest⟩ := List.pairwise_cons.1 h
    unfold Text.insertPhrase
    split
    · rename_i hlt
      refine List.pairwise_cons.2 ⟨fun q hq => ?_, h⟩
      rcases List.mem_cons.1 hq with rfl | hq
      · exact hlt
      · exact String.lt_trans hlt (hfirst q hq)
    · split
      · exact h
      · rename_i hlt hne
        refine List.pairwise_cons.2 ⟨fun q hq => ?_, ih hrest⟩
        rcases mem_insertPhrase.1 hq with rfl | hq
        · rcases Std.lt_trichotomy q first with hq | hq | hq
          · exact absurd hq hlt
          · exact absurd hq hne
          · exact hq
        · exact hfirst q hq

/-- Phrases that are added one by one, each in the form that `f` gives it. -/
theorem mem_foldl_insertPhrase (f : String → String) :
    phrase ∈ phrases.foldl (fun set p => insertPhrase (f p) set) set ↔ phrase ∈ set ∨ ∃ p ∈ phrases, phrase = f p := by
  induction phrases generalizing set with
  | nil => simp
  | cons first rest ih =>
    rw [List.foldl_cons, ih, mem_insertPhrase]
    constructor
    · rintro ((h | h) | ⟨p, hp, h⟩)
      · exact .inr ⟨first, List.mem_cons_self, h⟩
      · exact .inl h
      · exact .inr ⟨p, List.mem_cons_of_mem _ hp, h⟩
    · rintro (h | ⟨p, hp, h⟩)
      · exact .inl (.inr h)
      · rcases List.mem_cons.1 hp with rfl | hp
        · exact .inl (.inl h)
        · exact .inr ⟨p, hp, h⟩

theorem IsPhraseSet.foldl (h : IsPhraseSet set) (f : String → String) :
    IsPhraseSet (phrases.foldl (fun set p => Text.insertPhrase (f p) set) set) := by
  induction phrases generalizing set with
  | nil => exact h
  | cons first rest ih => exact ih h.insertPhrase

theorem isPhraseSet_phraseSet (phrases : List String) : IsPhraseSet (phraseSet phrases) :=
  IsPhraseSet.foldl List.Pairwise.nil id

/-- Sets with the same phrases are the same list. -/
theorem IsPhraseSet.ext (h : IsPhraseSet set) (h' : IsPhraseSet other) (hmem : ∀ p, p ∈ set ↔ p ∈ other) :
    set = other := by
  have hnodup {set : List String} (h : IsPhraseSet set) : set.Nodup :=
    h.imp fun hlt => by rintro rfl; exact String.lt_irrefl _ hlt
  refine ((List.perm_ext_iff_of_nodup (hnodup h) (hnodup h')).2 hmem).eq_of_pairwise (fun a b _ _ hab hba => ?_) h h'
  exact absurd (String.lt_trans hab hba) (String.lt_irrefl a)

end MailReconciler.Text
