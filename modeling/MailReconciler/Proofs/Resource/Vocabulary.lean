/-
Vocabularies without ambiguity: a word is read as the value that it is written for, so no two values share one.
-/
import MailReconciler.Resource.Vocabulary

namespace MailReconciler

/-- A vocabulary whose words are read back. -/
class LawfulWord (α : Type) [Word α] : Prop where
  ofWord?_word : ∀ a : α, Word.ofWord? (Word.word a) = some a

instance : LawfulWord Region where
  ofWord?_word r := by cases r <;> decide

instance : LawfulWord SpamAction where
  ofWord?_word a := by cases a <;> decide

instance : LawfulWord WebScheme where
  ofWord?_word a := by cases a <;> decide

instance : LawfulWord DkimKeySize where
  ofWord?_word a := by cases a <;> decide

instance : LawfulWord AccessLevel where
  ofWord?_word a := by cases a <;> decide

instance : LawfulWord ReplyPreference where
  ofWord?_word a := by cases a <;> decide

instance : LawfulWord WebhookEvent where
  ofWord?_word a := by cases a <;> decide +kernel

namespace LawfulWord

variable {α : Type} [Word α] [LawfulWord α]

theorem ofWord?_eq_some_iff {text : String} {a : α} : Word.ofWord? text = some a ↔ text = Word.word a := by
  constructor
  · intro h
    have hword : (Word.word a == text) = true := List.find?_some (p := fun a => Word.word a == text) h
    exact (beq_iff_eq.1 hword).symm
  · rintro rfl
    exact ofWord?_word a

theorem word_injective {a b : α} (h : Word.word a = Word.word b) : a = b := by
  have hread := ofWord?_word a
  rw [h, ofWord?_word] at hread
  exact (Option.some.inj hread).symm

theorem decode_toJson (a : α) : Word.decode (Word.toJson a) = .ok a := by
  unfold Word.decode Word.toJson
  simp only [ofWord?_word]

end LawfulWord
end MailReconciler
