import EffectLang.Text.Quoted

/-! Closed sets of words: the operators, the callable names, the types and the causes of errors.
Each member has one spelling, by which it is found, and a name under which it is listed. -/
namespace EffectLang

/-- A finite type whose members are spelled by words. -/
class Vocabulary (α : Type) where
  /-- The name of the whole set. -/
  title : String
  members : List α
  spelling : α → Text
  /-- The name of one member in listings. -/
  memberName : α → String

namespace Vocabulary
variable {α : Type} [Vocabulary α]

/-- The member that a word spells. -/
def ofSpelling? (word : Text) : Option α :=
  members.find? (spelling · = word)

theorem spelling_of_ofSpelling? {word : Text} {a : α} (h : ofSpelling? word = some a) :
    spelling a = word := by
  simpa using List.find?_some h

theorem ofSpelling?_eq_none {word : Text} (h : ∀ a : α, spelling a ≠ word) :
    (ofSpelling? word : Option α) = none :=
  List.find?_eq_none.mpr fun a _ hword => h a (of_decide_eq_true hword)

/-- Members that are found by their spellings have different ones. -/
theorem eq_of_spelling_eq {a b : α} (ha : ofSpelling? (spelling a) = some a)
    (hb : ofSpelling? (spelling b) = some b) (h : spelling a = spelling b) : a = b := by
  rw [h, hb] at ha
  exact (Option.some.inj ha).symm

/-- The set and the member, as in `BinaryOp.ADD`. -/
def listingName (a : α) : Text :=
  (title α ++ "." ++ memberName a).toList

/-- What is said of a word that spells no member. -/
def unknownWord (α : Type) [Vocabulary α] (word : Text) : Text :=
  word.quoted ++ (" is not a valid " ++ title α).toList

end Vocabulary
end EffectLang
