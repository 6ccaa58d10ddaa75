import Mathlib.Logic.Basic

/-!
# The characters of a text

A statement about the characters of a text is decided by going through the text. It takes precedence over deciding
a statement about all characters, which goes through every one that there is.
-/

namespace Lib

/-- `str.isspace`, of one character. -/
def Space (c : Char) : Prop :=
  c.toNat ∈ [9, 10, 11, 12, 13, 28, 29, 30, 31, 32, 133, 160, 5760, 8192, 8193, 8194, 8195, 8196, 8197, 8198, 8199, 8200,
    8201, 8202, 8232, 8233, 8239, 8287, 12288]

instance : DecidablePred Space := fun c => by
  unfold Space
  infer_instance

instance lawfulText : LawfulBEq (List Char) := inferInstance

variable {p : Char → Prop} [DecidablePred p]

instance (priority := 2000) decidableForallText (text : List Char) : Decidable (∀ c ∈ text, p c) :=
  List.decidableBAll p text

instance (priority := 2000) decidableExistsText (text : List Char) : Decidable (∃ c ∈ text, p c) :=
  List.decidableBEx p text

/-- What is said of the first character and of the others, in a text that has one. -/
def decidableUncons {P : Char → List Char → Prop} [∀ c cs, Decidable (P c cs)] :
    (text : List Char) → Decidable (match text with | [] => False | c :: cs => P c cs)
  | [] => instDecidableFalse
  | c :: cs => inferInstanceAs (Decidable (P c cs))

end Lib
