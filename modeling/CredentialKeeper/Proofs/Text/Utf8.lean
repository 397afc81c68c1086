import CredentialKeeper.Text.Utf8
import Mathlib.Data.String.Basic

/-! # A text and its bytes

The bytes of a text are read back as the text, so a text is told by its bytes. -/

namespace CredentialKeeper.Text

theorem fromUTF8?_eq_some {bytes : ByteArray} {text : String} :
    String.fromUTF8? bytes = some text ↔ bytes = text.toUTF8 := by
  unfold String.fromUTF8?
  split
  next h =>
    rw [Option.some.injEq]
    constructor <;> (rintro rfl; rfl)
  next h =>
    refine ⟨nofun, ?_⟩
    rintro rfl
    exact absurd text.isValidUTF8 h

variable {cs ds : List Char}

@[simp] theorem utf8_nil : utf8 [] = [] := rfl

theorem utf8_cons (c : Char) (cs : List Char) :
    utf8 (c :: cs) = String.utf8EncodeChar c ++ utf8 cs := rfl

theorem utf8_append : utf8 (cs ++ ds) = utf8 cs ++ utf8 ds := List.flatMap_append

theorem length_utf8 (cs : List Char) : (utf8 cs).length = String.utf8Len cs := by
  induction cs with
  | nil => rfl
  | cons c cs ih =>
    rw [utf8_cons, List.length_append, String.length_utf8EncodeChar, ih, String.utf8Len_cons,
      Nat.add_comm]

theorem toUTF8_ofList (cs : List Char) : (String.ofList cs).toUTF8 = ⟨(utf8 cs).toArray⟩ := by
  apply ByteArray.ext
  exact List.data_toByteArray

theorem fromUTF8?_utf8 (cs : List Char) :
    String.fromUTF8? ⟨(utf8 cs).toArray⟩ = some (String.ofList cs) :=
  fromUTF8?_eq_some.2 (toUTF8_ofList cs).symm

end CredentialKeeper.Text
