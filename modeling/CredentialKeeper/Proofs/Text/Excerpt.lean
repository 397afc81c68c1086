import CredentialKeeper.Text.Excerpt
import Mathlib.Data.String.Basic

/-! # What an excerpt keeps

`IsExcerpt text room` says which text is the excerpt of another one, without the recursion that
cuts it: the whole text if its bytes fit, else the longest start of whole characters that does,
with three dots. -/

namespace CredentialKeeper.Text

theorem fitting_spec (room : Nat) (cs : List Char) :
    String.utf8Len (fitting room cs) ≤ room ∧
      (String.utf8Len cs ≤ room ∨ ∃ c dropped, cs = fitting room cs ++ c :: dropped ∧
        room < String.utf8Len (fitting room cs) + c.utf8Size) := by
  induction cs generalizing room with
  | nil => exact ⟨Nat.zero_le _, .inl (Nat.zero_le _)⟩
  | cons c cs ih =>
    unfold fitting
    split
    · rename_i hc
      obtain ⟨hkept, hrest⟩ := ih (room - c.utf8Size)
      simp only [String.utf8Len_cons]
      refine ⟨by omega, ?_⟩
      rcases hrest with hall | ⟨d, dropped, hcs, hmost⟩
      · exact .inl (by omega)
      · exact .inr ⟨d, dropped, congrArg (c :: ·) hcs, by omega⟩
    · rename_i hc
      refine ⟨Nat.zero_le _, .inr ⟨c, cs, rfl, ?_⟩⟩
      rw [String.utf8Len_nil, Nat.zero_add]
      exact Nat.lt_of_not_le hc

end CredentialKeeper.Text
