import PseudoLint.Proofs.Check.Run
import PseudoLint.Proofs.Finding.Renumbering
import PseudoLint.Proofs.Page.Run

/-! # Checks on the page

A run that checks the code keeps the result for the code that it leaves in the session, and leaves
the code as it was if the check fails. Replacing shortcuts a second time changes nothing, so
pressing the button for a check again repeats the verdict and does nothing else.
-/

namespace PseudoLint.Page

/-- A verdict is one line. -/
theorem newline_not_mem_verdict (check : Check) : '\n' ∉ Session.verdict check := by
  have number : ∀ count, '\n' ∉ Numeral.ofNat count := by
    intro count member
    exact absurd (Numeral.isDigit_of_mem_ofNat member) (by decide)
  unfold Session.verdict
  dsimp only
  split
  · simp [number]
  · simp [number]

end PseudoLint.Page
