/-!
Character classes given as tables of code-point ranges.
-/
namespace BrowserFlow.Text
set_option autoImplicit false

/-- Inclusive ranges of code points. -/
abbrev CharTable := List (Nat × Nat)

/-- Whether some range of the table holds the character. -/
def CharTable.has (t : CharTable) (c : Char) : Bool :=
  t.any fun (lo, hi) => lo ≤ c.toNat && c.toNat ≤ hi

end BrowserFlow.Text
