/-!
Ends of the program that it does not come to by itself: a library that it rests on hands it a
failure to pass on, or stops it.
-/

namespace ClusterBundle

inductive Stop where
  /-- A failure that the program passes on. -/
  | refused (message : String)
  /-- A library gives up, and the program with it. -/
  | panicked (message : String)
  /-- There is no memory for what a library asks for. -/
  | aborted (message : String)
  deriving Repr, DecidableEq

namespace Stop

/-- The exit status. Where a signal ends the program, it is 128 and the number of the signal. -/
def exit : Stop → Nat
  | .refused _ => 1
  | .panicked _ => 101
  | .aborted _ => 134

theorem exit_ne_zero (stop : Stop) : stop.exit ≠ 0 := by
  cases stop <;> simp [exit]

end Stop

end ClusterBundle
