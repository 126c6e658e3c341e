/-!
Control sequences: an escape, a bracket, parameters and a letter tell a terminal to change its
colours or to move on. What is printed to anything but a terminal does without them.
-/

namespace CrossRef.ControlSequence

/-- The parameters of a sequence are digits and two marks. -/
def isParameter (c : Char) : Bool :=
  c == ';' || c == '?' || c.isDigit

/-- The text after the sequence that it starts with. -/
def after? : List Char → Option (List Char)
  | '\x1B' :: '[' :: rest =>
    match rest.dropWhile isParameter with
    | last :: afterSequence => if last.isAlpha then some afterSequence else none
    | [] => none
  | _ => none

/-- A sequence takes up some of the text. -/
theorem length_after?_lt {text afterSequence : List Char}
    (started : after? text = some afterSequence) : afterSequence.length < text.length := by
  rw [after?.eq_def] at started
  split at started
  · next rest =>
    split at started
    · next last found =>
      have shorter := (List.dropWhile_suffix (l := rest) isParameter).length_le
      rw [found] at shorter
      split at started
      · cases started
        simp only [List.length_cons] at shorter ⊢
        omega
      · cases started
    · cases started
  · cases started

/-- The text without its sequences. -/
def removed : List Char → List Char
  | [] => []
  | c :: rest =>
    match _ : after? (c :: rest) with
    | some afterSequence => removed afterSequence
    | none => c :: removed rest
termination_by text => text.length
decreasing_by
  · exact length_after?_lt ‹_›
  · exact Nat.lt_succ_self rest.length

end CrossRef.ControlSequence
