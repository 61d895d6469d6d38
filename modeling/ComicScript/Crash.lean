/-!
# Crashes

A step that gives no result may refuse what it was given, with an error of its own kind that its callers are prepared for.
Else it crashes, and nothing holds a crash up before the end of the program.
-/

namespace ComicScript
set_option autoImplicit false

/-- A failure that no part of the program is prepared for. -/
inductive Crash
  /-- an integer of more digits than a numeral may have -/
  | tooManyDigits
  /-- a quotient past the largest double -/
  | tooLarge
  /-- a number that is no character's -/
  | noCharacter
  /-- something that has no places where the page of a section is looked for -/
  | notList (typeName : String)
  /-- a mapping without a value for the number of a section; sections are counted from zero -/
  | noKey (n : Nat)
  deriving DecidableEq, Repr

/-- Why a step gives no result. -/
inductive Stop (ε : Type)
  /-- an error that callers are prepared for -/
  | refused (e : ε)
  | crashed (c : Crash)
  deriving DecidableEq, Repr

instance {ε : Type} : MonadLift (Except Crash) (Except (Stop ε)) where
  monadLift r := r.mapError .crashed

instance {ε : Type} : MonadLift (Except ε) (Except (Stop ε)) where
  monadLift r := r.mapError .refused

end ComicScript
