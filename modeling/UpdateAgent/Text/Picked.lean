import UpdateAgent.Text.Utf8

/-!
# Picked characters

Texts of characters that are picked from a set, for temporary names. The draws that pick them are
given, so what is random stays outside.
-/

namespace UpdateAgent.Text

/-- The letters and digits of ASCII. -/
def letters : Bytes :=
  Utf8.ofText "abcdefghijklmnopqrstuvwxyzABCDEFGHIJKLMNOPQRSTUVWXYZ0123456789"

/-- One character for each draw. Nothing can be picked from an empty set. -/
def picked (charset : Bytes) (draws : List Nat) : Option (List Char) :=
  draws.mapM fun draw => (charset[draw % charset.length]?).map fun b => Char.ofNat b.toNat

end UpdateAgent.Text
