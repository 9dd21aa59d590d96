import Launchpad.Text.Quoted

/-!
Suffixes that make names unique: 32 hexadecimal digits, different for different numbers.
-/

namespace Launchpad.Unique

def scatter (n : Nat) : Nat :=
  (n * 0x9e3779b97f4a7c15f39cc0605cedc835 + 0x2545f4914f6cdd1d7f4a7c159e3779b9) % Nat.pow 2 128

def suffix (n : Nat) : String :=
  Text.hex 32 (scatter n)

def isSuffix (s : String) : Bool :=
  s.length == 32 && s.toList.all fun c => c.isDigit || ('a' ≤ c && c ≤ 'f')

end Launchpad.Unique
