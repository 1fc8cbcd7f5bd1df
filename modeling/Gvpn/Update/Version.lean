import Gvpn.Data.Text

/-! Versions of the program, and which of two is the newer one. -/

namespace Gvpn

def versionParts (version : Text) : List Text := version.splitOnP fun c => c = '.' ∨ c = '-'

def versionPart (version : Text) (i : Nat) : Text := (versionParts version)[i]?.getD ['0']

def newerAt (a b : Text) : List Nat → Bool
  | [] => false
  | i :: later =>
    let pa := versionPart a i
    let pb := versionPart b i
    match parseUnsigned (2 ^ 64) pa, parseUnsigned (2 ^ 64) pb with
    | some na, some nb => if na ≠ nb then na > nb else newerAt a b later
    -- Texts compare by bytes, in UTF-8 by characters.
    | _, _ => if pa ≠ pb then pa > pb else newerAt a b later

def isNewer (a b : Text) : Bool :=
  newerAt a b (List.range (max (versionParts a).length (versionParts b).length))

end Gvpn
