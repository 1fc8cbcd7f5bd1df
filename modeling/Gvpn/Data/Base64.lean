import Gvpn.Data.Basic

/-! The standard padded Base64 alphabet, written and read back. -/

namespace Gvpn

namespace Base64

def sextetChar (value : Nat) : Char :=
  if value < 26 then Char.ofNat (65 + value)
  else if value < 52 then Char.ofNat (97 + (value - 26))
  else if value < 62 then Char.ofNat (48 + (value - 52))
  else if value = 62 then '+'
  else '/'

def sextetValue (char : Char) : Option Nat :=
  let code := char.toNat
  if 65 ≤ code ∧ code ≤ 90 then some (code - 65)
  else if 97 ≤ code ∧ code ≤ 122 then some (code - 97 + 26)
  else if 48 ≤ code ∧ code ≤ 57 then some (code - 48 + 52)
  else if char = '+' then some 62
  else if char = '/' then some 63
  else none

def encode : Bytes → Text
  | [] => []
  | [a] => [sextetChar (a.toNat / 4), sextetChar (a.toNat % 4 * 16), '=', '=']
  | [a, b] =>
    [sextetChar (a.toNat / 4), sextetChar (a.toNat % 4 * 16 + b.toNat / 16),
      sextetChar (b.toNat % 16 * 4), '=']
  | a :: b :: c :: rest =>
    sextetChar (a.toNat / 4) :: sextetChar (a.toNat % 4 * 16 + b.toNat / 16) ::
      sextetChar (b.toNat % 16 * 4 + c.toNat / 64) :: sextetChar (c.toNat % 64) :: encode rest

def decodeOne (w x : Char) : Option Bytes := do
  let high ← sextetValue w
  let low ← sextetValue x
  if low % 16 = 0 then some [UInt8.ofNat (high * 4 + low / 16)] else none

def decodeTwo (w x y : Char) : Option Bytes := do
  let first ← sextetValue w
  let second ← sextetValue x
  let third ← sextetValue y
  if third % 4 = 0 then
    some [UInt8.ofNat (first * 4 + second / 16), UInt8.ofNat (second % 16 * 16 + third / 4)]
  else none

def decodeThree (w x y z : Char) : Option Bytes := do
  let first ← sextetValue w
  let second ← sextetValue x
  let third ← sextetValue y
  let fourth ← sextetValue z
  some [UInt8.ofNat (first * 4 + second / 16), UInt8.ofNat (second % 16 * 16 + third / 4),
    UInt8.ofNat (third % 4 * 64 + fourth)]

def decode : Text → Option Bytes
  | [] => some []
  | w :: x :: y :: z :: rest =>
    -- Padding may only close the text.
    if rest = [] ∧ z = '=' then
      if y = '=' then decodeOne w x else decodeTwo w x y
    else do
      let group ← decodeThree w x y z
      let others ← decode rest
      some (group ++ others)
  | _ => none

theorem sextetValue_sextetChar {value : Nat} (small : value < 64) :
    sextetValue (sextetChar value) = some value := by
  have all : ∀ v : Fin 64, sextetValue (sextetChar v.val) = some v.val := by decide
  exact all ⟨value, small⟩

theorem sextetChar_ne_pad {value : Nat} (small : value < 64) : sextetChar value ≠ '=' := by
  have all : ∀ v : Fin 64, sextetChar v.val ≠ '=' := by decide
  exact all ⟨value, small⟩

@[simp] theorem decode_encode (data : Bytes) : decode (encode data) = some data := by
  induction data using encode.induct with
  | case1 => rfl
  | case2 a =>
    have bound := a.toNat_lt
    have high := sextetValue_sextetChar (show a.toNat / 4 < 64 by omega)
    have low := sextetValue_sextetChar (show a.toNat % 4 * 16 < 64 by omega)
    have whole : a.toNat / 4 * 4 + a.toNat % 4 * 16 / 16 = a.toNat := by omega
    have aligned : a.toNat % 4 * 16 % 16 = 0 := by omega
    simp only [encode, decode, decodeOne, high, low, whole, aligned, and_self, if_true,
      Option.bind_eq_bind, Option.bind_some, UInt8.ofNat_toNat]
  | case3 a b =>
    have boundA := a.toNat_lt
    have boundB := b.toNat_lt
    have first := sextetValue_sextetChar (show a.toNat / 4 < 64 by omega)
    have second := sextetValue_sextetChar (show a.toNat % 4 * 16 + b.toNat / 16 < 64 by omega)
    have third := sextetValue_sextetChar (show b.toNat % 16 * 4 < 64 by omega)
    have unpadded := sextetChar_ne_pad (show b.toNat % 16 * 4 < 64 by omega)
    have wholeA : a.toNat / 4 * 4 + (a.toNat % 4 * 16 + b.toNat / 16) / 16 = a.toNat := by omega
    have wholeB : (a.toNat % 4 * 16 + b.toNat / 16) % 16 * 16 + b.toNat % 16 * 4 / 4 = b.toNat := by
      omega
    have aligned : b.toNat % 16 * 4 % 4 = 0 := by omega
    simp only [encode, decode, decodeTwo, first, second, third, unpadded, wholeA, wholeB, aligned,
      and_self, if_true, if_false, Option.bind_eq_bind, Option.bind_some, UInt8.ofNat_toNat]
  | case4 a b c rest ih =>
    have boundA := a.toNat_lt
    have boundB := b.toNat_lt
    have boundC := c.toNat_lt
    have first := sextetValue_sextetChar (show a.toNat / 4 < 64 by omega)
    have second := sextetValue_sextetChar (show a.toNat % 4 * 16 + b.toNat / 16 < 64 by omega)
    have third := sextetValue_sextetChar (show b.toNat % 16 * 4 + c.toNat / 64 < 64 by omega)
    have fourth := sextetValue_sextetChar (show c.toNat % 64 < 64 by omega)
    have unpadded := sextetChar_ne_pad (show c.toNat % 64 < 64 by omega)
    have wholeA : a.toNat / 4 * 4 + (a.toNat % 4 * 16 + b.toNat / 16) / 16 = a.toNat := by omega
    have wholeB : (a.toNat % 4 * 16 + b.toNat / 16) % 16 * 16 +
        (b.toNat % 16 * 4 + c.toNat / 64) / 4 = b.toNat := by omega
    have wholeC : (b.toNat % 16 * 4 + c.toNat / 64) % 4 * 64 + c.toNat % 64 = c.toNat := by omega
    simp only [encode, decode, decodeThree, first, second, third, fourth, unpadded, wholeA, wholeB,
      wholeC, ih, and_false, if_false, Option.bind_eq_bind, Option.bind_some, UInt8.ofNat_toNat,
      List.cons_append, List.nil_append]

@[simp] theorem encode_eq_nil {data : Bytes} : encode data = [] ↔ data = [] := by
  -- Each nonempty group writes four characters.
  cases data using encode.fun_cases <;> simp [encode]

theorem encode_length (data : Bytes) : (encode data).length = (data.length + 2) / 3 * 4 := by
  induction data using encode.induct with
  | case1 => rfl
  | case2 a => simp [encode]
  | case3 a b => simp [encode]
  | case4 a b c rest ih =>
    simp only [encode, List.length_cons, ih]
    omega

end Base64

end Gvpn
