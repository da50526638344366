/-!
# Base 64

Bytes as text: every three bytes are four characters out of 64, and an equals sign stands for each
byte that the last three lack.
-/

namespace SocketGateway.Text.Base64

def alphabet : List Char :=
  "ABCDEFGHIJKLMNOPQRSTUVWXYZabcdefghijklmnopqrstuvwxyz0123456789+/".toList

def char (n : Nat) : Char := alphabet.getD (n % 64) 'A'

def chars : List UInt8 → List Char
  | [] => []
  | [a] => [char (a.toNat / 4), char (a.toNat % 4 * 16), '=', '=']
  | [a, b] =>
    [char (a.toNat / 4), char (a.toNat % 4 * 16 + b.toNat / 16), char (b.toNat % 16 * 4), '=']
  | a :: b :: c :: rest =>
    char (a.toNat / 4) :: char (a.toNat % 4 * 16 + b.toNat / 16) ::
      char (b.toNat % 16 * 4 + c.toNat / 64) :: char c.toNat :: chars rest

def encode (bytes : List UInt8) : String := String.ofList (chars bytes)

example : encode [0x4D, 0x61, 0x6E, 0x4D] = "TWFuTQ==" := by decide

end SocketGateway.Text.Base64
