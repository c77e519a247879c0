import EditorSession.Text.Unmarked
import EditorSession.Text.Utf8

/-! Quoted text, as log records show strings and paths.

The text stands between double quotes. A backslash marks an escape: `\0 \t \r \n \\ \"`, a
hexadecimal code point for a character that leaves no mark, and for paths two hexadecimal
digits for a byte that belongs to no character. -/

namespace EditorSession
namespace Quoted

def hexDigit (n : Nat) : Char := Nat.digitChar n

def lowerHex (n : Nat) : List Char := Nat.toDigits 16 n

/-- Two upper-case hexadecimal digits. -/
def upperHexByte (b : UInt8) : List Char :=
  [(hexDigit (b.toNat / 16)).toUpper, (hexDigit (b.toNat % 16)).toUpper]

def char (c : Char) : List Char :=
  if c = '\x00' then ['\\', '0']
  else if c = '\t' then ['\\', 't']
  else if c = '\r' then ['\\', 'r']
  else if c = '\n' then ['\\', 'n']
  else if c = '\\' then ['\\', '\\']
  else if c = '"' then ['\\', '"']
  else if isUnmarked c then ['\\', 'u', '\x7b'] ++ lowerHex c.toNat ++ ['\x7d']
  else [c]

def chars (cs : List Char) : List Char := '"' :: cs.flatMap char ++ ['"']

def piece : Utf8.Piece → List Char
  | .char c => char c
  | .broken bs | .cut bs => bs.flatMap fun b => ['\\', 'x'] ++ upperHexByte b

end Quoted

/-- A string in quotes. -/
def quote (s : String) : String := String.ofList (Quoted.chars s.toList)

/-- A byte string in quotes; bytes that are not UTF-8 are written in hexadecimal. -/
def quoteBytes (bytes : List UInt8) : String :=
  String.ofList ('"' :: (Utf8.pieces bytes).flatMap Quoted.piece ++ ['"'])

end EditorSession
