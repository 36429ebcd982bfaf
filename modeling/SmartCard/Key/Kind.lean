/-!
# Kinds of keys

A key has a role in the secure channel (`KeyUsage`) and a cipher it is meant for (`KeyCipher`).
Static keys can be diversified for one card by a published scheme (`Diversification`); a key set
that holds static keys as they are has no scheme. -/

namespace SmartCard

/-- The role of a key. -/
inductive KeyUsage
  /-- Stands in for any role that has no key of its own. -/
  | master
  /-- Enciphers command data and makes the cryptograms. -/
  | enc
  | mac
  | kek
  | rmac
deriving DecidableEq, Repr

namespace KeyUsage

/-- All roles, in the order in which key sets list their keys. -/
def all : List KeyUsage := [master, enc, mac, kek, rmac]

@[simp] theorem mem_all (u : KeyUsage) : u ∈ all := by cases u <;> decide

/-- The byte that stands for the role in diversified blocks. -/
def id : KeyUsage → UInt8
  | master => 0
  | enc => 1
  | mac => 2
  | kek => 3
  | rmac => 4

def text : KeyUsage → String
  | master => "MASTER"
  | enc => "ENC"
  | mac => "MAC"
  | kek => "KEK"
  | rmac => "RMAC"

end KeyUsage

/-- The cipher a key is meant for. -/
inductive KeyCipher
  /-- Any cipher that its length fits. -/
  | generic
  | des
  | des3
  | aes
deriving DecidableEq, Repr

namespace KeyCipher

/-- Whether a secret of `length` bytes is a key of the cipher. -/
def accepts (cipher : KeyCipher) (length : Nat) : Bool :=
  match cipher with
  | generic => 0 < length && length % 8 == 0 && length ≤ 32
  | des => length == 8
  | des3 => length == 8 || length == 16 || length == 24
  | aes => length == 16

/-- The cipher of the key type byte that a card reports for a key slot, if the type is known. -/
def ofKeyType? (keyType : UInt8) : Option KeyCipher :=
  match keyType with
  | 0x80 | 0x81 | 0x82 => some des3
  | 0x83 | 0x84 => some des
  | 0x88 => some aes
  | _ => none

def text : KeyCipher → String
  | generic => "GENERIC"
  | des => "DES"
  | des3 => "DES3"
  | aes => "AES"

end KeyCipher

/-- A scheme by which static keys are made different for each card. -/
inductive Diversification
  | emv
  | visa2
deriving DecidableEq, Repr

namespace Diversification

def text : Diversification → String
  | emv => "emv"
  | visa2 => "visa2"

/-- The name of a scheme, or of there being none. -/
def textOf (scheme : Option Diversification) : String := scheme.elim "none" text

end Diversification

end SmartCard
